import Mathlib.Data.List.TakeWhile
import Wiring.Proofs.Precedence
/-!
# Profile paths — where a profile's version of a configuration file lies

The profile goes in front of the last dot of the whole path (`profilePath_of_dot`).  Where the file's own name has a dot
that is the dot of its extension; else it is one of the directory, if that has a dot, and the version lies in another
directory (`Versioned`).
-/
namespace Wiring

theorem ne_dot_of_reverse {s : String} (h : '.' ∉ s.toList) : ∀ c ∈ s.toList.reverse, (c != '.') = true := fun _ hc =>
  bne_iff_ne.2 fun hdot => h (hdot ▸ List.mem_reverse.1 hc)

theorem exists_last_dot {s : String} (h : '.' ∈ s.toList) :
    ∃ stem ext : String, s = stem ++ "." ++ ext ∧ '.' ∉ ext.toList := by
  obtain ⟨pre, post, hsplit, hpre⟩ := List.eq_append_cons_of_mem (List.mem_reverse.2 h)
  refine ⟨String.ofList post.reverse, String.ofList pre.reverse, ?_, ?_⟩
  · rw [List.reverse_eq_iff] at hsplit
    apply String.toList_injective
    simp [hsplit]
  · simpa using hpre

theorem profilePath_of_dot {ext : String} (hext : '.' ∉ ext.toList) (stem profile : String) :
    profilePath (stem ++ "." ++ ext) profile = stem ++ "-" ++ profile ++ "." ++ ext := by
  have htail : ((stem ++ "." ++ ext).toList.reverse.takeWhile (· != '.')).reverse = ext.toList := by
    simp [List.takeWhile_append_of_pos (ne_dot_of_reverse hext)]
  have hdot : ".".length = 1 := rfl
  have hlength : (stem ++ "." ++ ext).length = stem.length + 1 + ext.length := by simp [hdot]
  have hstem : (stem ++ "." ++ ext).length - ext.toList.length - 1 = stem.toList.length := by
    rw [hlength, String.length_toList, String.length_toList]
    omega
  have hne : ext.toList.length ≠ (stem ++ "." ++ ext).length := by
    rw [hlength, String.length_toList]
    omega
  rw [profilePath, htail]
  dsimp only
  rw [if_neg hne, hstem]
  apply String.toList_injective
  simp

theorem profilePath_of_no_dot {path : String} (hpath : '.' ∉ path.toList) (profile : String) :
    profilePath path profile = path ++ "-" ++ profile := by
  rw [profilePath, List.takeWhile_eq_self_iff.2 (ne_dot_of_reverse hpath), List.reverse_reverse]
  dsimp only
  rw [if_pos String.length_toList]

/-- Where the version of a file for a profile lies, told by the file's directory and name: it has the profile in front
of the name's extension; for a name without dot at its end, or in front of the last dot of the directory.  So it lies in
the directory if and only if the name has a dot or the directory has none. -/
structure Versioned (dir name profile path : String) : Prop where
  extension : ∀ stem ext, name = stem ++ "." ++ ext → '.' ∉ ext.toList →
    path = dir ++ stem ++ "-" ++ profile ++ "." ++ ext
  plain : '.' ∉ name.toList → '.' ∉ dir.toList → path = dir ++ name ++ "-" ++ profile
  elsewhere : '.' ∉ name.toList → ∀ up down, dir = up ++ "." ++ down → '.' ∉ down.toList →
    path = up ++ "-" ++ profile ++ "." ++ down ++ name
  inside : (∃ version, '/' ∉ version.toList ∧ path = dir ++ version) ↔ '.' ∈ name.toList ∨ '.' ∉ dir.toList

theorem versioned_profilePath (dir : String) {name profile : String} (hname : '/' ∉ name.toList)
    (hprofile : '/' ∉ profile.toList) : Versioned dir name profile (profilePath (dir ++ name) profile) := by
  have hextension : ∀ stem ext, name = stem ++ "." ++ ext → '.' ∉ ext.toList →
      profilePath (dir ++ name) profile = dir ++ stem ++ "-" ++ profile ++ "." ++ ext := by
    rintro stem ext rfl hext
    rw [← profilePath_of_dot hext, String.append_assoc, String.append_assoc, String.append_assoc]
  have hplain : '.' ∉ name.toList → '.' ∉ dir.toList →
      profilePath (dir ++ name) profile = dir ++ name ++ "-" ++ profile := fun hn hd =>
    profilePath_of_no_dot (by simp [hn, hd]) profile
  have helsewhere : '.' ∉ name.toList → ∀ up down, dir = up ++ "." ++ down → '.' ∉ down.toList →
      profilePath (dir ++ name) profile = up ++ "-" ++ profile ++ "." ++ down ++ name := by
    rintro hn up down rfl hdown
    rw [String.append_assoc, profilePath_of_dot (by simp [hn, hdown]), ← String.append_assoc]
  refine ⟨hextension, hplain, helsewhere, fun ⟨version, _, hversion⟩ => ?_, fun h => ?_⟩
  · -- the profile goes into the directory, whose dot a path inside would have at this place
    by_contra hnot
    obtain ⟨hn, hd⟩ := not_or.1 hnot
    obtain ⟨up, down, rfl, hdown⟩ := exists_last_dot (not_not.1 hd)
    rw [helsewhere hn up down rfl hdown] at hversion
    have hchars := congrArg String.toList hversion
    simp at hchars
  · by_cases hn : '.' ∈ name.toList
    · obtain ⟨stem, ext, rfl, hext⟩ := exists_last_dot hn
      refine ⟨stem ++ "-" ++ profile ++ "." ++ ext, ?_, ?_⟩
      · simp at hname ⊢
        tauto
      · rw [hextension stem ext rfl hext]
        simp only [String.append_assoc]
    · refine ⟨name ++ "-" ++ profile, by simp [hname, hprofile], ?_⟩
      rw [hplain hn (h.resolve_left hn), String.append_assoc, String.append_assoc, String.append_assoc]

namespace Application

/-- **Where a profile's configuration lies**: for each configuration file, cut into a directory and a name, and each
profile at its place, the version of the file is read with the priority of that place. -/
theorem reads_versioned {a : Application} {dir name profile : String} {profiles : List String} {i : Nat}
    (hfile : dir ++ name ∈ a.configFiles) (hi : profiles[i]? = some profile) (hname : '/' ∉ name.toList)
    (hprofile : '/' ∉ profile.toList) :
    ∃ path, (path, 10 + (i : Int)) ∈ a.configPaths profiles ∧ Versioned dir name profile path :=
  ⟨_, mem_configPaths.2 (.inr ⟨_, hfile, i, profile, hi, rfl⟩), versioned_profilePath dir hname hprofile⟩

/-- A name with dot and one without in a directory with dot, and one in a directory without. -/
theorem reads_versioned_of_second_profile :
    let a : Application := { configFiles := ["conf.d/app.toml", "conf.d/app", "conf/app"] }
    ("conf.d/app-prod.toml", 11) ∈ a.configPaths ["dev", "prod"] ∧
      ("conf-prod.d/app", 11) ∈ a.configPaths ["dev", "prod"] ∧
        ("conf/app-prod", 11) ∈ a.configPaths ["dev", "prod"] := by
  intro a
  have hreads : ∀ dir name, dir ++ name ∈ a.configFiles → '/' ∉ name.toList →
      ∃ path, (path, 11) ∈ a.configPaths ["dev", "prod"] ∧ Versioned dir name "prod" path :=
    fun dir name hfile hname => reads_versioned (i := 1) hfile rfl hname (by decide)
  obtain ⟨first, hfirst, hextension⟩ := hreads "conf.d/" "app.toml" (by decide +kernel) (by decide)
  obtain ⟨second, hsecond, helsewhere⟩ := hreads "conf.d/" "app" (by decide +kernel) (by decide)
  obtain ⟨third, hthird, hplain⟩ := hreads "conf/" "app" (by decide +kernel) (by decide)
  rw [hextension.extension "app" "toml" rfl (by decide)] at hfirst
  rw [helsewhere.elsewhere (by decide) "conf" "d/" rfl (by decide)] at hsecond
  rw [hplain.plain (by decide) (by decide)] at hthird
  exact ⟨hfirst, hsecond, hthird⟩

/-- A version does not always lie in the directory of its file. -/
theorem not_versioned_inside :
    ¬∀ (a : Application) (dir name profile : String) (profiles : List String) (i : Nat),
      (dir = "" ∨ ∃ up, dir = up ++ "/") → name ≠ "" → '/' ∉ name.toList → '/' ∉ profile.toList →
        dir ++ name ∈ a.configFiles → profiles[i]? = some profile →
          ∃ path, (path, 10 + (i : Int)) ∈ a.configPaths profiles ∧
            (∀ stem ext, name = stem ++ "." ++ ext → '.' ∉ ext.toList →
              path = dir ++ stem ++ "-" ++ profile ++ "." ++ ext) ∧
            ('.' ∉ name.toList → path = dir ++ name ++ "-" ++ profile) := by
  intro hclaim
  obtain ⟨path, hpath, -, hplain⟩ := hclaim { configFiles := ["conf.d/app"] } "conf.d/" "app" "prod" ["prod"] 0
    (.inr ⟨"conf.d", rfl⟩) (by decide) (by decide) (by decide) (by decide +kernel) rfl
  rw [hplain (by decide)] at hpath
  exact absurd hpath (by decide +kernel)

end Application
end Wiring
