import Wiring.Proofs.Precedence
/-!
# Override — which files a process variable overrides

The source of the process variables has one fixed priority, a profile's files have one that grows with the profile's
place.  The variables come in last and go behind equals, so that they stand in front of the files of the first ninety
profiles and behind those of every further one (`sources_configured`).
-/
namespace Wiring
namespace Application

open Property (Environment Layer Source Value Variables)

variable {a : Application} {host : Host} {key v : String}

/-- The number of profiles whose files have a priority below that of the process variables. -/
def overridable : Nat := 90

/-- The profiles whose files are asked before the process variables. -/
def unoverridden (a : Application) (host : Host) : List String := (a.activeProfiles host.vars).drop overridable

theorem priority_of_ranked {n : Nat} {profiles : List String} {p : String × Int} (hp : p ∈ a.ranked n profiles) :
    10 + (n : Int) ≤ p.2 ∧ profiles ≠ [] := by
  obtain ⟨⟨profile, i⟩, hi, hp⟩ := List.mem_flatMap.1 hp
  obtain ⟨path, -, rfl⟩ := List.mem_map.1 hp
  have hi := List.mem_reverse.1 hi
  have hle : n ≤ i := List.le_snd_of_mem_zipIdx hi
  refine ⟨?_, List.ne_nil_of_mem (List.fst_mem_of_mem_zipIdx hi)⟩
  dsimp only
  omega

/-- **The process variables stand between the files of the further profiles and all other files.** -/
theorem sources_configured (a : Application) (host : Host) :
    (a.configured host).top.sources =
      (a.ranked ((a.activeProfiles host.vars).take overridable).length (a.unoverridden host)).filterMap
          (configSource? host) ++
        Source.ofVariables a.variableStart ::
          Source.inOrder ((a.configPaths ((a.activeProfiles host.vars).take overridable)).filterMap
            (configSource? host)) := by
  have hsplit := inOrder_configs_append a host ((a.activeProfiles host.vars).take overridable)
    ((a.activeProfiles host.vars).drop overridable)
  rw [List.take_append_drop] at hsplit
  rw [configured, environment_eq, sourcesOf_readConfigs, Layer.add, hsplit, unoverridden]
  refine Ranking.insert_between Source.before_iff (fun s hs => ?_) fun s hs => ?_
  · -- behind: a file without profile or of one of the first ninety
    obtain ⟨p, hp, hs⟩ := priority_of_mem (Source.mem_inOrder.1 hs)
    have hlt := priority_lt hp
    have hlength : ((a.activeProfiles host.vars).take overridable).length ≤ 90 := List.length_take_le _ _
    simp only [Source.ofVariables]
    omega
  · -- in front: if there is a further profile, then ninety are before it
    obtain ⟨p, hp, hs⟩ := priority_of_mem hs
    obtain ⟨hle, hne⟩ := priority_of_ranked hp
    have hlength : overridable < (a.activeProfiles host.vars).length := by
      rwa [Ne, List.drop_eq_nil_iff, Nat.not_le] at hne
    rw [List.length_take_of_le (Nat.le_of_lt hlength)] at hle
    simp only [Source.ofVariables, overridable] at hle ⊢
    omega

/-- A key whose variable is set is looked up in the files of the further profiles only. -/
theorem get?_configured (hv : host.vars.get? (a.variableStart ++ Variables.nameOf key) = some v) :
    (a.configured host).get? key =
      ((a.versions (a.unoverridden host)).findSome? (host.value? key)).or (some (.text v)) := by
  have hvars : (a.configured host).vars = host.vars := by rw [configured, environment_eq]
  have hbase : (a.configured host).layers = [(a.configured host).top] := by
    rw [configured, environment_eq]
    rfl
  have hvariable : (Source.ofVariables a.variableStart).get? host.vars key = some (.text v) :=
    congrArg (Option.map Value.text) hv
  rw [Environment.get?, hbase, hvars, List.findSome?_singleton, Layer.get?, sources_configured, List.findSome?_append,
    findSome?_configSource?, map_fst_ranked, List.findSome?_cons, hvariable]

/-- **Process variables override the files of up to ninety profiles**: a key whose variable is set has the value of the
first file of a further profile that defines the key, asked from the last profile on, else the variable's value; and a
run in which no inline value has the key answers the same. -/
theorem variables_override (hv : host.vars.get? (a.variableStart ++ Variables.nameOf key) = some v) :
    ((a.activeProfiles host.vars).length ≤ overridable → (a.configured host).get? key = some (.text v)) ∧
    ((∀ path ∈ a.versions (a.unoverridden host), host.value? key path = none) →
      (a.configured host).get? key = some (.text v)) ∧
    (∀ pre path post w, a.versions (a.unoverridden host) = pre ++ path :: post →
      (∀ other ∈ pre, host.value? key other = none) → host.value? key path = some w →
        (a.configured host).get? key = some w) ∧
    ∀ r, (a.launch host).result = .ok r → (∀ p ∈ a.blueprint.properties, p.1 ≠ key) →
      r.facts.environment.get? key = (a.configured host).get? key := by
  have hget := get?_configured hv
  have hnone : (∀ path ∈ a.versions (a.unoverridden host), host.value? key path = none) →
      (a.configured host).get? key = some (.text v) := fun h => by
    rw [hget, List.findSome?_eq_none_iff.2 h, Option.none_or]
  refine ⟨fun hlength => hnone ?_, hnone, fun pre path post w hsplit hpre hpath => ?_, fun r hr hother => ?_⟩
  · rw [unoverridden, List.drop_eq_nil_of_le hlength]
    exact List.forall_mem_nil _
  · rw [hget, List.findSome?_eq_some_iff.2 ⟨pre, path, post, hsplit, hpath, hpre⟩, Option.some_or]
  · obtain ⟨classes, henvironment⟩ := environment_of_launch hr
    rw [henvironment, get?_facts, Blueprint.get?_inlineSource_other hother, Option.none_or]

/-- Of ninety-one profiles the last two have files, and variables are set for the keys of both, whose dots and dashes are
underscores there: one file is overridden. -/
theorem variables_override_of_ninety_one_profiles :
    let a : Application :=
      { profiles := (List.range 91).map fun i => "p" ++ toString (i + 1), startsLog := false, registry := some {} }
    let tree : FileTree :=
      { root := [("application-p90.toml", .file "cache.max-age = \"file\""),
          ("application-p91.toml", .file "[server]\nmax-age = \"file\"")] }
    let host : Host :=
      { vars := [("APP_CACHE_MAX_AGE", "variable"), ("APP_SERVER_MAX_AGE", "variable")], files := tree.files }
    ∃ r, (a.launch host).result = .ok r ∧ r.facts.environment.plain? "cache.max-age" = some "variable" ∧
      r.facts.environment.plain? "server.max-age" = some "file" := by
  intro a tree host
  have hr : (a.launch host).result = .ok ⟨{}, [], a.facts (a.configured host) none⟩ := rfl
  have hversions : a.versions (a.unoverridden host) = ["application-p91.toml"] := by decide +kernel
  have hcache : host.value? "cache.max-age" "application-p91.toml" = none :=
    Option.isNone_iff_eq_none.1 (by decide +kernel)
  have hserver : (host.value? "server.max-age" "application-p91.toml").bind Value.plain? = some "file" := by
    decide +kernel
  obtain ⟨w, hw, hplain⟩ := Option.bind_eq_some_iff.1 hserver
  have hset : host.vars.get? (a.variableStart ++ Variables.nameOf "cache.max-age") = some "variable" := by
    decide +kernel
  have hset' : host.vars.get? (a.variableStart ++ Variables.nameOf "server.max-age") = some "variable" := by
    decide +kernel
  obtain ⟨-, hunset, -, hrun⟩ := variables_override hset
  obtain ⟨-, -, hfile, hrun'⟩ := variables_override hset'
  have hnone : ∀ path ∈ a.versions (a.unoverridden host), host.value? "cache.max-age" path = none := by
    rw [hversions]
    exact List.forall_mem_singleton.2 hcache
  have hinline : ∀ key, ∀ p ∈ a.blueprint.properties, p.1 ≠ key := fun _ => List.forall_mem_nil _
  refine ⟨_, hr, ?_, ?_⟩
  · rw [Environment.plain?, hrun _ hr (hinline _), hunset hnone]
    rfl
  · rw [Environment.plain?, hrun' _ hr (hinline _), hfile [] _ [] w hversions (List.forall_mem_nil _) hw,
      Option.bind_some, hplain]

/-- A variable does not override the file of a ninety-first profile. -/
theorem not_overridden_by_variable :
    ¬∀ (a : Application) (host : Host) (key v : String),
      host.vars.get? (a.variableStart ++ Variables.nameOf key) = some v →
        (a.configured host).get? key = some (.text v) := by
  intro hclaim
  let a : Application := { profiles := (List.range 91).map fun i => "p" ++ toString (i + 1) }
  let tree : FileTree := { root := [("application-p91.toml", .file "k = \"file\"")] }
  let host : Host := { vars := [("APP_K", "variable")], files := tree.files }
  have hset : host.vars.get? (a.variableStart ++ Variables.nameOf "k") = some "variable" := by decide +kernel
  have hversions : a.versions (a.unoverridden host) = ["application-p91.toml"] := by decide +kernel
  have hfile : (host.value? "k" "application-p91.toml").bind Value.plain? = some "file" := by decide +kernel
  obtain ⟨w, hw, hplain⟩ := Option.bind_eq_some_iff.1 hfile
  have hget := hclaim a host "k" "variable" hset
  rw [get?_configured hset, hversions, List.findSome?_singleton, hw, Option.some_or] at hget
  rw [Option.some.inj hget] at hplain
  exact absurd hplain (by decide)

end Application
end Wiring
