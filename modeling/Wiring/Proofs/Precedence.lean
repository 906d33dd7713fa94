import Mathlib.Data.List.Induction
import Wiring.Application
import Wiring.Proofs.Property.Layers
import Wiring.Proofs.Run.Steps
import Wiring.Proofs.Text.Items
/-!
# Precedence — which configuration file decides a property

The files' sources go into one layer, ordered by priorities that are counted from the profiles, which are set in code or
written in a process variable (`activates_iff`).  Each profile's block of files goes in front of all that were read before
it (`inOrder_configs_append`), so the files are asked in the order of `consulted` (`findSome?_inOrder_configs`), and a
file that is of no use is as good as none (`launch_of_documents`).  What paths lead to and how documents are read is the
host's: nothing is said of either.
-/
namespace Wiring

open Property (Environment Layer Source Value Variables lastOf? leaves)

/-- The document of a file that can be read and is well formed. -/
def Host.document? (host : Host) (path : String) : Option Toml.Value :=
  (host.files.read path).toOption.bind fun content => (host.toml.value content).toOption

/-- The value of a key that the file at a path defines. -/
def Host.value? (host : Host) (key path : String) : Option Value :=
  (host.document? path).bind fun document => lastOf? (leaves host.toml.moment document) key

namespace Application

variable {a : Application} {host : Host}

/-- Which profiles are active: those set in code, if there are any, else those that the process variable writes, which
are none when it is not set. -/
inductive Activates (a : Application) (vars : Variables) : List String → Prop
  | inCode : a.profiles ≠ [] → Activates a vars a.profiles
  | inVariable {text : String} {profiles : List String} : a.profiles = [] →
      vars.get? (a.variableStart ++ "PROFILES_ACTIVE") = some text → Text.Writes text profiles →
      (∀ profile ∈ profiles, Text.IsItem profile) → Activates a vars profiles
  | nowhere : a.profiles = [] → vars.get? (a.variableStart ++ "PROFILES_ACTIVE") = none → Activates a vars []

theorem activates_iff {vars : Variables} {profiles : List String} :
    a.Activates vars profiles ↔ profiles = a.activeProfiles vars := by
  constructor
  · rintro (hcode | ⟨hcode, hvar, hwrites, hitems⟩ | ⟨hcode, hvar⟩)
    · simp [activeProfiles, hcode]
    · rw [Text.activeProfiles_eq_items hcode hvar, Text.items_of_writes hitems hwrites]
    · simp [activeProfiles, hcode, hvar]
  · rintro rfl
    by_cases hcode : a.profiles = []
    · cases hvar : vars.get? (a.variableStart ++ "PROFILES_ACTIVE") with
      | none =>
        have hnone : a.activeProfiles vars = [] := by simp [activeProfiles, hcode, hvar]
        exact hnone ▸ .nowhere hcode hvar
      | some text =>
        rw [Text.activeProfiles_eq_items hcode hvar]
        exact .inVariable hcode hvar (Text.writes_items text) fun _ => Text.isItem_of_mem_items
    · have hset : a.activeProfiles vars = a.profiles := by simp [activeProfiles, hcode]
      exact hset ▸ .inCode hcode

/-- The files in the order in which they are asked: for the profiles from the last to the first the profile's versions
of the configuration files, then the files themselves. -/
def consulted (a : Application) (profiles : List String) : List String :=
  (profiles.reverse.flatMap fun profile => a.configFiles.map (profilePath · profile)) ++ a.configFiles

/-- The versions of the configuration files for profiles, those of the last profile first. -/
def versions (a : Application) (profiles : List String) : List String :=
  profiles.reverse.flatMap fun profile => a.configFiles.map (profilePath · profile)

/-- The same with their priorities, when so many profiles come before these. -/
def ranked (a : Application) (n : Nat) (profiles : List String) : List (String × Int) :=
  (profiles.zipIdx n).reverse.flatMap fun (profile, i) =>
    a.configFiles.map fun path => (profilePath path profile, 10 + (i : Int))

/-- The source that a file gives. -/
def configSource? (host : Host) (p : String × Int) : Option Source :=
  (host.document? p.1).map fun document => ⟨p.1, p.2, .settings (leaves host.toml.moment document)⟩

theorem toOption_readConfig (host : Host) (path : String) (priority : Int) :
    (readConfig host path priority).toOption = configSource? host (path, priority) := by
  simp only [readConfig, configSource?, Host.document?, Source.ofToml]
  cases hread : host.files.read path with
  | error fault => rfl
  | ok content =>
    cases hdocument : host.toml.value content with
    | error fault => simp [Except.toOption, hdocument]
    | ok document => simp [Except.toOption, hdocument]

/-- A file that is not there has no document. -/
theorem configSource?_of_absent {p : String × Int} (h : host.files.has p.1 = false) : configSource? host p = none := by
  have hread : (host.files.read p.1).toOption = none := by
    rw [Files.has, Option.isSome_eq_false_iff, Option.isNone_iff_eq_none] at h
    rw [Files.read]
    cases hfind : host.files.find p.1 with
    | error fault => rfl
    | ok node =>
      rw [hfind] at h
      cases h
  rw [configSource?, Host.document?, hread, Option.bind_none, Option.map_none]

theorem sourcesOf_readConfigs (a : Application) (host : Host) (profiles : List String) :
    sourcesOf (a.readConfigs host profiles) = (a.configPaths profiles).filterMap (configSource? host) := by
  rw [sourcesOf, readConfigs, List.filterMap_map, List.filterMap_filter]
  refine List.filterMap_congr fun p _ => ?_
  cases hhas : host.files.has p.1 with
  | false => exact (configSource?_of_absent hhas).symm
  | true => exact toOption_readConfig host p.1 p.2

section Order

variable {vars : Variables} {key : String}

theorem get?_configSource? (p : String × Int) :
    (configSource? host p).bind (·.get? vars key) = host.value? key p.1 := by
  rw [configSource?, Option.bind_map]
  rfl

theorem findSome?_configSource? (paths : List (String × Int)) :
    (paths.filterMap (configSource? host)).findSome? (·.get? vars key) =
      (paths.map Prod.fst).findSome? (host.value? key) := by
  rw [← List.head?_filterMap, List.filterMap_filterMap, List.head?_filterMap, List.findSome?_map]
  exact congrArg (paths.findSome? ·) (funext get?_configSource?)

theorem priority_of_mem {paths : List (String × Int)} {s : Source} (hs : s ∈ paths.filterMap (configSource? host)) :
    ∃ p ∈ paths, s.priority = p.2 := by
  obtain ⟨p, hp, hs⟩ := List.mem_filterMap.1 hs
  obtain ⟨document, -, rfl⟩ := Option.map_eq_some_iff.1 hs
  exact ⟨p, hp, rfl⟩

/-- All files of a block have one priority. -/
theorem priority_of_block (a : Application) (host : Host) (version : String → String) (k : Int) :
    ∀ s ∈ (a.configFiles.map fun path => (version path, k)).filterMap (configSource? host), s.priority = k := by
  intro s hs
  obtain ⟨p, hp, hs⟩ := priority_of_mem hs
  obtain ⟨path, -, rfl⟩ := List.mem_map.1 hp
  exact hs

/-- What is read: the files themselves, and each profile's version of each file, with a priority by the profile's place.
-/
theorem mem_configPaths {profiles : List String} {p : String × Int} :
    p ∈ a.configPaths profiles ↔ (∃ path ∈ a.configFiles, (path, 0) = p) ∨
      ∃ path ∈ a.configFiles, ∃ (i : Nat) (profile : String), profiles[i]? = some profile ∧
        (profilePath path profile, 10 + (i : Int)) = p := by
  rw [configPaths, List.mem_append, List.mem_map]
  refine or_congr Iff.rfl ⟨fun hp => ?_, fun ⟨path, hpath, i, profile, hi, hp⟩ => ?_⟩
  · obtain ⟨⟨profile, i⟩, hi, hp⟩ := List.mem_flatMap.1 hp
    obtain ⟨path, hpath, hp⟩ := List.mem_map.1 hp
    exact ⟨path, hpath, i, profile, List.mem_zipIdx_iff_getElem?.1 hi, hp⟩
  · exact List.mem_flatMap.2 ⟨(profile, i), List.mem_zipIdx_iff_getElem?.2 hi, List.mem_map.2 ⟨path, hpath, hp⟩⟩

/-- One more profile comes with a greater priority than all that were there. -/
theorem configPaths_append (a : Application) (profiles : List String) (profile : String) :
    a.configPaths (profiles ++ [profile]) = a.configPaths profiles ++
      a.configFiles.map fun path => (profilePath path profile, 10 + (profiles.length : Int)) := by
  simp [configPaths, List.zipIdx_append]

theorem priority_lt {profiles : List String} {p : String × Int} (hp : p ∈ a.configPaths profiles) :
    p.2 < 10 + (profiles.length : Int) := by
  rcases mem_configPaths.1 hp with ⟨path, -, rfl⟩ | ⟨path, -, i, profile, hi, rfl⟩
  · dsimp only
    omega
  · have hlt : i < profiles.length := (List.getElem?_eq_some_iff.1 hi).1
    dsimp only
    omega

theorem nonneg_priority {profiles : List String} {p : String × Int} (hp : p ∈ a.configPaths profiles) : 0 ≤ p.2 := by
  rcases mem_configPaths.1 hp with ⟨path, -, rfl⟩ | ⟨path, -, i, profile, -, rfl⟩
  · exact Int.le_refl 0
  · dsimp only
    omega

theorem ranked_append (a : Application) (n : Nat) (profiles : List String) (profile : String) :
    a.ranked n (profiles ++ [profile]) =
      (a.configFiles.map fun path => (profilePath path profile, 10 + ((n + profiles.length : Nat) : Int))) ++
        a.ranked n profiles := by
  simp [ranked, List.zipIdx_append]

theorem map_fst_ranked (a : Application) (n : Nat) (profiles : List String) :
    (a.ranked n profiles).map Prod.fst = a.versions profiles := by
  induction profiles using List.reverseRecOn with
  | nil => rfl
  | append_singleton profiles profile ih =>
    rw [ranked_append, List.map_append, ih, List.map_map, versions, versions, List.reverse_append,
      List.reverse_singleton, List.flatMap_append, List.flatMap_singleton]
    rfl

/-- Sources of one priority that is greater than that of all before them go, as they stand, in front of these. -/
theorem inOrder_append_block {k : Int} {sources block : List Source} (hsources : ∀ s ∈ sources, s.priority < k)
    (hblock : ∀ s ∈ block, s.priority = k) : Source.inOrder (sources ++ block) = block ++ Source.inOrder sources := by
  rw [Source.inOrder, Ranking.sorted, List.foldl_append, ← Ranking.sorted, ← Source.inOrder]
  have hbehind : ∀ s ∈ Source.inOrder sources, -k < -s.priority := fun s hs =>
    Int.neg_lt_neg (hsources s (Source.mem_inOrder.1 hs))
  have hfront := Ranking.foldl_insert_block Source.before_iff hbehind (fun s hs => congrArg Int.neg (hblock s hs))
    (List.forall_mem_nil _)
  exact hfront

/-- The files of profiles that come last are asked first, profile by profile. -/
theorem inOrder_configs_append (a : Application) (host : Host) (first rest : List String) :
    Source.inOrder ((a.configPaths (first ++ rest)).filterMap (configSource? host)) =
      (a.ranked first.length rest).filterMap (configSource? host) ++
        Source.inOrder ((a.configPaths first).filterMap (configSource? host)) := by
  induction rest using List.reverseRecOn with
  | nil => rw [List.append_nil, ranked, List.zipIdx_nil, List.reverse_nil, List.flatMap_nil, List.filterMap_nil,
      List.nil_append]
  | append_singleton rest profile ih =>
    have hless : ∀ s ∈ (a.configPaths (first ++ rest)).filterMap (configSource? host),
        s.priority < 10 + ((first ++ rest).length : Int) := fun s hs => by
      obtain ⟨p, hp, hs⟩ := priority_of_mem hs
      rw [hs]
      exact priority_lt hp
    have hblock := priority_of_block a host (profilePath · profile)
      (10 + ((first ++ rest).length : Int))
    rw [← List.append_assoc, configPaths_append, List.filterMap_append, inOrder_append_block hless hblock, ih,
      ranked_append, List.filterMap_append, List.append_assoc, List.length_append]

/-- **Sorted by priority, the sources answer in the order in which the files are asked.** -/
theorem findSome?_inOrder_configs (a : Application) (host : Host) (vars : Variables) (key : String)
    (profiles : List String) :
    (Source.inOrder ((a.configPaths profiles).filterMap (configSource? host))).findSome? (·.get? vars key) =
      (a.consulted profiles).findSome? (host.value? key) := by
  have hbase := inOrder_append_block (List.forall_mem_nil _)
    (priority_of_block a host (fun path => path) 0)
  have hnil : Source.inOrder [] = [] := rfl
  rw [List.nil_append, hnil, List.append_nil] at hbase
  have hpaths : a.configPaths [] = a.configFiles.map fun path => (path, 0) := by
    rw [configPaths, List.zipIdx_nil, List.flatMap_nil, List.append_nil]
  have hfiles : a.configFiles.map (Prod.fst ∘ fun path => (path, (0 : Int))) = a.configFiles := List.map_id _
  have hsplit := inOrder_configs_append a host [] profiles
  rw [List.nil_append, hpaths, hbase] at hsplit
  rw [hsplit, List.findSome?_append, findSome?_configSource?, findSome?_configSource?, map_fst_ranked, List.map_map,
    hfiles, consulted, ← versions, List.findSome?_append]

theorem foldl_add (vars : Variables) (sources : List Source) :
    sources.foldl Environment.add { vars } = { vars, top := { sources := Source.inOrder sources } } := by
  induction sources using List.reverseRecOn with
  | nil => rfl
  | append_singleton sources s ih =>
    rw [List.foldl_append, ih, List.foldl_cons, List.foldl_nil, Environment.add]
    exact congrArg (fun top => ({ vars, top } : Environment)) (Source.add_inOrder sources [] s)

/-- There is one layer, and the process variables come into it last. -/
theorem environment_eq (a : Application) (vars : Variables) (sources : List Source) (profiles : List String) :
    a.environment vars sources profiles =
      { vars, top := Layer.add ⟨Source.inOrder sources, profiles⟩ (.ofVariables a.variableStart) } := by
  rw [environment, foldl_add]
  rfl

/-- A key whose variable is not set is looked up in the files. -/
theorem get?_environment (a : Application) (host : Host) (profiles : List String)
    (hkey : vars.get? (a.variableStart ++ Variables.nameOf key) = none) :
    (a.environment vars (sourcesOf (a.readConfigs host profiles)) profiles).get? key =
      (a.consulted profiles).findSome? (host.value? key) := by
  have hvariable : (Source.ofVariables a.variableStart).get? vars key = none := congrArg (Option.map Value.text) hkey
  rw [environment_eq, sourcesOf_readConfigs, ← findSome?_inOrder_configs a host vars]
  exact List.findSome?_singleton.trans (Source.get?_add_of_none hvariable _)

end Order

/-- The environment that the configuration files and the process variables make. -/
def configured (a : Application) (host : Host) : Environment :=
  a.environment host.vars (sourcesOf (a.readConfigs host (a.activeProfiles host.vars))) (a.activeProfiles host.vars)

/-- What an environment answers for a key: the last inline value, else the value in the first of the files consulted for
the profiles that defines the key, else none. -/
structure Sees (a : Application) (host : Host) (profiles : List String) (key : String) (e : Environment) : Prop where
  inline : ∀ pre v post, a.blueprint.properties = pre ++ (key, v) :: post → (∀ p ∈ post, p.1 ≠ key) →
    e.get? key = some (.text v)
  file : (∀ p ∈ a.blueprint.properties, p.1 ≠ key) → ∀ v, e.get? key = some v ↔
    ∃ pre path post, a.consulted profiles = pre ++ path :: post ∧
      host.value? key path = some v ∧ ∀ other ∈ pre, host.value? key other = none
  unset : (∀ p ∈ a.blueprint.properties, p.1 ≠ key) → (e.get? key = none ↔
    ∀ path ∈ a.consulted profiles, host.value? key path = none)

/-- The facts answer from the inline values, then from the environment. -/
theorem get?_facts (a : Application) (host : Host) (classes : Option (String → Bool)) (key : String) :
    (a.facts (a.configured host) classes).environment.get? key =
      (a.blueprint.inlineSource.get? host.vars key).or ((a.configured host).get? key) := by
  rw [facts, Blueprint.build, Blueprint.get?_builtEnvironment, Option.getD_some, configured, environment_eq]
  rfl

theorem sees_facts (a : Application) (host : Host) (classes : Option (String → Bool)) {key : String}
    (hkey : host.vars.get? (a.variableStart ++ Variables.nameOf key) = none) :
    a.Sees host (a.activeProfiles host.vars) key (a.facts (a.configured host) classes).environment := by
  have hget := a.get?_facts host classes key
  rw [configured, get?_environment a host _ hkey, ← configured] at hget
  refine ⟨fun pre v post hlast hpost => ?_, fun hother v => ?_, fun hother => ?_⟩
  · rw [hget, Blueprint.get?_inlineSource_last hlast hpost, Option.some_or]
  · rw [hget, Blueprint.get?_inlineSource_other hother, Option.none_or, List.findSome?_eq_some_iff]
  · rw [hget, Blueprint.get?_inlineSource_other hother, Option.none_or, List.findSome?_eq_none_iff]

/-- What an environment leads to: the log is started, candidates are gathered, and they are looked at by the facts that
stand on it. -/
def outcome (a : Application) (host : Host) (e : Environment) : Except Failure Resolution := do
  a.startLog host e
  let (registry, classes) ← (a.supply host).result
  let f := a.facts e classes
  (resolve (Settings.ofEnvironment f.environment) f registry).result.mapError fun fault =>
    ⟨some ("Condition resolution failed for " ++ a.name), fault⟩

theorem launchRun_result (a : Application) (host : Host) (f : Facts) (registry : Registry) :
    (a.launchRun host f registry).result =
      (resolve (Settings.ofEnvironment f.environment) f registry).result.mapError fun fault =>
        ⟨some ("Condition resolution failed for " ++ a.name), fault⟩ := by
  unfold launchRun
  dsimp only
  cases (resolve (Settings.ofEnvironment f.environment) f registry).result with
  | error fault => rfl
  | ok r => rfl

/-- No fault of a configuration file is among the results. -/
theorem launch_result (a : Application) (host : Host) :
    (a.launch host).result = a.outcome host (a.configured host) := by
  unfold launch outcome
  dsimp only [Launch.after]
  rw [← configured]
  cases a.startLog host (a.configured host) with
  | error failure => rfl
  | ok started =>
    cases (a.supply host).result with
    | error failure => rfl
    | ok supplied => exact a.launchRun_result host _ _

/-- The environment of a finished run is the one that it was started with: a run registers beans only. -/
theorem environment_of_launch {a : Application} {host : Host} {r : Resolution}
    (hr : (a.launch host).result = .ok r) :
    ∃ classes, r.facts.environment = (a.facts (a.configured host) classes).environment := by
  rw [launch_result] at hr
  obtain ⟨started, -, hr⟩ := bind_eq_ok_iff.1 hr
  obtain ⟨⟨registry, classes⟩, -, hr⟩ := bind_eq_ok_iff.1 hr
  obtain ⟨ps, -, -, rfl⟩ := resolve_eq_ok_iff.1 (mapError_eq_ok_iff.1 hr)
  refine ⟨classes, ?_⟩
  rw [Resolution.addAll_facts]
  rfl

/-! ### Files of no use -/

theorem mem_consulted {profiles : List String} {p : String × Int} (hp : p ∈ a.configPaths profiles) :
    p.1 ∈ a.consulted profiles := by
  rcases mem_configPaths.1 hp with ⟨path, hpath, rfl⟩ | ⟨path, hpath, i, profile, hi, rfl⟩
  · exact List.mem_append_right _ hpath
  · have hprofile : profile ∈ profiles := List.mem_of_getElem? hi
    exact List.mem_append_left _
      (List.mem_flatMap.2 ⟨profile, List.mem_reverse.2 hprofile, List.mem_map.2 ⟨path, hpath, rfl⟩⟩)

section Useless

variable {files : Files}

theorem configured_congr (h : ∀ path ∈ a.consulted (a.activeProfiles host.vars),
    Host.document? { host with files } path = host.document? path) :
    a.configured { host with files } = a.configured host := by
  have hsources : sourcesOf (a.readConfigs { host with files } (a.activeProfiles host.vars)) =
      sourcesOf (a.readConfigs host (a.activeProfiles host.vars)) := by
    rw [sourcesOf_readConfigs, sourcesOf_readConfigs]
    refine List.filterMap_congr fun p hp => ?_
    rw [configSource?, configSource?, h p.1 (mem_consulted hp)]
  simp only [configured, hsources]

theorem supply_congr (h : ∀ path, a.registry = none → a.manifest = some path →
    files.read path = host.files.read path) : a.supply { host with files } = a.supply host := by
  unfold supply
  cases hregistry : a.registry with
  | some registry => rfl
  | none =>
    cases hmanifest : a.manifest with
    | none => rfl
    | some path =>
      dsimp only [ofManifest, readManifest]
      rw [h path hregistry hmanifest]

/-- **A file of no use is as good as none**: a launch comes to the same wherever the consulted files have the same
documents. -/
theorem launch_of_documents
    (hconfig : ∀ path ∈ a.consulted (a.activeProfiles host.vars),
      Host.document? { host with files } path = host.document? path)
    (hmanifest : ∀ path, a.registry = none → a.manifest = some path → files.read path = host.files.read path) :
    (a.launch { host with files }).result = (a.launch host).result := by
  rw [launch_result, launch_result, configured_congr hconfig]
  unfold outcome
  rw [supply_congr hmanifest]
  rfl

end Useless

/-- No priority leaves the range of 32 bits while there are not too many profiles for that. -/
theorem priority_configured (hcount : (a.activeProfiles host.vars).length < 2147483638) {s : Source}
    (hs : s ∈ (a.configured host).top.sources) : 0 ≤ s.priority ∧ s.priority < 2147483648 := by
  rw [configured, environment_eq, sourcesOf_readConfigs, Layer.mem_add] at hs
  rcases hs with rfl | hs
  · simp [Source.ofVariables]
  · obtain ⟨p, hp, hs⟩ := priority_of_mem (Source.mem_inOrder.1 hs)
    have hle := nonneg_priority hp
    have hlt := priority_lt hp
    omega

/-- **Configuration precedence**: with the profiles that are active, those set in code or else written in the process
variable, a launch comes to what the environment made of the files leads to, so that no file stops it; the facts of its
resolution answer, for a key whose variable is not set, the last inline value, else the value in the first consulted file
that defines it; and files without a document might as well not be there.  Whatever finds the files and reads their
documents is the host's. -/
theorem launch_precedence (a : Application) (host : Host) : ∃ profiles : List String,
    (∀ other, a.Activates host.vars other ↔ other = profiles) ∧
    (profiles.length < 2147483638 →
      (∀ s ∈ (a.configured host).top.sources, 0 ≤ s.priority ∧ s.priority < 2147483648) ∧
      (a.launch host).result = a.outcome host (a.configured host) ∧
      (∀ key, host.vars.get? (a.variableStart ++ Variables.nameOf key) = none →
        (∀ classes, a.Sees host profiles key (a.facts (a.configured host) classes).environment) ∧
        ∀ r, (a.launch host).result = .ok r → a.Sees host profiles key r.facts.environment) ∧
      ∀ files : Files,
        (∀ path ∈ a.consulted profiles, Host.document? { host with files } path = host.document? path) →
        (∀ path, a.registry = none → a.manifest = some path → files.read path = host.files.read path) →
          (a.launch { host with files }).result = (a.launch host).result) := by
  refine ⟨a.activeProfiles host.vars, fun other => activates_iff, fun hcount => ⟨fun s hs => priority_configured hcount hs,
    a.launch_result host, fun key hkey => ⟨fun classes => a.sees_facts host classes hkey, fun r hr => ?_⟩,
    fun files => launch_of_documents⟩⟩
  obtain ⟨classes, henvironment⟩ := environment_of_launch hr
  rw [henvironment]
  exact a.sees_facts host classes hkey

/-- One file is found from the root and by way of the directory above; of the others one is no document, one cannot be
read and most are missing.  The profiles are set in code or written in the variable, there in the other order. -/
theorem launch_precedence_of_two_profiles :
    let a : Application :=
      { configFiles := ["a.toml", "/etc/b.toml", "../etc/b.toml"], variableStart := "RUN_", startsLog := false,
        registry := some {}, blueprint := { properties := [("x", "1"), ("x", "2")] } }
    let tree : FileTree :=
      { root := [("etc", .directory [("b.toml", .file "m = 2"), ("b-p.toml", .file "k = 2"),
            ("b-q.toml", .file "k = 3")]),
          ("run", .directory [("a.toml", .file "k = 1\nm = 1"), ("a-p.toml", .file "k ="),
            ("a-q.toml", .sealed "not text")])],
        directory := ["run"] }
    let host : Host := { files := tree.files }
    let host' : Host := { host with vars := [("RUN_PROFILES_ACTIVE", " q,, p ")] }
    (∃ r, ({ a with profiles := ["p", "q"] }.launch host).result = .ok r ∧
      r.facts.environment.plain? "x" = some "2" ∧ r.facts.environment.plain? "k" = some "3" ∧
        r.facts.environment.plain? "m" = some "1" ∧ r.facts.environment.plain? "z" = none) ∧
    ∃ r, (a.launch host').result = .ok r ∧ r.facts.environment.plain? "k" = some "2" := by
  intro a tree host host'
  have hnone : ∀ (key : String) (paths : List String),
      (paths.all fun path => (host.value? key path).isNone) = true → ∀ path ∈ paths, host.value? key path = none :=
    fun key paths h path hpath => Option.isNone_iff_eq_none.1 (List.all_eq_true.1 h path hpath)
  have hsome : ∀ key path text, (host.value? key path).bind Value.plain? = some text →
      ∃ v, host.value? key path = some v ∧ v.plain? = some text := fun _ _ _ => Option.bind_eq_some_iff.1
  constructor
  · let coded : Application := { a with profiles := ["p", "q"] }
    obtain ⟨profiles, hprofiles, hlaunch⟩ := launch_precedence coded host
    obtain rfl := (hprofiles ["p", "q"]).1 (.inCode (by decide))
    obtain ⟨-, hresult, hsees, -⟩ := hlaunch (by decide)
    have hr : (coded.launch host).result = .ok ⟨{}, [], coded.facts (coded.configured host) none⟩ := hresult
    have hsees := fun key => (hsees key rfl).2 _ hr
    obtain ⟨k, hk, hplain⟩ := hsome "k" "/etc/b-q.toml" "3" (by decide +kernel)
    obtain ⟨m, hm, hplain'⟩ := hsome "m" "a.toml" "1" (by decide +kernel)
    have hx := (hsees "x").inline [("x", "1")] "2" [] rfl (by simp)
    have hk := ((hsees "k").file (by decide) k).2 ⟨["a-q.toml"], "/etc/b-q.toml", ["../etc/b-q.toml", "a-p.toml",
      "/etc/b-p.toml", "../etc/b-p.toml", "a.toml", "/etc/b.toml", "../etc/b.toml"], by decide +kernel, hk,
      hnone _ _ (by decide +kernel)⟩
    have hm := ((hsees "m").file (by decide) m).2 ⟨["a-q.toml", "/etc/b-q.toml", "../etc/b-q.toml", "a-p.toml",
      "/etc/b-p.toml", "../etc/b-p.toml"], "a.toml", ["/etc/b.toml", "../etc/b.toml"], by decide +kernel, hm,
      hnone _ _ (by decide +kernel)⟩
    have hz := ((hsees "z").unset (by decide)).2 (hnone _ _ (by decide +kernel))
    refine ⟨_, hr, ?_, ?_, ?_, ?_⟩
    · rw [Environment.plain?, hx]
      rfl
    · rw [Environment.plain?, hk, Option.bind_some, hplain]
    · rw [Environment.plain?, hm, Option.bind_some, hplain']
    · rw [Environment.plain?, hz, Option.bind_none]
  · obtain ⟨profiles, hprofiles, hlaunch⟩ := launch_precedence a host'
    have hwrites : Text.Writes " q,, p " ["q", "p"] :=
      ⟨[" q".toList, [], " p ".toList], .item [' '] "q" [] (by decide) (by decide) (.blank (by decide)
        (.item [' '] "p" [' '] (by decide) (by decide) .nil)), by decide +kernel⟩
    obtain rfl := (hprofiles ["q", "p"]).1 (.inVariable rfl rfl hwrites (by decide))
    obtain ⟨-, hresult, hsees, -⟩ := hlaunch (by decide)
    have hr : (a.launch host').result = .ok ⟨{}, [], a.facts (a.configured host') none⟩ := hresult
    obtain ⟨k, hk, hplain⟩ := hsome "k" "/etc/b-p.toml" "2" (by decide +kernel)
    have hunset : host'.vars.get? (a.variableStart ++ Variables.nameOf "k") = none := by decide +kernel
    have hk := (((hsees "k" hunset).2 _ hr).file (by decide) k).2 ⟨["a-p.toml"], "/etc/b-p.toml", ["../etc/b-p.toml",
      "a-q.toml", "/etc/b-q.toml", "../etc/b-q.toml", "a.toml", "/etc/b.toml", "../etc/b.toml"], by decide +kernel, hk,
      hnone _ _ (by decide +kernel)⟩
    refine ⟨_, hr, ?_⟩
    rw [Environment.plain?, hk, Option.bind_some, hplain]

end Application
end Wiring
