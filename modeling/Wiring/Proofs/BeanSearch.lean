import Mathlib.Data.List.Sort
import Wiring.Condition
import Wiring.Proofs.Hierarchy.Reachability
import Wiring.Proofs.Results
/-!
# BeanSearch — which beans a search finds along a chain of contexts

`Finds` says it context by context: the scope takes in some of the chain, and a registration there is found by its
name or because links of its own context lead from one of its types to one looked for.  `bean_search_finds` says that
the conditions judge by exactly these names and quote them in ascending order, each once.
-/
namespace Wiring

/-- The places of the chain that a scope takes in: 0 is the current context, 1 its parent, and so on. -/
def SearchScope.Includes : SearchScope → Nat → Prop
  | .current, k => k = 0
  | .parents, k => k = 1
  | .all, _ => True

namespace Context

/-- Links declared in this context lead from a type of the registration to the given one. -/
def Provides (c : Context) (r : Registration) (type : String) : Prop :=
  ∃ t ∈ r.types, Hierarchy.Reaches c.hierarchy.links t type

theorem isOfType_iff {c : Context} {r : Registration} {type : String} :
    c.isOfType r type = true ↔ c.Provides r type := by
  unfold isOfType Provides
  rw [List.any_eq_true]
  exact exists_congr fun t => and_congr_right fun _ => Hierarchy.isAssignable_iff

end Context

namespace Facts

theorem mem_namesIn {cs : List Context} {p : Context → Registration → Bool} {b : String} :
    b ∈ namesIn cs p ↔ ∃ c ∈ cs, ∃ r ∈ c.registrations, r.name = b ∧ p c r = true := by
  unfold namesIn
  rw [Names.mem_ofList, List.mem_flatMap]
  refine exists_congr fun c => and_congr_right fun _ => ?_
  rw [List.mem_map]
  constructor
  · rintro ⟨r, hr, hb⟩
    exact ⟨r, (List.mem_filter.1 hr).1, hb, (List.mem_filter.1 hr).2⟩
  · rintro ⟨r, hr, hb, hp⟩
    exact ⟨r, List.mem_filter.2 ⟨hr, hp⟩, hb⟩

theorem mem_beansOfType {f : Facts} {type : String} {ancestors : Bool} {b : String} :
    b ∈ f.beansOfType type ancestors ↔
      ∃ c ∈ f.reach ancestors, ∃ r ∈ c.registrations, r.name = b ∧ c.Provides r type := by
  unfold beansOfType
  rw [mem_namesIn]
  simp only [Context.isOfType_iff]

theorem containsBean_iff {f : Facts} {b : String} {ancestors : Bool} :
    f.containsBean b ancestors = true ↔ ∃ c ∈ f.reach ancestors, ∃ r ∈ c.registrations, r.name = b := by
  unfold containsBean
  simp only [List.any_eq_true, beq_iff_eq]

/-- The contexts looked at from where a scope begins are those that it takes in. -/
theorem mem_reach_searched {f g : Facts} {scope : SearchScope} (hg : f.searched? scope = some g) {c : Context} :
    c ∈ g.reach (scope == .all) ↔ ∃ k, scope.Includes k ∧ f.contexts[k]? = some c := by
  cases scope with
  | current =>
    obtain rfl : f = g := Option.some.inj hg
    constructor
    · intro hc
      exact ⟨0, rfl, congrArg some (List.mem_singleton.1 hc).symm⟩
    · rintro ⟨k, rfl, hc⟩
      exact List.mem_singleton.2 (Option.some.inj hc).symm
  | parents =>
    obtain ⟨own, ancestors⟩ := f
    cases ancestors with
    | nil => cases hg
    | cons p ps =>
      obtain rfl : ⟨p, ps⟩ = g := Option.some.inj hg
      constructor
      · intro hc
        exact ⟨1, rfl, congrArg some (List.mem_singleton.1 hc).symm⟩
      · rintro ⟨k, rfl, hc⟩
        exact List.mem_singleton.2 (Option.some.inj hc).symm
  | all =>
    obtain rfl : f = g := Option.some.inj hg
    rw [show (SearchScope.all == SearchScope.all) = true from rfl, reach, if_pos rfl, List.mem_iff_getElem?]
    exact exists_congr fun k => (and_iff_right trivial).symm

end Facts

namespace BeanSearch

/-- The scope that counts for a candidate: the search's own, else the candidate's, else everywhere. -/
def HasScope (s : BeanSearch) (c : Component) (scope : SearchScope) : Prop :=
  s.scope = some scope ∨ s.scope = none ∧ (c.search = some scope ∨ c.search = none ∧ scope = .all)

/-- The type is one looked for: without types and names it is the one that the candidate produces. -/
def LooksFor (s : BeanSearch) (c : Component) (type : String) : Prop :=
  type ∈ s.types ∨ s.types = [] ∧ s.names = [] ∧ c.produces = some type

/-- The search picks the registration of a context, by its name or by one of its types. -/
def Picks (s : BeanSearch) (c : Component) (context : Context) (r : Registration) : Prop :=
  r.name ∈ s.names ∨ ∃ type, s.LooksFor c type ∧ context.Provides r type

/-- **What a search finds**: the names of the registrations that it picks in the contexts of its scope. -/
def Finds (s : BeanSearch) (f : Facts) (c : Component) (b : String) : Prop :=
  ∃ scope k context r, s.HasScope c scope ∧ scope.Includes k ∧ f.contexts[k]? = some context ∧
    r ∈ context.registrations ∧ r.name = b ∧ s.Picks c context r

theorem hasScope_iff {s : BeanSearch} {c : Component} {scope : SearchScope} :
    s.HasScope c scope ↔ s.effectiveScope c = scope := by
  unfold HasScope effectiveScope
  cases s.scope with
  | some own => simp
  | none => cases c.search <;> simp [eq_comm]

theorem looksFor_iff {s : BeanSearch} {c : Component} {types : List String} (ht : s.effectiveTypes? c = some types)
    {type : String} : s.LooksFor c type ↔ type ∈ types := by
  unfold effectiveTypes? at ht
  unfold LooksFor
  split at ht
  · rename_i hempty
    rw [Bool.and_eq_true, List.isEmpty_iff, List.isEmpty_iff] at hempty
    obtain ⟨produced, hproduced, rfl⟩ := Option.map_eq_some_iff.1 ht
    simp [hempty.1, hempty.2, hproduced, eq_comm]
  · rename_i hsome
    rw [Bool.and_eq_true, List.isEmpty_iff, List.isEmpty_iff] at hsome
    obtain rfl := Option.some.inj ht
    exact or_iff_left fun h => hsome ⟨h.1, h.2.1⟩

theorem mem_found {g : Facts} {types names : List String} {ancestors : Bool} {b : String} :
    b ∈ found g types names ancestors ↔ ∃ context ∈ g.reach ancestors, ∃ r ∈ context.registrations,
      r.name = b ∧ (r.name ∈ names ∨ ∃ type ∈ types, context.Provides r type) := by
  unfold found
  rw [Names.mem_ofList, List.mem_append, List.mem_flatMap, List.mem_filter, Facts.containsBean_iff]
  constructor
  · rintro (⟨type, htype, hb⟩ | ⟨hb, context, hcontext, r, hr, rfl⟩)
    · obtain ⟨context, hcontext, r, hr, rfl, hp⟩ := Facts.mem_beansOfType.1 hb
      exact ⟨context, hcontext, r, hr, rfl, .inr ⟨type, htype, hp⟩⟩
    · exact ⟨context, hcontext, r, hr, rfl, .inl hb⟩
  · rintro ⟨context, hcontext, r, hr, rfl, hb | ⟨type, htype, hp⟩⟩
    · exact .inr ⟨hb, context, hcontext, r, hr, rfl⟩
    · exact .inl ⟨type, htype, Facts.mem_beansOfType.2 ⟨context, hcontext, r, hr, rfl, hp⟩⟩

theorem found_ascending (g : Facts) (types names : List String) (ancestors : Bool) :
    (found g types names ancestors).Pairwise (· < ·) := Names.ofList_ascending _

theorem matching_eq_ok {s : BeanSearch} {kind : ConditionKind} {f : Facts} {c : Component} {names : List String}
    (hm : s.matching kind f c = .ok names) : ∃ types g, s.effectiveTypes? c = some types ∧
      f.searched? (s.effectiveScope c) = some g ∧ found g types s.names (s.effectiveScope c == .all) = names := by
  unfold matching at hm
  split at hm
  · cases hm
  · rename_i types htypes
    split at hm
    · cases hm
    · rename_i g hg
      exact ⟨types, g, htypes, hg, Except.ok.inj hm⟩

theorem mem_matching {s : BeanSearch} {kind : ConditionKind} {f : Facts} {c : Component} {names : List String}
    (hm : s.matching kind f c = .ok names) {b : String} : b ∈ names ↔ s.Finds f c b := by
  obtain ⟨types, g, htypes, hg, rfl⟩ := matching_eq_ok hm
  have hpicks : ∀ context r, s.Picks c context r ↔
      (r.name ∈ s.names ∨ ∃ type ∈ types, context.Provides r type) := fun context r => by
    simp only [Picks, looksFor_iff htypes]
  rw [mem_found]
  constructor
  · rintro ⟨context, hcontext, r, hr, hb, hp⟩
    obtain ⟨k, hk, hcontext⟩ := (Facts.mem_reach_searched hg).1 hcontext
    exact ⟨_, k, context, r, hasScope_iff.2 rfl, hk, hcontext, hr, hb, (hpicks context r).2 hp⟩
  · rintro ⟨scope, k, context, r, hscope, hk, hcontext, hr, hb, hp⟩
    obtain rfl := hasScope_iff.1 hscope
    exact ⟨context, (Facts.mem_reach_searched hg).2 ⟨k, hk, hcontext⟩, r, hr, hb, (hpicks context r).1 hp⟩

theorem matching_ascending {s : BeanSearch} {kind : ConditionKind} {f : Facts} {c : Component} {names : List String}
    (hm : s.matching kind f c = .ok names) : names.Pairwise (· < ·) := by
  obtain ⟨types, g, -, -, rfl⟩ := matching_eq_ok hm
  exact found_ascending g types s.names _

end BeanSearch

namespace Condition

theorem judge_beanPresent_iff {s : BeanSearch} {f : Facts} {c : Component} {phase : Phase} {v : Verdict} :
    (beanPresent s).judge f c phase = .ok v ↔
      ∃ names, s.matching .onBean f c = .ok names ∧ beanPresence s names = v := by
  rw [judge, map_eq_ok_iff]

theorem judge_beanAbsent_iff {s : BeanSearch} {f : Facts} {c : Component} {phase : Phase} {v : Verdict} :
    (beanAbsent s).judge f c phase = .ok v ↔
      ∃ names, s.matching .onMissingBean f c = .ok names ∧ beanAbsence s names = v := by
  rw [judge, map_eq_ok_iff]

theorem beanPresence_matched {s : BeanSearch} {names : List String} :
    (beanPresence s names).matched = true ↔ ∃ b, b ∈ names := by
  unfold beanPresence
  cases names <;> simp

theorem beanAbsence_matched {s : BeanSearch} {names : List String} :
    (beanAbsence s names).matched = true ↔ ¬∃ b, b ∈ names := by
  unfold beanAbsence
  cases names <;> simp

theorem beanPresence_message (s : BeanSearch) (names : List String) :
    (beanPresence s names).message =
      if names = [] then "found no beans matching " ++ s.text
      else "found beans " ++ Inspect.set (names.map Inspect.quoted) := by
  simp only [beanPresence, List.isEmpty_iff]
  split <;> rfl

theorem beanAbsence_message (s : BeanSearch) (names : List String) :
    (beanAbsence s names).message =
      if names = [] then "found no beans matching " ++ s.text
      else "found beans " ++ Inspect.set (names.map Inspect.quoted) ++ " matching " ++ s.text := by
  simp only [beanAbsence, List.isEmpty_iff]
  split <;> rfl

/-- **Bean conditions judge by what their search finds**, over every chain of contexts: presence matches when a name is
found and absence when none is, and the message quotes the names found in ascending order, each once. -/
theorem bean_search_finds (s : BeanSearch) (f : Facts) (c : Component) (phase : Phase) :
    (∀ v, (beanPresent s).judge f c phase = .ok v →
      (v.matched = true ↔ ∃ b, s.Finds f c b) ∧
      ∃ names, names.Pairwise (· < ·) ∧ (∀ b, b ∈ names ↔ s.Finds f c b) ∧
        v.message = if names = [] then "found no beans matching " ++ s.text
          else "found beans " ++ Inspect.set (names.map Inspect.quoted)) ∧
    ∀ v, (beanAbsent s).judge f c phase = .ok v →
      (v.matched = true ↔ ¬∃ b, s.Finds f c b) ∧
      ∃ names, names.Pairwise (· < ·) ∧ (∀ b, b ∈ names ↔ s.Finds f c b) ∧
        v.message = if names = [] then "found no beans matching " ++ s.text
          else "found beans " ++ Inspect.set (names.map Inspect.quoted) ++ " matching " ++ s.text := by
  constructor
  · intro v hv
    obtain ⟨names, hm, rfl⟩ := judge_beanPresent_iff.1 hv
    have hmem : ∀ b, b ∈ names ↔ s.Finds f c b := fun b => BeanSearch.mem_matching hm
    refine ⟨?_, names, BeanSearch.matching_ascending hm, hmem, beanPresence_message s names⟩
    rw [beanPresence_matched]
    exact exists_congr hmem
  · intro v hv
    obtain ⟨names, hm, rfl⟩ := judge_beanAbsent_iff.1 hv
    have hmem : ∀ b, b ∈ names ↔ s.Finds f c b := fun b => BeanSearch.mem_matching hm
    refine ⟨?_, names, BeanSearch.matching_ascending hm, hmem, beanAbsence_message s names⟩
    rw [beanAbsence_matched]
    exact not_congr (exists_congr hmem)

/-- A produced type is looked for through a cycle of links that only the parent declares, and without links in the
grandparent; the parents' scope stops before the latter. -/
theorem bean_search_finds_upwards :
    let f : Facts :=
      { registrations := [⟨"near", ["Pool"], .initial⟩],
        ancestors := [{ hierarchy := ⟨[("Pool", "Source"), ("Source", "Pool")]⟩,
                        registrations := [⟨"pool", ["Pool"], .initial⟩] },
                      { registrations := [⟨"far", ["Source"], .initial⟩] }] }
    let c : Component := { id := "maker", produces := some "Source" }
    let anywhere : BeanSearch := {}
    let above : BeanSearch := { scope := some .parents }
    ((beanPresent anywhere).judge f c .registerBean = .ok ⟨true, "found beans \x7b\"far\", \"pool\"\x7d"⟩ ∧
      ∃ b, anywhere.Finds f c b) ∧
    (beanAbsent above).judge f c .registerBean =
        .ok ⟨false, "found beans \x7b\"pool\"\x7d matching types=[], names=[], scope=PARENTS"⟩ ∧
      ∃ b, above.Finds f c b := by
  intro f c anywhere above
  have hpresent : (beanPresent anywhere).judge f c .registerBean =
      .ok ⟨true, "found beans \x7b\"far\", \"pool\"\x7d"⟩ := by decide +kernel
  have habsent : (beanAbsent above).judge f c .registerBean =
      .ok ⟨false, "found beans \x7b\"pool\"\x7d matching types=[], names=[], scope=PARENTS"⟩ := by decide +kernel
  refine ⟨⟨hpresent, ?_⟩, habsent, ?_⟩
  · exact ((bean_search_finds anywhere f c .registerBean).1 _ hpresent).1.1 rfl
  · by_contra hnone
    exact Bool.false_ne_true (((bean_search_finds above f c .registerBean).2 _ habsent).1.2 hnone)

end Condition
end Wiring
