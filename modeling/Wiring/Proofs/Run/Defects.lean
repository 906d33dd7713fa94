import Wiring.Proofs.Run.Account
import Wiring.Proofs.Run.Locality
/-!
# Defects — what stops a run

A condition is defective by the facts as they are when its turn comes (`Condition.Defective`), and judging it then tells
that defect.  A run fails exactly at the first defective condition that it comes to (`resolve_fails_at_first_defect`);
one of an excluded candidate, or behind a condition that does not match, it never comes to.
-/
namespace Wiring

/-- The condition cannot be judged, for this reason.  That a search says nothing about what to look for is told before
the lack of a parent. -/
inductive Condition.Defective (f : Facts) (c : Component) (phase : Phase) : Condition → Fault → Prop
  | unspecified {condition : Condition} {search : BeanSearch} (isSearch : condition.search? = some search)
      (types : search.types = []) (names : search.names = []) (produces : c.produces = none) :
      Defective f c phase condition (.unspecifiedSearch c.id condition.kind.text)
  | noParent {condition : Condition} {search : BeanSearch} (isSearch : condition.search? = some search)
      (specified : ¬(search.types = [] ∧ search.names = [] ∧ c.produces = none))
      (scope : search.HasScope c .parents) (parent : f.ancestors = []) :
      Defective f c phase condition (.missingParent c.id condition.kind.text)
  | failed {own : CustomCondition} {reason : String} (error : own.test f c phase = .error reason) :
      Defective f c phase (.custom own) (.customFailed c.id own.name reason)

namespace BeanSearch

variable {s : BeanSearch} {f : Facts} {c : Component}

theorem effectiveTypes?_eq_none_iff :
    s.effectiveTypes? c = none ↔ s.types = [] ∧ s.names = [] ∧ c.produces = none := by
  unfold effectiveTypes?
  by_cases h : s.types = [] ∧ s.names = []
  · simp [h.1, h.2]
  · have hfalse : (s.types.isEmpty && s.names.isEmpty) = false := by
      simpa [List.isEmpty_iff] using h
    rw [hfalse]
    simp
    tauto

theorem searched?_eq_none_iff {scope : SearchScope} : f.searched? scope = none ↔ scope = .parents ∧ f.ancestors = [] := by
  unfold Facts.searched? Facts.parent?
  cases scope with
  | current => simp
  | parents => cases h : f.ancestors <;> simp
  | all => simp

theorem matching_eq_error_iff {kind : ConditionKind} {fault : Fault} : s.matching kind f c = .error fault ↔
    (s.types = [] ∧ s.names = [] ∧ c.produces = none) ∧ fault = .unspecifiedSearch c.id kind.text ∨
      ¬(s.types = [] ∧ s.names = [] ∧ c.produces = none) ∧ s.HasScope c .parents ∧ f.ancestors = [] ∧
        fault = .missingParent c.id kind.text := by
  rw [← effectiveTypes?_eq_none_iff, hasScope_iff]
  unfold matching
  cases ht : s.effectiveTypes? c with
  | none => simp [eq_comm]
  | some types =>
    cases hg : f.searched? (s.effectiveScope c) with
    | none =>
      obtain ⟨hscope, hparent⟩ := searched?_eq_none_iff.1 hg
      simp [hscope, hparent, eq_comm]
    | some g =>
      have : ¬(s.effectiveScope c = .parents ∧ f.ancestors = []) := by
        rw [← searched?_eq_none_iff, hg]
        simp
      simp
      tauto

end BeanSearch

namespace Condition

variable {f : Facts} {c : Component} {phase : Phase}

theorem defective_search_iff {condition : Condition} {search : BeanSearch} (hs : condition.search? = some search)
    {fault : Fault} :
    condition.Defective f c phase fault ↔ search.matching condition.kind f c = .error fault := by
  rw [BeanSearch.matching_eq_error_iff]
  constructor
  · intro h
    cases h with
    | unspecified hs' ht hn hp =>
      obtain rfl := Option.some.inj (hs.symm.trans hs')
      exact .inl ⟨⟨ht, hn, hp⟩, rfl⟩
    | noParent hs' hspec hscope hparent =>
      obtain rfl := Option.some.inj (hs.symm.trans hs')
      exact .inr ⟨hspec, hscope, hparent, rfl⟩
    | failed => cases hs
  · rintro (⟨⟨ht, hn, hp⟩, rfl⟩ | ⟨hspec, hscope, hparent, rfl⟩)
    · exact .unspecified hs ht hn hp
    · exact .noParent hs hspec hscope hparent

theorem not_defective {condition : Condition} (hs : condition.search? = none) (hcustom : condition.isCustom = false)
    {fault : Fault} : ¬condition.Defective f c phase fault := by
  intro h
  cases h with
  | unspecified hs' => rw [hs] at hs'; cases hs'
  | noParent hs' => rw [hs] at hs'; cases hs'
  | failed => cases hcustom

/-- **Judging fails exactly with the defect of the condition.** -/
theorem judge_eq_error_iff {condition : Condition} {fault : Fault} :
    condition.judge f c phase = .error fault ↔ condition.Defective f c phase fault := by
  have hnone : ∀ {condition : Condition} {v : Verdict}, condition.search? = none → condition.isCustom = false →
      ((.ok v : Except Fault Verdict) = .error fault ↔ condition.Defective f c phase fault) := fun hs hc =>
    ⟨fun h => (nomatch h), fun h => absurd h (not_defective hs hc)⟩
  cases condition with
  | classPresent => exact hnone rfl rfl
  | classAbsent => exact hnone rfl rfl
  | beanPresent search => rw [judge, map_eq_error_iff, defective_search_iff rfl, kind]
  | beanAbsent search => rw [judge, map_eq_error_iff, defective_search_iff rfl, kind]
  | property => exact hnone rfl rfl
  | jndi => exact hnone rfl rfl
  | webApplication => exact hnone rfl rfl
  | notWebApplication => exact hnone rfl rfl
  | custom own =>
    rw [judge]
    constructor
    · intro h
      cases htest : own.test f c phase with
      | ok v =>
        rw [htest] at h
        cases h
      | error reason =>
        rw [htest] at h
        cases h
        exact .failed htest
    · intro h
      cases h with
      | unspecified hs => cases hs
      | noParent hs => cases hs
      | failed htest => rw [htest]; rfl

end Condition

/-- The conditions were all judged and all matched. -/
def AllMatch (f : Facts) (c : Component) (phase : Phase) (conditions : List Condition) : Prop :=
  ∀ condition ∈ conditions, ∃ v, condition.judge f c phase = .ok v ∧ v.matched = true

namespace AllMatch

variable {f : Facts} {c : Component} {phase : Phase}

theorem nil : AllMatch f c phase [] := by
  intro condition h
  cases h

theorem cons_iff {condition : Condition} {conditions : List Condition} : AllMatch f c phase (condition :: conditions) ↔
    (∃ v, condition.judge f c phase = .ok v ∧ v.matched = true) ∧ AllMatch f c phase conditions :=
  List.forall_mem_cons

end AllMatch

namespace Candidate

variable {s : Settings} {f : Facts}

/-- Conditions cannot be judged exactly when one behind conditions that all match cannot. -/
theorem findings_eq_error_iff {c : Component} {phase : Phase} {fault : Fault} {conditions : List Condition} :
    findings f c phase conditions = .error fault ↔ ∃ earlier condition later,
      conditions = earlier ++ condition :: later ∧ AllMatch f c phase earlier ∧ condition.Defective f c phase fault := by
  induction conditions with
  | nil =>
    constructor
    · intro h
      cases h
    · rintro ⟨earlier, condition, later, h, -⟩
      simp at h
  | cons first conditions ih =>
    rw [findings, bind_eq_error_iff]
    constructor
    · rintro (h | ⟨v, hv, h⟩)
      · exact ⟨[], first, conditions, rfl, .nil, Condition.judge_eq_error_iff.1 h⟩
      · cases hm : v.matched with
        | false =>
          rw [hm] at h
          cases h
        | true =>
          rw [hm, if_pos rfl, bind_eq_error_iff] at h
          rcases h with h | ⟨more, -, h⟩
          · obtain ⟨earlier, condition, later, rfl, hall, hdef⟩ := ih.1 h
            exact ⟨first :: earlier, condition, later, rfl, AllMatch.cons_iff.2 ⟨⟨v, hv, hm⟩, hall⟩, hdef⟩
          · cases h
    · rintro ⟨_ | ⟨head, earlier⟩, condition, later, heq, hall, hdef⟩
      · obtain ⟨rfl, -⟩ := List.cons.inj heq
        exact .inl (Condition.judge_eq_error_iff.2 hdef)
      · obtain ⟨rfl, rfl⟩ := List.cons.inj heq
        obtain ⟨⟨v, hv, hm⟩, hall⟩ := AllMatch.cons_iff.1 hall
        refine .inr ⟨v, hv, ?_⟩
        rw [hm, if_pos rfl, bind_eq_error_iff]
        exact .inl (ih.2 ⟨earlier, condition, later, rfl, hall, hdef⟩)

theorem examine_eq_error_iff {c : Candidate} {fault : Fault} : c.examine s f c.phase = .error fault ↔
    c.id ∉ s.exclude ∧ ∃ earlier condition later, c.conditions = earlier ++ condition :: later ∧
      AllMatch f c.toComponent c.phase earlier ∧ condition.Defective f c.toComponent c.phase fault := by
  have hex : s.excludes c.id = true ↔ c.id ∈ s.exclude := List.contains_iff_mem
  unfold examine
  by_cases hc : c.id ∈ s.exclude
  · rw [if_pos (hex.2 hc)]
    exact ⟨fun h => (nomatch h), fun h => absurd hc h.1⟩
  · rw [if_neg (fun h => hc (hex.1 h)), map_eq_error_iff, findings_eq_error_iff]
    exact (and_iff_right hc).symm

end Candidate

/-- The candidate is not excluded, and behind conditions that all match it has a defective one, by the facts that the
steps leave behind. -/
def MeetsDefect (s : Settings) (f : Facts) (ps : List Step) (c : Candidate) (fault : Fault) : Prop :=
  c.id ∉ s.exclude ∧ ∃ earlier condition later, c.conditions = earlier ++ condition :: later ∧
    AllMatch (f.after ps) c.toComponent c.phase earlier ∧
    condition.Defective (f.after ps) c.toComponent c.phase fault

/-- The candidate is excluded, or behind conditions that all match it has one that does not. -/
def StaysBehind (s : Settings) (f : Facts) (ps : List Step) (c : Candidate) : Prop :=
  c.id ∈ s.exclude ∨ ∃ earlier condition later v, c.conditions = earlier ++ condition :: later ∧
    AllMatch (f.after ps) c.toComponent c.phase earlier ∧
    condition.judge (f.after ps) c.toComponent c.phase = .ok v ∧ v.matched = false

variable {s : Settings} {f : Facts}

/-- Behind elements that all have a property the first that does not have it is one and the same. -/
theorem eq_of_first_without {α : Type} {P : α → Prop} {a a' : α} {post post' : List α} (ha : ¬P a) (ha' : ¬P a') :
    ∀ {pre pre' : List α}, (∀ x ∈ pre, P x) → (∀ x ∈ pre', P x) → pre ++ a :: post = pre' ++ a' :: post' → a = a'
  | [], [], _, _, h => (List.cons.inj h).1
  | [], x :: _, _, hall', h => absurd (hall' x List.mem_cons_self) ((List.cons.inj h).1 ▸ ha)
  | x :: _, [], hall, _, h => absurd (hall x List.mem_cons_self) ((List.cons.inj h).1 ▸ ha')
  | _ :: _, _ :: _, hall, hall', h => eq_of_first_without ha ha' (fun x hx => hall x (List.mem_cons_of_mem _ hx))
      (fun x hx => hall' x (List.mem_cons_of_mem _ hx)) (List.cons.inj h).2

/-- No later condition counts behind one that does not match. -/
theorem StaysBehind.not_meetsDefect {ps : List Step} {c : Candidate} (h : StaysBehind s f ps c) (fault : Fault) :
    ¬MeetsDefect s f ps c fault := by
  rintro ⟨hc, earlier, condition, later, heq, hall, hdef⟩
  have herror := Condition.judge_eq_error_iff.2 hdef
  rcases h with h | ⟨earlier', condition', later', v, heq', hall', hv, hm⟩
  · exact hc h
  · let P := fun k : Condition => ∃ w, k.judge (f.after ps) c.toComponent c.phase = .ok w ∧ w.matched = true
    have hfails : ¬P condition := by
      rintro ⟨w, hw, -⟩
      rw [herror] at hw
      cases hw
    have hdiffers : ¬P condition' := by
      rintro ⟨w, hw, hwm⟩
      rw [hv] at hw
      rw [← Except.ok.inj hw, hm] at hwm
      cases hwm
    obtain rfl := eq_of_first_without hfails hdiffers hall hall' (heq.symm.trans heq')
    rw [hv] at herror
    cases herror

/-- What is said of a candidate that is not excluded and was skipped is what judging one of its conditions gave. -/
theorem Entry.AccountsFor.exists_of_skipped {e : Entry} {c : Candidate} (h : e.AccountsFor s f c)
    (hc : c.id ∉ s.exclude) {reason : String} (hr : e.outcome = .skipped reason) : ∃ condition ∈ c.conditions,
      ∃ v, condition.judge f c.toComponent c.phase = .ok v ∧ v.matched = false ∧
        reason = condition.kind.text ++ " " ++ v.message := by
  rw [← Candidate.outcomeOf_eq_of_accounts h hc] at hr
  unfold Candidate.outcomeOf at hr
  split at hr
  · rename_i x hx
    have hm : x.matched = false := by simpa using List.find?_some hx
    obtain ⟨i, hi, hget⟩ := List.getElem_of_mem (List.mem_of_find?_eq_some hx)
    have hfindings := (h.judged hc).findings
    have hlt : i < (c.conditions.take e.findings.length).length := by
      have := hfindings.length_eq
      omega
    obtain ⟨v, hv, hfinding⟩ := (List.forall₂_iff_get.1 hfindings).2 i hlt hi
    obtain rfl : x = Candidate.finding _ v := hget.symm.trans hfinding
    exact ⟨_, List.mem_of_mem_take (List.getElem_mem hlt), v, hv, hm, (Outcome.skipped.inj hr).symm⟩
  · cases hr

/-- **A run fails exactly at the first defect that it comes to**, and with the fault of this defect.  It fails for a
candidate when it has come to it by steps that are all justified, and the candidate is not excluded and has, behind
conditions that all match by the facts as they are then, one that is defective.  It goes on past a candidate that is
excluded or has a condition that does not match behind conditions that do, whatever its other conditions are.  And when
a run succeeds, no entry hides a defect: who was skipped was excluded, or has a condition that was judged and does not
match. -/
theorem resolve_fails_at_first_defect (s : Settings) (f : Facts) (registry : Registry) :
    (∀ fault, (resolve s f registry).result = .error fault ↔ ∃ (ps : List Step) (c : Candidate) (post : List Candidate),
      registry.processing = ps.map Prod.fst ++ c :: post ∧ Justified s f ps ∧ MeetsDefect s f ps c fault) ∧
    (∀ (ps : List Step) (c : Candidate), Justified s f ps → StaysBehind s f ps c → ∃ e, Justified s f (ps ++ [(c, e)])) ∧
    ∀ res, (resolve s f registry).result = .ok res → ∀ (i : Nat) (c : Candidate) (e : Entry) (reason : String),
      registry.processing[i]? = some c → res.trace[i]? = some e → e.outcome = .skipped reason →
        c.id ∈ s.exclude ∧ reason = "excluded by 'autoconfigure.exclude'" ∨
          c.id ∉ s.exclude ∧ ∃ condition ∈ c.conditions, ∃ v,
            condition.judge (f.after ((registry.processing.zip res.trace).take i)) c.toComponent c.phase = .ok v ∧
              v.matched = false ∧ reason = condition.kind.text ++ " " ++ v.message := by
  refine ⟨fun fault => ?_, fun ps c hps hc => ?_, fun res h i c e reason hi he hr => ?_⟩
  · simp only [resolve_eq_error_iff, Candidate.examine_eq_error_iff, MeetsDefect]
  · cases hx : c.examine s (f.after ps) c.phase with
    | error fault => exact absurd (Candidate.examine_eq_error_iff.1 hx) (hc.not_meetsDefect fault)
    | ok e => exact ⟨e, Justified.append_iff.2 ⟨hps, Justified.singleton_iff.2 hx⟩⟩
  · obtain ⟨ps, hmap, hps, rfl⟩ := resolve_eq_ok_iff.1 h
    rw [Resolution.started_trace] at he ⊢
    have hzip : registry.processing.zip (ps.map Prod.snd) = ps := by
      rw [← hmap, List.zip_map', List.map_id']
    have hget : ps[i]? = some (c, e) := by
      rw [← hzip, List.getElem?_zip_eq_some]
      exact ⟨hi, he⟩
    have haccounts := hps.accounts hget
    rw [hzip]
    by_cases hc : c.id ∈ s.exclude
    · have := (haccounts.leftOut hc).2
      rw [hr] at this
      exact .inl ⟨hc, Outcome.skipped.inj this⟩
    · exact .inr ⟨hc, haccounts.exists_of_skipped hc hr⟩

/-- The first two candidates have a defect to which the run does not come; it stops at the third one's, before that of
the fourth. -/
theorem resolve_fails_at_first_defect_of_orphan :
    let probe : CustomCondition := ⟨"probe", fun _ _ _ => .error "no answer"⟩
    let s : Settings := { exclude := ["broken"] }
    let broken : Candidate := { id := "broken", conditions := [.beanAbsent {}] }
    let quiet : Candidate := { id := "quiet", conditions := [.classPresent "Missing", .beanAbsent {}] }
    let orphan : Candidate := { id := "orphan", conditions :=
      [.notWebApplication, .beanPresent { names := ["x"], scope := some .parents }] }
    let registry : Registry := ⟨[broken, quiet, orphan, { id := "last", conditions := [.custom probe] }]⟩
    (resolve s {} registry).result = .error (.missingParent "orphan" "OnBean") ∧
      (∃ (ps : List Step) (c : Candidate) (post : List Candidate), registry.processing = ps.map Prod.fst ++ c :: post ∧
        Justified s {} ps ∧ MeetsDefect s {} ps c (.missingParent "orphan" "OnBean")) ∧
      (∃ e, Justified s {} [(broken, e)]) ∧ (∃ e, Justified s {} [(quiet, e)]) ∧
      ∃ res, (resolve s {} ⟨[broken, quiet]⟩).result = .ok res ∧ ∃ e reason, res.trace[1]? = some e ∧
        e.outcome = .skipped reason ∧ ∃ condition ∈ quiet.conditions, ∃ v : Verdict,
          v.matched = false ∧ reason = condition.kind.text ++ " " ++ v.message := by
  intro probe s broken quiet orphan registry
  obtain ⟨hiff, hpast, -⟩ := resolve_fails_at_first_defect s {} registry
  obtain ⟨-, -, hskipped⟩ := resolve_fails_at_first_defect s {} ⟨[broken, quiet]⟩
  have herror : (resolve s {} registry).result = .error (.missingParent "orphan" "OnBean") :=
    fault?_eq_some_iff.1 (by decide +kernel)
  have hquiet : StaysBehind s {} [] quiet :=
    .inr ⟨[], .classPresent "Missing", [.beanAbsent {}], _, rfl, .nil, rfl, by decide +kernel⟩
  refine ⟨herror, (hiff _).1 herror, hpast [] broken .nil (.inl (by decide)), hpast [] quiet .nil hquiet, ?_⟩
  have houtcome : ((resolve s {} ⟨[broken, quiet]⟩).result.toOption.bind fun res => (res.trace[1]?).map (·.outcome)) =
      some (.skipped "OnClass required class 'Missing' not found") := by decide +kernel
  cases h : (resolve s {} ⟨[broken, quiet]⟩).result with
  | error fault =>
    rw [h] at houtcome
    cases houtcome
  | ok res =>
    rw [h] at houtcome
    obtain ⟨e, he, hr⟩ := Option.map_eq_some_iff.1 houtcome
    have hi : (⟨[broken, quiet]⟩ : Registry).processing[1]? = some quiet := by rfl
    rcases hskipped res h 1 quiet e _ hi he hr with ⟨hexcluded, -⟩ | ⟨-, condition, hc, v, -, hv⟩
    · simp [s, quiet] at hexcluded
    · exact ⟨res, rfl, e, _, he, hr, condition, hc, v, hv⟩

end Wiring
