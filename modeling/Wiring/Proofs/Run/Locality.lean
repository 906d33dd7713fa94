import Wiring.Proofs.BeanSearch
import Wiring.Proofs.Run.Steps
/-!
# Locality — what of the earlier steps a candidate can see

Earlier steps change the facts only by registrations in the current context, and only a bean condition that looks there
can see those, each by what its search picks.  So steps that leave the same picked registrations behind give the
candidate the same entry (`Candidate.examine_congr`).
-/
namespace Wiring

def Condition.search? : Condition → Option BeanSearch
  | .beanPresent s | .beanAbsent s => some s
  | _ => none

def Condition.isCustom : Condition → Bool
  | .custom _ => true
  | _ => false

/-- The search looks in the current context. -/
def BeanSearch.LooksHere (s : BeanSearch) (c : Component) : Prop := s.HasScope c .current ∨ s.HasScope c .all

/-- One of the candidate's bean conditions looks in the current context and picks the registration there. -/
def Candidate.Sees (c : Candidate) (f : Facts) (r : Registration) : Prop :=
  ∃ condition ∈ c.conditions, ∃ s, condition.search? = some s ∧ s.LooksHere c.toComponent ∧
    s.Picks c.toComponent f.toContext r

variable {s : Settings} {f : Facts} {ps qs : List Step}

namespace BeanSearch

variable {search : BeanSearch} {c : Component}

theorem found_after_subset {types : List String} {ancestors : Bool} (ht : search.effectiveTypes? c = some types)
    (hseen : ∀ r, search.Picks c f.toContext r → r ∈ activatedBy ps → r ∈ activatedBy qs) {b : String}
    (hb : b ∈ found (f.after ps) types search.names ancestors) : b ∈ found (f.after qs) types search.names ancestors := by
  rw [mem_found] at hb ⊢
  obtain ⟨context, hcontext, r, hr, hname, hpick⟩ := hb
  have hcases : context = (f.after ps).toContext ∨ ancestors = true ∧ context ∈ f.ancestors := by
    cases ancestors with
    | true => exact (List.mem_cons.1 hcontext).imp_right fun h => ⟨rfl, h⟩
    | false => exact .inl (List.mem_singleton.1 hcontext)
  rcases hcases with rfl | ⟨rfl, hancestor⟩
  · -- the current context of both: only the registrations differ
    have hpicks : search.Picks c f.toContext r := by
      simp only [Picks, looksFor_iff ht]
      exact hpick
    have hr' : r ∈ (f.after qs).registrations := by
      rw [Facts.after_registrations, List.mem_append] at hr ⊢
      exact hr.imp_right (hseen r hpicks)
    refine ⟨(f.after qs).toContext, ?_, r, hr', hname, hpick⟩
    cases ancestors with
    | true => exact List.mem_cons_self
    | false => exact List.mem_singleton.2 rfl
  · exact ⟨context, List.mem_cons_of_mem _ hancestor, r, hr, hname, hpick⟩

theorem matching_after_congr (kind : ConditionKind)
    (hseen : search.LooksHere c → ∀ r, search.Picks c f.toContext r → (r ∈ activatedBy ps ↔ r ∈ activatedBy qs)) :
    search.matching kind (f.after ps) c = search.matching kind (f.after qs) c := by
  unfold matching
  cases ht : search.effectiveTypes? c with
  | none => rfl
  | some types =>
    have hfound : search.LooksHere c → ∀ ancestors,
        found (f.after ps) types search.names ancestors = found (f.after qs) types search.names ancestors :=
      fun hhere ancestors => (found_ascending _ _ _ _).eq_of_mem_iff (found_ascending _ _ _ _) fun b =>
        ⟨found_after_subset ht fun r hp => (hseen hhere r hp).1, found_after_subset ht fun r hp => (hseen hhere r hp).2⟩
    cases hscope : search.effectiveScope c with
    | current => exact congrArg Except.ok (hfound (.inl (hasScope_iff.2 hscope)) _)
    | parents => rfl
    | all => exact congrArg Except.ok (hfound (.inr (hasScope_iff.2 hscope)) _)

end BeanSearch

theorem Condition.judge_after_congr {condition : Condition} {c : Component} (phase : Phase)
    (hcustom : condition.isCustom = false)
    (hseen : ∀ search, condition.search? = some search → search.LooksHere c →
      ∀ r, search.Picks c f.toContext r → (r ∈ activatedBy ps ↔ r ∈ activatedBy qs)) :
    condition.judge (f.after ps) c phase = condition.judge (f.after qs) c phase := by
  cases condition with
  | beanPresent search => simp only [judge, BeanSearch.matching_after_congr .onBean (hseen search rfl)]
  | beanAbsent search => simp only [judge, BeanSearch.matching_after_congr .onMissingBean (hseen search rfl)]
  | custom own => cases hcustom
  | classPresent | classAbsent | property | jndi | webApplication | notWebApplication => rfl

theorem Candidate.findings_congr {f g : Facts} {c : Component} {phase : Phase} : ∀ {conditions : List Condition},
    (∀ condition ∈ conditions, condition.judge f c phase = condition.judge g c phase) →
      findings f c phase conditions = findings g c phase conditions
  | [], _ => rfl
  | condition :: conditions, h => by
    have hmore := findings_congr fun d hd => h d (List.mem_cons_of_mem _ hd)
    rw [findings, findings, h condition List.mem_cons_self, hmore]

/-- **A candidate is examined alike after steps that leave behind the same registrations that it sees.** -/
theorem Candidate.examine_congr {c : Candidate} (phase : Phase)
    (hcustom : ∀ condition ∈ c.conditions, condition.isCustom = false)
    (hseen : ∀ r, c.Sees f r → (r ∈ activatedBy ps ↔ r ∈ activatedBy qs)) :
    c.examine s (f.after ps) phase = c.examine s (f.after qs) phase := by
  have hjudge : ∀ condition ∈ c.conditions,
      condition.judge (f.after ps) c.toComponent phase = condition.judge (f.after qs) c.toComponent phase :=
    fun condition hc => Condition.judge_after_congr phase (hcustom condition hc)
      fun search hsearch hhere r hpicks => hseen r ⟨condition, hc, search, hsearch, hhere, hpicks⟩
  simp only [examine, findings_congr hjudge]

end Wiring
