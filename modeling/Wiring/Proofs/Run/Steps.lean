import Wiring.Proofs.Results
import Wiring.Run
/-!
# Steps — a run as the list of its steps

A run looks at the candidates in one order (`Registry.processing`).  What it comes to is told by its steps, each a
candidate with its entry: a run succeeds exactly with steps that are all justified by the facts before them
(`resolve_eq_ok_iff`), and it fails exactly where a candidate after such steps cannot be examined
(`resolve_eq_error_iff`).
-/
namespace Wiring

/-- The candidates in the order in which a run looks at them: phase after phase, in each phase in registry order. -/
def Registry.processing (r : Registry) : List Candidate :=
  r.inPhase .parseConfiguration ++ r.inPhase .registerBean

/-- A candidate and what was found out about it. -/
abbrev Step := Candidate × Entry

/-- The registrations that steps make: one for every activated candidate. -/
def activatedBy (ps : List Step) : List Registration :=
  (ps.filter (·.2.outcome.isActivated)).map fun p => ⟨p.1.id, p.1.registeredTypes, .candidate⟩

/-- The facts that steps leave behind: their registrations come last, all else stays. -/
def Facts.after (f : Facts) (ps : List Step) : Facts := { f with registrations := f.registrations ++ activatedBy ps }

/-- Every step's entry is what examining its candidate gives by the facts that the steps before it leave. -/
def Justified (s : Settings) (f : Facts) (ps : List Step) : Prop :=
  ∀ pre c e post, ps = pre ++ (c, e) :: post → c.examine s (f.after pre) c.phase = .ok e

theorem activatedBy_append (ps qs : List Step) : activatedBy (ps ++ qs) = activatedBy ps ++ activatedBy qs := by
  simp only [activatedBy, List.filter_append, List.map_append]

theorem mem_activatedBy {ps : List Step} {r : Registration} :
    r ∈ activatedBy ps ↔ ∃ c e, (c, e) ∈ ps ∧ e.outcome = .activated ∧ r = ⟨c.id, c.registeredTypes, .candidate⟩ := by
  have hact : ∀ o : Outcome, o.isActivated = true ↔ o = .activated := fun o => by cases o <;> simp [Outcome.isActivated]
  unfold activatedBy
  rw [List.mem_map]
  constructor
  · rintro ⟨⟨c, e⟩, hp, rfl⟩
    exact ⟨c, e, (List.mem_filter.1 hp).1, (hact _).1 (List.mem_filter.1 hp).2, rfl⟩
  · rintro ⟨c, e, hp, he, rfl⟩
    exact ⟨(c, e), List.mem_filter.2 ⟨hp, (hact _).2 he⟩, rfl⟩

namespace Facts

@[simp] theorem after_nil (f : Facts) : f.after [] = f := by
  simp only [after, activatedBy, List.filter_nil, List.map_nil, List.append_nil]

theorem after_append (f : Facts) (ps qs : List Step) : f.after (ps ++ qs) = (f.after ps).after qs := by
  simp only [after, activatedBy_append, List.append_assoc]

@[simp] theorem after_registrations (f : Facts) (ps : List Step) :
    (f.after ps).registrations = f.registrations ++ activatedBy ps := rfl

theorem after_step (f : Facts) (c : Candidate) (e : Entry) :
    Resolution.factsAfter f c e.outcome = f.after [(c, e)] := by
  unfold Resolution.factsAfter
  cases he : e.outcome.isActivated with
  | true => simp only [if_true, after, activatedBy, List.filter_cons, he, List.filter_nil, List.map_cons,
      List.map_nil, activate, Context.register]
  | false => simp only [Bool.false_eq_true, if_false, after, activatedBy, List.filter_cons, he, List.filter_nil,
      List.map_nil, List.append_nil]

end Facts

namespace Justified

variable {s : Settings} {f : Facts}

theorem nil : Justified s f [] := fun pre _ _ _ h => by cases pre <;> cases h

theorem append_iff {ps qs : List Step} : Justified s f (ps ++ qs) ↔ Justified s f ps ∧ Justified s (f.after ps) qs := by
  constructor
  · intro h
    refine ⟨fun pre c e post hps => h pre c e (post ++ qs) (by rw [hps]; simp), fun pre c e post hqs => ?_⟩
    rw [← Facts.after_append]
    exact h (ps ++ pre) c e post (by rw [hqs, List.append_assoc])
  · rintro ⟨hps, hqs⟩ pre c e post heq
    rcases List.append_eq_append_iff.1 heq with ⟨rest, rfl, hrest⟩ | ⟨rest, hrest, htail⟩
    · rw [Facts.after_append]
      exact hqs rest c e post hrest
    · cases rest with
      | nil =>
        rw [List.append_nil] at hrest
        subst hrest
        exact (Facts.after_nil (f.after ps)) ▸ hqs [] c e post htail.symm
      | cons q rest =>
        obtain ⟨rfl, rfl⟩ := List.cons.inj htail
        exact hps pre c e rest hrest

theorem singleton_iff {c : Candidate} {e : Entry} : Justified s f [(c, e)] ↔ c.examine s f c.phase = .ok e := by
  constructor
  · intro h
    exact Facts.after_nil f ▸ h [] c e [] rfl
  · intro h pre c' e' post heq
    cases pre with
    | nil =>
      obtain ⟨hce, -⟩ := List.cons.inj heq
      obtain ⟨rfl, rfl⟩ := Prod.mk.inj hce
      rwa [Facts.after_nil]
    | cons p pre => simp at heq

theorem cons_iff {c : Candidate} {e : Entry} {ps : List Step} :
    Justified s f ((c, e) :: ps) ↔ c.examine s f c.phase = .ok e ∧ Justified s (f.after [(c, e)]) ps := by
  rw [← List.singleton_append, append_iff, singleton_iff]

end Justified

namespace Resolution

/-- What a resolution comes to after further steps. -/
def addAll (r : Resolution) (ps : List Step) : Resolution := ps.foldl (fun r p => r.add p.1 p.2) r

theorem addAll_append (r : Resolution) (ps qs : List Step) : r.addAll (ps ++ qs) = (r.addAll ps).addAll qs :=
  List.foldl_append

theorem addAll_facts : ∀ (r : Resolution) (ps : List Step), (r.addAll ps).facts = r.facts.after ps
  | r, [] => (Facts.after_nil r.facts).symm
  | r, (c, e) :: ps => by
    rw [← List.singleton_append, Facts.after_append, ← Facts.after_step, List.singleton_append]
    exact addAll_facts (r.add c e) ps

theorem addAll_trace : ∀ (r : Resolution) (ps : List Step), (r.addAll ps).trace = r.trace ++ ps.map Prod.snd
  | r, [] => (List.append_nil r.trace).symm
  | r, (c, e) :: ps => by
    rw [List.map_cons, List.append_cons]
    exact addAll_trace (r.add c e) ps

theorem addAll_activations : ∀ (r : Resolution) (ps : List Step),
    (r.addAll ps).activations = (ps.map Prod.snd).foldl (fun a e => a.record e.candidate e.outcome) r.activations
  | _, [] => rfl
  | r, (c, e) :: ps => addAll_activations (r.add c e) ps

/-- Looks at one candidate and adds what is found out about it. -/
def look (s : Settings) (r : Resolution) (c : Candidate) : Except Fault Resolution :=
  (c.examine s r.facts c.phase).map (r.add c)

variable {s : Settings}

theorem foldlM_look_eq_ok_iff {cs : List Candidate} {r r' : Resolution} : cs.foldlM (look s) r = .ok r' ↔
    ∃ ps : List Step, ps.map Prod.fst = cs ∧ Justified s r.facts ps ∧ r' = r.addAll ps := by
  induction cs generalizing r with
  | nil =>
    constructor
    · intro h
      exact ⟨[], rfl, .nil, (Except.ok.inj h).symm⟩
    · rintro ⟨ps, hps, -, rfl⟩
      rw [List.map_eq_nil_iff.1 hps]
      rfl
  | cons c cs ih =>
    have hfacts : ∀ e, (r.add c e).facts = r.facts.after [(c, e)] := Facts.after_step r.facts c
    rw [List.foldlM_cons, bind_eq_ok_iff]
    constructor
    · rintro ⟨r₁, hc, hcs⟩
      obtain ⟨e, he, rfl⟩ := map_eq_ok_iff.1 hc
      obtain ⟨ps, rfl, hps, rfl⟩ := ih.1 hcs
      exact ⟨(c, e) :: ps, rfl, Justified.cons_iff.2 ⟨he, hfacts e ▸ hps⟩, rfl⟩
    · rintro ⟨ps, hmap, hps, rfl⟩
      obtain ⟨⟨_, e⟩, ps, rfl, rfl, rfl⟩ := List.map_eq_cons_iff.1 hmap
      obtain ⟨he, hps⟩ := Justified.cons_iff.1 hps
      exact ⟨r.add _ e, map_eq_ok_iff.2 ⟨e, he, rfl⟩, ih.2 ⟨ps, rfl, (hfacts e).symm ▸ hps, rfl⟩⟩

theorem foldlM_look_eq_error_iff {cs : List Candidate} {r : Resolution} {fault : Fault} :
    cs.foldlM (look s) r = .error fault ↔
      ∃ (ps : List Step) (c : Candidate) (post : List Candidate), cs = ps.map Prod.fst ++ c :: post ∧
        Justified s r.facts ps ∧ c.examine s (r.facts.after ps) c.phase = .error fault := by
  induction cs generalizing r with
  | nil =>
    constructor
    · intro h
      cases h
    · rintro ⟨ps, c, post, h, -⟩
      simp at h
  | cons c cs ih =>
    have hfacts : ∀ e, (r.add c e).facts = r.facts.after [(c, e)] := Facts.after_step r.facts c
    have hafter : ∀ e ps, r.facts.after ((c, e) :: ps) = (r.add c e).facts.after ps := fun e ps => by
      rw [hfacts, ← Facts.after_append, List.singleton_append]
    rw [List.foldlM_cons, bind_eq_error_iff]
    constructor
    · rintro (hc | ⟨r₁, hc, hcs⟩)
      · exact ⟨[], c, cs, rfl, .nil, by rw [Facts.after_nil, map_eq_error_iff.1 hc]⟩
      · obtain ⟨e, he, rfl⟩ := map_eq_ok_iff.1 hc
        obtain ⟨ps, d, post, rfl, hps, hd⟩ := ih.1 hcs
        exact ⟨(c, e) :: ps, d, post, rfl, Justified.cons_iff.2 ⟨he, hfacts e ▸ hps⟩, (hafter e ps).symm ▸ hd⟩
    · rintro ⟨_ | ⟨⟨c', e⟩, ps⟩, d, post, hcs, hps, hd⟩
      · obtain ⟨rfl, rfl⟩ := List.cons.inj hcs
        rw [Facts.after_nil] at hd
        exact .inl (map_eq_error_iff.2 hd)
      · obtain ⟨rfl, rfl⟩ := List.cons.inj hcs
        obtain ⟨he, hps⟩ := Justified.cons_iff.1 hps
        exact .inr ⟨r.add c e, map_eq_ok_iff.2 ⟨e, he, rfl⟩,
          ih.2 ⟨ps, d, post, rfl, (hfacts e).symm ▸ hps, hafter e ps ▸ hd⟩⟩

end Resolution

theorem Run.visit_result {s : Settings} {phase : Phase} {cs : List Candidate} (hcs : ∀ c ∈ cs, c.phase = phase)
    (r : Resolution) : (Run.visit s phase cs r).result = cs.foldlM (Resolution.look s) r := by
  induction cs generalizing r with
  | nil => rfl
  | cons c cs ih =>
    obtain ⟨hc, hcs⟩ := List.forall_mem_cons.1 hcs
    rw [visit, List.foldlM_cons, Resolution.look, hc]
    cases c.examine s r.facts phase with
    | error fault => rfl
    | ok e => exact ih hcs (r.add c e)

theorem Run.andThen_result (r : Run) (next : Resolution → Run) :
    (r.andThen next).result = r.result >>= fun resolution => (next resolution).result := by
  unfold andThen
  split <;> rename_i h <;> rw [h] <;> rfl

/-- A run looks at all candidates one after the other, across its phases. -/
theorem resolve_result (s : Settings) (f : Facts) (registry : Registry) :
    (resolve s f registry).result = registry.processing.foldlM (Resolution.look s) (.started f) := by
  have hphase : ∀ phase, ∀ c ∈ registry.inPhase phase, c.phase = phase := fun phase c hc =>
    beq_iff_eq.1 (List.mem_filter.1 hc).2
  have hvisit : ∀ phase r, (Run.visitPhase s registry phase r).result =
      (registry.inPhase phase).foldlM (Resolution.look s) r := fun phase r => Run.visit_result (hphase phase) r
  rw [resolve, Run.after_result, Run.andThen_result, Run.andThen_result, hvisit, Registry.processing,
    List.foldlM_append]
  simp only [hvisit]
  exact bind_pure _

variable {s : Settings} {f : Facts} {registry : Registry}

/-- **A run succeeds exactly with justified steps**, one for every candidate in processing order. -/
theorem resolve_eq_ok_iff {res : Resolution} : (resolve s f registry).result = .ok res ↔
    ∃ ps : List Step, ps.map Prod.fst = registry.processing ∧ Justified s f ps ∧ res = (Resolution.started f).addAll ps := by
  rw [resolve_result]
  exact Resolution.foldlM_look_eq_ok_iff

/-- **A run fails exactly at a candidate that cannot be examined** after justified steps for all candidates before
it. -/
theorem resolve_eq_error_iff {fault : Fault} : (resolve s f registry).result = .error fault ↔
    ∃ (ps : List Step) (c : Candidate) (post : List Candidate), registry.processing = ps.map Prod.fst ++ c :: post ∧
      Justified s f ps ∧ c.examine s (f.after ps) c.phase = .error fault := by
  rw [resolve_result]
  exact Resolution.foldlM_look_eq_error_iff

end Wiring
