import Wiring.Proofs.Run.Account
/-!
# Extension — a run that goes on where another one ends

What a run has come to only grows (`ExtendedBy`): one look keeps all that was there (`extendedBy_add`), and so do all
that follow (`extendedBy_addAll`).  So a run over more candidates, the first of them in the same order, repeats the
shorter run and goes on from there (`resolve_no_backtracking`).
-/
namespace Wiring

/-- The registrations that candidates made, in order. -/
def Facts.fromCandidates (f : Facts) : List Registration := f.registrations.filter fun r => r.origin = .candidate

/-- The second resolution has all of the first in front, and for every id the outcome that the first has for it. -/
structure Resolution.ExtendedBy (res res' : Resolution) : Prop where
  trace : res.trace <+: res'.trace
  activations : res.activations.entries <+: res'.activations.entries
  registrations : res.facts.fromCandidates <+: res'.facts.fromCandidates
  outcomes : ∀ id outcome, res.activations.get? id = some outcome → res'.activations.get? id = some outcome

theorem Activations.record_entries_prefix (a : Activations) (id : String) (outcome : Outcome) :
    a.entries <+: (a.record id outcome).entries := by
  unfold record
  split
  · exact List.prefix_rfl
  · exact List.prefix_append _ _

theorem Activations.get?_record_of_eq_some {a : Activations} {id : String} {outcome : Outcome}
    (h : a.get? id = some outcome) (other : String) (later : Outcome) :
    (a.record other later).get? id = some outcome := by
  rw [get?_record]
  split
  · rename_i hid
    rw [← hid, h, Option.some_or]
  · exact h

theorem Facts.fromCandidates_after_prefix (f : Facts) (ps : List Step) :
    f.fromCandidates <+: (f.after ps).fromCandidates := by
  unfold fromCandidates
  rw [Facts.after_registrations, List.filter_append]
  exact List.prefix_append _ _

namespace Resolution

theorem ExtendedBy.refl (res : Resolution) : res.ExtendedBy res :=
  ⟨List.prefix_rfl, List.prefix_rfl, List.prefix_rfl, fun _ _ h => h⟩

theorem ExtendedBy.trans {res res' res'' : Resolution} (h : res.ExtendedBy res') (h' : res'.ExtendedBy res'') :
    res.ExtendedBy res'' where
  trace := h.trace.trans h'.trace
  activations := h.activations.trans h'.activations
  registrations := h.registrations.trans h'.registrations
  outcomes id outcome ho := h'.outcomes id outcome (h.outcomes id outcome ho)

/-- A look takes nothing back. -/
theorem extendedBy_add (res : Resolution) (c : Candidate) (e : Entry) : res.ExtendedBy (res.add c e) where
  trace := List.prefix_append _ _
  activations := Activations.record_entries_prefix _ _ _
  registrations := by
    have hfacts : (res.add c e).facts = res.facts.after [(c, e)] := Facts.after_step res.facts c e
    rw [hfacts]
    exact Facts.fromCandidates_after_prefix _ _
  outcomes _ _ h := Activations.get?_record_of_eq_some h _ _

/-- No look of many takes anything back. -/
theorem extendedBy_addAll : ∀ (res : Resolution) (ps : List Step), res.ExtendedBy (res.addAll ps)
  | res, [] => .refl res
  | res, (c, e) :: ps => (extendedBy_add res c e).trans (extendedBy_addAll (res.add c e) ps)

end Resolution

section Longer

variable {s : Settings} {f : Facts} {r r' : Registry}

theorem resolve_ok_of_prefix (h : r.processing <+: r'.processing) {res' : Resolution}
    (hres : (resolve s f r').result = .ok res') :
    ∃ res, (resolve s f r).result = .ok res ∧ res.ExtendedBy res' := by
  obtain ⟨more, hmore⟩ := h
  obtain ⟨ps, hmap, hps, rfl⟩ := resolve_eq_ok_iff.1 hres
  rw [← hmore] at hmap
  -- the longer run's steps for the shorter registry come first, and no later step counts for them
  obtain ⟨first, rest, rfl, hfirst, -⟩ := List.map_eq_append_iff.1 hmap
  refine ⟨_, resolve_eq_ok_iff.2 ⟨first, hfirst, (Justified.append_iff.1 hps).1, rfl⟩, ?_⟩
  rw [Resolution.addAll_append]
  exact Resolution.extendedBy_addAll _ rest

theorem resolve_error_of_prefix (h : r.processing <+: r'.processing) {fault : Fault}
    (hfault : (resolve s f r).result = .error fault) : (resolve s f r').result = .error fault := by
  obtain ⟨more, hmore⟩ := h
  obtain ⟨ps, c, post, hsplit, hps, hc⟩ := resolve_eq_error_iff.1 hfault
  refine resolve_eq_error_iff.2 ⟨ps, c, post ++ more, ?_, hps, hc⟩
  rw [← hmore, hsplit, List.append_assoc, List.cons_append]

end Longer

namespace Registry

theorem candidates_of_foldlM_register : ∀ {cs : List Candidate} {r r' : Registry},
    cs.foldlM register r = .ok r' → r'.candidates = r.candidates ++ cs
  | [], r, r', h => by
    obtain rfl : r = r' := Except.ok.inj h
    exact (List.append_nil _).symm
  | c :: cs, r, r', h => by
    rw [List.foldlM_cons] at h
    obtain ⟨r₁, hc, hcs⟩ := bind_eq_ok_iff.1 h
    obtain ⟨-, rfl⟩ := register_eq_ok_iff.1 hc
    rw [candidates_of_foldlM_register hcs, List.append_assoc, List.singleton_append]

/-- Candidates of the last phase that are registered later are looked at after all others. -/
theorem processing_prefix_of_registered {cs : List Candidate} {r r' : Registry}
    (hcs : ∀ c ∈ cs, c.phase = .registerBean) (h : cs.foldlM register r = .ok r') :
    r.processing <+: r'.processing := by
  have hfirst : cs.filter (·.phase == .parseConfiguration) = [] := by
    refine List.filter_eq_nil_iff.2 fun c hc => ?_
    rw [hcs c hc]
    decide
  have hsecond : cs.filter (·.phase == .registerBean) = cs := by
    refine List.filter_eq_self.2 fun c hc => ?_
    rw [hcs c hc]
    decide
  refine ⟨cs, ?_⟩
  unfold processing inPhase
  rw [candidates_of_foldlM_register h, List.filter_append, List.filter_append, hfirst, hsecond, List.append_nil,
    List.append_assoc]

end Registry

/-- **Nothing is taken back.**  When the candidates of one registry are looked at first among those of another, in the
same order, a run over the longer one that succeeds extends one over the shorter, which succeeds too; and where the
shorter run fails the longer fails for the same reason.  So it is when candidates of the last phase are registered
later. -/
theorem resolve_no_backtracking (s : Settings) (f : Facts) :
    (∀ r r' : Registry, r.processing <+: r'.processing →
      (∀ res', (resolve s f r').result = .ok res' →
        ∃ res, (resolve s f r).result = .ok res ∧ res.ExtendedBy res') ∧
      ∀ fault, (resolve s f r).result = .error fault → (resolve s f r').result = .error fault) ∧
    ∀ (r r' : Registry) (cs : List Candidate), (∀ c ∈ cs, c.phase = .registerBean) →
      cs.foldlM Registry.register r = .ok r' → r.processing <+: r'.processing := by
  constructor
  · intro r r' h
    exact ⟨fun res' hres => resolve_ok_of_prefix h hres, fun fault hfault => resolve_error_of_prefix h hfault⟩
  · intro r r' cs hcs h
    exact Registry.processing_prefix_of_registered hcs h

/-- The early one waits for the late one, which is registered after it, and stays behind; the setup of the first phase
is looked at before both.  A run that fails at the orphan fails there with the late one as well. -/
theorem resolve_no_backtracking_of_late :
    let early : Candidate := { id := "early", conditions := [.beanPresent { names := ["late"] }] }
    let setup : Candidate := { id := "setup", phase := .parseConfiguration }
    let late : Candidate := { id := "late" }
    let orphan : Candidate := { id := "orphan", conditions := [.beanAbsent {}] }
    (∀ c ∈ [late], c.phase = .registerBean) ∧
    [late].foldlM Registry.register ⟨[early, setup]⟩ = .ok ⟨[early, setup, late]⟩ ∧
    (⟨[early, setup]⟩ : Registry).processing <+: (⟨[early, setup, late]⟩ : Registry).processing ∧
    (∃ res res', (resolve {} {} ⟨[early, setup]⟩).result = .ok res ∧
      (resolve {} {} ⟨[early, setup, late]⟩).result = .ok res' ∧ res.ExtendedBy res' ∧
      res'.activations.entries = [("setup", .activated),
        ("early", .skipped "OnBean found no beans matching types=[], names=[\"late\"]"), ("late", .activated)]) ∧
    (resolve {} {} ⟨[orphan, setup]⟩).result = .error (.unspecifiedSearch "orphan" "OnMissingBean") ∧
    (resolve {} {} ⟨[orphan, setup, late]⟩).result = .error (.unspecifiedSearch "orphan" "OnMissingBean") := by
  intro early setup late orphan
  obtain ⟨hlonger, hregistered⟩ := resolve_no_backtracking {} {}
  have hphase : ∀ c ∈ [late], c.phase = .registerBean := by simp [late]
  have hlate : [late].foldlM Registry.register ⟨[early, setup]⟩ = .ok ⟨[early, setup, late]⟩ := by rfl
  have hprefix := hregistered _ _ _ hphase hlate
  have hprefix' : (⟨[orphan, setup]⟩ : Registry).processing <+: (⟨[orphan, setup, late]⟩ : Registry).processing :=
    hregistered _ _ _ hphase (by rfl)
  have hrun : (resolve {} {} ⟨[early, setup, late]⟩).result.map (fun res => res.activations.entries) =
      .ok [("setup", .activated), ("early", .skipped "OnBean found no beans matching types=[], names=[\"late\"]"),
        ("late", .activated)] := by decide +kernel
  obtain ⟨res', hres', hentries⟩ := map_eq_ok_iff.1 hrun
  obtain ⟨res, hres, hext⟩ := (hlonger _ _ hprefix).1 res' hres'
  have hfault : (resolve {} {} ⟨[orphan, setup]⟩).result = .error (.unspecifiedSearch "orphan" "OnMissingBean") :=
    fault?_eq_some_iff.1 (by decide +kernel)
  exact ⟨hphase, hlate, hprefix, ⟨res, res', hres, hres', hext, hentries⟩, hfault, (hlonger _ _ hprefix').2 _ hfault⟩

end Wiring
