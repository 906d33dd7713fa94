import Wiring.Proofs.Run.Defects
/-!
# Footprint — what a candidate that was skipped leaves behind

Nothing at all.  Steps stay justified when some that were not activated are taken out (`Justified.filter`), so a
registry without candidates that a run skipped comes to the same facts, and to the same trace but for their entries
(`resolve_without_skipped`).
-/
namespace Wiring

/-- The registry with the candidates of these ids taken out. -/
def Registry.without (r : Registry) (ids : List String) : Registry := ⟨r.candidates.filter fun c => c.id ∉ ids⟩

theorem Registry.processing_without (r : Registry) (ids : List String) :
    (r.without ids).processing = r.processing.filter fun c => c.id ∉ ids := by
  have hphase : ∀ phase, (r.without ids).inPhase phase = (r.inPhase phase).filter fun c => c.id ∉ ids := fun phase => by
    unfold inPhase without
    rw [List.filter_filter, List.filter_filter]
    exact List.filter_congr fun c _ => Bool.and_comm _ _
  rw [processing, processing, hphase, hphase, List.filter_append]

namespace Activations

/-- The records of all other ids. -/
def without (a : Activations) (ids : List String) : Activations := ⟨a.entries.filter fun e => e.1 ∉ ids⟩

theorem get?_without {ids : List String} {id : String} (hid : id ∉ ids) (a : Activations) :
    (a.without ids).get? id = a.get? id := by
  unfold without get?
  induction a.entries with
  | nil => rfl
  | cons e es ih =>
    obtain ⟨k, o⟩ := e
    by_cases hk : k ∈ ids
    · have hne : (id == k) = false := beq_eq_false_iff_ne.2 fun h => hid (h ▸ hk)
      rw [List.filter_cons_of_neg (by simpa using hk), List.lookup_cons, hne, ih]
    · rw [List.filter_cons_of_pos (by simpa using hk), List.lookup_cons, List.lookup_cons, ih]

theorem without_record {ids : List String} {id : String} (hid : id ∉ ids) (a : Activations) (outcome : Outcome) :
    (a.record id outcome).without ids = (a.without ids).record id outcome := by
  unfold record
  rw [get?_without hid]
  split
  · rfl
  · simp [without, List.filter_append, hid]

theorem without_record_of_mem {ids : List String} {id : String} (hid : id ∈ ids) (a : Activations) (outcome : Outcome) :
    (a.record id outcome).without ids = a.without ids := by
  unfold record
  split
  · rfl
  · simp [without, List.filter_append, hid]

theorem foldl_record_without {ids : List String} : ∀ (es : List Entry) (a : Activations),
    (es.foldl (fun a e => a.record e.candidate e.outcome) a).without ids =
      (es.filter fun e => e.candidate ∉ ids).foldl (fun a e => a.record e.candidate e.outcome) (a.without ids)
  | [], _ => rfl
  | e :: es, a => by
    rw [List.foldl_cons, foldl_record_without es]
    by_cases he : e.candidate ∈ ids
    · rw [List.filter_cons_of_neg (by simpa using he), without_record_of_mem he]
    · rw [List.filter_cons_of_pos (by simpa using he), List.foldl_cons, without_record he]

end Activations

/-- All steps that were activated are among those kept. -/
def KeepsActivated (keep : Step → Bool) (ps : List Step) : Prop := ∀ p ∈ ps, p.2.outcome = .activated → keep p = true

section Steps

variable {s : Settings} {f : Facts} {ps : List Step} {keep : Step → Bool}

theorem activatedBy_filter (hkeep : KeepsActivated keep ps) : activatedBy (ps.filter keep) = activatedBy ps := by
  unfold activatedBy
  rw [List.filter_filter]
  congr 1
  refine List.filter_congr fun p hp => ?_
  cases ho : p.2.outcome with
  | activated => rw [hkeep p hp ho, Bool.and_true]
  | skipped reason => rfl

theorem Facts.after_filter (hkeep : KeepsActivated keep ps) : f.after (ps.filter keep) = f.after ps := by
  rw [after, after, activatedBy_filter hkeep]

/-- **Steps that were not activated may be taken out**: those that stay are as justified as before. -/
theorem Justified.filter (h : Justified s f ps) (hkeep : KeepsActivated keep ps) : Justified s f (ps.filter keep) := by
  intro pre c e post hsplit
  -- the steps before this one are those before it in the whole list, less what was taken out
  obtain ⟨first, rest, rfl, hfirst, hrest⟩ := List.filter_eq_append_iff.1 hsplit
  obtain ⟨gap, later, rfl, hgap, -, -⟩ := List.filter_eq_cons_iff.1 hrest
  have hpre : (first ++ gap).filter keep = pre := by
    rw [List.filter_append, List.filter_eq_nil_iff.2 hgap, List.append_nil, hfirst]
  have hbefore : KeepsActivated keep (first ++ gap) := fun p hp =>
    hkeep p (by rw [← List.append_assoc]; exact List.mem_append_left _ hp)
  rw [← hpre, Facts.after_filter hbefore]
  exact h (first ++ gap) c e later (List.append_assoc _ _ _).symm

/-- Steps of excluded candidates are not activated. -/
theorem Justified.keepsActivated_of_excluded (h : Justified s f ps) {ids : List String}
    (hexcluded : ∀ id ∈ ids, id ∈ s.exclude) : KeepsActivated (fun p => p.1.id ∉ ids) ps := by
  intro p hp ho
  obtain ⟨i, hi⟩ := List.getElem?_of_mem hp
  refine decide_eq_true fun hid => ?_
  rw [((h.accounts hi).leftOut (hexcluded _ hid)).2] at ho
  cases ho

end Steps

section Without

variable {s : Settings} {f : Facts} {r : Registry} {ids : List String}

/-- The steps kept are those of the candidates kept. -/
theorem map_fst_filter (ps : List Step) :
    (ps.filter fun p => p.1.id ∉ ids).map Prod.fst = (ps.map Prod.fst).filter fun c => c.id ∉ ids := by
  rw [List.filter_map]
  rfl

/-- The entries kept are those of the candidates kept. -/
theorem Justified.map_snd_filter {ps : List Step} (h : Justified s f ps) :
    (ps.filter fun p => p.1.id ∉ ids).map Prod.snd = (ps.map Prod.snd).filter fun e => e.candidate ∉ ids := by
  rw [List.filter_map]
  refine congrArg _ (List.filter_congr fun p hp => ?_)
  rw [Function.comp_apply, (h.names hp).1]

/-- Steps for all candidates are, without those of candidates that were skipped, steps for the registry without them. -/
theorem resolve_ok_without {ps : List Step} (hmap : ps.map Prod.fst = r.processing) (hps : Justified s f ps)
    (hkeep : KeepsActivated (fun p => p.1.id ∉ ids) ps) :
    ∃ res', (resolve s f (r.without ids)).result = .ok res' ∧
      res'.trace = ((ps.map Prod.snd).filter fun e => e.candidate ∉ ids) ∧
      res'.activations = ((Resolution.started f).addAll ps).activations.without ids ∧ res'.facts = f.after ps := by
  have hmap' : (ps.filter fun p => p.1.id ∉ ids).map Prod.fst = (r.without ids).processing := by
    rw [Registry.processing_without, ← hmap, map_fst_filter]
  refine ⟨_, resolve_eq_ok_iff.2 ⟨_, hmap', hps.filter hkeep, rfl⟩, ?_, ?_, ?_⟩
  · rw [Resolution.started_trace, hps.map_snd_filter]
  · rw [Resolution.addAll_activations, Resolution.addAll_activations, hps.map_snd_filter]
    exact (Activations.foldl_record_without _ (Resolution.started f).activations).symm
  · rw [Resolution.addAll_facts]
    exact Facts.after_filter hkeep

/-- A run that fails does so without excluded candidates: the one that it fails at is not excluded, and it sees the same
facts. -/
theorem resolve_error_without (hexcluded : ∀ id ∈ ids, id ∈ s.exclude) {fault : Fault}
    (h : (resolve s f r).result = .error fault) : (resolve s f (r.without ids)).result = .error fault := by
  obtain ⟨ps, c, post, hsplit, hps, hfault⟩ := resolve_eq_error_iff.1 h
  have hkeep := hps.keepsActivated_of_excluded hexcluded
  have hc : c.id ∉ ids := fun hid => (Candidate.examine_eq_error_iff.1 hfault).1 (hexcluded _ hid)
  have hsplit' : (r.without ids).processing =
      (ps.filter fun p => p.1.id ∉ ids).map Prod.fst ++ c :: post.filter fun d => d.id ∉ ids := by
    rw [Registry.processing_without, hsplit, List.filter_append, map_fst_filter,
      List.filter_cons_of_pos (by simpa using hc)]
  refine resolve_eq_error_iff.2 ⟨_, c, _, hsplit', hps.filter hkeep, ?_⟩
  rwa [Facts.after_filter hkeep]

end Without

/-- **Candidates that were skipped leave no footprint.**  When a run succeeds, so does a run without any of those that
it skipped; the entries of all others, the outcomes recorded for them and the facts at the end are the same.  Without
excluded candidates a run also fails exactly when it fails with them, and for the same reason. -/
theorem resolve_without_skipped (s : Settings) (f : Facts) (r : Registry) (ids : List String) :
    (∀ res, (resolve s f r).result = .ok res →
      (∀ e ∈ res.trace, e.candidate ∈ ids → ∃ reason, e.outcome = .skipped reason) →
        ∃ res', (resolve s f (r.without ids)).result = .ok res' ∧
          res'.trace = (res.trace.filter fun e => e.candidate ∉ ids) ∧
          res'.activations = res.activations.without ids ∧ res'.facts = res.facts) ∧
    ((∀ id ∈ ids, id ∈ s.exclude) →
      ∀ fault, (resolve s f r).result = .error fault ↔ (resolve s f (r.without ids)).result = .error fault) := by
  constructor
  · intro res h hskipped
    obtain ⟨ps, hmap, hps, rfl⟩ := resolve_eq_ok_iff.1 h
    rw [Resolution.started_trace] at hskipped
    have hkeep : KeepsActivated (fun p => p.1.id ∉ ids) ps := by
      intro p hp ho
      refine decide_eq_true fun hid => ?_
      obtain ⟨reason, hreason⟩ := hskipped p.2 (List.mem_map_of_mem hp) ((hps.names hp).1 ▸ hid)
      rw [ho] at hreason
      cases hreason
    rw [Resolution.started_trace, Resolution.addAll_facts]
    exact resolve_ok_without hmap hps hkeep
  · intro hexcluded fault
    refine ⟨resolve_error_without hexcluded, fun h => ?_⟩
    cases hwith : (resolve s f r).result with
    | error fault' =>
      rw [resolve_error_without hexcluded hwith] at h
      exact h
    | ok res =>
      -- a run that succeeds with excluded candidates does so without them, and would not have failed
      obtain ⟨ps, hmap, hps, -⟩ := resolve_eq_ok_iff.1 hwith
      obtain ⟨res', hok, -⟩ := resolve_ok_without hmap hps (hps.keepsActivated_of_excluded hexcluded)
      rw [hok] at h
      cases h

/-- The excluded extra has a defective condition and the fallback stays behind the pool; without both the counter still
counts one registration.  Next to the orphan, at which a run fails, the extra may be left out as well. -/
theorem resolve_without_skipped_extra :
    let counter : CustomCondition := ⟨"one", fun f _ _ => .ok ⟨f.registrations.length == 1, "counted"⟩⟩
    let s : Settings := { exclude := ["extra"] }
    let f : Facts := { hierarchy := ⟨[("Pool", "Source")]⟩ }
    let extra : Candidate := { id := "extra", conditions := [.beanAbsent {}] }
    let registry : Registry := ⟨[{ id := "pool", types := ["Pool"] }, extra,
      { id := "fallback", types := ["Source"], conditions := [.beanAbsent { types := ["Source"] }] },
      { id := "counter", conditions := [.custom counter] }]⟩
    let failing : Registry := ⟨[extra, { id := "orphan", conditions := [.beanPresent {}] }]⟩
    (∃ res res', (resolve s f registry).result = .ok res ∧
      (resolve s f (registry.without ["extra", "fallback"])).result = .ok res' ∧
      (∀ e ∈ res.trace, e.candidate ∈ ["extra", "fallback"] → ∃ reason, e.outcome = .skipped reason) ∧
      (res'.trace.map fun e => (e.candidate, e.outcome)) = [("pool", .activated), ("counter", .activated)] ∧
      res'.trace = (res.trace.filter fun e => e.candidate ∉ ["extra", "fallback"]) ∧
      res'.activations = res.activations.without ["extra", "fallback"] ∧ res'.facts = res.facts) ∧
    (∀ id ∈ ["extra"], id ∈ s.exclude) ∧
      (resolve s f failing).result = .error (.unspecifiedSearch "orphan" "OnBean") ∧
      (resolve s f (failing.without ["extra"])).result = .error (.unspecifiedSearch "orphan" "OnBean") := by
  intro counter s f extra registry failing
  have hexcluded : ∀ id ∈ ["extra"], id ∈ s.exclude := by decide
  have hfailing : (resolve s f failing).result = .error (.unspecifiedSearch "orphan" "OnBean") :=
    fault?_eq_some_iff.1 (by decide +kernel)
  have hrun : (resolve s f registry).result.map (fun res => res.trace.map fun e => (e.candidate, e.outcome)) =
      .ok [("pool", .activated), ("extra", .skipped "excluded by 'autoconfigure.exclude'"),
        ("fallback", .skipped "OnMissingBean found beans \x7b\"pool\"\x7d matching types=[\"Source\"], names=[]"),
        ("counter", .activated)] := by decide +kernel
  obtain ⟨res, hres, htrace⟩ := map_eq_ok_iff.1 hrun
  have hskipped : ∀ e ∈ res.trace, e.candidate ∈ ["extra", "fallback"] → ∃ reason, e.outcome = .skipped reason := by
    have hpairs : ∀ p ∈ res.trace.map fun e => (e.candidate, e.outcome), p.1 ∈ ["extra", "fallback"] →
        p.2.isActivated = false := by
      rw [htrace]
      decide
    intro e he hid
    have hinactive : e.outcome.isActivated = false := hpairs _ (List.mem_map.2 ⟨e, he, rfl⟩) hid
    cases ho : e.outcome with
    | skipped reason => exact ⟨reason, rfl⟩
    | activated =>
      rw [ho] at hinactive
      cases hinactive
  obtain ⟨res', hres', htrace', hactivations, hfacts⟩ :=
    (resolve_without_skipped s f registry ["extra", "fallback"]).1 res hres hskipped
  refine ⟨⟨res, res', hres, hres', hskipped, ?_, htrace', hactivations, hfacts⟩, hexcluded, hfailing, ?_⟩
  · have hrun' : (resolve s f (registry.without ["extra", "fallback"])).result.map
        (fun res => res.trace.map fun e => (e.candidate, e.outcome)) =
        .ok [("pool", .activated), ("counter", .activated)] := by decide +kernel
    rw [hres'] at hrun'
    exact Except.ok.inj hrun'
  · exact ((resolve_without_skipped s f failing ["extra"]).2 hexcluded _).1 hfailing

end Wiring
