import Wiring.Proofs.Hints.Registered
import Wiring.Proofs.Run.Interference
/-!
# Hinted — runs over a registry to which hints were applied

A run goes over the candidates phase by phase, so that their hints count within a phase, also where a chain of them leads
through the other one (`hinted_run`).
-/
namespace Wiring

/-- **Hints and phases order a run.**  After any calls that register candidates, when the hints can be applied and the
run succeeds, every candidate of the first phase is looked at before every one of the second, whatever the hints say; in
one phase a candidate is looked at before all to which a chain of hints leads from it, through whichever phase; and in
one phase a candidate that no hint asks to wait is looked at before those registered after it. -/
theorem hinted_run {calls : List Candidate} {r : Registry} {s : Settings} {f : Facts} {res : Resolution}
    (hr : (Registry.afterCalls calls).applyHints = .ok r) (h : (resolve s f r).result = .ok res) :
    (∀ a ∈ (Registry.afterCalls calls).candidates, ∀ b ∈ (Registry.afterCalls calls).candidates,
      a.phase = .parseConfiguration → b.phase = .registerBean → Before (res.trace.map (·.candidate)) a.id b.id) ∧
    (∀ a b, a.phase = b.phase → Relation.TransGen (Registry.afterCalls calls).Asks a b →
      Before (res.trace.map (·.candidate)) a.id b.id) ∧
    ∀ a b, a.phase = b.phase → Before (Registry.afterCalls calls).candidates a b →
      (∀ d, ¬(Registry.afterCalls calls).Asks d a) → Before (res.trace.map (·.candidate)) a.id b.id := by
  have hids := Registry.afterCalls_ids_nodup calls
  have hperm := Registry.applyHints_perm hr
  have hlift : ∀ {a b : Candidate}, Before r.processing a b → Before (res.trace.map (·.candidate)) a.id b.id := by
    intro a b hab
    rw [resolve_trace_ids h]
    exact hab.map (·.id)
  refine ⟨fun a ha b hb hpa hpb => ?_, fun a b hp hab => ?_, fun a b hp hab ha => ?_⟩
  · exact hlift (Registry.before_processing_iff.2 (.inr ⟨hpa, hpb, hperm.mem_iff.2 ha, hperm.mem_iff.2 hb⟩))
  · exact hlift (Registry.before_processing_iff.2 (.inl ⟨hp, Registry.applyHints_before hids hr hab⟩))
  · exact hlift (Registry.before_processing_iff.2
      (.inl ⟨hp, Registry.applyHints_before_of_registered hids hr hab ha⟩))

/-- The service waits for the base by way of the setup, which is looked at before both; the second call for the base
fails; the log and the metrics stay as they were registered. -/
theorem hinted_run_through_setup :
    let service : Candidate := { id := "service", after := ["setup", "service"] }
    let setup : Candidate := { id := "setup", phase := .parseConfiguration, after := ["base"] }
    let base : Candidate := { id := "base" }
    let log : Candidate := { id := "log" }
    let metrics : Candidate := { id := "metrics", conditions := [.webApplication] }
    let calls := [service, setup, base, log, base, metrics]
    ∃ r res, (Registry.afterCalls calls).applyHints = .ok r ∧ (resolve {} {} r).result = .ok res ∧
      res.trace.map (·.candidate) = ["setup", "base", "service", "log", "metrics"] ∧
      Before (res.trace.map (·.candidate)) "setup" "base" ∧ Before (res.trace.map (·.candidate)) "base" "service" ∧
      Before (res.trace.map (·.candidate)) "log" "metrics" := by
  intro service setup base log metrics calls
  have hcandidates : (Registry.afterCalls calls).candidates = [service, setup, base, log, metrics] := by rfl
  have htrace : (do
      let r ← (Registry.afterCalls calls).applyHints
      let res ← (resolve {} {} r).result
      pure (res.trace.map fun e : Entry => e.candidate) : Except Fault (List String)) =
      .ok ["setup", "base", "service", "log", "metrics"] := by decide +kernel
  obtain ⟨r, hr, hrest⟩ := bind_eq_ok_iff.1 htrace
  obtain ⟨res, hres, hids⟩ := bind_eq_ok_iff.1 hrest
  obtain ⟨hphase, hchain, huntouched⟩ := hinted_run hr hres
  have hbase : (Registry.afterCalls calls).Asks base setup :=
    ⟨by simp [hcandidates], by simp [hcandidates], by decide, .inl (by decide)⟩
  have hsetup : (Registry.afterCalls calls).Asks setup service :=
    ⟨by simp [hcandidates], by simp [hcandidates], by decide, .inl (by decide)⟩
  have hlog : ∀ d, ¬(Registry.afterCalls calls).Asks d log := by
    rintro d ⟨hd, -, -, hhint⟩
    rw [hcandidates] at hd
    simp only [List.mem_cons, List.not_mem_nil, or_false] at hd
    rcases hd with rfl | rfl | rfl | rfl | rfl <;> revert hhint <;> decide
  refine ⟨r, res, hr, hres, Except.ok.inj hids, ?_, ?_, ?_⟩
  · exact hphase setup hbase.second base hbase.first rfl rfl
  · exact hchain base service rfl (.tail (.single hbase) hsetup)
  · refine huntouched log metrics rfl ?_ hlog
    rw [hcandidates]
    exact (List.Sublist.refl [log, metrics]).cons _ |>.cons _ |>.cons _

end Wiring
