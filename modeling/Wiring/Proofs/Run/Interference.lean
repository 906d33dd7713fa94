import Mathlib.Data.List.Perm.Basic
import Wiring.Proofs.Before
import Wiring.Proofs.Run.Account
import Wiring.Proofs.Run.Locality
/-!
# Interference — which candidates may change places

Two candidates interfere when one looks, in the current context, for what the other registers.  Justified steps stay
justified when they are put in another order in which every step has the same of those it sees before it
(`Justified.rearrange`), so two registries that differ only in the order of candidates that do not interfere come to
the same entries (`resolve_order_independent`).
-/
namespace Wiring

/-- Of two candidates the one of the first phase comes first, and in one phase the registry's order counts. -/
theorem Registry.before_processing_iff {r : Registry} {c d : Candidate} :
    Before r.processing c d ↔ c.phase = d.phase ∧ Before r.candidates c d ∨
      c.phase = .parseConfiguration ∧ d.phase = .registerBean ∧ c ∈ r.candidates ∧ d ∈ r.candidates := by
  unfold processing inPhase
  constructor
  · intro h
    obtain ⟨l, m, heq, hl, hm⟩ := List.sublist_append_iff.1 h
    rcases l with _ | ⟨z, _ | ⟨w, l⟩⟩
    · obtain rfl : m = [c, d] := heq.symm
      obtain ⟨hcd, hc, hd⟩ := before_filter_iff.1 hm
      exact .inl ⟨(beq_iff_eq.1 hc).trans (beq_iff_eq.1 hd).symm, hcd⟩
    · obtain ⟨rfl, rfl⟩ := List.cons.inj heq
      obtain ⟨hc, hcp⟩ := List.mem_filter.1 (hl.subset List.mem_cons_self)
      obtain ⟨hd, hdp⟩ := List.mem_filter.1 (hm.subset List.mem_cons_self)
      exact .inr ⟨beq_iff_eq.1 hcp, beq_iff_eq.1 hdp, hc, hd⟩
    · obtain ⟨rfl, htail⟩ := List.cons.inj heq
      obtain ⟨rfl, hnil⟩ := List.cons.inj htail
      obtain ⟨rfl, -⟩ := List.append_eq_nil_iff.1 hnil.symm
      obtain ⟨hcd, hc, hd⟩ := before_filter_iff.1 hl
      exact .inl ⟨(beq_iff_eq.1 hc).trans (beq_iff_eq.1 hd).symm, hcd⟩
  · rintro (⟨hphase, hcd⟩ | ⟨hc, hd, hcm, hdm⟩)
    · cases hd : d.phase with
      | parseConfiguration =>
        have hfirst : Before (r.candidates.filter (·.phase == .parseConfiguration)) c d :=
          before_filter_iff.2 ⟨hcd, beq_iff_eq.2 (hphase.trans hd), beq_iff_eq.2 hd⟩
        exact hfirst.trans (List.sublist_append_left _ _)
      | registerBean =>
        have hsecond : Before (r.candidates.filter (·.phase == .registerBean)) c d :=
          before_filter_iff.2 ⟨hcd, beq_iff_eq.2 (hphase.trans hd), beq_iff_eq.2 hd⟩
        exact hsecond.trans (List.sublist_append_right _ _)
    · have hc' : [c].Sublist (r.candidates.filter (·.phase == .parseConfiguration)) :=
        List.singleton_sublist.2 (List.mem_filter.2 ⟨hcm, beq_iff_eq.2 hc⟩)
      have hd' : [d].Sublist (r.candidates.filter (·.phase == .registerBean)) :=
        List.singleton_sublist.2 (List.mem_filter.2 ⟨hdm, beq_iff_eq.2 hd⟩)
      exact hc'.append hd'

/-- One of the two sees what the other registers when it is activated. -/
def Interfere (f : Facts) (c d : Candidate) : Prop :=
  c.Sees f ⟨d.id, d.registeredTypes, .candidate⟩ ∨ d.Sees f ⟨c.id, c.registeredTypes, .candidate⟩

/-- **Justified steps may be rearranged** as long as each comes after the same of those that it sees. -/
theorem Justified.rearrange {s : Settings} {f : Facts} {ps qs : List Step} (h : Justified s f ps) (hperm : qs.Perm ps)
    (hnodup : (ps.map Prod.fst).Nodup)
    (hcustom : ∀ p ∈ ps, ∀ condition ∈ p.1.conditions, condition.isCustom = false)
    (horder : ∀ p ∈ ps, ∀ q ∈ ps, q.1.Sees f ⟨p.1.id, p.1.registeredTypes, .candidate⟩ →
      (Before ps p q ↔ Before qs p q)) : Justified s f qs := by
  intro pre c e post hqs
  have hce : (c, e) ∈ ps := hperm.mem_iff.1 (by rw [hqs]; exact List.mem_append_right _ List.mem_cons_self)
  obtain ⟨pre', post', hps⟩ := List.append_of_mem hce
  have hnps : ps.Nodup := hnodup.of_map
  have hnqs : qs.Nodup := hperm.nodup_iff.2 hnps
  rw [← h pre' c e post' hps]
  refine Candidate.examine_congr c.phase (hcustom _ hce) fun r hr => ?_
  have hsame : ∀ d e', c.Sees f ⟨d.id, d.registeredTypes, .candidate⟩ → ((d, e') ∈ pre ↔ (d, e') ∈ pre') := by
    intro d e' hsees
    have hbefore : (d, e') ∈ ps → (Before ps (d, e') (c, e) ↔ Before qs (d, e') (c, e)) := fun hd =>
      horder (d, e') hd (c, e) hce hsees
    rw [hps] at hnps
    rw [hqs] at hnqs
    rw [← before_iff_mem hnqs, ← before_iff_mem hnps, ← hps, ← hqs]
    constructor
    · intro hd
      exact (hbefore (hperm.mem_iff.1 (hd.subset List.mem_cons_self))).2 hd
    · intro hd
      exact (hbefore (hd.subset List.mem_cons_self)).1 hd
  rw [mem_activatedBy, mem_activatedBy]
  constructor
  · rintro ⟨d, e', hd, he', rfl⟩
    exact ⟨d, e', (hsame d e' hr).1 hd, he', rfl⟩
  · rintro ⟨d, e', hd, he', rfl⟩
    exact ⟨d, e', (hsame d e' hr).2 hd, he', rfl⟩

theorem exists_perm_of_map_perm {α β : Type} {g : α → β} {l : List β} {m : List α} (h : l.Perm (m.map g)) :
    ∃ l' : List α, l'.map g = l ∧ l'.Perm m := by
  have hcomp : Relation.Comp (fun l l' => l = List.map g l') List.Perm l m := by
    rw [List.eq_map_comp_perm]
    exact h
  obtain ⟨l', rfl, hperm⟩ := hcomp
  exact ⟨l', rfl, hperm⟩

section TwoOrders

variable {s : Settings} {f : Facts} {r r' : Registry}

/-- The same candidates, none with a custom condition, in orders that agree on any two of one phase that interfere. -/
structure Reordered (f : Facts) (r r' : Registry) : Prop where
  ids : r.ids.Nodup
  same : r'.candidates.Perm r.candidates
  noCustom : ∀ c ∈ r.candidates, ∀ condition ∈ c.conditions, condition.isCustom = false
  order : ∀ c ∈ r.candidates, ∀ d ∈ r.candidates, Interfere f c d → c.phase = d.phase →
    (Before r.candidates c d ↔ Before r'.candidates c d)

theorem Reordered.symm (h : Reordered f r r') : Reordered f r' r where
  ids := (h.same.map _).nodup_iff.2 h.ids
  same := h.same.symm
  noCustom c hc := h.noCustom c (h.same.mem_iff.1 hc)
  order c hc d hd hi hp := (h.order c (h.same.mem_iff.1 hc) d (h.same.mem_iff.1 hd) hi hp).symm

theorem Reordered.before_processing (h : Reordered f r r') {c d : Candidate} (hc : c ∈ r.candidates)
    (hd : d ∈ r.candidates) (hi : Interfere f c d) : Before r.processing c d ↔ Before r'.processing c d := by
  rw [Registry.before_processing_iff, Registry.before_processing_iff, h.same.mem_iff, h.same.mem_iff]
  exact or_congr_left (and_congr_right fun hp => h.order c hc d hd hi hp)

/-- A run that succeeds does so in the other order too, with the same entries. -/
theorem Reordered.resolve_ok (h : Reordered f r r') {res : Resolution} (hres : (resolve s f r).result = .ok res) :
    ∃ res', (resolve s f r').result = .ok res' ∧ res'.trace.Perm res.trace := by
  obtain ⟨ps, hmap, hps, rfl⟩ := resolve_eq_ok_iff.1 hres
  have hprocessing : r'.processing.Perm (ps.map Prod.fst) := by
    rw [hmap]
    exact r'.processing_perm.trans (h.same.trans r.processing_perm.symm)
  obtain ⟨qs, hmap', hperm⟩ := exists_perm_of_map_perm hprocessing
  have hnodup : (ps.map Prod.fst).Nodup := by
    rw [hmap]
    exact r.processing_perm.nodup_iff.2 h.ids.of_map
  have hnodup' : (qs.map Prod.fst).Nodup := (hperm.map _).nodup_iff.2 hnodup
  have hmem : ∀ p ∈ ps, p.1 ∈ r.candidates := fun p hp =>
    r.processing_perm.mem_iff.1 (hmap ▸ List.mem_map_of_mem hp)
  have hqs : Justified s f qs := hps.rearrange hperm hnodup (fun p hp => h.noCustom p.1 (hmem p hp))
    fun p hp q hq hsees => by
      rw [← before_map_iff hnodup hp hq, ← before_map_iff hnodup' (hperm.mem_iff.2 hp) (hperm.mem_iff.2 hq), hmap,
        hmap']
      exact h.before_processing (hmem p hp) (hmem q hq) (.inr hsees)
  refine ⟨_, resolve_eq_ok_iff.2 ⟨qs, hmap', hqs, rfl⟩, ?_⟩
  rw [Resolution.addAll_trace, Resolution.addAll_trace]
  exact (hperm.map _).append_left _

end TwoOrders

theorem Trace.entry?_eq_some_iff {t : Trace} (h : (t.map (·.candidate)).Nodup) {id : String} {e : Entry} :
    t.entry? id = some e ↔ e ∈ t ∧ e.candidate = id := by
  have hfound : ∀ {id : String} {d : Entry}, t.entry? id = some d → d ∈ t ∧ d.candidate = id := fun {id d} hd =>
    ⟨List.mem_of_find?_eq_some hd, beq_iff_eq.1 (List.find?_some (p := fun d : Entry => d.candidate == id) hd)⟩
  constructor
  · exact hfound
  · rintro ⟨he, rfl⟩
    cases hfind : t.entry? e.candidate with
    | none => exact absurd (beq_self_eq_true e.candidate) (List.find?_eq_none.1 hfind e he)
    | some d => rw [List.inj_on_of_nodup_map h (hfound hfind).1 he (hfound hfind).2]

/-- **Order matters only between candidates that interfere.**  Two registries with the same candidates, none with a
custom condition, in orders that agree on any two of one phase that interfere, are resolved both or neither, and then
every candidate has the same entry. -/
theorem resolve_order_independent {s : Settings} {f : Facts} {r r' : Registry} (h : Reordered f r r') :
    ((∃ res, (resolve s f r).result = .ok res) ↔ ∃ res', (resolve s f r').result = .ok res') ∧
    ∀ res res', (resolve s f r).result = .ok res → (resolve s f r').result = .ok res' →
      ∀ id, res.trace.entry? id = res'.trace.entry? id := by
  constructor
  · constructor
    · rintro ⟨res, hres⟩
      obtain ⟨res', hres', -⟩ := h.resolve_ok hres
      exact ⟨res', hres'⟩
    · rintro ⟨res', hres'⟩
      obtain ⟨res, hres, -⟩ := h.symm.resolve_ok hres'
      exact ⟨res, hres⟩
  · intro res res' hres hres' id
    obtain ⟨other, hother, hperm⟩ := h.resolve_ok hres
    obtain rfl := Except.ok.inj (hother.symm.trans hres')
    have hnodup : (res.trace.map (·.candidate)).Nodup := (resolve_candidates hres).nodup_iff.2 h.ids
    have hnodup' : (other.trace.map (·.candidate)).Nodup := (hperm.map _).nodup_iff.2 hnodup
    refine Option.ext fun e => ?_
    rw [Trace.entry?_eq_some_iff hnodup, Trace.entry?_eq_some_iff hnodup', hperm.mem_iff]

/-- The fallback looks for what the pool registers and stays behind it; the metrics interfere with neither and come
first in one order and last in the other. -/
theorem resolve_order_independent_of_metrics :
    let f : Facts := { hierarchy := ⟨[("Pool", "Source")]⟩ }
    let pool : Candidate := { id := "pool", types := ["Pool"] }
    let fallback : Candidate :=
      { id := "fallback", types := ["Source"], conditions := [.beanAbsent { types := ["Source"] }] }
    let metrics : Candidate := { id := "metrics", conditions := [.notWebApplication] }
    Reordered f ⟨[pool, fallback, metrics]⟩ ⟨[metrics, pool, fallback]⟩ ∧ Interfere f pool fallback ∧
      ∃ res res', (resolve {} f ⟨[pool, fallback, metrics]⟩).result = .ok res ∧
        (resolve {} f ⟨[metrics, pool, fallback]⟩).result = .ok res' ∧
        ∀ id, res.trace.entry? id = res'.trace.entry? id := by
  intro f pool fallback metrics
  have hpicked : Interfere f pool fallback :=
    .inr ⟨.beanAbsent { types := ["Source"] }, List.mem_cons_self, { types := ["Source"] }, rfl,
      .inr (BeanSearch.hasScope_iff.2 rfl), .inr ⟨"Source", .inl List.mem_cons_self, "Pool", List.mem_cons_self,
        .single List.mem_cons_self⟩⟩
  have hblind : ∀ r, ¬metrics.Sees f r := by
    rintro r ⟨condition, hc, search, hsearch, -⟩
    rw [List.mem_singleton.1 hc] at hsearch
    cases hsearch
  have hunseen : ∀ d ∈ [pool, fallback, metrics], ¬d.Sees f ⟨metrics.id, metrics.registeredTypes, .candidate⟩ := by
    simp only [List.forall_mem_cons]
    refine ⟨fun ⟨_, hc, _⟩ => (nomatch hc), ?_, hblind _, fun _ hd => (nomatch hd)⟩
    rintro ⟨condition, hc, search, hsearch, -, hname | ⟨type, -, t, ht, -⟩⟩
    · rw [List.mem_singleton.1 hc] at hsearch
      rw [← Option.some.inj hsearch] at hname
      cases hname
    · cases ht
  have hmetrics : ∀ d ∈ [pool, fallback, metrics], ¬Interfere f metrics d ∧ ¬Interfere f d metrics := fun d hd =>
    ⟨fun h => h.elim (hblind _) (hunseen d hd), fun h => h.elim (hunseen d hd) (hblind _)⟩
  have hperm : [pool, fallback, metrics].Perm [metrics, pool, fallback] :=
    List.perm_append_singleton metrics [pool, fallback]
  have h : Reordered f ⟨[pool, fallback, metrics]⟩ ⟨[metrics, pool, fallback]⟩ := by
    refine ⟨by decide, hperm.symm, ?_, ?_⟩
    · simp [pool, fallback, metrics, Condition.isCustom]
    · intro c hc d hd hi _
      rw [← before_map_iff (g := fun c : Candidate => c.id) (by decide) hc hd,
        ← before_map_iff (g := fun c : Candidate => c.id) (by decide) (hperm.mem_iff.1 hc) (hperm.mem_iff.1 hd)]
      have hc' : c = pool ∨ c = fallback ∨ c = metrics := by simpa using hc
      have hd' : d = pool ∨ d = fallback ∨ d = metrics := by simpa using hd
      -- the pool and the fallback keep their order, and the metrics interfere with none
      rcases hc' with rfl | rfl | rfl
      · rcases hd' with rfl | rfl | rfl
        · decide
        · decide
        · exact absurd hi (hmetrics pool hc).2
      · rcases hd' with rfl | rfl | rfl
        · decide
        · decide
        · exact absurd hi (hmetrics fallback hc).2
      · exact absurd hi (hmetrics d hd).1
  obtain ⟨res, hres⟩ : ∃ res, (resolve {} f ⟨[pool, fallback, metrics]⟩).result = .ok res := by
    have hok : (resolve {} f ⟨[pool, fallback, metrics]⟩).result.toOption.isSome = true := by decide +kernel
    cases hres : (resolve {} f ⟨[pool, fallback, metrics]⟩).result with
    | error fault =>
      rw [hres] at hok
      cases hok
    | ok res => exact ⟨res, rfl⟩
  obtain ⟨res', hres'⟩ := (resolve_order_independent h).1.1 ⟨res, hres⟩
  exact ⟨h, hpicked, res, res', hres, hres', (resolve_order_independent h).2 res res' hres hres'⟩

end Wiring
