import Mathlib.Data.List.Basic
import Wiring.Report
/-!
# Sections — what a report makes of a trace

Each section has the entries of the trace that belong there, in the trace's order, and the groups of skipped entries
stand in the order of their kinds (`Sections.Sorted`).  An entry that belongs nowhere is dropped; without such entries
the sections have all of the trace (`Sections.ofTrace_entries_perm`).
-/
namespace Wiring

namespace ConditionKind

variable {k l m : ConditionKind}

theorem precedes_iff :
    k.precedes l = true ↔ k.rank < l.rank ∨ k.rank = l.rank ∧ k.customName < l.customName := by
  simp [precedes]

theorem eq_of_rank (hrank : k.rank = l.rank) (hname : k.customName = l.customName) : k = l := by
  cases k <;> cases l <;> simp_all [rank, customName]

theorem precedes_irrefl (k : ConditionKind) : ¬k.precedes k = true := by
  rw [precedes_iff]
  rintro (h | ⟨-, h⟩)
  · omega
  · exact String.lt_irrefl _ h

theorem precedes_trans (hkl : k.precedes l = true) (hlm : l.precedes m = true) : k.precedes m = true := by
  rw [precedes_iff] at *
  rcases hkl with hkl | ⟨hkl, hnames⟩
  · exact .inl (by omega)
  · rcases hlm with hlm | ⟨hlm, hnames'⟩
    · exact .inl (by omega)
    · exact .inr ⟨hkl.trans hlm, String.lt_trans hnames hnames'⟩

theorem precedes_of_not (hkl : ¬k.precedes l = true) (hne : k ≠ l) : l.precedes k = true := by
  rw [precedes_iff] at *
  rw [not_or, not_and] at hkl
  obtain ⟨hrank, hname⟩ := hkl
  by_cases h : k.rank = l.rank
  · refine .inr ⟨h.symm, Std.lt_of_le_of_ne (String.not_lt.1 (hname h)) fun he => ?_⟩
    exact hne (eq_of_rank h he.symm)
  · exact .inl (by omega)

end ConditionKind

namespace Report

/-- Groups of skipped entries in the order of their kinds. -/
def Ordered (gs : List (ConditionKind × List Entry)) : Prop := gs.Pairwise fun g h => g.1.precedes h.1 = true

/-- The kind under which an entry is listed among the negative matches. -/
def groupOf? (e : Entry) : Option ConditionKind :=
  if e.excluded || e.isUnconditional || e.outcome.isActivated then none else e.failing?.map (·.kind)

namespace Sections

/-! ### Groups -/

section Groups

variable {k : ConditionKind} {e : Entry}

theorem mem_addTo {h : ConditionKind × List Entry} : ∀ {gs : List (ConditionKind × List Entry)},
    h ∈ addTo k e gs → h ∈ gs ∨ h.1 = k ∧ e ∈ h.2
  | [], hmem => by
    obtain rfl := List.mem_singleton.1 hmem
    exact .inr ⟨rfl, List.mem_singleton_self e⟩
  | g :: gs, hmem => by
    rw [addTo] at hmem
    split at hmem
    · rcases List.mem_cons.1 hmem with rfl | hmem
      · exact .inr ⟨rfl, List.mem_singleton_self e⟩
      · exact .inl hmem
    · split at hmem
      · rename_i hk
        rcases List.mem_cons.1 hmem with rfl | hmem
        · exact .inr ⟨hk.symm, by simp⟩
        · exact .inl (List.mem_cons_of_mem _ hmem)
      · rcases List.mem_cons.1 hmem with rfl | hmem
        · exact .inl List.mem_cons_self
        · exact (mem_addTo hmem).imp_left (List.mem_cons_of_mem _)

theorem addTo_ordered : ∀ {gs : List (ConditionKind × List Entry)}, Ordered gs → Ordered (addTo k e gs)
  | [], _ => List.pairwise_singleton _ _
  | g :: gs, h => by
    obtain ⟨hg, hgs⟩ := List.pairwise_cons.1 h
    rw [addTo]
    split
    · rename_i hk
      refine List.pairwise_cons.2 ⟨fun h hmem => ?_, h⟩
      rcases List.mem_cons.1 hmem with rfl | hmem
      · exact hk
      · exact ConditionKind.precedes_trans hk (hg h hmem)
    · rename_i hk
      split
      · exact List.pairwise_cons.2 ⟨hg, hgs⟩
      · rename_i hne
        refine List.pairwise_cons.2 ⟨fun h hmem => ?_, addTo_ordered hgs⟩
        rcases mem_addTo hmem with hmem | ⟨rfl, -⟩
        · exact hg h hmem
        · exact ConditionKind.precedes_of_not hk hne

theorem lookup_eq_none_of_precedes {gs : List (ConditionKind × List Entry)}
    (h : ∀ g ∈ gs, k.precedes g.1 = true) : gs.lookup k = none := by
  rw [List.lookup_eq_none_iff]
  intro g hg
  refine bne_iff_ne.2 fun heq => ConditionKind.precedes_irrefl k ?_
  have := h g hg
  rwa [← heq] at this

/-- An entry comes to the end of its group, which is new when there was none, and the others stay. -/
theorem lookup_addTo (other : ConditionKind) : ∀ {gs : List (ConditionKind × List Entry)}, Ordered gs →
    (addTo k e gs).lookup other = if other = k then some ((gs.lookup k).getD [] ++ [e]) else gs.lookup other
  | [], _ => by
    by_cases h : other = k
    · simp [addTo, h]
    · simp [addTo, List.lookup_cons, beq_eq_false_iff_ne.2 h, h]
  | (l, es) :: gs, hord => by
    obtain ⟨hl, hgs⟩ := List.pairwise_cons.1 hord
    rw [addTo]
    by_cases hbefore : k.precedes l = true
    · -- All groups are of kinds behind `k`, so it has none yet.
      have hnone : ((l, es) :: gs).lookup k = none := by
        refine lookup_eq_none_of_precedes (List.forall_mem_cons.2 ⟨hbefore, fun h hh => ?_⟩)
        exact ConditionKind.precedes_trans hbefore (hl h hh)
      rw [if_pos hbefore, hnone, List.lookup_cons]
      by_cases h : other = k
      · simp [h]
      · simp [beq_eq_false_iff_ne.2 h, h]
    · rw [if_neg hbefore]
      by_cases hk : k = l
      · subst hk
        by_cases h : other = k
        · simp [h]
        · simp [List.lookup_cons, beq_eq_false_iff_ne.2 h, h]
      · rw [if_neg hk, List.lookup_cons, List.lookup_cons, List.lookup_cons, lookup_addTo other hgs]
        by_cases h : other = l
        · simp [h, Ne.symm hk]
        · simp [beq_eq_false_iff_ne.2 h, beq_eq_false_iff_ne.2 hk]

theorem addTo_perm : ∀ gs : List (ConditionKind × List Entry),
    ((addTo k e gs).flatMap (·.2)).Perm (e :: gs.flatMap (·.2))
  | [] => .refl _
  | g :: gs => by
    rw [addTo]
    split
    · exact .refl _
    · split
      · rw [List.flatMap_cons, List.flatMap_cons, List.append_assoc]
        exact List.perm_middle
      · rw [List.flatMap_cons, List.flatMap_cons]
        exact ((addTo_perm gs).append_left g.2).trans List.perm_middle

theorem lookup_eq_some_iff {es : List Entry} : ∀ {gs : List (ConditionKind × List Entry)}, Ordered gs →
    (gs.lookup k = some es ↔ (k, es) ∈ gs)
  | [], _ => by simp
  | (l, es') :: gs, hord => by
    obtain ⟨hl, hgs⟩ := List.pairwise_cons.1 hord
    rw [List.lookup_cons, List.mem_cons, Prod.mk.injEq]
    by_cases hk : k = l
    · subst hk
      have hnot : (k, es) ∉ gs := fun hmem => ConditionKind.precedes_irrefl k (hl _ hmem)
      simp [hnot, eq_comm]
    · simp [beq_eq_false_iff_ne.2 hk, hk, lookup_eq_some_iff hgs]

end Groups

/-- The groups of a trace: of each kind the entries that are listed under it, if there are any. -/
structure Grouped (gs : List (ConditionKind × List Entry)) (t : Trace) : Prop where
  ordered : Ordered gs
  nonempty : ∀ g ∈ gs, g.2 ≠ []
  group : ∀ k, (gs.lookup k).getD [] = t.filter fun e => groupOf? e == some k

namespace Grouped

variable {gs : List (ConditionKind × List Entry)} {t : Trace} {e : Entry} {k : ConditionKind}

theorem addTo (h : Grouped gs t) (hk : groupOf? e = some k) : Grouped (addTo k e gs) (t ++ [e]) := by
  refine ⟨addTo_ordered h.ordered, fun g hg => ?_, fun l => ?_⟩
  · rcases mem_addTo hg with hg | ⟨-, he⟩
    · exact h.nonempty g hg
    · exact List.ne_nil_of_mem he
  · rw [lookup_addTo l h.ordered, List.filter_append]
    by_cases hl : l = k
    · subst hl
      simp [h.group, hk]
    · simp [h.group l, hk, hl, Ne.symm hl]

theorem skip (h : Grouped gs t) (hk : groupOf? e = none) : Grouped gs (t ++ [e]) := by
  refine ⟨h.ordered, h.nonempty, fun l => ?_⟩
  rw [h.group l, List.filter_append]
  simp [hk]

theorem mem_iff (h : Grouped gs t) {es : List Entry} :
    (k, es) ∈ gs ↔ es ≠ [] ∧ es = t.filter fun e => groupOf? e == some k := by
  rw [← lookup_eq_some_iff h.ordered]
  have hk := h.group k
  constructor
  · intro hes
    rw [hes, Option.getD_some] at hk
    exact ⟨h.nonempty _ ((lookup_eq_some_iff h.ordered).1 hes), hk⟩
  · rintro ⟨hne, rfl⟩
    cases hes : gs.lookup k with
    | none =>
      rw [hes, Option.getD_none] at hk
      exact absurd hk.symm hne
    | some es =>
      rw [hes, Option.getD_some] at hk
      rw [hk]

theorem exists_mem_iff (h : Grouped gs t) : (∃ es, (k, es) ∈ gs ∧ e ∈ es) ↔ e ∈ t ∧ groupOf? e = some k := by
  constructor
  · rintro ⟨es, hes, he⟩
    rw [(h.mem_iff.1 hes).2, List.mem_filter, beq_iff_eq] at he
    exact he
  · rintro ⟨he, hk⟩
    have hmem : e ∈ t.filter fun e => groupOf? e == some k := List.mem_filter.2 ⟨he, by simp [hk]⟩
    exact ⟨_, h.mem_iff.2 ⟨List.ne_nil_of_mem hmem, rfl⟩, hmem⟩

theorem sublist (h : Grouped gs t) {g : ConditionKind × List Entry} (hg : g ∈ gs) : g.2.Sublist t := by
  rw [(h.mem_iff.1 hg).2]
  exact List.filter_sublist

end Grouped

/-! ### All sections -/

/-- What stands where after a trace. -/
structure Sorted (s : Sections) (t : Trace) : Prop where
  exclusions : s.exclusions = t.filter (·.excluded)
  unconditional : s.unconditional = t.filter fun e => !e.excluded && e.isUnconditional
  positive : s.positive = t.filter fun e => !e.excluded && !e.isUnconditional && e.outcome.isActivated
  negative : Grouped s.negative t

theorem add_eq (s : Sections) (e : Entry) : s.add e =
    { exclusions := s.exclusions ++ [e].filter (·.excluded)
      unconditional := s.unconditional ++ [e].filter fun e => !e.excluded && e.isUnconditional
      positive := s.positive ++ [e].filter fun e => !e.excluded && !e.isUnconditional && e.outcome.isActivated
      negative := (groupOf? e).elim s.negative fun k => addTo k e s.negative } := by
  unfold add groupOf?
  by_cases hx : e.excluded
  · simp [hx]
  · by_cases hu : e.isUnconditional
    · simp [hx, hu]
    · by_cases ha : e.outcome.isActivated
      · simp [hx, hu, ha]
      · cases hf : e.failing? <;> simp [hx, hu, ha]

namespace Sorted

variable {s : Sections} {t : Trace}

theorem empty : Sorted {} [] := ⟨rfl, rfl, rfl, List.Pairwise.nil, fun _ hg => (nomatch hg), fun _ => rfl⟩

theorem add (h : s.Sorted t) (e : Entry) : (s.add e).Sorted (t ++ [e]) := by
  rw [add_eq]
  refine ⟨?_, ?_, ?_, ?_⟩
  · rw [h.exclusions, List.filter_append]
  · rw [h.unconditional, List.filter_append]
  · rw [h.positive, List.filter_append]
  · cases hk : groupOf? e with
    | none => exact h.negative.skip hk
    | some k => exact h.negative.addTo hk

theorem addAll : ∀ (es : List Entry) {s : Sections} {t : Trace}, s.Sorted t → (es.foldl Sections.add s).Sorted (t ++ es)
  | [], _, _, h => by rwa [List.append_nil]
  | e :: es, _, _, h => by
    rw [List.append_cons]
    exact addAll es (h.add e)

end Sorted

theorem ofTrace_sorted (t : Trace) : (ofTrace t).Sorted t := Sorted.empty.addAll t

/-! ### Nothing is dropped -/

def entries (s : Sections) : List Entry :=
  s.exclusions ++ (s.unconditional ++ (s.positive ++ s.negative.flatMap (·.2)))

/-- The entry has a section. -/
def Belongs (e : Entry) : Prop :=
  e.excluded = true ∨ e.isUnconditional = true ∨ e.outcome.isActivated = true ∨ e.failing? ≠ none

theorem entries_add (s : Sections) {e : Entry} (h : Belongs e) : (s.add e).entries.Perm (e :: s.entries) := by
  refine List.perm_iff_count.2 fun a => ?_
  unfold add entries
  by_cases hx : e.excluded
  · simp only [hx, if_true, List.count_append, List.count_cons, List.count_nil]
    omega
  · by_cases hu : e.isUnconditional
    · simp only [hx, hu, Bool.false_eq_true, if_true, if_false, List.count_append, List.count_cons, List.count_nil]
      omega
    · by_cases ha : e.outcome.isActivated
      · simp only [hx, hu, ha, Bool.false_eq_true, if_true, if_false, List.count_append, List.count_cons,
          List.count_nil]
        omega
      · cases hf : e.failing? with
        | none => simp [Belongs, hx, hu, ha, hf] at h
        | some f =>
          have hgroup := (addTo_perm (k := f.kind) (e := e) s.negative).count_eq a
          simp only [hx, hu, ha, List.count_append, List.count_cons, hgroup, if_false, Bool.false_eq_true]
          omega

theorem entries_addAll : ∀ (es : List Entry) (s : Sections), (∀ e ∈ es, Belongs e) →
    (es.foldl Sections.add s).entries.Perm (es ++ s.entries)
  | [], _, _ => .refl _
  | e :: es, s, h => by
    obtain ⟨he, hes⟩ := List.forall_mem_cons.1 h
    exact (entries_addAll es (s.add e) hes).trans (((entries_add s he).append_left es).trans List.perm_middle)

theorem ofTrace_entries_perm {t : Trace} (h : ∀ e ∈ t, Belongs e) : (ofTrace t).entries.Perm t := by
  have := entries_addAll t {} h
  rwa [show entries {} = [] from rfl, List.append_nil] at this

end Sections
end Report
end Wiring
