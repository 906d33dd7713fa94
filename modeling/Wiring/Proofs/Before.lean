import Mathlib.Data.List.Nodup
/-!
# Before — which of two elements of a list comes first
-/
namespace Wiring

/-- The first element comes before the second. -/
abbrev Before {α : Type} (l : List α) (x y : α) : Prop := [x, y].Sublist l

theorem before_iff_mem {α : Type} {x y : α} {pre post : List α} (h : (pre ++ y :: post).Nodup) :
    Before (pre ++ y :: post) x y ↔ x ∈ pre := by
  obtain ⟨hpre, hpost, hdisjoint⟩ := List.nodup_append.1 h
  constructor
  · intro hxy
    obtain ⟨l, m, heq, hl, hm⟩ := List.sublist_append_iff.1 hxy
    cases l with
    | nil =>
      -- both would come at or after the only place of the second element
      obtain rfl : m = [x, y] := heq.symm
      rcases List.cons_sublist_cons'.1 hm with hm | ⟨-, hm⟩
      · exact absurd (hm.subset (List.mem_cons_of_mem _ List.mem_cons_self)) (List.nodup_cons.1 hpost).1
      · exact absurd (hm.subset List.mem_cons_self) (List.nodup_cons.1 hpost).1
    | cons z l =>
      obtain ⟨rfl, -⟩ := List.cons.inj heq
      exact hl.subset List.mem_cons_self
  · intro hx
    exact (List.singleton_sublist.2 hx).append (List.singleton_sublist.2 List.mem_cons_self)

theorem before_map_iff {α β : Type} {g : α → β} {l : List α} (h : (l.map g).Nodup) {x y : α} (hx : x ∈ l) (hy : y ∈ l) :
    Before (l.map g) (g x) (g y) ↔ Before l x y := by
  constructor
  · intro hxy
    obtain ⟨m, hm, heq⟩ := List.sublist_map_iff.1 hxy
    obtain ⟨x', m, rfl, hx', heq⟩ := List.map_eq_cons_iff.1 heq.symm
    obtain ⟨y', m, rfl, hy', heq⟩ := List.map_eq_cons_iff.1 heq
    obtain rfl := List.map_eq_nil_iff.1 heq
    have hinj := List.inj_on_of_nodup_map h
    rwa [hinj (hm.subset List.mem_cons_self) hx hx',
      hinj (hm.subset (List.mem_cons_of_mem _ List.mem_cons_self)) hy hy'] at hm
  · intro hxy
    exact hxy.map g

theorem before_filter_iff {α : Type} {p : α → Bool} {l : List α} {x y : α} :
    Before (l.filter p) x y ↔ Before l x y ∧ p x = true ∧ p y = true := by
  constructor
  · intro h
    exact ⟨h.trans List.filter_sublist, (List.mem_filter.1 (h.subset List.mem_cons_self)).2,
      (List.mem_filter.1 (h.subset (List.mem_cons_of_mem _ List.mem_cons_self))).2⟩
  · rintro ⟨h, hx, hy⟩
    have := h.filter p
    rwa [List.filter_cons_of_pos hx, List.filter_cons_of_pos hy] at this

theorem before_mem {α : Type} {l : List α} {x y : α} (h : Before l x y) : x ∈ l ∧ y ∈ l :=
  ⟨h.subset List.mem_cons_self, h.subset (List.mem_cons_of_mem _ List.mem_cons_self)⟩

theorem before_ne {α : Type} {l : List α} (hl : l.Nodup) {x y : α} (h : Before l x y) : x ≠ y := by
  have := h.nodup hl
  simpa using this

theorem before_trans {α : Type} {l : List α} (hl : l.Nodup) {x y z : α} (hxy : Before l x y) (hyz : Before l y z) :
    Before l x z := by
  obtain ⟨pre, post, rfl⟩ := List.append_of_mem (before_mem hyz).2
  have hy : y ∈ pre := (before_iff_mem hl).1 hyz
  obtain ⟨first, rest, rfl⟩ := List.append_of_mem hy
  rw [before_iff_mem hl]
  rw [List.append_assoc, List.cons_append] at hl hxy
  exact List.mem_append_left _ ((before_iff_mem hl).1 hxy)

theorem exists_lt_of_before {α : Type} {l : List α} (hl : l.Nodup) {a b : α} (h : Before l a b) :
    ∃ i j : Nat, i < j ∧ l[i]? = some a ∧ l[j]? = some b := by
  obtain ⟨pre, post, rfl⟩ := List.append_of_mem (before_mem h).2
  obtain ⟨i, hi, ha⟩ := List.getElem_of_mem ((before_iff_mem hl).1 h)
  refine ⟨i, pre.length, hi, ?_, by simp⟩
  rw [List.getElem?_append_left hi, List.getElem?_eq_getElem hi, ha]

end Wiring
