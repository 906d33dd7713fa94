import Mathlib.Data.Set.Card
import Mathlib.Logic.Relation
import Mathlib.Order.WellFounded
import Wiring.Hints
import Wiring.Proofs.Before
/-!
# Order — what the hints ask for, and the order that they get

The hints ask that some positions come before others (`Precedes`).  An order that honours them all exists unless they
run in a circle, and the one found is the least of all in dictionary order (`order_least`).
-/
namespace Wiring

theorem getElem?_append_singleton {α : Type} {l : List α} {a b : α} {k : Nat} :
    (l ++ [a])[k]? = some b ↔ l[k]? = some b ∨ k = l.length ∧ b = a := by
  rw [List.getElem?_append]
  by_cases hk : k < l.length
  · have : k ≠ l.length := Nat.ne_of_lt hk
    simp [hk, this]
  · rw [if_neg hk, List.getElem?_singleton, List.getElem?_eq_none (Nat.le_of_not_lt hk)]
    by_cases hk0 : k = l.length
    · simp [hk0, eq_comm]
    · have : k - l.length ≠ 0 := by omega
      simp [hk0, this]

namespace Hints

/-- The position is that of the last component with the id. -/
structure Denotes (cs : List Component) (id : String) (j : Nat) : Prop where
  named : ∃ c, cs[j]? = some c ∧ c.id = id
  last : ∀ k c, j < k → cs[k]? = some c → c.id ≠ id

/-- A hint asks that the one position comes before the other: the later one names the earlier, or the other way round. -/
structure Precedes (cs : List Component) (i j : Nat) : Prop where
  ne : i ≠ j
  asked : ∃ a b, cs[i]? = some a ∧ cs[j]? = some b ∧
    ((∃ id ∈ b.after, Denotes cs id i) ∨ ∃ id ∈ a.before, Denotes cs id j)

/-- The order has every position once, and each one after all that must come before it. -/
structure Honours (cs : List Component) (o : List Nat) : Prop where
  perm : o.Perm (List.range cs.length)
  ordered : ∀ i j, Precedes cs i j → Before o i j

variable {cs : List Component}

theorem denoted?_append (c : Component) (id : String) :
    denoted? (cs ++ [c]) id = if c.id = id then some cs.length else denoted? cs id := by
  unfold denoted?
  rw [List.zipIdx_append, List.filter_append]
  by_cases hc : c.id = id <;> simp [hc]

theorem denotes_append_iff {c : Component} {id : String} {j : Nat} :
    Denotes (cs ++ [c]) id j ↔ if c.id = id then j = cs.length else Denotes cs id j := by
  have hlt : ∀ {k d}, cs[k]? = some d → k < cs.length := fun h => (List.getElem?_eq_some_iff.1 h).1
  by_cases hc : c.id = id
  · rw [if_pos hc]
    constructor
    · rintro ⟨⟨d, hd, -⟩, hlast⟩
      rcases getElem?_append_singleton.1 hd with hd | ⟨hj, -⟩
      · exact absurd hc (hlast cs.length c (hlt hd) (getElem?_append_singleton.2 (.inr ⟨rfl, rfl⟩)))
      · exact hj
    · rintro rfl
      refine ⟨⟨c, getElem?_append_singleton.2 (.inr ⟨rfl, rfl⟩), hc⟩, fun k d hk hd => ?_⟩
      rcases getElem?_append_singleton.1 hd with hd | ⟨rfl, -⟩
      · exact absurd (hlt hd) (Nat.lt_asymm hk)
      · exact absurd hk (Nat.lt_irrefl _)
  · rw [if_neg hc]
    constructor
    · rintro ⟨⟨d, hd, hid⟩, hlast⟩
      rcases getElem?_append_singleton.1 hd with hd | ⟨-, rfl⟩
      · exact ⟨⟨d, hd, hid⟩, fun k e hk he => hlast k e hk (getElem?_append_singleton.2 (.inl he))⟩
      · exact absurd hid hc
    · rintro ⟨⟨d, hd, hid⟩, hlast⟩
      refine ⟨⟨d, getElem?_append_singleton.2 (.inl hd), hid⟩, fun k e hk he => ?_⟩
      rcases getElem?_append_singleton.1 he with he | ⟨-, rfl⟩
      · exact hlast k e hk he
      · exact hc

theorem denoted?_eq_some_iff {id : String} {j : Nat} : denoted? cs id = some j ↔ Denotes cs id j := by
  induction cs using List.reverseRecOn with
  | nil =>
    constructor
    · intro h
      cases h
    · rintro ⟨⟨c, hc, -⟩, -⟩
      cases hc
  | append_singleton cs c ih =>
    rw [denoted?_append, denotes_append_iff]
    by_cases hc : c.id = id
    · rw [if_pos hc, if_pos hc, Option.some.injEq, eq_comm]
    · rw [if_neg hc, if_neg hc, ih]

theorem other?_eq_some_iff {id : String} {i j : Nat} : other? cs i id = some j ↔ j ≠ i ∧ Denotes cs id j := by
  unfold other?
  rw [Option.bind_eq_some_iff]
  constructor
  · rintro ⟨k, hk, h⟩
    by_cases hki : k = i
    · simp [hki] at h
    · rw [if_neg hki, Option.some.injEq] at h
      subst h
      exact ⟨hki, denoted?_eq_some_iff.1 hk⟩
  · rintro ⟨hne, hj⟩
    exact ⟨j, denoted?_eq_some_iff.2 hj, if_neg hne⟩

/-- **The edges are what the hints ask for**, however often and from whichever side. -/
theorem mem_edges_iff {i j : Nat} : (i, j) ∈ edges cs ↔ Precedes cs i j := by
  have hdenoted : ∀ {id k}, Denotes cs id k → ∃ c, cs[k]? = some c := fun h => ⟨_, h.named.choose_spec.1⟩
  unfold edges edgesOf
  simp only [List.mem_flatMap, List.mem_append, List.mem_map, List.mem_filterMap, other?_eq_some_iff, Prod.exists,
    List.mem_zipIdx_iff_getElem?, Prod.mk.injEq]
  constructor
  · rintro ⟨c, k, hc, ⟨m, ⟨id, hid, hm, hden⟩, rfl, rfl⟩ | ⟨m, ⟨id, hid, hm, hden⟩, rfl, rfl⟩⟩
    · obtain ⟨a, ha⟩ := hdenoted hden
      exact ⟨hm, a, c, ha, hc, .inl ⟨id, hid, hden⟩⟩
    · obtain ⟨b, hb⟩ := hdenoted hden
      exact ⟨hm.symm, c, b, hc, hb, .inr ⟨id, hid, hden⟩⟩
  · rintro ⟨hne, a, b, ha, hb, ⟨id, hid, hden⟩ | ⟨id, hid, hden⟩⟩
    · exact ⟨b, j, hb, .inl ⟨i, ⟨id, hid, hne, hden⟩, rfl, rfl⟩⟩
    · exact ⟨a, i, ha, .inr ⟨j, ⟨id, hid, hne.symm, hden⟩, rfl, rfl⟩⟩

theorem Precedes.bound {i j : Nat} (h : Precedes cs i j) : i < cs.length ∧ j < cs.length := by
  obtain ⟨a, b, ha, hb, -⟩ := h.asked
  exact ⟨(List.getElem?_eq_some_iff.1 ha).1, (List.getElem?_eq_some_iff.1 hb).1⟩

/-! ## Positions taken as the least that are free -/

namespace Sorting.LeastFirst

variable {es : List Edge} {n : Nat} {taken : List Nat}

theorem of_append {i : Nat} (h : LeastFirst es n (taken ++ [i])) : LeastFirst es n taken ∧ Free es n taken i :=
  ⟨fun pre k post heq => h pre k (post ++ [i]) (by rw [heq]; simp), (h taken i [] rfl).1⟩

theorem nodup (h : LeastFirst es n taken) : taken.Nodup := by
  induction taken using List.reverseRecOn with
  | nil => exact List.nodup_nil
  | append_singleton taken i ih =>
    obtain ⟨htaken, hi⟩ := h.of_append
    exact List.concat_eq_append ▸ (ih htaken).concat hi.notTaken

theorem lt_of_mem (h : LeastFirst es n taken) {i : Nat} (hi : i ∈ taken) : i < n := by
  obtain ⟨pre, post, rfl⟩ := List.append_of_mem hi
  exact (h pre i post rfl).1.bound

theorem before_of_edge (h : LeastFirst es n taken) {i j : Nat} (hi : i < n) (hj : j ∈ taken) (he : (i, j) ∈ es) :
    Before taken i j := by
  have hnodup := h.nodup
  obtain ⟨pre, post, rfl⟩ := List.append_of_mem hj
  exact (before_iff_mem hnodup).2 ((h pre j post rfl).1.predecessors i hi he)

/-- A position to which no edge comes is taken before every greater one. -/
theorem before_of_lt (h : LeastFirst es n taken) {i j : Nat} (hij : i < j) (hj : j ∈ taken)
    (hi : ∀ k, (k, i) ∉ es) : Before taken i j := by
  have hnodup := h.nodup
  have hjn := h.lt_of_mem hj
  obtain ⟨pre, post, rfl⟩ := List.append_of_mem hj
  refine (before_iff_mem hnodup).2 (Decidable.by_contra fun hpre => ?_)
  have hfree : Free es n pre i := ⟨by omega, hpre, fun k _ he => absurd he (hi k)⟩
  have := (h pre j post rfl).2 i hfree
  omega

/-- Without a position that is free, and without a circle of edges, every position was taken. -/
theorem perm_of_acyclic (h : LeastFirst es n taken) (hnone : ∀ j, ¬ Free es n taken j)
    (hacyclic : ∀ i, ¬ Relation.TransGen (fun i j => (i, j) ∈ es) i i) : taken.Perm (List.range n) := by
  have hwf : WellFounded fun i j : Fin n => Relation.TransGen (fun i j => (i, j) ∈ es) i.val j.val := by
    have htrans : IsTrans (Fin n) fun i j => Relation.TransGen (fun i j => (i, j) ∈ es) i.val j.val :=
      ⟨fun _ _ _ hij hjk => hij.trans hjk⟩
    have hirrefl : Std.Irrefl fun i j : Fin n => Relation.TransGen (fun i j => (i, j) ∈ es) i.val j.val :=
      ⟨fun i => hacyclic i.val⟩
    exact Finite.wellFounded_of_trans_of_irrefl _
  -- by induction along the edges: one whose predecessors were all taken would be free
  have hall : ∀ j : Fin n, j.val ∈ taken := by
    intro j
    induction j using hwf.induction with
    | _ j ih =>
      refine Decidable.by_contra fun hj => hnone j.val ⟨j.isLt, hj, fun i hi he => ?_⟩
      exact ih ⟨i, hi⟩ (.single he)
  refine (List.perm_ext_iff_of_nodup h.nodup List.nodup_range).2 fun j => ?_
  rw [List.mem_range]
  exact ⟨h.lt_of_mem, fun hj => hall ⟨j, hj⟩⟩

end Sorting.LeastFirst

theorem Honours.nodup {o : List Nat} (h : Honours cs o) : o.Nodup := h.perm.nodup_iff.2 List.nodup_range

theorem Honours.before_of_transGen {o : List Nat} (h : Honours cs o) {i j : Nat}
    (hij : Relation.TransGen (Precedes cs) i j) : Before o i j := by
  induction hij with
  | single hij => exact h.ordered _ _ hij
  | tail _ hjk ih => exact before_trans h.nodup ih (h.ordered _ _ hjk)

theorem Honours.acyclic {o : List Nat} (h : Honours cs o) (i : Nat) : ¬ Relation.TransGen (Precedes cs) i i :=
  fun hi => before_ne h.nodup (h.before_of_transGen hi) rfl

theorem honours_of_leastFirst {o : List Nat} (h : Sorting.LeastFirst (edges cs) cs.length o)
    (hperm : o.Perm (List.range cs.length)) : Honours cs o := by
  refine ⟨hperm, fun i j hij => ?_⟩
  obtain ⟨hi, hj⟩ := hij.bound
  exact h.before_of_edge hi (hperm.mem_iff.2 (List.mem_range.2 hj)) (mem_edges_iff.2 hij)

/-- What comes next in an order that honours the hints is free. -/
theorem Honours.free {pre post : List Nat} {i : Nat} (h : Honours cs (pre ++ i :: post)) :
    Sorting.Free (edges cs) cs.length pre i := by
  have hnodup := h.nodup
  refine ⟨?_, fun hi => ?_, fun k _ he => ?_⟩
  · exact List.mem_range.1 (h.perm.mem_iff.1 (List.mem_append_right _ List.mem_cons_self))
  · exact before_ne hnodup ((before_iff_mem hnodup).2 hi) rfl
  · exact (before_iff_mem hnodup).1 (h.ordered k i (mem_edges_iff.1 he))

/-- Where an order that honours the hints parts from the one of least free positions, it takes a greater one. -/
theorem Honours.eq_or_lex (pre : List Nat) : ∀ {rest rest' : List Nat},
    Sorting.LeastFirst (edges cs) cs.length (pre ++ rest) → Honours cs (pre ++ rest') →
      rest = rest' ∨ List.Lex (· < ·) rest rest'
  | [], [], _, _ => .inl rfl
  | [], _ :: _, _, _ => .inr .nil
  | i :: rest, [], h, h' => by
    have hfree := (h pre i rest rfl).1
    have hi := h'.perm.mem_iff.2 (List.mem_range.2 hfree.bound)
    rw [List.append_nil] at hi
    exact absurd hi hfree.notTaken
  | i :: rest, j :: rest', h, h' => by
    have hle : i ≤ j := (h pre i rest rfl).2 j h'.free
    rcases Nat.lt_or_eq_of_le hle with hlt | rfl
    · exact .inr (.rel hlt)
    · rw [List.append_cons] at h h'
      exact (Honours.eq_or_lex (pre ++ [i]) h h').imp (congrArg (i :: ·)) .cons

theorem order_eq_ok_iff {o : List Nat} :
    order cs = .ok o ↔ o = sorted (edges cs) cs.length ∧ o.Perm (List.range cs.length) := by
  obtain ⟨hleast, -⟩ := sorted_leastFirst (edges cs) cs.length
  have hperm : (sorted (edges cs) cs.length).length = cs.length ↔
      (sorted (edges cs) cs.length).Perm (List.range cs.length) := by
    constructor
    · intro hlen
      refine (List.subperm_of_subset hleast.nodup fun i hi => ?_).perm_of_length_le ?_
      · exact List.mem_range.2 (hleast.lt_of_mem hi)
      · rw [hlen, List.length_range]
    · intro hperm
      rw [hperm.length_eq, List.length_range]
  simp only [order]
  split
  · rename_i hlen
    rw [Except.ok.injEq]
    constructor
    · rintro rfl
      exact ⟨rfl, hperm.1 hlen⟩
    · rintro ⟨rfl, -⟩
      rfl
  · rename_i hlen
    constructor
    · intro h
      cases h
    · rintro ⟨rfl, h⟩
      exact absurd (hperm.2 h) hlen

/-- There is an order exactly when the hints do not run in a circle. -/
theorem exists_order_iff : (∃ o, order cs = .ok o) ↔ ∀ i, ¬ Relation.TransGen (Precedes cs) i i := by
  obtain ⟨hleast, hnone⟩ := sorted_leastFirst (edges cs) cs.length
  constructor
  · rintro ⟨o, ho⟩
    obtain ⟨rfl, hperm⟩ := order_eq_ok_iff.1 ho
    exact (honours_of_leastFirst hleast hperm).acyclic
  · intro hacyclic
    refine ⟨_, order_eq_ok_iff.2 ⟨rfl, hleast.perm_of_acyclic hnone ?_⟩⟩
    simpa only [mem_edges_iff] using hacyclic

theorem honours_of_order {o : List Nat} (h : order cs = .ok o) : Honours cs o := by
  obtain ⟨rfl, hperm⟩ := order_eq_ok_iff.1 h
  exact honours_of_leastFirst (sorted_leastFirst (edges cs) cs.length).1 hperm

theorem eq_or_lex_of_order {o p : List Nat} (h : order cs = .ok o) (hp : Honours cs p) :
    o = p ∨ List.Lex (· < ·) o p := by
  obtain ⟨rfl, -⟩ := order_eq_ok_iff.1 h
  exact Honours.eq_or_lex [] (sorted_leastFirst (edges cs) cs.length).1 hp

/-- A position that need not come after any other comes before every greater one. -/
theorem before_of_order {o : List Nat} (h : order cs = .ok o) {i j : Nat} (hij : i < j) (hj : j < cs.length)
    (hi : ∀ k, ¬ Precedes cs k i) : Before o i j := by
  have hmem := (honours_of_order h).perm.mem_iff.2 (List.mem_range.2 hj)
  obtain ⟨rfl, -⟩ := order_eq_ok_iff.1 h
  exact (sorted_leastFirst (edges cs) cs.length).1.before_of_lt hij hmem fun k he => hi k (mem_edges_iff.1 he)

theorem start_counts {j : Nat} (hj : j < cs.length) :
    (Sorting.start (edges cs) cs.length).counts[j]? = some {i | Precedes cs i j}.ncard := by
  have hset : {i | Precedes cs i j} =
      ((List.range cs.length).filter fun i => (edges cs).contains (i, j)).toFinset := by
    ext i
    simp only [Set.mem_ofPred_eq, List.coe_toFinset, List.mem_filter, List.mem_range, List.contains_iff_mem,
      mem_edges_iff]
    exact ⟨fun h => ⟨h.bound.1, h⟩, fun h => h.2⟩
  rw [hset, Set.ncard_coe_finset, List.toFinset_card_of_nodup (List.nodup_range.filter _), ← List.countP_eq_length_filter]
  simp [Sorting.start, hj]

/-- **The order is the least that honours the hints.**  There is one exactly when the hints do not run in a circle.  It
has every position once and honours every hint, and it comes first in dictionary order among all that do, so that a
position that need not come after any other stays before every greater one.  A position counts each of those that must
come before it once, and no count is ever too small for the edges that are taken off it. -/
theorem order_least (cs : List Component) :
    ((∃ o, order cs = .ok o) ↔ ∀ i, ¬ Relation.TransGen (Precedes cs) i i) ∧
    (∀ o, order cs = .ok o → Honours cs o ∧ (∀ p, Honours cs p → o = p ∨ List.Lex (· < ·) o p) ∧
      ∀ i j, i < j → j < cs.length → (∀ k, ¬ Precedes cs k i) → Before o i j) ∧
    (∀ j < cs.length, (Sorting.start (edges cs) cs.length).counts[j]? = some {i | Precedes cs i j}.ncard) ∧
    (Sorting.start (edges cs) cs.length).run (edges cs) cs.length ≠ none := by
  refine ⟨exists_order_iff, fun o ho => ⟨honours_of_order ho, fun p hp => ?_, fun i j => before_of_order ho⟩,
    fun j => start_counts, ?_⟩
  · obtain ⟨rfl, -⟩ := order_eq_ok_iff.1 ho
    exact Honours.eq_or_lex [] (sorted_leastFirst (edges cs) cs.length).1 hp
  · exact Option.isSome_iff_ne_none.1 (Sorting.run_start_isSome (edges cs) cs.length)

/-- The second core asks for what the web asks for, so that the web counts it once; the first one asks for nothing by
its own id. -/
theorem order_least_of_both_sides :
    let cs : List Component := [{ id := "web", after := ["core", "core"] }, { id := "log" },
      { id := "core", after := ["core"] }, { id := "core", after := ["none", "core"], before := ["web"] }]
    order cs = .ok [1, 3, 0, 2] ∧ (∀ i, ¬ Relation.TransGen (Precedes cs) i i) ∧ Honours cs [1, 3, 0, 2] ∧
      (∀ p, Honours cs p → [1, 3, 0, 2] = p ∨ List.Lex (· < ·) [1, 3, 0, 2] p) ∧ Before [1, 3, 0, 2] 1 2 ∧
      {i | Precedes cs i 0}.ncard = 1 := by
  intro cs
  have ho : order cs = .ok [1, 3, 0, 2] := by decide +kernel
  have hedges : edges cs = [(3, 0), (3, 0), (3, 2), (3, 0)] := by decide +kernel
  have hfree : ∀ k, ¬ Precedes cs k 1 := by
    intro k hk
    have := mem_edges_iff.2 hk
    rw [hedges] at this
    simp at this
  obtain ⟨hiff, hok, hcount, -⟩ := order_least cs
  obtain ⟨hhonours, hleast, hbefore⟩ := hok _ ho
  have hzero : (Sorting.start (edges cs) cs.length).counts[0]? = some 1 := by decide +kernel
  refine ⟨ho, hiff.1 ⟨_, ho⟩, hhonours, hleast, hbefore 1 2 (by decide) (by decide) hfree, ?_⟩
  rw [hcount 0 (by decide)] at hzero
  exact Option.some.inj hzero

end Hints
end Wiring
