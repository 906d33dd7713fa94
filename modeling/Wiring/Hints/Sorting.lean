/-!
# Sorting — positions put in order along edges

For every position the edges from positions not yet taken are counted.  Positions without any are ready; the least of
them is taken, and each edge from it is taken off a count.  `Sorting.run_after` says what comes out: at every turn the
least position all of whose predecessors were taken, until there is none; and no count is ever too small.
-/
namespace Wiring
namespace Hints

/-- An edge from the position that comes first. -/
abbrev Edge := Nat × Nat

/-- The positions to which edges lead, ascending and each once. -/
def successors (es : List Edge) (n i : Nat) : List Nat := (List.range n).filter fun j => es.contains (i, j)

/-- How far a sorting has come: the count of every position, the positions that are ready, ascending, and those taken,
in order. -/
structure Sorting where
  counts : List Nat
  ready : List Nat
  taken : List Nat
  deriving DecidableEq

namespace Sorting

/-- Ascending positions with one more. -/
def insert (j : Nat) : List Nat → List Nat
  | [] => [j]
  | k :: ks => if j < k then j :: k :: ks else if j = k then k :: ks else k :: insert j ks

/-- Each position counts those from which an edge comes to it, however often the edge is there. -/
def start (es : List Edge) (n : Nat) : Sorting :=
  let counts := (List.range n).map fun j => (List.range n).countP fun i => es.contains (i, j)
  ⟨counts, (List.range n).filter fun j => counts[j]? == some 0, []⟩

/-- Takes one edge off the count of a position, which is ready once no edge is left.  There is nothing to take off a
count of zero. -/
def release (s : Sorting) (j : Nat) : Option Sorting :=
  match s.counts[j]? with
  | some (k + 1) => some ⟨s.counts.set j k, if k = 0 then insert j s.ready else s.ready, s.taken⟩
  | _ => none

/-- Takes a position, the first of those ready. -/
def take (es : List Edge) (n : Nat) (s : Sorting) (i : Nat) (ready : List Nat) : Option Sorting :=
  (successors es n i).foldlM release ⟨s.counts, ready, s.taken ++ [i]⟩

/-- The turns that may be to come: one for every position that is ready, and one for every position that may be. -/
def pending (s : Sorting) : Nat := s.ready.length + s.counts.countP (0 < ·)

theorem length_insert_le (j : Nat) : ∀ ks : List Nat, (insert j ks).length ≤ ks.length + 1
  | [] => by simp [insert]
  | k :: ks => by
    have := length_insert_le j ks
    rw [insert]
    split
    · simp
    · split
      · simp
      · simpa using this

theorem pending_release {s t : Sorting} {j : Nat} (h : s.release j = some t) : t.pending ≤ s.pending := by
  unfold release at h
  split at h
  · rename_i k hk
    obtain ⟨hj, hget⟩ := List.getElem?_eq_some_iff.1 hk
    have hpos : 0 < s.counts.countP (0 < ·) :=
      List.countP_pos_iff.2 ⟨s.counts[j], List.getElem_mem hj, by simp [hget]⟩
    have hins := length_insert_le j s.ready
    have hcount : (s.counts.set j k).countP (0 < ·) =
        s.counts.countP (0 < ·) - 1 + if decide (0 < k) = true then 1 else 0 := by
      rw [List.countP_set hj, hget, if_pos (decide_eq_true (Nat.succ_pos k))]
    cases h
    simp only [pending, hcount]
    by_cases hk0 : k = 0
    · have hk : ¬ decide (0 < k) = true := by simp [hk0]
      rw [if_pos hk0, if_neg hk]
      omega
    · have hk : decide (0 < k) = true := decide_eq_true (Nat.pos_of_ne_zero hk0)
      rw [if_neg hk0, if_pos hk]
      omega
  · cases h

theorem pending_foldlM : ∀ (js : List Nat) {s t : Sorting}, js.foldlM release s = some t → t.pending ≤ s.pending
  | [], s, t, h => by
    cases h
    exact Nat.le_refl _
  | j :: js, s, t, h => by
    rw [List.foldlM_cons] at h
    obtain ⟨u, hu, ht⟩ := Option.bind_eq_some_iff.1 h
    exact Nat.le_trans (pending_foldlM js ht) (pending_release hu)

/-- **Every turn leaves at least one turn less.** -/
theorem pending_take {es : List Edge} {n : Nat} {s t : Sorting} {i : Nat} {ready : List Nat} (hs : s.ready = i :: ready)
    (h : s.take es n i ready = some t) : t.pending < s.pending := by
  have := pending_foldlM _ h
  simp only [pending, hs, List.length_cons] at this ⊢
  omega

/-- Takes positions until none is ready.  Were a count too small, there would be no answer. -/
def run (es : List Edge) (n : Nat) (s : Sorting) : Option Sorting :=
  match _ : s.ready with
  | [] => some s
  | i :: ready =>
    match _ : s.take es n i ready with
    | none => none
    | some t => t.run es n
termination_by s.pending
decreasing_by exact pending_take ‹_› ‹_›

/-! ## What a sorting comes to -/

/-- The edges to a position from positions not taken. -/
def incoming (es : List Edge) (n : Nat) (taken : List Nat) (j : Nat) : Nat :=
  (List.range n).countP fun i => es.contains (i, j) && !taken.contains i

/-- How far a sorting has come when these are the counts and these positions are taken. -/
def counting (count : Nat → Nat) (n : Nat) (taken : List Nat) : Sorting :=
  ⟨(List.range n).map count, (List.range n).filter fun j => count j == 0 && !taken.contains j, taken⟩

/-- How far a sorting has come once these positions are taken. -/
def after (es : List Edge) (n : Nat) (taken : List Nat) : Sorting := counting (incoming es n taken) n taken

@[simp] theorem counting_counts (count : Nat → Nat) (n : Nat) (taken : List Nat) :
    (counting count n taken).counts = (List.range n).map count := rfl

@[simp] theorem after_taken (es : List Edge) (n : Nat) (taken : List Nat) : (after es n taken).taken = taken := rfl

theorem counting_congr {count count' : Nat → Nat} {n : Nat} (taken : List Nat) (h : ∀ j < n, count j = count' j) :
    counting count n taken = counting count' n taken := by
  have hmap : (List.range n).map count = (List.range n).map count' :=
    List.map_congr_left fun j hj => h j (List.mem_range.1 hj)
  have hfilter : (List.range n).filter (fun j => count j == 0 && !taken.contains j) =
      (List.range n).filter fun j => count' j == 0 && !taken.contains j :=
    List.filter_congr fun j hj => by rw [h j (List.mem_range.1 hj)]
  rw [counting, hmap, hfilter, counting]

theorem insert_of_forall_lt {j : Nat} : ∀ {ks : List Nat}, (∀ k ∈ ks, j < k) → insert j ks = j :: ks
  | [], _ => rfl
  | k :: ks, h => by rw [insert, if_pos (h k List.mem_cons_self)]

theorem insert_filter {j : Nat} {p : Nat → Bool} : ∀ {ks : List Nat}, ks.Pairwise (· < ·) → j ∈ ks →
    insert j (ks.filter p) = ks.filter fun k => k == j || p k
  | [], _, hj => by simp at hj
  | k :: ks, hks, hj => by
    obtain ⟨hk, hks⟩ := List.pairwise_cons.1 hks
    by_cases hjk : j = k
    · subst hjk
      have hrest : ks.filter (fun k => k == j || p k) = ks.filter p := by
        refine List.filter_congr fun m hm => ?_
        have : m ≠ j := Nat.ne_of_gt (hk m hm)
        simp [this]
      have hfirst : insert j (ks.filter p) = j :: ks.filter p :=
        insert_of_forall_lt fun m hm => hk m (List.mem_filter.1 hm).1
      by_cases hp : p j = true
      · simp [hp, hrest, insert]
      · simp [hp, hrest, hfirst]
    · have hj : j ∈ ks := (List.mem_cons.1 hj).resolve_left hjk
      have hlt : ¬ j < k := Nat.lt_asymm (hk j hj)
      have hkj : ¬ k = j := fun h => hjk h.symm
      have ih := insert_filter (p := p) hks hj
      by_cases hp : p k = true
      · simp [hp, insert, hlt, hjk, ih]
      · simp [hp, hkj, ih]

theorem release_counting {count : Nat → Nat} {n : Nat} {taken : List Nat} {j k : Nat} (hj : j < n) (ht : j ∉ taken)
    (hk : count j = k + 1) :
    (counting count n taken).release j = some (counting (fun m => if m = j then k else count m) n taken) := by
  have hget : ((List.range n).map count)[j]? = some (k + 1) := by simp [hj, hk]
  have hcounts : ((List.range n).map count).set j k = (List.range n).map fun m => if m = j then k else count m := by
    refine List.ext_getElem? fun m => ?_
    by_cases hm : j = m
    · subst hm
      simp [hj]
    · have hne : ¬ m = j := fun h => hm h.symm
      rw [List.getElem?_set_ne hm, List.getElem?_map, List.getElem?_map]
      by_cases hmn : m < n
      · simp [hmn, hne]
      · simp [hmn]
  have hready : (if k = 0 then insert j (counting count n taken).ready else (counting count n taken).ready) =
      (List.range n).filter fun m => (if m = j then k else count m) == 0 && !taken.contains m := by
    by_cases hk0 : k = 0
    · rw [if_pos hk0, counting, insert_filter List.pairwise_lt_range (List.mem_range.2 hj)]
      refine List.filter_congr fun m _ => ?_
      by_cases hm : m = j
      · simp [hm, hk0, ht]
      · simp [hm]
    · rw [if_neg hk0, counting]
      refine List.filter_congr fun m _ => ?_
      by_cases hm : m = j
      · simp [hm, hk0, hk]
      · simp [hm]
  unfold release
  rw [counting_counts, hget]
  simp only [hready, hcounts]
  rfl

/-- **No count is too small** as long as none of the positions was taken and each is counted as often as it comes. -/
theorem foldlM_release {n : Nat} {taken : List Nat} : ∀ (js : List Nat) (count : Nat → Nat),
    (∀ j ∈ js, j < n ∧ j ∉ taken ∧ js.count j ≤ count j) →
      js.foldlM release (counting count n taken) = some (counting (fun m => count m - js.count m) n taken)
  | [], count, _ => by simp
  | j :: js, count, h => by
    obtain ⟨hj, ht, hle⟩ := h j List.mem_cons_self
    rw [List.count_cons_self] at hle
    obtain ⟨k, hk⟩ : ∃ k, count j = k + 1 := ⟨count j - 1, by omega⟩
    rw [List.foldlM_cons, release_counting hj ht hk]
    have hjs : ∀ m ∈ js, m < n ∧ m ∉ taken ∧ js.count m ≤ if m = j then k else count m := by
      intro m hm
      obtain ⟨hmn, hmt, hmle⟩ := h m (List.mem_cons_of_mem _ hm)
      refine ⟨hmn, hmt, ?_⟩
      by_cases hmj : m = j
      · rw [if_pos hmj, hmj]
        omega
      · rw [List.count_cons_of_ne (Ne.symm hmj)] at hmle
        rwa [if_neg hmj]
    rw [Option.bind_eq_bind, Option.bind_some, foldlM_release js _ hjs]
    congr 2
    funext m
    by_cases hmj : m = j
    · subst hmj
      rw [if_pos rfl, List.count_cons_self, hk]
      omega
    · rw [if_neg hmj, List.count_cons_of_ne (Ne.symm hmj)]

theorem countP_eq_add_one {p : Nat → Bool} {i : Nat} (hp : p i = true) : ∀ {l : List Nat}, l.Nodup → i ∈ l →
    l.countP p = (l.countP fun m => p m && m != i) + 1
  | [], _, hi => by simp at hi
  | k :: l, hl, hi => by
    obtain ⟨hk, hl⟩ := List.nodup_cons.1 hl
    by_cases hki : k = i
    · subst hki
      have hrest : l.countP (fun m => p m && m != k) = l.countP p := by
        refine List.countP_congr fun m hm => ?_
        have : m ≠ k := fun h => hk (h ▸ hm)
        simp [this]
      simp [hp, hrest]
    · have ih := countP_eq_add_one hp hl ((List.mem_cons.1 hi).resolve_left (Ne.symm hki))
      have hpk : (p k && k != i) = p k := by simp [hki]
      rw [List.countP_cons, List.countP_cons, ih, hpk, Nat.add_right_comm]

variable {es : List Edge} {n : Nat}

theorem mem_successors {i j : Nat} : j ∈ successors es n i ↔ j < n ∧ (i, j) ∈ es := by
  simp [successors]

theorem count_successors {i j : Nat} (hj : j < n) : (successors es n i).count j = if (i, j) ∈ es then 1 else 0 := by
  have hnodup : (successors es n i).Nodup := List.Nodup.sublist List.filter_sublist List.nodup_range
  rw [hnodup.count]
  simp [mem_successors, hj]

/-- Taking a position takes its edges off. -/
theorem incoming_append {taken : List Nat} {i j : Nat} (hi : i < n) (ht : i ∉ taken) (hj : j < n) :
    incoming es n (taken ++ [i]) j = incoming es n taken j - (successors es n i).count j := by
  have hsplit : incoming es n (taken ++ [i]) j =
      (List.range n).countP fun m => (es.contains (m, j) && !taken.contains m) && m != i := by
    refine List.countP_congr fun m _ => ?_
    simp [and_assoc]
  rw [hsplit, count_successors hj]
  by_cases he : (i, j) ∈ es
  · have hp : (es.contains (i, j) && !taken.contains i) = true := by simp [he, ht]
    have := countP_eq_add_one (p := fun m => es.contains (m, j) && !taken.contains m) hp List.nodup_range
      (List.mem_range.2 hi)
    rw [if_pos he, incoming]
    omega
  · rw [if_neg he, Nat.sub_zero]
    refine List.countP_congr fun m _ => ?_
    have : (m, j) ∈ es → m ≠ i := fun h hm => he (hm ▸ h)
    simp only [Bool.and_eq_true, List.contains_iff_mem, bne_iff_ne]
    exact ⟨fun h => h.1, fun h => ⟨h, this h.1⟩⟩

/-- The position was not taken and may be: all from which edges come to it were taken. -/
structure Free (es : List Edge) (n : Nat) (taken : List Nat) (j : Nat) : Prop where
  bound : j < n
  notTaken : j ∉ taken
  predecessors : ∀ i < n, (i, j) ∈ es → i ∈ taken

/-- Every position was taken as the least one that was free. -/
def LeastFirst (es : List Edge) (n : Nat) (taken : List Nat) : Prop :=
  ∀ pre i post, taken = pre ++ i :: post → Free es n pre i ∧ ∀ j, Free es n pre j → i ≤ j

theorem mem_ready_after {taken : List Nat} {j : Nat} : j ∈ (after es n taken).ready ↔ Free es n taken j := by
  have hcount : incoming es n taken j = 0 ↔ ∀ i < n, (i, j) ∈ es → i ∈ taken := by
    rw [incoming, List.countP_eq_zero]
    simp
  simp only [after, counting, List.mem_filter, List.mem_range, Bool.and_eq_true, beq_iff_eq, hcount,
    Bool.not_eq_true', List.contains_eq_mem, decide_eq_false_iff_not]
  exact ⟨fun ⟨hj, hp, ht⟩ => ⟨hj, ht, hp⟩, fun h => ⟨h.bound, h.predecessors, h.notTaken⟩⟩

/-- The first of the positions that are ready is the least one that is free. -/
theorem least_of_ready {taken : List Nat} {i : Nat} {ready : List Nat} (h : (after es n taken).ready = i :: ready) :
    Free es n taken i ∧ ∀ j, Free es n taken j → i ≤ j := by
  have hascending : (after es n taken).ready.Pairwise (· < ·) := List.Pairwise.filter _ List.pairwise_lt_range
  refine ⟨mem_ready_after.1 (h ▸ List.mem_cons_self), fun j hj => ?_⟩
  have hj := mem_ready_after.2 hj
  rw [h] at hascending hj
  rcases List.mem_cons.1 hj with rfl | hj
  · exact Nat.le_refl _
  · exact Nat.le_of_lt ((List.pairwise_cons.1 hascending).1 j hj)

namespace LeastFirst

theorem nil : LeastFirst es n [] := fun pre _ _ h => by cases pre <;> cases h

theorem append {taken : List Nat} {i : Nat} (h : LeastFirst es n taken) (hi : Free es n taken i)
    (hleast : ∀ j, Free es n taken j → i ≤ j) : LeastFirst es n (taken ++ [i]) := by
  intro pre k post heq
  rcases post.eq_nil_or_concat with rfl | ⟨rest, m, rfl⟩
  · obtain ⟨rfl, hik⟩ := List.append_inj' heq rfl
    obtain ⟨rfl, -⟩ := List.cons.inj hik
    exact ⟨hi, hleast⟩
  · have hsplit : taken ++ [i] = (pre ++ k :: rest) ++ [m] := by
      rw [heq, List.concat_eq_append, List.append_assoc, List.cons_append]
    exact h pre k rest (List.append_inj' hsplit rfl).1

/-- With a position all from which edges come to it were taken. -/
theorem mem_of_edge {taken : List Nat} (h : LeastFirst es n taken) {i j : Nat} (hj : j ∈ taken) (hi : i < n)
    (he : (i, j) ∈ es) : i ∈ taken := by
  obtain ⟨pre, post, rfl⟩ := List.append_of_mem hj
  exact List.mem_append_left _ ((h pre j post rfl).1.predecessors i hi he)

end LeastFirst

theorem start_eq : start es n = after es n [] := by
  have hcount : ∀ j, ((List.range n).countP fun i => es.contains (i, j)) = incoming es n [] j := by
    intro j
    simp [incoming]
  rw [after, ← counting_congr [] fun j _ => hcount j, start, counting]
  congr 1
  refine List.filter_congr fun j hj => ?_
  simp [List.mem_range.1 hj]

/-- Taking the first of the positions that are ready leaves the others. -/
theorem ready_of_cons {taken : List Nat} {i : Nat} {ready : List Nat} (h : (after es n taken).ready = i :: ready) :
    ready = (List.range n).filter fun j => incoming es n taken j == 0 && !(taken ++ [i]).contains j := by
  have hothers : ready = (after es n taken).ready.filter (· != i) := by
    have hnodup : (after es n taken).ready.Nodup := List.Nodup.sublist List.filter_sublist List.nodup_range
    rw [h] at hnodup ⊢
    obtain ⟨hi, -⟩ := List.nodup_cons.1 hnodup
    rw [List.filter_cons_of_neg (by simp), List.filter_eq_self.2]
    intro j hj
    have : j ≠ i := fun h => hi (h ▸ hj)
    simp [this]
  rw [hothers, after, counting, List.filter_filter]
  refine List.filter_congr fun j _ => ?_
  by_cases hji : j = i <;> simp [hji]

/-- No edge leads from a free position to one that was taken, or back to itself. -/
theorem Free.notTaken_of_edge {taken : List Nat} {i j : Nat} (hi : Free es n taken i) (h : LeastFirst es n taken)
    (he : (i, j) ∈ es) : j ∉ taken ++ [i] := by
  intro hj
  rcases List.mem_append.1 hj with hj | hj
  · exact hi.notTaken (h.mem_of_edge hj hi.bound he)
  · rw [List.mem_singleton.1 hj] at he
    exact hi.notTaken (hi.predecessors i hi.bound he)

/-- **A turn takes the first position and leaves the counts right.** -/
theorem take_after {taken : List Nat} {i : Nat} {ready : List Nat} (h : LeastFirst es n taken)
    (hr : (after es n taken).ready = i :: ready) :
    (after es n taken).take es n i ready = some (after es n (taken ++ [i])) := by
  obtain ⟨hi, -⟩ := least_of_ready hr
  -- the edge that is taken off is among those counted
  have hcounted : ∀ j ∈ successors es n i,
      j < n ∧ j ∉ taken ++ [i] ∧ (successors es n i).count j ≤ incoming es n taken j := by
    intro j hj
    obtain ⟨hjn, he⟩ := mem_successors.1 hj
    refine ⟨hjn, hi.notTaken_of_edge h he, ?_⟩
    rw [count_successors hjn, if_pos he]
    exact List.countP_pos_iff.2 ⟨i, List.mem_range.2 hi.bound, by simp [he, hi.notTaken]⟩
  have hstate : (⟨(after es n taken).counts, ready, taken ++ [i]⟩ : Sorting) =
      counting (incoming es n taken) n (taken ++ [i]) := by
    rw [ready_of_cons hr]
    rfl
  rw [take, after_taken, hstate, foldlM_release _ _ hcounted, after]
  congr 1
  exact counting_congr _ fun j hj => (incoming_append hi.bound hi.notTaken hj).symm

/-- **A sorting always has an answer**: it takes the least free position over and over, until none is free. -/
theorem run_after {taken : List Nat} (h : LeastFirst es n taken) : ∃ final, (after es n taken).run es n =
    some (after es n final) ∧ LeastFirst es n final ∧ ∀ j, ¬ Free es n final j := by
  generalize hs : after es n taken = s
  fun_induction run es n s generalizing taken with
  | case1 s hr =>
    subst hs
    refine ⟨taken, rfl, h, fun j hj => ?_⟩
    have := mem_ready_after.2 hj
    rw [hr] at this
    cases this
  | case2 s i ready hr ht =>
    subst hs
    rw [take_after h hr] at ht
    cases ht
  | case3 s i ready hr t ht ih =>
    subst hs
    rw [take_after h hr] at ht
    obtain ⟨hi, hleast⟩ := least_of_ready hr
    exact ih (h.append hi hleast) (Option.some.inj ht)

/-- A sorting from the start has an answer. -/
theorem run_start (es : List Edge) (n : Nat) : ∃ final, (start es n).run es n = some (after es n final) ∧
    LeastFirst es n final ∧ ∀ j, ¬ Free es n final j := by
  rw [start_eq]
  exact run_after .nil

theorem run_start_isSome (es : List Edge) (n : Nat) : ((start es n).run es n).isSome = true := by
  obtain ⟨final, hfinal, -⟩ := run_start es n
  rw [hfinal]
  rfl

end Sorting

/-- The positions in order: the least that may be taken is taken, until none is left or none may be. -/
def sorted (es : List Edge) (n : Nat) : List Nat :=
  (((Sorting.start es n).run es n).get (Sorting.run_start_isSome es n)).taken

/-- **What is taken is the least free position at every turn**, and at the end none is free. -/
theorem sorted_leastFirst (es : List Edge) (n : Nat) :
    Sorting.LeastFirst es n (sorted es n) ∧ ∀ j, ¬ Sorting.Free es n (sorted es n) j := by
  obtain ⟨final, hfinal, hleast, hnone⟩ := Sorting.run_start es n
  have hsorted : sorted es n = final := by
    simp only [sorted, hfinal, Option.get_some, Sorting.after_taken]
  rw [hsorted]
  exact ⟨hleast, hnone⟩

end Hints
end Wiring
