import Mathlib.Data.List.Basic
import Wiring.Proofs.Before
import Wiring.Ranking
/-!
# Ranking — one insertion after the other is one stable sort

Inserting behind equals keeps a list ranked and puts the new element last among its equals (`filter_insert`).  A ranked
list is told by its elements of each rank (`eq_of_filter_eq`), so inserting the elements of a list one after the other
sorts it stably (`sorted_eq_mergeSort`), and who is first of those of a kind is told by the order of arrival
(`findSome?_sorted_iff`), as is which of two comes first (`before_sorted_iff`).
-/
namespace Wiring
namespace Ranking

variable {α β : Type} {before : α → α → Bool} {rank : α → Int}

/-- The rank never falls along the list. -/
def Ranked (rank : α → Int) (xs : List α) : Prop := xs.Pairwise fun x y => rank x ≤ rank y

/-- The value of the element of least rank that has one, of several the first. -/
def Leads (rank : α → Int) (value? : α → Option β) (xs : List α) (v : β) : Prop :=
  ∃ pre x post, xs = pre ++ x :: post ∧ value? x = some v ∧
    (∀ y ∈ pre, value? y ≠ none → rank x < rank y) ∧ ∀ y ∈ post, value? y ≠ none → rank x ≤ rank y

/-- There is one such value. -/
theorem Leads.unique {value? : α → Option β} {xs : List α} {v v' : β} (h : Leads rank value? xs v)
    (h' : Leads rank value? xs v') : v = v' := by
  obtain ⟨pre, x, post, rfl, hv, hpre, hpost⟩ := h
  obtain ⟨pre', x', post', heq, hv', hpre', hpost'⟩ := h'
  have hne : value? x ≠ none := by rw [hv]; exact Option.some_ne_none v
  have hne' : value? x' ≠ none := by rw [hv']; exact Option.some_ne_none v'
  -- of two elements at different places the earlier would have the lower rank and the later one no greater
  rcases List.append_eq_append_iff.1 heq with ⟨rest, rfl, hrest⟩ | ⟨rest, rfl, hrest⟩
  · cases rest with
    | nil =>
      obtain ⟨rfl, -⟩ := List.cons.inj hrest
      exact Option.some.inj (hv.symm.trans hv')
    | cons y rest =>
      obtain ⟨rfl, rfl⟩ := List.cons.inj hrest
      have hlt := hpre' x (List.mem_append_right _ List.mem_cons_self) hne
      have hle := hpost x' (List.mem_append_right _ List.mem_cons_self) hne'
      omega
  · cases rest with
    | nil =>
      obtain ⟨rfl, -⟩ := List.cons.inj hrest
      exact Option.some.inj (hv.symm.trans hv')
    | cons y rest =>
      obtain ⟨rfl, rfl⟩ := List.cons.inj hrest
      have hlt := hpre x' (List.mem_append_right _ List.mem_cons_self) hne'
      have hle := hpost' x (List.mem_append_right _ List.mem_cons_self) hne
      omega

/-- **A ranked list is told by its elements of each rank.** -/
theorem eq_of_filter_eq : ∀ {xs ys : List α}, Ranked rank xs → Ranked rank ys →
    (∀ k, xs.filter (fun x => rank x = k) = ys.filter fun x => rank x = k) → xs = ys
  | [], [], _, _, _ => rfl
  | [], y :: ys, _, _, h => by simpa using h (rank y)
  | x :: xs, [], _, _, h => by simpa using h (rank x)
  | x :: xs, y :: ys, hx, hy, h => by
    obtain ⟨hx, hxs⟩ := List.pairwise_cons.1 hx
    obtain ⟨hy, hys⟩ := List.pairwise_cons.1 hy
    -- each first element is somewhere in the other list, so neither has the greater rank
    have hmem : ∀ z, z ∈ x :: xs ↔ z ∈ y :: ys := fun z => by
      have := congrArg (z ∈ ·) (h (rank z))
      simpa only [List.mem_filter, decide_true, and_true, eq_iff_iff] using this
    have hle : rank x ≤ rank y := by
      rcases List.mem_cons.1 ((hmem y).2 List.mem_cons_self) with hyx | hyx
      · exact Int.le_of_eq (congrArg rank hyx.symm)
      · exact hx y hyx
    have hge : rank y ≤ rank x := by
      rcases List.mem_cons.1 ((hmem x).1 List.mem_cons_self) with hxy | hxy
      · exact Int.le_of_eq (congrArg rank hxy.symm)
      · exact hy x hxy
    have hrank : rank x = rank y := by omega
    have hfirst := h (rank x)
    rw [List.filter_cons_of_pos (by simp), List.filter_cons_of_pos (by simpa using hrank.symm)] at hfirst
    obtain ⟨rfl, -⟩ := List.cons.inj hfirst
    refine congrArg _ (eq_of_filter_eq hxs hys fun k => ?_)
    have hk := h k
    simp only [List.filter_cons] at hk
    split at hk
    · exact (List.cons.inj hk).2
    · exact hk

section Inserting

variable (hbefore : ∀ x y, before x y = true ↔ rank x < rank y)

include hbefore

theorem insert_ranked {x : α} : ∀ {ys : List α}, Ranked rank ys → Ranked rank (insert before x ys)
  | [], _ => List.pairwise_singleton _ x
  | y :: ys, h => by
    obtain ⟨hy, hys⟩ := List.pairwise_cons.1 h
    rw [insert]
    split
    · rename_i hxy
      have hxy := (hbefore x y).1 hxy
      refine List.pairwise_cons.2 ⟨fun z hz => ?_, h⟩
      rcases List.mem_cons.1 hz with rfl | hz
      · omega
      · have := hy z hz
        omega
    · rename_i hxy
      rw [hbefore] at hxy
      refine List.pairwise_cons.2 ⟨fun z hz => ?_, insert_ranked hys⟩
      rcases mem_insert.1 hz with rfl | hz
      · omega
      · exact hy z hz

/-- The new element comes last among those of its rank; the others stay as they were. -/
theorem filter_insert {x : α} (k : Int) : ∀ {ys : List α}, Ranked rank ys →
    (insert before x ys).filter (fun z => rank z = k) =
      ys.filter (fun z => rank z = k) ++ [x].filter fun z => rank z = k
  | [], _ => rfl
  | y :: ys, h => by
    obtain ⟨hy, hys⟩ := List.pairwise_cons.1 h
    rw [insert]
    split
    · rename_i hxy
      have hxy := (hbefore x y).1 hxy
      by_cases hk : rank x = k
      · -- all that follow have a greater rank
        have hnone : (y :: ys).filter (fun z => rank z = k) = [] := by
          refine List.filter_eq_nil_iff.2 fun z hz => ?_
          have hle : rank y ≤ rank z := by
            rcases List.mem_cons.1 hz with rfl | hz
            · exact Int.le_refl _
            · exact hy z hz
          rw [decide_eq_true_eq]
          omega
        rw [← List.singleton_append, List.filter_append, hnone, List.append_nil, List.nil_append]
      · rw [List.filter_cons_of_neg (by simpa using hk), List.filter_cons_of_neg (l := []) (by simpa using hk),
          List.filter_nil, List.append_nil]
    · rw [← List.singleton_append, List.filter_append, filter_insert k hys, ← List.append_assoc, ← List.filter_append,
        List.singleton_append]

theorem foldl_insert_ranked : ∀ {xs ys : List α}, Ranked rank ys →
    Ranked rank (xs.foldl (fun ys x => insert before x ys) ys)
  | [], _, h => h
  | x :: xs, ys, h => by
    rw [List.foldl_cons]
    exact foldl_insert_ranked (insert_ranked hbefore h)

theorem filter_foldl_insert (k : Int) : ∀ {xs ys : List α}, Ranked rank ys →
    (xs.foldl (fun ys x => insert before x ys) ys).filter (fun z => rank z = k) =
      ys.filter (fun z => rank z = k) ++ xs.filter fun z => rank z = k
  | [], ys, _ => (List.append_nil _).symm
  | x :: xs, ys, h => by
    rw [List.foldl_cons, filter_foldl_insert k (insert_ranked hbefore h), filter_insert hbefore k h, List.append_assoc,
      ← List.filter_append, List.singleton_append]

theorem sorted_ranked (xs : List α) : Ranked rank (sorted before xs) := foldl_insert_ranked hbefore List.Pairwise.nil

/-- Equals stay in order of arrival. -/
theorem filter_sorted (xs : List α) (k : Int) :
    (sorted before xs).filter (fun z => rank z = k) = xs.filter fun z => rank z = k :=
  filter_foldl_insert hbefore k List.Pairwise.nil

theorem mem_sorted {xs : List α} {x : α} : x ∈ sorted before xs ↔ x ∈ xs := by
  have := congrArg (x ∈ ·) (filter_sorted hbefore xs (rank x))
  simpa only [List.mem_filter, decide_true, and_true, eq_iff_iff] using this

/-- **Inserting one after the other is one stable sort.** -/
theorem sorted_eq_mergeSort (xs : List α) : sorted before xs = xs.mergeSort fun x y => rank x ≤ rank y := by
  have htrans : ∀ a b c : α, decide (rank a ≤ rank b) = true → decide (rank b ≤ rank c) = true →
      decide (rank a ≤ rank c) = true := fun a b c hab hbc => by
    rw [decide_eq_true_eq] at *
    omega
  have htotal : ∀ a b : α, (decide (rank a ≤ rank b) || decide (rank b ≤ rank a)) = true := fun a b => by
    rw [Bool.or_eq_true, decide_eq_true_eq, decide_eq_true_eq]
    omega
  have hranked : Ranked rank (xs.mergeSort fun x y => rank x ≤ rank y) :=
    (List.pairwise_mergeSort htrans htotal xs).imp of_decide_eq_true
  refine eq_of_filter_eq (sorted_ranked hbefore xs) hranked fun k => ?_
  rw [filter_sorted hbefore]
  -- the sort keeps the equals, which stand in order, as a sublist, and has no others of their rank
  have hequals : (xs.filter fun z => rank z = k).Pairwise fun x y => decide (rank x ≤ rank y) = true :=
    List.pairwise_of_forall_mem_list fun x hx y hy => by
      have hx := (List.mem_filter.1 hx).2
      have hy := (List.mem_filter.1 hy).2
      rw [decide_eq_true_eq] at *
      omega
  have hsub := (List.sublist_mergeSort htrans htotal hequals List.filter_sublist).filter fun z => rank z = k
  simp only [List.filter_filter, Bool.and_self] at hsub
  exact hsub.eq_of_length ((List.mergeSort_perm xs _).filter _).length_eq.symm

/-- **Of two elements** the one of lower rank comes first, and of equals the one that arrived first. -/
theorem before_sorted_iff {xs : List α} {x y : α} : Before (sorted before xs) x y ↔
    (rank x < rank y ∧ x ∈ xs ∧ y ∈ xs) ∨ (rank x = rank y ∧ Before xs x y) := by
  have hequals : rank x = rank y → (Before (sorted before xs) x y ↔ Before xs x y) := fun hxy => by
    have hfilter := before_filter_iff (p := fun z => rank z = rank y) (l := sorted before xs) (x := x) (y := y)
    rw [filter_sorted hbefore, before_filter_iff] at hfilter
    simpa [hxy] using hfilter.symm
  constructor
  · intro h
    obtain ⟨hx, hy⟩ := before_mem h
    have hle : rank x ≤ rank y := by simpa using (sorted_ranked hbefore xs).sublist h
    rcases Int.lt_or_eq_of_le hle with hlt | heq
    · exact .inl ⟨hlt, (mem_sorted hbefore).1 hx, (mem_sorted hbefore).1 hy⟩
    · exact .inr ⟨heq, (hequals heq).1 h⟩
  · rintro (⟨hlt, hx, hy⟩ | ⟨heq, h⟩)
    · -- behind the element of greater rank there is none of lower rank
      obtain ⟨pre, post, hsorted⟩ := List.append_of_mem ((mem_sorted hbefore).2 hy)
      have hranked := sorted_ranked hbefore xs
      have hmem := (mem_sorted hbefore).2 hx
      rw [hsorted] at hranked hmem ⊢
      have hpre : x ∈ pre := by
        rcases List.mem_append.1 hmem with hpre | hpost
        · exact hpre
        · have hle : rank y ≤ rank x := by
            rcases List.mem_cons.1 hpost with rfl | hpost
            · exact Int.le_refl _
            · exact (List.pairwise_cons.1 (List.pairwise_append.1 hranked).2.1).1 x hpost
          omega
      exact (List.singleton_sublist.2 hpre).append (List.singleton_sublist.2 List.mem_cons_self)
    · exact (hequals heq).2 h

theorem leads_of_findSome?_sorted {value? : α → Option β} {xs : List α} {v : β}
    (h : (sorted before xs).findSome? value? = some v) : Leads rank value? xs v := by
  obtain ⟨pre, x, post, hsorted, hv, hpre⟩ := List.findSome?_eq_some_iff.1 h
  have hranked := sorted_ranked hbefore xs
  rw [hsorted] at hranked
  -- among those of its rank the element has the same before it and behind it as it had on arrival
  have hequals := filter_sorted hbefore xs (rank x)
  rw [hsorted, List.filter_append, List.filter_cons_of_pos (by simp), eq_comm] at hequals
  obtain ⟨front, behind, rfl, hfront, hbehind⟩ := List.filter_eq_append_iff.1 hequals
  obtain ⟨between, after, rfl, hbetween, -, -⟩ := List.filter_eq_cons_iff.1 hbehind
  have hle : ∀ y ∈ front ++ (between ++ x :: after), value? y ≠ none → rank x ≤ rank y := fun y hy hne => by
    rw [← mem_sorted hbefore, hsorted] at hy
    rcases List.mem_append.1 hy with hy | hy
    · exact absurd (hpre y hy) hne
    · rcases List.mem_cons.1 hy with rfl | hy
      · exact Int.le_refl _
      · exact (List.pairwise_cons.1 (List.pairwise_append.1 hranked).2.1).1 y hy
  refine ⟨front ++ between, x, after, (List.append_assoc _ _ _).symm, hv, fun y hy hne => ?_, fun y hy hne => ?_⟩
  · have hrank : rank y ≠ rank x := fun hrank => by
      rcases List.mem_append.1 hy with hy | hy
      · have hmem : y ∈ pre.filter fun z => rank z = rank x := hfront ▸ List.mem_filter.2 ⟨hy, decide_eq_true hrank⟩
        exact hne (hpre y (List.mem_filter.1 hmem).1)
      · exact hbetween y hy (decide_eq_true hrank)
    have := hle y (by rw [← List.append_assoc]; exact List.mem_append_left _ hy) hne
    omega
  · exact hle y (List.mem_append_right _ (List.mem_append_right _ (List.mem_cons_of_mem _ hy))) hne

/-- **Who is first of those of a kind** has the least rank among them and, of several such, arrived first. -/
theorem findSome?_sorted_iff {value? : α → Option β} {xs : List α} {v : β} :
    (sorted before xs).findSome? value? = some v ↔ Leads rank value? xs v := by
  refine ⟨leads_of_findSome?_sorted hbefore, fun h => ?_⟩
  cases hfirst : (sorted before xs).findSome? value? with
  | some w => rw [(leads_of_findSome?_sorted hbefore hfirst).unique h]
  | none =>
    obtain ⟨pre, x, post, rfl, hv, -⟩ := h
    have hx := List.findSome?_eq_none_iff.1 hfirst x
      ((mem_sorted hbefore).2 (List.mem_append_right _ List.mem_cons_self))
    rw [hv] at hx
    cases hx

theorem findSome?_sorted_eq_none_iff {value? : α → Option β} {xs : List α} :
    (sorted before xs).findSome? value? = none ↔ ∀ x ∈ xs, value? x = none := by
  simp only [List.findSome?_eq_none_iff, mem_sorted hbefore]

/-- An element goes behind all of no greater rank and in front of all of a greater one. -/
theorem insert_between {x : α} {zs : List α} (hzs : ∀ z ∈ zs, rank x < rank z) : ∀ {ys : List α},
    (∀ y ∈ ys, rank y ≤ rank x) → insert before x (ys ++ zs) = ys ++ x :: zs
  | [], _ => by
    cases zs with
    | nil => rfl
    | cons z zs => rw [List.nil_append, insert, if_pos ((hbefore x z).2 (hzs z List.mem_cons_self)), List.nil_append]
  | y :: ys, h => by
    obtain ⟨hy, hys⟩ := List.forall_mem_cons.1 h
    have hnot : ¬before x y = true := by
      rw [hbefore]
      omega
    rw [List.cons_append, insert, if_neg hnot, insert_between hzs hys, List.cons_append]

/-- Elements of one rank, one after the other, go in front of all of a greater rank and keep their order. -/
theorem foldl_insert_block {k : Int} {zs : List α} (hzs : ∀ z ∈ zs, k < rank z) : ∀ {xs ys : List α},
    (∀ x ∈ xs, rank x = k) → (∀ y ∈ ys, rank y = k) →
      xs.foldl (fun ys x => insert before x ys) (ys ++ zs) = ys ++ xs ++ zs
  | [], ys, _, _ => by rw [List.foldl_nil, List.append_nil]
  | x :: xs, ys, hxs, hys => by
    obtain ⟨hx, hxs⟩ := List.forall_mem_cons.1 hxs
    have hzs' : ∀ z ∈ zs, rank x < rank z := fun z hz => by rw [hx]; exact hzs z hz
    have hys' : ∀ y ∈ ys ++ [x], rank y = k := fun y hy => by
      rcases List.mem_append.1 hy with hy | hy
      · exact hys y hy
      · rw [List.mem_singleton.1 hy, hx]
    rw [List.foldl_cons, insert_between hbefore hzs' fun y hy => Int.le_of_eq ((hys y hy).trans hx.symm), List.append_cons,
      foldl_insert_block hzs hxs hys', List.append_assoc ys, List.singleton_append]

end Inserting

/-- An element without a value is passed over wherever it is put. -/
theorem findSome?_insert_of_none {value? : α → Option β} {x : α} (hx : value? x = none) : ∀ ys : List α,
    (insert before x ys).findSome? value? = ys.findSome? value?
  | [] => by rw [insert, List.findSome?_cons, hx]
  | y :: ys => by
    rw [insert]
    split
    · rw [List.findSome?_cons, hx]
    · rw [List.findSome?_cons, List.findSome?_cons, findSome?_insert_of_none hx ys]

end Ranking
end Wiring
