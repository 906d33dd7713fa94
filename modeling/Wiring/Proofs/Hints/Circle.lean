import Mathlib.Data.List.Chain
import Wiring.Proofs.Hints.Order
import Wiring.Proofs.Results
import Wiring.Registry
/-!
# Circle — what the error of an ordering shows

Edges are followed in depth along a path.  A position that was visited and is not on the path is settled: all that can
be reached from it is settled too, and no circle goes through it (`Explored`).  So when there is a circle an edge back
onto the path is met (`circle_of_transGen`), and what is told then is a circle of hints (`applyHints_error_circle`).
-/
namespace Wiring
namespace Hints

/-- A closed path that comes back to its start and to no other position twice. -/
structure Circle (R : Nat → Nat → Prop) (path : List Nat) : Prop where
  long : 3 ≤ path.length
  closed : path.getLast? = path.head?
  distinct : path.dropLast.Nodup
  linked : path.IsChain R

theorem isChain_append_edge {R : Nat → Nat → Prop} {path : List Nat} {i j : Nat} (h : (path ++ [i]).IsChain R)
    (hij : R i j) : (path ++ [i] ++ [j]).IsChain R := by
  rw [List.append_assoc]
  exact List.isChain_append_cons_cons.2 ⟨h, hij, List.isChain_singleton j⟩

/-- A path closed by an edge from its end back onto it is a circle from there on. -/
theorem Circle.of_edge_back {R : Nat → Nat → Prop} (hirrefl : ∀ i, ¬ R i i) {path : List Nat} {i j : Nat}
    (hlinked : (path ++ [i]).IsChain R) (hnodup : (path ++ [i]).Nodup) (hij : R i j) (hj : j ∈ path ++ [i]) :
    Circle R ((path ++ [i]).dropWhile (· != j) ++ [j]) := by
  obtain ⟨pre, post, heq, hpre⟩ := List.eq_append_cons_of_mem hj
  have hdrop : (path ++ [i]).dropWhile (· != j) = j :: post := by
    rw [heq, List.dropWhile_append_of_pos, List.dropWhile_cons_of_neg]
    · simp
    · intro k hk
      have : k ≠ j := fun h => hpre (h ▸ hk)
      simp [this]
  have hpost : post ≠ [] := by
    rintro rfl
    obtain rfl : i = j := (List.cons.inj (List.append_inj' heq rfl).2).1
    exact hirrefl i hij
  have hsuffix : j :: post <:+ path ++ [i] := ⟨pre, heq.symm⟩
  have hclosed : (j :: post) ++ [j] <:+ path ++ [i] ++ [j] := ⟨pre, by rw [heq, List.append_assoc]⟩
  rw [hdrop]
  constructor
  · have := List.length_pos_iff.2 hpost
    rw [List.length_append, List.length_cons, List.length_singleton]
    omega
  · rw [List.getLast?_concat, List.cons_append, List.head?_cons]
  · rw [List.dropLast_concat]
    exact hnodup.sublist hsuffix.sublist
  · exact (isChain_append_edge hlinked hij).suffix hclosed

theorem Circle.forall_mem {R : Nat → Nat → Prop} {P : Nat → Prop} (hR : ∀ i j, R i j → P i ∧ P j) {path : List Nat}
    (h : Circle R path) : ∀ i ∈ path, P i := by
  intro i hi
  obtain ⟨pre, post, rfl⟩ := List.append_of_mem hi
  have hlinked := h.linked
  cases post with
  | cons j post => exact (hR i j (List.isChain_append_cons_cons.1 hlinked).2.1).1
  | nil =>
    rcases pre.eq_nil_or_concat with rfl | ⟨pre, k, rfl⟩
    · have := h.long
      simp at this
    · rw [List.concat_eq_append, List.append_assoc] at hlinked
      exact (hR k i (List.isChain_append_cons_cons.1 hlinked).2.1).2

variable {es : List Edge} {n : Nat}

/-- An edge along which a search may go on. -/
abbrev Leads (es : List Edge) (n i j : Nat) : Prop := j ∈ successors es n i

/-- **A search fails with a circle**, when it comes along a path that comes to no position twice. -/
theorem visit_eq_error (hirrefl : ∀ i, ¬ Leads es n i i) : ∀ {fuel : Nat} {path visited found : List Nat} {i : Nat},
    (path ++ [i]).IsChain (Leads es n) → (path ++ [i]).Nodup → visit es n fuel path visited i = .error found →
      Circle (Leads es n) found
  | 0, _, _, _, _, _, _, h => (nomatch h)
  | fuel + 1, path, visited, found, i, hlinked, hnodup, h => by
    obtain ⟨j, hj, seen, hstep⟩ := exists_of_foldlM_eq_error h
    by_cases hback : j ∈ path ++ [i]
    · rw [if_pos (List.contains_iff_mem.2 hback)] at hstep
      cases hstep
      exact Circle.of_edge_back hirrefl hlinked hnodup hj hback
    · rw [if_neg (fun h => hback (List.contains_iff_mem.1 h))] at hstep
      split at hstep
      · cases hstep
      · exact visit_eq_error hirrefl (isChain_append_edge hlinked hj) (List.concat_eq_append ▸ hnodup.concat hback) hstep

/-- What a search has seen when it stands at the end of a path: behind the positions that are not on the path there is
nothing more to see, and no circle. -/
structure Explored (es : List Edge) (n : Nat) (path visited : List Nat) : Prop where
  onPath : ∀ i ∈ path, i ∈ visited
  closed : ∀ i ∈ visited, i ∉ path → ∀ j, Leads es n i j → j ∈ visited ∧ j ∉ path
  acyclic : ∀ i ∈ visited, i ∉ path → ¬ Relation.TransGen (Leads es n) i i

namespace Explored

variable {path visited : List Nat}

theorem nil : Explored es n [] [] := ⟨fun _ h => (nomatch h), fun _ h => (nomatch h), fun _ h => (nomatch h)⟩

theorem reach (h : Explored es n path visited) {i j : Nat} (hi : i ∈ visited ∧ i ∉ path)
    (hij : Relation.ReflTransGen (Leads es n) i j) : j ∈ visited ∧ j ∉ path := by
  induction hij with
  | refl => exact hi
  | tail _ hjk ih => exact h.closed _ ih.1 ih.2 _ hjk

/-- A position that was not seen comes onto the path. -/
theorem enter (h : Explored es n path visited) {i : Nat} (hi : i ∉ visited) :
    Explored es n (path ++ [i]) (i :: visited) := by
  have hold : ∀ k ∈ i :: visited, k ∉ path ++ [i] → k ∈ visited ∧ k ∉ path := by
    intro k hk hpath
    rw [List.mem_append, List.mem_singleton, not_or] at hpath
    exact ⟨(List.mem_cons.1 hk).resolve_left hpath.2, hpath.1⟩
  refine ⟨fun k hk => ?_, fun k hk hpath j hkj => ?_, fun k hk hpath => ?_⟩
  · rcases List.mem_append.1 hk with hk | hk
    · exact List.mem_cons_of_mem _ (h.onPath k hk)
    · exact List.mem_singleton.1 hk ▸ List.mem_cons_self
  · obtain ⟨hk, hpath⟩ := hold k hk hpath
    obtain ⟨hj, hjpath⟩ := h.closed k hk hpath j hkj
    refine ⟨List.mem_cons_of_mem _ hj, fun hmem => ?_⟩
    rcases List.mem_append.1 hmem with hmem | hmem
    · exact hjpath hmem
    · exact hi (List.mem_singleton.1 hmem ▸ hj)
  · obtain ⟨hk, hpath⟩ := hold k hk hpath
    exact h.acyclic k hk hpath

/-- A position leaves the path once all to which its edges lead are settled. -/
theorem leave {i : Nat} (h : Explored es n (path ++ [i]) visited)
    (hsettled : ∀ j, Leads es n i j → j ∈ visited ∧ j ∉ path ++ [i]) : Explored es n path visited := by
  have hclosed : ∀ k ∈ visited, k ∉ path → ∀ j, Leads es n k j → j ∈ visited ∧ j ∉ path ++ [i] := by
    intro k hk hpath j hkj
    by_cases hki : k = i
    · exact hsettled j (hki ▸ hkj)
    · exact h.closed k hk (by simp [hpath, hki]) j hkj
  refine ⟨fun k hk => h.onPath k (List.mem_append_left _ hk), fun k hk hpath j hkj => ?_, fun k hk hpath hcircle => ?_⟩
  · obtain ⟨hj, hjpath⟩ := hclosed k hk hpath j hkj
    exact ⟨hj, fun hmem => hjpath (List.mem_append_left _ hmem)⟩
  · -- the circle goes through a settled position, so that all of it is settled
    obtain ⟨j, hkj, hjk⟩ := Relation.TransGen.head'_iff.1 hcircle
    obtain ⟨-, hkpath⟩ := h.reach (hclosed k hk hpath j hkj) hjk
    exact h.acyclic k hk hkpath hcircle

end Explored

/-- What a search has seen after some of the edges from the end of its path, when it began with what was visited. -/
structure Following (es : List Edge) (n : Nat) (path visited done seen : List Nat) : Prop where
  explored : Explored es n path seen
  kept : ∀ i ∈ visited, i ∈ seen
  settled : ∀ j ∈ done, j ∈ seen ∧ j ∉ path

theorem Following.start {path visited : List Nat} (h : Explored es n path visited) :
    Following es n path visited [] visited := ⟨h, fun _ hi => hi, fun _ hj => (nomatch hj)⟩

/-- One edge more, to a position that is settled then. -/
theorem Following.append {path visited done seen next : List Nat} {j : Nat}
    (h : Following es n path visited done seen) (hnext : Explored es n path next) (hj : j ∈ next) (hpath : j ∉ path)
    (hkept : ∀ i ∈ seen, i ∈ next) : Following es n path visited (done ++ [j]) next := by
  refine ⟨hnext, fun i hi => hkept i (h.kept i hi), fun k hk => ?_⟩
  rcases List.mem_append.1 hk with hk | hk
  · obtain ⟨hseen, hkpath⟩ := h.settled k hk
    exact ⟨hkept k hseen, hkpath⟩
  · rw [List.mem_singleton.1 hk]
    exact ⟨hj, hpath⟩

/-- A search with this much fuel for what the path has left, when it does not fail, settles where it starts from. -/
def Settles (es : List Edge) (n fuel : Nat) : Prop := ∀ (path visited seen : List Nat) (i : Nat),
  n ≤ path.length + fuel → (path ++ [i]).Nodup → (∀ k ∈ path ++ [i], k < n) → Explored es n path visited →
    i ∉ visited → visit es n fuel path visited i = .ok seen →
      Explored es n path seen ∧ i ∈ seen ∧ ∀ k ∈ visited, k ∈ seen

/-- Going on to a position off the path, unless it was visited, settles it. -/
theorem Settles.step {fuel : Nat} (h : Settles es n fuel) {path visited done seen next : List Nat} {j : Nat}
    (hfuel : n ≤ path.length + fuel) (hnodup : (path ++ [j]).Nodup) (hbound : ∀ k ∈ path ++ [j], k < n)
    (hseen : Following es n path visited done seen)
    (hnext : (if seen.contains j then .ok seen else visit es n fuel path seen j) = .ok next) :
    Following es n path visited (done ++ [j]) next := by
  by_cases hj : j ∈ seen
  · rw [if_pos (List.contains_iff_mem.2 hj)] at hnext
    cases hnext
    have hpath : j ∉ path := fun hmem => (List.nodup_append.1 hnodup).2.2 j hmem j List.mem_cons_self rfl
    exact hseen.append hseen.explored hj hpath fun _ hk => hk
  · rw [if_neg (fun hmem => hj (List.contains_iff_mem.1 hmem))] at hnext
    obtain ⟨hexplored, hjnext, hkept⟩ := h _ _ _ _ hfuel hnodup hbound hseen.explored hj hnext
    exact hseen.append hexplored hjnext (fun hmem => hj (hseen.explored.onPath j hmem)) hkept

/-- **A search that does not fail settles the position it starts from.**  The path never takes up all the fuel, as it
comes to no position twice. -/
theorem settles (fuel : Nat) : Settles es n fuel := by
  induction fuel with
  | zero =>
    intro path visited seen i hfuel hnodup hbound _ _ _
    have : (path ++ [i]).length ≤ (List.range n).length :=
      (List.subperm_of_subset hnodup fun k hk => List.mem_range.2 (hbound k hk)).length_le
    rw [List.length_append, List.length_singleton, List.length_range] at this
    omega
  | succ fuel ih =>
    intro path visited seen i hfuel hnodup hbound hexplored hi h
    have hlen : n ≤ (path ++ [i]).length + fuel := by
      rw [List.length_append, List.length_singleton]
      omega
    have hend : Following es n (path ++ [i]) (i :: visited) (successors es n i) seen := by
      refine foldlM_eq_ok_of_step (fun done j now next hj hnow hnext => ?_) (successors es n i) [] rfl
        (.start (hexplored.enter hi)) h
      by_cases hback : j ∈ path ++ [i]
      · rw [if_pos (List.contains_iff_mem.2 hback)] at hnext
        cases hnext
      · rw [if_neg (fun hmem => hback (List.contains_iff_mem.1 hmem))] at hnext
        refine ih.step hlen (List.concat_eq_append ▸ hnodup.concat hback) (fun k hk => ?_) hnow hnext
        rcases List.mem_append.1 hk with hk | hk
        · exact hbound k hk
        · exact List.mem_singleton.1 hk ▸ (Sorting.mem_successors.1 hj).1
    exact ⟨hend.explored.leave hend.settled, hend.kept i List.mem_cons_self,
      fun k hk => hend.kept k (List.mem_cons_of_mem _ hk)⟩

/-- **When edges run in a circle, one is found.** -/
theorem circle_of_transGen (hirrefl : ∀ i, ¬ Leads es n i i) {i : Nat}
    (hcircle : Relation.TransGen (Leads es n) i i) : Circle (Leads es n) (circle es n) := by
  have hi : i < n := by
    obtain ⟨j, -, hji⟩ := Relation.TransGen.tail'_iff.1 hcircle
    exact (Sorting.mem_successors.1 hji).1
  unfold circle
  split
  · rename_i found hfound
    obtain ⟨j, -, visited, hvisit⟩ := exists_of_foldlM_eq_error hfound
    split at hvisit
    · cases hvisit
    · exact visit_eq_error hirrefl (List.isChain_singleton j) (List.nodup_singleton j) hvisit
  · -- else all positions were settled, and no circle goes through any
    rename_i seen hseen
    have hend : Following es n [] [] (List.range n) seen := by
      refine foldlM_eq_ok_of_step (fun done j now next hj hnow hnext => ?_) (List.range n) [] rfl (.start .nil) hseen
      refine (settles n).step (Nat.le_add_left _ _) (List.nodup_singleton j) (fun k hk => ?_) hnow hnext
      exact List.mem_singleton.1 hk ▸ List.mem_range.1 hj
    exact absurd hcircle (hend.explored.acyclic i (hend.settled i (List.mem_range.2 hi)).1 List.not_mem_nil)

variable {cs : List Component}

theorem leads_iff {i j : Nat} : Leads (edges cs) cs.length i j ↔ Precedes cs i j := by
  rw [Leads, Sorting.mem_successors, mem_edges_iff]
  exact ⟨fun h => h.2, fun h => ⟨h.bound.2, h⟩⟩

/-- Where there is no order, the error is a circle of hints. -/
theorem circle_of_order_error {path : List Nat} (h : order cs = .error path) : Circle (Precedes cs) path := by
  have hleads : Leads (edges cs) cs.length = Precedes cs := by
    funext i j
    exact propext leads_iff
  obtain ⟨i, hi⟩ : ∃ i, Relation.TransGen (Precedes cs) i i := by
    by_contra hnone
    obtain ⟨o, ho⟩ := exists_order_iff.2 (not_exists.1 hnone)
    rw [ho] at h
    cases h
  have hpath : path = circle (edges cs) cs.length := by
    simp only [order] at h
    split at h
    · cases h
    · exact (Except.error.inj h).symm
  rw [← hleads] at hi ⊢
  rw [hpath]
  exact circle_of_transGen (fun k hk => (leads_iff.1 hk).ne rfl) hi

end Hints

theorem map_eq_map_some_filterMap {α β : Type} {g : α → Option β} : ∀ {l : List α}, (∀ a ∈ l, (g a).isSome = true) →
    l.map g = (l.filterMap g).map some
  | [], _ => rfl
  | a :: l, h => by
    obtain ⟨ha, hl⟩ := List.forall_mem_cons.1 h
    obtain ⟨b, hb⟩ := Option.isSome_iff_exists.1 ha
    rw [List.map_cons, List.filterMap_cons_some hb, List.map_cons, hb, map_eq_map_some_filterMap hl]

/-- **When the hints cannot be applied, the error tells a circle of them**: the ids along a closed path of three
positions at least, no two of them the same but the first and the last, each asked to come before the next. -/
theorem Registry.applyHints_error_circle {r : Registry} {fault : Fault} (h : r.applyHints = .error fault) :
    ∃ (path : List Nat) (ids : List String), fault = .orderingCycle ids ∧
      path.map (r.ids[·]?) = ids.map some ∧ Hints.Circle (Hints.Precedes r.components) path := by
  unfold applyHints at h
  split at h
  · cases h
  · rename_i path hpath
    have hcircle := Hints.circle_of_order_error hpath
    have hlen : r.components.length = r.ids.length := by simp [components, ids]
    have hbound : ∀ i ∈ path, i < r.ids.length := hcircle.forall_mem fun i j hij => hlen ▸ hij.bound
    refine ⟨path, path.filterMap (r.ids[·]?), (Except.error.inj h).symm, ?_, hcircle⟩
    exact map_eq_map_some_filterMap fun i hi => by simpa using hbound i hi

/-- The tail that leads into the circle is not told. -/
theorem Registry.applyHints_error_circle_of_tail :
    let r : Registry := ⟨[{ id := "tail", before := ["a"] }, { id := "a", after := ["c"] }, { id := "b", after := ["a"] },
      { id := "c", after := ["b"] }, { id := "free" }]⟩
    r.applyHints = .error (.orderingCycle ["a", "b", "c", "a"]) ∧ ∃ path : List Nat,
      path.map (r.ids[·]?) = ["a", "b", "c", "a"].map some ∧ Hints.Circle (Hints.Precedes r.components) path := by
  intro r
  have h : r.applyHints = .error (.orderingCycle ["a", "b", "c", "a"]) :=
    fault?_eq_some_iff.1 (by decide +kernel)
  obtain ⟨path, ids, hids, hpath, hcircle⟩ := Registry.applyHints_error_circle h
  obtain rfl := Fault.orderingCycle.inj hids
  exact ⟨h, path, hpath, hcircle⟩

end Wiring
