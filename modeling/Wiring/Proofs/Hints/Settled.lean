import Wiring.Proofs.Hints.Registered
import Wiring.Proofs.Results
/-!
# Settled — hints applied again, and hints of candidates registered in another order

Once hints were applied every one of them points forward (`lt_of_precedes_applied`), and positions along which all edges
point forward are in order as they stand (`Hints.order_of_forward`).  Whether hints can be applied is told by the chains
between candidates, and these do not hang on the order of registration (`asks_iff_of_perm`).
-/
namespace Wiring
namespace Hints

/-- Two orders of least free positions are one as far as both go. -/
theorem Sorting.LeastFirst.unique {es : List Edge} {n : Nat} (pre : List Nat) : ∀ {rest rest' : List Nat},
    LeastFirst es n (pre ++ rest) → LeastFirst es n (pre ++ rest') → rest.length = rest'.length → rest = rest'
  | [], [], _, _, _ => rfl
  | i :: rest, j :: rest', h, h', hlen => by
    obtain ⟨hfree, hleast⟩ := h pre i rest rfl
    obtain ⟨hfree', hleast'⟩ := h' pre j rest' rfl
    obtain rfl : i = j := Nat.le_antisymm (hleast j hfree') (hleast' i hfree)
    rw [List.append_cons] at h h'
    exact congrArg (i :: ·) (unique (pre ++ [i]) h h' (Nat.succ.inj hlen))

/-- Along edges that all point forward, each position in turn is the least that is free. -/
theorem leastFirst_range {es : List Edge} {n : Nat} (hes : ∀ i j, (i, j) ∈ es → i < j) :
    Sorting.LeastFirst es n (List.range n) := by
  intro pre i post heq
  have hi : (List.range n)[pre.length]? = some i := by rw [heq]; simp
  obtain ⟨hlt, hval⟩ := List.getElem?_eq_some_iff.1 hi
  rw [List.length_range] at hlt
  rw [List.getElem_range] at hval
  have hpre : pre = List.range i := by
    have htake := congrArg (List.take pre.length) heq
    rw [List.take_left' rfl, List.take_range, Nat.min_eq_left (Nat.le_of_lt hlt), hval] at htake
    exact htake.symm
  subst hpre
  rw [List.length_range] at hlt
  refine ⟨⟨hlt, by simp, fun k _ he => List.mem_range.2 (hes k i he)⟩, fun j hj => ?_⟩
  have := hj.notTaken
  rw [List.mem_range] at this
  omega

/-- **Positions along which all hints point forward are in order as they stand.** -/
theorem order_of_forward {cs : List Component} (h : ∀ i j, Precedes cs i j → i < j) :
    order cs = .ok (List.range cs.length) := by
  have hforward : ∀ {i j}, Relation.TransGen (Precedes cs) i j → i < j := by
    intro i j hij
    induction hij with
    | single hij => exact h _ _ hij
    | tail _ hjk ih => exact Nat.lt_trans ih (h _ _ hjk)
  obtain ⟨o, ho⟩ := exists_order_iff.2 fun i hi => Nat.lt_irrefl i (hforward hi)
  obtain ⟨rfl, hperm⟩ := order_eq_ok_iff.1 ho
  have hleast := (sorted_leastFirst (edges cs) cs.length).1
  have hrange := leastFirst_range (n := cs.length) fun i j he => h i j (mem_edges_iff.1 he)
  rw [ho]
  exact congrArg Except.ok (Sorting.LeastFirst.unique [] hleast hrange hperm.length_eq)

end Hints

namespace Registry

variable {r r' s : Registry}

theorem applyHints_of_forward (h : ∀ i j, Hints.Precedes r.components i j → i < j) : r.applyHints = .ok r := by
  refine applyHints_eq_ok_iff.2 ⟨_, Hints.order_of_forward h, ?_⟩
  rw [components, List.length_map, filterMap_getElem?_range]

theorem asks_iff_of_perm (h : s.candidates.Perm r.candidates) {a b : Candidate} : s.Asks a b ↔ r.Asks a b :=
  ⟨fun hab => ⟨h.mem_iff.1 hab.first, h.mem_iff.1 hab.second, hab.ne, hab.hint⟩,
    fun hab => ⟨h.mem_iff.2 hab.first, h.mem_iff.2 hab.second, hab.ne, hab.hint⟩⟩

/-- **Once hints were applied, they all point forward.** -/
theorem lt_of_precedes_applied (hids : r.ids.Nodup) (h : r.applyHints = .ok r') {i j : Nat}
    (hij : Hints.Precedes r'.components i j) : i < j := by
  have hids' := applyHints_ids_nodup hids h
  obtain ⟨a, b, ha, hb, hab⟩ := asks_of_precedes hids' hij
  have hbefore := applyHints_before hids h (.single ((asks_iff_of_perm (applyHints_perm h)).1 hab))
  obtain ⟨k, l, hkl, hk, hl⟩ := exists_lt_of_before hids'.of_map hbefore
  rwa [position_unique hids' ha hk rfl, position_unique hids' hb hl rfl] at hkl

theorem applyHints_isOk_of_perm (hids : r.ids.Nodup) (h : s.candidates.Perm r.candidates) :
    (∃ s', s.applyHints = .ok s') ↔ ∃ r', r.applyHints = .ok r' := by
  have hrel : s.Asks = r.Asks := by
    funext a b
    exact propext (asks_iff_of_perm h)
  rw [applyHints_isOk_iff hids, applyHints_isOk_iff ((h.map _).nodup_iff.2 hids), hrel]

/-- Candidates of distinct ids can be registered in any order. -/
theorem foldlM_register_of_nodup : ∀ {cs : List Candidate} {r : Registry}, (ids ⟨r.candidates ++ cs⟩).Nodup →
    cs.foldlM register r = .ok ⟨r.candidates ++ cs⟩
  | [], r, _ => by
    rw [List.append_nil]
    rfl
  | c :: cs, r, h => by
    rw [List.append_cons] at h ⊢
    have hc : c.id ∉ r.ids := by
      rw [ids, List.map_append, List.map_append, List.append_assoc] at h
      exact fun hmem => List.disjoint_of_nodup_append h hmem (List.mem_append_left _ List.mem_cons_self)
    rw [List.foldlM_cons, register_eq_ok_iff.2 ⟨hc, rfl⟩]
    exact foldlM_register_of_nodup (r := ⟨r.candidates ++ [c]⟩) h

/-- **Hints settle an order**: applying them to candidates of distinct ids and applying them again leaves the order as
it is; and the candidates can be registered in any order, which does not change whether their hints can be applied. -/
theorem applyHints_settles (r : Registry) (hids : r.ids.Nodup) :
    (∀ r', r.applyHints = .ok r' → r'.applyHints = .ok r') ∧
    ∀ s : Registry, s.candidates.Perm r.candidates → Registry.ofList s.candidates = .ok s ∧
      ((∃ s', s.applyHints = .ok s') ↔ ∃ r', r.applyHints = .ok r') := by
  refine ⟨fun r' h => applyHints_of_forward fun i j => lt_of_precedes_applied hids h, fun s h => ⟨?_, ?_⟩⟩
  · have hids' : s.ids.Nodup := (h.map _).nodup_iff.2 hids
    exact foldlM_register_of_nodup (r := {}) hids'
  · exact applyHints_isOk_of_perm hids h

/-- The web and the log wait for others; registered the other way round they can too. -/
theorem applyHints_settles_of_web :
    let web : Candidate := { id := "web", after := ["core", "none"] }
    let log : Candidate := { id := "log", before := ["core", "log"] }
    let core : Candidate := { id := "core" }
    ∃ r', applyHints ⟨[web, core, log]⟩ = .ok r' ∧ r'.ids = ["log", "core", "web"] ∧ r'.applyHints = .ok r' ∧
      ∃ s', applyHints ⟨[core, log, web]⟩ = .ok s' := by
  intro web log core
  obtain ⟨hagain, horder⟩ := applyHints_settles ⟨[web, core, log]⟩ (by decide)
  have hids : (applyHints ⟨[web, core, log]⟩).map ids = .ok ["log", "core", "web"] := by decide +kernel
  obtain ⟨r', hr', hids⟩ := map_eq_ok_iff.1 hids
  have hperm : ([core, log] ++ [web]).Perm ([web] ++ [core, log]) := List.perm_append_comm
  exact ⟨r', hr', hids, hagain r' hr', (horder ⟨[core, log, web]⟩ hperm).2.2 ⟨r', hr'⟩⟩

end Registry
end Wiring
