import Wiring.Proofs.Hints.Order
import Wiring.Registry
/-!
# Registered — the hints of registered candidates

Ids are registered once, so that a hint names one candidate (`Registry.Asks`).  Applying the hints puts candidates in
the order of every chain of them (`Registry.applyHints_before`), and leaves in place a candidate that no hint asks to
wait (`Registry.applyHints_before_of_registered`).
-/
namespace Wiring

theorem filterMap_getElem?_range {α : Type} (l : List α) : (List.range l.length).filterMap (l[·]?) = l := by
  induction l using List.reverseRecOn with
  | nil => rfl
  | append_singleton l a ih =>
    have hpre : (List.range l.length).filterMap ((l ++ [a])[·]?) = (List.range l.length).filterMap (l[·]?) :=
      List.filterMap_congr fun i hi => List.getElem?_append_left (List.mem_range.1 hi)
    rw [List.length_append, List.length_singleton, List.range_succ, List.filterMap_append, hpre, ih]
    simp

namespace Registry

theorem ids_concat (cs : List Candidate) (c : Candidate) : ids ⟨cs ++ [c]⟩ = ids ⟨cs⟩ ++ [c.id] := List.map_append

theorem nodup_ids_concat {cs : List Candidate} {c : Candidate} (h : (ids ⟨cs⟩).Nodup) (hc : c.id ∉ ids ⟨cs⟩) :
    (ids ⟨cs ++ [c]⟩).Nodup := by
  rw [ids_concat]
  exact List.concat_eq_append ▸ h.concat hc

/-- The registry after calls that register candidates.  A call that fails leaves it as it is. -/
def afterCalls (calls : List Candidate) : Registry :=
  calls.foldl (fun r c => match r.register c with
    | .ok next => next
    | .error _ => r) {}

theorem afterCalls_ids_nodup (calls : List Candidate) : (afterCalls calls).ids.Nodup := by
  unfold afterCalls
  induction calls using List.reverseRecOn with
  | nil => exact List.nodup_nil
  | append_singleton calls c ih =>
    rw [List.foldl_append, List.foldl_cons, List.foldl_nil]
    split
    · rename_i next hnext
      obtain ⟨hc, rfl⟩ := register_eq_ok_iff.1 hnext
      exact nodup_ids_concat ih hc
    · exact ih

/-- A hint of one of two registered candidates asks that the one come before the other. -/
structure Asks (r : Registry) (a b : Candidate) : Prop where
  first : a ∈ r.candidates
  second : b ∈ r.candidates
  ne : a.id ≠ b.id
  hint : a.id ∈ b.after ∨ b.id ∈ a.before

variable {r r' : Registry}

theorem applyHints_eq_ok_iff :
    r.applyHints = .ok r' ↔ ∃ o, Hints.order r.components = .ok o ∧ r' = ⟨o.filterMap (r.candidates[·]?)⟩ := by
  unfold applyHints
  cases Hints.order r.components with
  | ok o => simp [eq_comm]
  | error path => simp

theorem applyHints_eq_error {fault : Fault} (h : r.applyHints = .error fault) : ∃ ids, fault = .orderingCycle ids := by
  unfold applyHints at h
  split at h
  · cases h
  · exact ⟨_, (Except.error.inj h).symm⟩

theorem applyHints_perm (h : r.applyHints = .ok r') : r'.candidates.Perm r.candidates := by
  obtain ⟨o, ho, rfl⟩ := applyHints_eq_ok_iff.1 h
  have hperm := (Hints.honours_of_order ho).perm
  rw [components, List.length_map] at hperm
  have := hperm.filterMap (r.candidates[·]?)
  rwa [filterMap_getElem?_range] at this

theorem applyHints_ids_nodup (hids : r.ids.Nodup) (h : r.applyHints = .ok r') : r'.ids.Nodup :=
  ((applyHints_perm h).map _).nodup_iff.2 hids

theorem getElem?_components {i : Nat} {c : Component} :
    r.components[i]? = some c ↔ ∃ a, r.candidates[i]? = some a ∧ a.toComponent = c := by
  rw [components, List.getElem?_map, Option.map_eq_some_iff]

/-- Ids that are registered once have one position. -/
theorem position_unique (hids : r.ids.Nodup) {i k : Nat} {a b : Candidate} (ha : r.candidates[i]? = some a)
    (hb : r.candidates[k]? = some b) (hid : b.id = a.id) : k = i := by
  have hi : r.ids[i]? = some a.id := by rw [ids, List.getElem?_map, ha, Option.map_some]
  have hk : r.ids[k]? = some a.id := by rw [ids, List.getElem?_map, hb, Option.map_some, hid]
  exact (List.getElem?_inj (List.getElem?_eq_some_iff.1 hk).1 hids).1 (hk.trans hi.symm)

/-- Ids that are registered once denote the candidate that has them. -/
theorem denotes_of_nodup (hids : r.ids.Nodup) {i : Nat} {a : Candidate} (ha : r.candidates[i]? = some a) :
    Hints.Denotes r.components a.id i := by
  refine ⟨⟨a.toComponent, getElem?_components.2 ⟨a, ha, rfl⟩, rfl⟩, fun k c hk hc hid => ?_⟩
  obtain ⟨b, hb, rfl⟩ := getElem?_components.1 hc
  exact absurd (position_unique hids ha hb hid) (Nat.ne_of_gt hk)

theorem precedes_of_asks (hids : r.ids.Nodup) {i j : Nat} {a b : Candidate} (ha : r.candidates[i]? = some a)
    (hb : r.candidates[j]? = some b) (h : r.Asks a b) : Hints.Precedes r.components i j := by
  refine ⟨fun hij => ?_, a.toComponent, b.toComponent, getElem?_components.2 ⟨a, ha, rfl⟩,
    getElem?_components.2 ⟨b, hb, rfl⟩, ?_⟩
  · rw [hij, hb, Option.some.injEq] at ha
    exact h.ne (ha ▸ rfl)
  · exact h.hint.imp (fun hid => ⟨a.id, hid, denotes_of_nodup hids ha⟩) fun hid => ⟨b.id, hid, denotes_of_nodup hids hb⟩

theorem asks_of_precedes (hids : r.ids.Nodup) {i j : Nat} (h : Hints.Precedes r.components i j) :
    ∃ a b, r.candidates[i]? = some a ∧ r.candidates[j]? = some b ∧ r.Asks a b := by
  obtain ⟨hne, x, y, hx, hy, hask⟩ := h
  obtain ⟨a, ha, rfl⟩ := getElem?_components.1 hx
  obtain ⟨b, hb, rfl⟩ := getElem?_components.1 hy
  refine ⟨a, b, ha, hb, List.mem_of_getElem? ha, List.mem_of_getElem? hb,
    fun hid => hne (position_unique hids hb ha hid), ?_⟩
  rcases hask with ⟨id, hid, hden⟩ | ⟨id, hid, hden⟩
  · obtain ⟨c, hc, rfl⟩ := hden.named
    rw [hx] at hc
    exact .inl (Option.some.inj hc ▸ hid)
  · obtain ⟨c, hc, rfl⟩ := hden.named
    rw [hy] at hc
    exact .inr (Option.some.inj hc ▸ hid)

/-- A chain of hints between candidates is one between their positions. -/
theorem exists_chain (hids : r.ids.Nodup) {a b : Candidate} (h : Relation.TransGen r.Asks a b) :
    ∃ i j, r.candidates[i]? = some a ∧ r.candidates[j]? = some b ∧
      Relation.TransGen (Hints.Precedes r.components) i j := by
  induction h with
  | single hab =>
    obtain ⟨i, hi⟩ := List.getElem?_of_mem hab.first
    obtain ⟨j, hj⟩ := List.getElem?_of_mem hab.second
    exact ⟨i, j, hi, hj, .single (precedes_of_asks hids hi hj hab)⟩
  | tail _ hbc ih =>
    obtain ⟨i, j, hi, hj, hij⟩ := ih
    obtain ⟨k, hk⟩ := List.getElem?_of_mem hbc.second
    exact ⟨i, k, hi, hk, hij.tail (precedes_of_asks hids hj hk hbc)⟩

/-- And a chain between positions is one between the candidates there. -/
theorem chain_of_positions (hids : r.ids.Nodup) {i j : Nat} (h : Relation.TransGen (Hints.Precedes r.components) i j) :
    ∃ a b, r.candidates[i]? = some a ∧ r.candidates[j]? = some b ∧ Relation.TransGen r.Asks a b := by
  induction h with
  | single hij =>
    obtain ⟨a, b, ha, hb, hab⟩ := asks_of_precedes hids hij
    exact ⟨a, b, ha, hb, .single hab⟩
  | tail _ hjk ih =>
    obtain ⟨a, b, ha, hb, hab⟩ := ih
    obtain ⟨b', c, hb', hc, hbc⟩ := asks_of_precedes hids hjk
    obtain rfl := Option.some.inj (hb.symm.trans hb')
    exact ⟨a, c, ha, hc, hab.tail hbc⟩

/-- **Hints can be applied unless a chain of them comes back to where it began.** -/
theorem applyHints_isOk_iff (hids : r.ids.Nodup) :
    (∃ r', r.applyHints = .ok r') ↔ ∀ a, ¬Relation.TransGen r.Asks a a := by
  have horder : (∃ r', r.applyHints = .ok r') ↔ ∃ o, Hints.order r.components = .ok o := by
    constructor
    · rintro ⟨r', h⟩
      obtain ⟨o, ho, -⟩ := applyHints_eq_ok_iff.1 h
      exact ⟨o, ho⟩
    · rintro ⟨o, ho⟩
      exact ⟨_, applyHints_eq_ok_iff.2 ⟨o, ho, rfl⟩⟩
  rw [horder, Hints.exists_order_iff]
  constructor
  · intro h a ha
    obtain ⟨i, j, hi, hj, hij⟩ := exists_chain hids ha
    obtain rfl := position_unique hids hi hj rfl
    exact h j hij
  · intro h i hi
    obtain ⟨a, b, ha, hb, hab⟩ := chain_of_positions hids hi
    obtain rfl := Option.some.inj (ha.symm.trans hb)
    exact h a hab

theorem before_of_positions {o : List Nat} {i j : Nat} {a b : Candidate} (h : Before o i j)
    (ha : r.candidates[i]? = some a) (hb : r.candidates[j]? = some b) :
    Before (o.filterMap (r.candidates[·]?)) a b := by
  have := List.Sublist.filterMap (r.candidates[·]?) h
  rwa [List.filterMap_cons_some ha, List.filterMap_cons_some hb, List.filterMap_nil] at this

/-- **Hints order candidates along their chains.** -/
theorem applyHints_before (hids : r.ids.Nodup) (h : r.applyHints = .ok r') {a b : Candidate}
    (hab : Relation.TransGen r.Asks a b) : Before r'.candidates a b := by
  obtain ⟨o, ho, rfl⟩ := applyHints_eq_ok_iff.1 h
  obtain ⟨i, j, hi, hj, hij⟩ := exists_chain hids hab
  exact before_of_positions ((Hints.honours_of_order ho).before_of_transGen hij) hi hj

/-- **A candidate that no hint asks to wait stays before those registered after it.** -/
theorem applyHints_before_of_registered (hids : r.ids.Nodup) (h : r.applyHints = .ok r') {a b : Candidate}
    (hab : Before r.candidates a b) (ha : ∀ d, ¬r.Asks d a) : Before r'.candidates a b := by
  obtain ⟨o, ho, rfl⟩ := applyHints_eq_ok_iff.1 h
  obtain ⟨i, j, hij, hi, hj⟩ := exists_lt_of_before hids.of_map hab
  have hlt : j < r.components.length := by
    rw [components, List.length_map]
    exact (List.getElem?_eq_some_iff.1 hj).1
  refine before_of_positions (Hints.before_of_order ho hij hlt fun k hk => ?_) hi hj
  obtain ⟨d, a', -, ha', hd⟩ := asks_of_precedes hids hk
  obtain rfl := Option.some.inj (hi.symm.trans ha')
  exact ha d hd

end Registry

end Wiring
