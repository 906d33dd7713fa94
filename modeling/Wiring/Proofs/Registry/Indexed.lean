import Wiring.Proofs.Hints.Registered
import Wiring.Proofs.Results
import Wiring.Registry.Indexed
/-!
# Indexed — positions that stay right whatever is registered and reordered

Every entry of a position was made for the list as it then was, so candidates that change places would leave wrong ones
behind.  The invariant is that the position of an id is where it stands now (`Indexed.Sound`); one call keeps it
(`sound_perform`), and so does any run of calls (`sound_after`).  A sound registry answers like one that searches its
list (`Sound.get?_iff`, `Sound.contains_eq`), and a call that fails changes nothing (`perform_of_error`).
-/
namespace Wiring
namespace Registry.Indexed

/-- Where each id stands in a list, and that others stand nowhere. -/
def Places (ids : List String) (positions : List (String × Nat)) : Prop :=
  ∀ id i, positions.lookup id = some i ↔ ids[i]? = some id

theorem Places.concat {ids : List String} {positions : List (String × Nat)} (h : Places ids positions) {id : String}
    (hid : id ∉ ids) : Places (ids ++ [id]) ((id, ids.length) :: positions) := by
  intro other i
  rw [List.lookup_cons, getElem?_append_singleton]
  by_cases ho : other = id
  · have hi : ids[i]? ≠ some other := fun hi => hid (ho ▸ List.mem_of_getElem? hi)
    simp [ho, ho ▸ hi, eq_comm]
  · have hb : (other == id) = false := by simp [ho]
    simp [hb, ho, h other i]

theorem places_positionsOf {ids : List String} (h : ids.Nodup) : Places ids (positionsOf ids) := by
  induction ids using List.reverseRecOn with
  | nil => intro id i; simp [positionsOf]
  | append_singleton ids id ih =>
    obtain ⟨hids, -, hdisjoint⟩ := List.nodup_append.1 h
    have hid : id ∉ ids := fun hmem => hdisjoint id hmem id List.mem_cons_self rfl
    have hstep : positionsOf (ids ++ [id]) = (id, ids.length) :: positionsOf ids := by
      simp [positionsOf, List.zipIdx_append]
    rw [hstep]
    exact (ih hids).concat hid

/-- **The invariant**: ids are held once, and the position of each is where it stands. -/
structure Sound (r : Indexed) : Prop where
  ids : r.ids.Nodup
  places : Places r.ids r.positions

namespace Sound

variable {r : Indexed} {id : String} {i : Nat} {c : Candidate}

theorem position?_iff (h : r.Sound) : r.position? id = some i ↔ ∃ c, r.candidates[i]? = some c ∧ c.id = id := by
  rw [position?, h.places id i, Registry.ids, List.getElem?_map, Option.map_eq_some_iff]

theorem get?_iff (h : r.Sound) : r.get? id = some c ↔ c ∈ r.candidates ∧ c.id = id := by
  rw [Indexed.get?, Option.bind_eq_some_iff]
  constructor
  · rintro ⟨i, hi, hc⟩
    obtain ⟨d, hd, hid⟩ := h.position?_iff.1 hi
    obtain rfl := Option.some.inj (hc.symm.trans hd)
    exact ⟨List.mem_of_getElem? hc, hid⟩
  · rintro ⟨hc, hid⟩
    obtain ⟨i, hi⟩ := List.getElem?_of_mem hc
    exact ⟨i, h.position?_iff.2 ⟨c, hi, hid⟩, hi⟩

theorem contains_iff (h : r.Sound) : r.contains id = true ↔ ∃ c ∈ r.candidates, c.id = id := by
  rw [Indexed.contains, Option.isSome_iff_exists]
  constructor
  · rintro ⟨i, hi⟩
    obtain ⟨c, hc, hid⟩ := h.position?_iff.1 hi
    exact ⟨c, List.mem_of_getElem? hc, hid⟩
  · rintro ⟨c, hc, hid⟩
    obtain ⟨i, hi⟩ := List.getElem?_of_mem hc
    exact ⟨i, h.position?_iff.2 ⟨c, hi, hid⟩⟩

theorem contains_eq (h : r.Sound) (id : String) : r.contains id = r.toRegistry.contains id := by
  rw [Bool.eq_iff_iff, h.contains_iff, Registry.contains, List.contains_iff_mem, Registry.ids, List.mem_map]

end Sound

/-! ## One call -/

theorem perform_register (r : Indexed) (c : Candidate) : r.perform (.register c) =
    if r.contains c.id then (.error (.duplicate c.id), r)
    else (.ok (), ⟨⟨r.candidates ++ [c]⟩, (c.id, r.candidates.length) :: r.positions⟩) := by
  by_cases h : r.contains c.id = true
  · simp [perform, Action.call, register, h]
  · simp [perform, Action.call, register, h]

theorem perform_applyHints (r : Indexed) : r.perform .applyHints =
    match r.toRegistry.applyHints with
    | .error fault => (.error fault, r)
    | .ok reordered => (.ok (), ⟨reordered, positionsOf reordered.ids⟩) := by
  cases h : r.toRegistry.applyHints with
  | error fault => simp [perform, Action.call, applyHints, h]
  | ok reordered => simp [perform, Action.call, applyHints, h]

/-- **A call that fails changes nothing.** -/
theorem perform_of_error {r : Indexed} {a : Action} {fault : Fault} (h : (r.perform a).1 = .error fault) :
    (r.perform a).2 = r := by
  cases a with
  | register c =>
    rw [perform_register] at h ⊢
    split at h
    · rename_i hc
      rw [if_pos hc]
    · cases h
  | applyHints =>
    rw [perform_applyHints] at h ⊢
    split at h
    · rfl
    · cases h

namespace Sound

variable {r : Indexed}

/-- **One call keeps the invariant.** -/
theorem perform (h : r.Sound) (a : Action) : (r.perform a).2.Sound := by
  cases a with
  | register c =>
    rw [perform_register]
    split
    · exact h
    · rename_i hc
      rw [h.contains_eq, Registry.contains, List.contains_iff_mem] at hc
      have hplaces := h.places.concat hc
      rw [Registry.ids, List.length_map] at hplaces
      exact ⟨nodup_ids_concat h.ids hc, ids_concat r.candidates c ▸ hplaces⟩
  | applyHints =>
    rw [perform_applyHints]
    split
    · exact h
    · rename_i reordered hreordered
      have hids := applyHints_ids_nodup h.ids hreordered
      exact ⟨hids, places_positionsOf hids⟩

theorem foldl_perform : ∀ {r : Indexed} (calls : List Action), r.Sound →
    (calls.foldl (fun r a => (r.perform a).2) r).Sound
  | _, [], h => h
  | _, a :: calls, h => foldl_perform calls (h.perform a)

end Sound

/-- **And so it holds after any calls.** -/
theorem sound_after (calls : List Action) : (after calls).Sound :=
  Sound.foldl_perform calls ⟨List.nodup_nil, fun id i => by simp [Registry.ids]⟩

/-! ## What a sound registry reads and does -/

/-- The call on a registry that has no positions. -/
def Action.onList (r : Registry) : Action → Except Fault Registry
  | .register c => r.register c
  | .applyHints => r.applyHints

/-- What reading a registry gives. -/
structure Reads (r : Indexed) : Prop where
  distinct : r.ids.Nodup
  contains : ∀ id, r.contains id = true ↔ ∃ c ∈ r.candidates, c.id = id
  get : ∀ id c, r.get? id = some c ↔ c ∈ r.candidates ∧ c.id = id
  inRange : ∀ id i, r.position? id = some i → i < r.candidates.length
  phase : ∀ phase c, c ∈ r.inPhase phase ↔ c ∈ r.candidates ∧ c.phase = phase
  phaseOrder : ∀ phase, (r.inPhase phase).Sublist r.candidates

/-- What calls answer, and what they make of a registry. -/
structure Obeys (r : Indexed) : Prop where
  duplicate : ∀ c fault, (r.perform (.register c)).1 = .error fault ↔
    (∃ held ∈ r.candidates, held.id = c.id) ∧ fault = .duplicate c.id
  appended : ∀ c, (r.perform (.register c)).1 = .ok () →
    (r.perform (.register c)).2.candidates = r.candidates ++ [c]
  cyclic : (∃ fault, (r.perform .applyHints).1 = .error fault) ↔ ∃ c, Relation.TransGen r.Asks c c
  circle : ∀ fault, (r.perform .applyHints).1 = .error fault → ∃ ids, fault = .orderingCycle ids
  permuted : (r.perform .applyHints).1 = .ok () → (r.perform .applyHints).2.candidates.Perm r.candidates
  failed : ∀ a fault, (r.perform a).1 = .error fault → (r.perform a).2 = r

namespace Sound

variable {r : Indexed}

/-- **A call does to the list what it does without positions.** -/
theorem onList (h : r.Sound) (a : Action) :
    a.onList r.toRegistry = (r.perform a).1.map fun _ => (r.perform a).2.toRegistry := by
  cases a with
  | register c =>
    rw [perform_register, h.contains_eq, Action.onList, Registry.register]
    split
    · rfl
    · rfl
  | applyHints =>
    rw [perform_applyHints, Action.onList]
    cases r.toRegistry.applyHints with
    | error fault => rfl
    | ok reordered => rfl

theorem onList_eq_error_iff (h : r.Sound) {a : Action} {fault : Fault} :
    (r.perform a).1 = .error fault ↔ a.onList r.toRegistry = .error fault := by
  rw [h.onList, map_eq_error_iff]

theorem onList_of_ok (h : r.Sound) {a : Action} (ha : (r.perform a).1 = .ok ()) :
    a.onList r.toRegistry = .ok (r.perform a).2.toRegistry := by
  rw [h.onList, ha]
  rfl

theorem reads (h : r.Sound) : r.Reads where
  distinct := h.ids
  contains := fun _ => h.contains_iff
  get := fun _ _ => h.get?_iff
  inRange := fun id i hi => by
    obtain ⟨c, hc, -⟩ := h.position?_iff.1 hi
    exact (List.getElem?_eq_some_iff.1 hc).1
  phase := fun phase c => by rw [inPhase, List.mem_filter, beq_iff_eq]
  phaseOrder := fun _ => List.filter_sublist

theorem obeys (h : r.Sound) : r.Obeys where
  duplicate := fun c fault => by
    rw [h.onList_eq_error_iff, Action.onList, register_eq_error_iff, Registry.ids, List.mem_map]
  appended := fun c hc => by
    obtain ⟨-, hnext⟩ := register_eq_ok_iff.1 (h.onList_of_ok hc)
    rw [hnext]
  cyclic := by
    have hok := applyHints_isOk_iff h.ids
    simp only [h.onList_eq_error_iff, Action.onList]
    cases hhints : r.toRegistry.applyHints with
    | error fault => simpa [hhints] using hok
    | ok reordered => simpa [hhints] using hok
  circle := fun _ hfault => applyHints_eq_error (h.onList_eq_error_iff.1 hfault)
  permuted := fun hok => applyHints_perm (h.onList_of_ok hok)
  failed := fun _ _ => perform_of_error

end Sound

/-- **A registry stays consistent**: after any calls, whether they succeeded or failed, ids are held once, an id finds
its candidate and no other, and each phase has its candidates in the registry's order.  A call for an id that is held
fails, hints fail that run in a circle, nothing else fails, and what fails changes nothing; hints that can be applied
only put the candidates in another order. -/
theorem consistent_after (calls : List Action) : (after calls).Reads ∧ (after calls).Obeys :=
  ⟨(sound_after calls).reads, (sound_after calls).obeys⟩

/-- A candidate that moved, an id registered twice, and hints that run in a circle once the last candidate is there. -/
theorem consistent_after_failures :
    let web : Candidate := { id := "web", after := ["core"] }
    let core : Candidate := { id := "core", phase := .parseConfiguration }
    let loop : Candidate := { id := "loop", after := ["web"], before := ["core"] }
    let r := after [.register web, .register core, .applyHints, .register web, .register loop, .applyHints]
    r.ids = ["core", "web", "loop"] ∧ r.position? "web" = some 1 ∧ 1 < r.candidates.length ∧
      (∃ c, r.get? "web" = some c ∧ c.id = "web") ∧ (r.perform (.register core)).1 = .error (.duplicate "core") ∧
      (∃ c, Relation.TransGen r.Asks c c) ∧ (r.perform .applyHints).2 = r := by
  intro web core loop r
  obtain ⟨hreads, hobeys⟩ :=
    consistent_after [.register web, .register core, .applyHints, .register web, .register loop, .applyHints]
  have hposition : r.position? "web" = some 1 := by decide +kernel
  obtain ⟨c, hc, hid⟩ := (hreads.contains "web").1 (by decide +kernel)
  obtain ⟨held, hheld, hcore⟩ := (hreads.contains "core").1 (by decide +kernel)
  obtain ⟨fault, hfault⟩ : ∃ fault, fault? (r.perform .applyHints).1 = some fault :=
    Option.isSome_iff_exists.1 (by decide +kernel)
  rw [fault?_eq_some_iff] at hfault
  exact ⟨by decide +kernel, hposition, hreads.inRange "web" 1 hposition, ⟨c, (hreads.get "web" c).2 ⟨hc, hid⟩, hid⟩,
    (hobeys.duplicate core _).2 ⟨⟨held, hheld, hcore⟩, rfl⟩, hobeys.cyclic.1 ⟨fault, hfault⟩,
    hobeys.failed .applyHints fault hfault⟩

end Registry.Indexed
end Wiring
