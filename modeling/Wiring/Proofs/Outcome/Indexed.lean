import Wiring.Outcome.Indexed
import Wiring.Proofs.Registry.Indexed
import Wiring.Proofs.Report.Modes
/-!
# Indexed — the first record of an id stays

Of records made one after the other the first of each id stays (`firsts`): so it is where the entries are searched
(`entries_foldl_record`, `get?_foldl_record`).  Where ids are found by position, the position of an id is where its
entry stands (`Indexed.Sound`); one record keeps this, and so do any (`sound_after`), so that both ways come to the same
entries and the same answers (`after_toActivations`, `Sound.get?_eq`).
-/
namespace Wiring
namespace Activations

/-- The first record of each id, in the order in which these were made. -/
def firsts : List (String × Outcome) → List (String × Outcome)
  | [] => []
  | r :: rs => r :: (firsts rs).filter fun later => later.1 ≠ r.1

/-! ### Entries that are searched -/

theorem entries_record (a : Activations) (id : String) (outcome : Outcome) :
    (a.record id outcome).entries = if (a.get? id).isSome then a.entries else a.entries ++ [(id, outcome)] := by
  unfold record
  split <;> rfl

/-- **Records add the first of each id that was not there.** -/
theorem entries_foldl_record : ∀ (records : List (String × Outcome)) (a : Activations),
    (records.foldl (fun a r => a.record r.1 r.2) a).entries =
      a.entries ++ (firsts records).filter fun r => (a.get? r.1).isNone
  | [], a => (List.append_nil a.entries).symm
  | r :: rs, a => by
    -- those that are new once the record is there are the new ones of another id
    have hnew : ∀ later : String × Outcome, ((a.record r.1 r.2).get? later.1).isNone =
        ((a.get? later.1).isNone && decide (later.1 ≠ r.1)) := fun later => by
      rw [get?_record]
      by_cases hid : later.1 = r.1
      · cases h : a.get? r.1 <;> simp [hid]
      · simp [hid]
    rw [List.foldl_cons, entries_foldl_record rs, entries_record, firsts, List.filter_cons, List.filter_filter]
    simp only [hnew]
    cases h : a.get? r.1 with
    | some outcome => simp
    | none => simp

/-- **The first record of an id tells its outcome**, unless it had one before. -/
theorem get?_foldl_record (id : String) : ∀ (records : List (String × Outcome)) (a : Activations),
    (records.foldl (fun a r => a.record r.1 r.2) a).get? id = (a.get? id).or (records.lookup id)
  | [], a => Option.or_none.symm
  | r :: rs, a => by
    rw [List.foldl_cons, get?_foldl_record id rs, get?_record, List.lookup_cons]
    by_cases hid : id = r.1
    · simp [hid]
    · have hb : (id == r.1) = false := by simp [hid]
      simp [hid, hb]

/-- The activated and the skipped, put together again. -/
theorem merged_entries (a : Activations) :
    Report.Merged (a.activated.map fun id => (id, Outcome.activated)) (a.skipped.map fun s => (s.1, .skipped s.2))
      a.entries := by
  unfold activated skipped
  induction a.entries with
  | nil => exact .nil
  | cons e es ih =>
    obtain ⟨id, outcome⟩ := e
    cases outcome with
    | activated => exact .left (id, Outcome.activated) ih
    | skipped reason => exact .right (id, Outcome.skipped reason) ih

theorem length_activated_add_length_skipped (a : Activations) : a.activated.length + a.skipped.length = a.size := by
  have hlength := a.merged_entries.length_eq
  rwa [List.length_map, List.length_map] at hlength

namespace Indexed

open Registry.Indexed (Places)

/-! ### Entries that are found by position -/

/-- **The invariant**: an id has one entry, and its position is where that stands. -/
structure Sound (a : Indexed) : Prop where
  ids : (a.entries.map (·.1)).Nodup
  places : Places (a.entries.map (·.1)) a.positions

namespace Sound

variable {a : Indexed} {id : String} {i : Nat}

theorem position?_iff (h : a.Sound) : a.position? id = some i ↔ ∃ outcome, a.entries[i]? = some (id, outcome) := by
  rw [position?, h.places id i, List.getElem?_map, Option.map_eq_some_iff]
  constructor
  · rintro ⟨e, he, rfl⟩
    exact ⟨e.2, he⟩
  · rintro ⟨outcome, he⟩
    exact ⟨_, he, rfl⟩

/-- Looking an id up by its position is searching the entries for it. -/
theorem get?_eq (h : a.Sound) (id : String) : a.get? id = a.toActivations.get? id := by
  refine Option.ext fun outcome => ?_
  rw [Activations.get?_eq_some_iff h.ids, Indexed.get?, Option.bind_eq_some_iff]
  constructor
  · rintro ⟨i, hi, houtcome⟩
    obtain ⟨held, hheld⟩ := h.position?_iff.1 hi
    rw [hheld] at houtcome
    obtain rfl := Option.some.inj houtcome
    exact List.mem_of_getElem? hheld
  · intro hmem
    obtain ⟨i, hi⟩ := List.getElem?_of_mem hmem
    exact ⟨i, h.position?_iff.2 ⟨outcome, hi⟩, by rw [hi]; rfl⟩

/-- Where there is a position there is an entry, so that it is never looked up beyond the end. -/
theorem isSome_position? (h : a.Sound) (id : String) :
    (a.position? id).isSome = (a.toActivations.get? id).isSome := by
  rw [← h.get?_eq, Indexed.get?]
  cases hi : a.position? id with
  | none => rfl
  | some i =>
    obtain ⟨outcome, he⟩ := h.position?_iff.1 hi
    rw [Option.bind_some, he]
    rfl

/-- **A record does to the entries what it does without positions.** -/
theorem toActivations_record (h : a.Sound) (id : String) (outcome : Outcome) :
    (a.record id outcome).toActivations = a.toActivations.record id outcome := by
  unfold Indexed.record Activations.record
  rw [h.isSome_position?]
  split <;> rfl

/-- **One record keeps the invariant.** -/
theorem record (h : a.Sound) (id : String) (outcome : Outcome) : (a.record id outcome).Sound := by
  unfold Indexed.record
  split
  · exact h
  · rename_i hnew
    have hid : id ∉ a.entries.map (·.1) := fun hmem => by
      obtain ⟨e, he, rfl⟩ := List.mem_map.1 hmem
      have hfound := (Activations.get?_eq_some_iff h.ids).2 he
      rw [h.isSome_position?, hfound] at hnew
      exact hnew rfl
    have hplaces := h.places.concat hid
    rw [List.length_map] at hplaces
    refine ⟨?_, ?_⟩
    · rw [List.map_append]
      exact List.concat_eq_append ▸ h.ids.concat hid
    · rw [List.map_append]
      exact hplaces

theorem foldl_record : ∀ {a : Indexed} (records : List (String × Outcome)), a.Sound →
    (records.foldl (fun a r => a.record r.1 r.2) a).Sound
  | _, [], h => h
  | _, r :: rs, h => foldl_record rs (h.record r.1 r.2)

theorem toActivations_foldl_record : ∀ {a : Indexed} (records : List (String × Outcome)), a.Sound →
    (records.foldl (fun a r => a.record r.1 r.2) a).toActivations =
      records.foldl (fun a r => a.record r.1 r.2) a.toActivations
  | _, [], _ => rfl
  | a, r :: rs, h => by
    rw [List.foldl_cons, List.foldl_cons, toActivations_foldl_record rs (h.record r.1 r.2), h.toActivations_record]

end Sound

theorem sound_empty : ({} : Indexed).Sound := ⟨List.nodup_nil, fun id i => by simp⟩

/-- **And so it holds after any records.** -/
theorem sound_after (records : List (String × Outcome)) : (after records).Sound := sound_empty.foldl_record records

theorem after_toActivations (records : List (String × Outcome)) :
    (after records).toActivations = records.foldl (fun a r => a.record r.1 r.2) ({} : Activations) :=
  sound_empty.toActivations_foldl_record records

theorem entries_after (records : List (String × Outcome)) : (after records).entries = firsts records := by
  rw [after_toActivations, entries_foldl_record]
  exact List.filter_eq_self.2 fun _ _ => rfl

theorem get?_after (records : List (String × Outcome)) (id : String) : (after records).get? id = records.lookup id := by
  rw [(sound_after records).get?_eq, after_toActivations, get?_foldl_record]
  rfl

theorem entries_after_append (records later : List (String × Outcome)) :
    (after records).entries <+: (after (records ++ later)).entries := by
  rw [after_toActivations (records ++ later), List.foldl_append, ← after_toActivations, entries_foldl_record]
  exact List.prefix_append _ _

/-- **The first record of an id stays.**  Whatever is recorded, ids repeated or not, the entries are the first record of
each id in the order in which these were made, and later records leave them where they are; an id has the outcome first
recorded for it, and none exactly when nothing was recorded for it; its position is that of its entry.  The activated
and the skipped are the entries taken apart, each in their order. -/
theorem first_record_stays (records : List (String × Outcome)) :
    (after records).entries = firsts records ∧
    (∀ later, (after records).entries <+: (after (records ++ later)).entries) ∧
    (∀ id, (after records).get? id = records.lookup id ∧
      ((after records).get? id = none ↔ ∀ outcome, (id, outcome) ∉ records)) ∧
    (∀ id i, (after records).position? id = some i →
      i < (after records).size ∧ ∃ outcome, (after records).entries[i]? = some (id, outcome)) ∧
    Report.Merged ((after records).activated.map fun id => (id, Outcome.activated))
      ((after records).skipped.map fun s => (s.1, Outcome.skipped s.2)) (after records).entries ∧
    (after records).activated.length + (after records).skipped.length = (after records).size := by
  refine ⟨entries_after records, entries_after_append records, fun id => ⟨get?_after records id, ?_⟩, fun id i hi => ?_,
    merged_entries _, length_activated_add_length_skipped _⟩
  · rw [get?_after, List.lookup_eq_none_iff]
    constructor
    · intro h outcome hmem
      exact bne_iff_ne.1 (h _ hmem) rfl
    · intro h r hr
      exact bne_iff_ne.2 fun hid => h r.2 (hid ▸ hr)
  · obtain ⟨outcome, he⟩ := (sound_after records).position?_iff.1 hi
    exact ⟨(List.getElem?_eq_some_iff.1 he).1, outcome, he⟩

/-- The second record of the pool comes too late. -/
theorem first_record_stays_of_pool :
    let records := [("pool", Outcome.activated), ("web", .skipped "no server"), ("pool", .skipped "late")]
    let a := after records
    a.entries = [("pool", .activated), ("web", .skipped "no server")] ∧ a.get? "pool" = some .activated ∧
      a.get? "log" = none ∧ a.position? "web" = some 1 ∧ 1 < a.size ∧
      a.entries <+: (after (records ++ [("log", .activated)])).entries ∧
      a.activated.length + a.skipped.length = a.size := by
  intro records a
  obtain ⟨hentries, hlater, hget, hposition, -, hsizes⟩ := first_record_stays records
  have hweb : a.position? "web" = some 1 := by decide +kernel
  exact ⟨hentries.trans (by decide +kernel), (hget "pool").1.trans (by decide +kernel),
    (hget "log").2.2 (by simp [records]), hweb, (hposition "web" 1 hweb).1, hlater _, hsizes⟩

end Indexed
end Activations
end Wiring
