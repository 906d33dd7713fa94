import Wiring.Proofs.Hints.Registered
import Wiring.Proofs.Results
/-!
# Listing — a list of candidates registered one after the other

The list becomes the registry when its ids are distinct; else the first id that is there already is the error.
-/
namespace Wiring

/-- The first element of the list that is among those before it. -/
def FirstRepeat {α : Type} (l : List α) (x : α) : Prop := ∃ pre post, l = pre ++ x :: post ∧ x ∈ pre ∧ pre.Nodup

namespace FirstRepeat

variable {α : Type} {l : List α} {x y : α}

theorem not_nodup (h : FirstRepeat l x) : ¬l.Nodup := by
  obtain ⟨pre, post, rfl, hx, -⟩ := h
  intro hl
  exact (List.nodup_append.1 hl).2.2 x hx x List.mem_cons_self rfl

theorem concat_iff : FirstRepeat (l ++ [x]) y ↔ FirstRepeat l y ∨ l.Nodup ∧ x ∈ l ∧ y = x := by
  constructor
  · rintro ⟨pre, post, heq, hy, hpre⟩
    rcases List.eq_nil_or_concat post with rfl | ⟨post, z, rfl⟩
    · obtain ⟨rfl, h⟩ := List.append_inj' heq rfl
      obtain rfl : x = y := by simpa using h
      exact .inr ⟨hpre, hy, rfl⟩
    · rw [List.concat_eq_append, ← List.cons_append, ← List.append_assoc] at heq
      exact .inl ⟨pre, post, (List.append_inj' heq rfl).1, hy, hpre⟩
  · rintro (⟨pre, post, rfl, hy, hpre⟩ | ⟨hl, hx, rfl⟩)
    · exact ⟨pre, post ++ [x], by simp, hy, hpre⟩
    · exact ⟨l, [], rfl, hx, hl⟩

theorem map_iff {β : Type} {f : α → β} (hf : Function.Injective f) : FirstRepeat (l.map f) (f x) ↔ FirstRepeat l x := by
  constructor
  · rintro ⟨pre, post, heq, hx, hpre⟩
    obtain ⟨pre', rest, rfl, rfl, hrest⟩ := List.map_eq_append_iff.1 heq
    obtain ⟨x', post', rfl, hx', -⟩ := List.map_eq_cons_iff.1 hrest
    obtain rfl := hf hx'
    exact ⟨pre', post', rfl, (List.mem_map_of_injective hf).1 hx, hpre.of_map⟩
  · rintro ⟨pre, post, rfl, hx, hpre⟩
    exact ⟨pre.map f, post.map f, by simp, List.mem_map_of_mem hx, hpre.map hf⟩

/-- A list has distinct elements unless one of them is the first to repeat. -/
theorem nodup_of_none : ∀ {l : List α}, (∀ x, ¬FirstRepeat l x) → l.Nodup := by
  intro l
  induction l using List.reverseRecOn with
  | nil => simp
  | append_singleton l x ih =>
    intro h
    have hl := ih fun y hy => h y (concat_iff.2 (.inl hy))
    by_cases hx : x ∈ l
    · exact absurd (concat_iff.2 (.inr ⟨hl, hx, rfl⟩)) (h x)
    · exact List.concat_eq_append ▸ hl.concat hx

end FirstRepeat

namespace Registry

theorem ofList_concat (cs : List Candidate) (c : Candidate) :
    ofList (cs ++ [c]) = ofList cs >>= fun r => r.register c := by
  unfold ofList
  rw [List.foldlM_append]
  simp

theorem ofList_eq_ok_iff {cs : List Candidate} : ∀ {r : Registry}, ofList cs = .ok r ↔ (ids ⟨cs⟩).Nodup ∧ r = ⟨cs⟩ := by
  induction cs using List.reverseRecOn with
  | nil => simp [ofList, ids, pure, Except.pure, eq_comm]
  | append_singleton cs c ih =>
    intro r
    rw [ofList_concat, bind_eq_ok_iff, ids_concat, ← List.concat_eq_append, List.nodup_concat]
    constructor
    · rintro ⟨r₁, h₁, h⟩
      obtain ⟨hids, rfl⟩ := ih.1 h₁
      obtain ⟨hc, rfl⟩ := register_eq_ok_iff.1 h
      exact ⟨⟨hc, hids⟩, rfl⟩
    · rintro ⟨⟨hc, hids⟩, rfl⟩
      exact ⟨⟨cs⟩, ih.2 ⟨hids, rfl⟩, register_eq_ok_iff.2 ⟨hc, rfl⟩⟩

/-- **Registering a list fails exactly at the first id that repeats one before it.** -/
theorem ofList_eq_error_iff {cs : List Candidate} {fault : Fault} :
    ofList cs = .error fault ↔ ∃ id, FirstRepeat (ids ⟨cs⟩) id ∧ fault = .duplicate id := by
  induction cs using List.reverseRecOn with
  | nil => simp [ofList, ids, FirstRepeat, pure, Except.pure]
  | append_singleton cs c ih =>
    rw [ofList_concat, bind_eq_error_iff, ih, ids_concat]
    simp only [FirstRepeat.concat_iff]
    constructor
    · rintro (⟨id, hid, rfl⟩ | ⟨r, hr, h⟩)
      · exact ⟨id, .inl hid, rfl⟩
      · obtain ⟨hids, rfl⟩ := ofList_eq_ok_iff.1 hr
        obtain ⟨hc, rfl⟩ := register_eq_error_iff.1 h
        exact ⟨c.id, .inr ⟨hids, hc, rfl⟩, rfl⟩
    · rintro ⟨id, hid | ⟨hids, hc, rfl⟩, rfl⟩
      · exact .inl ⟨id, hid, rfl⟩
      · exact .inr ⟨⟨cs⟩, ofList_eq_ok_iff.2 ⟨hids, rfl⟩, register_eq_error_iff.2 ⟨hc, rfl⟩⟩

end Registry
end Wiring
