import Mathlib.Data.List.Forall2
/-!
# Results — what a result made of another says about that one
-/
namespace Wiring

variable {ε α β : Type}

theorem map_eq_ok_iff {x : Except ε α} {g : α → β} {b : β} : x.map g = .ok b ↔ ∃ a, x = .ok a ∧ g a = b := by
  cases x with
  | error fault => exact ⟨fun h => (nomatch h), fun ⟨_, h, _⟩ => (nomatch h)⟩
  | ok a => exact ⟨fun h => ⟨a, rfl, Except.ok.inj h⟩, fun ⟨_, h, hb⟩ => Except.ok.inj h ▸ congrArg Except.ok hb⟩

theorem map_eq_error_iff {x : Except ε α} {g : α → β} {fault : ε} : x.map g = .error fault ↔ x = .error fault := by
  cases x with
  | error fault' => exact ⟨fun h => Except.error.inj h ▸ rfl, fun h => Except.error.inj h ▸ rfl⟩
  | ok a => exact ⟨fun h => (nomatch h), fun h => (nomatch h)⟩

theorem mapError_eq_ok_iff {ε' : Type} {x : Except ε α} {g : ε → ε'} {a : α} : x.mapError g = .ok a ↔ x = .ok a := by
  cases x with
  | error fault => exact ⟨fun h => (nomatch h), fun h => (nomatch h)⟩
  | ok a' => exact ⟨fun h => Except.ok.inj h ▸ rfl, fun h => Except.ok.inj h ▸ rfl⟩

theorem bind_eq_ok_iff {x : Except ε α} {g : α → Except ε β} {b : β} :
    x >>= g = .ok b ↔ ∃ a, x = .ok a ∧ g a = .ok b := by
  cases x with
  | error fault => exact ⟨fun h => (nomatch h), fun ⟨_, h, _⟩ => (nomatch h)⟩
  | ok a => exact ⟨fun h => ⟨a, rfl, h⟩, fun ⟨_, h, hb⟩ => Except.ok.inj h ▸ hb⟩

theorem bind_eq_error_iff {x : Except ε α} {g : α → Except ε β} {fault : ε} :
    x >>= g = .error fault ↔ x = .error fault ∨ ∃ a, x = .ok a ∧ g a = .error fault := by
  cases x with
  | error fault' =>
    constructor
    · intro h
      obtain rfl := Except.error.inj h
      exact .inl rfl
    · rintro (h | ⟨a, ha, -⟩)
      · obtain rfl := Except.error.inj h
        rfl
      · cases ha
  | ok a =>
    constructor
    · intro h
      exact .inr ⟨a, rfl, h⟩
    · rintro (h | ⟨_, ha, h⟩)
      · cases h
      · exact Except.ok.inj ha ▸ h

theorem exists_of_forall₂_left {α β : Type} {R : α → β → Prop} : ∀ {l : List α} {m : List β}, List.Forall₂ R l m →
    ∀ a ∈ l, ∃ b ∈ m, R a b
  | [], _, .nil, a, ha => (nomatch ha)
  | _ :: _, b :: _, .cons hab hlm, a, ha => by
    rcases List.mem_cons.1 ha with rfl | ha
    · exact ⟨b, List.mem_cons_self, hab⟩
    · obtain ⟨b', hb', hr⟩ := exists_of_forall₂_left hlm a ha
      exact ⟨b', List.mem_cons_of_mem _ hb', hr⟩

theorem mapM_eq_ok_iff {g : α → Except ε β} : ∀ {l : List α} {bs : List β},
    l.mapM g = .ok bs ↔ List.Forall₂ (fun a b => g a = .ok b) l bs
  | [], bs => by
    cases bs <;> simp [pure, Except.pure]
  | a :: l, bs => by
    rw [List.mapM_cons, bind_eq_ok_iff]
    constructor
    · rintro ⟨b, hb, h⟩
      obtain ⟨bs', hbs, h⟩ := bind_eq_ok_iff.1 h
      obtain rfl := Except.ok.inj h
      exact .cons hb (mapM_eq_ok_iff.1 hbs)
    · rintro (_ | ⟨hb, hbs⟩)
      exact ⟨_, hb, bind_eq_ok_iff.2 ⟨_, mapM_eq_ok_iff.2 hbs, rfl⟩⟩

theorem exists_of_mapM_eq_error {g : α → Except ε β} {fault : ε} : ∀ {l : List α},
    l.mapM g = .error fault → ∃ a ∈ l, g a = .error fault
  | [], h => (nomatch h)
  | a :: l, h => by
    rw [List.mapM_cons, bind_eq_error_iff] at h
    rcases h with h | ⟨b, -, h⟩
    · exact ⟨a, List.mem_cons_self, h⟩
    · rcases bind_eq_error_iff.1 h with h | ⟨bs, -, h⟩
      · obtain ⟨a', ha', h⟩ := exists_of_mapM_eq_error h
        exact ⟨a', List.mem_cons_of_mem _ ha', h⟩
      · cases h

/-- The fault of a result that is one. -/
def fault? : Except ε α → Option ε
  | .error fault => some fault
  | .ok _ => none

theorem fault?_eq_some_iff {x : Except ε α} {fault : ε} : fault? x = some fault ↔ x = .error fault := by
  cases x <;> simp [fault?]

/-- What holds before a fold that succeeds and is kept by every step of it holds after it. -/
theorem foldlM_eq_ok_of_step {g : β → α → Except ε β} {P : List α → β → Prop} {all : List α}
    (hstep : ∀ done a b b', a ∈ all → P done b → g b a = .ok b' → P (done ++ [a]) b') : ∀ (l done : List α) {b b' : β},
      all = done ++ l → P done b → l.foldlM g b = .ok b' → P all b'
  | [], done, b, b', hall, hb, h => by
    rw [List.append_nil] at hall
    subst hall
    exact Except.ok.inj h ▸ hb
  | a :: l, done, b, b', hall, hb, h => by
    rw [List.foldlM_cons] at h
    obtain ⟨c, hc, hl⟩ := bind_eq_ok_iff.1 h
    have ha : a ∈ all := by rw [hall]; exact List.mem_append_right _ List.mem_cons_self
    exact foldlM_eq_ok_of_step hstep l (done ++ [a]) (by rw [hall, List.append_cons]) (hstep done a b c ha hb hc) hl

/-- A fold fails in one of its steps. -/
theorem exists_of_foldlM_eq_error {g : β → α → Except ε β} {fault : ε} : ∀ {l : List α} {b : β},
    l.foldlM g b = .error fault → ∃ a ∈ l, ∃ b', g b' a = .error fault
  | [], _, h => (nomatch h)
  | a :: l, b, h => by
    rw [List.foldlM_cons, bind_eq_error_iff] at h
    rcases h with h | ⟨c, -, h⟩
    · exact ⟨a, List.mem_cons_self, b, h⟩
    · obtain ⟨a', ha', hb'⟩ := exists_of_foldlM_eq_error h
      exact ⟨a', List.mem_cons_of_mem _ ha', hb'⟩

end Wiring
