import Wiring.Json
/-!
# Json — a printed value ends by itself

A text that begins with a printed value tells which value that is and what stands behind it (`printed_append_inj`),
whatever the characters of its texts.  Inside a quoted text every character is read back (`unescaped?_escaped`), and the
quote that ends it is none of them (`quoted_append_inj`); further elements of a list and further fields of a record
begin with a comma, and their end does not.
-/
namespace Wiring
namespace Json

/-! ### Characters and quoted texts -/

/-- The value of a hexadecimal digit. -/
def digitValue (c : Char) : Nat := if c.toNat < 'a'.toNat then c.toNat - '0'.toNat else c.toNat - 'a'.toNat + 10

/-- The character that a letter behind a backslash stands for. -/
def namedBy : Char → Char
  | 'b' => Char.ofNat 8
  | 'f' => Char.ofNat 12
  | 'n' => '\n'
  | 'r' => '\r'
  | 't' => '\t'
  | c => c

/-- What a backslash begins. -/
def unescapedBehind? : List Char → Option (Char × List Char)
  | 'u' :: '0' :: '0' :: high :: low :: rest => some (Char.ofNat (16 * digitValue high + digitValue low), rest)
  | c :: rest => some (namedBy c, rest)
  | [] => none

/-- Reads one character of a quoted text.  A quote is not one of them. -/
def unescaped? : List Char → Option (Char × List Char)
  | '\\' :: rest => unescapedBehind? rest
  | '"' :: _ => none
  | c :: rest => some (c, rest)
  | [] => none

theorem digitValue_digitChar : ∀ n < 16, digitValue (Nat.digitChar n) = n := by decide

/-- **A character is read back as it was**, whatever follows it. -/
theorem unescaped?_escaped (c : Char) (rest : List Char) : unescaped? (escaped c ++ rest) = some (c, rest) := by
  unfold escaped
  by_cases hquote : c = '"'
  · subst hquote; rfl
  by_cases hback : c = '\\'
  · subst hback; rfl
  by_cases hb : c = Char.ofNat 8
  · subst hb; rfl
  by_cases hf : c = Char.ofNat 12
  · subst hf; rfl
  by_cases hn : c = '\n'
  · subst hn; rfl
  by_cases hr : c = '\r'
  · subst hr; rfl
  by_cases ht : c = '\t'
  · subst ht; rfl
  rw [if_neg hquote, if_neg hback, if_neg hb, if_neg hf, if_neg hn, if_neg hr, if_neg ht]
  by_cases hcontrol : c.toNat < 0x20
  · have hhigh := digitValue_digitChar (c.toNat / 16) (by omega)
    have hlow := digitValue_digitChar (c.toNat % 16) (by omega)
    rw [if_pos hcontrol]
    simp only [List.cons_append, List.nil_append, unescaped?, unescapedBehind?, hhigh, hlow]
    rw [Nat.div_add_mod, Char.ofNat_toNat]
  · rw [if_neg hcontrol, List.singleton_append, unescaped?]
    · exact hback
    · exact hquote

theorem escaped_append_inj {c d : Char} {r s : List Char} (h : escaped c ++ r = escaped d ++ s) : c = d ∧ r = s := by
  have hread := congrArg unescaped? h
  rw [unescaped?_escaped, unescaped?_escaped] at hread
  exact Prod.mk.inj (Option.some.inj hread)

/-- The quote that ends a text does not begin a character of it. -/
theorem escaped_append_ne (c : Char) (r s : List Char) : escaped c ++ r ≠ '"' :: s := fun h => by
  have hread := congrArg unescaped? h
  rw [unescaped?_escaped] at hread
  cases hread

theorem escapedAll_append_inj : ∀ {cs ds r s : List Char},
    cs.flatMap escaped ++ '"' :: r = ds.flatMap escaped ++ '"' :: s → cs = ds ∧ r = s
  | [], [], _, _, h => ⟨rfl, (List.cons.inj h).2⟩
  | [], d :: ds, _, _, h => by
    rw [List.flatMap_cons, List.append_assoc] at h
    exact absurd h.symm (escaped_append_ne d _ _)
  | c :: cs, [], _, _, h => by
    rw [List.flatMap_cons, List.append_assoc] at h
    exact absurd h (escaped_append_ne c _ _)
  | c :: cs, d :: ds, r, s, h => by
    rw [List.flatMap_cons, List.flatMap_cons, List.append_assoc, List.append_assoc] at h
    obtain ⟨rfl, hmore⟩ := escaped_append_inj h
    obtain ⟨rfl, hrest⟩ := escapedAll_append_inj hmore
    exact ⟨rfl, hrest⟩

/-- **A quoted text ends by itself.** -/
theorem quoted_append_inj {a b : String} {r s : List Char} (h : quoted a ++ r = quoted b ++ s) : a = b ∧ r = s := by
  simp only [quoted, List.cons_append, List.append_assoc, List.nil_append, List.cons.injEq, true_and] at h
  obtain ⟨hchars, hrest⟩ := escapedAll_append_inj h
  exact ⟨String.toList_inj.1 hchars, hrest⟩

/-! ### Values

By recursion on the first value, as it is printed: the second begins with the same character, so that it is of the same
kind, and its parts are told one after the other. -/

mutual

/-- **A printed value ends by itself**: a text begins with one at most, and what stands behind it is told. -/
theorem printed_append_inj (depth : Nat) : ∀ {x y : Json} {r s : List Char},
    printed depth x ++ r = printed depth y ++ s → x = y ∧ r = s
  | .flag b, y, r, s, h => by
    cases y with
    | flag b' => cases b <;> cases b' <;> simp [printed] at h ⊢ <;> exact h
    | text t => cases b <;> simp [printed, quoted] at h
    | list ys => cases b <;> cases ys <;> simp [printed] at h
    | record gs => cases b <;> cases gs <;> simp [printed] at h
  | .text t, y, r, s, h => by
    cases y with
    | flag b => cases b <;> simp [printed, quoted] at h
    | text t' =>
      rw [printed, printed] at h
      obtain ⟨rfl, hrest⟩ := quoted_append_inj h
      exact ⟨rfl, hrest⟩
    | list ys => cases ys <;> simp [printed, quoted] at h
    | record gs => cases gs <;> simp [printed, quoted] at h
  | .list xs, y, r, s, h => by
    cases y with
    | flag b => cases b <;> cases xs <;> simp [printed] at h
    | text t => cases xs <;> simp [printed, quoted] at h
    | list ys =>
      obtain ⟨rfl, hrest⟩ := list_append_inj depth h
      exact ⟨rfl, hrest⟩
    | record gs => cases xs <;> cases gs <;> simp [printed] at h
  | .record fs, y, r, s, h => by
    cases y with
    | flag b => cases b <;> cases fs <;> simp [printed] at h
    | text t => cases fs <;> simp [printed, quoted] at h
    | list ys => cases fs <;> cases ys <;> simp [printed] at h
    | record gs =>
      obtain ⟨rfl, hrest⟩ := record_append_inj depth h
      exact ⟨rfl, hrest⟩

theorem list_append_inj (depth : Nat) : ∀ {xs ys : List Json} {r s : List Char},
    printed depth (.list xs) ++ r = printed depth (.list ys) ++ s → xs = ys ∧ r = s
  | [], [], _, _, h => ⟨rfl, by simpa [printed] using h⟩
  | [], y :: ys, _, _, h => by simp [printed, newline] at h
  | x :: xs, [], _, _, h => by simp [printed, newline] at h
  | x :: xs, y :: ys, r, s, h => by
    simp only [printed, List.cons_append, List.append_assoc, List.cons.injEq, true_and] at h
    obtain ⟨rfl, hmore⟩ := printed_append_inj (depth + 1) (List.append_cancel_left h)
    obtain ⟨rfl, hrest⟩ := moreItems_append_inj (depth + 1) hmore
    simpa using hrest

theorem record_append_inj (depth : Nat) : ∀ {fs gs : List (String × Json)} {r s : List Char},
    printed depth (.record fs) ++ r = printed depth (.record gs) ++ s → fs = gs ∧ r = s
  | [], [], _, _, h => ⟨rfl, by simpa [printed] using h⟩
  | [], (_, _) :: _, _, _, h => by simp [printed, newline] at h
  | (_, _) :: _, [], _, _, h => by simp [printed, newline] at h
  | (name, x) :: fs, (name', y) :: gs, r, s, h => by
    simp only [printed, List.cons_append, List.append_assoc, List.cons.injEq, true_and] at h
    obtain ⟨rfl, hvalue⟩ := quoted_append_inj (List.append_cancel_left h)
    obtain ⟨rfl, hmore⟩ := printed_append_inj (depth + 1) (List.cons.inj (List.cons.inj hvalue).2).2
    obtain ⟨rfl, hrest⟩ := moreFields_append_inj (depth + 1) hmore
    simpa using hrest

/-- Further elements end where a new line begins without a comma. -/
theorem moreItems_append_inj (depth : Nat) : ∀ {xs ys : List Json} {r s : List Char},
    moreItems depth xs ++ '\n' :: r = moreItems depth ys ++ '\n' :: s → xs = ys ∧ r = s
  | [], [], _, _, h => ⟨rfl, by simpa [moreItems] using h⟩
  | [], y :: ys, _, _, h => by simp [moreItems] at h
  | x :: xs, [], _, _, h => by simp [moreItems] at h
  | x :: xs, y :: ys, r, s, h => by
    simp only [moreItems, List.cons_append, List.append_assoc, List.cons.injEq, true_and] at h
    obtain ⟨rfl, hmore⟩ := printed_append_inj depth (List.append_cancel_left h)
    obtain ⟨rfl, hrest⟩ := moreItems_append_inj depth hmore
    exact ⟨rfl, hrest⟩

/-- And so do further fields. -/
theorem moreFields_append_inj (depth : Nat) : ∀ {fs gs : List (String × Json)} {r s : List Char},
    moreFields depth fs ++ '\n' :: r = moreFields depth gs ++ '\n' :: s → fs = gs ∧ r = s
  | [], [], _, _, h => ⟨rfl, by simpa [moreFields] using h⟩
  | [], (_, _) :: _, _, _, h => by simp [moreFields] at h
  | (_, _) :: _, [], _, _, h => by simp [moreFields] at h
  | (name, x) :: fs, (name', y) :: gs, r, s, h => by
    simp only [moreFields, List.cons_append, List.append_assoc, List.cons.injEq, true_and] at h
    obtain ⟨rfl, hvalue⟩ := quoted_append_inj (List.append_cancel_left h)
    obtain ⟨rfl, hmore⟩ := printed_append_inj depth (List.cons.inj (List.cons.inj hvalue).2).2
    obtain ⟨rfl, hrest⟩ := moreFields_append_inj depth hmore
    exact ⟨rfl, hrest⟩

end

/-- **Values that are printed alike are one.** -/
theorem pretty_inj {x y : Json} : x.pretty = y.pretty ↔ x = y := by
  constructor
  · intro h
    have hprinted : printed 0 x = printed 0 y := String.ofList_injective h
    exact (printed_append_inj 0 (congrArg (· ++ []) hprinted)).1
  · rintro rfl
    rfl

end Json
end Wiring
