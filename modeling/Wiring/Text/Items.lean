import Wiring.Text.Blank
/-!
# Items — lists written in one text, items separated by commas
-/
namespace Wiring
namespace Text

/-- The pieces between the separators; a text without separator is one piece. -/
def pieces (sep : Char) : List Char → List (List Char)
  | [] => [[]]
  | c :: s =>
    if c = sep then [] :: pieces sep s
    else match pieces sep s with
      | [] => [[c]]
      | p :: ps => (c :: p) :: ps

/-- The items of a comma-separated text: its pieces without surrounding blanks, the empty ones left out. -/
def items (s : String) : List String :=
  (((pieces ',' s.toList).map trimmed).filter fun p => !p.isEmpty).map String.ofList

theorem pieces_ne_nil (sep : Char) : ∀ s : List Char, pieces sep s ≠ []
  | [] => by simp [pieces]
  | c :: s => by
    rw [pieces]
    split
    · simp
    · split <;> simp

example : items " a, ,b c," = ["a", "b c"] := by decide +kernel

end Text
end Wiring
