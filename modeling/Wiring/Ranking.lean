/-!
# Ranking — lists kept in order of a whole number, equals in order of arrival
-/
namespace Wiring
namespace Ranking

variable {α : Type}

/-- The element behind all that come before it and all its equals. -/
def insert (before : α → α → Bool) (x : α) : List α → List α
  | [] => [x]
  | y :: ys => if before x y then x :: y :: ys else y :: insert before x ys

def sorted (before : α → α → Bool) (xs : List α) : List α := xs.foldl (fun ys x => insert before x ys) []

theorem insert_perm (before : α → α → Bool) (x : α) : ∀ xs : List α, (insert before x xs).Perm (x :: xs)
  | [] => List.Perm.refl _
  | y :: ys => by
    rw [insert]
    split
    · exact List.Perm.refl _
    · exact ((insert_perm before x ys).cons y).trans (List.Perm.swap x y ys)

theorem mem_insert {before : α → α → Bool} {x y : α} {xs : List α} : y ∈ insert before x xs ↔ y = x ∨ y ∈ xs := by
  rw [(insert_perm before x xs).mem_iff, List.mem_cons]

end Ranking
end Wiring
