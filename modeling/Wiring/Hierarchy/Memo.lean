import Wiring.Hierarchy
/-!
# Memo — a hierarchy that remembers its answers
-/
namespace Wiring

/-- A hierarchy with the answers already given, each for a source and a target. -/
structure Hierarchy.Memo where
  hierarchy : Hierarchy := {}
  answers : List ((String × String) × Bool) := []
  deriving DecidableEq

namespace Hierarchy.Memo

/-- A declaration may change any answer, so all are forgotten. -/
def declare (m : Memo) (type : String) (supertypes : List String) : Memo :=
  ⟨m.hierarchy.declare type supertypes, []⟩

/-- The remembered answer, or the one looked for now, which is remembered.  That a type can stand for itself need
not be. -/
def ask (m : Memo) (source target : String) : Bool × Memo :=
  if source == target then (true, m)
  else match m.answers.lookup (source, target) with
    | some answer => (answer, m)
    | none =>
      let answer := m.hierarchy.isBelow source target
      (answer, { m with answers := ((source, target), answer) :: m.answers })

end Hierarchy.Memo
end Wiring
