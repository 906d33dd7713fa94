import Wiring.Outcome
/-!
# Indexed — outcomes that are found by the position of their id
-/
namespace Wiring

/-- Outcomes, and beside them positions by id. -/
structure Activations.Indexed extends Activations where
  positions : List (String × Nat) := []

namespace Activations.Indexed

def position? (a : Indexed) (id : String) : Option Nat := a.positions.lookup id

/-- The first record of an id stays; a later one is left out. -/
def record (a : Indexed) (id : String) (outcome : Outcome) : Indexed :=
  if (a.position? id).isSome then a
  else
    let placed := { a with positions := (id, a.entries.length) :: a.positions }
    { placed with entries := placed.entries ++ [(id, outcome)] }

def get? (a : Indexed) (id : String) : Option Outcome :=
  (a.position? id).bind fun i => (a.entries[i]?).map (·.2)

def isActivated (a : Indexed) (id : String) : Bool := (a.get? id).elim false Outcome.isActivated

/-- From no record on, one record after the other. -/
def after (records : List (String × Outcome)) : Indexed := records.foldl (fun a r => a.record r.1 r.2) {}

end Activations.Indexed
end Wiring
