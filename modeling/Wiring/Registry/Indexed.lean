import Wiring.Registry
/-!
# Indexed — a registry that finds the candidate of an id by its position
-/
namespace Wiring

/-- Candidates, and beside them positions by id; of several entries of an id the first counts. -/
structure Registry.Indexed extends Registry where
  positions : List (String × Nat) := []

namespace Registry.Indexed

/-- A call changes the registry in place: what it did before it failed stays done. -/
abbrev Call := EStateM Fault Indexed Unit

def position? (r : Indexed) (id : String) : Option Nat := r.positions.lookup id

def contains (r : Indexed) (id : String) : Bool := (r.position? id).isSome

def get? (r : Indexed) (id : String) : Option Candidate := (r.position? id).bind (r.candidates[·]?)

/-- The position of every id of a list, entered in the list's order. -/
def positionsOf (ids : List String) : List (String × Nat) := ids.zipIdx.reverse

def register (c : Candidate) : Call := do
  if (← get).contains c.id then throw (.duplicate c.id)
  modify fun r => { r with positions := (c.id, r.candidates.length) :: r.positions }
  modify fun r => { r with candidates := r.candidates ++ [c] }

/-- Candidates that change places get new positions. -/
def applyHints : Call := do
  match (← get).toRegistry.applyHints with
  | .error fault => throw fault
  | .ok reordered =>
    modify fun r => { r with positions := positionsOf reordered.ids }
    modify fun r => { r with toRegistry := reordered }

inductive Action where
  | register (c : Candidate)
  | applyHints

def Action.call : Action → Call
  | .register c => Indexed.register c
  | .applyHints => Indexed.applyHints

/-- What a call answers, and the registry that it leaves. -/
def perform (r : Indexed) (a : Action) : Except Fault Unit × Indexed :=
  match a.call.run r with
  | .ok _ next => (.ok (), next)
  | .error fault next => (.error fault, next)

/-- From no candidate on; calls go on after one that failed. -/
def after (calls : List Action) : Indexed := calls.foldl (fun r a => (r.perform a).2) {}

end Registry.Indexed
end Wiring
