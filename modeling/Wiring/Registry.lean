import Wiring.Candidate
import Wiring.Hints
import Wiring.Ranking
/-!
# Registry — candidates in the order in which they will be looked at
-/
namespace Wiring

structure Registry where
  candidates : List Candidate := []

namespace Registry

def ids (r : Registry) : List String := r.candidates.map (·.id)

def contains (r : Registry) (id : String) : Bool := r.ids.contains id

def get? (r : Registry) (id : String) : Option Candidate := r.candidates.find? (·.id == id)

/-- Adds a candidate at the end; an id is registered once. -/
def register (r : Registry) (c : Candidate) : Except Fault Registry :=
  if r.contains c.id then .error (.duplicate c.id) else .ok ⟨r.candidates ++ [c]⟩

/-- **Registering fails exactly for an id that is already there.** -/
theorem register_eq_error_iff {r : Registry} {c : Candidate} {fault : Fault} :
    r.register c = .error fault ↔ c.id ∈ r.ids ∧ fault = .duplicate c.id := by
  unfold register contains
  by_cases h : c.id ∈ r.ids
  · simp [h, eq_comm]
  · simp [h]

theorem register_eq_ok_iff {r s : Registry} {c : Candidate} :
    r.register c = .ok s ↔ c.id ∉ r.ids ∧ s = ⟨r.candidates ++ [c]⟩ := by
  unfold register contains
  by_cases h : c.id ∈ r.ids
  · simp [h]
  · simp [h, eq_comm]

def ofList (cs : List Candidate) : Except Fault Registry := cs.foldlM register {}

def inPhase (r : Registry) (phase : Phase) : List Candidate := r.candidates.filter (·.phase == phase)

def components (r : Registry) : List Component := r.candidates.map (·.toComponent)

def applyHints (r : Registry) : Except Fault Registry :=
  match Hints.order r.components with
  | .ok positions => .ok ⟨positions.filterMap (r.candidates[·]?)⟩
  | .error positions => .error (.orderingCycle (positions.filterMap (r.ids[·]?)))

end Registry

/-- A candidate that was handed in, with the place it asks for; a lower one comes earlier. -/
structure Submission where
  order : Int
  candidate : Candidate

/-- All candidates handed in, in the order of their places and then of arrival, and then as their hints ask. -/
def Registry.ofSubmissions (submissions : List Submission) : Except Fault Registry := do
  let sorted := Ranking.sorted (fun a b => decide (a.order < b.order)) submissions
  (← Registry.ofList (sorted.map (·.candidate))).applyHints

end Wiring
