import Wiring.Condition
import Wiring.Outcome
/-!
# Trace — what was found out about each candidate
-/
namespace Wiring

structure Finding where
  kind : ConditionKind
  description : String
  matched : Bool
  message : String
  deriving DecidableEq

/-- One candidate: the conditions judged, up to the first that did not match, and the outcome.  A candidate that
the settings exclude has no findings. -/
structure Entry where
  candidate : String
  phase : Phase
  findings : List Finding
  outcome : Outcome
  excluded : Bool
  deriving DecidableEq

namespace Entry

def failing? (e : Entry) : Option Finding := e.findings.find? fun f => !f.matched

def isUnconditional (e : Entry) : Bool := !e.excluded && e.findings.isEmpty

end Entry

/-- The entries in the order in which the candidates were looked at. -/
abbrev Trace := List Entry

def Trace.entry? (t : Trace) (candidate : String) : Option Entry := t.find? (·.candidate == candidate)

end Wiring
