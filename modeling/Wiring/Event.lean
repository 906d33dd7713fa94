import Wiring.Component
import Wiring.Log
/-!
# Event — what listeners hear while candidates are looked at
-/
namespace Wiring

inductive Event where
  | runStarted (candidates : Nat)
  | phaseStarted (phase : Phase) (candidates : Nat)
  | activated (candidate : String) (phase : Phase)
  | skipped (candidate : String) (phase : Phase) (reason : String)
  | runCompleted (activated skipped : Nat)
  deriving DecidableEq

namespace Event

def name : Event → String
  | .runStarted _ => "RunStarted"
  | .phaseStarted .. => "PhaseStarted"
  | .activated .. => "CandidateActivated"
  | .skipped .. => "CandidateSkipped"
  | .runCompleted .. => "RunCompleted"

def text : Event → String
  | .runStarted n => "resolution started with " ++ toString n ++ " candidate(s)"
  | .phaseStarted phase n => "phase " ++ phase.text ++ " started with " ++ toString n ++ " candidate(s)"
  | .activated candidate phase => "'" ++ candidate ++ "' activated in phase " ++ phase.text
  | .skipped candidate phase reason => "'" ++ candidate ++ "' skipped in phase " ++ phase.text ++ ": " ++ reason
  | .runCompleted a s => "resolution completed: " ++ toString a ++ " activated, " ++ toString s ++ " skipped"

def fields : Event → List (String × String)
  | .runStarted n => [("candidates", toString n)]
  | .phaseStarted phase n => [("phase", phase.inspect), ("candidates", toString n)]
  | .activated candidate phase => [("candidate", Inspect.quoted candidate), ("phase", phase.inspect)]
  | .skipped candidate phase reason =>
    [("candidate", Inspect.quoted candidate), ("phase", phase.inspect), ("reason", Inspect.quoted reason)]
  | .runCompleted a s => [("activated", toString a), ("skipped", toString s)]

def inspect (e : Event) : String := Inspect.record e.name e.fields

end Event

/-- A listener has a name and writes lines to the log for what it hears; it changes nothing else. -/
structure Listener where
  name : String := "AnonymousListener"
  hear : Event → List Log.Line := fun _ => []

namespace Listener

/-- Single candidates are of less interest than the run and its phases. -/
def levelOf : Event → Log.Level
  | .activated .. | .skipped .. => .debug
  | _ => .info

def logging : Listener where
  name := "LoggingResolutionListener"
  hear e := [⟨levelOf e, e.text⟩]

/-- Each event reaches all listeners in their order before the next event does. -/
def deliveries (listeners : List Listener) (events : List Event) : List (Listener × Event) :=
  events.flatMap fun e => listeners.map fun l => (l, e)

end Listener
end Wiring
