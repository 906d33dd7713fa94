import Wiring.Event
import Wiring.Registry
import Wiring.Settings
import Wiring.Trace
/-!
# Run — looking at all candidates once, phase by phase

A candidate is judged by the facts as they are when its turn comes.  One that is activated is registered at
once, so that those after it see it; nothing is taken back.
-/
namespace Wiring

inductive Signal where
  | line (l : Log.Line)
  | event (e : Event)
  deriving DecidableEq

namespace Signal

def info (message : String) : Signal := .line ⟨.info, message⟩

def event? : Signal → Option Event
  | .event e => some e
  | .line _ => none

/-- What a signal adds to the log: a line itself, an event what those it is delivered to write. -/
def lines (listeners : List Listener) : Signal → List Log.Line
  | .line l => [l]
  | .event e => (Listener.deliveries listeners [e]).flatMap fun d => d.1.hear d.2

end Signal

/-- What a run comes to: the outcomes, how they came about, and the facts at its end. -/
structure Resolution where
  activations : Activations
  trace : Trace
  facts : Facts

/-- The signals of a run in order, and what it came to or what stopped it. -/
structure Run where
  signals : List Signal
  result : Except Fault Resolution

namespace Run

def events (r : Run) : List Event := r.signals.filterMap Signal.event?

/-- The lines of a run, its own and those of its listeners, signal by signal. -/
def lines (r : Run) (listeners : List Listener) : List Log.Line := r.signals.flatMap (Signal.lines listeners)

end Run

namespace Candidate

def finding (condition : Condition) (v : Verdict) : Finding :=
  ⟨condition.kind, condition.description, v.matched, v.message⟩

/-- The findings on conditions in order, up to the first that does not match. -/
def findings (f : Facts) (c : Component) (phase : Phase) : List Condition → Except Fault (List Finding)
  | [] => .ok []
  | condition :: conditions => do
    let v ← condition.judge f c phase
    if v.matched then
      let more ← findings f c phase conditions
      pure (finding condition v :: more)
    else pure [finding condition v]

/-- A finding that did not match gives the reason; without one the candidate is activated. -/
def outcomeOf (fs : List Finding) : Outcome :=
  match fs.find? fun f => !f.matched with
  | some f => .skipped (f.kind.text ++ " " ++ f.message)
  | none => .activated

/-- What becomes of a candidate when its turn comes.  An excluded one is not judged. -/
def examine (s : Settings) (f : Facts) (phase : Phase) (c : Candidate) : Except Fault Entry :=
  if s.excludes c.id then .ok ⟨c.id, phase, [], .skipped Settings.exclusionReason, true⟩
  else (findings f c.toComponent phase c.conditions).map fun fs => ⟨c.id, phase, fs, outcomeOf fs, false⟩

end Candidate

namespace Entry

def event (e : Entry) : Event :=
  match e.outcome with
  | .activated => .activated e.candidate e.phase
  | .skipped reason => .skipped e.candidate e.phase reason

end Entry

namespace Resolution

def factsAfter (f : Facts) (c : Candidate) (outcome : Outcome) : Facts :=
  if outcome.isActivated then f.activate c.toComponent else f

def add (r : Resolution) (c : Candidate) (e : Entry) : Resolution :=
  ⟨r.activations.record e.candidate e.outcome, r.trace ++ [e], factsAfter r.facts c e.outcome⟩

def started (f : Facts) : Resolution := ⟨{}, [], f⟩

def completion (r : Resolution) : List Signal :=
  let activated := r.activations.activated.length
  let skipped := r.activations.size - activated
  [Signal.info ("Resolution completed: " ++ toString activated ++ " activated, " ++ toString skipped ++ " skipped"),
    .event (.runCompleted activated skipped)]

end Resolution

namespace Run

def after (signals : List Signal) (r : Run) : Run := { r with signals := signals ++ r.signals }

@[simp] theorem after_result (signals : List Signal) (r : Run) : (r.after signals).result = r.result := rfl

def andThen (r : Run) (next : Resolution → Run) : Run :=
  match r.result with
  | .ok resolution => (next resolution).after r.signals
  | .error _ => r

def abortion (c : Candidate) (fault : Fault) : Signal :=
  .line ⟨.error, "Resolution aborted at candidate '" ++ c.id ++ "': " ++ fault.message⟩

/-- Looks at one candidate after the other; the first fault ends the run. -/
def visit (s : Settings) (phase : Phase) : List Candidate → Resolution → Run
  | [], r => ⟨[], .ok r⟩
  | c :: cs, r =>
    match c.examine s r.facts phase with
    | .ok e => (visit s phase cs (r.add c e)).after [.event e.event]
    | .error fault => ⟨[abortion c fault], .error fault⟩

def visitPhase (s : Settings) (registry : Registry) (phase : Phase) (r : Resolution) : Run :=
  let cs := registry.inPhase phase
  (visit s phase cs r).after [.event (.phaseStarted phase cs.length)]

def opening (s : Settings) (registry : Registry) : List Signal :=
  let n := registry.candidates.length
  [Signal.info ("Resolving " ++ toString n ++ " candidate(s) (" ++ toString s.exclude.length
      ++ " excluded by configuration)"), .event (.runStarted n)]

end Run

/-- Looks at every registered candidate: phase after phase, in each phase in registry order. -/
def resolve (s : Settings) (f : Facts) (registry : Registry) : Run :=
  ((((Run.visitPhase s registry .parseConfiguration (.started f)).andThen
    (Run.visitPhase s registry .registerBean)).andThen fun r => ⟨r.completion, .ok r⟩)).after
    (Run.opening s registry)

end Wiring
