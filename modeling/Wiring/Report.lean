import Wiring.Json
import Wiring.Trace
/-!
# Report — the trace of a run as text and as JSON
-/
namespace Wiring
namespace Report

/-- A summary leaves out the conditions that matched. -/
inductive Mode where
  | summary
  | debug
  deriving DecidableEq

/-- The entries of a trace by section; skipped ones in groups, one for each kind of condition that failed. -/
structure Sections where
  positive : List Entry := []
  negative : List (ConditionKind × List Entry) := []
  exclusions : List Entry := []
  unconditional : List Entry := []

namespace Sections

/-- Puts an entry behind those of its kind.  The groups stand in the order of their kinds. -/
def addTo (kind : ConditionKind) (e : Entry) : List (ConditionKind × List Entry) → List (ConditionKind × List Entry)
  | [] => [(kind, [e])]
  | g :: gs =>
    if kind.precedes g.1 then (kind, [e]) :: g :: gs
    else if kind = g.1 then (g.1, g.2 ++ [e]) :: gs
    else g :: addTo kind e gs

/-- A skipped entry goes under the kind of the condition that failed. -/
def add (s : Sections) (e : Entry) : Sections :=
  if e.excluded then { s with exclusions := s.exclusions ++ [e] }
  else if e.isUnconditional then { s with unconditional := s.unconditional ++ [e] }
  else if e.outcome.isActivated then { s with positive := s.positive ++ [e] }
  else match e.failing? with
    | some f => { s with negative := addTo f.kind e s.negative }
    | none => s

def ofTrace (t : Trace) : Sections := t.foldl add {}

end Sections

/-- The lines of a section; a section without lines says so. -/
def orNone (lines : List String) : List String := if lines.isEmpty then ["   None"] else lines

def positiveLines (mode : Mode) (e : Entry) : List String :=
  ("   " ++ e.candidate ++ " (" ++ e.phase.text ++ ") matched") ::
    match mode with
    | .summary => []
    | .debug => e.findings.map fun f => "      - " ++ f.kind.text ++ " " ++ f.message

def negativeLines (mode : Mode) (e : Entry) : List String :=
  ("      " ++ e.candidate ++ " (" ++ e.phase.text ++ "):") ::
    (e.findings.filter fun f => mode == .debug || !f.matched).map fun f =>
      "         - " ++ (if f.matched then "Matched" else "Did not match") ++ ": " ++ f.message

def groupLines (mode : Mode) (g : ConditionKind × List Entry) : List String :=
  ("   " ++ g.1.text ++ ":") :: g.2.flatMap (negativeLines mode)

def nameLines (es : List Entry) : List String := es.map fun e => "   " ++ e.candidate

def rule (c : Char) (n : Nat) : String := String.ofList (List.replicate n c)

/-- A title underlined one character beyond its end. -/
def titled (title : String) (lines : List String) : List String :=
  ["", title ++ ":", rule '-' (title.length + 1), ""] ++ lines

def header : String := "CONDITION EVALUATION REPORT"

def Sections.lines (mode : Mode) (s : Sections) : List String :=
  ["", rule '=' header.length, header, rule '=' header.length, ""]
    ++ titled "Positive matches" (orNone (s.positive.flatMap (positiveLines mode)))
    ++ titled "Negative matches" (orNone (s.negative.flatMap (groupLines mode)))
    ++ titled "Exclusions" (orNone (nameLines s.exclusions))
    ++ titled "Unconditional candidates" (orNone (nameLines s.unconditional))

def lines (mode : Mode) (t : Trace) : List String := (Sections.ofTrace t).lines mode

def text (mode : Mode) (t : Trace) : String := String.join ((lines mode t).map (· ++ "\n"))

end Report

/-- A kind is its name with dashes; a custom one is a record that names it. -/
def ConditionKind.json : ConditionKind → Json
  | .onClass => .text "on-class"
  | .onMissingClass => .text "on-missing-class"
  | .onBean => .text "on-bean"
  | .onMissingBean => .text "on-missing-bean"
  | .onProperty => .text "on-property"
  | .onJndi => .text "on-jndi"
  | .onWebApplication => .text "on-web-application"
  | .onNotWebApplication => .text "on-not-web-application"
  | .custom name => .record [("custom", .text name)]

def Outcome.json : Outcome → Json
  | .activated => .record [("status", .text "ACTIVATED")]
  | .skipped reason => .record [("status", .text "SKIPPED"), ("reason", .text reason)]

def Finding.json (f : Finding) : Json :=
  .record [("kind", f.kind.json), ("description", .text f.description), ("matched", .flag f.matched),
    ("message", .text f.message)]

def Entry.json (e : Entry) : Json :=
  .record [("candidate", .text e.candidate), ("phase", .text e.phase.tag),
    ("records", .list (e.findings.map Finding.json)), ("outcome", e.outcome.json), ("excluded", .flag e.excluded)]

def Trace.json (t : Trace) : Json := .record [("entries", .list (t.map Entry.json))]

def Report.jsonText (t : Trace) : String := (Trace.json t).pretty

end Wiring
