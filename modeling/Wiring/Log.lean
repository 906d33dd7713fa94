import Wiring.Property.Environment
/-!
# Log — levels, lines and the settings of a log
-/
namespace Wiring
namespace Log

/-- How grave a line is, from the least. -/
inductive Level where
  | trace
  | debug
  | info
  | warn
  | error
  deriving DecidableEq

namespace Level

def text : Level → String
  | .trace => "trace"
  | .debug => "debug"
  | .info => "info"
  | .warn => "warn"
  | .error => "error"

def label : Level → String
  | .trace => "TRACE"
  | .debug => "DEBUG"
  | .info => "INFO"
  | .warn => "WARN"
  | .error => "ERROR"

def gravity : Level → Nat
  | .trace => 0
  | .debug => 1
  | .info => 2
  | .warn => 3
  | .error => 4

end Level

structure Line where
  level : Level
  message : String
  deriving DecidableEq

def atLeast (level : Level) (lines : List Line) : List Line :=
  lines.filter fun l => decide (level.gravity ≤ l.level.gravity)

inductive Format where
  | compact
  | full
  | json
  | pretty
  deriving DecidableEq

def Format.text : Format → String
  | .compact => "compact"
  | .full => "full"
  | .json => "json"
  | .pretty => "pretty"

def smallForm (s : String) : String := String.ofList (Text.lower s.toList)

def Level.read (s : String) : Except String Level :=
  match smallForm s with
  | "trace" => .ok .trace
  | "debug" => .ok .debug
  | "info" => .ok .info
  | "warn" | "warning" => .ok .warn
  | "error" => .ok .error
  | _ => .error ("Invalid log level: " ++ s)

def Format.read (s : String) : Except String Format :=
  match smallForm s with
  | "compact" => .ok .compact
  | "full" => .ok .full
  | "json" => .ok .json
  | "pretty" => .ok .pretty
  | _ => .error ("Invalid log format: " ++ s)

structure Config where
  level : Level := .info
  format : Format := .compact
  showTarget : Bool := false
  showThreads : Bool := false
  filter : Option String := none
  deriving DecidableEq

namespace Config

open Property (Environment Variables)

def levelKey : String := "logging.level"

def formatKey : String := "logging.format"

def filterKey : String := "logging.filter"

/-- The settings that texts give; a missing or unreadable one stays as it is by default. -/
def ofTexts (level format filter : Option String) : Config where
  level := (level.bind fun s => (Level.read s).toOption).getD .info
  format := (format.bind fun s => (Format.read s).toOption).getD .compact
  filter := filter

def ofVariables (vars : Variables) : Config :=
  ofTexts (vars.get? "LOG_LEVEL") (vars.get? "LOG_FORMAT") (vars.get? "RUST_LOG")

def ofEnvironment (e : Environment) : Config := ofTexts (e.text? levelKey) (e.text? formatKey) (e.text? filterKey)

/-- The environment's settings when it has any, else those of the process variables. -/
def preferred (e : Environment) : Config :=
  if [levelKey, formatKey, filterKey].any fun key => (e.get? key).isSome then ofEnvironment e
  else ofVariables e.vars

end Config
end Log
end Wiring
