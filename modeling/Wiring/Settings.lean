import Wiring.Property.Environment
/-!
# Settings — what the environment says about a run
-/
namespace Wiring

/-- Whether the report goes to the log, and the ids that are not even looked at. -/
structure Settings where
  debug : Bool := false
  exclude : List String := []
  deriving DecidableEq

namespace Settings

def debugKey : String := "debug"

def excludeKey : String := "autoconfigure.exclude"

def ofEnvironment (e : Property.Environment) : Settings :=
  ⟨e.flagOr debugKey false, (e.texts? excludeKey).getD []⟩

def excludes (s : Settings) (id : String) : Bool := s.exclude.contains id

def exclusionReason : String := "excluded by '" ++ excludeKey ++ "'"

end Settings
end Wiring
