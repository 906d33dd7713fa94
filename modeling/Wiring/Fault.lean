/-!
# Fault — what stops a registration, a reading or a run, and how it is told
-/
namespace Wiring

inductive Fault where
  /-- A bean condition without types and names, on a candidate that produces nothing. -/
  | unspecifiedSearch (candidate condition : String)
  /-- A bean condition that looks at the parent of facts without parent. -/
  | missingParent (candidate condition : String)
  | customFailed (candidate condition reason : String)
  | duplicate (id : String)
  /-- The ids along a closed path of hints; the first comes again at the end. -/
  | orderingCycle (path : List String)
  | propertySource (name reason : String)
  | manifest (reason : String)
  | logging (reason : String)
  deriving DecidableEq, Inhabited

namespace Fault

def message : Fault → String
  | .unspecifiedSearch candidate condition =>
    "Candidate '" ++ candidate ++ "': " ++ condition
      ++ " must specify at least one bean type or name, and no produced type could be deduced"
  | .missingParent candidate condition =>
    "Candidate '" ++ candidate ++ "': " ++ condition
      ++ " uses search scope PARENTS but the fact store has no parent"
  | .customFailed candidate condition reason =>
    "Candidate '" ++ candidate ++ "': custom condition '" ++ condition ++ "' failed: " ++ reason
  | .duplicate id => "Candidate '" ++ id ++ "' is already registered"
  | .orderingCycle path => "Candidate ordering hints form a cycle: " ++ " -> ".intercalate path
  | .propertySource name reason => "Failed to load property source '" ++ name ++ "': " ++ reason
  | .manifest reason => "Invalid candidate manifest: " ++ reason
  | .logging reason => "Failed to initialize logging: " ++ reason

/-- The declaration itself is at fault, not a thing that is missing when the run happens. -/
def isConfiguration : Fault → Bool
  | .unspecifiedSearch .. | .missingParent .. => true
  | _ => false

def candidate? : Fault → Option String
  | .unspecifiedSearch candidate _ | .missingParent candidate _ | .customFailed candidate _ _ => some candidate
  | .duplicate id => some id
  | _ => none

end Fault
end Wiring
