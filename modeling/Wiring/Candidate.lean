import Wiring.Condition
/-!
# Candidate — a component that comes to be when its conditions match
-/
namespace Wiring

/-- All conditions must match; they are judged in order. -/
structure Candidate extends Component where
  conditions : List Condition := []

namespace Candidate

def isUnconditional (c : Candidate) : Bool := c.conditions.isEmpty

def searchIn (c : Candidate) (scope : SearchScope) : Candidate := { c with search := some scope }

def addType (c : Candidate) (type : String) : Candidate := { c with types := c.types ++ [type] }

def addAfter (c : Candidate) (id : String) : Candidate := { c with after := c.after ++ [id] }

def addBefore (c : Candidate) (id : String) : Candidate := { c with before := c.before ++ [id] }

end Candidate
end Wiring
