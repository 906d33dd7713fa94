import Wiring.Text.Case
/-!
# Variables — the variables of the process
-/
namespace Wiring
namespace Property

/-- Names with their values, each name once. -/
abbrev Variables := List (String × String)

namespace Variables

def get? (vars : Variables) (name : String) : Option String := vars.lookup name

def unset (vars : Variables) (name : String) : Variables := vars.filter fun v => v.1 != name

def set (vars : Variables) (name value : String) : Variables := (name, value) :: vars.unset name

def ofPairs (pairs : List (String × String)) : Variables := pairs.foldl (fun vars p => set vars p.1 p.2) []

/-- The variable that stands for a property key: capitals, with underscores for dots and dashes. -/
def nameOf (key : String) : String :=
  String.ofList (Text.upper (key.toList.map fun c => if c = '.' ∨ c = '-' then '_' else c))

end Variables
end Property
end Wiring
