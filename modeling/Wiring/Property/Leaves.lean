import Wiring.Property.Value
import Wiring.Toml.Value
/-!
# Leaves — the properties that a document defines

Every value that is not a table and is reached through tables alone is a property.  Its key joins the keys on
the way with dots.
-/
namespace Wiring
namespace Property

variable (moment : Toml.Datetime → String)

mutual

/-- A document's value as a property: tables inside arrays become objects, moments of time texts. -/
def Value.ofToml : Toml.Value → Value
  | .text s => .text s
  | .integer i => .integer i
  | .decimal x => .decimal x
  | .flag b => .flag b
  | .moment d => .text (moment d)
  | .array items => .list (itemsOfToml items)
  | .table entries => .object (fieldsOfToml entries)

def itemsOfToml : List Toml.Value → List Value
  | [] => []
  | x :: xs => Value.ofToml x :: itemsOfToml xs

def fieldsOfToml : List (String × Toml.Value) → List (String × Value)
  | [] => []
  | (key, x) :: es => (key, Value.ofToml x) :: fieldsOfToml es

end

/-- A key behind the path of its table; an empty path adds no dot. -/
def dotted (path key : String) : String := if path.isEmpty then key else path ++ "." ++ key

mutual

/-- The properties below a path, in ascending order of the keys on each level. -/
def leavesAt (path : String) : Toml.Value → List (String × Value)
  | .table entries => leavesIn path entries
  | x => [(path, Value.ofToml moment x)]

def leavesIn (path : String) : List (String × Toml.Value) → List (String × Value)
  | [] => []
  | (key, x) :: es => leavesAt (dotted path key) x ++ leavesIn path es

end

def leaves (document : Toml.Value) : List (String × Value) := leavesAt moment "" document

end Property
end Wiring
