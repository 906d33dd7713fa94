import Wiring.Decimal.Positional
import Wiring.Text.Case
/-!
# Value — what a property holds, and its plain-text form
-/
namespace Wiring
namespace Property

/-- Integers have 64 bits.  The fields of an object have distinct names. -/
inductive Value where
  | text (s : String)
  | integer (i : Int)
  | decimal (x : Float)
  | flag (b : Bool)
  | list (items : List Value)
  | object (fields : List (String × Value))
  deriving Inhabited

namespace Value

def text? : Value → Option String
  | .text s => some s
  | _ => none

def flagOfText (s : String) : Option Bool :=
  let word := String.ofList (Text.lower s.toList)
  if word = "true" ∨ word = "yes" ∨ word = "1" then some true
  else if word = "false" ∨ word = "no" ∨ word = "0" then some false
  else none

def flag? : Value → Option Bool
  | .flag b => some b
  | .text s => flagOfText s
  | _ => none

mutual

/-- The text that conditions compare.  A list joins its elements' texts with commas; an object has no text. -/
def plain? : Value → Option String
  | .text s => some s
  | .integer i => some (toString i)
  | .decimal x => some (Decimal.floatText x)
  | .flag true => some "true"
  | .flag false => some "false"
  | .list items => some (",".intercalate (plainItems items))
  | .object _ => none

def plainItems : List Value → List String
  | [] => []
  | x :: xs =>
    match x.plain? with
    | some s => s :: plainItems xs
    | none => plainItems xs

end

end Value
end Property
end Wiring
