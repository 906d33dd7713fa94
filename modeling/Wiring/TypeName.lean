import Wiring.Text.Alphanumeric
import Wiring.Text.Case
import Wiring.Text.Items
/-!
# TypeName — qualified type names and the bean names made from them

A type name is made of segments between `.` or `::`.
-/
namespace Wiring
namespace TypeName

open Text (isAlphanumeric isAsciiDigit pieces)

/-- The pieces between `::`, from the left; a run of three colons separates at its first two. -/
def colonPieces : List Char → List (List Char)
  | [] => [[]]
  | ':' :: ':' :: s => [] :: colonPieces s
  | c :: s =>
    match colonPieces s with
    | [] => [[c]]
    | p :: ps => (c :: p) :: ps

/-- The pieces between `::`, each of them taken apart at its dots. -/
def segments (s : List Char) : List (List Char) := (colonPieces s).flatMap (pieces '.')

def isSegmentChar (c : Char) : Bool := isAlphanumeric c || c == '_' || c == '$'

/-- Letters, numbers, `_` and `$`, at least one, and no ASCII digit in front. -/
def isSegment : List Char → Bool
  | [] => false
  | c :: s => !isAsciiDigit c && (c :: s).all isSegmentChar

def isWellFormed (name : String) : Bool := (segments name.toList).all isSegment

def beforeColons : List Char → List Char
  | [] => []
  | ':' :: ':' :: _ => []
  | c :: s => c :: beforeColons s

/-- What stands behind the last `::`, looked for from the right; all where there is none. -/
def behindColons (s : List Char) : List Char := (beforeColons s.reverse).reverse

/-- What stands behind the last dot; all where there is none. -/
def behindDot (s : List Char) : List Char := (s.reverse.takeWhile (· != '.')).reverse

/-- What stands behind the last `::`, and of that what stands behind the last dot. -/
def short (name : String) : String := String.ofList (behindDot (behindColons name.toList))

def camelCase (s : String) : String :=
  match s.toList with
  | [] => ""
  | c :: cs => String.ofList (Text.lowerChar c ++ cs)

def beanName (name : String) : String := camelCase (short name)

example : beanName "org.demo::JmsTemplate" = "jmsTemplate" := by decide +kernel

end TypeName
end Wiring
