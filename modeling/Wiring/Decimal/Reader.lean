import Wiring.Text.Alphanumeric
/-!
# Reader — decimal text as the nearest float
-/
namespace Wiring
namespace Decimal

open Text (isAsciiDigit)

def digitValue (c : Char) : Nat := c.toNat - '0'.toNat

def natOfDigits (ds : List Char) : Nat := ds.foldl (fun n c => 10 * n + digitValue c) 0

def splitSign : List Char → Bool × List Char
  | '-' :: s => (true, s)
  | '+' :: s => (false, s)
  | s => (false, s)

/-- A sign and digits that fill the text; no digits are no number. -/
def exponent? (s : List Char) : Option Int :=
  let (negative, ds) := splitSign s
  if ds.isEmpty || !ds.all isAsciiDigit then none
  else some (if negative then -(natOfDigits ds : Int) else natOfDigits ds)

/-- Beyond these powers of ten every float is infinite or zero. -/
def decimalLimit : Int := 400

def nearest (n : Nat) (k : Int) : Float :=
  if n = 0 then 0
  else
    let magnitude := (Nat.toDigits 10 n).length + k
    if decimalLimit < magnitude then 1.0 / 0.0
    else if magnitude < -decimalLimit then 0
    else if 0 ≤ k then Float.ofScientific n false k.toNat
    else Float.ofScientific n true (-k).toNat

/-- Digits with an optional point among or around them, and an optional exponent behind `e` or `E`. -/
def unsigned? (s : List Char) : Option Float :=
  let whole := s.takeWhile isAsciiDigit
  let (fraction, rest) := match s.dropWhile isAsciiDigit with
    | '.' :: t => (t.takeWhile isAsciiDigit, t.dropWhile isAsciiDigit)
    | t => ([], t)
  if whole.isEmpty && fraction.isEmpty then none
  else
    let n := natOfDigits (whole ++ fraction)
    match rest with
    | [] => some (nearest n (-(fraction.length : Int)))
    | c :: t => if c = 'e' ∨ c = 'E' then (exponent? t).map fun k => nearest n (k - fraction.length) else none

/-- A decimal number, an infinity or NaN, the words in any case. -/
def float? (s : String) : Option Float :=
  let (negative, body) := splitSign s.toList
  let word := String.ofList (body.map Char.toLower)
  let magnitude :=
    if word = "inf" ∨ word = "infinity" then some (1.0 / 0.0)
    else if word = "nan" then some (0.0 / 0.0)
    else unsigned? body
  magnitude.map fun x => if negative then -x else x

end Decimal
end Wiring
