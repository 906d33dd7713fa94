import Wiring.Decimal.Shortest
/-!
# Positional — floats as plain decimal text

Shortest digits, never an exponent, no point in a whole number; zero keeps its sign.
-/
namespace Wiring
namespace Decimal

def positional (n : Nat) (k : Int) : List Char :=
  let digits := Nat.toDigits 10 n
  if 0 ≤ k then digits ++ List.replicate k.toNat '0'
  else
    let places := (-k).toNat
    let padded := List.replicate (places + 1 - digits.length) '0' ++ digits
    padded.take (padded.length - places) ++ '.' :: padded.drop (padded.length - places)

def signed (negative : Bool) (body : List Char) : String :=
  String.ofList (if negative then '-' :: body else body)

def Binary.text : Binary → String
  | .nan => "NaN"
  | .infinite negative => signed negative ['i', 'n', 'f']
  | .finite negative m q =>
    if m = 0 then signed negative ['0']
    else
      let (n, k) := shortest m q
      signed negative (positional n k)

example : (Binary.ofBits 0x3FB999999999999A).text = "0.1" := by decide +kernel

example : (Binary.ofBits 0x8000000000000000).text = "-0" := by decide +kernel

/-- No float is `10 ^ 23`; the nearest one is told by it, since it reads back. -/
example : (Binary.ofBits 0x44B52D02C7E14AF6).text = "100000000000000000000000" := by decide +kernel

/-- Of the two digits at the same distance the greater is taken. -/
example : (Binary.ofBits 0x3E60000000000000).text = "0.000000029802322387695313" := by decide +kernel

def floatText (x : Float) : String := (Binary.ofFloat x).text

end Decimal
end Wiring
