import Wiring.Decimal.Reader
import Wiring.Toml.Datetime
import Wiring.Toml.Strings
/-!
# Numbers — integers, decimals and moments of time
-/
namespace Wiring
namespace Toml

open Scan
open Text (isAsciiDigit)
open Decimal (natOfDigits digitValue)

/-- Digits with single underscores between them. -/
def digitGroups (p : Char → Bool) : Scan (List Char) := do
  let first ← satisfy p
  let more ← many (satisfy p <|> (char '_' *> satisfy p))
  pure (first :: more)

def sign : Scan Bool := do
  match ← opt (satisfy fun c => c == '+' || c == '-') with
  | some '-' => pure true
  | _ => pure false

/-- A whole number without leading zeros. -/
def wholeDigits : Scan (List Char) := do
  let ds ← (char '0' *> pure ['0']) <|> digitGroups isAsciiDigit
  pure ds

/-- Integers have 64 bits. -/
def fitsInteger (i : Int) : Bool :=
  decide (-0x8000000000000000 ≤ i) && decide (i < 0x8000000000000000)

def bounded (i : Int) : Scan Int := do
  guard (fitsInteger i)
  pure i

def basedInteger (mark : Char) (base : Nat) : Scan Int := do
  word ['0', mark]
  let ds ← digitGroups fun c => isHexDigit c && decide (hexValue c < base)
  bounded (ds.foldl (fun n c => base * n + hexValue c) 0 : Nat)

def decimalInteger : Scan Int := do
  let negative ← sign
  let n := natOfDigits (← wholeDigits)
  bounded (if negative then -(n : Int) else n)

def integer : Scan Int := basedInteger 'x' 16 <|> basedInteger 'o' 8 <|> basedInteger 'b' 2 <|> decimalInteger

def fraction : Scan (List Char) := char '.' *> digitGroups isAsciiDigit

def power : Scan Int := do
  let _ ← satisfy fun c => c == 'e' || c == 'E'
  let negative ← sign
  let n := natOfDigits (← digitGroups isAsciiDigit)
  pure (if negative then -(n : Int) else n)

/-- A decimal has a fraction, a power or both.  One too large for a float is refused, unless it is negative. -/
def finiteDecimal : Scan Float := do
  let negative ← sign
  let whole ← wholeDigits
  let behind ← opt fraction
  let exponent ← opt power
  guard (behind.isSome || exponent.isSome)
  let digits := behind.getD []
  let x := Decimal.nearest (natOfDigits (whole ++ digits)) (exponent.getD 0 - digits.length)
  if negative then pure (-x)
  else do
    guard (x < 1.0 / 0.0)
    pure x

def specialDecimal : Scan Float := do
  let negative ← sign
  let x ← (word ['i', 'n', 'f'] *> pure (1.0 / 0.0)) <|> (word ['n', 'a', 'n'] *> pure (0.0 / 0.0))
  pure (if negative then -x else x)

def decimal : Scan Float := finiteDecimal <|> specialDecimal

def fixedDigits (n : Nat) : Scan Nat := do pure (natOfDigits (← count n isAsciiDigit))

def date : Scan Date := do
  let year ← fixedDigits 4
  char '-'
  let month ← fixedDigits 2
  char '-'
  let day ← fixedDigits 2
  guard (Date.isValid ⟨year, month, day⟩)
  pure ⟨year, month, day⟩

/-- The billionths that a fraction of a second has; digits beyond the ninth are cut off. -/
def nanoseconds (ds : List Char) : Nat := natOfDigits ((ds ++ List.replicate 9 '0').take 9)

def time : Scan Time := do
  let hour ← fixedDigits 2
  char ':'
  let minute ← fixedDigits 2
  char ':'
  let second ← fixedDigits 2
  let part ← opt (char '.' *> takeWhile1 isAsciiDigit)
  let t : Time := ⟨hour, minute, second, part.elim 0 nanoseconds⟩
  guard t.isValid
  pure t

def offset : Scan Offset := do
  match ← satisfy fun c => c == 'Z' || c == 'z' || c == '+' || c == '-' with
  | '+' => pure (.minutes (← distance))
  | '-' => pure (.minutes (-(← distance)))
  | _ => pure .utc
where
  distance : Scan Int := do
    let hours ← fixedDigits 2
    char ':'
    let minutes ← fixedDigits 2
    guard (hours ≤ 23 && minutes ≤ 59)
    pure (60 * hours + minutes : Nat)

def dayTime : Scan (Time × Option Offset) := do
  let _ ← satisfy fun c => c == 'T' || c == 't' || c == ' '
  let t ← time
  pure (t, ← opt offset)

/-- A date, perhaps with a time and its offset, or a time alone. -/
def datetime : Scan Datetime :=
  (do
    let d ← date
    match ← opt dayTime with
    | some (t, o) => pure ⟨some d, some t, o⟩
    | none => pure ⟨some d, none, none⟩) <|>
  (do pure ⟨none, some (← time), none⟩)

end Toml
end Wiring
