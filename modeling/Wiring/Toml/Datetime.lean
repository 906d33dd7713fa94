/-!
# Datetime — calendar dates, times of day and offsets, alone or together
-/
namespace Wiring
namespace Toml

structure Date where
  year : Nat
  month : Nat
  day : Nat
  deriving DecidableEq

/-- A time of day; the fraction of the second in billionths. -/
structure Time where
  hour : Nat
  minute : Nat
  second : Nat
  nanosecond : Nat
  deriving DecidableEq

inductive Offset where
  | utc
  | minutes (east : Int)
  deriving DecidableEq

/-- A date, a time, a date with a time, or those with an offset. -/
structure Datetime where
  date : Option Date
  time : Option Time
  offset : Option Offset
  deriving DecidableEq

def isLeapYear (year : Nat) : Bool :=
  year % 4 == 0 && (year % 100 != 0 || year % 400 == 0)

def daysInMonth (year month : Nat) : Nat :=
  if month = 2 then (if isLeapYear year then 29 else 28)
  else if month = 4 ∨ month = 6 ∨ month = 9 ∨ month = 11 then 30
  else 31

def Date.isValid (d : Date) : Bool :=
  decide (1 ≤ d.month) && decide (d.month ≤ 12) && decide (1 ≤ d.day) &&
    decide (d.day ≤ daysInMonth d.year d.month)

/-- A minute may end with a leap second. -/
def Time.isValid (t : Time) : Bool :=
  decide (t.hour ≤ 23) && decide (t.minute ≤ 59) && decide (t.second ≤ 60)

def zeroPadded (width n : Nat) : String :=
  let digits := Nat.toDigits 10 n
  String.ofList (List.replicate (width - digits.length) '0' ++ digits)

def Date.text (d : Date) : String :=
  zeroPadded 4 d.year ++ "-" ++ zeroPadded 2 d.month ++ "-" ++ zeroPadded 2 d.day

/-- The fraction without trailing zeros, none when it is zero. -/
def fractionText (nanosecond : Nat) : String :=
  if nanosecond = 0 then ""
  else "." ++ String.ofList ((zeroPadded 9 nanosecond).toList.reverse.dropWhile (· == '0')).reverse

def Time.text (t : Time) : String :=
  zeroPadded 2 t.hour ++ ":" ++ zeroPadded 2 t.minute ++ ":" ++ zeroPadded 2 t.second ++ fractionText t.nanosecond

def Offset.text : Offset → String
  | .utc => "Z"
  | .minutes east =>
    (if east < 0 then "-" else "+") ++ zeroPadded 2 (east.natAbs / 60) ++ ":" ++ zeroPadded 2 (east.natAbs % 60)

def Datetime.text (d : Datetime) : String :=
  let date := d.date.elim "" Date.text
  let link := if d.date.isSome && d.time.isSome then "T" else ""
  date ++ link ++ d.time.elim "" Time.text ++ d.offset.elim "" Offset.text

example : (Datetime.mk (some ⟨1979, 5, 27⟩) (some ⟨7, 32, 0, 500000000⟩) (some (.minutes (-90)))).text
    = "1979-05-27T07:32:00.5-01:30" := by decide +kernel

end Toml
end Wiring
