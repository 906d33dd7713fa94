import Wiring.Decimal.Binary
/-!
# Shortest — the fewest decimal digits that read back as the same float

A positive float `m · 2 ^ q` is read back from every number nearer to it than to its neighbours, the half-way
points included when `m` is even.  On the grid of multiples of a power of ten only the value's own two
neighbours can lie in that interval first, so grids are tried from coarse to fine.
-/
namespace Wiring
namespace Decimal

/-- Four times a float's value and of the two half-way points around it, in units of `2 ^ (q - 2)`. -/
structure Interval where
  low : Nat
  value : Nat
  high : Nat
  closed : Bool
  exponent : Int

/-- The interval that rounds to `m · 2 ^ q`; below a power of two the neighbour is twice as near. -/
def Interval.around (m : Nat) (q : Int) : Interval where
  low := if m = leadingBit ∧ q ≠ leastExponent then 4 * m - 1 else 4 * m - 2
  value := 4 * m
  high := 4 * m + 2
  closed := m % 2 == 0
  exponent := q - 2

/-- The factors that bring `a · 2 ^ e` and `n · 10 ^ k` to whole numbers of one unit. -/
def scales (e k : Int) : Nat × Nat :=
  (Nat.pow 2 e.toNat * Nat.pow 10 (-k).toNat, Nat.pow 2 (-e).toNat * Nat.pow 10 k.toNat)

/-- The grid point `n · 10 ^ k` reads back as the interval's value. -/
def Interval.admits (i : Interval) (n : Nat) (k : Int) : Bool :=
  let (a, b) := scales i.exponent k
  if i.closed then decide (i.low * a ≤ n * b) && decide (n * b ≤ i.high * a)
  else decide (i.low * a < n * b) && decide (n * b < i.high * a)

/-- The nearer admitted neighbour of the value among the multiples of `10 ^ k`; a tie goes up. -/
def Interval.onGrid? (i : Interval) (k : Int) : Option Nat :=
  let (a, b) := scales i.exponent k
  let below := i.value * a / b
  let rest := i.value * a % b
  match i.admits below k, i.admits (below + 1) k with
  | true, true => some (if 2 * rest < b then below else below + 1)
  | true, false => some below
  | false, true => some (below + 1)
  | false, false => none

/-- How many times a fraction `a / b` below one has to be multiplied by ten to reach one. -/
def placesToOne : Nat → Nat → Nat → Nat
  | 0, _, _ => 0
  | fuel + 1, a, b => if b ≤ a then 0 else placesToOne fuel (10 * a) b + 1

/-- The `p` with `10 ^ (p - 1) ≤ value < 10 ^ p`. -/
def Interval.magnitude (i : Interval) : Int :=
  let (a, b) := scales i.exponent 0
  if b ≤ i.value * a then (Nat.toDigits 10 (i.value * a / b)).length
  else 1 - (placesToOne 400 (i.value * a) b : Int)

/-- No tenth power divides the digits: the exponent takes the trailing zeros. -/
def withoutTrailingZeros : Nat → Nat → Int → Nat × Int
  | 0, n, k => (n, k)
  | fuel + 1, n, k => if n % 10 = 0 then withoutTrailingZeros fuel (n / 10) (k + 1) else (n, k)

/-- Seventeen digits always suffice. -/
def mostDigits : Nat := 17

/-- Digits and exponent of the shortest decimal that reads back as `m · 2 ^ q`, of several the nearest. -/
def shortest (m : Nat) (q : Int) : Nat × Int :=
  let i := Interval.around m q
  let p := i.magnitude
  let grids := (List.range mostDigits).map fun (d : Nat) => p - (d : Int) - 1
  match grids.findSome? fun k => (i.onGrid? k).map fun n => (n, k) with
  | some (n, k) => withoutTrailingZeros 20 n k
  | none => (m, q)

end Decimal
end Wiring
