/-!
# Binary — the numbers that a 64-bit float stands for
-/
namespace Wiring
namespace Decimal

/-- What a float stands for: no number, an infinity, or `± mantissa · 2 ^ exponent`. -/
inductive Binary where
  | nan
  | infinite (negative : Bool)
  | finite (negative : Bool) (mantissa : Nat) (exponent : Int)
  deriving DecidableEq

/-- The least exponent; floats with it have the widest relative steps. -/
def leastExponent : Int := -1074

/-- The bit that normal mantissas have in front of fifty-two others. -/
def leadingBit : Nat := 0x10000000000000

/-- The sign bit, eleven bits of exponent and fifty-two of fraction. -/
def Binary.ofBits (bits : Nat) : Binary :=
  let negative := decide (0x8000000000000000 ≤ bits)
  let biased : Nat := bits / leadingBit % 0x800
  let fraction := bits % leadingBit
  if biased = 0x7FF then
    if fraction = 0 then .infinite negative else .nan
  else if biased = 0 then .finite negative fraction leastExponent
  else .finite negative (leadingBit + fraction) (leastExponent + ((biased : Int) - 1))

def Binary.ofFloat (x : Float) : Binary := .ofBits x.toBits.toNat

end Decimal
end Wiring
