/-!
# Ranges — classes of characters as closed ranges of code points
-/
namespace Wiring
namespace Text

/-- Closed ranges of code points, in ascending order. -/
abbrev Ranges := List (Nat × Nat)

/-- A character is in the class when some range holds its code point. -/
def Ranges.covers (rs : Ranges) (c : Char) : Bool :=
  rs.any fun r => decide (r.1 ≤ c.toNat) && decide (c.toNat ≤ r.2)

def isAscii (c : Char) : Bool := decide (c.toNat < 0x80)

end Text
end Wiring
