/-!
# Ranges of code points

A class of characters is a list of closed ranges in ascending order.
-/

namespace SingleFlight.Text

/-- Closed ranges of code points. -/
abbrev Ranges := List (Nat × Nat)

/-- Is the character in one of the ranges? -/
def Ranges.has (ranges : Ranges) (c : Char) : Bool :=
  ranges.any fun r => r.1 ≤ c.toNat && c.toNat ≤ r.2

end SingleFlight.Text
