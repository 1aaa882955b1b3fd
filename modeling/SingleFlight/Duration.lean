import SingleFlight.Key.Component

/-!
# Durations

A duration is a whole number of nanoseconds. Its text counts in the largest of s, ms, µs and ns in which it is at
least one, with as many decimals as it takes.
-/

namespace SingleFlight

structure Duration where
  nanos : Nat
deriving DecidableEq

namespace Duration

def zero : Duration := ⟨0⟩

def ofSeconds (n : Nat) : Duration := ⟨n * 1000000000⟩

def ofMillis (n : Nat) : Duration := ⟨n * 1000000⟩

def ofParts (seconds nanos : Nat) : Duration := ⟨seconds * 1000000000 + nanos⟩

def wholeSeconds (d : Duration) : Nat := d.nanos / 1000000000

/-- The nanoseconds beyond the whole seconds. -/
def subsecondNanos (d : Duration) : Nat := d.nanos % 1000000000

/-- The least number of whole milliseconds that is not shorter. -/
def millisRoundedUp (d : Duration) : Nat := (d.nanos + 999999) / 1000000

instance : LT Duration := ⟨fun a b => a.nanos < b.nanos⟩

instance : LE Duration := ⟨fun a b => a.nanos ≤ b.nanos⟩

instance (a b : Duration) : Decidable (a < b) := inferInstanceAs (Decidable (a.nanos < b.nanos))

instance (a b : Duration) : Decidable (a ≤ b) := inferInstanceAs (Decidable (a.nanos ≤ b.nanos))

/-- The decimals of `n / 10 ^ places`, `n < 10 ^ places`, without zeros at the end. -/
def decimals (n places : Nat) : List Char :=
  let digits := Component.natChars n
  let padded := List.replicate (places - digits.length) '0' ++ digits
  (padded.reverse.dropWhile (· == '0')).reverse

/-- `n / 10 ^ places` with as many decimals as it takes. -/
def decimalText (n places : Nat) : String :=
  let rest := n % Nat.pow 10 places
  let whole := String.ofList (Component.natChars (n / Nat.pow 10 places))
  if rest = 0 then whole else whole ++ "." ++ String.ofList (decimals rest places)

def text (d : Duration) : String :=
  if 1000000000 ≤ d.nanos then decimalText d.nanos 9 ++ "s"
  else if 1000000 ≤ d.nanos then decimalText d.nanos 6 ++ "ms"
  else if 1000 ≤ d.nanos then decimalText d.nanos 3 ++ "µs"
  else decimalText d.nanos 0 ++ "ns"

end Duration

end SingleFlight
