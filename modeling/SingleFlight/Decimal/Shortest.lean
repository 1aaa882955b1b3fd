import SingleFlight.Key.Component

/-!
# Shortest decimals

A binary floating-point number is written as the decimal with the fewest digits among those that read back as the
same number, and of these the nearest to it, the larger one of two that are equally near. The notation is positional,
never with an exponent.
-/

namespace SingleFlight.Decimal

/-- A positive fraction `mid / unit` with the bounds, over the same denominator, between which decimals read back as
it. The bounds count only if `closed`. -/
structure Interval where
  low : Nat
  mid : Nat
  high : Nat
  unit : Nat
  closed : Bool

/-- The number `significand * 2 ^ exponent`. Below a power of two the next number is only half as far away, unless
the exponent is the least one. -/
def Interval.ofBinary (significand : Nat) (exponent : Int) (narrowBelow : Bool) : Interval :=
  let scale := Nat.pow 2 (exponent - 2).toNat
  { low := (4 * significand - if narrowBelow then 1 else 2) * scale
    mid := 4 * significand * scale
    high := (4 * significand + 2) * scale
    unit := Nat.pow 2 (2 - exponent).toNat
    closed := significand % 2 == 0 }

/-- `n * 10 ^ place`, the point of a decimal grid. -/
structure Point where
  n : Nat
  place : Int

/-- The interval over a denominator at which the points of the grid `10 ^ place` are the multiples of `step`. -/
def Interval.onGrid (i : Interval) (place : Int) : Interval × Nat :=
  let up := Nat.pow 10 (-place).toNat
  ({ i with low := i.low * up, mid := i.mid * up, high := i.high * up }, i.unit * Nat.pow 10 place.toNat)

def Interval.has (i : Interval) (n : Nat) : Bool :=
  if i.closed then decide (i.low ≤ n ∧ n ≤ i.high) else decide (i.low < n ∧ n < i.high)

/-- The point of the grid that lies in the interval and is nearest to its middle; halfway between two it is the upper
one. -/
def Interval.pointOn? (i : Interval) (place : Int) : Option Point :=
  let (g, step) := i.onGrid place
  let below := g.mid / step
  let above := below + 1
  let nearerBelow := decide (g.mid - below * step < above * step - g.mid)
  match g.has (below * step), g.has (above * step) with
  | true, true => some ⟨if nearerBelow then below else above, place⟩
  | true, false => some ⟨below, place⟩
  | false, true => some ⟨above, place⟩
  | false, false => none

/-- The point on the coarsest grid that has one, from the grid `10 ^ place` on through `tries` finer ones. -/
def Interval.coarsest (i : Interval) (place : Int) : (tries : Nat) → Point
  | 0 => ⟨i.mid / i.unit, 0⟩
  | tries + 1 =>
    match i.pointOn? place with
    | some point => point
    | none => i.coarsest (place - 1) tries

/-- Positional notation. -/
def Point.chars (p : Point) : List Char :=
  let digits := Component.natChars p.n
  match p.place with
  | .ofNat zeros => digits ++ List.replicate zeros '0'
  | .negSucc k =>
    let places := k + 1
    let padded := List.replicate (places + 1 - digits.length) '0' ++ digits
    padded.take (padded.length - places) ++ ['.'] ++ padded.drop (padded.length - places)

/-- The text of a number of 64 bits, given by its bits: 52 for the fraction, 11 for the exponent and one for the
sign. -/
def shortestChars (bits : Nat) : List Char :=
  let fraction : Nat := bits % Nat.pow 2 52
  let biased : Nat := bits / Nat.pow 2 52 % Nat.pow 2 11
  let sign := if bits / Nat.pow 2 63 = 1 then ['-'] else []
  if biased = 2047 then (if fraction = 0 then sign ++ "inf".toList else "NaN".toList)
  else if biased = 0 && fraction = 0 then sign ++ ['0']
  else
    let interval :=
      if biased = 0 then Interval.ofBinary fraction (-1074) false
      else Interval.ofBinary (Nat.pow 2 52 + fraction) ((biased : Int) - 1075) (fraction == 0 && decide (1 < biased))
    sign ++ (interval.coarsest 309 640).chars

def shortest (x : Float) : String := String.ofList (shortestChars x.toBits.toNat)

end SingleFlight.Decimal
