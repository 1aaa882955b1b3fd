import SingleFlight.Text.Blank

/-!
# Reading numbers

Whole numbers within bounds, and floating-point numbers rounded to the nearest one.
-/

namespace SingleFlight.Decimal

def digitsValue (digits : List Char) (base : Nat) : Nat :=
  digits.foldl (fun n c => n * base + (if c.isDigit then c.toNat - 48 else c.toLower.toNat - 87)) 0

/-- One decimal digit and more. -/
def decimal? (s : List Char) : Option Nat :=
  if s.isEmpty || !s.all Char.isDigit then none else some (digitsValue s 10)

/-- A number without a minus sign, of at most `2 ^ bits - 1`; a plus sign may stand before it. -/
def unsigned? (bits : Nat) (s : String) : Option Nat :=
  let digits := match s.toList with
    | '+' :: rest => rest
    | all => all
  (decimal? digits).filter (· < Nat.pow 2 bits)

/-- A number of 64 bits with an optional sign. -/
def signed? (s : String) : Option Int :=
  match s.toList with
  | '-' :: rest => ((decimal? rest).filter (· ≤ Nat.pow 2 63)).map fun n => -(n : Int)
  | '+' :: rest => ((decimal? rest).filter (· < Nat.pow 2 63)).map fun n => (n : Int)
  | all => ((decimal? all).filter (· < Nat.pow 2 63)).map fun n => (n : Int)

/-- The floating-point number nearest to `n * 10 ^ exponent`. Beyond 400 places there is nothing but infinity and
zero. -/
def nearest (n : Nat) (exponent : Int) : Float :=
  let magnitude := (Nat.toDigits 10 n).length + exponent
  if n = 0 || magnitude < -400 then 0
  else if magnitude > 400 then 1 / 0
  else Float.ofScientific n (exponent < 0) exponent.natAbs

/-- A power of ten: an `e`, an optional sign and digits. No text is the power 0. -/
def exponent? (s : List Char) : Option Int :=
  match s with
  | [] => some 0
  | e :: rest =>
    if e = 'e' || e = 'E' then
      match rest with
      | '-' :: digits => (decimal? digits).map fun n => -(n : Int)
      | '+' :: digits => (decimal? digits).map fun n => (n : Int)
      | digits => (decimal? digits).map fun n => (n : Int)
    else none

/-- Digits with at most one point among them and at least one digit, then a power of ten. -/
def unsignedFloat? (s : List Char) : Option Float :=
  let whole := s.takeWhile Char.isDigit
  let rest := s.dropWhile Char.isDigit
  let (fraction, rest) := match rest with
    | '.' :: more => (more.takeWhile Char.isDigit, more.dropWhile Char.isDigit)
    | _ => ([], rest)
  if whole.isEmpty && fraction.isEmpty then none
  else (exponent? rest).map fun e => nearest (digitsValue (whole ++ fraction) 10) (e - fraction.length)

/-- A floating-point number with an optional sign, infinity, or what is not a number; the case of letters does not
count. -/
def float? (s : String) : Option Float :=
  let (negative, rest) := match s.toList with
    | '-' :: rest => (true, rest)
    | '+' :: rest => (false, rest)
    | all => (false, all)
  let named := Text.asciiLower (String.ofList rest)
  let size :=
    if named = "inf" || named = "infinity" then some (1 / 0)
    else if named = "nan" then some (0 / 0)
    else unsignedFloat? rest
  size.map fun x => if negative then -x else x

end SingleFlight.Decimal
