import SingleFlight.Decimal.Reading
import SingleFlight.Settings.Datum
import SingleFlight.Text.Hexadecimal

/-!
# JSON

Reading a JSON text. A whole number of 64 bits stays whole, with or without a sign bit; any other number becomes a
floating-point number, from as many leading digits as fit 64 bits, times or by a power of ten. Nesting goes 127
levels deep.
-/

namespace SingleFlight.Settings.Json

def isBlank (c : Char) : Bool := c = ' ' || c = '\t' || c = '\n' || c = '\r'

def skip (s : List Char) : List Char := s.dropWhile isBlank

/-- The character of a single-letter escape. -/
def escape? (c : Char) : Option Char :=
  match c with
  | '"' => some '"'
  | '\\' => some '\\'
  | '/' => some '/'
  | 'b' => some '\x08'
  | 'f' => some '\x0c'
  | 'n' => some '\n'
  | 'r' => some '\r'
  | 't' => some '\t'
  | _ => none

/-- The rest of a string after its opening quote, and what follows the closing one. -/
def stringRest : List Char → Option (List Char × List Char)
  | '"' :: rest => some ([], rest)
  | '\\' :: 'u' :: a :: b :: c :: d :: rest => do
    let high ← Text.hexNumber? [a, b, c, d]
    if 0xDC00 ≤ high ∧ high ≤ 0xDFFF then none
    else if 0xD800 ≤ high ∧ high ≤ 0xDBFF then
      match rest with
      | '\\' :: 'u' :: e :: f :: g :: h :: rest => do
        let low ← Text.hexNumber? [e, f, g, h]
        if 0xDC00 ≤ low ∧ low ≤ 0xDFFF then
          let (cs, rest) ← stringRest rest
          return (Char.ofNat (0x10000 + (high - 0xD800) * 0x400 + (low - 0xDC00)) :: cs, rest)
        else none
      | _ => none
    else
      let (cs, rest) ← stringRest rest
      return (Char.ofNat high :: cs, rest)
  | '\\' :: e :: rest => do
    let c ← escape? e
    let (cs, rest) ← stringRest rest
    return (c :: cs, rest)
  | c :: rest => do
    if c.toNat < 0x20 then none
    else
      let (cs, rest) ← stringRest rest
      return (c :: cs, rest)
  | [] => none

/-- The digits as a number, as long as it fits 64 bits, and how many digits are left over. -/
def significand (digits : List Char) : Nat × Nat :=
  let rec go (n : Nat) : List Char → Nat × Nat
    | [] => (n, 0)
    | c :: rest =>
      let next := n * 10 + (c.toNat - 48)
      if next < Nat.pow 2 64 then go next rest else (n, rest.length + 1)
  go 0 digits

/-- `n * 10 ^ exponent`, rounded at each of at most three operations; none if it is too large. -/
def scaled? (n : Nat) (exponent : Int) : Option Float :=
  let x := Float.ofNat n
  if n = 0 then some x
  else if 308 < exponent then none
  else if 0 ≤ exponent then
    let y := x * Decimal.nearest 1 exponent
    if y.isInf then none else some y
  else if -308 ≤ exponent then some (x / Decimal.nearest 1 (-exponent))
  else if -616 ≤ exponent then some (x / Decimal.nearest 1 308 / Decimal.nearest 1 (-exponent - 308))
  else some 0

/-- The digits, a point with digits, and a power of ten, of a number without its sign. -/
structure Numeral where
  whole : List Char
  fraction : List Char
  hasFraction : Bool
  exponent : Int
  hasExponent : Bool

/-- The power of ten at the start of the text, if there is one. -/
def exponentPart : List Char → Option (Int × Bool × List Char)
  | e :: rest =>
    if e = 'e' || e = 'E' then
      let (negative, rest) := match rest with
        | '-' :: rest => (true, rest)
        | '+' :: rest => (false, rest)
        | _ => (false, rest)
      match Decimal.decimal? (rest.takeWhile Char.isDigit) with
      | some n => some (if negative then -(n : Int) else n, true, rest.dropWhile Char.isDigit)
      | none => none
    else some (0, false, e :: rest)
  | [] => some (0, false, [])

/-- The numeral at the start of the text: no leading zeros, digits on both sides of a point. -/
def numeral? (s : List Char) : Option (Numeral × List Char) := do
  let whole := s.takeWhile Char.isDigit
  let rest := s.dropWhile Char.isDigit
  if whole.isEmpty || (whole.head? = some '0' && 1 < whole.length) then none
  else
    let (hasFraction, fraction, rest) := match rest with
      | '.' :: more => (true, more.takeWhile Char.isDigit, more.dropWhile Char.isDigit)
      | _ => (false, [], rest)
    if hasFraction && fraction.isEmpty then none
    else
      let (exponent, hasExponent, rest) ← exponentPart rest
      return (⟨whole, fraction, hasFraction, exponent, hasExponent⟩, rest)

/-- A numeral that is not a whole number of 64 bits. Digits that no longer fit count only before the point. -/
def Numeral.float? (n : Numeral) : Option Float :=
  let (wholeValue, wholeLeft) := significand n.whole
  if 0 < wholeLeft then
    let (value, left) := significand (n.whole.take (n.whole.length - wholeLeft) ++ n.fraction)
    let taken := n.whole.length - wholeLeft + n.fraction.length - left
    if taken = n.whole.length - wholeLeft then scaled? wholeValue (wholeLeft + n.exponent)
    else scaled? value (wholeLeft - (taken - (n.whole.length - wholeLeft) : Nat) + n.exponent)
  else
    let (value, left) := significand (n.whole ++ n.fraction)
    scaled? value (n.exponent - (n.fraction.length - left : Nat))

def number? (s : List Char) : Option (Datum × List Char) := do
  let (negative, s) := match s with
    | '-' :: rest => (true, rest)
    | _ => (false, s)
  let (n, rest) ← numeral? s
  let whole := Decimal.digitsValue n.whole 10
  if !n.hasFraction && !n.hasExponent && !negative && whole < Nat.pow 2 64 then return (.int whole, rest)
  else if !n.hasFraction && !n.hasExponent && negative && 0 < whole && whole ≤ Nat.pow 2 63 then
    return (.int (-(whole : Int)), rest)
  else
    let x ← n.float?
    return (.float (if negative then -x else x), rest)

def word? (word : String) (datum : Datum) (s : List Char) : Option (Datum × List Char) :=
  if word.toList.isPrefixOf s then some (datum, s.drop word.length) else none

mutual
/-- A value at the start of the text, blanks before it skipped. -/
def value (fuel depth : Nat) (s : List Char) : Option (Datum × List Char) :=
  match fuel with
  | 0 => none
  | fuel + 1 =>
    match skip s with
    | 'n' :: rest => word? "null" .null ('n' :: rest)
    | 't' :: rest => word? "true" (.flag true) ('t' :: rest)
    | 'f' :: rest => word? "false" (.flag false) ('f' :: rest)
    | '"' :: rest => (stringRest rest).map fun (cs, rest) => (.text (String.ofList cs), rest)
    | '[' :: rest =>
      match depth with
      | 0 => none
      | depth + 1 =>
        match skip rest with
        | ']' :: rest => some (.list [], rest)
        | rest => (items fuel depth rest).map fun (xs, rest) => (.list xs, rest)
    | '\x7b' :: rest =>
      match depth with
      | 0 => none
      | depth + 1 =>
        match skip rest with
        | '\x7d' :: rest => some (.table [], rest)
        | rest => (members fuel depth rest).map fun (fs, rest) => (.table fs, rest)
    | rest => number? rest

/-- One item and more, and the closing bracket. -/
def items (fuel depth : Nat) (s : List Char) : Option (List Datum × List Char) :=
  match fuel with
  | 0 => none
  | fuel + 1 => do
    let (x, rest) ← value fuel depth s
    match skip rest with
    | ',' :: rest =>
      let (xs, rest) ← items fuel depth rest
      return (x :: xs, rest)
    | ']' :: rest => return ([x], rest)
    | _ => none

/-- One member and more, and the closing brace. The last of several members of one name counts. -/
def members (fuel depth : Nat) (s : List Char) : Option (List (String × Datum) × List Char) :=
  match fuel with
  | 0 => none
  | fuel + 1 =>
    match skip s with
    | '"' :: rest => do
      let (name, rest) ← stringRest rest
      match skip rest with
      | ':' :: rest =>
        let (x, rest) ← value fuel depth rest
        match skip rest with
        | ',' :: rest =>
          let (fs, rest) ← members fuel depth rest
          let name := String.ofList name
          return (if fs.any (·.1 == name) then fs else (name, x) :: fs, rest)
        | '\x7d' :: rest => return ([(String.ofList name, x)], rest)
        | _ => none
      | _ => none
    | _ => none
end

/-- The document that the text holds, and nothing after it. -/
def document? (s : String) : Option Datum := do
  let (x, rest) ← value (2 * s.length + 2) 127 s.toList
  if (skip rest).isEmpty then some x else none

end SingleFlight.Settings.Json
