import SingleFlight.Decimal.Reading
import SingleFlight.Settings.Datum

/-!
# TOML scalars

Numbers, dates and times, each written as one token without quotes.

* a number with a point or a power of ten must not be beyond every floating-point number;
* a date or time is kept as text in its usual form: a capital `T` between date and time, a fraction of a second of at
  most nine digits and without needless zeros, no minus sign before a distance of zero.
-/

namespace SingleFlight.Settings.Toml

/-- Digits of one kind with single underscores between them; the digits alone. -/
def digits? (isDigit : Char → Bool) : List Char → Option (List Char)
  | [] => none
  | [c] => if isDigit c then some [c] else none
  | c :: '_' :: d :: rest => if isDigit c then (c :: ·) <$> digits? isDigit (d :: rest) else none
  | c :: d :: rest => if isDigit c then (c :: ·) <$> digits? isDigit (d :: rest) else none

/-- Decimal digits without a leading zero. -/
def decimalDigits? (s : List Char) : Option (List Char) :=
  match digits? Char.isDigit s with
  | some ('0' :: _ :: _) => none
  | ds => ds

def isHexDigit (c : Char) : Bool := c.isDigit || ('a' ≤ c && c ≤ 'f') || ('A' ≤ c && c ≤ 'F')

def isOctalDigit (c : Char) : Bool := '0' ≤ c && c ≤ '7'

def isBinaryDigit (c : Char) : Bool := c = '0' || c = '1'

def isSpacedDigit (c : Char) : Bool := c.isDigit || c = '_'

/-- The sign of a number and what follows it. -/
def signed (s : List Char) : Bool × List Char :=
  match s with
  | '-' :: rest => (true, rest)
  | '+' :: rest => (false, rest)
  | _ => (false, s)

def integer? (s : List Char) : Option Int :=
  let based (base : Nat) (isDigit : Char → Bool) (rest : List Char) : Option Int :=
    ((digits? isDigit rest).map (Decimal.digitsValue · base)).bind fun n =>
      if n < Nat.pow 2 63 then some (n : Int) else none
  match s with
  | '0' :: 'x' :: rest => based 16 isHexDigit rest
  | '0' :: 'o' :: rest => based 8 isOctalDigit rest
  | '0' :: 'b' :: rest => based 2 isBinaryDigit rest
  | _ =>
    let (negative, rest) := signed s
    ((decimalDigits? rest).map (Decimal.digitsValue · 10)).bind fun n =>
      if negative then (if n ≤ Nat.pow 2 63 then some (-(n : Int)) else none)
      else if n < Nat.pow 2 63 then some (n : Int) else none

/-- A power of ten with its `e`. -/
def exponent? : List Char → Option Int
  | [] => some 0
  | e :: rest =>
    if e = 'e' || e = 'E' then
      let (negative, rest) := signed rest
      (digits? Char.isDigit rest).map fun ds =>
        let n := Decimal.digitsValue ds 10
        if negative then -(n : Int) else n
    else none

def float? (s : List Char) : Option Float :=
  let (negative, rest) := signed s
  let size : Option Float :=
    if rest = "inf".toList then some (1 / 0)
    else if rest = "nan".toList then some (0 / 0)
    else
      let whole := rest.takeWhile isSpacedDigit
      let rest := rest.dropWhile isSpacedDigit
      let (fraction, rest) := match rest with
        | '.' :: more => (some (more.takeWhile isSpacedDigit), more.dropWhile isSpacedDigit)
        | _ => (none, rest)
      if fraction.isNone && rest.isEmpty then none
      else do
        let whole ← decimalDigits? whole
        let fraction ← match fraction with
          | some ds => digits? Char.isDigit ds
          | none => some []
        let e ← exponent? rest
        let x := Decimal.nearest (Decimal.digitsValue (whole ++ fraction) 10) (e - fraction.length)
        if x.isInf then none else return x
  size.map fun x => if negative then -x else x

/-- Exactly `n` digits with a value between the bounds, and what follows. -/
def field? (n low high : Nat) (s : List Char) : Option (List Char) :=
  let ds := s.take n
  if ds.length = n && ds.all Char.isDigit && low ≤ Decimal.digitsValue ds 10 && Decimal.digitsValue ds 10 ≤ high then
    some (s.drop n)
  else none

def isLeap (year : Nat) : Bool := year % 4 == 0 && (year % 100 != 0 || year % 400 == 0)

def daysIn (year month : Nat) : Nat :=
  if month = 2 then (if isLeap year then 29 else 28)
  else if month = 4 || month = 6 || month = 9 || month = 11 then 30 else 31

def literal? (c : Char) : List Char → Option (List Char)
  | d :: rest => if c = d then some rest else none
  | [] => none

/-- A date at the start of the text: its ten characters and what follows. -/
def date? (s : List Char) : Option (List Char × List Char) := do
  let afterYear ← field? 4 0 9999 s >>= literal? '-'
  let month := Decimal.digitsValue (afterYear.take 2) 10
  let afterMonth ← field? 2 1 12 afterYear >>= literal? '-'
  let rest ← field? 2 1 (daysIn (Decimal.digitsValue (s.take 4) 10) month) afterMonth
  return (s.take 10, rest)

/-- Nine digits count; of the zeros at the end only one stays, where nothing else is left. -/
def fractionText (digits : List Char) : List Char :=
  match ((digits.take 9).reverse.dropWhile (· = '0')).reverse with
  | [] => ['0']
  | kept => kept

/-- Seconds after a time of day, if a colon announces them, and what follows. -/
def seconds? (s : List Char) : Option (List Char × List Char) :=
  match s with
  | ':' :: seconds => do
    match ← field? 2 0 60 seconds with
    | '.' :: more =>
      let ds := more.takeWhile Char.isDigit
      if ds.isEmpty then none
      else return (':' :: seconds.take 2 ++ '.' :: fractionText ds, more.dropWhile Char.isDigit)
    | rest => return (':' :: seconds.take 2, rest)
  | _ => some ([], s)

/-- A time of day at the start of the text, and what follows. -/
def time? (s : List Char) : Option (List Char × List Char) := do
  let rest ← field? 2 0 23 s >>= literal? ':' >>= field? 2 0 59
  let (seconds, rest) ← seconds? rest
  return (s.take 5 ++ seconds, rest)

/-- The distance to universal time, which must end the text. -/
def offset? (s : List Char) : Option (List Char) :=
  match s with
  | [] => some []
  | ['Z'] | ['z'] => some ['Z']
  | sign :: distance =>
    if sign = '+' || sign = '-' then do
      let rest ← field? 2 0 23 distance >>= literal? ':' >>= field? 2 0 59
      if !rest.isEmpty then none
      else return (if distance = "00:00".toList then '+' else sign) :: distance
    else none

def dateTime? (s : List Char) : Option (List Char) :=
  match date? s with
  | some (date, []) => some date
  | some (date, c :: rest) =>
    if c = 'T' || c = 't' || c = ' ' then do
      let (time, rest) ← time? rest
      let offset ← offset? rest
      return date ++ ['T'] ++ time ++ offset
    else none
  | none => do
    let (time, rest) ← time? s
    if rest.isEmpty then some time else none

/-- The scalar that a token stands for. -/
def scalar? (token : List Char) : Option Datum :=
  if token = "true".toList then some (.flag true)
  else if token = "false".toList then some (.flag false)
  else match integer? token with
    | some n => some (.int n)
    | none =>
      match float? token with
      | some x => some (.float x)
      | none => (dateTime? token).map fun cs => .text (String.ofList cs)

def isTokenChar (c : Char) : Bool :=
  c.isAlphanum || c = '_' || c = '+' || c = '-' || c = '.' || c = ':'

/-- The token at the start of the text and what follows. A blank between a date and a time belongs to it. -/
def token (s : List Char) : List Char × List Char :=
  let first := s.takeWhile isTokenChar
  let rest := s.dropWhile isTokenChar
  match date? first, rest with
  | some (_, []), ' ' :: d :: more =>
    if d.isDigit then
      (first ++ ' ' :: (d :: more).takeWhile isTokenChar, (d :: more).dropWhile isTokenChar)
    else (first, rest)
  | _, _ => (first, rest)

end SingleFlight.Settings.Toml
