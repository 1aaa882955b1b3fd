import SingleFlight.Text.Hexadecimal

/-!
# TOML strings

Basic strings, with escapes, and literal strings, without; each on one line or, between tripled quotes, on several.
-/

namespace SingleFlight.Settings.Toml

def isControl (c : Char) : Bool := (c.toNat < 0x20 && c != '\t') || c.toNat = 0x7F

/-- The character with the code point that the hexadecimal digits write. -/
def codePoint? (digits : List Char) : Option Char := do
  let n ← Text.hexNumber? digits
  if n < 0xD800 ∨ (0xDFFF < n ∧ n < 0x110000) then some (Char.ofNat n) else none

def simpleEscape? (c : Char) : Option Char :=
  match c with
  | '"' => some '"'
  | '\\' => some '\\'
  | 'b' => some '\x08'
  | 'f' => some '\x0c'
  | 'n' => some '\n'
  | 'r' => some '\r'
  | 't' => some '\t'
  | 'e' => some '\x1b'
  | _ => none

/-- Puts a character in front of the text read so far. -/
def prepend (c : Char) (r : List Char × List Char) : List Char × List Char := (c :: r.1, r.2)

/-- The rest of a basic string on one line, after its opening quote, and what follows it. -/
def basicRest : List Char → Option (List Char × List Char)
  | '"' :: rest => some ([], rest)
  | '\\' :: 'x' :: a :: b :: rest => do
    let ch ← codePoint? [a, b]
    prepend ch <$> basicRest rest
  | '\\' :: 'u' :: a :: b :: c :: d :: rest => do
    let ch ← codePoint? [a, b, c, d]
    prepend ch <$> basicRest rest
  | '\\' :: 'U' :: a :: b :: c :: d :: e :: f :: g :: h :: rest => do
    let ch ← codePoint? [a, b, c, d, e, f, g, h]
    prepend ch <$> basicRest rest
  | '\\' :: e :: rest => do
    let ch ← simpleEscape? e
    prepend ch <$> basicRest rest
  | c :: rest => if isControl c then none else prepend c <$> basicRest rest
  | [] => none

/-- The rest of a literal string on one line. -/
def literalRest : List Char → Option (List Char × List Char)
  | '\x27' :: rest => some ([], rest)
  | c :: rest => if isControl c then none else prepend c <$> literalRest rest
  | [] => none

/-- Quotes before the closing three belong to the string, two at most. -/
def closing? (quote : Char) (s : List Char) : Option (List Char × List Char) :=
  let n := (s.takeWhile (· = quote)).length
  if 3 ≤ n then
    let inside := min (n - 3) 2
    some (List.replicate inside quote, s.drop (inside + 3))
  else none

/-- The text from its first character on that is neither a blank nor a part of a line break. -/
def skipBreaks : List Char → List Char
  | ' ' :: rest | '\t' :: rest | '\n' :: rest | '\r' :: '\n' :: rest => skipBreaks rest
  | s => s

/-- A backslash at the end of a line joins it with the next text that is not blank. -/
def lineJoin? (s : List Char) : Option (List Char) :=
  match s.dropWhile fun c => c = ' ' || c = '\t' with
  | '\n' :: rest | '\r' :: '\n' :: rest => some (skipBreaks rest)
  | _ => none

/-- The rest of a basic string on several lines. A line break stays as it is written. -/
def longBasicRest (fuel : Nat) (s : List Char) : Option (List Char × List Char) :=
  match fuel with
  | 0 => none
  | fuel + 1 =>
    match closing? '"' s with
    | some r => some r
    | none =>
      match s with
      | '\\' :: 'x' :: a :: b :: rest => do
        let ch ← codePoint? [a, b]
        prepend ch <$> longBasicRest fuel rest
      | '\\' :: 'u' :: a :: b :: c :: d :: rest => do
        let ch ← codePoint? [a, b, c, d]
        prepend ch <$> longBasicRest fuel rest
      | '\\' :: 'U' :: a :: b :: c :: d :: e :: f :: g :: h :: rest => do
        let ch ← codePoint? [a, b, c, d, e, f, g, h]
        prepend ch <$> longBasicRest fuel rest
      | '\\' :: e :: rest =>
        match lineJoin? (e :: rest) with
        | some rest => longBasicRest fuel rest
        | none => do
          let ch ← simpleEscape? e
          prepend ch <$> longBasicRest fuel rest
      | '\r' :: '\n' :: rest => prepend '\r' <$> prepend '\n' <$> longBasicRest fuel rest
      | c :: rest => if isControl c && c != '\n' then none else prepend c <$> longBasicRest fuel rest
      | [] => none

/-- The rest of a literal string on several lines. -/
def longLiteralRest (fuel : Nat) (s : List Char) : Option (List Char × List Char) :=
  match fuel with
  | 0 => none
  | fuel + 1 =>
    match closing? '\x27' s with
    | some r => some r
    | none =>
      match s with
      | '\r' :: '\n' :: rest => prepend '\r' <$> prepend '\n' <$> longLiteralRest fuel rest
      | c :: rest => if isControl c && c != '\n' then none else prepend c <$> longLiteralRest fuel rest
      | [] => none

/-- A line break right after the opening quotes does not count. -/
def afterOpening (s : List Char) : List Char :=
  match s with
  | '\n' :: rest => rest
  | '\r' :: '\n' :: rest => rest
  | _ => s

/-- The string at the start of the text, if there is a quote, and what follows. -/
def quoted? (s : List Char) : Option (List Char × List Char) :=
  match s with
  | '"' :: '"' :: '"' :: rest => longBasicRest (rest.length + 1) (afterOpening rest)
  | '"' :: rest => basicRest rest
  | '\x27' :: '\x27' :: '\x27' :: rest => longLiteralRest (rest.length + 1) (afterOpening rest)
  | '\x27' :: rest => literalRest rest
  | _ => none

end SingleFlight.Settings.Toml
