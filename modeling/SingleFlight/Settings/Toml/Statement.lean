import SingleFlight.Settings.Toml.Quoted
import SingleFlight.Settings.Toml.Scalar

/-!
# TOML statements

A TOML text line by line: headers, doubled headers, and keys with their values. What the tables come to is not decided
here, so every name keeps its place in the text.

* lists and tables in values nest 80 levels deep, and a key has 80 names, at most.
-/

namespace SingleFlight.Settings.Toml

/-- A name in a key, with its place: how much of the text is left where the name begins and where it ends. -/
structure Name where
  text : String
  fromStart : Nat
  fromEnd : Nat
deriving DecidableEq

/-- Names with points between them. -/
structure DottedKey where
  path : List Name
  last : Name
deriving DecidableEq

/-- A value as it is written. -/
inductive Written where
  | scalar (datum : Datum)
  | list (items : List Written)
  | table (members : List (DottedKey × Written))

/-- What a line of the text says. -/
inductive Statement where
  | header (key : DottedKey)
  | listHeader (key : DottedKey)
  | pair (key : DottedKey) (value : Written)

def skipBlanks (s : List Char) : List Char := s.dropWhile fun c => c = ' ' || c = '\t'

def isBareKeyChar (c : Char) : Bool := c.isAlphanum || c = '_' || c = '-'

/-- The text of a name. -/
def nameText? (s : List Char) : Option (List Char × List Char) :=
  match s with
  | '"' :: rest => basicRest rest
  | '\x27' :: rest => literalRest rest
  | _ =>
    let cs := s.takeWhile isBareKeyChar
    if cs.isEmpty then none else some (cs, s.dropWhile isBareKeyChar)

/-- One name of a key. -/
def name? (s : List Char) : Option (Name × List Char) :=
  (nameText? s).map fun (cs, rest) => (⟨String.ofList cs, s.length, rest.length⟩, rest)

/-- A key of at most `most` names. -/
def names? (most : Nat) (s : List Char) : Option (DottedKey × List Char) :=
  match most with
  | 0 => none
  | most + 1 => do
    let (name, rest) ← name? (skipBlanks s)
    match skipBlanks rest with
    | '.' :: rest =>
      let (key, rest) ← names? most rest
      return (⟨name :: key.path, key.last⟩, rest)
    | rest => return (⟨[], name⟩, rest)

/-- The number of names that a key has at most, and of levels that values nest. -/
def depthLimit : Nat := 80

/-- A key at the start of the text. -/
def key? (s : List Char) : Option (DottedKey × List Char) := names? depthLimit s

/-- What follows a comment, from its line break on; a comment holds no controls. -/
def afterComment? (s : List Char) : Option (List Char) :=
  let body := s.takeWhile (· != '\n')
  let rest := s.dropWhile (· != '\n')
  let body := if body.getLast? = some '\r' && !rest.isEmpty then body.dropLast else body
  if body.any isControl then none else some rest

/-- Skips blanks, line breaks and comments. -/
def skipLines? (fuel : Nat) (s : List Char) : Option (List Char) :=
  match fuel with
  | 0 => none
  | fuel + 1 =>
    match skipBlanks s with
    | '\n' :: rest => skipLines? fuel rest
    | '\r' :: '\n' :: rest => skipLines? fuel rest
    | '#' :: rest => afterComment? rest >>= skipLines? fuel
    | rest => some rest

/-- Nothing but a comment stands between here and the end of the line. -/
def endLine? (s : List Char) : Option (List Char) :=
  match skipBlanks s with
  | [] => some []
  | '\n' :: rest => some rest
  | '\r' :: '\n' :: rest => some rest
  | '#' :: rest => (afterComment? rest).map fun rest => rest.drop 1
  | _ => none

mutual
/-- The value at the start of the text and what follows it, with `depth` levels left for lists and tables. -/
def value? (fuel depth : Nat) (s : List Char) : Option (Written × List Char) :=
  match fuel with
  | 0 => none
  | fuel + 1 =>
    match s with
    | '"' :: _ | '\x27' :: _ => (quoted? s).map fun (cs, rest) => (.scalar (.text (String.ofList cs)), rest)
    | '[' :: rest =>
      match depth with
      | 0 => none
      | depth + 1 => (items? fuel depth rest).map fun (xs, rest) => (.list xs, rest)
    | '\x7b' :: rest =>
      match depth with
      | 0 => none
      | depth + 1 => (members? fuel depth rest).map fun (members, rest) => (.table members, rest)
    | _ =>
      let (t, rest) := token s
      (scalar? t).map fun d => (.scalar d, rest)

/-- The items of a list and its closing bracket. -/
def items? (fuel depth : Nat) (s : List Char) : Option (List Written × List Char) :=
  match fuel with
  | 0 => none
  | fuel + 1 => do
    match ← skipLines? (s.length + 1) s with
    | ']' :: rest => return ([], rest)
    | rest =>
      let (x, rest) ← value? fuel depth rest
      match ← skipLines? (rest.length + 1) rest with
      | ',' :: rest =>
        let (xs, rest) ← items? fuel depth rest
        return (x :: xs, rest)
      | ']' :: rest => return ([x], rest)
      | _ => none

/-- The members of a table and its closing brace. -/
def members? (fuel depth : Nat) (s : List Char) : Option (List (DottedKey × Written) × List Char) :=
  match fuel with
  | 0 => none
  | fuel + 1 => do
    match ← skipLines? (s.length + 1) s with
    | '\x7d' :: rest => return ([], rest)
    | rest =>
      let (key, rest) ← key? rest
      let rest ← skipLines? (rest.length + 1) rest >>= literal? '='
      let (x, rest) ← skipLines? (rest.length + 1) rest >>= value? fuel depth
      match ← skipLines? (rest.length + 1) rest with
      | ',' :: rest =>
        let (members, rest) ← members? fuel depth rest
        return ((key, x) :: members, rest)
      | '\x7d' :: rest => return ([(key, x)], rest)
      | _ => none
end

/-- The statement at the start of a line, and the lines behind it. -/
def statement? (s : List Char) : Option (Statement × List Char) :=
  match s with
  | '[' :: '[' :: rest => do
    let (key, rest) ← key? rest
    return (.listHeader key, ← literal? ']' rest >>= literal? ']' >>= endLine?)
  | '[' :: rest => do
    let (key, rest) ← key? rest
    return (.header key, ← literal? ']' rest >>= endLine?)
  | _ => do
    let (key, rest) ← key? s
    let rest ← literal? '=' rest
    let (x, rest) ← value? (2 * rest.length + 2) depthLimit (skipBlanks rest)
    return (.pair key x, ← endLine? rest)

/-- The statements of the text in turn. -/
def statements? (fuel : Nat) (s : List Char) : Option (List Statement) :=
  match fuel with
  | 0 => none
  | fuel + 1 => do
    match ← skipLines? (s.length + 1) s with
    | [] => return []
    | rest =>
      let (statement, rest) ← statement? rest
      return statement :: (← statements? fuel rest)

end SingleFlight.Settings.Toml
