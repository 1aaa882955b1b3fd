import SingleFlight.Text.Alphanumeric
import SingleFlight.Text.Blank
import SingleFlight.Text.Hexadecimal
import SingleFlight.Text.Pattern

/-!
# Reading patterns

A pattern is read from left to right. No brace closes in one, so a number of repetitions in braces, a property such as
`\p` and a code point in braces are all refused where they begin. Where blanks do not count, `spaced`, they and
comments are skipped between the parts.
-/

namespace SingleFlight.Text

/-- The text behind blanks and comments. -/
def skipRemarks (inComment : Bool) : List Char → List Char
  | [] => []
  | c :: rest =>
    if inComment then skipRemarks (c != '\n') rest
    else if isBlank c then skipRemarks false rest
    else if c = '#' then skipRemarks true rest
    else c :: rest

/-- The text from where reading goes on. -/
def skipSpaced (spaced : Bool) (s : List Char) : List Char := if spaced then skipRemarks false s else s

/-- A character that stands for itself behind a backslash. -/
def isPunctuation (c : Char) : Bool := c.toNat < 128 && !c.isAlphanum && c != '<' && c != '>'

/-- The number that `count` hexadecimal digits at the start of the text write. -/
def fixedHex? (spaced : Bool) (count n : Nat) (s : List Char) : Option (Nat × List Char) :=
  match count with
  | 0 => some (n, s)
  | count + 1 =>
    match skipSpaced spaced s with
    | [] => none
    | c :: rest => (hexDigit? c).bind fun d => fixedHex? spaced count (n * 16 + d) rest

/-- A character by its code point. -/
def escapedLetter? (spaced asByte : Bool) (count : Nat) (s : List Char) : Option (Pattern × List Char) := do
  let (n, rest) ← fixedHex? spaced count 0 s
  if n < 0xD800 ∨ (0xDFFF < n ∧ n < 0x110000) then some (.letter ⟨n, asByte⟩, rest) else none

/-- What a backslash and the text behind it stand for. -/
def escaped? (spaced : Bool) : List Char → Option (Pattern × List Char)
  | [] => none
  | 'x' :: rest => escapedLetter? spaced true 2 rest
  | 'u' :: rest => escapedLetter? spaced false 4 rest
  | 'U' :: rest => escapedLetter? spaced false 8 rest
  | c :: rest =>
    if isPunctuation c || "afnrtv".toList.contains c then some (.letter ⟨c.toNat, false⟩, rest)
    else if "dsw".toList.contains c then some (.shorthand false, rest)
    else if "DSW".toList.contains c then some (.shorthand true, rest)
    else if c = 'A' || c = 'z' then some (.edge, rest)
    else if "bB<>".toList.contains c then some (.wordBoundary, rest)
    else none

def classNames : List String :=
  ["alnum", "alpha", "ascii", "blank", "cntrl", "digit", "graph", "lower", "print", "punct", "space", "upper", "word",
    "xdigit"]

/-- The rest of a named class such as `[:^alpha:]`, behind its first bracket, and whether it is negated. -/
def namedClass? : List Char → Option (Bool × List Char)
  | ':' :: rest =>
    let negated := rest.head? = some '^'
    let rest := if negated then rest.drop 1 else rest
    match rest.dropWhile (· != ':') with
    | ':' :: ']' :: more =>
      if classNames.contains (String.ofList (rest.takeWhile (· != ':'))) then some (negated, more) else none
    | _ => none
  | _ => none

/-- The character after the next one. Where blanks do not count, it is the one after blanks, a `#` and blanks. -/
def nextBut (spaced : Bool) (s : List Char) : Option Char :=
  if !spaced then s.head?
  else
    let ahead := match s.dropWhile isBlank with
      | '#' :: more => more.dropWhile isBlank
      | more => more
    ahead.head?.or s.head?

/-- The character, or the escape, at the start of a member of a class. -/
def classLetter? (spaced : Bool) : List Char → Option (Pattern × List Char)
  | [] => none
  | '\\' :: rest => escaped? spaced rest
  | c :: rest => some (.letter ⟨c.toNat, false⟩, rest)

/-- The member of a class that a character or an escape alone is. -/
def ClassMember.ofPattern? : Pattern → Option ClassMember
  | .letter l => some (.letter l)
  | .shorthand negated => some (.shorthand negated)
  | _ => none

/-- The range between two characters, the greater one last. -/
def ClassMember.range? : Pattern → Pattern → Option ClassMember
  | .letter first, .letter last => if first.code ≤ last.code then some (.range first last) else none
  | _, _ => none

/-- The member of a class at the start of the text. A hyphen in front of a bracket or of another hyphen makes no
range. -/
def member? (spaced : Bool) (s : List Char) : Option (ClassMember × List Char) := do
  let (first, rest) ← classLetter? spaced s
  match skipSpaced spaced rest with
  | [] => none
  | '-' :: more =>
    let next := nextBut spaced more
    if next = some ']' || next = some '-' then return (← ClassMember.ofPattern? first, '-' :: more)
    else
      let (last, rest) ← classLetter? spaced (skipSpaced spaced more)
      return (← ClassMember.range? first last, rest)
  | rest => return (← ClassMember.ofPattern? first, rest)

/-- The members read so far, the last one first, behind the body to the left of the operator. -/
def joinedBody (left : Option ClassBody) (members : List ClassMember) : ClassBody :=
  match left with
  | none => .members members.reverse
  | some left => .combined left (.members members.reverse)

/-- A character in a class that stands for itself. -/
def ClassMember.ofChar (c : Char) : ClassMember := .letter ⟨c.toNat, false⟩

/-- Whether a class is negated, and its text from the first member on. -/
def classStart (spaced : Bool) (s : List Char) : Bool × List Char :=
  match skipSpaced spaced s with
  | '^' :: rest => (true, rest)
  | s => (false, s)

/-- The rest of a class, with the members read so far, the last one first. At the start of a class, `fresh`, hyphens
stand for themselves, and so does a closing bracket that comes before all else. -/
def classRest? (fuel : Nat) (spaced fresh : Bool) (left : Option ClassBody) (members : List ClassMember)
    (s : List Char) : Option (ClassBody × List Char) :=
  match fuel with
  | 0 => none
  | fuel + 1 =>
    match fresh, skipSpaced spaced s with
    | _, [] => none
    | true, '-' :: rest => classRest? fuel spaced true left (.ofChar '-' :: members) rest
    | fresh, ']' :: rest =>
      if fresh && members.isEmpty then classRest? fuel spaced false left [.ofChar ']'] rest
      else some (joinedBody left members, rest)
    | _, '[' :: rest =>
      match namedClass? rest with
      | some (negated, rest) => classRest? fuel spaced false left (.named negated :: members) rest
      | none => do
        let (negated, rest) := classStart spaced rest
        let (inner, rest) ← classRest? fuel spaced true none [] rest
        classRest? fuel spaced false left (.nested negated inner :: members) rest
    | _, '&' :: '&' :: rest | _, '-' :: '-' :: rest | _, '~' :: '~' :: rest =>
      classRest? fuel spaced false (some (joinedBody left members)) [] rest
    | _, s => do
      let (member, rest) ← member? spaced s
      classRest? fuel spaced false left (member :: members) rest

/-- The flags between a question mark and the end of their list; none stands twice, and a hyphen before some of them
switches those off. -/
def flags? (letters : List Char) : Option PatternFlags :=
  if letters.all ("imsURux-".toList.contains ·) && decide letters.Nodup && letters.getLast? != some '-' then
    let on := letters.takeWhile (· != '-')
    let switch c := if letters.contains c then some (on.contains c) else none
    some ⟨switch 'i', switch 'u', switch 'x'⟩
  else none

/-- The name of a group, up to its closing angle bracket. -/
def groupName? (s : List Char) : Option (String × List Char) :=
  let name := s.takeWhile (· != '>')
  match name, s.dropWhile (· != '>') with
  | first :: more, _ :: rest =>
    if (first = '_' || isAlphabetic first) && more.all (fun c => "_.[]".toList.contains c || isAlphanumeric c) then
      some (String.ofList name, rest)
    else none
  | _, _ => none

/-- What an opening parenthesis begins. -/
inductive Opening where
  | flags (flags : PatternFlags)
  | group (name : Option String) (flags : PatternFlags)

/-- What stands behind an opening parenthesis, up to the inside of the group. -/
def opening? : List Char → Option (Opening × List Char)
  | '?' :: 'P' :: '<' :: rest | '?' :: '<' :: rest =>
    (groupName? rest).map fun (name, rest) => (.group (some name) .none, rest)
  | '?' :: rest =>
    let letters := rest.takeWhile fun c => c != ':' && c != ')'
    match rest.dropWhile fun c => c != ':' && c != ')' with
    | ':' :: inside => (flags? letters).map fun flags => (.group none flags, inside)
    | ')' :: behind => if letters.isEmpty then none else (flags? letters).map fun flags => (.flags flags, behind)
    | _ => none
  | s => some (.group none .none, s)

namespace Pattern

/-- The parts of a sequence, the last one first. -/
def ofParts : List Pattern → Pattern
  | [] => .empty
  | [one] => one
  | parts => .sequence parts.reverse

/-- The alternatives in front of the last one, of which the last stands first, and the parts of that one. -/
def ofAlternatives (before : List Pattern) (parts : List Pattern) : Pattern :=
  if before.isEmpty then ofParts parts else .alternatives (before.reverse ++ [ofParts parts])

/-- The pattern up to the end of its group, with the alternatives and parts read so far. -/
def upToEnd? (fuel : Nat) (spaced : Bool) (before parts : List Pattern) (s : List Char) :
    Option (Pattern × List Char) :=
  match fuel with
  | 0 => none
  | fuel + 1 =>
    match skipSpaced spaced s with
    | [] => some (ofAlternatives before parts, [])
    | ')' :: rest => some (ofAlternatives before parts, ')' :: rest)
    | '|' :: rest => upToEnd? fuel spaced (ofParts parts :: before) [] rest
    | '(' :: rest => do
      match ← opening? (skipSpaced spaced rest) with
      | (.flags f, rest) => upToEnd? fuel (f.spaced.getD spaced) before (.flags f :: parts) rest
      | (.group name f, rest) =>
        let (inner, rest) ← upToEnd? fuel (f.spaced.getD spaced) [] [] rest
        match rest with
        | ')' :: rest => upToEnd? fuel spaced before (.group name f inner :: parts) rest
        | _ => none
    | '[' :: rest => do
      let (negated, rest) := classStart spaced rest
      let (body, rest) ← classRest? fuel spaced true none [] rest
      upToEnd? fuel spaced before (.bracketed negated body :: parts) rest
    | '?' :: rest | '*' :: rest | '+' :: rest =>
      match parts with
      | [] | .flags _ :: _ => none
      | last :: parts =>
        let rest := if rest.head? = some '?' then rest.drop 1 else rest
        upToEnd? fuel spaced before (.repeated last :: parts) rest
    | '{' :: _ => none
    | '\\' :: rest => do
      let (part, rest) ← escaped? spaced rest
      upToEnd? fuel spaced before (part :: parts) rest
    | '.' :: rest => upToEnd? fuel spaced before (.anything :: parts) rest
    | '^' :: rest | '$' :: rest => upToEnd? fuel spaced before (.edge :: parts) rest
    | c :: rest => upToEnd? fuel spaced before (.letter ⟨c.toNat, false⟩ :: parts) rest

/-- The pattern that a text without braces and commas writes. -/
def ofString? (s : String) : Option Pattern :=
  match upToEnd? (s.length + 1) false [] [] s.toList with
  | some (pattern, []) => some pattern
  | _ => none

/-- The text writes a pattern that has a matcher. -/
def isMatchable (s : String) : Bool := (ofString? s).any hasMatcher

end Pattern

end SingleFlight.Text
