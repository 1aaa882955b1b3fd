import SingleFlight.Settings.Checked
import SingleFlight.Text.Order
import SingleFlight.Text.Pattern.Reading

/-!
# Log filters

A filter is a list of directives, each a level for some lines. The most specific directive that a line fits decides
about it; a line that fits none is not printed.

* a level alone is for all lines, a target alone lets every line from there pass, `target=level` joins both;
* brackets behind the target hold the name of a span, a field in braces, or both;
* a field may have a value, which is a number or a pattern;
* a text of any other form is no directive, and without a directive the level of the settings holds for all lines.
-/

namespace SingleFlight

/-- A level for lines of one kind. -/
structure Directive where
  /-- What the name of the line's part of the program begins with. -/
  target : Option String
  /-- Only for lines inside a span. No part of the program opens one. -/
  spanned : Bool
  /-- The name of a field that the line must have. -/
  field : Option String
  level : Level
deriving DecidableEq

namespace Directive

/-- No text at all stands for the level that lets everything pass. -/
def level? (s : List Char) : Option Level :=
  if s.isEmpty then some .trace else Settings.level? (String.ofList s)

/-- The level that may follow the closing bracket. -/
def lastLevel? (text written : List Char) (first : Nat) : Option Level :=
  match text.drop first with
  | [] => some .trace
  | '=' :: _ => level? (written.drop (first + 1))
  | _ => none

/-- The place of the first character from `first` on that satisfies `p`. -/
def place? (text : List Char) (first : Nat) (p : Char → Bool) : Option Nat :=
  ((text.drop first).findIdx? p).map (· + first)

/-- The characters from place `first` to before place `last`. -/
def slice (s : List Char) (first last : Nat) : List Char := (s.take last).drop first

/-- The value that a field in braces has, between its first two equals signs, may be looked for. -/
def valueIsLegal (field : List Char) : Bool :=
  match field.splitOn '=' with
  | _ :: value :: _ =>
    (Decimal.float? (String.ofList value)).isSome || Text.Pattern.isMatchable (String.ofList value)
  | _ => true

/-- A directive with brackets, which open before place `first`. -/
def bracketed? (text written : List Char) (target : Option String) (first : Nat) : Option Directive := do
  let spanEnd ← place? text first fun c => c = ']' || c = '\x7b'
  if text[spanEnd]? = some ']' then
    return ⟨target, true, none, ← lastLevel? text written (spanEnd + 1)⟩
  else
    let fieldEnd ← place? text (spanEnd + 1) (· = '\x7d')
    let field := slice written (spanEnd + 1) fieldEnd
    if field.isEmpty || text[fieldEnd + 1]? != some ']' || !valueIsLegal field then none
    else
      let spanned := !(slice written first spanEnd).isEmpty || field.contains '='
      return ⟨target, spanned, some (String.ofList field), ← lastLevel? text written (fieldEnd + 2)⟩

/-- What a target begins with. -/
def beginsTarget (c : Char) : Bool := Text.isAlphanumeric c || c = '-' || c = ':' || c = '_'

/-- The directive that a text holds. Where its parts begin and end is found in `text`, the text without its blank ends,
and counted off in the text as it is written, so that blanks in front shift every part. -/
def parse? (s : String) : Option Directive :=
  let written := s.toList
  let text := (Text.trimmed s).toList
  match text with
  | [] => none
  | '[' :: _ => bracketed? text written none 1
  | c :: _ =>
    if !beginsTarget c then none
    else match place? text 0 fun c => c = '=' || c = '[' with
      | none =>
        match Settings.level? s with
        | some level => some ⟨none, false, none, level⟩
        | none => some ⟨some s, false, none, .trace⟩
      | some i =>
        let target := some (String.ofList (written.take i))
        if text[i]? = some '[' then bracketed? text written target (i + 1)
        else (level? (written.drop (i + 1))).map fun level => ⟨target, false, none, level⟩

def hasField (line : LogLine) (name : String) : Bool :=
  name = "message" || line.fields.any fun field => field.1 = name

/-- The directive is for the line. -/
def fits (directive : Directive) (line : LogLine) : Bool :=
  !directive.spanned && directive.target.all (fun target => target.toList.isPrefixOf line.source.path.toList) &&
    directive.field.all (hasField line)

/-- Longer targets are more specific, and any target more than none. -/
def targetRank (directive : Directive) : Nat :=
  match directive.target with
  | none => 0
  | some target => target.utf8ByteSize + 1

/-- Directives by how specific they are: by the target, then by the field. -/
def bySpecificity (a b : Directive) : Ordering :=
  (compare a.targetRank b.targetRank).then <|
    (compare a.field.isSome b.field.isSome).then (Text.byteOrder (a.field.getD "") (b.field.getD ""))

end Directive

structure LogFilter where
  directives : List Directive
deriving DecidableEq

namespace LogFilter

/-- The directives of the text, which count alone; without any, the level from the settings for everything. -/
def ofText (text : String) (level : Level) : LogFilter :=
  match ((text.toList.splitOn ',').map String.ofList).filterMap Directive.parse? with
  | [] => ⟨[⟨none, false, none, level⟩]⟩
  | directives => ⟨directives⟩

/-- The directive that decides about a line, if there is one: of the most specific ones that it fits the last. -/
def directiveFor? (filter : LogFilter) (line : LogLine) : Option Directive :=
  (filter.directives.filter (·.fits line)).foldl (fun best next =>
    match best with
    | some b => if (Directive.bySpecificity b next).isLE then some next else some b
    | none => some next) none

def admits (filter : LogFilter) (line : LogLine) : Bool :=
  match filter.directiveFor? line with
  | some directive => directive.level.admits line.level
  | none => false

end LogFilter

end SingleFlight
