import SingleFlight.Key.Component

/-!
# Excerpts

A place in a TOML text as a reader is shown it: the line it stands in, with marks under the place.
-/

namespace SingleFlight.Settings.Toml

/-- A place in a text, with its line and column counted from 0. -/
structure Excerpt where
  line : Nat
  column : Nat
  /-- The whole line. -/
  content : String
  /-- The bytes of the place. -/
  width : Nat
deriving DecidableEq

namespace Excerpt

/-- The place that begins where `fromStart` characters of the text are left, and ends where `fromEnd` are. -/
def ofPlace (text : List Char) (fromStart fromEnd : Nat) : Excerpt :=
  let before := text.take (text.length - fromStart)
  let line := before.count '\n'
  { line
    column := (before.reverse.takeWhile (· != '\n')).length
    content := String.ofList ((text.splitOn '\n')[line]?.getD [])
    width := (String.ofList ((text.drop before.length).take (fromStart - fromEnd))).utf8ByteSize }

/-- Four lines: where the place is, an empty line, the line with its number, and at least one mark. -/
def render (excerpt : Excerpt) : String :=
  let number := Component.natChars (excerpt.line + 1)
  let margin := List.replicate (number.length + 1) ' '
  String.intercalate "\n" (List.map String.ofList [
    "TOML parse error at line ".toList ++ number ++ ", column ".toList ++ Component.natChars (excerpt.column + 1),
    margin ++ ['|'],
    number ++ " | ".toList ++ excerpt.content.toList,
    margin ++ '|' :: List.replicate (excerpt.column + 1) ' ' ++ List.replicate (max 1 excerpt.width) '^'])

end Excerpt

end SingleFlight.Settings.Toml
