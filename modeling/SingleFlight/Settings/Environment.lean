import SingleFlight.Decimal.Reading
import SingleFlight.Settings.Tree
import SingleFlight.Text.LowerCase

/-!
# Settings from the environment

A variable counts if its name, in small letters, begins with `cache_aside__`. In the rest two underscores stand for a
point. A value that reads as a truth value or a number is one.
-/

namespace SingleFlight.Settings

/-- What the names of the variables begin with. -/
def variableStart : List Char := "cache_aside__".toList

/-- Two underscores become a point, from left to right. -/
def dotted : List Char → List Char
  | '_' :: '_' :: rest => '.' :: dotted rest
  | c :: rest => c :: dotted rest
  | [] => []

/-- The name of the setting that a variable stands for. -/
def settingName? (name : String) : Option String :=
  let small := (Text.lowered name).toList
  if variableStart.isPrefixOf small then some (String.ofList (dotted (small.drop variableStart.length))) else none

/-- The value of a variable. -/
def variableDatum (value : String) : Datum :=
  let small := Text.lowered value
  if small = "true" then .flag true
  else if small = "false" then .flag false
  else match Decimal.signed? value with
    | some n => .int n
    | none =>
      match Decimal.float? value with
      | some x => .float x
      | none => .text value

/-- The variables as a source; a later variable of one name replaces an earlier one. -/
def environmentSource (env : List (String × String)) : Source where
  origin := "the environment"
  fields := env.foldl (fun fields (name, value) =>
    match settingName? name with
    | some name => putField fields name (variableDatum value)
    | none => fields) []

end SingleFlight.Settings
