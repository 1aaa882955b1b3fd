import SingleFlight.Error
import SingleFlight.Settings.Toml.Excerpt
import SingleFlight.Text.Quoted

/-!
# Why settings are refused

Either the sources cannot be read into a draft, or a setting in it is out of bounds.
-/

namespace SingleFlight.Settings

/-- What stands where something else was wanted. -/
inductive Misplaced where
  | text (value : String)
  | integer (value : Int)
  | list
  | table
deriving DecidableEq

def Misplaced.describe : Misplaced → String
  | text value => "string " ++ Text.quoted value
  | integer value => "64-bit integer `" ++ String.ofList (Component.intChars value) ++ "`"
  | list => "sequence"
  | table => "map"

/-- The kinds of scalar that settings have. -/
inductive Wanted where
  | flag
  | integer
  /-- An integer that is not negative. -/
  | natural
  | text
deriving DecidableEq

def Wanted.describe : Wanted → String
  | flag => "a boolean"
  | integer => "an integer"
  | natural => "an unsigned 64 bit or less integer"
  | text => "a string"

/-- One step from a value to a part of it. -/
inductive Segment where
  | name (name : String)
  | index (index : Nat)
deriving DecidableEq

/-- A path as it is written: places in brackets, and a point after every name that neither ends the path nor has a
bracket behind it. -/
def pathText : List Segment → String
  | [] => ""
  | .name name :: rest =>
    match (pathText rest).toList with
    | [] => name
    | '[' :: more => name ++ String.ofList ('[' :: more)
    | more => name ++ "." ++ String.ofList more
  | .index i :: rest => "[" ++ String.ofList (Component.natChars i) ++ "]" ++ pathText rest

/-- What is wrong with the text of a file. -/
inductive Flaw where
  /-- It is malformed, or holds something else than a table. -/
  | unreadable
  /-- It says two things that do not go together. -/
  | clash (excerpt : Toml.Excerpt) (reason : String)
deriving DecidableEq

/-- The flaw of the file with that path. -/
def Flaw.message (file : String) : Flaw → String
  | unreadable => "malformed settings in " ++ file
  | clash excerpt reason => excerpt.render ++ "\n" ++ reason ++ "\n in " ++ file

/-- Why the sources cannot be read. -/
inductive BuildFault where
  | malformed (file : String) (flaw : Flaw)
  /-- A file that was asked for is missing, or of no known kind. -/
  | missing (file : String)
  /-- A table was needed. -/
  | notTable (path : List Segment)
  | wrongType (found : Misplaced) (wanted : Wanted) (path : List Segment) (origin : Option String)
deriving DecidableEq

def BuildFault.message : BuildFault → String
  | malformed file flaw => flaw.message file
  | missing file => "configuration file \"" ++ file ++ "\" not found"
  | notTable path => "a table is needed for key `" ++ pathText path ++ "`"
  | wrongType found wanted path origin =>
    "invalid type: " ++ found.describe ++ ", expected " ++ wanted.describe ++ " for key `" ++ pathText path ++ "`" ++
      match origin with
      | some origin => " in " ++ origin
      | none => ""

/-- What is wrong with a setting. -/
inductive Invalidity where
  | level
  | backend (fault : ConfigFault)
  | blankName
  | zeroExpiry
  | longExpiry
  | other (reason : String)
deriving DecidableEq

def Invalidity.message : Invalidity → String
  | level =>
    "failed to parse: error parsing level filter: expected one of \"off\", \"error\", \"warn\", \"info\", " ++
      "\"debug\", \"trace\", or a number 0-5"
  | backend fault => (CacheFault.configuration fault).message
  | blankName => "cache names must not be empty"
  | zeroExpiry => "must be greater than zero"
  | longExpiry =>
    "must not exceed " ++ String.ofList (Component.natChars (longestExpirySeconds * 1000)) ++ " milliseconds"
  | other reason => reason

/-- Why settings cannot be loaded. -/
inductive LoadFault where
  | build (fault : BuildFault)
  | invalid (key : String) (reason : Invalidity)
deriving DecidableEq

def LoadFault.message : LoadFault → String
  | build fault => "failed to build configuration: " ++ fault.message
  | invalid key reason => "invalid configuration for `" ++ key ++ "`: " ++ reason.message

end SingleFlight.Settings

namespace SingleFlight

/-- A fault of the settings keeps its full text. -/
def SetupFault.ofLoadFault (fault : Settings.LoadFault) : SetupFault := .configuration fault.message

end SingleFlight
