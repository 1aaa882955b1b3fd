import SingleFlight.Settings.Json
import SingleFlight.Settings.Toml

/-!
# Files by their paths

The files that a program sees from its working folder. A path leads from there, or from the root if it begins with a
slash. It is followed part by part, so every part but the last must lead to a folder that is there, also where a later
part leads back out of it. The extension of a path tells the notation of the file.
-/

namespace SingleFlight.Settings

/-- The names on the way down from the root, the last one first. -/
abbrev Way := List String

/-- The parts of a path, with those that are empty. -/
def rawParts (path : String) : List String := (path.toList.splitOn '/').map String.ofList

/-- A part that stays where it is. -/
def staysPut (part : String) : Bool := part = "" || part = "."

/-- The parts of a path that lead somewhere. -/
def pathParts (path : String) : List String := (rawParts path).filter fun part => !staysPut part

/-- The path begins at the root. -/
def isAbsolute (path : String) : Bool := path.toList.head? = some '/'

/-- The way on along one part; two points lead back, and at the root they lead nowhere. -/
def Way.along (way : Way) (part : String) : Way :=
  if part = ".." then way.drop 1 else if staysPut part then way else part :: way

/-- The parts that lead from the one folder to the other, both told by their parts from the root. -/
def partsFrom : (base target : List String) → List String
  | [], target => target
  | base, [] => base.map fun _ => ".."
  | b :: base, t :: target =>
    if b = t then partsFrom base target else (b :: base).map (fun _ => "..") ++ t :: target

/-- A notation for settings: the extensions of files that are written in it, and how it is read. -/
structure Notation where
  extensions : List String
  read : String → Except Flaw Datum

def Notation.toml : Notation := ⟨["toml"], Toml.read⟩

def Notation.json : Notation := ⟨["json"], fun s => (Json.document? s).elim (.error .unreadable) .ok⟩

/-- The working folder, the folders that are there, the texts of the files, and the notations that they may be written
in. -/
structure Files where
  home : Way
  folders : List Way
  texts : List (Way × String)
  notations : List Notation

namespace Files

/-- Where a path begins. -/
def startOf (home : Way) (path : String) : Way := if isAbsolute path then [] else home

/-- The ways that the parts of a path lead along, from the last one back to where it begins. -/
def waysOf (home : Way) (path : String) : List Way :=
  (rawParts path).foldl (fun ways part => (ways.headD []).along part :: ways) [startOf home path]

/-- A working folder right below the root, with a name that is no part of any path. -/
def somewhere : Way := ["/"]

/-- The files with those paths and texts, and the folders on the way to them, seen from a working folder somewhere. Of
two files with one way the later one counts. -/
def ofList (files : List (String × String)) : Files where
  home := somewhere
  folders := [] :: somewhere :: files.flatMap fun (path, _) => (waysOf somewhere path).tail
  texts := files.reverse.map fun (path, text) => ((waysOf somewhere path).headD [], text)
  notations := [.toml, .json]

/-- Where the parts lead from a folder on. -/
def follow? (files : Files) (way : Way) : List String → Option Way
  | [] => some way
  | part :: rest => if way ∈ files.folders then files.follow? (way.along part) rest else none

/-- The text of the file with that path. -/
def text? (files : Files) (path : String) : Option String :=
  (files.follow? (startOf files.home path) (rawParts path)).bind fun way => files.texts.lookup way

/-- The path as it is shown, from the working folder on. -/
def shownPath (files : Files) (path : String) : String :=
  String.intercalate "/" <|
    if isAbsolute path then partsFrom files.home.reverse (pathParts path) else pathParts path

end Files

/-- The part of the last name in a path after its last point. A name that only begins with a point has none, and
neither has a step back. -/
def extension? (path : String) : Option String :=
  let name := ((pathParts path).getLast?.getD "").toList
  let after := (name.reverse.takeWhile (· != '.')).reverse
  if after.length + 1 < name.length && name != "..".toList then some (String.ofList after) else none

/-- The name that stands in for an empty last part when an extension is added to it. -/
def placeholder : String := ".placeholder"

/-- The path with an extension added. A last name without an extension gets it, and what follows the name goes; behind
a name that has one already, the last part gets it, also where it is empty or stays where it is. A path that ends with
a step back has no last name. -/
def withExtension? (path extension : String) : Option String :=
  match (rawParts path).reverse, (rawParts path).reverse.dropWhile staysPut with
  | last :: front, name :: before =>
    if name = ".." then none
    else
      let added (before : List String) (part : String) :=
        String.intercalate "/" (before.reverse ++ [part ++ "." ++ extension])
      if (extension? path).isNone then some (added before name)
      else some (added front (if last = "" then placeholder else last))
  | _, _ => none

end SingleFlight.Settings
