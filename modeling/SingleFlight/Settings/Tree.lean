import SingleFlight.Settings.Datum

/-!
# Layered trees

Sources are laid over each other: tables are merged name by name, and anything else replaces what was there. Every
leaf knows the source that it came from.

* a list is a leaf, so a later list replaces an earlier one whole;
* a table laid over a leaf replaces it, even an empty one.
-/

namespace SingleFlight.Settings

/-- What the sources so far have set. -/
inductive Tree where
  /-- A scalar or a whole list, with its source. Inside a list, tables are leaves too. -/
  | leaf (origin : String) (datum : Datum)
  | table (fields : List (String × Tree))

namespace Tree

def empty : Tree := .table []

instance : Inhabited Tree := ⟨empty⟩

/-- The fields of a table; a leaf has none. -/
def fields : Tree → List (String × Tree)
  | leaf _ _ => []
  | table fields => fields

/-- What is set under a name, or an empty table. -/
def under (fields : List (String × Tree)) (name : String) : Tree := (fields.lookup name).getD empty

mutual
/-- Lays one value of a source over the tree. -/
def overlay (origin : String) (tree : Tree) : Datum → Tree
  | .table data => table (overlayFields origin tree.fields data)
  | .null => leaf origin .null
  | .flag b => leaf origin (.flag b)
  | .int n => leaf origin (.int n)
  | .float x => leaf origin (.float x)
  | .text s => leaf origin (.text s)
  | .list xs => leaf origin (.list xs)

def overlayFields (origin : String) (fields : List (String × Tree)) :
    List (String × Datum) → List (String × Tree)
  | [] => fields
  | (name, datum) :: rest =>
    overlayFields origin (putField fields name (overlay origin (under fields name) datum)) rest
end

/-- Lays a value over what stands at the end of a path. -/
def overlayAt (origin : String) : (path : List String) → Tree → Datum → Tree
  | [], tree, datum => tree.overlay origin datum
  | name :: path, tree, datum =>
    table (putField tree.fields name (overlayAt origin path (under tree.fields name) datum))

end Tree

def isPathChar (c : Char) : Bool := c.isAlphanum || c = '_' || c = '-'

/-- The path that a name at the top of a source stands for: names with points between them. A name of any other
form stands for itself. -/
def pathOf (name : String) : List String :=
  let parts := (name.toList.splitOn '.')
  if parts.all fun part => !part.isEmpty && part.all isPathChar then parts.map String.ofList else [name]

/-- One source: where its values come from, and its fields. -/
structure Source where
  origin : String
  fields : List (String × Datum)

/-- Lays a source over the tree. -/
def Source.over (source : Source) (tree : Tree) : Tree :=
  source.fields.foldl (fun tree (name, datum) => tree.overlayAt source.origin (pathOf name) datum) tree

/-- Lays the sources over each other, the first at the bottom. -/
def Tree.ofSources (sources : List Source) : Tree := sources.foldl (fun tree source => source.over tree) .empty

end SingleFlight.Settings
