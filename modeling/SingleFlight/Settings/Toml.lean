import SingleFlight.Settings.Fault
import SingleFlight.Settings.Toml.Statement

/-!
# TOML

The table that a TOML text comes to. No key is given a value twice and no table is opened twice:

* a table that only names inside it have opened so far may still get a header of its own, one that dotted keys have
  opened, or have gone into, may not;
* dotted keys go into no table that has a header of its own, and give no value to one of the tables with a doubled
  header.
-/

namespace SingleFlight.Settings.Toml

/-- How a table came to be. -/
inductive Opened where
  /-- By the header of a table inside it, and by nothing else. -/
  | implied
  /-- By a dotted key, or gone into by one. -/
  | dotted
  /-- By its own header. -/
  | headed
deriving DecidableEq

/-- What stands under a name while the text is being read. -/
inductive Item where
  | value (datum : Datum)
  | table (opened : Opened) (fields : List (String × Item))
  /-- Tables with a doubled header, the last one last. -/
  | tables (all : List (List (String × Item)))

abbrev Fields := List (String × Item)

mutual
def Item.datum : Item → Datum
  | .value d => d
  | .table _ fields => .table (fieldData fields)
  | .tables all => .list (tableData all)

def fieldData : List (String × Item) → List (String × Datum)
  | [] => []
  | (name, item) :: rest => (name, item.datum) :: fieldData rest

def tableData : List (List (String × Item)) → List Datum
  | [] => []
  | fields :: rest => .table (fieldData fields) :: tableData rest
end

/-- What two statements disagree about. -/
inductive Clash where
  /-- The name is taken. -/
  | taken (name : Name)
  /-- What stands under the name has no names inside it. -/
  | extended (name : Name) (value : Datum)

def Clash.name : Clash → Name
  | taken name | extended name _ => name

/-- The kind of a value. -/
def kindOf : Datum → String
  | .null => "null"
  | .text _ => "string"
  | .int _ => "integer"
  | .float _ => "float"
  | .flag _ => "boolean"
  | .list _ => "array"
  | .table _ => "inline table"

def Clash.reason : Clash → String
  | taken _ => "duplicate key"
  | extended _ value => "cannot extend value of type " ++ kindOf value ++ " with a dotted key"

/-- Changes the table at the end of a path and opens the tables on the way; the last of several tables with a doubled
header stands for them. The change that a dotted key makes is to `last`. -/
def within (viaDots : Bool) (last : Name) (change : Fields → Except Clash Fields) :
    List Name → Fields → Except Clash Fields
  | [], fields => change fields
  | name :: path, fields =>
    match fields.lookup name.text with
    | none => do
      let inner ← within viaDots last change path []
      return putField fields name.text (.table (if viaDots then .dotted else .implied) inner)
    | some (.table opened inner) =>
      if viaDots && opened = .headed then .error (.taken name)
      else do
        let inner ← within viaDots last change path inner
        return putField fields name.text (.table (if viaDots then .dotted else opened) inner)
    | some (.tables all) =>
      if viaDots && path.isEmpty then .error (.taken last)
      else do
        let inner ← within viaDots last change path (all.getLastD [])
        return putField fields name.text (.tables (all.dropLast ++ [inner]))
    | some (.value datum) => .error (.extended name datum)

/-- Gives a key its value. -/
def assign (key : DottedKey) (datum : Datum) (fields : Fields) : Except Clash Fields :=
  within true key.last (fun fields =>
    if (fields.lookup key.last.text).isSome then .error (.taken key.last)
    else .ok (fields ++ [(key.last.text, .value datum)])) key.path fields

/-- Opens a table by its header. -/
def openTable (name : Name) (fields : Fields) : Except Clash Fields :=
  match fields.lookup name.text with
  | none => .ok (fields ++ [(name.text, .table .headed [])])
  | some (.table .implied inner) => .ok (putField fields name.text (.table .headed inner))
  | _ => .error (.taken name)

/-- Opens one more table of a list by its doubled header. -/
def openListed (name : Name) (fields : Fields) : Except Clash Fields :=
  match fields.lookup name.text with
  | none => .ok (fields ++ [(name.text, .tables [[]])])
  | some (.tables all) => .ok (putField fields name.text (.tables (all ++ [[]])))
  | _ => .error (.taken name)

mutual
/-- What a value comes to. -/
def Written.datum : Written → Except Clash Datum
  | .scalar datum => .ok datum
  | .list items => do return .list (← writtenData items)
  | .table members => do return .table (fieldData (← memberFields [] members))

def writtenData : List Written → Except Clash (List Datum)
  | [] => .ok []
  | item :: rest => do
    let datum ← item.datum
    return datum :: (← writtenData rest)

/-- The fields with those of the members added. -/
def memberFields (fields : Fields) : List (DottedKey × Written) → Except Clash Fields
  | [] => .ok fields
  | (key, value) :: rest => do
    let datum ← value.datum
    memberFields (← assign key datum fields) rest
end

/-- A document while its statements are being followed, with the path of the table that the next ones belong to. -/
structure Document where
  root : Fields
  header : List Name

/-- The document after one more statement. -/
def Document.add (document : Document) : Statement → Except Clash Document
  | .header key => do
    return ⟨← within false key.last (openTable key.last) key.path document.root, key.path ++ [key.last]⟩
  | .listHeader key => do
    return ⟨← within false key.last (openListed key.last) key.path document.root, key.path ++ [key.last]⟩
  | .pair key value => do
    let datum ← value.datum
    return ⟨← within false key.last (assign key datum) document.header document.root, document.header⟩

/-- The table that the statements come to. -/
def tableOf (statements : List Statement) : Except Clash Datum := do
  let document ← statements.foldlM Document.add ⟨[], []⟩
  return .table (fieldData document.root)

def Clash.flaw (text : List Char) (clash : Clash) : Flaw :=
  .clash (.ofPlace text clash.name.fromStart clash.name.fromEnd) clash.reason

/-- The table that the text holds; a byte order mark at its start does not count. -/
def read (s : String) : Except Flaw Datum :=
  let lines := match s.toList with
    | '\ufeff' :: rest => rest
    | all => all
  match statements? (lines.length + 1) lines with
  | none => .error .unreadable
  | some statements => (tableOf statements).mapError (Clash.flaw s.toList)

end SingleFlight.Settings.Toml
