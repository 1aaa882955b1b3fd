import SingleFlight.Decimal.Reading
import SingleFlight.Decimal.Shortest
import SingleFlight.Dictionary
import SingleFlight.Settings.Fault
import SingleFlight.Settings.Tree
import SingleFlight.Text.LowerCase

/-!
# Drafts

The settings as the sources give them, before their bounds are checked. Scalars of one kind serve for another where
they can: numbers and some words as truth values, truth values and texts as numbers, scalars as texts. A list may
stand for a table; it gives the table's fields in their order.
-/

namespace SingleFlight.Settings

structure LoggingDraft where
  level : Option String
  json : Option Bool
deriving DecidableEq

structure TuningDraft where
  initialCapacity : Option Nat
  maximumSize : Option Nat
  expireAfterWriteMs : Option Nat
  expireAfterAccessMs : Option Nat
  metricsEnabled : Option Bool
deriving DecidableEq

structure CacheDraft where
  enabled : Option Bool
  backend : Option String
  defaults : TuningDraft
  caches : Dictionary TuningDraft
deriving DecidableEq

structure Draft where
  logging : LoggingDraft
  cache : CacheDraft
deriving DecidableEq

def LoggingDraft.unset : LoggingDraft := ⟨none, none⟩

def TuningDraft.unset : TuningDraft := ⟨none, none, none, none, none⟩

def CacheDraft.unset : CacheDraft := ⟨none, none, .unset, ∅⟩

def Draft.unset : Draft := ⟨.unset, .unset⟩

/-- A place in the tree: what stands there, and the way to it. -/
structure Place where
  path : List Segment
  tree : Tree

namespace Place

/-- The parts of a place, if it holds a table or a list. -/
inductive Parts where
  | table (fields : List (String × Place))
  | list (items : List Place)
  | none

def parts (place : Place) : Parts :=
  match place.tree with
  | .table fields => .table (fields.map fun (name, tree) => (name, ⟨place.path ++ [.name name], tree⟩))
  | .leaf origin (.table fields) =>
    .table (fields.map fun (name, datum) => (name, ⟨place.path ++ [.name name], .leaf origin datum⟩))
  | .leaf origin (.list items) =>
    .list (items.zipIdx.map fun (datum, i) => ⟨place.path ++ [.index i], .leaf origin datum⟩)
  | .leaf _ _ => .none

/-- The fields of those names. A list gives them in their order. -/
def structure? (place : Place) (names : List String) : Except BuildFault (List (Option Place)) :=
  match place.parts with
  | .table fields => .ok (names.map fun name => fields.lookup name)
  | .list items => .ok ((List.range names.length).map fun i => items[i]?)
  | .none => .error (.notTable place.path)

/-- All fields by name. -/
def dictionary? (place : Place) : Except BuildFault (List (String × Place)) :=
  match place.parts with
  | .table fields => .ok fields
  | _ => .error (.notTable place.path)

end Place

def flagOfText? (s : String) : Option Bool :=
  if s = "1" || s = "true" || s = "on" || s = "yes" then some true
  else if s = "0" || s = "false" || s = "off" || s = "no" then some false
  else none

/-- The number nearest to `x`, halves away from zero; what is out of reach of 64 bits goes to the nearest end. -/
def naturalOfFloat (x : Float) : Nat := x.round.toUInt64.toNat

/-- The scalar as a truth value: a number is true unless it is zero. -/
def asFlag (origin : String) (path : List Segment) : Datum → Except BuildFault (Option Bool)
  | .null => .ok none
  | .flag b => .ok (some b)
  | .int n => .ok (some (n != 0))
  | .float x => .ok (some (x != 0))
  | .text s =>
    let small := Text.lowered s
    match flagOfText? small with
    | some b => .ok (some b)
    | none => .error (.wrongType (.text small) .flag path (some origin))
  | .list _ => .error (.wrongType .list .flag path (some origin))
  | .table _ => .error (.wrongType .table .flag path (some origin))

/-- The scalar as a number of 64 bits without a sign. -/
def asNatural (origin : String) (path : List Segment) : Datum → Except BuildFault (Option Nat)
  | .null => .ok none
  | .flag b => .ok (some (if b then 1 else 0))
  | .int n => if n < 0 then .error (.wrongType (.integer n) .natural path (some origin)) else .ok (some n.toNat)
  | .float x => .ok (some (naturalOfFloat x))
  | .text s =>
    let small := Text.lowered s
    if small = "true" || small = "on" || small = "yes" then .ok (some 1)
    else if small = "false" || small = "off" || small = "no" then .ok (some 0)
    else match Decimal.unsigned? 64 s with
      | some n => .ok (some n)
      | none => .error (.wrongType (.text s) .integer path (some origin))
  | .list _ => .error (.wrongType .list .integer path (some origin))
  | .table _ => .error (.wrongType .table .integer path (some origin))

/-- The scalar as a text. -/
def asText (origin : String) (path : List Segment) : Datum → Except BuildFault (Option String)
  | .null => .ok none
  | .flag true => .ok (some "true")
  | .flag false => .ok (some "false")
  | .int n => .ok (some (String.ofList (Component.intChars n)))
  | .float x => .ok (some (Decimal.shortest x))
  | .text s => .ok (some s)
  | .list _ => .error (.wrongType .list .text path (some origin))
  | .table _ => .error (.wrongType .table .text path (some origin))

/-- A scalar that may be missing. `wanted` is what a merged table is refused for. -/
def scalar? (wanted : Wanted) (read : String → List Segment → Datum → Except BuildFault (Option α)) :
    Option Place → Except BuildFault (Option α)
  | none => .ok none
  | some ⟨path, .leaf origin datum⟩ => read origin path datum
  | some ⟨path, .table _⟩ => .error (.wrongType .table wanted path none)

def flag? (place : Option Place) : Except BuildFault (Option Bool) := scalar? .flag asFlag place

def natural? (place : Option Place) : Except BuildFault (Option Nat) := scalar? .integer asNatural place

def text? (place : Option Place) : Except BuildFault (Option String) := scalar? .text asText place

/-- A table that may be missing. -/
def tableOr (missing : α) (read : Place → Except BuildFault α) : Option Place → Except BuildFault α
  | none => .ok missing
  | some place => read place

def LoggingDraft.ofPlace (place : Place) : Except BuildFault LoggingDraft := do
  match ← place.structure? ["level", "json"] with
  | [level, json] => return ⟨← text? level, ← flag? json⟩
  | _ => return .unset

def TuningDraft.ofPlace (place : Place) : Except BuildFault TuningDraft := do
  let names :=
    ["initial_capacity", "maximum_size", "expire_after_write_ms", "expire_after_access_ms", "metrics_enabled"]
  match ← place.structure? names with
  | [capacity, size, write, access, metrics] =>
    return ⟨← natural? capacity, ← natural? size, ← natural? write, ← natural? access, ← flag? metrics⟩
  | _ => return .unset

def CacheDraft.ofPlace (place : Place) : Except BuildFault CacheDraft := do
  let tunings (place : Place) : Except BuildFault (Dictionary TuningDraft) := do
    let fields ← place.dictionary?
    return .ofList (← fields.mapM fun (name, place) => return (name, ← TuningDraft.ofPlace place))
  match ← place.structure? ["enabled", "backend", "defaults", "caches"] with
  | [enabled, backend, defaults, caches] =>
    return ⟨← flag? enabled, ← text? backend, ← tableOr .unset TuningDraft.ofPlace defaults, ← tableOr ∅ tunings caches⟩
  | _ => return .unset

/-- The draft that the tree holds. Names that no setting has do not count. -/
def Draft.ofTree (tree : Tree) : Except BuildFault Draft := do
  match ← Place.structure? ⟨[], tree⟩ ["logging", "cache"] with
  | [logging, cache] =>
    return ⟨← tableOr .unset LoggingDraft.ofPlace logging, ← tableOr .unset CacheDraft.ofPlace cache⟩
  | _ => return .unset

end SingleFlight.Settings
