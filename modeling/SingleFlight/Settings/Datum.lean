/-!
# Documents

What a settings file says, whatever its notation: tables by name, lists, and scalars.
-/

namespace SingleFlight.Settings

/-- A document or a part of one. -/
inductive Datum where
  | null
  | flag (value : Bool)
  | int (value : Int)
  | float (value : Float)
  | text (value : String)
  | list (items : List Datum)
  | table (fields : List (String × Datum))

instance : Inhabited Datum := ⟨.null⟩

/-- A field of a table; a later field of one name replaces an earlier one. -/
def putField (fields : List (String × α)) (name : String) (value : α) : List (String × α) :=
  match fields with
  | [] => [(name, value)]
  | (other, old) :: rest =>
    if other = name then (name, value) :: rest else (other, old) :: putField rest name value

end SingleFlight.Settings
