/-!
# Stored values

A cache holds the absence of a value as an entry like any other, so what it stores is `Stored`. Storing loses
nothing: `toOption` undoes `ofOption`.
-/

namespace SingleFlight

/-- A loaded value as a cache holds it. -/
inductive Stored (α : Type u) where
  | absent
  | value (v : α)
deriving DecidableEq

namespace Stored

def isAbsent : Stored α → Bool
  | absent => true
  | value _ => false

def ofOption : Option α → Stored α
  | none => absent
  | some v => value v

def toOption : Stored α → Option α
  | absent => none
  | value v => some v

def map (f : α → β) : Stored α → Stored β
  | absent => absent
  | value v => value (f v)

@[simp]
theorem toOption_ofOption (v : Option α) : (ofOption v).toOption = v := by cases v <;> rfl

end Stored

end SingleFlight
