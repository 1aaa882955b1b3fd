/-!
# Values

A cache holds values of any type. A caller asks for one type and gets a value only if the value has it.
-/

namespace SingleFlight

inductive Value where
  | text (value : String)
  | number (value : UInt32)
  | flag (value : Bool)
deriving DecidableEq

inductive ValueType where
  | text
  | number
  | flag
deriving DecidableEq

/-- The name under which a mismatch is reported. -/
def ValueType.name : ValueType → String
  | text => "alloc::string::String"
  | number => "u32"
  | flag => "bool"

def Value.type : Value → ValueType
  | text _ => .text
  | number _ => .number
  | flag _ => .flag

/-- The values of one type. -/
def Typed (τ : ValueType) : Type := { v : Value // v.type = τ }

instance (τ : ValueType) : DecidableEq (Typed τ) := inferInstanceAs (DecidableEq { v : Value // v.type = τ })

/-- The value at type `τ`, if it has that type. -/
def Value.as? (τ : ValueType) (v : Value) : Option (Typed τ) :=
  if h : v.type = τ then some ⟨v, h⟩ else none

end SingleFlight
