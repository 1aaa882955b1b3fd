import SingleFlight.Text.Quoted

/-!
# Components of keys

A component is one piece of key material from a call site. Signed and unsigned integers are kept apart, and so are
texts and bytes; an absent value is a component of its own. The printed form shows the number of an integer whatever
its sign kind, and only the length of bytes.
-/

namespace SingleFlight

/-- One piece of key material. -/
inductive Component where
  | null
  | bool (value : Bool)
  | int (value : Int)
  | uint (value : Nat)
  | str (value : String)
  | bytes (data : List UInt8)
  | seq (items : List Component)

namespace Component

def isNull : Component → Bool
  | null => true
  | _ => false

theorem isNull_iff {component : Component} : component.isNull = true ↔ component = null := by
  cases component <;> simp [isNull]

theorem int_ne_null (value : Int) : int value ≠ null := nofun

theorem uint_ne_null (value : Nat) : uint value ≠ null := nofun

theorem str_ne_null (value : String) : str value ≠ null := nofun

instance : Inhabited Component := ⟨null⟩

mutual
/-- Equality, component by component. -/
def decEq : (a b : Component) → Decidable (a = b)
  | null, null => isTrue rfl
  | bool x, bool y | int x, int y | uint x, uint y | str x, str y | bytes x, bytes y =>
    if h : x = y then isTrue (by rw [h]) else isFalse (fun e => h (by injection e))
  | seq x, seq y =>
    match decEqList x y with
    | isTrue h => isTrue (by rw [h])
    | isFalse h => isFalse (fun e => h (by injection e))
  | null, bool _ | null, int _ | null, uint _ | null, str _ | null, bytes _ | null, seq _
  | bool _, null | bool _, int _ | bool _, uint _ | bool _, str _ | bool _, bytes _ | bool _, seq _
  | int _, null | int _, bool _ | int _, uint _ | int _, str _ | int _, bytes _ | int _, seq _
  | uint _, null | uint _, bool _ | uint _, int _ | uint _, str _ | uint _, bytes _ | uint _, seq _
  | str _, null | str _, bool _ | str _, int _ | str _, uint _ | str _, bytes _ | str _, seq _
  | bytes _, null | bytes _, bool _ | bytes _, int _ | bytes _, uint _ | bytes _, str _ | bytes _, seq _
  | seq _, null | seq _, bool _ | seq _, int _ | seq _, uint _ | seq _, str _ | seq _, bytes _ =>
    isFalse (by intro e; injection e)

def decEqList : (a b : List Component) → Decidable (a = b)
  | [], [] => isTrue rfl
  | [], _ :: _ | _ :: _, [] => isFalse (by intro e; injection e)
  | x :: xs, y :: ys =>
    match decEq x y, decEqList xs ys with
    | isTrue h, isTrue h' => isTrue (by rw [h, h'])
    | isFalse h, _ => isFalse (fun e => h (by injection e))
    | _, isFalse h => isFalse (fun e => h (by injection e))
end

instance : DecidableEq Component := decEq

/-- Decimal digits without a sign. -/
def natChars (n : Nat) : List Char := Nat.toDigits 10 n

def intChars : Int → List Char
  | .ofNat n => natChars n
  | .negSucc n => '-' :: natChars (n + 1)

mutual
/-- The printed form: texts quoted, sequences in brackets, bytes by their length. -/
def chars : Component → List Char
  | null => "null".toList
  | bool true => "true".toList
  | bool false => "false".toList
  | int n => intChars n
  | uint n => natChars n
  | str s => Text.quotedChars s.toList
  | bytes data => "bytes[".toList ++ natChars data.length ++ [']']
  | seq items => '[' :: (charsOfAll items ++ [']'])

/-- The printed forms with a comma and a space between. -/
def charsOfAll : List Component → List Char
  | [] => []
  | [component] => chars component
  | component :: rest => chars component ++ [',', ' '] ++ charsOfAll rest
end

def text (component : Component) : String := String.ofList component.chars

end Component

/-- A type whose values serve as key material. -/
class ToComponent (α : Type) where
  toComponent : α → Component

export ToComponent (toComponent)

instance : ToComponent Component := ⟨id⟩
instance : ToComponent Bool := ⟨.bool⟩
instance : ToComponent Int8 := ⟨fun n => .int n.toInt⟩
instance : ToComponent Int16 := ⟨fun n => .int n.toInt⟩
instance : ToComponent Int32 := ⟨fun n => .int n.toInt⟩
instance : ToComponent Int64 := ⟨fun n => .int n.toInt⟩
instance : ToComponent UInt8 := ⟨fun n => .uint n.toNat⟩
instance : ToComponent UInt16 := ⟨fun n => .uint n.toNat⟩
instance : ToComponent UInt32 := ⟨fun n => .uint n.toNat⟩
instance : ToComponent UInt64 := ⟨fun n => .uint n.toNat⟩
instance : ToComponent USize := ⟨fun n => .uint n.toNat⟩
instance : ToComponent String := ⟨.str⟩
instance : ToComponent ByteArray := ⟨fun b => .bytes b.data.toList⟩

/-- An absent value is the null component. -/
instance {α : Type} [ToComponent α] : ToComponent (Option α) :=
  ⟨fun | some a => toComponent a | none => .null⟩

instance {α : Type} [ToComponent α] : ToComponent (List α) := ⟨fun xs => .seq (xs.map toComponent)⟩

end SingleFlight
