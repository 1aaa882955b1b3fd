import SingleFlight.Key.Component

/-!
# Cache keys

* a key is the default key of a cache, one component that is not null, or a tuple of two and more;
* `Key.ofCall` picks the key of a call from its parameters: none give the default key, one that is selected a key of
  its own, more a tuple;
* parameters selected by position must be there and must not be null; a tuple of all parameters may hold nulls.
-/

namespace SingleFlight

/-- Why key material is refused. -/
inductive KeyFault where
  | tooFewElements (count : Nat)
  | nullKey
  | nullElement (position : Nat)
  | positionOutOfRange (position count : Nat)
  | other (reason : String)
deriving DecidableEq

def KeyFault.message : KeyFault → String
  | tooFewElements count => s!"a composite key needs at least two elements, got {count}"
  | nullKey => "null keys are not supported"
  | nullElement position => s!"key element at parameter position {position} is null"
  | positionOutOfRange position count => s!"key position {position} is out of range for {count} parameters"
  | other reason => reason

/-- Two or more components in order. -/
structure Tuple where
  elements : List Component
  two_le_length : 2 ≤ elements.length

namespace Tuple

theorem ext {a b : Tuple} (h : a.elements = b.elements) : a = b := by
  cases a; cases b; cases h; rfl

instance : DecidableEq Tuple := fun a b =>
  if h : a.elements = b.elements then isTrue (ext h) else isFalse fun e => h (e ▸ rfl)

def ofElements (elements : List Component) : Except KeyFault Tuple :=
  if h : 2 ≤ elements.length then .ok ⟨elements, h⟩ else .error (.tooFewElements elements.length)

def length (key : Tuple) : Nat := key.elements.length

def chars (key : Tuple) : List Char := '(' :: (Component.charsOfAll key.elements ++ [')'])

def text (key : Tuple) : String := String.ofList key.chars

end Tuple

/-- What a cache looks its entries up by. It is never null. -/
inductive Key where
  | default (cache : String)
  | single (component : Component) (not_null : component ≠ .null)
  | tuple (key : Tuple)
deriving DecidableEq

namespace Key

/-- The key of a single component. -/
def ofComponent (component : Component) : Except KeyFault Key :=
  if h : component = .null then .error .nullKey else .ok (single component h)

/-- The key of two components and more. -/
def ofElements (elements : List Component) : Except KeyFault Key :=
  tuple <$> Tuple.ofElements elements

def ofText (s : String) : Key := single (.str s) (Component.str_ne_null s)

def ofInt (n : Int) : Key := single (.int n) (Component.int_ne_null n)

def ofNat (n : Nat) : Key := single (.uint n) (Component.uint_ne_null n)

def isDefault : Key → Bool
  | default _ => true
  | _ => false

def single? : Key → Option Component
  | single component _ => some component
  | _ => none

def tuple? : Key → Option Tuple
  | tuple key => some key
  | _ => none

def chars : Key → List Char
  | default cache => "default(".toList ++ cache.toList ++ [')']
  | single component _ => component.chars
  | tuple key => key.chars

def text (key : Key) : String := String.ofList key.chars

/-- The parameter at a position. -/
def pick (parameters : List Component) (position : Nat) : Except KeyFault Component :=
  match parameters[position]? with
  | some component => .ok component
  | none => .error (.positionOutOfRange position parameters.length)

/-- The parameter at a position, which must not be null. -/
def pickPresent (parameters : List Component) (position : Nat) : Except KeyFault Component := do
  let component ← pick parameters position
  if component = .null then .error (.nullElement position) else .ok component

/-- The key of a call on the named cache. `positions` are the parameters designated as key elements, in order; with
none designated all parameters count. -/
def ofCall (cache : String) (positions : List Nat) (parameters : List Component) : Except KeyFault Key :=
  match parameters, positions with
  | [], _ => .ok (default cache)
  | [component], [] => ofComponent component
  | components, [] => ofElements components
  | components, [position] => pick components position >>= ofComponent
  | components, positions => positions.mapM (pickPresent components) >>= ofElements

end Key

end SingleFlight
