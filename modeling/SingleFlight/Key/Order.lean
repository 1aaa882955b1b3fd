import SingleFlight.Key
import SingleFlight.Text.Order

/-!
# The order of key components

Components of different kinds are ranked null, Boolean, signed, unsigned, text, bytes, sequence. Within a kind
numbers go by size, texts by their bytes, and bytes and sequences lexicographically with a proper prefix first.
-/

namespace SingleFlight.Component

/-- The rank of the component's kind. -/
def rank : Component → Nat
  | null => 0
  | bool _ => 1
  | int _ => 2
  | uint _ => 3
  | str _ => 4
  | bytes _ => 5
  | seq _ => 6

mutual
def order : Component → Component → Ordering
  | bool a, bool b => compare a b
  | int a, int b => compare a b
  | uint a, uint b => compare a b
  | str a, str b => Text.byteOrder a b
  | bytes a, bytes b => compare a b
  | seq a, seq b => orderOfAll a b
  | a, b => compare a.rank b.rank

def orderOfAll : List Component → List Component → Ordering
  | [], [] => .eq
  | [], _ :: _ => .lt
  | _ :: _, [] => .gt
  | a :: as, b :: bs => (order a b).then (orderOfAll as bs)
end

instance : Ord Component := ⟨order⟩

/-- The components in ascending order; equal components are adjacent. -/
def sorted (components : List Component) : List Component :=
  components.mergeSort fun a b => (order a b).isLE

/-- How many different components the list holds. -/
def countDistinct (components : List Component) : Nat := components.eraseDups.length

end SingleFlight.Component

namespace SingleFlight.Tuple

/-- Element by element, a key before its continuations. -/
def order (a b : Tuple) : Ordering := Component.orderOfAll a.elements b.elements

instance : Ord Tuple := ⟨order⟩

end SingleFlight.Tuple
