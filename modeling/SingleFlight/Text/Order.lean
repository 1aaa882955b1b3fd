/-!
# The order of texts

Texts are compared as their UTF-8 bytes, byte by byte, a text before its continuations. The order is total and
calls two texts equal only if they are.
-/

namespace SingleFlight.Text

def utf8 (s : String) : List UInt8 := s.toByteArray.data.toList

theorem utf8_inj {s t : String} : utf8 s = utf8 t ↔ s = t := by
  constructor
  · intro h
    exact String.toByteArray_inj.mp (ByteArray.ext (Array.toList_inj.mp h))
  · rintro rfl; rfl

/-- Byte by byte, a text before its continuations. -/
def byteOrder (s t : String) : Ordering := compare (utf8 s) (utf8 t)

instance : Std.TransCmp byteOrder where
  eq_swap {s t} := by
    show compare (utf8 s) (utf8 t) = (compare (utf8 t) (utf8 s)).swap
    exact Std.OrientedCmp.eq_swap
  isLE_trans {s t u} h h' := by
    show (compare (utf8 s) (utf8 u)).isLE
    exact Std.TransCmp.isLE_trans h h'

instance : Std.LawfulEqCmp byteOrder where
  compare_self {s} := by
    show compare (utf8 s) (utf8 s) = .eq
    exact Std.ReflCmp.compare_self
  eq_of_compare {_ _} h := utf8_inj.mp (Std.LawfulEqOrd.eq_of_compare h)

/-- The first text comes strictly before the second. -/
def Before (s t : String) : Prop := byteOrder s t = .lt

instance (s t : String) : Decidable (Before s t) := inferInstanceAs (Decidable (_ = _))

theorem Before.irrefl (s : String) : ¬ Before s s := by
  simp [Before, Std.ReflCmp.compare_self]

theorem Before.trans {s t u : String} (h : Before s t) (h' : Before t u) : Before s u :=
  Std.TransCmp.lt_trans h h'

theorem Before.asymm {s t : String} (h : Before s t) : ¬ Before t s :=
  fun h' => Before.irrefl s (h.trans h')

theorem Before.ne {s t : String} (h : Before s t) : s ≠ t := by
  rintro rfl; exact Before.irrefl _ h

end SingleFlight.Text
