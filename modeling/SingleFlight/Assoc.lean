/-!
# Association lists

A finite map as a list of pairs with no key twice. Removal is a filter, so removals commute.

* after an insertion the new value is found under its key, and every other key finds what it found before;
* a removed key finds nothing, and the other keys find what they found before.
-/

namespace SingleFlight

/-- A finite map from `κ` to `α`. -/
structure Assoc (κ : Type u) (α : Type v) where
  pairs : List (κ × α)
  nodup : (pairs.map (·.1)).Nodup

namespace Assoc

variable {κ : Type u} {α : Type v}

theorem ext_pairs {a b : Assoc κ α} (h : a.pairs = b.pairs) : a = b := by
  cases a; cases b; cases h; rfl

def empty : Assoc κ α := ⟨[], .nil⟩

instance : EmptyCollection (Assoc κ α) := ⟨empty⟩

instance : Inhabited (Assoc κ α) := ⟨empty⟩

def keys (m : Assoc κ α) : List κ := m.pairs.map (·.1)

def size (m : Assoc κ α) : Nat := m.pairs.length

variable [DecidableEq κ]

def find? (m : Assoc κ α) (k : κ) : Option α := m.pairs.lookup k

/-- Keeps the pairs that satisfy `p`. -/
def filter (p : κ → α → Bool) (m : Assoc κ α) : Assoc κ α :=
  ⟨m.pairs.filter fun e => p e.1 e.2, m.nodup.sublist (List.filter_sublist.map _)⟩

def erase (m : Assoc κ α) (k : κ) : Assoc κ α := m.filter fun key _ => decide (key ≠ k)

theorem notMem_keys_erase (m : Assoc κ α) (k : κ) : k ∉ (m.erase k).pairs.map (·.1) := by
  simp [erase, filter]

/-- The new pair takes the place of any other pair of its key. -/
def insert (m : Assoc κ α) (k : κ) (v : α) : Assoc κ α :=
  ⟨(k, v) :: (m.erase k).pairs, List.nodup_cons.mpr ⟨notMem_keys_erase m k, (m.erase k).nodup⟩⟩

/-- Applies `f` to the value of one key, if the key is there. -/
def modify (m : Assoc κ α) (k : κ) (f : α → α) : Assoc κ α :=
  ⟨m.pairs.map fun e => (e.1, if e.1 = k then f e.2 else e.2), by
    simpa [Function.comp_def] using m.nodup⟩

/-- Applies `f` to every value. -/
def mapValues {β : Type v} (f : α → β) (m : Assoc κ α) : Assoc κ β :=
  ⟨m.pairs.map fun e => (e.1, f e.2), by simpa [Function.comp_def] using m.nodup⟩

@[simp]
theorem find?_empty (k : κ) : (∅ : Assoc κ α).find? k = none := rfl

theorem lookup_cons_if (a k : κ) (b : α) (l : List (κ × α)) :
    ((a, b) :: l).lookup k = if k = a then some b else l.lookup k := by
  by_cases h : k = a
  · simp [h]
  · simp [List.lookup_cons, beq_eq_false_iff_ne.mpr h, h]

theorem lookup_filter_ne {k k' : κ} (h : k' ≠ k) (l : List (κ × α)) :
    (l.filter fun e => decide (e.1 ≠ k)).lookup k' = l.lookup k' := by
  induction l with
  | nil => rfl
  | cons e l ih =>
    obtain ⟨a, b⟩ := e
    by_cases ha : a = k
    · subst ha
      simpa [lookup_cons_if, h] using ih
    · rw [List.filter_cons_of_pos (by simpa using ha), lookup_cons_if, lookup_cons_if, ih]

theorem lookup_eq_none {k : κ} {l : List (κ × α)} (h : k ∉ l.map (·.1)) : l.lookup k = none := by
  simpa using fun a b hm (e : k = a) => h (e ▸ List.mem_map_of_mem (f := Prod.fst) hm)

theorem mem_keys {m : Assoc κ α} {k : κ} : k ∈ m.keys ↔ (m.find? k).isSome = true := by
  simp [keys, find?]

@[simp]
theorem find?_erase_self (m : Assoc κ α) (k : κ) : (m.erase k).find? k = none :=
  lookup_eq_none (notMem_keys_erase m k)

theorem find?_erase_of_ne (m : Assoc κ α) {k k' : κ} (h : k' ≠ k) : (m.erase k).find? k' = m.find? k' :=
  lookup_filter_ne h m.pairs

theorem find?_erase (m : Assoc κ α) (k k' : κ) :
    (m.erase k).find? k' = if k' = k then none else m.find? k' := by
  by_cases h : k' = k
  · rw [if_pos h, h, find?_erase_self]
  · rw [if_neg h, find?_erase_of_ne m h]

/-- A filter that looks at the keys only keeps all of a key or nothing. -/
theorem find?_filter_key (m : Assoc κ α) (p : κ → Bool) (k : κ) :
    (m.filter fun key _ => p key).find? k = if p k then m.find? k else none := by
  obtain ⟨l, hl⟩ := m
  simp only [find?, filter]
  clear hl
  induction l with
  | nil => simp
  | cons e l ih =>
    obtain ⟨a, b⟩ := e
    by_cases hp : p a = true
    · rw [List.filter_cons_of_pos (by simpa using hp), lookup_cons_if, lookup_cons_if, ih]
      by_cases h : k = a <;> simp_all
    · rw [List.filter_cons_of_neg (by simpa using hp), lookup_cons_if, ih]
      by_cases h : k = a <;> simp_all

@[simp]
theorem find?_insert_self (m : Assoc κ α) (k : κ) (v : α) : (m.insert k v).find? k = some v := by
  simp [find?, insert]

theorem find?_insert_of_ne (m : Assoc κ α) {k k' : κ} (v : α) (h : k' ≠ k) :
    (m.insert k v).find? k' = m.find? k' := by
  rw [← find?_erase_of_ne m h]
  simp [find?, insert, lookup_cons_if, h]

theorem find?_insert (m : Assoc κ α) (k k' : κ) (v : α) :
    (m.insert k v).find? k' = if k' = k then some v else m.find? k' := by
  by_cases h : k' = k
  · rw [if_pos h, h, find?_insert_self]
  · rw [if_neg h, find?_insert_of_ne m v h]

theorem find?_modify (m : Assoc κ α) (k k' : κ) (f : α → α) :
    (m.modify k f).find? k' = if k' = k then (m.find? k').map f else m.find? k' := by
  obtain ⟨l, hl⟩ := m
  simp only [find?, modify]
  clear hl
  induction l with
  | nil => simp
  | cons e l ih =>
    obtain ⟨a, b⟩ := e
    simp only [List.map_cons, lookup_cons_if, ih]
    by_cases h : k' = a <;> by_cases hk : k' = k <;> simp_all

end Assoc

end SingleFlight
