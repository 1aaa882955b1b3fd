import SingleFlight.Assoc
import SingleFlight.Text.Order

/-!
# Dictionaries

A dictionary maps names to values and keeps its entries in ascending order of their names, each name once.

* looking a name up after an insertion finds the new value under its name and the old ones elsewhere;
* two dictionaries that find the same under every name are equal.
-/

namespace SingleFlight

open Text (Before)

/-- Values by name, in ascending order of the names. -/
structure Dictionary (α : Type u) where
  entries : List (String × α)
  ascending : entries.Pairwise fun a b => Before a.1 b.1

namespace Dictionary

variable {α : Type u} {β : Type v}

theorem ext_entries {a b : Dictionary α} (h : a.entries = b.entries) : a = b := by
  cases a; cases b; cases h; rfl

instance [DecidableEq α] : DecidableEq (Dictionary α) := fun a b =>
  if h : a.entries = b.entries then isTrue (ext_entries h) else isFalse fun e => h (e ▸ rfl)

def empty : Dictionary α := ⟨[], .nil⟩

instance : EmptyCollection (Dictionary α) := ⟨empty⟩

instance : Inhabited (Dictionary α) := ⟨empty⟩

def keys (d : Dictionary α) : List String := d.entries.map (·.1)

def values (d : Dictionary α) : List α := d.entries.map (·.2)

def size (d : Dictionary α) : Nat := d.entries.length

def find? (d : Dictionary α) (name : String) : Option α := d.entries.lookup name

def contains (d : Dictionary α) (name : String) : Bool := (d.find? name).isSome

/-- Insertion into ascending entries; an entry of the same name is replaced. -/
def insertEntry (name : String) (v : α) : List (String × α) → List (String × α)
  | [] => [(name, v)]
  | (other, w) :: rest =>
    match Text.byteOrder name other with
    | .lt => (name, v) :: (other, w) :: rest
    | .eq => (name, v) :: rest
    | .gt => (other, w) :: insertEntry name v rest

theorem mem_insertEntry {name : String} {v : α} {l : List (String × α)} {e : String × α}
    (h : e ∈ insertEntry name v l) : e = (name, v) ∨ e ∈ l := by
  induction l with
  | nil => simpa [insertEntry] using h
  | cons p rest ih =>
    obtain ⟨other, w⟩ := p
    simp only [insertEntry] at h
    split at h <;> grind

theorem ascending_insertEntry {name : String} {v : α} {l : List (String × α)}
    (h : l.Pairwise fun a b => Before a.1 b.1) :
    (insertEntry name v l).Pairwise fun a b => Before a.1 b.1 := by
  induction l with
  | nil => simp [insertEntry]
  | cons p rest ih =>
    obtain ⟨other, w⟩ := p
    obtain ⟨hp, hrest⟩ := List.pairwise_cons.mp h
    simp only [insertEntry]
    split
    next hlt =>
      refine List.pairwise_cons.mpr ⟨fun e he => ?_, h⟩
      rcases List.mem_cons.mp he with rfl | he
      · exact hlt
      · exact Before.trans hlt (hp e he)
    next heq =>
      obtain rfl := Std.LawfulEqCmp.eq_of_compare heq
      exact List.pairwise_cons.mpr ⟨hp, hrest⟩
    next hgt =>
      refine List.pairwise_cons.mpr ⟨fun e he => ?_, ih hrest⟩
      rcases mem_insertEntry he with rfl | he
      · exact Std.OrientedCmp.gt_iff_lt.mp hgt
      · exact hp e he

def insert (d : Dictionary α) (name : String) (v : α) : Dictionary α :=
  ⟨insertEntry name v d.entries, ascending_insertEntry d.ascending⟩

/-- Applies `f` to every value. -/
def map (f : α → β) (d : Dictionary α) : Dictionary β :=
  ⟨d.entries.map fun e => (e.1, f e.2), List.pairwise_map.mpr d.ascending⟩

/-- Applies `f` to the value of one name, if the name is there. -/
def modify (d : Dictionary α) (name : String) (f : α → α) : Dictionary α :=
  ⟨d.entries.map fun e => (e.1, if e.1 = name then f e.2 else e.2), List.pairwise_map.mpr d.ascending⟩

/-- The pairs in turn, a later pair replacing an earlier one of its name. -/
def ofList (pairs : List (String × α)) : Dictionary α :=
  pairs.foldl (fun d e => d.insert e.1 e.2) empty

@[simp]
theorem find?_empty (name : String) : (∅ : Dictionary α).find? name = none := rfl

theorem lookup_insertEntry (name other : String) (v : α) (l : List (String × α)) :
    (insertEntry name v l).lookup other = if other = name then some v else l.lookup other := by
  induction l with
  | nil => simp [insertEntry, Assoc.lookup_cons_if]
  | cons e l ih =>
    obtain ⟨a, b⟩ := e
    simp only [insertEntry]
    split
    next => simp [Assoc.lookup_cons_if]
    next heq =>
      obtain rfl := Std.LawfulEqCmp.eq_of_compare heq
      by_cases h : other = name <;> simp [Assoc.lookup_cons_if, h]
    next hgt =>
      have hne : a ≠ name := (show Before a name from Std.OrientedCmp.gt_iff_lt.mp hgt).ne
      rw [Assoc.lookup_cons_if, Assoc.lookup_cons_if, ih]
      by_cases h : other = a <;> simp_all

/-- An inserted value is found under its name, and nothing else changes. -/
theorem find?_insert (d : Dictionary α) (name other : String) (v : α) :
    (d.insert name v).find? other = if other = name then some v else d.find? other :=
  lookup_insertEntry name other v d.entries

theorem find?_modify (d : Dictionary α) (name other : String) (f : α → α) :
    (d.modify name f).find? other = if other = name then (d.find? other).map f else d.find? other := by
  obtain ⟨l, hl⟩ := d
  simp only [find?, modify]
  clear hl
  induction l with
  | nil => simp
  | cons e l ih =>
    obtain ⟨a, b⟩ := e
    simp only [List.map_cons, Assoc.lookup_cons_if, ih]
    by_cases h : other = a <;> by_cases hk : other = name <;> simp_all

theorem find?_map (d : Dictionary α) (f : α → β) (name : String) : (d.map f).find? name = (d.find? name).map f := by
  obtain ⟨l, hl⟩ := d
  simp only [find?, map]
  clear hl
  induction l with
  | nil => rfl
  | cons e l ih =>
    obtain ⟨a, b⟩ := e
    simp only [List.map_cons, Assoc.lookup_cons_if, ih]
    by_cases h : name = a <;> simp [h]

/-- A change that commutes with a map of all values. -/
theorem modify_map (d : Dictionary α) {f : α → β} {g : β → β} {h : α → α} (hgf : ∀ v, g (f v) = f (h v))
    (name : String) : (d.map f).modify name g = (d.modify name h).map f := by
  apply ext_entries
  simp only [map, modify, List.map_map]
  apply List.map_congr_left
  intro e _
  by_cases he : e.1 = name <;> simp [he, hgf]

theorem lookup_eq_some_iff {l : List (String × α)} (hl : l.Pairwise fun a b => Before a.1 b.1) {name : String}
    {v : α} : l.lookup name = some v ↔ (name, v) ∈ l := by
  induction l with
  | nil => simp
  | cons e l ih =>
    obtain ⟨a, b⟩ := e
    obtain ⟨ha, hl⟩ := List.pairwise_cons.mp hl
    rw [Assoc.lookup_cons_if]
    by_cases h : name = a
    · subst h
      have : (name, v) ∉ l := fun hm => Before.irrefl name (ha _ hm)
      simp [this, eq_comm]
    · simp [ih hl, h]

theorem eq_of_mem_iff {l l' : List (String × α)} (hl : l.Pairwise fun a b => Before a.1 b.1)
    (hl' : l'.Pairwise fun a b => Before a.1 b.1) (h : ∀ e, e ∈ l ↔ e ∈ l') : l = l' := by
  induction l generalizing l' with
  | nil =>
    cases l' with
    | nil => rfl
    | cons e _ => exact absurd ((h e).2 (by simp)) (by simp)
  | cons e l ih =>
    cases l' with
    | nil => exact absurd ((h e).1 (by simp)) (by simp)
    | cons e' l' =>
      obtain ⟨he, hl⟩ := List.pairwise_cons.mp hl
      obtain ⟨he', ht'⟩ := List.pairwise_cons.mp hl'
      have first : e = e' := by
        rcases List.mem_cons.mp ((h e).1 (by simp)) with heq | hm
        · exact heq
        · rcases List.mem_cons.mp ((h e').2 (by simp)) with heq | hm'
          · exact heq.symm
          · exact absurd (he' e hm) (he e' hm').asymm
      subst first
      refine congrArg _ (ih hl ht' fun x => ⟨fun hx => ?_, fun hx => ?_⟩)
      · rcases List.mem_cons.mp ((h x).1 (List.mem_cons_of_mem e hx)) with rfl | hm
        · exact absurd (he x hx) (Before.irrefl _)
        · exact hm
      · rcases List.mem_cons.mp ((h x).2 (List.mem_cons_of_mem e hx)) with rfl | hm
        · exact absurd (he' x hx) (Before.irrefl _)
        · exact hm

/-- Dictionaries that find the same under every name are equal. -/
theorem ext_find? {a b : Dictionary α} (h : ∀ name, a.find? name = b.find? name) : a = b :=
  ext_entries <| eq_of_mem_iff a.ascending b.ascending fun e => by
    rw [← lookup_eq_some_iff a.ascending, ← lookup_eq_some_iff b.ascending, show a.entries.lookup e.1 = _ from h e.1]
    rfl

end Dictionary

/-- The names in ascending order, each once. -/
def distinctNames (names : List String) : List String :=
  (Dictionary.ofList (names.map fun name => (name, ()))).keys

end SingleFlight
