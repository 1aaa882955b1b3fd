import SingleFlight.Proofs.Registry
import SingleFlight.Settings.Load

/-!
# Layers of settings

Sources are laid over each other, and what stands at a path afterwards is what the last of them says about it.

* at the end of a path stands a leaf, a table or nothing (`Tree.standsAt`);
* a source says what stands at a path, or does not speak about it. A leaf on the way says that nothing stands there,
  and a table says nothing about the names that it does not have (`Source.setsAt`);
* in the merged tree stands what the highest source says that speaks about the path (`topmost_ofSources`), and every
  table has each of its names once (`tidy_ofSources`).
-/

namespace SingleFlight.Settings

/-! ### Fields -/

theorem lookup_putField (fields : List (String × α)) (name other : String) (value : α) :
    (putField fields name value).lookup other = if other = name then some value else fields.lookup other := by
  induction fields with
  | nil => simp [putField, Assoc.lookup_cons_if]
  | cons field rest ih =>
    obtain ⟨first, old⟩ := field
    by_cases hfirst : first = name
    · subst hfirst
      by_cases hother : other = first <;> simp [putField, Assoc.lookup_cons_if, hother]
    · by_cases hother : other = first
      · simp [putField, hfirst, hother]
      · simp [putField, Assoc.lookup_cons_if, hfirst, hother, ih]

theorem mem_names_putField {fields : List (String × α)} {name other : String} {value : α}
    (h : other ∈ (putField fields name value).map (·.1)) : other = name ∨ other ∈ fields.map (·.1) := by
  induction fields with
  | nil => exact .inl (List.mem_singleton.mp h)
  | cons field rest ih =>
    obtain ⟨first, old⟩ := field
    by_cases hfirst : first = name
    · simp only [putField, hfirst, if_pos, List.map_cons, List.mem_cons] at h ⊢
      exact h.imp_right .inr
    · simp only [putField, hfirst, if_false, List.map_cons, List.mem_cons] at h ⊢
      rcases h with heq | hrest
      · exact .inr (.inl heq)
      · exact (ih hrest).imp_right .inr

theorem nodup_putField {fields : List (String × α)} (h : (fields.map (·.1)).Nodup) (name : String) (value : α) :
    ((putField fields name value).map (·.1)).Nodup := by
  induction fields with
  | nil => simp [putField]
  | cons field rest ih =>
    obtain ⟨first, old⟩ := field
    obtain ⟨hfresh, hrest⟩ := List.nodup_cons.mp h
    by_cases hfirst : first = name
    · subst hfirst
      simpa [putField] using h
    · simp only [putField, hfirst, if_false, List.map_cons, List.nodup_cons]
      refine ⟨fun hmem => ?_, ih hrest⟩
      rcases mem_names_putField hmem with heq | hold
      · exact hfirst heq
      · exact hfresh hold

/-! ### What stands at a path -/

/-- What stands at the end of a path. -/
inductive Standing where
  /-- A scalar or a whole list, with its source. -/
  | leaf (origin : String) (datum : Datum)
  | table
  | nothing

namespace Tree

def standing : Tree → Standing
  | leaf origin datum => .leaf origin datum
  | table _ => .table

/-- The part of the tree at the end of a path. -/
def part? : List String → Tree → Option Tree
  | [], tree => some tree
  | name :: path, tree => (tree.fields.lookup name).bind (part? path)

def standsAt (tree : Tree) (path : List String) : Standing := ((tree.part? path).map standing).getD .nothing

/-- Every table in the tree has each of its names once. -/
def Tidy (tree : Tree) : Prop :=
  ∀ path fields, tree.part? path = some (.table fields) → (fields.map (·.1)).Nodup

theorem standing_ne_nothing (tree : Tree) : tree.standing ≠ .nothing := by
  cases tree <;> exact nofun

theorem standsAt_cons (tree : Tree) (name : String) (path : List String) :
    tree.standsAt (name :: path) = ((tree.fields.lookup name).map (·.standsAt path)).getD .nothing := by
  simp only [standsAt, part?]
  cases tree.fields.lookup name <;> rfl

@[simp]
theorem standsAt_empty_cons (name : String) (path : List String) : empty.standsAt (name :: path) = .nothing := rfl

/-- Behind a name stands what stands under it, unless nothing does, not even a table. -/
theorem standsAt_under {fields : List (String × Tree)} {name : String} {path : List String}
    (h : path ≠ [] ∨ (fields.lookup name).isSome) :
    (under fields name).standsAt path = (table fields).standsAt (name :: path) := by
  rw [standsAt_cons, under]
  cases hfind : (table fields).fields.lookup name with
  | some tree =>
    have hlookup : fields.lookup name = some tree := hfind
    simp [hlookup]
  | none =>
    have hlookup : fields.lookup name = none := hfind
    cases path with
    | nil => simp [hlookup] at h
    | cons next path => simp [hlookup]

theorem standsAt_putField (fields : List (String × Tree)) (name other : String) (tree : Tree) (path : List String) :
    (table (putField fields name tree)).standsAt (other :: path) =
      if other = name then tree.standsAt path else (table fields).standsAt (other :: path) := by
  have hlookup : (putField fields name tree).lookup other = _ := lookup_putField fields name other tree
  simp only [standsAt_cons, Tree.fields, hlookup]
  split
  · rfl
  · rfl

theorem tidy_leaf (origin : String) (datum : Datum) : (leaf origin datum).Tidy := by
  intro path fields h
  cases path with
  | nil => cases h
  | cons name path => cases h

theorem tidy_table {fields : List (String × Tree)} : (table fields).Tidy ↔
    (fields.map (·.1)).Nodup ∧ ∀ name tree, fields.lookup name = some tree → tree.Tidy := by
  constructor
  · intro tidy
    refine ⟨tidy [] fields rfl, fun name tree hfind path inner hpart => tidy (name :: path) inner ?_⟩
    simp only [part?, Tree.fields, hfind, Option.bind_some, hpart]
  · rintro ⟨hnodup, hinner⟩ path inner hpart
    cases path with
    | nil =>
      cases hpart
      exact hnodup
    | cons name path =>
      obtain ⟨tree, hfind, hrest⟩ := Option.bind_eq_some_iff.mp hpart
      exact hinner name tree hfind path inner hrest

theorem tidy_empty : empty.Tidy := tidy_table.mpr ⟨.nil, nofun⟩

theorem Tidy.fields {tree : Tree} (tidy : tree.Tidy) : (table tree.fields).Tidy := by
  cases tree with
  | leaf origin datum => exact tidy_empty
  | table fields => exact tidy

theorem Tidy.under {fields : List (String × Tree)} (tidy : (table fields).Tidy) (name : String) :
    (under fields name).Tidy := by
  rw [Tree.under]
  cases hfind : fields.lookup name with
  | none => exact tidy_empty
  | some tree => exact (tidy_table.mp tidy).2 name tree hfind

theorem Tidy.putField {fields : List (String × Tree)} (tidy : (table fields).Tidy) (name : String) {tree : Tree}
    (h : tree.Tidy) : (table (putField fields name tree)).Tidy := by
  obtain ⟨hnodup, hinner⟩ := tidy_table.mp tidy
  refine tidy_table.mpr ⟨nodup_putField hnodup name tree, fun other part hfind => ?_⟩
  rw [lookup_putField] at hfind
  split at hfind
  · cases hfind
    exact h
  · exact hinner other part hfind

end Tree

/-! ### What a source says -/

/-- What a leaf says about a path from it on. -/
def leafSets (origin : String) (datum : Datum) : List String → Standing
  | [] => .leaf origin datum
  | _ :: _ => .nothing

mutual
/-- What a value of a source says about a path from it on, if it speaks about it. -/
def Datum.setsAt (origin : String) : Datum → List String → Option Standing
  | .table _, [] => some .table
  | .table data, name :: path => fieldsSet origin data name path
  | .null, path => some (leafSets origin .null path)
  | .flag b, path => some (leafSets origin (.flag b) path)
  | .int n, path => some (leafSets origin (.int n) path)
  | .float x, path => some (leafSets origin (.float x) path)
  | .text s, path => some (leafSets origin (.text s) path)
  | .list xs, path => some (leafSets origin (.list xs) path)

/-- The last field that speaks about the path decides. -/
def fieldsSet (origin : String) : List (String × Datum) → String → List String → Option Standing
  | [], _, _ => none
  | (other, datum) :: rest, name, path =>
    (fieldsSet origin rest name path).or (if name = other then datum.setsAt origin path else none)
end

/-- What a value says that is set at the end of a way. There are tables on the way. -/
def setsFrom (origin : String) : (way : List String) → Datum → List String → Option Standing
  | [], datum, path => datum.setsAt origin path
  | _ :: _, _, [] => some .table
  | name :: way, datum, other :: path => if other = name then setsFrom origin way datum path else none

/-- What a source says about a path. The last of its fields that speaks about it decides. -/
def Source.setsAt (source : Source) (path : List String) : Option Standing :=
  source.fields.reverse.findSome? fun field => setsFrom source.origin (pathOf field.1) field.2 path

/-- What the highest of the layers says that speaks about the path. -/
def highest (layers : List Source) (path : List String) : Option Standing := layers.reverse.findSome? (·.setsAt path)

/-- What the highest of the layers says that speaks about the path stands there, or nothing if none of them does. -/
def Topmost (layers : List Source) (path : List String) (stands : Standing) : Prop :=
  (∃ below layer above, layers = below ++ layer :: above ∧ layer.setsAt path = some stands ∧
    ∀ higher ∈ above, higher.setsAt path = none) ∨
  ((∀ layer ∈ layers, layer.setsAt path = none) ∧ stands = .nothing)

theorem isSome_setsAt_nil (origin : String) (datum : Datum) : (datum.setsAt origin []).isSome := by
  cases datum <;> simp [Datum.setsAt]

namespace Tree

/-! ### Laying a source over a tree -/

mutual
theorem standsAt_overlay (origin : String) (tree : Tree) : (datum : Datum) → (path : List String) →
    (tree.overlay origin datum).standsAt path = (datum.setsAt origin path).getD (tree.standsAt path)
  | .table _, [] => rfl
  | .table data, name :: path => standsAt_overlayFields origin tree.fields data name path
  | .null, path | .flag _, path | .int _, path | .float _, path | .text _, path | .list _, path => by
    cases path <;> rfl

theorem standsAt_overlayFields (origin : String) (fields : List (String × Tree)) :
    (data : List (String × Datum)) → (name : String) → (path : List String) →
    (table (overlayFields origin fields data)).standsAt (name :: path) =
      (fieldsSet origin data name path).getD ((table fields).standsAt (name :: path))
  | [], _, _ => rfl
  | (other, datum) :: rest, name, path => by
    have hrest := standsAt_overlayFields origin
      (putField fields other (overlay origin (under fields other) datum)) rest name path
    have hfirst := standsAt_overlay origin (under fields other) datum path
    rw [overlayFields, fieldsSet, hrest, standsAt_putField, hfirst]
    cases fieldsSet origin rest name path with
    | some said => rfl
    | none =>
      by_cases hname : name = other
      · subst hname
        simp only [if_pos, Option.none_or, Option.getD_none]
        cases hsets : datum.setsAt origin path with
        | some said => rfl
        | none =>
          -- every value says what stands where it is set, so the path goes on
          have hpath : path ≠ [] := by
            rintro rfl
            have hsome := isSome_setsAt_nil origin datum
            rw [hsets] at hsome
            cases hsome
          exact standsAt_under (.inl hpath)
      · simp [hname]
end

theorem standsAt_overlayAt (origin : String) (way : List String) (tree : Tree) (datum : Datum) (path : List String) :
    (tree.overlayAt origin way datum).standsAt path = (setsFrom origin way datum path).getD (tree.standsAt path) := by
  induction way generalizing tree path with
  | nil => exact standsAt_overlay origin tree datum path
  | cons name way ih =>
    cases path with
    | nil => rfl
    | cons other path =>
      rw [overlayAt, standsAt_putField, setsFrom, ih]
      by_cases hname : other = name
      · subst hname
        simp only [if_pos]
        cases hsets : setsFrom origin way datum path with
        | some said => rfl
        | none =>
          have hpath : path ≠ [] := by
            rintro rfl
            cases way with
            | nil =>
              have hsome := isSome_setsAt_nil origin datum
              rw [show datum.setsAt origin [] = none from hsets] at hsome
              cases hsome
            | cons next way => cases hsets
          exact standsAt_under (.inl hpath)
      · simp only [if_neg hname, Option.getD_none]
        rfl

theorem standsAt_over (source : Source) (tree : Tree) (path : List String) :
    (source.over tree).standsAt path = (source.setsAt path).getD (tree.standsAt path) := by
  unfold Source.over Source.setsAt
  induction source.fields generalizing tree with
  | nil => rfl
  | cons field rest ih =>
    rw [List.foldl_cons, ih, standsAt_overlayAt, List.reverse_cons, List.findSome?_append, List.findSome?_singleton]
    cases rest.reverse.findSome? fun field => setsFrom source.origin (pathOf field.1) field.2 path <;> rfl

theorem standsAt_ofSources (layers : List Source) (path : List String) :
    (ofSources layers).standsAt path = (highest layers path).getD (empty.standsAt path) := by
  have hfold (tree : Tree) : (layers.foldl (fun tree source => source.over tree) tree).standsAt path =
      (highest layers path).getD (tree.standsAt path) := by
    unfold highest
    induction layers generalizing tree with
    | nil => rfl
    | cons layer rest ih =>
      rw [List.foldl_cons, ih, standsAt_over, List.reverse_cons, List.findSome?_append, List.findSome?_singleton]
      cases rest.reverse.findSome? (·.setsAt path) <;> rfl
  exact hfold empty

mutual
theorem Tidy.overlay {tree : Tree} (tidy : tree.Tidy) (origin : String) :
    (datum : Datum) → (tree.overlay origin datum).Tidy
  | .table data => tidy.fields.overlayFields origin data
  | .null | .flag _ | .int _ | .float _ | .text _ | .list _ => tidy_leaf origin _

theorem Tidy.overlayFields {fields : List (String × Tree)} (tidy : (table fields).Tidy) (origin : String) :
    (data : List (String × Datum)) → (table (overlayFields origin fields data)).Tidy
  | [] => tidy
  | (name, datum) :: rest =>
    (tidy.putField name ((tidy.under name).overlay origin datum)).overlayFields origin rest
end

theorem Tidy.overlayAt {tree : Tree} (tidy : tree.Tidy) (origin : String) (way : List String) (datum : Datum) :
    (tree.overlayAt origin way datum).Tidy := by
  induction way generalizing tree with
  | nil => exact tidy.overlay origin datum
  | cons name way ih => exact tidy.fields.putField name (ih (tidy.fields.under name))

theorem Tidy.over {tree : Tree} (tidy : tree.Tidy) (source : Source) : (source.over tree).Tidy := by
  unfold Source.over
  induction source.fields generalizing tree with
  | nil => exact tidy
  | cons field rest ih => exact ih (tidy.overlayAt source.origin (pathOf field.1) field.2)

/-- Every table of the merged tree has each of its names once. -/
theorem tidy_ofSources (layers : List Source) : (ofSources layers).Tidy := by
  have hfold (tree : Tree) (tidy : tree.Tidy) : (layers.foldl (fun tree source => source.over tree) tree).Tidy := by
    induction layers generalizing tree with
    | nil => exact tidy
    | cons layer rest ih => exact ih _ (tidy.over layer)
  exact hfold empty tidy_empty

end Tree

/-! ### The highest layer that speaks -/

theorem highest_eq_none {layers : List Source} {path : List String} :
    highest layers path = none ↔ ∀ layer ∈ layers, layer.setsAt path = none := by
  simp [highest]

theorem highest_eq_some {layers : List Source} {path : List String} {stands : Standing} :
    highest layers path = some stands ↔ ∃ below layer above, layers = below ++ layer :: above ∧
      layer.setsAt path = some stands ∧ ∀ higher ∈ above, higher.setsAt path = none := by
  rw [highest, List.findSome?_eq_some_iff]
  constructor
  · rintro ⟨above, layer, below, hsplit, hsets, habove⟩
    refine ⟨below.reverse, layer, above.reverse, ?_, hsets, by simpa using habove⟩
    rw [← List.reverse_reverse layers, hsplit]
    simp
  · rintro ⟨below, layer, above, rfl, hsets, habove⟩
    exact ⟨above.reverse, layer, below.reverse, by simp, hsets, by simpa using habove⟩

theorem topmost_iff {layers : List Source} {path : List String} {stands : Standing} :
    Topmost layers path stands ↔ (highest layers path).getD .nothing = stands := by
  rw [Topmost, ← highest_eq_some, ← highest_eq_none]
  cases highest layers path with
  | none => simp [eq_comm]
  | some said => simp

/-- In the merged tree stands what the highest layer says that speaks about the path. -/
theorem topmost_ofSources (layers : List Source) {path : List String} (h : path ≠ []) :
    Topmost layers path ((Tree.ofSources layers).standsAt path) := by
  obtain ⟨name, path, rfl⟩ := List.exists_cons_of_ne_nil h
  rw [topmost_iff, Tree.standsAt_ofSources, Tree.standsAt_empty_cons]

end SingleFlight.Settings
