import SingleFlight.Proofs.Layers

/-!
# Overridden leaves

A leaf that a higher layer sets, too, is gone from the merged tree.

* a tree without the leaf at the end of a path (`Tree.without`): laying a source over it needs no more of the tree than
  that to give the rest (`Tree.without_over`);
* a tree is put together again from the rest and the leaf (`Tree.put_without`), so a source that sets the leaf leaves no
  trace of what stood there (`over_eq_of_without`);
* layers that differ in one leaf give the same tree if a higher layer sets that leaf to one (`ofSources_differs`).
-/

namespace SingleFlight.Settings

/-! ### Values that differ in one leaf -/

/-- Everything but a table. -/
def Datum.IsLeaf (datum : Datum) : Prop := ∀ data, datum ≠ .table data

/-- Values that differ in the leaf at the end of a path, and in nothing else. -/
inductive Datum.Differs : List String → Datum → Datum → Prop where
  | leaf {datum datum' : Datum} (h : datum.IsLeaf) (h' : datum'.IsLeaf) : Differs [] datum datum'
  | field {path : List String} {datum datum' : Datum} (before after : List (String × Datum)) (name : String)
      (h : Differs path datum datum') :
      Differs (name :: path) (.table (before ++ (name, datum) :: after)) (.table (before ++ (name, datum') :: after))

/-- Sources that differ in the leaf at the end of a path, and in nothing else. -/
inductive Source.Differs : List String → Source → Source → Prop where
  | field {path : List String} {datum datum' : Datum} (origin : String) (before after : List (String × Datum))
      (name : String) (h : datum.Differs path datum') :
      Differs (pathOf name ++ path) ⟨origin, before ++ (name, datum) :: after⟩
        ⟨origin, before ++ (name, datum') :: after⟩

namespace Tree

theorem overlay_leaf {datum : Datum} (h : datum.IsLeaf) (origin : String) (tree : Tree) :
    tree.overlay origin datum = leaf origin datum := by
  cases datum with
  | table data => exact absurd rfl (h data)
  | _ => rfl

theorem overlayFields_append (origin : String) (fields : List (String × Tree)) (data more : List (String × Datum)) :
    overlayFields origin fields (data ++ more) = overlayFields origin (overlayFields origin fields data) more := by
  induction data generalizing fields with
  | nil => rfl
  | cons field rest ih => exact ih _

/-! ### Trees without a leaf -/

/-- The tree without what the leaf at the end of the path says. -/
def without : List String → Tree → Tree
  | [], leaf _ _ => leaf "" .null
  | [], table fields => table fields
  | _ :: _, leaf origin datum => leaf origin datum
  | name :: path, table fields =>
    table (fields.map fun field => (field.1, if field.1 = name then field.2.without path else field.2))

theorem without_table (name : String) (path : List String) (fields : List (String × Tree)) :
    (table fields).without (name :: path) =
      table (fields.map fun field => (field.1, if field.1 = name then field.2.without path else field.2)) := rfl

@[simp]
theorem without_without (path : List String) (tree : Tree) : (tree.without path).without path = tree.without path := by
  induction path generalizing tree with
  | nil => cases tree <;> rfl
  | cons name path ih =>
    cases tree with
    | leaf origin datum => rfl
    | table fields =>
      simp only [without_table, List.map_map, table.injEq]
      refine List.map_congr_left fun field _ => ?_
      by_cases hname : field.1 = name <;> simp [hname, ih]

theorem without_empty (path : List String) : empty.without path = empty := by cases path <;> rfl

theorem putField_map (f : String → α → α) (fields : List (String × α)) (name : String) (value : α) :
    (putField fields name value).map (fun field => (field.1, f field.1 field.2)) =
      putField (fields.map fun field => (field.1, f field.1 field.2)) name (f name value) := by
  induction fields with
  | nil => rfl
  | cons field rest ih =>
    obtain ⟨first, old⟩ := field
    by_cases hfirst : first = name
    · subst hfirst
      simp [putField]
    · simp [putField, hfirst, ih]

theorem lookup_map_fields (f : String → α → α) (fields : List (String × α)) (name : String) :
    (fields.map fun field => (field.1, f field.1 field.2)).lookup name = (fields.lookup name).map (f name) := by
  induction fields with
  | nil => rfl
  | cons field rest ih =>
    obtain ⟨first, value⟩ := field
    rw [List.map_cons, Assoc.lookup_cons_if, Assoc.lookup_cons_if, ih]
    split
    · next heq => simp [heq]
    · rfl

theorem without_putField (fields : List (String × Tree)) (name other : String) (path : List String) (tree : Tree) :
    (table (putField fields other tree)).without (name :: path) =
      table (putField ((table fields).without (name :: path)).fields other
        (if other = name then tree.without path else tree)) :=
  congrArg table (putField_map (fun first tree => if first = name then tree.without path else tree) fields other tree)

/-- Taking away a leaf, and going to the name that it is under. -/
theorem under_without (fields : List (String × Tree)) (name other : String) (path : List String) :
    under ((table fields).without (name :: path)).fields other =
      if other = name then (under fields other).without path else under fields other := by
  have hlookup := lookup_map_fields (fun first tree => if first = name then without path tree else tree) fields other
  simp only [under, without_table, Tree.fields, hlookup]
  cases fields.lookup other with
  | none =>
    show empty = if other = name then empty.without path else empty
    rw [without_empty, ite_self]
  | some tree => rfl

/-- A name laid over a tree: without the leaf, the outcome needs no more of the tree than that. -/
theorem without_put_under (f : Tree → Tree) (fields : List (String × Tree)) (name other : String) (path : List String)
    (h : ∀ tree, (f tree).without path = (f (tree.without path)).without path) :
    (table (putField fields other (f (under fields other)))).without (name :: path) =
      (table (putField ((table fields).without (name :: path)).fields other
        (f (under ((table fields).without (name :: path)).fields other)))).without (name :: path) := by
  rw [without_putField, without_putField, under_without]
  have hagain : ((table ((table fields).without (name :: path)).fields).without (name :: path)).fields =
      ((table fields).without (name :: path)).fields := congrArg Tree.fields (without_without _ (table fields))
  rw [hagain]
  split
  · rw [h]
  · rfl

mutual
theorem without_overlay (origin : String) (path : List String) (tree : Tree) : (datum : Datum) →
    (tree.overlay origin datum).without path = ((tree.without path).overlay origin datum).without path
  | .null | .flag _ | .int _ | .float _ | .text _ | .list _ => rfl
  | .table data => by
    cases path with
    | nil => cases tree <;> rfl
    | cons name path =>
      cases tree with
      | leaf other datum => rfl
      | table fields => exact without_overlayFields origin name path fields data

theorem without_overlayFields (origin : String) (name : String) (path : List String) (fields : List (String × Tree)) :
    (data : List (String × Datum)) → (table (overlayFields origin fields data)).without (name :: path) =
      (table (overlayFields origin ((table fields).without (name :: path)).fields data)).without (name :: path)
  | [] => (without_without (name :: path) (table fields)).symm
  | (other, datum) :: rest => by
    have hput := without_put_under (·.overlay origin datum) fields name other path fun tree =>
      without_overlay origin path tree datum
    have hrest := without_overlayFields origin name path
      (putField fields other ((under fields other).overlay origin datum)) rest
    have hrest' := without_overlayFields origin name path (putField ((table fields).without (name :: path)).fields other
      ((under ((table fields).without (name :: path)).fields other).overlay origin datum)) rest
    rw [overlayFields, overlayFields, hrest, hrest', hput]
end

theorem fields_without_nil (tree : Tree) : (tree.without []).fields = tree.fields := by cases tree <;> rfl

theorem without_overlayAt (origin : String) (path : List String) (way : List String) (tree : Tree) (datum : Datum) :
    (tree.overlayAt origin way datum).without path = ((tree.without path).overlayAt origin way datum).without path := by
  induction way generalizing tree path with
  | nil => exact without_overlay origin path tree datum
  | cons other way ih =>
    cases path with
    | nil => rw [overlayAt, overlayAt, fields_without_nil]
    | cons name path =>
      cases tree with
      | leaf origin' datum' => rfl
      | table fields =>
        exact without_put_under (·.overlayAt origin way datum) fields name other path fun tree => ih path tree

theorem without_foldl (origin : String) (path : List String) (fields : List (String × Datum)) (tree : Tree) :
    (fields.foldl (fun tree field => tree.overlayAt origin (pathOf field.1) field.2) tree).without path =
      (fields.foldl (fun tree field => tree.overlayAt origin (pathOf field.1) field.2) (tree.without path)).without
        path := by
  induction fields generalizing tree with
  | nil => simp
  | cons field rest ih =>
    rw [List.foldl_cons, List.foldl_cons, ih, without_overlayAt, ← ih]

/-- What a source makes of the rest of a tree does not depend on the leaf. -/
theorem without_over (path : List String) (source : Source) (tree : Tree) :
    (source.over tree).without path = (source.over (tree.without path)).without path :=
  without_foldl source.origin path source.fields tree

theorem without_over_congr {path : List String} {tree other : Tree} (h : tree.without path = other.without path)
    (source : Source) : (source.over tree).without path = (source.over other).without path := by
  rw [without_over, h, ← without_over]

/-! ### Values that differ in the leaf -/

theorem without_overlay_differs {path : List String} {datum datum' : Datum} (h : datum.Differs path datum')
    (origin : String) (tree : Tree) :
    (tree.overlay origin datum).without path = (tree.overlay origin datum').without path := by
  induction h generalizing tree with
  | leaf h h' =>
    rw [overlay_leaf h, overlay_leaf h']
    rfl
  | @field path datum datum' before after name h ih =>
    have hput (fields : List (String × Tree)) :
        (table (putField fields name ((under fields name).overlay origin datum))).without (name :: path) =
          (table (putField fields name ((under fields name).overlay origin datum'))).without (name :: path) := by
      rw [without_putField, without_putField, if_pos rfl, if_pos rfl, ih]
    simp only [overlay, overlayFields_append, overlayFields]
    rw [without_overlayFields, hput, ← without_overlayFields]

theorem without_overlayAt_differs {path : List String} {datum datum' : Datum} (h : datum.Differs path datum')
    (origin : String) (way : List String) (tree : Tree) :
    (tree.overlayAt origin way datum).without (way ++ path) =
      (tree.overlayAt origin way datum').without (way ++ path) := by
  induction way generalizing tree with
  | nil => exact without_overlay_differs h origin tree
  | cons name way ih =>
    rw [List.cons_append, overlayAt, overlayAt, without_putField, without_putField, if_pos rfl, if_pos rfl, ih]

/-- Sources that differ in one leaf make the same of a tree but for that leaf. -/
theorem without_over_differs {path : List String} {source source' : Source} (h : source.Differs path source')
    (tree : Tree) : (source.over tree).without path = (source'.over tree).without path := by
  cases h with
  | @field path datum datum' origin before after name h =>
    simp only [Source.over, List.foldl_append, List.foldl_cons]
    rw [without_foldl, without_overlayAt_differs h, ← without_foldl]

/-! ### The leaf put back -/

/-- Puts a tree in the place of what stands at the end of a path. -/
def put : (tree : Tree) → (path : List String) → (new : Tree) → Tree
  | _, [], new => new
  | tree, name :: path, new => table (putField tree.fields name ((under tree.fields name).put path new))

theorem putField_self {fields : List (String × α)} {name : String} {value : α} (h : fields.lookup name = some value) :
    putField fields name value = fields := by
  induction fields with
  | nil => cases h
  | cons field rest ih =>
    obtain ⟨first, old⟩ := field
    rw [Assoc.lookup_cons_if] at h
    by_cases hfirst : first = name
    · subst hfirst
      rw [if_pos rfl] at h
      cases h
      simp [putField]
    · rw [if_neg (Ne.symm hfirst)] at h
      simp [putField, hfirst, ih h]

theorem putField_putField (fields : List (String × α)) (name : String) (value value' : α) :
    putField (putField fields name value) name value' = putField fields name value' := by
  induction fields with
  | nil => simp [putField]
  | cons field rest ih =>
    obtain ⟨first, old⟩ := field
    by_cases hfirst : first = name
    · simp [putField, hfirst]
    · simp [putField, hfirst, ih]

/-- A tidy tree has one field of the name, so taking the leaf away changes that field alone. -/
theorem without_of_lookup {fields : List (String × Tree)} (nodup : (fields.map (·.1)).Nodup) {name : String}
    {tree : Tree} (h : fields.lookup name = some tree) (path : List String) :
    ((table fields).without (name :: path)).fields = putField fields name (tree.without path) := by
  induction fields with
  | nil => cases h
  | cons field rest ih =>
    obtain ⟨first, old⟩ := field
    obtain ⟨hfresh, hrest⟩ := List.nodup_cons.mp nodup
    rw [Assoc.lookup_cons_if] at h
    by_cases hfirst : first = name
    · subst hfirst
      rw [if_pos rfl] at h
      cases h
      have hsame : (rest.map fun field => (field.1, if field.1 = first then field.2.without path else field.2)) =
          rest := by
        refine (List.map_congr_left fun field hmem => ?_).trans (List.map_id rest)
        have hne : field.1 ≠ first := by
          intro heq
          exact hfresh (heq ▸ List.mem_map.mpr ⟨field, hmem, rfl⟩)
        simp [hne]
      simp [without_table, Tree.fields, putField, hsame]
    · rw [if_neg (Ne.symm hfirst)] at h
      have ih' := ih hrest h
      simp only [without_table, Tree.fields] at ih' ⊢
      simp [putField, hfirst, ih']

theorem put_without {tree : Tree} (tidy : tree.Tidy) {path : List String} {origin : String} {datum : Datum}
    (h : tree.standsAt path = .leaf origin datum) : (tree.without path).put path (leaf origin datum) = tree := by
  induction path generalizing tree with
  | nil =>
    cases tree with
    | table fields => cases h
    | leaf other datum' =>
      cases h
      rfl
  | cons name path ih =>
    cases tree with
    | leaf other datum' => cases h
    | table fields =>
      obtain ⟨hnodup, hinner⟩ := tidy_table.mp tidy
      rw [standsAt_cons] at h
      cases hfind : fields.lookup name with
      | none =>
        simp only [Tree.fields, hfind, Option.map_none, Option.getD_none] at h
        cases h
      | some part =>
        simp only [Tree.fields, hfind, Option.map_some, Option.getD_some] at h
        have hunder : under fields name = part := by rw [under, hfind, Option.getD_some]
        rw [put, under_without, if_pos rfl, hunder, ih (hinner name part hfind) h, without_of_lookup hnodup hfind,
          putField_putField, putField_self hfind]

/-- A source that sets the leaf leaves no trace of what stood there. -/
theorem over_eq_of_without {path : List String} {tree other : Tree} (tidy : tree.Tidy) (tidy' : other.Tidy)
    (h : tree.without path = other.without path) {source : Source} {origin : String} {datum : Datum}
    (hsets : source.setsAt path = some (.leaf origin datum)) : source.over tree = source.over other := by
  have hstands : (source.over tree).standsAt path = .leaf origin datum := by
    rw [standsAt_over, hsets, Option.getD_some]
  have hstands' : (source.over other).standsAt path = .leaf origin datum := by
    rw [standsAt_over, hsets, Option.getD_some]
  rw [← put_without (tidy.over source) hstands, without_over_congr h, put_without (tidy'.over source) hstands']

/-- A leaf in one of the layers does not count if a higher layer sets it. -/
theorem ofSources_differs {path : List String} {layer layer' : Source} (h : layer.Differs path layer')
    (below : List Source) {above : List Source}
    (hset : ∃ higher ∈ above, ∃ origin datum, higher.setsAt path = some (.leaf origin datum)) :
    ofSources (below ++ layer :: above) = ofSources (below ++ layer' :: above) := by
  obtain ⟨higher, hmem, origin, datum, hsets⟩ := hset
  obtain ⟨between, top, rfl⟩ := List.append_of_mem hmem
  have hfold (between : List Source) (tree other : Tree) (tidy : tree.Tidy) (tidy' : other.Tidy)
      (h : tree.without path = other.without path) :
      (between ++ higher :: top).foldl (fun tree source => source.over tree) tree =
        (between ++ higher :: top).foldl (fun tree source => source.over tree) other := by
    induction between generalizing tree other with
    | nil => rw [List.nil_append, List.foldl_cons, List.foldl_cons, over_eq_of_without tidy tidy' h hsets]
    | cons source between ih =>
      exact ih _ _ (tidy.over source) (tidy'.over source) (without_over_congr h source)
  have hbelow := tidy_ofSources below
  simp only [ofSources, List.foldl_append, List.foldl_cons] at hfold ⊢
  exact hfold between _ _ (hbelow.over layer) (hbelow.over layer') (without_over_differs h _)

end Tree

end SingleFlight.Settings
