import SingleFlight.Proofs.Layers

/-!
# What a draft is read from

A draft depends only on what stands in the tree, not on the order in which it stands there.

* from trees in which the same stands at every path the same draft is read, or none from either
  (`Draft.ofTree_like`). Which of several faults is reported may depend on the order of the named blocks, and on nothing
  else;
* a fault is about something that stands in the tree: it gives the path to it, and the source that it came from
  (`Draft.blames_ofTree`).
-/

namespace SingleFlight.Settings

/-! ### Readings that come to the same -/

/-- Both come to the same, or both fail. -/
inductive SameOrFail : Except ε α → Except ε α → Prop where
  | same (x : Except ε α) : SameOrFail x x
  | fail (e f : ε) : SameOrFail (.error e) (.error f)

theorem SameOrFail.of_eq {x y : Except ε α} (h : x = y) : SameOrFail x y := h ▸ .same x

theorem SameOrFail.bind {x y : Except ε α} {f g : α → Except ε β} (h : SameOrFail x y)
    (hfg : ∀ a, SameOrFail (f a) (g a)) : SameOrFail (x >>= f) (y >>= g) := by
  cases h with
  | fail e e' => exact .fail e e'
  | same x =>
    cases x with
    | error e => exact .same _
    | ok a => exact hfg a

/-- Trees in which the same stands at every path. -/
structure Tree.Like (a b : Tree) : Prop where
  left : a.Tidy
  right : b.Tidy
  stands : ∀ path, a.standsAt path = b.standsAt path

/-- Places with the same path, at which the same leaf stands or tables in which the same stands under every name. -/
inductive Place.Like : Place → Place → Prop where
  | refl (place : Place) : Like place place
  | tables {path : List Segment} {fields others : List (String × Tree)} (nodup : (fields.map (·.1)).Nodup)
      (nodup' : (others.map (·.1)).Nodup)
      (h : ∀ name, Option.Rel Tree.Like (fields.lookup name) (others.lookup name)) :
      Like ⟨path, .table fields⟩ ⟨path, .table others⟩

/-- The same names are there, since something stands wherever there is a tree. -/
theorem Tree.Like.lookup {fields others : List (String × Tree)} (h : (Tree.table fields).Like (.table others))
    (name : String) : Option.Rel Tree.Like (fields.lookup name) (others.lookup name) := by
  have hinner := (tidy_table.mp h.left).2
  have hinner' := (tidy_table.mp h.right).2
  have hname (path : List String) := h.stands (name :: path)
  simp only [standsAt_cons, Tree.fields] at hname
  cases hfind : fields.lookup name with
  | none =>
    cases hfind' : others.lookup name with
    | none => exact .none
    | some other =>
      have hnothing := hname []
      simp only [hfind, hfind', Option.map_none, Option.map_some, Option.getD_none, Option.getD_some] at hnothing
      exact absurd hnothing.symm other.standing_ne_nothing
  | some tree =>
    cases hfind' : others.lookup name with
    | none =>
      have hnothing := hname []
      simp only [hfind, hfind', Option.map_none, Option.map_some, Option.getD_none, Option.getD_some] at hnothing
      exact absurd hnothing tree.standing_ne_nothing
    | some other =>
      refine .some ⟨hinner name tree hfind, hinner' name other hfind', fun path => ?_⟩
      simpa [hfind, hfind'] using hname path

theorem Tree.Like.place {a b : Tree} (h : a.Like b) (path : List Segment) : Place.Like ⟨path, a⟩ ⟨path, b⟩ := by
  have hroot := h.stands []
  cases a with
  | leaf origin datum =>
    cases b with
    | leaf other datum' =>
      cases hroot
      exact .refl _
    | table others => cases hroot
  | table fields =>
    cases b with
    | leaf other datum' => cases hroot
    | table others => exact .tables (tidy_table.mp h.left).1 (tidy_table.mp h.right).1 h.lookup

namespace Place

/-- The fields of a table as places. -/
def within (path : List Segment) (fields : List (String × Tree)) : List (String × Place) :=
  fields.map fun (name, tree) => (name, ⟨path ++ [.name name], tree⟩)

theorem lookup_within (path : List Segment) (fields : List (String × Tree)) (name : String) :
    (within path fields).lookup name = (fields.lookup name).map fun tree => ⟨path ++ [.name name], tree⟩ := by
  induction fields with
  | nil => rfl
  | cons field rest ih =>
    obtain ⟨first, tree⟩ := field
    simp only [within, List.map_cons, Assoc.lookup_cons_if]
    by_cases hname : name = first
    · simp [hname]
    · simp only [if_neg hname]
      exact ih

theorem names_within (path : List Segment) (fields : List (String × Tree)) :
    (within path fields).map (·.1) = fields.map (·.1) := by
  simp [within, Function.comp_def]

theorem like_within {fields others : List (String × Tree)}
    (h : ∀ name, Option.Rel Tree.Like (fields.lookup name) (others.lookup name)) (path : List Segment)
    (name : String) : Option.Rel Like ((within path fields).lookup name) ((within path others).lookup name) := by
  have hname := h name
  rw [lookup_within, lookup_within]
  generalize fields.lookup name = tree at hname ⊢
  generalize others.lookup name = other at hname ⊢
  cases hname with
  | none => exact .none
  | some hlike => exact .some (hlike.place _)

end Place

section
variable {p q : Place} {x y : Option Place}

theorem scalar?_like (h : Option.Rel Place.Like x y) (wanted : Wanted)
    (read : String → List Segment → Datum → Except BuildFault (Option α)) :
    scalar? wanted read x = scalar? wanted read y := by
  cases h with
  | none => rfl
  | some hplace => cases hplace <;> rfl

theorem tableOr_like {read : Place → Except BuildFault α}
    (hread : ∀ {p q}, Place.Like p q → SameOrFail (read p) (read q)) (h : Option.Rel Place.Like x y) (missing : α) :
    SameOrFail (tableOr missing read x) (tableOr missing read y) := by
  cases h with
  | none => exact .same _
  | some hplace => exact hread hplace

theorem Place.Like.structure? (h : Place.Like p q) (names : List String) :
    p.structure? names = q.structure? names ∨ ∃ find seek : String → Option Place,
      (∀ name, Option.Rel Place.Like (find name) (seek name)) ∧
        p.structure? names = .ok (names.map find) ∧ q.structure? names = .ok (names.map seek) := by
  cases h with
  | refl => exact .inl rfl
  | @tables path fields others _ _ hfields =>
    exact .inr ⟨fun name => (within path fields).lookup name, fun name => (within path others).lookup name,
      like_within hfields path, rfl, rfl⟩

theorem LoggingDraft.ofPlace_like (h : Place.Like p q) : LoggingDraft.ofPlace p = LoggingDraft.ofPlace q := by
  unfold LoggingDraft.ofPlace
  rcases h.structure? ["level", "json"] with heq | ⟨find, seek, hfind, hp, hq⟩
  · rw [heq]
  · have hlevel : text? (find "level") = text? (seek "level") := scalar?_like (hfind _) .text asText
    have hjson : flag? (find "json") = flag? (seek "json") := scalar?_like (hfind _) .flag asFlag
    rw [hp, hq]
    show (do return (⟨← text? (find "level"), ← flag? (find "json")⟩ : LoggingDraft)) = _
    rw [hlevel, hjson]
    rfl

theorem TuningDraft.ofPlace_like (h : Place.Like p q) : TuningDraft.ofPlace p = TuningDraft.ofPlace q := by
  unfold TuningDraft.ofPlace
  dsimp only
  rcases h.structure? ["initial_capacity", "maximum_size", "expire_after_write_ms", "expire_after_access_ms",
    "metrics_enabled"] with heq | ⟨find, seek, hfind, hp, hq⟩
  · rw [heq]
  · have hnatural (name : String) : natural? (find name) = natural? (seek name) :=
      scalar?_like (hfind name) .integer asNatural
    have hflag : flag? (find "metrics_enabled") = flag? (seek "metrics_enabled") :=
      scalar?_like (hfind _) .flag asFlag
    rw [hp, hq]
    show (do return (⟨← natural? (find "initial_capacity"), ← natural? (find "maximum_size"),
      ← natural? (find "expire_after_write_ms"), ← natural? (find "expire_after_access_ms"),
      ← flag? (find "metrics_enabled")⟩ : TuningDraft)) = _
    rw [hnatural, hnatural, hnatural, hnatural, hflag]
    rfl

end

/-! ### Named blocks -/

theorem lookup_of_mem {fields : List (String × α)} (nodup : (fields.map (·.1)).Nodup) {name : String} {a : α}
    (h : (name, a) ∈ fields) : fields.lookup name = some a := by
  induction fields with
  | nil => cases h
  | cons field rest ih =>
    obtain ⟨first, b⟩ := field
    obtain ⟨hfresh, hrest⟩ := List.nodup_cons.mp nodup
    rw [Assoc.lookup_cons_if]
    rcases List.mem_cons.mp h with heq | hmem
    · cases heq
      simp
    · have hne : name ≠ first := by
        rintro rfl
        exact hfresh (List.mem_map.mpr ⟨(name, a), hmem, rfl⟩)
      rw [if_neg hne, ih hrest hmem]

theorem mem_of_lookup {fields : List (String × α)} {name : String} {a : α} (h : fields.lookup name = some a) :
    (name, a) ∈ fields := by
  obtain ⟨before, after, rfl, -⟩ := List.lookup_eq_some_iff.mp h
  simp

/-- The named blocks, read one after the other. -/
def readBlocks (fields : List (String × Place)) : Except BuildFault (Dictionary TuningDraft) := do
  return .ofList (← fields.mapM fun (name, place) => return (name, ← TuningDraft.ofPlace place))

def namedTunings (place : Place) : Except BuildFault (Dictionary TuningDraft) := do
  readBlocks (← place.dictionary?)

theorem CacheDraft.ofPlace_eq (place : Place) : CacheDraft.ofPlace place = do
    match ← place.structure? ["enabled", "backend", "defaults", "caches"] with
    | [enabled, backend, defaults, caches] =>
      return ⟨← flag? enabled, ← text? backend, ← tableOr .unset TuningDraft.ofPlace defaults,
        ← tableOr ∅ namedTunings caches⟩
    | _ => return .unset := rfl

theorem find?_ofList {pairs : List (String × α)} (h : (pairs.map (·.1)).Nodup) (name : String) :
    (Dictionary.ofList pairs).find? name = pairs.lookup name := by
  have hfold (d : Dictionary α) : (pairs.foldl (fun d e => d.insert e.1 e.2) d).find? name =
      (pairs.lookup name).or (d.find? name) := by
    induction pairs generalizing d with
    | nil => rfl
    | cons pair rest ih =>
      obtain ⟨first, value⟩ := pair
      obtain ⟨hfresh, hrest⟩ := List.nodup_cons.mp h
      rw [List.foldl_cons, ih hrest, Dictionary.find?_insert, Assoc.lookup_cons_if]
      by_cases hname : name = first
      · subst hname
        simp [Assoc.lookup_eq_none hfresh]
      · simp [hname]
  rw [Dictionary.ofList, hfold]
  exact Option.or_none

/-- What is read by name keeps the names, and each value is read by itself. -/
theorem lookup_of_mapM {f : β → Except ε α} {fields : List (String × β)} {read : List (String × α)}
    (h : fields.mapM (fun (name, b) => do return (name, ← f b)) = .ok read) :
    read.map (·.1) = fields.map (·.1) ∧
      ∀ name, (read.lookup name).map .ok = (fields.lookup name).map f := by
  induction fields generalizing read with
  | nil =>
    cases h
    exact ⟨rfl, fun _ => rfl⟩
  | cons field rest ih =>
    obtain ⟨first, b⟩ := field
    rw [List.mapM_cons] at h
    obtain ⟨entry, hentry, hrest⟩ := exists_of_bind_eq_ok h
    obtain ⟨others, hothers, heq⟩ := exists_of_bind_eq_ok hrest
    obtain ⟨a, ha, hpair⟩ := exists_of_bind_eq_ok hentry
    cases heq
    cases hpair
    obtain ⟨hnames, hlookup⟩ := ih hothers
    refine ⟨by simp [hnames], fun name => ?_⟩
    rw [Assoc.lookup_cons_if, Assoc.lookup_cons_if]
    split
    · simp [ha]
    · exact hlookup name

/-- The order of the blocks does not matter to what they are read as. -/
theorem readBlocks_congr {fields others : List (String × Place)} (nodup : (fields.map (·.1)).Nodup)
    (nodup' : (others.map (·.1)).Nodup)
    (h : ∀ name, (fields.lookup name).map TuningDraft.ofPlace = (others.lookup name).map TuningDraft.ofPlace)
    {blocks : Dictionary TuningDraft} (hread : readBlocks fields = .ok blocks) : readBlocks others = .ok blocks := by
  obtain ⟨read, hmap, heq⟩ := exists_of_bind_eq_ok hread
  obtain ⟨hnames, hlookup⟩ := lookup_of_mapM hmap
  unfold readBlocks
  cases hother : others.mapM fun (name, place) => do return (name, ← TuningDraft.ofPlace place) with
  | error fault =>
    -- the block that fails is there in both, and was read in the first
    obtain ⟨before, ⟨name, place⟩, after, rfl, -, hfault⟩ := exists_of_mapM_eq_error hother
    have hplace : (before ++ (name, place) :: after).lookup name = some place := lookup_of_mem nodup' (by simp)
    have hboth := (hlookup name).trans (h name)
    rw [hplace, Option.map_some] at hboth
    obtain ⟨draft, -, hdraft⟩ := Option.map_eq_some_iff.mp hboth
    dsimp only at hfault
    rw [← hdraft] at hfault
    cases hfault
  | ok read' =>
    obtain ⟨hnames', hlookup'⟩ := lookup_of_mapM hother
    cases heq
    refine congrArg Except.ok (Dictionary.ext_find? fun name => ?_)
    rw [find?_ofList (hnames'.symm ▸ nodup'), find?_ofList (hnames.symm ▸ nodup)]
    have hboth := (hlookup name).trans ((h name).trans (hlookup' name).symm)
    exact (Option.map_injective (fun _ _ => Except.ok.inj) hboth).symm

theorem namedTunings_like {p q : Place} (h : Place.Like p q) : SameOrFail (namedTunings p) (namedTunings q) := by
  cases h with
  | refl => exact .same _
  | @tables path fields others hnodup hnodup' hfields =>
    rw [← Place.names_within path fields] at hnodup
    rw [← Place.names_within path others] at hnodup'
    have hread (name : String) : ((Place.within path fields).lookup name).map TuningDraft.ofPlace =
        ((Place.within path others).lookup name).map TuningDraft.ofPlace := by
      have hname := Place.like_within hfields path name
      generalize (Place.within path fields).lookup name = x at hname
      generalize (Place.within path others).lookup name = y at hname
      cases hname with
      | none => rfl
      | some hplace => exact congrArg some (TuningDraft.ofPlace_like hplace)
    show SameOrFail (readBlocks (Place.within path fields)) (readBlocks (Place.within path others))
    cases hfirst : readBlocks (Place.within path fields) with
    | ok blocks =>
      rw [readBlocks_congr hnodup hnodup' hread hfirst]
      exact .same _
    | error fault =>
      cases hsecond : readBlocks (Place.within path others) with
      | ok blocks =>
        have hboth := readBlocks_congr hnodup' hnodup (fun name => (hread name).symm) hsecond
        cases hfirst.symm.trans hboth
      | error other => exact .fail fault other

theorem CacheDraft.ofPlace_like {p q : Place} (h : Place.Like p q) :
    SameOrFail (CacheDraft.ofPlace p) (CacheDraft.ofPlace q) := by
  rw [CacheDraft.ofPlace_eq, CacheDraft.ofPlace_eq]
  rcases h.structure? ["enabled", "backend", "defaults", "caches"] with heq | ⟨find, seek, hfind, hp, hq⟩
  · rw [heq]
    exact .same _
  · have henabled : flag? (find "enabled") = flag? (seek "enabled") := scalar?_like (hfind _) .flag asFlag
    have hbackend : text? (find "backend") = text? (seek "backend") := scalar?_like (hfind _) .text asText
    have hdefaults := tableOr_like (fun h => .of_eq (TuningDraft.ofPlace_like h)) (hfind "defaults") TuningDraft.unset
    have hcaches := tableOr_like namedTunings_like (hfind "caches") ∅
    rw [hp, hq]
    exact (SameOrFail.of_eq henabled).bind fun enabled => (SameOrFail.of_eq hbackend).bind fun backend =>
      hdefaults.bind fun defaults => hcaches.bind fun caches => .same _

/-- What is read from a tree depends only on what stands in it. -/
theorem Draft.ofTree_like {a b : Tree} (h : a.Like b) : SameOrFail (Draft.ofTree a) (Draft.ofTree b) := by
  unfold Draft.ofTree
  rcases (h.place []).structure? ["logging", "cache"] with heq | ⟨find, seek, hfind, hp, hq⟩
  · rw [heq]
    exact .same _
  · have hlogging := tableOr_like (fun h => .of_eq (LoggingDraft.ofPlace_like h)) (hfind "logging") LoggingDraft.unset
    have hcache := tableOr_like CacheDraft.ofPlace_like (hfind "cache") CacheDraft.unset
    rw [hp, hq]
    exact hlogging.bind fun logging => hcache.bind fun cache => .same _

/-! ### Faults -/

/-- The fault is about something that stands in the tree. -/
inductive Tree.Blames (tree : Tree) : BuildFault → Prop where
  | leaf {names : List String} {origin : String} {datum : Datum} (h : tree.standsAt names = .leaf origin datum)
      (found : Misplaced) (wanted : Wanted) (rest : List Segment) :
      Blames tree (.wrongType found wanted (names.map .name ++ rest) (some origin))
  | table {names : List String} (h : tree.standsAt names = .table) (wanted : Wanted) :
      Blames tree (.wrongType .table wanted (names.map .name) none)
  | notTable {names : List String} {origin : String} {datum : Datum} (h : tree.standsAt names = .leaf origin datum)
      (rest : List Segment) : Blames tree (.notTable (names.map .name ++ rest))

/-- The place is a part of the tree, or a part of a leaf of it. -/
inductive Place.In (tree : Tree) : Place → Prop where
  | part {names : List String} {part : Tree} (h : tree.part? names = some part) : In tree ⟨names.map .name, part⟩
  | inside {names : List String} {origin : String} {whole : Datum} (h : tree.part? names = some (.leaf origin whole))
      (rest : List Segment) (datum : Datum) : In tree ⟨names.map .name ++ rest, .leaf origin datum⟩

/-- If it fails, then for such a fault. -/
def Tells (P : BuildFault → Prop) (x : Except BuildFault α) : Prop := ∀ fault, x = .error fault → P fault

theorem Tells.ok {P : BuildFault → Prop} (a : α) : Tells P (.ok a) := nofun

theorem Tells.bind {P : BuildFault → Prop} {x : Except BuildFault α} {f : α → Except BuildFault β} (h : Tells P x)
    (hf : ∀ a, x = .ok a → Tells P (f a)) : Tells P (x >>= f) := by
  cases x with
  | error fault =>
    intro other heq
    cases heq
    exact h fault rfl
  | ok a => exact hf a rfl

theorem Tree.part?_concat (tree : Tree) (names : List String) (name : String) :
    tree.part? (names ++ [name]) = (tree.part? names).bind fun part => part.fields.lookup name := by
  induction names generalizing tree with
  | nil => simp [part?]
  | cons first names ih =>
    simp only [List.cons_append, part?, Option.bind_assoc]
    congr 1
    funext part
    exact ih part

theorem Tree.standsAt_of_part? {tree part : Tree} {names : List String} (h : tree.part? names = some part) :
    tree.standsAt names = part.standing := by
  rw [standsAt, h]
  rfl

section
variable {tree : Tree} {place : Place}

/-- The fields of a place in the tree are in it, too. -/
theorem Place.In.field (tidy : tree.Tidy) (h : place.In tree) {fields : List (String × Place)}
    (hparts : place.parts = .table fields) {name : String} {field : Place} (hmem : (name, field) ∈ fields) :
    field.In tree := by
  cases h with
  | @part names part hpart =>
    cases part with
    | table inner =>
      cases hparts
      obtain ⟨⟨first, next⟩, hinner, heq⟩ := List.mem_map.mp hmem
      cases heq
      have hnext : tree.part? (names ++ [name]) = some next := by
        rw [Tree.part?_concat, hpart]
        exact lookup_of_mem (tidy names inner hpart) hinner
      have hin := Place.In.part hnext
      simpa using hin
    | leaf origin datum =>
      cases datum with
      | table data =>
        cases hparts
        obtain ⟨⟨first, next⟩, -, heq⟩ := List.mem_map.mp hmem
        cases heq
        exact .inside hpart [.name name] next
      | _ => cases hparts
  | @inside names origin whole hpart rest datum =>
    cases datum with
    | table data =>
      cases hparts
      obtain ⟨⟨first, next⟩, -, heq⟩ := List.mem_map.mp hmem
      cases heq
      rw [List.append_assoc]
      exact .inside hpart _ next
    | _ => cases hparts

theorem Place.In.item (h : place.In tree) {items : List Place} (hparts : place.parts = .list items) {item : Place}
    (hmem : item ∈ items) : item.In tree := by
  cases h with
  | @part names part hpart =>
    cases part with
    | table inner => cases hparts
    | leaf origin datum =>
      cases datum with
      | list data =>
        cases hparts
        obtain ⟨⟨next, i⟩, -, rfl⟩ := List.mem_map.mp hmem
        exact .inside hpart [.index i] next
      | _ => cases hparts
  | @inside names origin whole hpart rest datum =>
    cases datum with
    | list data =>
      cases hparts
      obtain ⟨⟨next, i⟩, -, rfl⟩ := List.mem_map.mp hmem
      dsimp only
      rw [List.append_assoc]
      exact .inside hpart _ next
    | _ => cases hparts

theorem Place.In.not_table (h : place.In tree) (hnone : ∀ fields, place.parts ≠ .table fields) :
    tree.Blames (.notTable place.path) := by
  cases h with
  | @part names part hpart =>
    cases part with
    | table inner => exact absurd rfl (hnone _)
    | leaf origin datum =>
      have hblames := Tree.Blames.notTable (Tree.standsAt_of_part? hpart) []
      simpa using hblames
  | inside hpart rest datum => exact .notTable (Tree.standsAt_of_part? hpart) rest

theorem Place.In.leaf {path : List Segment} {origin : String} {datum : Datum}
    (h : Place.In tree ⟨path, .leaf origin datum⟩) (found : Misplaced) (wanted : Wanted) :
    tree.Blames (.wrongType found wanted path (some origin)) := by
  cases h with
  | part hpart =>
    have hblames := Tree.Blames.leaf (Tree.standsAt_of_part? hpart) found wanted []
    simpa using hblames
  | inside hpart rest datum => exact .leaf (Tree.standsAt_of_part? hpart) found wanted rest

theorem Place.In.table {path : List Segment} {fields : List (String × Tree)}
    (h : Place.In tree ⟨path, .table fields⟩) (wanted : Wanted) :
    tree.Blames (.wrongType .table wanted path none) := by
  cases h with
  | part hpart => exact .table (Tree.standsAt_of_part? hpart) wanted

/-- A scalar that cannot be read is reported with the path to it and its source. -/
def Located (read : String → List Segment → Datum → Except BuildFault α) : Prop :=
  ∀ origin path datum, Tells (fun fault => ∃ found wanted, fault = .wrongType found wanted path (some origin))
    (read origin path datum)

theorem located_asFlag : Located asFlag := by
  intro origin path datum fault h
  cases datum with
  | null | flag | int | float => cases h
  | list | table =>
    cases h
    exact ⟨_, _, rfl⟩
  | text s =>
    simp only [asFlag] at h
    split at h
    · cases h
    · cases h
      exact ⟨_, _, rfl⟩

theorem located_asNatural : Located asNatural := by
  intro origin path datum fault h
  cases datum with
  | null | flag | float => cases h
  | list | table =>
    cases h
    exact ⟨_, _, rfl⟩
  | int n =>
    simp only [asNatural] at h
    split at h
    · cases h
      exact ⟨_, _, rfl⟩
    · cases h
  | text s =>
    simp only [asNatural] at h
    split at h
    · cases h
    · split at h
      · cases h
      · split at h
        · cases h
        · cases h
          exact ⟨_, _, rfl⟩

theorem located_asText : Located asText := by
  intro origin path datum fault h
  cases datum with
  | null | int | float | text => cases h
  | list | table =>
    cases h
    exact ⟨_, _, rfl⟩
  | flag b => cases b <;> cases h

theorem tells_scalar? {read : String → List Segment → Datum → Except BuildFault (Option α)} (hread : Located read)
    (wanted : Wanted) {x : Option Place} (h : ∀ place ∈ x, place.In tree) :
    Tells tree.Blames (scalar? wanted read x) := by
  cases x with
  | none => exact .ok _
  | some place =>
    have hin := h place rfl
    obtain ⟨path, part⟩ := place
    cases part with
    | table fields =>
      intro fault heq
      cases heq
      exact hin.table wanted
    | leaf origin datum =>
      intro fault heq
      obtain ⟨found, wanted, rfl⟩ := hread origin path datum fault heq
      exact hin.leaf found wanted

theorem tells_flag? {x : Option Place} (h : ∀ place ∈ x, place.In tree) : Tells tree.Blames (flag? x) :=
  tells_scalar? located_asFlag .flag h

theorem tells_natural? {x : Option Place} (h : ∀ place ∈ x, place.In tree) : Tells tree.Blames (natural? x) :=
  tells_scalar? located_asNatural .integer h

theorem tells_text? {x : Option Place} (h : ∀ place ∈ x, place.In tree) : Tells tree.Blames (text? x) :=
  tells_scalar? located_asText .text h

theorem tells_tableOr {read : Place → Except BuildFault α}
    (hread : ∀ place, place.In tree → Tells tree.Blames (read place)) (missing : α) {x : Option Place}
    (h : ∀ place ∈ x, place.In tree) : Tells tree.Blames (tableOr missing read x) := by
  cases x with
  | none => exact .ok _
  | some place => exact hread place (h place rfl)

theorem tells_structure? (h : place.In tree) (names : List String) : Tells tree.Blames (place.structure? names) := by
  intro fault heq
  simp only [Place.structure?] at heq
  split at heq
  · cases heq
  · cases heq
  · next hparts =>
    cases heq
    exact h.not_table fun fields => hparts ▸ nofun

theorem tells_dictionary? (h : place.In tree) : Tells tree.Blames place.dictionary? := by
  intro fault heq
  simp only [Place.dictionary?] at heq
  split at heq
  · cases heq
  · next hparts =>
    cases heq
    exact h.not_table hparts

/-- The parts of a place in the tree are in it. -/
theorem Place.In.structure? (tidy : tree.Tidy) (h : place.In tree) {names : List String} {parts : List (Option Place)}
    (hparts : place.structure? names = .ok parts) : ∀ part ∈ parts, ∀ field ∈ part, field.In tree := by
  intro part hpart field hfield
  simp only [Place.structure?] at hparts
  split at hparts
  · next fields htable =>
    cases hparts
    obtain ⟨name, -, rfl⟩ := List.mem_map.mp hpart
    exact h.field tidy htable (mem_of_lookup hfield)
  · next items hlist =>
    cases hparts
    obtain ⟨i, -, rfl⟩ := List.mem_map.mp hpart
    exact h.item hlist (List.mem_of_getElem? hfield)
  · cases hparts

theorem LoggingDraft.tells_ofPlace (tidy : tree.Tidy) (h : place.In tree) :
    Tells tree.Blames (LoggingDraft.ofPlace place) := by
  refine (tells_structure? h _).bind fun parts hparts => ?_
  have hin := h.structure? tidy hparts
  split
  · next level json =>
    exact (tells_text? (hin level (by simp))).bind fun _ _ =>
      (tells_flag? (hin json (by simp))).bind fun _ _ => .ok _
  · exact .ok _

theorem TuningDraft.tells_ofPlace (tidy : tree.Tidy) (h : place.In tree) :
    Tells tree.Blames (TuningDraft.ofPlace place) := by
  refine (tells_structure? h _).bind fun parts hparts => ?_
  have hin := h.structure? tidy hparts
  split
  · next capacity size write access metrics =>
    exact (tells_natural? (hin capacity (by simp))).bind fun _ _ =>
      (tells_natural? (hin size (by simp))).bind fun _ _ =>
      (tells_natural? (hin write (by simp))).bind fun _ _ =>
      (tells_natural? (hin access (by simp))).bind fun _ _ =>
      (tells_flag? (hin metrics (by simp))).bind fun _ _ => .ok _
  · exact .ok _

theorem tells_namedTunings (tidy : tree.Tidy) (h : place.In tree) : Tells tree.Blames (namedTunings place) := by
  refine (tells_dictionary? h).bind fun fields hfields => ?_
  have hparts : place.parts = .table fields := by
    simp only [Place.dictionary?] at hfields
    split at hfields
    · next htable =>
      cases hfields
      exact htable
    · cases hfields
  refine Tells.bind (fun fault heq => ?_) fun _ _ => .ok _
  obtain ⟨before, ⟨name, block⟩, after, rfl, -, hfault⟩ := exists_of_mapM_eq_error heq
  have hin : block.In tree := h.field tidy hparts (List.mem_append_right before (List.mem_cons_self ..))
  exact (TuningDraft.tells_ofPlace tidy hin).bind (fun _ _ => Tells.ok (name, _)) fault hfault

theorem CacheDraft.tells_ofPlace (tidy : tree.Tidy) (h : place.In tree) :
    Tells tree.Blames (CacheDraft.ofPlace place) := by
  rw [CacheDraft.ofPlace_eq]
  refine (tells_structure? h _).bind fun parts hparts => ?_
  have hin := h.structure? tidy hparts
  split
  · next enabled backend defaults caches =>
    exact (tells_flag? (hin enabled (by simp))).bind fun _ _ =>
      (tells_text? (hin backend (by simp))).bind fun _ _ =>
      (tells_tableOr (fun _ => TuningDraft.tells_ofPlace tidy) _ (hin defaults (by simp))).bind fun _ _ =>
      (tells_tableOr (fun _ => tells_namedTunings tidy) _ (hin caches (by simp))).bind fun _ _ => .ok _
  · exact .ok _

/-- If no draft can be read from a tree, then the fault is about something that stands in it. -/
theorem Draft.blames_ofTree (tidy : tree.Tidy) : Tells tree.Blames (Draft.ofTree tree) := by
  have hroot : Place.In tree ⟨[], tree⟩ := @Place.In.part tree [] tree rfl
  refine (tells_structure? hroot _).bind fun parts hparts => ?_
  have hin := hroot.structure? tidy hparts
  split
  · next logging cache =>
    exact (tells_tableOr (fun _ => LoggingDraft.tells_ofPlace tidy) _ (hin logging (by simp))).bind fun _ _ =>
      (tells_tableOr (fun _ => CacheDraft.tells_ofPlace tidy) _ (hin cache (by simp))).bind fun _ _ => .ok _
  · exact .ok _

end

end SingleFlight.Settings
