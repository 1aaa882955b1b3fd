import SingleFlight.Proofs.Checking
import SingleFlight.Proofs.Drafting
import SingleFlight.Proofs.Overridden

/-!
# Precedence of the layers

The settings come from four layers. From the bottom up they are the file `config/default`, the file `cache-aside`, the
file that is asked for and the environment.

* a layer that sets nothing, such as a file that is missing, makes no difference, and neither does a variable without
  the prefix;
* at every path the highest layer that speaks about it decides, and the settings are read from what stands there then
  and from nothing else (`settings_by_layers`).
-/

namespace SingleFlight.Settings

/-! ### The four layers -/

/-- A file as a layer. One that is missing is an empty layer. -/
def Surroundings.fileLayer (s : Surroundings) (name : String) : Except BuildFault Source :=
  match s.find? name with
  | some file => file.source
  | none => .ok ⟨name, []⟩

/-- The file that is asked for as a layer, which is empty if none is. One that is missing is a fault. -/
def Surroundings.askedLayer (s : Surroundings) : Option String → Except BuildFault Source
  | some name =>
    match s.find? name with
    | some file => file.source
    | none => .error (.missing name)
  | none => .ok ⟨"", []⟩

/-- The four layers from the bottom up. -/
def Surroundings.layers (s : Surroundings) (asked : Option String) : Except BuildFault (List Source) := do
  return [← s.fileLayer "config/default", ← s.fileLayer "cache-aside", ← s.askedLayer asked, environmentSource s.env]

/-- The settings that are read from a tree and checked. -/
def Tree.settings (tree : Tree) : Except LoadFault Settings :=
  match Draft.ofTree tree with
  | .ok draft => ofDraft draft
  | .error fault => .error (.build fault)

/-- The same settings or the same refusal, or in both a fault of the sources. -/
inductive LoadAlike : Except LoadFault Settings → Except LoadFault Settings → Prop where
  | same (x : Except LoadFault Settings) : LoadAlike x x
  | build (fault fault' : BuildFault) : LoadAlike (.error (.build fault)) (.error (.build fault'))

/-- The same file of that name, or an empty one where there was none. -/
inductive Surroundings.Fills (s s' : Surroundings) (name : String) : Prop where
  | same (h : s'.find? name = s.find? name)
  | empty {file : Found} {origin : String} (h : s.find? name = none) (h' : s'.find? name = some file)
      (hempty : file.source = .ok ⟨origin, []⟩)

/-- Whether the name of the variable begins with the prefix. -/
def hasPrefix (entry : String × String) : Bool := variableStart.isPrefixOf (Text.lowered entry.1).toList

/-- At most one source, and the layer that it makes. -/
inductive Fits : Except BuildFault (List Source) → Except BuildFault Source → Prop where
  | fault (fault : BuildFault) : Fits (.error fault) (.error fault)
  | found (layer : Source) : Fits (.ok [layer]) (.ok layer)
  | empty (origin : String) : Fits (.ok []) (.ok ⟨origin, []⟩)

section
variable (s : Surroundings) (asked : Option String)

theorem fits_source (file : Found) : Fits ((fun source => [source]) <$> file.source) file.source := by
  cases file.source with
  | error fault => exact .fault fault
  | ok layer => exact .found layer

theorem fits_optional (name : String) : Fits (s.optional name) (s.fileLayer name) := by
  unfold Surroundings.optional Surroundings.fileLayer
  cases s.find? name with
  | none => exact .empty name
  | some file => exact fits_source file

/-- The file that is asked for, if one is. -/
def Surroundings.askedSources : Option String → Except BuildFault (List Source)
  | some name => s.required name
  | none => .ok []

theorem fits_asked : Fits (s.askedSources asked) (s.askedLayer asked) := by
  cases asked with
  | none => exact .empty ""
  | some name =>
    simp only [Surroundings.askedSources, Surroundings.required, Surroundings.askedLayer]
    cases s.find? name with
    | none => exact .fault (.missing name)
    | some file => exact fits_source file

theorem sources_eq : s.sources asked = do
    let defaults ← s.optional "config/default"
    let own ← s.optional "cache-aside"
    let explicit ← s.askedSources asked
    return defaults ++ own ++ explicit ++ [environmentSource s.env] := by
  cases asked <;> rfl

theorem draft_eq : s.draft asked = (s.layers asked >>= fun layers => Draft.ofTree (.ofSources layers)) := by
  have hdefaults := fits_optional s "config/default"
  have hown := fits_optional s "cache-aside"
  have hasked := fits_asked s asked
  rw [Surroundings.draft, sources_eq, Surroundings.layers]
  generalize s.optional "config/default" = defaults, s.fileLayer "config/default" = defaults' at hdefaults
  generalize s.optional "cache-aside" = own, s.fileLayer "cache-aside" = own' at hown
  generalize s.askedSources asked = explicit, s.askedLayer asked = explicit' at hasked
  -- a layer without fields leaves the tree as it is
  cases hdefaults with
  | fault => rfl
  | found | empty =>
    cases hown with
    | fault => rfl
    | found | empty => cases hasked <;> rfl

/-- The settings are those of the merged layers. -/
theorem gather_eq : gather s asked =
    match s.layers asked with
    | .ok layers => (Tree.ofSources layers).settings
    | .error fault => .error (.build fault) := by
  rw [gather, draft_eq]
  cases s.layers asked <;> rfl

end

/-! ### What makes no difference -/

theorem loadAlike_of_sameOrFail {tree tree' : Tree} (h : SameOrFail (Draft.ofTree tree) (Draft.ofTree tree')) :
    LoadAlike tree.settings tree'.settings := by
  unfold Tree.settings
  generalize Draft.ofTree tree = x, Draft.ofTree tree' = y at h
  cases h with
  | same x => exact .same _
  | fail fault fault' => exact .build fault fault'

/-- The same layer, or empty ones. -/
inductive SameLayer : Except BuildFault Source → Except BuildFault Source → Prop where
  | fault (fault : BuildFault) : SameLayer (.error fault) (.error fault)
  | layer (layer : Source) : SameLayer (.ok layer) (.ok layer)
  | empty (origin origin' : String) : SameLayer (.ok ⟨origin, []⟩) (.ok ⟨origin', []⟩)

theorem sameLayer_self (x : Except BuildFault Source) : SameLayer x x := by
  cases x with
  | error fault => exact .fault fault
  | ok layer => exact .layer layer

theorem Surroundings.Fills.sameLayer {s s' : Surroundings} {name : String} (h : s.Fills s' name) :
    SameLayer (s.fileLayer name) (s'.fileLayer name) := by
  unfold Surroundings.fileLayer
  cases h with
  | same h =>
    rw [h]
    exact sameLayer_self _
  | @empty file origin h h' hempty =>
    simp only [h, h', hempty]
    exact .empty name origin

/-- An empty file in the place of a missing one changes nothing. -/
theorem gather_of_fills {s s' : Surroundings} {asked : Option String} (henv : s'.env = s.env)
    (hasked : ∀ name ∈ asked, s'.find? name = s.find? name) (hdefaults : s.Fills s' "config/default")
    (hown : s.Fills s' "cache-aside") : gather s' asked = gather s asked := by
  have heq : s'.askedLayer asked = s.askedLayer asked := by
    cases asked with
    | none => rfl
    | some name => simp only [Surroundings.askedLayer, hasked name rfl]
  have hdefaults' := hdefaults.sameLayer
  have hown' := hown.sameLayer
  rw [gather_eq, gather_eq, Surroundings.layers, Surroundings.layers, heq, henv]
  generalize s.fileLayer "config/default" = defaults, s'.fileLayer "config/default" = defaults' at hdefaults'
  generalize s.fileLayer "cache-aside" = own, s'.fileLayer "cache-aside" = own' at hown'
  generalize s.askedLayer asked = explicit
  cases hdefaults' with
  | fault => rfl
  | layer | empty =>
    cases hown' with
    | fault => rfl
    | layer | empty => cases explicit <;> rfl

/-- Variables without the prefix are no part of the source. -/
theorem environmentSource_filter (env : List (String × String)) :
    environmentSource (env.filter hasPrefix) = environmentSource env := by
  unfold environmentSource
  rw [List.foldl_filter]
  refine congrArg (fun step => Source.mk "the environment" (env.foldl step [])) ?_
  funext fields entry
  obtain ⟨name, value⟩ := entry
  by_cases hprefix : hasPrefix (name, value)
  · rw [if_pos hprefix]
  · rw [if_neg hprefix]
    have hnone : settingName? name = none := if_neg hprefix
    simp only [hnone]

theorem gather_of_env (s : Surroundings) (asked : Option String) {env : List (String × String)}
    (h : env.filter hasPrefix = s.env.filter hasPrefix) : gather ⟨s.files, env⟩ asked = gather s asked := by
  have hsource : environmentSource env = environmentSource s.env := by
    rw [← environmentSource_filter env, h, environmentSource_filter]
  rw [gather_eq, gather_eq, Surroundings.layers, Surroundings.layers, hsource]
  rfl

/-- A file that was asked for and is missing is the fault, unless one of the files below it is. -/
theorem gather_of_missing {s : Surroundings} {name : String} (h : s.find? name = none) :
    ∃ fault, gather s (some name) = .error (.build fault) ∧
      ((s.fileLayer "config/default").isOk → (s.fileLayer "cache-aside").isOk → fault = .missing name) := by
  have hasked : s.askedLayer (some name) = .error (.missing name) := by simp only [Surroundings.askedLayer, h]
  rw [gather_eq, Surroundings.layers, hasked]
  cases s.fileLayer "config/default" with
  | error fault => exact ⟨fault, rfl, nofun⟩
  | ok defaults =>
    cases s.fileLayer "cache-aside" with
    | error fault => exact ⟨fault, rfl, nofun⟩
    | ok own => exact ⟨.missing name, rfl, fun _ _ => rfl⟩

/-! ### The root of the merged tree -/

theorem pathOf_ne_nil (name : String) : pathOf name ≠ [] := by
  unfold pathOf
  dsimp only
  split
  · exact fun h => List.splitOn_ne_nil '.' name.toList (List.map_eq_nil_iff.mp h)
  · exact List.cons_ne_nil _ _

theorem exists_over_table (source : Source) (fields : List (String × Tree)) :
    ∃ fields', source.over (.table fields) = .table fields' := by
  unfold Source.over
  induction source.fields generalizing fields with
  | nil => exact ⟨fields, rfl⟩
  | cons field rest ih =>
    obtain ⟨name, datum⟩ := field
    obtain ⟨first, way, hway⟩ := List.exists_cons_of_ne_nil (pathOf_ne_nil name)
    simp only [List.foldl_cons, hway]
    exact ih _

/-- Merged layers are a table. -/
theorem exists_ofSources_table (layers : List Source) : ∃ fields, Tree.ofSources layers = .table fields := by
  have hfold (fields : List (String × Tree)) :
      ∃ fields', layers.foldl (fun tree source => source.over tree) (.table fields) = .table fields' := by
    induction layers generalizing fields with
    | nil => exact ⟨fields, rfl⟩
    | cons layer rest ih =>
      obtain ⟨next, hnext⟩ := exists_over_table layer fields
      rw [List.foldl_cons, hnext]
      exact ih next
  exact hfold []

/-- What stands in a tree is all that is read of it. -/
theorem loadAlike_of_topmost {layers : List Source} {fields : List (String × Tree)} (tidy : (Tree.table fields).Tidy)
    (h : ∀ path, path ≠ [] → Topmost layers path ((Tree.table fields).standsAt path)) :
    LoadAlike (Tree.ofSources layers).settings (Tree.table fields).settings := by
  refine loadAlike_of_sameOrFail (Draft.ofTree_like ⟨Tree.tidy_ofSources layers, tidy, fun path => ?_⟩)
  cases path with
  | nil =>
    obtain ⟨merged, hmerged⟩ := exists_ofSources_table layers
    rw [hmerged]
    rfl
  | cons name path =>
    have hmerged := topmost_ofSources layers (List.cons_ne_nil name path)
    rw [topmost_iff] at hmerged
    rw [← hmerged, topmost_iff.mp (h (name :: path) (List.cons_ne_nil name path))]

/-- A fault of the merged layers is about something that stands in them. -/
theorem blames_of_settings {layers : List Source} {fault : BuildFault}
    (h : (Tree.ofSources layers).settings = .error (.build fault)) : (Tree.ofSources layers).Blames fault := by
  unfold Tree.settings at h
  cases hdraft : Draft.ofTree (Tree.ofSources layers) with
  | error first =>
    rw [hdraft] at h
    cases h
    exact Draft.blames_ofTree (Tree.tidy_ofSources layers) fault hdraft
  | ok draft =>
    rw [hdraft] at h
    have hrefused : ofDraft draft = .error (.build fault) := h
    have hsettles := settles_ofDraft draft
    rw [hrefused] at hsettles
    cases hsettles

/-- A setting that is refused is one of the draft that the merged layers hold. -/
theorem wrong_of_settings {tree : Tree} {key : String} {reason : Invalidity}
    (h : tree.settings = .error (.invalid key reason)) :
    ∃ draft, Draft.ofTree tree = .ok draft ∧ ∃ item ∈ draft.items, item.key = key ∧ item.Wrong reason := by
  unfold Tree.settings at h
  cases hdraft : Draft.ofTree tree with
  | error fault =>
    rw [hdraft] at h
    cases h
  | ok draft =>
    rw [hdraft] at h
    have hrefused : ofDraft draft = .error (.invalid key reason) := h
    have hsettles := settles_ofDraft draft
    rw [hrefused] at hsettles
    cases hsettles with
    | @wrong before after item reason first hbefore hwrong => exact ⟨draft, rfl, item, by simp [first], rfl, hwrong⟩

/-- **Each leaf is taken from the highest layer that speaks about it.** The settings are those read from the merged
layers and checked, and what stands at a path in the merged layers is what the highest of them says that speaks about
it; from any other table in which the same stands, the same settings are read, or none from either. So

* a leaf that a higher layer sets, too, may be any other leaf, and the outcome is the same;
* what cannot be read, or is out of bounds, stands in the merged layers, and not only in a layer below;
* a default or local file that is missing counts as an empty one, and a file that was asked for may not be missing;
* variables without the prefix have no effect. -/
theorem settings_by_layers (s : Surroundings) (asked : Option String) :
    (∀ layers, s.layers asked = .ok layers →
      gather s asked = (Tree.ofSources layers).settings ∧
      (∀ path, path ≠ [] → Topmost layers path ((Tree.ofSources layers).standsAt path)) ∧
      (∀ fields, (Tree.table fields).Tidy →
        (∀ path, path ≠ [] → Topmost layers path ((Tree.table fields).standsAt path)) →
        LoadAlike (gather s asked) (Tree.table fields).settings) ∧
      (∀ below layer above, layers = below ++ layer :: above → ∀ path layer' s' asked',
        s'.layers asked' = .ok (below ++ layer' :: above) → layer.Differs path layer' →
        (∃ higher ∈ above, ∃ origin datum, higher.setsAt path = some (.leaf origin datum)) →
        gather s' asked' = gather s asked) ∧
      (∀ fault, gather s asked = .error (.build fault) → (Tree.ofSources layers).Blames fault) ∧
      ∀ key reason, gather s asked = .error (.invalid key reason) →
        ∃ draft, Draft.ofTree (Tree.ofSources layers) = .ok draft ∧
          ∃ item ∈ draft.items, item.key = key ∧ item.Wrong reason) ∧
    (∀ fault, s.layers asked = .error fault → gather s asked = .error (.build fault)) ∧
    (∀ name, asked = some name → s.find? name = none → ∃ fault, gather s asked = .error (.build fault) ∧
      ((s.fileLayer "config/default").isOk → (s.fileLayer "cache-aside").isOk → fault = .missing name)) ∧
    (∀ s', s'.env = s.env → (∀ name ∈ asked, s'.find? name = s.find? name) → s.Fills s' "config/default" →
      s.Fills s' "cache-aside" → gather s' asked = gather s asked) ∧
    ∀ env, env.filter hasPrefix = s.env.filter hasPrefix → gather ⟨s.files, env⟩ asked = gather s asked := by
  refine ⟨fun layers hlayers => ?_, fun fault hfault => ?_, ?_, fun s' => gather_of_fills,
    fun env => gather_of_env s asked⟩
  · have hgather : gather s asked = (Tree.ofSources layers).settings := by rw [gather_eq, hlayers]
    refine ⟨hgather, fun path => topmost_ofSources layers, fun fields tidy h => ?_, ?_, fun fault h => ?_,
      fun key reason h => ?_⟩
    · rw [hgather]
      exact loadAlike_of_topmost tidy h
    · rintro below layer above rfl path layer' s' asked' hlayers' hdiffers hset
      rw [hgather, gather_eq, hlayers', Tree.ofSources_differs hdiffers below hset]
    · rw [hgather] at h
      exact blames_of_settings h
    · rw [hgather] at h
      exact wrong_of_settings h
  · rw [gather_eq, hfault]
  · rintro name rfl hmissing
    exact gather_of_missing hmissing

/-- A limit in the default file, which need not be one, and another one in the environment. A third one stands in a file
outside of the working folder. -/
private def limited (written : String) : Surroundings where
  files := .ofList [("config/default.toml", "cache.defaults.maximum_size = " ++ written),
    ("/tmp/asked.toml", "cache.defaults.maximum_size = 6\nlogging.json = true")]
  env := [("PATH", "/bin"), ("Cache_Aside__Cache__Defaults__Maximum_Size", "7")]

/-- The default file as a layer. -/
private def limitLayer (n : Int) : Source :=
  ⟨"config/default.toml", [("cache", .table [("defaults", .table [("maximum_size", .int n)])])]⟩

private def isLimitLayer (n : Int) : Except BuildFault Source → Bool
  | .ok ⟨origin, [(a, .table [(b, .table [(c, .int m)])])]⟩ =>
    origin == "config/default.toml" && a == "cache" && b == "defaults" && c == "maximum_size" && m == n
  | _ => false

private theorem eq_of_isLimitLayer {n : Int} {x : Except BuildFault Source} (h : isLimitLayer n x = true) :
    x = .ok (limitLayer n) := by
  unfold isLimitLayer at h
  split at h
  · simp only [Bool.and_eq_true, beq_iff_eq] at h
    obtain ⟨⟨⟨⟨rfl, rfl⟩, rfl⟩, rfl⟩, rfl⟩ := h
    rfl
  · cases h

private theorem layers_limited (written : String) (n : Int)
    (h : isLimitLayer n ((limited written).fileLayer "config/default") = true)
    (h' : ((limited written).find? "cache-aside").isNone = true) :
    (limited written).layers none =
      .ok ([] ++ limitLayer n :: [⟨"cache-aside", []⟩, ⟨"", []⟩, environmentSource (limited written).env]) := by
  have hown : (limited written).fileLayer "cache-aside" = .ok ⟨"cache-aside", []⟩ := by
    rw [Surroundings.fileLayer, Option.isNone_iff_eq_none.mp h']
  rw [Surroundings.layers, eq_of_isLimitLayer h, hown]
  rfl

private theorem differs_limitLayer (n m : Int) :
    (limitLayer n).Differs ["cache", "defaults", "maximum_size"] (limitLayer m) := by
  have hway : pathOf "cache" = ["cache"] := by decide
  have hleaf : (Datum.int n).Differs [] (.int m) := .leaf nofun nofun
  have hfield := Source.Differs.field "config/default.toml" [] [] "cache"
    (.field [] [] "defaults" (.field [] [] "maximum_size" hleaf))
  rwa [hway] at hfield

private def isLeaf : Option Standing → Bool
  | some (.leaf _ _) => true
  | _ => false

private theorem exists_setsAt_limit : ∃ origin datum,
    (environmentSource (limited "5").env).setsAt ["cache", "defaults", "maximum_size"] = some (.leaf origin datum) := by
  have hleaf : isLeaf ((environmentSource (limited "5").env).setsAt ["cache", "defaults", "maximum_size"]) = true := by
    decide +kernel
  unfold isLeaf at hleaf
  split at hleaf
  · next origin datum hsets => exact ⟨origin, datum, hsets⟩
  · cases hleaf

theorem settings_by_layers_limit :
    gather (limited "-1") none = gather (limited "5") none ∧
      (gather (limited "5") none).toOption.map (·.cache.defaults.maximumSize) = some (some 7) ∧
      gather ⟨(limited "5").files, [("Cache_Aside__Cache__Defaults__Maximum_Size", "7")]⟩ none =
        gather (limited "5") none ∧
      (gather (limited "5") (some "/tmp/asked")).toOption.map
        (fun settings => (settings.cache.defaults.maximumSize, settings.format)) = some (some 7, .json) ∧
      ∃ fault, gather (limited "5") (some "absent") = .error (.build fault) := by
  have hlayers := layers_limited "5" 5 (by decide +kernel) (by decide +kernel)
  have hlayers' := layers_limited "-1" (-1) (by decide +kernel) (by decide +kernel)
  have henv : ∃ higher ∈ [⟨"cache-aside", []⟩, ⟨"", []⟩, environmentSource (limited "5").env],
      ∃ origin datum, higher.setsAt ["cache", "defaults", "maximum_size"] = some (.leaf origin datum) :=
    ⟨_, .tail _ (.tail _ (.head _)), exists_setsAt_limit⟩
  obtain ⟨hmerged, -, -, -, hprefix⟩ := settings_by_layers (limited "5") none
  obtain ⟨-, -, -, hdiffers, -, -⟩ := hmerged _ hlayers
  obtain ⟨-, -, hmissing, -, -⟩ := settings_by_layers (limited "5") (some "absent")
  obtain ⟨fault, hfault, -⟩ := hmissing "absent" rfl (Option.isNone_iff_eq_none.mp (by decide +kernel))
  exact ⟨hdiffers _ _ _ rfl _ _ _ none hlayers' (differs_limitLayer 5 (-1)) henv, by decide +kernel,
    hprefix _ (by decide +kernel), by decide +kernel, fault, hfault⟩

end SingleFlight.Settings
