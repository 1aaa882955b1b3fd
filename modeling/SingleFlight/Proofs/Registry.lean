import Mathlib.Data.List.Forall2
import SingleFlight.Registry

/-!
# Registries as they are built

A registry is built from new caches, one after the other, by hand or from a configuration. In such a registry every
cache goes by its own name and holds nothing.
-/

namespace SingleFlight

theorem exists_of_bind_eq_ok {x : Except ε α} {f : α → Except ε β} {b : β} (h : x >>= f = .ok b) :
    ∃ a, x = .ok a ∧ f a = .ok b := by
  cases x with
  | error e => cases h
  | ok a => exact ⟨a, rfl, h⟩

theorem exists_of_map_eq_ok {x : Except ε α} {f : α → β} {b : β} (h : f <$> x = .ok b) :
    ∃ a, x = .ok a ∧ f a = b := by
  cases x with
  | error e => cases h
  | ok a => exact ⟨a, rfl, Except.ok.inj h⟩

theorem eq_error_of_map_eq_error {x : Except ε α} {f : α → β} {e : ε} (h : f <$> x = .error e) : x = .error e := by
  cases x with
  | error other => exact congrArg Except.error (Except.error.inj h)
  | ok a => cases h

theorem forall₂_of_mapM_eq_ok {f : α → Except ε β} {xs : List α} {ys : List β} (h : xs.mapM f = .ok ys) :
    List.Forall₂ (fun x y => f x = .ok y) xs ys := by
  induction xs generalizing ys with
  | nil =>
    cases h
    exact .nil
  | cons x xs ih =>
    rw [List.mapM_cons] at h
    obtain ⟨y, hy, hrest⟩ := exists_of_bind_eq_ok h
    obtain ⟨rest, hmap, heq⟩ := exists_of_bind_eq_ok hrest
    cases heq
    exact .cons hy (ih hmap)

/-- A map of checks fails with the fault of the first element that fails its check. -/
theorem exists_of_mapM_eq_error {f : α → Except ε β} {xs : List α} {e : ε} (h : xs.mapM f = .error e) :
    ∃ before x after, xs = before ++ x :: after ∧ (∀ y ∈ before, ∃ b, f y = .ok b) ∧ f x = .error e := by
  induction xs with
  | nil => cases h
  | cons x xs ih =>
    rw [List.mapM_cons] at h
    cases hx : f x with
    | error other =>
      rw [hx] at h
      cases h
      exact ⟨[], x, xs, rfl, nofun, hx⟩
    | ok b =>
      rw [hx] at h
      cases hrest : xs.mapM f with
      | ok rest =>
        rw [hrest] at h
        cases h
      | error other =>
        rw [hrest] at h
        cases h
        obtain ⟨before, y, after, rfl, hbefore, hy⟩ := ih hrest
        exact ⟨x :: before, y, after, rfl, List.forall_mem_cons.mpr ⟨⟨b, hx⟩, hbefore⟩, hy⟩

/-- A cache as it is created. -/
inductive Cache.New : Cache → Prop where
  | passThrough (name : String) : New (.passThrough name)
  | created {name : String} {tuning : Tuning} {cache : Cache} (h : createLocal name tuning = .ok cache) : New cache

/-- A new store is empty and has started no load. -/
theorem Cache.New.store {store : LocalStore} (h : New (.local store)) :
    store.entries = ∅ ∧ store.inFlight = ∅ ∧ store.nextLoad = 0 ∧ store.upkeep = .start := by
  cases h with
  | @created name tuning _ h =>
    obtain ⟨created, hcreated, heq⟩ := exists_of_map_eq_ok h
    obtain ⟨_, -, rfl⟩ := exists_of_map_eq_ok hcreated
    cases heq
    exact ⟨rfl, rfl, rfl, rfl⟩

namespace Registry

/-- The registries that new caches can be registered to one by one. -/
inductive Built : Registry → Prop where
  | empty : Built ∅
  | register {registry next : Registry} {cache : Cache} (built : Built registry) (new : cache.New)
      (h : registry.register cache = .ok next) : Built next

theorem find?_register {registry next : Registry} {cache : Cache} (h : registry.register cache = .ok next)
    (name : String) : next.find? name = if name = cache.name then some cache else registry.find? name := by
  unfold register at h
  split at h
  · cases h
  · split at h
    · cases h
    · cases h
      exact Dictionary.find?_insert ..

theorem Built.new {registry : Registry} (built : Built registry) {name : String} {cache : Cache}
    (h : registry.find? name = some cache) : cache.New ∧ cache.name = name := by
  induction built with
  | empty => cases h
  | register _ new hreg ih =>
    rw [find?_register hreg] at h
    split at h
    next heq =>
      cases h
      exact ⟨new, heq.symm⟩
    next => exact ih h

theorem new_cacheFor {config : Config} {name : String} {cache : Cache} (h : cacheFor config name = .ok cache) :
    cache.New := by
  unfold cacheFor at h
  split at h
  · exact .created h
  · cases h
    exact .passThrough name

/-- One more cache as the configuration describes it. -/
def registerFor (config : Config) (registry : Registry) (name : String) : Except ConfigFault Registry := do
  let cache ← cacheFor config name
  registry.register cache

theorem built_registerFor {config : Config} {registry next : Registry} {name : String} (built : Built registry)
    (h : registerFor config registry name = .ok next) : Built next := by
  obtain ⟨cache, hcache, hreg⟩ := exists_of_bind_eq_ok h
  exact built.register (new_cacheFor hcache) hreg

theorem built_foldlM {config : Config} (names : List String) {registry next : Registry} (built : Built registry)
    (h : names.foldlM (registerFor config) registry = .ok next) : Built next := by
  induction names generalizing registry with
  | nil =>
    cases h
    exact built
  | cons name names ih =>
    rw [List.foldlM_cons] at h
    obtain ⟨step, hstep, hrest⟩ := exists_of_bind_eq_ok h
    exact ih (built_registerFor built hstep) hrest

/-- The caches are registered one after the other, up to the first fault. -/
theorem createEach_result (config : Config) (registry : Registry) (names : List String) :
    (createEach config registry names).2 = names.foldlM (registerFor config) registry := by
  induction names generalizing registry with
  | nil => rfl
  | cons name rest ih =>
    rw [createEach, List.foldlM_cons, registerFor]
    cases cacheFor config name with
    | error fault => rfl
    | ok cache =>
      show _ = registry.register cache >>= fun next => rest.foldlM (registerFor config) next
      dsimp only
      cases registry.register cache with
      | error fault => rfl
      | ok next => exact ih next

theorem createEach_notices (config : Config) (registry : Registry) (names : List String) :
    (createEach config registry names).1.filterMap Act.notice? = [] := by
  induction names generalizing registry with
  | nil => rfl
  | cons name rest ih =>
    rw [createEach]
    cases cacheFor config name with
    | error fault => rfl
    | ok cache =>
      dsimp only
      cases registry.register cache with
      | error fault => rfl
      | ok next => exact ih next

theorem building_result (names : List String) (config : Config) (backend : Backend) :
    (building names config backend).2 = (distinctNames names).foldlM (registerFor config) empty := by
  rw [← createEach_result, building]
  rcases createEach config empty (distinctNames names) with ⟨acts, _ | registry⟩ <;> rfl

theorem ofConfig_eq (names : List String) (config : Config) : ofConfig names config = (do
    let _ ← config.backend
    (distinctNames names).foldlM (registerFor config) empty) := by
  rw [ofConfig, assemble]
  cases config.backend with
  | error fault => rfl
  | ok backend => exact building_result names config backend

/-- With a backend that is known, every name that is configured in vain is reported, and at last the registry, if it
could be built. -/
theorem noticesOfConfig_eq (names : List String) (config : Config) : noticesOfConfig names config =
    match config.backend with
    | .error _ => []
    | .ok backend =>
      (unlisted names config).map .configurationIgnored ++
        match ofConfig names config with
        | .ok registry => [.registryBuilt config.enabled backend registry.size]
        | .error _ => [] := by
  have hcreated := createEach_notices config empty (distinctNames names)
  rw [noticesOfConfig, ofConfig, assemble]
  cases config.backend with
  | error fault => rfl
  | ok backend =>
    have hwarned : ((unlisted names config).map fun name => Act.notice (.configurationIgnored name)).filterMap
        Act.notice? = (unlisted names config).map .configurationIgnored := by
      rw [List.filterMap_map, ← List.filterMap_eq_map]
      rfl
    dsimp only
    rw [List.filterMap_append, hwarned, building]
    generalize createEach config empty (distinctNames names) = loop at hcreated ⊢
    obtain ⟨acts, fault | registry⟩ := loop
    · exact congrArg _ hcreated
    · dsimp only at hcreated ⊢
      rw [List.filterMap_append, hcreated]
      rfl

/-- What a configuration describes is built like any other registry. -/
theorem built_ofConfig {names : List String} {config : Config} {registry : Registry}
    (h : ofConfig names config = .ok registry) : Built registry := by
  rw [ofConfig_eq] at h
  obtain ⟨_, -, hfold⟩ := exists_of_bind_eq_ok h
  exact built_foldlM _ .empty hfold

/-! ### A registry of one cache -/

/-- A new local cache by itself. -/
def sole (name : String) (tuning : Tuning) : Registry :=
  ⟨(∅ : Dictionary Cache).insert name (.local ⟨name, tuning, ∅, ∅, 0, .start⟩)⟩

theorem built_sole {name : String} {tuning : Tuning} (hname : name ≠ "") (h : tuning.check name = .ok ()) :
    (sole name tuning).Built := by
  have hcreated : Cache.createLocal name tuning = .ok (.local ⟨name, tuning, ∅, ∅, 0, .start⟩) := by
    rw [Cache.createLocal, LocalStore.create, h]
    rfl
  exact .register .empty (.created hcreated) (if_neg hname)

end Registry

/-- A flag with its type. -/
def Typed.flag (value : Bool) : Typed .flag := ⟨.flag value, rfl⟩

end SingleFlight
