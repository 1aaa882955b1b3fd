import SingleFlight.Log
import SingleFlight.Store

/-!
# Caches and their registry

* a cache is a local store, or passes every call through to its loader;
* a registry maps names to caches; a name is registered once, and never an empty one;
* building a registry from a configuration is a row of acts (`Registry.assemble`): names that are configured but not
  listed are reported first, then one cache is created for each name that is listed, and at last the registry is
  reported.
-/

namespace SingleFlight

/-- A named cache. -/
inductive Cache where
  | local (store : LocalStore)
  | passThrough (name : String)

namespace Cache

def name : Cache → String
  | .local store => store.name
  | passThrough name => name

def kind : Cache → String
  | .local _ => "local"
  | passThrough _ => "no-op"

/-- The name of the kind in the cache's description. -/
def kindTitle : Cache → String
  | .local _ => "Local"
  | passThrough _ => "NoOp"

def describe (cache : Cache) : String :=
  "Cache \x7b name: " ++ Text.quoted cache.name ++ ", kind: " ++ cache.kindTitle ++ " \x7d"

def ownKey (cache : Cache) : Key := .default cache.name

def store? : Cache → Option LocalStore
  | .local store => some store
  | passThrough _ => none

/-- The local store behind the cache. -/
def requireStore (cache : Cache) : Except CacheFault LocalStore :=
  match cache with
  | .local store => .ok store
  | passThrough name => .error (.unsupportedKind name "local")

def mapStore (f : LocalStore → LocalStore) : Cache → Cache
  | .local store => .local (f store)
  | passThrough name => passThrough name

theorem name_mapStore {f : LocalStore → LocalStore} (hf : ∀ store, (f store).name = store.name) :
    (cache : Cache) → (cache.mapStore f).name = cache.name
  | .local store => hf store
  | .passThrough _ => rfl

@[simp]
theorem store?_mapStore (f : LocalStore → LocalStore) (cache : Cache) :
    (cache.mapStore f).store? = cache.store?.map f := by
  cases cache <;> rfl

/-- Counters are kept for the cache. -/
def countsMetrics : Cache → Bool
  | .local store => store.tuning.countsMetrics
  | passThrough _ => false

/-- A cache whose tuning is one a store can keep to. -/
def createLocal (name : String) (tuning : Tuning) : Except ConfigFault Cache :=
  .local <$> LocalStore.create name tuning

end Cache

/-- Caches by name. -/
structure Registry where
  caches : Dictionary Cache

namespace Registry

def empty : Registry := ⟨∅⟩

instance : EmptyCollection Registry := ⟨empty⟩

instance : Inhabited Registry := ⟨empty⟩

/-- Adds a cache under its own name. -/
def register (registry : Registry) (cache : Cache) : Except ConfigFault Registry :=
  if cache.name = "" then .error .emptyName
  else if registry.caches.contains cache.name then .error (.duplicateName cache.name)
  else .ok ⟨registry.caches.insert cache.name cache⟩

def names (registry : Registry) : List String := registry.caches.keys

def size (registry : Registry) : Nat := registry.caches.size

def find? (registry : Registry) (name : String) : Option Cache := registry.caches.find? name

def require (registry : Registry) (name : String) : Except CacheFault Cache :=
  match registry.find? name with
  | some cache => .ok cache
  | none => .error (.unknownCache name)

def describe (registry : Registry) : String :=
  "CacheRegistry \x7b caches: \x7b" ++
    String.intercalate ", " (registry.caches.entries.map fun e => Text.quoted e.1 ++ ": " ++ e.2.describe) ++
    "\x7d \x7d"

/-- The cache that the configuration describes for a name. -/
def cacheFor (config : Config) (name : String) : Except ConfigFault Cache :=
  if config.enabled then Cache.createLocal name (config.tuningOf name) else .ok (.passThrough name)

/-- Names that are configured but not listed, ascending. -/
def unlisted (names : List String) (config : Config) : List String :=
  config.caches.keys.filter fun name => decide (name ∉ names)

/-- What happens while a registry is built. -/
inductive Act where
  | notice (given : Notice)
  | created (cache : Cache)

def Act.notice? : Act → Option Notice
  | notice given => some given
  | created _ => none

/-- Creates and registers a cache for each of the names, up to the first fault. -/
def createEach (config : Config) (registry : Registry) : List String → List Act × Except ConfigFault Registry
  | [] => ([], .ok registry)
  | name :: rest =>
    match cacheFor config name with
    | .error fault => ([], .error fault)
    | .ok cache =>
      match registry.register cache with
      | .error fault => ([.created cache], .error fault)
      | .ok next =>
        let (acts, result) := createEach config next rest
        (.created cache :: acts, result)

/-- Creates the caches in ascending order of their names, and reports the registry if there is one. -/
def building (names : List String) (config : Config) (backend : Backend) : List Act × Except ConfigFault Registry :=
  match createEach config empty (distinctNames names) with
  | (acts, .ok registry) => (acts ++ [.notice (.registryBuilt config.enabled backend registry.size)], .ok registry)
  | (acts, .error fault) => (acts, .error fault)

/-- The acts of building a registry in their order, and what it comes to. Nothing happens if the backend is not
known. -/
def assemble (names : List String) (config : Config) : List Act × Except ConfigFault Registry :=
  match config.backend with
  | .error fault => ([], .error fault)
  | .ok backend =>
    let (acts, result) := building names config backend
    ((unlisted names config).map (fun name => .notice (.configurationIgnored name)) ++ acts, result)

/-- One cache for each name. -/
def ofConfig (names : List String) (config : Config) : Except ConfigFault Registry := (assemble names config).2

/-- What building the registry reports. -/
def noticesOfConfig (names : List String) (config : Config) : List Notice :=
  (assemble names config).1.filterMap Act.notice?

end Registry

end SingleFlight
