import SingleFlight.Event
import SingleFlight.Registry

/-!
# The caches and their loads

The state that all callers share: the clock, the caches, every load that was ever started, and the trace. A load is
shared by the callers that joined it and advances only while one of them is polled.

The operations here are the elementary steps of every run: a lookup, the end of a load, an invalidation.
-/

namespace SingleFlight

/-- When a caller stops waiting for a load, and the call it makes then. -/
structure Patience (τ : ValueType) where
  due : Nat
  lockTimeout : Duration
  call : Call
  loader : Loader τ

mutual
/-- A get in progress. -/
inductive Get (τ : ValueType) where
  /-- It has not looked its key up yet. -/
  | asking (request : Request) (loader : Loader τ)
  /-- It waits for a shared load, without bound or until its patience ends. -/
  | awaiting (cache : String) (key : Key) (load : Nat) (patience : Option (Patience τ))
  /-- It runs its loader itself. -/
  | loading (cache : String) (run : Run τ)

/-- A loader in progress. -/
inductive Run (τ : ValueType) where
  /-- It is about to be called. -/
  | calling (call : Call) (loader : Loader τ)
  | running (loader : Loader τ)
  | sleeping (due : Nat) (loader : Loader τ)
  /-- It waits for a get of its own. -/
  | nested (get : Get τ)
end

/-- How far a shared load has come. -/
inductive LoadState where
  | idle (τ : ValueType) (run : Run τ)
  /-- It is being advanced right now. -/
  | busy
  | ended (outcome : LoadResult)

/-- A load that a lookup started. -/
structure Load where
  cache : String
  key : Key
  /-- Its number in the store of its cache. -/
  number : Nat
  state : LoadState

structure System where
  now : Nat
  registry : Registry
  /-- Every load ever started, in the order in which they were. -/
  loads : List Load
  /-- The events so far, last first. -/
  history : List Stamped

namespace System

/-- A system that starts at time 0 with nothing loaded. -/
def start (registry : Registry) : System := ⟨0, registry, [], []⟩

/-- The events so far, in order. -/
def trace (s : System) : Trace := s.history.reverse

def emit (s : System) (event : Event) : System := { s with history := ⟨s.now, event⟩ :: s.history }

/-- The local store of that name. -/
def store? (s : System) (name : String) : Option LocalStore := (s.registry.find? name).bind Cache.store?

def mapStore (s : System) (name : String) (f : LocalStore → LocalStore) : System :=
  { s with registry := ⟨s.registry.caches.modify name (·.mapStore f)⟩ }

def load? (s : System) (id : Nat) : Option Load := s.loads[id]?

def setLoad (s : System) (id : Nat) (state : LoadState) : System :=
  { s with loads := s.loads.modify id fun load => { load with state } }

/-- The outcome of a load that has ended. -/
def outcome? (s : System) (id : Nat) : Option LoadResult :=
  match s.load? id with
  | some ⟨_, _, _, .ended outcome⟩ => some outcome
  | _ => none

/-- The cache that a request reaches through its entry point. -/
def reach (s : System) (request : Request) : Except CacheFault Cache := do
  let cache ← s.registry.require request.cache
  if request.entryPoint.needsStore then
    let _ ← cache.requireStore
  return cache

/-- Starts a load for the key. Its loader is called when it is advanced first. -/
def launch (s : System) (store : LocalStore) (call : Call) (loader : Loader τ) : System :=
  { s.mapStore store.name (·.launch s.now call.key s.loads.length) with
    loads := s.loads ++ [⟨store.name, call.key, store.nextLoad, .idle τ (.calling call loader)⟩] }

/-- Reads the key, or joins the load in flight for it, or starts one. -/
def lookUp (s : System) (store : LocalStore) (call : Call) (loader : Loader τ) : System × Found :=
  match store.peek s.now call.key with
  | some value =>
    ((s.mapStore store.name (·.touch s.now call.key)).emit (.lookedUp store.name call.key (.stored value)),
      .stored value)
  | none =>
    match store.inFlight.find? call.key with
    | some flight =>
      ((s.mapStore store.name (·.miss s.now call.key)).emit (.lookedUp store.name call.key (.joined flight.load)),
        .joined flight.load)
    | none =>
      ((s.launch store call loader).emit (.lookedUp store.name call.key (.started s.loads.length)),
        .started s.loads.length)

/-- The load with that number is the one in flight for the key. -/
def inFlight (s : System) (cache : String) (key : Key) (number : Nat) : Bool :=
  match s.store? cache with
  | some store => decide ((store.inFlight.find? key).map (·.number) = some number)
  | none => false

/-- What the end of the load in flight for the key brings to its store. -/
def conclude (now : Nat) (key : Key) (outcome : LoadResult) (store : LocalStore) : LocalStore :=
  match outcome with
  | .ok value => (store.put now key value).land key
  | .error _ => store.land key

/-- Ends a load. Only if it is still the one in flight for its key, its value is stored and the key is set free. -/
def land (s : System) (id : Nat) (cache : String) (key : Key) (number : Nat) (outcome : LoadResult) : System :=
  let kept := s.inFlight cache key number
  let s := if kept then s.mapStore cache (conclude s.now key outcome) else s
  (s.setLoad id (.ended outcome)).emit (.landed id cache key outcome kept)

/-- Forgets one key of a cache. A cache that passes calls through has nothing to forget. -/
def invalidateIn (s : System) (cache : Cache) (key : Key) : System :=
  match cache with
  | .local store => (s.mapStore store.name (·.invalidate s.now key)).emit (.invalidated store.name key)
  | .passThrough _ => s

def invalidateAllIn (s : System) (cache : Cache) : System :=
  match cache with
  | .local store => (s.mapStore store.name (·.invalidateAll)).emit (.allInvalidated store.name)
  | .passThrough _ => s

/-- Runs upkeep on the store of the named cache. -/
def tend (s : System) (cache : String) : System := s.mapStore cache (·.tend s.now [])

/-- Forgets one key of the named cache. -/
def invalidate (s : System) (cache : String) (key : Key) : Except CacheFault System :=
  (s.invalidateIn · key) <$> s.registry.require cache

def invalidateAll (s : System) (cache : String) : Except CacheFault System :=
  s.invalidateAllIn <$> s.registry.require cache

/-- Moves the clock forward. -/
def elapse (s : System) (ms : Nat) : System := { s with now := s.now + ms }

/-! ### What a change leaves alone -/

section
variable (s : System) (event : Event) (name : String) (f : LocalStore → LocalStore) (id : Nat) (state : LoadState)

@[simp] theorem now_emit : (s.emit event).now = s.now := rfl

@[simp] theorem registry_emit : (s.emit event).registry = s.registry := rfl

@[simp] theorem loads_emit : (s.emit event).loads = s.loads := rfl

@[simp] theorem history_emit : (s.emit event).history = ⟨s.now, event⟩ :: s.history := rfl

@[simp] theorem store?_emit : (s.emit event).store? name = s.store? name := rfl

@[simp] theorem load?_emit : (s.emit event).load? id = s.load? id := rfl

@[simp] theorem now_setLoad : (s.setLoad id state).now = s.now := rfl

@[simp] theorem registry_setLoad : (s.setLoad id state).registry = s.registry := rfl

@[simp] theorem history_setLoad : (s.setLoad id state).history = s.history := rfl

@[simp] theorem store?_setLoad : (s.setLoad id state).store? name = s.store? name := rfl

@[simp] theorem length_loads_setLoad : (s.setLoad id state).loads.length = s.loads.length := by simp [setLoad]

theorem load?_setLoad (other : Nat) : (s.setLoad id state).load? other =
    if other = id then (s.load? other).map fun load => { load with state } else s.load? other := by
  by_cases h : other = id
  · subst h
    simp [load?, setLoad]
  · simp [load?, setLoad, h, Ne.symm h]

@[simp] theorem now_mapStore : (s.mapStore name f).now = s.now := rfl

@[simp] theorem loads_mapStore : (s.mapStore name f).loads = s.loads := rfl

@[simp] theorem history_mapStore : (s.mapStore name f).history = s.history := rfl

@[simp] theorem load?_mapStore : (s.mapStore name f).load? id = s.load? id := rfl

theorem find?_mapStore (other : String) : (s.mapStore name f).registry.find? other =
    if other = name then (s.registry.find? other).map (·.mapStore f) else s.registry.find? other :=
  Dictionary.find?_modify _ _ _ _

theorem store?_mapStore (other : String) : (s.mapStore name f).store? other =
    if other = name then (s.store? other).map f else s.store? other := by
  rw [store?, find?_mapStore]
  by_cases h : other = name
  · rw [if_pos h, if_pos h, store?]
    cases s.registry.find? other <;> simp
  · rw [if_neg h, if_neg h, store?]

@[simp] theorem registry_elapse (ms : Nat) : (s.elapse ms).registry = s.registry := rfl

@[simp] theorem loads_elapse (ms : Nat) : (s.elapse ms).loads = s.loads := rfl

@[simp] theorem history_elapse (ms : Nat) : (s.elapse ms).history = s.history := rfl

end

/-! ### The two ends of a load -/

theorem land_of_kept {s : System} {cache : String} {key : Key} {number : Nat}
    (h : s.inFlight cache key number = true) (id : Nat) (outcome : LoadResult) :
    s.land id cache key number outcome =
      ((s.mapStore cache (conclude s.now key outcome)).setLoad id (.ended outcome)).emit
        (.landed id cache key outcome true) := by
  simp only [land, h, if_true]

theorem land_of_detached {s : System} {cache : String} {key : Key} {number : Nat}
    (h : s.inFlight cache key number = false) (id : Nat) (outcome : LoadResult) :
    s.land id cache key number outcome =
      (s.setLoad id (.ended outcome)).emit (.landed id cache key outcome false) := by
  simp only [land, h, Bool.false_eq_true, if_false]

/-- What a caller that asks for type `τ` is told about a stored value. -/
def typed (τ : ValueType) (cache : String) (value : Stored Value) : Outcome CacheFault (Option (Typed τ)) :=
  match value.toOption with
  | none => .value none
  | some v =>
    match v.as? τ with
    | some v => .value (some v)
    | none => .failed (.valueType cache τ.name)

/-- What a caller that waited for a load is told about its outcome. -/
def typedResult (τ : ValueType) (cache : String) : LoadResult → Outcome CacheFault (Option (Typed τ))
  | .ok value => typed τ cache value
  | .error failure => .failed (.computation cache failure)

/-- How a load ends whose loader ended so. -/
def loadResult (outcome : Outcome Failure (Option (Typed τ))) : LoadResult :=
  match outcome with
  | .value v => .ok (.ofOption (v.map (·.val)))
  | .failed failure => .error failure
  | .panicked payload => .error (.panic payload.message)

end System

end SingleFlight
