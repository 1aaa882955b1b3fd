import SingleFlight.Proofs.Observation

/-!
# Invalidation

Keys that are invalidated one after the other leave the entries and the loads in flight of the other keys.

* what is left does not depend on their order or on repetitions (`LocalStore.trimmed_forget`,
  `LocalStore.twins_forget`). Only upkeep that an invalidation sets off does: with a size limit it may let go of values
  of other keys;
* an invalidation leaves the clock, the loads, the tasks, the counters and the other caches as they are
  (`Session.SameWork`), and so do many (`Session.sameWork_run`).
-/

namespace SingleFlight

namespace Assoc

variable {κ : Type u} {α : Type v} [DecidableEq κ]

theorem erase_of_find?_eq_none {m : Assoc κ α} {k : κ} (h : m.find? k = none) : m.erase k = m := by
  refine ext_pairs (List.filter_eq_self.2 fun e hmem => decide_eq_true ?_)
  rintro rfl
  have hkey : e.1 ∈ m.keys := List.mem_map_of_mem hmem
  rw [mem_keys, h] at hkey
  cases hkey

theorem eq_empty_of_find? {m : Assoc κ α} (h : ∀ k, m.find? k = none) : m = ∅ := by
  refine ext_pairs (List.eq_nil_iff_forall_not_mem.2 fun e hmem => ?_)
  have hkey : e.1 ∈ m.keys := List.mem_map_of_mem hmem
  rw [mem_keys, h] at hkey
  cases hkey

theorem filter_erase (m : Assoc κ α) (key : κ) (keys : List κ) :
    ((m.erase key).filter fun k _ => !keys.contains k) = m.filter fun k _ => !(key :: keys).contains k := by
  refine ext_pairs ?_
  simp only [filter, erase, List.filter_filter]
  refine List.filter_congr fun e _ => ?_
  by_cases hkey : e.1 = key <;> simp [hkey]

end Assoc

namespace Upkeep

theorem tracks_noteChange_removed (u : Upkeep) (key : Key) : (u.noteChange (.removed key)).tracks key = false := by
  simp [tracks, noteChange, Change.key, Change.isStored]

theorem withoutIdle_eq_nil {idle : Key → Bool} {queue : List Key} (h : ∀ key ∈ queue, idle key = true) :
    withoutIdle [] idle queue = [] := by
  induction queue with
  | nil => rfl
  | cons key rest ih =>
    obtain ⟨hfirst, hrest⟩ := List.forall_mem_cons.1 h
    simp [withoutIdle, awaited, hfirst, ih hrest]

end Upkeep

namespace LocalStore

/-! ### Keys that are forgotten -/

/-- The store without the entries and the loads in flight of those keys. -/
def cleared (store : LocalStore) (keys : List Key) : LocalStore :=
  { store with
    entries := store.entries.filter fun key _ => !keys.contains key
    inFlight := store.inFlight.filter fun key _ => !keys.contains key }

/-- The keys are invalidated in turn. -/
def forget (store : LocalStore) (now : Nat) (keys : List Key) : LocalStore :=
  keys.foldl (fun store key => store.invalidate now key) store

variable {a b store : LocalStore} {now : Nat}

theorem cleared_nil (store : LocalStore) : store.cleared [] = store := by
  have hfilter {α : Type} (m : Assoc Key α) : (m.filter fun key _ => !([] : List Key).contains key) = m :=
    Assoc.ext_pairs (by simp [Assoc.filter])
  simp only [cleared, hfilter]

theorem cleared_cons (store : LocalStore) (key : Key) (keys : List Key) :
    cleared { store with entries := store.entries.erase key, inFlight := store.inFlight.erase key } keys =
      store.cleared (key :: keys) := by
  simp only [cleared, Assoc.filter_erase]

/-- Only which keys are cleared matters. -/
theorem cleared_congr (store : LocalStore) {keys keys' : List Key} (h : ∀ key, key ∈ keys ↔ key ∈ keys') :
    store.cleared keys = store.cleared keys' := by
  have hcontains (key : Key) : keys.contains key = keys'.contains key := by
    rw [Bool.eq_iff_iff, List.contains_iff_mem, List.contains_iff_mem, h]
  simp only [cleared, hcontains]

theorem find?_inFlight_cleared (store : LocalStore) (keys : List Key) (key : Key) :
    (store.cleared keys).inFlight.find? key = if key ∈ keys then none else store.inFlight.find? key := by
  rw [cleared, Assoc.find?_filter_key store.inFlight fun key => !keys.contains key]
  by_cases hkey : key ∈ keys <;> simp [hkey]

theorem find?_entries_cleared (store : LocalStore) (keys : List Key) (key : Key) :
    (store.cleared keys).entries.find? key = if key ∈ keys then none else store.entries.find? key := by
  rw [cleared, Assoc.find?_filter_key store.entries fun key => !keys.contains key]
  by_cases hkey : key ∈ keys <;> simp [hkey]

theorem peek_cleared (store : LocalStore) (keys : List Key) (now : Nat) (key : Key) :
    (store.cleared keys).peek now key = if key ∈ keys then none else store.peek now key := by
  by_cases hkey : key ∈ keys
  · rw [if_pos hkey]
    exact peek_eq_none_of_find? (by rw [find?_entries_cleared, if_pos hkey])
  · simp only [peek, find?_entries_cleared, if_neg hkey]
    rfl

theorem Trimmed.cleared (h : Trimmed a b) (keys : List Key) : Trimmed (a.cleared keys) (b.cleared keys) where
  name := h.name
  tuning := h.tuning
  inFlight := congrArg (Assoc.filter fun key _ => !keys.contains key) h.inFlight
  nextLoad := h.nextLoad
  entries key := by
    rw [find?_entries_cleared, find?_entries_cleared]
    by_cases hkey : key ∈ keys
    · exact .inl (by rw [if_pos hkey, if_pos hkey])
    · rw [if_neg hkey, if_neg hkey]
      exact h.entries key

theorem Twins.cleared (h : a.Twins b) (keys : List Key) : (a.cleared keys).Twins (b.cleared keys) where
  name := h.name
  tuning := h.tuning
  entries := congrArg (Assoc.filter fun key _ => !keys.contains key) h.entries
  inFlight := congrArg (Assoc.filter fun key _ => !keys.contains key) h.inFlight
  nextLoad := h.nextLoad
  unbounded := h.unbounded

/-- Upkeep apart, the keys that are forgotten are cleared, whatever their order. -/
theorem trimmed_forget (store : LocalStore) (now : Nat) (keys : List Key) :
    Trimmed (store.cleared keys) (store.forget now keys) := by
  -- the other keys are invalidated in a store that upkeep may have trimmed after the first one
  induction keys generalizing store with
  | nil =>
    rw [cleared_nil]
    exact .refl store
  | cons key keys ih =>
    have hfirst := (trimmed_invalidate store now key).cleared keys
    rw [cleared_cons] at hfirst
    exact hfirst.trans (ih (store.invalidate now key))

theorem twins_forget (h : store.tuning.maximumSize = none) (now : Nat) (keys : List Key) :
    (store.forget now keys).Twins (store.cleared keys) := by
  induction keys generalizing store with
  | nil =>
    rw [cleared_nil]
    exact .refl h
  | cons key keys ih =>
    have hfirst := twins_invalidate h now key
    have hrest := hfirst.cleared keys
    rw [cleared_cons] at hrest
    exact (ih hfirst.unbounded).trans hrest

/-- A key that is forgotten has no value from then on, and any other one keeps its value unless a size limit costs
it. -/
theorem peek_forget (store : LocalStore) (now : Nat) (keys : List Key) (later : Nat) (key : Key) :
    (key ∈ keys → (store.forget now keys).peek later key = none) ∧
      (key ∉ keys → Keeps store (store.forget now keys) later key) := by
  have hkept := (trimmed_forget store now keys).keeps later key
  constructor
  · intro hkey
    refine hkept.peek_eq_none ?_
    rw [peek_cleared, if_pos hkey]
  · intro hkey
    unfold Keeps at hkept ⊢
    rw [peek_cleared, if_neg hkey] at hkept
    exact hkept

theorem inFlight_forget (store : LocalStore) (now : Nat) (keys : List Key) :
    (store.forget now keys).inFlight = (store.cleared keys).inFlight := (trimmed_forget store now keys).inFlight

@[simp] theorem name_forget (store : LocalStore) (now : Nat) (keys : List Key) :
    (store.forget now keys).name = store.name := (trimmed_forget store now keys).name

@[simp] theorem tuning_forget (store : LocalStore) (now : Nat) (keys : List Key) :
    (store.forget now keys).tuning = store.tuning := (trimmed_forget store now keys).tuning

@[simp] theorem nextLoad_forget (store : LocalStore) (now : Nat) (keys : List Key) :
    (store.forget now keys).nextLoad = store.nextLoad := (trimmed_forget store now keys).nextLoad

/-! ### One key twice, or one that is not there -/

/-- What the store holds nothing of can be invalidated without a trace. -/
theorem invalidate_of_untracked {key : Key} (hentry : store.entries.find? key = none)
    (hflight : store.inFlight.find? key = none) (huntracked : store.upkeep.tracks key = false) (now : Nat) :
    store.invalidate now key = store := by
  rw [invalidate, Assoc.erase_of_find?_eq_none hentry, Assoc.erase_of_find?_eq_none hflight, huntracked]
  rfl

theorem untracked_invalidate (store : LocalStore) (now : Nat) (key : Key) :
    (store.invalidate now key).upkeep.tracks key = false := by
  unfold invalidate
  dsimp only
  split
  · exact Upkeep.tracks_noteChange_removed _ key
  next htracks => exact Bool.eq_false_iff.2 htracks

/-- To invalidate a key once more changes nothing. -/
theorem invalidate_invalidate (store : LocalStore) (now later : Nat) (key : Key) :
    (store.invalidate now key).invalidate later key = store.invalidate now key := by
  refine invalidate_of_untracked ?_ ?_ (untracked_invalidate store now key) later
  · rcases (trimmed_invalidate store now key).entries key with heq | ⟨-, hnone⟩
    · exact heq.trans (Assoc.find?_erase_self store.entries key)
    · exact hnone
  · rw [inFlight_invalidate, Assoc.find?_erase_self]

/-- A key that is not contained has no value and no load in flight. -/
theorem of_not_contains {key : Key} (h : store.contains now key = false) :
    store.inFlight.find? key = none ∧ ∀ later, now ≤ later → store.peek later key = none := by
  simp only [contains, Bool.or_eq_false_iff, Option.isSome_eq_false_iff, Option.isNone_iff_eq_none] at h
  refine ⟨h.1, fun later hle => ?_⟩
  cases hlater : store.peek later key with
  | none => rfl
  | some value =>
    rw [peek_mono hle hlater] at h
    cases h.2

/-- To invalidate a key that is not contained costs no value, unless upkeep with a size limit does. -/
theorem keeps_invalidate_of_not_contains {key : Key} (h : store.contains now key = false) {later : Nat}
    (hle : now ≤ later) (other : Key) : Keeps store (store.invalidate now key) later other := by
  by_cases hother : other = key
  · subst hother
    have hnone := (of_not_contains h).2 later hle
    exact .inl (((peek_forget store now [other] later other).1 (List.mem_singleton.2 rfl)).trans hnone.symm)
  · exact (peek_forget store now [key] later other).2 fun hmem => hother (List.mem_singleton.1 hmem)

theorem inFlight_invalidate_of_not_contains {key : Key} (h : store.contains now key = false) :
    (store.invalidate now key).inFlight = store.inFlight := by
  rw [inFlight_invalidate]
  exact Assoc.erase_of_find?_eq_none (of_not_contains h).1

/-- Without a size limit the same keys are contained afterwards. -/
theorem contains_invalidate_of_not_contains {key : Key} (h : store.contains now key = false)
    (hsize : store.tuning.maximumSize = none) (other : Key) :
    (store.invalidate now key).contains now other = store.contains now other := by
  rcases keeps_invalidate_of_not_contains h (Nat.le_refl now) other with heq | ⟨hsome, -⟩
  · rw [contains, contains, inFlight_invalidate_of_not_contains h, heq]
  · rw [hsize] at hsome
    cases hsome

/-! ### All keys -/

/-- Upkeep lets go of everything if there is no value. -/
theorem queue_tend_eq_nil (h : ∀ key, store.peek now key = none) : (store.tend now []).upkeep.queue = [] := by
  refine Upkeep.withoutIdle_eq_nil fun key hmem => ?_
  have hfresh : store.fresh now key = true := by simpa [Upkeep.awaited] using (List.mem_filter.1 hmem).2
  by_contra hidle
  have hvalue := isSome_peek_iff.2 ⟨hfresh, Bool.eq_false_iff.2 hidle⟩
  rw [h key] at hvalue
  cases hvalue

/-- The stores have the same loads in flight and give their next load the same number, they have the same values from
now on, and count the same. -/
structure SameHoldings (a b : LocalStore) (now : Nat) : Prop where
  name : a.name = b.name
  tuning : a.tuning = b.tuning
  inFlight : a.inFlight = b.inFlight
  nextLoad : a.nextLoad = b.nextLoad
  peek : ∀ key later, now ≤ later → a.peek later key = b.peek later key
  size : (a.tend now []).size = (b.tend now []).size

/-- To invalidate every key that is contained comes to invalidating all keys at once. -/
theorem forget_contained {keys : List Key} (h : ∀ key, store.contains now key = true → key ∈ keys) :
    (store.forget now keys).SameHoldings store.invalidateAll now := by
  have hflight : (store.forget now keys).inFlight = ∅ := by
    refine Assoc.eq_empty_of_find? fun key => ?_
    rw [inFlight_forget, find?_inFlight_cleared]
    by_cases hkey : key ∈ keys
    · exact if_pos hkey
    · rw [if_neg hkey]
      exact (of_not_contains (Bool.eq_false_iff.2 fun hcontains => hkey (h key hcontains))).1
  have hpeek (key : Key) (later : Nat) (hle : now ≤ later) : (store.forget now keys).peek later key = none := by
    obtain ⟨hforgotten, hkept⟩ := peek_forget store now keys later key
    by_cases hkey : key ∈ keys
    · exact hforgotten hkey
    · have hnone := of_not_contains (Bool.eq_false_iff.2 fun hcontains => hkey (h key hcontains))
      exact (hkept hkey).peek_eq_none (hnone.2 later hle)
  refine ⟨name_forget .., tuning_forget .., hflight, nextLoad_forget .., hpeek, ?_⟩
  -- no value is left, so upkeep lets go of all that it has queued, and nothing counts
  have hqueue : ((store.forget now keys).tend now []).upkeep.queue = [] :=
    queue_tend_eq_nil fun key => hpeek key now (Nat.le_refl now)
  have hqueue' : (store.invalidateAll.tend now []).upkeep.queue = [] :=
    queue_tend_eq_nil fun key => peek_invalidateAll store now key
  have hflights : ((store.forget now keys).tend now []).inFlight = ∅ := hflight
  rw [size, size, hqueue, hqueue', hflights]
  rfl

end LocalStore

namespace Session

/-! ### What invalidations leave alone -/

/-- The step invalidates a key of the cache, or all of them. -/
def Step.Forgets (name : String) : Step → Prop
  | .invalidate cache _ | .invalidateAll cache | .invalidateIn cache _ | .invalidateAllIn cache => cache = name
  | _ => False

/-- The sessions differ in the store of the cache and in the log at most: the clock, the loads, the tasks with what they
wait for, the other caches and the counters are the same. -/
structure SameWork (name : String) (x y : Session) : Prop where
  now : y.system.now = x.system.now
  loads : y.system.loads = x.system.loads
  tasks : y.tasks = x.tasks
  started : y.started = x.started
  others : ∀ other, other ≠ name → y.system.registry.find? other = x.system.registry.find? other
  counting : y.counting = x.counting
  counts : y.system.trace.counts y.counting = x.system.trace.counts x.counting

theorem SameWork.refl (name : String) (x : Session) : SameWork name x x :=
  ⟨rfl, rfl, rfl, rfl, fun _ _ => rfl, rfl, rfl⟩

theorem SameWork.trans {name : String} {x y z : Session} (h : SameWork name x y) (h' : SameWork name y z) :
    SameWork name x z where
  now := h'.now.trans h.now
  loads := h'.loads.trans h.loads
  tasks := h'.tasks.trans h.tasks
  started := h'.started.trans h.started
  others other hother := (h'.others other hother).trans (h.others other hother)
  counting := h'.counting.trans h.counting
  counts := h'.counts.trans h.counts

/-- An event that raises no counter leaves the counters. -/
theorem counts_emit (s : System) {event : Event} (h : event.counter? = none) (counting : String → Bool) :
    (s.emit event).trace.counts counting = s.trace.counts counting := by
  have hraised : ((s.emit event).trace.filterMap fun e => e.event.counter?) =
      s.trace.filterMap fun e => e.event.counter? := by
    rw [System.trace_emit, List.filterMap_append]
    simp [h]
  have hcount (id : CounterId) : (s.emit event).trace.count id = s.trace.count id := by
    rw [System.trace_emit, Trace.count, List.countP_append, Trace.count]
    simp [h]
  simp only [Trace.counts, hraised, hcount]

/-- A change of the cache's store that keeps its tuning, with an event that raises no counter. -/
theorem sameWork_mapStore (x : Session) (name : String) {f : LocalStore → LocalStore} {event : Event}
    (hf : ∀ store, (f store).tuning = store.tuning) (hevent : event.counter? = none) :
    SameWork name x { x with system := (x.system.mapStore name f).emit event } := by
  have hcounting : Session.counting { x with system := (x.system.mapStore name f).emit event } = x.counting := by
    funext other
    simp only [Session.counting, System.registry_emit, System.find?_mapStore]
    by_cases hother : other = name
    · rw [if_pos hother]
      rcases x.system.registry.find? other with _ | store | own
      · rfl
      · exact congrArg Tuning.countsMetrics (hf store)
      · rfl
    · rw [if_neg hother]
  refine ⟨rfl, rfl, rfl, rfl, fun other hother => ?_, hcounting, ?_⟩
  · exact (System.find?_mapStore x.system name f other).trans (if_neg hother)
  · rw [hcounting]
    exact counts_emit (x.system.mapStore name f) hevent x.counting

section
variable {x : Session} (named : x.system.Named) {name : String}
include named

theorem sameWork_invalidateIn {cache : Cache} (hfind : x.system.registry.find? name = some cache) (key : Key) :
    SameWork name x (x.mapSystem (·.invalidateIn cache key)) := by
  match cache with
  | .passThrough _ => exact .refl name x
  | .local store =>
    obtain rfl : store.name = name := named.name_of_find? hfind
    have hkept (other : LocalStore) : (other.invalidate x.system.now key).tuning = other.tuning :=
      LocalStore.tuning_invalidate other x.system.now key
    exact @sameWork_mapStore x store.name (·.invalidate x.system.now key) (.invalidated store.name key) hkept rfl

theorem sameWork_invalidateAllIn {cache : Cache} (hfind : x.system.registry.find? name = some cache) :
    SameWork name x (x.mapSystem (·.invalidateAllIn cache)) := by
  match cache with
  | .passThrough _ => exact .refl name x
  | .local store =>
    obtain rfl : store.name = name := named.name_of_find? hfind
    exact @sameWork_mapStore x store.name LocalStore.invalidateAll (.allInvalidated store.name) (fun _ => rfl) rfl

theorem sameWork_perform {step : Step} (forgets : step.Forgets name) : SameWork name x (x.perform step).1 := by
  cases step with
  | invalidate cache key =>
    obtain rfl : cache = name := forgets
    cases key with
    | error fault => exact .refl cache x
    | ok key =>
      simp only [Session.perform, System.invalidate]
      cases hrequire : x.system.registry.require cache with
      | error fault => exact .refl cache x
      | ok found => exact sameWork_invalidateIn named (System.find?_of_require hrequire) key
  | invalidateAll cache =>
    obtain rfl : cache = name := forgets
    simp only [Session.perform, System.invalidateAll]
    cases hrequire : x.system.registry.require cache with
    | error fault => exact .refl cache x
    | ok found => exact sameWork_invalidateAllIn named (System.find?_of_require hrequire)
  | invalidateIn cache key =>
    obtain rfl : cache = name := forgets
    cases key with
    | error fault => exact .refl cache x
    | ok key =>
      simp only [Session.perform]
      split
      next found hfind => exact sameWork_invalidateIn named hfind key
      next => exact .refl cache x
  | invalidateAllIn cache =>
    obtain rfl : cache = name := forgets
    simp only [Session.perform]
    split
    next found hfind => exact sameWork_invalidateAllIn named hfind
    next => exact .refl cache x
  | _ => cases forgets

end

theorem reached_step {x : Session} (h : x.system.Reached) (step : Step) : (x.step step).1.system.Reached :=
  h.moves (moves_run x [step])

/-- Invalidations leave alone what is at work. -/
theorem sameWork_run {x : Session} (h : x.system.Reached) {name : String} {steps : List Step}
    (forgets : ∀ step ∈ steps, step.Forgets name) : SameWork name x (x.run steps).1 := by
  induction steps generalizing x with
  | nil => exact .refl name x
  | cons step steps ih =>
    obtain ⟨hfirst, hrest⟩ := List.forall_mem_cons.1 forgets
    exact (sameWork_perform h.sound.named hfirst).trans (ih (reached_step h step) hrest)

/-! ### What invalidations make of the store -/

/-- The keys are invalidated in turn. -/
def forgetting (x : Session) (name : String) (keys : List Key) : Session :=
  (x.run (keys.map fun key => .invalidate name (.ok key))).1

section
variable {x : Session} {name : String} {store : LocalStore}

theorem step_invalidate (hfind : x.system.registry.find? name = some (.local store)) (key : Key) :
    (x.step (.invalidate name (.ok key))).1 = x.mapSystem (·.invalidateIn (.local store) key) := by
  have hrequire : x.system.registry.require name = .ok (.local store) := by rw [Registry.require, hfind]
  simp only [Session.step, Session.perform, System.invalidate, hrequire]
  rfl

theorem step_invalidateAll (hfind : x.system.registry.find? name = some (.local store)) :
    (x.step (.invalidateAll name)).1 = x.mapSystem (·.invalidateAllIn (.local store)) := by
  have hrequire : x.system.registry.require name = .ok (.local store) := by rw [Registry.require, hfind]
  simp only [Session.step, Session.perform, System.invalidateAll, hrequire]
  rfl

theorem find?_invalidateIn (named : x.system.Named) (hfind : x.system.registry.find? name = some (.local store))
    (key : Key) : (x.system.invalidateIn (.local store) key).registry.find? name =
      some (.local (store.invalidate x.system.now key)) := by
  obtain rfl : store.name = name := named.name_of_find? hfind
  refine (System.find?_mapStore x.system store.name _ store.name).trans ?_
  rw [if_pos rfl, hfind]
  rfl

theorem find?_invalidateAllIn (named : x.system.Named) (hfind : x.system.registry.find? name = some (.local store)) :
    (x.system.invalidateAllIn (.local store)).registry.find? name = some (.local store.invalidateAll) := by
  obtain rfl : store.name = name := named.name_of_find? hfind
  refine (System.find?_mapStore x.system store.name _ store.name).trans ?_
  rw [if_pos rfl, hfind]
  rfl

end

theorem find?_forgetting {x : Session} (h : x.system.Reached) {name : String} {store : LocalStore}
    (hfind : x.system.registry.find? name = some (.local store)) (keys : List Key) :
    (x.forgetting name keys).system.registry.find? name = some (.local (store.forget x.system.now keys)) := by
  induction keys generalizing x store with
  | nil => exact hfind
  | cons key keys ih =>
    have hfirst : (x.step (.invalidate name (.ok key))).1.system.registry.find? name =
        some (.local (store.invalidate x.system.now key)) := by
      rw [step_invalidate hfind key]
      exact find?_invalidateIn h.sound.named hfind key
    -- no time passes, so the other keys are invalidated at the same time
    have hnow : (x.step (.invalidate name (.ok key))).1.system.now = x.system.now := by
      rw [step_invalidate hfind key]
      rfl
    have hrest := ih (reached_step h (.invalidate name (.ok key))) hfirst
    rw [hnow] at hrest
    exact hrest

theorem reached_forgetting {x : Session} (h : x.system.Reached) (name : String) (keys : List Key) :
    (x.forgetting name keys).system.Reached :=
  h.moves (moves_run x _)

theorem sameWork_forgetting {x : Session} (h : x.system.Reached) (name : String) (keys : List Key) :
    SameWork name x (x.forgetting name keys) := by
  refine sameWork_run h fun step hstep => ?_
  obtain ⟨key, -, rfl⟩ := List.mem_map.1 hstep
  exact rfl

section
variable {x : Session} (reached : x.system.Reached) {name : String} {store : LocalStore}
  (hfind : x.system.registry.find? name = some (.local store))
include reached hfind

/-- Keys that are invalidated in another order, or more than once. -/
theorem forgetting_reordered {keys keys' : List Key} (h : ∀ key, key ∈ keys ↔ key ∈ keys') :
    ∃ a b, (x.forgetting name keys).system.registry.find? name = some (.local a) ∧
      (x.forgetting name keys').system.registry.find? name = some (.local b) ∧
      a.inFlight = b.inFlight ∧ a.nextLoad = b.nextLoad ∧
      (store.tuning.maximumSize = none → a.Twins b ∧ a.CountsNear b x.system.now) ∧
      ∀ key later, (key ∈ keys → a.peek later key = none ∧ b.peek later key = none) ∧
        (key ∉ keys → store.Keeps a later key ∧ store.Keeps b later key) := by
  have ha := find?_forgetting reached hfind keys
  have hb := find?_forgetting reached hfind keys'
  refine ⟨_, _, ha, hb, ?_, ?_, fun hsize => ?_, fun key later => ⟨fun hkey => ?_, fun hkey => ?_⟩⟩
  · rw [LocalStore.inFlight_forget, LocalStore.inFlight_forget, LocalStore.cleared_congr store h]
  · rw [LocalStore.nextLoad_forget, LocalStore.nextLoad_forget]
  · have htwins : (store.forget x.system.now keys).Twins (store.forget x.system.now keys') := by
      refine (LocalStore.twins_forget hsize x.system.now keys).trans ?_
      rw [LocalStore.cleared_congr store h]
      exact (LocalStore.twins_forget hsize x.system.now keys').symm
    have hcountable := (reached_forgetting reached name keys).countable ha htwins.unbounded
    have hcountable' := (reached_forgetting reached name keys').countable hb htwins.symm.unbounded
    rw [(sameWork_forgetting reached name keys).now] at hcountable
    rw [(sameWork_forgetting reached name keys').now] at hcountable'
    exact ⟨htwins, htwins.countsNear hcountable hcountable'⟩
  · exact ⟨(LocalStore.peek_forget store _ keys later key).1 hkey,
      (LocalStore.peek_forget store _ keys' later key).1 ((h key).1 hkey)⟩
  · exact ⟨(LocalStore.peek_forget store _ keys later key).2 hkey,
      (LocalStore.peek_forget store _ keys' later key).2 fun hmem => hkey ((h key).2 hmem)⟩

/-- A key that is invalidated although it is not contained. -/
theorem forgetting_not_contained {key : Key} (h : store.contains x.system.now key = false) :
    ∃ a, (x.forgetting name [key]).system.registry.find? name = some (.local a) ∧
      a.inFlight = store.inFlight ∧ a.nextLoad = store.nextLoad ∧
      (∀ other later, x.system.now ≤ later → store.Keeps a later other) ∧
      (store.tuning.maximumSize = none → ∃ keys : List Key, keys.Nodup ∧
        (∀ other, other ∈ keys ↔ store.contains x.system.now other = true) ∧
        (∀ other, other ∈ keys ↔ a.contains x.system.now other = true) ∧
        (store.tend x.system.now []).size = keys.length + (store.stale x.system.now).length ∧
        (a.tend x.system.now []).size = keys.length + (a.stale x.system.now).length) ∧
      (store.entries.find? key = none → store.upkeep.tracks key = false → a = store) := by
  have ha := find?_forgetting reached hfind [key]
  have hflight := LocalStore.inFlight_invalidate_of_not_contains h
  have hkeeps (other : Key) (later : Nat) (hle : x.system.now ≤ later) :=
    LocalStore.keeps_invalidate_of_not_contains h hle other
  refine ⟨_, ha, hflight, LocalStore.nextLoad_invalidate .., hkeeps, fun hsize => ?_, fun hentry huntracked => ?_⟩
  · have hsize' : (store.forget x.system.now [key]).tuning.maximumSize = none := by rwa [LocalStore.tuning_forget]
    have hcountable := reached.countable hfind hsize
    have hcountable' := (reached_forgetting reached name [key]).countable ha hsize'
    rw [(sameWork_forgetting reached name [key]).now] at hcountable'
    have hsame := LocalStore.contains_invalidate_of_not_contains h hsize
    obtain ⟨keys, hnodup, hkeys, hcount, hcount'⟩ := hcountable.sizes hcountable' fun other => (hsame other).symm
    exact ⟨keys, hnodup, hkeys, fun other => (hkeys other).trans (by rw [← hsame]; rfl), hcount, hcount'⟩
  · exact LocalStore.invalidate_of_untracked hentry (LocalStore.of_not_contains h).1 huntracked _

/-- **The algebra of invalidation.** In every reached state, to invalidate at least the keys that are contained, in any
order and with repetitions, leaves the same values, loads in flight and next number as to invalidate all at once. What
single invalidations leave does not depend on their order or on repetitions, except that upkeep that they set off may
let go of values of other keys if there is a size limit, or of values that have gone idle; to invalidate a key again
changes nothing. To invalidate a key that is not contained costs no load in flight, no number and, without a size limit,
no value; if the store holds nothing of the key, it changes nothing. No invalidation changes more than the store and the
log: the clock, the loads, the tasks with what they wait for, the counters and the other caches stay as they are, and
the load of the key is no longer in flight. -/
theorem invalidation_algebra :
    (∀ keys : List Key, (∀ key, store.contains x.system.now key = true → key ∈ keys) →
      ∃ a b, (x.forgetting name keys).system.registry.find? name = some (.local a) ∧
        (x.step (.invalidateAll name)).1.system.registry.find? name = some (.local b) ∧
        a.SameHoldings b x.system.now) ∧
    (∀ keys keys' : List Key, (∀ key, key ∈ keys ↔ key ∈ keys') →
      ∃ a b, (x.forgetting name keys).system.registry.find? name = some (.local a) ∧
        (x.forgetting name keys').system.registry.find? name = some (.local b) ∧
        a.inFlight = b.inFlight ∧ a.nextLoad = b.nextLoad ∧
        (store.tuning.maximumSize = none → a.Twins b ∧ a.CountsNear b x.system.now) ∧
        ∀ key later, (key ∈ keys → a.peek later key = none ∧ b.peek later key = none) ∧
          (key ∉ keys → store.Keeps a later key ∧ store.Keeps b later key)) ∧
    (∀ key, (x.forgetting name [key, key]).system.registry.find? name =
      (x.forgetting name [key]).system.registry.find? name) ∧
    (∀ key, store.contains x.system.now key = false →
      ∃ a, (x.forgetting name [key]).system.registry.find? name = some (.local a) ∧
        a.inFlight = store.inFlight ∧ a.nextLoad = store.nextLoad ∧
        (∀ other later, x.system.now ≤ later → store.Keeps a later other) ∧
        (store.tuning.maximumSize = none → ∃ keys : List Key, keys.Nodup ∧
          (∀ other, other ∈ keys ↔ store.contains x.system.now other = true) ∧
          (∀ other, other ∈ keys ↔ a.contains x.system.now other = true) ∧
          (store.tend x.system.now []).size = keys.length + (store.stale x.system.now).length ∧
          (a.tend x.system.now []).size = keys.length + (a.stale x.system.now).length) ∧
        (store.entries.find? key = none → store.upkeep.tracks key = false → a = store)) ∧
    (∀ steps, (∀ step ∈ steps, Step.Forgets name step) → SameWork name x (x.run steps).1) ∧
    (∀ key, ∃ a, (x.forgetting name [key]).system.registry.find? name = some (.local a) ∧
      a.inFlight.find? key = none ∧ ∀ other, other ≠ key → a.inFlight.find? other = store.inFlight.find? other) ∧
    (∀ key, (x.step (.invalidateIn name (.ok key))).1 = x.forgetting name [key]) ∧
    (x.step (.invalidateAllIn name)).1 = (x.step (.invalidateAll name)).1 := by
  have named := reached.sound.named
  refine ⟨fun keys h => ?_, fun keys keys' => forgetting_reordered reached hfind, fun key => ?_,
    fun key => forgetting_not_contained reached hfind, fun steps => sameWork_run reached, fun key => ?_, fun key => ?_,
    ?_⟩
  · refine ⟨_, _, find?_forgetting reached hfind keys, ?_, LocalStore.forget_contained h⟩
    rw [step_invalidateAll hfind]
    exact find?_invalidateAllIn named hfind
  · rw [find?_forgetting reached hfind, find?_forgetting reached hfind]
    exact congrArg (fun after => some (Cache.local after)) (LocalStore.invalidate_invalidate store _ _ key)
  · refine ⟨_, find?_forgetting reached hfind [key], ?_, fun other hother => ?_⟩
    · rw [LocalStore.inFlight_forget, LocalStore.find?_inFlight_cleared, if_pos (List.mem_singleton.2 rfl)]
    · rw [LocalStore.inFlight_forget, LocalStore.find?_inFlight_cleared,
        if_neg fun hmem => hother (List.mem_singleton.1 hmem)]
  · refine Eq.trans ?_ (step_invalidate hfind key).symm
    simp only [Session.step, Session.perform, hfind]
  · rw [step_invalidateAll hfind]
    simp only [Session.step, Session.perform, hfind]

end

private def cacheOf (tuning : Tuning) : Session := start (.sole "c" tuning)

private def reads (keys : List Nat) : List Step :=
  keys.map fun n => .get "a" .flag ⟨"g", "c", .ok (.ofNat n), .registry, .zero⟩ (.done none) 1

/-- Two values, and a load that sleeps. -/
private def twoAndOneFlying : Session :=
  ((cacheOf ⟨none, none, none, none, none⟩).run
    (reads [1, 2] ++ [.start "b" .flag ⟨"g", "c", .ok (.ofNat 3), .registry, .zero⟩ (.sleep 5 (.done none))])).1

theorem invalidation_algebra_two_values : ∃ store a b,
    twoAndOneFlying.system.registry.find? "c" = some (.local store) ∧
    (twoAndOneFlying.forgetting "c" [.ofNat 1, .ofNat 2]).system.registry.find? "c" = some (.local a) ∧
    (twoAndOneFlying.forgetting "c" [.ofNat 2, .ofNat 1, .ofNat 2]).system.registry.find? "c" = some (.local b) ∧
    a.Twins b ∧ a.peek 0 (.ofNat 1) = none ∧ b.peek 0 (.ofNat 1) = none ∧
    a.inFlight = b.inFlight ∧ store.Keeps a 0 (.ofNat 3) ∧
    SameWork "c" twoAndOneFlying (twoAndOneFlying.run [.invalidateAll "c"]).1 := by
  have hlocal : ((twoAndOneFlying.system.store? "c").map (·.tuning.maximumSize)) = some none := by decide +kernel
  obtain ⟨store, hstore, hsize⟩ := Option.map_eq_some_iff.1 hlocal
  obtain ⟨cache, hfind, hcache⟩ := Option.bind_eq_some_iff.1 hstore
  cases cache with
  | passThrough own => cases hcache
  | «local» found =>
    obtain rfl : found = store := Option.some.inj hcache
    have reached : twoAndOneFlying.system.Reached := reached_run (Registry.built_sole (by decide) rfl) _
    obtain ⟨-, hreordered, -, -, hwork, -⟩ := invalidation_algebra reached hfind
    obtain ⟨a, b, ha, hb, hflight, -, htwins, hkept⟩ :=
      hreordered [.ofNat 1, .ofNat 2] [.ofNat 2, .ofNat 1, .ofNat 2] (by simp [or_comm])
    obtain ⟨hgone, hgone'⟩ := (hkept (.ofNat 1) 0).1 (by simp)
    exact ⟨found, a, b, hfind, ha, hb, (htwins hsize).1, hgone, hgone', hflight,
      ((hkept (.ofNat 3) 0).2 (by decide)).1, hwork _ (List.forall_mem_singleton.2 rfl)⟩

/-- Of three values more than one has to go, and upkeep is due. -/
private def roomForOne : Session :=
  ((cacheOf ⟨none, some 1, none, none, none⟩).run (reads [1, 3, 2] ++ [.advance 300])).1

/-- The second value has gone idle, the first one has not. -/
private def secondIdle : Session :=
  ((cacheOf ⟨none, none, none, some (.ofMillis 10), none⟩).run
    (reads [1, 2] ++ [.advance 8] ++ reads [1] ++ [.advance 4])).1

private def told? (x : Session) (step : Step) : Option (Bool ⊕ Nat) :=
  match (x.step step).2.reply with
  | .flag value => some (.inl value)
  | .number value => some (.inr value)
  | _ => none

/-- With a size limit the order of two invalidations decides whether upkeep lets go of a third value. To invalidate a
value that has expired changes the count, if upkeep has not let go of it yet. -/
theorem invalidations_do_not_commute :
    (roomForOne.system.Reached ∧
      ((roomForOne.forgetting "c" [.ofNat 1, .ofNat 2]).step (.contains "c" (.ok (.ofNat 3)))).2.reply ≠
        ((roomForOne.forgetting "c" [.ofNat 2, .ofNat 1]).step (.contains "c" (.ok (.ofNat 3)))).2.reply) ∧
    (secondIdle.system.Reached ∧ told? secondIdle (.contains "c" (.ok (.ofNat 2))) = some (.inl false) ∧
      (secondIdle.step (.count "c")).2.reply ≠
        ((secondIdle.forgetting "c" [.ofNat 2]).step (.count "c")).2.reply) := by
  have hkept : told? (roomForOne.forgetting "c" [.ofNat 1, .ofNat 2]) (.contains "c" (.ok (.ofNat 3))) =
      some (.inl true) := by decide +kernel
  have hlost : told? (roomForOne.forgetting "c" [.ofNat 2, .ofNat 1]) (.contains "c" (.ok (.ofNat 3))) =
      some (.inl false) := by decide +kernel
  have hcounted : told? secondIdle (.count "c") = some (.inr 2) := by decide +kernel
  have huncounted : told? (secondIdle.forgetting "c" [.ofNat 2]) (.count "c") = some (.inr 1) := by decide +kernel
  refine ⟨⟨reached_run (Registry.built_sole (by decide) rfl) _, fun heq => ?_⟩,
    reached_run (Registry.built_sole (by decide) rfl) _, by decide +kernel, fun heq => ?_⟩
  · rw [told?, heq] at hkept
    cases hkept.symm.trans hlost
  · rw [told?, heq] at hcounted
    cases hcounted.symm.trans huncounted

end Session

end SingleFlight
