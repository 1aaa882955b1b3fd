import SingleFlight.Proofs.Schedule
import SingleFlight.Proofs.Told

/-!
# Reached states

A state is reached if moves lead to it from a registry of new caches. The states after the turns of a schedule are
reached, and so are those in the middle of a poll.

* every reached state is sound: its stores and loads are consistent, and its history is lawful and tells them;
* along moves the history only grows, and a load keeps its cache, its key and its number;
* a lookup joins a load of the key that has not ended, or starts one (`System.load?_of_joined`,
  `System.load?_of_started`).
-/

namespace SingleFlight

namespace System

/-- What holds of every reached state. -/
structure Sound (s : System) : Prop where
  named : s.Named
  numbered : s.Numbered
  told : s.Told

namespace Sound

theorem move {s t : System} (h : s.Sound) (move : Move s t) : t.Sound :=
  ⟨h.named.move move, h.numbered.move h.named move, h.told.move h.named h.numbered move⟩

theorem moves {s t : System} (h : s.Sound) (moves : Moves s t) : t.Sound := by
  induction moves with
  | refl => exact h
  | tail _ last ih => exact ih.move last

end Sound

/-- A store of a registry of new caches has no entry and no load in flight. -/
theorem new_of_store? {registry : Registry} (built : registry.Built) {name : String} {store : LocalStore}
    (h : (start registry).store? name = some store) :
    store.entries = ∅ ∧ store.inFlight = ∅ ∧ store.nextLoad = 0 ∧ store.upkeep = .start := by
  obtain ⟨cache, hcache, hstore⟩ := Option.bind_eq_some_iff.1 h
  match cache with
  | .passThrough _ => cases hstore
  | .local st =>
    cases hstore
    exact (built.new hcache).1.store

theorem sound_start {registry : Registry} (built : registry.Built) : (start registry).Sound where
  named name cache h := (built.new h).2
  numbered := by
    refine ⟨fun _ _ => nofun, fun _ _ _ _ => nofun, fun name store key flight hstore hflight => ?_⟩
    obtain ⟨-, hempty, -⟩ := new_of_store? built hstore
    rw [hempty] at hflight
    cases hflight
  told := by
    refine ⟨.nil, ⟨rfl, fun _ _ => nofun, fun _ _ => nofun, fun _ _ _ _ _ => nofun, fun _ _ => nofun⟩, ?_, ?_⟩
    · intro name store key hstore
      rw [(new_of_store? built hstore).2.1]
      rfl
    · intro name store key value hstore hpeek
      obtain ⟨entry, hentry, -⟩ := LocalStore.peek_eq_some.1 hpeek
      rw [(new_of_store? built hstore).1] at hentry
      cases hentry

/-- Moves lead to the state from a registry of new caches. -/
def Reached (s : System) : Prop := ∃ registry : Registry, registry.Built ∧ Moves (start registry) s

namespace Reached

theorem sound {s : System} (h : s.Reached) : s.Sound := by
  obtain ⟨registry, built, moves⟩ := h
  exact (sound_start built).moves moves

theorem moves {s t : System} (h : s.Reached) (more : Moves s t) : t.Reached := by
  obtain ⟨registry, built, moves⟩ := h
  exact ⟨registry, built, moves.trans more⟩

/-- Whatever the schedule, the state after it is reached. -/
theorem play {registry : Registry} (built : registry.Built) (turns : List Session.Turn) :
    ((Session.start registry).play turns).system.Reached :=
  ⟨registry, built, Session.moves_play (Session.start registry) turns⟩

end Reached

/-! ### What moves keep -/

theorem history_invalidateIn (s : System) (cache : Cache) (key : Key) :
    ∃ new, (s.invalidateIn cache key).history = new ++ s.history := by
  match cache with
  | .local store => exact ⟨[_], rfl⟩
  | .passThrough _ => exact ⟨[], rfl⟩

theorem history_invalidateAllIn (s : System) (cache : Cache) :
    ∃ new, (s.invalidateAllIn cache).history = new ++ s.history := by
  match cache with
  | .local store => exact ⟨[_], rfl⟩
  | .passThrough _ => exact ⟨[], rfl⟩

/-- A lookup leaves one event, which says what it found. -/
theorem history_lookUp (s : System) (store : LocalStore) (call : Call) (loader : Loader τ) :
    (s.lookUp store call loader).1.history =
      ⟨s.now, .lookedUp store.name call.key (s.lookUp store call loader).2⟩ :: s.history := by
  unfold System.lookUp
  split
  · rfl
  · split
    · rfl
    · rfl

/-- The end of a load leaves one event, which says how the load ended. -/
theorem history_land (s : System) (id : Nat) (cache : String) (key : Key) (number : Nat) (outcome : LoadResult) :
    ∃ kept, (s.land id cache key number outcome).history = ⟨s.now, .landed id cache key outcome kept⟩ :: s.history := by
  cases hin : s.inFlight cache key number with
  | true => exact ⟨true, by rw [land_of_kept hin]; rfl⟩
  | false => exact ⟨false, by rw [land_of_detached hin]; rfl⟩

theorem loads_land (s : System) (id : Nat) (cache : String) (key : Key) (number : Nat) (outcome : LoadResult) :
    (s.land id cache key number outcome).loads = (s.setLoad id (.ended outcome)).loads := by
  unfold System.land
  dsimp only
  split
  · rfl
  · rfl

/-- The history only grows. -/
theorem history_move {s t : System} (move : Move s t) : ∃ new, t.history = new ++ s.history := by
  cases move with
  | elapse s ms => exact ⟨[], rfl⟩
  | note aside => exact ⟨[_], rfl⟩
  | lookUp hfind label key loader => exact ⟨[_], history_lookUp ..⟩
  | call hload => exact ⟨[_], rfl⟩
  | resume hload called => exact ⟨[], rfl⟩
  | pause hload called => exact ⟨[], rfl⟩
  | land hload outcome =>
    obtain ⟨kept, hkept⟩ := history_land s _ _ _ _ outcome
    exact ⟨[_], hkept⟩
  | invalidate hfind key => exact history_invalidateIn s _ key
  | invalidateAll hfind => exact history_invalidateAllIn s _
  | tend s name => exact ⟨[], rfl⟩

theorem history_moves {s t : System} (moves : Moves s t) : ∃ new, t.history = new ++ s.history := by
  induction moves with
  | refl => exact ⟨[], rfl⟩
  | tail _ last ih =>
    obtain ⟨old, hold⟩ := ih
    obtain ⟨new, hnew⟩ := history_move last
    exact ⟨new ++ old, by rw [hnew, hold, List.append_assoc]⟩

/-- What has happened stays recorded. -/
theorem mem_history_of_moves {s t : System} (moves : Moves s t) {e : Stamped} (he : e ∈ s.history) :
    e ∈ t.history := by
  obtain ⟨new, hnew⟩ := history_moves moves
  rw [hnew]
  exact List.mem_append_right new he

theorem Polled.history {s t : System} (h : Polled s t) : ∃ new, t.history = new ++ s.history := history_moves h.moves

/-- A load keeps its cache, its key and its number. -/
theorem load?_move {s t : System} (move : Move s t) {id : Nat} {load : Load} (hload : s.load? id = some load) :
    ∃ state, t.load? id = some { load with state } := by
  -- a move that sets the state of a load sets nothing else of it
  have hset : ∀ other state, ∃ state', (s.setLoad other state).load? id = some { load with state := state' } := by
    intro other state
    by_cases hother : id = other
    · exact ⟨state, hother ▸ load?_setLoad_self (hother ▸ hload) state⟩
    · exact ⟨load.state, by rw [load?_setLoad_of_ne s hother, hload]⟩
  cases move with
  | elapse s ms => exact ⟨load.state, hload⟩
  | note aside => exact ⟨load.state, hload⟩
  | lookUp hfind label key loader => exact ⟨load.state, load?_lookUp hload⟩
  | call => exact hset _ .busy
  | resume => exact hset _ .busy
  | pause => exact hset _ _
  | @land _ other number cache key hother outcome =>
    by_cases hid : id = other
    · subst hid
      rw [hload] at hother
      cases hother
      exact ⟨.ended outcome, load?_land_self hload outcome⟩
    · exact ⟨load.state, by rw [load?_land_of_ne s hid, hload]⟩
  | invalidate hfind key => exact ⟨load.state, by rw [load?, loads_invalidateIn]; exact hload⟩
  | invalidateAll hfind => exact ⟨load.state, by rw [load?, loads_invalidateAllIn]; exact hload⟩
  | tend s name => exact ⟨load.state, hload⟩

theorem load?_moves {s t : System} (moves : Moves s t) {id : Nat} {load : Load} (hload : s.load? id = some load) :
    ∃ state, t.load? id = some { load with state } := by
  induction moves with
  | refl => exact ⟨load.state, hload⟩
  | tail _ last ih =>
    obtain ⟨before, hbefore⟩ := ih
    obtain ⟨state, hstate⟩ := load?_move last hbefore
    exact ⟨state, hstate⟩

/-- Loads are never forgotten. -/
theorem length_loads_moves {s t : System} (moves : Moves s t) : s.loads.length ≤ t.loads.length := by
  by_cases hempty : s.loads.length = 0
  · omega
  · have hlast : s.load? (s.loads.length - 1) = some _ := List.getElem?_eq_getElem (by omega)
    obtain ⟨state, hafter⟩ := load?_moves moves hlast
    have hlt := Numbered.lt_of_load? hafter
    omega

/-- A load has an outcome once it has ended. -/
theorem outcome?_eq_some {s : System} {id : Nat} {outcome : LoadResult} :
    s.outcome? id = some outcome ↔ ∃ load, s.load? id = some load ∧ load.state = .ended outcome := by
  constructor
  · intro h
    unfold System.outcome? at h
    split at h
    next cache key number ended hload =>
      cases h
      exact ⟨_, hload, rfl⟩
    next => cases h
  · rintro ⟨⟨cache, key, number, state⟩, hload, rfl⟩
    rw [outcome?, hload]

/-- Moves add and remove no store. -/
theorem isSome_store?_move {s t : System} (move : Move s t) (name : String) :
    (t.store? name).isSome = (s.store? name).isSome := by
  rcases registry_move move with heq | ⟨other, f, -, -, heq⟩
  · rw [store?, heq, store?]
  · have hafter : t.store? name = (s.mapStore other f).store? name := by rw [store?, heq, store?]
    rw [hafter, store?_mapStore]
    split
    · exact Option.isSome_map
    · rfl

/-- Whether counters are kept for a cache never changes. -/
theorem countsMetrics_move {s t : System} (move : Move s t) (name : String) :
    (t.registry.find? name).map Cache.countsMetrics = (s.registry.find? name).map Cache.countsMetrics := by
  rcases registry_move move with heq | ⟨other, f, -, htuning, heq⟩
  · rw [heq]
  · rw [heq, find?_mapStore]
    split
    · rw [Option.map_map]
      congr 1
      funext cache
      match cache with
      | .local store => exact congrArg Tuning.countsMetrics (htuning store)
      | .passThrough _ => rfl
    · rfl

theorem isSome_store?_moves {s t : System} (moves : Moves s t) (name : String) :
    (t.store? name).isSome = (s.store? name).isSome := by
  induction moves with
  | refl => rfl
  | tail _ last ih => rw [isSome_store?_move last, ih]

theorem countsMetrics_moves {s t : System} (moves : Moves s t) (name : String) :
    (t.registry.find? name).map Cache.countsMetrics = (s.registry.find? name).map Cache.countsMetrics := by
  induction moves with
  | refl => rfl
  | tail _ last ih => rw [countsMetrics_move last, ih]

/-! ### What a lookup finds -/

/-- A lookup leaves every load as it is but the one that it starts. -/
theorem load?_of_lookUp {s t : System} {store : LocalStore} {call : Call} {loader : Loader τ} {found : Found}
    (hlook : s.lookUp store call loader = (t, found)) (id : Nat) : t.load? id = s.load? id ∨ found = .started id := by
  unfold System.lookUp at hlook
  split at hlook
  · obtain ⟨rfl, rfl⟩ := Prod.mk.inj hlook
    exact .inl rfl
  · split at hlook
    · obtain ⟨rfl, rfl⟩ := Prod.mk.inj hlook
      exact .inl rfl
    · obtain ⟨rfl, rfl⟩ := Prod.mk.inj hlook
      rw [load?_emit, Numbered.load?_launch]
      split
      next hid => exact .inr (congrArg Found.started hid.symm)
      next => exact .inl rfl

/-- The load that a lookup starts is about to call its loader. -/
theorem load?_of_started {s t : System} {store : LocalStore} {call : Call} {loader : Loader τ} {id : Nat}
    (h : s.lookUp store call loader = (t, .started id)) : id = s.loads.length ∧
      t.load? id = some ⟨store.name, call.key, store.nextLoad, .idle τ (.calling call loader)⟩ := by
  unfold System.lookUp at h
  split at h
  · cases h
  · split at h
    · cases h
    · obtain ⟨rfl, hfound⟩ := Prod.mk.inj h
      obtain rfl : s.loads.length = id := Found.started.inj hfound
      refine ⟨rfl, ?_⟩
      rw [load?_emit, Numbered.load?_launch, if_pos rfl]

/-- The load that a lookup joins is one of the key that has not ended. -/
theorem load?_of_joined {s t : System} (sound : s.Sound) {name : String} {store : LocalStore}
    (hfind : s.registry.find? name = some (.local store)) {call : Call} {loader : Loader τ} {id : Nat}
    (h : s.lookUp store call loader = (t, .joined id)) : t.loads = s.loads ∧
      ∃ load, s.load? id = some load ∧ load.cache = store.name ∧ load.key = call.key ∧ load.ended = false := by
  unfold System.lookUp at h
  split at h
  · cases h
  · split at h
    next flight hflight =>
      obtain ⟨rfl, hfound⟩ := Prod.mk.inj h
      obtain rfl : flight.load = id := Found.joined.inj hfound
      obtain ⟨⟨load, hload, ⟨hcache, hkey, -⟩, hended⟩, -⟩ :=
        sound.numbered.flying name store call.key flight (store?_of_find? hfind) hflight
      exact ⟨rfl, load, hload, hcache.trans (sound.named.name_of_find? hfind).symm, hkey, hended⟩
    · cases h

end System

end SingleFlight
