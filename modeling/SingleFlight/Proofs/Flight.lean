import SingleFlight.Proofs.Reached

/-!
# One flight for a key

What a schedule does to the loads of a key, read off the trace that it leaves.

* only an event that frees the key takes a load out of flight, and only its landing ends it;
* what polls no task and invalidates nothing leaves no event: time that passes, upkeep, a task that is started or
  dropped touch neither loads nor flights (`Session.turn_of_isPassive`);
* all of it together is `Session.single_flight`.
-/

namespace SingleFlight

/-- The load in flight for the key. -/
def System.flight? (s : System) (cache : String) (key : Key) : Option Nat :=
  (s.store? cache).bind fun store => (store.inFlight.find? key).map (·.load)

namespace System

theorem Sound.flight?_eq {s : System} (h : s.Sound) {cache : String} {store : LocalStore}
    (hstore : s.store? cache = some store) (key : Key) : s.flight? cache key = History.flight cache key s.history := by
  rw [flight?, hstore, Option.bind_some]
  exact h.told.stores.flight cache store key hstore

/-- A load stays in flight unless an event frees its key. -/
theorem flight?_of_moves {s t : System} (sound : s.Sound) (moves : Moves s t) {new : History}
    (hnew : t.history = new ++ s.history) {cache : String} {key : Key} {id : Nat}
    (hflight : s.flight? cache key = some id) (hfree : ∀ e ∈ new, ¬ e.event.Frees cache key id) :
    t.flight? cache key = some id := by
  obtain ⟨store, hstore, -⟩ := Option.bind_eq_some_iff.1 hflight
  have hsome := isSome_store?_moves moves cache
  rw [hstore] at hsome
  obtain ⟨after, hafter⟩ := Option.isSome_iff_exists.1 hsome
  -- both flights are read off the histories, where no step of the run is left to look at
  have sound' := sound.moves moves
  rw [sound'.flight?_eq hafter, hnew]
  rw [sound.flight?_eq hstore] at hflight
  exact History.flight_append (hnew ▸ sound'.told.lawful) hflight hfree

/-- A load in flight is one of the key that has not ended, and the key has no value. -/
theorem Sound.exists_of_flight? {s : System} (sound : s.Sound) {cache : String} {key : Key} {id : Nat}
    (hflight : s.flight? cache key = some id) :
    ∃ store number state, s.store? cache = some store ∧ store.peek s.now key = none ∧
      s.load? id = some ⟨cache, key, number, state⟩ ∧ (⟨cache, key, number, state⟩ : Load).ended = false := by
  obtain ⟨store, hstore, hmap⟩ := Option.bind_eq_some_iff.1 hflight
  obtain ⟨flight, hfind, rfl⟩ := Option.map_eq_some_iff.1 hmap
  obtain ⟨⟨⟨c, k, number, state⟩, hload, ⟨hcache, hkey, -⟩, hended⟩, hnone⟩ :=
    sound.numbered.flying cache store key flight hstore hfind
  cases hcache
  cases hkey
  exact ⟨store, number, state, hstore, hnone, hload, hended⟩

/-- What the end of the load in flight for the key does to the state `s`. -/
structure Delivers (s t : System) (id : Nat) (cache : String) (key : Key) (outcome : LoadResult) : Prop where
  /-- The value is stored, if there is one, and the key is set free. -/
  store : ∃ store, s.store? cache = some store ∧ t.store? cache = some (conclude s.now key outcome store)
  stores : ∀ other ≠ cache, t.store? other = s.store? other
  now : t.now = s.now
  ended : t.outcome? id = some outcome
  loads : ∀ other ≠ id, t.load? other = s.load? other
  history : t.history = ⟨s.now, .landed id cache key outcome true⟩ :: s.history

theorem Sound.delivers {s : System} (sound : s.Sound) {id number : Nat} {cache : String} {key : Key}
    {state : LoadState} (hload : s.load? id = some ⟨cache, key, number, state⟩)
    (hflight : s.flight? cache key = some id) (outcome : LoadResult) :
    Delivers s (s.land id cache key number outcome) id cache key outcome := by
  obtain ⟨store, -, -, hstore, -⟩ := sound.exists_of_flight? hflight
  rw [sound.flight?_eq hstore] at hflight
  have hkept : s.inFlight cache key number = true := (sound.told.kept_iff sound.numbered hload).2 hflight
  have hended := load?_land_self hload outcome
  refine ⟨⟨store, hstore, ?_⟩, fun other hother => ?_, now_land .., outcome?_eq_some.2 ⟨_, hended, rfl⟩,
    fun other hother => load?_land_of_ne s hother .., ?_⟩
  · rw [land_of_kept hkept, store?_emit, store?_setLoad, store?_mapStore, if_pos rfl, hstore, Option.map_some]
  · rw [land_of_kept hkept, store?_emit, store?_setLoad, store?_mapStore, if_neg hother]
  · rw [land_of_kept hkept]
    rfl

/-- A load does not end unless it lands. -/
theorem ended_of_moves {s t : System} (sound : s.Sound) (moves : Moves s t) {new : History}
    (hnew : t.history = new ++ s.history) {id : Nat} {load : Load} (hload : s.load? id = some load)
    (hunended : load.ended = false) (hlands : ∀ e ∈ new, ¬ e.event.lands id = true) :
    ∃ state, t.load? id = some { load with state } ∧ ({ load with state } : Load).ended = false := by
  obtain ⟨state, hafter⟩ := load?_moves moves hload
  refine ⟨state, hafter, ?_⟩
  cases hended : ({ load with state } : Load).ended with
  | false => rfl
  | true =>
    obtain ⟨e, he, hland⟩ := ((sound.moves moves).told.loads.landed id _ hafter).1 hended
    rw [hnew] at he
    rcases List.mem_append.1 he with hmem | hmem
    · exact absurd hland (hlands e hmem)
    · rw [(sound.told.loads.landed id load hload).2 ⟨e, hmem, hland⟩] at hunended
      cases hunended

/-- What a trace lists in order, the history lists backwards. -/
theorem history_of_trace {s : System} {before between after : Trace} {first second : Stamped}
    (h : s.trace = before ++ first :: between ++ second :: after) :
    s.history = after.reverse ++ second :: (between.reverse ++ first :: before.reverse) := by
  have hreverse := congrArg List.reverse h
  simpa [trace] using hreverse

end System

namespace Session

/-- The turn polls no task and invalidates nothing. -/
def Turn.isPassive : Turn → Bool
  | .start _ _ _ _ | .drop _ | .elapse _ | .tend _ => true
  | .poll _ | .invalidate _ _ | .invalidateAll _ => false

/-- Time that passes, upkeep, a task that is started or dropped: none of it touches a load or a flight. -/
theorem turn_of_isPassive (x : Session) {t : Turn} (passive : t.isPassive) :
    (x.turn t).system.loads = x.system.loads ∧ (x.turn t).system.history = x.system.history ∧
      ∀ cache key, (x.turn t).system.flight? cache key = x.system.flight? cache key := by
  cases t with
  | start task type request loader => exact ⟨rfl, rfl, fun _ _ => rfl⟩
  | poll place => cases passive
  | drop place => exact ⟨rfl, rfl, fun _ _ => rfl⟩
  | elapse ms => exact ⟨rfl, rfl, fun _ _ => rfl⟩
  | invalidate name key => cases passive
  | invalidateAll name => cases passive
  | tend name =>
    refine ⟨rfl, rfl, fun cache key => ?_⟩
    show (x.system.tend name).flight? cache key = x.system.flight? cache key
    rw [System.flight?, System.flight?, System.tend, System.store?_mapStore]
    split
    · cases x.system.store? cache with
      | none => rfl
      | some store => rfl
    · rfl

theorem eventsSince_eq {x y : Session} {new : History} (h : y.system.history = new ++ x.system.history) :
    eventsSince x y = new.reverse := by
  rw [eventsSince, h, List.length_append, Nat.add_sub_cancel, List.take_left]

/-- **Single flight.** After every schedule, between two starts for one key the first load has landed or the key was
invalidated. A load calls its loader at most once and lands at most once, after it has called its loader. What polls
no task and invalidates nothing leaves all loads and flights alone. However the schedule goes on, a load that has not
ended stays so until it lands, and stays in flight for its key until it lands or the key is invalidated. -/
theorem single_flight {registry : Registry} (built : registry.Built) (turns : List Turn) (cache : String) (key : Key) :
    let x := (Session.start registry).play turns
    (∀ before first between second after m n, x.system.trace = before ++ first :: between ++ second :: after →
      first.event.Starts cache key m → second.event.Starts cache key n → ∃ e ∈ between, e.event.Frees cache key m) ∧
    (∀ id, x.system.trace.countP (·.event.callsFor id) ≤ 1 ∧ x.system.trace.countP (·.event.lands id) ≤ 1 ∧
      ((∃ e ∈ x.system.trace, e.event.lands id = true) → x.system.trace.countP (·.event.callsFor id) = 1)) ∧
    (∀ t : Turn, t.isPassive → (x.turn t).system.loads = x.system.loads ∧
      (x.turn t).system.flight? cache key = x.system.flight? cache key) ∧
    (∀ more id load, x.system.load? id = some load → load.ended = false →
      (∀ e ∈ eventsSince x (x.play more), ¬ e.event.lands id = true) →
      ∃ state, (x.play more).system.load? id = some { load with state } ∧ ({ load with state } : Load).ended = false) ∧
    (∀ more id, x.system.flight? cache key = some id →
      (∀ e ∈ eventsSince x (x.play more), ¬ e.event.Frees cache key id) →
      (x.play more).system.flight? cache key = some id) := by
  intro x
  have sound : x.system.Sound := (System.Reached.play built turns).sound
  refine ⟨?_, fun id => ?_, fun t passive => ?_, fun more id load hload hunended hlands => ?_,
    fun more id hflight hfree => ?_⟩
  · -- of the whole trace, the part up to the second start is a lawful history of its own
    intro before first between second after m n htrace hfirst hsecond
    have hlawful := sound.told.lawful
    rw [System.history_of_trace htrace] at hlawful
    obtain ⟨e, he, hfrees⟩ := History.exists_frees hlawful.of_append hfirst hsecond
    exact ⟨e, List.mem_reverse.1 he, hfrees⟩
  · rw [System.trace, List.countP_reverse, List.countP_reverse]
    refine ⟨History.countP_callsFor sound.told.lawful id, History.countP_lands sound.told.lawful id, ?_⟩
    rintro ⟨e, he, hlands⟩
    exact History.countP_callsFor_of_lands sound.told.lawful (List.mem_reverse.1 he) hlands
  · obtain ⟨hloads, -, hflight⟩ := turn_of_isPassive x passive
    exact ⟨hloads, hflight cache key⟩
  · have hmoves := moves_play x more
    obtain ⟨new, hnew⟩ := System.history_moves hmoves
    rw [eventsSince_eq hnew] at hlands
    exact System.ended_of_moves sound hmoves hnew hload hunended fun e he => hlands e (List.mem_reverse.2 he)
  · have hmoves := moves_play x more
    obtain ⟨new, hnew⟩ := System.history_moves hmoves
    rw [eventsSince_eq hnew] at hfree
    exact System.flight?_of_moves sound hmoves hnew hflight fun e he => hfree e (List.mem_reverse.2 he)

/-- A load that sleeps is joined by a second get and fails, and a third get starts another load. -/
private def failsOnce : List Turn :=
  let request : Request := ⟨"g", "c", .ok (.ofNat 1), .registry, .zero⟩
  [.start "a" .flag request (.sleep 5 (.fail (.text "no"))), .poll 0, .start "b" .flag request (.done none), .poll 1,
    .elapse 5, .poll 1, .start "d" .flag request (.done none), .poll 1]

theorem single_flight_of_failsOnce :
    let key : Key := .ofNat 1
    let trace := ((Session.start (.sole "c" .unset)).play failsOnce).system.trace
    ∃ between after, trace = [] ++ ⟨0, .lookedUp "c" key (.started 0)⟩ :: between ++
      ⟨5, .lookedUp "c" key (.started 1)⟩ :: after ∧ ∃ e ∈ between, e.event.Frees "c" key 0 := by
  intro key trace
  have built : (Registry.sole "c" .unset).Built := Registry.built_sole (by decide) rfl
  have htrace : trace = [] ++ ⟨0, .lookedUp "c" key (.started 0)⟩ ::
      [⟨0, .called ⟨"g", "c", key⟩ (some 0)⟩, ⟨0, .lookedUp "c" key (.joined 0)⟩,
        ⟨5, .landed 0 "c" key (.error (.text "no")) true⟩,
        ⟨5, .answered "b" (.failed (.computation "c" (.text "no")))⟩] ++
      ⟨5, .lookedUp "c" key (.started 1)⟩ ::
      [⟨5, .called ⟨"g", "c", key⟩ (some 1)⟩, ⟨5, .landed 1 "c" key (.ok .absent) true⟩,
        ⟨5, .answered "d" (.value none)⟩] := by
    rfl
  exact ⟨_, _, htrace, (single_flight built failsOnce "c" key).1 _ _ _ _ _ 0 1 htrace rfl rfl⟩

end Session

end SingleFlight
