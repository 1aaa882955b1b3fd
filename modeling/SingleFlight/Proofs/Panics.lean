import SingleFlight.Proofs.Detached
import SingleFlight.Proofs.Direct
import SingleFlight.Proofs.Waiters

/-!
# Panics

A panic goes through gets that run their loaders themselves, up to the innermost load, and no further.

* `Raises` follows a poll down to a loader that panics, through such gets only; a poll ends with a panic if and only if
  it raises one (`ended_of_raises`, `raises_of_ended`);
* the load whose loader raises it fails with the panic's text. That changes no entry, and from then on the load is over:
  everyone who waits for it is told the failure, no key waits for it, it never stores anything, and to advance it does
  nothing (`System.Caught`).
-/

namespace SingleFlight

open SingleFlight.System (Moves)

/-! ### Raising a panic -/

/-- What is polled: a get, or a loader, which a load has called or else a get by itself. -/
inductive Frame (τ : ValueType) where
  | get (get : Get τ)
  | run (load : Option Nat) (run : Run τ)

/-- The poll of that depth comes down to a loader that panics in the state `t`. On the way to it are gets that run their
loaders themselves, and no loads. -/
inductive Raises {τ : ValueType} (payload : Payload) (t : System) : Nat → System → Frame τ → Prop where
  | panic (depth : Nat) (load : Option Nat) : Raises payload t (depth + 1) t (.run load (.running (.panic payload)))
  | called {depth : Nat} {s : System} {load : Option Nat} {call : Call} {loader : Loader τ}
      (h : Raises payload t depth (s.emit (.called call load)) (.run load (.running loader))) :
      Raises payload t (depth + 1) s (.run load (.calling call loader))
  | awake {depth due : Nat} {s : System} {load : Option Nat} {loader : Loader τ} (hdue : due ≤ s.now)
      (h : Raises payload t depth s (.run load (.running loader))) :
      Raises payload t (depth + 1) s (.run load (.sleeping due loader))
  | slept {depth ms : Nat} {s : System} {load : Option Nat} {next : Loader τ}
      (h : Raises payload t depth s (.run load (.sleeping (s.now + ms) next))) :
      Raises payload t (depth + 1) s (.run load (.running (.sleep ms next)))
  | invalidated {depth : Nat} {s u : System} {load : Option Nat} {cache : String} {key : Key} {next : Loader τ}
      (hdone : s.invalidate cache key = .ok u) (h : Raises payload t depth u (.run load (.running next))) :
      Raises payload t (depth + 1) s (.run load (.running (.invalidate cache key next)))
  | allInvalidated {depth : Nat} {s u : System} {load : Option Nat} {cache : String} {next : Loader τ}
      (hdone : s.invalidateAll cache = .ok u) (h : Raises payload t depth u (.run load (.running next))) :
      Raises payload t (depth + 1) s (.run load (.running (.invalidateAll cache next)))
  | made {depth : Nat} {s : System} {load : Option Nat} {request : Request} {inner : Loader τ}
      (h : Raises payload t depth s (.run load (.nested (.asking request inner)))) :
      Raises payload t (depth + 1) s (.run load (.running (.get request inner)))
  | nested {depth : Nat} {s : System} {load : Option Nat} {get : Get τ} (h : Raises payload t depth s (.get get)) :
      Raises payload t (depth + 1) s (.run load (.nested get))
  | loading {depth : Nat} {s : System} {cache : String} {run : Run τ}
      (h : Raises payload t depth s (.run none run)) : Raises payload t (depth + 1) s (.get (.loading cache run))
  | passed {depth : Nat} {s : System} {request : Request} {loader : Loader τ} {key : Key} {name : String}
      (hkey : request.key = .ok key) (hreach : s.reach request = .ok (.passThrough name))
      (h : Raises payload t depth (s.emit (.passedThrough name key))
        (.get (.loading name (.calling ⟨request.label, name, key⟩ loader)))) :
      Raises payload t (depth + 1) s (.get (.asking request loader))
  | joined {depth id : Nat} {s u : System} {request : Request} {loader : Loader τ} {key : Key} {store : LocalStore}
      (hkey : request.key = .ok key) (hreach : s.reach request = .ok (.local store))
      (hlook : s.lookUp store ⟨request.label, store.name, key⟩ loader = (u, .joined id))
      (h : Raises payload t depth u (.get (.awaiting store.name key id
        (request.patienceAt u.now ⟨request.label, store.name, key⟩ loader)))) :
      Raises payload t (depth + 1) s (.get (.asking request loader))
  | timedOut {depth id : Nat} {s : System} {cache : String} {key : Key} {p : Patience τ}
      (hopen : (System.advance depth s id).outcome? id = none) (hdue : p.due ≤ (System.advance depth s id).now)
      (h : Raises payload t depth ((System.advance depth s id).emit (.lockTimedOut cache key id p.lockTimeout))
        (.get (.loading cache (.calling p.call p.loader)))) :
      Raises payload t (depth + 1) s (.get (.awaiting cache key id (some p)))

/-- The poll of the frame ends with that panic. -/
def Frame.Panics {τ : ValueType} (payload : Payload) (t : System) (depth : Nat) (s : System) : Frame τ → Prop
  | .get polled => Get.poll depth s polled = (t, .ended (.panicked payload))
  | .run load polled => Run.poll depth s load polled = (t, .ended (.panicked payload))

/-- A panic that is raised ends the poll. -/
theorem ended_of_raises {τ : ValueType} {payload : Payload} {t s : System} {depth : Nat} {frame : Frame τ}
    (h : Raises payload t depth s frame) : frame.Panics payload t depth s := by
  induction h with
  | panic depth load => rfl
  | called _ ih => exact ih
  | awake hdue _ ih =>
    simp only [Frame.Panics, Run.poll, if_pos hdue]
    exact ih
  | slept _ ih => exact ih
  | invalidated hdone _ ih =>
    simp only [Frame.Panics, Run.poll, hdone]
    exact ih
  | allInvalidated hdone _ ih =>
    simp only [Frame.Panics, Run.poll, hdone]
    exact ih
  | made _ ih => exact ih
  | nested _ ih =>
    have hpoll : Get.poll _ _ _ = _ := ih
    simp only [Frame.Panics, Run.poll, hpoll]
    rfl
  | loading _ ih =>
    have hpoll : Run.poll _ _ none _ = _ := ih
    simp only [Frame.Panics, Get.poll, hpoll]
    rfl
  | passed hkey hreach _ ih =>
    simp only [Frame.Panics, Get.poll, hkey, hreach]
    exact ih
  | joined hkey hreach hlook _ ih =>
    simp only [Frame.Panics, Get.poll, hkey, hreach, hlook]
    exact ih
  | timedOut hopen hdue _ ih =>
    simp only [Frame.Panics, Get.poll, hopen, if_pos hdue]
    exact ih

/-- A poll that ends with a panic raises it. -/
private def raising : Judgement where
  get depth s get t progress := ∀ payload, progress = .ended (.panicked payload) →
    Raises payload t depth s (.get get)
  run depth s load run t progress := ∀ payload, progress = .ended (.panicked payload) →
    Raises payload t depth s (.run load run)
  load _ _ _ _ := True

theorem panicked_of_mapError {outcome : Outcome ε α} {f : ε → ε'} {payload : Payload}
    (h : outcome.mapError f = .panicked payload) : outcome = .panicked payload := by
  cases outcome with
  | value a => cases h
  | failed e => cases h
  | panicked own =>
    cases h
    rfl

private theorem raisingGets : raising.KeptByGets where
  cut _ _ _ h := by cases h
  unkeyed _ _ h := by cases h
  refused _ _ _ h := by cases h
  passed hkey hreach hrest payload h := .passed hkey hreach (hrest payload h)
  found _ _ _ payload h := absurd (Progress.ended.inj h) (System.typed_ne_panicked _ _ _ payload)
  started := by
    intro τ depth id s t u request loader key store progress hkey hreach hlook hrest payload h
    cases hrest payload h
  joined hkey hreach hlook hrest payload h := .joined hkey hreach hlook (hrest payload h)
  told _ _ payload h := absurd (Progress.ended.inj h) (System.typedResult_ne_panicked _ _ _ payload)
  waiting _ _ _ _ h := by cases h
  timedOut _ hopen hdue hrest payload h := .timedOut hopen hdue (hrest payload h)
  loading _ _ _ h := by cases h
  loaded _ hrun payload h := .loading (hrun payload (congrArg _ (panicked_of_mapError (Progress.ended.inj h))))

private theorem raisingRuns : raising.KeptByRuns where
  cut _ _ _ _ h := by cases h
  calling hrest payload h := .called (hrest payload h)
  awake hdue hrest payload h := .awake hdue (hrest payload h)
  asleep _ _ h := by cases h
  nesting _ _ _ h := by cases h
  nested _ hget payload h := .nested (hget payload (congrArg _ (panicked_of_mapError (Progress.ended.inj h))))
  done _ _ _ _ _ h := by cases h
  fail _ _ _ _ _ h := by cases h
  panic depth s load payload _ h := by
    cases h
    exact .panic depth load
  sleep hrest payload h := .slept (hrest payload h)
  invalidate hdone hrest payload h := .invalidated hdone (hrest payload h)
  invalidateNone _ _ h := by cases h
  invalidateAll hdone hrest payload h := .allInvalidated hdone (hrest payload h)
  invalidateAllNone _ _ h := by cases h
  get hrest payload h := .made (hrest payload h)

/-- A poll that ends with a panic has come down to a loader that panics, through gets that run their loaders
themselves. -/
theorem raises_of_ended {τ : ValueType} {payload : Payload} {t s : System} {depth : Nat} {frame : Frame τ}
    (h : frame.Panics payload t depth s) : Raises payload t depth s frame := by
  have polls := Judgement.Kept.polls (J := raising)
    ⟨raisingGets, raisingRuns, ⟨fun _ _ => trivial, fun _ => trivial, fun _ _ _ => trivial, fun _ _ _ => trivial⟩⟩
    depth
  cases frame with
  | get polled =>
    have hpoll : Get.poll depth s polled = (t, .ended (.panicked payload)) := h
    have hraises := polls.get s polled payload
    rw [hpoll] at hraises
    exact hraises rfl
  | run load polled =>
    have hpoll : Run.poll depth s load polled = (t, .ended (.panicked payload)) := h
    have hraises := polls.run s load polled payload
    rw [hpoll] at hraises
    exact hraises rfl

/-! ### Catching it -/

namespace System

/-- A load that fails changes no entry. -/
theorem entries_land_error (s : System) (id : Nat) (cache : String) (key : Key) (number : Nat) (failure : Failure)
    (name : String) : ((s.land id cache key number (.error failure)).store? name).map (·.entries) =
      (s.store? name).map (·.entries) := by
  cases hin : s.inFlight cache key number with
  | false => rw [land_of_detached hin, store?_emit, store?_setLoad]
  | true =>
    rw [land_of_kept hin, store?_emit, store?_setLoad, store?_mapStore]
    split
    · rw [Option.map_map]
      rfl
    · rfl

/-- The load has failed with a panic of that text, and it is over. -/
structure Caught (u : System) (id : Nat) (cache message : String) : Prop where
  outcome : u.outcome? id = some (.error (.panic message))
  /-- Whoever has waited for the load was told so. -/
  heard {τ : ValueType} {v : System} {answer : Outcome CacheFault (Option (Typed τ))} (waited : Get.Waited id v answer)
    (moves : Moves v u) : answer = .failed (.computation cache (.panic message))
  /-- Whoever still waits for it is told so as soon as it is polled, however impatient it is. -/
  told (depth : Nat) (τ : ValueType) (asked : String) (key : Key) (patience : Option (Patience τ)) :
    Get.poll (depth + 1) u (.awaiting asked key id patience) =
      (u, .ended (.failed (.computation asked (.panic message))))
  /-- No key waits for it. -/
  pending (name : String) (store : LocalStore) (key : Key) (flight : Flight) (hstore : u.store? name = some store)
    (hflight : store.inFlight.find? key = some flight) : flight.load ≠ id
  /-- It has never stored anything. -/
  stored : ∀ e ∈ u.history, ∀ name key value, ¬ e.event.Deposits name key id value
  still (depth : Nat) : advance depth u id = u

theorem caught_of_ended {u : System} (reached : u.Reached) {id number : Nat} {cache message : String} {key : Key}
    (hload : u.load? id = some ⟨cache, key, number, .ended (.error (.panic message))⟩) : u.Caught id cache message where
  outcome := outcome?_eq_some.2 ⟨_, hload, rfl⟩
  heard waited moves := by
    obtain ⟨-, load, outcome, hold, hended, hanswer⟩ := Get.told_of_waited waited
    rw [load?_of_ended moves hold hended] at hload
    cases hload
    cases hended
    exact hanswer
  told depth τ asked other patience := poll_awaiting_of_ended hload rfl depth τ asked other patience
  pending name store other flight hstore hflight hid := by
    -- a load in flight has no outcome
    obtain ⟨⟨load, hflying, -, hended⟩, -⟩ := reached.sound.numbered.flying name store other flight hstore hflight
    rw [hid, hload] at hflying
    cases hflying
    cases hended
  stored e he name other value hdeposits := by
    obtain ⟨landing, hlanding, kept, hevent⟩ := landing_of_ended reached hload rfl
    have hsame : e = landing := History.eq_of_lands reached.sound.told.lawful he hlanding
      (Event.lands_of_landed hdeposits) (Event.lands_of_landed hevent)
    rw [hsame, Event.Deposits, hevent] at hdeposits
    cases hdeposits
  still depth := advance_of_ended hload rfl depth

/-- **Panics are contained.** A get ends with a panic only if it has called its own loader, because its cache passes
calls through or its lock timeout had elapsed, and that loader has panicked: itself, or through a get of its own that
has called its own loader, too.

A panic that is raised while a load is advanced, in its loader or below gets that run their loaders themselves, was
thrown by the loader that the load was launched with, since the load has called it, and makes this load fail with the
text of the panic. That changes no entry, and from then on the load is over. -/
theorem panics_contained {s : System} (arises : s.Arises) :
    (∀ {τ : ValueType} {b u : System} {request : Request} {loader : Loader τ} {get : Get τ} {depth : Nat}
        {payload : Payload}, Get.Way b (.asking request loader) s get →
      Get.poll depth s get = (u, .ended (.panicked payload)) →
      ∃ call a, request.Turns b call a ∧ loader.Throws payload u (a.emit (.called call none))) ∧
    ∀ {τ : ValueType} {id number depth : Nat} {cache : String} {key : Key} {run : Run τ} {payload : Payload}
        {mid : System}, s.load? id = some ⟨cache, key, number, .idle τ run⟩ →
      Raises payload mid depth (s.setLoad id .busy) (.run (some id) run) →
      (∀ {call : Call} {loader : Loader τ} {b : System}, Run.Follows Arises (some id) call loader b s run →
        ∃ c, Moves b c ∧ loader.Throws payload mid (c.afterCall call (some id))) ∧
      let t := advance (depth + 1) s id
      (∀ name, (t.store? name).map (·.entries) = (mid.store? name).map (·.entries)) ∧
      ∃ message, (payload = .text message ∨ payload = .other ∧ message = "non-string panic payload") ∧
        ∀ u, Moves t u → u.Caught id cache message := by
  refine ⟨fun way hend => Get.throws_of_way way hend, ?_⟩
  intro τ id number depth cache key run payload mid hload hraises
  have hend : Run.poll depth (s.setLoad id .busy) (some id) run = (mid, .ended (.panicked payload)) :=
    ended_of_raises hraises
  refine ⟨fun follows => Run.throws_of_follows follows hload hend, ?_⟩
  intro t
  obtain ⟨moves, hbusy⟩ := busy_of_ended hload hend
  have ht : t = mid.land id cache key number (.error (.panic payload.message)) := by
    simp only [t, advance, hload, hend, loadResult]
  have hended : t.load? id = some ⟨cache, key, number, .ended (.error (.panic payload.message))⟩ := by
    rw [ht]
    exact load?_land_self hbusy _
  have reached : t.Reached := by
    rw [ht]
    exact (arises.reached.moves moves).moves (.single (.land hbusy _))
  refine ⟨fun name => by rw [ht, entries_land_error], payload.message, ?_, fun u later => ?_⟩
  · cases payload with
    | text message => exact .inl rfl
    | other => exact .inr ⟨rfl, rfl⟩
  · exact caught_of_ended (reached.moves later) (load?_of_ended later hended rfl)

/-- A cache that keeps values, `c`, and one that passes calls through, `n`. -/
private def oneOfEach : Registry := ⟨(Registry.sole "c" .unset).caches.insert "n" (.passThrough "n")⟩

/-- A get of `n` whose loader panics. -/
private def unguarded : Request := ⟨"inner", "n", .ok (.ofNat 2), .registry, .zero⟩

/-- A load for a key of `c` has slept, and its loader is about to make that get. -/
private def asleepOverPanic : System :=
  ((Session.start oneOfEach).play
    [.start "a" .flag ⟨"outer", "c", .ok (.ofNat 1), .registry, .zero⟩
      (.sleep 5 (.get unguarded (.panic (.text "boom")))), .poll 0, .elapse 5]).system

/-- The panic ends a get of `n` that a caller makes, and is the failure of the load if its loader makes it. -/
theorem panics_contained_nested :
    let s := asleepOverPanic
    (∃ call a, unguarded.Turns s call a ∧ (Loader.panic (τ := .flag) (.text "boom")).Throws (.text "boom")
      (Get.poll 9 s (.asking unguarded (.panic (.text "boom")) : Get .flag)).1 (a.emit (.called call none))) ∧
    (advance 9 s 0).Caught 0 "c" "boom" := by
  intro s
  have hsole : (Registry.sole "c" .unset).Built := Registry.built_sole (by decide) rfl
  have built : oneOfEach.Built := .register hsole (.passThrough "n") rfl
  have arises : s.Arises := (Session.underway_play built _).arises
  obtain ⟨direct, load⟩ := panics_contained arises
  have hload : s.load? 0 =
      some ⟨"c", .ofNat 1, 0, .idle .flag (.sleeping 5 (.get unguarded (.panic (.text "boom"))))⟩ := rfl
  have hraises : Raises (.text "boom")
      (Run.poll 8 (s.setLoad 0 .busy) (some 0) (.sleeping 5 (.get unguarded (.panic (.text "boom"))) : Run .flag)).1 8
      (s.setLoad 0 .busy) (.run (some 0) (.sleeping 5 (.get unguarded (.panic (.text "boom"))) : Run .flag)) :=
    raises_of_ended (Prod.ext rfl rfl)
  obtain ⟨-, -, message, hmessage, caught⟩ := load hload hraises
  obtain rfl : message = "boom" := by
    rcases hmessage with h | ⟨h, -⟩
    · exact (Payload.text.inj h).symm
    · cases h
  exact ⟨direct .refl (Prod.ext rfl rfl), caught _ .refl⟩

end System

end SingleFlight
