import SingleFlight.Proofs.Detached
import SingleFlight.Proofs.Flight
import SingleFlight.Proofs.Loads
import SingleFlight.Proofs.LockTimeout
import SingleFlight.Proofs.Rest

/-!
# Dropped tasks

A task owns its get and nothing else. When it is dropped the system stays as it is, and to everything else it is as if
the task was there still and never polled again (`Session.lacks_play`).

* a load in flight lives on without the task that started it: every get of its key joins it, and whoever waits for it
  advances it just as its originator would (`System.endures_of_moves`);
* no load loses what its loader has done: however the schedule goes on, the loader is where its own polls have led it,
  and a sleep ends when it was due to end (`Session.progressed_play`).
-/

namespace SingleFlight

namespace System

/-! ### A load in flight -/

/-- To advance the load is to poll its loader from where it stands. If it ends, and has not invalidated the key itself,
its outcome is delivered. -/
def Drives (t : System) (id : Nat) (cache : String) (key : Key) (run : Run τ) : Prop :=
  ∃ mid progress, Run.poll t.work (t.setLoad id .busy) (some id) run = (mid, progress) ∧
    match progress with
    | .pending rest => t.advanced id = mid.setLoad id (.idle τ rest)
    | .ended outcome => ∀ new, mid.history = new ++ t.history → (∀ e ∈ new, ¬ e.event.Invalidates cache key) →
      Delivers mid (t.advanced id) id cache key (loadResult outcome)

/-- The load that was in flight for the key in the state `s` is so in the state `t`, and all gets share it. -/
structure Endures (s t : System) (cache : String) (key : Key) (id : Nat) : Prop where
  flight : t.flight? cache key = some id
  /-- It is being advanced, or it goes on from where its loader stands. -/
  unended : ∃ number state, t.load? id = some ⟨cache, key, number, state⟩ ∧
    (state = .busy ∨ ∃ (τ : ValueType) (run : Run τ), state = .idle τ run ∧ t.Drives id cache key run)
  /-- Its loader was called in `s` already, and has not been again. -/
  called : ∃ e ∈ s.history, t.history.filter (·.event.callsFor id) = [e]
  /-- A get that looks the key up joins the load and starts none. -/
  joined : ∀ {τ : ValueType} (l : Lookup τ), l.before = t → l.store.name = cache → l.key = key →
    l.found = .joined id ∧ l.Joins id
  /-- Whoever waits for the load advances it first, its originator and those who have joined it alike, and is told its
  outcome if it has one then. -/
  polled : ∀ {τ : ValueType} {depth : Nat} (patience : Option (Patience τ)), t.work + 1 ≤ depth →
    Get.poll (depth + 1) t (.awaiting cache key id patience) =
      match (t.advanced id).outcome? id with
      | some outcome => (t.advanced id, .ended (typedResult τ cache outcome))
      | none =>
        match patience with
        | none => (t.advanced id, .pending (.awaiting cache key id none))
        | some p =>
          if p.due ≤ t.now then
            Get.poll depth ((t.advanced id).emit (.lockTimedOut cache key id p.lockTimeout))
              (.loading cache (.calling p.call p.loader))
          else (t.advanced id, .pending (.awaiting cache key id (some p)))

variable {s t u : System} {id number : Nat} {cache : String} {key : Key}

theorem drives_of_flight (sound : s.Sound) {run : Run τ}
    (hload : s.load? id = some ⟨cache, key, number, .idle τ run⟩) (hflight : s.flight? cache key = some id) :
    s.Drives id cache key run := by
  cases hpoll : Run.poll s.work (s.setLoad id .busy) (some id) run with
  | mk mid progress =>
    refine ⟨mid, progress, hpoll, ?_⟩
    cases progress with
    | pending rest =>
      show s.advanced id = mid.setLoad id (.idle τ rest)
      simp only [advanced, advance, hload, hpoll]
    | ended outcome =>
      intro new hnew hinvalid
      have hadvanced : s.advanced id = mid.land id cache key number (loadResult outcome) := by
        simp only [advanced, advance, hload, hpoll]
      rw [hadvanced]
      obtain ⟨moves, hbusy⟩ := busy_of_ended hload hpoll
      have sound' : mid.Sound := sound.moves moves
      refine sound'.delivers hbusy (flight?_of_moves sound moves hnew hflight fun e he hfrees => ?_) _
      rcases hfrees with hlands | hinvalidates
      · -- a load that is busy has not landed
        have hended := (sound'.told.loads.landed id _ hbusy).2 ⟨e, hnew ▸ List.mem_append_left _ he, hlands⟩
        cases hended
      · exact hinvalid e he hinvalidates

/-- A get that looks up a key with a load in flight joins it. -/
theorem joined_of_flight {l : Lookup τ} (reached : l.before.Reached)
    (hflight : l.before.flight? l.store.name l.key = some id) : l.found = .joined id := by
  have hstore := Lookup.store?_before reached
  obtain ⟨store, hfound, hmap⟩ := Option.bind_eq_some_iff.1 hflight
  obtain rfl : l.store = store := Option.some.inj (hstore.symm.trans hfound)
  obtain ⟨flight, hfind, rfl⟩ := Option.map_eq_some_iff.1 hmap
  have hnone := (reached.sound.numbered.flying l.store.name l.store l.key flight hstore hfind).2
  have hlook := l.lookUp_eq
  simp only [lookUp, hnone, hfind] at hlook
  exact (Prod.mk.inj hlook).2.symm

/-- A load in flight whose loader has been called lives on until its key is set free, whoever advances it. -/
theorem endures_of_moves (reached : s.Reached) (hflight : s.flight? cache key = some id)
    (hcalled : ∃ load, s.load? id = some load ∧ load.state.called = true) (moves : Moves s t) {new : History}
    (hnew : t.history = new ++ s.history) (hfree : ∀ e ∈ new, ¬ e.event.Frees cache key id) :
    s.Endures t cache key id := by
  have reached' : t.Reached := reached.moves moves
  have sound : t.Sound := reached'.sound
  have hflies : t.flight? cache key = some id := flight?_of_moves reached.sound moves hnew hflight hfree
  refine ⟨hflies, ?_, ?_, fun l hbefore hcache hkey => ?_, fun patience deep =>
    Lookup.poll_awaiting deep cache key patience⟩
  · obtain ⟨store, number, state, -, -, hload, hunended⟩ := sound.exists_of_flight? hflies
    refine ⟨number, state, hload, ?_⟩
    cases state with
    | idle τ run => exact .inr ⟨τ, run, rfl, drives_of_flight sound hload hflies⟩
    | busy => exact .inl rfl
    | ended outcome => cases hunended
  · obtain ⟨load, hload, hstate⟩ := hcalled
    obtain ⟨e, he, hcalls⟩ := reached.sound.told.loads.called id load hload hstate
    exact ⟨e, he, Lookup.filter_callsFor sound.told.lawful (mem_history_of_moves moves he) hcalls⟩
  · subst hbefore
    subst hcache
    subst hkey
    have hfound := joined_of_flight reached' hflies
    exact ⟨hfound, Lookup.joins reached' hfound⟩

/-! ### What a loader has done -/

/-- Where a load is in the state `t` whose loader stood at `run` in the state `s`. -/
inductive Progressed (s : System) (id : Nat) (run : Run τ) (t : System) : LoadState → Prop where
  /-- The loader has gone on by its own polls only, and a sleep ends when it was due to end. -/
  | idle {rest : Run τ} (called : rest.called) (way : Run.Way (some id) s run t rest)
      (asleep : run.Still ∅ t.now → rest = run) : Progressed s id run t (.idle τ rest)
  | busy : Progressed s id run t .busy
  | ended (outcome : LoadResult) : Progressed s id run t (.ended outcome)

variable {run : Run τ} {state : LoadState}

theorem Progressed.moves (h : Progressed s id run t state) (moves : Moves t u) : Progressed s id run u state := by
  cases h with
  | idle called way asleep =>
    refine .idle called (way.moves moves) fun hstill => ?_
    exact asleep (hstill.earlier (now_moves moves))
  | busy => exact .busy
  | ended outcome => exact .ended outcome

/-- A poll that leaves the loader pending leads it on. -/
theorem Progressed.poll {σ : ValueType} {now rest : Run σ} {depth : Nat} (h : Progressed s id run t (.idle σ now))
    (arises : t.Arises) (hload : t.load? id = some ⟨cache, key, number, .idle σ now⟩)
    (hpoll : Run.poll depth (t.setLoad id .busy) (some id) now = (u, .pending rest)) :
    Progressed s id run (u.setLoad id (.idle σ rest)) (.idle σ rest) := by
  cases h with
  | idle called way asleep =>
    obtain ⟨moves, hbusy⟩ := busy_of_poll hload (.inl called) hpoll
    have hrest : rest.called = true := Run.called_of_poll (.inl called) (congrArg Prod.snd hpoll)
    have hopened := (way.moves (.single (.resume hload called))).poll (arises.resume hload called) hpoll
    refine .idle hrest (hopened.moves (.single (.pause hbusy hrest))) fun hstill => ?_
    -- what sleeps now has slept before, and was not woken by the poll
    have hbefore : run.Still ∅ t.now := hstill.earlier (now_moves moves)
    obtain rfl := asleep hbefore
    have hnone : (t.setLoad id .busy).Still ∅ := nofun
    rw [poll_run_still hnone hbefore] at hpoll
    cases hpoll
    rfl

/-- The load with the number `id` has lost nothing. -/
def Sustained (s : System) (id : Nat) (run : Run τ) (other : Nat) (load : Load) (t : System) : Prop :=
  other = id → Progressed s id run t load.state

theorem upheld_sustained : Upheld (id + 1) (s.Sustained id run) where
  moves h moves hid := (h hid).moves moves
  started := by
    intro τ t u name store label key loader new _ hfirst _ _ hid
    omega
  opened _ _ := .busy
  paused := by
    intro τ t u depth other number cache key now rest arises h hload _ hpoll hid
    subst hid
    exact (h rfl).poll arises hload hpoll
  landed _ _ _ _ _ := .ended _

end System

/-! ### Schedules -/

namespace Session

variable {x : Session}

theorem progressed_play (arises : x.system.Arises) {id : Nat} {load : Load} (hload : x.system.load? id = some load)
    {run : Run τ} (hstate : load.state = .idle τ run) (hcalled : run.called) (more : List Turn) :
    ∃ state, (x.play more).system.load? id = some { load with state } ∧
      System.Progressed x.system id run (x.play more).system state := by
  have hstart : System.Upheld.Holds (id + 1) (x.system.Sustained id run) x.system := by
    refine ⟨arises, System.Numbered.lt_of_load? hload, ?_⟩
    rintro _ now hnow rfl
    cases hload.symm.trans hnow
    exact hstate ▸ .idle hcalled .refl fun _ => rfl
  obtain ⟨state, hafter⟩ := System.load?_moves (moves_play x more) hload
  exact ⟨state, hafter, (System.upheld_sustained.play hstart more).each id _ hafter rfl⟩

/-- The session `x` is the session `y` without that task. -/
structure Lacks (task : Task) (x y : Session) : Prop where
  system : x.system = y.system
  started : x.started = y.started
  tasks : ∃ place, y.tasks[place]? = some task ∧ x.tasks = y.tasks.eraseIdx place

/-- Where a task is when the one at `place` is counted, too. -/
def beside (place other : Nat) : Nat := if other < place then other else other + 1

theorem getElem?_beside {α : Type} (as : List α) (place other : Nat) :
    (as.eraseIdx place)[other]? = as[beside place other]? := by
  unfold beside
  rw [List.getElem?_eraseIdx]
  split
  · rfl
  · rfl

theorem set_beside {α : Type} (as : List α) (place other : Nat) (a : α) :
    (as.eraseIdx place).set other a = (as.set (beside place other) a).eraseIdx place := by
  unfold beside
  split
  next hlt => exact (List.eraseIdx_set_gt hlt).symm
  next hle => rw [List.eraseIdx_set_lt (by omega), Nat.add_sub_cancel]

theorem beside_ne (place other : Nat) : beside place other ≠ place := by
  unfold beside
  split
  · omega
  · omega

/-- Of two elements that are erased either may be erased first. -/
theorem eraseIdx_beside {α : Type} (as : List α) (place other : Nat) : ∃ place',
    (as.eraseIdx (beside place other))[place']? = as[place]? ∧
      (as.eraseIdx place).eraseIdx other = (as.eraseIdx (beside place other)).eraseIdx place' := by
  unfold beside
  split
  next hlt =>
    refine ⟨place - 1, ?_, List.ext_getElem? fun i => ?_⟩
    · rw [List.getElem?_eraseIdx_of_ge (by omega), Nat.sub_add_cancel (by omega)]
    · simp only [List.getElem?_eraseIdx]
      grind
  next hle =>
    refine ⟨place, List.getElem?_eraseIdx_of_lt (by omega), List.ext_getElem? fun i => ?_⟩
    simp only [List.getElem?_eraseIdx]
    grind

namespace Lacks

variable {task : Task}

/-- A turn that goes alike in both sessions and keeps the tasks. -/
theorem alike (h : Lacks task x y) (f : System → System) : Lacks task (x.mapSystem f) (y.mapSystem f) :=
  ⟨congrArg f h.system, h.started, h.tasks⟩

theorem start (h : Lacks task x y) (name : String) (type : ValueType) (request : Request) (loader : Loader type) :
    Lacks task (x.turn (.start name type request loader)) (y.turn (.start name type request loader)) := by
  obtain ⟨place, hplace, htasks⟩ := h.tasks
  obtain ⟨hlt, -⟩ := List.getElem?_eq_some_iff.1 hplace
  refine ⟨h.system, congrArg (· + 1) h.started, place, ?_, ?_⟩
  · exact (List.getElem?_append_left hlt).trans hplace
  · show x.tasks ++ _ = (y.tasks ++ _).eraseIdx place
    rw [List.eraseIdx_append_of_lt_length hlt, htasks, h.started]

theorem poll (h : Lacks task x y) (place : Nat) :
    ∃ other, Lacks task (x.turn (.poll place)) (y.turn (.poll other)) := by
  obtain ⟨gap, hgap, htasks⟩ := h.tasks
  refine ⟨beside gap place, ?_⟩
  have hsame : x.tasks[place]? = y.tasks[beside gap place]? := by rw [htasks, getElem?_beside]
  cases hplace : x.tasks[place]? with
  | none =>
    rw [turn_poll_of_none x hplace, turn_poll_of_none y (hsame.symm.trans hplace)]
    exact h
  | some polled =>
    cases hpoll : x.system.poll polled.get with
    | mk s progress =>
      rw [turn_poll x hplace hpoll, turn_poll y (hsame.symm.trans hplace) (h.system ▸ hpoll)]
      cases progress with
      | pending get =>
        refine ⟨rfl, h.started, gap, ?_, ?_⟩
        · exact (List.getElem?_set_ne (beside_ne gap place)).trans hgap
        · show x.tasks.set place _ = _
          rw [htasks, set_beside]
      | ended outcome =>
        obtain ⟨gap', hgap', herased⟩ := eraseIdx_beside y.tasks gap place
        refine ⟨rfl, h.started, gap', hgap'.trans hgap, ?_⟩
        show x.tasks.eraseIdx place = _
        rw [htasks, herased]

theorem drop (h : Lacks task x y) (place : Nat) :
    ∃ other, Lacks task (x.turn (.drop place)) (y.turn (.drop other)) := by
  obtain ⟨gap, hgap, htasks⟩ := h.tasks
  obtain ⟨gap', hgap', herased⟩ := eraseIdx_beside y.tasks gap place
  refine ⟨beside gap place, h.system, h.started, gap', hgap'.trans hgap, ?_⟩
  show x.tasks.eraseIdx place = _
  rw [htasks, herased]
  rfl

/-- Every turn without the task is one beside it. -/
theorem turn (h : Lacks task x y) (t : Turn) : ∃ other, Lacks task (x.turn t) (y.turn other) := by
  cases t with
  | start name type request loader => exact ⟨_, h.start name type request loader⟩
  | poll place =>
    obtain ⟨other, hother⟩ := h.poll place
    exact ⟨_, hother⟩
  | drop place =>
    obtain ⟨other, hother⟩ := h.drop place
    exact ⟨_, hother⟩
  | elapse ms => exact ⟨.elapse ms, h.alike (·.elapse ms)⟩
  | invalidate name key =>
    refine ⟨.invalidate name key, ?_⟩
    simp only [Session.turn, h.system]
    split
    · exact h.alike _
    · exact h
  | invalidateAll name =>
    refine ⟨.invalidateAll name, ?_⟩
    simp only [Session.turn, h.system]
    split
    · exact h.alike _
    · exact h
  | tend name => exact ⟨.tend name, h.alike (·.tend name)⟩

end Lacks

/-- What happens without a task could have happened beside it. -/
theorem lacks_play {task : Task} (h : Lacks task x y) (turns : List Turn) :
    ∃ others, Lacks task (x.play turns) (y.play others) := by
  induction turns generalizing x y with
  | nil => exact ⟨[], h⟩
  | cons t turns ih =>
    obtain ⟨other, hturn⟩ := h.turn t
    obtain ⟨others, hplay⟩ := ih hturn
    exact ⟨other :: others, hplay⟩

/-- **A dropped task costs nothing but its own answer.** The system is as it was, and what follows could have followed
beside the task. Every load in flight lives on, until its key is set free. However the schedule goes on, each load has
ended or goes on from where it was. -/
theorem cancellation_safe {registry : Registry} (built : registry.Built) (turns : List Turn) (place : Nat) :
    let x := (Session.start registry).play turns
    let y := x.turn (.drop place)
    y.system = x.system ∧
    (∀ task, x.tasks[place]? = some task → ∀ more, ∃ others, Lacks task (y.play more) (x.play others)) ∧
    (∀ cache key id, x.system.flight? cache key = some id → ∀ t new, System.Moves y.system t →
      t.history = new ++ y.system.history → (∀ e ∈ new, ¬ e.event.Frees cache key id) →
      x.system.Endures t cache key id) ∧
    ∀ id load τ (run : Run τ), x.system.load? id = some load → load.state = .idle τ run → ∀ more, ∃ state,
      (y.play more).system.load? id = some { load with state } ∧ state ≠ .busy ∧
        System.Progressed x.system id run (y.play more).system state := by
  intro x y
  have reached : x.system.Reached := System.Reached.play built turns
  have orderly {turns : List Turn} :
      ((Session.start registry).play turns).Orderly ⟨fun _ => True, storesOf registry⟩ :=
    orderly_play built fun t _ => t.asks_all
  refine ⟨rfl, fun task htask => lacks_play ⟨rfl, rfl, place, htask, rfl⟩,
    fun cache key id hflight t new moves hnew hfree => ?_, fun id load τ run hload hstate more => ?_⟩
  · obtain ⟨store, number, state, -, -, hload, -⟩ := reached.sound.exists_of_flight? hflight
    exact System.endures_of_moves reached hflight ⟨_, hload, orderly.called hload⟩ moves hnew hfree
  · have arises : y.system.Arises := (underway_play built turns).arises
    have hcalled := orderly.called hload
    rw [hstate] at hcalled
    obtain ⟨state, hafter, hprogressed⟩ := progressed_play (x := y) arises hload hstate hcalled more
    refine ⟨state, hafter, ?_, hprogressed⟩
    rintro rfl
    have hplay : y.play more = (Session.start registry).play (turns ++ .drop place :: more) := by
      rw [play_append]
      rfl
    rw [hplay] at hafter
    exact orderly.calm id ⟨_, hafter, trivial⟩

/-- A loader sleeps for 50 ms; its task is dropped after 3 ms. -/
private def abandoned : List Turn :=
  [.start "a" .flag ⟨"a", "c", .ok (.ofNat 1), .registry, .zero⟩ (.sleep 50 (.done (some (.flag true)))), .poll 0,
    .elapse 3]

/-- Another get of the key 7 ms later. -/
private def second : Lookup .flag :=
  let before := (((Session.start (.sole "c" .unset)).play abandoned).turn (.drop 0)).system.elapse 7
  let store := (before.store? "c").getD ⟨"c", .unset, ∅, ∅, 0, .start⟩
  let found := before.lookUp store ⟨"b", "c", .ofNat 1⟩ (.done none : Loader .flag)
  { before, store, request := ⟨"b", "c", .ok (.ofNat 1), .registry, .zero⟩, loader := .done none, key := .ofNat 1,
    after := found.1, found := found.2, key_eq := rfl, reach_eq := rfl, lookUp_eq := rfl }

/-- It joins the load, whose loader has been called once and sleeps as long as it would have. -/
theorem cancellation_safe_abandoned : second.found = .joined 0 ∧
    second.before.history.countP (·.event.callsFor 0) = 1 ∧ second.before.load? 0 =
      some ⟨"c", .ofNat 1, 0, .idle .flag (.sleeping 50 (.done (some (.flag true))))⟩ := by
  have built : (Registry.sole "c" .unset).Built := Registry.built_sole (by decide) rfl
  obtain ⟨-, -, endures, progressed⟩ := cancellation_safe built abandoned 0
  have hflight : ((Session.start (.sole "c" .unset)).play abandoned).system.flight? "c" (.ofNat 1) = some 0 := rfl
  have hload : ((Session.start (.sole "c" .unset)).play abandoned).system.load? 0 =
      some ⟨"c", .ofNat 1, 0, .idle .flag (.sleeping 50 (.done (some (.flag true))))⟩ := rfl
  have hendures := endures "c" (.ofNat 1) 0 hflight second.before [] (.single (.elapse _ 7)) rfl nofun
  obtain ⟨hfound, -⟩ := hendures.joined second rfl rfl rfl
  obtain ⟨e, -, hcalled⟩ := hendures.called
  obtain ⟨number, state, hunended, hstate⟩ := hendures.unended
  obtain ⟨after, hafter, hbusy, hprogressed⟩ := progressed 0 _ .flag _ hload rfl [.elapse 7]
  refine ⟨hfound, ?_, ?_⟩
  · rw [List.countP_eq_length_filter, hcalled]
    rfl
  · cases hprogressed with
    | idle called way asleep =>
      rw [asleep (show second.before.now < 50 by decide)] at hafter
      exact hafter
    | busy => exact absurd rfl hbusy
    | ended outcome =>
      -- the load has not ended, since it is in flight
      have hsame := hunended.symm.trans hafter
      rcases hstate with rfl | ⟨σ, run, rfl, -⟩
      · cases hsame
      · cases hsame

end Session

end SingleFlight
