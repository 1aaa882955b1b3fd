import SingleFlight.Proofs.Phase
import SingleFlight.Proofs.Twins

/-!
# Observation is inert

To ask whether a key is contained, how many entries a cache has, or what a cache is like, changes nothing but upkeep.

* tasks, passes, milliseconds and steps keep sessions twins (`Session.Twins.perform`), and a step that observes makes a
  twin of the session (`Session.Twins.observe`);
* so sessions whose steps are the same but for observations are twins all along, and every step says the same in both.
  Only a count may differ: upkeep that an observation sets off lets go of the values that have gone idle
  (`Session.observation_inert`).
-/

namespace SingleFlight

/-- Two stores that are the same but for their upkeep count the keys that they contain, and the values past the access
limit that their upkeep has not let go of yet. -/
structure LocalStore.CountsNear (a b : LocalStore) (now : Nat) : Prop where
  twins : (a.tend now []).Twins (b.tend now [])
  contained : ∃ keys : List Key, keys.Nodup ∧ (∀ key, key ∈ keys ↔ a.contains now key = true) ∧
    (a.tend now []).size = keys.length + (a.stale now).length ∧
    (b.tend now []).size = keys.length + (b.stale now).length
  expired : ∀ key, key ∈ a.stale now ∨ key ∈ b.stale now → a.fresh now key = true ∧ a.idle now key = true
  same : a.tuning.expireAfterAccess = none ∨ (∀ key, a.peek now key = none) →
    (a.tend now []).size = (b.tend now []).size

namespace LocalStore

variable {a b : LocalStore} {now : Nat}

/-- What it takes to tell the count of a store: it has no size limit, upkeep knows all of its values, and what is in
flight has none. -/
structure Countable (store : LocalStore) (now : Nat) : Prop where
  unbounded : store.tuning.maximumSize = none
  tracked : store.Tracked now
  flying : ∀ key flight, store.inFlight.find? key = some flight → store.peek now key = none

namespace Countable

/-- Where values do not go idle, or none is left that has not, no value counts that has expired. -/
theorem stale_eq_nil (h : a.Countable now) (hrest : a.tuning.expireAfterAccess = none ∨ ∀ key, a.peek now key = none) :
    a.stale now = [] := by
  rcases hrest with haccess | hnone
  · exact LocalStore.stale_eq_nil h.unbounded haccess
  · by_contra hstale
    obtain ⟨key, hkey⟩ := exists_ready_of_stale h.tracked h.unbounded hstale
    rw [hnone key] at hkey
    cases hkey

/-- Stores that contain the same keys count them, and each what its upkeep has not let go of yet. -/
theorem sizes (ha : a.Countable now) (hb : b.Countable now)
    (hcontains : ∀ key, a.contains now key = b.contains now key) :
    ∃ keys : List Key, keys.Nodup ∧ (∀ key, key ∈ keys ↔ a.contains now key = true) ∧
      (a.tend now []).size = keys.length + (a.stale now).length ∧
      (b.tend now []).size = keys.length + (b.stale now).length := by
  obtain ⟨keys, hnodup, hkeys, hcount⟩ := size_tend ha.tracked ha.unbounded ha.flying
  obtain ⟨keys', hnodup', hkeys', hcount'⟩ := size_tend hb.tracked hb.unbounded hb.flying
  have hlength : keys'.length = keys.length := by
    refine ((List.perm_ext_iff_of_nodup hnodup' hnodup).2 fun key => ?_).length_eq
    rw [hkeys, hkeys', hcontains]
  rw [hlength] at hcount'
  exact ⟨keys, hnodup, hkeys, hcount, hcount'⟩

end Countable

theorem Twins.countsNear (h : a.Twins b) (ha : a.Countable now) (hb : b.Countable now) : a.CountsNear b now := by
  have hsizes := ha.sizes hb (h.contains now)
  refine ⟨h.tend now, hsizes, fun key hkey => ?_, fun hrest => ?_⟩
  · rcases hkey with hmem | hmem
    · exact of_mem_stale h.unbounded hmem
    · rw [h.fresh, h.idle]
      exact of_mem_stale h.symm.unbounded hmem
  · obtain ⟨keys, -, -, hcount, hcount'⟩ := hsizes
    have hrest' : b.tuning.expireAfterAccess = none ∨ ∀ key, b.peek now key = none := by
      rcases hrest with haccess | hnone
      · exact .inl (h.tuning ▸ haccess)
      · exact .inr fun key => (h.peek now key).symm.trans (hnone key)
    rw [hcount, hcount', ha.stale_eq_nil hrest, hb.stale_eq_nil hrest']

end LocalStore

namespace System

/-- In a reached state the count of a store without a size limit can be told. -/
theorem Reached.countable {s : System} (h : s.Reached) {name : String} {store : LocalStore}
    (hfind : s.registry.find? name = some (.local store)) (hsize : store.tuning.maximumSize = none) :
    store.Countable s.now := by
  have hstore := store?_of_find? hfind
  exact ⟨hsize, tracked_of_reached h name store hstore hsize, fun key flight hflight =>
    (h.sound.numbered.flying name store key flight hstore hflight).2⟩

/-- Stores that do not let go of values for their size have none. -/
theorem Twins.unbounded {s t : System} (h : s.Twins t) : s.Unbounded := by
  intro name store hfind
  obtain ⟨_, -, hstore⟩ := h.find?_local hfind
  exact hstore.unbounded

/-- Upkeep makes a twin of a system. -/
theorem twins_tend {s : System} (h : s.Unbounded) (name : String) : (s.tend name).Twins s where
  now := rfl
  caches other := by
    rw [System.tend, find?_mapStore]
    rcases hfind : s.registry.find? other with _ | store | own
    · split <;> exact .none
    · have hsize := h other store hfind
      split
      · exact .some (.local (LocalStore.twins_tend hsize s.now []))
      · exact .some (.local (.refl hsize))
    · split <;> exact .some (.passThrough own)
  loads := rfl
  history := rfl

theorem Twins.pollTask {s t : System} (h : s.Twins t) (task : Task) :
    (s.pollTask task).1.Twins (t.pollTask task).1 ∧ (t.pollTask task).2 = (s.pollTask task).2 := by
  obtain ⟨v, hpoll, hv⟩ := h.poll task.get
  simp only [System.pollTask, hpoll]
  cases hfirst : s.poll task.get with
  | mk u progress =>
    rw [hfirst] at hv
    cases progress with
    | pending rest => exact ⟨hv, rfl⟩
    | ended outcome => exact ⟨hv.emit _, rfl⟩

theorem Twins.pollEach {s t : System} (h : s.Twins t) (tasks : List Task) :
    (s.pollEach tasks).1.Twins (t.pollEach tasks).1 ∧ (t.pollEach tasks).2 = (s.pollEach tasks).2 := by
  induction tasks generalizing s t with
  | nil => exact ⟨h, rfl⟩
  | cons task rest ih =>
    obtain ⟨htwins, hleft⟩ := h.pollTask task
    simp only [System.pollEach]
    cases hfirst : s.pollTask task with
    | mk u left =>
      cases hsecond : t.pollTask task with
      | mk v left' =>
        rw [hfirst, hsecond] at htwins hleft
        obtain rfl : left' = left := hleft
        obtain ⟨hrest, heq⟩ := ih htwins
        cases left' with
        | none => exact ⟨hrest, heq⟩
        | some task' => exact ⟨hrest, congrArg (task' :: ·) heq⟩

end System

namespace Session

/-! ### Sessions of twins -/

/-- Sessions that are the same but for the upkeep of their stores, none of which has a size limit. -/
structure Twins (x y : Session) : Prop where
  system : x.system.Twins y.system
  tasks : x.tasks = y.tasks
  started : x.started = y.started

/-- The step only asks. -/
def Step.observes : Step → Bool
  | .contains _ _ | .count _ | .inspect _ => true
  | _ => false

/-- The step asks how many entries a cache has. -/
def Step.counts : Step → Bool
  | .count _ | .inspect _ => true
  | _ => false

/-- What the session says when it is asked for the count of that store. -/
def Shows (x : Session) (name : String) (store : LocalStore) : Prop :=
  (x.step (.count name)).2 =
    ⟨x.system.now, .number (store.tend x.system.now []).size, [], x.tasks.map (·.name)⟩ ∧
  (x.step (.inspect name)).2 =
    ⟨x.system.now, .cache (.local (store.tend x.system.now [])), [], x.tasks.map (·.name)⟩

variable {x y z : Session}

namespace Twins

theorem symm (h : x.Twins y) : y.Twins x := ⟨h.system.symm, h.tasks.symm, h.started.symm⟩

theorem trans (h : x.Twins y) (h' : y.Twins z) : x.Twins z :=
  ⟨h.system.trans h'.system, h.tasks.trans h'.tasks, h.started.trans h'.started⟩

section
variable (h : x.Twins y)
include h

theorem pass : x.pass.Twins y.pass := by
  obtain ⟨hsystem, htasks⟩ := h.system.pollEach x.tasks
  rw [h.tasks] at hsystem htasks
  refine ⟨?_, ?_, h.started⟩
  · simp only [Session.pass, h.tasks]
    exact hsystem
  · simp only [Session.pass, h.tasks]
    exact htasks.symm

theorem settleWithin (passes : Nat) : (x.settleWithin passes).Twins (y.settleWithin passes) := by
  induction passes generalizing x y with
  | zero => exact h
  | succ passes ih =>
    have hpass := h.pass
    simp only [Session.settleWithin, hpass.tasks, h.tasks]
    split
    · exact ih hpass
    · exact hpass

theorem settle : x.settle.Twins y.settle := by
  rw [Session.settle, Session.settle, h.tasks]
  exact h.settleWithin _

theorem elapse (ms : Nat) : (x.mapSystem (·.elapse ms)).Twins (y.mapSystem (·.elapse ms)) :=
  ⟨h.system.elapse ms, h.tasks, h.started⟩

theorem tick : x.tick.Twins y.tick := (h.elapse 1).settle

theorem advance (ms : Nat) : (x.advance ms).Twins (y.advance ms) := by
  induction ms generalizing x y with
  | zero => exact h
  | succ ms ih =>
    simp only [Session.advance, h.tasks]
    split
    · exact h.elapse (ms + 1)
    · exact ih h.tick

theorem spawn (name : String) (request : Request) (loader : Loader τ) :
    (x.spawn name request loader).Twins (y.spawn name request loader) := by
  have hstarted : Twins
      { x with tasks := x.tasks ++ [⟨x.started, name, τ, .asking request loader⟩], started := x.started + 1 }
      { y with tasks := y.tasks ++ [⟨y.started, name, τ, .asking request loader⟩], started := y.started + 1 } :=
    ⟨h.system, by rw [h.tasks, h.started], congrArg (· + 1) h.started⟩
  exact hstarted.settle

theorem await (id limit : Nat) : (x.await id limit).Twins (y.await id limit) := by
  induction limit generalizing x y with
  | zero => exact h
  | succ limit ih =>
    simp only [Session.await, h.tasks]
    split
    · exact ih h.tick
    · exact h

theorem abort (name : String) : (x.abort name).Twins (y.abort name) := by
  have hdropped : Twins { x with tasks := x.tasks.eraseP (·.name == name) }
      { y with tasks := y.tasks.eraseP (·.name == name) } := ⟨h.system, by rw [h.tasks], h.started⟩
  exact hdropped.settle

theorem replaceSystem {s t : Except CacheFault System} (hsame : SameEnd System.Twins s t) :
    (x.replaceSystem s).1.Twins (y.replaceSystem t).1 ∧ (x.replaceSystem s).2 = (y.replaceSystem t).2 := by
  cases hsame with
  | error fault => exact ⟨h, rfl⟩
  | ok hsystem => exact ⟨⟨hsystem, h.tasks, h.started⟩, rfl⟩

/-- A question that twins answer alike is answered alike. -/
theorem askStore (name : String) {question : LocalStore → Reply}
    (hquestion : ∀ a b : LocalStore, a.Twins b → question a = question b) :
    x.askStore name question = y.askStore name question := by
  have hname := h.system.caches name
  unfold Session.askStore
  generalize x.system.registry.find? name = cache at hname ⊢
  generalize y.system.registry.find? name = cache' at hname ⊢
  cases hname with
  | none => rfl
  | some hcache =>
    cases hcache with
    | «local» hstore => exact hquestion _ _ hstore
    | passThrough own => rfl

theorem tend (name : String) : (x.mapSystem (·.tend name)).Twins (y.mapSystem (·.tend name)) := by
  refine ⟨?_, h.tasks, h.started⟩
  simp only [Session.mapSystem, System.tend, h.system.now]
  exact h.system.mapStore name fun a b hstore => hstore.tend _

/-- A step keeps sessions twins, and says the same in both unless it counts. -/
theorem perform (step : Step) : (x.perform step).1.Twins (y.perform step).1 ∧
    (step.counts = false → (x.perform step).2 = (y.perform step).2) := by
  cases step with
  | start name type request loader => exact ⟨h.spawn name request loader, fun _ => rfl⟩
  | get name type request loader limit =>
    simp only [Session.perform, h.started]
    exact ⟨(h.spawn name request loader).await y.started limit, fun _ => trivial⟩
  | advance ms => exact ⟨h.advance ms, fun _ => rfl⟩
  | abort name =>
    simp only [Session.perform, h.tasks]
    exact ⟨h.abort name, fun _ => trivial⟩
  | invalidate name key =>
    cases key with
    | error fault => exact ⟨h, fun _ => rfl⟩
    | ok key =>
      obtain ⟨htwins, hreply⟩ := h.replaceSystem (h.system.invalidate name key)
      exact ⟨htwins, fun _ => hreply⟩
  | invalidateAll name =>
    obtain ⟨htwins, hreply⟩ := h.replaceSystem (h.system.invalidateAll name)
    exact ⟨htwins, fun _ => hreply⟩
  | invalidateIn name key =>
    cases key with
    | error fault => exact ⟨h, fun _ => rfl⟩
    | ok key =>
      have hname := h.system.caches name
      simp only [Session.perform]
      generalize x.system.registry.find? name = cache at hname ⊢
      generalize y.system.registry.find? name = cache' at hname ⊢
      cases hname with
      | none => exact ⟨h, fun _ => rfl⟩
      | some hcache => exact ⟨⟨h.system.invalidateIn hcache key, h.tasks, h.started⟩, fun _ => rfl⟩
  | invalidateAllIn name =>
    have hname := h.system.caches name
    simp only [Session.perform]
    generalize x.system.registry.find? name = cache at hname ⊢
    generalize y.system.registry.find? name = cache' at hname ⊢
    cases hname with
    | none => exact ⟨h, fun _ => rfl⟩
    | some hcache => exact ⟨⟨h.system.invalidateAllIn hcache, h.tasks, h.started⟩, fun _ => rfl⟩
  | contains name key =>
    cases key with
    | error fault => exact ⟨h, fun _ => rfl⟩
    | ok key =>
      refine ⟨h, fun _ => ?_⟩
      simp only [Session.perform, h.system.now]
      exact h.askStore name fun a b hstore => by rw [hstore.contains]
  | count name | inspect name =>
    refine ⟨h.tend name, fun hcounts => ?_⟩
    cases hcounts

/-- A step that observes makes a twin. -/
theorem observe {step : Step} (hobserves : step.observes = true) : (x.perform step).1.Twins y := by
  have htended (name : String) : (x.mapSystem (·.tend name)).Twins x :=
    ⟨System.twins_tend h.system.unbounded name, rfl, rfl⟩
  cases step with
  | contains name key =>
    cases key with
    | error fault => exact h
    | ok key => exact h
  | count name => exact (htended name).trans h
  | inspect name => exact (htended name).trans h
  | _ => cases hobserves

end

end Twins

/-! ### Runs -/

theorem Twins.trace {x y : Session} (h : x.Twins y) : x.system.trace = y.system.trace :=
  congrArg List.reverse h.system.history

theorem Twins.counting {x y : Session} (h : x.Twins y) : x.counting = y.counting := by
  funext name
  have hname := h.system.caches name
  unfold Session.counting
  generalize x.system.registry.find? name = cache at hname ⊢
  generalize y.system.registry.find? name = cache' at hname ⊢
  cases hname with
  | none => rfl
  | some hcache =>
    cases hcache with
    | «local» hstore => exact congrArg Tuning.countsMetrics hstore.tuning
    | passThrough own => rfl

theorem Twins.eventsSince {x y x' y' : Session} (h : x.Twins y) (h' : x'.Twins y') :
    Session.eventsSince x x' = Session.eventsSince y y' := by
  simp only [Session.eventsSince, h.system.history, h'.system.history]

/-- A step that does not count reports the same in twins. -/
theorem Twins.report {x y : Session} (h : x.Twins y) {step : Step} (hcounts : step.counts = false) :
    (x.step step).2 = (y.step step).2 := by
  obtain ⟨htwins, hreply⟩ := h.perform step
  simp only [Session.step, Report.mk.injEq]
  exact ⟨htwins.system.now, hreply hcounts, h.eventsSince htwins, congrArg (·.map Task.name) htwins.tasks⟩

/-- To leave out what observes makes a twin of the run. -/
theorem Twins.run {x y : Session} (h : x.Twins y) (steps : List Step) :
    (x.run steps).1.Twins (y.run (steps.filter (!·.observes))).1 := by
  induction steps generalizing x y with
  | nil => exact h
  | cons step steps ih =>
    cases hobserves : step.observes with
    | true =>
      -- only the first run makes the step, and stays a twin of the second one
      rw [List.filter_cons_of_neg (by simp [hobserves])]
      exact ih (h.observe hobserves)
    | false =>
      rw [List.filter_cons_of_pos (by simp [hobserves])]
      exact ih (h.perform step).1

/-- The report of a step in a run is the one of that step after those before it. -/
theorem reports_run (x : Session) (before : List Step) (step : Step) (after : List Step) :
    (x.run (before ++ step :: after)).2[before.length]? = some ((x.run before).1.step step).2 := by
  induction before generalizing x with
  | nil => rfl
  | cons first before ih => exact ih (x.step first).1

theorem eventsSince_of_history {x y : Session} (h : y.system.history = x.system.history) : eventsSince x y = [] := by
  simp [eventsSince, h]

/-- A question leaves no event, and the tasks as they are. -/
theorem quiet_of_observes (x : Session) {step : Step} (h : step.observes = true) :
    (x.step step).2.trace = [] ∧ (x.step step).2.now = x.system.now ∧
      (x.step step).2.live = x.tasks.map (·.name) := by
  cases step with
  | contains name key =>
    cases key with
    | error fault => exact ⟨eventsSince_of_history rfl, rfl, rfl⟩
    | ok key => exact ⟨eventsSince_of_history rfl, rfl, rfl⟩
  | count name | inspect name => exact ⟨eventsSince_of_history rfl, rfl, rfl⟩
  | _ => cases h

theorem find?_tend (s : System) (name : String) : (s.tend name).registry.find? name =
    (s.registry.find? name).map (·.mapStore (·.tend s.now [])) := by
  rw [System.tend, System.find?_mapStore, if_pos rfl]

theorem shows_of_find? {x : Session} {name : String} {store : LocalStore}
    (h : x.system.registry.find? name = some (.local store)) : x.Shows name store := by
  have hfind := find?_tend x.system name
  have htrace : x.eventsSince (x.mapSystem (·.tend name)) = [] := eventsSince_of_history rfl
  rw [h, Option.map_some] at hfind
  constructor
  · have hreply : (x.mapSystem (·.tend name)).askStore name (fun store => .number store.size) =
        .number (store.tend x.system.now []).size := by
      simp only [askStore, mapSystem, hfind]
      rfl
    simp only [Session.step, Session.perform, hreply, htrace]
    rfl
  · simp only [Session.step, Session.perform, htrace]
    simp only [mapSystem, hfind]
    rfl

/-- Of a cache that is no local store twins say the same when they are asked for its count. -/
theorem Twins.report_count {x y : Session} (h : x.Twins y) {name : String}
    (hlocal : ∀ store, x.system.registry.find? name ≠ some (.local store)) {step : Step}
    (hstep : step = .count name ∨ step = .inspect name) : (x.step step).2 = (y.step step).2 := by
  have hx := find?_tend x.system name
  have hy := find?_tend y.system name
  have hreply : (x.perform step).2 = (y.perform step).2 := by
    rcases hfind : x.system.registry.find? name with _ | store | own
    · rw [hfind] at hx
      rw [h.system.find?_none hfind] at hy
      rcases hstep with rfl | rfl
      · simp only [Session.perform, Session.askStore, mapSystem, hx, hy, Option.map_none]
      · simp only [Session.perform, mapSystem, hx, hy, Option.map_none]
    · exact absurd hfind (hlocal store)
    · rw [hfind] at hx
      rw [h.system.find?_passThrough hfind] at hy
      rcases hstep with rfl | rfl
      · simp only [Session.perform, Session.askStore, mapSystem, hx, hy, Option.map_some, Cache.mapStore]
      · simp only [Session.perform, mapSystem, hx, hy, Option.map_some, Cache.mapStore]
  have htwins := (h.perform step).1
  simp only [Session.step, Report.mk.injEq]
  exact ⟨htwins.system.now, hreply, h.eventsSince htwins, congrArg (·.map Task.name) htwins.tasks⟩

theorem moves_run (x : Session) (steps : List Step) : System.Moves x.system (x.run steps).1.system := by
  obtain ⟨turns, hplay⟩ := plays_run x steps
  rw [← hplay]
  exact moves_play x turns

theorem reached_run {registry : Registry} (built : registry.Built) (steps : List Step) :
    ((start registry).run steps).1.system.Reached :=
  ⟨registry, built, moves_run (start registry) steps⟩

/-- **Observation is inert.** Take two sessions over caches without a size limit whose steps are the same but for steps
that ask whether a key is contained, how many entries there are, or what a cache is like. They stay the same but for
upkeep, with the same counters, and every further step reports the same in both: the same reply, clock, events and live
tasks. Only a count of a local store may differ. Each session counts the keys that are contained, which are the same in
both, and the values past the access limit that its upkeep has not let go of yet. There are none without an access
limit or if every value has expired. A step that asks leaves no event, and changes nothing but upkeep. -/
theorem observation_inert {registry : Registry} (built : registry.Built)
    (unbounded : (System.start registry).Unbounded) {steps steps' : List Step}
    (same : steps.filter (!·.observes) = steps'.filter (!·.observes)) :
    let x := ((start registry).run steps).1
    let y := ((start registry).run steps').1
    x.Twins y ∧
    x.system.trace.counts x.counting = y.system.trace.counts y.counting ∧
    (∀ next : Step, next.counts = false → (x.step next).2 = (y.step next).2) ∧
    (∀ name, (∀ store, x.system.registry.find? name ≠ some (.local store)) →
      (x.step (.count name)).2 = (y.step (.count name)).2 ∧ (x.step (.inspect name)).2 = (y.step (.inspect name)).2) ∧
    (∀ name a, x.system.registry.find? name = some (.local a) → ∃ b, y.system.registry.find? name = some (.local b) ∧
      x.Shows name a ∧ y.Shows name b ∧ a.CountsNear b x.system.now) ∧
    (∀ next after, ((start registry).run (steps ++ next :: after)).2[steps.length]? = some (x.step next).2 ∧
      ((start registry).run (steps' ++ next :: after)).2[steps'.length]? = some (y.step next).2) ∧
    ∀ next : Step, next.observes = true → (x.step next).1.Twins x ∧ (x.step next).2.trace = [] ∧
      (x.step next).2.now = x.system.now ∧ (x.step next).2.live = x.tasks.map (·.name) := by
  intro x y
  have hstart : (start registry).Twins (start registry) := ⟨.refl unbounded, rfl, rfl⟩
  have hrun' : y.Twins ((start registry).run (steps'.filter (!·.observes))).1 := hstart.run steps'
  have htwins : x.Twins y := by
    rw [← same] at hrun'
    exact (hstart.run steps).trans hrun'.symm
  refine ⟨htwins, ?_, fun next => htwins.report, fun name hlocal => ⟨?_, ?_⟩, fun name a ha => ?_,
    fun next after => ⟨reports_run _ steps next after, reports_run _ steps' next after⟩, fun next hobserves => ?_⟩
  · rw [htwins.trace, htwins.counting]
  · exact htwins.report_count hlocal (.inl rfl)
  · exact htwins.report_count hlocal (.inr rfl)
  · obtain ⟨b, hb, hstore⟩ := htwins.system.find?_local ha
    have hx : x.system.Reached := reached_run built steps
    have hy : y.system.Reached := reached_run built steps'
    have hcountable : a.Countable x.system.now := hx.countable ha hstore.unbounded
    have hcountable' : b.Countable y.system.now := hy.countable hb hstore.symm.unbounded
    rw [← htwins.system.now] at hcountable'
    exact ⟨b, hb, shows_of_find? ha, shows_of_find? hb, hstore.countsNear hcountable hcountable'⟩
  · exact ⟨(htwins.trans htwins.symm).observe hobserves, quiet_of_observes x hobserves⟩

/-- Values go idle after 10 ms. -/
private def idleSoon : Registry := .sole "c" ⟨none, none, none, some (.ofMillis 10), none⟩

/-- Two values are stored, something may be asked, and the first one is read again. Then the other one goes idle. -/
private def visits (questions : List Step) : List Step :=
  let get (n : Nat) : Step := .get "a" .flag ⟨"g", "c", .ok (.ofNat n), .registry, .zero⟩ (.done none) 1
  [get 1, get 2] ++ questions ++ [.advance 8, get 1, .advance 4]

private theorem built_idleSoon : idleSoon.Built := Registry.built_sole (by decide) rfl

private theorem unbounded_idleSoon : (System.start idleSoon).Unbounded := by
  intro name store hfind
  have hcache := Dictionary.find?_insert (∅ : Dictionary Cache) "c" name
    (.local ⟨"c", ⟨none, none, none, some (.ofMillis 10), none⟩, ∅, ∅, 0, .start⟩)
  rw [show (System.start idleSoon).registry.find? name = _ from hcache] at hfind
  split at hfind
  · cases hfind
    rfl
  · cases hfind

theorem observation_inert_counted :
    let x := ((start idleSoon).run (visits [.count "c"])).1
    let y := ((start idleSoon).run (visits [])).1
    x.Twins y ∧ (∀ key, (x.step (.contains "c" key)).2 = (y.step (.contains "c" key)).2) ∧
      ∃ a b, x.Shows "c" a ∧ y.Shows "c" b ∧ a.CountsNear b x.system.now := by
  have hlocal : (((start idleSoon).run (visits [.count "c"])).1.system.store? "c").isSome = true := by decide +kernel
  obtain ⟨a, ha⟩ := Option.isSome_iff_exists.1 hlocal
  obtain ⟨cache, hfind, hcache⟩ := Option.bind_eq_some_iff.1 ha
  obtain ⟨htwins, -, hsame, -, hcounts, -⟩ :=
    @observation_inert idleSoon built_idleSoon unbounded_idleSoon (visits [.count "c"]) (visits []) rfl
  cases cache with
  | passThrough own => cases hcache
  | «local» store =>
    obtain ⟨b, -, hx, hy, hnear⟩ := hcounts "c" store hfind
    exact ⟨htwins, fun key => hsame _ rfl, store, b, hx, hy, hnear⟩

private def numberSaid : Reply → Option Nat
  | .number n => some n
  | _ => none

/-- To have counted before changes the count: what has gone idle behind a value that has not still counts, and upkeep
has put it there. -/
theorem count_ne_of_counted : idleSoon.Built ∧ (System.start idleSoon).Unbounded ∧
    (visits [.count "c"]).filter (!·.observes) = (visits []).filter (!·.observes) ∧
    (((start idleSoon).run (visits [.count "c"])).1.step (.count "c")).2.reply ≠
      (((start idleSoon).run (visits [])).1.step (.count "c")).2.reply := by
  have hcounted : numberSaid (((start idleSoon).run (visits [.count "c"])).1.step (.count "c")).2.reply = some 1 := by
    decide +kernel
  have huncounted : numberSaid (((start idleSoon).run (visits [])).1.step (.count "c")).2.reply = some 2 := by
    decide +kernel
  refine ⟨built_idleSoon, unbounded_idleSoon, rfl, fun heq => ?_⟩
  rw [heq, huncounted] at hcounted
  cases hcounted

end Session

end SingleFlight
