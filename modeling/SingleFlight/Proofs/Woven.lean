import SingleFlight.Proofs.Callers

/-!
# Sessions where calls pass through

Where no cache has a store, the callers of a session have nothing to do with each other: at any time, what has happened
and what is going on is what each of them does by itself (`Session.Woven`, `Session.Woven.run`). So what a task does is
what it does in a session where it is the only one (`Caller.trace_eq_run`).
-/

namespace SingleFlight

namespace System

variable {registry : Registry}

theorem trace_noting (s : System) (events : Trace) : (s.noting events).trace = s.trace ++ events := by
  rw [trace, noting, List.reverse_append, List.reverse_reverse]
  rfl

/-- Upkeep has nothing to do. -/
theorem tend_eq {s : System} (passes : registry.PassesThrough) (hs : s.registry = registry) (name : String) :
    s.tend name = s := by
  have hcaches : s.registry.caches.modify name (·.mapStore (·.tend s.now [])) = s.registry.caches := by
    refine Dictionary.ext_find? fun other => ?_
    rw [Dictionary.find?_modify]
    split
    · cases hfind : s.registry.caches.find? other with
      | none => rfl
      | some found =>
        obtain ⟨own, rfl⟩ := passes.exists_name (hs ▸ hfind)
        rfl
    · rfl
  rw [tend, mapStore, hcaches]

end System

namespace Session

/-- The callers after a step. -/
def heard (x : Session) (callers : List Caller) : Step → List Caller
  | .start task τ request loader | .get task τ request loader _ =>
    callers ++ [⟨x.started, task, τ, request, loader, x.system.now, none⟩]
  | .abort name =>
    match x.tasks.find? (·.name == name) with
    | some task => callers.map (·.stop task.id x.system.now)
    | none => callers
  | _ => callers

/-- The callers after a run, in the order in which they start their tasks. -/
def callers (x : Session) (before : List Caller) : List Step → List Caller
  | [] => before
  | step :: steps => (x.step step).1.callers (x.heard before step) steps

variable {registry : Registry} {x : Session} {callers : List Caller}

/-- All that has happened and all that is going on is what the callers do. -/
structure Woven (registry : Registry) (callers : List Caller) (x : Session) : Prop where
  kept : x.system.registry = registry
  trace : x.system.trace = Caller.weave registry callers x.system.now
  ids : callers.map (·.id) = List.range x.started
  past : ∀ c ∈ callers, ∀ time ∈ c.quit, time ≤ x.system.now
  tasks : List.Forall₂ (Caller.Waits registry x.system.now) (callers.filter (·.live registry x.system.now)) x.tasks

theorem woven_start (registry : Registry) : (start registry).Woven registry [] :=
  ⟨rfl, rfl, rfl, nofun, .nil⟩

namespace Woven

theorem still (h : x.Woven registry callers) : ∀ task ∈ x.tasks, task.get.Still ∅ x.system.now := by
  obtain ⟨-, -, -, -, htasks⟩ := h
  revert htasks
  generalize x.tasks = tasks, callers.filter (·.live registry x.system.now) = live
  intro htasks
  induction htasks with
  | nil => exact nofun
  | @cons c task live tasks hwaits _ ih =>
    intro other hother
    rcases List.mem_cons.1 hother with rfl | hother
    · obtain ⟨-, get, rfl, still, -⟩ := hwaits
      exact still
    · exact ih other hother

theorem settled (h : x.Woven registry callers) : x.Settled :=
  Resting.settled ⟨∅, nofun, h.still⟩

theorem settle (h : x.pass.Woven registry callers) : x.settle.Woven registry callers := by
  rwa [Settled.settle h.settled]

/-- A millisecond passes. -/
theorem tick (passes : registry.PassesThrough) (h : x.Woven registry callers) :
    x.tick.Woven registry callers ∧ x.tick.system.now = x.system.now + 1 := by
  have ready : List.Forall₂ (Caller.Ready registry (x.system.now + 1))
      (callers.filter (·.live registry x.system.now)) x.tasks := by
    refine h.tasks.imp fun c task hwaits => ?_
    obtain ⟨hlive, get, rfl, -, howes⟩ := hwaits
    simp only [Caller.live, Bool.and_eq_true, decide_eq_true_eq, Option.isNone_iff_eq_none] at hlive
    exact ⟨hlive.1, hlive.2, get, rfl, howes⟩
  have hnow : (x.system.elapse 1).now = x.system.now + 1 := rfl
  obtain ⟨hsystem, hwaits⟩ := System.pollEach_ready (s := x.system.elapse 1) passes h.kept hnow ready
  -- who is not live does nothing at the new time
  rw [← Caller.flatMap_toldAt h.past (Nat.lt_add_one _)] at hsystem
  rw [Caller.filter_live (Nat.le_add_right _ 1)] at hwaits
  have hpass : (x.mapSystem (·.elapse 1)).pass =
      ⟨(x.system.elapse 1).noting (callers.flatMap (·.toldAt registry (x.system.now + 1))),
        ((x.system.elapse 1).pollEach x.tasks).2, x.started⟩ := by
    rw [← hsystem]
    rfl
  have hwoven : (x.mapSystem (·.elapse 1)).pass.Woven registry callers := by
    rw [hpass]
    refine ⟨h.kept, ?_, h.ids, fun c hc time htime => Nat.le_succ_of_le (h.past c hc time htime), hwaits⟩
    rw [System.trace_noting]
    exact (congrArg (· ++ _) h.trace).trans (Caller.weave_succ registry callers x.system.now).symm
  rw [Session.tick, Settled.settle hwoven.settled]
  refine ⟨hwoven, ?_⟩
  rw [hpass]
  rfl

/-- Where no task is live, time passes at once. -/
theorem idle (passes : registry.PassesThrough) (h : x.Woven registry callers) (hnone : x.tasks = []) (ms : Nat) :
    (x.mapSystem (·.elapse ms)).Woven registry callers := by
  induction ms generalizing x with
  | zero => exact h
  | succ ms ih =>
    have htick : x.tick = x.mapSystem (·.elapse 1) := by
      have hpass : (x.mapSystem (·.elapse 1)).pass = x.mapSystem (·.elapse 1) := by
        simp only [Session.pass, Session.mapSystem, hnone, System.pollEach]
      have hsettled : (x.mapSystem (·.elapse 1)).pass.Settled := by
        rw [hpass]
        simp only [Settled, Session.mapSystem, hnone]
        exact fun task htask => absurd htask List.not_mem_nil
      rw [Session.tick, Settled.settle hsettled, hpass]
    have hlater := ih (x := x.mapSystem (·.elapse 1)) (htick ▸ (h.tick passes).1) hnone
    have helapse : x.system.elapse (ms + 1) = (x.system.elapse 1).elapse ms := by
      simp only [System.elapse, Nat.add_assoc, Nat.add_comm 1 ms]
    rw [Session.mapSystem, helapse]
    exact hlater

theorem advance (passes : registry.PassesThrough) (h : x.Woven registry callers) (ms : Nat) :
    (x.advance ms).Woven registry callers := by
  induction ms generalizing x with
  | zero => exact h
  | succ ms ih =>
    simp only [Session.advance]
    split
    next hempty => exact h.idle passes (List.isEmpty_iff.1 hempty) (ms + 1)
    next => exact ih (h.tick passes).1

/-- When the task has not ended, all the time has passed. -/
theorem await (passes : registry.PassesThrough) (h : x.Woven registry callers) (id limit : Nat) :
    (x.await id limit).Woven registry callers ∧ ((x.await id limit).tasks.any (·.id == id) = true →
      (x.await id limit).system.now = x.system.now + limit) := by
  induction limit generalizing x with
  | zero => exact ⟨h, fun _ => rfl⟩
  | succ limit ih =>
    simp only [Session.await]
    split
    next hlive =>
      obtain ⟨htick, hnow⟩ := h.tick passes
      obtain ⟨hwoven, hlater⟩ := ih htick
      refine ⟨hwoven, fun hstill => ?_⟩
      rw [hlater hstill, hnow]
      omega
    next hgone => exact ⟨h, fun hstill => absurd hstill hgone⟩

/-- A new task does at once what is due of its script. -/
theorem spawn (passes : registry.PassesThrough) (h : x.Woven registry callers) (task : String) (request : Request)
    (loader : Loader τ) : (x.spawn task request loader).Woven registry
      (callers ++ [⟨x.started, task, τ, request, loader, x.system.now, none⟩]) ∧
      (x.spawn task request loader).system.now = x.system.now := by
  let c : Caller := ⟨x.started, task, τ, request, loader, x.system.now, none⟩
  let asking : Task := ⟨x.started, task, τ, .asking request loader⟩
  have ready : List.Forall₂ (Caller.Ready registry x.system.now) [c] [asking] := by
    refine .cons ⟨rfl, Nat.le_add_right .., _, rfl, ?_⟩ .nil
    exact Script.since_later (Nat.le_refl _) _
  obtain ⟨hsystem, hwaits⟩ := System.pollEach_ready passes h.kept rfl ready
  rw [List.flatMap_singleton] at hsystem
  have hpass : Session.pass ⟨x.system, x.tasks ++ [asking], x.started + 1⟩ =
      ⟨x.system.noting (c.toldAt registry x.system.now), x.tasks ++ (x.system.pollEach [asking]).2, x.started + 1⟩ := by
    rw [← hsystem]
    simp only [Session.pass, System.pollEach_append, h.settled.pollEach]
  have hwoven : (Session.pass ⟨x.system, x.tasks ++ [asking], x.started + 1⟩).Woven registry (callers ++ [c]) := by
    rw [hpass]
    refine ⟨h.kept, ?_, ?_, ?_, ?_⟩
    · have hstart : c.start = x.system.now := rfl
      rw [System.trace_noting]
      exact (congrArg (· ++ _) h.trace).trans (Caller.weave_append hstart).symm
    · rw [List.map_append, h.ids, List.range_succ]
      rfl
    · intro other hother time htime
      rcases List.mem_append.1 hother with hother | hother
      · exact h.past other hother time htime
      · obtain rfl := List.mem_singleton.1 hother
        cases htime
    · show List.Forall₂ _ ((callers ++ [c]).filter _) _
      rw [List.filter_append]
      exact List.rel_append h.tasks hwaits
  have hsettle : x.spawn task request loader = Session.pass ⟨x.system, x.tasks ++ [asking], x.started + 1⟩ :=
    Settled.settle hwoven.settled
  rw [hsettle]
  refine ⟨hwoven, ?_⟩
  rw [hpass]
  rfl

/-- Nothing changes for the others when a task is aborted. -/
theorem abort (h : x.Woven registry callers) (name : String) :
    (x.abort name).Woven registry (x.heard callers (.abort name)) := by
  simp only [heard]
  split
  next task hfind =>
    have nodup : ((callers.filter (·.live registry x.system.now)).map (·.id)).Nodup := by
      refine List.Nodup.sublist (List.filter_sublist.map _) ?_
      rw [h.ids]
      exact List.nodup_range
    have hwaits := Caller.waits_eraseP h.tasks nodup hfind
    rw [← Caller.filter_live_stop] at hwaits
    have hwoven : Session.Woven registry (callers.map (·.stop task.id x.system.now))
        { x with tasks := x.tasks.eraseP (·.name == name) } := by
      refine ⟨h.kept, h.trace.trans (Caller.weave_stop callers task.id).symm, ?_, fun c hc time htime => ?_, hwaits⟩
      · rw [List.map_map, ← h.ids]
        exact List.map_congr_left fun c _ => Caller.id_stop c ..
      · obtain ⟨before, hbefore, rfl⟩ := List.mem_map.1 hc
        exact Caller.quit_stop_le (h.past before hbefore) htime
    exact Woven.settle (hwoven.settled.pass.symm ▸ hwoven)
  next hnone =>
    have hsame : x.tasks.eraseP (·.name == name) = x.tasks := List.eraseP_of_forall_not (List.find?_eq_none.1 hnone)
    rw [Session.abort, hsame]
    exact Woven.settle (x := x) (h.settled.pass.symm ▸ h)

end Woven

/-- An invalidation, through the registry or through a cache. -/
def Step.Invalidates : Step → Prop
  | .invalidate _ _ | .invalidateAll _ | .invalidateIn _ _ | .invalidateAllIn _ => True
  | _ => False

/-- An invalidation changes nothing. -/
theorem perform_of_invalidates (passes : registry.PassesThrough) (hs : x.system.registry = registry) :
    {step : Step} → step.Invalidates → (x.perform step).1 = x
  | .invalidate _ (.error _), _ | .invalidateIn _ (.error _), _ => rfl
  | .invalidate cache (.ok key), _ => by
    simp only [Session.perform, System.invalidate_eq passes hs]
    cases registry.require cache with
    | error fault => rfl
    | ok found => rfl
  | .invalidateAll cache, _ => by
    simp only [Session.perform, System.invalidateAll_eq passes hs]
    cases registry.require cache with
    | error fault => rfl
    | ok found => rfl
  | .invalidateIn cache (.ok key), _ => by
    simp only [Session.perform]
    split
    next found hfind =>
      obtain ⟨name, rfl⟩ := passes.exists_name (hs ▸ hfind)
      rfl
    next => rfl
  | .invalidateAllIn cache, _ => by
    simp only [Session.perform]
    split
    next found hfind =>
      obtain ⟨name, rfl⟩ := passes.exists_name (hs ▸ hfind)
      rfl
    next => rfl

namespace Woven

theorem perform (passes : registry.PassesThrough) (h : x.Woven registry callers) (step : Step) :
    (x.perform step).1.Woven registry (x.heard callers step) := by
  cases step with
  | start task τ request loader => exact (h.spawn passes task request loader).1
  | get task τ request loader limit => exact ((h.spawn passes task request loader).1.await passes _ _).1
  | advance ms => exact h.advance passes ms
  | abort name => exact h.abort name
  | invalidate | invalidateAll | invalidateIn | invalidateAllIn =>
    rw [perform_of_invalidates passes h.kept]
    · exact h
    · trivial
  | contains cache key => cases key <;> exact h
  | count cache =>
    simp only [Session.perform, Session.mapSystem, System.tend_eq passes h.kept]
    exact h
  | inspect cache =>
    simp only [Session.perform, Session.mapSystem, System.tend_eq passes h.kept]
    exact h

theorem run (passes : registry.PassesThrough) (h : x.Woven registry callers) (steps : List Step) :
    (x.run steps).1.Woven registry (x.callers callers steps) := by
  induction steps generalizing x callers with
  | nil => exact h
  | cons step steps ih => exact ih (h.perform passes step)

end Woven

end Session

/-- The events of a task are those of a session in which it is the only one, later. -/
theorem Caller.trace_eq_run {registry : Registry} (passes : registry.PassesThrough) (c : Caller) {limit : Nat}
    (hlimit : (c.script registry).finish ≤ c.start + limit) : c.trace registry =
      ((Session.start registry).run
        [.get c.task c.type c.request c.loader limit]).1.system.trace.map (·.later c.start) := by
  obtain ⟨hspawn, hstart⟩ := (Session.woven_start registry).spawn passes c.task c.request c.loader
  obtain ⟨hwoven, hnow⟩ := hspawn.await passes 0 limit
  generalize hy : ((Session.start registry).spawn c.task c.request c.loader).await 0 limit = y at hwoven hnow
  have hwoven : y.Woven registry [c.alone] := hwoven
  have hfinish : (c.script registry).finish = c.start + (c.alone.script registry).finish :=
    congrArg (c.start + ·) (Nat.zero_add _).symm
  -- the step waits for the task, as long as it takes
  have hended : (c.alone.script registry).finish ≤ y.system.now := by
    by_contra hlate
    have hlive : c.alone.live registry y.system.now = true := decide_eq_true (Nat.lt_of_not_le hlate)
    have hwaits := hwoven.tasks
    rw [List.filter_cons_of_pos hlive] at hwaits
    obtain ⟨task, rest, ⟨-, get, rfl, -⟩, -, htasks⟩ := List.forall₂_cons_left_iff.1 hwaits
    have hany : y.tasks.any (·.id == 0) = true := by
      rw [htasks]
      rfl
    have hall : y.system.now = 0 + limit := (hnow hany).trans (congrArg (· + limit) hstart)
    omega
  have hrun : ((Session.start registry).run [.get c.task c.type c.request c.loader limit]).1 = y := hy
  rw [trace_alone, ← weave_singleton rfl hended, ← hwoven.trace, hrun]

namespace Session

variable {registry : Registry}

theorem Woven.uncounted {x : Session} {callers : List Caller} (h : x.Woven registry callers) (id : CounterId) :
    x.system.trace.count id = 0 := by
  refine List.countP_eq_zero.2 fun e he => ?_
  rw [h.trace] at he
  obtain ⟨time, -, he⟩ := List.mem_flatMap.1 he
  obtain ⟨c, -, he⟩ := List.mem_flatMap.1 he
  have hmem : e ∈ c.trace registry := List.mem_of_mem_filter (List.mem_of_mem_filter he)
  have hnone : e.event.counter? = none := by
    rcases List.mem_append.1 hmem with hmem | hmem
    · exact (c.request.uncounted_script (c.loader.uncounted_script registry)).later c.start e hmem
    · obtain rfl := List.mem_singleton.1 hmem
      rfl
  rw [hnone]
  exact Bool.false_ne_true

/-- **Disabled caching passes through.** No cache of the registry has a local store. A get that reaches its cache calls
its own loader once, as soon as it is polled, whatever its lock timeout, and ends when its loader does and with the same
outcome, a failure wrapped once. In a session the trace is, time by time and caller by caller, what each caller does by
itself, up to its abort; and this is what happens in a session where it is the only one, later. No counter is ever
raised, and no invalidation changes anything. -/
theorem passes_through (passes : registry.PassesThrough) :
    (∀ (s : System) (τ : ValueType) (request : Request) (loader : Loader τ) (key : Key) (cache : Cache),
      s.registry = registry → request.key = .ok key → s.reach request = .ok cache →
        let own := loader.script registry
        let script := request.script registry own
        script.events = ⟨0, .passedThrough cache.name key⟩ ::
            ⟨0, .called ⟨request.label, cache.name, key⟩ none⟩ :: own.events ∧
          script.finish = own.finish ∧ script.outcome = own.outcome.mapError (.computation cache.name) ∧
          (∀ lockTimeout, ({ request with lockTimeout } : Request).script registry own = script) ∧
          (script.later s.now).Done (Get.Asleep registry s.now) s (s.poll (.asking request loader)).1
            (s.poll (.asking request loader)).2) ∧
    ∀ steps : List Step,
      let x := ((start registry).run steps).1
      let callers := (start registry).callers [] steps
      x.system.registry = registry ∧ x.system.trace = Caller.weave registry callers x.system.now ∧
        x.tasks.map (fun task => (task.id, task.name)) =
          (callers.filter (·.live registry x.system.now)).map (fun c => (c.id, c.task)) ∧
        (∀ c ∈ callers, ∀ limit, (c.script registry).finish ≤ c.start + limit →
          c.trace registry = ((start registry).run
            [.get c.task c.type c.request c.loader limit]).1.system.trace.map (·.later c.start)) ∧
        (∀ id, x.system.trace.count id = 0) ∧ ∀ step : Step, step.Invalidates → (x.perform step).1 = x := by
  constructor
  · intro s τ request loader key cache hs hkey hreach own script
    have hscript : script = _ := System.script_of_reach hs hkey hreach own
    exact ⟨congrArg Script.events hscript, congrArg Script.finish hscript, congrArg Script.outcome hscript,
      fun _ => rfl, System.poll_owing passes hs rfl⟩
  · intro steps x callers
    have hwoven : x.Woven registry callers := (woven_start registry).run passes steps
    exact ⟨hwoven.kept, hwoven.trace, (Caller.map_eq_of_waits hwoven.tasks).symm,
      fun c _ limit hlimit => c.trace_eq_run passes hlimit, hwoven.uncounted,
      fun step => perform_of_invalidates passes hwoven.kept⟩

private def passing (label : String) : Request := ⟨label, "n", .ok (.ofNat 1), .registry, .ofMillis 1⟩

/-- Two tasks for one key. The first is aborted, but not before the other has ended. -/
private def overlapping : List Step :=
  [.start "a" .flag (passing "a") (.sleep 5 (.done none)), .advance 2,
    .start "b" .flag (passing "b") (.sleep 1 (.fail (.text "down"))), .invalidateAll "n", .advance 2, .abort "a",
    .advance 9]

theorem passes_through_disabled : ∃ registry,
    Registry.ofConfig ["n"] { Config.standard with enabled := false } = .ok registry ∧ registry.PassesThrough ∧
    ((passing "b").script registry (Loader.script registry (.fail (τ := .flag) (.text "down")))).outcome =
      .failed (.computation "n" (.text "down")) ∧
    ((start registry).run overlapping).1.system.trace =
      [⟨0, .passedThrough "n" (.ofNat 1)⟩, ⟨0, .called ⟨"a", "n", .ofNat 1⟩ none⟩,
        ⟨2, .passedThrough "n" (.ofNat 1)⟩, ⟨2, .called ⟨"b", "n", .ofNat 1⟩ none⟩,
        ⟨3, .answered "b" (.failed (.computation "n" (.text "down")))⟩] := by
  have hbuilt : Registry.ofConfig ["n"] { Config.standard with enabled := false } =
      .ok ⟨(∅ : Dictionary Cache).insert "n" (.passThrough "n")⟩ := rfl
  have passes := Registry.passesThrough_of_disabled rfl hbuilt
  obtain ⟨hgets, hsessions⟩ := passes_through passes
  exact ⟨_, hbuilt, passes, (hgets (.start _) .flag (passing "b") _ _ _ rfl rfl rfl).2.2.1, (hsessions overlapping).2.1⟩

end Session

end SingleFlight
