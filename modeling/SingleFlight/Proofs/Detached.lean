import SingleFlight.Proofs.Reached

/-!
# Detached loads

A load whose key was invalidated while it was running is detached: it is in flight no longer and never will be again
(`System.detached_of_moves`, `History.Detached.flight_ne`). When it ends, the stores and all other loads stay exactly
as they are. It has its outcome, for the callers that joined it before, and a failure counts as one.
-/

namespace SingleFlight

/-- The load was started for the key, and the key has been invalidated since. -/
def History.Detached (cache : String) (key : Key) (load : Nat) (history : History) : Prop :=
  ∃ later e past, history = later ++ e :: past ∧ e.event.Invalidates cache key ∧
    ∃ start ∈ past, start.event.Starts cache key load

namespace History

theorem Detached.append {cache : String} {key : Key} {load : Nat} {history : History}
    (h : Detached cache key load history) (new : History) : Detached cache key load (new ++ history) := by
  obtain ⟨later, e, past, rfl, hrest⟩ := h
  exact ⟨new ++ later, e, past, (List.append_assoc ..).symm, hrest⟩

/-- A detached load is not in flight. -/
theorem Detached.flight_ne {cache : String} {key : Key} {load : Nat} {history : History}
    (h : Detached cache key load history) (lawful : Lawful history) : flight cache key history ≠ some load := by
  obtain ⟨later, e, past, rfl, hinvalid, start, hstart, hstarts⟩ := h
  intro hflight
  -- it would have been started a second time since the invalidation
  obtain ⟨again, hagain, hagains⟩ := start_of_flight hinvalid hflight
  obtain ⟨newer, older, rfl⟩ := List.append_of_mem hagain
  rw [List.append_assoc, List.cons_append] at lawful
  have hbefore : start ∈ older ++ e :: past := List.mem_append_right older (List.mem_cons_of_mem e hstart)
  exact not_starts_before lawful.of_append hagains hbefore hstarts

end History

namespace System

/-- Whatever happens, a detached load stays detached. -/
theorem detached_of_moves {s t : System} (moves : Moves s t) {cache : String} {key : Key} {load : Nat}
    (h : History.Detached cache key load s.history) : History.Detached cache key load t.history := by
  obtain ⟨new, hnew⟩ := history_moves moves
  rw [hnew]
  exact h.append new

/-- The end of a load that is not in flight any more. -/
theorem land_of_flight_ne {s : System} (sound : s.Sound) {id number : Nat} {cache : String} {key : Key}
    {state : LoadState} (hload : s.load? id = some ⟨cache, key, number, state⟩)
    (hflight : History.flight cache key s.history ≠ some id) (outcome : LoadResult) :
    s.land id cache key number outcome = (s.setLoad id (.ended outcome)).emit (.landed id cache key outcome false) := by
  cases hin : s.inFlight cache key number with
  | false => exact land_of_detached hin id outcome
  | true => exact absurd ((sound.told.kept_iff sound.numbered hload).1 hin) hflight

/-- A load that has ended is not advanced any more. -/
theorem advance_of_ended {s : System} {id : Nat} {load : Load} {outcome : LoadResult} (hload : s.load? id = some load)
    (hended : load.state = .ended outcome) (depth : Nat) : advance depth s id = s := by
  obtain ⟨cache, key, number, state⟩ := load
  obtain rfl : state = .ended outcome := hended
  cases depth with
  | zero => rfl
  | succ depth => simp only [advance, hload]

/-- A caller that waits for a load that has ended is told its outcome. -/
theorem poll_awaiting_of_ended {s : System} {id : Nat} {load : Load} {outcome : LoadResult}
    (hload : s.load? id = some load) (hended : load.state = .ended outcome) (depth : Nat) (τ : ValueType)
    (cache : String) (key : Key) (patience : Option (Patience τ)) :
    Get.poll (depth + 1) s (.awaiting cache key id patience) = (s, .ended (typedResult τ cache outcome)) := by
  simp only [Get.poll, advance_of_ended hload hended, outcome?_eq_some.2 ⟨load, hload, hended⟩]

/-- How often the end of a load that is not in flight raises a counter: a failure raises one, once. -/
def detachedCount (cache : String) (counter : CounterId) : LoadResult → Nat
  | .error _ => if counter = ⟨.loadFailure, cache⟩ then 1 else 0
  | .ok _ => 0

theorem trace_emit (s : System) (event : Event) : (s.emit event).trace = s.trace ++ [⟨s.now, event⟩] :=
  List.reverse_cons

theorem countP_trace_emit (s : System) (event : Event) (p : Event → Bool) :
    (s.emit event).trace.countP (p ·.event) = s.trace.countP (p ·.event) + if p event then 1 else 0 := by
  rw [trace_emit, List.countP_append, List.countP_singleton]

/-- Counting does not depend on the order of the events. -/
theorem count_trace (s : System) (counter : CounterId) : s.trace.count counter = Trace.count s.history counter :=
  List.countP_reverse

theorem count_emit (s : System) (event : Event) (counter : CounterId) :
    (s.emit event).trace.count counter = s.trace.count counter + if event.counter? = some counter then 1 else 0 := by
  have hcount := countP_trace_emit s event fun e => e.counter? == some counter
  simp only [beq_iff_eq] at hcount
  exact hcount

/-- A step that leaves one event raises at most one counter. -/
theorem count_of_history {s t : System} {event : Event} (h : t.history = ⟨s.now, event⟩ :: s.history)
    (counter : CounterId) :
    t.trace.count counter = s.trace.count counter + if event.counter? = some counter then 1 else 0 := by
  rw [← count_emit, count_trace, count_trace, h]
  rfl

theorem count_landed (s : System) (id : Nat) (cache : String) (key : Key) (outcome : LoadResult) (counter : CounterId) :
    (s.emit (.landed id cache key outcome false)).trace.count counter =
      s.trace.count counter + detachedCount cache counter outcome := by
  rw [count_emit]
  congr 1
  cases outcome with
  | ok value => rfl
  | error failure =>
    have hcounter : (Event.landed id cache key (.error failure) false).counter? = some ⟨.loadFailure, cache⟩ := rfl
    rw [hcounter, detachedCount]
    simp only [Option.some.injEq, eq_comm]

/-- **A detached load never clobbers.** Its loader ends in the state `mid`, in which its key has been invalidated since
the load started. The step that ends the load leaves every store, every other load and the clock as they are in `mid`.
It leaves one event, counts one failure if the loader failed or panicked, and whoever waits for the load is told the
outcome. -/
theorem advance_of_detached {s mid : System} (reached : s.Reached) {depth id number : Nat} {cache : String} {key : Key}
    {τ : ValueType} {run : Run τ} {outcome : Outcome Failure (Option (Typed τ))}
    (hload : s.load? id = some ⟨cache, key, number, .idle τ run⟩)
    (hpoll : Run.poll depth (s.setLoad id .busy) (some id) run = (mid, .ended outcome))
    (hdetached : History.Detached cache key id mid.history) :
    let t := advance (depth + 1) s id
    t.registry = mid.registry ∧ t.now = mid.now ∧ (∀ other ≠ id, t.load? other = mid.load? other) ∧
      t.history = ⟨mid.now, .landed id cache key (loadResult outcome) false⟩ :: mid.history ∧
      (∀ counter, t.trace.count counter = mid.trace.count counter + detachedCount cache counter (loadResult outcome)) ∧
      ∀ more (τ' : ValueType) (asked : String) (other : Key) (patience : Option (Patience τ')),
        Get.poll (more + 1) t (.awaiting asked other id patience) =
          (t, .ended (typedResult τ' asked (loadResult outcome))) := by
  intro t
  obtain ⟨moves, hbusy⟩ := busy_of_ended hload hpoll
  have sound : mid.Sound := (reached.moves moves).sound
  have ht : t = (mid.setLoad id (.ended (loadResult outcome))).emit
      (.landed id cache key (loadResult outcome) false) := by
    rw [← land_of_flight_ne sound hbusy (hdetached.flight_ne sound.told.lawful)]
    simp only [t, advance, hload, hpoll]
  -- so all that is left of the step is the outcome of the load and one event
  rw [ht]
  refine ⟨rfl, rfl, fun other hne => load?_setLoad_of_ne mid hne _, rfl, fun counter => count_landed .., ?_⟩
  intro more τ' asked other patience
  have hended := load?_setLoad_self hbusy (.ended (loadResult outcome))
  rw [← load?_emit _ (.landed id cache key (loadResult outcome) false)] at hended
  exact poll_awaiting_of_ended hended rfl more τ' asked other patience

/-- A load sleeps, its key is invalidated, and a second load for the key is in flight when the first one is due. -/
private def overtaken : System :=
  let request : Request := ⟨"g", "c", .ok (.ofNat 1), .registry, .zero⟩
  ((Session.start (.sole "c" .unset)).play
    [.start "a" .flag request (.sleep 5 (.fail (.text "no"))), .poll 0, .invalidate "c" (.ofNat 1),
      .start "b" .flag request (.sleep 9 (.done none)), .poll 1, .elapse 5]).system

theorem advance_of_detached_overtaken :
    (advance 3 overtaken 0).registry = overtaken.registry ∧
      (advance 3 overtaken 0).load? 1 = overtaken.load? 1 ∧ (overtaken.load? 1).isSome = true := by
  have built : (Registry.sole "c" .unset).Built := Registry.built_sole (by decide) rfl
  have hload : overtaken.load? 0 =
      some ⟨"c", .ofNat 1, 0, .idle .flag (.sleeping 5 (.fail (.text "no")))⟩ := rfl
  have hdetached : History.Detached "c" (.ofNat 1) 0 overtaken.history :=
    ⟨[_, _], ⟨0, .invalidated "c" (.ofNat 1)⟩, [_, _], rfl, ⟨rfl, rfl⟩,
      ⟨0, .lookedUp "c" (.ofNat 1) (.started 0)⟩, List.mem_cons_of_mem _ (List.mem_cons_self ..), rfl⟩
  obtain ⟨hregistry, -, hothers, -⟩ := advance_of_detached (Reached.play built _) hload
    (show Run.poll 2 (overtaken.setLoad 0 .busy) (some 0) (.sleeping 5 (.fail (.text "no"))) =
      (overtaken.setLoad 0 .busy, .ended (.failed (.text "no"))) from rfl) hdetached
  exact ⟨hregistry, hothers 1 (by decide), rfl⟩

end System

end SingleFlight
