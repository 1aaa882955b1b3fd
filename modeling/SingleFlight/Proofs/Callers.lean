import SingleFlight.Proofs.PassThrough

/-!
# Callers side by side

Where no cache has a store, a task does what the script of its caller says, and the tasks of several callers do so side
by side.

* a poll of a task that is ready does what its caller does at this time (`System.pollTask_ready`), and a pass does it
  for all of them (`System.pollEach_ready`);
* `Caller.weave` puts the traces of all callers together, by time and then by caller; it grows with the time, with a new
  caller, and not when one is aborted (`Caller.weave_succ`, `Caller.weave_append`, `Caller.weave_stop`).
-/

namespace SingleFlight

/-- Whoever starts a task in a session. -/
structure Caller where
  /-- The number of the task. -/
  id : Nat
  task : String
  type : ValueType
  request : Request
  loader : Loader type
  /-- The time at which the task is started. -/
  start : Nat
  /-- The time at which it is aborted. -/
  quit : Option Nat

namespace Caller

variable (registry : Registry)

/-- What the task does, with the times of the clock. -/
def script (c : Caller) : Script CacheFault c.type :=
  (c.request.script registry (c.loader.script registry)).later c.start

def answer (c : Caller) : Answer := (c.script registry).outcome.mapValue fun v => v.map (·.val)

/-- The events of the task, its answer last. -/
def trace (c : Caller) : Trace :=
  (c.script registry).events ++ [⟨(c.script registry).finish, .answered c.task (c.answer registry)⟩]

/-- The events of the task up to its abort. -/
def told (c : Caller) : Trace := (c.trace registry).filter fun e => c.quit.all (e.time ≤ ·)

/-- The events of the task at that time. -/
def toldAt (now : Nat) (c : Caller) : Trace := (c.told registry).filter (·.time = now)

/-- The task has neither ended nor been aborted by that time. -/
def live (now : Nat) (c : Caller) : Bool := c.quit.isNone && decide (now < (c.script registry).finish)

/-- If it is the one with that number, the task is aborted. -/
def stop (id now : Nat) (c : Caller) : Caller :=
  if c.id = id then { c with quit := some (c.quit.getD now) } else c

/-- What all callers do up to that time, ordered by time and at the same time by caller. -/
def weave (callers : List Caller) (now : Nat) : Trace :=
  (List.range (now + 1)).flatMap fun time => callers.flatMap (·.toldAt registry time)

end Caller

/-! ### What a caller does at a time -/

namespace Caller

variable {registry : Registry} {c : Caller} {now : Nat}

theorem le_finish_of_mem_trace {e : Stamped} (h : e ∈ c.trace registry) : e.time ≤ (c.script registry).finish := by
  rcases List.mem_append.1 h with h | h
  · exact (c.script registry).bounded e h
  · obtain rfl := List.mem_singleton.1 h
    exact Nat.le_refl _

theorem start_le_of_mem_trace {e : Stamped} (h : e ∈ c.trace registry) : c.start ≤ e.time := by
  rcases List.mem_append.1 h with h | h
  · exact Script.le_of_mem_later h
  · obtain rfl := List.mem_singleton.1 h
    exact Nat.le_add_right ..

/-- Before its start a task does nothing. -/
theorem toldAt_of_lt (h : now < c.start) : c.toldAt registry now = [] := by
  refine List.filter_eq_nil_iff.2 fun e he => ?_
  have hstart := start_le_of_mem_trace (List.mem_of_mem_filter he)
  simp only [decide_eq_true_eq]
  omega

/-- A task that is not live does nothing more. -/
theorem toldAt_of_not_live (past : ∀ time ∈ c.quit, time ≤ now) (h : c.live registry now = false) {later : Nat}
    (hlater : now < later) : c.toldAt registry later = [] := by
  refine List.filter_eq_nil_iff.2 fun e he => ?_
  obtain ⟨hmem, hquit⟩ := List.mem_filter.1 he
  have hearly : e.time ≤ now := by
    cases heq : c.quit with
    | some time =>
      rw [heq] at hquit
      exact Nat.le_trans (of_decide_eq_true hquit) (past time heq)
    | none =>
      have hfinish := le_finish_of_mem_trace hmem
      simp only [live, heq, Option.isNone_none, Bool.true_and, decide_eq_false_iff_not] at h
      omega
  simp only [decide_eq_true_eq]
  omega

theorem told_of_not_quit (h : c.quit = none) : c.told registry = c.trace registry := by
  refine List.filter_eq_self.2 fun e _ => ?_
  rw [h]
  rfl

/-- What a task does that is not aborted: what is due of its script, and the answer at the end. -/
theorem toldAt_of_not_quit (h : c.quit = none) (now : Nat) : c.toldAt registry now =
    ((c.script registry).since now).due now ++ if (c.script registry).finish = now then
      [⟨now, .answered c.task (c.answer registry)⟩] else [] := by
  rw [toldAt, told_of_not_quit h, trace, List.filter_append, Script.due_since, List.filter_cons, List.filter_nil]
  simp only [decide_eq_true_eq]
  split
  next hnow => rw [hnow]
  next => rfl

end Caller

/-! ### Polls of tasks -/

/-- The task is that of the caller, which has not done yet what it does at that time. -/
def Caller.Ready (registry : Registry) (now : Nat) (c : Caller) (task : Task) : Prop :=
  c.quit = none ∧ now ≤ (c.script registry).finish ∧ ∃ get : Get c.type, task = ⟨c.id, c.task, c.type, get⟩ ∧
    get.Owes registry now ((c.script registry).since now)

/-- The task is that of the caller, which has done what it does at that time. -/
def Caller.Waits (registry : Registry) (now : Nat) (c : Caller) (task : Task) : Prop :=
  c.live registry now = true ∧ ∃ get : Get c.type, task = ⟨c.id, c.task, c.type, get⟩ ∧
    get.Asleep registry now ((c.script registry).since (now + 1))

namespace System

variable {registry : Registry} {s : System} {c : Caller}

theorem noting_noting (s : System) (events more : Trace) :
    (s.noting events).noting more = s.noting (events ++ more) := by
  simp only [noting, List.reverse_append, List.append_assoc]

theorem emit_noting (s : System) (events : Trace) (event : Event) :
    (s.noting events).emit event = s.noting (events ++ [⟨s.now, event⟩]) := by
  rw [← noting_noting]
  rfl

/-- A poll of a task does what the caller does at this time. -/
theorem pollTask_ready (passes : registry.PassesThrough) (hs : s.registry = registry) {task : Task}
    (ready : c.Ready registry s.now task) :
    (c.live registry s.now = false ∧ s.pollTask task = (s.noting (c.toldAt registry s.now), none)) ∨
      ∃ rest, s.pollTask task = (s.noting (c.toldAt registry s.now), some rest) ∧ c.Waits registry s.now rest := by
  obtain ⟨hquit, hfinish, get, rfl, howes⟩ := ready
  have hdone := poll_owing passes hs howes
  obtain ⟨t, progress, hpoll⟩ : ∃ t progress, s.poll get = (t, progress) := ⟨_, _, rfl⟩
  have hlive : c.live registry s.now = decide (s.now < (c.script registry).finish) := by
    rw [Caller.live, hquit]
    rfl
  rw [hpoll] at hdone
  cases hdone with
  | ended hend =>
    have hnow : (c.script registry).finish = s.now := Nat.le_antisymm hend hfinish
    have htask : s.pollTask ⟨c.id, c.task, c.type, get⟩ = ((s.noting (((c.script registry).since s.now).due s.now)).emit
        (.answered c.task (c.answer registry)), none) := by
      simp only [pollTask, hpoll]
      rfl
    refine .inl ⟨hlive.trans (decide_eq_false (Nat.not_lt_of_le hend)), ?_⟩
    rw [htask, emit_noting, Caller.toldAt_of_not_quit hquit, if_pos hnow]
  | @pending rest hlate left =>
    have hlater : (c.script registry).finish ≠ s.now := Nat.ne_of_gt hlate
    have htask : s.pollTask ⟨c.id, c.task, c.type, get⟩ =
        (s.noting (((c.script registry).since s.now).due s.now), some ⟨c.id, c.task, c.type, rest⟩) := by
      simp only [pollTask, hpoll]
      rfl
    rw [Script.since_since (Nat.le_succ s.now)] at left
    refine .inr ⟨_, ?_, hlive.trans (decide_eq_true hlate), rest, rfl, left⟩
    rw [htask, Caller.toldAt_of_not_quit hquit, if_neg hlater, List.append_nil]

/-- A pass over tasks that are ready does what their callers do at this time. -/
theorem pollEach_ready (passes : registry.PassesThrough) (hs : s.registry = registry) {now : Nat} (hnow : s.now = now)
    {callers : List Caller} {tasks : List Task} (ready : List.Forall₂ (Caller.Ready registry now) callers tasks) :
    (s.pollEach tasks).1 = s.noting (callers.flatMap (·.toldAt registry now)) ∧
      List.Forall₂ (Caller.Waits registry now) (callers.filter (·.live registry now)) (s.pollEach tasks).2 := by
  subst hnow
  induction tasks generalizing s callers with
  | nil =>
    cases ready
    exact ⟨rfl, .nil⟩
  | cons task tasks ih =>
    obtain ⟨c, callers, hready, hrest, rfl⟩ := List.forall₂_cons_right_iff.1 ready
    obtain ⟨hsystem, hwait⟩ := ih (s := s.noting (c.toldAt registry s.now)) hs hrest
    rcases pollTask_ready passes hs hready with ⟨hlive, htask⟩ | ⟨rest, htask, hwaits⟩
    · simp only [pollEach, htask, List.flatMap_cons, hsystem, noting_noting]
      rw [List.filter_cons_of_neg (by simp [hlive])]
      exact ⟨rfl, hwait⟩
    · simp only [pollEach, htask, List.flatMap_cons, hsystem, noting_noting]
      rw [List.filter_cons_of_pos hwaits.1]
      exact ⟨rfl, .cons hwaits hwait⟩

theorem pollEach_append (s : System) (tasks more : List Task) : s.pollEach (tasks ++ more) =
    (((s.pollEach tasks).1.pollEach more).1, (s.pollEach tasks).2 ++ ((s.pollEach tasks).1.pollEach more).2) := by
  induction tasks generalizing s with
  | nil => rfl
  | cons task tasks ih =>
    obtain ⟨t, rest, hpoll⟩ : ∃ t rest, s.pollTask task = (t, rest) := ⟨_, _, rfl⟩
    cases rest with
    | none => simp only [List.cons_append, pollEach, hpoll, ih]
    | some rest => simp only [List.cons_append, pollEach, hpoll, ih]

end System

/-! ### Callers together -/

namespace Caller

variable {registry : Registry} {callers : List Caller} {now : Nat}

theorem weave_succ (registry : Registry) (callers : List Caller) (now : Nat) :
    weave registry callers (now + 1) = weave registry callers now ++ callers.flatMap (·.toldAt registry (now + 1)) := by
  rw [weave, List.range_succ, List.flatMap_append, List.flatMap_singleton]
  rfl

/-- Later only the live tasks do something. -/
theorem flatMap_toldAt (past : ∀ c ∈ callers, ∀ time ∈ c.quit, time ≤ now) {later : Nat} (hlater : now < later) :
    callers.flatMap (·.toldAt registry later) =
      (callers.filter (·.live registry now)).flatMap (·.toldAt registry later) := by
  induction callers with
  | nil => rfl
  | cons c callers ih =>
    have hrest := ih fun other hother => past other (List.mem_cons_of_mem c hother)
    rw [List.flatMap_cons, hrest]
    cases hlive : c.live registry now with
    | true => rw [List.filter_cons_of_pos hlive, List.flatMap_cons]
    | false =>
      rw [List.filter_cons_of_neg (by simp [hlive]), toldAt_of_not_live (past c (List.mem_cons_self ..)) hlive hlater,
        List.nil_append]

/-- Who is live later is live now. -/
theorem filter_live {later : Nat} (hlater : now ≤ later) :
    (callers.filter (·.live registry now)).filter (·.live registry later) = callers.filter (·.live registry later) := by
  rw [List.filter_filter]
  refine List.filter_congr fun c _ => ?_
  rw [Bool.eq_iff_iff, Bool.and_eq_true]
  refine ⟨And.left, fun h => ⟨h, ?_⟩⟩
  simp only [live, Bool.and_eq_true, decide_eq_true_eq] at h ⊢
  exact ⟨h.1, Nat.lt_of_le_of_lt hlater h.2⟩

/-- A new task does nothing before it is started. -/
theorem weave_append {c : Caller} (hstart : c.start = now) :
    weave registry (callers ++ [c]) now = weave registry callers now ++ c.toldAt registry now := by
  have hbefore : (List.range now).flatMap (fun time => (callers ++ [c]).flatMap (·.toldAt registry time)) =
      (List.range now).flatMap fun time => callers.flatMap (·.toldAt registry time) := by
    refine List.flatMap_congr fun time htime => ?_
    have hlt : time < c.start := hstart ▸ List.mem_range.1 htime
    rw [List.flatMap_append, List.flatMap_singleton, toldAt_of_lt hlt, List.append_nil]
  simp only [weave, List.range_succ, List.flatMap_append, List.flatMap_singleton] at hbefore ⊢
  rw [hbefore, List.append_assoc]

/-! A caller that is aborted. -/

theorem toldAt_stop (c : Caller) (id : Nat) {time : Nat} (htime : time ≤ now) :
    (c.stop id now).toldAt registry time = c.toldAt registry time := by
  unfold stop
  split
  · cases hquit : c.quit with
    | some quit =>
      have hsame : { c with quit := some quit } = c := by rw [← hquit]
      rw [Option.getD_some, hsame]
    | none =>
      rw [toldAt, toldAt, told, told, List.filter_filter, List.filter_filter]
      refine List.filter_congr fun e _ => ?_
      rw [hquit, Bool.eq_iff_iff]
      simp only [Option.getD_none, Option.all_some, Option.all_none, Bool.and_eq_true, decide_eq_true_eq, and_true]
      omega
  · rfl

theorem live_stop (c : Caller) (id : Nat) : (c.stop id now).live registry now =
    (c.live registry now && decide (c.id ≠ id)) := by
  unfold stop
  split
  next h => simp [live, h]
  next h => simp [h]

theorem id_stop (c : Caller) (id now : Nat) : (c.stop id now).id = c.id := by
  unfold stop
  split
  · rfl
  · rfl

theorem quit_stop_le {c : Caller} (past : ∀ time ∈ c.quit, time ≤ now) {id time : Nat}
    (htime : time ∈ (c.stop id now).quit) : time ≤ now := by
  unfold stop at htime
  split at htime
  · obtain rfl := Option.some.inj htime
    cases hquit : c.quit with
    | none => exact Nat.le_refl _
    | some quit => exact past quit hquit
  · exact past time htime

theorem weave_stop (callers : List Caller) (id : Nat) :
    weave registry (callers.map (·.stop id now)) now = weave registry callers now := by
  refine List.flatMap_congr fun time htime => ?_
  have hle : time ≤ now := Nat.le_of_lt_succ (List.mem_range.1 htime)
  rw [List.flatMap_map]
  exact List.flatMap_congr fun c _ => toldAt_stop c id hle

theorem filter_live_stop (callers : List Caller) (id : Nat) :
    (callers.map (·.stop id now)).filter (·.live registry now) =
      (callers.filter (·.live registry now)).filter (·.id ≠ id) := by
  have hlive : (fun c : Caller => (c.stop id now).live registry now) =
      fun c => c.live registry now && decide (c.id ≠ id) := funext fun c => live_stop c id
  have hsame : ∀ c ∈ callers.filter (fun c => c.live registry now && decide (c.id ≠ id)), c.stop id now = c := by
    intro c hc
    have hc := (List.mem_filter.1 hc).2
    simp only [Bool.and_eq_true, decide_eq_true_eq] at hc
    exact if_neg hc.2
  rw [List.filter_map, List.filter_filter]
  show (callers.filter fun c => (c.stop id now).live registry now).map (·.stop id now) = _
  rw [hlive, List.map_congr_left hsame, List.map_id']
  exact List.filter_congr fun c _ => Bool.and_comm ..

/-- The tasks have the numbers and names of their callers. -/
theorem map_eq_of_waits {tasks : List Task} (h : List.Forall₂ (Waits registry now) callers tasks) :
    callers.map (fun c => (c.id, c.task)) = tasks.map fun task => (task.id, task.name) := by
  induction h with
  | nil => rfl
  | cons hwaits _ ih =>
    obtain ⟨-, get, rfl, -⟩ := hwaits
    rw [List.map_cons, List.map_cons, ih]

theorem exists_id_of_waits {tasks : List Task} (h : List.Forall₂ (Waits registry now) callers tasks) {task : Task}
    (hmem : task ∈ tasks) : ∃ c ∈ callers, c.id = task.id := by
  have hpair : (task.id, task.name) ∈ callers.map fun c => (c.id, c.task) :=
    map_eq_of_waits h ▸ List.mem_map_of_mem hmem
  obtain ⟨c, hc, heq⟩ := List.mem_map.1 hpair
  exact ⟨c, hc, congrArg Prod.fst heq⟩

/-- When a task is dropped, the tasks left are those of all other callers. -/
theorem waits_eraseP {tasks : List Task} (h : List.Forall₂ (Waits registry now) callers tasks)
    (nodup : (callers.map (·.id)).Nodup) {p : Task → Bool} {task : Task} (hfind : tasks.find? p = some task) :
    List.Forall₂ (Waits registry now) (callers.filter (·.id ≠ task.id)) (tasks.eraseP p) := by
  induction h with
  | nil => cases hfind
  | @cons c first callers tasks hwaits hrest ih =>
    obtain ⟨hfresh, nodup⟩ := List.nodup_cons.1 nodup
    have hid : c.id = first.id := by
      obtain ⟨-, get, rfl, -⟩ := hwaits
      rfl
    cases hp : p first with
    | true =>
      rw [List.find?_cons_of_pos hp] at hfind
      obtain rfl := Option.some.inj hfind
      have hothers : callers.filter (·.id ≠ first.id) = callers := by
        refine List.filter_eq_self.2 fun other hother => decide_eq_true fun heq => hfresh ?_
        exact List.mem_map.2 ⟨other, hother, heq.trans hid.symm⟩
      rw [List.eraseP_cons_of_pos hp, List.filter_cons_of_neg (by simp [hid]), hothers]
      exact hrest
    | false =>
      rw [List.find?_cons_of_neg (by simp [hp])] at hfind
      obtain ⟨other, hother, heq⟩ := exists_id_of_waits hrest (List.mem_of_find?_eq_some hfind)
      have hne : c.id ≠ task.id := fun hsame => hfresh (List.mem_map.2 ⟨other, hother, heq.trans hsame.symm⟩)
      rw [List.eraseP_cons_of_neg (by simp [hp]), List.filter_cons_of_pos (by simpa using hne)]
      exact .cons hwaits (ih nodup hfind)

end Caller

/-! ### A caller alone -/

theorem Trace.filter_lt_succ {trace : Trace} (ordered : trace.Pairwise fun a b => a.time ≤ b.time) (now : Nat) :
    trace.filter (·.time < now + 1) = trace.filter (·.time < now) ++ trace.filter (·.time = now) := by
  induction trace with
  | nil => rfl
  | cons e trace ih =>
    obtain ⟨hfirst, ordered⟩ := List.pairwise_cons.1 ordered
    by_cases hpast : e.time < now
    · have hsucc : e.time < now + 1 := Nat.lt_succ_of_lt hpast
      have hne : e.time ≠ now := Nat.ne_of_lt hpast
      rw [List.filter_cons_of_pos (by simpa using hsucc), List.filter_cons_of_pos (by simpa using hpast),
        List.filter_cons_of_neg (by simpa using hne), ih ordered, List.cons_append]
    -- from here on the trace is not past, so that before the next time is at this time
    · have hall : ∀ other ∈ e :: trace, now ≤ other.time := by
        refine List.forall_mem_cons.2 ⟨Nat.le_of_not_lt hpast, fun other hother => ?_⟩
        exact Nat.le_trans (Nat.le_of_not_lt hpast) (hfirst other hother)
      have hnone : (e :: trace).filter (·.time < now) = [] := by
        refine List.filter_eq_nil_iff.2 fun other hother => ?_
        simpa using hall other hother
      rw [hnone, List.nil_append]
      refine List.filter_congr fun other hother => ?_
      have hle := hall other hother
      rw [Bool.eq_iff_iff]
      simp only [decide_eq_true_eq]
      omega

/-- An ordered trace, time by time. -/
theorem Trace.flatMap_filter {trace : Trace} (ordered : trace.Pairwise fun a b => a.time ≤ b.time) (now : Nat) :
    (List.range now).flatMap (fun time => trace.filter (·.time = time)) = trace.filter (·.time < now) := by
  induction now with
  | zero =>
    refine (List.filter_eq_nil_iff.2 fun e _ => ?_).symm
    simp
  | succ now ih => rw [List.range_succ, List.flatMap_append, List.flatMap_singleton, ih, filter_lt_succ ordered]

namespace Caller

variable {registry : Registry}

theorem ordered_trace (c : Caller) : (c.trace registry).Pairwise fun a b => a.time ≤ b.time := by
  refine List.pairwise_append.2 ⟨(c.script registry).ordered, List.pairwise_singleton .., fun e he last hlast => ?_⟩
  obtain rfl := List.mem_singleton.1 hlast
  exact (c.script registry).bounded e he

/-- What a caller does alone that has ended. -/
theorem weave_singleton {c : Caller} (hquit : c.quit = none) {now : Nat} (hfinish : (c.script registry).finish ≤ now) :
    weave registry [c] now = c.trace registry := by
  have hall : (c.trace registry).filter (·.time < now + 1) = c.trace registry := by
    refine List.filter_eq_self.2 fun e he => decide_eq_true ?_
    exact Nat.lt_succ_of_le (Nat.le_trans (le_finish_of_mem_trace he) hfinish)
  simp only [weave, List.flatMap_singleton, toldAt, told_of_not_quit hquit]
  rw [Trace.flatMap_filter c.ordered_trace, hall]

/-- The same task as the only one, from time 0 on. -/
def alone (c : Caller) : Caller := { c with id := 0, start := 0, quit := none }

theorem trace_alone (c : Caller) : c.trace registry = (c.alone.trace registry).map (·.later c.start) := by
  have hscript : (c.alone.script registry).later c.start = c.script registry := Script.later_later ..
  rw [trace, trace, List.map_append, ← hscript]
  rfl

end Caller

end SingleFlight
