import SingleFlight.Session
import SingleFlight.Proofs.Moves

/-!
# Schedules

A session settles after each of its steps and polls its tasks in the order in which they were started. A schedule is
free of that: its turns start, poll and drop tasks, let time pass, invalidate and look into caches in any order.

* every run of a session is a schedule (`Session.plays_run`), so what holds for schedules holds for sessions;
* every turn is a sequence of moves (`Session.moves_play`);
* and the gets of the tasks are polled in it with depth enough, and not touched otherwise (`Session.attends_play`).
-/

namespace SingleFlight

open Relation (ReflTransGen)

namespace Session

/-- One thing that happens in a schedule. -/
inductive Turn where
  /-- A task is started. It is not polled yet. -/
  | start (task : String) (type : ValueType) (request : Request) (loader : Loader type)
  /-- The live task at that place is polled once. -/
  | poll (place : Nat)
  /-- The live task at that place is dropped. -/
  | drop (place : Nat)
  | elapse (ms : Nat)
  | invalidate (cache : String) (key : Key)
  | invalidateAll (cache : String)
  /-- The named cache is asked for its count, which runs upkeep. -/
  | tend (cache : String)

def turn (x : Session) : Turn → Session
  | .start task type request loader =>
    { x with tasks := x.tasks ++ [⟨x.started, task, type, .asking request loader⟩], started := x.started + 1 }
  | .poll place =>
    match x.tasks[place]? with
    | none => x
    | some task =>
      match x.system.pollTask task with
      | (system, some task) => { x with system, tasks := x.tasks.set place task }
      | (system, none) => { x with system, tasks := x.tasks.eraseIdx place }
  | .drop place => { x with tasks := x.tasks.eraseIdx place }
  | .elapse ms => x.mapSystem (·.elapse ms)
  | .invalidate name key =>
    match x.system.registry.find? name with
    | some cache => x.mapSystem (·.invalidateIn cache key)
    | none => x
  | .invalidateAll name =>
    match x.system.registry.find? name with
    | some cache => x.mapSystem (·.invalidateAllIn cache)
    | none => x
  | .tend name => x.mapSystem (·.tend name)

/-- The session after the turns of a schedule. -/
def play (x : Session) (turns : List Turn) : Session := turns.foldl turn x

theorem play_append (x : Session) (turns more : List Turn) : x.play (turns ++ more) = (x.play turns).play more :=
  List.foldl_append

/-! ### Sessions are schedules -/

/-- The turn starts a task. -/
def Turn.Starts : Turn → Prop
  | .start _ _ _ _ => True
  | _ => False

/-- Every turn that starts a task of the step is as said. -/
def Step.StartsOnly (ok : Turn → Prop) : Step → Prop
  | .start task type request loader | .get task type request loader _ => ok (.start task type request loader)
  | _ => True

/-- Some schedule leads from the first session to the second. -/
def Plays (x y : Session) : Prop := ∃ turns, x.play turns = y

/-- Some schedule of turns as said leads from the first session to the second. -/
def PlaysBy (ok : Turn → Prop) (x y : Session) : Prop := ∃ turns : List Turn, (∀ t ∈ turns, ok t) ∧ x.play turns = y

namespace PlaysBy

variable {ok : Turn → Prop}

theorem refl (x : Session) : PlaysBy ok x x := ⟨[], nofun, rfl⟩

theorem trans {x y z : Session} (hxy : PlaysBy ok x y) (hyz : PlaysBy ok y z) : PlaysBy ok x z := by
  obtain ⟨turns, hturns, rfl⟩ := hxy
  obtain ⟨more, hmore, rfl⟩ := hyz
  refine ⟨turns ++ more, fun t ht => ?_, play_append x turns more⟩
  rcases List.mem_append.1 ht with h | h
  · exact hturns t h
  · exact hmore t h

theorem turn (x : Session) {t : Turn} (h : ok t) : PlaysBy ok x (x.turn t) := by
  refine ⟨[t], fun t' ht' => ?_, rfl⟩
  rwa [List.mem_singleton.1 ht']

end PlaysBy

section
variable {ok : Turn → Prop} (others : ∀ t : Turn, ¬ t.Starts → ok t)
include others

/-- A pass over the tasks is a poll at every place, where a task that has ended makes place for the next one. -/
theorem playsBy_pollEach (x : Session) (ahead rest : List Task) (h : x.tasks = ahead ++ rest) :
    PlaysBy ok x { x with system := (x.system.pollEach rest).1, tasks := ahead ++ (x.system.pollEach rest).2 } := by
  induction rest generalizing x ahead with
  | nil =>
    rw [List.append_nil] at h
    simp only [System.pollEach, List.append_nil, ← h]
    exact .refl x
  | cons task rest ih =>
    have hplace : x.tasks[ahead.length]? = some task := by simp [h]
    have hturn := PlaysBy.turn x (others (.poll ahead.length) id)
    cases hpoll : x.system.pollTask task with
    | mk system left =>
      cases left with
      | some next =>
        simp only [Session.turn, hplace, hpoll] at hturn
        simp only [System.pollEach, hpoll]
        have hset : x.tasks.set ahead.length next = (ahead ++ [next]) ++ rest := by simp [h]
        rw [hset] at hturn
        have hrest := ih { x with system, tasks := (ahead ++ [next]) ++ rest } (ahead ++ [next]) rfl
        simpa only [List.append_assoc, List.cons_append, List.nil_append] using hturn.trans hrest
      | none =>
        simp only [Session.turn, hplace, hpoll] at hturn
        simp only [System.pollEach, hpoll]
        have herase : x.tasks.eraseIdx ahead.length = ahead ++ rest := by
          rw [h, List.eraseIdx_append_of_length_le (Nat.le_refl _), Nat.sub_self]
          rfl
        rw [herase] at hturn
        exact hturn.trans (ih { x with system, tasks := ahead ++ rest } ahead rfl)

theorem playsBy_pass (x : Session) : PlaysBy ok x x.pass := playsBy_pollEach others x [] x.tasks rfl

theorem playsBy_settleWithin (passes : Nat) (x : Session) : PlaysBy ok x (x.settleWithin passes) := by
  induction passes generalizing x with
  | zero => exact .refl x
  | succ passes ih =>
    simp only [settleWithin]
    split
    · exact (playsBy_pass others x).trans (ih x.pass)
    · exact playsBy_pass others x

theorem playsBy_settle (x : Session) : PlaysBy ok x x.settle := playsBy_settleWithin others _ x

theorem playsBy_tick (x : Session) : PlaysBy ok x x.tick :=
  (PlaysBy.turn x (others (.elapse 1) id)).trans (playsBy_settle others _)

theorem playsBy_advance (x : Session) (ms : Nat) : PlaysBy ok x (x.advance ms) := by
  induction ms generalizing x with
  | zero => exact .refl x
  | succ ms ih =>
    simp only [advance]
    split
    · exact .turn x (others (.elapse (ms + 1)) id)
    · exact (playsBy_tick others x).trans (ih x.tick)

theorem playsBy_spawn (x : Session) {name : String} {request : Request} {loader : Loader τ}
    (h : ok (.start name τ request loader)) : PlaysBy ok x (x.spawn name request loader) :=
  (PlaysBy.turn x h).trans (playsBy_settle others _)

theorem playsBy_await (x : Session) (id limit : Nat) : PlaysBy ok x (x.await id limit) := by
  induction limit generalizing x with
  | zero => exact .refl x
  | succ limit ih =>
    simp only [await]
    split
    · exact (playsBy_tick others x).trans (ih x.tick)
    · exact .refl x

theorem playsBy_abort (x : Session) (name : String) : PlaysBy ok x (x.abort name) := by
  refine PlaysBy.trans ?_ (playsBy_settle others _)
  rw [List.eraseP_eq_eraseIdx]
  split
  · exact .refl x
  next place _ => exact .turn x (others (.drop place) id)

theorem playsBy_invalidate (x : Session) (name : String) (key : Key) :
    PlaysBy ok x (x.replaceSystem (x.system.invalidate name key)).1 := by
  have hturn := PlaysBy.turn x (others (.invalidate name key) id)
  unfold System.invalidate Registry.require
  cases hfind : x.system.registry.find? name with
  | none => exact .refl x
  | some cache =>
    simp only [turn, hfind] at hturn
    exact hturn

theorem playsBy_invalidateAll (x : Session) (name : String) :
    PlaysBy ok x (x.replaceSystem (x.system.invalidateAll name)).1 := by
  have hturn := PlaysBy.turn x (others (.invalidateAll name) id)
  unfold System.invalidateAll Registry.require
  cases hfind : x.system.registry.find? name with
  | none => exact .refl x
  | some cache =>
    simp only [turn, hfind] at hturn
    exact hturn

theorem playsBy_perform (x : Session) {step : Step} (starts : step.StartsOnly ok) :
    PlaysBy ok x (x.perform step).1 := by
  cases step with
  | start task type request loader => exact playsBy_spawn others x starts
  | get task type request loader limit => exact (playsBy_spawn others x starts).trans (playsBy_await others _ _ _)
  | advance ms => exact playsBy_advance others x ms
  | abort task => exact playsBy_abort others x task
  | invalidate name key =>
    cases key with
    | error fault => exact .refl x
    | ok key => exact playsBy_invalidate others x name key
  | invalidateAll name => exact playsBy_invalidateAll others x name
  | invalidateIn name key =>
    cases key with
    | error fault => exact .refl x
    | ok key =>
      have hturn := PlaysBy.turn x (others (.invalidate name key) id)
      simp only [turn] at hturn
      simp only [perform]
      cases hfind : x.system.registry.find? name with
      | none => exact .refl x
      | some cache =>
        rw [hfind] at hturn
        exact hturn
  | invalidateAllIn name =>
    have hturn := PlaysBy.turn x (others (.invalidateAll name) id)
    simp only [turn] at hturn
    simp only [perform]
    cases hfind : x.system.registry.find? name with
    | none => exact .refl x
    | some cache =>
      rw [hfind] at hturn
      exact hturn
  | contains name key => cases key <;> exact .refl x
  | count name => exact .turn x (others (.tend name) id)
  | inspect name => exact .turn x (others (.tend name) id)

theorem playsBy_run (x : Session) {steps : List Step} (starts : ∀ step ∈ steps, step.StartsOnly ok) :
    PlaysBy ok x (x.run steps).1 := by
  induction steps generalizing x with
  | nil => exact .refl x
  | cons step steps ih =>
    have hstep := playsBy_perform others x (starts step (List.mem_cons_self ..))
    exact hstep.trans (ih _ fun step' hmem => starts step' (List.mem_cons_of_mem step hmem))

end

/-- Every run of a session is a schedule. -/
theorem plays_run (x : Session) (steps : List Step) : Plays x (x.run steps).1 := by
  have starts : ∀ step ∈ steps, step.StartsOnly fun _ => True := by
    intro step _
    cases step <;> trivial
  obtain ⟨turns, -, hplay⟩ := playsBy_run (fun _ _ => trivial) x starts
  exact ⟨turns, hplay⟩

/-! ### Schedules are moves -/

theorem moves_pollTask (s : System) (task : Task) : System.Moves s (s.pollTask task).1 := by
  have hpoll := (System.polled_get (s.work + task.get.size) s task.get).moves
  simp only [System.pollTask, System.poll]
  split
  next t get heq =>
    rw [heq] at hpoll
    exact hpoll
  next t outcome heq =>
    rw [heq] at hpoll
    exact hpoll.tail (.note rfl)

theorem moves_turn (x : Session) (t : Turn) : System.Moves x.system (x.turn t).system := by
  cases t with
  | start task type request loader => exact .refl
  | poll place =>
    simp only [turn]
    cases x.tasks[place]? with
    | none => exact .refl
    | some task =>
      have hpoll := moves_pollTask x.system task
      dsimp only
      split
      next s next heq =>
        rw [heq] at hpoll
        exact hpoll
      next s heq =>
        rw [heq] at hpoll
        exact hpoll
  | drop place => exact .refl
  | elapse ms => exact .single (.elapse x.system ms)
  | invalidate name key =>
    simp only [turn]
    cases hfind : x.system.registry.find? name with
    | none => exact .refl
    | some cache => exact .single (.invalidate hfind key)
  | invalidateAll name =>
    simp only [turn]
    cases hfind : x.system.registry.find? name with
    | none => exact .refl
    | some cache => exact .single (.invalidateAll hfind)
  | tend name => exact .single (.tend x.system name)

/-- A turn that polls no task is a move at most, and keeps all loads. -/
theorem turn_of_not_poll (x : Session) {t : Turn} (h : ∀ place, t ≠ .poll place) :
    ((x.turn t).system = x.system ∨ System.Move x.system (x.turn t).system) ∧
      (x.turn t).system.loads = x.system.loads := by
  cases t with
  | start task type request loader => exact ⟨.inl rfl, rfl⟩
  | poll place => exact absurd rfl (h place)
  | drop place => exact ⟨.inl rfl, rfl⟩
  | elapse ms => exact ⟨.inr (.elapse x.system ms), rfl⟩
  | invalidate name key =>
    simp only [turn]
    cases hfind : x.system.registry.find? name with
    | none => exact ⟨.inl rfl, rfl⟩
    | some cache => exact ⟨.inr (.invalidate hfind key), System.loads_invalidateIn x.system cache key⟩
  | invalidateAll name =>
    simp only [turn]
    cases hfind : x.system.registry.find? name with
    | none => exact ⟨.inl rfl, rfl⟩
    | some cache => exact ⟨.inr (.invalidateAll hfind), System.loads_invalidateAllIn x.system cache⟩
  | tend name => exact ⟨.inr (.tend x.system name), rfl⟩

/-- A turn that polls no task keeps the tasks, but for one that it starts or drops. -/
theorem mem_tasks_of_not_poll (x : Session) {t : Turn} (h : ∀ place, t ≠ .poll place) {task : Task}
    (htask : task ∈ (x.turn t).tasks) : task ∈ x.tasks ∨
      ∃ name type request loader, t = .start name type request loader ∧
        task = ⟨x.started, name, type, .asking request loader⟩ := by
  cases t with
  | start name type request loader =>
    rcases List.mem_append.1 htask with hold | hnew
    · exact .inl hold
    · exact .inr ⟨name, type, request, loader, rfl, List.mem_singleton.1 hnew⟩
  | poll place => exact absurd rfl (h place)
  | drop place => exact .inl (List.mem_of_mem_eraseIdx htask)
  | elapse ms => exact .inl htask
  | invalidate name key =>
    have hsame : (x.turn (.invalidate name key)).tasks = x.tasks := by
      simp only [turn]
      split
      · rfl
      · rfl
    exact .inl (hsame ▸ htask)
  | invalidateAll name =>
    have hsame : (x.turn (.invalidateAll name)).tasks = x.tasks := by
      simp only [turn]
      split
      · rfl
      · rfl
    exact .inl (hsame ▸ htask)
  | tend name => exact .inl htask

/-- A poll of a task leaves the state after the poll of its get. The task goes on with what is left of the get, or it
ends and leaves its answer. -/
theorem turn_poll (x : Session) {place : Nat} {task : Task} (hplace : x.tasks[place]? = some task) {s : System}
    {progress : Progress (Get task.type) CacheFault (Option (Typed task.type))}
    (hpoll : x.system.poll task.get = (s, progress)) : x.turn (.poll place) =
      match progress with
      | .pending get => { x with system := s, tasks := x.tasks.set place { task with get } }
      | .ended outcome =>
        { x with
          system := s.emit (.answered task.name (outcome.mapValue fun v => v.map (·.val)))
          tasks := x.tasks.eraseIdx place } := by
  cases progress with
  | pending get => simp only [turn, hplace, System.pollTask, hpoll]
  | ended outcome => simp only [turn, hplace, System.pollTask, hpoll]

theorem turn_poll_of_none (x : Session) {place : Nat} (hplace : x.tasks[place]? = none) :
    x.turn (.poll place) = x := by
  simp only [turn, hplace]

/-- A task that is live after a turn was live before, or the turn has started it, or it has polled it. -/
theorem mem_tasks_turn (x : Session) {t : Turn} {task : Task} (htask : task ∈ (x.turn t).tasks) :
    task ∈ x.tasks ∨
      (∃ name type request loader, t = .start name type request loader ∧
        task = ⟨x.started, name, type, .asking request loader⟩) ∨
      ∃ place polled get, t = .poll place ∧ x.tasks[place]? = some polled ∧
        x.system.poll polled.get = ((x.turn t).system, .pending get) ∧ task = { polled with get } := by
  by_cases hpolls : ∃ place, t = .poll place
  · obtain ⟨place, rfl⟩ := hpolls
    cases hplace : x.tasks[place]? with
    | none =>
      rw [turn_poll_of_none x hplace] at htask
      exact .inl htask
    | some polled =>
      cases hpoll : x.system.poll polled.get with
      | mk s progress =>
        have hturn := turn_poll x hplace hpoll
        rw [hturn] at htask ⊢
        cases progress with
        | ended outcome => exact .inl (List.mem_of_mem_eraseIdx htask)
        | pending get =>
          rcases List.mem_or_eq_of_mem_set htask with hother | rfl
          · exact .inl hother
          · exact .inr (.inr ⟨place, polled, get, rfl, hplace, hpoll, rfl⟩)
  · rcases mem_tasks_of_not_poll x (fun place h => hpolls ⟨place, h⟩) htask with hold | hstarted
    · exact .inl hold
    · exact .inr (.inl hstarted)

theorem moves_play (x : Session) (turns : List Turn) : System.Moves x.system (x.play turns).system := by
  induction turns generalizing x with
  | nil => exact .refl
  | cons t turns ih => exact (moves_turn x t).trans (ih (x.turn t))

end Session

/-! ### The gets of a schedule -/

/-- The way of a get that is attended to: the system moves, and the get is polled now and then, each time with the depth
for the work at hand. -/
inductive Get.Attended {τ : ValueType} (s : System) (get : Get τ) : System → Get τ → Prop where
  | refl : Attended s get s get
  | moves {t u : System} {rest : Get τ} (h : Attended s get t rest) (moves : System.Moves t u) : Attended s get u rest
  | poll {t u : System} {rest next : Get τ} (h : Attended s get t rest) {depth : Nat}
      (deep : t.work + rest.size ≤ depth) (hpoll : Get.poll depth t rest = (u, .pending next)) : Attended s get u next

theorem Get.Attended.trans {τ : ValueType} {s t u : System} {get rest next : Get τ} (h : Attended s get t rest)
    (h' : Attended t rest u next) : Attended s get u next := by
  induction h' with
  | refl => exact h
  | moves _ moves ih => exact ih.moves moves
  | poll _ deep hpoll ih => exact ih.poll deep hpoll

namespace Session

open Get (Attended)

/-- The get of a task is attended to as the session takes turns, from the session before them or from its own start. -/
def Attends (x y : Session) (task : Task) : Prop :=
  (∃ get : Get task.type, { task with get } ∈ x.tasks ∧ Attended x.system get y.system task.get) ∨
    ∃ s request loader, System.Moves x.system s ∧ Attended s (.asking request loader) y.system task.get

theorem attends_turn (x : Session) (t : Turn) {task : Task} (h : task ∈ (x.turn t).tasks) :
    Attends x (x.turn t) task := by
  have hmoves := moves_turn x t
  have hold : task ∈ x.tasks → Attends x (x.turn t) task := fun hmem => .inl ⟨task.get, hmem, .moves (.refl ..) hmoves⟩
  cases t with
  | start name type request loader =>
    rcases List.mem_append.1 h with hmem | hmem
    · exact hold hmem
    · obtain rfl := List.mem_singleton.1 hmem
      exact .inr ⟨x.system, request, loader, .refl, .refl ..⟩
  | poll place =>
    cases hplace : x.tasks[place]? with
    | none =>
      have hsame : (x.turn (.poll place)).tasks = x.tasks := by simp only [turn, hplace]
      exact hold (hsame ▸ h)
    | some polled =>
      have hmem : polled ∈ x.tasks := List.mem_of_getElem? hplace
      cases hpoll : x.system.poll polled.get with
      | mk system progress =>
        cases progress with
        | ended outcome =>
          have hrest : (x.turn (.poll place)).tasks = x.tasks.eraseIdx place := by
            simp only [turn, hplace, System.pollTask, hpoll]
          exact hold (List.mem_of_mem_eraseIdx (hrest ▸ h))
        | pending get =>
          have hturn : x.turn (.poll place) =
              { x with system, tasks := x.tasks.set place { polled with get } } := by
            simp only [turn, hplace, System.pollTask, hpoll]
          have hset : task ∈ x.tasks.set place { polled with get } := by
            rw [hturn] at h
            exact h
          rcases List.mem_or_eq_of_mem_set hset with hother | rfl
          · exact hold hother
          · rw [hturn]
            exact .inl ⟨polled.get, hmem, .poll (.refl ..) (Nat.le_refl _) hpoll⟩
  | drop place => exact hold (List.mem_of_mem_eraseIdx h)
  | elapse ms => exact hold h
  | invalidate name key =>
    have hsame : (x.turn (.invalidate name key)).tasks = x.tasks := by
      simp only [turn]
      split
      · rfl
      · rfl
    exact hold (hsame ▸ h)
  | invalidateAll name =>
    have hsame : (x.turn (.invalidateAll name)).tasks = x.tasks := by
      simp only [turn]
      split
      · rfl
      · rfl
    exact hold (hsame ▸ h)
  | tend name => exact hold h

/-- Every live task of a schedule is attended to. -/
theorem attends_play (x : Session) (turns : List Turn) {task : Task} (h : task ∈ (x.play turns).tasks) :
    Attends x (x.play turns) task := by
  induction turns generalizing x with
  | nil => exact .inl ⟨task.get, h, .refl ..⟩
  | cons t turns ih =>
    rcases ih (x.turn t) h with ⟨get, hmem, hattended⟩ | ⟨s, request, loader, hmoves, hattended⟩
    · rcases attends_turn x t hmem with ⟨before, hbefore, hfirst⟩ | ⟨s, request, loader, hmoves, hfirst⟩
      · exact .inl ⟨before, hbefore, hfirst.trans hattended⟩
      · exact .inr ⟨s, request, loader, hmoves, hfirst.trans hattended⟩
    · exact .inr ⟨s, request, loader, (moves_turn x t).trans hmoves, hattended⟩

end Session

end SingleFlight
