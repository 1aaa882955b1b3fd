import SingleFlight.Proofs.Rules
import SingleFlight.Proofs.Ways

/-!
# States that arise

Moves let a load that is being advanced end with any outcome. In a run it ends as its loader does: the states that
arise are those in which every load was advanced by polls of its own loader, and those in the middle of such a poll.

* what the steps of a poll carry over is carried over by the whole poll (`System.Carried.get`), so a poll leads from a
  state that arises to one that arises (`System.Arises.poll`);
* a get, or a loader, goes its way when it is polled now and then in states that arise. The get of a live task is on
  such a way (`Session.underway_play`), and so is a get that a loader makes on its way (`Run.heads_of_way`).
-/

namespace SingleFlight

namespace System

/-- The states of runs, those in the middle of a poll included. -/
inductive Arises : System → Prop where
  | start {registry : Registry} (built : registry.Built) : Arises (start registry)
  | elapse {s : System} (h : Arises s) (ms : Nat) : Arises (s.elapse ms)
  | note {s : System} {event : Event} (h : Arises s) (aside : event.isAside) : Arises (s.emit event)
  | lookUp {s : System} {name : String} {store : LocalStore} (h : Arises s)
      (hfind : s.registry.find? name = some (.local store)) (label : String) (key : Key) (loader : Loader τ) :
      Arises (s.lookUp store ⟨label, store.name, key⟩ loader).1
  /-- Within a load that calls its loader. -/
  | call {s : System} {id number : Nat} {cache : String} {key : Key} {τ : ValueType} {call : Call} {loader : Loader τ}
      (h : Arises s) (hload : s.load? id = some ⟨cache, key, number, .idle τ (.calling call loader)⟩) :
      Arises ((s.setLoad id .busy).emit (.called call (some id)))
  /-- Within a load that goes on. -/
  | resume {s : System} {id number : Nat} {cache : String} {key : Key} {τ : ValueType} {run : Run τ}
      (h : Arises s) (hload : s.load? id = some ⟨cache, key, number, .idle τ run⟩) (called : run.called) :
      Arises (s.setLoad id .busy)
  | advance {s : System} (h : Arises s) (depth id : Nat) : Arises (advance depth s id)
  | invalidate {s : System} {name : String} {cache : Cache} (h : Arises s)
      (hfind : s.registry.find? name = some cache) (key : Key) : Arises (s.invalidateIn cache key)
  | invalidateAll {s : System} {name : String} {cache : Cache} (h : Arises s)
      (hfind : s.registry.find? name = some cache) : Arises (s.invalidateAllIn cache)
  | tend {s : System} (h : Arises s) (name : String) : Arises (s.tend name)

/-- The steps of a poll carry the property over. A load that was polled is closed again in the state `t` that its
loader has led to. -/
structure Carried (P : System → Prop) : Prop where
  note {s : System} {event : Event} (h : P s) (aside : event.isAside) : P (s.emit event)
  lookUp {τ : ValueType} {s : System} {name : String} {store : LocalStore} (h : P s)
    (hfind : s.registry.find? name = some (.local store)) (label : String) (key : Key) (loader : Loader τ) :
    P (s.lookUp store ⟨label, store.name, key⟩ loader).1
  call {s : System} {id number : Nat} {cache : String} {key : Key} {τ : ValueType} {call : Call} {loader : Loader τ}
    (h : P s) (hload : s.load? id = some ⟨cache, key, number, .idle τ (.calling call loader)⟩) :
    P ((s.setLoad id .busy).emit (.called call (some id)))
  resume {s : System} {id number : Nat} {cache : String} {key : Key} {τ : ValueType} {run : Run τ}
    (h : P s) (hload : s.load? id = some ⟨cache, key, number, .idle τ run⟩) (called : run.called) :
    P (s.setLoad id .busy)
  paused {s t : System} {depth id number : Nat} {cache : String} {key : Key} {τ : ValueType} {run rest : Run τ}
    (h : P s) (hload : s.load? id = some ⟨cache, key, number, .idle τ run⟩)
    (hcalled : run.called ∨ 0 < depth)
    (hpoll : Run.poll depth (s.setLoad id .busy) (some id) run = (t, .pending rest)) (h' : P t) :
    P (t.setLoad id (.idle τ rest))
  landed {s t : System} {depth id number : Nat} {cache : String} {key : Key} {τ : ValueType} {run : Run τ}
    {outcome : Outcome Failure (Option (Typed τ))} (h : P s)
    (hload : s.load? id = some ⟨cache, key, number, .idle τ run⟩)
    (hpoll : Run.poll depth (s.setLoad id .busy) (some id) run = (t, .ended outcome)) (h' : P t) :
    P (t.land id cache key number (loadResult outcome))
  invalidateIn {s : System} {name : String} {cache : Cache} (h : P s)
    (hfind : s.registry.find? name = some cache) (key : Key) : P (s.invalidateIn cache key)
  invalidateAllIn {s : System} {name : String} {cache : Cache} (h : P s)
    (hfind : s.registry.find? name = some cache) : P (s.invalidateAllIn cache)

namespace Carried

variable {P : System → Prop}

/-- Polls carry the property over. Within a load that is about to call its loader it is the state after the call that
has it, so that a poll without depth, which makes no call, leads nowhere. -/
private def judgement (P : System → Prop) : Judgement where
  get _ s _ t _ := P s → P t
  run depth s load run t _ := (run.called ∨ load = none → P s → P t) ∧
    ∀ call loader, run = .calling call loader → 0 < depth → P (s.emit (.called call load)) → P t
  load _ s _ t := P s → P t

private theorem looked (carried : Carried P) {s t : System} {request : Request} {key : Key} {store : LocalStore}
    {loader : Loader τ} {found : Found} (hreach : s.reach request = .ok (.local store))
    (hlook : s.lookUp store ⟨request.label, store.name, key⟩ loader = (t, found)) (h : P s) : P t := by
  have hlooked := carried.lookUp h (find?_of_reach hreach) request.label key loader
  rw [hlook] at hlooked
  exact hlooked

private theorem keptByGets (carried : Carried P) : (judgement P).KeptByGets where
  cut _ _ h := h
  unkeyed _ h := h
  refused _ _ h := h
  passed _ _ hrest h := hrest (carried.note h rfl)
  found _ hreach hlook h := looked carried hreach hlook h
  started _ hreach hlook hrest h := hrest (looked carried hreach hlook h)
  joined _ hreach hlook hrest h := hrest (looked carried hreach hlook h)
  told hadvance _ h := hadvance h
  waiting hadvance _ _ h := hadvance h
  timedOut hadvance _ _ hrest h := hrest (carried.note (hadvance h) rfl)
  loading _ hrun h := hrun.1 (.inr rfl) h
  loaded _ hrun h := hrun.1 (.inr rfl) h

/-- A loader that runs has been called. -/
private theorem judgement_of_called {depth : Nat} {s t : System} {load : Option Nat} {run : Run τ}
    {progress : Progress (Run τ) Failure (Option (Typed τ))} (hcalled : run.called) (h : P s → P t) :
    (judgement P).run depth s load run t progress := by
  refine ⟨fun _ => h, fun call loader hrun => ?_⟩
  subst hrun
  cases hcalled

private theorem keptByRuns (carried : Carried P) : (judgement P).KeptByRuns where
  cut s load run := ⟨fun _ h => h, fun _ _ _ hdepth => absurd hdepth (Nat.lt_irrefl 0)⟩
  calling := by
    intro τ depth s t load call loader progress hrest
    refine ⟨fun hcalled h => ?_, fun _ _ hrun _ h => ?_⟩
    · obtain rfl : load = none := hcalled.resolve_left Bool.false_ne_true
      exact hrest.1 (.inl rfl) (carried.note h rfl)
    · cases hrun
      exact hrest.1 (.inl rfl) h
  awake _ hrest := judgement_of_called rfl (hrest.1 (.inl rfl))
  asleep _ := judgement_of_called rfl id
  nesting _ hget := judgement_of_called rfl hget
  nested _ hget := judgement_of_called rfl hget
  done _ _ _ _ := judgement_of_called rfl id
  fail _ _ _ _ := judgement_of_called rfl id
  panic _ _ _ _ := judgement_of_called rfl id
  sleep hrest := judgement_of_called rfl (hrest.1 (.inl rfl))
  invalidate hdone hrest := by
    obtain ⟨cache, hcache, rfl⟩ := exists_of_map_eq_ok hdone
    exact judgement_of_called rfl fun h => hrest.1 (.inl rfl) (carried.invalidateIn h (find?_of_require hcache) _)
  invalidateNone _ := judgement_of_called rfl id
  invalidateAll hdone hrest := by
    obtain ⟨cache, hcache, rfl⟩ := exists_of_map_eq_ok hdone
    exact judgement_of_called rfl fun h => hrest.1 (.inl rfl) (carried.invalidateAllIn h (find?_of_require hcache))
  invalidateAllNone _ := judgement_of_called rfl id
  get hrest := judgement_of_called rfl (hrest.1 (.inl rfl))

/-- The loader of a load leads from a state with the property to one with it. -/
private theorem within (carried : Carried P) {depth id number : Nat} {s t : System} {cache : String} {key : Key}
    {run : Run τ} {progress : Progress (Run τ) Failure (Option (Typed τ))}
    (hload : s.load? id = some ⟨cache, key, number, .idle τ run⟩) (hcalled : run.called ∨ 0 < depth)
    (hrun : (judgement P).run depth (s.setLoad id .busy) (some id) run t progress) (h : P s) : P t := by
  cases hnow : run.called with
  | true => exact hrun.1 (.inl hnow) (carried.resume h hload hnow)
  | false =>
    rw [hnow] at hcalled
    cases run with
    | calling call loader =>
      exact hrun.2 call loader rfl (hcalled.resolve_left Bool.false_ne_true) (carried.call h hload)
    | sleeping due loader => cases hnow
    | running loader => cases hnow
    | nested get => cases hnow

private theorem keptByLoads (carried : Carried P) : (judgement P).KeptByLoads where
  cut _ _ h := h
  still _ h := h
  paused := by
    intro τ depth id number s t cache key run rest hload hpoll hrun h
    by_cases hcalled : run.called ∨ 0 < depth
    · exact carried.paused h hload hcalled hpoll (within carried hload hcalled hrun h)
    · -- without depth the load is put back as it was
      obtain rfl : depth = 0 := Nat.eq_zero_of_not_pos fun hpos => hcalled (.inr hpos)
      cases hpoll
      rw [setLoad_setLoad_self hload]
      exact h
  landed := by
    intro τ depth id number s t cache key run outcome hload hpoll hrun h
    have hdepth : 0 < depth := by
      cases depth with
      | zero => cases hpoll
      | succ depth => exact Nat.succ_pos depth
    exact carried.landed h hload hpoll (within carried hload (.inr hdepth) hrun h)

private theorem kept (carried : Carried P) : (judgement P).Kept :=
  ⟨carried.keptByGets, carried.keptByRuns, carried.keptByLoads⟩

theorem get (carried : Carried P) {s : System} (h : P s) (depth : Nat) (get : Get τ) : P (Get.poll depth s get).1 :=
  (carried.kept.polls depth).get s get h

theorem run (carried : Carried P) {s : System} (h : P s) (depth : Nat) {load : Option Nat} {run : Run τ}
    (hcalled : run.called ∨ load = none) : P (Run.poll depth s load run).1 :=
  ((carried.kept.polls depth).run s load run).1 hcalled h

theorem advance (carried : Carried P) {s : System} (h : P s) (depth id : Nat) : P (advance depth s id) :=
  (carried.kept.polls depth).load s id h

end Carried

/-! ### The clock -/

theorem carried_now (now : Nat) : Carried fun s => s.now = now where
  note h _ := h
  lookUp h _ label key loader := (now_lookUp ..).trans h
  call h _ := h
  resume h _ _ := h
  paused _ _ _ _ h := h
  landed _ _ _ h := (now_land ..).trans h
  invalidateIn {_ _ cache} h _ _ := by cases cache <;> exact h
  invalidateAllIn {_ _ cache} h _ := by cases cache <;> exact h

/-- No time passes while a load is advanced. -/
theorem now_advance (depth : Nat) (s : System) (id : Nat) : (advance depth s id).now = s.now :=
  (carried_now s.now).advance rfl depth id

namespace Arises

theorem carried : Carried Arises where
  note := note
  lookUp := lookUp
  call := call
  resume := resume
  paused {s t depth id number cache key τ run rest} h hload _ hpoll _ := by
    have hadvance : System.advance (depth + 1) s id = t.setLoad id (.idle τ rest) := by
      simp only [System.advance, hload, hpoll]
    exact hadvance ▸ h.advance (depth + 1) id
  landed {s t depth id number cache key τ run outcome} h hload hpoll _ := by
    have hadvance : System.advance (depth + 1) s id = t.land id cache key number (loadResult outcome) := by
      simp only [System.advance, hload, hpoll]
    exact hadvance ▸ h.advance (depth + 1) id
  invalidateIn := invalidate
  invalidateAllIn := invalidateAll

/-- A poll leads from a state that arises to one that arises. -/
theorem poll {s t : System} (h : s.Arises) {depth : Nat} {get : Get τ}
    {progress : Progress (Get τ) CacheFault (Option (Typed τ))} (hpoll : Get.poll depth s get = (t, progress)) :
    t.Arises := by
  have hafter := carried.get h depth get
  rw [hpoll] at hafter
  exact hafter

end Arises

theorem Arises.reached {s : System} (h : s.Arises) : s.Reached := by
  induction h with
  | start built => exact ⟨_, built, .refl⟩
  | elapse _ ms ih => exact ih.moves (.single (.elapse _ ms))
  | note _ aside ih => exact ih.moves (.single (.note aside))
  | lookUp _ hfind label key loader ih => exact ih.moves (.single (.lookUp hfind label key loader))
  | call _ hload ih => exact ih.moves (.single (.call hload))
  | resume _ hload called ih => exact ih.moves (.single (.resume hload called))
  | advance _ depth id ih => exact ih.moves (polled_advance depth _ id).moves
  | invalidate _ hfind key ih => exact ih.moves (.single (.invalidate hfind key))
  | invalidateAll _ hfind ih => exact ih.moves (.single (.invalidateAll hfind))
  | tend _ name ih => exact ih.moves (.single (.tend _ name))

theorem stable_arises : Stable Arises where
  note := .note
  lookUp := .lookUp
  advance := .advance

end System

/-- The way of a loader in states that arise. -/
abbrev Run.Way (load : Option Nat) (s : System) (first : Run τ) : System → Run τ → Prop :=
  Run.Goes System.Arises load s first

/-- The way of a get in states that arise. -/
abbrev Get.Way (s : System) (first : Get τ) : System → Get τ → Prop := System.Way System.Arises Get.poll s first

/-- The get has come there from its request. -/
def Get.Afoot (t : System) (get : Get τ) : Prop :=
  ∃ (s : System) (request : Request) (loader : Loader τ), s.Arises ∧ Get.Way s (.asking request loader) t get

theorem Get.Afoot.moves {t u : System} {get : Get τ} (h : Get.Afoot t get) (moves : System.Moves t u) :
    Get.Afoot u get := by
  obtain ⟨s, request, loader, arises, way⟩ := h
  exact ⟨s, request, loader, arises, way.moves moves⟩

theorem Get.Afoot.poll {t u : System} {get next : Get τ} (h : Get.Afoot t get) (arises : t.Arises) {depth : Nat}
    (hpoll : Get.poll depth t get = (u, .pending next)) : Get.Afoot u next := by
  obtain ⟨s, request, loader, arises', way⟩ := h
  exact ⟨s, request, loader, arises', way.poll arises hpoll⟩

/-! ### Gets that loaders make -/

/-- What the loader comes to in the end, after everything that it sleeps through and invalidates. -/
def Loader.close : Loader τ → Loader τ
  | sleep _ next | invalidate _ _ next | invalidateAll _ next => next.close
  | done value => done value
  | fail failure => fail failure
  | panic payload => panic payload
  | get request loader => get request loader

namespace Run

/-- What is left of the loader comes to the same in the end. If it waits for a get, that is the one which the loader
makes, and it has come there from its request. -/
def Heads (loader : Loader τ) (t : System) : Run τ → Prop
  | .calling _ rest | .running rest | .sleeping _ rest => rest.close = loader.close
  | .nested get => ∃ (s : System) (request : Request) (inner : Loader τ),
    loader.close = .get request inner ∧ s.Arises ∧ Get.Way s (.asking request inner) t get

variable {loader : Loader τ} {load : Option Nat} {s t : System} {run rest : Run τ}

theorem Heads.moves (h : Heads loader s run) (moves : System.Moves s t) : Heads loader t run := by
  cases run with
  | calling call own => exact h
  | running own => exact h
  | sleeping due own => exact h
  | nested get =>
    obtain ⟨b, request, inner, hclose, arises, way⟩ := h
    exact ⟨b, request, inner, hclose, arises, way.moves moves⟩

theorem Heads.afoot {get : Get τ} (h : Heads loader t (.nested get)) : Get.Afoot t get := by
  obtain ⟨s, request, inner, -, arises, way⟩ := h
  exact ⟨s, request, inner, arises, way⟩

theorem heads_of_poll (depth : Nat) (arises : s.Arises) (hcalled : run.called ∨ load = none)
    (heads : Heads loader s run) (hpoll : Run.poll depth s load run = (t, .pending rest)) : Heads loader t rest := by
  induction depth generalizing s run with
  | zero =>
    cases hpoll
    exact heads
  | succ depth ih =>
    cases run with
    | calling call own =>
      obtain rfl : load = none := hcalled.resolve_left Bool.false_ne_true
      have hrunning : Heads loader (s.emit (.called call none)) (.running own) := heads
      exact ih (arises.note rfl) (.inl rfl) hrunning hpoll
    | sleeping due own =>
      simp only [Run.poll] at hpoll
      split at hpoll
      · have hrunning : Heads loader s (.running own) := heads
        exact ih arises (.inl rfl) hrunning hpoll
      · cases hpoll
        exact heads
    | nested get =>
      simp only [Run.poll] at hpoll
      split at hpoll
      next u next hget =>
        cases hpoll
        obtain ⟨b, request, inner, hclose, arises', way⟩ := heads
        exact ⟨b, request, inner, hclose, arises', way.poll arises hget⟩
      next => cases hpoll
    | running own =>
      cases own with
      | done value => cases hpoll
      | fail failure => cases hpoll
      | panic payload => cases hpoll
      | sleep ms next =>
        have hsleeping : Heads loader s (.sleeping (s.now + ms) next) := heads
        exact ih arises (.inl rfl) hsleeping hpoll
      | invalidate cache key next =>
        simp only [Run.poll] at hpoll
        split at hpoll
        next u hdone =>
          obtain ⟨found, hfound, rfl⟩ := exists_of_map_eq_ok hdone
          have hrunning : Heads loader (s.invalidateIn found key) (.running next) := heads
          exact ih (arises.invalidate (System.find?_of_require hfound) key) (.inl rfl) hrunning hpoll
        next => cases hpoll
      | invalidateAll cache next =>
        simp only [Run.poll] at hpoll
        split at hpoll
        next u hdone =>
          obtain ⟨found, hfound, rfl⟩ := exists_of_map_eq_ok hdone
          have hrunning : Heads loader (s.invalidateAllIn found) (.running next) := heads
          exact ih (arises.invalidateAll (System.find?_of_require hfound)) (.inl rfl) hrunning hpoll
        next => cases hpoll
      | get request inner =>
        have hmade : loader.close = .get request inner := Eq.symm heads
        have hasking : Heads loader s (.nested (.asking request inner)) := ⟨s, request, inner, hmade, arises, .refl⟩
        exact ih arises (.inl rfl) hasking hpoll

/-- On the way of a loader that has been called, the get it waits for is on a way of its own. -/
theorem heads_of_way (way : Run.Way load s (.running loader) t run) : run.called ∧ Heads loader t run := by
  induction way with
  | refl => exact ⟨rfl, rfl⟩
  | moves _ moves ih => exact ⟨ih.1, ih.2.moves moves⟩
  | @poll t u now next depth _ arises hpoll ih =>
    have hpoll : Run.poll depth t load now = (u, .pending next) := hpoll
    exact ⟨called_of_poll (.inl ih.1) (congrArg Prod.snd hpoll), heads_of_poll depth arises (.inl ih.1) ih.2 hpoll⟩

end Run

/-! ### Schedules -/

namespace Session

/-- The state arises, and the get of every live task has come there from its request. -/
structure Underway (x : Session) : Prop where
  arises : x.system.Arises
  afoot : ∀ task ∈ x.tasks, Get.Afoot x.system task.get

namespace Underway

/-- A step that starts and polls no task. -/
theorem step {x y : Session} (h : x.Underway) (arises : y.system.Arises) (moves : System.Moves x.system y.system)
    (htasks : ∀ task ∈ y.tasks, task ∈ x.tasks) : y.Underway :=
  ⟨arises, fun task htask => (h.afoot task (htasks task htask)).moves moves⟩

theorem poll {x : Session} (h : x.Underway) (place : Nat) : (x.turn (.poll place)).Underway := by
  have hmoves := moves_turn x (.poll place)
  cases hplace : x.tasks[place]? with
  | none =>
    have hsame : x.turn (.poll place) = x := by simp only [turn, hplace]
    rw [hsame]
    exact h
  | some polled =>
    cases hpoll : x.system.poll polled.get with
    | mk system progress =>
      have harises : system.Arises := h.arises.poll hpoll
      cases progress with
      | ended outcome =>
        have hturn : x.turn (.poll place) =
            { x with
              system := system.emit (.answered polled.name (outcome.mapValue fun v => v.map (·.val)))
              tasks := x.tasks.eraseIdx place } := by
          simp only [turn, hplace, System.pollTask, hpoll]
        rw [hturn] at hmoves ⊢
        exact h.step (harises.note rfl) hmoves fun task htask => List.mem_of_mem_eraseIdx htask
      | pending get =>
        have hturn : x.turn (.poll place) =
            { x with system, tasks := x.tasks.set place { polled with get } } := by
          simp only [turn, hplace, System.pollTask, hpoll]
        rw [hturn] at hmoves ⊢
        refine ⟨harises, fun task htask => ?_⟩
        rcases List.mem_or_eq_of_mem_set htask with hother | rfl
        · exact (h.afoot task hother).moves hmoves
        · exact (h.afoot polled (List.mem_of_getElem? hplace)).poll h.arises hpoll

theorem turn {x : Session} (h : x.Underway) (t : Turn) : (x.turn t).Underway := by
  have hmoves := moves_turn x t
  cases t with
  | start name type request loader =>
    refine ⟨h.arises, fun task htask => ?_⟩
    rcases List.mem_append.1 htask with hold | hnew
    · exact h.afoot task hold
    · obtain rfl := List.mem_singleton.1 hnew
      exact ⟨x.system, request, loader, h.arises, .refl⟩
  | poll place => exact h.poll place
  | drop place => exact h.step h.arises hmoves fun task htask => List.mem_of_mem_eraseIdx htask
  | elapse ms => exact h.step (h.arises.elapse ms) hmoves fun task => id
  | invalidate name key =>
    simp only [Session.turn] at hmoves ⊢
    split
    next cache hfind => exact h.step (h.arises.invalidate hfind key) (.single (.invalidate hfind key)) fun task => id
    next => exact h
  | invalidateAll name =>
    simp only [Session.turn] at hmoves ⊢
    split
    next cache hfind => exact h.step (h.arises.invalidateAll hfind) (.single (.invalidateAll hfind)) fun task => id
    next => exact h
  | tend name => exact h.step (h.arises.tend name) hmoves fun task => id

end Underway

/-- What polls carry over, and time that passes and upkeep keep, is kept by every schedule. -/
theorem carried_play {P : System → Prop} (carried : System.Carried P)
    (elapse : ∀ {s : System} (ms : Nat), P s → P (s.elapse ms))
    (tend : ∀ {s : System} (name : String), P s → P (s.tend name))
    {x : Session} (h : P x.system) (turns : List Turn) : P (x.play turns).system := by
  induction turns generalizing x with
  | nil => exact h
  | cons t turns ih =>
    refine ih (x := x.turn t) ?_
    cases t with
    | start name type request loader => exact h
    | poll place =>
      cases hplace : x.tasks[place]? with
      | none =>
        rw [turn_poll_of_none x hplace]
        exact h
      | some polled =>
        cases hpoll : x.system.poll polled.get with
        | mk s progress =>
          have hafter := carried.get h (x.system.work + polled.get.size) polled.get
          unfold System.poll at hpoll
          rw [hpoll] at hafter
          rw [turn_poll x hplace hpoll]
          cases progress with
          | pending get => exact hafter
          | ended outcome => exact carried.note hafter rfl
    | drop place => exact h
    | elapse ms => exact elapse ms h
    | invalidate name key =>
      simp only [turn]
      split
      next cache hfind => exact carried.invalidateIn h hfind key
      next => exact h
    | invalidateAll name =>
      simp only [turn]
      split
      next cache hfind => exact carried.invalidateAllIn h hfind
      next => exact h
    | tend name => exact tend name h

/-- After every schedule the state is one that arises, and every live task has come there from its request. -/
theorem underway_play {registry : Registry} (built : registry.Built) (turns : List Turn) :
    ((Session.start registry).play turns).Underway := by
  have hplay : ∀ (turns : List Turn) (x : Session), x.Underway → (x.play turns).Underway := by
    intro turns
    induction turns with
    | nil => exact fun _ h => h
    | cons t turns ih => exact fun x h => ih (x.turn t) (h.turn t)
  exact hplay turns _ ⟨.start built, nofun⟩

end Session

end SingleFlight
