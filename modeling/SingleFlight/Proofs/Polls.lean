import Mathlib.Data.List.Induction
import SingleFlight.Proofs.Answers
import SingleFlight.Proofs.Loads

/-!
# Polls below polls

A poll makes other polls: it goes on with what a get or a loader has become, and it comes down to the get that a loader
waits for, to the load that a get waits for and to that load's loader.

* a get or a loader goes on by single steps (`Get.Step`, `Run.Step`). In states that arise, a get that has come there
  from its request stays on its way (`Get.Afoot.step`), and so does a loader (`Run.Due.step`);
* `Poll.Enters` leads to the polls right below a poll, so what is due stays due however deep down
  (`Poll.Enters.due`);
* a session makes the polls of its tasks, and those below them (`Session.Makes`).
-/

namespace SingleFlight

open Relation (ReflTransGen)
open SingleFlight.System (Moves)

/-! ### Steps of a poll -/

/-- A loader goes on without ending. -/
inductive Run.Step {τ : ValueType} (load : Option Nat) : System → Run τ → System → Run τ → Prop where
  | called {s : System} {call : Call} {loader : Loader τ} :
    Step load s (.calling call loader) (s.emit (.called call load)) (.running loader)
  | awake {s : System} {due : Nat} {loader : Loader τ} (hdue : due ≤ s.now) :
    Step load s (.sleeping due loader) s (.running loader)
  | slept {s : System} {ms : Nat} {next : Loader τ} :
    Step load s (.running (.sleep ms next)) s (.sleeping (s.now + ms) next)
  | invalidated {s t : System} {cache : String} {key : Key} {next : Loader τ} (hdone : s.invalidate cache key = .ok t) :
    Step load s (.running (.invalidate cache key next)) t (.running next)
  | allInvalidated {s t : System} {cache : String} {next : Loader τ} (hdone : s.invalidateAll cache = .ok t) :
    Step load s (.running (.invalidateAll cache next)) t (.running next)
  | made {s : System} {request : Request} {inner : Loader τ} :
    Step load s (.running (.get request inner)) s (.nested (.asking request inner))

/-- The cache that a get asks. -/
def Get.asked {τ : ValueType} : Get τ → String
  | .asking request _ => request.cache
  | .awaiting cache _ _ _ | .loading cache _ => cache

/-- A get goes on without ending, for the cache that it asks. Loads that it advances are polled to that depth. -/
inductive Get.Step {τ : ValueType} (depth : Nat) : System → Get τ → System → Get τ → Prop where
  | passed {s : System} {request : Request} {loader : Loader τ} {key : Key} {name : String}
    (hkey : request.key = .ok key) (hreach : s.reach request = .ok (.passThrough name)) (hname : name = request.cache) :
    Step depth s (.asking request loader) (s.emit (.passedThrough name key))
      (.loading name (.calling ⟨request.label, name, key⟩ loader))
  | started {s t : System} {request : Request} {loader : Loader τ} {key : Key} {store : LocalStore} {id : Nat}
    (hkey : request.key = .ok key) (hreach : s.reach request = .ok (.local store))
    (hlook : s.lookUp store ⟨request.label, store.name, key⟩ loader = (t, .started id))
    (hname : store.name = request.cache) :
    Step depth s (.asking request loader) t (.awaiting store.name key id none)
  | joined {s t : System} {request : Request} {loader : Loader τ} {key : Key} {store : LocalStore} {id : Nat}
    (hkey : request.key = .ok key) (hreach : s.reach request = .ok (.local store))
    (hlook : s.lookUp store ⟨request.label, store.name, key⟩ loader = (t, .joined id))
    (hname : store.name = request.cache) :
    Step depth s (.asking request loader) t (.awaiting store.name key id
      (request.patienceAt t.now ⟨request.label, store.name, key⟩ loader))
  | timedOut {s : System} {cache : String} {key : Key} {id : Nat} {p : Patience τ}
    (hopen : (System.advance depth s id).outcome? id = none) (hdue : p.due ≤ (System.advance depth s id).now) :
    Step depth s (.awaiting cache key id (some p))
      ((System.advance depth s id).emit (.lockTimedOut cache key id p.lockTimeout))
      (.loading cache (.calling p.call p.loader))

section
variable {τ : ValueType} {s t : System} {depth : Nat}

/-- A poll goes the step and on from there. -/
theorem Run.poll_of_step {load : Option Nat} {run next : Run τ} (step : Run.Step load s run t next) (depth : Nat) :
    Run.poll (depth + 1) s load run = Run.poll depth t load next := by
  cases step with
  | called => rfl
  | awake hdue => simp only [Run.poll, if_pos hdue]
  | slept => rfl
  | invalidated hdone => simp only [Run.poll, hdone]
  | allInvalidated hdone => simp only [Run.poll, hdone]
  | made => rfl

theorem Get.poll_of_step {get next : Get τ} (step : Get.Step depth s get t next) :
    Get.poll (depth + 1) s get = Get.poll depth t next := by
  cases step with
  | passed hkey hreach _ => simp only [Get.poll, hkey, hreach]
  | started hkey hreach hlook _ => simp only [Get.poll, hkey, hreach, hlook]
  | joined hkey hreach hlook _ =>
    simp only [Get.poll, hkey, hreach, hlook]
    rfl
  | timedOut hopen hdue => simp only [Get.poll, hopen, if_pos hdue]

theorem Get.Step.asked_eq {get next : Get τ} (step : Get.Step depth s get t next) : next.asked = get.asked := by
  cases step with
  | passed _ _ hname => exact hname
  | started _ _ _ hname => exact hname
  | joined _ _ _ hname => exact hname
  | timedOut => rfl

end

/-! ### What is due to be polled -/

namespace Get

variable {τ : ValueType} {s t : System}

/-- A get whose key cannot be built is answered at once, and so it has not been polled. -/
theorem eq_asking_of_way {request : Request} {loader : Loader τ} {fault : KeyFault} (hkey : request.key = .error fault)
    {get : Get τ} (way : Get.Way s (.asking request loader) t get) : get = .asking request loader := by
  induction way with
  | refl => rfl
  | moves _ _ ih => exact ih
  | @poll t u now next depth _ _ hpoll ih =>
    subst ih
    cases depth with
    | zero =>
      cases hpoll
      rfl
    | succ depth =>
      simp only [Get.poll, hkey] at hpoll
      cases hpoll

/-- A get that has not been answered asks, or it is placed where its request has led it. -/
theorem Afoot.placed {get : Get τ} (afoot : Get.Afoot s get) : (∃ request loader, get = .asking request loader) ∨
    ∃ b request loader key, Placed System.Arises request loader key b s get := by
  obtain ⟨b, request, loader, arises, way⟩ := afoot
  cases hkey : request.key with
  | ok key => exact .inr ⟨b, request, loader, key, placed_of_way System.stable_arises hkey arises.reached.sound way⟩
  | error fault => exact .inl ⟨request, loader, eq_asking_of_way hkey way⟩

/-- The load that a get waits for is one for its cache and its key. -/
theorem Afoot.load {cache : String} {key : Key} {id : Nat} {patience : Option (Patience τ)}
    (afoot : Get.Afoot s (.awaiting cache key id patience)) :
    ∃ load, s.load? id = some load ∧ load.cache = cache ∧ load.key = key := by
  rcases afoot.placed with ⟨_, _, ⟨⟩⟩ | ⟨_, request, _, own, ⟨hcache, hkey⟩, -, -, number, state, hload⟩
  exact ⟨_, hload, hcache.symm, hkey.symm⟩

/-- A step is a poll as well. -/
theorem Afoot.step {depth : Nat} {get next : Get τ} (afoot : Get.Afoot s get) (arises : s.Arises)
    (step : Get.Step depth s get t next) : t.Arises ∧ Get.Afoot t next := by
  -- before a get turns away from a load, it advances it
  have hstep : ∃ u, u.Arises ∧ Moves s u ∧ Get.Step 0 u get t next := by
    cases step with
    | passed hkey hreach hname => exact ⟨s, arises, .refl, .passed hkey hreach hname⟩
    | started hkey hreach hlook hname => exact ⟨s, arises, .refl, .started hkey hreach hlook hname⟩
    | joined hkey hreach hlook hname => exact ⟨s, arises, .refl, .joined hkey hreach hlook hname⟩
    | @timedOut cache key id p hopen hdue =>
      have hlate : Get.Step 0 (System.advance depth s id) (.awaiting cache key id (some p)) _ _ := .timedOut hopen hdue
      exact ⟨_, arises.advance depth id, (System.polled_advance depth s id).moves, hlate⟩
  obtain ⟨u, arises, moves, step⟩ := hstep
  have hpoll : Get.poll 1 u get = (t, .pending next) := Get.poll_of_step step
  exact ⟨arises.poll hpoll, (afoot.moves moves).poll arises hpoll⟩

end Get

namespace Run

variable {τ : ValueType} {load : Option Nat} {s t : System}

/-- The loader is called next or was called, in a state that arises. -/
def Due (load : Option Nat) (s : System) : Run τ → Prop
  | .calling call _ => (s.emit (.called call load)).Arises
  | .running _ | .sleeping _ _ => s.Arises
  | .nested get => s.Arises ∧ Get.Afoot s get

theorem Due.step {run next : Run τ} (due : Due load s run) (step : Run.Step load s run t next) : Due load t next := by
  cases step with
  | called => exact due
  | awake hdue => exact due
  | slept => exact due
  | invalidated hdone =>
    obtain ⟨cache, hcache, rfl⟩ := exists_of_map_eq_ok hdone
    exact System.Arises.invalidate due (System.find?_of_require hcache) _
  | allInvalidated hdone =>
    obtain ⟨cache, hcache, rfl⟩ := exists_of_map_eq_ok hdone
    exact System.Arises.invalidateAll due (System.find?_of_require hcache)
  | made => exact ⟨due, _, _, _, due, .refl⟩

/-- A loader that has been called is due, as the get that it waits for is on its way. -/
theorem Heads.due {loader : Loader τ} {run : Run τ} (h : Heads loader s run) (arises : s.Arises)
    (hcalled : run.called) : Due load s run := by
  cases run with
  | calling call own => cases hcalled
  | running own => exact arises
  | sleeping due own => exact arises
  | nested get => exact ⟨arises, h.afoot⟩

theorem due_of_follows {call : Call} {loader : Loader τ} {b : System} {run : Run τ} (arises : s.Arises)
    (h : Run.Follows System.Arises none call loader b s run) : Due none s run := by
  rcases h with ⟨-, rfl⟩ | ⟨c, -, way⟩
  · exact arises.note rfl
  · obtain ⟨hcalled, heads⟩ := heads_of_way way
    exact heads.due arises hcalled

end Run

theorem Get.Afoot.due {τ : ValueType} {s : System} {cache : String} {run : Run τ}
    (afoot : Get.Afoot s (.loading cache run)) (arises : s.Arises) : Run.Due none s run := by
  rcases afoot.placed with ⟨_, _, ⟨⟩⟩ | ⟨_, _, _, _, -, follows⟩
  exact Run.due_of_follows arises follows

/-- The loader of a load that is advanced is due. -/
theorem System.Arises.due {τ : ValueType} {s : System} (arises : s.Arises) {id number : Nat} {cache : String}
    {key : Key} {run : Run τ} (hload : s.load? id = some ⟨cache, key, number, .idle τ run⟩) :
    Run.Due (some id) (s.setLoad id .busy) run := by
  cases hcalled : run.called with
  | false =>
    cases run with
    | calling call loader => exact arises.call hload
    | running loader => cases hcalled
    | sleeping due loader => cases hcalled
    | nested get => cases hcalled
  | true =>
    obtain ⟨loader, heads⟩ := System.heads_of_load arises hload
    exact (heads.moves (.single (.resume hload hcalled))).due (arises.resume hload hcalled) hcalled

/-- A request reaches the cache that it names. -/
theorem System.Arises.name_of_reach {s : System} (arises : s.Arises) {request : Request} {cache : Cache}
    (hreach : s.reach request = .ok cache) : cache.name = request.cache :=
  arises.reached.sound.named _ _ (System.find?_of_reach hreach)

/-! ### Polls below a poll -/

/-- What is polled: a get, a loader, which a load has called or else a get by itself, or a load. -/
inductive Target where
  | get {τ : ValueType} (get : Get τ)
  | run {τ : ValueType} (load : Option Nat) (run : Run τ)
  | load (id : Nat)

/-- A poll: how deep, in which state, and of what. -/
structure Poll where
  depth : Nat
  state : System
  target : Target

namespace Poll

/-- The second poll is made by the first one, right below it. -/
inductive Enters : Poll → Poll → Prop where
  | get {τ : ValueType} {depth : Nat} {s t : System} {get next : Get τ} (step : Get.Step depth s get t next) :
      Enters ⟨depth + 1, s, .get get⟩ ⟨depth, t, .get next⟩
  | run {τ : ValueType} {depth : Nat} {s t : System} {load : Option Nat} {run next : Run τ}
      (step : Run.Step load s run t next) : Enters ⟨depth + 1, s, .run load run⟩ ⟨depth, t, .run load next⟩
  | loading {τ : ValueType} {depth : Nat} {s : System} {cache : String} {run : Run τ} :
      Enters ⟨depth + 1, s, .get (.loading cache run)⟩ ⟨depth, s, .run none run⟩
  | awaiting {τ : ValueType} {depth id : Nat} {s : System} {cache : String} {key : Key}
      {patience : Option (Patience τ)} :
      Enters ⟨depth + 1, s, .get (.awaiting cache key id patience)⟩ ⟨depth, s, .load id⟩
  | nested {τ : ValueType} {depth : Nat} {s : System} {load : Option Nat} {get : Get τ} :
      Enters ⟨depth + 1, s, .run load (.nested get)⟩ ⟨depth, s, .get get⟩
  /-- A loader that is polled without depth would not even be called. -/
  | load {τ : ValueType} {depth id number : Nat} {s : System} {cache : String} {key : Key} {run : Run τ}
      (hdepth : 0 < depth) (hload : s.load? id = some ⟨cache, key, number, .idle τ run⟩) :
      Enters ⟨depth + 1, s, .load id⟩ ⟨depth, s.setLoad id .busy, .run (some id) run⟩

/-- The state that the poll leaves. -/
def after : Poll → System
  | ⟨depth, s, .get get⟩ => (Get.poll depth s get).1
  | ⟨depth, s, .run load run⟩ => (Run.poll depth s load run).1
  | ⟨depth, s, .load id⟩ => System.advance depth s id

/-- The poll is one of something that has come where it is, in a state that arises. -/
def Due : Poll → Prop
  | ⟨_, s, .get get⟩ => s.Arises ∧ Get.Afoot s get
  | ⟨_, s, .run load run⟩ => Run.Due load s run
  | ⟨_, s, .load _⟩ => s.Arises

theorem Enters.due {p q : Poll} (h : p.Enters q) (due : p.Due) : q.Due := by
  cases h with
  | get step => exact due.2.step due.1 step
  | run step => exact Run.Due.step due step
  | loading => exact due.2.due due.1
  | awaiting => exact due.1
  | nested => exact due
  | load _ hload => exact System.Arises.due due hload

/-- What a poll leaves is led on to what the poll above it leaves. -/
theorem Enters.moves {p q : Poll} (h : p.Enters q) : Moves q.after p.after := by
  cases h with
  | get step => rw [after, after, Get.poll_of_step step]
  | run step => rw [after, after, Run.poll_of_step step]
  | @loading τ depth s cache run =>
    rw [after, after]
    cases hpoll : Run.poll depth s none run with
    | mk t progress => cases progress <;> simp only [Get.poll, hpoll] <;> exact .refl
  | @nested τ depth s load get =>
    rw [after, after]
    cases hpoll : Get.poll depth s get with
    | mk t progress => cases progress <;> simp only [Run.poll, hpoll] <;> exact .refl
  | @awaiting τ depth id s cache key patience =>
    simp only [after, Get.poll]
    split
    · exact .refl
    · split
      · exact .refl
      · split
        · exact (System.polled_get depth _ _).moves.head (.note rfl)
        · exact .refl
  | @load τ depth id number s cache key run hdepth hload =>
    cases hpoll : Run.poll depth (s.setLoad id .busy) (some id) run with
    | mk t progress =>
      have hbusy := (System.busy_of_poll hload (.inr hdepth) hpoll).2
      simp only [after, System.advance, hload, hpoll]
      cases progress with
      | pending rest =>
        have hrest := Run.called_of_poll (.inr hdepth) (congrArg Prod.snd hpoll)
        exact .single (.pause hbusy hrest)
      | ended outcome => exact .single (.land hbusy _)

/-- The second poll is the first one, or is made somewhere below it. -/
abbrev Reaches : Poll → Poll → Prop := ReflTransGen Enters

theorem Reaches.due {p q : Poll} (h : p.Reaches q) (due : p.Due) : q.Due := by
  induction h with
  | refl => exact due
  | tail _ last ih => exact last.due ih

theorem Reaches.moves {p q : Poll} (h : p.Reaches q) : Moves q.after p.after := by
  induction h with
  | refl => exact .refl
  | tail _ last ih => exact last.moves.trans ih

end Poll

namespace Session

/-- The session makes the poll in those turns: of a task, or below such a poll. -/
def Makes (x : Session) (turns : List Turn) (p : Poll) : Prop :=
  ∃ (before after : List Turn) (place : Nat) (task : Task), turns = before ++ .poll place :: after ∧
    (x.play before).tasks[place]? = some task ∧
    Poll.Reaches ⟨(x.play before).system.work + task.get.size, (x.play before).system, .get task.get⟩ p

theorem Makes.append {x : Session} {turns : List Turn} {p : Poll} (h : x.Makes turns p) (more : List Turn) :
    x.Makes (turns ++ more) p := by
  obtain ⟨before, after, place, task, rfl, htask, hreaches⟩ := h
  exact ⟨before, after ++ more, place, task, List.append_assoc .., htask, hreaches⟩

/-- What a poll leaves is led on to the state after the turns. -/
theorem Makes.moves {x : Session} {turns : List Turn} {p : Poll} (h : x.Makes turns p) :
    Moves p.after (x.play turns).system := by
  obtain ⟨before, after, place, task, rfl, htask, hreaches⟩ := h
  have hturn : Moves p.after ((x.play before).turn (.poll place)).system := by
    refine hreaches.moves.trans ?_
    cases hpoll : (x.play before).system.poll task.get with
    | mk s progress =>
      have hafter : Poll.after ⟨_, (x.play before).system, .get task.get⟩ = s := congrArg Prod.fst hpoll
      rw [hafter, turn_poll (x.play before) htask hpoll]
      cases progress with
      | pending get => exact .refl
      | ended outcome => exact .single (.note rfl)
  rw [play_append]
  exact hturn.trans (moves_play _ after)

theorem Makes.due {registry : Registry} (built : registry.Built) {turns : List Turn} {p : Poll}
    (h : (start registry).Makes turns p) : p.Due := by
  obtain ⟨before, after, place, task, -, htask, hreaches⟩ := h
  have underway := underway_play built before
  exact hreaches.due ⟨underway.arises, underway.afoot task (List.mem_of_getElem? htask)⟩

/-- The task was started in those turns, and its get has come there from its request. -/
def Hails (x : Session) (turns : List Turn) (task : Task) : Prop :=
  ∃ (before after : List Turn) (request : Request) (loader : Loader task.type),
    turns = before ++ .start task.name task.type request loader :: after ∧ task.id = (x.play before).started ∧
      Get.Way (x.play before).system (.asking request loader) (x.play turns).system task.get

/-- In the next turn the task goes on. -/
theorem Hails.turn {x : Session} {turns : List Turn} {task : Task} (h : x.Hails turns task) (t : Turn)
    {get : Get task.type}
    (hgoes : ∀ {b : System} {first : Get task.type}, Get.Way b first (x.play turns).system task.get →
      Get.Way b first (x.play (turns ++ [t])).system get) : x.Hails (turns ++ [t]) { task with get } := by
  obtain ⟨before, after, request, loader, hturns, hid, way⟩ := h
  refine ⟨before, after ++ [t], request, loader, ?_, hid, hgoes way⟩
  rw [hturns, List.append_assoc, List.cons_append]

/-- A task that is not polled stays where it is. -/
theorem Hails.stay {x : Session} {turns : List Turn} {task : Task} (h : x.Hails turns task) (t : Turn) :
    x.Hails (turns ++ [t]) task := by
  refine h.turn t fun way => ?_
  rw [play_append]
  exact way.moves (moves_turn (x.play turns) t)

/-- Every live task of a session was started in it, and its get has come from its request to where it is. -/
theorem hails_play {registry : Registry} (built : registry.Built) (turns : List Turn) :
    ∀ task ∈ ((start registry).play turns).tasks, (start registry).Hails turns task := by
  induction turns using List.reverseRecOn with
  | nil => exact nofun
  | append_singleton turns t ih =>
    intro task htask
    have hplay : (start registry).play (turns ++ [t]) = ((start registry).play turns).turn t := play_append ..
    rw [hplay] at htask
    rcases mem_tasks_turn _ htask with hold | ⟨name, type, request, loader, rfl, rfl⟩ |
      ⟨place, polled, get, rfl, hplace, hpoll, rfl⟩
    · exact (ih task hold).stay t
    · exact ⟨turns, [], request, loader, rfl, rfl, hplay ▸ .refl⟩
    · refine (ih polled (List.mem_of_getElem? hplace)).turn (.poll place) fun way => ?_
      rw [hplay]
      exact way.poll (underway_play built turns).arises hpoll

end Session

end SingleFlight
