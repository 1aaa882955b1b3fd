import SingleFlight.Proofs.Pending
import SingleFlight.Proofs.Unread

/-!
# A session in another guise

A guise replaces every request by another one and the flag of every cache by another one. A guise is apt if it keeps
what a request is for, how long one for a local store waits, and whether one for any other cache asks for a store.

* an apt guise commutes with every elementary step of a system, so with every poll (`Guise.polls`);
* so a session in another guise does the same in that guise, step by step (`Guise.run_session`).
-/

namespace SingleFlight

structure Guise where
  request : Request → Request
  /-- The flag of the named cache, in place of the one that it has. -/
  metrics : String → Option Bool → Option Bool

/-- What is left to do is replaced. -/
def Progress.mapRest (f : σ → σ') : Progress σ ε α → Progress σ' ε α
  | .pending rest => .pending (f rest)
  | .ended outcome => .ended outcome

/-- Where there is a local store does not change. -/
theorem System.sited_moves {s t : System} (moves : Moves s t) {stores : String → Bool} (h : s.registry.Sited stores) :
    t.registry.Sited stores := by
  induction moves with
  | refl => exact h
  | tail _ last ih => exact sited_move last ih

namespace Guise

variable (v : Guise)

/-! ### What a guise makes of everything -/

def loader : Loader τ → Loader τ
  | .done value => .done value
  | .fail failure => .fail failure
  | .panic payload => .panic payload
  | .sleep ms next => .sleep ms (loader next)
  | .invalidate cache key next => .invalidate cache key (loader next)
  | .invalidateAll cache next => .invalidateAll cache (loader next)
  | .get request inner => .get (v.request request) (loader inner)

def patience (p : Patience τ) : Patience τ := { p with loader := v.loader p.loader }

mutual
def get : Get τ → Get τ
  | .asking request loader => .asking (v.request request) (v.loader loader)
  | .awaiting cache key id p => .awaiting cache key id (p.map v.patience)
  | .loading cache left => .loading cache (run left)

def run : Run τ → Run τ
  | .calling call loader => .calling call (v.loader loader)
  | .running loader => .running (v.loader loader)
  | .sleeping due loader => .sleeping due (v.loader loader)
  | .nested inner => .nested (get inner)
end

def state : LoadState → LoadState
  | .idle τ run => .idle τ (v.run run)
  | .busy => .busy
  | .ended outcome => .ended outcome

def load (load : Load) : Load := { load with state := v.state load.state }

def store (store : LocalStore) : LocalStore :=
  { store with tuning := { store.tuning with metricsEnabled := v.metrics store.name store.tuning.metricsEnabled } }

def cache (cache : Cache) : Cache := cache.mapStore v.store

def registry (registry : Registry) : Registry := ⟨registry.caches.map v.cache⟩

def system (s : System) : System := { s with registry := v.registry s.registry, loads := s.loads.map v.load }

/-- The guise keeps what matters, in a registry with those local stores. -/
structure Apt (stores : String → Bool) : Prop where
  label (request : Request) : (v.request request).label = request.label
  cache (request : Request) : (v.request request).cache = request.cache
  key (request : Request) : (v.request request).key = request.key
  patience {request : Request} (h : stores request.cache = true) : (v.request request).patience = request.patience
  needsStore {request : Request} (h : stores request.cache = false) :
    (v.request request).entryPoint.needsStore = request.entryPoint.needsStore

/-! ### Stores -/

section
variable (store : LocalStore) (now : Nat)

theorem noteLook_store (look : Look) : (v.store store).noteLook now look = v.store (store.noteLook now look) := by
  show (let st := if store.upkeep.due now store.upkeep.looks.length then v.store (store.tend now []) else v.store store
    { st with upkeep := st.upkeep.noteLook look }) = _
  unfold LocalStore.noteLook
  split
  · rfl
  · rfl

theorem noteChange_store (change : Change) :
    (v.store store).noteChange now change = v.store (store.noteChange now change) := by
  show (let st := if store.upkeep.due now store.upkeep.changes.length then v.store (store.tend now [change])
      else v.store store
    { st with upkeep := st.upkeep.noteChange change }) = _
  unfold LocalStore.noteChange
  split
  · rfl
  · rfl

theorem touch_store (key : Key) : v.store (store.touch now key) = (v.store store).touch now key :=
  (v.noteLook_store _ now _).symm

theorem miss_store (key : Key) : v.store (store.miss now key) = (v.store store).miss now key :=
  (v.noteLook_store store now _).symm

theorem put_store (key : Key) (value : Stored Value) :
    v.store (store.put now key value) = (v.store store).put now key value := by
  unfold LocalStore.put
  split
  next h => exact (if_pos h).symm
  next h => exact (v.noteChange_store _ now _).symm.trans (if_neg h).symm

theorem launch_store (key : Key) (load : Nat) :
    v.store (store.launch now key load) = (v.store store).launch now key load := by
  unfold LocalStore.launch
  rw [← miss_store, ← miss_store]
  rfl

theorem invalidate_store (key : Key) : v.store (store.invalidate now key) = (v.store store).invalidate now key := by
  unfold LocalStore.invalidate
  dsimp only
  split
  next h => exact (v.noteChange_store _ now _).symm.trans (if_pos h).symm
  next h => exact (if_neg h).symm

theorem conclude_store (key : Key) (outcome : LoadResult) :
    v.store (System.conclude now key outcome store) = System.conclude now key outcome (v.store store) := by
  cases outcome with
  | error failure => rfl
  | ok value =>
    show _ = ((v.store store).put now key value).land key
    rw [← put_store]
    rfl

end

/-! ### Systems -/

section
variable (s : System)

theorem find?_registry (registry : Registry) (name : String) :
    (v.registry registry).find? name = (registry.find? name).map v.cache :=
  Dictionary.find?_map ..

theorem require_registry (registry : Registry) (name : String) :
    (v.registry registry).require name = v.cache <$> registry.require name := by
  rw [Registry.require, find?_registry, Registry.require]
  cases registry.find? name <;> rfl

@[simp] theorem now_system : (v.system s).now = s.now := rfl

@[simp] theorem history_system : (v.system s).history = s.history := rfl

@[simp] theorem registry_system : (v.system s).registry = v.registry s.registry := rfl

@[simp] theorem length_loads_system : (v.system s).loads.length = s.loads.length := List.length_map ..

@[simp] theorem load?_system (id : Nat) : (v.system s).load? id = (s.load? id).map v.load := List.getElem?_map ..

theorem emit_system (event : Event) : (v.system s).emit event = v.system (s.emit event) := rfl

theorem store?_system (name : String) : (v.system s).store? name = (s.store? name).map v.store := by
  rw [System.store?, registry_system, find?_registry, System.store?]
  cases s.registry.find? name with
  | none => rfl
  | some cache => exact Cache.store?_mapStore v.store cache

theorem setLoad_system (id : Nat) (state : LoadState) :
    (v.system s).setLoad id (v.state state) = v.system (s.setLoad id state) := by
  have hloads : (s.loads.map v.load).modify id (fun load => { load with state := v.state state }) =
      (s.loads.modify id fun load => { load with state }).map v.load := by
    apply List.ext_getElem?
    intro i
    rw [List.getElem?_modify, List.getElem?_map, List.getElem?_map, List.getElem?_modify]
    cases s.loads[i]? with
    | none => rfl
    | some load =>
      by_cases hi : id = i
      · simp [hi, Guise.load]
      · simp [hi]
  exact congrArg (fun loads => { v.system s with loads }) hloads

/-- What commutes with the guise does so within a system. -/
theorem mapStore_system (name : String) (f : LocalStore → LocalStore)
    (hf : ∀ store, v.store (f store) = f (v.store store)) :
    (v.system s).mapStore name f = v.system (s.mapStore name f) := by
  have hcache (cache : Cache) : (v.cache cache).mapStore f = v.cache (cache.mapStore f) := by
    match cache with
    | .local store => exact congrArg Cache.local (hf store).symm
    | .passThrough _ => rfl
  exact congrArg (fun caches => { v.system s with registry := ⟨caches⟩ })
    (Dictionary.modify_map s.registry.caches hcache name)

theorem outcome?_system (id : Nat) : (v.system s).outcome? id = s.outcome? id := by
  rw [System.outcome?, load?_system, System.outcome?]
  cases s.load? id with
  | none => rfl
  | some load =>
    obtain ⟨cache, key, number, state⟩ := load
    cases state <;> rfl

theorem inFlight_system (cache : String) (key : Key) (number : Nat) :
    (v.system s).inFlight cache key number = s.inFlight cache key number := by
  rw [System.inFlight, store?_system, System.inFlight]
  cases s.store? cache <;> rfl

theorem land_system (id : Nat) (cache : String) (key : Key) (number : Nat) (outcome : LoadResult) :
    (v.system s).land id cache key number outcome = v.system (s.land id cache key number outcome) := by
  cases hin : s.inFlight cache key number with
  | true =>
    have hstore := v.mapStore_system s cache (System.conclude s.now key outcome)
      fun store => v.conclude_store store s.now key outcome
    rw [System.land_of_kept hin, System.land_of_kept ((v.inFlight_system s cache key number).trans hin),
      ← emit_system, ← setLoad_system, ← hstore]
    rfl
  | false =>
    rw [System.land_of_detached hin, System.land_of_detached ((v.inFlight_system s cache key number).trans hin),
      ← emit_system, ← setLoad_system]
    rfl

theorem launch_system (store : LocalStore) (call : Call) (loader : Loader τ) :
    (v.system s).launch (v.store store) call (v.loader loader) = v.system (s.launch store call loader) := by
  have hstore := v.mapStore_system s store.name (·.launch s.now call.key s.loads.length)
    fun st => v.launch_store st s.now call.key s.loads.length
  have hname : (v.store store).name = store.name := rfl
  have hnext : (v.store store).nextLoad = store.nextLoad := rfl
  simp only [System.launch, now_system, length_loads_system, hname, hnext, hstore]
  simp only [system, List.map_append]
  rfl

theorem lookUp_system (store : LocalStore) (call : Call) (loader : Loader τ) :
    (v.system s).lookUp (v.store store) call (v.loader loader) =
      (v.system (s.lookUp store call loader).1, (s.lookUp store call loader).2) := by
  have hpeek : (v.store store).peek s.now call.key = store.peek s.now call.key := rfl
  have htouch := v.mapStore_system s store.name (·.touch s.now call.key) fun st => v.touch_store st s.now call.key
  have hmiss := v.mapStore_system s store.name (·.miss s.now call.key) fun st => v.miss_store st s.now call.key
  have hlaunch := v.launch_system s store call loader
  have hflight : (v.store store).inFlight = store.inFlight := rfl
  have hname : (v.store store).name = store.name := rfl
  simp only [System.lookUp, now_system, length_loads_system, hpeek, hflight, hname, htouch, hmiss, hlaunch]
  split
  · rfl
  · split
    · rfl
    · rfl

theorem lookUp_of_eq {s t : System} {store : LocalStore} {call : Call} {loader : Loader τ} {found : Found}
    (h : s.lookUp store call loader = (t, found)) :
    (v.system s).lookUp (v.store store) call (v.loader loader) = (v.system t, found) := by
  rw [lookUp_system, h]

theorem invalidateIn_system (cache : Cache) (key : Key) :
    (v.system s).invalidateIn (v.cache cache) key = v.system (s.invalidateIn cache key) := by
  match cache with
  | .local store =>
    exact congrArg (·.emit (.invalidated store.name key))
      (v.mapStore_system s store.name (·.invalidate s.now key) fun st => v.invalidate_store st s.now key)
  | .passThrough _ => rfl

theorem invalidateAllIn_system (cache : Cache) :
    (v.system s).invalidateAllIn (v.cache cache) = v.system (s.invalidateAllIn cache) := by
  match cache with
  | .local store =>
    exact congrArg (·.emit (.allInvalidated store.name))
      (v.mapStore_system s store.name (·.invalidateAll) fun _ => rfl)
  | .passThrough _ => rfl

theorem invalidate_system (cache : String) (key : Key) :
    (v.system s).invalidate cache key = v.system <$> s.invalidate cache key := by
  simp only [System.invalidate, registry_system, require_registry]
  cases s.registry.require cache with
  | error fault => rfl
  | ok reached => exact congrArg Except.ok (v.invalidateIn_system s reached key)

theorem invalidateAll_system (cache : String) :
    (v.system s).invalidateAll cache = v.system <$> s.invalidateAll cache := by
  simp only [System.invalidateAll, registry_system, require_registry]
  cases s.registry.require cache with
  | error fault => rfl
  | ok reached => exact congrArg Except.ok (v.invalidateAllIn_system s reached)

theorem tend_system (name : String) : (v.system s).tend name = v.system (s.tend name) :=
  v.mapStore_system s name (·.tend s.now []) fun _ => rfl

end

/-- In an apt guise a request reaches the same cache. -/
theorem Apt.reach {v : Guise} {stores : String → Bool} (apt : v.Apt stores) {s : System}
    (sited : s.registry.Sited stores) (request : Request) :
    (v.system s).reach (v.request request) = v.cache <$> s.reach request := by
  simp only [System.reach, registry_system, require_registry, apt.cache]
  cases hrequire : s.registry.require request.cache with
  | error fault => rfl
  | ok cache =>
    match cache with
    | .local store => cases request.entryPoint.needsStore <;> cases (v.request request).entryPoint.needsStore <;> rfl
    | .passThrough name =>
      have hstores : stores request.cache = false := by
        rw [← sited.2, System.find?_of_require hrequire]
        rfl
      show (if (v.request request).entryPoint.needsStore then _ else _) = _
      rw [apt.needsStore hstores]
      cases request.entryPoint.needsStore <;> rfl

theorem Apt.reach_ok {v : Guise} {stores : String → Bool} (apt : v.Apt stores) {s : System}
    (sited : s.registry.Sited stores) {request : Request} {cache : Cache} (h : s.reach request = .ok cache) :
    (v.system s).reach (v.request request) = .ok (v.cache cache) := by
  rw [apt.reach sited, h]
  rfl

/-! ### Sizes -/

@[simp]
theorem size_loader (loader : Loader τ) : (v.loader loader).size = loader.size := by
  induction loader with
  | done _ | fail _ | panic _ => rfl
  | sleep _ _ ih | invalidate _ _ _ ih | invalidateAll _ _ ih | get _ _ ih => simp only [Guise.loader, Loader.size, ih]

mutual
@[simp]
theorem size_get : (get : Get τ) → (v.get get).size = get.size
  | .asking _ loader => congrArg (· + 5) (v.size_loader loader)
  | .awaiting _ _ _ none => rfl
  | .awaiting _ _ _ (some p) => congrArg (· + 4) (v.size_loader p.loader)
  | .loading _ run => congrArg (· + 1) (size_run run)

@[simp]
theorem size_run : (run : Run τ) → (v.run run).size = run.size
  | .calling _ loader => congrArg (· + 2) (v.size_loader loader)
  | .running loader => congrArg (· + 1) (v.size_loader loader)
  | .sleeping _ loader => congrArg (· + 2) (v.size_loader loader)
  | .nested get => congrArg (· + 1) (size_get get)
end

@[simp]
theorem work_system (s : System) : (v.system s).work = s.work := by
  have hload (load : Load) : (v.load load).size = load.size := by
    obtain ⟨cache, key, number, state⟩ := load
    cases state with
    | idle τ run => exact v.size_run run
    | busy | ended outcome => rfl
  simp only [System.work, system, List.foldr_map, hload]

/-! ### Polls -/

section
variable {v : Guise} {stores : String → Bool}

theorem patienceAt_request {request : Request} (h : (v.request request).patience = request.patience) (now : Nat)
    (call : Call) (loader : Loader τ) : (v.request request).patienceAt now call (v.loader loader) =
      (request.patienceAt now call loader).map v.patience := by
  simp only [Request.patienceAt, h]
  split
  · rfl
  · rfl

/-- The poll comes to the same in the other guise. -/
private def polledIn (v : Guise) (stores : String → Bool) : Judgement where
  get depth s get t progress := s.registry.Sited stores →
    Get.poll depth (v.system s) (v.get get) = (v.system t, progress.mapRest v.get)
  run depth s load run t progress := s.registry.Sited stores →
    Run.poll depth (v.system s) load (v.run run) = (v.system t, progress.mapRest v.run)
  load depth s id t := s.registry.Sited stores → System.advance depth (v.system s) id = v.system t

private theorem polledIn_gets (apt : v.Apt stores) : (polledIn v stores).KeptByGets where
  cut s get _ := rfl
  unkeyed {τ depth s request loader fault} hkey sited := by
    simp only [Guise.get, Get.poll, apt.key, hkey]
    rfl
  refused {τ depth s request loader key fault} hkey hreach sited := by
    simp only [Guise.get, Get.poll, apt.key, hkey, apt.reach sited, hreach]
    rfl
  passed {τ depth s t request loader key name progress} hkey hreach h sited := by
    have hreach' : (v.system s).reach (v.request request) = .ok (.passThrough name) := apt.reach_ok sited hreach
    have hrest := h sited
    simp only [Guise.get, Get.poll, apt.key, hkey, hreach', apt.label]
    exact hrest
  found {τ depth s t request loader key store value} hkey hreach hlook sited := by
    have hreach' : (v.system s).reach (v.request request) = .ok (.local (v.store store)) := apt.reach_ok sited hreach
    have hlook' := v.lookUp_of_eq hlook
    have hname : (v.store store).name = store.name := rfl
    simp only [Guise.get, Get.poll, apt.key, hkey, hreach', apt.label, hname, hlook']
    rfl
  started {τ depth id s t u request loader key store progress} hkey hreach hlook h sited := by
    have hreach' : (v.system s).reach (v.request request) = .ok (.local (v.store store)) := apt.reach_ok sited hreach
    have hlook' := v.lookUp_of_eq hlook
    have hname : (v.store store).name = store.name := rfl
    have hrest := h (System.sited_move (System.move_of_lookUp hreach hlook) sited)
    simp only [Guise.get, Get.poll, apt.key, hkey, hreach', apt.label, hname, hlook']
    exact hrest
  joined {τ depth id s t u request loader key store progress} hkey hreach hlook h sited := by
    have hreach' : (v.system s).reach (v.request request) = .ok (.local (v.store store)) := apt.reach_ok sited hreach
    have hlook' := v.lookUp_of_eq hlook
    have hname : (v.store store).name = store.name := rfl
    have hrest := h (System.sited_move (System.move_of_lookUp hreach hlook) sited)
    have hpatience := patienceAt_request (apt.patience (System.stores_of_reach sited hreach).1) t.now
      ⟨request.label, store.name, key⟩ loader
    simp only [Guise.get, ← hpatience] at hrest
    simp only [Guise.get, Get.poll, apt.key, hkey, hreach', apt.label, hname, hlook']
    exact hrest
  told {τ depth id s cache key patience outcome} h houtcome sited := by
    simp only [Guise.get, Get.poll, h sited, outcome?_system, houtcome]
    rfl
  waiting {τ depth id s cache key patience} h houtcome hdue sited := by
    simp only [Guise.get, Get.poll, h sited, outcome?_system, houtcome, now_system]
    cases patience with
    | none => rfl
    | some p => exact if_neg (hdue p rfl)
  timedOut {τ depth id s t cache key p progress} h houtcome hdue hrest sited := by
    have hsited := System.sited_moves (System.polled_advance depth s id).moves sited
    simp only [Guise.get, Get.poll, h sited, outcome?_system, houtcome, now_system]
    exact (if_pos hdue).trans (hrest hsited)
  loading {τ depth s t cache run rest} hpoll h sited := by
    simp only [Guise.get, Get.poll, h sited]
    rfl
  loaded {τ depth s t cache run outcome} hpoll h sited := by
    simp only [Guise.get, Get.poll, h sited]
    rfl

private theorem polledIn_runs : (polledIn v stores).KeptByRuns where
  cut s load run _ := rfl
  calling h sited := h sited
  awake {τ depth due s t load loader progress} hdue h sited := (if_pos hdue).trans (h sited)
  asleep {τ depth due s load loader} hdue sited := if_neg hdue
  nesting {τ depth s t load get rest} hpoll h sited := by
    simp only [Guise.run, Run.poll, h sited]
    rfl
  nested {τ depth s t load get outcome} hpoll h sited := by
    simp only [Guise.run, Run.poll, h sited]
    rfl
  done depth s load value _ := rfl
  fail depth s load failure _ := rfl
  panic depth s load payload _ := rfl
  sleep h sited := h sited
  invalidate {τ depth s t u load cache key next progress} hdone h sited := by
    have hrest := h (System.sited_moves (System.polled_invalidate hdone).moves sited)
    simp only [Guise.run, Guise.loader, Run.poll, invalidate_system, hdone]
    exact hrest
  invalidateNone {τ depth s load cache key next fault} hfault sited := by
    simp only [Guise.run, Guise.loader, Run.poll, invalidate_system, hfault]
    rfl
  invalidateAll {τ depth s t u load cache next progress} hdone h sited := by
    have hrest := h (System.sited_moves (System.polled_invalidateAll hdone).moves sited)
    simp only [Guise.run, Guise.loader, Run.poll, invalidateAll_system, hdone]
    exact hrest
  invalidateAllNone {τ depth s load cache next fault} hfault sited := by
    simp only [Guise.run, Guise.loader, Run.poll, invalidateAll_system, hfault]
    rfl
  get h sited := h sited

private theorem polledIn_loads : (polledIn v stores).KeptByLoads where
  cut s id _ := rfl
  still {depth id s} hstill sited := by
    simp only [System.advance, load?_system]
    cases hload : s.load? id with
    | none => rfl
    | some load =>
      obtain ⟨cache, key, number, state⟩ := load
      cases state with
      | idle τ run => exact absurd hload (hstill cache key number τ run)
      | busy => rfl
      | ended outcome => rfl
  paused {τ depth id number s t cache key run rest} hload hpoll h sited := by
    have hrun : Run.poll depth ((v.system s).setLoad id .busy) (some id) (v.run run) =
        (v.system t, .pending (v.run rest)) :=
      (v.setLoad_system s id .busy).symm ▸ h sited
    simp only [System.advance, load?_system, hload, Option.map_some, Guise.load, Guise.state, hrun]
    exact v.setLoad_system t id (.idle τ rest)
  landed {τ depth id number s t cache key run outcome} hload hpoll h sited := by
    have hrun : Run.poll depth ((v.system s).setLoad id .busy) (some id) (v.run run) =
        (v.system t, .ended outcome) :=
      (v.setLoad_system s id .busy).symm ▸ h sited
    simp only [System.advance, load?_system, hload, Option.map_some, Guise.load, Guise.state, hrun]
    exact v.land_system t id cache key number (System.loadResult outcome)

/-- A poll comes to the same in an apt guise. -/
theorem poll_system (apt : v.Apt stores) {s : System} (sited : s.registry.Sited stores) (get : Get τ) :
    (v.system s).poll (v.get get) = (v.system (s.poll get).1, (s.poll get).2.mapRest v.get) := by
  have hkept := Judgement.Kept.polls ⟨polledIn_gets apt, polledIn_runs, polledIn_loads⟩ (s.work + get.size)
  rw [System.poll, work_system, size_get]
  exact hkept.get s get sited

end

/-! ### Sessions -/

open Session (Step Reply Report)

def task (task : Task) : Task := { task with get := v.get task.get }

def session (x : Session) : Session := { x with system := v.system x.system, tasks := x.tasks.map v.task }

def step : Step → Step
  | .start name type request loader => .start name type (v.request request) (v.loader loader)
  | .get name type request loader limit => .get name type (v.request request) (v.loader loader) limit
  | other => other

/-- A cache that is shown is shown in the guise. -/
def reply : Reply → Reply
  | .cache cache => .cache (v.cache cache)
  | other => other

def report (report : Report) : Report := { report with reply := v.reply report.reply }

section
variable {v : Guise} {stores : String → Bool} (apt : v.Apt stores)
include apt

theorem pollTask_system {s : System} (sited : s.registry.Sited stores) (task : Task) :
    (v.system s).pollTask (v.task task) = (v.system (s.pollTask task).1, (s.pollTask task).2.map v.task) := by
  have hpoll := poll_system apt sited task.get
  simp only [System.pollTask]
  cases h : s.poll task.get with
  | mk t progress =>
    rw [h] at hpoll
    cases progress with
    | pending rest =>
      simp only [Guise.task, hpoll]
      rfl
    | ended outcome =>
      simp only [Guise.task, hpoll]
      rfl

theorem pollEach_system {s : System} (sited : s.registry.Sited stores) (tasks : List Task) :
    (v.system s).pollEach (tasks.map v.task) = (v.system (s.pollEach tasks).1, (s.pollEach tasks).2.map v.task) := by
  induction tasks generalizing s with
  | nil => rfl
  | cons task rest ih =>
    have hpoll := pollTask_system apt sited task
    have hsited := System.sited_moves (Session.moves_pollTask s task) sited
    simp only [List.map_cons, System.pollEach]
    cases h : s.pollTask task with
    | mk t left =>
      rw [h] at hpoll hsited
      cases left with
      | none => simp only [hpoll, Option.map_none, ih hsited]
      | some left => simp only [hpoll, Option.map_some, ih hsited, List.map_cons]

variable {x : Session} (sited : x.system.registry.Sited stores)
include sited

theorem pass_session : (v.session x).pass = v.session x.pass := by
  simp only [Session.pass, session, pollEach_system apt sited]

omit apt in
/-- A schedule adds no local store and takes none away. -/
theorem sited_playsBy {y : Session} (h : Session.PlaysBy (fun _ => True) x y) : y.system.registry.Sited stores := by
  obtain ⟨turns, -, rfl⟩ := h
  exact System.sited_moves (Session.moves_play x turns) sited

theorem settleWithin_session (passes : Nat) :
    (v.session x).settleWithin passes = v.session (x.settleWithin passes) := by
  induction passes generalizing x with
  | zero => rfl
  | succ passes ih =>
    have hpass := ih (sited_playsBy sited (Session.playsBy_pass (fun _ _ => trivial) x))
    have hleft : (v.session x.pass).tasks.length = x.pass.tasks.length := List.length_map ..
    have hlive : (v.session x).tasks.length = x.tasks.length := List.length_map ..
    simp only [Session.settleWithin, pass_session apt sited, hleft, hlive, hpass]
    split
    · rfl
    · rfl

theorem settle_session : (v.session x).settle = v.session x.settle := by
  have hlive : (v.session x).tasks.length = x.tasks.length := List.length_map ..
  rw [Session.settle, hlive, settleWithin_session apt sited, Session.settle]

theorem tick_session : (v.session x).tick = v.session x.tick :=
  settle_session (x := x.mapSystem (·.elapse 1)) apt sited

theorem advance_session (ms : Nat) : (v.session x).advance ms = v.session (x.advance ms) := by
  induction ms generalizing x with
  | zero => rfl
  | succ ms ih =>
    have hrest := ih (sited_playsBy sited (Session.playsBy_tick (fun _ _ => trivial) x))
    have hempty : (v.session x).tasks.isEmpty = x.tasks.isEmpty := List.isEmpty_map
    simp only [Session.advance, hempty, tick_session apt sited, hrest]
    split
    · rfl
    · rfl

theorem spawn_session (name : String) (request : Request) (loader : Loader τ) :
    (v.session x).spawn name (v.request request) (v.loader loader) = v.session (x.spawn name request loader) := by
  have hstarted := settle_session (x := { x with
    tasks := x.tasks ++ [⟨x.started, name, τ, .asking request loader⟩], started := x.started + 1 }) apt sited
  refine Eq.trans (congrArg Session.settle ?_) hstarted
  simp only [Guise.session, List.map_append]
  rfl

theorem await_session (id limit : Nat) : (v.session x).await id limit = v.session (x.await id limit) := by
  induction limit generalizing x with
  | zero => rfl
  | succ limit ih =>
    have hrest := ih (sited_playsBy sited (Session.playsBy_tick (fun _ _ => trivial) x))
    have hlive : (v.session x).tasks.any (·.id == id) = x.tasks.any (·.id == id) := List.any_map
    simp only [Session.await, hlive, tick_session apt sited, hrest]
    split
    · rfl
    · rfl

theorem abort_session (name : String) : (v.session x).abort name = v.session (x.abort name) := by
  have hdropped := settle_session (x := { x with tasks := x.tasks.eraseP (·.name == name) }) apt sited
  refine Eq.trans (congrArg Session.settle ?_) hdropped
  simp only [Guise.session, List.eraseP_map]
  rfl

omit apt sited in
theorem replaceSystem_session {y y' : Except CacheFault System} (h : y' = v.system <$> y) :
    (v.session x).replaceSystem y' = (v.session (x.replaceSystem y).1, v.reply (x.replaceSystem y).2) := by
  subst h
  cases y <;> rfl

omit apt sited in
theorem askStore_session (name : String) {question : LocalStore → Reply}
    (h : ∀ store, question (v.store store) = v.reply (question store)) :
    (v.session x).askStore name question = v.reply (x.askStore name question) := by
  have hfind := v.find?_registry x.system.registry name
  simp only [Session.askStore]
  rw [show (v.session x).system.registry.find? name = _ from hfind]
  match x.system.registry.find? name with
  | none => rfl
  | some (.passThrough _) => rfl
  | some (.local store) => exact h store

/-- A step does the same in an apt guise. -/
theorem perform_session (step : Step) :
    (v.session x).perform (v.step step) = (v.session (x.perform step).1, v.reply (x.perform step).2) := by
  have hfind (name : String) : (v.session x).system.registry.find? name = (x.system.registry.find? name).map v.cache :=
    v.find?_registry x.system.registry name
  cases step with
  | start name type request loader => exact congrArg (·, Reply.nothing) (spawn_session apt sited name request loader)
  | get name type request loader limit =>
    have hspawned : Session.PlaysBy (fun _ => True) x (x.spawn name request loader) :=
      Session.playsBy_spawn (fun _ _ => trivial) x trivial
    have hawaited := await_session apt (sited_playsBy sited hspawned) x.started limit
    rw [← spawn_session apt sited] at hawaited
    exact congrArg (·, Reply.nothing) hawaited
  | advance ms => exact congrArg (·, Reply.nothing) (advance_session apt sited ms)
  | abort name =>
    have hlive : (v.session x).tasks.any (·.name == name) = x.tasks.any (·.name == name) := List.any_map
    simp only [Guise.step, Session.perform, abort_session apt sited, hlive]
    rfl
  | invalidate name key =>
    cases key with
    | error fault => rfl
    | ok key => exact replaceSystem_session (v.invalidate_system x.system name key)
  | invalidateAll name => exact replaceSystem_session (v.invalidateAll_system x.system name)
  | invalidateIn name key =>
    cases key with
    | error fault => rfl
    | ok key =>
      simp only [Guise.step, Session.perform, hfind]
      cases x.system.registry.find? name with
      | none => rfl
      | some cache =>
        have hdone := v.invalidateIn_system x.system cache key
        exact congrArg (fun system => ({ v.session x with system }, Reply.done)) hdone
  | invalidateAllIn name =>
    simp only [Guise.step, Session.perform, hfind]
    cases x.system.registry.find? name with
    | none => rfl
    | some cache =>
      have hdone := v.invalidateAllIn_system x.system cache
      exact congrArg (fun system => ({ v.session x with system }, Reply.done)) hdone
  | contains name key =>
    cases key with
    | error fault => rfl
    | ok key => exact congrArg (v.session x, ·) (askStore_session name fun _ => rfl)
  | count name =>
    have htended : (v.session x).mapSystem (·.tend name) = v.session (x.mapSystem (·.tend name)) :=
      congrArg (fun system => { v.session x with system }) (v.tend_system x.system name)
    simp only [Guise.step, Session.perform, htended]
    exact congrArg _ (askStore_session name fun _ => rfl)
  | inspect name =>
    have htended : (v.session x).mapSystem (·.tend name) = v.session (x.mapSystem (·.tend name)) :=
      congrArg (fun system => { v.session x with system }) (v.tend_system x.system name)
    have hshown := v.find?_registry (x.mapSystem (·.tend name)).system.registry name
    simp only [Guise.step, Session.perform, htended]
    rw [show (v.session (x.mapSystem (·.tend name))).system.registry.find? name = _ from hshown]
    cases (x.mapSystem (·.tend name)).system.registry.find? name <;> rfl

theorem step_session (step : Step) :
    (v.session x).step (v.step step) = (v.session (x.step step).1, v.report (x.step step).2) := by
  have hlive (y : Session) : (v.session y).tasks.map (·.name) = y.tasks.map (·.name) := by
    simp only [Guise.session, List.map_map]
    rfl
  simp only [Session.step, perform_session apt sited, hlive]
  rfl

/-- **A session in another guise does the same in that guise**, step by step. -/
theorem run_session (steps : List Step) :
    (v.session x).run (steps.map v.step) = (v.session (x.run steps).1, (x.run steps).2.map v.report) := by
  induction steps generalizing x with
  | nil => rfl
  | cons step steps ih =>
    have hstarts : step.StartsOnly fun _ => True := by cases step <;> trivial
    have hplays : Session.PlaysBy (fun _ => True) x (x.step step).1 :=
      Session.playsBy_perform (fun _ _ => trivial) x hstarts
    simp only [List.map_cons, Session.run, step_session apt sited, ih (sited_playsBy sited hplays)]

end

end Guise

end SingleFlight
