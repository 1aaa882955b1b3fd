import SingleFlight.Poll

/-!
# The rules of polling

A poll goes on by one of finitely many rules, each of which says from which polls of less depth it is put together. A
statement about polls that is kept by every rule holds of all polls (`Judgement.Kept.polls`), so what polls do is proved
rule by rule, without going through their definition again.
-/

namespace SingleFlight

/-- A statement about polls: of gets, of loaders, and of loads. -/
structure Judgement where
  get {τ : ValueType} (depth : Nat) (s : System) (get : Get τ) (t : System)
    (progress : Progress (Get τ) CacheFault (Option (Typed τ))) : Prop
  run {τ : ValueType} (depth : Nat) (s : System) (load : Option Nat) (run : Run τ) (t : System)
    (progress : Progress (Run τ) Failure (Option (Typed τ))) : Prop
  load (depth : Nat) (s : System) (id : Nat) (t : System) : Prop

/-- How long a get that asks waits for the load that it has joined. -/
def Request.patienceAt (request : Request) (now : Nat) (call : Call) (loader : Loader τ) : Option (Patience τ) :=
  if request.patience = .zero then none
  else some ⟨now + request.patience.millisRoundedUp, request.patience, call, loader⟩

namespace Judgement

/-- The rules of gets. The depth of what is polled last is one less than that of the poll. -/
structure KeptByGets (J : Judgement) : Prop where
  cut {τ : ValueType} (s : System) (get : Get τ) : J.get 0 s get s (.pending get)
  unkeyed {τ : ValueType} {depth : Nat} {s : System} {request : Request} {loader : Loader τ} {fault : KeyFault}
    (hkey : request.key = .error fault) :
    J.get (depth + 1) s (.asking request loader) s (.ended (.failed (.invalidKey fault)))
  refused {τ : ValueType} {depth : Nat} {s : System} {request : Request} {loader : Loader τ} {key : Key}
    {fault : CacheFault} (hkey : request.key = .ok key) (hreach : s.reach request = .error fault) :
    J.get (depth + 1) s (.asking request loader) s (.ended (.failed fault))
  passed {τ : ValueType} {depth : Nat} {s t : System} {request : Request} {loader : Loader τ} {key : Key}
    {name : String} {progress : Progress (Get τ) CacheFault (Option (Typed τ))} (hkey : request.key = .ok key)
    (hreach : s.reach request = .ok (.passThrough name))
    (h : J.get depth (s.emit (.passedThrough name key))
      (.loading name (.calling ⟨request.label, name, key⟩ loader)) t progress) :
    J.get (depth + 1) s (.asking request loader) t progress
  found {τ : ValueType} {depth : Nat} {s t : System} {request : Request} {loader : Loader τ} {key : Key}
    {store : LocalStore} {value : Stored Value} (hkey : request.key = .ok key)
    (hreach : s.reach request = .ok (.local store))
    (hlook : s.lookUp store ⟨request.label, store.name, key⟩ loader = (t, .stored value)) :
    J.get (depth + 1) s (.asking request loader) t (.ended (System.typed τ store.name value))
  started {τ : ValueType} {depth id : Nat} {s t u : System} {request : Request} {loader : Loader τ} {key : Key}
    {store : LocalStore} {progress : Progress (Get τ) CacheFault (Option (Typed τ))} (hkey : request.key = .ok key)
    (hreach : s.reach request = .ok (.local store))
    (hlook : s.lookUp store ⟨request.label, store.name, key⟩ loader = (t, .started id))
    (h : J.get depth t (.awaiting store.name key id none) u progress) :
    J.get (depth + 1) s (.asking request loader) u progress
  joined {τ : ValueType} {depth id : Nat} {s t u : System} {request : Request} {loader : Loader τ} {key : Key}
    {store : LocalStore} {progress : Progress (Get τ) CacheFault (Option (Typed τ))} (hkey : request.key = .ok key)
    (hreach : s.reach request = .ok (.local store))
    (hlook : s.lookUp store ⟨request.label, store.name, key⟩ loader = (t, .joined id))
    (h : J.get depth t
      (.awaiting store.name key id (request.patienceAt t.now ⟨request.label, store.name, key⟩ loader)) u progress) :
    J.get (depth + 1) s (.asking request loader) u progress
  told {τ : ValueType} {depth id : Nat} {s : System} {cache : String} {key : Key} {patience : Option (Patience τ)}
    {outcome : LoadResult} (h : J.load depth s id (System.advance depth s id))
    (houtcome : (System.advance depth s id).outcome? id = some outcome) :
    J.get (depth + 1) s (.awaiting cache key id patience) (System.advance depth s id)
      (.ended (System.typedResult τ cache outcome))
  waiting {τ : ValueType} {depth id : Nat} {s : System} {cache : String} {key : Key} {patience : Option (Patience τ)}
    (h : J.load depth s id (System.advance depth s id)) (houtcome : (System.advance depth s id).outcome? id = none)
    (hdue : ∀ p, patience = some p → ¬ p.due ≤ (System.advance depth s id).now) :
    J.get (depth + 1) s (.awaiting cache key id patience) (System.advance depth s id)
      (.pending (.awaiting cache key id patience))
  timedOut {τ : ValueType} {depth id : Nat} {s t : System} {cache : String} {key : Key} {p : Patience τ}
    {progress : Progress (Get τ) CacheFault (Option (Typed τ))} (h : J.load depth s id (System.advance depth s id))
    (houtcome : (System.advance depth s id).outcome? id = none) (hdue : p.due ≤ (System.advance depth s id).now)
    (hrest : J.get depth ((System.advance depth s id).emit (.lockTimedOut cache key id p.lockTimeout))
      (.loading cache (.calling p.call p.loader)) t progress) :
    J.get (depth + 1) s (.awaiting cache key id (some p)) t progress
  loading {τ : ValueType} {depth : Nat} {s t : System} {cache : String} {run rest : Run τ}
    (hpoll : Run.poll depth s none run = (t, .pending rest)) (h : J.run depth s none run t (.pending rest)) :
    J.get (depth + 1) s (.loading cache run) t (.pending (.loading cache rest))
  loaded {τ : ValueType} {depth : Nat} {s t : System} {cache : String} {run : Run τ}
    {outcome : Outcome Failure (Option (Typed τ))} (hpoll : Run.poll depth s none run = (t, .ended outcome))
    (h : J.run depth s none run t (.ended outcome)) :
    J.get (depth + 1) s (.loading cache run) t (.ended (outcome.mapError (.computation cache)))

/-- The rules of loaders. -/
structure KeptByRuns (J : Judgement) : Prop where
  cut {τ : ValueType} (s : System) (load : Option Nat) (run : Run τ) : J.run 0 s load run s (.pending run)
  calling {τ : ValueType} {depth : Nat} {s t : System} {load : Option Nat} {call : Call} {loader : Loader τ}
    {progress : Progress (Run τ) Failure (Option (Typed τ))}
    (h : J.run depth (s.emit (.called call load)) load (.running loader) t progress) :
    J.run (depth + 1) s load (.calling call loader) t progress
  awake {τ : ValueType} {depth due : Nat} {s t : System} {load : Option Nat} {loader : Loader τ}
    {progress : Progress (Run τ) Failure (Option (Typed τ))} (hdue : due ≤ s.now)
    (h : J.run depth s load (.running loader) t progress) : J.run (depth + 1) s load (.sleeping due loader) t progress
  asleep {τ : ValueType} {depth due : Nat} {s : System} {load : Option Nat} {loader : Loader τ} (hdue : ¬ due ≤ s.now) :
    J.run (depth + 1) s load (.sleeping due loader) s (.pending (.sleeping due loader))
  nesting {τ : ValueType} {depth : Nat} {s t : System} {load : Option Nat} {get rest : Get τ}
    (hpoll : Get.poll depth s get = (t, .pending rest)) (h : J.get depth s get t (.pending rest)) :
    J.run (depth + 1) s load (.nested get) t (.pending (.nested rest))
  nested {τ : ValueType} {depth : Nat} {s t : System} {load : Option Nat} {get : Get τ}
    {outcome : Outcome CacheFault (Option (Typed τ))} (hpoll : Get.poll depth s get = (t, .ended outcome))
    (h : J.get depth s get t (.ended outcome)) :
    J.run (depth + 1) s load (.nested get) t (.ended (outcome.mapError .error))
  done {τ : ValueType} (depth : Nat) (s : System) (load : Option Nat) (value : Option (Typed τ)) :
    J.run (depth + 1) s load (.running (.done value)) s (.ended (.value value))
  fail {τ : ValueType} (depth : Nat) (s : System) (load : Option Nat) (failure : Failure) :
    J.run (τ := τ) (depth + 1) s load (.running (.fail failure)) s (.ended (.failed failure))
  panic {τ : ValueType} (depth : Nat) (s : System) (load : Option Nat) (payload : Payload) :
    J.run (τ := τ) (depth + 1) s load (.running (.panic payload)) s (.ended (.panicked payload))
  sleep {τ : ValueType} {depth ms : Nat} {s t : System} {load : Option Nat} {next : Loader τ}
    {progress : Progress (Run τ) Failure (Option (Typed τ))}
    (h : J.run depth s load (.sleeping (s.now + ms) next) t progress) :
    J.run (depth + 1) s load (.running (.sleep ms next)) t progress
  invalidate {τ : ValueType} {depth : Nat} {s t u : System} {load : Option Nat} {cache : String} {key : Key}
    {next : Loader τ} {progress : Progress (Run τ) Failure (Option (Typed τ))} (hdone : s.invalidate cache key = .ok t)
    (h : J.run depth t load (.running next) u progress) :
    J.run (depth + 1) s load (.running (.invalidate cache key next)) u progress
  invalidateNone {τ : ValueType} {depth : Nat} {s : System} {load : Option Nat} {cache : String} {key : Key}
    {next : Loader τ} {fault : CacheFault} (hfault : s.invalidate cache key = .error fault) :
    J.run (depth + 1) s load (.running (.invalidate cache key next)) s (.ended (.failed (.error fault)))
  invalidateAll {τ : ValueType} {depth : Nat} {s t u : System} {load : Option Nat} {cache : String} {next : Loader τ}
    {progress : Progress (Run τ) Failure (Option (Typed τ))} (hdone : s.invalidateAll cache = .ok t)
    (h : J.run depth t load (.running next) u progress) :
    J.run (depth + 1) s load (.running (.invalidateAll cache next)) u progress
  invalidateAllNone {τ : ValueType} {depth : Nat} {s : System} {load : Option Nat} {cache : String} {next : Loader τ}
    {fault : CacheFault} (hfault : s.invalidateAll cache = .error fault) :
    J.run (depth + 1) s load (.running (.invalidateAll cache next)) s (.ended (.failed (.error fault)))
  get {τ : ValueType} {depth : Nat} {s t : System} {load : Option Nat} {request : Request} {inner : Loader τ}
    {progress : Progress (Run τ) Failure (Option (Typed τ))}
    (h : J.run depth s load (.nested (.asking request inner)) t progress) :
    J.run (depth + 1) s load (.running (.get request inner)) t progress

/-- The rules of loads. -/
structure KeptByLoads (J : Judgement) : Prop where
  cut (s : System) (id : Nat) : J.load 0 s id s
  still {depth id : Nat} {s : System}
    (hstill : ∀ cache key number τ run, s.load? id ≠ some ⟨cache, key, number, .idle τ run⟩) : J.load (depth + 1) s id s
  paused {τ : ValueType} {depth id number : Nat} {s t : System} {cache : String} {key : Key} {run rest : Run τ}
    (hload : s.load? id = some ⟨cache, key, number, .idle τ run⟩)
    (hpoll : Run.poll depth (s.setLoad id .busy) (some id) run = (t, .pending rest))
    (h : J.run depth (s.setLoad id .busy) (some id) run t (.pending rest)) :
    J.load (depth + 1) s id (t.setLoad id (.idle τ rest))
  landed {τ : ValueType} {depth id number : Nat} {s t : System} {cache : String} {key : Key} {run : Run τ}
    {outcome : Outcome Failure (Option (Typed τ))} (hload : s.load? id = some ⟨cache, key, number, .idle τ run⟩)
    (hpoll : Run.poll depth (s.setLoad id .busy) (some id) run = (t, .ended outcome))
    (h : J.run depth (s.setLoad id .busy) (some id) run t (.ended outcome)) :
    J.load (depth + 1) s id (t.land id cache key number (System.loadResult outcome))

/-- Every rule keeps the statement. -/
structure Kept (J : Judgement) : Prop where
  gets : J.KeptByGets
  runs : J.KeptByRuns
  loads : J.KeptByLoads

/-- The statement holds of all polls of that depth. -/
structure HoldsAt (J : Judgement) (depth : Nat) : Prop where
  get {τ : ValueType} (s : System) (get : Get τ) : J.get depth s get (Get.poll depth s get).1 (Get.poll depth s get).2
  run {τ : ValueType} (s : System) (load : Option Nat) (run : Run τ) :
    J.run depth s load run (Run.poll depth s load run).1 (Run.poll depth s load run).2
  load (s : System) (id : Nat) : J.load depth s id (System.advance depth s id)

private theorem holds_get {J : Judgement} (kept : J.KeptByGets) {depth : Nat} (below : J.HoldsAt depth) (s : System)
    (get : Get τ) : J.get (depth + 1) s get (Get.poll (depth + 1) s get).1 (Get.poll (depth + 1) s get).2 := by
  cases get with
  | asking request loader =>
    simp only [Get.poll]
    split
    next fault hkey => exact kept.unkeyed hkey
    next key hkey =>
      split
      next fault hreach => exact kept.refused hkey hreach
      next name hreach => exact kept.passed hkey hreach (below.get ..)
      next store hreach =>
        split
        next t value hlook => exact kept.found hkey hreach hlook
        next t id hlook => exact kept.started hkey hreach hlook (below.get ..)
        next t id hlook => exact kept.joined hkey hreach hlook (below.get ..)
  | awaiting cache key id patience =>
    simp only [Get.poll]
    split
    next outcome houtcome => exact kept.told (below.load s id) houtcome
    next houtcome =>
      split
      · exact kept.waiting (below.load s id) houtcome nofun
      next p =>
        split
        next hdue => exact kept.timedOut (below.load s id) houtcome hdue (below.get ..)
        next hdue =>
          refine kept.waiting (below.load s id) houtcome ?_
          rintro _ ⟨⟩
          exact hdue
  | loading cache run =>
    have hrun := below.run s none run
    simp only [Get.poll]
    split
    next t rest hpoll =>
      rw [hpoll] at hrun
      exact kept.loading hpoll hrun
    next t outcome hpoll =>
      rw [hpoll] at hrun
      exact kept.loaded hpoll hrun

private theorem holds_run {J : Judgement} (kept : J.KeptByRuns) {depth : Nat} (below : J.HoldsAt depth) (s : System)
    (load : Option Nat) (run : Run τ) :
    J.run (depth + 1) s load run (Run.poll (depth + 1) s load run).1 (Run.poll (depth + 1) s load run).2 := by
  cases run with
  | calling call loader => exact kept.calling (below.run ..)
  | sleeping due loader =>
    simp only [Run.poll]
    split
    next hdue => exact kept.awake hdue (below.run ..)
    next hdue => exact kept.asleep hdue
  | nested get =>
    have hget := below.get s get
    simp only [Run.poll]
    split
    next t rest hpoll =>
      rw [hpoll] at hget
      exact kept.nesting hpoll hget
    next t outcome hpoll =>
      rw [hpoll] at hget
      exact kept.nested hpoll hget
  | running loader =>
    cases loader with
    | done value => exact kept.done ..
    | fail failure => exact kept.fail ..
    | panic payload => exact kept.panic ..
    | sleep ms next => exact kept.sleep (below.run ..)
    | invalidate cache key next =>
      simp only [Run.poll]
      split
      next t hdone => exact kept.invalidate hdone (below.run ..)
      next fault hfault => exact kept.invalidateNone hfault
    | invalidateAll cache next =>
      simp only [Run.poll]
      split
      next t hdone => exact kept.invalidateAll hdone (below.run ..)
      next fault hfault => exact kept.invalidateAllNone hfault
    | get request inner => exact kept.get (below.run ..)

private theorem holds_load {J : Judgement} (kept : J.KeptByLoads) {depth : Nat} (below : J.HoldsAt depth) (s : System)
    (id : Nat) : J.load (depth + 1) s id (System.advance (depth + 1) s id) := by
  simp only [System.advance]
  split
  next cache key number τ run hload =>
    have hrun := below.run (s.setLoad id .busy) (some id) run
    split
    next t rest hpoll =>
      rw [hpoll] at hrun
      exact kept.paused hload hpoll hrun
    next t outcome hpoll =>
      rw [hpoll] at hrun
      exact kept.landed hload hpoll hrun
  next hstill => exact kept.still hstill

/-- **The rules of polling.** What every rule keeps holds of every poll. -/
theorem Kept.polls {J : Judgement} (kept : J.Kept) (depth : Nat) : J.HoldsAt depth := by
  induction depth with
  | zero => exact ⟨kept.gets.cut, kept.runs.cut, kept.loads.cut⟩
  | succ depth below => exact ⟨holds_get kept.gets below, holds_run kept.runs below, holds_load kept.loads below⟩

end Judgement

end SingleFlight
