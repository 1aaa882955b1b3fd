import SingleFlight.Poll

/-!
# Sessions

A session is a system with callers: tasks that each run one get. To settle is to poll the live tasks in the order in
which they were started, in whole passes, until a pass ends no task. Time passes millisecond by millisecond, and the
session settles after each, as long as a task is live.
-/

namespace SingleFlight

/-- A caller with its get. -/
structure Task where
  id : Nat
  name : String
  type : ValueType
  get : Get type

structure Session where
  system : System
  /-- The live tasks in the order in which they were started. -/
  tasks : List Task
  /-- How many tasks were started. -/
  started : Nat

namespace System

/-- Polls a task once. A task that ends leaves its answer in the trace. -/
def pollTask (s : System) (task : Task) : System × Option Task :=
  match s.poll task.get with
  | (s, .pending get) => (s, some { task with get })
  | (s, .ended outcome) =>
    (s.emit (.answered task.name (outcome.mapValue fun v => v.map (·.val))), none)

/-- Polls the tasks in turn and keeps those that have not ended. -/
def pollEach (s : System) : List Task → System × List Task
  | [] => (s, [])
  | task :: rest =>
    match s.pollTask task with
    | (s, some task) =>
      let (s, rest) := s.pollEach rest
      (s, task :: rest)
    | (s, none) => s.pollEach rest

end System

namespace Session

def start (registry : Registry) : Session := ⟨.start registry, [], 0⟩

def mapSystem (x : Session) (f : System → System) : Session := { x with system := f x.system }

def pass (x : Session) : Session :=
  let (system, tasks) := x.system.pollEach x.tasks
  { x with system, tasks }

/-- At most `passes` passes, up to the first that ends no task. -/
def settleWithin (passes : Nat) (x : Session) : Session :=
  match passes with
  | 0 => x
  | passes + 1 =>
    let y := x.pass
    if y.tasks.length < x.tasks.length then settleWithin passes y else y

/-- Passes until one ends no task; every pass but the last ends one. -/
def settle (x : Session) : Session := x.settleWithin (x.tasks.length + 1)

/-- One millisecond. -/
def tick (x : Session) : Session := (x.mapSystem (·.elapse 1)).settle

/-- Passes `ms` milliseconds, the rest at once when no task is live. -/
def advance (x : Session) : (ms : Nat) → Session
  | 0 => x
  | ms + 1 => if x.tasks.isEmpty then x.mapSystem (·.elapse (ms + 1)) else x.tick.advance ms

/-- Starts a task. -/
def spawn (x : Session) (name : String) (request : Request) (loader : Loader τ) : Session :=
  { x with tasks := x.tasks ++ [Task.mk x.started name τ (.asking request loader)], started := x.started + 1 }.settle

/-- Passes time until the task has ended, at most `limit` milliseconds. -/
def await (x : Session) (id : Nat) : (limit : Nat) → Session
  | 0 => x
  | limit + 1 => if x.tasks.any (·.id == id) then x.tick.await id limit else x

/-- Drops the first live task of that name. Loads that it was waiting for stay. -/
def abort (x : Session) (name : String) : Session :=
  { x with tasks := x.tasks.eraseP (·.name == name) }.settle

/-- What is done in a session. -/
inductive Step where
  | start (task : String) (type : ValueType) (request : Request) (loader : Loader type)
  | get (task : String) (type : ValueType) (request : Request) (loader : Loader type) (limit : Nat)
  | advance (ms : Nat)
  | abort (task : String)
  /-- Through the registry. -/
  | invalidate (cache : String) (key : Except KeyFault Key)
  | invalidateAll (cache : String)
  /-- Through the cache itself. -/
  | invalidateIn (cache : String) (key : Except KeyFault Key)
  | invalidateAllIn (cache : String)
  | contains (cache : String) (key : Except KeyFault Key)
  | count (cache : String)
  | inspect (cache : String)

/-- What a step says by itself, apart from what it sets going. -/
inductive Reply where
  | nothing
  | done
  | flag (value : Bool)
  | number (value : Nat)
  | error (error : CacheFault)
  | cache (cache : Cache)

/-- The reply to an invalidation through the registry. -/
def replaceSystem (x : Session) : Except CacheFault System → Session × Reply
  | .ok system => ({ x with system }, .done)
  | .error e => (x, .error e)

/-- Asks the local store of a cache; nothing is said about a cache that is not there. -/
def askStore (x : Session) (name : String) (question : LocalStore → Reply) : Reply :=
  match x.system.registry.find? name with
  | none => .nothing
  | some cache =>
    match cache.requireStore with
    | .ok store => question store
    | .error e => .error e

def perform (x : Session) : Step → Session × Reply
  | .start task _ request loader => (x.spawn task request loader, .nothing)
  | .get task _ request loader limit => ((x.spawn task request loader).await x.started limit, .nothing)
  | .advance ms => (x.advance ms, .nothing)
  | .abort task => (x.abort task, .flag (x.tasks.any (·.name == task)))
  | .invalidate _ (.error fault) | .invalidateIn _ (.error fault) | .contains _ (.error fault) =>
    (x, .error (.invalidKey fault))
  | .invalidate cache (.ok key) => x.replaceSystem (x.system.invalidate cache key)
  | .invalidateAll cache => x.replaceSystem (x.system.invalidateAll cache)
  | .invalidateIn name (.ok key) =>
    match x.system.registry.find? name with
    | some cache => (x.mapSystem (·.invalidateIn cache key), .done)
    | none => (x, .nothing)
  | .invalidateAllIn name =>
    match x.system.registry.find? name with
    | some cache => (x.mapSystem (·.invalidateAllIn cache), .done)
    | none => (x, .nothing)
  | .contains name (.ok key) => (x, x.askStore name fun store => .flag (store.contains x.system.now key))
  | .count name =>
    let x := x.mapSystem (·.tend name)
    (x, x.askStore name fun store => .number store.size)
  | .inspect name =>
    let x := x.mapSystem (·.tend name)
    (x, match x.system.registry.find? name with | some cache => .cache cache | none => .nothing)

/-- What a step did. -/
structure Report where
  /-- The clock after the step. -/
  now : Nat
  reply : Reply
  /-- The events of the step. -/
  trace : Trace
  /-- The names of the live tasks. -/
  live : List String

/-- The events in `y` that are not yet in `x`, for a session `y` that goes on from `x`. -/
def eventsSince (x y : Session) : Trace :=
  (y.system.history.take (y.system.history.length - x.system.history.length)).reverse

def step (x : Session) (step : Step) : Session × Report :=
  let (y, reply) := x.perform step
  (y, ⟨y.system.now, reply, eventsSince x y, y.tasks.map (·.name)⟩)

/-- The steps in turn, with a report for each. -/
def run (x : Session) : List Step → Session × List Report
  | [] => (x, [])
  | s :: rest =>
    let (y, report) := x.step s
    let (z, reports) := y.run rest
    (z, report :: reports)

/-- The named cache keeps counters. -/
def counting (x : Session) (name : String) : Bool :=
  match x.system.registry.find? name with
  | some cache => cache.countsMetrics
  | none => false

end Session

end SingleFlight
