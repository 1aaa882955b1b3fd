import SingleFlight.Loader
import SingleFlight.Log
import SingleFlight.Metric
import SingleFlight.Stored

/-!
# Events

A run leaves a trace of events. Log lines, counters, loader calls and results of gets are views of the trace: each
event has at most one notice and counts at most once.
-/

namespace SingleFlight

/-- How a get or a loader ends. -/
inductive Outcome (ε : Type) (α : Type) where
  | value (a : α)
  | failed (e : ε)
  | panicked (payload : Payload)

namespace Outcome

def mapError (f : ε → ε') : Outcome ε α → Outcome ε' α
  | value a => value a
  | failed e => failed (f e)
  | panicked payload => panicked payload

def mapValue (f : α → β) : Outcome ε α → Outcome ε β
  | value a => value (f a)
  | failed e => failed e
  | panicked payload => panicked payload

end Outcome

/-- How a shared load ends: a panic is a failure like any other. -/
abbrev LoadResult := Except Failure (Stored Value)

/-- What a get answers. -/
abbrev Answer := Outcome CacheFault (Option Value)

/-- What a lookup found. -/
inductive Found where
  /-- A stored value. -/
  | stored (value : Stored Value)
  /-- The load with that number, in flight. -/
  | joined (load : Nat)
  /-- Nothing, so it started the load with that number. -/
  | started (load : Nat)

inductive Event where
  | lookedUp (cache : String) (key : Key) (found : Found)
  /-- A loader is called: by the shared load with that number, or by a caller itself. -/
  | called (call : Call) (load : Option Nat)
  /-- A shared load has ended; `kept` says that it was still the one in flight for its key. -/
  | landed (load : Nat) (cache : String) (key : Key) (outcome : LoadResult) (kept : Bool)
  | lockTimedOut (cache : String) (key : Key) (load : Nat) (lockTimeout : Duration)
  | passedThrough (cache : String) (key : Key)
  | invalidated (cache : String) (key : Key)
  | allInvalidated (cache : String)
  | answered (task : String) (answer : Answer)

namespace Event

def notice? : Event → Option Notice
  | lookedUp cache key (.started _) => some (.lookedUp cache key true)
  | lookedUp cache key _ => some (.lookedUp cache key false)
  | landed _ cache key (.error failure) _ => some (.loadFailed cache key failure)
  | lockTimedOut cache key _ lockTimeout => some (.lockTimedOut cache key lockTimeout)
  | passedThrough cache key => some (.passedThrough cache key)
  | invalidated cache key => some (.invalidated cache key)
  | allInvalidated cache => some (.allInvalidated cache)
  | _ => none

/-- The counter that the event raises, if its cache keeps counters. -/
def counter? : Event → Option CounterId
  | lookedUp cache _ (.started _) => some ⟨.miss, cache⟩
  | lookedUp cache _ _ => some ⟨.hit, cache⟩
  | landed _ cache _ (.ok _) true => some ⟨.put, cache⟩
  | landed _ cache _ (.error _) _ => some ⟨.loadFailure, cache⟩
  | lockTimedOut cache _ _ _ => some ⟨.lockTimeout, cache⟩
  | _ => none

end Event

/-- An event with the time, in ms, at which it happened. -/
structure Stamped where
  time : Nat
  event : Event

/-- A call of a loader with its time. -/
structure CallRecord where
  time : Nat
  call : Call

/-- The answer of a get with its time. -/
structure AnswerRecord where
  time : Nat
  task : String
  answer : Answer

/-- Events in the order in which they happened. -/
abbrev Trace := List Stamped

namespace Trace

def notices (trace : Trace) : List Notice := trace.filterMap fun s => s.event.notice?

def calls (trace : Trace) : List CallRecord :=
  trace.filterMap fun s => match s.event with
    | .called call _ => some ⟨s.time, call⟩
    | _ => none

def answers (trace : Trace) : List AnswerRecord :=
  trace.filterMap fun s => match s.event with
    | .answered task answer => some ⟨s.time, task, answer⟩
    | _ => none

/-- How often one counter is raised. -/
def count (trace : Trace) (id : CounterId) : Nat := trace.countP fun s => s.event.counter? == some id

/-- The counters that are raised, for the caches that keep counters. -/
def counts (counting : String → Bool) (trace : Trace) : List (CounterId × Nat) :=
  let raised := (trace.filterMap fun s => s.event.counter?).eraseDups
  (raised.filter fun id => counting id.cache).map fun id => (id, trace.count id)

end Trace

end SingleFlight
