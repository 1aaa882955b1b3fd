import SingleFlight.Assoc
import SingleFlight.Stored
import SingleFlight.Tuning
import SingleFlight.Upkeep
import SingleFlight.Value

/-!
# Local stores

A store holds two maps: entries with a value, and loads in flight. It numbers its loads, so that a load that ends
sees whether the one in flight for its key is still itself.

* an entry expires when the time since it was stored, or since it was last read, reaches the limit set for it;
* loads in flight neither expire nor count against the size limit;
* reading an entry restarts the second clock; asking whether it is there does not;
* upkeep settles which keys a full store keeps; a store of size zero keeps nothing;
* the entries are counted by the queue of the store's upkeep, so an idle entry may count although it has expired.
-/

namespace SingleFlight

/-- A stored value with the times, in ms, when it was stored and last read. -/
structure Entry where
  value : Stored Value
  storedAt : Nat
  readAt : Nat
deriving DecidableEq

/-- The limit, if there is one, is longer than the time from `since` to `now`. Two readings of the clock are never
equal, and what little time passes between them beyond whole ms counts as one nanosecond here; only a limit that is no
whole number of ms can tell how much it was. -/
def within (limit : Option Duration) (since now : Nat) : Bool :=
  match limit with
  | some d => decide ((Duration.ofMillis (now - since)).nanos + 1 < d.nanos)
  | none => true

/-- A load in flight: its number in the store, and its place among the loads of all stores. -/
structure Flight where
  number : Nat
  load : Nat
deriving DecidableEq

structure LocalStore where
  name : String
  tuning : Tuning
  entries : Assoc Key Entry
  /-- The load that computes the key's value. -/
  inFlight : Assoc Key Flight
  /-- The number of the next load. -/
  nextLoad : Nat
  upkeep : Upkeep

namespace LocalStore

/-- An empty store, if its tuning is one a store can keep to. -/
def create (name : String) (tuning : Tuning) : Except ConfigFault LocalStore :=
  (fun _ => ⟨name, tuning, ∅, ∅, 0, .start⟩) <$> tuning.check name

def ownKey (store : LocalStore) : Key := .default store.name

/-- The entry has not expired. -/
def live (store : LocalStore) (now : Nat) (entry : Entry) : Bool :=
  within store.tuning.expireAfterWrite entry.storedAt now &&
    within store.tuning.expireAfterAccess entry.readAt now

/-- The stored value of a key, if it has not expired. -/
def peek (store : LocalStore) (now : Nat) (key : Key) : Option (Stored Value) :=
  match store.entries.find? key with
  | some entry => if store.live now entry then some entry.value else none
  | none => none

/-- The store without the entries of those keys. -/
def without (store : LocalStore) (keys : List Key) : LocalStore :=
  { store with entries := store.entries.filter fun key _ => !keys.contains key }

/-- The key has an entry, and it was not stored too long ago. -/
def fresh (store : LocalStore) (now : Nat) (key : Key) : Bool :=
  (store.entries.find? key).any fun entry => within store.tuning.expireAfterWrite entry.storedAt now

/-- The key has no entry, or one that was read too long ago. -/
def idle (store : LocalStore) (now : Nat) (key : Key) : Bool :=
  (store.entries.find? key).all fun entry => !within store.tuning.expireAfterAccess entry.readAt now

/-- Runs upkeep, before a `pending` change is noted. -/
def tend (store : LocalStore) (now : Nat) (pending : List Change) : LocalStore :=
  let (upkeep, dropped) := store.upkeep.run now store.tuning.maximumSize pending (store.fresh now) (store.idle now)
  { store.without dropped with upkeep }

/-- Notes a look at the store. Upkeep that is due comes first. -/
def noteLook (store : LocalStore) (now : Nat) (look : Look) : LocalStore :=
  let store := if store.upkeep.due now store.upkeep.looks.length then store.tend now [] else store
  { store with upkeep := store.upkeep.noteLook look }

/-- Notes a change. Upkeep that is due comes first. -/
def noteChange (store : LocalStore) (now : Nat) (change : Change) : LocalStore :=
  let store := if store.upkeep.due now store.upkeep.changes.length then store.tend now [change] else store
  { store with upkeep := store.upkeep.noteChange change }

/-- The key was read. -/
def touch (store : LocalStore) (now : Nat) (key : Key) : LocalStore :=
  { store with entries := store.entries.modify key fun entry => { entry with readAt := now } }.noteLook now ⟨key, true⟩

/-- A lookup of the key found nothing. -/
def miss (store : LocalStore) (now : Nat) (key : Key) : LocalStore := store.noteLook now ⟨key, false⟩

/-- Stores the key's value. A store that is full keeps it at least until upkeep. -/
def put (store : LocalStore) (now : Nat) (key : Key) (value : Stored Value) : LocalStore :=
  if store.tuning.maximumSize = some 0 then store
  else { store with entries := store.entries.insert key ⟨value, now, now⟩ }.noteChange now (.stored key)

/-- A load for the key is in flight under the next number. The lookup that starts it looks a second time before it
does. -/
def launch (store : LocalStore) (now : Nat) (key : Key) (load : Nat) : LocalStore :=
  { (store.miss now key).miss now key with
    inFlight := store.inFlight.insert key ⟨store.nextLoad, load⟩
    nextLoad := store.nextLoad + 1 }

/-- No load for the key is in flight any more. -/
def land (store : LocalStore) (key : Key) : LocalStore :=
  { store with inFlight := store.inFlight.erase key }

def invalidate (store : LocalStore) (now : Nat) (key : Key) : LocalStore :=
  let rest := { store with entries := store.entries.erase key, inFlight := store.inFlight.erase key }
  if store.upkeep.tracks key then rest.noteChange now (.removed key) else rest

/-- The keys that lose their entries stay in the queue until upkeep. -/
def invalidateAll (store : LocalStore) : LocalStore := { store with entries := ∅, inFlight := ∅ }

/-- A value or a load in flight is there for the key. -/
def contains (store : LocalStore) (now : Nat) (key : Key) : Bool :=
  (store.inFlight.find? key).isSome || (store.peek now key).isSome

/-- The entries in the queue and the loads in flight; to be asked after upkeep. -/
def size (store : LocalStore) : Nat := store.upkeep.queue.length + store.inFlight.size

end LocalStore

end SingleFlight
