import SingleFlight.Popularity

/-!
# Upkeep

A store does not settle every look and change at once. It notes them, and upkeep works the notes off:

* the keys found since the last upkeep move to the back of a queue, and then the changes are settled in turn;
* a key that was stored and is in the queue moves to its back; any other one that still has the entry that was stored
  joins the queue while there is room;
* in a full queue a more popular key takes the place of the first key without notes; any other key is turned away;
* popularity counts from the upkeep after which the queue is half full;
* entries that were stored too long ago leave the queue wherever they stand;
* idle entries leave it from the front, up to the first one that is not idle. One behind it stays for now.

Upkeep is due when some time has passed since the last one, or when many notes of one kind have gathered. It comes
before a further note, and takes account of it: the change that is about to be noted has happened.
-/

namespace SingleFlight

/-- A look at a store. -/
structure Look where
  key : Key
  found : Bool

/-- A change of a store. -/
inductive Change where
  | stored (key : Key)
  | removed (key : Key)
deriving DecidableEq

def Change.key : Change → Key
  | stored key => key
  | removed key => key

def Change.isStored : Change → Bool
  | stored _ => true
  | removed _ => false

/-- The queue of a store's keys and the notes not yet worked off. -/
structure Upkeep where
  /-- The keys of the entries that count, the front first. -/
  queue : List Key
  looks : List Look
  changes : List Change
  /-- The time from which upkeep is due. -/
  dueAt : Nat
  /-- Kept once the queue has been half full. -/
  popularity : Option Popularity

namespace Upkeep

/-- The time from one upkeep to the next, in ms. -/
def interval : Nat := 300

/-- So many notes of one kind make upkeep due. -/
def noteLimit : Nat := 64

/-- So many keys at the front of a full queue may have to make room. -/
def candidates : Nat := 6

/-- Nothing noted and nothing to count, at time 0. -/
def start : Upkeep := ⟨[], [], [], interval, none⟩

def moveToBack (queue : List Key) (key : Key) : List Key := queue.erase key ++ [key]

/-- A key that was found moves only if it is in the queue. -/
def moveFound (queue : List Key) (look : Look) : List Key :=
  if look.found && queue.contains look.key then moveToBack queue look.key else queue

/-- There is room for one more key. -/
def hasRoom (size : Option Nat) (queue : List Key) : Bool := size.all fun n => decide (queue.length < n)

/-- The key will be stored or removed, or has been, after the notes worked off so far. -/
def awaited (later : List Change) (key : Key) : Bool := later.any fun change => decide (change.key = key)

/-- The queue once the changes are settled, and the keys that were turned away or had to make room. `pending` is the
change that is about to be noted. Keys that notes are still to come about neither make room nor are turned away. -/
def settle (size : Option Nat) (pending : List Change) (popularity : Key → Nat) :
    (changes : List Change) → (queue dropped : List Key) → List Key × List Key
  | [], queue, dropped => (queue, dropped)
  | .removed key :: changes, queue, dropped => settle size pending popularity changes (queue.erase key) dropped
  | .stored key :: changes, queue, dropped =>
    let later := changes ++ pending
    if queue.contains key then settle size pending popularity changes (moveToBack queue key) dropped
    else if later.contains (.removed key) then settle size pending popularity changes queue dropped
    else if hasRoom size queue then settle size pending popularity changes (queue ++ [key]) dropped
    else match ((queue.take candidates).find? fun k => !awaited later k).filter
        fun k => decide (popularity k < popularity key) with
      | some last => settle size pending popularity changes (queue.erase last ++ [key]) (last :: dropped)
      | none =>
        settle size pending popularity changes queue (if awaited later key then dropped else key :: dropped)

/-- The queue without the idle keys at its front. A key that a note is still to come about is passed over and goes to
the back. -/
def withoutIdle (pending : List Change) (idle : Key → Bool) : List Key → List Key
  | [] => []
  | key :: rest =>
    if awaited pending key then withoutIdle pending idle rest ++ [key]
    else if idle key then withoutIdle pending idle rest
    else key :: rest

/-- Popularity, kept from now on if the queue is half full. -/
def counted (size : Option Nat) (queue : List Key) (popularity : Option Popularity) : Option Popularity :=
  match popularity, size with
  | none, some n => if n / 2 ≤ queue.length then some (.start n) else none
  | popularity, _ => popularity

/-- Works off the notes and lets go of the keys that are not `fresh`, and from the front of those that are `idle`. The
second result lists the keys that were turned away or had to make room; in a store without a size limit there are
none. -/
def run (u : Upkeep) (now : Nat) (size : Option Nat) (pending : List Change) (fresh idle : Key → Bool) :
    Upkeep × List Key :=
  let popularity := u.popularity.map fun p => u.looks.foldl (fun p look => p.note look.key) p
  let (queue, dropped) :=
    settle size pending (fun key => (popularity.map (·.of key)).getD 0) u.changes (u.looks.foldl moveFound u.queue) []
  let kept := withoutIdle pending idle (queue.filter fun key => awaited pending key || fresh key)
  (⟨kept, [], [], now + interval, counted size queue popularity⟩, dropped)

/-- Upkeep is due before a further note joins `notes` others of its kind. -/
def due (u : Upkeep) (now notes : Nat) : Bool := decide (u.dueAt ≤ now) || decide (noteLimit ≤ notes)

def noteLook (u : Upkeep) (look : Look) : Upkeep := { u with looks := u.looks ++ [look] }

def noteChange (u : Upkeep) (change : Change) : Upkeep := { u with changes := u.changes ++ [change] }

/-- The key has a place in the queue, or will ask for one, and will not be removed from it. -/
def tracks (u : Upkeep) (key : Key) : Bool :=
  match u.changes.reverse.find? fun change => decide (change.key = key) with
  | some change => change.isStored
  | none => u.queue.contains key

end Upkeep

end SingleFlight
