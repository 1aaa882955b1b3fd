import SingleFlight.Assoc
import SingleFlight.Key

/-!
# Popularity

How often each key of a store was asked for of late. A count goes up to 15. When enough has been counted, all counts
are halved, so what was asked for long ago weighs less.
-/

namespace SingleFlight

/-- The counts of a store's keys. -/
structure Popularity where
  counts : Assoc Key Nat
  /-- How much has been counted; halving takes back half of it. -/
  counted : Nat
  /-- So much may be counted before all counts are halved. -/
  sample : Nat

namespace Popularity

def countLimit : Nat := 15

/-- Nothing counted yet, for a store with room for `capacity` keys. -/
def start (capacity : Nat) : Popularity := ⟨∅, 0, 10 * max 128 capacity⟩

def of (p : Popularity) (key : Key) : Nat := (p.counts.find? key).getD 0

/-- All counts halved and rounded down. -/
def aged (p : Popularity) : Popularity :=
  { p with
    counts := p.counts.mapValues (· / 2)
    counted := p.counted / 2 - (p.counts.pairs.filter fun e => e.2 % 2 == 1).length }

/-- The key was asked for. -/
def note (p : Popularity) (key : Key) : Popularity :=
  if p.of key < countLimit then
    let next := { p with counts := p.counts.insert key (p.of key + 1), counted := p.counted + 1 }
    if next.sample ≤ next.counted then next.aged else next
  else p

end Popularity

end SingleFlight
