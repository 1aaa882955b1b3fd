import SingleFlight.Duration
import SingleFlight.Error

/-!
# Tuning

The optional limits of one cache. `overlay` fills what a tuning leaves open from another one, field by field, and
`check` refuses an expiry beyond the longest one allowed, the one after writing first.
-/

namespace SingleFlight

/-- The longest expiry allowed. -/
def longestExpiry : Duration := .ofSeconds longestExpirySeconds

/-- The limits of one cache; an open field sets no limit. -/
structure Tuning where
  initialCapacity : Option Nat
  maximumSize : Option Nat
  expireAfterWrite : Option Duration
  expireAfterAccess : Option Duration
  metricsEnabled : Option Bool
deriving DecidableEq

namespace Tuning

/-- Every field open. -/
def unset : Tuning := ⟨none, none, none, none, none⟩

instance : Inhabited Tuning := ⟨unset⟩

/-- The fields of `own`, and those of `defaults` where `own` leaves one open. -/
def overlay (own defaults : Tuning) : Tuning where
  initialCapacity := own.initialCapacity.or defaults.initialCapacity
  maximumSize := own.maximumSize.or defaults.maximumSize
  expireAfterWrite := own.expireAfterWrite.or defaults.expireAfterWrite
  expireAfterAccess := own.expireAfterAccess.or defaults.expireAfterAccess
  metricsEnabled := own.metricsEnabled.or defaults.metricsEnabled

/-- Counters are kept only where they are asked for. -/
def countsMetrics (tuning : Tuning) : Bool := tuning.metricsEnabled.getD false

def expiry (tuning : Tuning) : ExpiryKind → Option Duration
  | .afterWrite => tuning.expireAfterWrite
  | .afterAccess => tuning.expireAfterAccess

/-- The expiry is open or at most the longest one allowed. -/
def expiryAllowed (tuning : Tuning) (kind : ExpiryKind) : Bool :=
  match tuning.expiry kind with
  | some d => decide (d ≤ longestExpiry)
  | none => true

def check (tuning : Tuning) (cache : String) : Except ConfigFault Unit :=
  if !tuning.expiryAllowed .afterWrite then .error (.expiryTooLong cache .afterWrite)
  else if !tuning.expiryAllowed .afterAccess then .error (.expiryTooLong cache .afterAccess)
  else .ok ()

end Tuning

end SingleFlight
