import SingleFlight.Key

/-!
# Errors

* a `CacheFault` says why an operation on a cache failed; one that wraps a loader's failure names the cache;
* a `Failure` is what a loader failed with: a text of its own, a panic that was caught, or a cache error;
* `sources` walks from an error down to its first cause.
-/

namespace SingleFlight

/-- The two expiries of a cache. -/
inductive ExpiryKind where
  | afterWrite
  | afterAccess
deriving DecidableEq

/-- The name of the field that holds the expiry. -/
def ExpiryKind.field : ExpiryKind → String
  | afterWrite => "expire_after_write"
  | afterAccess => "expire_after_access"

/-- No expiry is longer than a thousand years of 365 days. -/
def longestExpirySeconds : Nat := 1000 * 365 * 24 * 60 * 60

/-- Why a cache cannot be built or registered. -/
inductive ConfigFault where
  | unknownBackend (name : String)
  | expiryTooLong (cache : String) (expiry : ExpiryKind)
  | emptyName
  | duplicateName (name : String)
  | other (message : String)
deriving DecidableEq

def ConfigFault.message : ConfigFault → String
  | unknownBackend name => s!"unknown cache type: {name}"
  | expiryTooLong cache expiry =>
    s!"cache `{cache}`: {expiry.field} must not exceed {longestExpirySeconds} seconds"
  | emptyName => "cache name must not be empty"
  | duplicateName name => s!"cache `{name}` already set"
  | other message => message

mutual
/-- Why an operation on a cache failed. -/
inductive CacheFault where
  | invalidKey (fault : KeyFault)
  | configuration (fault : ConfigFault)
  | unknownCache (name : String)
  | unsupportedKind (name expected : String)
  | computation (cache : String) (failure : Failure)
  | valueType (cache expected : String)
deriving DecidableEq

/-- What a loader failed with. -/
inductive Failure where
  | text (message : String)
  | panic (message : String)
  | error (cause : CacheFault)
deriving DecidableEq
end

mutual
def CacheFault.message : CacheFault → String
  | .invalidKey fault => "invalid cache key: " ++ fault.message
  | .configuration fault => "cache configuration error: " ++ fault.message
  | .unknownCache name => "unknown cache `" ++ name ++ "`"
  | .unsupportedKind name expected => "cache `" ++ name ++ "` is not backed by a " ++ expected ++ " store"
  | .computation cache failure => "value loader for cache `" ++ cache ++ "` failed: " ++ failure.message
  | .valueType cache expected =>
    "cached value in `" ++ cache ++ "` does not match the requested type `" ++ expected ++ "`"

def Failure.message : Failure → String
  | .text message => message
  | .panic message => "value loader panicked: " ++ message
  | .error cause => cause.message
end

/-- The loader failure that the error wraps. -/
def CacheFault.failure? : CacheFault → Option Failure
  | .computation _ failure => some failure
  | _ => none

mutual
/-- The messages of the causes below the error, nearest first. -/
def CacheFault.sources : CacheFault → List String
  | .computation _ failure => failure.message :: failure.sources
  | _ => []

/-- A failure that is a cache error shows that error's causes as its own. -/
def Failure.sources : Failure → List String
  | .error cause => cause.sources
  | _ => []
end

/-- Why the process could not be set up. -/
inductive SetupFault where
  | telemetry (message : String)
  | configuration (message : String)
deriving DecidableEq

namespace SetupFault

def message : SetupFault → String
  | telemetry message => "telemetry initialization failed: " ++ message
  | configuration message => "configuration error: " ++ message

/-- A cache error keeps its full text. -/
def ofCacheFault (error : CacheFault) : SetupFault := configuration error.message

end SetupFault

end SingleFlight
