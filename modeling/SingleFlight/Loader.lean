import SingleFlight.Duration
import SingleFlight.Error
import SingleFlight.Value

/-!
# Loaders and requests

A loader is a script: it sleeps, invalidates entries, and ends with a value, a failure, a panic or a get of its own,
whose outcome becomes the loader's. A request is what a get asks for and through which entry point.
-/

namespace SingleFlight

/-- What a panic carries: a text, or something that is none. -/
inductive Payload where
  | text (message : String)
  | other
deriving DecidableEq

/-- The message under which a caught panic is reported. -/
def Payload.message : Payload → String
  | text message => message
  | other => "non-string panic payload"

/-- The ways to reach a cache. -/
inductive EntryPoint where
  /-- Through the registry, by name, with a lock timeout. -/
  | registry
  /-- Through the cache, without a lock timeout. -/
  | cache
  /-- Through the cache, with a lock timeout. -/
  | cacheTimed
  /-- Through the cache's local store, without a lock timeout. -/
  | store
  /-- Through the cache's local store, with a lock timeout. -/
  | storeTimed
deriving DecidableEq

namespace EntryPoint

/-- The entry point takes a lock timeout. -/
def timed : EntryPoint → Bool
  | registry | cacheTimed | storeTimed => true
  | cache | store => false

/-- The entry point asks for a local store. -/
def needsStore : EntryPoint → Bool
  | store | storeTimed => true
  | registry | cache | cacheTimed => false

end EntryPoint

/-- What a get asks for. -/
structure Request where
  /-- The name under which calls of the get's loader are recorded. -/
  label : String
  cache : String
  /-- A key that cannot be built fails the get. -/
  key : Except KeyFault Key
  entryPoint : EntryPoint
  lockTimeout : Duration

/-- The longest wait for another caller's load; zero waits without bound. -/
def Request.patience (request : Request) : Duration :=
  if request.entryPoint.timed then request.lockTimeout else .zero

/-- What a loader for values of type `τ` does when it is called. -/
inductive Loader (τ : ValueType) where
  | done (value : Option (Typed τ))
  | fail (failure : Failure)
  | panic (payload : Payload)
  | sleep (ms : Nat) (next : Loader τ)
  | invalidate (cache : String) (key : Key) (next : Loader τ)
  | invalidateAll (cache : String) (next : Loader τ)
  | get (request : Request) (loader : Loader τ)

/-- One call of a loader: on behalf of which get, and for what. -/
structure Call where
  label : String
  cache : String
  key : Key
deriving DecidableEq

end SingleFlight
