import SingleFlight.Dictionary
import SingleFlight.Text.Blank
import SingleFlight.Tuning

/-!
# Cache configuration

One switch for all caches, the kind of store behind them, a default tuning and overrides by cache name.
-/

namespace SingleFlight

/-- The kinds of store behind a cache. -/
inductive Backend where
  /-- A bounded map with expiry. -/
  | bounded
deriving DecidableEq

namespace Backend

/-- The name the store goes by in a configuration. -/
def name : Backend → String
  | bounded => "moka"

/-- The name the store is logged by. -/
def title : Backend → String
  | bounded => "Moka"

/-- Blank ends and the case of ASCII letters do not count. -/
def ofName (s : String) : Except ConfigFault Backend :=
  let name := Text.asciiLower (Text.trimmed s)
  if name = bounded.name then .ok bounded else .error (.unknownBackend name)

end Backend

structure Config where
  enabled : Bool
  /-- The backend as it was written. -/
  backendName : String
  defaults : Tuning
  caches : Dictionary Tuning
deriving DecidableEq

namespace Config

/-- Caching on, the bounded store, nothing limited. -/
def standard : Config := ⟨true, Backend.bounded.name, .unset, ∅⟩

instance : Inhabited Config := ⟨standard⟩

def backend (config : Config) : Except ConfigFault Backend := Backend.ofName config.backendName

/-- The override of the name over the defaults. -/
def tuningOf (config : Config) (name : String) : Tuning :=
  match config.caches.find? name with
  | some own => own.overlay config.defaults
  | none => config.defaults

end Config

end SingleFlight
