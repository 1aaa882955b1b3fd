import SingleFlight.Config

/-!
# Log lines

A notice is something the program reports. Each notice has one log line: a level, the part of the program that
speaks, a message and fields in a fixed order.
-/

namespace SingleFlight

/-- Severities in ascending detail; `off` is a filter that lets nothing pass. -/
inductive Level where
  | off
  | error
  | warn
  | info
  | debug
  | trace
deriving DecidableEq

namespace Level

def rank : Level → Nat
  | off => 0
  | error => 1
  | warn => 2
  | info => 3
  | debug => 4
  | trace => 5

def name : Level → String
  | off => "off"
  | error => "error"
  | warn => "warn"
  | info => "info"
  | debug => "debug"
  | trace => "trace"

/-- The name that a line begins with. -/
def label : Level → String
  | off => "OFF"
  | error => "ERROR"
  | warn => "WARN"
  | info => "INFO"
  | debug => "DEBUG"
  | trace => "TRACE"

/-- A filter lets a line pass that is not more detailed than itself. -/
def admits (filter line : Level) : Bool := decide (line.rank ≤ filter.rank)

end Level

/-- The parts of the program that write log lines. -/
inductive LogSource where
  | registry
  | store
  | timeout
  | passThrough
  | setup
deriving DecidableEq

def LogSource.path : LogSource → String
  | registry => "cache_aside::cache::registry"
  | store => "cache_aside::cache::store"
  | timeout => "cache_aside::cache::timeout"
  | passThrough => "cache_aside::cache::noop"
  | setup => "cache_aside::infra"

inductive FieldValue where
  | text (value : String)
  | flag (value : Bool)
  | count (value : Nat)
deriving DecidableEq

def FieldValue.shown : FieldValue → String
  | text value => value
  | flag true => "true"
  | flag false => "false"
  | count value => String.ofList (Component.natChars value)

structure LogLine where
  level : Level
  source : LogSource
  message : String
  fields : List (String × FieldValue)
deriving DecidableEq

namespace LogLine

/-- The message and the fields. -/
def body (line : LogLine) : String :=
  line.fields.foldl (fun text field => text ++ " " ++ field.1 ++ "=" ++ field.2.shown) line.message

def text (line : LogLine) : String := line.level.label ++ " " ++ line.body

/-- The line with the part of the program that wrote it. -/
def sourcedText (line : LogLine) : String :=
  line.level.label ++ " " ++ line.source.path ++ ": " ++ line.body

end LogLine

/-- What the program reports. -/
inductive Notice where
  | configurationIgnored (cache : String)
  | registryBuilt (enabled : Bool) (backend : Backend) (caches : Nat)
  | ready (caches : List String)
  | lookedUp (cache : String) (key : Key) (originated : Bool)
  | loadFailed (cache : String) (key : Key) (failure : Failure)
  | lockTimedOut (cache : String) (key : Key) (lockTimeout : Duration)
  | passedThrough (cache : String) (key : Key)
  | invalidated (cache : String) (key : Key)
  | allInvalidated (cache : String)

/-- Quoted names in braces. -/
def quotedSet (names : List String) : String :=
  "\x7b" ++ String.intercalate ", " (names.map Text.quoted) ++ "\x7d"

def Notice.line : Notice → LogLine
  | configurationIgnored cache =>
    ⟨.warn, .registry, "ignoring configuration for unregistered cache", [("cache", .text cache)]⟩
  | registryBuilt enabled backend caches =>
    ⟨.info, .registry, "cache registry built",
      [("enabled", .flag enabled), ("backend", .text backend.title), ("caches", .count caches)]⟩
  | ready caches => ⟨.info, .setup, "cache-aside ready", [("caches", .text (quotedSet caches))]⟩
  | lookedUp cache key originated =>
    ⟨.debug, .store, "cache lookup",
      [("cache", .text cache), ("key", .text key.text), ("originated", .flag originated)]⟩
  | loadFailed cache key failure =>
    ⟨.warn, .store, "cache value loader failed, entry evicted",
      [("cache", .text cache), ("key", .text key.text), ("error", .text failure.message)]⟩
  | lockTimedOut cache key lockTimeout =>
    ⟨.warn, .timeout, "lock timeout elapsed, loading value without caching it",
      [("cache", .text cache), ("key", .text key.text), ("lock_timeout", .text lockTimeout.text)]⟩
  | passedThrough cache key =>
    ⟨.trace, .passThrough, "caching disabled, running loader", [("cache", .text cache), ("key", .text key.text)]⟩
  | invalidated cache key =>
    ⟨.debug, .store, "invalidating cache entry", [("cache", .text cache), ("key", .text key.text)]⟩
  | allInvalidated cache => ⟨.debug, .store, "invalidating all cache entries", [("cache", .text cache)]⟩

end SingleFlight
