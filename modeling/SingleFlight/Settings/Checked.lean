import SingleFlight.Decimal.Reading
import SingleFlight.Log
import SingleFlight.Settings.Draft

/-!
# Checked settings

A draft becomes settings if the level is known, the backend is known, no cache name is blank, and every expiry is
at least a millisecond and at most the longest one allowed. The first fault in that order is reported; expiries are
checked in the defaults first and then in the named tunings by ascending name.
-/

namespace SingleFlight

inductive LineFormat where
  | json
  | compact
deriving DecidableEq

/-- The settings that everything else is built from. -/
structure Settings where
  level : Level
  format : LineFormat
  cache : Config
deriving DecidableEq

namespace Settings

def levelOfNumber? (n : Nat) : Option Level :=
  [Level.off, .error, .warn, .info, .debug, .trace][n]?

/-- A level by its name, in any case, or by its number; no text is the level of errors. -/
def level? (s : String) : Option Level :=
  match (Decimal.unsigned? 64 s).bind levelOfNumber? with
  | some level => some level
  | none =>
    if s = "" then some .error
    else [Level.off, .error, .warn, .info, .debug, .trace].find? fun level => Text.sameLetters s level.name

def checkLevel (draft : LoggingDraft) : Except LoadFault Level :=
  match draft.level with
  | none => .ok .info
  | some s =>
    match level? s with
    | some level => .ok level
    | none => .error (.invalid "logging.level" .level)

def formatOf (draft : LoggingDraft) : LineFormat := if draft.json.getD false then .json else .compact

/-- An expiry in milliseconds under the given key. -/
def checkExpiry (key : String) : Option Nat → Except LoadFault (Option Duration)
  | none => .ok none
  | some ms =>
    if ms = 0 then .error (.invalid key .zeroExpiry)
    else if longestExpiry < .ofMillis ms then .error (.invalid key .longExpiry)
    else .ok (some (.ofMillis ms))

def checkTuning (key : String) (draft : TuningDraft) : Except LoadFault Tuning := do
  let write ← checkExpiry (key ++ ".expire_after_write_ms") draft.expireAfterWriteMs
  let access ← checkExpiry (key ++ ".expire_after_access_ms") draft.expireAfterAccessMs
  return ⟨draft.initialCapacity, draft.maximumSize, write, access, draft.metricsEnabled⟩

/-- The backend as it was written, if it is known. -/
def checkBackend (draft : CacheDraft) : Except LoadFault String :=
  let name := draft.backend.getD Backend.bounded.name
  match Backend.ofName name with
  | .ok _ => .ok name
  | .error fault => .error (.invalid "cache.backend" (.backend fault))

def checkNamed (entry : String × TuningDraft) : Except LoadFault (String × Tuning) := do
  if Text.isBlankText entry.1 then .error (.invalid "cache.caches" .blankName)
  else return (entry.1, ← checkTuning ("cache.caches." ++ entry.1) entry.2)

def checkCache (draft : CacheDraft) : Except LoadFault Config := do
  let backendName ← checkBackend draft
  let defaults ← checkTuning "cache.defaults" draft.defaults
  let named ← draft.caches.entries.mapM checkNamed
  return ⟨draft.enabled.getD true, backendName, defaults, .ofList named⟩

/-- The settings, if nothing is wrong with the draft. -/
def ofDraft (draft : Draft) : Except LoadFault Settings := do
  let level ← checkLevel draft.logging
  let cache ← checkCache draft.cache
  return ⟨level, formatOf draft.logging, cache⟩

end Settings

end SingleFlight
