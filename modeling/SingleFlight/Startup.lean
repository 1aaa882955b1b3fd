import SingleFlight.LogFilter
import SingleFlight.Metric
import SingleFlight.Registry
import SingleFlight.Settings.Load

/-!
# Starting up

To start up is to load the settings, to install telemetry and to build the registry. Telemetry can be installed once;
settings that cannot be loaded leave it uninstalled.
-/

namespace SingleFlight

/-- How log lines are printed, once telemetry is installed. -/
structure Telemetry where
  filter : LogFilter
  format : LineFormat
deriving DecidableEq

/-- The lines that are printed of those notices. -/
def Telemetry.printed (telemetry : Telemetry) (notices : List Notice) : List LogLine :=
  (notices.map Notice.line).filter telemetry.filter.admits

/-- What a program has set up so far. -/
structure Program where
  telemetry : Option Telemetry

namespace Program

def fresh : Program := ⟨none⟩

def alreadyInstalled : SetupFault :=
  .telemetry "failed to install tracing subscriber: a global default trace dispatcher has already been set"

/-- Installs telemetry for those settings; the directives, if there are any, go before the level of the settings. -/
def install (program : Program) (directives : String) (settings : Settings) : Except SetupFault Program :=
  match program.telemetry with
  | some _ => .error alreadyInstalled
  | none => .ok ⟨some ⟨.ofText directives settings.level, settings.format⟩⟩

/-- What starting up comes to. -/
structure Started where
  program : Program
  result : Except SetupFault (Settings × Registry)
  notices : List Notice

/-- Starts up with a cache for each name. -/
def startUp (program : Program) (surroundings : Settings.Surroundings) (asked : Option String)
    (directives : String) (names : List String) : Started :=
  match Settings.gather surroundings asked with
  | .error fault => ⟨program, .error (.ofLoadFault fault), []⟩
  | .ok settings =>
    match program.install directives settings with
    | .error e => ⟨program, .error e, []⟩
    | .ok program =>
      let notices := Registry.noticesOfConfig names settings.cache
      match Registry.ofConfig names settings.cache with
      | .error fault => ⟨program, .error (.ofCacheFault (.configuration fault)), notices⟩
      | .ok registry => ⟨program, .ok (settings, registry), notices ++ [.ready registry.names]⟩

end Program

end SingleFlight
