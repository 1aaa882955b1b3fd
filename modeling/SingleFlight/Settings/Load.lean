import SingleFlight.Settings.Checked
import SingleFlight.Settings.Environment
import SingleFlight.Settings.Files

/-!
# Loading settings

The settings come from four layers, later ones over earlier ones: the files `config/default` and `cache-aside`, which
may be missing, a file that is asked for, which may not, and the environment.
-/

namespace SingleFlight.Settings

/-- What settings are loaded from. -/
structure Surroundings where
  files : Files
  env : List (String × String)

/-- A file that was found, with its path as it is shown. -/
structure Found where
  shown : String
  kind : Notation
  text : String

/-- The file of exactly that name. -/
def Surroundings.findAs? (s : Surroundings) (name : String) (kind : Notation) : Option Found :=
  (s.files.text? name).map fun text => ⟨s.files.shownPath name, kind, text⟩

/-- The file of exactly that name, if its extension is known; otherwise, if there is none of exactly that name, the
first with an extension added. -/
def Surroundings.find? (s : Surroundings) (name : String) : Option Found :=
  if (s.files.text? name).isSome then do
    let extension ← extension? name
    s.findAs? name (← s.files.notations.find? (·.extensions.contains extension))
  else
    s.files.notations.findSome? fun kind => kind.extensions.findSome? fun extension => do
      s.findAs? (← withExtension? name extension) kind

/-- A text without the byte order mark that it may begin with. -/
def withoutMark (s : String) : String :=
  match s.toList with
  | '\ufeff' :: rest => String.ofList rest
  | _ => s

/-- The table that the file holds. -/
def Found.source (file : Found) : Except BuildFault Source :=
  match file.kind.read (withoutMark file.text) with
  | .ok (.table fields) => .ok ⟨file.shown, fields⟩
  | .ok _ => .error (.malformed file.shown .unreadable)
  | .error flaw => .error (.malformed file.shown flaw)

/-- A file that may be missing. -/
def Surroundings.optional (s : Surroundings) (name : String) : Except BuildFault (List Source) :=
  match s.find? name with
  | some file => (fun source => [source]) <$> file.source
  | none => .ok []

/-- A file that may not be missing. -/
def Surroundings.required (s : Surroundings) (name : String) : Except BuildFault (List Source) :=
  match s.find? name with
  | some file => (fun source => [source]) <$> file.source
  | none => .error (.missing name)

/-- The layers from the bottom up. -/
def Surroundings.sources (s : Surroundings) (asked : Option String) : Except BuildFault (List Source) := do
  let defaults ← s.optional "config/default"
  let own ← s.optional "cache-aside"
  let explicit ← match asked with
    | some name => s.required name
    | none => .ok []
  return defaults ++ own ++ explicit ++ [environmentSource s.env]

/-- The draft that the layers together give. -/
def Surroundings.draft (s : Surroundings) (asked : Option String) : Except BuildFault Draft := do
  Draft.ofTree (.ofSources (← s.sources asked))

def gather (s : Surroundings) (asked : Option String) : Except LoadFault Settings :=
  match s.draft asked with
  | .ok draft => ofDraft draft
  | .error fault => .error (.build fault)

end SingleFlight.Settings
