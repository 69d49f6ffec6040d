import Outline.Config.Datum
import Outline.Failure
import Outline.Log
import Outline.Text.Unicode

/-!
The options of a run: defaults, then a configuration file, then the environment.

What is wrong with a configuration is a problem. In strict mode a problem refuses the configuration;
otherwise it is a warning and a default takes the place of the value.
-/

set_option autoImplicit false

namespace Outline.Config

/-- A problem: refused in strict mode, else a warning that says how the work goes on. -/
def problem (strict : Bool) (message fallback : Text) : Logged Failure Unit :=
  if strict then Logged.fail (.configuration message)
  else note .warning .configuration (Text.join [message, "; ", fallback])

/-- A section of a configuration. A missing one is empty; one that is no mapping is a problem. -/
def getSection (config : Section) (name : Text) (strict : Bool) : Logged Failure Section :=
  match config.get? name with
  | none | some (.scalar .null) => do
    note .debug .configuration
      (Text.join ["Config has no '", name, "' section; using defaults"])
    return {}
  | some (.mapping fields) => return { config with fields := fields }
  | some _ => do
    problem strict (Text.join ["Config section '", name, "' must be a mapping"]) "using defaults"
    return {}

def truthName (b : Bool) : Text := if b then "True" else "False"

/-- A truth value of a section, if there is one at its key; anything else there is a problem, with a
default that is given in words. -/
def getBool? (s : Section) (key : Text) (defaultWords : Text) (strict : Bool) :
    Logged Failure (Option Bool) :=
  match s.get? key with
  | none => return none
  | some (.scalar (.bool b)) => return some b
  | some other => do
    problem strict
      (Text.join ["Config key '", key, "' must be a boolean, got ", other.typeName s.parts])
      (Text.join ["using default ", defaultWords])
    return none

def getBool (s : Section) (key : Text) (default : Bool) (strict : Bool) :
    Logged Failure Bool := do
  return (← getBool? s key (truthName default) strict).getD default

/-- The entries of a list, blanks around them dropped; an entry of blanks only is a problem. -/
def getEntries (parts : Datum.Parts) (key : Text) (strict : Bool) :
    List Datum → Logged Failure (List Text)
  | [] => return []
  | item :: items => do
    match Text.strip (← Logged.ofExcept ((item.display parts).mapError .number)) with
    | [] => do
      problem strict (Text.join ["Config key '", key, "' contains an empty entry"]) "skipping it"
      getEntries parts key strict items
    | entry => do
      let entries ← getEntries parts key strict items
      return entry :: entries

/-- A set of texts of a section; anything but a list at its key is a problem. -/
def getTextSet (s : Section) (key : Text) (default : List Text) (strict : Bool) :
    Logged Failure (List Text) :=
  match s.get? key with
  | none => return Text.set default
  | some (.list items) => do
    let entries ← getEntries s.parts key strict items
    return Text.set entries
  | some _ => do
    problem strict (Text.join ["Config key '", key, "' must be a list"]) "using defaults"
    return Text.set default

/-! ### Files

Configuration files.

A file that is missing, one whose document is malformed and one that holds anything but a mapping is
a problem, with an empty configuration in its place. Any other failure to open the file or to read
its document is a failure in either mode.
-/

/-- What reads the document in an open file, of which it knows the name and the content: a datum,
with the collections that it refers to by number. -/
abbrev Reader := Text → Bytes → Except Fault (Datum × Datum.Parts)

def Reader.readFile (reader : Reader) (fs : FileSystem) (path : Text) :
    Except Failure (Datum × Datum.Parts) := do
  let content ← (fs.read path).mapError .file
  (reader path content).mapError .foreign

def withoutConfig : Text := "continuing with defaults"

def without (strict : Bool) (message : List Text) : Logged Failure Section := do
  problem strict (Text.join message) withoutConfig
  return {}

/-- The section that a document is. A document of another form is a problem. -/
def ofDocument (path : Text) (strict : Bool) (datum : Datum) (parts : Datum.Parts) :
    Logged Failure Section :=
  match datum.resolve parts with
  | .mapping fields => return ⟨fields, parts⟩
  | .scalar .null => without strict ["Config file is empty: ", path]
  | other => without strict ["Unexpected config payload type: ", other.typeName parts]

def load (reader : Reader) (fs : FileSystem) (path : Text) (strict : Bool) :
    Logged Failure Section :=
  match reader.readFile fs path with
  | .ok (datum, parts) => ofDocument path strict datum parts
  | .error (.foreign (.malformed message)) =>
    without strict ["Failed to parse config YAML at ", path, ": ", message]
  | .error failure =>
    if failure.isNotFound then without strict ["Config file not found: ", path]
    else Logged.fail failure

end Outline.Config

/-! ### Options

The options of a run: defaults, then a configuration file, then the environment.
-/

namespace Outline

abbrev Environment := List (Text × Text)

namespace Environment

def get? (env : Environment) (name : Text) : Option Text :=
  (env.find? fun pair => decide (pair.1 = name)).map (·.2)

def isYes (word : Text) : Bool :=
  [Text.ofString "1", Text.ofString "true", Text.ofString "yes", Text.ofString "on"].contains
    (Text.lower (Text.strip word))

def flag? (env : Environment) (name : Text) : Option Bool := (env.get? name).map isYes

/-- A flag: the default where the variable is not set, else whether its value means yes. -/
def flag (env : Environment) (name : Text) (default : Bool) : Bool :=
  (env.flag? name).getD default

end Environment

structure Options where
  /-- Whether a type collects every member below it and its methods share one parameter list. -/
  legacyScoping : Bool
  /-- Extensions of source files, as a strictly increasing list. -/
  extensions : List Text
  /-- Names of directories that are not entered, as a strictly increasing list. -/
  excludedDirectories : List Text
  deriving DecidableEq, Repr

namespace Options

def default : Options where
  legacyScoping := false
  extensions := Text.set [".cs"]
  excludedDirectories :=
    Text.set ["bin", "obj", "packages", "node_modules", "TestResults", "__pycache__"]

def fields (o : Options) : List (Text × Value) :=
  [("legacy_scoping", .bool o.legacyScoping),
    ("extensions", .list (o.extensions.map .text)),
    ("exclude_dirs", .list (o.excludedDirectories.map .text))]

def toValue (o : Options) : Value := .record o.fields

def ofConfig (config : Config.Section) (strict : Bool) : Logged Failure Options := do
  let s ← Config.getSection config "extraction" strict
  let legacy ← Config.getBool s "legacy_scoping" default.legacyScoping strict
  let extensions ← Config.getTextSet s "extensions" default.extensions strict
  let excluded ← Config.getTextSet s "exclude_dirs" default.excludedDirectories strict
  return ⟨legacy, extensions, excluded⟩

def pathVariable : Text := "SKELETON_CONFIG"

def scopingVariable : Text := "SKELETON_LEGACY_SCOPING"

def strictVariable : Text := "STRICT_CONFIG_VALIDATION"

structure Readers where
  /-- Adds what an environment file on the disk says to the variables. -/
  environment : FileSystem → Environment → Except Fault Environment
  document : Config.Reader

/-- The options of a run. The configuration file is the given one, else the one the environment
names; the environment also decides the scoping, where it says anything. -/
def load (readers : Readers) (fs : FileSystem) (env : Environment) (path : Option Text)
    (strict : Option Bool) : Logged Failure Options := do
  let env ← Logged.ofExcept ((readers.environment fs env).mapError .foreign)
  let strict := strict.getD (env.flag strictVariable false)
  let options ←
    match (Text.nonEmpty path).orElse fun _ => Text.nonEmpty (env.get? pathVariable) with
    | some path => do
      let config ← Config.load readers.document fs path strict
      let options ← ofConfig config strict
      note .debug .options (Text.join ["Loaded extraction options from ", path])
      pure options
    | none => pure default
  if (env.get? scopingVariable).isSome then
    return { options with legacyScoping := env.flag scopingVariable options.legacyScoping }
  else return options

end Options

end Outline
