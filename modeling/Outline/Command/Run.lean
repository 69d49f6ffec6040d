import Outline.Command.Report
import Outline.Extraction
import Outline.Log
import Outline.Text.Unicode

/-!
The arguments of the command.

An option is given by its name or by a beginning that no other option shares, its value in the next
argument or behind an equals sign, where a double dash stands for no value at all. A next argument
that itself looks like an option is no value, unless it is a negative number or holds a blank. Of a
repeated option the last value counts. There are no arguments but options.
-/

set_option autoImplicit false

namespace Outline

/-- What the command is told. An option that needs a value may have been given none. -/
structure Arguments where
  source : Option Text
  outputFile : Option Text := some "output/declarations.jsonl"
  /-- The configuration file, where the option is there. -/
  config : Option (Option Text) := none
  legacyScoping : Bool := false
  failFast : Bool := false
  reportDirectory : Option Text := some Report.defaultDirectory
  logLevel : Option Log.Level := some .info
  deriving DecidableEq, Repr

namespace Arguments

inductive Stop
  | help | usage
  deriving DecidableEq, Repr

def Stop.exitCode : Stop → Nat
  | .help => 0
  | .usage => 2

inductive Name
  | help | source | outputFile | config | legacyScoping | failFast | reportDirectory | logLevel
  deriving DecidableEq, Repr

def spellings : List (Text × Name) :=
  [("-h", .help), ("--help", .help), ("--source", .source), ("--output-file", .outputFile),
    ("--config", .config), ("--legacy-scoping", .legacyScoping), ("--fail-fast", .failFast),
    ("--report-dir", .reportDirectory), ("--log-level", .logLevel)]

def Name.hasValue : Name → Bool
  | .help | .legacyScoping | .failFast => false
  | _ => true

inductive Reading
  | word
  | option (name : Name) (attached : Option Text)
  | unknown
  | ambiguous

def splitEquals (t : Text) : Text × Option Text :=
  match t.dropWhile (· ≠ 61) with
  | [] => (t, none)
  | _ :: value => (t.takeWhile (· ≠ 61), some value)

def letter : CodePoint := 104

/-- What an option comes to with a text attached. Behind a letter that has no value the same letter
may stand again, which says nothing more. -/
def attach (spelling : Text) (name : Name) (attached : Text) : Name × Option Text :=
  if spelling = [45, letter] ∧ attached ≠ [] ∧ attached.all (· = letter) then (name, none)
  else (name, some attached)

/-- The options that an argument may abbreviate, with what is attached. -/
def abbreviations (t : Text) : List (Name × Option Text) :=
  if Text.startsWith "--" t then
    let (lead, value) := splitEquals t
    (spellings.filter fun (spelling, _) => lead.isPrefixOf spelling).map
      fun (_, name) => (name, value)
  else
    spellings.filterMap fun (spelling, name) =>
      if spelling = t.take 2 then some (attach spelling name (t.drop 2))
      else if t.isPrefixOf spelling then some (name, none)
      else none

def dropLineFeed (t : Text) : Text := if t.getLast? = some 10 then t.dropLast else t

/-- Whether a text is a minus sign and a number, digits or a point with digits after it, perhaps
with a line feed at the end. -/
def isNegativeNumber (t : Text) : Bool :=
  let isDigit (c : CodePoint) : Bool := c.decimalValue?.isSome
  match dropLineFeed t with
  | [] => false
  | c :: u =>
    let rest := u.dropWhile isDigit
    c = 45 && ((rest.isEmpty && !u.isEmpty)
      || (rest.head? = some 46 && !(rest.drop 1).isEmpty && (rest.drop 1).all isDigit))

def spelled? (t : Text) : Option Name :=
  (spellings.find? fun pair => decide (pair.1 = t)).map (·.2)

def reading (t : Text) : Reading :=
  if t.head? ≠ some 45 then .word
  else
    match spelled? t with
    | some name => .option name none
    | none =>
      if t.length = 1 then .word
      else
        let (lead, value) := splitEquals t
        match value, spelled? lead with
        | some value, some name =>
          let (name, attached) := attach lead name value
          .option name attached
        | _, _ =>
          match abbreviations t with
          | [(name, value)] => .option name value
          | _ :: _ :: _ => .ambiguous
          | [] => if isNegativeNumber t || t.contains 32 then .word else .unknown

/-- The readings of arguments; behind a double dash all are words, and the dash itself is one that
belongs nowhere. -/
def readings : List Text → List (Text × Option Reading)
  | [] => []
  | t :: rest =>
    if t = Text.ofString "--" then (t, none) :: rest.map fun u => (u, some .word)
    else (t, some (reading t)) :: readings rest

structure State where
  source : Option (Option Text) := none
  others : Arguments := { source := none }
  stray : Bool := false

def logLevels : List Log.Level := [.debug, .info, .warning, .error]

def State.set (s : State) (name : Name) (value : Option Text) : Except Stop State :=
  match name with
  | .source => .ok { s with source := some value }
  | .outputFile => .ok { s with others := { s.others with outputFile := value } }
  | .config => .ok { s with others := { s.others with config := some value } }
  | .reportDirectory => .ok { s with others := { s.others with reportDirectory := value } }
  | .logLevel =>
    match value with
    | none => .ok { s with others := { s.others with logLevel := none } }
    | some word =>
      match logLevels.find? fun level => decide (Text.ofString level.name = word) with
      | some level => .ok { s with others := { s.others with logLevel := some level } }
      | none => .error .usage
  | .help | .legacyScoping | .failFast => .ok s

def State.turnOn (s : State) : Name → Except Stop State
  | .help => .error .help
  | .legacyScoping => .ok { s with others := { s.others with legacyScoping := true } }
  | .failFast => .ok { s with others := { s.others with failFast := true } }
  | _ => .error .usage

def attachedValue (t : Text) : Option Text := if t = Text.ofString "--" then none else some t

def go (s : State) : List (Text × Option Reading) → Except Stop State
  | [] => .ok s
  | (_, some (.option name attached)) :: rest =>
    if name.hasValue then
      match attached with
      | some value => do go (← s.set name (attachedValue value)) rest
      | none =>
        match rest with
        | (value, some .word) :: rest => do go (← s.set name (some value)) rest
        | _ => .error .usage
    else
      match attached with
      | some _ => .error .usage
      | none => do go (← s.turnOn name) rest
  | _ :: rest => go { s with stray := true } rest

def isAmbiguous : Text × Option Reading → Bool
  | (_, some .ambiguous) => true
  | _ => false

def read (arguments : List Text) : Except Stop Arguments := do
  let given := readings arguments
  if given.any isAmbiguous then .error .usage
  else
    let s ← go {} given
    match s.source with
    | none => .error .usage
    | some source => if s.stray then .error .usage else .ok { s.others with source := source }

end Arguments

end Outline

/-! ### Runs

The command: outlines a file or a directory, one line of JSON for each file, and reports on the run.

The output file is emptied when extraction begins and holds the lines written until it ends, however
it ends. The report is written in any case, and the exit code is zero exactly if no file failed.
-/

namespace Outline.Command

/-- What the command needs to know about its surroundings. -/
structure Surroundings where
  workspace : Workspace
  environment : Environment
  readers : Options.Readers
  runId : Text
  seconds : Report.Seconds
  time : Text

def line (model : Model.Source) : Text := Value.Json.line model.toValue ++ [10]

/-- The bytes of the lines of outlines, up to one that cannot be written. -/
def encodeLines : List Model.Source → Bytes × Option Utf8.EncodeError
  | [] => ([], none)
  | model :: models =>
    match Utf8.encode (line model) with
    | .error e => ([], some e)
    | .ok bytes =>
      let (more, e) := encodeLines models
      (bytes ++ more, e)

/-- The number of outlines up to and including the first that cannot be written. -/
def unwritable? (models : List Model.Source) : Option Nat :=
  (models.findIdx? fun model => (line model).hasSurrogate).map (· + 1)

/-- What extraction leaves: its counts, the file system and events. -/
structure Extracted where
  result : Except Failure Stats
  files : FileSystem
  events : List Log.Event

def Extracted.failed (fs : FileSystem) (failure : Failure) (events : List Log.Event) : Extracted :=
  ⟨.error failure, fs, events⟩

def info (parts : List Text) : Log.Event := .note .info .command (Text.join parts)

/-- Outlines a source, going no further than to an outline that cannot be written. -/
def streamWritable (w : Workspace) (source : Text) (options : Options) (keepGoing : Bool) :
    Extraction.Stream :=
  let whole := Extraction.stream w options keepGoing none source {}
  match unwritable? whole.models with
  | none => whole
  | some count => Extraction.stream w options keepGoing (some count) source {}

def writeLines (fs : FileSystem) (outputFile : Text) (s : Extraction.Stream) : Extracted :=
  let (bytes, unwritten) := encodeLines s.models
  let files := match fs.write outputFile bytes with
    | .ok files => files
    | .error _ => fs
  match unwritten, s.failure with
  | some e, _ => ⟨.error (.unencodable e), files, s.events⟩
  | none, some failure => ⟨.error failure, files, s.events⟩
  | none, none =>
    ⟨.ok s.stats, files, s.events ++ [info ["Wrote ", Text.ofNat s.models.length, " models to ",
      outputFile]]⟩

def extractInto (w : Workspace) (source outputFile : Text) (options : Options) (keepGoing : Bool) :
    Extracted :=
  writeLines w.files outputFile (streamWritable w source options keepGoing)

def extractTo (w : Workspace) (source outputFile : Text) (options : Options) (keepGoing : Bool) :
    Extracted :=
  let fs := w.files
  let opening := [info ["Source           : ", fs.absolute source],
    info ["Output file      : ", fs.absolute outputFile],
    info ["Legacy scoping   : ", Config.truthName options.legacyScoping]]
  let above := Path.parent (fs.absolute outputFile)
  match fs.makeDirectories above with
  | .error e => .failed (fs.withDirectories above) (.file e) opening
  | .ok fs =>
    match fs.write outputFile [] with
    | .error e => .failed fs (.file e) opening
    | .ok fs =>
      let done := extractInto { w with files := fs } source outputFile options keepGoing
      { done with events := opening ++ done.events }

def extract (w : Workspace) (source? outputFile? : Option Text) (options : Options)
    (keepGoing : Bool) : Extracted :=
  let fs := w.files
  match source?, outputFile? with
  | none, _ => .failed fs (.missing .existence) []
  | some source, none =>
    if fs.pathExists source then
      .failed fs (.missing .path) [info ["Source           : ", fs.absolute source]]
    else .failed fs (.sourceNotFound source) []
  | some source, some outputFile =>
    if fs.pathExists source then extractTo w source outputFile options keepGoing
    else .failed fs (.sourceNotFound source) []

inductive Status
  | success | incomplete | failed
  deriving DecidableEq, Repr

def Status.name : Status → String
  | .success => "success"
  | .incomplete => "partial"
  | .failed => "failed"

def Status.ofStats (stats : Stats) : Status :=
  if stats.failed = 0 then .success else .incomplete

def failureNote (failure : Failure) : Log.Event :=
  let words : Text := match failure with
    | .configuration _ => "Configuration error: "
    | other => if other.isNotFound then "File error: " else "Extraction failed: "
  .note .error .command (Text.join [words, failure.message])

structure Progress where
  status : Status
  stats : Option Stats
  options : Option Options
  files : FileSystem
  events : List Log.Event

/-- Loads the options and extracts. -/
def attempt (s : Surroundings) (a : Arguments) : Progress :=
  let fs := s.workspace.files
  let loaded := Options.load s.readers fs s.environment a.config.join none
  match loaded.result with
  | .error failure => ⟨.failed, none, none, fs, loaded.events ++ [failureNote failure]⟩
  | .ok options =>
    let options := if a.legacyScoping then { options with legacyScoping := true } else options
    let done := extract s.workspace a.source a.outputFile options (!a.failFast)
    match done.result with
    | .error failure =>
      ⟨.failed, none, some options, done.files,
        loaded.events ++ done.events ++ [failureNote failure]⟩
    | .ok stats =>
      let empty := stats.processed == 0 && stats.failed == 0
      ⟨.ofStats stats, some stats, some options, done.files,
        loaded.events ++ done.events
          ++ if empty then [.note .warning .command "No C# files extracted."] else []⟩

def reportOf (s : Surroundings) (source outputFile : Text) (p : Progress) : List (Text × Value) :=
  let fs := s.workspace.files
  Report.build
    { status := .text p.status.name
      source := .text (fs.absolute source)
      outputFile := .text (fs.absolute outputFile)
      stats := (p.stats.map Stats.fields).getD []
      options := (p.options.map Options.fields).getD []
      seconds := s.seconds }

/-- What a run leaves: an exit code, or the failure to report on it. -/
structure Finished where
  result : Except Failure Nat
  files : FileSystem
  events : List Log.Event

/-- Writes the report of a run and ends it. There is no report where a path for it was not given. -/
def finish (s : Surroundings) (a : Arguments) (p : Progress) : Finished :=
  match a.source, a.outputFile, a.reportDirectory with
  | some source, some outputFile, some directory =>
    match Report.write p.files (reportOf s source outputFile p) s.runId s.time directory with
    | .error e => ⟨.error (.file e), p.files.withDirectories directory, p.events⟩
    | .ok files =>
      ⟨.ok (if p.status = .success then 0 else 1), files,
        p.events ++ [info ["Run report written to ", Report.path directory s.runId]]⟩
  | _, _, _ => ⟨.error (.missing .path), p.files, p.events⟩

/-- Runs the command; nothing is done where the level of the log was not given. -/
def run (s : Surroundings) (a : Arguments) : Finished :=
  match a.logLevel with
  | none => ⟨.error (.missing .level), s.workspace.files, []⟩
  | some _ => finish s a (attempt s a)

end Outline.Command
