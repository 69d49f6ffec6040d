import Outline.Model
import Outline.Options
import Outline.ParseTree

/-!
Outlines of single files.

A file is read and parsed inside its own scope of the log; the syntax errors are counted before the
outline is built, so that every note on building carries the count.
-/

set_option autoImplicit false

namespace Outline

/-- What extraction works on: a file system and a parser. -/
structure Workspace where
  files : FileSystem
  parser : Parser

namespace Extraction

def parseSource (parser : Parser) (source : Bytes) : Logged Failure ParseTree := do
  let tree := parser.parse source
  note .debug .parsing "Created tree-sitter C# parser"
  if tree.value.hasError then note .warning .parsing "Parsed tree contains syntax errors"
  note .debug .parsing (Text.join ["Parsed ", Text.ofNat source.length, " bytes of C# code"])
  return tree

def parseFile (w : Workspace) (path : Text) : Logged Failure (ParseTree × Bytes) :=
  match w.files.read path with
  | .error e => do
    if e.cause.isFromSystem then
      note .error .parsing
        (if e.cause = .notFound then Text.join ["File not found: ", path]
          else Text.join ["Error reading file ", path, ": ", e.message])
    Logged.fail (.file e)
  | .ok source => do
    let tree ← parseSource w.parser source
    if tree.value.hasError then
      note .warning .parsing (Text.join ["File ", path, " contains syntax errors"])
    note .info .parsing (Text.join ["Successfully parsed file: ", path])
    return (tree, source)

/-- The outline of a parse tree; there is none if an enum member overflows. -/
def outline (tree : ParseTree) (path : Text) (legacy : Bool) : Except Failure Model.Source :=
  let root := tree.view legacy
  if Model.buildOverflows root then .error .overflow else .ok (Model.build root path legacy)

def extractTree (tree : ParseTree) (path : Text) (legacy : Bool) : Logged Failure Model.Source := do
  note .info .building (Text.join ["Extracting declarations from ", path])
  report (Model.Trace.ofSource (tree.view legacy) legacy)
  let model ← Logged.ofExcept (outline tree path legacy)
  note .info .building (Text.join ["Extracted ", Text.ofNat model.classes.length, " classes, ",
    Text.ofNat model.interfaces.length, " interfaces, ", Text.ofNat model.enums.length,
    " enums from ", path])
  return model

/-- The outline of a file and the number of its syntax errors. -/
structure Diagnostics where
  model : Model.Source
  errors : Nat
  deriving DecidableEq, Repr

/-- Work inside the scope of a file, which is left however the work ends. -/
def withinFile {α : Type} (path : Text) (work : Logged Failure α) : Logged Failure α :=
  ⟨work.result, .enter path :: (work.events ++ [.leave])⟩

def diagnoseContent (w : Workspace) (path : Text) (legacy : Bool) :
    Logged Failure Diagnostics := do
  let (tree, _) ← parseFile w path
  report [.errors tree.errorCount]
  if tree.value.hasError then
    note .warning .extraction (Text.join ["File ", path, " contains syntax errors (",
      Text.ofNat tree.errorCount, " error nodes)"])
  let model ← extractTree tree path legacy
  return ⟨model, tree.errorCount⟩

/-- The outline of a file with its diagnostics. The file must be there and have the extension of a
source file. -/
def diagnose (w : Workspace) (options : Options) (path : Text) : Logged Failure Diagnostics :=
  let path := w.files.absolute path
  if !w.files.isFile path then Logged.fail (.fileNotFound path)
  else if !options.extensions.contains (Path.extension path) then
    Logged.fail (.notSource path options.extensions)
  else withinFile path (diagnoseContent w path options.legacyScoping)

def failureNote (path : Text) (failure : Failure) : Log.Event :=
  .note .error .extraction
    (Text.join ["Error extracting declarations from ", path, ": ", failure.message])

def extractFile (w : Workspace) (options : Options) (path : Text) : Logged Failure Model.Source :=
  let work := diagnose w options path
  match work.result with
  | .ok d => ⟨.ok d.model, work.events⟩
  | .error failure => ⟨.error failure, work.events ++ [failureNote path failure]⟩

end Extraction

/-! ### Directories

Outlines of the source files below a directory.

Hidden and excluded directories are not entered, nor are links to directories; the directory that is
asked for is searched whatever its name. Files are outlined one at a time, in the order of their
paths, and only as far as outlines are asked for. A file that fails is counted and passed over, or
ends the run.
-/

structure Stats where
  processed : Nat := 0
  failed : Nat := 0
  declarations : Nat := 0
  errors : Nat := 0
  deriving DecidableEq, Repr

namespace Stats

def record (s : Stats) (d : Extraction.Diagnostics) : Stats :=
  { s with
    processed := s.processed + 1
    declarations := s.declarations + d.model.declarationCount
    errors := s.errors + d.errors }

def fail (s : Stats) : Stats := { s with failed := s.failed + 1 }

def fields (s : Stats) : List (Text × Value) :=
  [("files_processed", .int s.processed), ("files_failed", .int s.failed),
    ("declarations_extracted", .int s.declarations), ("parse_errors", .int s.errors)]

def toValue (s : Stats) : Value := .record s.fields

def text (s : Stats) : Text :=
  Text.join ["ExtractionStats(processed=", Text.ofNat s.processed, ", failed=",
    Text.ofNat s.failed, ", declarations=", Text.ofNat s.declarations, ", parse_errors=",
    Text.ofNat s.errors, ")"]

end Stats

namespace Extraction

def isEntered (options : Options) (name : Text) : Bool :=
  name.head? ≠ some Path.dot && !options.excludedDirectories.contains name

def isSource (options : Options) (name : Text) : Bool :=
  options.extensions.contains (Path.nameExtension name)

mutual

/-- The paths of the source files among the entries of a directory and below them. The search knows
no bounds: those that an operating system sets to the length of a path, and an interpreter to the
depth of a recursion, are left out. -/
def sourcesIn (fs : FileSystem) (options : Options) (path : Text) :
    List (Text × Entry) → List Text
  | [] => []
  | (name, entry) :: entries =>
    sourcesAt fs options (Path.join path name) name entry ++ sourcesIn fs options path entries

/-- The paths of the source files at an entry and below it, the entry having a path and a name. -/
def sourcesAt (fs : FileSystem) (options : Options) (path name : Text) : Entry → List Text
  | .file _ => if isSource options name then [path] else []
  | .link _ => if isSource options name && !fs.isDirectory path then [path] else []
  | .directory entries => if isEntered options name then sourcesIn fs options path entries else []

end

def sources (fs : FileSystem) (options : Options) (directory : Text) : List Text :=
  let path := fs.absolute directory
  match fs.entry path with
  | .ok (.directory entries) => Text.sort (sourcesIn fs options path entries)
  | _ => []

def checkPath (path : Text) : Logged Failure Unit :=
  match FileSystem.pathFault? path with
  | some cause => if cause.isFromSystem then return () else Logged.fail (.file ⟨cause, path⟩)
  | none => return ()

/-- Finds the source files below a directory; one that cannot be searched has none. -/
def discover (fs : FileSystem) (options : Options) (directory : Text) :
    Logged Failure (List Text) := do
  note .info .extraction (Text.join ["Discovering C# files in ", fs.absolute directory])
  checkPath (fs.absolute directory)
  let found := sources fs options directory
  note .info .extraction (Text.join ["Found ", Text.ofNat found.length, " C# files"])
  return found

/-- What a run has given so far: outlines, counts, the failure that ended it, and events. -/
structure Stream where
  models : List Model.Source
  stats : Stats
  failure : Option Failure
  events : List Log.Event

namespace Stream

def idle (stats : Stats) : Stream := ⟨[], stats, none, []⟩

def after (events : List Log.Event) (s : Stream) : Stream := { s with events := events ++ s.events }

def yielding (model : Model.Source) (s : Stream) : Stream := { s with models := model :: s.models }

def values (s : Stream) : List Value := s.models.map Model.Source.toValue

end Stream

def skipNote (path : Text) (failure : Failure) : Log.Event :=
  .note .error .extraction
    (Text.join [if failure.isInvalidFile then "Invalid file " else "Unexpected error processing ",
      path, ": ", failure.message])

/-- Outlines files one after the other until enough outlines have been given; no limit means all.
The end of the list is reached only if one more outline is asked for. -/
def streamFiles (w : Workspace) (options : Options) (keepGoing : Bool) :
    Option Nat → List Text → Stats → Stream
  | some 0, _, stats => Stream.idle stats
  | _, [], stats =>
    ⟨[], stats, none,
      [.note .info .extraction (Text.join ["Extraction complete: ", stats.text])]⟩
  | limit, path :: paths, stats =>
    let work := diagnose w options path
    match work.result with
    | .ok d =>
      ((streamFiles w options keepGoing (limit.map (· - 1)) paths (stats.record d)).yielding
        d.model).after work.events
    | .error failure =>
      if keepGoing then
        (streamFiles w options keepGoing limit paths stats.fail).after
          (work.events ++ [skipNote path failure])
      else ⟨[], stats.fail, some failure, work.events ++ [skipNote path failure]⟩

def streamDirectory (w : Workspace) (options : Options) (keepGoing : Bool) (limit : Option Nat)
    (directory : Text) (stats : Stats) : Stream :=
  let search := discover w.files options directory
  let found := sources w.files options directory
  if found.isEmpty then
    ⟨[], stats, none, search.events ++ [.note .warning .extraction
      (Text.join ["No C# files found in ", directory])]⟩
  else
    (streamFiles w options keepGoing limit found stats).after
      (search.events ++ [.note .info .extraction
        (Text.join ["Processing ", Text.ofNat found.length, " C# files from ", directory])])

def streamFile (w : Workspace) (options : Options) (path : Text) (stats : Stats) : Stream :=
  let work := diagnose w options path
  match work.result with
  | .ok d => ⟨[d.model], stats.record d, none, work.events⟩
  | .error failure =>
    ⟨[], stats.fail, some failure, work.events ++ [failureNote path failure]⟩

/-- Outlines a file or the source files below a directory, as many as are asked for. If none is
asked for, nothing is done at all. -/
def stream (w : Workspace) (options : Options) (keepGoing : Bool) (limit : Option Nat)
    (source : Text) (stats : Stats) : Stream :=
  let path := w.files.absolute source
  if limit = some 0 then Stream.idle stats
  else if w.files.isFile path then streamFile w options path stats
  else if w.files.isDirectory path then streamDirectory w options keepGoing limit path stats
  else ⟨[], stats, some (.sourceNotFound path), []⟩

def extractDirectory (w : Workspace) (options : Options) (keepGoing : Bool) (directory : Text) :
    Logged Failure (List Model.Source × Stats) :=
  let path := w.files.absolute directory
  if !w.files.isDirectory path then Logged.fail (.directoryNotFound path)
  else
    let s := streamDirectory w options keepGoing none path {}
    ⟨match s.failure with
      | none => .ok (s.models, s.stats)
      | some failure => .error failure, s.events⟩

/-- Outlines a file or the source files below a directory, as plain data. -/
def extractValues (w : Workspace) (options : Options) (source : Text) :
    Logged Failure (List Value) :=
  let s := stream w options true none source {}
  ⟨match s.failure with
    | none => .ok s.values
    | some failure => .error failure, s.events⟩

end Extraction

end Outline
