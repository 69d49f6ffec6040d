import Outline.Command.Run
import Outline.Log
import Outline.Program.EnvironmentFile
import Outline.Program.Trees
import Outline.Program.Yaml.Data
import Outline.Text.Utf8

/-!
The command line, with dates and run names as text.
-/

set_option autoImplicit false

namespace Outline.Clock

/-- Year, month and day of a number of days after the first of January 1970, by the calendar whose
years begin in March and whose cycles last 400 years. -/
def civil (days : Nat) : Nat × Nat × Nat :=
  let shifted := days + 719468
  let cycle := shifted / 146097
  let dayOfCycle := shifted % 146097
  let yearOfCycle :=
    (dayOfCycle - dayOfCycle / 1460 + dayOfCycle / 36524 - dayOfCycle / 146096) / 365
  let dayOfYear := dayOfCycle - (365 * yearOfCycle + yearOfCycle / 4 - yearOfCycle / 100)
  let month := (5 * dayOfYear + 2) / 153
  let day := dayOfYear - (153 * month + 2) / 5 + 1
  let year := yearOfCycle + cycle * 400
  if month < 10 then (year, month + 3, day) else (year + 1, month - 9, day)

/-- The date and the time of day of a number of seconds after the first of January 1970, with a mark
between them. -/
def dateTime (mark : Text) (seconds : Nat) : Text :=
  let (year, month, day) := civil (seconds / 86400)
  let second := seconds % 86400
  Text.join [Text.padded 4 year, "-", Text.padded 2 month, "-", Text.padded 2 day, mark,
    Text.padded 2 (second / 3600), ":", Text.padded 2 (second / 60 % 60), ":",
    Text.padded 2 (second % 60)]

def timestamp (seconds microseconds : Nat) : Text :=
  Text.join [dateTime "T" seconds, ".", Text.padded 6 microseconds, "+00:00"]

def logStamp (seconds microseconds : Nat) : Text :=
  Text.join [dateTime " " seconds, ",", Text.padded 3 (microseconds / 1000)]

/-- The name of a run from sixteen random bytes: five groups of hexadecimal digits, the fourth
version of such names. -/
def runName (random : Bytes) : Text :=
  let digits := (List.range 16).flatMap fun i =>
    let byte := (random.getD i 0).toNat
    Text.hex 2 (if i = 6 then 0x40 + byte % 16 else if i = 8 then 0x80 + byte % 64 else byte)
  Text.joinWith [45] [digits.take 8, (digits.drop 8).take 4, (digits.drop 12).take 4,
    (digits.drop 16).take 4, digits.drop 20]

end Outline.Clock

/-! ### The program

The command line.

The files that the command may need are read into a file system value, the command runs on it, and
the files that it changed are written back. Notes go to standard error.
-/

namespace Outline.Program

/-- The entry at a path of the disk, with all that lies below it. A link to a directory is kept as a
link to a directory, a link that leads nowhere as one that leads to itself. -/
partial def entryAt (path : String) (name : Text) : IO (Option Entry) := do
  let place := (← IO.currentDir) / path
  if ← place.isDir then
    if (← place.symlinkMetadata).type matches .symlink then return some (.link ".")
    let mut entries : List (Text × Entry) := []
    for item in ← place.readDir do
      let itemName := Text.ofString item.fileName
      if let some entry ← entryAt (item.path.toString) itemName then
        entries := entries ++ [(itemName, entry)]
    return some (.directory entries)
  else if ← place.pathExists then
    return some (.file (← IO.FS.readBinFile place).toList)
  else
    try
      let _ ← place.symlinkMetadata
      return some (.link name)
    catch _ => return none

/-- Adds what stands at an absolute path of the disk, and the directories above it that exist. -/
def addPath (root : Entry) (path : Text) (whole : Bool) : IO Entry := do
  let mut root := root
  let mut place : List Text := []
  let names := (Path.components path).filter (!·.isEmpty)
  for (name, index) in names.zipIdx do
    place := place ++ [name]
    let here := "/" ++ Text.toString (Text.joinWith [Path.slash] place)
    if (root.at? place).isNone then
      if ← ((← IO.currentDir) / here).isDir then
        root := Entry.put (.directory []) root place
      else if let some entry ← entryAt here name then
        root := Entry.put entry root place
    if whole && index + 1 == names.length then
      if let some (.directory entries) ← entryAt here name then
        root := Entry.put (.directory entries) root place
  return root

/-- The variables that the command looks at: its own, and those that the given files mention. -/
def environment (files : List Text) : IO Environment := do
  let mut names := [Options.pathVariable, Options.scopingVariable, Options.strictVariable,
    EnvironmentFile.closingVariable]
  for file in files do
    let content ← try IO.FS.readFile (Text.toString file) catch _ => pure ""
    names := names ++ EnvironmentFile.mentioned (Text.ofString content)
  let mut found : Environment := []
  for name in names do
    if let some value ← IO.getEnv (Text.toString name) then
      found := found ++ [(name, Text.ofString value)]
  return found

def snapshot (env : Environment) (environmentFiles : List Text) (a : Arguments) :
    IO FileSystem := do
  let directory := Text.ofString (← IO.currentDir).toString
  let mut root : Entry := .directory []
  root ← addPath root directory false
  for path in environmentFiles ++ a.config.join.toList ++ (env.get? Options.pathVariable).toList do
    root ← addPath root (Path.absolute directory path) false
  for path in a.source.toList do
    root ← addPath root (Path.absolute directory path) true
  for path in a.outputFile.toList ++ a.reportDirectory.toList do
    root ← addPath root (Path.absolute directory path) false
  return ⟨root, directory⟩

def save (before after : FileSystem) : IO Unit := do
  let old := before.files
  for file in after.files do
    if !old.contains file then
      IO.FS.createDirAll (Text.toString (Path.parent file.1))
      IO.FS.writeBinFile (Text.toString file.1) (ByteArray.mk file.2.toArray)

def now : IO (Nat × Nat) := do
  let (_, path) ← IO.FS.createTempFile
  let time := (← path.metadata).modified
  IO.FS.removeFile path
  return (time.sec.toNat, time.nsec.toNat / 1000)

/-- Writes the notes of a run that are serious enough, each line with a time before it. -/
def writeLog (stamp : Text) (level : Log.Level) (runId : Text) (events : List Log.Event) :
    IO Unit := do
  let context : Log.Context := { runId := runId }
  for entry in context.entries events do
    if level.rank ≤ entry.level.rank then
      let labels : Log.Context := { runId := runId, file := entry.file, errors := entry.errors }
      IO.eprintln (Text.toString (Text.join [stamp, " | ",
        Log.Output.labelled labels entry.level entry.channel.name entry.message]))

def stop (message : Text) (code : Nat) : IO UInt32 := do
  IO.eprintln (Text.toString message)
  return UInt32.ofNat code

def usage : Text :=
  Text.join ["usage: --source SOURCE [--output-file FILE] [--config FILE] [--legacy-scoping] ",
    "[--fail-fast] [--report-dir DIR] [--log-level LEVEL]"]

def execute (a : Arguments) (level : Log.Level) : IO UInt32 := do
  let began ← IO.monoMsNow
  let home := Text.ofString (← IO.appDir).toString
  let environmentFiles := EnvironmentFile.places home
  let env ← environment environmentFiles
  let files ← snapshot env environmentFiles a
  let runId := Clock.runName (← IO.getRandomBytes 16).toList
  let (seconds, microseconds) ← now
  let surroundings : Command.Surroundings :=
    { workspace := ⟨files, Trees.parser files⟩
      environment := env
      readers := ⟨EnvironmentFile.reader home, Yaml.reader⟩
      runId := runId
      seconds := .whole 0
      time := Clock.timestamp seconds microseconds }
  let stamp := Clock.logStamp seconds microseconds
  let progress := Command.attempt surroundings a
  writeLog stamp level runId progress.events
  let ended ← IO.monoMsNow
  let lasted := Report.Seconds.fraction (Double.ofDecimal false (ended - began) (-3))
  let finished := Command.finish { surroundings with seconds := lasted } a progress
  writeLog stamp level runId (finished.events.drop progress.events.length)
  save files finished.files
  match finished.result with
  | .ok code => return UInt32.ofNat code
  | .error failure => stop failure.message 1

end Outline.Program

open Outline in
def main (args : List String) : IO UInt32 := do
  match Arguments.read (args.map Text.ofString) with
  | .error outcome => Program.stop Program.usage outcome.exitCode
  | .ok a =>
    match a.logLevel with
    | none => Program.stop (Failure.message (.missing .level)) 1
    | some level => Program.execute a level
