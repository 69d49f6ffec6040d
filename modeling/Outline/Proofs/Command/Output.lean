import Outline.Command.Run
import Outline.Proofs.Extraction.Accounting
import Outline.Proofs.Extraction.Batch
import Outline.Proofs.FileSystem.Growth
import Outline.Proofs.Model.Plain
import Outline.Proofs.Text.Basic
import Outline.Proofs.Text.Utf8

/-!
The output of a run.
-/

set_option autoImplicit false

/-! ## How far the files of a run are isolated from each other

A file that cannot be read or outlined is passed over, and the other files have their lines all the
same. The guard ends where the outline does: a line is encoded as it is written, and the first one
that cannot be encoded ends the run, so that the lines behind it are lost. A run over a directory
returns exactly if every outline can be written, and in any case the output holds the lines of the
outlines up to the first that cannot.
-/

namespace Outline

namespace Command

open Model (Source)

/-! ### Lines -/

def lines (models : List Source) : Text := models.flatMap line

theorem splitAt_lines (models : List Source) : (lines models).splitAt 10 =
    models.map (fun model => Value.Json.line model.toValue) ++ [[]] := by
  induction models with
  | nil => rfl
  | cons model models ih =>
    have free := Value.Json.newline_not_mem_line model.toValue model.isTextual_toValue
    have same : lines (model :: models) =
        Value.Json.line model.toValue ++ 10 :: lines models := by
      rw [lines, List.flatMap_cons, line, List.append_assoc]
      rfl
    rw [same, Text.splitAt_line free, ih]
    rfl

private theorem hasSurrogate_line (model : Source) :
    (line model).hasSurrogate = model.toValue.hasSurrogate := by
  rw [line, Text.hasSurrogate_append,
    Value.Json.hasSurrogate_line model.toValue model.isTextual_toValue]
  exact Bool.or_false _

/-- The line of an outline can be encoded exactly if the outline is writable. -/
def IsFaithful (model : Source) : Prop := (line model).hasSurrogate = !model.isWritable

private theorem isFaithful_of_extractFile {w : Workspace} {options : Options} {path : Text}
    {model : Source}
    (found : (Extraction.extractFile w options path).result = .ok model) : IsFaithful model := by
  obtain ⟨tree, rfl⟩ := Extraction.exists_build_of_extractFile w options found
  rw [IsFaithful, hasSurrogate_line]
  exact Model.hasSurrogate_build (Model.isView_view _ _) _ _

private theorem isFaithful_of_mem_outlines {w : Workspace} {options : Options} {paths : List Text}
    {model : Source} (member : model ∈ Extraction.outlines w options paths) : IsFaithful model := by
  obtain ⟨path, -, found⟩ := List.mem_filterMap.mp member
  cases outcome : (Extraction.extractFile w options path).result with
  | error failure => exact absurd found (by simp [outcome, Except.toOption])
  | ok same =>
    rw [outcome] at found
    obtain rfl := Option.some.inj found
    exact isFaithful_of_extractFile outcome

private theorem encodeLines_spec {models : List Source}
    (faithful : ∀ model ∈ models, IsFaithful model) :
    (encodeLines models).1 = Utf8.encodeLoose (lines (models.takeWhile Source.isWritable)) ∧
      ((encodeLines models).2 = none ↔ ∀ model ∈ models, model.isWritable = true) := by
  induction models with
  | nil => exact ⟨rfl, by simp [encodeLines]⟩
  | cons model models ih =>
    obtain ⟨bytes, unwritten⟩ :=
      ih fun other member => faithful other (List.mem_cons_of_mem _ member)
    have here := faithful model List.mem_cons_self
    rw [encodeLines, List.takeWhile_cons]
    cases writable : model.isWritable with
    | true =>
      rw [IsFaithful, writable, Bool.not_true] at here
      rw [Utf8.encode_of_hasSurrogate_false here]
      refine ⟨?_, ?_⟩
      · change Utf8.encodeLoose (line model) ++ (encodeLines models).1 = _
        rw [bytes, if_pos rfl, lines, lines, List.flatMap_cons, Utf8.encodeLoose, Utf8.encodeLoose,
          Utf8.encodeLoose, List.flatMap_append]
      · simpa [writable] using unwritten
    | false =>
      rw [IsFaithful, writable, Bool.not_false] at here
      obtain ⟨e, failed⟩ := Utf8.exists_encode_error here
      rw [failed]
      exact ⟨rfl, by simp [writable]⟩

private theorem take_of_unwritable?_eq_some {models : List Source} {count : Nat}
    (faithful : ∀ model ∈ models, IsFaithful model) (found : unwritable? models = some count) :
    (∃ model ∈ models.take count, model.isWritable = false) ∧
      (models.take count).takeWhile Source.isWritable = models.takeWhile Source.isWritable := by
  induction models generalizing count with
  | nil => exact absurd found (by simp [unwritable?])
  | cons model models ih =>
    have here := faithful model List.mem_cons_self
    rw [unwritable?, List.findIdx?_cons, here] at found
    cases writable : model.isWritable with
    | false =>
      obtain rfl : 1 = count := by simpa [writable] using found
      simp [writable]
    | true =>
      obtain ⟨i, index, rfl⟩ :
          ∃ i, (models.findIdx? fun model => (line model).hasSurrogate) = some i ∧
            i + 1 + 1 = count := by
        simpa [writable] using found
      have next : unwritable? models = some (i + 1) := by rw [unwritable?, index, Option.map_some]
      have later := ih (fun other member => faithful other (List.mem_cons_of_mem _ member)) next
      simpa [writable] using later

private theorem writeLines_spec {fs later : FileSystem} {outputFile : Text} {s : Extraction.Stream}
    (written : fs.write outputFile (encodeLines s.models).1 = .ok later)
    (noFailure : s.failure = none) :
    (writeLines fs outputFile s).files = later ∧
      (writeLines fs outputFile s).result = match (encodeLines s.models).2 with
        | none => .ok s.stats
        | some e => .error (.unencodable e) := by
  rw [writeLines]
  dsimp only
  rw [written, noFailure]
  cases (encodeLines s.models).2 <;> exact ⟨rfl, rfl⟩

section

variable (w : Workspace) (options : Options) {source outputFile : Text}

private theorem streamWritable_spec (there : w.files.isDirectory (w.files.absolute source) = true) :
    (streamWritable w source options true).failure = none ∧
      (∀ model ∈ (streamWritable w source options true).models, IsFaithful model) ∧
      (streamWritable w source options true).models.takeWhile Source.isWritable =
        (Extraction.outlinesBelow w options source).takeWhile Source.isWritable ∧
      ((∀ model ∈ (streamWritable w source options true).models, model.isWritable = true) ↔
        ∀ model ∈ Extraction.outlinesBelow w options source, model.isWritable = true) := by
  have faithful : ∀ model ∈ Extraction.outlinesBelow w options source, IsFaithful model :=
    fun _ member => isFaithful_of_mem_outlines member
  obtain ⟨noFailure, whole⟩ := Extraction.stream_directory w options there none {}
  rw [Extraction.upTo] at whole
  unfold streamWritable
  dsimp only
  rw [whole]
  cases found : unwritable? (Extraction.outlinesBelow w options source) with
  | none =>
    dsimp only
    rw [whole]
    exact ⟨noFailure, faithful, rfl, Iff.rfl⟩
  | some count =>
    obtain ⟨⟨model, member, unwritable⟩, kept⟩ := take_of_unwritable?_eq_some faithful found
    obtain ⟨noFailure, cut⟩ := Extraction.stream_directory w options there (some count) {}
    dsimp only
    rw [cut, Extraction.upTo]
    refine ⟨noFailure, fun other taken => faithful other (List.mem_of_mem_take taken), kept, ?_⟩
    constructor
    · intro all
      exact absurd (all model member) (by simp [unwritable])
    · intro all other taken
      exact all other (List.mem_of_mem_take taken)

private theorem extractInto_spec (there : w.files.isDirectory (w.files.absolute source) = true)
    (ready : ∀ bytes, ∃ later, w.files.write outputFile bytes = .ok later) :
    (extractInto w source outputFile options true).files.read outputFile =
        .ok (Utf8.encodeLoose (lines
          ((Extraction.outlinesBelow w options source).takeWhile Source.isWritable))) ∧
      ((∃ stats, (extractInto w source outputFile options true).result = .ok stats) ↔
        ∀ model ∈ Extraction.outlinesBelow w options source, model.isWritable = true) ∧
      ((∃ e, (extractInto w source outputFile options true).result = .error (.unencodable e)) ↔
        ∃ model ∈ Extraction.outlinesBelow w options source, model.isWritable = false) := by
  obtain ⟨noFailure, faithful, kept, all⟩ := streamWritable_spec w options there
  obtain ⟨bytes, unwritten⟩ := encodeLines_spec faithful
  have fails : (∃ model ∈ Extraction.outlinesBelow w options source, model.isWritable = false) ↔
      (encodeLines (streamWritable w source options true).models).2 ≠ none := by
    rw [Ne, unwritten, all]
    simp
  rw [fails, ← all, ← unwritten]
  obtain ⟨later, written⟩ := ready (encodeLines (streamWritable w source options true).models).1
  obtain ⟨files, result⟩ := writeLines_spec written noFailure
  rw [extractInto, files, result, FileSystem.read_write written, bytes, kept]
  refine ⟨rfl, ?_⟩
  cases (encodeLines (streamWritable w source options true).models).2 with
  | none => simp
  | some e => simp

end

private theorem extract_of_opened (w : Workspace) (options : Options) {source outputFile : Text}
    (keepGoing : Bool) {made opened : FileSystem} (there : w.files.pathExists source = true)
    (above : w.files.makeDirectories (Path.parent (w.files.absolute outputFile)) = .ok made)
    (emptied : made.write outputFile [] = .ok opened) :
    (extract w (some source) (some outputFile) options keepGoing).result =
        (extractInto { w with files := opened } source outputFile options keepGoing).result ∧
      (extract w (some source) (some outputFile) options keepGoing).files =
        (extractInto { w with files := opened } source outputFile options keepGoing).files := by
  have started : extract w (some source) (some outputFile) options keepGoing =
      extractTo w source outputFile options keepGoing := if_pos there
  rw [started]
  unfold extractTo
  dsimp only
  rw [above]
  dsimp only
  rw [emptied]
  dsimp only
  exact ⟨rfl, rfl⟩

private theorem extractFile_of_opened (w : Workspace) (options : Options)
    {directory outputFile path : Text}
    {made opened : FileSystem} {model : Source}
      (above : w.files.makeDirectories directory = .ok made)
    (emptied : made.write outputFile [] = .ok opened)
    (found : (Extraction.extractFile w options path).result = .ok model)
    (apart : opened.resolve false (w.files.absolute path) ≠ opened.resolve false outputFile) :
    (Extraction.extractFile { w with files := opened } options path).result = .ok model := by
  have added := FileSystem.makeDirectories_grows above
  obtain ⟨place, grown, -⟩ := FileSystem.resolve_write emptied
  obtain ⟨content, read, named, built⟩ := (Extraction.extractFile_eq_ok_iff w options).mp found
  have same : opened.absolute path = w.files.absolute path := by
    rw [FileSystem.absolute, FileSystem.absolute, grown.directory_eq, added.directory_eq]
  refine (Extraction.extractFile_eq_ok_iff _ options).mpr ⟨content, ?_, ?_, ?_⟩
  · have still := added.read read fun _ _ => Set.notMem_empty _
    rw [same]
    exact FileSystem.read_write_other emptied still apart
  · rw [same]
    exact named
  · rw [same]
    exact built

/-- A run over a directory that keeps going, into a file that can be opened, gives every source file
the line that it has alone, in order and one for each, up to the first outline that cannot be
written. It returns exactly if there is no such outline, and otherwise fails because a line cannot
be encoded. The files are read once the output is open; every file but the output is then as it
was. -/
theorem extract_isolates_files (w : Workspace) (options : Options) (source outputFile : Text)
    (made opened : FileSystem) (there : w.files.pathExists source = true)
    (directory : w.files.isDirectory (w.files.absolute source) = true)
    (above : w.files.makeDirectories (Path.parent (w.files.absolute outputFile)) = .ok made)
    (emptied : made.write outputFile [] = .ok opened) :
    let found := Extraction.sources opened options (opened.absolute source)
    let models := found.filterMap fun path =>
      (Extraction.extractFile { w with files := opened } options path).result.toOption
    let written := models.takeWhile Source.isWritable
    let done := extract w (some source) (some outputFile) options true
    ((∃ stats, done.result = .ok stats) ↔ ∀ model ∈ models, model.isWritable = true) ∧
      ((∃ e, done.result = .error (.unencodable e)) ↔
        ∃ model ∈ models, model.isWritable = false) ∧
      done.files.read outputFile = .ok (Utf8.encodeLoose (lines written)) ∧
      (lines written).splitAt 10 =
        written.map (fun model => Value.Json.line model.toValue) ++ [[]] ∧
      ∀ path model, (Extraction.extractFile w options path).result = .ok model →
        opened.resolve false (w.files.absolute path) ≠ opened.resolve false outputFile →
        (Extraction.extractFile { w with files := opened } options path).result = .ok model := by
  intro found models written done
  obtain ⟨place, rewritten, -⟩ := FileSystem.resolve_write emptied
  have grown := (FileSystem.makeDirectories_grows above).trans rewritten
  have still : opened.isDirectory (opened.absolute source) = true := by
    rw [FileSystem.absolute, grown.directory_eq]
    exact grown.isDirectory directory
  obtain ⟨read, returns, fails⟩ := extractInto_spec { w with files := opened } options still
    (FileSystem.exists_write_again emptied)
  obtain ⟨result, files⟩ := extract_of_opened w options true there above emptied
  rw [← result] at returns fails
  rw [← files] at read
  refine ⟨returns, fails, read, splitAt_lines written, fun path model alone apart => ?_⟩
  exact extractFile_of_opened w options above emptied alone apart

/-- A directory with two source files, each with an enum of its own. -/
def twoEnums (first second : String) : Workspace where
  files := ⟨.directory [("s", .directory [("a.cs", .file [1]), ("b.cs", .file [2])])], "/"⟩
  parser := [([1], Extraction.enumOf first), ([2], Extraction.enumOf second)]

/-- A surrogate in one file keeps the other file from being written, though both can be outlined and
the output can be opened. -/
theorem extract_surrogate_loses_files :
    let w := twoEnums "\"\\uD800\"" "\"b\""
    let done := extract w (some "s") (some "o") .default true
    w.files.isDirectory "s" ∧ (w.files.write "o" []).toOption.isSome ∧
      Extraction.sources w.files .default "s" =
        [Text.ofString "/s/a.cs", Text.ofString "/s/b.cs"] ∧
      (∀ path ∈ Extraction.sources w.files .default "s",
        (Extraction.extractFile w .default path).result.toOption.isSome) ∧
      done.result.toOption = none ∧ done.files.read "o" = .ok [] := by
  decide +kernel

private theorem eq_ok_of_isSome {ε α : Type} {x : Except ε α} (default : α)
    (found : x.toOption.isSome = true) : x = .ok (x.toOption.getD default) := by
  cases x with
  | error e => exact absurd found (by simp [Except.toOption])
  | ok a => rfl

/-- A file whose literal overflows is passed over, and the other file is outlined as it was before
the output was opened. -/
theorem extract_passes_over_overflow :
    let w := twoEnums "\"\\U80000000\"" "\"b\""
    let made := (w.files.makeDirectories (Path.parent (w.files.absolute "o"))).toOption.getD w.files
    let opened := (made.write "o" []).toOption.getD w.files
    (∃ stats, (extract w (some "s") (some "o") .default true).result = .ok stats) ∧
      ∃ model, (Extraction.extractFile w .default "s/b.cs").result = .ok model ∧
        (Extraction.extractFile { w with files := opened } .default "s/b.cs").result =
          .ok model := by
  intro w made opened
  obtain ⟨returns, -, -, -, alike⟩ := extract_isolates_files w .default "s" "o" made opened
    (by decide) (by decide) (eq_ok_of_isSome _ (by decide))
    (eq_ok_of_isSome _ (by decide))
  refine ⟨returns.mpr (List.all_eq_true.mp (by decide +kernel)), ?_⟩
  have alone := eq_ok_of_isSome ⟨[], [], [], []⟩
    (x := (Extraction.extractFile w .default "s/b.cs").result) (by decide +kernel)
  refine ⟨_, alone, alike _ _ alone fun same => ?_⟩
  exact absurd (congrArg (fun reached => reached.toOption.map Prod.fst) same) (by decide)

end Command

end Outline

/-! ## Nothing is lost in the output

A run that returns has written one line for each file that it counts as processed, and the outlines
are read back from the lines, in order. They are the ones that iterating over the same source gives,
while the run lasts and after it. So two runs leave the same output exactly if they have the same
outlines.
-/

namespace Outline.Command

open Model (Source)

/-! ### Lines -/

private theorem mapM_lines (models : List Source) :
    (models.map fun model => Value.Json.line model.toValue).mapM Source.ofLine? = some models :=
  Model.mapM_map_write Source.ofLine?_line models

private theorem lines_injective : Function.Injective lines := by
  intro first second same
  have split := congrArg (Text.splitAt 10) same
  rw [splitAt_lines, splitAt_lines] at split
  have read := congrArg (List.mapM Source.ofLine?) (List.append_cancel_right split)
  rw [mapM_lines, mapM_lines] at read
  exact Option.some.inj read

theorem hasSurrogate_lines {models : List Source}
    (clean : ∀ model ∈ models, (line model).hasSurrogate = false) :
    (lines models).hasSurrogate = false := by
  rw [Text.hasSurrogate_eq_false_iff]
  intro c member
  obtain ⟨model, listed, inside⟩ := List.mem_flatMap.mp member
  exact (Text.hasSurrogate_eq_false_iff _).mp (clean model listed) c inside

private theorem encodeLines_of_none {models : List Source} (whole : (encodeLines models).2 = none) :
    (encodeLines models).1 = Utf8.encodeLoose (lines models) ∧
      ∀ model ∈ models, (line model).hasSurrogate = false := by
  induction models with
  | nil => exact ⟨rfl, by simp⟩
  | cons model models ih =>
    rw [encodeLines] at whole ⊢
    cases surrogate : (line model).hasSurrogate with
    | true =>
      obtain ⟨e, failed⟩ := Utf8.exists_encode_error surrogate
      rw [failed] at whole
      exact absurd whole (by simp)
    | false =>
      rw [Utf8.encode_of_hasSurrogate_false surrogate] at whole ⊢
      obtain ⟨bytes, clean⟩ := ih whole
      refine ⟨?_, List.forall_mem_cons.mpr ⟨surrogate, clean⟩⟩
      change Utf8.encodeLoose (line model) ++ (encodeLines models).1 = _
      rw [bytes, lines, lines, List.flatMap_cons, Utf8.encodeLoose, Utf8.encodeLoose,
        Utf8.encodeLoose, List.flatMap_append]

/-! ### Runs that return -/

private theorem writeLines_returned {fs : FileSystem} {outputFile : Text} {s : Extraction.Stream}
    {stats : Stats} (returned : (writeLines fs outputFile s).result = .ok stats) :
    (encodeLines s.models).2 = none ∧ s.failure = none ∧ s.stats = stats := by
  rw [writeLines] at returned
  dsimp only at returned
  split at returned
  · exact absurd returned (by simp)
  · exact absurd returned (by simp)
  · next unwritten noFailure => exact ⟨unwritten, noFailure, Except.ok.inj returned⟩

private theorem exists_surrogate_of_unwritable? {models : List Source} {count : Nat}
    (found : unwritable? models = some count) :
    ∃ model ∈ models.take count, (line model).hasSurrogate = true := by
  obtain ⟨i, index, rfl⟩ := Option.map_eq_some_iff.mp found
  obtain ⟨inside, surrogate, -⟩ := List.findIdx?_eq_some_iff_getElem.mp index
  refine ⟨models[i], ?_, surrogate⟩
  exact List.mem_take_iff_getElem.mpr ⟨i, by omega, rfl⟩

private theorem streamWritable_eq {w : Workspace} {source : Text} {options : Options}
    {keepGoing : Bool}
    (whole : (encodeLines (streamWritable w source options keepGoing).models).2 = none) :
    streamWritable w source options keepGoing =
      Extraction.stream w options keepGoing none source {} := by
  unfold streamWritable at whole ⊢
  dsimp only at whole ⊢
  cases found : unwritable? (Extraction.stream w options keepGoing none source {}).models with
  | none => rfl
  | some count =>
    rw [found] at whole
    dsimp only at whole
    obtain ⟨model, member, surrogate⟩ := exists_surrogate_of_unwritable? found
    rw [← Extraction.models_stream_some] at member
    have clean := (encodeLines_of_none whole).2 model member
    exact absurd surrogate (by simp [clean])

theorem extractInto_returned {w : Workspace} {source outputFile : Text} {options : Options}
    {keepGoing : Bool} {stats : Stats}
    (returned : (extractInto w source outputFile options keepGoing).result = .ok stats)
    (ready : ∀ bytes, ∃ later, w.files.write outputFile bytes = .ok later) :
    let s := Extraction.stream w options keepGoing none source {}
    s.failure = none ∧ s.stats = stats ∧ (∀ model ∈ s.models, (line model).hasSurrogate = false) ∧
      w.files.write outputFile (Utf8.encodeLoose (lines s.models)) =
        .ok (extractInto w source outputFile options keepGoing).files := by
  intro s
  obtain ⟨whole, noFailure, counted⟩ := writeLines_returned returned
  have same : streamWritable w source options keepGoing = s := streamWritable_eq whole
  rw [same] at whole noFailure counted
  obtain ⟨bytes, clean⟩ := encodeLines_of_none whole
  obtain ⟨later, written⟩ := ready (encodeLines s.models).1
  have files := (writeLines_spec written noFailure).1
  refine ⟨noFailure, counted, clean, ?_⟩
  rw [extractInto, same, files, ← bytes, written]

private theorem extractTo_of_above_error {w : Workspace} {source outputFile : Text}
    {options : Options} {keepGoing : Bool} {e : FileError}
    (failed : w.files.makeDirectories (Path.parent (w.files.absolute outputFile)) = .error e) :
    (extractTo w source outputFile options keepGoing).result = .error (.file e) := by
  unfold extractTo
  dsimp only
  rw [failed]
  rfl

private theorem extractTo_of_open_error {w : Workspace} {source outputFile : Text}
    {options : Options} {keepGoing : Bool} {made : FileSystem} {e : FileError}
    (above : w.files.makeDirectories (Path.parent (w.files.absolute outputFile)) = .ok made)
    (failed : made.write outputFile [] = .error e) :
    (extractTo w source outputFile options keepGoing).result = .error (.file e) := by
  unfold extractTo
  dsimp only
  rw [above]
  dsimp only
  rw [failed]
  rfl

private theorem opened_of_extract {w : Workspace} {source outputFile : Text} {options : Options}
    {keepGoing : Bool} {stats : Stats}
    (returned : (extract w (some source) (some outputFile) options keepGoing).result = .ok stats) :
    w.files.pathExists source = true ∧ ∃ made opened,
      w.files.makeDirectories (Path.parent (w.files.absolute outputFile)) = .ok made ∧
      made.write outputFile [] = .ok opened := by
  cases there : w.files.pathExists source with
  | false =>
    have missing : extract w (some source) (some outputFile) options keepGoing =
        .failed w.files (.sourceNotFound source) [] := if_neg (by simp [there])
    rw [missing] at returned
    exact absurd returned (by simp [Extracted.failed])
  | true =>
    have started : extract w (some source) (some outputFile) options keepGoing =
        extractTo w source outputFile options keepGoing := if_pos there
    rw [started] at returned
    refine ⟨rfl, ?_⟩
    cases above : w.files.makeDirectories (Path.parent (w.files.absolute outputFile)) with
    | error e =>
      rw [extractTo_of_above_error above] at returned
      exact absurd returned (by simp)
    | ok made =>
      cases emptied : made.write outputFile [] with
      | error e =>
        rw [extractTo_of_open_error above emptied] at returned
        exact absurd returned (by simp)
      | ok opened => exact ⟨made, opened, rfl, emptied⟩

/-! ### Jobs -/

structure Job where
  workspace : Workspace
  source : Text
  outputFile : Text
  options : Options
  keepGoing : Bool

namespace Job

variable (job : Job)

def done : Extracted :=
  extract job.workspace (some job.source) (some job.outputFile) job.options job.keepGoing

def opened : Except FileError FileSystem :=
  let fs := job.workspace.files
  (fs.makeDirectories (Path.parent (fs.absolute job.outputFile))).bind (·.write job.outputFile [])

def streamIn (fs : FileSystem) : Extraction.Stream :=
  Extraction.stream { job.workspace with files := fs } job.options job.keepGoing none job.source {}

/-- The output is none of the files that the run goes through. -/
def IsApart : Prop :=
  ∀ fs, job.opened = .ok fs →
    ∀ path ∈ Extraction.targets { job.workspace with files := fs } job.options job.source,
      fs.resolve false (fs.absolute path) ≠ fs.resolve false job.outputFile

variable {job}

theorem exists_opened {stats : Stats} (returned : job.done.result = .ok stats) :
    ∃ fs, job.opened = .ok fs ∧ fs.read job.outputFile = .ok [] ∧
      (∀ bytes, ∃ later, fs.write job.outputFile bytes = .ok later) ∧
      (extractInto { job.workspace with files := fs } job.source job.outputFile job.options
        job.keepGoing).result = .ok stats ∧
      job.done.files = (extractInto { job.workspace with files := fs } job.source job.outputFile
        job.options job.keepGoing).files := by
  obtain ⟨there, made, fs, above, emptied⟩ := opened_of_extract returned
  obtain ⟨result, files⟩ :=
    extract_of_opened job.workspace job.options job.keepGoing there above emptied
  refine ⟨fs, ?_, FileSystem.read_write emptied, FileSystem.exists_write_again emptied,
    result.symm.trans returned, files⟩
  rw [opened, above]
  exact emptied

/-- What a run that returns has written, and what iterating over its source gives whatever the
output holds. -/
theorem written_of_returned {stats : Stats} (returned : job.done.result = .ok stats)
    (apart : job.IsApart) :
    ∃ fs models, job.opened = .ok fs ∧ models.length = stats.processed ∧
      (∀ model ∈ models, (line model).hasSurrogate = false) ∧
      fs.write job.outputFile (Utf8.encodeLoose (lines models)) = .ok job.done.files ∧
      ∀ content later, fs.write job.outputFile content = .ok later →
        (job.streamIn later).models = models ∧ (job.streamIn later).failure = none := by
  obtain ⟨fs, opened, empty, ready, result, files⟩ := exists_opened returned
  obtain ⟨noFailure, counted, clean, written⟩ := extractInto_returned result ready
  rw [← files] at written
  refine ⟨fs, (job.streamIn fs).models, opened, ?_, clean, written,
    fun content later rewritten => ?_⟩
  · obtain ⟨models, stats'⟩ := Extraction.stream_of_no_failure _ job.options noFailure
    rw [← counted, stats', streamIn, models]
    exact (Nat.zero_add _).symm
  · exact Extraction.stream_rewrite job.options empty rewritten (apart fs opened) noFailure

end Job

/-- A run that returns, and whose output is none of the files it goes through, loses nothing. The
output is a text of as many lines as files were processed, each with a line break behind it. Read
back from the lines, the outlines are those that iterating over the same source gives, after the run
and whatever the output holds, and none of their texts has a surrogate. Another such run leaves the
same output exactly if it has the same outlines. -/
theorem done_lossless (job : Job) (stats : Stats) (returned : job.done.result = .ok stats)
    (apart : job.IsApart) :
    ∃ bytes text lines models,
      job.done.files.read job.outputFile = .ok bytes ∧ Utf8.decode bytes = .ok text ∧
      text.splitAt 10 = lines ++ [[]] ∧ lines.length = stats.processed ∧
      lines.mapM Source.ofLine? = some models ∧
      (∀ model ∈ models, model.toValue.hasSurrogate = false) ∧
      (job.streamIn job.done.files).models = models ∧
      (job.streamIn job.done.files).failure = none ∧
      (∃ opened, job.opened = .ok opened ∧
        ∀ content fs, opened.write job.outputFile content = .ok fs →
          (job.streamIn fs).models = models ∧ (job.streamIn fs).failure = none) ∧
      ∀ (other : Job) (otherStats : Stats), other.done.result = .ok otherStats → other.IsApart →
        (other.done.files.read other.outputFile = .ok bytes ↔
          (other.streamIn other.done.files).models = models) := by
  obtain ⟨fs, models, opened, count, clean, written, again⟩ :=
    Job.written_of_returned returned apart
  have decoded := Utf8.decode_encodeLoose (hasSurrogate_lines clean)
  obtain ⟨after, noFailure⟩ := again _ _ written
  refine ⟨_, lines models, models.map fun model => Value.Json.line model.toValue, models,
    FileSystem.read_write written, decoded, splitAt_lines models, ?_, mapM_lines models,
    fun model member => ?_, after, noFailure, ⟨fs, opened, again⟩,
    fun other otherStats otherReturned otherApart => ?_⟩
  · rw [List.length_map, count]
  · rw [← hasSurrogate_line]
    exact clean model member
  · obtain ⟨_, others, -, -, otherClean, otherWritten, otherAgain⟩ :=
      Job.written_of_returned otherReturned otherApart
    rw [FileSystem.read_write otherWritten, (otherAgain _ _ otherWritten).1]
    constructor
    · intro same
      have otherDecoded := Utf8.decode_encodeLoose (hasSurrogate_lines otherClean)
      rw [Except.ok.inj same, decoded] at otherDecoded
      exact lines_injective (Except.ok.inj otherDecoded).symm
    · intro same
      rw [same]

/-- A run over two enums, whose values hold a quote, a line break, a backslash and a control. -/
def quotedEnums : Job where
  workspace := twoEnums "\"q\\\"\\n\\\\\"" "\"\\u0001\""
  source := "s"
  outputFile := "o"
  options := .default
  keepGoing := true

theorem done_quotedEnums :
    ∃ bytes text lines models, quotedEnums.done.files.read "o" = .ok bytes ∧
      Utf8.decode bytes = .ok text ∧ text.splitAt 10 = lines ++ [[]] ∧ lines.length = 2 ∧
      lines.mapM Source.ofLine? = some models ∧
      (quotedEnums.streamIn quotedEnums.done.files).models = models := by
  have returned : quotedEnums.done.result = .ok ⟨2, 0, 2, 0⟩ :=
    Extraction.toOption_eq_some_iff.mp (by decide +kernel)
  have places : let fs := quotedEnums.opened.toOption.getD quotedEnums.workspace.files
      ∀ path ∈ Extraction.targets { quotedEnums.workspace with files := fs } .default "s",
        (fs.resolve false (fs.absolute path)).toOption.map Prod.fst ≠
          (fs.resolve false "o").toOption.map Prod.fst := by
    decide
  have apart : quotedEnums.IsApart := by
    intro fs opened path member same
    obtain rfl : quotedEnums.opened.toOption.getD quotedEnums.workspace.files = fs := by
      rw [opened]
      rfl
    exact absurd (congrArg (fun reached => reached.toOption.map Prod.fst) same)
      (places path member)
  obtain ⟨bytes, text, lines, models, read, decoded, split, count, back, -, after, -⟩ :=
    done_lossless quotedEnums ⟨2, 0, 2, 0⟩ returned apart
  exact ⟨bytes, text, lines, models, read, decoded, split, count, back, after⟩

end Outline.Command
