import Outline.Proofs.Extraction.Accounting
import Outline.Proofs.Extraction.Discovery

/-!
The files of a source.
-/

set_option autoImplicit false

/-! ## The files that a run goes through

A run over a file goes through that file and cannot pass over it; a run over a directory goes
through the source files found below it. A run that does not fail gives the outlines of these files,
and it gives the same ones after a file that is none of them has been rewritten.
-/

namespace Outline.Extraction

variable (w : Workspace) (options : Options)

def targets (source : Text) : List Text :=
  if w.files.isFile (w.files.absolute source) then [w.files.absolute source]
  else sources w.files options (w.files.absolute source)

/-- Whether a run over a source passes over files that fail. -/
def isPatient (keepGoing : Bool) (source : Text) : Bool :=
  keepGoing && !w.files.isFile (w.files.absolute source)

def IsThere (source : Text) : Prop :=
  w.files.isFile (w.files.absolute source) = true ∨
    w.files.isDirectory (w.files.absolute source) = true

theorem streamFile_of_ok {path : Text} {d : Diagnostics}
    (found : (diagnose w options path).result = .ok d) (start : Stats) :
    streamFile w options path start =
      ⟨[d.model], start.record d, none, (diagnose w options path).events⟩ := by
  unfold streamFile
  dsimp only
  rw [found]

theorem streamFile_of_error {path : Text} {failure : Failure}
    (failed : (diagnose w options path).result = .error failure) (start : Stats) :
    streamFile w options path start =
      ⟨[], start.fail, some failure,
        (diagnose w options path).events ++ [failureNote path failure]⟩ := by
  unfold streamFile
  dsimp only
  rw [failed]

section

variable {source : Text} {limit : Option Nat} (asked : limit ≠ some 0) (keepGoing : Bool)
  (start : Stats)

include asked

private theorem stream_of_isFile (file : w.files.isFile (w.files.absolute source) = true) :
    stream w options keepGoing limit source start =
      streamFile w options (w.files.absolute source) start := by
  rw [stream, if_neg asked, if_pos file]

private theorem stream_of_not_isThere (missing : ¬IsThere w source) :
    stream w options keepGoing limit source start =
      ⟨[], start, some (.sourceNotFound (w.files.absolute source)), []⟩ := by
  rw [IsThere, not_or] at missing
  rw [stream, if_neg asked, if_neg missing.1, if_neg missing.2]

end

/-- The events aside, a run over a source is a run over its files. -/
theorem stream_eq_targets {source : Text} (there : IsThere w source) (keepGoing : Bool)
    (start : Stats) :
    let files := streamFiles w options (isPatient w keepGoing source) none
      (targets w options source) start
    (stream w options keepGoing none source start).models = files.models ∧
      (stream w options keepGoing none source start).stats = files.stats ∧
      (stream w options keepGoing none source start).failure = files.failure := by
  have all : (none : Option Nat) ≠ some 0 := nofun
  cases file : w.files.isFile (w.files.absolute source) with
  | true =>
    have impatient : isPatient w keepGoing source = false := by simp [isPatient, file]
    have single : targets w options source = [w.files.absolute source] := if_pos file
    have whole := stream_of_isFile w options all keepGoing start file
    rw [impatient, single, whole]
    cases found : (diagnose w options (w.files.absolute source)).result with
    | ok d =>
      rw [streamFile_of_ok w options found, streamFiles_cons_of_ok w options all found]
      exact ⟨rfl, rfl, rfl⟩
    | error failure =>
      rw [streamFile_of_error w options found, streamFiles_cons_of_stop w options all found]
      exact ⟨rfl, rfl, rfl⟩
  | false =>
    have patient : isPatient w keepGoing source = keepGoing := by simp [isPatient, file]
    have below : targets w options source = sources w.files options (w.files.absolute source) :=
      if_neg (by simp [file])
    have directory := there.resolve_left (by simp [file])
    rw [patient, below]
    exact stream_eq_streamFiles w options directory keepGoing none start

theorem isThere_of_no_failure {keepGoing : Bool} {source : Text} {start : Stats}
    (ended : (stream w options keepGoing none source start).failure = none) : IsThere w source := by
  by_contra missing
  rw [stream_of_not_isThere w options (by simp) keepGoing start missing] at ended
  exact absurd ended (by simp)

theorem stream_failure_eq_none_iff {source : Text} (there : IsThere w source) (keepGoing : Bool)
    (start : Stats) :
    (stream w options keepGoing none source start).failure = none ↔
      Passes w options (isPatient w keepGoing source) (targets w options source) := by
  have same := (stream_eq_targets w options there keepGoing start).2.2
  rw [same]
  constructor
  · intro ended
    cases patient : isPatient w keepGoing source with
    | true => exact .inl rfl
    | false =>
      rw [patient] at ended
      exact .inr (outlined_of_no_failure w options ended)
  · intro passes
    exact (streamFiles_whole w options passes start).2.2

/-- A run that does not fail gives the outlines of its files, and counts them. -/
theorem stream_of_no_failure {keepGoing : Bool} {source : Text} {start : Stats}
    (ended : (stream w options keepGoing none source start).failure = none) :
    (stream w options keepGoing none source start).models =
        outlines w options (targets w options source) ∧
      (stream w options keepGoing none source start).stats =
        countsAfter w options start (targets w options source) := by
  have there := isThere_of_no_failure w options ended
  have passes := (stream_failure_eq_none_iff w options there keepGoing start).mp ended
  obtain ⟨models, stats, -⟩ := stream_eq_targets w options there keepGoing start
  obtain ⟨models', stats', -⟩ := streamFiles_whole w options passes start
  exact ⟨models.trans models', stats.trans stats'⟩

theorem models_stream_some (keepGoing : Bool) (count : Nat) (source : Text) (start : Stats) :
    (stream w options keepGoing (some count) source start).models =
      (stream w options keepGoing none source start).models.take count := by
  cases count with
  | zero => rw [stream, if_pos rfl, List.take_zero]; rfl
  | succ count =>
    by_cases directory : w.files.isDirectory (w.files.absolute source) = true
    · rw [(stream_eq_streamFiles w options directory keepGoing (some (count + 1)) start).1,
        (stream_eq_streamFiles w options directory keepGoing none start).1]
      exact (streamFiles_some w options keepGoing (count + 1) _ start).1
    by_cases file : w.files.isFile (w.files.absolute source) = true
    · rw [stream_of_isFile w options (by simp) keepGoing start file,
        stream_of_isFile w options (by simp) keepGoing start file]
      cases found : (diagnose w options (w.files.absolute source)).result with
      | ok d =>
        rw [streamFile_of_ok w options found]
        exact (List.take_of_length_le (Nat.succ_le_succ (Nat.zero_le _))).symm
      | error failure =>
        rw [streamFile_of_error w options found]
        rfl
    · have missing : ¬IsThere w source := not_or.mpr ⟨file, directory⟩
      rw [stream_of_not_isThere w options (by simp) keepGoing start missing,
        stream_of_not_isThere w options (by simp) keepGoing start missing, List.take_nil]

/-! ### Rewriting a file that is none of them -/

theorem toOption_eq_some_iff {ε α : Type} {result : Except ε α} {a : α} :
    result.toOption = some a ↔ result = .ok a := by
  cases result <;> simp [Except.toOption]

section Rewriting

variable {w} {later : FileSystem} {output : Text} {old new : Bytes}
  (before : w.files.read output = .ok old) (written : w.files.write output new = .ok later)

include before written

private theorem extractFile_rewrite {path : Text}
    (apart : w.files.resolve false (w.files.absolute path) ≠ w.files.resolve false output) :
    (extractFile { w with files := later } options path).result.toOption =
      (extractFile w options path).result.toOption := by
  have same := FileSystem.absolute_rewrite before written path
  have alike : ∀ model, (extractFile { w with files := later } options path).result = .ok model ↔
      (extractFile w options path).result = .ok model := by
    intro model
    rw [extractFile_eq_ok_iff, extractFile_eq_ok_iff, same]
    simp only [FileSystem.read_rewrite_iff before written apart]
  refine Option.ext fun model => ?_
  rw [toOption_eq_some_iff, toOption_eq_some_iff, alike]

private theorem targets_rewrite (source : Text) :
    targets { w with files := later } options source = targets w options source := by
  have same := FileSystem.absolute_rewrite before written source
  have kind := (FileSystem.kind_rewrite before written (w.files.absolute source)).2
  rw [targets, targets, sources_rewrite options before written]
  dsimp only
  rw [same, kind]

private theorem isPatient_rewrite (keepGoing : Bool) (source : Text) :
    isPatient { w with files := later } keepGoing source = isPatient w keepGoing source := by
  have same := FileSystem.absolute_rewrite before written source
  have kind := (FileSystem.kind_rewrite before written (w.files.absolute source)).2
  rw [isPatient, isPatient]
  dsimp only
  rw [same, kind]

private theorem isThere_rewrite {source : Text} (there : IsThere w source) :
    IsThere { w with files := later } source := by
  have same := FileSystem.absolute_rewrite before written source
  obtain ⟨directory, file⟩ := FileSystem.kind_rewrite before written (w.files.absolute source)
  rw [IsThere]
  dsimp only
  rw [same, directory, file]
  exact there

theorem stream_rewrite {source : Text}
    (apart : ∀ path ∈ targets w options source,
      w.files.resolve false (w.files.absolute path) ≠ w.files.resolve false output)
    {keepGoing : Bool} {start : Stats}
    (ended : (stream w options keepGoing none source start).failure = none) :
    (stream { w with files := later } options keepGoing none source start).models =
        (stream w options keepGoing none source start).models ∧
      (stream { w with files := later } options keepGoing none source start).failure = none := by
  have alike := fun path member => extractFile_rewrite options before written (apart path member)
  have there := isThere_of_no_failure w options ended
  have thereNow := isThere_rewrite before written there
  have passes := (stream_failure_eq_none_iff w options there keepGoing start).mp ended
  have endedNow : (stream { w with files := later } options keepGoing none source start).failure =
      none := by
    rw [stream_failure_eq_none_iff _ options thereNow, targets_rewrite options before written,
      isPatient_rewrite before written]
    refine passes.imp id fun all path member => ?_
    have outlined := all path member
    rw [isOutlined] at outlined ⊢
    rw [alike path member]
    exact outlined
  refine ⟨?_, endedNow⟩
  rw [(stream_of_no_failure _ options endedNow).1, (stream_of_no_failure w options ended).1,
    targets_rewrite options before written]
  exact List.filterMap_congr alike

end Rewriting

end Outline.Extraction

/-! ## Outlining many files is outlining each of them

The ways to outline a source, all at once or one after the other, as outlines or as plain data,
agree: for a directory they give the outlines of the files found below it that can be outlined, each
as it is outlined alone and under the path it was found by; for a file they give its outline or its
failure.
-/

namespace Outline.Extraction

variable (w : Workspace) (options : Options)

private theorem path_of_extractFile {path : Text} {model : Model.Source}
    (found : (extractFile w options path).result = .ok model) :
    model.path = w.files.absolute path := by
  obtain ⟨tree, rfl⟩ := exists_build_of_extractFile w options found
  rfl

private theorem extractValues_of_no_failure {source : Text}
    (noFailure : (stream w options true none source {}).failure = none) :
    (extractValues w options source).result =
      .ok (stream w options true none source {}).values := by
  rw [extractValues]
  dsimp only
  rw [noFailure]

private theorem extractValues_of_failure {source : Text} {failure : Failure}
    (ended : (stream w options true none source {}).failure = some failure) :
    (extractValues w options source).result = .error failure := by
  rw [extractValues]
  dsimp only
  rw [ended]

private theorem extractDirectory_of_no_failure {directory : Text} {keepGoing : Bool}
    (there : w.files.isDirectory (w.files.absolute directory) = true)
    (noFailure : (stream w options keepGoing none directory {}).failure = none) :
    (extractDirectory w options keepGoing directory).result =
      .ok ((stream w options keepGoing none directory {}).models,
        (stream w options keepGoing none directory {}).stats) := by
  have all : (none : Option Nat) ≠ some 0 := nofun
  have same := stream_eq_streamDirectory w options there all keepGoing {}
  rw [same] at noFailure ⊢
  rw [extractDirectory, there]
  dsimp only
  rw [if_neg (by simp), noFailure]

/-! ### One file -/

private theorem diagnose_absolute (proper : w.files.isProper = true) (path : Text) :
    diagnose w options (w.files.absolute path) = diagnose w options path := by
  rw [diagnose, FileSystem.absolute_absolute proper, ← diagnose]

section File

variable {source : Text} (proper : w.files.isProper = true)
  (there : w.files.isFile (w.files.absolute source) = true)

include proper there

private theorem stream_of_extractFile_ok {model : Model.Source}
    (found : (extractFile w options source).result = .ok model) {limit : Option Nat}
    (asked : limit ≠ some 0) (keepGoing : Bool) (start : Stats) :
    (stream w options keepGoing limit source start).models = [model] ∧
      (stream w options keepGoing limit source start).failure = none := by
  rw [result_extractFile] at found
  cases diagnosed : (diagnose w options source).result with
  | ok d =>
    rw [diagnosed] at found
    rw [← diagnose_absolute w options proper] at diagnosed
    rw [stream_of_isFile w options asked keepGoing start there,
      streamFile_of_ok w options diagnosed]
    exact ⟨congrArg ([·]) (Except.ok.inj found), rfl⟩
  | error failure => exact absurd found (by simp [diagnosed, Except.map])

private theorem stream_of_extractFile_error {failure : Failure}
    (failed : (extractFile w options source).result = .error failure) {limit : Option Nat}
    (asked : limit ≠ some 0) (keepGoing : Bool) (start : Stats) :
    (stream w options keepGoing limit source start).models = [] ∧
      (stream w options keepGoing limit source start).failure = some failure := by
  have diagnosed := diagnose_of_extractFile w options failed
  rw [← diagnose_absolute w options proper] at diagnosed
  rw [stream_of_isFile w options asked keepGoing start there,
    streamFile_of_error w options diagnosed]
  exact ⟨rfl, rfl⟩

end File

/-! ### All ways agree -/

/-- The files found below a directory are outlined alike by all ways to outline the directory: each
as it is outlined alone, in the order in which they were found, those that fail being left out, and
under the path that was found. A file is outlined alike by all ways, and fails alike. -/
theorem batch_eq_each (w : Workspace) (options : Options) (proper : w.files.isProper = true) :
    (∀ directory, w.files.isDirectory (w.files.absolute directory) = true →
      ∃ found, (discover w.files options directory).result = .ok found ∧
        let models := found.filterMap fun path => (extractFile w options path).result.toOption
        (∃ stats, (extractDirectory w options true directory).result = .ok (models, stats)) ∧
        (∀ limit start, (stream w options true limit directory start).models = upTo limit models ∧
          (stream w options true limit directory start).values =
            (upTo limit models).map Model.Source.toValue ∧
          (stream w options true limit directory start).failure = none) ∧
        (extractValues w options directory).result = .ok (models.map Model.Source.toValue) ∧
        ∀ path ∈ found, ∀ model, (extractFile w options path).result = .ok model →
          model.path = path) ∧
    ∀ source, w.files.isFile (w.files.absolute source) = true →
      (∀ model, (extractFile w options source).result = .ok model →
        (∀ keepGoing limit start, limit ≠ some 0 →
          (stream w options keepGoing limit source start).models = [model] ∧
          (stream w options keepGoing limit source start).values = [model.toValue] ∧
          (stream w options keepGoing limit source start).failure = none) ∧
        (extractValues w options source).result = .ok [model.toValue]) ∧
      ∀ failure, (extractFile w options source).result = .error failure →
        (∀ keepGoing limit start, limit ≠ some 0 →
          (stream w options keepGoing limit source start).models = [] ∧
          (stream w options keepGoing limit source start).values = [] ∧
          (stream w options keepGoing limit source start).failure = some failure) ∧
        (extractValues w options source).result = .error failure := by
  refine ⟨fun directory there => ?_, fun source there =>
    ⟨fun model found => ?_, fun failure failed => ?_⟩⟩
  · have searched := result_discover options there
    rw [← sources_absolute options proper] at searched
    have streamed := stream_directory w options there
    refine ⟨_, searched, ?_, fun limit start => ?_, ?_, fun path member model found => ?_⟩
    · obtain ⟨noFailure, models⟩ := streamed none {}
      refine ⟨(stream w options true none directory {}).stats, ?_⟩
      rw [extractDirectory_of_no_failure w options there noFailure, models]
      rfl
    · obtain ⟨noFailure, models⟩ := streamed limit start
      exact ⟨models, congrArg _ models, noFailure⟩
    · obtain ⟨noFailure, models⟩ := streamed none {}
      rw [extractValues_of_no_failure w options noFailure, Stream.values, models]
      rfl
    · have normal := (isSourcePath_of_mem_sources options proper member).isNormal
      exact (path_of_extractFile w options found).trans (normal.absolute_eq _)
  · have streamed := fun limit (asked : limit ≠ some 0) =>
      stream_of_extractFile_ok w options proper there found asked
    refine ⟨fun keepGoing limit start asked => ?_, ?_⟩
    · obtain ⟨models, noFailure⟩ := streamed limit asked keepGoing start
      exact ⟨models, congrArg _ models, noFailure⟩
    · obtain ⟨models, noFailure⟩ := streamed none (by simp) true {}
      rw [extractValues_of_no_failure w options noFailure, Stream.values, models]
      rfl
  · have streamed := fun limit (asked : limit ≠ some 0) =>
      stream_of_extractFile_error w options proper there failed asked
    refine ⟨fun keepGoing limit start asked => ?_, ?_⟩
    · obtain ⟨models, ended⟩ := streamed limit asked keepGoing start
      exact ⟨models, congrArg _ models, ended⟩
    · exact extractValues_of_failure w options (streamed none (by simp) true {}).2

/-- A directory with a file that can be outlined, one that cannot, and a link that leads nowhere. -/
def mixedFiles : Workspace where
  files := ⟨.directory
    [("s", .directory [("b.cs", .file [2]), ("a.cs", .file [1]), ("c.cs", .link "nowhere")])], "/"⟩
  parser := [([1], enumOf "\"a\""), ([2], enumOf "\"\\U80000000\"")]

/-- The ways to outline a directory agree on the files that fail, and a run over a single file fails
as the file does. -/
theorem batch_mixedFiles :
    (discover mixedFiles.files .default "s").result =
        .ok [Text.ofString "/s/a.cs", Text.ofString "/s/b.cs", Text.ofString "/s/c.cs"] ∧
      (∃ models stats,
        (extractDirectory mixedFiles .default true "s").result = .ok (models, stats) ∧
        models.length = 1 ∧ (extractValues mixedFiles .default "s").result =
          .ok (models.map Model.Source.toValue)) ∧
      (stream mixedFiles .default true none "s/b.cs" {}).failure = some .overflow := by
  have proper : mixedFiles.files.isProper = true := by decide
  have searched : (discover mixedFiles.files .default "s").result =
      .ok [Text.ofString "/s/a.cs", Text.ofString "/s/b.cs", Text.ofString "/s/c.cs"] := by
    decide
  obtain ⟨directories, files⟩ := batch_eq_each mixedFiles .default proper
  obtain ⟨found, result, ⟨stats, extracted⟩, -, values, -⟩ := directories "s" (by decide)
  obtain rfl := Except.ok.inj (searched.symm.trans result)
  obtain ⟨-, fails⟩ := files "s/b.cs" (by decide)
  refine ⟨searched, ⟨_, stats, extracted, by decide +kernel, values⟩, ?_⟩
  exact ((fails .overflow (by decide +kernel)).1 true none {} (by simp)).2.2

end Outline.Extraction
