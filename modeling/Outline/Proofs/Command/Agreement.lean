import Outline.Proofs.Command.Output
import Outline.Proofs.FileSystem.Paths
import Outline.Proofs.Value.Page

/-!
What a run tells about itself.

The exit code, the report and the output of a run agree. A run that ends without a report has failed
to return; one that returns has a report under the name of the run, whose status says whether the
options could be loaded, whether extraction returned and whether a file failed. The name of the run
is new, so that writing the report leaves the output as extraction left it.
-/

set_option autoImplicit false

namespace Outline

open Model (Source)

/-! ### Reports -/

namespace Report

def fileName (runId : Text) : Text := runId ++ Text.ofString ".json"

private theorem isName_fileName {runId : Text} (free : Path.slash ∉ runId) :
    Path.isName (fileName runId) = true := by
  have longer : ∀ other : Text, other.length < 5 → fileName runId ≠ other := by
    intro other short same
    have length := congrArg List.length same
    have five : (Text.ofString ".json").length = 5 := by decide
    rw [fileName, List.length_append, five] at length
    omega
  have slashless : Path.slash ∉ fileName runId := by
    intro member
    rcases List.mem_append.mp member with inside | behind
    · exact free inside
    · exact absurd behind (by decide)
  exact Path.isName_iff.mpr ⟨longer _ (by decide), slashless, longer _ (by decide),
    longer _ (by decide)⟩

section

variable {fs later : FileSystem} {fields : List (Text × Value)} {runId time directory : Text}

private theorem exists_made_of_write (written : write fs fields runId time directory = .ok later) :
    ∃ made, fs.makeDirectories directory = .ok made ∧
      made.write (path directory runId) (Utf8.encodeLoose (page fields runId time)) =
        .ok later := by
  rw [write] at written
  cases above : fs.makeDirectories directory with
  | error e => rw [above] at written; cases written
  | ok made =>
    rw [above] at written
    exact ⟨made, rfl, written⟩

private theorem read_write (written : write fs fields runId time directory = .ok later) :
    later.read (path directory runId) = .ok (Utf8.encodeLoose (page fields runId time)) := by
  obtain ⟨made, -, stored⟩ := exists_made_of_write written
  exact FileSystem.read_write stored

private theorem read_write_other (written : write fs fields runId time directory = .ok later)
    (free : Path.slash ∉ runId) (avoids : fs.root.Avoids (fileName runId)) {other : Text}
    (absent : fileName runId ∉ Path.components (Path.join fs.directory other)) {content : Bytes}
    (before : fs.read other = .ok content) : later.read other = .ok content := by
  obtain ⟨made, above, stored⟩ := exists_made_of_write written
  have grown := FileSystem.makeDirectories_grows above
  have still := grown.read before fun _ _ => Set.notMem_empty _
  have ends : Path.EndsIn (fileName runId) (path directory runId) :=
    Path.EndsIn.join (.inl rfl) directory
  rw [← grown.directory_eq] at absent
  have avoidsMade := FileSystem.avoids_withDirectories avoids directory
  rw [FileSystem.withDirectories_of_ok above] at avoidsMade
  exact FileSystem.read_write_new avoidsMade
    (isName_fileName free) ends absent stored still

end

private theorem decode_page (fields : List (Text × Value)) (runId time : Text) :
    Utf8.decode (Utf8.encodeLoose (page fields runId time)) = .ok (page fields runId time) :=
  Utf8.decode_encodeLoose (Value.Json.hasSurrogate_page _)

private theorem read?_page_build (parts : Parts) (runId time : Text) :
    Value.Json.read? (page (build parts) runId time) = some (.record
      [("duration_seconds", parts.seconds.rounded.reread),
        ("options", (Value.record parts.options).reread),
        ("output_file", parts.outputFile.reread), ("run_id", .text runId.joinHalves),
        ("source", parts.source.reread), ("stats", (Value.record parts.stats).reread),
        ("status", parts.status.reread), ("timestamp_utc", .text time.joinHalves)]) := by
  have fields : withDefault "timestamp_utc" (.text time)
      (withDefault "run_id" (.text runId) (build parts)) =
        build parts ++ ([("run_id", .text runId), ("timestamp_utc", .text time)] :
          List (Text × Value)) := rfl
  rw [page, fields, Value.Json.read?_page, Value.reread]
  rfl

end Report

private theorem Stats.reread_fields (stats : Stats) : (Value.record stats.fields).reread = .record
    [("declarations_extracted", .int stats.declarations), ("files_failed", .int stats.failed),
      ("files_processed", .int stats.processed), ("parse_errors", .int stats.errors)] := rfl

private theorem Value.rereadItems_map_text (texts : List Text) :
    Value.rereadItems (texts.map .text) = texts.map fun t => .text t.joinHalves := by
  induction texts with
  | nil => rfl
  | cons t texts ih => rw [List.map_cons, Value.rereadItems, ih, Value.reread, List.map_cons]

private theorem Options.reread_fields (options : Options) :
    (Value.record options.fields).reread = .record
    [("exclude_dirs", .list (options.excludedDirectories.map fun t => .text t.joinHalves)),
      ("extensions", .list (options.extensions.map fun t => .text t.joinHalves)),
      ("legacy_scoping", .bool options.legacyScoping)] := by
  rw [← Value.rereadItems_map_text, ← Value.rereadItems_map_text]
  rfl

private theorem Extraction.failed_countsAfter_eq_zero_iff {w : Workspace} {options : Options}
    {paths : List Text} : (countsAfter w options {} paths).failed = 0 ↔
      ∀ path ∈ paths, isOutlined w options path = true := by
  simp [countsAfter, List.countP_eq_zero]

namespace Command

/-! ### What extraction leaves -/

section

variable {P : FileSystem → Prop}
  (made : ∀ {fs : FileSystem} (path : Text), P fs → P (fs.withDirectories path))
  (written : ∀ {fs later : FileSystem} {path : Text} {content : Bytes}, P fs →
    fs.write path content = .ok later → P later)

include written

private theorem writeLines_preserves {fs : FileSystem} (before : P fs) (outputFile : Text)
    (s : Extraction.Stream) : P (writeLines fs outputFile s).files := by
  unfold writeLines
  dsimp only
  cases stored : fs.write outputFile (encodeLines s.models).1 with
  | error e => split <;> exact before
  | ok later => split <;> exact written before stored

include made

private theorem extractTo_preserves {w : Workspace} (before : P w.files) (source outputFile : Text)
    (options : Options) (keepGoing : Bool) :
    P (extractTo w source outputFile options keepGoing).files := by
  unfold extractTo
  dsimp only
  have ready := made (Path.parent (w.files.absolute outputFile)) before
  cases above : w.files.makeDirectories (Path.parent (w.files.absolute outputFile)) with
  | error e =>
    dsimp only [Extracted.failed]
    exact ready
  | ok reached =>
    rw [FileSystem.withDirectories_of_ok above] at ready
    dsimp only
    cases emptied : reached.write outputFile [] with
    | error e =>
      dsimp only [Extracted.failed]
      exact ready
    | ok opened =>
      have lines := writeLines_preserves written (written ready emptied) outputFile
        (streamWritable { w with files := opened } source options keepGoing)
      dsimp only [extractInto]
      exact lines

private theorem extract_preserves {w : Workspace} (before : P w.files)
    (source? outputFile? : Option Text) (options : Options) (keepGoing : Bool) :
    P (extract w source? outputFile? options keepGoing).files := by
  unfold extract
  dsimp only
  split
  · exact before
  · split_ifs
    · exact before
    · exact before
  · split_ifs
    · exact extractTo_preserves made written before _ _ _ _
    · exact before

end

private theorem avoids_extract {w : Workspace} {name : Text} (avoids : w.files.root.Avoids name)
    (source? outputFile? : Option Text) (options : Options) (keepGoing : Bool) :
    (extract w source? outputFile? options keepGoing).files.root.Avoids name :=
  extract_preserves (P := fun fs => fs.root.Avoids name)
    (fun path before => FileSystem.avoids_withDirectories before path)
    (fun before stored => FileSystem.avoids_write before stored) avoids source? outputFile? options
    keepGoing

private theorem directory_extract (w : Workspace) (source? outputFile? : Option Text)
    (options : Options) (keepGoing : Bool) :
    (extract w source? outputFile? options keepGoing).files.directory = w.files.directory := by
  refine extract_preserves (P := fun fs => fs.directory = w.files.directory) (fun path same => ?_)
    (fun same stored => ?_) rfl source? outputFile? options keepGoing
  · exact (FileSystem.withDirectories_grows _ path).directory_eq.trans same
  · obtain ⟨_, grown, -⟩ := FileSystem.resolve_write stored
    exact grown.directory_eq.trans same

/-! ### The lines of the output -/

private theorem forall₂_lines (w : Workspace) (options : Options) {paths : List Text}
    (all : ∀ path ∈ paths, Extraction.isOutlined w options path = true) :
    List.Forall₂ (fun path line => ∃ model,
        (Extraction.extractFile w options path).result = .ok model ∧
          line = Value.Json.line model.toValue)
      paths ((Extraction.outlines w options paths).map fun model =>
        Value.Json.line model.toValue) := by
  induction paths with
  | nil => exact .nil
  | cons path paths ih =>
    obtain ⟨here, later⟩ := List.forall_mem_cons.mp all
    obtain ⟨d, found⟩ := Extraction.exists_diagnostics w options here
    have outlined : (Extraction.extractFile w options path).result = .ok d.model := by
      rw [Extraction.result_extractFile, found]
      rfl
    rw [Extraction.outlines_cons_of_ok w options found, List.map_cons]
    exact .cons ⟨d.model, outlined, rfl⟩ (ih later)

namespace Job

/-- Bytes are the lines of a run with some counts: one for each file that was processed. If no file
failed these are all files that the run goes through once its output is open, in order. Files fail
only below a directory and where the run keeps going. -/
def IsOutput (job : Job) (stats : Stats) (bytes : Bytes) : Prop :=
  ∃ opened text lines, job.opened = .ok opened ∧ Utf8.decode bytes = .ok text ∧
    text.splitAt 10 = lines ++ [[]] ∧ lines.length = stats.processed ∧
    (stats.failed = 0 →
      List.Forall₂ (fun path line => ∃ model,
          (Extraction.extractFile { job.workspace with files := opened } job.options path).result =
            .ok model ∧ line = Value.Json.line model.toValue)
        (Extraction.targets { job.workspace with files := opened } job.options job.source) lines) ∧
    (0 < stats.failed →
      opened.isDirectory (opened.absolute job.source) = true ∧ job.keepGoing = true)

variable {job : Job}

private theorem exists_output {stats : Stats} (returned : job.done.result = .ok stats) :
    ∃ bytes, job.done.files.read job.outputFile = .ok bytes ∧ job.IsOutput stats bytes := by
  obtain ⟨fs, opened, -, ready, result, files⟩ := exists_opened returned
  obtain ⟨noFailure, counted, clean, written⟩ := extractInto_returned result ready
  obtain ⟨models, counts⟩ := Extraction.stream_of_no_failure _ job.options noFailure
  have there := Extraction.isThere_of_no_failure _ job.options noFailure
  have passes := (Extraction.stream_failure_eq_none_iff _ job.options there _ _).mp noFailure
  rw [counted] at counts
  rw [models] at clean written
  rw [← files] at written
  refine ⟨_, FileSystem.read_write written, fs, _, _, opened,
    Utf8.decode_encodeLoose (hasSurrogate_lines clean), splitAt_lines _, ?_, fun none => ?_,
    fun some => ?_⟩
  · rw [List.length_map, counts]
    exact (Nat.zero_add _).symm
  · exact forall₂_lines _ _ (Extraction.failed_countsAfter_eq_zero_iff.mp (counts ▸ none))
  · rcases passes with patient | all
    · rw [Extraction.isPatient, Bool.and_eq_true, Bool.not_eq_true'] at patient
      exact ⟨there.resolve_left (by simp [patient.2]), patient.1⟩
    · have none := Extraction.failed_countsAfter_eq_zero_iff.mpr all
      rw [← counts] at none
      omega

end Job

/-! ### Runs -/

/-- The options of a run. -/
def optionsOf (s : Surroundings) (a : Arguments) : Except Failure Options :=
  (Options.load s.readers s.workspace.files s.environment a.config.join none).result.map
    fun options => if a.legacyScoping then { options with legacyScoping := true } else options

def extraction (s : Surroundings) (a : Arguments) (options : Options) : Extracted :=
  extract s.workspace a.source a.outputFile options (!a.failFast)

/-- The counts of a run; there are none where the options cannot be loaded or extraction fails. -/
def counts (s : Surroundings) (a : Arguments) : Except Failure Stats :=
  (optionsOf s a).bind fun options => (extraction s a options).result

/-- Whether the name of a run is new: it holds no slash, no link has the name of its report or leads
over it, and the path of the output does not have it. -/
def isNewRun (s : Surroundings) (a : Arguments) : Bool :=
  !s.runId.contains Path.slash &&
    !s.workspace.files.root.hasLinkOver (Report.fileName s.runId) [] &&
    a.outputFile.all fun outputFile =>
      !(Path.components (Path.join s.workspace.files.directory outputFile)).contains
        (Report.fileName s.runId)

/-- The status of a run by its counts, or by their absence. -/
def Status.of : Except Failure Stats → Status
  | .error _ => .failed
  | .ok stats => .ofStats stats

private theorem Status.of_eq_failed_iff {result : Except Failure Stats} :
    Status.of result = .failed ↔ ∃ failure, result = .error failure := by
  cases result with
  | error failure => exact ⟨fun _ => ⟨failure, rfl⟩, fun _ => rfl⟩
  | ok stats => by_cases clean : stats.failed = 0 <;> simp [Status.of, Status.ofStats, clean]

private theorem Status.of_eq_success_iff {result : Except Failure Stats} :
    Status.of result = .success ↔ ∃ stats, result = .ok stats ∧ stats.failed = 0 := by
  cases result with
  | error failure => simp [Status.of]
  | ok stats => simp [Status.of, Status.ofStats]

private theorem Status.of_eq_incomplete_iff {result : Except Failure Stats} :
    Status.of result = .incomplete ↔ ∃ stats, result = .ok stats ∧ 0 < stats.failed := by
  cases result with
  | error failure => simp [Status.of]
  | ok stats => simp [Status.of, Status.ofStats, Nat.pos_iff_ne_zero]

private theorem Status.name_eq_iff (status other : Status) :
    Text.ofString status.name = Text.ofString other.name ↔ status = other := by
  cases status <;> cases other <;> decide

private theorem Status.reread_name (status : Status) :
    (Value.text status.name).reread = .text status.name := by
  cases status <;> rfl

section

variable {s : Surroundings} {a : Arguments}

private theorem attempt_cases (s : Surroundings) (a : Arguments) :
    (∃ failure, optionsOf s a = .error failure ∧ (attempt s a).status = .failed ∧
      (attempt s a).stats = none ∧ (attempt s a).options = none ∧
      (attempt s a).files = s.workspace.files) ∨
    ∃ options, optionsOf s a = .ok options ∧ (attempt s a).options = some options ∧
      (attempt s a).files = (extraction s a options).files ∧
      ((∃ failure, (extraction s a options).result = .error failure ∧
          (attempt s a).status = .failed ∧ (attempt s a).stats = none) ∨
        ∃ stats, (extraction s a options).result = .ok stats ∧
          (attempt s a).status = .ofStats stats ∧ (attempt s a).stats = some stats) := by
  unfold attempt optionsOf
  dsimp only
  cases (Options.load s.readers s.workspace.files s.environment a.config.join none).result with
  | error failure => exact .inl ⟨failure, rfl, rfl, rfl, rfl, rfl⟩
  | ok options =>
    refine .inr ⟨_, rfl, ?_⟩
    unfold extraction
    dsimp only
    split
    · next failure failed => exact ⟨rfl, rfl, .inl ⟨failure, failed, rfl, rfl⟩⟩
    · next stats returned => exact ⟨rfl, rfl, .inr ⟨stats, returned, rfl, rfl⟩⟩

private theorem exists_report_of_finish {p : Progress} {code : Nat}
    (returned : (finish s a p).result = .ok code) :
    ∃ source outputFile directory, a.source = some source ∧ a.outputFile = some outputFile ∧
      a.reportDirectory = some directory ∧
      Report.write p.files (reportOf s source outputFile p) s.runId s.time directory =
        .ok (finish s a p).files ∧
      code = if p.status = .success then 0 else 1 := by
  unfold finish at returned ⊢
  split at returned
  · next source outputFile directory given output reports =>
    cases stored :
      Report.write p.files (reportOf s source outputFile p) s.runId s.time directory with
    | error e => simp [stored] at returned
    | ok files =>
      rw [stored] at returned
      exact ⟨source, outputFile, directory, given, output, reports, stored,
        (Except.ok.inj returned).symm⟩
  · exact absurd returned (by simp)

private theorem exists_report_of_run {code : Nat} (returned : (run s a).result = .ok code) :
    ∃ source outputFile directory, a.source = some source ∧ a.outputFile = some outputFile ∧
      a.reportDirectory = some directory ∧
      Report.write (attempt s a).files (reportOf s source outputFile (attempt s a)) s.runId s.time
        directory = .ok (run s a).files ∧
      code = if (attempt s a).status = .success then 0 else 1 := by
  unfold run at returned ⊢
  cases level : a.logLevel with
  | none => simp [level] at returned
  | some level =>
    simp only [level] at returned
    exact exists_report_of_finish returned

/-! ### The status -/

private theorem attempt_status (s : Surroundings) (a : Arguments) :
    (attempt s a).status = .of (counts s a) ∧ (attempt s a).stats = (counts s a).toOption ∧
      (attempt s a).options = (optionsOf s a).toOption := by
  rcases attempt_cases s a with ⟨failure, unloaded, status, stats, options, -⟩ |
    ⟨options, loaded, known, -, ⟨failure, failed, status, stats⟩ |
      ⟨counted, extracted, status, stats⟩⟩
  · have none : counts s a = .error failure := by rw [counts, unloaded]; rfl
    rw [status, stats, options, none, unloaded]
    exact ⟨rfl, rfl, rfl⟩
  · have none : counts s a = .error failure := by rw [counts, loaded]; exact failed
    rw [status, stats, known, none, loaded]
    exact ⟨rfl, rfl, rfl⟩
  · have some : counts s a = .ok counted := by rw [counts, loaded]; exact extracted
    rw [status, stats, known, some, loaded]
    exact ⟨rfl, rfl, rfl⟩

private theorem eq_zero_iff_success {status : Status} {code : Nat}
    (exit : code = if status = .success then 0 else 1) : code = 0 ↔ status = .success := by
  rw [exit]
  split_ifs with clean
  · exact ⟨fun _ => clean, fun _ => rfl⟩
  · exact ⟨fun impossible => absurd impossible (by decide), fun success => absurd success clean⟩

/-! ### The files -/

private theorem avoids_attempt {name : Text} (avoids : s.workspace.files.root.Avoids name) :
    (attempt s a).files.root.Avoids name ∧
      (attempt s a).files.directory = s.workspace.files.directory := by
  rcases attempt_cases s a with ⟨_, -, -, -, -, same⟩ | ⟨options, -, -, same, -⟩
  · rw [same]
    exact ⟨avoids, rfl⟩
  · rw [same]
    exact ⟨avoids_extract avoids _ _ _ _, directory_extract _ _ _ _ _⟩

private theorem read_run_of_attempt {source outputFile directory : Text}
    (output : a.outputFile = some outputFile) (new : isNewRun s a = true)
    (stored : Report.write (attempt s a).files (reportOf s source outputFile (attempt s a)) s.runId
      s.time directory = .ok (run s a).files)
    {content : Bytes} (before : (attempt s a).files.read outputFile = .ok content) :
    (run s a).files.read outputFile = .ok content := by
  rw [isNewRun, output, Bool.and_eq_true, Bool.and_eq_true] at new
  obtain ⟨⟨slashless, free⟩, absent⟩ := new
  rw [Bool.not_eq_true'] at free
  obtain ⟨avoids, same⟩ := avoids_attempt (a := a) (Entry.avoids_of_hasLinkOver free)
  refine Report.read_write_other stored ?_ avoids ?_ before
  · simpa using slashless
  · rw [same]
    simpa using absent

private theorem exists_job_of_counts {source outputFile : Text} (given : a.source = some source)
    (output : a.outputFile = some outputFile) {counted : Stats} (some : counts s a = .ok counted) :
    ∃ chosen, optionsOf s a = .ok chosen ∧
      (Job.mk s.workspace source outputFile chosen (!a.failFast)).done.result = .ok counted ∧
      (attempt s a).files =
        (Job.mk s.workspace source outputFile chosen (!a.failFast)).done.files := by
  rcases attempt_cases s a with ⟨failure, unloaded, -⟩ | ⟨options, loaded, -, files, -⟩
  · rw [counts, unloaded] at some
    cases some
  · rw [counts, loaded] at some
    have same : extraction s a options =
        (Job.mk s.workspace source outputFile options (!a.failFast)).done := by
      rw [extraction, given, output]
      rfl
    rw [same] at files
    refine ⟨options, loaded, ?_, files⟩
    rw [← same]
    exact some

private theorem attempt_files_of_nothing {source : Text} (given : a.source = some source)
    (nothing : (∃ failure, optionsOf s a = .error failure) ∨
      s.workspace.files.pathExists source = false) : (attempt s a).files = s.workspace.files := by
  rcases attempt_cases s a with ⟨_, -, -, -, -, same⟩ | ⟨options, loaded, -, same, -⟩
  · exact same
  · rcases nothing with ⟨failure, unloaded⟩ | missing
    · rw [loaded] at unloaded
      cases unloaded
    · rw [same, extraction, given]
      cases a.outputFile with
      | none => simp [extract, missing, Extracted.failed]
      | some outputFile => simp [extract, missing, Extracted.failed]

end

private theorem read?_reportOf (s : Surroundings) (a : Arguments) (source outputFile : Text) :
    Value.Json.read? (Report.page (reportOf s source outputFile (attempt s a)) s.runId s.time) =
      some (.record
        [("duration_seconds", s.seconds.rounded.reread),
          ("options",
            (Value.record (((optionsOf s a).toOption.map Options.fields).getD [])).reread),
          ("output_file", .text (s.workspace.files.absolute outputFile).joinHalves),
          ("run_id", .text s.runId.joinHalves),
          ("source", .text (s.workspace.files.absolute source).joinHalves),
          ("stats", (Value.record (((counts s a).toOption.map Stats.fields).getD [])).reread),
          ("status", .text (Status.of (counts s a)).name),
          ("timestamp_utc", .text s.time.joinHalves)]) := by
  obtain ⟨status, stats, options⟩ := attempt_status s a
  rw [reportOf, status, stats, options, Report.read?_page_build, Status.reread_name]
  rfl

/-- The exit code, the report and the output of a run that returns agree, if the name of the run is
new. The report stands under the name of the run and is read as a record. The exit code is zero
exactly if the status in it is success. The status is failed exactly if the options could not be
loaded or extraction failed, and there are no counts in the report then; otherwise it is success or
partial as no file failed or one did, the counts are in the report, and the output has one line for
each file that was processed. An output that was there is left alone where the options cannot be
loaded or there is no source. -/
theorem run_agrees (s : Surroundings) (a : Arguments) (code : Nat)
    (returned : (run s a).result = .ok code) (new : isNewRun s a = true) :
    ∃ source outputFile directory bytes text stats options status,
      a.source = some source ∧ a.outputFile = some outputFile ∧ a.reportDirectory = some directory ∧
      (run s a).files.read (Path.join directory (s.runId ++ Text.ofString ".json")) = .ok bytes ∧
      Utf8.decode bytes = .ok text ∧
      Value.Json.read? text = some (.record
        [("duration_seconds", s.seconds.rounded.reread), ("options", options),
          ("output_file", .text (s.workspace.files.absolute outputFile).joinHalves),
          ("run_id", .text s.runId.joinHalves),
          ("source", .text (s.workspace.files.absolute source).joinHalves),
          ("stats", stats), ("status", .text status),
          ("timestamp_utc", .text s.time.joinHalves)]) ∧
      (code = 0 ↔ status = Text.ofString "success") ∧
      (status = Text.ofString "failed" ↔ ∃ failure, counts s a = .error failure) ∧
      (status = Text.ofString "failed" → stats = .record []) ∧
      (status = Text.ofString "success" ↔
        ∃ counted, counts s a = .ok counted ∧ counted.failed = 0) ∧
      (status = Text.ofString "partial" ↔
        ∃ counted, counts s a = .ok counted ∧ 0 < counted.failed) ∧
      (∀ counted, counts s a = .ok counted →
        stats = .record
          [("declarations_extracted", .int counted.declarations),
            ("files_failed", .int counted.failed), ("files_processed", .int counted.processed),
            ("parse_errors", .int counted.errors)] ∧
        ∃ chosen output, optionsOf s a = .ok chosen ∧
          (run s a).files.read outputFile = .ok output ∧
          Job.IsOutput ⟨s.workspace, source, outputFile, chosen, !a.failFast⟩ counted output) ∧
      ((∃ failure, optionsOf s a = .error failure) → options = .record []) ∧
      (∀ chosen, optionsOf s a = .ok chosen → options = .record
        [("exclude_dirs", .list (chosen.excludedDirectories.map fun t => .text t.joinHalves)),
          ("extensions", .list (chosen.extensions.map fun t => .text t.joinHalves)),
          ("legacy_scoping", .bool chosen.legacyScoping)]) ∧
      ((∃ failure, optionsOf s a = .error failure) ∨ s.workspace.files.pathExists source = false →
        ∀ content, s.workspace.files.read outputFile = .ok content →
          (run s a).files.read outputFile = .ok content) := by
  obtain ⟨source, outputFile, directory, given, output, reports, stored, exit⟩ :=
    exists_report_of_run returned
  rw [(attempt_status s a).1] at exit
  refine ⟨source, outputFile, directory, _, _, _, _, (Status.of (counts s a)).name, given, output,
    reports, Report.read_write stored, Report.decode_page _ _ _,
    read?_reportOf s a source outputFile, ?_, ?_, fun failed => ?_, ?_, ?_, fun counted some => ?_,
    ?_, fun chosen loaded => ?_, fun nothing content before => ?_⟩
  · exact (eq_zero_iff_success exit).trans (Status.name_eq_iff _ .success).symm
  · exact (Status.name_eq_iff _ .failed).trans Status.of_eq_failed_iff
  · obtain ⟨failure, none⟩ := Status.of_eq_failed_iff.mp ((Status.name_eq_iff _ .failed).mp failed)
    rw [none]
    rfl
  · exact (Status.name_eq_iff _ .success).trans Status.of_eq_success_iff
  · exact (Status.name_eq_iff _ .incomplete).trans Status.of_eq_incomplete_iff
  · obtain ⟨chosen, loaded, done, files⟩ := exists_job_of_counts given output some
    obtain ⟨written, read, isOutput⟩ := Job.exists_output done
    rw [← files] at read
    refine ⟨?_, chosen, written, loaded, read_run_of_attempt output new stored read, isOutput⟩
    rw [some]
    exact Stats.reread_fields counted
  · rintro ⟨failure, unloaded⟩
    rw [unloaded]
    rfl
  · rw [loaded]
    exact Options.reread_fields chosen
  · rw [← attempt_files_of_nothing given nothing] at before
    exact read_run_of_attempt output new stored before

/-- Readers that find neither an environment file nor a document. -/
def bareReaders : Options.Readers where
  environment _ env := .ok env
  document _ _ := .error (.notFound [])

/-- A run over a directory with a file that cannot be outlined. -/
def patchyRun : Surroundings := ⟨Extraction.threeFiles, [], bareReaders, "1", .whole 0, "now"⟩

def patchyArguments : Arguments :=
  { source := some "s", outputFile := some "o", reportDirectory := some "r" }

/-- The run ends with exit code one, a report of a partial run, and the lines of the two files that
can be outlined. -/
theorem run_patchy :
    (run patchyRun patchyArguments).result = .ok 1 ∧
    (∃ bytes text options, (run patchyRun patchyArguments).files.read "r/1.json" = .ok bytes ∧
      Utf8.decode bytes = .ok text ∧
      Value.Json.read? text = some (.record
        [("duration_seconds", .int 0), ("options", options), ("output_file", .text "/o"),
          ("run_id", .text "1"), ("source", .text "/s"),
          ("stats", .record
            [("declarations_extracted", .int 2), ("files_failed", .int 1),
              ("files_processed", .int 2), ("parse_errors", .int 0)]),
          ("status", .text "partial"), ("timestamp_utc", .text "now")])) ∧
    ∃ bytes text lines, (run patchyRun patchyArguments).files.read "o" = .ok bytes ∧
      Utf8.decode bytes = .ok text ∧ text.splitAt 10 = lines ++ [[]] ∧ lines.length = 2 := by
  have returned : (run patchyRun patchyArguments).result = .ok 1 :=
    Extraction.toOption_eq_some_iff.mp (by decide +kernel)
  have counted : counts patchyRun patchyArguments = .ok ⟨2, 1, 2, 0⟩ :=
    Extraction.toOption_eq_some_iff.mp (by decide +kernel)
  obtain ⟨source, outputFile, directory, bytes, text, stats, options, status, given,
    output, reports, report, decoded, back, -, -, -, -, incomplete, left, -⟩ :=
      run_agrees patchyRun patchyArguments 1 returned (by decide)
  obtain rfl := Option.some.inj given
  obtain rfl := Option.some.inj output
  obtain rfl := Option.some.inj reports
  obtain rfl := incomplete.mpr ⟨_, counted, by decide⟩
  obtain ⟨rfl, _, written, -, read, _, lineText, lines, -, lineDecoded, split, count, -⟩ :=
    left _ counted
  have path : Path.join (Text.ofString "r") (patchyRun.runId ++ Text.ofString ".json") =
      Text.ofString "r/1.json" := by
    decide
  have texts : (patchyRun.workspace.files.absolute "o").joinHalves = Text.ofString "/o" ∧
      (patchyRun.workspace.files.absolute "s").joinHalves = Text.ofString "/s" ∧
      patchyRun.runId.joinHalves = Text.ofString "1" ∧
      patchyRun.time.joinHalves = Text.ofString "now" := by
    decide
  rw [path] at report
  rw [texts.1, texts.2.1, texts.2.2.1, texts.2.2.2] at back
  exact ⟨returned, ⟨bytes, text, options, report, decoded, back⟩, written, lineText, lines, read,
    lineDecoded, split, count⟩

end Command

end Outline
