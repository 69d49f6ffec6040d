import Mathlib.Algebra.Ring.Nat
import Outline.Extraction
import Outline.Proofs.FileSystem.Growth

/-!
Runs over files.
-/

set_option autoImplicit false

/-! ## What the outline of a file is, the events on the way left aside

A file whose path is in order is outlined exactly if it can be read and its tree has an outline; the
outline is then built from what the tree shows, under the normal path of the file.
-/

namespace Outline.Extraction

theorem result_extractTree (tree : ParseTree) (path : Text) (legacy : Bool) :
    (extractTree tree path legacy).result = outline tree path legacy := by
  simp only [extractTree, Logged.result_bind, result_note, result_report, Logged.result_ofExcept,
    Logged.result_pure, Except.bind]
  cases outline tree path legacy <;> rfl

private theorem result_parseSource (parser : Parser) (source : Bytes) :
    (parseSource parser source).result = .ok (parser.parse source) := by
  simp only [parseSource, Logged.result_bind, result_note, Except.bind]
  split_ifs <;> rfl

variable (w : Workspace)

theorem result_parseFile (path : Text) : (parseFile w path).result =
    ((w.files.read path).mapError Failure.file).map fun source =>
      (w.parser.parse source, source) := by
  unfold parseFile
  cases w.files.read path with
  | error e =>
    dsimp only
    split_ifs <;> rfl
  | ok source =>
    simp only [Logged.result_bind, result_parseSource, Except.bind]
    split_ifs <;> rfl

theorem result_diagnoseContent (path : Text) (legacy : Bool) :
    (diagnoseContent w path legacy).result =
      ((w.files.read path).mapError Failure.file).bind fun source =>
        (outline (w.parser.parse source) path legacy).map fun model =>
          ⟨model, (w.parser.parse source).errorCount⟩ := by
  simp only [diagnoseContent, Logged.result_bind, result_parseFile]
  cases w.files.read path with
  | error e => rfl
  | ok source =>
    simp only [Except.mapError, Except.map, Except.bind, result_report]
    split_ifs
    all_goals
      simp only [Logged.result_bind, result_note, result_extractTree, Logged.result_pure,
        Except.bind]

variable (options : Options)

theorem result_extractFile (path : Text) : (extractFile w options path).result =
    (diagnose w options path).result.map Diagnostics.model := by
  unfold extractFile
  dsimp only
  cases (diagnose w options path).result <;> rfl

/-- A file is outlined exactly if it can be read, is named as a source file and its tree has an
outline. -/
theorem extractFile_eq_ok_iff {path : Text} {model : Model.Source} :
    (extractFile w options path).result = .ok model ↔
      ∃ source, w.files.read (w.files.absolute path) = .ok source ∧
        options.extensions.contains (Path.extension (w.files.absolute path)) = true ∧
        outline (w.parser.parse source) (w.files.absolute path) options.legacyScoping =
          .ok model := by
  rw [result_extractFile, diagnose]
  split_ifs with noFile noSource
  · rw [Bool.not_eq_true', ← Bool.not_eq_true, FileSystem.isFile_iff] at noFile
    constructor
    · intro found
      exact absurd found (by simp [Except.map])
    · rintro ⟨source, read, -⟩
      exact absurd ⟨source, read⟩ noFile
  · constructor
    · intro found
      exact absurd found (by simp [Except.map])
    · rintro ⟨source, -, named, -⟩
      exact absurd named (by simpa using noSource)
  · rw [Bool.not_eq_true, Bool.not_eq_false'] at noSource
    rw [withinFile, result_diagnoseContent, noSource]
    cases w.files.read (w.files.absolute path) with
    | error e => simp [Except.mapError, Except.bind, Except.map]
    | ok source =>
      simp only [Except.mapError, Except.bind, Except.ok.injEq, exists_eq_left', true_and]
      cases outline (w.parser.parse source) (w.files.absolute path) options.legacyScoping with
      | error failure => simp [Except.map]
      | ok built => simp [Except.map]

theorem exists_build_of_extractFile {path : Text} {model : Model.Source}
    (found : (extractFile w options path).result = .ok model) :
    ∃ tree : ParseTree, model = Model.build (tree.view options.legacyScoping)
      (w.files.absolute path) options.legacyScoping := by
  obtain ⟨source, -, -, built⟩ := (extractFile_eq_ok_iff w options).mp found
  refine ⟨w.parser.parse source, ?_⟩
  rw [outline] at built
  split_ifs at built
  exact (Except.ok.inj built).symm

/-! ### Small trees -/

def leaf (type text field : String) : ParseTree :=
  .node
    { type := type, field := some (Text.ofString field), bytes := some (Utf8.encodeLoose text) } []

/-- A file with an enum of one member, whose initializer is a string literal. -/
def enumOf (literal : String) : ParseTree :=
  .node { type := "compilation_unit" }
    [.node { type := "enum_declaration" }
      [leaf "identifier" "E" "name",
        .node { type := "enum_member_declaration" }
          [leaf "identifier" "A" "name", leaf "string_literal" literal "value"]]]

end Outline.Extraction

/-! ## What a run over a directory gives

A run that keeps going fails on no file: it gives the outlines of the files that can be outlined,
each as it would be outlined alone, in the order of the paths and as many as are asked for.
-/

namespace Outline.Extraction

namespace Stream

variable (s : Stream) (events : List Log.Event) (model : Model.Source)

@[simp] theorem failure_after : (s.after events).failure = s.failure := rfl

@[simp] theorem models_after : (s.after events).models = s.models := rfl

@[simp] theorem failure_yielding : (s.yielding model).failure = s.failure := rfl

@[simp] theorem models_yielding : (s.yielding model).models = model :: s.models := rfl

end Stream

/-- The first elements of a list, as many as a limit allows. -/
def upTo {α : Type} : Option Nat → List α → List α
  | none, items => items
  | some count, items => items.take count

def outlines (w : Workspace) (options : Options) (paths : List Text) : List Model.Source :=
  paths.filterMap fun path => (extractFile w options path).result.toOption

/-- The outlines of the source files below a directory that can be outlined. -/
def outlinesBelow (w : Workspace) (options : Options) (directory : Text) : List Model.Source :=
  outlines w options (sources w.files options (w.files.absolute directory))

variable (w : Workspace) (options : Options)

/-! ### One file -/

theorem outlines_cons_of_ok {path : Text} {paths : List Text} {d : Diagnostics}
    (found : (diagnose w options path).result = .ok d) :
    outlines w options (path :: paths) = d.model :: outlines w options paths := by
  have here : (extractFile w options path).result.toOption = some d.model := by
    rw [result_extractFile, found]
    rfl
  rw [outlines, List.filterMap_cons, here, outlines]

private theorem outlines_cons_of_error {path : Text} {paths : List Text} {failure : Failure}
    (failed : (diagnose w options path).result = .error failure) :
    outlines w options (path :: paths) = outlines w options paths := by
  have here : (extractFile w options path).result.toOption = none := by
    rw [result_extractFile, failed]
    rfl
  rw [outlines, List.filterMap_cons, here, outlines]

/-! ### A run -/

private theorem upTo_cons {α : Type} {limit : Option Nat} (more : limit ≠ some 0) (item : α)
    (items : List α) : upTo limit (item :: items) = item :: upTo (limit.map (· - 1)) items := by
  rcases limit with _ | _ | count
  · rfl
  · exact absurd rfl more
  · rfl

private theorem streamFiles_cons {keepGoing : Bool} {limit : Option Nat} (more : limit ≠ some 0)
    (path : Text) (paths : List Text) (stats : Stats) :
    streamFiles w options keepGoing limit (path :: paths) stats =
      match (diagnose w options path).result with
      | .ok d =>
        ((streamFiles w options keepGoing (limit.map (· - 1)) paths (stats.record d)).yielding
          d.model).after (diagnose w options path).events
      | .error failure =>
        if keepGoing then
          (streamFiles w options keepGoing limit paths stats.fail).after
            ((diagnose w options path).events ++ [skipNote path failure])
        else
          ⟨[], stats.fail, some failure,
            (diagnose w options path).events ++ [skipNote path failure]⟩ := by
  rcases limit with _ | _ | count
  · rfl
  · exact absurd rfl more
  · rfl

private theorem streamFiles_keepGoing (limit : Option Nat) (paths : List Text) (stats : Stats) :
    (streamFiles w options true limit paths stats).failure = none ∧
      (streamFiles w options true limit paths stats).models =
        upTo limit (outlines w options paths) := by
  induction paths generalizing limit stats with
  | nil => rcases limit with _ | _ | count <;> exact ⟨rfl, rfl⟩
  | cons path paths ih =>
    by_cases more : limit = some 0
    · subst more
      exact ⟨rfl, rfl⟩
    rw [streamFiles_cons w options more]
    cases found : (diagnose w options path).result with
    | ok d =>
      obtain ⟨noFailure, models⟩ := ih (limit.map (· - 1)) (stats.record d)
      rw [outlines_cons_of_ok w options found, upTo_cons more, ← models]
      simpa using noFailure
    | error failure =>
      obtain ⟨noFailure, models⟩ := ih limit stats.fail
      rw [outlines_cons_of_error w options found, ← models]
      simpa using noFailure

theorem stream_directory {source : Text}
    (there : w.files.isDirectory (w.files.absolute source) = true) (limit : Option Nat)
    (stats : Stats) :
    (stream w options true limit source stats).failure = none ∧
      (stream w options true limit source stats).models =
        upTo limit (outlinesBelow w options source) := by
  rw [stream, outlinesBelow]
  by_cases nothing : limit = some 0
  · subst nothing
    exact ⟨rfl, rfl⟩
  · rw [if_neg nothing, FileSystem.isFile_of_isDirectory there, if_neg Bool.false_ne_true,
      if_pos there, streamDirectory]
    split_ifs with empty
    · rw [List.isEmpty_iff.mp empty]
      rcases limit with _ | count
      · exact ⟨rfl, rfl⟩
      · exact ⟨rfl, List.take_nil.symm⟩
    · exact streamFiles_keepGoing w options limit _ stats

end Outline.Extraction

/-! ## The accounts of a run

A run that has gone through some files has added to the counts it began with one processed file for
each outline it gave, their types and their syntax errors, and one failed file for each of the
others. This holds wherever the run is left: a run over files behind others is the run over the
later ones from the counts that the first ones leave, and a run that is asked for fewer outlines
gives the first of them.
-/

namespace Outline.Extraction

def isOutlined (w : Workspace) (options : Options) (path : Text) : Bool :=
  (extractFile w options path).result.toOption.isSome

def errorsIn (w : Workspace) (path : Text) : Nat :=
  match w.files.read (w.files.absolute path) with
  | .ok source => (w.parser.parse source).errorCount
  | .error _ => 0

/-- The counts of a run that began with some counts and has gone through files. -/
def countsAfter (w : Workspace) (options : Options) (start : Stats) (paths : List Text) :
    Stats where
  processed := start.processed + (outlines w options paths).length
  failed := start.failed + paths.countP fun path => !isOutlined w options path
  declarations := start.declarations +
    ((outlines w options paths).map Model.Source.declarationCount).sum
  errors := start.errors + ((paths.filter (isOutlined w options)).map (errorsIn w)).sum

variable (w : Workspace) (options : Options)

/-! ### One file -/

private theorem isOutlined_of_ok {path : Text} {d : Diagnostics}
    (found : (diagnose w options path).result = .ok d) : isOutlined w options path = true := by
  rw [isOutlined, result_extractFile, found]
  rfl

private theorem isOutlined_of_error {path : Text} {failure : Failure}
    (failed : (diagnose w options path).result = .error failure) :
    isOutlined w options path = false := by
  rw [isOutlined, result_extractFile, failed]
  rfl

theorem exists_diagnostics {path : Text} (outlined : isOutlined w options path = true) :
    ∃ d, (diagnose w options path).result = .ok d := by
  cases found : (diagnose w options path).result with
  | ok d => exact ⟨d, rfl⟩
  | error failure => exact absurd outlined (by simp [isOutlined_of_error w options found])

theorem diagnose_of_extractFile {path : Text} {failure : Failure}
    (failed : (extractFile w options path).result = .error failure) :
    (diagnose w options path).result = .error failure := by
  rw [result_extractFile] at failed
  cases found : (diagnose w options path).result with
  | ok d => simp [found, Except.map] at failed
  | error cause =>
    rw [found] at failed
    exact congrArg Except.error (Except.error.inj failed)

private theorem errors_of_diagnose {path : Text} {d : Diagnostics}
    (found : (diagnose w options path).result = .ok d) : d.errors = errorsIn w path := by
  rw [diagnose] at found
  split_ifs at found with noFile noSource
  · exact absurd found (by simp)
  · exact absurd found (by simp)
  · rw [withinFile, result_diagnoseContent] at found
    rw [errorsIn]
    cases read : w.files.read (w.files.absolute path) with
    | error e => simp [read, Except.mapError, Except.bind] at found
    | ok source =>
      rw [read] at found
      simp only [Except.mapError, Except.bind] at found
      cases built : outline (w.parser.parse source) (w.files.absolute path)
        options.legacyScoping with
      | error failure => simp [built, Except.map] at found
      | ok model =>
        rw [built] at found
        rw [← Except.ok.inj found]

private theorem countsAfter_cons_of_ok {path : Text} {d : Diagnostics}
    (found : (diagnose w options path).result = .ok d) (start : Stats) (paths : List Text) :
    countsAfter w options start (path :: paths) =
      countsAfter w options (start.record d) paths := by
  have outlined := isOutlined_of_ok w options found
  have errors := errors_of_diagnose w options found
  simp only [countsAfter, Stats.record, outlines_cons_of_ok w options found, List.length_cons,
    List.map_cons, List.sum_cons, List.countP_cons, List.filter_cons, outlined, errors, ↓reduceIte,
    Bool.not_true, Bool.false_eq_true, Nat.add_zero, Nat.add_assoc, Nat.add_comm 1]

private theorem countsAfter_cons_of_error {path : Text} {failure : Failure}
    (failed : (diagnose w options path).result = .error failure) (start : Stats)
      (paths : List Text) :
    countsAfter w options start (path :: paths) = countsAfter w options start.fail paths := by
  have notOutlined := isOutlined_of_error w options failed
  simp only [countsAfter, Stats.fail, outlines_cons_of_error w options failed, List.countP_cons,
    List.filter_cons, notOutlined, Bool.not_false, ↓reduceIte, Bool.false_eq_true, Nat.add_assoc,
    Nat.add_comm 1]

/-! ### One step of a run -/

theorem streamFiles_zero (keepGoing : Bool) (paths : List Text) (start : Stats) :
    streamFiles w options keepGoing (some 0) paths start = Stream.idle start := by
  cases paths <;> rfl

theorem streamFiles_cons_of_ok {keepGoing : Bool} {limit : Option Nat} (more : limit ≠ some 0)
    {path : Text} {d : Diagnostics} (found : (diagnose w options path).result = .ok d)
    (paths : List Text) (start : Stats) :
    streamFiles w options keepGoing limit (path :: paths) start =
      ((streamFiles w options keepGoing (limit.map (· - 1)) paths (start.record d)).yielding
        d.model).after (diagnose w options path).events := by
  rw [streamFiles_cons w options more, found]

theorem streamFiles_cons_of_error {limit : Option Nat} (more : limit ≠ some 0) {path : Text}
    {failure : Failure} (failed : (diagnose w options path).result = .error failure)
    (paths : List Text) (start : Stats) :
    streamFiles w options true limit (path :: paths) start =
      (streamFiles w options true limit paths start.fail).after
        ((diagnose w options path).events ++ [skipNote path failure]) := by
  rw [streamFiles_cons w options more, failed]
  rfl

theorem streamFiles_cons_of_stop {limit : Option Nat} (more : limit ≠ some 0) {path : Text}
    {failure : Failure} (failed : (diagnose w options path).result = .error failure)
    (paths : List Text) (start : Stats) :
    streamFiles w options false limit (path :: paths) start =
      ⟨[], start.fail, some failure, (diagnose w options path).events ++
        [skipNote path failure]⟩ := by
  rw [streamFiles_cons w options more, failed]
  rfl

/-! ### Runs over several files -/

private theorem outlines_append (before rest : List Text) :
    outlines w options (before ++ rest) = outlines w options before ++ outlines w options rest :=
  List.filterMap_append

private theorem countsAfter_append (start : Stats) (before rest : List Text) :
    countsAfter w options start (before ++ rest) =
      countsAfter w options (countsAfter w options start before) rest := by
  simp only [countsAfter, outlines_append, List.length_append, List.countP_append, List.map_append,
    List.filter_append, List.sum_append, Nat.add_assoc]

def Passes (keepGoing : Bool) (paths : List Text) : Prop :=
  keepGoing = true ∨ ∀ path ∈ paths, isOutlined w options path = true

variable {w options} in
private theorem Passes.tail {keepGoing : Bool} {path : Text} {paths : List Text}
    (passes : Passes w options keepGoing (path :: paths)) : Passes w options keepGoing paths :=
  passes.imp id fun all other member => all other (List.mem_cons_of_mem _ member)

/-- A run over files behind others goes on from the counts that the first ones leave. -/
theorem streamFiles_append {keepGoing : Bool} (limit : Option Nat) {before : List Text}
    (passes : Passes w options keepGoing before)
    (more : ∀ count, limit = some count → (outlines w options before).length < count)
    (rest : List Text) (start : Stats) :
    let later := streamFiles w options keepGoing
      (limit.map (· - (outlines w options before).length)) rest (countsAfter w options start before)
    (streamFiles w options keepGoing limit (before ++ rest) start).models =
        outlines w options before ++ later.models ∧
      (streamFiles w options keepGoing limit (before ++ rest) start).stats = later.stats ∧
      (streamFiles w options keepGoing limit (before ++ rest) start).failure = later.failure := by
  induction before generalizing limit start with
  | nil =>
    have same : limit.map (· - (outlines w options []).length) = limit := by
      cases limit <;> rfl
    rw [same]
    exact ⟨rfl, rfl, rfl⟩
  | cons path before ih =>
    have asked : limit ≠ some 0 := fun none => absurd (more 0 none) (Nat.not_lt_zero _)
    rw [List.cons_append]
    cases found : (diagnose w options path).result with
    | ok d =>
      rw [streamFiles_cons_of_ok w options asked found, countsAfter_cons_of_ok w options found]
      rw [outlines_cons_of_ok w options found, List.length_cons] at more ⊢
      have left : ∀ count, limit.map (· - 1) = some count →
          (outlines w options before).length < count := by
        intro count same
        obtain ⟨given, rfl, rfl⟩ := Option.map_eq_some_iff.mp same
        have enough := more given rfl
        omega
      have shift : (limit.map (· - 1)).map (· - (outlines w options before).length) =
          limit.map (· - ((outlines w options before).length + 1)) := by
        rw [Option.map_map]
        congr 1
        funext count
        simp only [Function.comp_apply]
        omega
      obtain ⟨models, stats, failure⟩ := ih _ passes.tail left (start.record d)
      rw [shift] at models stats failure
      exact ⟨congrArg (d.model :: ·) models, stats, failure⟩
    | error failure =>
      obtain rfl : keepGoing = true := passes.resolve_right fun all =>
        absurd (all path List.mem_cons_self) (by simp [isOutlined_of_error w options found])
      rw [streamFiles_cons_of_error w options asked found,
        countsAfter_cons_of_error w options found]
      rw [outlines_cons_of_error w options found] at more ⊢
      exact ih _ passes.tail more start.fail

private theorem streamFiles_at {keepGoing : Bool} {before : List Text} {path : Text}
    (passes : Passes w options keepGoing before) (outlined : isOutlined w options path = true)
    (after : List Text) (start : Stats) :
    let s := streamFiles w options keepGoing (some ((outlines w options before).length + 1))
      (before ++ path :: after) start
    s.models = outlines w options (before ++ [path]) ∧
      s.stats = countsAfter w options start (before ++ [path]) ∧ s.failure = none := by
  obtain ⟨d, found⟩ := exists_diagnostics w options outlined
  obtain ⟨models, stats, failure⟩ := streamFiles_append w options
    (some ((outlines w options before).length + 1)) passes
    (fun count same => by rw [← Option.some.inj same]; exact Nat.lt_succ_self _)
    (path :: after) start
  rw [Option.map_some, Nat.add_sub_cancel_left, streamFiles_cons_of_ok w options (by simp) found,
    Option.map_some, Nat.sub_self, streamFiles_zero] at models stats failure
  rw [outlines_append, outlines_cons_of_ok w options found, countsAfter_append,
    countsAfter_cons_of_ok w options found]
  exact ⟨models, stats, failure⟩

theorem streamFiles_whole {keepGoing : Bool} {paths : List Text}
    (passes : Passes w options keepGoing paths) (start : Stats) :
    let s := streamFiles w options keepGoing none paths start
    s.models = outlines w options paths ∧ s.stats = countsAfter w options start paths ∧
      s.failure = none := by
  obtain ⟨models, stats, failure⟩ := streamFiles_append w options none passes
    (fun _ same => absurd same (by simp)) [] start
  rw [List.append_nil] at models stats failure
  exact ⟨models.trans (List.append_nil _), stats, failure⟩

private theorem streamFiles_stop {before : List Text} {path : Text} {failure : Failure}
    (good : ∀ p ∈ before, isOutlined w options p = true)
    (failed : (diagnose w options path).result = .error failure) (after : List Text)
      (start : Stats) :
    let s := streamFiles w options false none (before ++ path :: after) start
    s.models = outlines w options before ∧
      s.stats = countsAfter w options start (before ++ [path]) ∧ s.failure = some failure := by
  obtain ⟨models, stats, ended⟩ := streamFiles_append w options none (.inr good)
    (fun _ same => absurd same (by simp)) (path :: after) start
  rw [Option.map_none, streamFiles_cons_of_stop w options (by simp) failed] at models stats ended
  rw [countsAfter_append, countsAfter_cons_of_error w options failed]
  exact ⟨models.trans (List.append_nil _), stats, ended⟩

/-! ### Runs that are left early -/

/-- A run that is asked for a number of outlines gives the first ones, and is a whole run if there
are fewer. -/
theorem streamFiles_some (keepGoing : Bool) (count : Nat) (paths : List Text) (start : Stats) :
    let whole := streamFiles w options keepGoing none paths start
    (streamFiles w options keepGoing (some count) paths start).models = whole.models.take count ∧
      (whole.models.length < count →
        streamFiles w options keepGoing (some count) paths start = whole) := by
  induction paths generalizing count start with
  | nil =>
    cases count with
    | zero => exact ⟨rfl, fun less => absurd less (Nat.not_lt_zero _)⟩
    | succ count => exact ⟨rfl, fun _ => rfl⟩
  | cons path paths ih =>
    cases count with
    | zero => exact ⟨(List.take_zero ..).symm, fun less => absurd less (Nat.not_lt_zero _)⟩
    | succ count =>
      cases found : (diagnose w options path).result with
      | ok d =>
        obtain ⟨models, same⟩ := ih count (start.record d)
        rw [streamFiles_cons_of_ok w options (by simp) found,
          streamFiles_cons_of_ok w options (by simp) found]
        refine ⟨congrArg (d.model :: ·) models, fun fewer => ?_⟩
        have fewerLater := Nat.lt_of_succ_lt_succ fewer
        exact congrArg (fun s => (Stream.yielding d.model s).after _) (same fewerLater)
      | error failure =>
        cases keepGoing with
        | false =>
          rw [streamFiles_cons_of_stop w options (by simp) found,
            streamFiles_cons_of_stop w options (by simp) found]
          exact ⟨rfl, fun _ => rfl⟩
        | true =>
          obtain ⟨models, same⟩ := ih (count + 1) start.fail
          rw [streamFiles_cons_of_error w options (by simp) found,
            streamFiles_cons_of_error w options (by simp) found]
          exact ⟨models, fun fewer => congrArg (Stream.after _) (same fewer)⟩

private theorem exists_current {keepGoing : Bool} {count : Nat} {paths : List Text} {start : Stats}
    (given : (streamFiles w options keepGoing (some (count + 1)) paths start).models.length =
      count + 1) :
    ∃ before path after, paths = before ++ path :: after ∧ isOutlined w options path = true ∧
      Passes w options keepGoing before ∧ (outlines w options before).length = count := by
  induction paths generalizing count start with
  | nil => exact absurd given (Nat.succ_ne_zero _).symm
  | cons path paths ih =>
    cases found : (diagnose w options path).result with
    | ok d =>
      have outlined := isOutlined_of_ok w options found
      rw [streamFiles_cons_of_ok w options (by simp) found] at given
      cases count with
      | zero => exact ⟨[], path, paths, rfl, outlined, .inr (by simp), rfl⟩
      | succ count =>
        obtain ⟨before, current, after, rfl, here, passes, number⟩ := ih (Nat.succ.inj given)
        refine ⟨path :: before, current, after, rfl, here, ?_, ?_⟩
        · exact passes.imp id fun all => List.forall_mem_cons.mpr ⟨outlined, all⟩
        · rw [outlines_cons_of_ok w options found, List.length_cons, number]
    | error failure =>
      cases keepGoing with
      | false =>
        rw [streamFiles_cons_of_stop w options (by simp) found] at given
        exact absurd given (Nat.succ_ne_zero _).symm
      | true =>
        rw [streamFiles_cons_of_error w options (by simp) found] at given
        obtain ⟨before, current, after, rfl, here, -, number⟩ := ih given
        refine ⟨path :: before, current, after, rfl, here, .inl rfl, ?_⟩
        rw [outlines_cons_of_error w options found, number]

theorem outlined_of_no_failure {paths : List Text} {start : Stats}
    (ended : (streamFiles w options false none paths start).failure = none) :
    ∀ path ∈ paths, isOutlined w options path = true := by
  induction paths generalizing start with
  | nil => simp
  | cons path paths ih =>
    cases found : (diagnose w options path).result with
    | ok d =>
      rw [streamFiles_cons_of_ok w options (by simp) found] at ended
      exact List.forall_mem_cons.mpr ⟨isOutlined_of_ok w options found, ih ended⟩
    | error failure =>
      rw [streamFiles_cons_of_stop w options (by simp) found] at ended
      exact absurd ended (by simp)

private theorem processed_add_failed (start : Stats) (paths : List Text) :
    (countsAfter w options start paths).processed + (countsAfter w options start paths).failed =
      start.processed + start.failed + paths.length := by
  have split : (outlines w options paths).length +
      paths.countP (fun path => !isOutlined w options path) = paths.length := by
    induction paths with
    | nil => rfl
    | cons path paths ih =>
      cases found : (diagnose w options path).result with
      | ok d =>
        rw [outlines_cons_of_ok w options found, List.countP_cons,
          isOutlined_of_ok w options found, List.length_cons, List.length_cons]
        simp only [Bool.not_true, Bool.false_eq_true, ↓reduceIte]
        omega
      | error failure =>
        rw [outlines_cons_of_error w options found, List.countP_cons,
          isOutlined_of_error w options found, List.length_cons]
        simp only [Bool.not_false, ↓reduceIte]
        omega
  simp only [countsAfter]
  omega

private theorem countsAfter_current {path : Text} (outlined : isOutlined w options path = true)
    (start : Stats) (before : List Text) :
    countsAfter w options start (before ++ [path]) =
      { processed := start.processed + (outlines w options (before ++ [path])).length
        failed := start.failed + before.countP fun p => !isOutlined w options p
        declarations := start.declarations +
          ((outlines w options (before ++ [path])).map Model.Source.declarationCount).sum
        errors := start.errors +
          (((before ++ [path]).filter (isOutlined w options)).map (errorsIn w)).sum } := by
  rw [countsAfter, List.countP_append]
  simp [outlined]

private theorem failed_countsAfter_first {before : List Text} {path : Text} {failure : Failure}
    (good : ∀ p ∈ before, isOutlined w options p = true)
    (failed : (diagnose w options path).result = .error failure) (start : Stats) :
    (countsAfter w options start (before ++ [path])).failed = start.failed + 1 := by
  have none : before.countP (fun p => !isOutlined w options p) = 0 := by
    rw [List.countP_eq_zero]
    intro p member
    simp [good p member]
  simp [countsAfter, none, isOutlined_of_error w options failed]

/-! ### Runs over a directory -/

section Directory

variable {directory : Text} (there : w.files.isDirectory (w.files.absolute directory) = true)

include there

theorem stream_eq_streamDirectory {limit : Option Nat} (asked : limit ≠ some 0) (keepGoing : Bool)
    (start : Stats) :
    stream w options keepGoing limit directory start =
      streamDirectory w options keepGoing limit (w.files.absolute directory) start := by
  rw [stream, if_neg asked, FileSystem.isFile_of_isDirectory there, if_neg Bool.false_ne_true,
    if_pos there]

theorem stream_eq_streamFiles (keepGoing : Bool) (limit : Option Nat) (start : Stats) :
    let files := streamFiles w options keepGoing limit
      (sources w.files options (w.files.absolute directory)) start
    (stream w options keepGoing limit directory start).models = files.models ∧
      (stream w options keepGoing limit directory start).stats = files.stats ∧
      (stream w options keepGoing limit directory start).failure = files.failure := by
  by_cases nothing : limit = some 0
  · subst nothing
    rw [streamFiles_zero]
    exact ⟨rfl, rfl, rfl⟩
  · rw [stream_eq_streamDirectory w options there nothing, streamDirectory]
    dsimp only
    split_ifs with empty
    · rw [List.isEmpty_iff.mp empty]
      rcases limit with _ | _ | count
      · exact ⟨rfl, rfl, rfl⟩
      · exact absurd rfl nothing
      · exact ⟨rfl, rfl, rfl⟩
    · exact ⟨rfl, rfl, rfl⟩

private theorem stream_eq_whole (keepGoing : Bool) {count : Nat} (start : Stats)
    (fewer : (stream w options keepGoing (some count) directory start).models.length < count) :
    stream w options keepGoing (some count) directory start =
      stream w options keepGoing none directory start := by
  have positive : some count ≠ some 0 := by
    rintro ⟨⟩
    exact absurd fewer (Nat.not_lt_zero _)
  have models := (stream_eq_streamFiles w options there keepGoing (some count) start).1
  obtain ⟨taken, whole⟩ := streamFiles_some w options keepGoing count
    (sources w.files options (w.files.absolute directory)) start
  rw [models, taken, List.length_take] at fewer
  rw [stream_eq_streamDirectory w options there positive,
    stream_eq_streamDirectory w options there (by simp), streamDirectory, streamDirectory,
    whole (by omega)]

private theorem stream_at_outline {keepGoing : Bool} {count : Nat} (start : Stats)
    (positive : 0 < count)
    (given : (stream w options keepGoing (some count) directory start).models.length = count) :
    ∃ before path after,
      sources w.files options (w.files.absolute directory) = before ++ path :: after ∧
      isOutlined w options path = true ∧ Passes w options keepGoing before ∧
      (stream w options keepGoing (some count) directory start).models =
        outlines w options (before ++ [path]) ∧
      (stream w options keepGoing (some count) directory start).failure = none ∧
      (stream w options keepGoing (some count) directory start).stats =
        countsAfter w options start (before ++ [path]) := by
  obtain ⟨count, rfl⟩ := Nat.exists_eq_succ_of_ne_zero (Nat.ne_of_gt positive)
  obtain ⟨models, stats, failure⟩ :=
    stream_eq_streamFiles w options there keepGoing (some (count + 1)) start
  rw [models] at given
  obtain ⟨before, path, after, split, outlined, passes, rfl⟩ := exists_current w options given
  obtain ⟨models', stats', failure'⟩ := streamFiles_at w options passes outlined after start
  rw [split] at models stats failure
  exact ⟨before, path, after, split, outlined, passes, models.trans models',
    failure.trans failure', stats.trans stats'⟩

private theorem stream_whole (keepGoing : Bool) (start : Stats)
    (passes : Passes w options keepGoing (sources w.files options (w.files.absolute directory))) :
    (stream w options keepGoing none directory start).models =
        outlines w options (sources w.files options (w.files.absolute directory)) ∧
      (stream w options keepGoing none directory start).stats =
        countsAfter w options start (sources w.files options (w.files.absolute directory)) ∧
      (stream w options keepGoing none directory start).failure = none := by
  obtain ⟨models, stats, failure⟩ := stream_eq_streamFiles w options there keepGoing none start
  obtain ⟨models', stats', failure'⟩ := streamFiles_whole w options passes start
  exact ⟨models.trans models', stats.trans stats', failure.trans failure'⟩

private theorem stream_fails_iff (start : Stats) :
    (∃ failure, (stream w options false none directory start).failure = some failure) ↔
      ∃ path ∈ sources w.files options (w.files.absolute directory),
        isOutlined w options path = false := by
  constructor
  · rintro ⟨failure, failed⟩
    by_contra none
    have good : ∀ path ∈ sources w.files options (w.files.absolute directory),
        isOutlined w options path = true := by simpa using none
    have ended := (stream_whole w options there false start (.inr good)).2.2
    exact absurd (ended.symm.trans failed) (by simp)
  · rintro ⟨path, member, failed⟩
    have asFiles := (stream_eq_streamFiles w options there false none start).2.2
    cases ended : (stream w options false none directory start).failure with
    | some failure => exact ⟨failure, rfl⟩
    | none =>
      have outlined := outlined_of_no_failure w options (asFiles.symm.trans ended) path member
      exact absurd outlined (by simp [failed])

private theorem stream_stop {before after : List Text} {path : Text} {failure : Failure}
    (split : sources w.files options (w.files.absolute directory) = before ++ path :: after)
    (good : ∀ p ∈ before, isOutlined w options p = true)
    (failed : (diagnose w options path).result = .error failure) (start : Stats) :
    (stream w options false none directory start).models = outlines w options before ∧
      (stream w options false none directory start).stats =
        countsAfter w options start (before ++ [path]) ∧
      (stream w options false none directory start).failure = some failure := by
  obtain ⟨models, stats, ended⟩ := stream_eq_streamFiles w options there false none start
  rw [split] at models stats ended
  obtain ⟨models', stats', ended'⟩ := streamFiles_stop w options good failed after start
  exact ⟨models.trans models', stats.trans stats', ended.trans ended'⟩

end Directory

/-- The accounts of a run over a directory. When it has just given an outline, the counts are those
it began with and: the outlines so far, their types, the syntax errors of their files, and the files
before the current one that failed. A run that is asked for more is a whole run. One that keeps
going does not fail and counts every file; one that does not fails exactly if some file does, with
the failure of the first such file, after the outlines of the files before it. -/
theorem stream_accounts (w : Workspace) (options : Options) (directory : Text) (start : Stats)
    (there : w.files.isDirectory (w.files.absolute directory) = true) :
    let found := sources w.files options (w.files.absolute directory)
    let run := fun keepGoing limit => stream w options keepGoing limit directory start
    (∀ keepGoing count, 0 < count → (run keepGoing (some count)).models.length = count →
      ∃ before path after, found = before ++ path :: after ∧ isOutlined w options path = true ∧
        Passes w options keepGoing before ∧
        (run keepGoing (some count)).models = outlines w options (before ++ [path]) ∧
        (run keepGoing (some count)).failure = none ∧
        (run keepGoing (some count)).stats =
          { processed := start.processed + count
            failed := start.failed + before.countP fun p => !isOutlined w options p
            declarations := start.declarations +
              ((run keepGoing (some count)).models.map Model.Source.declarationCount).sum
            errors := start.errors +
              (((before ++ [path]).filter (isOutlined w options)).map (errorsIn w)).sum }) ∧
    (∀ keepGoing count, (run keepGoing (some count)).models.length < count →
      run keepGoing (some count) = run keepGoing none) ∧
    ((run true none).failure = none ∧ (run true none).models = outlines w options found ∧
      (run true none).stats = countsAfter w options start found ∧
      (run true none).stats.processed + (run true none).stats.failed =
        start.processed + start.failed + found.length) ∧
    ((∃ failure, (run false none).failure = some failure) ↔
      ∃ path ∈ found, isOutlined w options path = false) ∧
    ∀ before path after failure, found = before ++ path :: after →
      (∀ p ∈ before, isOutlined w options p = true) →
      (extractFile w options path).result = .error failure →
      (run false none).failure = some failure ∧
        (run false none).models = outlines w options before ∧
        (run false none).stats = countsAfter w options start (before ++ [path]) ∧
        (run false none).stats.failed = start.failed + 1 := by
  intro found run
  refine ⟨fun keepGoing count positive given => ?_,
    fun keepGoing count fewer => stream_eq_whole w options there keepGoing start fewer, ?_,
    stream_fails_iff w options there start, fun before path after failure split good failed => ?_⟩
  · obtain ⟨before, path, after, split, outlined, passes, models, noFailure, stats⟩ :=
      stream_at_outline w options there start positive given
    refine ⟨before, path, after, split, outlined, passes, models, noFailure, ?_⟩
    rw [countsAfter_current w options outlined, ← models, given] at stats
    exact stats
  · obtain ⟨models, stats, noFailure⟩ := stream_whole w options there true start (.inl rfl)
    refine ⟨noFailure, models, stats, ?_⟩
    have counted := processed_add_failed w options start found
    rw [← stats] at counted
    exact counted
  · have failedHere := diagnose_of_extractFile w options failed
    obtain ⟨models, stats, ended⟩ := stream_stop w options there split good failedHere start
    refine ⟨ended, models, stats, ?_⟩
    have counted := failed_countsAfter_first w options good failedHere start
    rw [← stats] at counted
    exact counted

/-- A directory with three files, of which the second cannot be outlined. -/
def threeFiles : Workspace where
  files := ⟨.directory
    [("s", .directory [("a.cs", .file [1]), ("b.cs", .file [2]), ("c.cs", .file [1])])], "/"⟩
  parser := [([1], enumOf "\"a\""), ([2], enumOf "\"\\U80000000\"")]

theorem stream_threeFiles :
    let start : Stats := ⟨5, 1, 7, 2⟩
    threeFiles.files.isDirectory (threeFiles.files.absolute "s") = true ∧
      (stream threeFiles .default true none "s" start).failure = none ∧
      (stream threeFiles .default true none "s" start).stats.processed +
        (stream threeFiles .default true none "s" start).stats.failed = 9 ∧
      ∃ failure, (stream threeFiles .default false none "s" start).failure = some failure := by
  intro start
  have there : threeFiles.files.isDirectory (threeFiles.files.absolute "s") = true := by
    decide
  obtain ⟨-, -, ⟨failure, -, -, counted⟩, stops, -⟩ :=
    stream_accounts threeFiles .default "s" start there
  refine ⟨there, failure, counted.trans (by decide), stops.mpr ?_⟩
  exact ⟨"/s/b.cs", by decide +kernel, by decide +kernel⟩

end Outline.Extraction
