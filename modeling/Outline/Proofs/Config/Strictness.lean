import Mathlib.Data.List.Infix
import Outline.Options

/-!
Configurations, strictly and leniently.
-/

set_option autoImplicit false

/-! ## Strict and lenient readings of a configuration

A reading goes through a configuration and meets its problems in order. The lenient reading warns of
each of them and puts a default in its place; the strict one ends with the first. So both read the
same value where there is no problem, and the strict one refuses the configuration with the words of
the lenient one's first warning, up to how the work goes on.
-/

namespace Outline

def Log.warnings (events : List Log.Event) : List Text :=
  events.filterMap fun
    | .note .warning _ message => some message
    | _ => none

private theorem Log.warnings_append (first second : List Log.Event) :
    warnings (first ++ second) = warnings first ++ warnings second :=
  List.filterMap_append

namespace Config

/-- What is wrong with a configuration, and how a lenient reading goes on. -/
structure Problem where
  message : Text
  fallback : Text

def Problem.warning (p : Problem) : Text := Text.join [p.message, "; ", p.fallback]

/-- What a strict reading comes to that would give a value and meets some problems. -/
def strictly {α : Type} (value : α) : List Problem → Except Failure α
  | [] => .ok value
  | first :: _ => .error (.configuration first.message)

/-- A reading in two modes meets some problems in order: the lenient one gives a value and warns of
each, the strict one ends with the first. -/
structure Settles {α : Type} (read : Bool → Logged Failure α) (value : α)
    (problems : List Problem) :
    Prop where
  lenient : (read false).result = .ok value
  warned : Log.warnings (read false).events = problems.map Problem.warning
  strict : (read true).result = strictly value problems

namespace Settles

variable {α β : Type} {read : Bool → Logged Failure α} {value : α} {problems : List Problem}

private theorem pure (value : α) : Settles (fun _ => Pure.pure value) value [] := ⟨rfl, rfl, rfl⟩

private theorem problem (p : Problem) :
    Settles (fun strict => Config.problem strict p.message p.fallback) () [p] := ⟨rfl, rfl, rfl⟩

private theorem note (channel : Log.Channel) (message : Text) :
    Settles (fun _ => Outline.note .debug channel message) () [] := ⟨rfl, rfl, rfl⟩

private theorem ofExcept {result : Except Failure α} (ok : result = .ok value) :
    Settles (fun _ => Logged.ofExcept result) value [] := ⟨ok, rfl, ok⟩

/-- One reading after another meets the problems of both; where the first meets one, the strict
reading does not come to the second. -/
theorem bind {next : Bool → α → Logged Failure β} {result : β} {more : List Problem}
    (first : Settles read value problems)
    (second : Settles (fun strict => next strict value) result more) :
    Settles (fun strict => read strict >>= next strict) result (problems ++ more) where
  lenient := by
    rw [Logged.result_bind, first.lenient]
    exact second.lenient
  warned := by
    rw [Logged.events_bind_of_ok first.lenient, Log.warnings_append, first.warned, second.warned,
      List.map_append]
  strict := by
    rw [Logged.result_bind, first.strict]
    cases problems with
    | nil => exact second.strict
    | cons p rest => rfl

private theorem map (f : α → β) (settles : Settles read value problems) :
    Settles (fun strict => do return f (← read strict)) (f value) problems := by
  have whole : Settles (fun strict => do return f (← read strict)) (f value) (problems ++ []) :=
    settles.bind (.pure _)
  rw [List.append_nil] at whole
  exact whole

private theorem instead (p : Problem) (value : α) :
    Settles (fun strict => do Config.problem strict p.message p.fallback; return value) value [p] :=
  (problem p).bind (pure value)

private theorem strict_ok_iff (settles : Settles read value problems) (other : α) :
    (read true).result = .ok other ↔
      (read false).result = .ok other ∧ Log.warnings (read false).events = [] := by
  rw [settles.lenient, settles.warned, settles.strict, List.map_eq_nil_iff]
  cases problems with
  | nil => simp [strictly]
  | cons p rest => simp [strictly]

private theorem isConfiguration (settles : Settles read value problems) {failure : Failure}
    (failed : (read true).result = .error failure) :
      ∃ message, failure = .configuration message := by
  rw [settles.strict] at failed
  cases problems with
  | nil => cases failed
  | cons p rest => exact ⟨p.message, (Except.error.inj failed).symm⟩

end Settles

/-! ### How the work goes on -/

/-- The words for how a lenient reading of options goes on. -/
def fallbacks : List Text :=
  ["using defaults", "using default True", "using default False", "skipping it"]

private theorem warning_injective {p q : Problem} (known : p.fallback ∈ fallbacks)
    (knownToo : q.fallback ∈ fallbacks) (same : p.warning = q.warning) : p = q := by
  obtain ⟨message, fallback⟩ := p
  obtain ⟨other, instead⟩ := q
  simp only [Problem.warning, Text.join, List.flatten_cons, List.flatten_nil, List.append_nil]
    at same
  have apart : ∀ f ∈ fallbacks, ∀ g ∈ fallbacks,
      (Text.ofString "; " ++ f) <:+ (Text.ofString "; " ++ g) → f = g := by
    decide
  have equal : fallback = instead := by
    rcases List.suffix_or_suffix_of_suffix ⟨message, rfl⟩ ⟨other, same.symm⟩ with shorter | longer
    · exact apart _ known _ knownToo shorter
    · exact (apart _ knownToo _ known longer).symm
  subst equal
  rw [List.append_cancel_right same]

private theorem Settles.strict_error_iff {α : Type} {read : Bool → Logged Failure α} {value : α}
    {problems : List Problem} (settles : Settles read value problems)
    (known : ∀ p ∈ problems, p.fallback ∈ fallbacks) (message : Text) :
    (read true).result = .error (.configuration message) ↔
      ∃ fallback ∈ fallbacks, (Log.warnings (read false).events).head? =
        some (Text.join [message, "; ", fallback]) := by
  rw [settles.warned, settles.strict]
  cases problems with
  | nil => simp [strictly]
  | cons p rest =>
    have knownFirst := known p List.mem_cons_self
    rw [List.map_cons, List.head?_cons]
    constructor
    · intro refused
      obtain rfl : p.message = message := by
        injection refused with failure
        injection failure
      exact ⟨p.fallback, knownFirst, rfl⟩
    · rintro ⟨fallback, knownToo, same⟩
      have equal : p = ⟨message, fallback⟩ :=
        warning_injective knownFirst knownToo (Option.some.inj same)
      rw [equal]
      rfl

/-! ### Sections -/

def Problem.noMapping (name : Text) : Problem :=
  ⟨Text.join ["Config section '", name, "' must be a mapping"], "using defaults"⟩

/-- A section of a configuration, which is empty unless there is a mapping. -/
def sectionAt (config : Section) (name : Text) : Section :=
  match config.get? name with
  | some (.mapping fields) => { config with fields := fields }
  | _ => {}

def sectionProblems (config : Section) (name : Text) : List Problem :=
  match config.get? name with
  | none | some (.scalar .null) | some (.mapping _) => []
  | some _ => [.noMapping name]

private theorem fallback_mem_of_mem_sectionProblems {config : Section} {name : Text} {p : Problem}
    (member : p ∈ sectionProblems config name) : p.fallback ∈ fallbacks := by
  unfold sectionProblems at member
  split at member
  · cases member
  · cases member
  · cases member
  · rw [List.mem_singleton.mp member]
    exact List.mem_of_mem_head? rfl

theorem settles_getSection (config : Section) (name : Text) :
    Settles (getSection config name) (sectionAt config name) (sectionProblems config name) := by
  unfold getSection sectionAt sectionProblems
  generalize config.get? name = found
  cases found with
  | none => exact (Settles.note _ _).bind (.pure _)
  | some datum =>
    cases datum with
    | mapping fields => exact .pure _
    | scalar s =>
      cases s with
      | null => exact (Settles.note _ _).bind (.pure _)
      | _ => exact .instead (.noMapping name) _
    | _ => exact .instead (.noMapping name) _

/-! ### Truth values -/

def Problem.noTruth (key typeName : Text) (default : Bool) : Problem :=
  ⟨Text.join ["Config key '", key, "' must be a boolean, got ", typeName],
    Text.join ["using default ", truthName default]⟩

def truthAt? (s : Section) (key : Text) : Option Bool :=
  match s.get? key with
  | some (.scalar (.bool b)) => some b
  | _ => none

def truthProblems (s : Section) (key : Text) (default : Bool) : List Problem :=
  match s.get? key with
  | none | some (.scalar (.bool _)) => []
  | some other => [.noTruth key (other.typeName s.parts) default]

private theorem fallback_mem_of_mem_truthProblems {s : Section} {key : Text} {default : Bool}
    {p : Problem} (member : p ∈ truthProblems s key default) : p.fallback ∈ fallbacks := by
  have known : Text.join ["using default ", truthName default] ∈ fallbacks := by
    cases default <;> decide
  unfold truthProblems at member
  split at member
  · cases member
  · cases member
  · rw [List.mem_singleton.mp member]
    exact known

private theorem settles_getBool? (s : Section) (key : Text) (default : Bool) :
    Settles (getBool? s key (truthName default)) (truthAt? s key)
      (truthProblems s key default) := by
  unfold getBool? truthAt? truthProblems
  generalize s.get? key = found
  cases found with
  | none => exact .pure _
  | some datum =>
    cases datum with
    | scalar value =>
      cases value with
      | bool b => exact .pure _
      | _ => exact .instead (.noTruth key _ default) _
    | _ => exact .instead (.noTruth key _ default) _

private theorem settles_getBool (s : Section) (key : Text) (default : Bool) :
    Settles (getBool s key default) ((truthAt? s key).getD default)
      (truthProblems s key default) := by
  exact (settles_getBool? s key default).map fun found => found.getD default

/-! ### Sets of texts -/

def Problem.blank (key : Text) : Problem :=
  ⟨Text.join ["Config key '", key, "' contains an empty entry"], "skipping it"⟩

def Problem.noList (key : Text) : Problem :=
  ⟨Text.join ["Config key '", key, "' must be a list"], "using defaults"⟩

/-- The text of an item without the blanks around it; an item of blanks has none. -/
def entryOf? (parts : Datum.Parts) (item : Datum) : Option Text :=
  ((item.display parts).toOption.map Text.strip).filter fun entry => !entry.isEmpty

def itemsAt? (s : Section) (key : Text) : Option (List Datum) :=
  match s.get? key with
  | some (.list items) => some items
  | _ => none

def entriesAt? (s : Section) (key : Text) : Option (List Text) :=
  (itemsAt? s key).map fun items => items.filterMap (entryOf? s.parts)

/-- What is wrong with the items of a list: each blank one. -/
def itemProblems (parts : Datum.Parts) (key : Text) (items : List Datum) : List Problem :=
  (items.filter fun item => (entryOf? parts item).isNone).map fun _ => .blank key

def setProblems (s : Section) (key : Text) : List Problem :=
  match s.get? key with
  | none => []
  | some (.list items) => itemProblems s.parts key items
  | some _ => [.noList key]

def isDisplayableAt (s : Section) (key : Text) : Bool :=
  ((itemsAt? s key).getD []).all fun item => (item.display s.parts).isOk

private theorem fallback_mem_of_mem_setProblems {s : Section} {key : Text} {p : Problem}
    (member : p ∈ setProblems s key) : p.fallback ∈ fallbacks := by
  unfold setProblems at member
  split at member
  · cases member
  · obtain ⟨-, -, rfl⟩ := List.mem_map.mp member
    exact List.mem_of_getLast? rfl
  · rw [List.mem_singleton.mp member]
    exact List.mem_of_mem_head? rfl

private theorem settles_getEntries (parts : Datum.Parts) (key : Text) {items : List Datum}
    (displayable : ∀ item ∈ items, (item.display parts).isOk = true) :
    Settles (fun strict => getEntries parts key strict items) (items.filterMap (entryOf? parts))
      (itemProblems parts key items) := by
  induction items with
  | nil => exact .pure []
  | cons item items ih =>
    obtain ⟨here, later⟩ := List.forall_mem_cons.mp displayable
    have rest := ih later
    obtain ⟨text, shown⟩ : ∃ text, item.display parts = .ok text := by
      cases result : item.display parts with
      | ok text => exact ⟨text, rfl⟩
      | error flaw => rw [result] at here; cases here
    have ok : (item.display parts).mapError Failure.number = .ok text := by rw [shown]; rfl
    unfold getEntries
    cases stripped : text.strip with
    | nil =>
      have skipped : entryOf? parts item = none := by
        rw [entryOf?, shown]
        simp [Except.toOption, stripped]
      rw [List.filterMap_cons_none skipped, itemProblems,
        List.filter_cons_of_pos (by simp [skipped])]
      refine (Settles.ofExcept ok).bind ?_
      simp only [stripped]
      exact (Settles.problem (.blank key)).bind rest
    | cons c entry =>
      have kept : entryOf? parts item = some (c :: entry) := by
        rw [entryOf?, shown]
        simp [Except.toOption, stripped]
      rw [List.filterMap_cons_some kept, itemProblems, List.filter_cons_of_neg (by simp [kept])]
      refine (Settles.ofExcept ok).bind ?_
      simp only [stripped]
      exact rest.map fun entries => (c :: entry) :: entries

private theorem settles_getTextSet {s : Section} {key : Text} (default : List Text)
    (displayable : isDisplayableAt s key = true) :
    Settles (getTextSet s key default) (Text.set ((entriesAt? s key).getD default))
      (setProblems s key) := by
  unfold isDisplayableAt at displayable
  unfold getTextSet entriesAt? setProblems
  unfold itemsAt? at displayable ⊢
  generalize s.get? key = found at displayable ⊢
  cases found with
  | none => exact .pure _
  | some datum =>
    cases datum with
    | list items =>
      exact (settles_getEntries s.parts key (List.all_eq_true.mp displayable)).map Text.set
    | _ => exact .instead (.noList key) _

end Config

/-! ### Options -/

namespace Options

open Config

def sectionOf (config : Section) : Section := sectionAt config "extraction"

/-- Whether the items of the lists among the options have texts. -/
def isDisplayable (config : Section) : Bool :=
  isDisplayableAt (sectionOf config) "extensions" &&
    isDisplayableAt (sectionOf config) "exclude_dirs"

/-- The options that a configuration declares: what it says where that is valid, blank entries left
out, and the defaults elsewhere. -/
def declared (config : Section) : Options where
  legacyScoping := (truthAt? (sectionOf config) "legacy_scoping").getD default.legacyScoping
  extensions := ((entriesAt? (sectionOf config) "extensions").map Text.set).getD default.extensions
  excludedDirectories :=
    ((entriesAt? (sectionOf config) "exclude_dirs").map Text.set).getD default.excludedDirectories

/-- What is wrong with the options of a configuration, in the order in which they are read. -/
def problems (config : Section) : List Problem :=
  sectionProblems config "extraction" ++
    (truthProblems (sectionOf config) "legacy_scoping" default.legacyScoping ++
      (setProblems (sectionOf config) "extensions" ++
        setProblems (sectionOf config) "exclude_dirs"))

private theorem set_getD_of_eq {found : Option (List Text)} {instead : List Text}
    (same : Text.set instead = instead) :
    Text.set (found.getD instead) = (found.map Text.set).getD instead := by
  cases found with
  | none => exact same
  | some entries => rfl

theorem settles_ofConfig {config : Section} (displayable : isDisplayable config = true) :
    Settles (ofConfig config) (declared config) (problems config) := by
  rw [isDisplayable, Bool.and_eq_true] at displayable
  have legacy := settles_getBool (sectionOf config) "legacy_scoping" default.legacyScoping
  have extensions := settles_getTextSet default.extensions displayable.1
  have excluded := settles_getTextSet default.excludedDirectories displayable.2
  rw [set_getD_of_eq (by decide)] at extensions excluded
  refine (settles_getSection config "extraction").bind (legacy.bind (extensions.bind ?_))
  exact excluded.map (Options.mk _ _)

private theorem fallback_mem_of_mem_problems {config : Section} {p : Problem}
    (member : p ∈ problems config) :
    p.fallback ∈ fallbacks := by
  rw [problems, List.mem_append, List.mem_append, List.mem_append] at member
  rcases member with wrong | wrong | wrong | wrong
  · exact fallback_mem_of_mem_sectionProblems wrong
  · exact fallback_mem_of_mem_truthProblems wrong
  · exact fallback_mem_of_mem_setProblems wrong
  · exact fallback_mem_of_mem_setProblems wrong

/-- The lenient reading gives the options that the configuration declares. The strict reading gives
options exactly if the lenient one gives them without a warning, and refuses the configuration
exactly with the words of the lenient reading's first warning before how it goes on. -/
theorem ofConfig_strict_iff_lenient (config : Section) (displayable : isDisplayable config = true) :
    (ofConfig config false).result = .ok (declared config) ∧
    Log.warnings (ofConfig config false).events = (problems config).map Problem.warning ∧
    (∀ options, (ofConfig config true).result = .ok options ↔
      (ofConfig config false).result = .ok options ∧
        Log.warnings (ofConfig config false).events = []) ∧
    (∀ message, (ofConfig config true).result = .error (.configuration message) ↔
      ∃ fallback ∈ fallbacks, (Log.warnings (ofConfig config false).events).head? =
        some (Text.join [message, "; ", fallback])) ∧
    ∀ failure, (ofConfig config true).result = .error failure →
      ∃ message, failure = .configuration message := by
  have settles := settles_ofConfig displayable
  refine ⟨settles.lenient, settles.warned, settles.strict_ok_iff, ?_,
    fun _ => settles.isConfiguration⟩
  exact settles.strict_error_iff fun _ => fallback_mem_of_mem_problems

/-- A configuration whose scoping is a word and whose second extension is blank. -/
def careless : Section :=
  .ofFields [("extraction", .record [("legacy_scoping", .text "yes"),
    ("extensions", .list [.text " .cs", .text " ", .int 3])])]

/-- The two problems of the configuration are passed over, one warning each; the first of them
refuses it. -/
theorem ofConfig_careless :
    (ofConfig careless false).result =
      .ok ⟨false, [Text.ofString ".cs", Text.ofString "3"], default.excludedDirectories⟩ ∧
    Log.warnings (ofConfig careless false).events =
      [Text.ofString "Config key 'legacy_scoping' must be a boolean, got str; using default False",
        Text.ofString "Config key 'extensions' contains an empty entry; skipping it"] ∧
    (ofConfig careless true).result =
      .error (.configuration "Config key 'legacy_scoping' must be a boolean, got str") := by
  obtain ⟨lenient, warned, -, refused, -⟩ :=
    ofConfig_strict_iff_lenient careless (by decide +kernel)
  have warnings := warned.trans (show (problems careless).map Problem.warning =
    [Text.ofString "Config key 'legacy_scoping' must be a boolean, got str; using default False",
      Text.ofString "Config key 'extensions' contains an empty entry; skipping it"] by
        decide +kernel)
  have options : declared careless =
      ⟨false, [Text.ofString ".cs", Text.ofString "3"], default.excludedDirectories⟩ := by
    decide +kernel
  refine ⟨options ▸ lenient, warnings, (refused _).mpr ⟨"using default False", ?_, ?_⟩⟩
  · decide
  · rw [warnings]
    decide

end Options

end Outline

/-! ## Reading a configuration file, strictly and leniently

Whatever reads documents, a file that is missing, malformed or no mapping is a problem: the lenient
reading gives an empty configuration and a warning, the strict one refuses it. Some failures are
none of these and end the reading in both modes. Where there is no such failure the two readings
agree.
-/

namespace Outline.Config

/-- A failure that ends the reading of a file in either mode: the path leads elsewhere than to a
file, or what reads the document fails otherwise than on a missing file or a malformed document. -/
inductive Escapes (reader : Reader) (fs : FileSystem) (path : Text) : Failure → Prop
  | unopened {error : FileError} (failed : fs.read path = .error error)
      (elsewhere : error.cause ≠ .notFound) : Escapes reader fs path (.file error)
  | unread {content : Bytes} {kind message : Text} (opened : fs.read path = .ok content)
      (failed : reader path content = .error (.other kind message)) :
      Escapes reader fs path (.foreign (.other kind message))

/-- The mapping in a file, if the file can be read and holds one. -/
def mappingAt? (reader : Reader) (fs : FileSystem) (path : Text) : Option Section := do
  let (datum, parts) ← (reader.readFile fs path).toOption
  match datum.resolve parts with
  | .mapping fields => some ⟨fields, parts⟩
  | _ => none

variable {reader : Reader} {fs : FileSystem} {path : Text}

private theorem readFile_of_unopened {error : FileError} (failed : fs.read path = .error error) :
    reader.readFile fs path = .error (.file error) := by
  rw [Reader.readFile, failed]
  rfl

private theorem readFile_of_opened {content : Bytes} (opened : fs.read path = .ok content) :
    reader.readFile fs path = (reader path content).mapError .foreign := by
  rw [Reader.readFile, opened]
  rfl

private theorem mappingAt?_of_error {failure : Failure}
    (failed : reader.readFile fs path = .error failure) : mappingAt? reader fs path = none := by
  rw [mappingAt?, failed]
  rfl

namespace Escapes

private theorem readFile {failure : Failure} (escapes : Escapes reader fs path failure) :
    reader.readFile fs path = .error failure := by
  cases escapes with
  | unopened failed => exact readFile_of_unopened failed
  | unread opened failed => rw [readFile_of_opened opened, failed, Except.mapError]

private theorem result_load {failure : Failure} (escapes : Escapes reader fs path failure)
    (strict : Bool) :
    (load reader fs path strict).result = .error failure := by
  rw [load, escapes.readFile]
  cases escapes with
  | unopened failed elsewhere =>
    simp only [Failure.isNotFound, decide_eq_true_eq, if_neg elsewhere, Logged.result_fail]
  | unread opened failed => rfl

private theorem ne_configuration {failure : Failure} (escapes : Escapes reader fs path failure)
    (message : Text) : failure ≠ .configuration message := by
  cases escapes <;> simp

end Escapes

private theorem settles_without (message : List Text) :
    Settles (fun strict => without strict message) {} [⟨Text.join message, withoutConfig⟩] :=
  Settles.instead ⟨Text.join message, withoutConfig⟩ ({} : Section)

private theorem settles_of_datum (path : Text) (datum : Datum) (parts : Datum.Parts) :
    (∃ fields, datum.resolve parts = .mapping fields ∧
      Settles (fun strict => ofDocument path strict datum parts) ⟨fields, parts⟩ []) ∨
    (∀ fields, datum.resolve parts ≠ .mapping fields) ∧
      ∃ message, Settles (fun strict => ofDocument path strict datum parts) {}
        [⟨message, withoutConfig⟩] := by
  simp only [ofDocument]
  cases datum.resolve parts with
  | mapping fields => exact .inl ⟨fields, rfl, .pure _⟩
  | scalar s =>
    cases s with
    | null => exact .inr ⟨by simp, _, settles_without _⟩
    | _ => exact .inr ⟨by simp, _, settles_without _⟩
  | _ => exact .inr ⟨by simp, _, settles_without _⟩

private theorem settles_of_isNotFound {failure : Failure}
    (failed : reader.readFile fs path = .error failure) (absent : failure.isNotFound = true) :
    ∃ message, Settles (load reader fs path) {} [⟨message, withoutConfig⟩] := by
  have same : load reader fs path =
      fun strict => without strict ["Config file not found: ", path] := by
    funext strict
    rw [load, failed]
    cases failure with
    | foreign fault =>
      cases fault with
      | notFound message => rfl
      | _ => cases absent
    | _ => simp only [absent, if_true]
  exact ⟨_, same ▸ settles_without _⟩

private theorem settles_of_malformed {bytes : Bytes} {message : Text}
    (content : fs.read path = .ok bytes) (read : reader path bytes = .error (.malformed message)) :
    ∃ message, Settles (load reader fs path) {} [⟨message, withoutConfig⟩] := by
  have same : load reader fs path = fun strict =>
      without strict ["Failed to parse config YAML at ", path, ": ", message] := by
    funext strict
    rw [load, readFile_of_opened content, read]
    rfl
  exact ⟨_, same ▸ settles_without _⟩

private theorem escapes_or_settles {failure : Failure}
    (failed : reader.readFile fs path = .error failure) :
    Escapes reader fs path failure ∨
      ∃ message, Settles (load reader fs path) {} [⟨message, withoutConfig⟩] := by
  cases content : fs.read path with
  | error error =>
    obtain rfl := Except.error.inj ((readFile_of_unopened content).symm.trans failed)
    by_cases absent : error.cause = .notFound
    · exact .inr (settles_of_isNotFound failed (decide_eq_true absent))
    · exact .inl (.unopened content absent)
  | ok bytes =>
    have result : reader.readFile fs path = (reader path bytes).mapError .foreign :=
      readFile_of_opened content
    cases read : reader path bytes with
    | ok document =>
      rw [read] at result
      cases result.symm.trans failed
    | error fault =>
      rw [read] at result
      obtain rfl := Except.error.inj (result.symm.trans failed)
      cases fault with
      | notFound message => exact .inr (settles_of_isNotFound failed rfl)
      | other kind message => exact .inl (.unread content read)
      | malformed message => exact .inr (settles_of_malformed content read)

/-- A reading of a file fails in both modes, gives the mapping in the file in both, or meets one
problem. -/
theorem load_cases (reader : Reader) (fs : FileSystem) (path : Text) :
    (∃ failure, Escapes reader fs path failure) ∨
    (∃ config, mappingAt? reader fs path = some config ∧
      Settles (load reader fs path) config []) ∨
    ∃ message, mappingAt? reader fs path = none ∧
      Settles (load reader fs path) {} [⟨message, withoutConfig⟩] := by
  cases result : reader.readFile fs path with
  | error failure =>
    rcases escapes_or_settles result with escapes | ⟨message, settles⟩
    · exact .inl ⟨failure, escapes⟩
    · exact .inr (.inr ⟨message, mappingAt?_of_error result, settles⟩)
  | ok document =>
    obtain ⟨datum, parts⟩ := document
    have same : load reader fs path = fun strict => ofDocument path strict datum parts := by
      funext strict
      rw [load, result]
    have mapping : mappingAt? reader fs path =
        match datum.resolve parts with
        | .mapping fields => some ⟨fields, parts⟩
        | _ => none := by
      rw [mappingAt?, result]
      rfl
    rcases settles_of_datum path datum parts with
      ⟨fields, found, settles⟩ | ⟨noMapping, message, settles⟩
    · rw [found] at mapping
      exact .inr (.inl ⟨_, mapping, same ▸ settles⟩)
    · refine .inr (.inr ⟨message, ?_, same ▸ settles⟩)
      rw [mapping]
      cases resolved : datum.resolve parts with
      | mapping fields => exact absurd resolved (noMapping fields)
      | _ => rfl

private theorem exists_load_iff (reader : Reader) (fs : FileSystem) (path : Text) :
    (∃ config, (load reader fs path false).result = .ok config ∧
        ((load reader fs path true).result = .ok config ∨
          ∃ message, (load reader fs path true).result = .error (.configuration message))) ↔
      ∀ failure, ¬ Escapes reader fs path failure := by
  constructor
  · rintro ⟨config, lenient, -⟩ failure escapes
    rw [escapes.result_load] at lenient
    cases lenient
  · intro none
    rcases load_cases reader fs path with
      ⟨failure, escapes⟩ | ⟨config, -, settles⟩ | ⟨message, -, settles⟩
    · exact absurd escapes (none failure)
    · exact ⟨config, settles.lenient, .inl settles.strict⟩
    · exact ⟨{}, settles.lenient, .inr ⟨message, settles.strict⟩⟩

private theorem eq_mappingAt?_of_load {config : Section}
    (lenient : (load reader fs path false).result = .ok config) :
    config = (mappingAt? reader fs path).getD {} := by
  rcases load_cases reader fs path with
    ⟨failure, escapes⟩ | ⟨found, mapping, settles⟩ | ⟨message, noMapping, settles⟩
  · rw [escapes.result_load] at lenient
    cases lenient
  · rw [settles.lenient] at lenient
    rw [mapping, ← Except.ok.inj lenient, Option.getD_some]
  · rw [settles.lenient] at lenient
    rw [noMapping, ← Except.ok.inj lenient, Option.getD_none]

private theorem load_strict_ok_iff (config : Section) :
    (load reader fs path true).result = .ok config ↔ mappingAt? reader fs path = some config := by
  rcases load_cases reader fs path with
    ⟨failure, escapes⟩ | ⟨found, mapping, settles⟩ | ⟨message, noMapping, settles⟩
  · rw [escapes.result_load, mappingAt?_of_error escapes.readFile]
    exact ⟨fun accepted => absurd accepted (by simp), fun found => absurd found (by simp)⟩
  · rw [settles.strict, mapping, strictly, Except.ok.injEq, Option.some.injEq]
  · rw [settles.strict, noMapping, strictly]
    exact ⟨fun accepted => absurd accepted (by simp), fun found => absurd found (by simp)⟩

private theorem load_strict_error_iff (message : Text) :
    (load reader fs path true).result = .error (.configuration message) ↔
      (load reader fs path false).result = .ok {} ∧
        Log.warnings (load reader fs path false).events =
          [Text.join [message, "; ", withoutConfig]] := by
  rcases load_cases reader fs path with
    ⟨failure, escapes⟩ | ⟨found, -, settles⟩ | ⟨words, -, settles⟩
  · rw [escapes.result_load, escapes.result_load]
    refine ⟨fun same => ?_, fun both => absurd both.1 (by simp)⟩
    exact absurd (Except.error.inj same) (escapes.ne_configuration message)
  · rw [settles.strict, settles.warned, strictly, List.map_nil]
    exact ⟨fun refused => absurd refused (by simp), fun both => absurd both.2 (by simp)⟩
  · rw [settles.strict, settles.warned, settles.lenient]
    constructor
    · intro refused
      obtain rfl : words = message := by
        injection refused with failure
        injection failure
      exact ⟨rfl, rfl⟩
    · rintro ⟨-, same⟩
      have equal := List.head_eq_of_cons_eq same
      simp only [Problem.warning, Text.join, List.flatten_cons, List.flatten_nil, List.append_nil]
        at equal
      rw [List.append_cancel_right equal]
      rfl

/-- Whatever reads documents, the lenient reading of a file gives a configuration, and the strict
one gives the same or refuses it, exactly if no failure escapes; one that does ends both readings.
The configuration is the mapping in the file, and empty where there is none; the strict reading
gives it only if there is one, and refuses it with the words of the lenient reading's one
warning. -/
theorem load_closed_iff (reader : Reader) (fs : FileSystem) (path : Text) :
    ((∃ config, (load reader fs path false).result = .ok config ∧
        ((load reader fs path true).result = .ok config ∨
          ∃ message, (load reader fs path true).result = .error (.configuration message))) ↔
      ∀ failure, ¬ Escapes reader fs path failure) ∧
    (∀ failure, Escapes reader fs path failure →
      (∀ strict, (load reader fs path strict).result = .error failure) ∧
      ∀ message, failure ≠ .configuration message) ∧
    (∀ config, (load reader fs path false).result = .ok config →
      config = (mappingAt? reader fs path).getD {}) ∧
    (∀ config, (load reader fs path true).result = .ok config ↔
      mappingAt? reader fs path = some config) ∧
    ∀ message, (load reader fs path true).result = .error (.configuration message) ↔
      (load reader fs path false).result = .ok {} ∧
        Log.warnings (load reader fs path false).events =
          [Text.join [message, "; ", withoutConfig]] := by
  refine ⟨exists_load_iff reader fs path, fun failure escapes => ?_,
    fun config => eq_mappingAt?_of_load, load_strict_ok_iff, load_strict_error_iff⟩
  exact ⟨escapes.result_load, escapes.ne_configuration⟩

/-- A file system with an empty directory, a file that is no text, and one with a list that is not
closed. -/
def untidy : FileSystem :=
  ⟨.directory
    [("d", .directory []), ("f.yml", .file [0xff]), ("g.yml", .file [97, 58, 32, 91])], "/"⟩

/-- What reads the two files: one that is no text is no document, and in the other one the list does
not end. -/
def untidyReader : Reader := fun name content =>
  match Utf8.decode content with
  | .error error => .error (.other "UnicodeDecodeError" error.message)
  | .ok _ =>
    .error (.malformed (Text.join ["while parsing a flow node\nexpected the node content, but ",
      "found '<stream end>'\n  in \"", name, "\", line 1, column 5"]))

/-- A path to a directory and a path through a file end the reading in both modes, whatever reads
documents, and so does a file that is no text where decoding it fails as such. -/
theorem load_untidy_escapes :
    (∀ reader strict, (load reader untidy "d" strict).result = .error (.file ⟨.isDirectory, "d"⟩)) ∧
    (∀ reader strict, (load reader untidy "f.yml/c" strict).result =
      .error (.file ⟨.notDirectory, "f.yml/c"⟩)) ∧
    ∀ strict, (load untidyReader untidy "f.yml" strict).result =
      .error (.foreign (.other "UnicodeDecodeError"
        "'utf-8' codec can't decode byte 0xff in position 0: invalid start byte")) := by
  have folder : untidy.read "d" = .error ⟨.isDirectory, "d"⟩ := by decide
  have through : untidy.read "f.yml/c" = .error ⟨.notDirectory, "f.yml/c"⟩ := by decide
  have content : untidy.read "f.yml" = .ok [0xff] := by decide
  have noText : untidyReader "f.yml" [0xff] = .error (.other "UnicodeDecodeError"
      "'utf-8' codec can't decode byte 0xff in position 0: invalid start byte") := by
    have undecodable : Utf8.decode [0xff] = .error ⟨0, 255, 1, .start, 0⟩ := by decide +kernel
    have words : Utf8.DecodeError.message ⟨0, 255, 1, .start, 0⟩ = Text.ofString
        "'utf-8' codec can't decode byte 0xff in position 0: invalid start byte" := by
          decide
    rw [untidyReader, undecodable, ← words]
  exact ⟨fun _ => (Escapes.unopened folder (by decide)).result_load,
    fun _ => (Escapes.unopened through (by decide)).result_load,
    (Escapes.unread content noText).result_load⟩

/-- A document that ends inside a list is a problem: the lenient reading goes on without a
configuration, the strict one refuses it. -/
theorem load_untidy_unclosed :
    (load untidyReader untidy "g.yml" false).result = .ok {} ∧
      ∃ message, (load untidyReader untidy "g.yml" true).result =
        .error (.configuration message) := by
  obtain ⟨closed, -, same, strict, -⟩ := load_closed_iff untidyReader untidy "g.yml"
  have content : untidy.read "g.yml" = .ok [97, 58, 32, 91] := by decide
  have decoded : Utf8.decode [97, 58, 32, 91] = .ok [97, 58, 32, 91] := by decide +kernel
  obtain ⟨message, malformed⟩ : ∃ message, untidyReader "g.yml" [97, 58, 32, 91] =
      .error (.malformed message) := by
    rw [untidyReader, decoded]
    exact ⟨_, rfl⟩
  have failed : untidyReader.readFile untidy "g.yml" = .error (.foreign (.malformed message)) := by
    rw [readFile_of_opened content, malformed, Except.mapError]
  have nothing := mappingAt?_of_error failed
  have none : ∀ failure, ¬ Escapes untidyReader untidy "g.yml" failure := by
    intro failure escapes
    obtain rfl := Except.error.inj (failed.symm.trans escapes.readFile)
    cases escapes
  obtain ⟨config, lenient, accepted | refused⟩ := closed.mpr none
  · rw [strict, nothing] at accepted
    cases accepted
  · obtain rfl := same config lenient
    rw [nothing] at lenient
    exact ⟨lenient, refused⟩

end Outline.Config
