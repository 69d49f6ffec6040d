import Mathlib.Data.List.Basic
import Outline.Log
import Outline.Proofs.Extraction.Accounting
import Outline.Proofs.Extraction.Batch

/-!
What the log tells of a run.
-/

set_option autoImplicit false

/-! ## Scopes of the log

Events are nested if every file that is entered is also left, the inner one first. Within a scope
the count of errors may be set and other scopes entered, and leaving the scope still restores the
labels from before it. Notes change nothing, and each carries the labels in force.
-/

namespace Outline

namespace Log

namespace Context

variable (c : Context) (first second : List Event)

@[simp] theorem afterAll_nil : c.afterAll [] = c := rfl

@[simp] theorem entries_nil : c.entries [] = [] := rfl

@[simp] theorem afterAll_append :
    c.afterAll (first ++ second) = (c.afterAll first).afterAll second := by
  induction first generalizing c with
  | nil => rfl
  | cons event first ih => exact ih (c.after event)

@[simp] theorem entries_append :
    c.entries (first ++ second) = c.entries first ++ (c.afterAll first).entries second := by
  induction first generalizing c with
  | nil => rfl
  | cons event first ih =>
    rw [List.cons_append, entries, entries, ih, List.append_assoc]
    rfl

theorem entries_scope (path : Text) (inner : List Event) :
    c.entries (.enter path :: (inner ++ [.leave])) = (c.enter path).entries inner := by
  rw [entries, entries_append]
  exact List.append_nil _

/-! Work in stretches, each of which restores the context. -/

section Stretches

variable {α : Type} {f : α → List Event} (restores : ∀ (c : Context) item, c.afterAll (f item) = c)

include restores

private theorem afterAll_flatMap (items : List α) : c.afterAll (items.flatMap f) = c := by
  induction items with
  | nil => rfl
  | cons item items ih => rw [List.flatMap_cons, afterAll_append, restores, ih]

private theorem entries_flatMap (items : List α) :
    c.entries (items.flatMap f) = items.flatMap fun item => c.entries (f item) := by
  induction items with
  | nil => rfl
  | cons item items ih => rw [List.flatMap_cons, entries_append, restores, ih, List.flatMap_cons]

end Stretches

end Context

/-! ### Nesting -/

/-- Events in which every file that is entered is also left, the inner one first. -/
inductive Nested : List Event → Prop
  | nil : Nested []
  | note (level : Level) (channel : Channel) (message : Text) {rest : List Event} :
      Nested rest → Nested (.note level channel message :: rest)
  | errors (count : Int) {rest : List Event} : Nested rest → Nested (.errors count :: rest)
  | scope (path : Text) {inner rest : List Event} : Nested inner → Nested rest →
      Nested (.enter path :: (inner ++ .leave :: rest))

private theorem Nested.afterAll_eq {events : List Event} (nested : Nested events) (c : Context) :
    ∃ errors, c.afterAll events = { c with errors := errors } := by
  induction nested generalizing c with
  | nil => exact ⟨c.errors, rfl⟩
  | note level channel message _ ih => exact ih c
  | errors count _ ih => exact ih (c.setErrors count)
  | scope path _ _ ihInner ihRest =>
    obtain ⟨errors, inside⟩ := ihInner (c.enter path)
    obtain ⟨later, outside⟩ := ihRest c
    refine ⟨later, ?_⟩
    rw [Context.afterAll, Context.after, Context.afterAll_append, inside]
    exact outside

/-- Leaving a scope restores the context from before it, whatever is nested inside. -/
theorem Nested.afterAll_scope {inner : List Event} (nested : Nested inner) (c : Context)
    (path : Text) : c.afterAll (.enter path :: (inner ++ [.leave])) = c := by
  obtain ⟨errors, inside⟩ := nested.afterAll_eq (c.enter path)
  rw [Context.afterAll, Context.after, Context.afterAll_append, inside]
  rfl

private theorem Nested.append {first second : List Event} (nested : Nested first)
    (more : Nested second) :
    Nested (first ++ second) := by
  induction nested with
  | nil => exact more
  | note level channel message _ ih => exact .note level channel message ih
  | errors count _ ih => exact .errors count ih
  | scope path inner _ _ ih =>
    rw [List.cons_append, List.append_assoc, List.cons_append]
    exact .scope path inner ih

/-! ### Notes -/

inductive Event.IsNoteOf (channels : List Channel) : Event → Prop
  | intro (level : Level) {channel : Channel} (member : channel ∈ channels) (message : Text) :
      IsNoteOf channels (.note level channel message)

def AreNotes (channels : List Channel) (events : List Event) : Prop :=
  ∀ event ∈ events, event.IsNoteOf channels

/-- Whether an entry carries the labels of a context. -/
structure Entry.Carries (entry : Entry) (c : Context) : Prop where
  runId : entry.runId = c.runId
  file : entry.file = c.file
  errors : entry.errors = c.errors

namespace AreNotes

variable {channels : List Channel}

theorem nil : AreNotes channels [] := by
  simp [AreNotes]

private theorem single (level : Level) {channel : Channel} (member : channel ∈ channels)
    (message : Text) :
    AreNotes channels [.note level channel message] := by
  intro event found
  obtain rfl := List.mem_singleton.mp found
  exact .intro level member message

private theorem mono {more : List Channel} {events : List Event} (notes : AreNotes channels events)
    (among : channels ⊆ more) : AreNotes more events := by
  intro event found
  obtain ⟨level, member, message⟩ := notes event found
  exact .intro level (among member) message

private theorem append {first second : List Event} (notes : AreNotes channels first)
    (more : AreNotes channels second) : AreNotes channels (first ++ second) :=
  List.forall_mem_append.mpr ⟨notes, more⟩

private theorem flatMap {α : Type} {items : List α} {f : α → List Event}
    (each : ∀ item, AreNotes channels (f item)) : AreNotes channels (items.flatMap f) := by
  intro event found
  obtain ⟨item, -, member⟩ := List.mem_flatMap.mp found
  exact each item event member

private theorem ite {p : Prop} [Decidable p] {first second : List Event}
    (notes : AreNotes channels first)
    (more : AreNotes channels second) : AreNotes channels (if p then first else second) := by
  split_ifs
  · exact notes
  · exact more

private theorem tail {event : Event} {events : List Event}
    (notes : AreNotes channels (event :: events)) :
    AreNotes channels events :=
  fun other member => notes other (List.mem_cons_of_mem _ member)

private theorem nested {events : List Event} (notes : AreNotes channels events) :
    Nested events := by
  induction events with
  | nil => exact .nil
  | cons event events ih =>
    obtain ⟨level, member, message⟩ := notes event List.mem_cons_self
    exact .note level _ message (ih notes.tail)

private theorem afterAll_eq {events : List Event} (notes : AreNotes channels events) (c : Context) :
    c.afterAll events = c := by
  induction events with
  | nil => rfl
  | cons event events ih =>
    obtain ⟨level, member, message⟩ := notes event List.mem_cons_self
    exact ih notes.tail

private theorem of_mem_entries {events : List Event} (notes : AreNotes channels events)
    {c : Context} {entry : Entry} (written : entry ∈ c.entries events) :
    entry.channel ∈ channels ∧ entry.Carries c := by
  induction events with
  | nil => exact absurd written List.not_mem_nil
  | cons event events ih =>
    obtain ⟨level, member, message⟩ := notes event List.mem_cons_self
    rcases List.mem_cons.mp written with rfl | later
    · exact ⟨member, ⟨rfl, rfl, rfl⟩⟩
    · exact ih notes.tail later

end AreNotes

end Log

/-! ### Work that only writes notes -/

namespace Logged

variable {ε α β : Type} {channels : List Log.Channel}

/-- Whether all that work reports are notes of some parts of the program. -/
def Writes (channels : List Log.Channel) (work : Logged ε α) : Prop :=
  Log.AreNotes channels work.events

private theorem writes_note (level : Log.Level) {channel : Log.Channel}
    (member : channel ∈ channels)
    (message : Text) : (note level channel message : Logged ε Unit).Writes channels :=
  .single level member message

private theorem writes_pure (a : α) : (pure a : Logged ε α).Writes channels := .nil

private theorem Writes.bind {work : Logged ε α} {next : α → Logged ε β}
    (writes : work.Writes channels)
    (more : ∀ a, (next a).Writes channels) : (work >>= next).Writes channels := by
  rw [Writes]
  cases found : work.result with
  | ok a =>
    rw [events_bind_of_ok found]
    exact writes.append (more a)
  | error e =>
    rw [events_bind_of_error found]
    exact writes

end Logged

end Outline

/-! ## What the work on a file reports

Building an outline only writes notes: of the reader of names, of the decoder of literals, of the
rule of visibility and of the builder itself. The parser writes its notes before, and between the
two the count of syntax errors is set; all this stands in the scope of the file. So the work on a
file restores the labels it began with, and every entry carries the path of the file, the count or
its absence.
-/

namespace Outline

/-! ### Remarks on what is left out of an outline -/

namespace Model.Trace

open Declaration (Node Kind)
open Log (AreNotes)

def builders : List Log.Channel := [.reading, .literals, .visibility, .building]

private theorem areNotes_remark {channel : Log.Channel} (member : channel ∈ builders)
    (message : Option Text) : AreNotes builders (remark channel message) := by
  cases message with
  | none => exact .nil
  | some message => exact .single .debug member message

private theorem areNotes_debug {channel : Log.Channel} (member : channel ∈ builders)
    (parts : List Text) :
    AreNotes builders [debug channel parts] :=
  .single .debug member (Text.join parts)

private theorem areNotes_naming (nodes : List Node) : AreNotes builders (naming nodes) :=
  .flatMap fun _ => .ite .nil
    ((areNotes_remark (by decide) _).append (areNotes_debug (by decide) _))

private theorem areNotes_withholding (nodes : List Node) : AreNotes builders (withholding nodes) :=
  .flatMap fun _ => .ite .nil
    ((areNotes_remark (by decide) _).append (areNotes_debug (by decide) _))

variable (legacy : Bool) (node : Node)

private theorem areNotes_ofMembers (kind : Kind) : AreNotes builders (ofMembers node kind legacy) :=
  (areNotes_naming _).append (areNotes_withholding _)

private theorem areNotes_ofMethods : AreNotes builders (ofMethods node legacy) :=
  (areNotes_ofMembers legacy node _).append
    (.ite (areNotes_naming _) (.flatMap fun _ => areNotes_naming _))

private theorem areNotes_ofConstructors : AreNotes builders (ofConstructors node legacy) :=
  (areNotes_ofMembers legacy node _).append (.flatMap fun _ => areNotes_naming _)

private theorem areNotes_ofClass : AreNotes builders (ofClass legacy node) :=
  (((areNotes_ofMembers legacy node _).append (areNotes_ofMethods legacy node)).append
    (areNotes_ofConstructors legacy node)).append (areNotes_debug (by decide) _)

private theorem areNotes_ofInterface : AreNotes builders (ofInterface legacy node) :=
  ((areNotes_ofMembers legacy node _).append (areNotes_ofMethods legacy node)).append
    (areNotes_debug (by decide) _)

private theorem areNotes_ofEnum : AreNotes builders (ofEnum node) :=
  ((areNotes_naming _).append (.flatMap fun _ => areNotes_remark (by decide) _)).append
    (.ite .nil (areNotes_debug (by decide) _))

private theorem areNotes_ofSource : AreNotes builders (ofSource node legacy) :=
  (((((areNotes_naming _).append (.flatMap (areNotes_ofClass legacy))).append
    (areNotes_naming _)).append (.flatMap (areNotes_ofInterface legacy))).append
      (areNotes_naming _)).append (.flatMap areNotes_ofEnum)

end Model.Trace

namespace Extraction

open Log (AreNotes Context Event)

/-! ### The work on a file -/

/-- The parts of the program that write once the syntax errors of a file have been counted. -/
def countedChannels : List Log.Channel := .extraction :: Model.Trace.builders

private theorem writes_parseSource (parser : Parser) (source : Bytes) :
    (parseSource parser source).Writes [.parsing] := by
  unfold parseSource
  refine .bind (Logged.writes_note _ (by decide) _) fun _ => ?_
  split_ifs
  · exact .bind (Logged.writes_note _ (by decide) _) fun _ =>
      .bind (Logged.writes_note _ (by decide) _) fun _ => Logged.writes_pure _
  · exact .bind (Logged.writes_note _ (by decide) _) fun _ => Logged.writes_pure _

private theorem writes_extractTree (tree : ParseTree) (path : Text) (legacy : Bool) :
    (extractTree tree path legacy).Writes countedChannels := by
  have remarks : AreNotes countedChannels (Model.Trace.ofSource (tree.view legacy) legacy) :=
    (Model.Trace.areNotes_ofSource legacy _).mono (List.subset_cons_self _ _)
  unfold extractTree
  refine .bind (Logged.writes_note _ (by decide) _) fun _ => .bind remarks fun _ => ?_
  refine .bind (AreNotes.nil : (Logged.ofExcept _).Writes _) fun _ => ?_
  exact .bind (Logged.writes_note _ (by decide) _) fun _ => Logged.writes_pure _

variable (w : Workspace)

private theorem writes_parseFile (path : Text) : (parseFile w path).Writes [.parsing] := by
  unfold parseFile
  cases w.files.read path with
  | error e =>
    dsimp only
    by_cases fromSystem : e.cause.isFromSystem = true
    · rw [if_pos fromSystem]
      exact .bind (Logged.writes_note _ (by decide) _) fun _ => AreNotes.nil
    · rw [if_neg fromSystem]
      exact AreNotes.nil
  | ok source =>
    refine .bind (writes_parseSource w.parser source) fun tree => ?_
    split_ifs
    · exact .bind (Logged.writes_note _ (by decide) _) fun _ =>
        .bind (Logged.writes_note _ (by decide) _) fun _ => Logged.writes_pure _
    · exact .bind (Logged.writes_note _ (by decide) _) fun _ => Logged.writes_pure _

variable {w}

private theorem areNotes_diagnoseContent {path : Text} {e : FileError}
    (failed : w.files.read path = .error e) (legacy : Bool) :
    AreNotes [.parsing] (diagnoseContent w path legacy).events := by
  have result : (parseFile w path).result = .error (.file e) := by
    rw [result_parseFile, failed]
    rfl
  rw [diagnoseContent, Logged.events_bind_of_error result]
  exact writes_parseFile w path

/-- The notes on a file that can be read: those of the parser before the count of its syntax errors
is set, all others afterwards. -/
theorem events_diagnoseContent {path : Text} {source : Bytes}
    (read : w.files.read path = .ok source) (legacy : Bool) :
    ∃ parsing building, AreNotes [.parsing] parsing ∧ AreNotes countedChannels building ∧
      (diagnoseContent w path legacy).events =
        parsing ++ .errors (w.parser.parse source).errorCount :: building := by
  have result : (parseFile w path).result = .ok (w.parser.parse source, source) := by
    rw [result_parseFile, read]
    rfl
  rw [diagnoseContent, Logged.events_bind_of_ok result]
  refine ⟨_, _, writes_parseFile w path, ?_, rfl⟩
  have built : (extractTree (w.parser.parse source) path legacy >>= fun model =>
      pure ⟨model, (w.parser.parse source).errorCount⟩ : Logged Failure Diagnostics).Writes
        countedChannels :=
    .bind (writes_extractTree _ path legacy) fun _ => Logged.writes_pure _
  split_ifs
  · exact (Logged.writes_note _ (by decide) _).bind fun _ => built
  · exact built

/-! ### Labels of entries -/

variable (w) in
/-- Whether an entry carries the labels of a file, the caller's labels being given: the parser
writes before the syntax errors are counted and all others afterwards. -/
inductive IsAbout (c : Context) (path : Text) (entry : Log.Entry) : Prop
  | parsing (channel : entry.channel = .parsing)
      (carries : entry.Carries { c with file := w.files.absolute path, errors := "-" })
  | counted (channel : entry.channel ∈ countedChannels) {source : Bytes}
      (read : w.files.read (w.files.absolute path) = .ok source)
      (carries : entry.Carries
        { c with
          file := w.files.absolute path
          errors := Text.ofNat (w.parser.parse source).errorCount })

/-- Work on a file reports nothing, or stands in the scope of the file. -/
theorem events_diagnose (w : Workspace) (options : Options) (path : Text) :
    (diagnose w options path).events = [] ∨
      (diagnose w options path).events =
        (withinFile (w.files.absolute path)
          (diagnoseContent w (w.files.absolute path) options.legacyScoping)).events := by
  rw [diagnose]
  split_ifs
  · exact .inl rfl
  · exact .inl rfl
  · exact .inr rfl

private theorem nested_diagnoseContent (w : Workspace) (path : Text) (legacy : Bool) :
    Log.Nested (diagnoseContent w path legacy).events := by
  cases read : w.files.read path with
  | error e => exact (areNotes_diagnoseContent read legacy).nested
  | ok source =>
    obtain ⟨parsing, building, before, after, split⟩ := events_diagnoseContent read legacy
    rw [split]
    exact before.nested.append (.errors _ after.nested)

private theorem afterAll_diagnose (w : Workspace) (options : Options) (path : Text) (c : Context) :
    c.afterAll (diagnose w options path).events = c := by
  rcases events_diagnose w options path with silent | within
  · rw [silent, Context.afterAll_nil]
  · rw [within]
    exact (nested_diagnoseContent w _ _).afterAll_scope c _

private theorem isAbout_of_mem_diagnose (w : Workspace) (options : Options) {path : Text}
    {c : Context}
    {entry : Log.Entry} (written : entry ∈ c.entries (diagnose w options path).events) :
    IsAbout w c path entry := by
  rcases events_diagnose w options path with silent | within
  · rw [silent, Context.entries_nil] at written
    exact absurd written List.not_mem_nil
  rw [within, withinFile, Context.entries_scope] at written
  cases read : w.files.read (w.files.absolute path) with
  | error e =>
    obtain ⟨channel, carries⟩ := (areNotes_diagnoseContent read _).of_mem_entries written
    exact .parsing (List.mem_singleton.mp channel) ⟨carries.runId, carries.file, carries.errors⟩
  | ok source =>
    obtain ⟨parsing, building, before, after, split⟩ :=
      events_diagnoseContent read options.legacyScoping
    rw [split, Context.entries_append, before.afterAll_eq, List.mem_append] at written
    rcases written with early | late
    · obtain ⟨channel, carries⟩ := before.of_mem_entries early
      exact .parsing (List.mem_singleton.mp channel) ⟨carries.runId, carries.file, carries.errors⟩
    · obtain ⟨channel, carries⟩ := after.of_mem_entries late
      exact .counted channel read ⟨carries.runId, carries.file, carries.errors⟩

end Extraction

end Outline

/-! ## The labels of the log

The work on a file stands in a scope of its own, and all other notes of a run are its own and stand
outside every scope. So a run consists of stretches that each restore the labels they began with,
and this holds wherever the run is left, since asking for one more outline adds such stretches to
those before.
-/

namespace Outline.Extraction

open Log (AreNotes Context Event)

/-! ### Stretches of a run -/

/-- A stretch of a run: a note of its own, or the work on a file. -/
inductive Stretch
  | own (level : Log.Level) (message : Text)
  | file (path : Text)

namespace Stretch

def path? : Stretch → Option Text
  | .own .. => none
  | .file path => some path

variable (w : Workspace) (options : Options)

def events : Stretch → List Event
  | .own level message => [.note level .extraction message]
  | .file path => (diagnose w options path).events

/-- Whether an entry of a stretch is labelled as it should be: a note of the run's own with the
labels of the caller, any other with those of its file. -/
def Labels (c : Context) : Stretch → Log.Entry → Prop
  | .own .., entry => entry.channel = .extraction ∧ entry.Carries c
  | .file path, entry => IsAbout w c path entry

private theorem afterAll_events (c : Context) (stretch : Stretch) :
    c.afterAll (stretch.events w options) = c := by
  cases stretch with
  | own level message => rfl
  | file path => exact afterAll_diagnose w options path c

private theorem labels_of_mem {c : Context} {stretch : Stretch} {entry : Log.Entry}
    (written : entry ∈ c.entries (stretch.events w options)) : stretch.Labels w c entry := by
  cases stretch with
  | own level message =>
    obtain rfl := List.mem_singleton.mp written
    exact ⟨rfl, rfl, rfl, rfl⟩
  | file path => exact isAbout_of_mem_diagnose w options written

end Stretch

variable (w : Workspace) (options : Options)

/-- Whether events are those of stretches with the given files. -/
def Comprises (paths : List Text) (events : List Event) : Prop :=
  ∃ stretches : List Stretch, stretches.filterMap Stretch.path? = paths ∧
    events = stretches.flatMap (Stretch.events w options)

/-- What is promised of the events of a run through files, whatever labels its caller has: they
restore these labels, and they come in stretches whose entries are labelled as they should be. -/
structure IsLabelled (paths : List Text) (events : List Event) : Prop where
  restores : ∀ c : Context, c.afterAll events = c
  labels : ∃ stretches : List Stretch, stretches.filterMap Stretch.path? = paths ∧
    events = stretches.flatMap (Stretch.events w options) ∧
    ∀ c : Context,
      c.entries events = (stretches.flatMap fun stretch => c.entries (stretch.events w options)) ∧
      ∀ stretch ∈ stretches, ∀ entry ∈ c.entries (stretch.events w options),
        stretch.Labels w c entry

variable {w options}

namespace Comprises

private theorem isLabelled {paths : List Text} {events : List Event}
    (comprises : Comprises w options paths events) : IsLabelled w options paths events := by
  obtain ⟨stretches, files, rfl⟩ := comprises
  have restores := Stretch.afterAll_events w options
  exact ⟨fun c => c.afterAll_flatMap restores stretches, stretches, files, rfl, fun c =>
    ⟨c.entries_flatMap restores stretches, fun _ _ _ written =>
      Stretch.labels_of_mem w options written⟩⟩

private theorem nil : Comprises w options [] [] := ⟨[], rfl, rfl⟩

private theorem append {first second : List Text} {before after : List Event}
    (comprises : Comprises w options first before) (more : Comprises w options second after) :
    Comprises w options (first ++ second) (before ++ after) := by
  obtain ⟨stretches, rfl, rfl⟩ := comprises
  obtain ⟨later, rfl, rfl⟩ := more
  exact ⟨stretches ++ later, List.filterMap_append, List.flatMap_append.symm⟩

private theorem file (path : Text) : Comprises w options [path] (diagnose w options path).events :=
  ⟨[.file path], rfl, (List.append_nil _).symm⟩

private theorem own (level : Log.Level) (message : Text) :
    Comprises w options [] [.note level .extraction message] :=
  ⟨[.own level message], rfl, rfl⟩

private theorem of_areNotes {events : List Event} (notes : AreNotes [.extraction] events) :
    Comprises w options [] events := by
  induction events with
  | nil => exact .nil
  | cons event events ih =>
    obtain ⟨level, member, message⟩ := notes event List.mem_cons_self
    obtain rfl := List.mem_singleton.mp member
    exact (own level message).append (ih notes.tail)

end Comprises

/-! ### Runs through the first of several files -/

variable (w options) in
/-- Whether events are those of a run that has gone through the first of some files. -/
def GoesThrough (paths : List Text) (events : List Event) : Prop :=
  ∃ past, past <+: paths ∧ Comprises w options past events

variable (w options) in
/-- Whether a run through the first of some files goes on, perhaps through more of them. -/
def GoesOn (paths : List Text) (events later : List Event) : Prop :=
  ∃ past next more, past ++ next <+: paths ∧ Comprises w options past events ∧
    Comprises w options next more ∧ later = events ++ more

section

variable {front paths : List Text} {first events later : List Event}

private theorem Comprises.goesThrough (comprises : Comprises w options front first)
    (paths : List Text) :
    GoesThrough w options (front ++ paths) first :=
  ⟨front, List.prefix_append front paths, comprises⟩

private theorem Comprises.goesThrough_of_nil (comprises : Comprises w options [] events) :
    GoesThrough w options paths events :=
  ⟨[], List.nil_prefix, comprises⟩

private theorem GoesThrough.after (rest : GoesThrough w options paths events)
    (comprises : Comprises w options front first) :
    GoesThrough w options (front ++ paths) (first ++ events) := by
  obtain ⟨past, isPrefix, these⟩ := rest
  exact ⟨front ++ past, (List.prefix_append_right_inj front).mpr isPrefix, comprises.append these⟩

private theorem GoesThrough.goesOn_nil (rest : GoesThrough w options paths events) :
    GoesOn w options paths [] events := by
  obtain ⟨past, isPrefix, these⟩ := rest
  exact ⟨[], past, events, isPrefix, .nil, these, rfl⟩

private theorem GoesThrough.goesOn_self (rest : GoesThrough w options paths events) :
    GoesOn w options paths events events := by
  obtain ⟨past, isPrefix, these⟩ := rest
  exact ⟨past, [], [], by rwa [List.append_nil], these, .nil, (List.append_nil _).symm⟩

private theorem GoesOn.after (rest : GoesOn w options paths events later)
    (comprises : Comprises w options front first) :
    GoesOn w options (front ++ paths) (first ++ events) (first ++ later) := by
  obtain ⟨past, next, more, isPrefix, these, those, rfl⟩ := rest
  refine ⟨front ++ past, next, more, ?_, comprises.append these, those, ?_⟩
  · rw [List.append_assoc]
    exact (List.prefix_append_right_inj front).mpr isPrefix
  · rw [List.append_assoc]

end

/-! ### Runs -/

private theorem writes_discover (fs : FileSystem) (options : Options) (directory : Text) :
    (discover fs options directory).Writes [.extraction] := by
  have checked : (checkPath (fs.absolute directory)).Writes [.extraction] := by
    unfold checkPath
    split
    · split_ifs <;> exact AreNotes.nil
    · exact AreNotes.nil
  unfold discover
  refine .bind (Logged.writes_note _ (by decide) _) fun _ => .bind checked fun _ => ?_
  exact .bind (Logged.writes_note _ (by decide) _) fun _ => Logged.writes_pure _

variable (w options)

private theorem comprises_extractFile (path : Text) :
    Comprises w options [path] (extractFile w options path).events := by
  unfold extractFile
  dsimp only
  cases (diagnose w options path).result with
  | ok d => exact .file path
  | error failure => exact (Comprises.file path).append (.own ..)

private theorem comprises_skipped (path : Text) (failure : Failure) :
    Comprises w options [path] ((diagnose w options path).events ++ [skipNote path failure]) :=
  (Comprises.file path).append (.own ..)

private theorem goesThrough_streamFiles (keepGoing : Bool) (limit : Option Nat) (paths : List Text)
    (start : Stats) :
    GoesThrough w options paths (streamFiles w options keepGoing limit paths start).events := by
  induction paths generalizing limit start with
  | nil =>
    rcases limit with _ | _ | count
    · exact (Comprises.own ..).goesThrough_of_nil
    · exact Comprises.nil.goesThrough_of_nil
    · exact (Comprises.own ..).goesThrough_of_nil
  | cons path paths ih =>
    by_cases asked : limit = some 0
    · rw [asked, streamFiles_zero]
      exact Comprises.nil.goesThrough_of_nil
    cases found : (diagnose w options path).result with
    | ok d =>
      rw [streamFiles_cons_of_ok w options asked found]
      exact (ih _ _).after (.file path)
    | error failure =>
      cases keepGoing with
      | true =>
        rw [streamFiles_cons_of_error w options asked found]
        exact (ih _ _).after (comprises_skipped w options path failure)
      | false =>
        rw [streamFiles_cons_of_stop w options asked found]
        exact (comprises_skipped w options path failure).goesThrough paths

private theorem goesOn_streamFiles (keepGoing : Bool) (count : Nat) (paths : List Text)
    (start : Stats) :
    GoesOn w options paths (streamFiles w options keepGoing (some count) paths start).events
      (streamFiles w options keepGoing (some (count + 1)) paths start).events := by
  induction paths generalizing count start with
  | nil =>
    cases count with
    | zero => exact (goesThrough_streamFiles w options keepGoing _ _ _).goesOn_nil
    | succ count => exact (goesThrough_streamFiles w options keepGoing _ _ start).goesOn_self
  | cons path paths ih =>
    cases count with
    | zero =>
      rw [streamFiles_zero]
      exact (goesThrough_streamFiles w options keepGoing _ _ _).goesOn_nil
    | succ count =>
      cases found : (diagnose w options path).result with
      | ok d =>
        rw [streamFiles_cons_of_ok w options (by simp) found,
          streamFiles_cons_of_ok w options (by simp) found]
        exact (ih count _).after (.file path)
      | error failure =>
        cases keepGoing with
        | true =>
          rw [streamFiles_cons_of_error w options (by simp) found,
            streamFiles_cons_of_error w options (by simp) found]
          exact (ih (count + 1) _).after (comprises_skipped w options path failure)
        | false =>
          rw [streamFiles_cons_of_stop w options (by simp) found,
            streamFiles_cons_of_stop w options (by simp) found]
          exact ((comprises_skipped w options path failure).goesThrough paths).goesOn_self

section

variable (keepGoing : Bool) (source : Text) (start : Stats)

private theorem comprises_search (level : Log.Level) (message : Text) :
    Comprises w options []
      ((discover w.files options source).events ++ [.note level .extraction message]) :=
  (Comprises.of_areNotes (writes_discover w.files options source)).append (.own level message)

private theorem goesThrough_streamDirectory (limit : Option Nat) :
    GoesThrough w options (sources w.files options source)
      (streamDirectory w options keepGoing limit source start).events := by
  unfold streamDirectory
  dsimp only
  split_ifs
  · exact (comprises_search w options source _ _).goesThrough_of_nil
  · exact (goesThrough_streamFiles w options keepGoing limit _ start).after
      (comprises_search w options source _ _)

private theorem goesOn_streamDirectory (count : Nat) :
    GoesOn w options (sources w.files options source)
      (streamDirectory w options keepGoing (some count) source start).events
      (streamDirectory w options keepGoing (some (count + 1)) source start).events := by
  unfold streamDirectory
  dsimp only
  split_ifs
  · exact (comprises_search w options source _ _).goesThrough_of_nil.goesOn_self
  · exact (goesOn_streamFiles w options keepGoing count _ start).after
      (comprises_search w options source _ _)

private theorem comprises_streamFile (path : Text) :
    Comprises w options [path] (streamFile w options path start).events := by
  cases found : (diagnose w options path).result with
  | ok d =>
    rw [streamFile_of_ok w options found]
    exact .file path
  | error failure =>
    rw [streamFile_of_error w options found]
    exact (Comprises.file path).append (.own ..)

private theorem goesThrough_stream (limit : Option Nat) :
    GoesThrough w options (targets w options source)
      (stream w options keepGoing limit source start).events := by
  by_cases asked : limit = some 0
  · rw [stream, if_pos asked]
    exact Comprises.nil.goesThrough_of_nil
  rw [stream, if_neg asked, targets]
  split_ifs
  · exact (comprises_streamFile w options start _).goesThrough []
  · exact goesThrough_streamDirectory w options keepGoing _ start limit
  · exact Comprises.nil.goesThrough_of_nil

private theorem goesOn_stream (count : Nat) :
    GoesOn w options (targets w options source)
      (stream w options keepGoing (some count) source start).events
      (stream w options keepGoing (some (count + 1)) source start).events := by
  cases count with
  | zero => exact (goesThrough_stream w options keepGoing source start _).goesOn_nil
  | succ count =>
    have asked : some (count + 1) ≠ some 0 := by simp
    have again : some (count + 1 + 1) ≠ some 0 := by simp
    rw [stream, stream, if_neg asked, if_neg again, targets]
    split_ifs
    · exact ((comprises_streamFile w options start _).goesThrough []).goesOn_self
    · exact goesOn_streamDirectory w options keepGoing _ start (count + 1)
    · exact Comprises.nil.goesThrough_of_nil.goesOn_self

end

private theorem goesThrough_extractDirectory (keepGoing : Bool) (directory : Text) :
    GoesThrough w options (sources w.files options (w.files.absolute directory))
      (extractDirectory w options keepGoing directory).events := by
  unfold extractDirectory
  dsimp only
  split_ifs
  · exact Comprises.nil.goesThrough_of_nil
  · exact goesThrough_streamDirectory w options keepGoing _ {} none

/-- Every run labels its notes with the file they are about, and its own notes with the labels of
its caller, which it restores: on a file, on a directory, and wherever a run is left. Asking for one
more outline adds only such notes, whatever labels the caller has by then. Work in the scope of a
file restores the labels from before it however it ends, with any scopes and counts nested
inside. -/
theorem runs_are_labelled (w : Workspace) (options : Options) :
    (∀ path, IsLabelled w options [path] (extractFile w options path).events) ∧
    (∀ keepGoing directory, ∃ paths,
      paths <+: sources w.files options (w.files.absolute directory) ∧
        IsLabelled w options paths (extractDirectory w options keepGoing directory).events) ∧
    (∀ keepGoing source start,
      let run := fun limit => stream w options keepGoing limit source start
      (∀ limit, ∃ paths, paths <+: targets w options source ∧
        IsLabelled w options paths (run limit).events) ∧
      ∀ count, ∃ paths next more, paths ++ next <+: targets w options source ∧
        IsLabelled w options paths (run (some count)).events ∧ IsLabelled w options next more ∧
        (run (some (count + 1))).events = (run (some count)).events ++ more) ∧
    ∀ {α : Type} (path : Text) (work : Logged Failure α), Log.Nested work.events →
      Log.Nested (withinFile path work).events ∧
        ∀ c : Context, c.afterAll (withinFile path work).events = c := by
  refine ⟨fun path => (comprises_extractFile w options path).isLabelled,
    fun keepGoing directory => ?_, fun keepGoing source start => ⟨fun limit => ?_, fun count => ?_⟩,
    fun path work nested => ⟨.scope path nested .nil, fun c => nested.afterAll_scope c path⟩⟩
  · obtain ⟨paths, first, these⟩ := goesThrough_extractDirectory w options keepGoing directory
    exact ⟨paths, first, these.isLabelled⟩
  · obtain ⟨paths, first, these⟩ := goesThrough_stream w options keepGoing source start limit
    exact ⟨paths, first, these.isLabelled⟩
  · obtain ⟨paths, next, more, first, these, those, grown⟩ :=
      goesOn_stream w options keepGoing source start count
    exact ⟨paths, next, more, first, these.isLabelled, those.isLabelled, grown⟩

/-- The labels of a caller that is itself at work on a file. -/
def callerContext :
    Context := { runId := "r", file := "/t.cs", errors := "3", saved := [("-", "-")] }

/-- Work that counts errors, and fails in the scope of another file after counting there. -/
def interrupted : Logged Failure Unit := do
  report [.errors 4]
  withinFile "/u.cs" (do report [.errors 1]; Logged.fail .overflow)

/-- A run that is left after one outline and work that fails in an inner scope, both with the caller
at work on a file. -/
theorem runs_are_labelled_threeFiles :
    Log.Nested interrupted.events ∧ interrupted.result = .error .overflow ∧
      callerContext.afterAll (withinFile "/v.cs" interrupted).events = callerContext ∧
      IsLabelled threeFiles .default ["/s/b.cs"]
        (extractFile threeFiles .default "/s/b.cs").events ∧
      ∃ paths, paths <+: targets threeFiles .default "s" ∧
        IsLabelled threeFiles .default paths
          (stream threeFiles .default true (some 1) "s" {}).events := by
  obtain ⟨onFile, -, onSource, inScope⟩ := runs_are_labelled threeFiles .default
  have nested : Log.Nested interrupted.events :=
    .errors 4 (.scope "/u.cs" (.errors 1 .nil) .nil)
  exact ⟨nested, rfl, (inScope "/v.cs" interrupted nested).2 callerContext, onFile "/s/b.cs",
    (onSource true "s" {}).1 (some 1)⟩

end Outline.Extraction
