import Outline.Text.Basic

/-!
The log of a run.

Work reports what happens as a list of events: notes, and changes of the context that notes are
labelled with. Replaying the events from a context labels every note with the run, the file and the
count of syntax errors in force at that moment. Entering a file saves the labels of the file around
it and leaving restores them.
-/

set_option autoImplicit false

namespace Outline.Log

inductive Level
  /-- The level below all others, on which nothing is written. -/
  | unset
  | debug | info | warning | error | critical
  deriving DecidableEq, Repr

namespace Level

def name : Level → String
  | .unset => "NOTSET"
  | .debug => "DEBUG"
  | .info => "INFO"
  | .warning => "WARNING"
  | .error => "ERROR"
  | .critical => "CRITICAL"

def rank : Level → Nat
  | .unset => 0
  | .debug => 10
  | .info => 20
  | .warning => 30
  | .error => 40
  | .critical => 50

def words : List (String × Level) :=
  [("DEBUG", .debug), ("INFO", .info), ("WARNING", .warning), ("ERROR", .error),
    ("CRITICAL", .critical), ("WARN", .warning), ("FATAL", .critical), ("NOTSET", .unset)]

def ofName? (t : Text) : Option Level :=
  (words.find? fun word => decide (Text.ofString word.1 = t)).map (·.2)

end Level

inductive Channel
  | parsing | reading | literals | visibility | building | extraction | options | configuration
  | command
  deriving DecidableEq, Repr

def Channel.name : Channel → String
  | .parsing => "extraction.parser"
  | .reading => "extraction.syntax"
  | .literals => "extraction.literals"
  | .visibility => "extraction.visibility"
  | .building => "extraction.traversal"
  | .extraction => "extraction.extractor"
  | .options => "extraction.options"
  | .configuration => "core.startup_config"
  | .command => "run_extraction"

inductive Event
  | note (level : Level) (channel : Channel) (message : Text)
  /-- Work on a file begins; its syntax errors are not counted yet. -/
  | enter (path : Text)
  | leave
  /-- The syntax errors of the current file have been counted. -/
  | errors (count : Int)
  deriving DecidableEq, Repr

/-- The labels in force, and those to be restored. -/
structure Context where
  runId : Text := "-"
  file : Text := "-"
  errors : Text := "-"
  /-- File and error labels around each file that was entered, the innermost first. -/
  saved : List (Text × Text) := []
  deriving DecidableEq, Repr

/-- A note with its labels. -/
structure Entry where
  level : Level
  channel : Channel
  runId : Text
  file : Text
  errors : Text
  message : Text
  deriving DecidableEq, Repr

namespace Context

def enter (c : Context) (path : Text) : Context :=
  { c with file := path, errors := "-", saved := (c.file, c.errors) :: c.saved }

def leave (c : Context) : Context :=
  match c.saved with
  | [] => c
  | (file, errors) :: saved => { c with file := file, errors := errors, saved := saved }

def setErrors (c : Context) (count : Int) : Context := { c with errors := Text.ofInt count }

def after (c : Context) : Event → Context
  | .note .. => c
  | .enter path => c.enter path
  | .leave => c.leave
  | .errors count => c.setErrors count

def entry? (c : Context) : Event → Option Entry
  | .note level channel message => some ⟨level, channel, c.runId, c.file, c.errors, message⟩
  | _ => none

def afterAll (c : Context) : List Event → Context
  | [] => c
  | event :: events => (c.after event).afterAll events

def entries (c : Context) : List Event → List Entry
  | [] => []
  | event :: events => (c.entry? event).toList ++ (c.after event).entries events

end Context

end Outline.Log

/-! ### Logged work

Work that leaves a log: a result or a failure, and the events up to it.
-/

namespace Outline

universe u v

/-- The outcome of work together with the events it reported. -/
structure Logged (ε : Type u) (α : Type v) where
  result : Except ε α
  events : List Log.Event

namespace Logged

variable {ε : Type u} {α β : Type v}

def pure (a : α) : Logged ε α := ⟨.ok a, []⟩

def fail (e : ε) : Logged ε α := ⟨.error e, []⟩

def ofExcept (result : Except ε α) : Logged ε α := ⟨result, []⟩

def bind (x : Logged ε α) (f : α → Logged ε β) : Logged ε β :=
  match x.result with
  | .ok a => ⟨(f a).result, x.events ++ (f a).events⟩
  | .error e => ⟨.error e, x.events⟩

instance : Monad (Logged ε) where
  pure := pure
  bind := bind

@[simp] theorem result_pure (a : α) : (Pure.pure a : Logged ε α).result = .ok a := rfl

@[simp] theorem result_fail (e : ε) : (fail e : Logged ε α).result = .error e := rfl

@[simp] theorem result_ofExcept (result : Except ε α) :
    (ofExcept result : Logged ε α).result = result := rfl

@[simp] theorem result_bind (x : Logged ε α) (f : α → Logged ε β) :
    (x >>= f).result = x.result.bind fun a => (f a).result := by
  change (bind x f).result = _
  rw [bind]
  cases x.result <;> rfl

theorem events_bind_of_ok {work : Logged ε α} {a : α} (ok : work.result = .ok a)
    (next : α → Logged ε β) : (work >>= next).events = work.events ++ (next a).events := by
  change (bind work next).events = _
  rw [bind, ok]

theorem events_bind_of_error {work : Logged ε α} {e : ε} (failed : work.result = .error e)
    (next : α → Logged ε β) : (work >>= next).events = work.events := by
  change (bind work next).events = _
  rw [bind, failed]

end Logged

variable {ε : Type u}

def report (events : List Log.Event) : Logged ε Unit := ⟨.ok (), events⟩

def note (level : Log.Level) (channel : Log.Channel) (message : Text) : Logged ε Unit :=
  report [.note level channel message]

@[simp] theorem result_report (events : List Log.Event) :
    (report events : Logged ε Unit).result = .ok () := rfl

@[simp] theorem result_note (level : Log.Level) (channel : Log.Channel) (message : Text) :
    (note level channel message : Logged ε Unit).result = .ok () := rfl

end Outline

/-! ### Output

Where the log goes: streams that each write a line for a message, or several if the message has
breaks.

Until the log is configured a stream writes bare messages; afterwards it writes the level, the
labels in force, the name of the writer and the message. Configuring also sets the least level that
is written, and makes a stream where there is none. With no stream at all a message goes to a last
resort, from warnings on.
-/

namespace Outline.Log

structure Sink where
  labelled : Bool := false
  filters : Nat := 0
  deriving DecidableEq, Repr

/-- The streams of the log, its least level and the labels in force. -/
structure Output where
  level : Level := .warning
  sinks : List Sink := []
  context : Context := {}
  deriving Repr

namespace Output

def Sink.configured (s : Sink) : Sink := ⟨true, if s.filters = 0 then 1 else s.filters⟩

def configure (o : Output) (level : Level) : Output :=
  let sinks := if o.sinks.isEmpty then [{}] else o.sinks
  { o with level := level, sinks := sinks.map Sink.configured }

def shownName : Text → Text
  | [] => "root"
  | name => name

def labelled (c : Context) (level : Level) (name message : Text) : Text :=
  Text.join [level.name, " | run_id=", c.runId, " | file=", c.file, " | parse_errors=", c.errors,
    " | ", shownName name, " | ", message]

def written (t : Text) : List Text := Text.lines (t ++ [10])

/-- What a message adds to each stream; the last resort is the one stream where there is none. -/
def write (o : Output) (level : Level) (name message : Text) : List (List Text) :=
  let passes := decide (o.level.rank ≤ level.rank) && decide (level ≠ .unset)
  if o.sinks.isEmpty then
    [if passes && decide (Level.warning.rank ≤ level.rank) then written message else []]
  else o.sinks.map fun sink =>
    if !passes then []
    else if sink.labelled then written (labelled o.context level name message)
    else written message

/-- Names the run: the given name, or a fresh one where none is given or it is empty. -/
def setRunId (o : Output) (name : Option Text) (fresh : Text) : Output × Text :=
  let runId := match name with
    | some (c :: t) => c :: t
    | _ => fresh
  ({ o with context := { o.context with runId := runId } }, runId)

end Output

end Outline.Log
