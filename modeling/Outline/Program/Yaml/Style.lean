import Outline.Config.Datum
import Outline.Failure
import Outline.Literal
import Outline.Number
import Outline.Text.Basic
import Outline.Text.Utf8

/-!
The text of a document, places in it, and the texts of its scalars in their styles.

A document is read piece by piece, as far as its tokens need it. A piece that is no text, or that
holds a code point that no document may hold, is a fault only where it is needed: what is wrong
before it comes first. A scalar may run over several lines. In plain and quoted style its lines are
folded into one; a block keeps them, or folds those that do not begin with a blank.
-/

set_option autoImplicit false

namespace Outline.Program.Yaml

open Config

inductive Fault
  | malformed
  | unclosed
  | undecodable (error : Utf8.DecodeError)
  /-- Its collections stand too deep one in another, or a scalar is itself its value. -/
  | tooDeep
  | escape (flaw : Literal.Escape.Flaw)
  /-- A scalar marked as an integer is none that can be read. -/
  | integer (flaw : Integer.Flaw)
  | emptyNumber
  /-- A scalar marked as a floating-point number is none. -/
  | float (text : Text)
  /-- The first part of a number in parts of sixty counts more than a floating-point number can. -/
  | tooLarge
  | truth (word : Text)
  /-- A scalar marked as a date or a time is of another form. -/
  | notMoment
  | mappedMoment
  | moment (flaw : Moment.Flaw)
  deriving DecidableEq, Repr

namespace Fault

def message : Fault → Text
  | .malformed | .unclosed => "malformed document"
  | .undecodable error => error.message
  | .tooDeep => "maximum recursion depth exceeded"
  | .escape flaw => flaw.message
  | .integer flaw => flaw.message
  | .emptyNumber => "string index out of range"
  | .float text => Text.join ["could not convert string to float: ", Text.Quoted.quote text]
  | .tooLarge => "int too large to convert to float"
  | .truth word => Text.Quoted.quote word
  | .notMoment => "'NoneType' object has no attribute 'groupdict'"
  | .mappedMoment => "expected string or bytes-like object, got 'list'"
  | .moment flaw => flaw.message

def isOfForm : Fault → Bool
  | .malformed | .unclosed => true
  | _ => false

def foreign (fault : Fault) : Outline.Fault :=
  let other (kind : Text) : Outline.Fault := .other kind fault.message
  match fault with
  | .malformed | .unclosed => .malformed fault.message
  | .undecodable _ => other "UnicodeDecodeError"
  | .tooDeep => other "RecursionError"
  | .escape .overflow | .tooLarge => other "OverflowError"
  | .emptyNumber => other "IndexError"
  | .truth _ => other "KeyError"
  | .notMoment => other "AttributeError"
  | .mappedMoment => other "TypeError"
  | .escape _ | .integer _ | .float _ | .moment _ => other "ValueError"

end Fault

/-! ### Places -/

def isBreak (c : CodePoint) : Bool := c = 10 || c = 0x85 || c = 0x2028 || c = 0x2029

def isBlankOrTab (c : CodePoint) : Bool := c = 32 || c = 9

def isGap (c : CodePoint) : Bool := isBlankOrTab c || isBreak c

def isBlankOrBreak (c : CodePoint) : Bool := c = 32 || isBreak c

def endsOr (isOne : CodePoint → Bool) (t : Text) : Bool := (t.head?.map isOne).getD true

def isAllowed (c : CodePoint) : Bool :=
  c = 9 || c = 10 || c = 13 || c = 0x85 || (decide (0x20 ≤ c.val) && decide (c.val ≤ 0x7E))
    || (decide (0xA0 ≤ c.val) && decide (c.val ≤ 0xD7FF))
    || (decide (0xE000 ≤ c.val) && decide (c.val ≤ 0xFFFD)) || decide (0x10000 ≤ c.val)

def byteOrderMark : CodePoint := 0xFEFF

structure Cursor where
  rest : Text
  left : Nat := rest.length
  index : Nat := 0
  line : Nat := 0
  column : Nat := 0
  deriving DecidableEq, Repr

namespace Cursor

def head? (c : Cursor) : Option CodePoint := c.rest.head?

def isEnd (c : Cursor) : Bool := c.rest.isEmpty

def isAt (c : Cursor) (isOne : CodePoint → Bool) : Bool := (c.head?.map isOne).getD false

def endsOr (c : Cursor) (isOne : CodePoint → Bool) : Bool := Yaml.endsOr isOne c.rest

def next (c : Cursor) : Cursor :=
  match c.rest with
  | [] => c
  | p :: t =>
    if isBreak p then ⟨t, c.left - 1, c.index + 1, c.line + 1, 0⟩
    else ⟨t, c.left - 1, c.index + 1, c.line, if p = byteOrderMark then c.column else c.column + 1⟩

def advance (c : Cursor) : Nat → Cursor
  | 0 => c
  | n + 1 => c.next.advance n

def takeWhile (c : Cursor) (isOne : CodePoint → Bool) : Text × Cursor :=
  let taken := c.rest.takeWhile isOne
  (taken, c.advance taken.length)

def skipWhile (c : Cursor) (isOne : CodePoint → Bool) : Cursor := (c.takeWhile isOne).2

def skipBlanks (c : Cursor) : Cursor := c.skipWhile (· = 32)

def skipComment (c : Cursor) : Cursor :=
  if c.head? = some 35 then c.skipWhile (!isBreak ·) else c

def takeBreak? (c : Cursor) : Option (CodePoint × Cursor) :=
  match c.rest with
  | [] => none
  | p :: _ => if isBreak p then some (if p = 0x85 then 10 else p, c.next) else none

def skipFrom : Nat → Cursor → Cursor
  | 0, c => c
  | fuel + 1, c =>
    let d := c.skipBlanks.skipComment
    match d.takeBreak? with
    | some (_, e) => skipFrom fuel e
    | none => d

/-- Past blanks, comments and line breaks, and past a byte order mark at the start. -/
def skip (c : Cursor) : Cursor :=
  skipFrom (c.left + 1)
    (if c.index = 0 ∧ c.head? = some byteOrderMark then c.next else c)

/-- Past blanks and a comment to the end of the line, if nothing else is on it. -/
def skipLine? (c : Cursor) : Option Cursor :=
  let d := c.skipBlanks.skipComment
  match d.takeBreak? with
  | some (_, e) => some e
  | none => if d.isEnd then some d else none

def isMarked (c : Cursor) (marks : String) : Bool :=
  Text.startsWith marks c.rest && Yaml.endsOr isGap (c.rest.drop 3)

def isSeparator (c : Cursor) : Bool := c.isMarked "---" || c.isMarked "..."

end Cursor

/-- What the breaks inside a folded scalar come to: a single line feed is a blank, of more the first
is dropped, and a separator stays. -/
def fold (first : CodePoint) (more : Text) : Text :=
  if first ≠ 10 then first :: more else if more.isEmpty then [32] else more

/-! ### Documents as they are read -/

/-- A text, and the fault that shows where more is needed. -/
structure Source where
  text : Text
  stop : Option Fault := none

namespace Source

def pieceSize : Nat := 4096

/-- The pieces of a text before the one with an index, and a fault in their place. The first two
pieces are read at once. -/
def cut (text : Text) (index : Nat) (fault : Fault) : Source :=
  let count := index / pieceSize
  ⟨if count < 2 then [] else text.take (count * pieceSize), some fault⟩

/-- A source up to the first piece with a code point that no document may hold. -/
def checked (s : Source) : Source :=
  if s.text.all isAllowed then s
  else cut s.text (s.text.takeWhile isAllowed).length .malformed

def ofText (text : Text) : Option Utf8.DecodeError → Source
  | none => checked ⟨text, none⟩
  | some error => checked (cut text text.length (.undecodable error))

def ofBytes (bytes : Bytes) : Source :=
  let (text, error) := Utf8.decodeBlocks bytes
  ofText text.unifyBreaks error

end Source

/-! ### Styles of scalars -/

def isFlowMark (c : CodePoint) : Bool :=
  c = 44 || c = 91 || c = 93 || c = 123 || c = 125

/-! ### Plain scalars -/

def isIndicator (c : CodePoint) : Bool :=
  isGap c || isFlowMark c || (Text.ofString "-?:#&*!|>'\"%@").contains c || c = 96

/-- Whether a plain scalar begins with a text: a dash can be its first code point where no gap
follows, and outside brackets a question mark or a colon as well. -/
def startsPlain (flow : Bool) : Text → Bool
  | [] => false
  | c :: t =>
    !isIndicator c || (!endsOr isGap t && (c = 45 || (!flow && (c = 63 || c = 58))))

def plainRun (flow : Bool) : Text → Text
  | [] => []
  | c :: t =>
    if isGap c then []
    else if c = 58 && endsOr (fun d => isGap d || (flow && isFlowMark d)) t then []
    else if flow && (isFlowMark c || c = 63) then []
    else c :: plainRun flow t

/-- The breaks among blanks and breaks, and the place behind them; where a document ends among them
the scalar ends too. -/
def plainBreaks : Nat → Cursor → Option Text × Cursor
  | 0, c => (some [], c)
  | fuel + 1, c =>
    let d := c.skipBlanks
    match d.takeBreak? with
    | none => (some [], d)
    | some (first, e) =>
      if e.isSeparator then (none, e)
      else
        let (more, f) := plainBreaks fuel e
        (more.map (first :: ·), f)

structure PlainGap where
  /-- What the gap comes to; there is none where a document ends. -/
  text : Option Text
  cursor : Cursor
  isBroken : Bool

def plainGap (c : Cursor) : PlainGap :=
  let (blanks, d) := c.takeWhile (· = 32)
  match d.takeBreak? with
  | none => ⟨some blanks, d, false⟩
  | some (first, e) =>
    if e.isSeparator then ⟨none, e, true⟩
    else
      let (more, f) := plainBreaks (e.left + 1) e
      ⟨more.map (fold first), f, true⟩

/-- Goes on with a plain scalar whose last gap is given; it ends at a comment, at a mark, and
outside brackets on a line that is not further in than `indent`. The result says whether the scalar
ends on a line of its own. -/
def plainFrom (flow : Bool) (indent : Int) : Nat → PlainGap → Text → Text × Cursor × Bool
  | 0, gap, _ => ([], gap.cursor, gap.isBroken)
  | fuel + 1, gap, between =>
    let c := gap.cursor
    let run := if c.head? = some 35 then [] else plainRun flow c.rest
    if run.isEmpty then ([], c, gap.isBroken)
    else
      let following := plainGap (c.advance run.length)
      let d := following.cursor
      match following.text.filter (!·.isEmpty) with
      | none => (between ++ run, d, following.isBroken)
      | some gapText =>
        if d.head? = some 35 || (!flow && decide ((d.column : Int) ≤ indent)) then
          (between ++ run, d, following.isBroken)
        else
          let (more, e, isBroken) := plainFrom flow indent fuel following gapText
          (between ++ run ++ more, e, isBroken)

/-- Reads a plain scalar: its text, the place behind it and the gap that follows, and whether that
gap holds a line break. -/
def plain (flow : Bool) (indent : Int) (c : Cursor) : Text × Cursor × Bool :=
  plainFrom flow indent (c.left + 1) ⟨some [], c, false⟩ []

/-! ### Quoted scalars -/

def escapeLetter? (c : CodePoint) : Option CodePoint :=
  if c = 34 ∨ c = 92 ∨ c = 47 ∨ c = 32 ∨ c = 9 then some c
  else if c = 48 then some 0
  else if c = 97 then some 7
  else if c = 98 then some 8
  else if c = 116 then some 9
  else if c = 110 then some 10
  else if c = 118 then some 11
  else if c = 102 then some 12
  else if c = 114 then some 13
  else if c = 101 then some 27
  else if c = 78 then some 0x85
  else if c = 95 then some 0xA0
  else if c = 76 then some 0x2028
  else if c = 80 then some 0x2029
  else none

def escapeWidth? (c : CodePoint) : Option Nat :=
  if c = 120 then some 2 else if c = 117 then some 4 else if c = 85 then some 8 else none

/-- The code point of an escape by number, from the text behind its letter. -/
def numbered (width : Nat) (t : Text) : Except Fault CodePoint :=
  let digits := Literal.Escape.hexRun width t
  if digits.length < width then .error (if digits.length = t.length then .unclosed else .malformed)
  else (Literal.Escape.codePoint (Literal.Escape.hexNumber digits)).mapError .escape

/-- The breaks among gaps, and the place behind them; no document may end there. -/
def quotedBreaks : Nat → Cursor → Except Fault (Text × Cursor)
  | 0, _ => .error .malformed
  | fuel + 1, c =>
    if c.isSeparator then .error .malformed
    else
      let d := c.skipWhile isBlankOrTab
      match d.takeBreak? with
      | none => .ok ([], d)
      | some (first, e) => do
        let (more, f) ← quotedBreaks fuel e
        return (first :: more, f)

/-- What the gap in a quoted scalar comes to, and the place behind it. -/
def quotedGap (c : Cursor) : Except Fault (Text × Cursor) :=
  let (blanks, d) := c.takeWhile isBlankOrTab
  match d.takeBreak? with
  | none => .ok (blanks, d)
  | some (first, e) => do
    let (more, f) ← quotedBreaks (e.left + 1) e
    return (fold first more, f)

/-- An escape in double quotes: what it stands for and the place behind it. A line break that is
escaped stands for nothing. -/
def quotedEscape (c : Cursor) : Except Fault (Text × Cursor) :=
  let d := c.next
  match d.rest with
  | [] => .error .unclosed
  | letter :: t =>
    match escapeLetter? letter, escapeWidth? letter with
    | some point, _ => .ok ([point], d.next)
    | none, some width => do
      let point ← numbered width t
      return ([point], d.advance (1 + width))
    | none, none =>
      match d.takeBreak? with
      | none => .error .malformed
      | some (_, e) => quotedBreaks (e.left + 1) e

def quotedFrom (double : Bool) : Nat → Cursor → Except Fault (Text × Cursor)
  | 0, _ => .error .malformed
  | fuel + 1, c =>
    match c.rest with
    | [] => .error .unclosed
    | p :: t =>
      if p = (if double then 34 else 39) && !(!double && t.head? = some 39) then .ok ([], c.next)
      else do
        let (part, d) ←
          if isGap p then quotedGap c
          else if p = 39 && !double then .ok ([39], c.advance 2)
          else if p = 92 && double then quotedEscape c
          else .ok ([p], c.next)
        let (text, e) ← quotedFrom double fuel d
        return (part ++ text, e)

def quoted (c : Cursor) : Except Fault (Text × Cursor) :=
  quotedFrom (c.head? = some 34) (c.left + 1) c.next

/-! ### Block scalars -/

/-- What becomes of the line breaks at the end of a block. -/
inductive Chomping
  | strip | clip | keep
  deriving DecidableEq, Repr

def chomping? (c : CodePoint) : Option Chomping :=
  if c = 43 then some .keep else if c = 45 then some .strip else none

/-- The head of a block scalar: chomping, and the indentation if it is given. -/
structure BlockHead where
  chomping : Chomping := .clip
  indentation : Option Nat := none
  deriving DecidableEq, Repr

def indentation? (c : Cursor) : Option Nat := c.head?.bind (Integer.digitValue? 10)

def blockIndicators (c : Cursor) : BlockHead × Cursor :=
  match c.head?.bind chomping?, indentation? c with
  | some chomping, _ =>
    let d := c.next
    match indentation? d with
    | some n => (⟨chomping, some n⟩, d.next)
    | none => (⟨chomping, none⟩, d)
  | none, some n =>
    let d := c.next
    match d.head?.bind chomping? with
    | some chomping => (⟨chomping, some n⟩, d.next)
    | none => (⟨.clip, some n⟩, d)
  | none, none => ({}, c)

def blockHead (c : Cursor) : Except Fault (BlockHead × Cursor) :=
  let (head, d) := blockIndicators c
  if head.indentation = some 0 || !d.endsOr isBlankOrBreak then .error .malformed
  else
    match d.skipLine? with
    | some e => .ok (head, e)
    | none => .error .malformed

/-- The breaks before a block's first line, the greatest column up to there, and that place. -/
def blockLead : Nat → Nat → Cursor → Text × Nat × Cursor
  | 0, deepest, c => ([], deepest, c)
  | fuel + 1, deepest, c =>
    let d := c.skipBlanks
    let deepest := max deepest (if d.index = c.index then 0 else d.column)
    match d.takeBreak? with
    | none => ([], deepest, d)
    | some (first, e) =>
      let (more, deepest, f) := blockLead fuel deepest e
      (first :: more, deepest, f)

def skipTo (column : Nat) (c : Cursor) : Cursor :=
  c.advance (min (column - c.column) (c.rest.takeWhile (· = 32)).length)

/-- The breaks of lines that are empty but for indentation, and the place behind them. -/
def blockBreaks (column : Nat) : Nat → Cursor → Text × Cursor
  | 0, c => ([], c)
  | fuel + 1, c =>
    let d := skipTo column c
    match d.takeBreak? with
    | none => ([], d)
    | some (first, e) =>
      let (more, f) := blockBreaks column fuel e
      (first :: more, f)

/-- The lines of a block without the breaks at its end, the break behind the last line, and the
further breaks. -/
structure BlockBody where
  text : Text
  ending : Text
  breaks : Text
  cursor : Cursor

def isBlockLine (column : Nat) (c : Cursor) : Bool := c.column == column && !c.isEnd

/-- What the break between two lines of a block comes to: folding makes it a blank, or drops it
where more breaks follow, unless one of the lines begins with a blank. -/
def blockJoin (folded : Bool) (line next : Cursor) (ending breaks : Text) : Text :=
  if folded && ending = [10] && !line.isAt isBlankOrTab && !next.isAt isBlankOrTab then
    if breaks.isEmpty then [32] else []
  else ending

def blockLines (folded : Bool) (column : Nat) : Nat → Text → Cursor → BlockBody
  | 0, breaks, c => ⟨[], [], breaks, c⟩
  | fuel + 1, breaks, c =>
    if isBlockLine column c then
      let (line, d) := c.takeWhile (!isBreak ·)
      let (ending, e) := match d.takeBreak? with
        | some (first, e) => ([first], e)
        | none => ([], d)
      let (more, f) := blockBreaks column (e.left + 1) e
      if isBlockLine column f then
        let body := blockLines folded column fuel more f
        { body with text := breaks ++ line ++ blockJoin folded c f ending more ++ body.text }
      else ⟨breaks ++ line, ending, more, f⟩
    else ⟨[], [], breaks, c⟩

/-- Reads a block scalar from behind its indicator, in a block that is indented by `indent`. -/
def block (folded : Bool) (indent : Int) (c : Cursor) : Except Fault (Text × Cursor) := do
  let (head, d) ← blockHead c
  let least := (max (indent + 1) 1).toNat
  let fuel := d.left + 1
  let body := match head.indentation with
    | some n =>
      let (breaks, e) := blockBreaks (least + n - 1) fuel d
      blockLines folded (least + n - 1) fuel breaks e
    | none =>
      let (breaks, deepest, e) := blockLead fuel 0 d
      blockLines folded (max least deepest) fuel breaks e
  let ending := if head.chomping = .strip then [] else body.ending
  let breaks := if head.chomping = .keep then body.breaks else []
  return (body.text ++ ending ++ breaks, body.cursor)

end Outline.Program.Yaml
