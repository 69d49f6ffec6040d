import Outline.Program.Yaml.Style
import Outline.Text.Utf8

/-!
From a document to its tokens.

Marks of structure stand beside scalars, anchors and tags. Indentation opens and closes block
collections, each with a token where it begins and one where it ends. Whether a scalar or a flow
collection is the key of a mapping shows only at the colon behind it, which must stand on the same
line and not too far off: its place is kept until then, and the tokens for the key are put there. A
document breaks off at the first place that cannot be read; where that is not the document's form,
but an escape in it or the end of what is a text, the tokens before that place count.
-/

set_option autoImplicit false

namespace Outline.Program.Yaml

inductive Directive
  | version (major : Int)
  | tag (handle lead : Text)
  | other
  deriving DecidableEq, Repr

inductive Token
  | directive (directive : Directive)
  | documentStart | documentEnd | streamEnd
  | blockSequenceStart | blockMappingStart | blockEnd
  | flowSequenceStart | flowSequenceEnd | flowMappingStart | flowMappingEnd
  | blockEntry | flowEntry | key | value
  | alias (name : Text)
  | anchor (name : Text)
  | tag (handle : Option Text) (suffix : Text)
  | scalar (text : Text) (isPlain : Bool)
  /-- The place up to which a document can be read at all. -/
  | broken (fault : Fault)
  deriving DecidableEq, Repr

/-- What is wrong with a document in which a token stands where it cannot. -/
def Token.fault : Token → Fault
  | .broken fault => fault
  | _ => .malformed

def isNamePart (c : CodePoint) : Bool := c.alphanumericValue?.isSome || c = 45 || c = 95

def name? (c : Cursor) : Option (Text × Cursor) :=
  let (name, d) := c.takeWhile isNamePart
  if name.isEmpty then none else some (name, d)

/-- Whether a name of an anchor can end where a code point follows. -/
def endsName (c : CodePoint) : Bool :=
  isGap c || c = 63 || c = 58 || c = 44 || c = 93 || c = 125 || c = 37 || c = 64 || c = 96

def anchorName (c : Cursor) : Except Fault (Text × Cursor) :=
  match name? c with
  | some (name, d) => if d.endsOr endsName then .ok (name, d) else .error .malformed
  | none => .error .malformed

/-! ### Tags -/

def isTagPart (c : CodePoint) : Bool :=
  c.alphanumericValue?.isSome || (Text.ofString "-;/?:@&=+$,_.!~*'()[]").contains c

/-- The bytes that are written by number, and the place behind them. -/
def tagBytes : Nat → Cursor → Except Fault (Bytes × Cursor)
  | 0, _ => .error .malformed
  | fuel + 1, c =>
    match c.rest with
    | p :: t =>
      if p = 37 then
        match Literal.Escape.hexRun 2 t with
        | [high, low] => do
          let (bytes, d) ← tagBytes fuel (c.advance 3)
          return (UInt8.ofNat (high * 16 + low) :: bytes, d)
        | _ => .error .malformed
      else .ok ([], c)
    | [] => .ok ([], c)

def tagTextFrom : Nat → Cursor → Except Fault (Text × Cursor)
  | 0, _ => .error .malformed
  | fuel + 1, c =>
    if c.head? = some 37 then do
      let (bytes, d) ← tagBytes (c.left + 1) c
      let text ← (Utf8.decode bytes).mapError fun _ => Fault.malformed
      let (more, e) ← tagTextFrom fuel d
      return (text ++ more, e)
    else
      let (part, d) := c.takeWhile isTagPart
      if part.isEmpty then .ok ([], c)
      else do
        let (more, e) ← tagTextFrom fuel d
        return (part ++ more, e)

def tagText (c : Cursor) : Except Fault (Text × Cursor) := do
  let (text, d) ← tagTextFrom (c.left + 1) c
  if d.index = c.index then .error .malformed else .ok (text, d)

/-- Reads a handle: a mark alone before a blank, else a name between two marks. -/
def tagHandle (c : Cursor) : Except Fault (Text × Cursor) :=
  match c.rest with
  | [] => .error .malformed
  | p :: t =>
    if p ≠ 33 then .error .malformed
    else if t.head? = some 32 then .ok ([33], c.next)
    else
      let (name, d) := c.next.takeWhile isNamePart
      if d.head? = some 33 then .ok (33 :: name ++ [33], d.next) else .error .malformed

/-- Reads what a tag says: in angle brackets, a mark alone, or a handle and the rest. -/
def tagBody (c : Cursor) : Except Fault (Token × Cursor) :=
  let t := c.rest.drop 1
  if t.head? = some 60 then do
    let (text, d) ← tagText (c.advance 2)
    if d.head? = some 62 then .ok (.tag none text, d.next) else .error .malformed
  else if endsOr isGap t then .ok (.tag none [33], c.next)
  else do
    let (handle, d) ←
      if (t.takeWhile (!isBlankOrBreak ·)).contains 33 then tagHandle c else .ok ([33], c.next)
    let (text, e) ← tagText d
    return (.tag (some handle) text, e)

def tagToken (c : Cursor) : Except Fault (Token × Cursor) := do
  let (token, d) ← tagBody c
  if d.endsOr isBlankOrBreak then return (token, d) else .error .malformed

/-! ### Directives -/

def versionNumber (c : Cursor) : Except Fault (Int × Cursor) :=
  let (digits, d) := c.takeWhile (Integer.isDigit 10)
  if digits.isEmpty then .error .malformed
  else (Integer.read 10 digits).map (·, d) |>.mapError .integer

def directiveValue (name : Text) (c : Cursor) : Except Fault (Directive × Cursor) :=
  if name = Text.ofString "YAML" then do
    let (major, d) ← versionNumber c.skipBlanks
    if d.head? ≠ some 46 then .error .malformed
    else
      let (_, e) ← versionNumber d.next
      if e.endsOr isBlankOrBreak then return (.version major, e) else .error .malformed
  else if name = Text.ofString "TAG" then do
    let (handle, d) ← tagHandle c.skipBlanks
    if d.head? ≠ some 32 then .error .malformed
    else
      let (lead, e) ← tagText d.skipBlanks
      if e.endsOr isBlankOrBreak then return (.tag handle lead, e) else .error .malformed
  else .ok (.other, c.skipWhile (!isBreak ·))

def directiveToken (c : Cursor) : Except Fault (Token × Cursor) :=
  match name? c.next with
  | none => .error .malformed
  | some (name, d) =>
    if !d.endsOr isBlankOrBreak then .error .malformed
    else do
      let (directive, e) ← directiveValue name d
      match e.skipLine? with
      | some f => return (.directive directive, f)
      | none => .error .malformed

/-! ### Reading tokens -/

/-- The place of a token that may turn out to begin a key. -/
structure Candidate where
  level : Nat
  number : Nat
  required : Bool
  start : Cursor
  deriving Repr

structure Lexer where
  cursor : Cursor
  tokens : List Token := []
  count : Nat := 0
  level : Nat := 0
  /-- The column of the innermost block collection, below zero outside of all. -/
  indent : Int := -1
  indents : List Int := []
  allowsKey : Bool := true
  candidates : List Candidate := []
  isDone : Bool := false
  deriving Repr

namespace Lexer

/-- The farthest a colon may stand behind the beginning of its key. -/
def keyLimit : Nat := 1024

def inFlow (s : Lexer) : Bool := s.level != 0

def emit (s : Lexer) (token : Token) : Lexer :=
  { s with tokens := token :: s.tokens, count := s.count + 1 }

def emitAt (s : Lexer) (number : Nat) (token : Token) : Lexer :=
  let later := s.count - number
  { s with tokens := s.tokens.take later ++ token :: s.tokens.drop later, count := s.count + 1 }

def emitTo (s : Lexer) (token : Token) (c : Cursor) : Lexer := { s.emit token with cursor := c }

def isStale (c : Cursor) (k : Candidate) : Bool :=
  k.start.line != c.line || decide (keyLimit < c.index - k.start.index)

def dropStale (s : Lexer) : Except Fault Lexer :=
  if s.candidates.any fun k => isStale s.cursor k && k.required then .error .malformed
  else .ok { s with candidates := s.candidates.filter (!isStale s.cursor ·) }

def candidate? (s : Lexer) : Option Candidate := s.candidates.find? (·.level == s.level)

def forget (s : Lexer) : Lexer :=
  { s with candidates := s.candidates.filter (·.level != s.level) }

def giveUp (s : Lexer) : Except Fault Lexer :=
  if (s.candidate?.map (·.required)).getD false then .error .malformed else .ok s.forget

def noteCandidate (s : Lexer) : Except Fault Lexer :=
  if s.allowsKey then do
    let required := !s.inFlow && s.indent == s.cursor.column
    let s ← s.giveUp
    return { s with candidates := ⟨s.level, s.count, required, s.cursor⟩ :: s.candidates }
  else .ok s

def unwindFrom (column : Int) : List Int → Lexer → Lexer
  | [], s => s
  | outer :: indents, s =>
    if column < s.indent then
      unwindFrom column indents ({ s with indent := outer, indents := indents }.emit .blockEnd)
    else s

/-- Ends block collections that are further in than a column; inside brackets columns say
nothing. -/
def unwind (s : Lexer) (column : Int) : Lexer :=
  if s.inFlow then s else unwindFrom column s.indents s

/-- Begins a block collection at a column with a token, if it is further in than the one around
it. -/
def begin (s : Lexer) (column number : Nat) (token : Token) : Lexer :=
  if !s.inFlow && decide (s.indent < column) then
    { s with indent := column, indents := s.indent :: s.indents }.emitAt number token
  else s

def finish (s : Lexer) : Except Fault Lexer := do
  let s ← (s.unwind (-1)).giveUp
  return { s.emit .streamEnd with isDone := true }

def between (s : Lexer) (read : Cursor → Except Fault (Token × Cursor)) : Except Fault Lexer := do
  let s ← (s.unwind (-1)).giveUp
  let (token, c) ← read s.cursor
  return { s.emitTo token c with allowsKey := false }

def openFlow (s : Lexer) (token : Token) : Except Fault Lexer := do
  let s ← s.noteCandidate
  return { s.emitTo token s.cursor.next with level := s.level + 1, allowsKey := true }

def closeFlow (s : Lexer) (token : Token) : Except Fault Lexer := do
  if !s.inFlow then .error .malformed
  else
    let s ← s.giveUp
    return { s.emitTo token s.cursor.next with level := s.level - 1, allowsKey := false }

def flowEntry (s : Lexer) : Except Fault Lexer := do
  let s ← s.giveUp
  return { s.emitTo .flowEntry s.cursor.next with allowsKey := true }

/-- Reads the dash of a block list's item or the mark of a key, which may begin a collection. -/
def blockMark (s : Lexer) (start token : Token) (allows : Bool) : Except Fault Lexer := do
  if !s.inFlow && !s.allowsKey then .error .malformed
  else
    let s ← (s.begin s.cursor.column s.count start).giveUp
    return { s.emitTo token s.cursor.next with allowsKey := allows }

/-- Reads the colon between key and value: where a key may have begun before, it did. -/
def value (s : Lexer) : Except Fault Lexer :=
  match s.candidate? with
  | some k =>
    let s := s.forget.emitAt k.number .key
    let s := s.begin k.start.column k.number .blockMappingStart
    .ok { s.emitTo .value s.cursor.next with allowsKey := false }
  | none => s.blockMark .blockMappingStart .value (!s.inFlow)

/-- Reads what may begin a key: a scalar, an alias, an anchor or a tag. -/
def simple (s : Lexer) (read : Cursor → Except Fault (Token × Cursor)) : Except Fault Lexer := do
  let s ← s.noteCandidate
  let (token, c) ← read s.cursor
  return { s.emitTo token c with allowsKey := false }

def plainScalar (s : Lexer) : Except Fault Lexer := do
  let s ← s.noteCandidate
  let (text, c, isBroken) := plain s.inFlow s.indent s.cursor
  return { s.emitTo (.scalar text true) c with allowsKey := isBroken }

def blockScalar (s : Lexer) (folded : Bool) : Except Fault Lexer := do
  let s ← s.giveUp
  let (text, c) ← block folded s.indent s.cursor.next
  return { s.emitTo (.scalar text false) c with allowsKey := true }

def token (s : Lexer) (p : CodePoint) : Except Fault Lexer :=
  let c := s.cursor
  let isAlone := endsOr isGap (c.rest.drop 1)
  if p = 37 && c.column == 0 then s.between directiveToken
  else if c.column == 0 && c.isMarked "---" then
    s.between fun c => .ok (.documentStart, c.advance 3)
  else if c.column == 0 && c.isMarked "..." then
    s.between fun c => .ok (.documentEnd, c.advance 3)
  else if p = 91 then s.openFlow .flowSequenceStart
  else if p = 123 then s.openFlow .flowMappingStart
  else if p = 93 then s.closeFlow .flowSequenceEnd
  else if p = 125 then s.closeFlow .flowMappingEnd
  else if p = 44 then s.flowEntry
  else if p = 45 && isAlone then s.blockMark .blockSequenceStart .blockEntry true
  else if p = 63 && (s.inFlow || isAlone) then s.blockMark .blockMappingStart .key (!s.inFlow)
  else if p = 58 && (s.inFlow || isAlone) then s.value
  else if p = 42 then
    s.simple fun c => do let (name, d) ← anchorName c.next; return (.alias name, d)
  else if p = 38 then
    s.simple fun c => do let (name, d) ← anchorName c.next; return (.anchor name, d)
  else if p = 33 then s.simple tagToken
  else if p = 124 && !s.inFlow then s.blockScalar false
  else if p = 62 && !s.inFlow then s.blockScalar true
  else if p = 39 || p = 34 then
    s.simple fun c => do let (text, d) ← quoted c; return (.scalar text false, d)
  else if startsPlain s.inFlow c.rest then s.plainScalar
  else .error .malformed

/-- Reads one more token, with those that indentation puts before it. -/
def step (s : Lexer) : Except Fault Lexer := do
  let c := s.cursor.skip
  let isBroken := c.line != s.cursor.line
  let s := { s with cursor := c, allowsKey := s.allowsKey || (isBroken && !s.inFlow) }
  let s ← s.dropStale
  let s := s.unwind c.column
  match c.head? with
  | none => s.finish
  | some p => s.token p

/-- The tokens that are certain: those before every place where a key may begin. -/
def certain (s : Lexer) : List Token :=
  let limit := s.candidates.foldl (fun n k => min n k.number) s.count
  s.tokens.reverse.take limit

def breakOff (s : Lexer) (fault : Fault) : Except Fault (List Token) := do
  let s ← s.dropStale
  return s.certain ++ [.broken fault]

/-- Reads all tokens of a text of a length; with a fault behind the text, up to the first token for
which all of it is needed. -/
def run (length : Nat) (stop : Option Fault) : Nat → Lexer → Except Fault (List Token)
  | 0, _ => .error .malformed
  | fuel + 1, s =>
    match s.step, stop with
    | .ok next, none => if next.isDone then .ok next.tokens.reverse else run length stop fuel next
    | .ok next, some fault =>
      if length ≤ next.cursor.index then s.breakOff fault else run length stop fuel next
    | .error .unclosed, some fault => s.breakOff fault
    | .error fault, _ => if fault.isOfForm then .error .malformed else s.breakOff fault

end Lexer

def Source.tokens (source : Source) : Except Fault (List Token) :=
  Lexer.run source.text.length source.stop (source.text.length + 2)
    { cursor := { rest := source.text } }

end Outline.Program.Yaml
