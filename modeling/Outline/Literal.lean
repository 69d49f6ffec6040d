import Outline.Number
import Outline.Text.Basic
import Outline.Text.Unicode

/-!
Escapes in character and string literals.

A backslash starts an escape: `u` with four hexadecimal digits, `U` with eight, `x` with one to
four, as many as there are, or one code point with a meaning of its own. Anything else after a
backslash is kept as written, the backslash included. A numbered escape above the last code point
cannot be read; one of `2 ^ 31` or more does not even fit the range of numbers that an escape can
name, and that failure is not forgiven.
-/

set_option autoImplicit false

namespace Outline.Literal.Escape

inductive Flaw
  | beyondUnicode | overflow
  deriving DecidableEq, Repr

def Flaw.message : Flaw → Text
  | .beyondUnicode => "chr() arg not in range(0x110000)"
  | .overflow => "Python int too large to convert to C int"

def simple? (c : CodePoint) : Option CodePoint :=
  if c = 39 ∨ c = 34 ∨ c = 92 then some c
  else if c = 48 then some 0
  else if c = 97 then some 7
  else if c = 98 then some 8
  else if c = 102 then some 12
  else if c = 110 then some 10
  else if c = 114 then some 13
  else if c = 116 then some 9
  else if c = 118 then some 11
  else none

def hexNumber (digits : List Nat) : Nat := digits.foldl (fun n d => n * 16 + d) 0

/-- The values of the leading hexadecimal digits, at most `limit` of them. -/
def hexRun : Nat → Text → List Nat
  | 0, _ => []
  | _ + 1, [] => []
  | limit + 1, c :: t =>
    match c.hexValue? with
    | some value => value :: hexRun limit t
    | none => []

/-- The digits of a numbered escape whose letter is given, from the text after the letter. -/
def numbered? (letter : CodePoint) (t : Text) : Option (List Nat) :=
  if letter = 117 then (some (hexRun 4 t)).filter (·.length = 4)
  else if letter = 85 then (some (hexRun 8 t)).filter (·.length = 8)
  else if letter = 120 then (some (hexRun 4 t)).filter (0 < ·.length)
  else none

def codePoint (n : Nat) : Except Flaw CodePoint :=
  if h : n < 0x110000 then .ok ⟨n, h⟩
  else if n < 0x80000000 then .error .beyondUnicode
  else .error .overflow

/-- Replaces the escapes of a text from left to right; the first that names no code point
decides. -/
def decode : Text → Except Flaw Text
  | [] => .ok []
  | [c] => .ok [c]
  | c :: letter :: t =>
    if c = 92 then
      match numbered? letter t with
      | some digits => do
        let point ← codePoint (hexNumber digits)
        let rest ← decode (t.drop digits.length)
        return point :: rest
      | none => do
        let rest ← decode t
        match simple? letter with
        | some point => return point :: rest
        | none => return c :: letter :: rest
    else do
      let rest ← decode (letter :: t)
      return c :: rest
termination_by t => t.length
decreasing_by all_goals simp <;> omega

end Outline.Literal.Escape

/-! ### Values

The values of literals.

A literal denotes a value rather than its spelling: `0x10` denotes `16`, `10L` denotes `10`, `'c'`
denotes `c`. A literal that cannot be read is kept as written. Only one fault has no value at all:
an escape that names a number too large for an escape.
-/

namespace Outline.Literal

/-- The kinds of literals whose value differs from their spelling. -/
inductive Kind
  | integer | real | character | string | verbatim | raw
  deriving DecidableEq, Repr

def Kind.ofType? (type : Text) : Option Kind :=
  if type = Text.ofString "integer_literal" then some .integer
  else if type = Text.ofString "real_literal" then some .real
  else if type = Text.ofString "character_literal" then some .character
  else if type = Text.ofString "string_literal" then some .string
  else if type = Text.ofString "verbatim_string_literal" then some .verbatim
  else if type = Text.ofString "raw_string_literal" then some .raw
  else none

/-- Whether a grammar node type is a literal; true, false and null stand for themselves. -/
def isLiteralType (type : Text) : Bool :=
  (Kind.ofType? type).isSome || decide (type = Text.ofString "boolean_literal")
    || decide (type = Text.ofString "null_literal")

inductive Flaw
  | integer (flaw : Integer.Flaw)
  | real (text : Text)
  | decimal (flaw : Decimal.Flaw)
  | escape (flaw : Escape.Flaw)
  deriving DecidableEq, Repr

def Flaw.message : Flaw → Text
  | .integer flaw => flaw.message
  | .real text => Text.join ["could not convert string to float: ", Text.Quoted.quote text]
  | .decimal .malformed => "[<class 'decimal.ConversionSyntax'>]"
  | .decimal .outOfRange => "[<class 'decimal.InvalidOperation'>]"
  | .escape flaw => flaw.message

def splitLineEnd (t : Text) : Text × Text :=
  match t.reverse with
  | [] => ([], [])
  | c :: r => if c = 10 then (r.reverse, [c]) else (t, [])

def isLetterOf (letters : String) (c : CodePoint) : Bool := (Text.ofString letters).contains c

/-- A text without the letters that end it, or that stand before one final line break. -/
def dropIntegerSuffix (t : Text) : Text :=
  let kept := (t.reverse.dropWhile (isLetterOf "uUlL")).reverse
  if kept.length < t.length then kept
  else
    let (line, ending) := splitLineEnd t
    (line.reverse.dropWhile (isLetterOf "uUlL")).reverse ++ ending

def dropSeparators (t : Text) : Text := t.filter (· ≠ 95)

def decodeInteger (text : Text) : Except Flaw Text :=
  let digits := dropSeparators (dropIntegerSuffix text)
  let read := match digits with
    | a :: b :: t =>
      if a = 48 ∧ b.lower = 120 then Integer.read 16 t
      else if a = 48 ∧ b.lower = 98 then Integer.read 2 t
      else Integer.read 10 digits
    | _ => Integer.read 10 digits
  (read >>= Integer.write).mapError .integer

/-- Splits the suffix letter off a real literal: the text without it, and whether the literal ends
in the suffix of a decimal. Before a final line break a suffix is dropped, but marks no decimal. -/
def splitRealSuffix (t : Text) : Text × Bool :=
  match t.reverse with
  | [] => ([], false)
  | c :: r =>
    if isLetterOf "fFdDmM" c then (r.reverse, c.lower = 109)
    else if c = 10 then
      match r with
      | [] => (t, false)
      | d :: s => if isLetterOf "fFdDmM" d then (s.reverse ++ [c], false) else (t, false)
    else (t, false)

/-- Integral numbers of a magnitude below this are written without point and exponent. -/
def plainIntegerLimit : Nat := 1_000_000_000_000_000

/-- The text of a binary real: an integer where it is a small one, else the shortest decimal with a
capital exponent mark. -/
def realText (value : Double) : Text :=
  let other := value.text.map fun c => if c = 101 then 69 else c
  match value.integer? with
  | some n => if n.natAbs < plainIntegerLimit then Text.ofInt n else other
  | none => other

def decodeReal (text : Text) : Except Flaw Text :=
  let (body, isDecimal) := splitRealSuffix text
  let digits := dropSeparators body
  if isDecimal then (Decimal.read digits).map Decimal.text |>.mapError .decimal
  else
    match Double.read? digits with
    | some value => .ok (realText value)
    | none => .error (.real digits)

def inner (t : Text) : Text := (t.drop 1).dropLast

/-- The value of a character or string literal: what stands between its quotes, unescaped. -/
def decodeQuoted (text : Text) : Except Flaw Text :=
  (Escape.decode (inner text)).mapError .escape

def halveQuotes : Text → Text
  | a :: b :: t =>
    if a = 34 ∧ b = 34 then a :: halveQuotes t else a :: halveQuotes (b :: t)
  | t => t

def decodeVerbatim (text : Text) : Text := halveQuotes ((text.drop 2).dropLast)

/-- The value of a raw string literal: the text without the quotes around it. -/
def decodeRaw (text : Text) : Text := text.trim (· = 34)

def decode : Kind → Text → Except Flaw Text
  | .integer, text => decodeInteger text
  | .real, text => decodeReal text
  | .character, text => decodeQuoted text
  | .string, text => decodeQuoted text
  | .verbatim, text => .ok (decodeVerbatim text)
  | .raw, text => .ok (decodeRaw text)

/-- What a token denotes: its value, or the token as written where it cannot be read or is no
literal with a value of its own. There is no answer only for an escape that overflows. -/
def value? (type text : Text) : Option Text :=
  match Kind.ofType? type with
  | none => some text
  | some kind =>
    match decode kind text with
    | .ok value => some value
    | .error (.escape .overflow) => none
    | .error _ => some text

def remark? (type text : Text) : Option Text :=
  match Kind.ofType? type with
  | none => none
  | some kind =>
    match decode kind text with
    | .ok _ => none
    | .error (.escape .overflow) => none
    | .error flaw =>
      some (Text.join
        ["Keeping ", type, " ", Text.Quoted.quote text, " as written: ", flaw.message])

end Outline.Literal
