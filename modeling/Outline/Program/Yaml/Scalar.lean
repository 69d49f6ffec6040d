import Outline.Config.Datum
import Outline.Number
import Outline.Program.Yaml.Style
import Outline.Text.Unicode

/-!
Kinds of nodes, and the values of scalars.

The kind of a plain scalar follows from its spelling: it is a truth value, a number, a date or a
time, nothing at all, or one of the two marks `<<` and `=`, if it is spelled like one, and any other
is a text. The kind of any other scalar is that of its tag, or a text. Separators between digits are
dropped, and numbers may be written in parts of sixty. A time follows its date after a `T` or
blanks, with a fraction of a second and an offset, each of which may be missing.
-/

set_option autoImplicit false

namespace Outline.Program.Yaml.MomentReader

open Config

def number? (least most : Nat) (t : Text) : Option (Nat × Text) :=
  let digits := (t.take most).takeWhile (Integer.isDigit 10)
  if digits.length < least then none
  else some (Integer.valueOf 10 digits, t.drop digits.length)

def drop? (c : CodePoint) : Text → Option Text
  | [] => none
  | d :: t => if d = c then some t else none

def microseconds (digits : Text) : Nat :=
  let kept := digits.take 6
  Integer.valueOf 10 kept * Nat.pow 10 (6 - kept.length)

def fraction (t : Text) : Nat × Text :=
  match drop? 46 t with
  | some u => (microseconds (u.takeWhile (Integer.isDigit 10)), u.dropWhile (Integer.isDigit 10))
  | none => (0, t)

def offset? (t : Text) : Option (Option Int) :=
  if t.isEmpty then some none
  else
    match t.dropWhile isBlankOrTab with
    | [] => none
    | c :: u =>
      if c = 90 then if u.isEmpty then some (some 0) else none
      else if c = 43 ∨ c = 45 then do
        let (hours, rest) ← number? 1 2 u
        let (minutes, rest) ← match drop? 58 rest with
          | some rest => number? 2 2 rest
          | none => some (0, rest)
        let total : Int := hours * 60 + minutes
        if rest.isEmpty then return some (if c = 45 then -total else total) else none
      else none

def time? (t : Text) : Option Moment.Time := do
  let (hour, t) ← number? 1 2 t
  let (minute, t) ← drop? 58 t >>= number? 2 2
  let (second, t) ← drop? 58 t >>= number? 2 2
  let (microsecond, t) := fraction t
  let offset ← offset? t
  return ⟨hour, minute, second, microsecond, offset⟩

def read? (t : Text) : Option Moment := do
  let (year, t) ← number? 4 4 t
  let (month, t) ← drop? 45 t >>= number? 1 2
  let (day, t) ← drop? 45 t >>= number? 1 2
  match t with
  | [] => return ⟨year, month, day, none⟩
  | c :: u =>
    if c = 84 ∨ c = 116 then return ⟨year, month, day, some (← time? u)⟩
    else if isBlankOrTab c then return ⟨year, month, day, some (← time? (u.dropWhile isBlankOrTab))⟩
    else none

/-- Whether a plain scalar is a date or a time; a date alone has two digits for month and day. -/
def isSpelled (t : Text) : Bool :=
  match read? t with
  | some m => m.time.isSome || t.length == 10
  | none => false

def ofText? (t : Text) : Option Moment :=
  (read? t).orElse fun _ => if t.getLast? = some 10 then read? t.dropLast else none

end Outline.Program.Yaml.MomentReader

/-! ### Kinds -/

namespace Outline.Program.Yaml

open Config

inductive Tag
  | null | bool | int | float | text | binary | timestamp
  | list | mapping | set | pairs
  /-- The mark of a key whose value is merged into the mapping. -/
  | merge
  | value
  | unknown
  deriving DecidableEq, Repr

namespace Tag

def lead : Text := "tag:yaml.org,2002:"

def names : List (Text × Tag) :=
  [("null", .null), ("bool", .bool), ("int", .int), ("float", .float), ("str", .text),
    ("binary", .binary), ("timestamp", .timestamp), ("seq", .list), ("map", .mapping),
    ("set", .set), ("omap", .pairs), ("pairs", .pairs), ("merge", .merge), ("value", .value)]

def ofName (name : Text) : Tag :=
  ((names.find? fun pair => decide (lead ++ pair.1 = name)).map (·.2)).getD .unknown

def isWord (words : List String) (t : Text) : Bool := (words.map Text.ofString).contains t

def isTruth : Text → Bool :=
  isWord ["yes", "Yes", "YES", "no", "No", "NO", "true", "True", "TRUE", "false", "False", "FALSE",
    "on", "On", "ON", "off", "Off", "OFF"]

def isNull : Text → Bool := isWord ["~", "null", "Null", "NULL"]

/-- Whether a text is digits of a base with separators among them, at least one of either. -/
def isDigits (base : Nat) (t : Text) : Bool :=
  !t.isEmpty && t.all fun c => Integer.isDigit base c || c = 95

/-- Whether a text is digits of a base with separators among them, a digit first. -/
def startsDigits (base : Nat) (t : Text) : Bool :=
  (t.head?.map (Integer.isDigit base)).getD false && isDigits base t

/-- Whether a text is a part of sixty: one digit, or two of which the first is below six. -/
def isSixtieth : Text → Bool
  | [c] => Integer.isDigit 10 c
  | [c, d] => Integer.isDigit 6 c && Integer.isDigit 10 d
  | _ => false

/-- Whether a text is an integer without a sign: decimal, octal behind a zero, binary or hexadecimal
behind a mark, or in parts of sixty. -/
def isUnsigned (t : Text) : Bool :=
  match t with
  | [] => false
  | 48 :: u =>
    match u with
    | [] => true
    | c :: digits =>
      if c = 98 then isDigits 2 digits
      else if c = 120 then isDigits 16 digits
      else isDigits 8 u
  | _ =>
    match Text.splitAt 58 t with
    | [] => false
    | first :: parts => startsDigits 10 first && parts.all isSixtieth

def isInteger (t : Text) : Bool := isUnsigned (Integer.sign t).2

/-- Whether a text is nothing or an exponent, which always has a sign. -/
def isExponent : Text → Bool
  | [] => true
  | c :: t =>
    match t with
    | [] => false
    | s :: digits =>
      (c = 101 || c = 69) && (s = 43 || s = 45) && !digits.isEmpty
        && digits.all (Integer.isDigit 10)

def isDigitPart (c : CodePoint) : Bool := Integer.isDigit 10 c || c = 95

/-- Whether a text is a point with digits and an exponent behind it, each of which may be
missing. -/
def isFraction : Text → Bool
  | [] => false
  | c :: t => c = 46 && isExponent (t.dropWhile isDigitPart)

/-- Whether a text is a number with a point: digits before it, or digits behind it and no sign; in
parts of sixty there is no exponent. -/
def isFloat (t : Text) : Bool :=
  let body := (Integer.sign t).2
  let whole := body.takeWhile (· ≠ 46)
  let fraction := body.dropWhile (· ≠ 46)
  isWord [".inf", ".Inf", ".INF"] body || isWord [".nan", ".NaN", ".NAN"] t
    || (startsDigits 10 whole && isFraction fraction)
    || (whole.isEmpty && body.length == t.length && isFraction fraction
      && ((fraction.drop 1).head?.map (Integer.isDigit 10)).getD false)
    || match Text.splitAt 58 whole with
      | first :: part :: parts =>
        startsDigits 10 first && (part :: parts).all isSixtieth && !fraction.isEmpty
          && (fraction.drop 1).all isDigitPart
      | _ => false

/-- Whether a text, or all of it but a last line break, is of a form. -/
def holds (isForm : Text → Bool) (t : Text) : Bool :=
  isForm t || (t.getLast? = some 10 && isForm t.dropLast)

end Tag

/-! ### Values -/

def Tag.ofSpelling (t : Text) : Tag :=
  if t.isEmpty || holds isNull t then .null
  else if holds isTruth t then .bool
  else if holds isFloat t then .float
  else if holds isInteger t then .int
  else if holds (isWord ["<<"]) t then .merge
  else if holds MomentReader.isSpelled t then .timestamp
  else if holds (isWord ["="]) t then .value
  else .text

def truthOf (t : Text) : Except Fault Bool :=
  let word := Text.lowercase t
  if Tag.isWord ["yes", "true", "on"] word then .ok true
  else if Tag.isWord ["no", "false", "off"] word then .ok false
  else .error (.truth word)

def sixtiethsOf : List Int → Int
  | [] => 0
  | part :: parts => part + 60 * sixtiethsOf parts

def unsignedOf (t : Text) : Except Fault Int :=
  match t with
  | [] => .error .emptyNumber
  | c :: u =>
    if t = [48] then .ok 0
    else if c = 48 && u.head? = some 98 then (Integer.read 2 (u.drop 1)).mapError .integer
    else if c = 48 && u.head? = some 120 then (Integer.read 16 (u.drop 1)).mapError .integer
    else if c = 48 then (Integer.read 8 t).mapError .integer
    else if t.contains 58 then do
      let parts ← ((Text.splitAt 58 t).mapM (Integer.read 10)).mapError .integer
      return sixtiethsOf parts.reverse
    else (Integer.read 10 t).mapError .integer

def integerOf (t : Text) : Except Fault Int :=
  let digits := t.filter (· ≠ 95)
  if digits.isEmpty then .error .emptyNumber
  else
    let (negative, body) := Integer.sign digits
    (unsignedOf body).map fun n => if negative then -n else n

def decimalOf (t : Text) : Except Fault Double :=
  match Double.read? t with
  | some x => .ok x
  | none => .error (.float t)

/-- The sum of parts of sixty, the last first, rounded at each step; `unit` is what the last counts,
and must be no greater than a floating-point number can be. -/
def addSixtieths (unit : Nat) (sum : Double) : List Double → Except Fault Double
  | [] => .ok sum
  | part :: parts =>
    match Double.ofDecimal false unit 0 with
    | .infinite _ => .error .tooLarge
    | weight => addSixtieths (unit * 60) (sum.add (part.multiply weight)) parts

def floatOf (t : Text) : Except Fault Double :=
  let digits := Text.lowercase (t.filter (· ≠ 95))
  if digits.isEmpty then .error .emptyNumber
  else
    let (negative, body) := Integer.sign digits
    let magnitude :=
      if body = Text.ofString ".inf" then .ok (.infinite false)
      else if body = Text.ofString ".nan" then .ok .nan
      else if body.contains 58 then do
        let parts ← (Text.splitAt 58 body).mapM decimalOf
        addSixtieths 1 (Double.ofDecimal false 0 0) parts.reverse
      else decimalOf body
    magnitude.map fun x => if negative then x.negate else x

def momentOf (t : Text) : Except Fault Scalar :=
  match MomentReader.ofText? t with
  | none => .error .notMoment
  | some m =>
    match m.flaw? with
    | some flaw => .error (.moment flaw)
    | none => .ok (.moment m)

/-! ### Bytes -/

def digit64? (c : CodePoint) : Option Nat :=
  if 65 ≤ c.val ∧ c.val ≤ 90 then some (c.val - 65)
  else if 97 ≤ c.val ∧ c.val ≤ 122 then some (c.val - 71)
  else if 48 ≤ c.val ∧ c.val ≤ 57 then some (c.val + 4)
  else if c = 43 then some 62
  else if c = 47 then some 63
  else none

/-- The digits of base 64 up to the padding that completes a group of four, other code points being
passed over; whether the last group is complete. -/
def digits64 (place padding : Nat) : Text → List Nat × Bool
  | [] => ([], place == 0)
  | c :: t =>
    if c = 61 then
      if 2 ≤ place ∧ 4 ≤ place + padding + 1 then ([], true)
      else digits64 place (if 2 ≤ place then padding + 1 else padding) t
    else
      match digit64? c with
      | some digit =>
        let (digits, isComplete) := digits64 ((place + 1) % 4) 0 t
        (digit :: digits, isComplete)
      | none => digits64 place padding t

/-- The bytes of digits of base 64; bits that fill no byte are dropped. -/
def bytes64 : List Nat → Bytes
  | a :: b :: c :: d :: digits =>
    UInt8.ofNat (a * 4 + b / 16) :: UInt8.ofNat (b % 16 * 16 + c / 4)
      :: UInt8.ofNat (c % 4 * 64 + d) :: bytes64 digits
  | [a, b, c] => [UInt8.ofNat (a * 4 + b / 16), UInt8.ofNat (b % 16 * 16 + c / 4)]
  | [a, b] => [UInt8.ofNat (a * 4 + b / 16)]
  | _ => []

def binaryOf (t : Text) : Except Fault Scalar :=
  let (digits, isComplete) := digits64 0 0 t
  if isComplete && t.all (·.val < 128) then
    .ok (.bytes (bytes64 digits))
  else .error .malformed

def scalarOf (tag : Tag) (t : Text) : Except Fault Scalar :=
  match tag with
  | .null => .ok .null
  | .bool => (truthOf t).map .bool
  | .int => (integerOf t).map .int
  | .float => (floatOf t).map .float
  | .text => .ok (.text t)
  | .binary => binaryOf t
  | .timestamp => momentOf t
  | .list | .mapping | .set | .pairs | .merge | .value | .unknown => .error .malformed

end Outline.Program.Yaml
