import Outline.Text.Unicode

/-!
Integer numerals in base ten, sixteen, eight or two.

Reading allows blanks around the numeral, a sign, digits of any script and, for bases other than
ten, the mark of the base in front of the digits. Base ten is limited both ways: a numeral of more
than `digitLimit` digits is not read, and a number that would need as many is not written.
-/

set_option autoImplicit false

namespace Outline.Integer

def digitLimit : Nat := 4300

def digitValue? (base : Nat) (c : CodePoint) : Option Nat :=
  c.alphanumericValue?.filter (· < base)

def isDigit (base : Nat) (c : CodePoint) : Bool := (digitValue? base c).isSome

def ofDigits (base : Nat) (digits : List Nat) : Nat :=
  digits.foldl (fun n d => n * base + d) 0

def valueOf (base : Nat) (digits : Text) : Nat :=
  ofDigits base (digits.filterMap (digitValue? base))

/-- Why a text is no integer that can be read or written. -/
inductive Flaw
  | malformed (base : Nat) (text : Text)
  | longNumeral (digits : Nat)
  | longNumber
  deriving DecidableEq, Repr

def Flaw.message : Flaw → Text
  | .malformed base text =>
    Text.join ["invalid literal for int() with base ", Text.ofNat base, ": ",
      (Text.Quoted.quote text).take 200]
  | .longNumeral digits =>
    Text.join ["Exceeds the limit (4300 digits) for integer string conversion: value has ",
      Text.ofNat digits, " digits; use sys.set_int_max_str_digits() to increase the limit"]
  | .longNumber =>
    Text.join ["Exceeds the limit (4300 digits) for integer string conversion; ",
      "use sys.set_int_max_str_digits() to increase the limit"]

def sign : Text → Bool × Text
  | [] => (false, [])
  | c :: t => if c = 45 then (true, t) else if c = 43 then (false, t) else (false, c :: t)

/-- The mark that may precede the digits of a base: `x` for sixteen, `o` for eight, `b` for two. -/
def baseMark? (base : Nat) : Option CodePoint :=
  if base = 16 then some 120
  else if base = 8 then some 111
  else if base = 2 then some 98
  else none

def dropMark (mark : CodePoint) : Text → Text
  | a :: b :: t => if a = 48 ∧ b.lower = mark then t else a :: b :: t
  | t => t

/-- A numeral with the digits of every script in ASCII and no blanks around it. -/
def plain (t : Text) : Text := Text.trim CodePoint.isNumeralBlank (t.map CodePoint.toAsciiDigit)

def read (base : Nat) (text : Text) : Except Flaw Int :=
  let (negative, unsigned) := sign (plain text)
  let body := match baseMark? base with
    | some mark => dropMark mark unsigned
    | none => unsigned
  let digits := body.takeWhile (isDigit base)
  let n := valueOf base digits
  if base = 10 ∧ digits.length > digitLimit then .error (.longNumeral digits.length)
  else if digits.isEmpty || digits.length != body.length then .error (.malformed base text)
  else .ok (if negative then -(n : Int) else n)

def write (n : Int) : Except Flaw Text :=
  if n.natAbs < Nat.pow 10 digitLimit then .ok (Text.ofInt n) else .error .longNumber

end Outline.Integer

/-! ### Fractions and exponents

Numerals with a fraction and an exponent: sign, digits, point, digits, `e`, signed exponent.
-/

namespace Outline

/-- A numeral read digit by digit: `± digits · 10 ^ (exponent - places)`. -/
structure Scientific where
  negative : Bool
  digits : List Nat
  places : Nat
  exponent : Int
  deriving DecidableEq, Repr

namespace Scientific

def coefficient (s : Scientific) : Nat := Integer.ofDigits 10 s.digits

def scale (s : Scientific) : Int := s.exponent - s.places

def digitRun (t : Text) : List Nat × Text :=
  ((t.takeWhile (Integer.isDigit 10)).filterMap (Integer.digitValue? 10),
    t.dropWhile (Integer.isDigit 10))

/-- Reads an exponent mark with its exponent; nothing at all is exponent zero. -/
def exponentOf : Text → Option Int
  | [] => some 0
  | c :: t =>
    if c.lower = 101 then
      let (negative, unsigned) := Integer.sign t
      let (digits, rest) := digitRun unsigned
      if digits.isEmpty || !rest.isEmpty then none
      else
        let n := Integer.ofDigits 10 digits
        some (if negative then -(n : Int) else n)
    else none

def fractionRun : Text → List Nat × Text
  | [] => ([], [])
  | c :: t => if c = 46 then digitRun t else ([], c :: t)

/-- Reads an unsigned numeral of ASCII digits; a digit is needed on one side of the point. -/
def readUnsigned (negative : Bool) (t : Text) : Option Scientific :=
  let (whole, afterWhole) := digitRun t
  let (fraction, rest) := fractionRun afterWhole
  if whole.isEmpty && fraction.isEmpty then none
  else (exponentOf rest).map fun e => ⟨negative, whole ++ fraction, fraction.length, e⟩

end Scientific

/-! ### Decimals

Exact decimal numbers. A decimal keeps its scale, so `1.50` and `1.5` are different decimals of one
value; reading never rounds, and refuses a number whose exponent is out of range.
-/

/-- A decimal number; a finite one is `± coefficient · 10 ^ exponent`. -/
inductive Decimal
  | finite (negative : Bool) (coefficient : Nat) (exponent : Int)
  | infinite (negative : Bool)
  | nan (negative signaling : Bool) (payload : Nat)
  deriving DecidableEq, Repr

namespace Decimal

inductive Flaw
  | malformed | outOfRange
  deriving DecidableEq, Repr

def digits (coefficient : Nat) : Text := Text.ofNat coefficient

def adjusted (coefficient : Nat) (exponent : Int) : Int :=
  exponent + (digits coefficient).length - 1

def greatestAdjusted : Int := 999999999999999999

def leastExponent : Int := -1999999999999999997

def ofScientific (s : Scientific) : Except Flaw Decimal :=
  if adjusted s.coefficient s.scale > greatestAdjusted ∨ s.scale < leastExponent then
    .error .outOfRange
  else .ok (.finite s.negative s.coefficient s.scale)

def payload? (t : Text) : Option Nat :=
  let (values, rest) := Scientific.digitRun t
  if rest.isEmpty then some (Integer.ofDigits 10 values) else none

def special? (negative : Bool) (t : Text) : Option Decimal :=
  let word := Text.lower t
  if word = Text.ofString "inf" ∨ word = Text.ofString "infinity" then some (.infinite negative)
  else if Text.startsWith "nan" word then (payload? (word.drop 3)).map (.nan negative false)
  else if Text.startsWith "snan" word then (payload? (word.drop 4)).map (.nan negative true)
  else none

/-- Reads a decimal, blanks around it and digits of any script allowed. -/
def read (text : Text) : Except Flaw Decimal :=
  let (negative, unsigned) := Integer.sign (Text.strip (text.map CodePoint.toAsciiDigit))
  match special? negative unsigned with
  | some special => .ok special
  | none =>
    match Scientific.readUnsigned negative unsigned with
    | some s => ofScientific s
    | none => .error .malformed

/-- Plain notation: as many digits behind the point as the scale says. -/
def plainText (coefficient : Nat) (places : Nat) : Text :=
  let ds := digits coefficient
  if places = 0 then ds
  else if places < ds.length then
    Text.join [ds.take (ds.length - places), ".", ds.drop (ds.length - places)]
  else Text.join ["0.", Text.zeros (places - ds.length), ds]

def scientificText (coefficient : Nat) (exponent : Int) : Text :=
  let ds := digits coefficient
  let e := adjusted coefficient exponent
  let fraction := if ds.length ≤ 1 then [] else Text.join [".", ds.drop 1]
  Text.join [ds.take 1, fraction, "E", if e < 0 then "-" else "+", Text.ofNat e.natAbs]

/-- The text of a decimal: plain where the exponent is at most zero and the leading digit stands at
the sixth place behind the point or before. -/
def text : Decimal → Text
  | .finite negative coefficient exponent =>
    let magnitude :=
      if exponent ≤ 0 ∧ -6 ≤ adjusted coefficient exponent then
        plainText coefficient exponent.natAbs
      else scientificText coefficient exponent
    if negative then (45 : CodePoint) :: magnitude else magnitude
  | .infinite negative => if negative then "-Infinity" else "Infinity"
  | .nan negative signaling payload =>
    Text.join [if negative then "-" else "", if signaling then "sNaN" else "NaN",
      if payload = 0 then [] else Text.ofNat payload]

end Decimal

/-! ### Floating-point numbers

Binary floating-point numbers with a 53-bit significand, as exact values.

A finite number is `± mantissa · 2 ^ exponent`. Reading a decimal rounds its exact value to the
nearest such number, a half to the even mantissa. Writing takes the fewest decimal digits that read
back as the same number and, of those, the nearest to it.
-/

/-- A floating-point number; a finite one has a mantissa below `2 ^ 53` and an exponent from
`-1074` on, and its mantissa is at least `2 ^ 52` unless the exponent is `-1074`. -/
inductive Double
  | finite (negative : Bool) (mantissa : Nat) (exponent : Int)
  | infinite (negative : Bool)
  | nan
  deriving DecidableEq, Repr

namespace Double

/-- The quotient rounded to the nearest integer, a half to the even one. -/
def divideRounded (numerator denominator : Nat) : Nat :=
  let quotient := numerator / denominator
  let twice := 2 * (numerator % denominator)
  if twice < denominator then quotient
  else if twice > denominator then quotient + 1
  else if quotient % 2 = 0 then quotient else quotient + 1

/-- A number and an integer power of a base, as numerator and denominator. -/
def scaled (n base : Nat) (e : Int) : Nat × Nat :=
  match e with
  | .ofNat k => (n * Nat.pow base k, 1)
  | .negSucc k => (n, Nat.pow base (k + 1))

def leastExponent : Int := -1074

def greatestExponent : Int := 971

/-- The exponent at which a positive ratio has a mantissa of 53 bits, or the least one. -/
def exponentOf (numerator denominator : Nat) : Int :=
  let estimate : Int := (numerator.log2 : Int) - (denominator.log2 : Int) - 53
  let low := max estimate leastExponent
  let (n, d) := scaled numerator 2 (-low)
  if n / (d * denominator) < Nat.pow 2 53 then low else low + 1

def ofRatio (negative : Bool) (numerator denominator : Nat) : Double :=
  if numerator = 0 then .finite negative 0 leastExponent
  else
    let e := exponentOf numerator denominator
    let (n, d) := scaled numerator 2 (-e)
    let mantissa := divideRounded n (d * denominator)
    let (mantissa, e) := if mantissa = Nat.pow 2 53 then (Nat.pow 2 52, e + 1) else (mantissa, e)
    if e > greatestExponent then .infinite negative else .finite negative mantissa e

/-- The number nearest to `± coefficient · 10 ^ scale`. Past the ends of the range the power itself
is not formed: below `10 ^ -330` lies nothing but zero, above `10 ^ 310` nothing finite. -/
def ofDecimal (negative : Bool) (coefficient : Nat) (scale : Int) : Double :=
  let magnitude : Int := (Text.ofNat coefficient).length + scale
  if coefficient = 0 ∨ magnitude < -330 then .finite negative 0 leastExponent
  else if magnitude > 310 then .infinite negative
  else
    let (n, d) := scaled coefficient 10 scale
    ofRatio negative n d

def ofScientific (s : Scientific) : Double := ofDecimal s.negative s.coefficient s.scale

/-- Reads a number: a numeral, an infinity or a nan, in either case, blanks around it. -/
def read? (text : Text) : Option Double :=
  let (negative, unsigned) := Integer.sign (Integer.plain text)
  let word := Text.lower unsigned
  if word = Text.ofString "inf" ∨ word = Text.ofString "infinity" then some (.infinite negative)
  else if word = Text.ofString "nan" then some .nan
  else (Scientific.readUnsigned negative unsigned).map ofScientific

def ratio (mantissa : Nat) (exponent : Int) : Nat × Nat := scaled mantissa 2 exponent

def integer? : Double → Option Int
  | .finite negative mantissa exponent =>
    let (n, d) := ratio mantissa exponent
    if n % d = 0 then some (if negative then -((n / d : Nat) : Int) else (n / d : Nat)) else none
  | _ => none

def ofDyadic (negative : Bool) (mantissa : Nat) (exponent : Int) : Double :=
  let (n, d) := ratio mantissa exponent
  ofRatio negative n d

def negate : Double → Double
  | .finite negative mantissa exponent => .finite (!negative) mantissa exponent
  | .infinite negative => .infinite (!negative)
  | .nan => .nan

def multiply : Double → Double → Double
  | .nan, _ | _, .nan => .nan
  | .finite a m e, .finite b n f => ofDyadic (a != b) (m * n) (e + f)
  | .finite a m _, .infinite b | .infinite b, .finite a m _ =>
    if m = 0 then .nan else .infinite (a != b)
  | .infinite a, .infinite b => .infinite (a != b)

/-- A finite number in units of `2 ^ exponent`, where its own exponent is no less. -/
def inUnits (negative : Bool) (mantissa : Nat) (own exponent : Int) : Int :=
  let magnitude : Int := mantissa * Nat.pow 2 (own - exponent).toNat
  if negative then -magnitude else magnitude

def add : Double → Double → Double
  | .nan, _ | _, .nan => .nan
  | .finite a m e, .finite b n f =>
    let unit := min e f
    let sum := inUnits a m e unit + inUnits b n f unit
    if sum = 0 then .finite (a && b) 0 leastExponent
    else ofDyadic (decide (sum < 0)) sum.natAbs unit
  | .infinite a, .infinite b => if a = b then .infinite a else .nan
  | .infinite a, .finite .. | .finite .., .infinite a => .infinite a

/-- The decimal grid of `count` digits for a ratio: the exponent of its unit, where `10 ^ order` is
the least power of ten above the ratio. -/
def unitOf (order : Int) (count : Nat) : Int := order - count

def orderOf (numerator denominator : Nat) : Int :=
  let estimate : Int :=
    ((Text.ofNat numerator).length : Int) - ((Text.ofNat denominator).length : Int)
  let (n, d) := scaled denominator 10 estimate
  if numerator * d < n then estimate else estimate + 1

/-- The decimals that read back as a given positive number: in quarters of a unit of its last
mantissa bit, the least and the greatest of them, and whether the ends count. -/
def interval (mantissa : Nat) (exponent : Int) : Nat × Nat × Bool :=
  let low :=
    if mantissa = Nat.pow 2 52 ∧ exponent > leastExponent then 4 * mantissa - 1
    else 4 * mantissa - 2
  (low, 4 * mantissa + 2, mantissa % 2 = 0)

/-- Whether `c · 10 ^ unit` reads back as `mantissa · 2 ^ exponent`. -/
def readsBack (mantissa : Nat) (exponent : Int) (c : Nat) (unit : Int) : Bool :=
  let (low, high, closed) := interval mantissa exponent
  let (a, b) := scaled c 10 unit
  let (q, r) := scaled 1 2 (exponent - 2)
  let left := a * r
  let lowEnd := low * q * b
  let highEnd := high * q * b
  if closed then decide (lowEnd ≤ left) && decide (left ≤ highEnd)
  else decide (lowEnd < left) && decide (left < highEnd)

/-- The grid point of `count` digits that reads back, the nearer of the two neighbours. -/
def candidate? (mantissa : Nat) (exponent order : Int) (count : Nat) : Option (Nat × Int) :=
  let unit := unitOf order count
  let (n, d) := ratio mantissa exponent
  let (p, q) := scaled 1 10 unit
  let floor := n * q / (d * p)
  let nearest := divideRounded (n * q) (d * p)
  let other := if nearest = floor then floor + 1 else floor
  if readsBack mantissa exponent nearest unit then some (nearest, unit)
  else if readsBack mantissa exponent other unit then some (other, unit)
  else none

def search (mantissa : Nat) (exponent order : Int) : Nat → Nat → Nat × Int
  | 0, count => (candidate? mantissa exponent order count).getD (mantissa, exponent)
  | fuel + 1, count =>
    match candidate? mantissa exponent order count with
    | some found => found
    | none => search mantissa exponent order fuel (count + 1)

/-- The shortest decimal that reads back as a positive number: coefficient and power of ten. -/
def shortest (mantissa : Nat) (exponent : Int) : Nat × Int :=
  let (n, d) := ratio mantissa exponent
  search mantissa exponent (orderOf n d) 16 1

def dropTrailingZeros (digits : Text) : Text × Nat :=
  let kept := (digits.reverse.dropWhile (· = 48)).reverse
  (kept, digits.length - kept.length)

/-- Positional below `10 ^ 16` and from `10 ^ -4` on, with at least one digit behind the point;
otherwise one digit before the point and a signed exponent of two digits or more. -/
def layout (digits : Text) (point : Int) : Text :=
  let count : Int := digits.length
  if -4 < point ∧ point ≤ 16 then
    if point ≤ 0 then Text.join ["0.", Text.zeros point.natAbs, digits]
    else if count ≤ point then Text.join [digits, Text.zeros (point - count).toNat, ".0"]
    else Text.join [digits.take point.toNat, ".", digits.drop point.toNat]
  else
    let e := point - 1
    let exponent := Text.ofNat e.natAbs
    let fraction := if digits.length ≤ 1 then [] else Text.join [".", digits.drop 1]
    Text.join [digits.take 1, fraction, "e", if e < 0 then "-" else "+",
      Text.zeros (2 - exponent.length), exponent]

def text : Double → Text
  | .nan => "nan"
  | .infinite negative => if negative then "-inf" else "inf"
  | .finite negative mantissa exponent =>
    let magnitude : Text :=
      if mantissa = 0 then "0.0"
      else
        let (coefficient, unit) := shortest mantissa exponent
        let (digits, dropped) := dropTrailingZeros (Text.ofNat coefficient)
        layout digits (digits.length + dropped + unit)
    if negative then (45 : CodePoint) :: magnitude else magnitude

/-- A number rounded to a count of decimal places, a half to the even neighbour. -/
def round (places : Nat) : Double → Double
  | .finite negative mantissa exponent =>
    let (n, d) := ratio mantissa exponent
    ofDecimal negative (divideRounded (n * Nat.pow 10 places) d) (-places)
  | other => other

end Double

end Outline
