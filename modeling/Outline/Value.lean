import Outline.Number

/-!
Plain data: what a configuration file holds and what a report is made of.

A record keeps its fields in the order in which their keys first appeared; setting a key again
replaces the value in place.
-/

set_option autoImplicit false

namespace Outline

inductive Value
  | null
  | bool (b : Bool)
  | int (n : Int)
  | float (x : Double)
  | text (t : Text)
  | list (items : List Value)
  | record (fields : List (Text × Value))
  deriving Inhabited

namespace Value

def lookup? (key : Text) : List (Text × Value) → Option Value
  | [] => none
  | (k, value) :: fields => if k = key then some value else lookup? key fields

/-- Sets a key of a field list: in place where it is there, else at the end. -/
def insert (key : Text) (value : Value) : List (Text × Value) → List (Text × Value)
  | [] => [(key, value)]
  | (k, old) :: fields =>
    if k = key then (k, value) :: fields else (k, old) :: insert key value fields

def get? (key : Text) : Value → Option Value
  | .record fields => lookup? key fields
  | _ => none

def items? : Value → Option (List Value)
  | .list items => some items
  | _ => none

def text? : Value → Option Text
  | .text t => some t
  | _ => none

def typeName : Value → Text
  | .null => "NoneType"
  | .bool _ => "bool"
  | .int _ => "int"
  | .float _ => "float"
  | .text _ => "str"
  | .list _ => "list"
  | .record _ => "dict"

end Value

end Outline

/-! ### Writing JSON

Values as JSON text.

There are two layouts. A line has a blank after each comma and colon and keeps every code point that
JSON lets stand. A page has one item to a line, two blanks of indentation for each level, its keys
in order, and ASCII only.
-/

namespace Outline.Value.Json

/-- A code point that JSON writes with a letter after the backslash. -/
def shortEscape? (c : CodePoint) : Option CodePoint :=
  if c = 34 ∨ c = 92 then some c
  else if c = 10 then some 110
  else if c = 13 then some 114
  else if c = 9 then some 116
  else if c = 12 then some 102
  else if c = 8 then some 98
  else none

def unitEscape (n : Nat) : Text := Text.ofString "\\u" ++ Text.hex 4 n

/-- A code point in a line: only quotes, backslashes and controls are escaped. -/
def escapeLine (c : CodePoint) : Text :=
  match shortEscape? c with
  | some letter => [92, letter]
  | none => if c.val < 0x20 then unitEscape c.val else [c]

/-- A code point in ASCII: beyond it by number, in two halves where one unit is not enough. -/
def escapeAscii (c : CodePoint) : Text :=
  match shortEscape? c with
  | some letter => [92, letter]
  | none =>
    if 0x20 ≤ c.val ∧ c.val ≤ 0x7E then [c]
    else if c.val < 0x10000 then unitEscape c.val
    else
      unitEscape (0xD800 + (c.val - 0x10000) / 0x400)
        ++ unitEscape (0xDC00 + (c.val - 0x10000) % 0x400)

def quoteWith (escape : CodePoint → Text) (t : Text) : Text :=
  [34] ++ t.flatMap escape ++ [34]

def number : Double → Text
  | .nan => "NaN"
  | .infinite negative => if negative then "-Infinity" else "Infinity"
  | x => x.text

mutual

def line : Value → Text
  | .null => "null"
  | .bool b => if b then "true" else "false"
  | .int n => Text.ofInt n
  | .float x => number x
  | .text t => quoteWith escapeLine t
  | .list items => [91] ++ lineItems items ++ [93]
  | .record fields => [123] ++ lineFields fields ++ [125]

def lineItems : List Value → Text
  | [] => []
  | [item] => line item
  | item :: next :: items => line item ++ [44, 32] ++ lineItems (next :: items)

def lineFields : List (Text × Value) → Text
  | [] => []
  | [(key, value)] => quoteWith escapeLine key ++ [58, 32] ++ line value
  | (key, value) :: next :: fields =>
    quoteWith escapeLine key ++ [58, 32] ++ line value ++ [44, 32] ++ lineFields (next :: fields)

end

def lineBreak (level : Nat) : Text := (10 : CodePoint) :: List.replicate (2 * level) 32

/-- Parts in brackets, each on a line of its own; no parts make an empty pair. -/
def block (opening closing : CodePoint) (level : Nat) : List Text → Text
  | [] => [opening, closing]
  | parts =>
    [opening] ++ lineBreak (level + 1)
      ++ Text.joinWith ((44 : CodePoint) :: lineBreak (level + 1)) parts
      ++ lineBreak level ++ [closing]

def inKeyOrder {α : Type} (parts : List (Text × α)) : List α :=
  (Sorting.sort (fun a b => Text.le a.1 b.1) parts).map (·.2)

mutual

def pageFrom (level : Nat) : Value → Text
  | .null => "null"
  | .bool b => if b then "true" else "false"
  | .int n => Text.ofInt n
  | .float x => number x
  | .text t => quoteWith escapeAscii t
  | .list items => block 91 93 level (pageItems (level + 1) items)
  | .record fields => block 123 125 level (inKeyOrder (pageFields (level + 1) fields))

def pageItems (level : Nat) : List Value → List Text
  | [] => []
  | item :: items => pageFrom level item :: pageItems level items

def pageFields (level : Nat) : List (Text × Value) → List (Text × Text)
  | [] => []
  | (key, value) :: fields =>
    (key, quoteWith escapeAscii key ++ [58, 32] ++ pageFrom level value)
      :: pageFields level fields

end

def page (value : Value) : Text := pageFrom 0 value

/-! ### Reading JSON

Values from JSON text.

A number with a point or an exponent is a floating-point number, any other an integer of any size.
Two escapes that form a surrogate pair are one code point; a surrogate alone is kept. Of a repeated
key the last value counts.
-/

def isSpace (c : CodePoint) : Bool := c = 32 || c = 10 || c = 13 || c = 9

def skip (t : Text) : Text := t.dropWhile isSpace

def unescape? (letter : CodePoint) : Option CodePoint :=
  if letter = 34 ∨ letter = 92 ∨ letter = 47 then some letter
  else if letter = 110 then some 10
  else if letter = 114 then some 13
  else if letter = 116 then some 9
  else if letter = 102 then some 12
  else if letter = 98 then some 8
  else none

def unit? (a b c d : CodePoint) : Option Nat := do
  let w ← a.hexValue?
  let x ← b.hexValue?
  let y ← c.hexValue?
  let z ← d.hexValue?
  return w * 4096 + x * 256 + y * 16 + z

/-- The code point of a number, the replacement character if there is none. -/
def pointOf (n : Nat) : CodePoint := if h : n < 0x110000 then ⟨n, h⟩ else 0xFFFD

/-- Whether two units are the halves of a surrogate pair, in order. -/
def isPair (high low : Nat) : Bool :=
  decide (0xD800 ≤ high ∧ high < 0xDC00 ∧ 0xDC00 ≤ low ∧ low < 0xE000)

def joined (high low : Nat) : CodePoint :=
  pointOf (0x10000 + (high - 0xD800) * 0x400 + (low - 0xDC00))

def joinPairs : List (Nat × Bool) → Text
  | (a, true) :: (b, true) :: units =>
    if isPair a b then joined a b :: joinPairs units
    else pointOf a :: joinPairs ((b, true) :: units)
  | (a, _) :: units => pointOf a :: joinPairs units
  | [] => []

/-- Reads a text up to its closing quote; a unit that was written by number is marked. -/
def readUnits : Text → Option (List (Nat × Bool) × Text)
  | [] => none
  | c :: t =>
    if c = 34 then some ([], t)
    else if c = 92 then
      match t with
      | [] => none
      | letter :: u =>
        if letter = 117 then
          match u with
          | a :: b :: d :: e :: rest => do
            let n ← unit? a b d e
            let (units, rest) ← readUnits rest
            return ((n, true) :: units, rest)
          | _ => none
        else do
          let point ← unescape? letter
          let (units, rest) ← readUnits u
          return ((point.val, false) :: units, rest)
    else if c.val < 0x20 then none
    else do
      let (units, rest) ← readUnits t
      return ((c.val, false) :: units, rest)

def readText (t : Text) : Option (Text × Text) := do
  let (units, rest) ← readUnits t
  return (joinPairs units, rest)

def isNumberPart (c : CodePoint) : Bool :=
  Integer.isDigit 10 c || c = 43 || c = 45 || c = 46 || c = 69 || c = 101

def isFloatPart (c : CodePoint) : Bool := c = 46 || c = 69 || c = 101

def numberOf? (t : Text) : Option Value :=
  let (negative, unsigned) := match t with
    | c :: u => if c = 45 then (true, u) else (false, t)
    | [] => (false, [])
  if unsigned.any isFloatPart then
    (Scientific.readUnsigned negative unsigned).map fun s => .float (Double.ofScientific s)
  else if unsigned.isEmpty || !unsigned.all (Integer.isDigit 10) then none
  else
    let n := Integer.valueOf 10 unsigned
    some (.int (if negative then -(n : Int) else n))

/-- The words of JSON, and those for the numbers that it has no numeral for. -/
def words : List (Text × Value) :=
  [("null", .null), ("true", .bool true), ("false", .bool false), ("NaN", .float .nan),
    ("Infinity", .float (.infinite false)), ("-Infinity", .float (.infinite true))]

def word? (t : Text) : Option (Value × Text) :=
  (words.find? fun word => Text.startsWith word.1 t).map fun word =>
    (word.2, t.drop word.1.length)

mutual

def readValue : Nat → Text → Option (Value × Text)
  | 0, _ => none
  | fuel + 1, t =>
    match skip t with
    | [] => none
    | c :: u =>
      if c = 34 then (readText u).map fun (s, rest) => (.text s, rest)
      else if c = 91 then
        match skip u with
        | [] => none
        | d :: rest =>
          if d = 93 then some (.list [], rest)
          else (readItems fuel (d :: rest)).map fun (items, rest) => (.list items, rest)
      else if c = 123 then
        match skip u with
        | [] => none
        | d :: rest =>
          if d = 125 then some (.record [], rest)
          else (readFields fuel [] (d :: rest)).map fun (fields, rest) => (.record fields, rest)
      else
        match word? (c :: u) with
        | some (value, rest) => some (value, rest)
        | none =>
          (numberOf? ((c :: u).takeWhile isNumberPart)).map fun value =>
            (value, (c :: u).dropWhile isNumberPart)

def readItems : Nat → Text → Option (List Value × Text)
  | 0, _ => none
  | fuel + 1, t => do
    let (item, rest) ← readValue fuel t
    match skip rest with
    | [] => none
    | c :: rest =>
      if c = 93 then return ([item], rest)
      else if c = 44 then
        let (items, rest) ← readItems fuel rest
        return (item :: items, rest)
      else none

/-- Reads the fields of a record up to the closing brace, after the fields already there. -/
def readFields : Nat → List (Text × Value) → Text → Option (List (Text × Value) × Text)
  | 0, _, _ => none
  | fuel + 1, before, t =>
    match skip t with
    | [] => none
    | c :: u =>
      if c = 34 then do
        let (key, rest) ← readText u
        match skip rest with
        | [] => none
        | d :: rest =>
          if d = 58 then
            let (value, rest) ← readValue fuel rest
            let fields := insert key value before
            match skip rest with
            | [] => none
            | e :: rest =>
              if e = 125 then return (fields, rest)
              else if e = 44 then readFields fuel fields rest
              else none
          else none
      else none

end

/-- Reads a text that is one JSON value and nothing else but blanks. -/
def read? (t : Text) : Option Value := do
  let (value, rest) ← readValue (2 * t.length + 2) t
  if (skip rest).isEmpty then return value else none

end Outline.Value.Json
