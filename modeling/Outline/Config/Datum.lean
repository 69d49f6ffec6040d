import Outline.Text.Basic
import Outline.Text.Utf8
import Outline.Value

/-!
Dates and times of day.

A date is year, month and day. A time may come with an offset from the time of reference; two times
that have one are the same moment if they are once their offsets are taken off, however they are
written.
-/

set_option autoImplicit false

namespace Outline.Config

structure Moment.Time where
  hour : Nat
  minute : Nat
  second : Nat
  microsecond : Nat
  offset : Option Int
  deriving DecidableEq, Repr

structure Moment where
  year : Nat
  month : Nat
  day : Nat
  time : Option Moment.Time
  deriving DecidableEq, Repr

namespace Moment

inductive Flaw
  | year | month | day | hour | minute | second
  /-- The offset from the time of reference, in minutes, is a day or more. -/
  | offset (minutes : Int)
  deriving DecidableEq, Repr

/-- A length of time as messages give it: whole days, possibly negative, and seconds. -/
def span (minutes : Int) : Text :=
  let days := minutes / 1440
  let seconds := minutes % 1440 * 60
  let parts := (if days = 0 then [] else [Text.join ["days=", Text.ofInt days]])
    ++ if seconds = 0 then [] else [Text.join ["seconds=", Text.ofInt seconds]]
  Text.join ["datetime.timedelta(", if parts.isEmpty then "0" else Text.joinWith ", " parts, ")"]

def Flaw.message : Flaw → Text
  | .year => "year 0 is out of range"
  | .month => "month must be in 1..12"
  | .day => "day is out of range for month"
  | .hour => "hour must be in 0..23"
  | .minute => "minute must be in 0..59"
  | .second => "second must be in 0..59"
  | .offset minutes =>
    Text.join ["offset must be a timedelta strictly between -timedelta(hours=24) and ",
      "timedelta(hours=24), not ", span minutes, "."]

/-! ### The calendar -/

def isLeap (year : Nat) : Bool := year % 4 == 0 && (year % 100 != 0 || year % 400 == 0)

def daysIn (year month : Nat) : Nat :=
  if month = 2 then if isLeap year then 29 else 28
  else if month = 4 ∨ month = 6 ∨ month = 9 ∨ month = 11 then 30
  else 31

def dateFlaw? (m : Moment) : Option Flaw :=
  if m.year = 0 then some .year
  else if m.month = 0 ∨ 12 < m.month then some .month
  else if m.day = 0 ∨ daysIn m.year m.month < m.day then some .day
  else none

def Time.offsetFlaw? (t : Time) : Option Flaw :=
  match t.offset with
  | some minutes => if 1440 ≤ minutes.natAbs then some (.offset minutes) else none
  | none => none

def Time.flaw? (t : Time) : Option Flaw :=
  if 23 < t.hour then some .hour
  else if 59 < t.minute then some .minute
  else if 59 < t.second then some .second
  else none

/-- What is wrong with a date or a time: the offset is looked at first, then the date. -/
def flaw? (m : Moment) : Option Flaw :=
  match m.time with
  | none => m.dateFlaw?
  | some time => (time.offsetFlaw?.orElse fun _ => m.dateFlaw?).orElse fun _ => time.flaw?

def daysBefore (m : Moment) : Nat :=
  let years := m.year - 1
  let months := (List.range (m.month - 1)).map fun month => daysIn m.year (month + 1)
  years * 365 + years / 4 - years / 100 + years / 400 + months.foldl (· + ·) 0 + m.day - 1

/-- The millionths of a second before a moment, where it has an offset. -/
def instant? (m : Moment) : Option Int := do
  let time ← m.time
  let offset ← time.offset
  let minutes : Int := ((m.daysBefore * 24 + time.hour) * 60 + time.minute : Nat)
  return ((minutes - offset) * 60 + time.second) * 1000000 + time.microsecond

def isSame (a b : Moment) : Bool :=
  match a.instant?, b.instant? with
  | some m, some n => decide (m = n)
  | none, none => decide (a = b)
  | _, _ => false

/-! ### Texts -/

def typeName (m : Moment) : Text := if m.time.isSome then "datetime" else "date"

def offsetText (minutes : Int) : Text :=
  Text.join [if minutes < 0 then "-" else "+", Text.padded 2 (minutes.natAbs / 60), ":",
    Text.padded 2 (minutes.natAbs % 60)]

def Time.text (t : Time) : Text :=
  Text.join [Text.padded 2 t.hour, ":", Text.padded 2 t.minute, ":", Text.padded 2 t.second,
    if t.microsecond = 0 then [] else (46 : CodePoint) :: Text.padded 6 t.microsecond,
    (t.offset.map offsetText).getD []]

def text (m : Moment) : Text :=
  let date := Text.joinWith "-" [Text.padded 4 m.year, Text.padded 2 m.month, Text.padded 2 m.day]
  match m.time with
  | none => date
  | some time => Text.join [date, " ", time.text]

def zoneName (minutes : Int) : Text :=
  if minutes = 0 then "datetime.timezone.utc"
  else Text.join ["datetime.timezone(", span minutes, ")"]

/-- The numbers of a time of day inside a collection: seconds and fraction only where needed. -/
def Time.parts (t : Time) : List Text :=
  [Text.ofNat t.hour, Text.ofNat t.minute]
    ++ (if t.second = 0 ∧ t.microsecond = 0 then [] else [Text.ofNat t.second])
    ++ (if t.microsecond = 0 then [] else [Text.ofNat t.microsecond])
    ++ (t.offset.map fun minutes => Text.join ["tzinfo=", zoneName minutes]).toList

def shown (m : Moment) : Text :=
  let date := [Text.ofNat m.year, Text.ofNat m.month, Text.ofNat m.day]
  let (name, parts) : Text × List Text := match m.time with
    | none => ("datetime.date(", date)
    | some time => ("datetime.datetime(", date ++ time.parts)
  Text.join [name, Text.joinWith ", " parts, ")"]

end Moment

/-! ### Data

What a configuration file holds.

The keys of a mapping are scalars of any kind. A number is one key however it is written, and truth
values count as the numbers zero and one: `1`, `1.0` and `true` are the same key. A mapping keeps
its keys as they first appeared; setting one again replaces its value in place.

A collection that may stand in several places, or within itself, is a part with a number, and the
places refer to it by that number. The text of a datum is one line: a text stands for itself, inside
a collection it is quoted, and a part within itself is left out.
-/

inductive Scalar
  | null
  | bool (b : Bool)
  | int (n : Int)
  | float (x : Double)
  | text (t : Text)
  | moment (m : Moment)
  | bytes (content : Bytes)
  deriving DecidableEq, Inhabited, Repr

namespace Scalar

def typeName : Scalar → Text
  | .null => "NoneType"
  | .bool _ => "bool"
  | .int _ => "int"
  | .float _ => "float"
  | .text _ => "str"
  | .moment m => m.typeName
  | .bytes _ => "bytes"

def integer? : Scalar → Option Int
  | .bool b => some (if b then 1 else 0)
  | .int n => some n
  | .float x => x.integer?
  | _ => none

def sameKey : Scalar → Scalar → Bool
  | .text s, .text t => decide (s = t)
  | .moment m, .moment n => m.isSame n
  | a, b =>
    match a.integer?, b.integer? with
    | some m, some n => decide (m = n)
    | none, none => decide (a = b)
    | _, _ => false

def shownByte (quote : CodePoint) (byte : UInt8) : Text :=
  let c := Utf8.codePoint byte.toNat
  if 127 ≤ c.val then Text.ofString "\\x" ++ Text.hex 2 byte.toNat else Text.Quoted.escape quote c

def shownBytes (content : Bytes) : Text :=
  let quote := Text.Quoted.mark (content.map fun byte => Utf8.codePoint byte.toNat)
  Text.join ["b", [quote], content.flatMap (shownByte quote), [quote]]

/-- A scalar inside a collection; there is none of a number with too many digits. -/
def shown : Scalar → Except Integer.Flaw Text
  | .null => .ok "None"
  | .bool b => .ok (if b then "True" else "False")
  | .int n => Integer.write n
  | .float x => .ok x.text
  | .text t => .ok (Text.Quoted.quote t)
  | .moment m => .ok m.shown
  | .bytes content => .ok (shownBytes content)

def display : Scalar → Except Integer.Flaw Text
  | .text t => .ok t
  | .moment m => .ok m.text
  | other => other.shown

def name : Scalar → Text
  | .int n => Text.ofInt n
  | other => other.display.toOption.getD []

/-- A scalar as plain data; dates, times and bytes are texts there. -/
def toValue : Scalar → Value
  | .null => .null
  | .bool b => .bool b
  | .int n => .int n
  | .float x => .float x
  | other => .text other.name

end Scalar

inductive Datum
  | scalar (s : Scalar)
  | list (items : List Datum)
  | pair (first second : Datum)
  | set (items : List Scalar)
  | mapping (fields : List (Scalar × Datum))
  | part (number : Nat)
  deriving Inhabited

namespace Datum

abbrev Parts := Array Datum

/-- A datum with what it refers to in its place; what it refers to are collections. -/
def resolve (parts : Parts) : Datum → Datum
  | .part number => parts.getD number (.scalar .null)
  | other => other

def typeName (parts : Parts) (d : Datum) : Text :=
  match d.resolve parts with
  | .scalar s => s.typeName
  | .list _ | .part _ => "list"
  | .pair .. => "tuple"
  | .set _ => "set"
  | .mapping _ => "dict"

def lookup? (key : Scalar) : List (Scalar × Datum) → Option Datum
  | [] => none
  | (k, datum) :: fields => if k.sameKey key then some datum else lookup? key fields

def insert (key : Scalar) (datum : Datum) : List (Scalar × Datum) → List (Scalar × Datum)
  | [] => [(key, datum)]
  | (k, old) :: fields =>
    if k.sameKey key then (k, datum) :: fields else (k, old) :: insert key datum fields

mutual

def ofValue : Value → Datum
  | .null => .scalar .null
  | .bool b => .scalar (.bool b)
  | .int n => .scalar (.int n)
  | .float x => .scalar (.float x)
  | .text t => .scalar (.text t)
  | .list items => .list (ofItems items)
  | .record fields => .mapping (ofFields fields)

def ofItems : List Value → List Datum
  | [] => []
  | item :: items => ofValue item :: ofItems items

def ofFields : List (Text × Value) → List (Scalar × Datum)
  | [] => []
  | (key, value) :: fields => (.text key, ofValue value) :: ofFields fields

end

/-! ### Plain data -/

mutual

/-- A datum as plain data, where `ofPart` gives that of a part: the keys of a mapping by their
names, a set as the list of its items in the order of their names. -/
def plain (ofPart : Nat → Option Value) : Datum → Option Value
  | .scalar s => some s.toValue
  | .list items => (plainItems ofPart items).map .list
  | .pair first second => do return .list [← plain ofPart first, ← plain ofPart second]
  | .set items =>
    let sorted := Sorting.sort (fun a b => Text.le a.name b.name) items
    some (.list (sorted.map Scalar.toValue))
  | .mapping fields => (plainFields ofPart [] fields).map .record
  | .part number => ofPart number

def plainItems (ofPart : Nat → Option Value) : List Datum → Option (List Value)
  | [] => some []
  | item :: items => do return (← plain ofPart item) :: (← plainItems ofPart items)

/-- The fields of a mapping as those of a record; the last of a name counts. -/
def plainFields (ofPart : Nat → Option Value) (before : List (Text × Value)) :
    List (Scalar × Datum) → Option (List (Text × Value))
  | [] => some before
  | (key, datum) :: fields => do
    plainFields ofPart (Value.insert key.name (← plain ofPart datum) before) fields

end

/-- A datum as plain data, inside the parts that are given; the fuel bounds how many parts stand one
in another. -/
def plainWithin (parts : Parts) : Nat → List Nat → Datum → Option Value
  | 0, _, _ => none
  | fuel + 1, around, d => d.plain fun number =>
    if around.contains number then none
    else plainWithin parts fuel (number :: around) ((Datum.part number).resolve parts)

/-- A datum as plain data; there is none of a collection that stands within itself. -/
def toValue? (parts : Parts) (d : Datum) : Option Value := plainWithin parts (parts.size + 1) [] d

/-! ### Texts -/

def enclose (opening closing : Text) (parts : List Text) : Text :=
  Text.join [opening, Text.joinWith ", " parts, closing]

mutual

/-- A datum inside a collection, where `ofPart` gives the text of a part. -/
def render (ofPart : Nat → Except Integer.Flaw Text) : Datum → Except Integer.Flaw Text
  | .scalar s => s.shown
  | .list items => do return enclose "[" "]" (← renderItems ofPart items)
  | .pair first second => do
    let a ← render ofPart first
    let b ← render ofPart second
    return enclose "(" ")" [a, b]
  | .set [] => .ok "set()"
  | .set (item :: items) => do return enclose "\x7b" "\x7d" (← (item :: items).mapM Scalar.shown)
  | .mapping fields => do return enclose "\x7b" "\x7d" (← renderFields ofPart fields)
  | .part number => ofPart number

def renderItems (ofPart : Nat → Except Integer.Flaw Text) :
    List Datum → Except Integer.Flaw (List Text)
  | [] => .ok []
  | item :: items => do
    let part ← render ofPart item
    let parts ← renderItems ofPart items
    return part :: parts

def renderFields (ofPart : Nat → Except Integer.Flaw Text) :
    List (Scalar × Datum) → Except Integer.Flaw (List Text)
  | [] => .ok []
  | (key, datum) :: fields => do
    let lead ← key.shown
    let part ← render ofPart datum
    let parts ← renderFields ofPart fields
    return Text.join [lead, ": ", part] :: parts

end

def ellipsis : Datum → Text
  | .mapping _ => "\x7b...\x7d"
  | _ => "[...]"

/-- A datum inside a collection, inside the parts that are given; the fuel bounds how many parts
stand one in another. -/
def shownWithin (parts : Parts) : Nat → List Nat → Datum → Except Integer.Flaw Text
  | 0, _, d => .ok d.ellipsis
  | fuel + 1, around, d => d.render fun number =>
    let part := (Datum.part number).resolve parts
    if around.contains number then .ok part.ellipsis
    else shownWithin parts fuel (number :: around) part

/-- A datum inside a collection. No part stands within itself, so there are no more levels than
parts. -/
def shown (parts : Parts) (d : Datum) : Except Integer.Flaw Text :=
  shownWithin parts (parts.size + 1) [] d

def display (parts : Parts) : Datum → Except Integer.Flaw Text
  | .scalar s => s.display
  | other => other.shown parts

end Datum

/-- A mapping of a configuration, and the collections that its data refer to by number. -/
structure Section where
  fields : List (Scalar × Datum) := []
  parts : Datum.Parts := #[]

namespace Section

def get? (s : Section) (key : Text) : Option Datum :=
  (Datum.lookup? (.text key) s.fields).map (Datum.resolve s.parts)

def ofFields (fields : List (Text × Value)) : Section := { fields := Datum.ofFields fields }

end Section

end Outline.Config
