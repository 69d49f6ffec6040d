import Outline.Config.Datum
import Outline.Failure
import Outline.Value

/-!
Reports of runs: a page of JSON in a directory of its own, named after the run.

The parts of a report that are mappings may also be given as a list of pairs; what is none of these
is refused, and so is a duration that is no number. A key of such a pair is any scalar. On a page
the fields stand in the order of their keys, and keys that have no order are refused.
-/

set_option autoImplicit false

namespace Outline.Report

def defaultDirectory : Text := "output/run_reports"

inductive Flaw
  | items (typeName : Text)
  /-- The item at an index is no pair, having no parts at all. -/
  | partless (index : Nat)
  /-- The item at an index is no pair, having another number of parts. -/
  | length (index count : Nat)
  | key (typeName : Text)
  | duration (typeName : Text)
  /-- A key of the first type and one of the second have no order. -/
  | order (first second : Text)
  deriving DecidableEq, Repr

def Flaw.message : Flaw → Text
  | .items typeName => Text.join ["'", typeName, "' object is not iterable"]
  | .partless index =>
    Text.join ["cannot convert dictionary update sequence element #", Text.ofNat index,
      " to a sequence"]
  | .length index count =>
    Text.join ["dictionary update sequence element #", Text.ofNat index, " has length ",
      Text.ofNat count, "; 2 is required"]
  | .key typeName => Text.join ["unhashable type: '", typeName, "'"]
  | .duration typeName => Text.join ["type ", typeName, " doesn't define __round__ method"]
  | .order first second =>
    Text.join ["'<' not supported between instances of '", first, "' and '", second, "'"]

open Config (Scalar)

abbrev Fields := List (Scalar × Value)

/-- The parts of a value: the items of a list, the keys of a record, the code points of a text. -/
def parts? : Value → Option (List Value)
  | .list items => some items
  | .record fields => some (fields.map fun field => .text field.1)
  | .text t => some (t.map fun c => .text [c])
  | _ => none

def keyOf : Value → Except Flaw Scalar
  | .null => .ok .null
  | .bool b => .ok (.bool b)
  | .int n => .ok (.int n)
  | .float x => .ok (.float x)
  | .text t => .ok (.text t)
  | other => .error (.key other.typeName)

/-- Whether two keys are the same; what is no number is not even the same as itself. -/
def sameKey (a b : Scalar) : Bool := a.sameKey b && decide (a ≠ .float .nan)

def insert (key : Scalar) (value : Value) : Fields → Fields
  | [] => [(key, value)]
  | (k, old) :: fields =>
    if sameKey k key then (k, value) :: fields else (k, old) :: insert key value fields

/-- Adds the fields that pairs make, from the pair at an index on; the last value of a key
counts. -/
def addPairs (index : Nat) (fields : Fields) : List Value → Except Flaw Fields
  | [] => .ok fields
  | pair :: pairs =>
    match parts? pair with
    | none => .error (.partless index)
    | some [key, value] => do
      let key ← keyOf key
      addPairs (index + 1) (insert key value fields) pairs
    | some parts => .error (.length index parts.length)

def fieldsOf (value : Value) : Except Flaw Fields :=
  match value, parts? value with
  | .record fields, _ => .ok (fields.map fun field => (.text field.1, field.2))
  | _, some pairs => addPairs 0 [] pairs
  | _, none => .error (.items value.typeName)

def named (fields : Fields) : List (Text × Value) :=
  fields.foldl (fun before field => Value.insert field.1.name field.2 before) []

inductive Seconds
  | whole (n : Int)
  | fraction (x : Double)
  deriving DecidableEq, Repr

namespace Seconds

/-- A value as a length of time; truth values count as one and zero. -/
def ofValue : Value → Except Flaw Seconds
  | .int n => .ok (.whole n)
  | .bool b => .ok (.whole (if b then 1 else 0))
  | .float x => .ok (.fraction x)
  | other => .error (.duration other.typeName)

/-- A duration to three decimal places, a half going to the even neighbour; a whole number of
seconds stays one. -/
def rounded : Seconds → Value
  | .whole n => .int n
  | .fraction x => .float (x.round 3)

end Seconds

structure Parts where
  status : Value
  source : Value
  outputFile : Value
  stats : List (Text × Value)
  options : List (Text × Value)
  seconds : Seconds

/-- The parts of a report from plain data. Of several flaws that of the counts comes first, then
that of the options. -/
def Parts.ofValues (status source outputFile stats options seconds : Value) :
    Except Flaw Parts := do
  let stats ← fieldsOf stats
  let options ← fieldsOf options
  let seconds ← Seconds.ofValue seconds
  return ⟨status, source, outputFile, named stats, named options, seconds⟩

def build (parts : Parts) : List (Text × Value) :=
  [("status", parts.status), ("source", parts.source), ("output_file", parts.outputFile),
    ("stats", .record parts.stats), ("options", .record parts.options),
    ("duration_seconds", parts.seconds.rounded)]

def withDefault (key : Text) (value : Value) (fields : List (Text × Value)) :
    List (Text × Value) :=
  if (Value.lookup? key fields).isSome then fields else fields ++ [(key, value)]

def path (directory runId : Text) : Text := Path.join directory (runId ++ Text.ofString ".json")

/-- The text of a report: the run and the time are added where they are not given. -/
def page (fields : List (Text × Value)) (runId time : Text) : Text :=
  Value.Json.page
    (.record (withDefault "timestamp_utc" (.text time) (withDefault "run_id" (.text runId) fields)))

def write (fs : FileSystem) (fields : List (Text × Value)) (runId time directory : Text) :
    Except FileError FileSystem := do
  let fs ← fs.makeDirectories directory
  fs.write (path directory runId) (Utf8.encodeLoose (page fields runId time))

/-! ### The order of keys -/

def ratio? : Scalar → Option (Int × Nat)
  | .float (.finite negative mantissa exponent) =>
    let (n, d) := Double.ratio mantissa exponent
    some (if negative then -(n : Int) else n, d)
  | other => other.integer?.map (·, 1)

def isBefore (a b : Scalar) : Bool :=
  match a, b, ratio? a, ratio? b with
  | .text s, .text t, _, _ => !Text.le t s
  | _, _, some (m, d), some (n, e) => decide (m * e < n * d)
  | _, _, x, y => (x.isSome || a = .float (.infinite true)) && b = .float (.infinite false)
    || a = .float (.infinite true) && y.isSome

/-- Whether two keys have an order: both are texts, or both are numbers. -/
def areOrdered : Scalar → Scalar → Bool
  | .text _, .text _ => true
  | .text _, _ | _, .text _ => false
  | .null, _ | _, .null => false
  | _, _ => true

/-- Whether every key, from the second on, is in a relation with the one before it. -/
def isChain (related : Scalar → Scalar → Bool) : List Scalar → Bool
  | a :: b :: keys => related b a && isChain related (b :: keys)
  | _ => true

/-- The first two keys that are compared although they have no order. The first key that has none
with the keys before it is compared with the last of those, if they stand in order or in reverse,
and otherwise with the one in the middle of their order. -/
def clash? : List Scalar → Option (Scalar × Scalar)
  | [] => none
  | first :: rest =>
    match rest.dropWhile (areOrdered first) with
    | [] => none
    | key :: _ =>
      let before := first :: rest.takeWhile (areOrdered first)
      let sorted := Sorting.sort (fun a b => !isBefore b a) before
      let isRun := isChain isBefore before || isChain (fun b a => !isBefore b a) before
      let other := if isRun then before.getLast? else sorted[before.length / 2]?
      some (key, other.getD first)

inductive Obstacle
  | file (error : FileError)
  | keys (flaw : Flaw)

def writeFields (fs : FileSystem) (fields : Fields) (runId time directory : Text) :
    Except Obstacle FileSystem := do
  let fs ← (write fs (named fields) runId time directory).mapError .file
  let added : List Scalar := [.text "run_id", .text "timestamp_utc"]
  match clash? (fields.map (·.1) ++ added) with
  | some (first, second) => .error (.keys (.order first.typeName second.typeName))
  | none => return fs

end Outline.Report
