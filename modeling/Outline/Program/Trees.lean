import Outline.FileSystem
import Outline.ParseTree
import Outline.Value

/-!
Parse trees from plain data, the form in which a parser hands them over.

A node is a record: `t` its type, `f` its field, `c` its children, `a` and `m` whether it is
anonymous or missing, `e` its error mark, and its text as `r`, a range of the source, as `text` or
as `hex`. Without `e` a node is marked if it is a fault or a child is marked. `wrap` puts a node
inside that many parentheses.
-/

set_option autoImplicit false

namespace Outline.ParseTree

def isGap (c : CodePoint) : Bool := c = 32 || (decide (9 ≤ c.val) && decide (c.val ≤ 13))

/-- Bytes from pairs of hexadecimal digits, with blanks allowed between the pairs. -/
def hexBytes? : Text → Option Bytes
  | [] => some []
  | [a] => if isGap a then some [] else none
  | a :: b :: t =>
    if isGap a then hexBytes? (b :: t)
    else do
      let high ← a.hexValue?
      let low ← b.hexValue?
      let rest ← hexBytes? t
      return UInt8.ofNat (high * 16 + low) :: rest

/-- Bytes from a text, or from a record that spells them in hexadecimal. -/
def bytes? (v : Value) : Option Bytes :=
  match v with
  | .text t => some (Utf8.encodeLoose t)
  | other => other.get? "hex" >>= Value.text? >>= hexBytes?

def flagAt (key : Text) (fields : List (Text × Value)) : Bool :=
  match Value.lookup? key fields with
  | some (.bool b) => b
  | _ => false

def offsetOf (source : Bytes) (n : Int) : Nat :=
  if n < 0 then (n + source.length).toNat else n.toNat

def rangeAt? (source : Bytes) (fields : List (Text × Value)) : Option (Nat × Nat) :=
  match Value.lookup? "r" fields with
  | some (.list [.int start, .int stop]) =>
    some (offsetOf source start, offsetOf source stop)
  | _ => none

def bytesAt? (source : Bytes) (fields : List (Text × Value)) : Option Bytes :=
  match rangeAt? source fields with
  | some (start, stop) => some ((source.take stop).drop start)
  | none =>
    match Value.lookup? "text" fields with
    | some (.text t) => some (Utf8.encodeLoose t)
    | _ => Value.lookup? "hex" fields >>= Value.text? >>= hexBytes?

def rowOf (source : Bytes) (start : Nat) : Nat := (source.take start).countP (· = 10)

def parenthesize : Nat → ParseTree → ParseTree
  | 0, tree => tree
  | n + 1, tree =>
    let inside := parenthesize n tree
    .node { tree.value with
      type := "parenthesized_expression"
      field := none
      named := true
      missing := false
      hasError := inside.value.hasError } [inside]

def assemble (source : Bytes) (fields : List (Text × Value)) (children : List ParseTree) :
    Option ParseTree := do
  let type ← Value.lookup? "t" fields >>= Value.text?
  let (start, stop) := (rangeAt? source fields).getD (0, 0)
  let missing := flagAt "m" fields
  let marked := match Value.lookup? "e" fields with
    | some (.bool b) => b
    | _ => decide (type = errorType) || missing || children.any (·.value.hasError)
  let wraps := match Value.lookup? "wrap" fields with
    | some (.int n) => n.toNat
    | _ => 0
  return parenthesize wraps (.node
    { type := type
      field := Value.lookup? "f" fields >>= Value.text?
      named := !flagAt "a" fields
      missing := missing
      hasError := marked
      bytes := bytesAt? source fields
      start := start
      stop := stop
      row := rowOf source start } children)

mutual

def ofValue? (source : Bytes) : Value → Option ParseTree
  | .record fields => childrenAt? source fields >>= assemble source fields
  | _ => none

def childrenAt? (source : Bytes) : List (Text × Value) → Option (List ParseTree)
  | [] => some []
  | (key, value) :: fields =>
    if key = Text.ofString "c" then listOf? source value else childrenAt? source fields

def listOf? (source : Bytes) : Value → Option (List ParseTree)
  | .list items => allOf? source items
  | _ => some []

def allOf? (source : Bytes) : List Value → Option (List ParseTree)
  | [] => some []
  | item :: items => do
    let tree ← ofValue? source item
    let trees ← allOf? source items
    return tree :: trees

end

end Outline.ParseTree

/-! ### Files

Parse trees in files. The tree of a source stands beside it, in a file of the same name and a
further extension, as a parser has written it.
-/

namespace Outline.Trees

def treeExtension : Text := ".tree.json"

/-- The source and the tree of a file that holds one, where the source is among the files. -/
def tree? (files : List (Text × Bytes)) (file : Text × Bytes) : Option (Bytes × ParseTree) := do
  let stem := file.1.take (file.1.length - treeExtension.length)
  if file.1 = stem ++ treeExtension then
    let source ← files.find? fun other => decide (other.1 = stem)
    let value ← Value.Json.read? (Utf8.decodeLenient file.2)
    let tree ← ParseTree.ofValue? source.2 value
    return (source.2, tree)
  else none

/-- The parser that knows the trees among the files of a file system. -/
def parser (fs : FileSystem) : Parser := fs.files.filterMap (tree? fs.files)

end Outline.Trees
