import Outline.Options
import Outline.Program.Yaml.Lexer
import Outline.Program.Yaml.Scalar

/-!
From tokens to data.

The nodes of a document have numbers, and a collection names its parts by them. An alias is the
number of the node that carries its anchor, so a node can be part of several others, and of itself.
The value of the key `<<` is merged into its mapping: its fields come first, so that the mapping's
own prevail. A scalar has its value at once; the parts of a collection get theirs later, collection
by collection in the order in which they were met, so of several faults the one nearest to the root
counts, and of those the first.
-/

set_option autoImplicit false

namespace Outline.Program.Yaml

inductive Node
  | scalar (tag : Tag) (text : Text)
  | list (tag : Tag) (items : List Nat)
  | mapping (tag : Tag) (fields : List (Nat × Nat))
  deriving DecidableEq, Repr

namespace Node

def absent : Node := .scalar .null []

def tag : Node → Tag
  | .scalar tag _ => tag
  | .list tag _ => tag
  | .mapping tag _ => tag

def fields? : Node → Option (List (Nat × Nat))
  | .mapping _ fields => some fields
  | _ => none

abbrev Handles := List (Text × Text)

def defaultHandles : Handles := [("!", "!"), ("!!", Tag.lead)]

end Node

abbrev Graph := Array Node

namespace Graph

def node (g : Graph) (number : Nat) : Node := g.getD number .absent

def tag (g : Graph) (number : Nat) : Tag := (g.node number).tag

/-- The fields of the node with a number; there are none if it is no mapping. -/
def fields (g : Graph) (number : Nat) : List (Nat × Nat) := (g.node number).fields?.getD []

end Graph

/-! ### Reading -/

/-- A place among the tokens of a document, the nodes up to it, and those that carry anchors. -/
structure Place where
  tokens : List Token
  nodes : Graph := #[]
  anchors : List (Text × Nat) := []
  depth : Nat := 0

namespace Place

def depthLimit : Nat := 488

def fault (p : Place) : Fault := (p.tokens.head?.map Token.fault).getD .malformed

def next (p : Place) : Place := { p with tokens := p.tokens.drop 1 }

def isAt (p : Place) (choices : List Token) : Bool :=
  match p.tokens with
  | [] => false
  | token :: _ => choices.contains token

def add (p : Place) (node : Node) : Nat × Place :=
  (p.nodes.size, { p with nodes := p.nodes.push node })

def complete (p : Place) (number : Nat) (node : Node) : Place :=
  { p with nodes := p.nodes.setIfInBounds number node }

def anchored? (p : Place) (name : Text) : Option Nat :=
  (p.anchors.find? fun pair => decide (pair.1 = name)).map (·.2)

/-- Adds a node that is still without content, under an anchor, which must be new. -/
def begin (p : Place) : Option Text → Except Fault (Nat × Place)
  | none => .ok (p.add .absent)
  | some name =>
    if (p.anchored? name).isSome then .error .malformed
    else
      let (number, p) := p.add .absent
      .ok (number, { p with anchors := (name, number) :: p.anchors })

def enter (p : Place) : Except Fault Place :=
  if p.depth < depthLimit then .ok { p.next with depth := p.depth + 1 } else .error .tooDeep

def leave (p : Place) : Place := { p with depth := p.depth - 1 }

end Place

namespace Node

/-- What stands in front of a node: its anchor and the name of its kind. -/
structure Properties where
  anchor : Option Text := none
  tag : Option Text := none
  deriving DecidableEq, Repr

def expand (handles : Handles) (handle : Option Text) (suffix : Text) : Except Fault Text :=
  match handle with
  | none => .ok suffix
  | some handle =>
    match handles.find? fun pair => decide (pair.1 = handle) with
    | some (_, lead) => .ok (lead ++ suffix)
    | none => .error .malformed

def properties (handles : Handles) (p : Place) : Except Fault (Properties × Place) :=
  match p.tokens with
  | .anchor name :: .tag handle suffix :: _ | .tag handle suffix :: .anchor name :: _ => do
    return (⟨some name, some (← expand handles handle suffix)⟩, p.next.next)
  | .anchor name :: _ => .ok (⟨some name, none⟩, p.next)
  | .tag handle suffix :: _ => do
    return (⟨none, some (← expand handles handle suffix)⟩, p.next)
  | _ => .ok ({}, p)

def openName : Text := "!"

def Properties.kind (properties : Properties) (usual : Tag) : Tag :=
  match properties.tag with
  | none => usual
  | some name => if name = openName then usual else Tag.ofName name

/-- The kind of a scalar: that of its tag, that of its spelling where it is plain or its tag leaves
it open, or else a text. -/
def Properties.scalarKind (properties : Properties) (text : Text) (isPlain : Bool) : Tag :=
  match properties.tag with
  | none => if isPlain then Tag.ofSpelling text else .text
  | some name => if name = openName then Tag.ofSpelling text else Tag.ofName name

inductive Setting
  | flow | block
  /-- The key or the value of a block mapping, where a list need not be indented. -/
  | field
  deriving DecidableEq, Repr

mutual

def read (handles : Handles) : Nat → Setting → Place → Except Fault (Nat × Place)
  | 0, _, _ => .error .malformed
  | fuel + 1, setting, p =>
    match p.tokens with
    | .alias name :: _ =>
      match p.anchored? name with
      | some number => .ok (number, p.next)
      | none => .error .malformed
    | _ => do
      let (properties, p) ← properties handles p
      let (number, p) ← p.begin properties.anchor
      let (node, p) ← readContent handles fuel setting properties p
      return (number, p.complete number node)

def readContent (handles : Handles) :
    Nat → Setting → Properties → Place → Except Fault (Node × Place)
  | 0, _, _, _ => .error .malformed
  | fuel + 1, setting, properties, p =>
    let list (result : Except Fault (List Nat × Place)) : Except Fault (Node × Place) :=
      result.map fun (items, p) => (.list (properties.kind .list) items, p.leave)
    let mapping (result : Except Fault (List (Nat × Nat) × Place)) :
        Except Fault (Node × Place) :=
      result.map fun (fields, p) => (.mapping (properties.kind .mapping) fields, p.leave)
    match p.tokens, setting with
    | .scalar text isPlain :: _, _ =>
      .ok (.scalar (properties.scalarKind text isPlain) text, p.next)
    | .flowSequenceStart :: _, _ => list (p.enter >>= readFlowItems handles fuel)
    | .flowMappingStart :: _, _ => mapping (p.enter >>= readFlowFields handles fuel)
    | .blockEntry :: _, .field => list (p.enter >>= readUnindented handles fuel)
    | .blockSequenceStart :: _, .block | .blockSequenceStart :: _, .field =>
      list (p.enter >>= readItems handles fuel)
    | .blockMappingStart :: _, .block | .blockMappingStart :: _, .field =>
      mapping (p.enter >>= readFields handles fuel)
    | .broken fault :: _, _ => .error fault
    | _, _ =>
      if properties = {} then .error .malformed
      else .ok (.scalar (properties.scalarKind [] true) [], p)

/-- Reads a node, unless one of several tokens shows that there is none. -/
def readUnless (handles : Handles) :
    Nat → List Token → Setting → Place → Except Fault (Nat × Place)
  | 0, _, _, _ => .error .malformed
  | fuel + 1, stops, setting, p =>
    if p.isAt stops then .ok (p.add absent) else read handles fuel setting p

/-- Reads the items of an indented block list, which has a token at its end. -/
def readItems (handles : Handles) : Nat → Place → Except Fault (List Nat × Place)
  | 0, _ => .error .malformed
  | fuel + 1, p =>
    match p.tokens with
    | .blockEntry :: _ => do
      let (item, p) ← readUnless handles fuel [.blockEntry, .blockEnd] .block p.next
      let (items, p) ← readItems handles fuel p
      return (item :: items, p)
    | .blockEnd :: _ => .ok ([], p.next)
    | _ => .error p.fault

/-- Reads a block list that is not indented, from behind its first mark. -/
def readUnindented (handles : Handles) : Nat → Place → Except Fault (List Nat × Place)
  | 0, _ => .error .malformed
  | fuel + 1, p => do
    let (item, p) ← readUnless handles fuel [.blockEntry, .key, .value, .blockEnd] .block p
    match p.tokens with
    | .blockEntry :: _ =>
      let (items, p) ← readUnindented handles fuel p.next
      return (item :: items, p)
    | .broken fault :: _ => .error fault
    | _ => return ([item], p)

def readFields (handles : Handles) : Nat → Place → Except Fault (List (Nat × Nat) × Place)
  | 0, _ => .error .malformed
  | fuel + 1, p =>
    match p.tokens with
    | .key :: _ => do
      let stops := [Token.key, .value, .blockEnd]
      let (key, p) ← readUnless handles fuel stops .field p.next
      let (value, p) ← readValue handles fuel stops .field p
      let (fields, p) ← readFields handles fuel p
      return ((key, value) :: fields, p)
    | .blockEnd :: _ => .ok ([], p.next)
    | _ => .error p.fault

/-- Reads the value of a field; there may be none, or none behind the colon. -/
def readValue (handles : Handles) :
    Nat → List Token → Setting → Place → Except Fault (Nat × Place)
  | 0, _, _, _ => .error .malformed
  | fuel + 1, stops, setting, p =>
    match p.tokens with
    | .value :: _ => readUnless handles fuel stops setting p.next
    | .broken fault :: _ => .error fault
    | _ => .ok (p.add absent)

/-- Reads the items of a flow list up to its end. A key and its value are a mapping of their own. -/
def readFlowItems (handles : Handles) : Nat → Place → Except Fault (List Nat × Place)
  | 0, _ => .error .malformed
  | fuel + 1, p =>
    match p.tokens with
    | .flowSequenceEnd :: _ => .ok ([], p.next)
    | .key :: _ => do
      let stops := [Token.flowEntry, .flowSequenceEnd]
      let (item, p) := (← p.enter).add absent
      let (key, p) ← readUnless handles fuel (.value :: stops) .flow p
      let (value, p) ← readValue handles fuel stops .flow p
      let p := (p.complete item (.mapping .mapping [(key, value)])).leave
      let (items, p) ← moreFlowItems handles fuel p
      return (item :: items, p)
    | _ => do
      let (item, p) ← read handles fuel .flow p
      let (items, p) ← moreFlowItems handles fuel p
      return (item :: items, p)

def moreFlowItems (handles : Handles) : Nat → Place → Except Fault (List Nat × Place)
  | 0, _ => .error .malformed
  | fuel + 1, p =>
    match p.tokens with
    | .flowSequenceEnd :: _ => .ok ([], p.next)
    | .flowEntry :: _ => readFlowItems handles fuel p.next
    | _ => .error p.fault

/-- Reads the fields of a flow mapping up to its end. A node alone is a key. -/
def readFlowFields (handles : Handles) : Nat → Place → Except Fault (List (Nat × Nat) × Place)
  | 0, _ => .error .malformed
  | fuel + 1, p =>
    match p.tokens with
    | .flowMappingEnd :: _ => .ok ([], p.next)
    | .key :: _ => do
      let stops := [Token.flowEntry, .flowMappingEnd]
      let (key, p) ← readUnless handles fuel (.value :: stops) .flow p.next
      let (value, p) ← readValue handles fuel stops .flow p
      let (fields, p) ← moreFlowFields handles fuel p
      return ((key, value) :: fields, p)
    | _ => do
      let (key, p) ← read handles fuel .flow p
      let (value, p) := p.add absent
      let (fields, p) ← moreFlowFields handles fuel p
      return ((key, value) :: fields, p)

def moreFlowFields (handles : Handles) : Nat → Place → Except Fault (List (Nat × Nat) × Place)
  | 0, _ => .error .malformed
  | fuel + 1, p =>
    match p.tokens with
    | .flowMappingEnd :: _ => .ok ([], p.next)
    | .flowEntry :: _ => readFlowFields handles fuel p.next
    | _ => .error p.fault

end

end Node

/-! ### Documents -/

/-- The nodes of a document, and the number of the one that holds all others. -/
structure Document where
  graph : Graph
  root : Nat

namespace Document

def absent : Document := ⟨#[.absent], 0⟩

/-- Reads the directives in front of a document: the version once at most, each handle once. -/
def readDirectives (hasVersion : Bool) (handles : Node.Handles) :
    List Token → Except Fault (Node.Handles × List Token)
  | .directive (.version major) :: tokens =>
    if hasVersion || major != 1 then .error .malformed else readDirectives true handles tokens
  | .directive (.tag handle lead) :: tokens =>
    if handles.any fun pair => decide (pair.1 = handle) then .error .malformed
    else readDirectives hasVersion (handles ++ [(handle, lead)]) tokens
  | .directive .other :: tokens => readDirectives hasVersion handles tokens
  | tokens => .ok (handles ++ Node.defaultHandles, tokens)

def readEnd (document : Document) : List Token → Except Fault (Option Document)
  | .documentEnd :: tokens => readEnd document tokens
  | [.streamEnd] => .ok (some document)
  | token :: _ => .error token.fault
  | [] => .error .malformed

def readNodes (handles : Node.Handles) (tokens : List Token) :
    Except Fault (Option Document) := do
  let (root, p) ← Node.read handles (8 * tokens.length + 8) .block { tokens := tokens }
  readEnd ⟨p.nodes, root⟩ p.tokens

def isEndedBy : Token → Bool
  | .directive _ | .documentStart | .documentEnd | .streamEnd => true
  | _ => false

def ofTokens? (tokens : List Token) : Except Fault (Option Document) :=
  match tokens with
  | [.streamEnd] => .ok none
  | .directive _ :: _ | .documentStart :: _ => do
    match ← readDirectives false [] tokens with
    | (handles, .documentStart :: rest) =>
      if (rest.head?.map isEndedBy).getD false then readEnd absent rest
      else readNodes handles rest
    | (_, rest) => .error ((rest.head?.map Token.fault).getD .malformed)
  | _ => readNodes Node.defaultHandles tokens

end Document

end Outline.Program.Yaml

/-! ### Merged mappings -/

namespace Outline.Program.Yaml.Graph

def setFields (g : Graph) (number : Nat) (fields : List (Nat × Nat)) : Graph :=
  match g.node number with
  | .mapping tag _ => g.setIfInBounds number (.mapping tag fields)
  | _ => g

def keyAsText (g : Graph) (number : Nat) : Graph :=
  match g.node number with
  | .scalar .value text => g.setIfInBounds number (.scalar .text text)
  | .list .value items => g.setIfInBounds number (.list .text items)
  | .mapping .value fields => g.setIfInBounds number (.mapping .text fields)
  | _ => g

def isMerge (g : Graph) (field : Nat × Nat) : Bool := g.tag field.1 = .merge

/-- The merging of several mappings one after the other, by the merging of one: the fields of each,
the first first. -/
def mergeAll (merge : Graph → Nat → Except Fault Graph) (g : Graph) :
    List Nat → Except Fault (List (List (Nat × Nat)) × Graph)
  | [] => .ok ([], g)
  | number :: numbers =>
    if (g.node number).fields?.isNone then .error .malformed
    else do
      let g ← merge g number
      let fields := g.fields number
      let (more, g) ← mergeAll merge g numbers
      return (fields :: more, g)

/-- Merges what is to be merged into a mapping. Every step takes a field away whose value is to be
merged, so there are no more steps than fields. -/
def mergeWithin : Nat → Graph → Nat → Except Fault Graph
  | 0, _, _ => .error .malformed
  | fuel + 1, g, number =>
    let fields := g.fields number
    let own := fields.takeWhile (!g.isMerge ·)
    match fields.dropWhile (!g.isMerge ·) with
    | [] => .ok (fields.foldl (fun g field => g.keyAsText field.1) g)
    | (_, value) :: rest => do
      let g := g.setFields number (own ++ rest)
      let sources ← match g.node value with
        | .mapping .. => .ok [value]
        | .list _ items => .ok items
        | .scalar .. => .error .malformed
      let (merged, g) ← mergeAll (mergeWithin fuel) g sources
      let g ← mergeWithin fuel g number
      return g.setFields number (merged.reverse.flatten ++ g.fields number)

def merge (g : Graph) (number : Nat) : Except Fault Graph :=
  let count := g.foldl (fun count node => count + (node.fields?.getD []).length) 0
  mergeWithin (count + 2) g number

end Outline.Program.Yaml.Graph

/-! ### Data -/

namespace Outline.Program.Yaml

open Config

def Tag.isCollection : Tag → Bool
  | .list | .mapping | .set | .pairs => true
  | _ => false

namespace Graph

/-- The text of a node that stands for a scalar: its own, or that of the value of the key `=`. -/
def scalarText (g : Graph) : Nat → Nat → Except Fault Text
  | 0, _ => .error .tooDeep
  | fuel + 1, number =>
    match g.node number with
    | .scalar _ text => .ok text
    | .list .. => .error .malformed
    | .mapping _ fields =>
      match fields.find? fun field => g.tag field.1 = .value with
      | some (_, value) => g.scalarText fuel value
      | none => .error .malformed

def scalar (g : Graph) (number : Nat) : Except Fault Scalar :=
  match g.tag number with
  | .merge | .value | .unknown => .error .malformed
  | tag => do
    let text ← g.scalarText (g.size + 1) number
    if tag = .timestamp && (g.node number).fields?.isSome then .error .mappedMoment
    else scalarOf tag text

end Graph

structure Builder where
  graph : Graph
  known : Array (Option Datum)
  /-- The collections that have been met and have no parts yet, the last first. -/
  waiting : List Nat := []

namespace Builder

def ofGraph (g : Graph) : Builder := { graph := g, known := Array.replicate g.size none }

def meet (b : Builder) (number : Nat) : Except Fault (Datum × Builder) :=
  match b.known.getD number none with
  | some datum => .ok (datum, b)
  | none =>
    if (b.graph.tag number).isCollection then
      let datum := Datum.part number
      .ok (datum, { b with
        known := b.known.setIfInBounds number (some datum), waiting := number :: b.waiting })
    else do
      let datum := Datum.scalar (← b.graph.scalar number)
      return (datum, { b with known := b.known.setIfInBounds number (some datum) })

def meetAll (b : Builder) : List Nat → Except Fault (List Datum × Builder)
  | [] => .ok ([], b)
  | number :: numbers => do
    let (datum, b) ← b.meet number
    let (data, b) ← b.meetAll numbers
    return (datum :: data, b)

def meetFields (b : Builder) (before : List (Scalar × Datum)) :
    List (Nat × Nat) → Except Fault (List (Scalar × Datum) × Builder)
  | [] => .ok (before, b)
  | (key, value) :: fields => do
    match ← b.meet key with
    | (.scalar key, b) =>
      let (datum, b) ← b.meet value
      b.meetFields (Datum.insert key datum before) fields
    | _ => .error .malformed

def meetPairs (b : Builder) : List Nat → Except Fault (List Datum × Builder)
  | [] => .ok ([], b)
  | number :: numbers =>
    match (b.graph.node number).fields? with
    | some [(key, value)] => do
      let (first, b) ← b.meet key
      let (second, b) ← b.meet value
      let (pairs, b) ← b.meetPairs numbers
      return (.pair first second :: pairs, b)
    | _ => .error .malformed

def fill (b : Builder) (number : Nat) : Except Fault (Datum × Builder) :=
  match b.graph.node number with
  | .list .list items => do
    let (data, b) ← b.meetAll items
    return (.list data, b)
  | .list .pairs items => do
    let (pairs, b) ← b.meetPairs items
    return (.list pairs, b)
  | .mapping .mapping _ => do
    let b := { b with graph := ← b.graph.merge number }
    let (fields, b) ← b.meetFields [] (b.graph.fields number)
    return (.mapping fields, b)
  | .mapping .set _ => do
    let b := { b with graph := ← b.graph.merge number }
    let (fields, b) ← b.meetFields [] (b.graph.fields number)
    return (.set (fields.map (·.1)), b)
  | _ => .error .malformed

/-- Gives collections their parts, and then those that were met on the way. Every collection is met
once, so there are no more of them than nodes. -/
def run : Nat → Builder → List Nat → Datum.Parts → Except Fault Datum.Parts
  | 0, _, _, _ => .error .malformed
  | fuel + 1, b, [], parts =>
    if b.waiting.isEmpty then .ok parts
    else run fuel { b with waiting := [] } b.waiting.reverse parts
  | fuel + 1, b, number :: numbers, parts => do
    let (datum, b) ← b.fill number
    run fuel b numbers (parts.setIfInBounds number datum)

end Builder

def Document.datum (d : Document) : Except Fault (Datum × Datum.Parts) := do
  let (datum, b) ← (Builder.ofGraph d.graph).meet d.root
  let parts := Array.replicate d.graph.size (Datum.scalar .null)
  let parts ← Builder.run (2 * d.graph.size + 2) b [] parts
  return (datum, parts)

/-- The datum of a document, and its collections; nothing at all if there is no document. -/
def read (source : Source) : Except Fault (Datum × Datum.Parts) := do
  let tokens ← source.tokens
  match ← Document.ofTokens? tokens with
  | some document => document.datum
  | none => return (.scalar .null, #[])

def reader : Reader := fun _ content => (read (.ofBytes content)).mapError Fault.foreign

end Outline.Program.Yaml
