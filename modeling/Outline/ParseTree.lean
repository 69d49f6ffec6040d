import Outline.Declaration
import Outline.Literal
import Outline.Text.Utf8

/-!
Parse trees of C# sources, as a grammar's parser gives them.

A node has a type, perhaps the name of a field of its parent, and a stretch of the source. The
parser marks what it had to skip or invent: nodes of the error type, and missing nodes.
-/

set_option autoImplicit false

namespace Outline

namespace ParseTree

/-- A node of a parse tree without what lies below it. -/
structure Part where
  type : Text
  field : Option Text := none
  /-- Whether the node is more than punctuation or a keyword. -/
  named : Bool := true
  missing : Bool := false
  /-- Whether the parser marks the node as holding an error. -/
  hasError : Bool := false
  bytes : Option Bytes := none
  start : Nat := 0
  stop : Nat := 0
  row : Nat := 0
  deriving DecidableEq, Repr

end ParseTree

abbrev ParseTree := Tree ParseTree.Part

namespace ParseTree

/-- The text that a node spans; bytes that are no text are shown as replacement characters. -/
def text? (tree : ParseTree) : Option Text := tree.value.bytes.map Utf8.decodeLenient

def field? (name : Text) (tree : ParseTree) : Option ParseTree :=
  tree.children.find? fun child => decide (child.value.field = some name)

def namedChildren (tree : ParseTree) : List ParseTree :=
  tree.children.filter fun child => child.value.named

def errorType : Text := "ERROR"

def Part.isFault (part : Part) : Bool := decide (part.type = errorType) || part.missing

/-- Goes on counting the faults of the trees on a stack: a node that is marked as holding an error
is entered, its last child first, and what lies below any other is passed over. -/
def countFaults (count : Nat) : List ParseTree → Nat
  | [] => count
  | tree :: stack =>
    countFaults (if tree.value.isFault then count + 1 else count)
      (if tree.value.hasError then tree.children.reverse ++ stack else stack)
termination_by stack => Tree.sizes stack
decreasing_by
  split
  · simp only [Tree.sizes, Tree.size_eq, Tree.sizes_append, Tree.sizes_reverse]; omega
  · simp only [Tree.sizes, Tree.size_eq]; omega

def errorCount (tree : ParseTree) : Nat :=
  if tree.value.hasError then countFaults 0 [tree] else 0

mutual

def faults : ParseTree → Nat
  | .node part children => (if part.isFault then 1 else 0) + faultsAll children

def faultsAll : List ParseTree → Nat
  | [] => 0
  | tree :: trees => faults tree + faultsAll trees

end

def emptyUnit : ParseTree :=
  .node ⟨Text.ofString "compilation_unit", none, true, false, false, some [], 0, 0, 0⟩ []

end ParseTree

/-- A parser as data: the sources it knows with their trees. Any other source is taken to hold
nothing. -/
abbrev Parser := List (Bytes × ParseTree)

def Parser.parse (parser : Parser) (source : Bytes) : ParseTree :=
  match parser.find? fun known => decide (known.1 = source) with
  | some known => known.2
  | none => ParseTree.emptyUnit

end Outline

/-! ### Views

Parse trees as declaration trees.

By default bodies are closed: a method or constructor shows only its parameter list, a property, a
field, an event or an attribute nothing. With open bodies every named node shows, so that the
parameters of lambdas and local functions can be reached.
-/

namespace Outline.ParseTree

open Declaration (Kind Initializer)

def kinds : List (Text × Kind) :=
  [("class_declaration", .classType), ("interface_declaration", .interfaceType),
    ("enum_declaration", .enumType), ("struct_declaration", .otherType),
    ("record_declaration", .otherType), ("record_struct_declaration", .otherType),
    ("property_declaration", .property), ("method_declaration", .method),
    ("constructor_declaration", .constructor), ("parameter", .parameter),
    ("implicit_parameter", .parameter), ("enum_member_declaration", .enumMember)]

/-- The kind of a node type; a type that is no declaration is `other`. -/
def kindOf (type : Text) : Kind :=
  match kinds.find? fun entry => decide (entry.1 = type) with
  | some entry => entry.2
  | none => .other

/-- Types of nodes that hold no declarations of their own unless bodies are open. -/
def closedTypes : List Text :=
  ["field_declaration", "event_field_declaration", "event_declaration", "indexer_declaration",
    "operator_declaration", "conversion_operator_declaration", "destructor_declaration",
    "delegate_declaration", "attribute_list", "global_attribute"]

def implicitParameter : Text := "implicit_parameter"

def nameOf (tree : ParseTree) : Option Text :=
  if tree.value.type = implicitParameter then Text.nonEmpty tree.text?
  else Text.nonEmpty (tree.field? "name" >>= text?)

def nameRemarkOf (tree : ParseTree) : Option Text :=
  if tree.value.type = implicitParameter ∨ (nameOf tree).isSome
      ∨ kindOf tree.value.type = .other then none
  else some (Text.join
    [tree.value.type, " at line ", Text.ofNat (tree.value.row + 1), " has no name"])

def modifiersOf (tree : ParseTree) : List Text :=
  Text.set ((tree.children.filter fun child =>
    decide (child.value.type = Text.ofString "modifier")).filterMap fun child =>
      (Text.nonEmpty (text? child)).map Text.strip)

/-- The fields that may hold the type of a node, the first one present counting. -/
def typeFields (type : Text) : List Text :=
  if type = Text.ofString "method_declaration" then ["returns", "type"]
  else if type = Text.ofString "property_declaration" ∨ type = Text.ofString "parameter" then
    ["type"]
  else []

def typeOf (tree : ParseTree) : Option Text :=
  (typeFields tree.value.type).findSome? (tree.field? ·) >>= text?

/-- The expression behind the equals sign of an enum member: a field of its own, or inside the
first clause that holds one. -/
def initializerNode? (tree : ParseTree) : Option ParseTree :=
  match tree.field? "value" with
  | some expression => some expression
  | none =>
    ((namedChildren tree).filter fun child =>
      decide (child.value.type = Text.ofString "equals_value_clause")).findSome? fun child =>
        (namedChildren child).head?

def initializerOf (tree : ParseTree) : Option Initializer :=
  if kindOf tree.value.type = .enumMember then
    (initializerNode? tree).map fun expression =>
      let text := (text? expression).getD []
      if Literal.isLiteralType expression.value.type then
        match Literal.value? expression.value.type text with
        | some value => .literal value
        | none => .overflow
      else .expression text
  else none

def initializerRemarkOf (tree : ParseTree) : Option Text :=
  if kindOf tree.value.type = .enumMember then
    initializerNode? tree >>= fun expression =>
      Literal.remark? expression.value.type ((text? expression).getD [])
  else none

def declaration (tree : ParseTree) : Declaration :=
  ⟨kindOf tree.value.type, nameOf tree, modifiersOf tree, typeOf tree, initializerOf tree,
    nameRemarkOf tree, initializerRemarkOf tree⟩

/-- Which children of a node show. -/
inductive Exposure
  | nothing | parameterList | namedNodes
  deriving DecidableEq, Repr

/-- Which children show of a node of a type, with bodies open or closed. -/
def exposure (bodies : Bool) (type : Text) : Exposure :=
  match kindOf type with
  | .parameter | .enumMember => .nothing
  | .property => if bodies then .namedNodes else .nothing
  | .method | .constructor => if bodies then .namedNodes else .parameterList
  | _ => if !bodies && closedTypes.contains type then .nothing else .namedNodes

mutual

/-- The tree of the nodes that show, each with its whole parse tree. -/
def expose (bodies : Bool) : ParseTree → Tree ParseTree
  | .node part children =>
    .node (.node part children)
      (match exposure bodies part.type with
        | .nothing => []
        | .parameterList => exposeParameters bodies children
        | .namedNodes => exposeNamed bodies children)

def exposeNamed (bodies : Bool) : List ParseTree → List (Tree ParseTree)
  | [] => []
  | tree :: trees =>
    if tree.value.named then expose bodies tree :: exposeNamed bodies trees
    else exposeNamed bodies trees

def exposeParameters (bodies : Bool) : List ParseTree → List (Tree ParseTree)
  | [] => []
  | tree :: trees =>
    if tree.value.field = some (Text.ofString "parameters") then [expose bodies tree]
    else exposeParameters bodies trees

end

def view (bodies : Bool) (tree : ParseTree) : Declaration.Node :=
  (expose bodies tree).map declaration

def describe (tree : ParseTree) : Text :=
  Text.join ["TreeSitterNode(type=", Text.Quoted.quote tree.value.type, ", line=",
    Text.ofNat (tree.value.row + 1), ")"]

end Outline.ParseTree
