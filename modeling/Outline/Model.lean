import Outline.Declaration
import Outline.Log
import Outline.Text.Unicode
import Outline.Value

/-!
The outline of a source file: its classes, interfaces and enums with their eligible members.
-/

set_option autoImplicit false

namespace Outline.Model

structure Parameter where
  name : Text
  type : Text
  deriving DecidableEq, Repr

structure Property where
  name : Text
  type : Text
  modifier : Modifier
  deriving DecidableEq, Repr

/-- A method with its return type and parameters. -/
structure Method where
  name : Text
  returnType : Text
  modifier : Modifier
  parameters : List Parameter := []
  deriving DecidableEq, Repr

structure Constructor where
  name : Text
  modifier : Modifier
  parameters : List Parameter := []
  deriving DecidableEq, Repr

/-- A member of an enum with the value of its literal initializer. -/
structure EnumValue where
  name : Text
  value : Text
  deriving DecidableEq, Repr

def languageTag : Text := "csharp"

structure ClassType where
  name : Option Text
  modifier : Modifier
  properties : List Property := []
  methods : List Method := []
  constructors : List Constructor := []
  language : Text := languageTag
  deriving DecidableEq, Repr

structure InterfaceType where
  name : Option Text
  modifier : Modifier
  properties : List Property := []
  methods : List Method := []
  language : Text := languageTag
  deriving DecidableEq, Repr

structure EnumType where
  name : Option Text
  modifier : Modifier
  values : List EnumValue := []
  language : Text := languageTag
  deriving DecidableEq, Repr

/-- The outline of one file; types of each kind in the order of the text, nested ones included. -/
structure Source where
  path : Text
  classes : List ClassType := []
  interfaces : List InterfaceType := []
  enums : List EnumType := []
  deriving DecidableEq, Repr

def Source.declarationCount (s : Source) : Nat :=
  s.classes.length + s.interfaces.length + s.enums.length

def Source.isEmpty (s : Source) : Bool := s.declarationCount == 0

def nameValue : Option Text → Value
  | some name => .text name
  | none => .null

def modifierValue (m : Modifier) : Value := .text m.name

def Parameter.toValue (p : Parameter) : Value :=
  .record [("name", .text p.name), ("type", .text p.type)]

def parametersValue (ps : List Parameter) : Value := .list (ps.map Parameter.toValue)

def Property.toValue (p : Property) : Value :=
  .record [("name", .text p.name), ("type", .text p.type), ("modifier", modifierValue p.modifier)]

def Method.toValue (m : Method) : Value :=
  .record [("name", .text m.name), ("return_type", .text m.returnType),
    ("modifier", modifierValue m.modifier), ("parameters", parametersValue m.parameters)]

def Constructor.toValue (c : Constructor) : Value :=
  .record [("name", .text c.name), ("modifier", modifierValue c.modifier),
    ("parameters", parametersValue c.parameters)]

def EnumValue.toValue (v : EnumValue) : Value :=
  .record [("name", .text v.name), ("value", .text v.value)]

def ClassType.toValue (c : ClassType) : Value :=
  .record [("name", nameValue c.name), ("modifier", modifierValue c.modifier),
    ("properties", .list (c.properties.map Property.toValue)),
    ("methods", .list (c.methods.map Method.toValue)),
    ("constructors", .list (c.constructors.map Constructor.toValue)),
    ("language", .text c.language)]

def InterfaceType.toValue (i : InterfaceType) : Value :=
  .record [("name", nameValue i.name), ("modifier", modifierValue i.modifier),
    ("properties", .list (i.properties.map Property.toValue)),
    ("methods", .list (i.methods.map Method.toValue)),
    ("language", .text i.language)]

def EnumType.toValue (e : EnumType) : Value :=
  .record [("name", nameValue e.name), ("modifier", modifierValue e.modifier),
    ("values", .list (e.values.map EnumValue.toValue)), ("language", .text e.language)]

def Source.toValue (s : Source) : Value :=
  .record [("path", .text s.path), ("classes", .list (s.classes.map ClassType.toValue)),
    ("interfaces", .list (s.interfaces.map InterfaceType.toValue)),
    ("enums", .list (s.enums.map EnumType.toValue))]

/-! ### Building

Outlines from declaration trees.

By default a type has the members that it owns: those below it that lie in no nearer type. With
legacy scoping every member below it counts, and all its methods share one parameter list, made of
every parameter below the type. Declarations without a name are left out, and so are members that
are not eligible.
-/

open Declaration (Node Kind)

def ofKind (kind : Kind) (nodes : List Node) : List Node :=
  nodes.filter fun node => decide (node.value.kind = kind)

def named (nodes : List Node) : List Node := nodes.filter fun node => node.value.isNamed

def visible (nodes : List Node) : List Node := nodes.filter fun node => node.value.isVisible

def declarations (root : Node) (kind : Kind) : List Node := ofKind kind root.descendants

def members (container : Node) (kind : Kind) (legacy : Bool) : List Node :=
  ofKind kind
    (if legacy then container.descendants else container.scopedDescendants Declaration.isScope)

def missingType : Text := "any"

def missingValue : Text := "no-value"

def nameOf (node : Node) : Text := node.value.name.getD []

def orElse (t : Option Text) (substitute : Text) : Text :=
  match t with
  | some (c :: s) => c :: s
  | _ => substitute

def typeOf (node : Node) : Text := orElse node.value.type missingType

def modifierOf (node : Node) : Modifier := Modifier.resolve node.value.modifiers

def parameterNodes (node : Node) : List Node := named (declarations node .parameter)

def parameters (node : Node) : List Parameter :=
  (parameterNodes node).map fun p => ⟨nameOf p, typeOf p⟩

def eligible (container : Node) (kind : Kind) (legacy : Bool) : List Node :=
  visible (named (members container kind legacy))

def properties (container : Node) (legacy : Bool) : List Property :=
  (eligible container .property legacy).map fun p => ⟨nameOf p, typeOf p, modifierOf p⟩

def methods (container : Node) (legacy : Bool) : List Method :=
  (eligible container .method legacy).map fun m =>
    ⟨nameOf m, typeOf m, modifierOf m, parameters (if legacy then container else m)⟩

def constructors (container : Node) (legacy : Bool) : List Constructor :=
  (eligible container .constructor legacy).map fun c => ⟨nameOf c, modifierOf c, parameters c⟩

def enumValue (member : Node) : Text :=
  match member.value.initializer with
  | some (.literal value) => orElse (some value) missingValue
  | _ => missingValue

def enumMembers (node : Node) : List Node := named (members node .enumMember false)

def enumValues (node : Node) : List EnumValue :=
  (enumMembers node).map fun m => ⟨nameOf m, enumValue m⟩

def buildClass (node : Node) (legacy : Bool) : ClassType :=
  ⟨node.value.name, modifierOf node, properties node legacy, methods node legacy,
    constructors node legacy, languageTag⟩

def buildInterface (node : Node) (legacy : Bool) : InterfaceType :=
  ⟨node.value.name, modifierOf node, properties node legacy, methods node legacy, languageTag⟩

def buildEnum (node : Node) : EnumType :=
  ⟨node.value.name, modifierOf node, enumValues node, languageTag⟩

def build (root : Node) (path : Text) (legacy : Bool) : Source :=
  ⟨path, (named (declarations root .classType)).map (buildClass · legacy),
    (named (declarations root .interfaceType)).map (buildInterface · legacy),
    (named (declarations root .enumType)).map buildEnum⟩

def overflows (node : Node) : Bool := decide (node.value.initializer = some .overflow)

def enumOverflows (node : Node) : Bool := (enumMembers node).any overflows

/-- Whether building the outline of a tree fails on one of its enum members. -/
def buildOverflows (root : Node) : Bool :=
  (named (declarations root .enumType)).any enumOverflows

end Outline.Model

/-! ### Remarks

What building an outline remarks on the way: declarations that are left out and why, and what each
type came to. Building reads classes, then interfaces, then enums, and stops at an enum member whose
initializer overflows.
-/

namespace Outline.Model.Trace

open Declaration (Node Kind)
open Log (Event)

def debug (channel : Log.Channel) (parts : List Text) : Event :=
  .note .debug channel (Text.join parts)

def remark (channel : Log.Channel) (message : Option Text) : List Event :=
  message.toList.map (.note .debug channel)

def naming (nodes : List Node) : List Event :=
  nodes.flatMap fun node =>
    if node.value.isNamed then []
    else remark .reading node.value.nameRemark
      ++ [debug .building ["Skipping anonymous ", node.value.kind.name, " declaration"]]

def shownName (name : Option Text) : Text := name.getD "None"

def withholding (nodes : List Node) : List Event :=
  nodes.flatMap fun node =>
    if node.value.isVisible then []
    else remark .reading node.value.nameRemark
      ++ [debug .visibility ["Skipping ", node.value.kind.name, " '", shownName node.value.name,
        "' with modifiers ", Text.Quoted.quoteList (Text.sort node.value.modifiers)]]

def ofParameters (node : Node) : List Event := naming (declarations node .parameter)

def ofMembers (container : Node) (kind : Kind) (legacy : Bool) : List Event :=
  naming (members container kind legacy) ++ withholding (named (members container kind legacy))

def ofProperties (container : Node) (legacy : Bool) : List Event :=
  ofMembers container .property legacy

/-- The remarks on the methods of a container; a shared parameter list is read once. -/
def ofMethods (container : Node) (legacy : Bool) : List Event :=
  ofMembers container .method legacy
    ++ if legacy then ofParameters container
      else (eligible container .method legacy).flatMap ofParameters

def ofConstructors (container : Node) (legacy : Bool) : List Event :=
  ofMembers container .constructor legacy
    ++ (eligible container .constructor legacy).flatMap ofParameters

/-- The elements up to and including the first at which a test holds. -/
def takeThrough {α : Type} (stop : α → Bool) : List α → List α
  | [] => []
  | a :: l => if stop a then [a] else a :: takeThrough stop l

def ofEnumValue (member : Node) : List Event := remark .literals member.value.initializerRemark

/-- The remarks on the members of an enum, up to one that overflows. -/
def ofEnumValues (node : Node) : List Event :=
  naming (members node .enumMember false)
    ++ (takeThrough overflows (enumMembers node)).flatMap ofEnumValue

def ofClass (legacy : Bool) (node : Node) : List Event :=
  ofProperties node legacy ++ ofMethods node legacy ++ ofConstructors node legacy
    ++ [debug .building ["Extracted class ", shownName node.value.name, ": ",
      Text.ofNat (properties node legacy).length, " properties, ",
      Text.ofNat (methods node legacy).length, " methods, ",
      Text.ofNat (constructors node legacy).length, " constructors"]]

def ofInterface (legacy : Bool) (node : Node) : List Event :=
  ofProperties node legacy ++ ofMethods node legacy
    ++ [debug .building ["Extracted interface ", shownName node.value.name, ": ",
      Text.ofNat (properties node legacy).length, " properties, ",
      Text.ofNat (methods node legacy).length, " methods"]]

def ofEnum (node : Node) : List Event :=
  ofEnumValues node
    ++ if enumOverflows node then []
      else [debug .building ["Extracted enum ", shownName node.value.name, ": ",
        Text.ofNat (enumValues node).length, " values"]]

def ofSource (root : Node) (legacy : Bool) : List Event :=
  let classes := declarations root .classType
  let interfaces := declarations root .interfaceType
  let enums := declarations root .enumType
  naming classes ++ (named classes).flatMap (ofClass legacy)
    ++ naming interfaces ++ (named interfaces).flatMap (ofInterface legacy)
    ++ naming enums ++ (takeThrough enumOverflows (named enums)).flatMap ofEnum

end Outline.Model.Trace

/-! ### Reading

Outlines from plain data, by field name. A list or language that is not given has its default.
-/

namespace Outline.Model

def textAt? (key : Text) (v : Value) : Option Text := v.get? key >>= Value.text?

def nameAt? (key : Text) (v : Value) : Option (Option Text) :=
  match v.get? key with
  | some (.text t) => some (some t)
  | some .null => some none
  | _ => none

def modifierAt? (key : Text) (v : Value) : Option Modifier := textAt? key v >>= Modifier.ofName?

/-- The list at a key, each item read; no such key means an empty list. -/
def listAt? {α : Type} (read : Value → Option α) (key : Text) (v : Value) : Option (List α) :=
  match v.get? key with
  | none => some []
  | some value => value.items? >>= (·.mapM read)

def languageAt? (v : Value) : Option Text :=
  match v.get? "language" with
  | none => some languageTag
  | some value => value.text?

def Parameter.ofValue? (v : Value) : Option Parameter := do
  return ⟨← textAt? "name" v, ← textAt? "type" v⟩

def Property.ofValue? (v : Value) : Option Property := do
  return ⟨← textAt? "name" v, ← textAt? "type" v, ← modifierAt? "modifier" v⟩

def Method.ofValue? (v : Value) : Option Method := do
  return ⟨← textAt? "name" v, ← textAt? "return_type" v, ← modifierAt? "modifier" v,
    ← listAt? Parameter.ofValue? "parameters" v⟩

def Constructor.ofValue? (v : Value) : Option Constructor := do
  return ⟨← textAt? "name" v, ← modifierAt? "modifier" v,
    ← listAt? Parameter.ofValue? "parameters" v⟩

def EnumValue.ofValue? (v : Value) : Option EnumValue := do
  return ⟨← textAt? "name" v, ← textAt? "value" v⟩

def ClassType.ofValue? (v : Value) : Option ClassType := do
  return ⟨← nameAt? "name" v, ← modifierAt? "modifier" v,
    ← listAt? Property.ofValue? "properties" v, ← listAt? Method.ofValue? "methods" v,
    ← listAt? Constructor.ofValue? "constructors" v, ← languageAt? v⟩

def InterfaceType.ofValue? (v : Value) : Option InterfaceType := do
  return ⟨← nameAt? "name" v, ← modifierAt? "modifier" v,
    ← listAt? Property.ofValue? "properties" v, ← listAt? Method.ofValue? "methods" v,
    ← languageAt? v⟩

def EnumType.ofValue? (v : Value) : Option EnumType := do
  return ⟨← nameAt? "name" v, ← modifierAt? "modifier" v,
    ← listAt? EnumValue.ofValue? "values" v, ← languageAt? v⟩

def Source.ofValue? (v : Value) : Option Source := do
  return ⟨← textAt? "path" v, ← listAt? ClassType.ofValue? "classes" v,
    ← listAt? InterfaceType.ofValue? "interfaces" v, ← listAt? EnumType.ofValue? "enums" v⟩

end Outline.Model
