import Outline.Model
import Outline.Proofs.Model.Essentials
import Outline.Proofs.Tree.Scopes
import Outline.Proofs.Tree.Walk

/-!
The members of a type under both scopings.
-/

set_option autoImplicit false

/-! ## What legacy scoping adds to an outline

Legacy scoping walks on where scopes end, so a type has at least the members it owns, and a shared
parameter list that holds those of each of its methods. This is said of two trees of which one
embeds in the other, so that it also covers what the larger tree shows and the smaller one hides.
-/

namespace Outline.Model

open Declaration (Node Kind)
open List (SublistForall₂)
open Outline.Tree (Embeds)

def Method.signature (m : Method) : Method := { m with parameters := [] }

/-- Some methods, in order, among methods that share one parameter list, which holds the parameters
of each of the first ones. -/
structure MethodsPartOf (small large : List Method) : Prop where
  signatures : (small.map Method.signature).Sublist (large.map Method.signature)
  parameters : ∃ shared, (∀ m ∈ large, m.parameters = shared) ∧
    ∀ m ∈ small, m.parameters.Sublist shared

/-- A constructor that is another one with parameters left out. -/
structure Constructor.IsPartOf (small large : Constructor) : Prop where
  name_eq : small.name = large.name
  modifier_eq : small.modifier = large.modifier
  parameters : small.parameters.Sublist large.parameters

/-- A class that is another one with members left out. -/
structure ClassType.IsPartOf (small large : ClassType) : Prop where
  name_eq : small.name = large.name
  modifier_eq : small.modifier = large.modifier
  properties : small.properties.Sublist large.properties
  methods : MethodsPartOf small.methods large.methods
  constructors : SublistForall₂ Constructor.IsPartOf small.constructors large.constructors

/-- An interface that is another one with members left out. -/
structure InterfaceType.IsPartOf (small large : InterfaceType) : Prop where
  name_eq : small.name = large.name
  modifier_eq : small.modifier = large.modifier
  properties : small.properties.Sublist large.properties
  methods : MethodsPartOf small.methods large.methods

/-- An enum that is another one with values left out. -/
structure EnumType.IsPartOf (small large : EnumType) : Prop where
  name_eq : small.name = large.name
  modifier_eq : small.modifier = large.modifier
  values : small.values.Sublist large.values

/-- An outline whose types are, in order and kind by kind, parts of some of the types of another. -/
structure Source.IsPartOf (small large : Source) : Prop where
  classes : SublistForall₂ ClassType.IsPartOf small.classes large.classes
  interfaces : SublistForall₂ InterfaceType.IsPartOf small.interfaces large.interfaces
  enums : SublistForall₂ EnumType.IsPartOf small.enums large.enums

section Embedded

variable {s t : Node}

/-! ### What is read of one node -/

private theorem nameOf_embeds (embeds : Embeds s t) : nameOf s = nameOf t := by
  rw [nameOf, nameOf, embeds.value_eq]

private theorem typeOf_embeds (embeds : Embeds s t) : typeOf s = typeOf t := by
  rw [typeOf, typeOf, embeds.value_eq]

private theorem modifierOf_embeds (embeds : Embeds s t) : modifierOf s = modifierOf t := by
  rw [modifierOf, modifierOf, embeds.value_eq]

private theorem enumValue_embeds (embeds : Embeds s t) : enumValue s = enumValue t := by
  rw [enumValue, enumValue, embeds.value_eq]

/-! ### Lists of nodes -/

private theorem named_ofKind_embeds {small large : List Node} (kind : Kind)
    (found : SublistForall₂ Embeds small large) :
    SublistForall₂ Embeds (named (ofKind kind small)) (named (ofKind kind large)) := by
  have ofKinds : SublistForall₂ Embeds (ofKind kind small) (ofKind kind large) :=
    found.filter fun a b embeds => by rw [embeds.value_eq]
  exact ofKinds.filter fun a b embeds => by rw [embeds.value_eq]

private theorem declarations_embeds (embeds : Embeds s t) (kind : Kind) :
    SublistForall₂ Embeds (named (declarations s kind)) (named (declarations t kind)) :=
  named_ofKind_embeds kind embeds.descendants

private theorem eligible_embeds (embeds : Embeds s t) (kind : Kind) :
    SublistForall₂ Embeds (eligible s kind false) (eligible t kind true) := by
  have found := named_ofKind_embeds kind (embeds.scopedDescendants_descendants Declaration.isScope)
  exact found.filter fun a b same => by rw [same.value_eq]

private theorem enumMembers_embeds (embeds : Embeds s t) :
    SublistForall₂ Embeds (enumMembers s) (enumMembers t) :=
  named_ofKind_embeds .enumMember (embeds.scopedDescendants Declaration.isScope)

/-! ### Members -/

private theorem parameters_embeds (embeds : Embeds s t) :
    (parameters s).Sublist (parameters t) := by
  refine List.SublistForall₂.sublist ((declarations_embeds embeds .parameter).map ?_)
  intro p q same
  rw [nameOf_embeds same, typeOf_embeds same]

private theorem parameters_isInfix {m : Node} (member : m ∈ t.descendants) :
    parameters m <:+: parameters t := by
  have below := Tree.descendants_isInfix member
  exact ((below.filter _).filter _).map _

private theorem properties_embeds (embeds : Embeds s t) :
    (properties s false).Sublist (properties t true) := by
  refine List.SublistForall₂.sublist ((eligible_embeds embeds .property).map ?_)
  intro p q same
  rw [nameOf_embeds same, typeOf_embeds same, modifierOf_embeds same]

private theorem methods_embeds (embeds : Embeds s t) :
    MethodsPartOf (methods s false) (methods t true) where
  signatures := by
    rw [methods, methods, List.map_map, List.map_map]
    refine List.SublistForall₂.sublist ((eligible_embeds embeds .method).map ?_)
    intro m n same
    simp only [Function.comp_apply, Method.signature]
    rw [nameOf_embeds same, typeOf_embeds same, modifierOf_embeds same]
  parameters := by
    refine ⟨parameters t, fun m member => ?_, fun m member => ?_⟩
    · obtain ⟨n, -, rfl⟩ := List.mem_map.mp member
      rfl
    · obtain ⟨n, found, rfl⟩ := List.mem_map.mp member
      obtain ⟨large, foundIn, same⟩ := (eligible_embeds embeds .method).exists_mem found
      have below : large ∈ t.descendants :=
        List.mem_of_mem_filter (List.mem_of_mem_filter (List.mem_of_mem_filter foundIn))
      exact (parameters_embeds same).trans (parameters_isInfix below).sublist

private theorem constructors_embeds (embeds : Embeds s t) :
    SublistForall₂ Constructor.IsPartOf (constructors s false) (constructors t true) := by
  refine (eligible_embeds embeds .constructor).map fun c d same => ?_
  exact ⟨nameOf_embeds same, modifierOf_embeds same, parameters_embeds same⟩

private theorem enumValues_embeds (embeds : Embeds s t) :
    (enumValues s).Sublist (enumValues t) := by
  refine List.SublistForall₂.sublist ((enumMembers_embeds embeds).map ?_)
  intro m n same
  rw [nameOf_embeds same, enumValue_embeds same]

/-! ### Outlines -/

/-- With scopes respected, the outline of a tree that embeds in another is a part of the outline of
the other under legacy scoping. -/
theorem build_isPartOf (embeds : Embeds s t) (path : Text) :
    (build s path false).IsPartOf (build t path true) where
  classes := (declarations_embeds embeds .classType).map fun _ _ same =>
    { name_eq := congrArg Declaration.name same.value_eq
      modifier_eq := modifierOf_embeds same
      properties := properties_embeds same
      methods := methods_embeds same
      constructors := constructors_embeds same }
  interfaces := (declarations_embeds embeds .interfaceType).map fun _ _ same =>
    { name_eq := congrArg Declaration.name same.value_eq
      modifier_eq := modifierOf_embeds same
      properties := properties_embeds same
      methods := methods_embeds same }
  enums := (declarations_embeds embeds .enumType).map fun _ _ same =>
    { name_eq := congrArg Declaration.name same.value_eq
      modifier_eq := modifierOf_embeds same
      values := enumValues_embeds same }

end Embedded

end Outline.Model

/-! ## The outline of a tree said by address

A type owns a member below it if no type stands between the two. The declared outline of a tree
lists, in the order of addresses, the named types at any address, and for each of them the named
eligible members that it owns. Building an outline gives exactly the declared one, although it walks
the tree with a stack and walks what lies below a nested type once for every type around it.
-/

namespace Outline.Model

open Declaration (Node Kind)

namespace Declared

def below (root : Node) (kind : Kind) : List Node :=
  (root.addresses.filterMap root.at?).filter fun node =>
    decide (node.value.kind = kind) && node.value.isNamed

/-- The named eligible nodes of a kind that a container owns: no type stands between. -/
def owned (container : Node) (kind : Kind) : List Node :=
  ((container.addresses.filter fun address =>
      (container.between address).all fun node => !node.value.kind.isScope).filterMap
    container.at?).filter fun node =>
      decide (node.value.kind = kind) && node.value.isNamed && node.value.isVisible

def parameters (node : Node) : List Parameter :=
  (below node .parameter).map fun p => ⟨nameOf p, typeOf p⟩

def properties (container : Node) : List Property :=
  (owned container .property).map fun p => ⟨nameOf p, typeOf p, modifierOf p⟩

def methods (container : Node) : List Method :=
  (owned container .method).map fun m => ⟨nameOf m, typeOf m, modifierOf m, parameters m⟩

def constructors (container : Node) : List Constructor :=
  (owned container .constructor).map fun c => ⟨nameOf c, modifierOf c, parameters c⟩

def values (container : Node) : List EnumValue :=
  (owned container .enumMember).map fun m => ⟨nameOf m, enumValue m⟩

def source (root : Node) (path : Text) : Source where
  path := path
  classes := (below root .classType).map fun node =>
    ⟨node.value.name, modifierOf node, properties node, methods node, constructors node,
      languageTag⟩
  interfaces := (below root .interfaceType).map fun node =>
    ⟨node.value.name, modifierOf node, properties node, methods node, languageTag⟩
  enums := (below root .enumType).map fun node =>
    ⟨node.value.name, modifierOf node, values node, languageTag⟩

end Declared

theorem named_ofKind (kind : Kind) (nodes : List Node) :
    named (ofKind kind nodes) = nodes.filter fun node =>
      decide (node.value.kind = kind) && node.value.isNamed := by
  rw [named, ofKind, List.filter_filter]
  exact List.filter_congr fun node _ => Bool.and_comm _ _

private theorem named_declarations (root : Node) (kind : Kind) :
    named (declarations root kind) = Declared.below root kind := by
  rw [declarations, named_ofKind, Tree.descendants_eq_filterMap, Declared.below]

private theorem named_members (container : Node) (kind : Kind) :
    named (members container kind false) =
      ((container.addresses.filter (container.isOpenAt Declaration.isScope)).filterMap
        container.at?).filter fun node =>
          decide (node.value.kind = kind) && node.value.isNamed := by
  rw [members, if_neg Bool.false_ne_true, named_ofKind, Tree.scopedDescendants_eq_filterMap]

private theorem eligible_eq_owned (container : Node) (kind : Kind) :
    eligible container kind false = Declared.owned container kind := by
  rw [eligible, visible, named_members, List.filter_filter, Declared.owned]
  exact List.filter_congr fun node _ => Bool.and_comm _ _

private theorem enumMembers_eq_owned (node : Node) :
    enumMembers node = Declared.owned node .enumMember := by
  rw [enumMembers, named_members, Declared.owned]
  refine List.filter_congr fun member _ => ?_
  by_cases h : member.value.kind = .enumMember
  · have visible : member.value.isVisible = true := by
      rw [Declaration.isVisible, h]
      rfl
    rw [visible, Bool.and_true]
  · rw [decide_eq_false h]
    rfl

private theorem parameters_eq_declared (node : Node) :
    parameters node = Declared.parameters node := by
  rw [parameters, parameterNodes, named_declarations, Declared.parameters]

private theorem properties_eq_declared (container : Node) :
    properties container false = Declared.properties container := by
  rw [properties, eligible_eq_owned, Declared.properties]

private theorem methods_eq_declared (container : Node) :
    methods container false = Declared.methods container := by
  rw [methods, eligible_eq_owned, Declared.methods]
  refine List.map_congr_left fun m _ => ?_
  rw [if_neg Bool.false_ne_true, parameters_eq_declared]

private theorem constructors_eq_declared (container : Node) :
    constructors container false = Declared.constructors container := by
  rw [constructors, eligible_eq_owned, Declared.constructors]
  refine List.map_congr_left fun c _ => ?_
  rw [parameters_eq_declared]

private theorem enumValues_eq_declared (node : Node) : enumValues node = Declared.values node := by
  rw [enumValues, enumMembers_eq_owned, Declared.values]

/-- With scopes respected, building gives the declared outline; and the addresses by which that is
said are those at which there is a node below the root, each once and in pre-order. -/
theorem build_eq_declared (root : Node) (path : Text) :
    build root path false = Declared.source root path ∧
      ∀ tree : Node, tree.addresses.Pairwise (· < ·) ∧
        ∀ address, address ∈ tree.addresses ↔ address ≠ [] ∧ (tree.at? address).isSome := by
  refine ⟨?_, fun tree => ⟨Tree.pairwise_addresses tree, Tree.mem_addresses_iff tree⟩⟩
  rw [build, named_declarations, named_declarations, named_declarations, Declared.source]
  congr 1
  · refine List.map_congr_left fun node _ => ?_
    rw [buildClass, properties_eq_declared, methods_eq_declared, constructors_eq_declared]
  · refine List.map_congr_left fun node _ => ?_
    rw [buildInterface, properties_eq_declared, methods_eq_declared]
  · refine List.map_congr_left fun node _ => ?_
    rw [buildEnum, enumValues_eq_declared]

end Outline.Model

/-! ## What a type inherits under legacy scoping

On one tree the two scopings outline the same types in the same places, and a type has under legacy
scoping the members that it owns and those that lie in nested types. A type with no scope below it
inherits nothing. The walk under legacy scoping lists what lies below a node in one piece, so each
list of a nested type is a contiguous block of the same list of any type around it.
-/

namespace Outline.Model

open Declaration (Node Kind)

/-- Owned methods among all methods. The latter share one parameter list, in which the parameters of
each owned method stand in one piece. -/
structure MethodsWithin (own all : List Method) : Prop where
  signatures : (own.map Method.signature).Sublist (all.map Method.signature)
  parameters : ∃ shared, (∀ m ∈ all, m.parameters = shared) ∧ ∀ m ∈ own, m.parameters <:+: shared

/-- A class with the members that it owns beside the class with all members below it. -/
structure ClassType.IsWithin (own all : ClassType) : Prop where
  name_eq : own.name = all.name
  modifier_eq : own.modifier = all.modifier
  properties : own.properties.Sublist all.properties
  methods : MethodsWithin own.methods all.methods
  constructors : own.constructors.Sublist all.constructors
  language_eq : own.language = all.language

structure InterfaceType.IsWithin (own all : InterfaceType) : Prop where
  name_eq : own.name = all.name
  modifier_eq : own.modifier = all.modifier
  properties : own.properties.Sublist all.properties
  methods : MethodsWithin own.methods all.methods
  language_eq : own.language = all.language

def ClassType.signature (c : ClassType) : ClassType :=
  { c with methods := c.methods.map Method.signature }

def InterfaceType.signature (i : InterfaceType) : InterfaceType :=
  { i with methods := i.methods.map Method.signature }

def HasNoScope (node : Node) : Prop := ∀ below ∈ node.descendants, below.value.isScope = false

/-! ### Members under both scopings -/

section Members

variable {container : Node}

private theorem eligible_sublist (container : Node) (kind : Kind) :
    (eligible container kind false).Sublist (eligible container kind true) := by
  have walk := Tree.scopedDescendants_sublist Declaration.isScope container
  exact ((walk.filter _).filter _).filter _

private theorem eligible_of_hasNoScope (noScope : HasNoScope container) (kind : Kind) :
    eligible container kind false = eligible container kind true := by
  have walk := Tree.scopedDescendants_of_open noScope
  simp only [eligible, members, Bool.false_eq_true, ↓reduceIte, walk]

private theorem signatures_methods (container : Node) (legacy : Bool) :
    (methods container legacy).map Method.signature =
      (eligible container .method legacy).map fun m =>
        ⟨nameOf m, typeOf m, modifierOf m, []⟩ := by
  rw [methods, List.map_map]
  rfl

private theorem parameters_of_mem_methods {m : Method} (member : m ∈ methods container true) :
    m.parameters = parameters container := by
  obtain ⟨node, -, rfl⟩ := List.mem_map.mp member
  rfl

private theorem methods_within (container : Node) :
    MethodsWithin (methods container false) (methods container true) where
  signatures := by
    rw [signatures_methods, signatures_methods]
    exact (eligible_sublist container .method).map _
  parameters := by
    refine ⟨parameters container, fun m => parameters_of_mem_methods, ?_⟩
    intro m member
    obtain ⟨node, found, rfl⟩ := List.mem_map.mp member
    have isMember := List.mem_of_mem_filter (List.mem_of_mem_filter found)
    exact parameters_isInfix (mem_descendants_of_mem_members isMember)

private theorem buildClass_within (node : Node) :
    (buildClass node false).IsWithin (buildClass node true) where
  name_eq := rfl
  modifier_eq := rfl
  properties := (eligible_sublist node .property).map _
  methods := methods_within node
  constructors := (eligible_sublist node .constructor).map _
  language_eq := rfl

private theorem buildInterface_within (node : Node) :
    (buildInterface node false).IsWithin (buildInterface node true) where
  name_eq := rfl
  modifier_eq := rfl
  properties := (eligible_sublist node .property).map _
  methods := methods_within node
  language_eq := rfl

/-! ### Types that inherit nothing -/

private theorem properties_of_hasNoScope (noScope : HasNoScope container) :
    properties container false = properties container true := by
  rw [properties, properties, eligible_of_hasNoScope noScope]

private theorem constructors_of_hasNoScope (noScope : HasNoScope container) :
    constructors container false = constructors container true := by
  rw [constructors, constructors, eligible_of_hasNoScope noScope]

private theorem signatures_of_hasNoScope (noScope : HasNoScope container) :
    (methods container false).map Method.signature =
      (methods container true).map Method.signature := by
  rw [signatures_methods, signatures_methods, eligible_of_hasNoScope noScope]

private theorem buildClass_of_hasNoScope (noScope : HasNoScope container) :
    (buildClass container false).signature = (buildClass container true).signature := by
  simp only [ClassType.signature, buildClass, properties_of_hasNoScope noScope,
    constructors_of_hasNoScope noScope, signatures_of_hasNoScope noScope]

private theorem buildInterface_of_hasNoScope (noScope : HasNoScope container) :
    (buildInterface container false).signature = (buildInterface container true).signature := by
  simp only [InterfaceType.signature, buildInterface, properties_of_hasNoScope noScope,
    signatures_of_hasNoScope noScope]

end Members

private theorem forall₂_map_map {α β γ : Type*} {R : β → γ → Prop} {f : α → β} {g : α → γ}
    (related : ∀ a, R (f a) (g a)) (l : List α) : List.Forall₂ R (l.map f) (l.map g) := by
  rw [List.forall₂_map_left_iff, List.forall₂_map_right_iff]
  exact List.forall₂_same.mpr fun a _ => related a

/-- The two scopings of one tree differ by inherited members only: the types and enums are the same,
place by place; a type has the members that it owns among all members below it; and it has no
others, up to the shared parameter list, if no scope lies below it. -/
theorem build_scopings_differ_by_inherited (root : Node) (path : Text) :
    let own := build root path false
    let all := build root path true
    own.path = all.path ∧ own.enums = all.enums ∧
      List.Forall₂ ClassType.IsWithin own.classes all.classes ∧
      List.Forall₂ InterfaceType.IsWithin own.interfaces all.interfaces ∧
      (∀ (i : Nat) (node : Node), (Declared.below root .classType)[i]? = some node →
        HasNoScope node → ∃ o a : ClassType, own.classes[i]? = some o ∧ all.classes[i]? = some a ∧
          o.signature = a.signature) ∧
      ∀ (i : Nat) (node : Node), (Declared.below root .interfaceType)[i]? = some node →
        HasNoScope node → ∃ o a : InterfaceType, own.interfaces[i]? = some o ∧
          all.interfaces[i]? = some a ∧ o.signature = a.signature := by
  intro own all
  refine ⟨rfl, rfl, ?_, ?_, ?_, ?_⟩
  · exact forall₂_map_map buildClass_within _
  · exact forall₂_map_map buildInterface_within _
  · intro i node found noScope
    rw [← named_declarations] at found
    refine ⟨buildClass node false, buildClass node true, ?_, ?_, buildClass_of_hasNoScope noScope⟩
    · exact List.getElem?_map.trans (congrArg _ found)
    · exact List.getElem?_map.trans (congrArg _ found)
  · intro i node found noScope
    rw [← named_declarations] at found
    refine ⟨buildInterface node false, buildInterface node true, ?_, ?_,
      buildInterface_of_hasNoScope noScope⟩
    · exact List.getElem?_map.trans (congrArg _ found)
    · exact List.getElem?_map.trans (congrArg _ found)

/-- A class with a property and two methods, of which one has a parameter. -/
def innerClass : Node :=
  .node { kind := .classType, name := some (Text.ofString "Cache") }
    [.node { kind := .property, name := some (Text.ofString "Tag"), modifiers := ["internal"] } [],
      .node { kind := .method, name := some (Text.ofString "Touch"), modifiers := ["public"] }
        [.node { kind := .parameter, name := some (Text.ofString "key") } []],
      .node { kind := .method, name := some (Text.ofString "Clear"), modifiers := ["public"] } []]

/-- A class with a property and a method around a struct, in which there are a constructor and
another class. -/
def nestingClass : Node :=
  .node { kind := .classType, name := some (Text.ofString "Outer") }
    [.node { kind := .property, name := some (Text.ofString "Size"), modifiers := ["public"] } [],
      .node { kind := .otherType, name := some (Text.ofString "Point") }
        [.node { kind := .constructor, name := some (Text.ofString "Point"), modifiers :=
          ["public"] }
            [.node { kind := .parameter, name := some (Text.ofString "x") } []],
          innerClass],
      .node { kind := .method, name := some (Text.ofString "Grow"), modifiers := ["public"] }
        [.node { kind := .parameter, name := some (Text.ofString "by") } []]]

/-- A class, and after it its nested class again as a class of its own. -/
def nestingFile : Node := .node { kind := .other } [nestingClass, innerClass]

/-- The first class inherits a property, the last one has no scope below it and inherits nothing. -/
theorem build_scopings_nestingFile :
    let own := build nestingFile "F.cs" false
    let all := build nestingFile "F.cs" true
    own.classes.map (fun c => c.properties.length) = [1, 1, 1] ∧
      all.classes.map (fun c => c.properties.length) = [2, 1, 1] ∧
      List.Forall₂ ClassType.IsWithin own.classes all.classes ∧
      (Declared.below nestingFile .classType)[2]? = some innerClass ∧ HasNoScope innerClass ∧
      ∃ o a : ClassType, own.classes[2]? = some o ∧ all.classes[2]? = some a ∧
        o.signature = a.signature := by
  have found : (Declared.below nestingFile .classType)[2]? = some innerClass := rfl
  have noScope : HasNoScope innerClass := by
    unfold HasNoScope
    rw [Tree.descendants_eq_preorder]
    decide
  obtain ⟨-, -, classes, -, alone, -⟩ := build_scopings_differ_by_inherited nestingFile "F.cs"
  exact ⟨by decide +kernel, by decide +kernel, classes, found, noScope, alone 2 _ found noScope⟩

/-! ### Members of nested types -/

private theorem eligible_isInfix {container inner : Node} (member : inner ∈ container.descendants)
    (kind : Kind) : eligible inner kind true <:+: eligible container kind true := by
  have walk := Tree.descendants_isInfix member
  exact ((walk.filter _).filter _).filter _

/-- Under legacy scoping all methods of a type have one parameter list, that of all parameters
declared below it, and the lists of a type nested in another are contiguous blocks of the lists of
the other. -/
theorem legacy_lists_nest (container : Node) :
    (∀ m ∈ methods container true, m.parameters = Declared.parameters container) ∧
      ∀ inner ∈ container.descendants,
        properties inner true <:+: properties container true ∧
        constructors inner true <:+: constructors container true ∧
        (methods inner true).map Method.signature <:+:
          (methods container true).map Method.signature ∧
        Declared.parameters inner <:+: Declared.parameters container := by
  refine ⟨?_, ?_⟩
  · intro m member
    rw [← parameters_eq_declared]
    exact parameters_of_mem_methods member
  · intro inner member
    refine ⟨(eligible_isInfix member .property).map _, (eligible_isInfix member .constructor).map _,
      ?_, ?_⟩
    · rw [signatures_methods, signatures_methods]
      exact (eligible_isInfix member .method).map _
    · rw [← parameters_eq_declared, ← parameters_eq_declared]
      exact parameters_isInfix member

/-- The parameters of the nested class stand between those of the struct and those of the method
after it. -/
theorem legacy_lists_nest_nestingClass :
    innerClass ∈ nestingClass.descendants ∧
      (parameters nestingClass).map Parameter.name = ["x", "key", "by"] ∧
      (∀ m ∈ methods nestingClass true, m.parameters = Declared.parameters nestingClass) ∧
      properties innerClass true <:+: properties nestingClass true ∧
      constructors innerClass true <:+: constructors nestingClass true ∧
      (methods innerClass true).map Method.signature <:+:
        (methods nestingClass true).map Method.signature ∧
      Declared.parameters innerClass <:+: Declared.parameters nestingClass := by
  have member : innerClass ∈ nestingClass.descendants := by
    rw [Tree.descendants_eq_preorder]
    simp [nestingClass, Tree.preorder, Tree.preorders]
  obtain ⟨shared, nested⟩ := legacy_lists_nest nestingClass
  exact ⟨member, by decide +kernel, shared, nested innerClass member⟩

end Outline.Model
