import Outline.Proofs.Model.WellFormed
import Outline.Proofs.ParseTree.Pruning
import Outline.Proofs.ParseTree.Walks

/-!
The order of the text in outlines.

Walks of what shows of a source meet its nodes in the order of the text, and scoped walks meet some
of them in the same order. So the types of each kind in an outline, the members of each type and the
parameters of each method stand in the order of the source, under both scopings.
-/

set_option autoImplicit false

namespace Outline.ParseTree

open Declaration (Kind Node)
open Model (Parameter Property Method Constructor EnumValue ClassType InterfaceType EnumType Source)

/-! ### The parts of an outline -/

/-- Whether items stand as in the source: they are read off nodes of a kind below a root, one off
each, and the texts of these nodes start one after the other. -/
def InSourceOrder {α : Type} (root : Tree ParseTree) (kind : Kind)
    (IsReadOff : Tree ParseTree → α → Prop) (items : List α) : Prop :=
  ∃ nodes : List (Tree ParseTree), nodes.Sublist root.descendants ∧
    nodes.Pairwise (fun left right => startOf left ≤ startOf right) ∧
    (∀ node ∈ nodes, kindOf node.value.value.type = kind) ∧ List.Forall₂ IsReadOff nodes items

structure IsParameterAt (node : Tree ParseTree) (parameter : Parameter) : Prop where
  name_eq : nameOf node.value = some parameter.name
  type_eq : parameter.type = Model.orElse (typeOf node.value) Model.missingType

structure IsPropertyAt (node : Tree ParseTree) (property : Property) : Prop where
  name_eq : nameOf node.value = some property.name
  type_eq : property.type = Model.orElse (typeOf node.value) Model.missingType
  modifier_eq : property.modifier = Modifier.resolve (modifiersOf node.value)

/-- Whether a method is read off a node, its parameters standing in the order of the source. Under
legacy scoping these are the parameters of the container. -/
structure IsMethodAt (legacy : Bool) (container node : Tree ParseTree) (method : Method) :
    Prop where
  name_eq : nameOf node.value = some method.name
  type_eq : method.returnType = Model.orElse (typeOf node.value) Model.missingType
  modifier_eq : method.modifier = Modifier.resolve (modifiersOf node.value)
  parameters : InSourceOrder (if legacy then container else node) .parameter IsParameterAt
    method.parameters

/-- Whether a constructor is read off a node, its parameters standing in the order of the source. -/
structure IsConstructorAt (node : Tree ParseTree) (constructor : Constructor) : Prop where
  name_eq : nameOf node.value = some constructor.name
  modifier_eq : constructor.modifier = Modifier.resolve (modifiersOf node.value)
  parameters : InSourceOrder node .parameter IsParameterAt constructor.parameters

structure IsEnumValueAt (node : Tree ParseTree) (value : EnumValue) : Prop where
  name_eq : nameOf node.value = some value.name
  value_eq : value.value = Model.enumValue (node.map declaration)

/-- Whether a class is read off a node, its members standing in the order of the source. -/
structure IsClassAt (legacy : Bool) (node : Tree ParseTree) (type : ClassType) : Prop where
  name_eq : type.name = nameOf node.value
  modifier_eq : type.modifier = Modifier.resolve (modifiersOf node.value)
  properties : InSourceOrder node .property IsPropertyAt type.properties
  methods : InSourceOrder node .method (IsMethodAt legacy node) type.methods
  constructors : InSourceOrder node .constructor IsConstructorAt type.constructors

/-- Whether an interface is read off a node, its members standing in the order of the source. -/
structure IsInterfaceAt (legacy : Bool) (node : Tree ParseTree) (type : InterfaceType) : Prop where
  name_eq : type.name = nameOf node.value
  modifier_eq : type.modifier = Modifier.resolve (modifiersOf node.value)
  properties : InSourceOrder node .property IsPropertyAt type.properties
  methods : InSourceOrder node .method (IsMethodAt legacy node) type.methods

/-- Whether an enum is read off a node, its members standing in the order of the source. -/
structure IsEnumAt (node : Tree ParseTree) (type : EnumType) : Prop where
  name_eq : type.name = nameOf node.value
  modifier_eq : type.modifier = Modifier.resolve (modifiersOf node.value)
  values : InSourceOrder node .enumMember IsEnumValueAt type.values

/-- Whether an outline is read off a root, the types of each kind standing in the order of the
source. -/
structure IsOutlineAt (legacy : Bool) (root : Tree ParseTree) (outline : Source) : Prop where
  classes : InSourceOrder root .classType (IsClassAt legacy) outline.classes
  interfaces : InSourceOrder root .interfaceType (IsInterfaceAt legacy) outline.interfaces
  enums : InSourceOrder root .enumType IsEnumAt outline.enums

/-- Whether nodes of a declaration tree are what some nodes of a kind below a root are seen as. -/
def AreSeenBelow (root : Tree ParseTree) (kind : Kind) (nodes : List Node) : Prop :=
  ∃ shown : List (Tree ParseTree), shown.Sublist root.descendants ∧
    (∀ node ∈ shown, kindOf node.value.value.type = kind) ∧ nodes = shown.map (Tree.map declaration)

private theorem areSeenBelow_ofKind {root : Tree ParseTree} {walk : List (Tree ParseTree)}
    (walked : walk.Sublist root.descendants) (kind : Kind) :
    AreSeenBelow root kind (Model.ofKind kind (walk.map (Tree.map declaration))) := by
  refine ⟨walk.filter fun node => decide (kindOf node.value.value.type = kind),
    List.filter_sublist.trans walked, ?_, ?_⟩
  · intro node member
    exact of_decide_eq_true (List.mem_filter.mp member).2
  · apply Model.filter_map_of_eq
    intro node _
    rw [Tree.value_map]
    rfl

private theorem areSeenBelow_declarations (root : Tree ParseTree) (kind : Kind) :
    AreSeenBelow root kind (Model.declarations (root.map declaration) kind) := by
  rw [Model.declarations, Tree.descendants_map]
  exact areSeenBelow_ofKind (List.Sublist.refl _) kind

private theorem areSeenBelow_members (root : Tree ParseTree) (kind : Kind) (legacy : Bool) :
    AreSeenBelow root kind (Model.members (root.map declaration) kind legacy) := by
  rw [Model.members]
  cases legacy with
  | true => exact areSeenBelow_declarations root kind
  | false =>
    rw [if_neg Bool.false_ne_true, Tree.scopedDescendants_map]
    exact areSeenBelow_ofKind (Tree.scopedDescendants_sublist _ root) kind

private theorem AreSeenBelow.filter {root : Tree ParseTree} {kind : Kind} {nodes : List Node}
    (seen : AreSeenBelow root kind nodes) (p : Node → Bool) :
    AreSeenBelow root kind (nodes.filter p) := by
  obtain ⟨shown, below, kinds, rfl⟩ := seen
  refine ⟨shown.filter (p ∘ Tree.map declaration), List.filter_sublist.trans below, ?_, ?_⟩
  · intro node member
    exact kinds node (List.mem_of_mem_filter member)
  · exact List.filter_map

private theorem areSeenBelow_eligible (root : Tree ParseTree) (kind : Kind) (legacy : Bool) :
    AreSeenBelow root kind (Model.eligible (root.map declaration) kind legacy) :=
  ((areSeenBelow_members root kind legacy).filter _).filter _

private theorem AreSeenBelow.inSourceOrder {α : Type} {root : Tree ParseTree} {kind : Kind}
    {nodes : List Node} (seen : AreSeenBelow root kind nodes) (ordered : IsWalkedInOrder root)
    {IsReadOff : Tree ParseTree → α → Prop} {read : Node → α}
    (isReadOff : ∀ node ∈ root.descendants, node.map declaration ∈ nodes →
      IsReadOff node (read (node.map declaration))) :
    InSourceOrder root kind IsReadOff (nodes.map read) := by
  obtain ⟨shown, below, kinds, rfl⟩ := seen
  refine ⟨shown, below, ordered.sublist below, kinds, ?_⟩
  rw [List.map_map, List.forall₂_map_right_iff, List.forall₂_same]
  intro node member
  exact isReadOff node (below.subset member) (List.mem_map_of_mem member)

private theorem nameOf_of_isNamed {node : Tree ParseTree}
    (named : (node.map declaration).value.isNamed = true) :
    nameOf node.value = some (Model.nameOf (node.map declaration)) := by
  obtain ⟨name, found, -⟩ := Declaration.exists_name_of_isNamed named
  rw [Model.nameOf, found, Option.getD_some, ← found, Tree.value_map]
  rfl

private theorem nameOf_of_mem_eligible {node : Tree ParseTree} {container : Node} {kind : Kind}
    {legacy : Bool} (member : node.map declaration ∈ Model.eligible container kind legacy) :
    nameOf node.value = some (Model.nameOf (node.map declaration)) :=
  nameOf_of_isNamed (Model.isNamed_of_mem_named (List.mem_of_mem_filter member))

/-! ### Outlines -/

section Walked

variable {root : Tree ParseTree} (ordered : IsWalkedInOrder root)
include ordered

private theorem parameters_inSourceOrder :
    InSourceOrder root .parameter IsParameterAt (Model.parameters (root.map declaration)) := by
  apply ((areSeenBelow_declarations root .parameter).filter _).inSourceOrder ordered
  intro node _ named
  exact {
    name_eq := nameOf_of_isNamed (Model.isNamed_of_mem_named named)
    type_eq := by rw [Model.typeOf, Tree.value_map]; rfl }

private theorem properties_inSourceOrder (legacy : Bool) :
    InSourceOrder root .property IsPropertyAt (Model.properties (root.map declaration) legacy) := by
  apply (areSeenBelow_eligible root .property legacy).inSourceOrder ordered
  intro node _ member
  exact {
    name_eq := nameOf_of_mem_eligible member
    type_eq := by rw [Model.typeOf, Tree.value_map]; rfl
    modifier_eq := by rw [Model.modifierOf, Tree.value_map]; rfl }

private theorem methods_inSourceOrder (legacy : Bool) :
    InSourceOrder root .method (IsMethodAt legacy root)
      (Model.methods (root.map declaration) legacy) := by
  apply (areSeenBelow_eligible root .method legacy).inSourceOrder ordered
  intro node below member
  exact {
    name_eq := nameOf_of_mem_eligible member
    type_eq := by rw [Model.typeOf, Tree.value_map]; rfl
    modifier_eq := by rw [Model.modifierOf, Tree.value_map]; rfl
    parameters := by
      cases legacy with
      | true => exact parameters_inSourceOrder ordered
      | false => exact parameters_inSourceOrder (ordered.of_mem_descendants below) }

private theorem constructors_inSourceOrder (legacy : Bool) :
    InSourceOrder root .constructor IsConstructorAt
      (Model.constructors (root.map declaration) legacy) := by
  apply (areSeenBelow_eligible root .constructor legacy).inSourceOrder ordered
  intro node below member
  exact {
    name_eq := nameOf_of_mem_eligible member
    modifier_eq := by rw [Model.modifierOf, Tree.value_map]; rfl
    parameters := parameters_inSourceOrder (ordered.of_mem_descendants below) }

private theorem enumValues_inSourceOrder :
    InSourceOrder root .enumMember IsEnumValueAt (Model.enumValues (root.map declaration)) := by
  apply ((areSeenBelow_members root .enumMember false).filter _).inSourceOrder ordered
  intro node _ named
  exact { name_eq := nameOf_of_isNamed (Model.isNamed_of_mem_named named), value_eq := rfl }

private theorem isOutlineAt_build (path : Text) (legacy : Bool) :
    IsOutlineAt legacy root (Model.build (root.map declaration) path legacy) where
  classes := by
    apply ((areSeenBelow_declarations root .classType).filter _).inSourceOrder ordered
    intro node below _
    have inside := ordered.of_mem_descendants below
    exact {
      name_eq := by rw [Model.buildClass, Tree.value_map]; rfl
      modifier_eq := by rw [Model.buildClass, Model.modifierOf, Tree.value_map]; rfl
      properties := properties_inSourceOrder inside legacy
      methods := methods_inSourceOrder inside legacy
      constructors := constructors_inSourceOrder inside legacy }
  interfaces := by
    apply ((areSeenBelow_declarations root .interfaceType).filter _).inSourceOrder ordered
    intro node below _
    have inside := ordered.of_mem_descendants below
    exact {
      name_eq := by rw [Model.buildInterface, Tree.value_map]; rfl
      modifier_eq := by rw [Model.buildInterface, Model.modifierOf, Tree.value_map]; rfl
      properties := properties_inSourceOrder inside legacy
      methods := methods_inSourceOrder inside legacy }
  enums := by
    apply ((areSeenBelow_declarations root .enumType).filter _).inSourceOrder ordered
    intro node below _
    exact {
      name_eq := by rw [Model.buildEnum, Tree.value_map]; rfl
      modifier_eq := by rw [Model.buildEnum, Model.modifierOf, Tree.value_map]; rfl
      values := enumValues_inSourceOrder (ordered.of_mem_descendants below) }

end Walked

/-- Traversal order is source order: where the texts of the children of each node lie inside the
text of the node, one behind the other, every walk from every node, with bodies open or closed,
meets nodes in the order in which their texts start, and the outline stands as in the source. -/
theorem walks_in_source_order (tree : ParseTree) (ordered : tree.HasOrderedRanges) (bodies : Bool) :
    (∀ node ∈ tree :: tree.preorder,
      ((expose bodies node).descendants.map startOf).Pairwise (· ≤ ·) ∧
        (((expose bodies node).scopedDescendants fun shown =>
          (declaration shown).isScope).map startOf).Pairwise (· ≤ ·)) ∧
      ∀ path outline, (Extraction.extractTree tree path bodies).result = .ok outline →
        IsOutlineAt bodies (expose bodies tree) outline := by
  constructor
  · intro node member
    have walked := isWalkedInOrder_expose (ordered.of_mem member) bodies
    constructor
    · exact List.pairwise_map.mpr walked
    · have fewer := Tree.scopedDescendants_sublist (fun shown => (declaration shown).isScope)
        (expose bodies node)
      exact List.pairwise_map.mpr (walked.sublist fewer)
  · intro path outline found
    rw [eq_build_of_extractTree found]
    exact isOutlineAt_build (isWalkedInOrder_expose ordered bodies) path bodies

def smallSource : Bytes :=
  Utf8.encodeLoose "class C{public void M(int a,int b){f(x=>x);}enum E{A,B}}"

def stretch (type field : String) (start stop : Nat) (children : List ParseTree) : ParseTree :=
  .node { type := type, field := some (Text.ofString field), start := start, stop := stop
          bytes := some ((smallSource.take stop).drop start) } children

def smallTree : ParseTree :=
  let name (start stop : Nat) := stretch "identifier" "name" start stop []
  let type (start stop : Nat) := stretch "predefined_type" "type" start stop []
  stretch "compilation_unit" "" 0 56
    [stretch "class_declaration" "" 0 56
      [name 6 7,
        stretch "declaration_list" "body" 7 56
          [stretch "method_declaration" "" 8 44
            [stretch "modifier" "" 8 14 [], type 15 19, name 20 21,
              stretch "parameter_list" "parameters" 21 34
                [stretch "parameter" "" 22 27 [type 22 25, name 26 27],
                  stretch "parameter" "" 28 33 [type 28 31, name 32 33]],
              stretch "block" "body" 34 44 [stretch "implicit_parameter" "" 37 38 []]],
            stretch "enum_declaration" "" 44 55
              [name 49 50,
                stretch "enum_member_declaration_list" "body" 50 55
                  [stretch "enum_member_declaration" "" 51 52 [name 51 52],
                    stretch "enum_member_declaration" "" 53 54 [name 53 54]]]]]]

/-- Open bodies show the modifier, the types and names and the parameter of the lambda as well, each
where its text stands. -/
theorem walks_smallTree :
    smallTree.HasOrderedRanges ∧
      (expose false smallTree).descendants.map startOf = [0, 6, 7, 8, 21, 22, 28, 44, 49,
        50, 51, 53] ∧
      (expose true smallTree).descendants.map startOf =
        [0, 6, 7, 8, 8, 15, 20, 21, 22, 28, 34, 37, 44, 49, 50, 51, 53] ∧
      ((expose true smallTree).descendants.map startOf).Pairwise (· ≤ ·) ∧
      ∃ outline, (Extraction.extractTree smallTree "F.cs" false).result = .ok outline ∧
        outline.classes.map (fun c => c.methods.map fun m => m.parameters.map (·.name)) =
          [[[Text.ofString "a", Text.ofString "b"]]] ∧
        IsOutlineAt false (expose false smallTree) outline := by
  have ordered : smallTree.HasOrderedRanges := by decide
  have extracted : (Extraction.extractTree smallTree "F.cs" false).result =
      .ok (Model.build (smallTree.view false) "F.cs" false) := by
    rw [Extraction.result_extractTree]
    decide +kernel
  refine ⟨ordered, by decide +kernel, by decide +kernel, ?_, _, extracted, by decide +kernel, ?_⟩
  · exact ((walks_in_source_order smallTree ordered true).1 smallTree List.mem_cons_self).1
  · exact (walks_in_source_order smallTree ordered false).2 "F.cs" _ extracted

end Outline.ParseTree
