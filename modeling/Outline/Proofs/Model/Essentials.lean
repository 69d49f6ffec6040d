import Outline.Model
import Outline.Proofs.Tree.Walk

/-!
What an outline depends on.
-/

set_option autoImplicit false

/-! ## What an outline is made of

Of a node that is no declaration an outline reads nothing but that it is none, of a parameter its
name and type, and of nothing the remarks. So a way to change trees leaves every outline as it is if
each declaration keeps these essentials and the declarations that walks meet are the changed ones.
Reducing the declarations of a tree to their essentials is such a way.
-/

namespace Outline

namespace Declaration

def essentials (d : Declaration) : Declaration :=
  match d.kind with
  | .other => blank
  | .parameter => { kind := .parameter, name := d.name, type := d.type }
  | _ => { d with nameRemark := none, initializerRemark := none }

@[simp] theorem kind_essentials (d : Declaration) : d.essentials.kind = d.kind := by
  unfold essentials
  split <;> simp_all [blank]

theorem essentials_of_other {d : Declaration} (other : d.kind = .other) :
    d.essentials = blank := by
  rw [essentials, other]

theorem essentials_of_parameter {d : Declaration} (parameter : d.kind = .parameter) :
    d.essentials = { kind := .parameter, name := d.name, type := d.type } := by
  rw [essentials, parameter]

theorem essentials_of_ne {d : Declaration} (other : d.kind ≠ .other)
    (parameter : d.kind ≠ .parameter) :
    d.essentials = { d with nameRemark := none, initializerRemark := none } := by
  unfold essentials
  split
  · exact absurd ‹_› other
  · exact absurd ‹_› parameter
  · rfl

private theorem name_essentials {d : Declaration} (other : d.kind ≠ .other) :
    d.essentials.name = d.name := by
  unfold essentials
  split
  · exact absurd ‹_› other
  · rfl
  · rfl

private theorem type_essentials {d : Declaration} (other : d.kind ≠ .other) :
    d.essentials.type = d.type := by
  unfold essentials
  split
  · exact absurd ‹_› other
  · rfl
  · rfl

private theorem modifiers_essentials {d : Declaration} (other : d.kind ≠ .other)
    (parameter : d.kind ≠ .parameter) : d.essentials.modifiers = d.modifiers := by
  rw [essentials_of_ne other parameter]

private theorem initializer_essentials {d : Declaration} (other : d.kind ≠ .other)
    (parameter : d.kind ≠ .parameter) : d.essentials.initializer = d.initializer := by
  rw [essentials_of_ne other parameter]

private theorem essentials_essentials (d : Declaration) :
    d.essentials.essentials = d.essentials := by
  by_cases other : d.kind = .other
  · rw [essentials_of_other other]
    rfl
  · by_cases parameter : d.kind = .parameter
    · rw [essentials_of_parameter parameter]
      rfl
    · rw [essentials_of_ne (d.kind_essentials ▸ other) (d.kind_essentials ▸ parameter),
        essentials_of_ne other parameter]

end Declaration

namespace Model

open Declaration (Node Kind essentials)

def declarationsAmong (nodes : List Node) : List Node :=
  nodes.filter fun node => !decide (node.value.kind = .other)

/-- A way to change trees that keeps outlines: a declaration keeps its essentials, and the
declarations that a walk meets below a changed node are those below the node, changed. -/
structure KeepsOutlines (f : Node → Node) : Prop where
  essentials_eq : ∀ node : Node, node.value.kind ≠ .other →
    (f node).value.essentials = node.value.essentials
  walk_eq : ∀ closed : Kind → Bool, closed .other = false → ∀ node : Node,
    declarationsAmong ((f node).scopedDescendants fun d => closed d.kind) =
      (declarationsAmong (node.scopedDescendants fun d => closed d.kind)).map f

/-- Two trees that have the same outlines: building fails for both or for none. -/
structure SameOutlines (s t : Node) : Prop where
  build_eq : ∀ path legacy, build s path legacy = build t path legacy
  overflows_eq : buildOverflows s = buildOverflows t

/-! ### Lists of nodes -/

theorem filter_map_of_eq {α β : Type*} {f : α → β} {p : β → Bool} {q : α → Bool} {l : List α}
    (same : ∀ a ∈ l, p (f a) = q a) : (l.map f).filter p = (l.filter q).map f := by
  rw [List.filter_map]
  exact congrArg _ (List.filter_congr same)

private theorem kind_of_mem_ofKind {kind : Kind} {nodes : List Node} {node : Node}
    (member : node ∈ ofKind kind nodes) : node.value.kind = kind :=
  of_decide_eq_true (List.mem_filter.mp member).2

private theorem kind_of_mem_named_declarations {root node : Node} {kind : Kind}
    (member : node ∈ named (declarations root kind)) : node.value.kind = kind :=
  kind_of_mem_ofKind (List.mem_filter.mp member).1

private theorem kind_of_mem_named_members {container node : Node} {kind : Kind} {legacy : Bool}
    (member : node ∈ named (members container kind legacy)) : node.value.kind = kind :=
  kind_of_mem_ofKind (List.mem_filter.mp member).1

theorem kind_of_mem_eligible {container node : Node} {kind : Kind} {legacy : Bool}
    (member : node ∈ eligible container kind legacy) : node.value.kind = kind :=
  kind_of_mem_named_members (List.mem_filter.mp member).1

theorem mem_descendants_of_mem_members {container node : Node} {kind : Kind} {legacy : Bool}
    (member : node ∈ members container kind legacy) : node ∈ container.descendants := by
  have walked := List.mem_of_mem_filter member
  split_ifs at walked
  · exact walked
  · exact (Tree.scopedDescendants_sublist _ container).subset walked

private theorem ofKind_declarationsAmong {kind : Kind} (other : kind ≠ .other) (nodes : List Node) :
    ofKind kind (declarationsAmong nodes) = ofKind kind nodes := by
  rw [ofKind, ofKind, declarationsAmong, List.filter_filter]
  refine List.filter_congr fun node _ => ?_
  by_cases same : node.value.kind = kind
  · simp [same, other]
  · simp [same]

namespace KeepsOutlines

variable {f : Node → Node} (keeps : KeepsOutlines f)
include keeps

/-! ### What is read of one node -/

private theorem kind_eq {node : Node} (other : node.value.kind ≠ .other) :
    (f node).value.kind = node.value.kind := by
  rw [← Declaration.kind_essentials, keeps.essentials_eq node other, Declaration.kind_essentials]

private theorem name_eq {node : Node} (other : node.value.kind ≠ .other) :
    (f node).value.name = node.value.name := by
  have other' : (f node).value.kind ≠ .other := keeps.kind_eq other ▸ other
  rw [← Declaration.name_essentials other', keeps.essentials_eq node other,
    Declaration.name_essentials other]

private theorem typeOf_eq {node : Node} (other : node.value.kind ≠ .other) :
    typeOf (f node) = typeOf node := by
  have other' : (f node).value.kind ≠ .other := keeps.kind_eq other ▸ other
  rw [typeOf, typeOf, ← Declaration.type_essentials other', keeps.essentials_eq node other,
    Declaration.type_essentials other]

private theorem isNamed_eq {node : Node} (other : node.value.kind ≠ .other) :
    (f node).value.isNamed = node.value.isNamed := by
  rw [Declaration.isNamed, Declaration.isNamed, keeps.name_eq other]

private theorem nameOf_eq {node : Node} (other : node.value.kind ≠ .other) :
    nameOf (f node) = nameOf node := by
  rw [nameOf, nameOf, keeps.name_eq other]

section Declared

variable {node : Node} (other : node.value.kind ≠ .other) (parameter : node.value.kind ≠ .parameter)
include other parameter

private theorem modifiers_eq : (f node).value.modifiers = node.value.modifiers := by
  have same := keeps.kind_eq other
  rw [← Declaration.modifiers_essentials (same ▸ other) (same ▸ parameter),
    keeps.essentials_eq node other, Declaration.modifiers_essentials other parameter]

private theorem initializer_eq : (f node).value.initializer = node.value.initializer := by
  have same := keeps.kind_eq other
  rw [← Declaration.initializer_essentials (same ▸ other) (same ▸ parameter),
    keeps.essentials_eq node other, Declaration.initializer_essentials other parameter]

private theorem modifierOf_eq : modifierOf (f node) = modifierOf node := by
  rw [modifierOf, modifierOf, keeps.modifiers_eq other parameter]

private theorem isVisible_eq : (f node).value.isVisible = node.value.isVisible := by
  rw [Declaration.isVisible, Declaration.isVisible, keeps.kind_eq other,
    keeps.modifiers_eq other parameter]

private theorem enumValue_eq : enumValue (f node) = enumValue node := by
  rw [enumValue, enumValue, keeps.initializer_eq other parameter]

private theorem overflows_eq : overflows (f node) = overflows node := by
  rw [overflows, overflows, keeps.initializer_eq other parameter]

end Declared

/-! ### What walks meet -/

private theorem ofKind_walk {kind : Kind} (other : kind ≠ .other) (closed : Kind → Bool)
    (entered : closed .other = false) (node : Node) :
    ofKind kind ((f node).scopedDescendants fun d => closed d.kind) =
      (ofKind kind (node.scopedDescendants fun d => closed d.kind)).map f := by
  rw [← ofKind_declarationsAmong other, keeps.walk_eq closed entered,
    ← ofKind_declarationsAmong other (node.scopedDescendants _)]
  refine filter_map_of_eq fun below member => ?_
  have declared : below.value.kind ≠ .other := by
    simpa using (List.mem_filter.mp member).2
  rw [keeps.kind_eq declared]

private theorem declarations_eq (root : Node) {kind : Kind} (other : kind ≠ .other) :
    declarations (f root) kind = (declarations root kind).map f := by
  rw [declarations, declarations, Tree.descendants_eq_scopedDescendants,
    Tree.descendants_eq_scopedDescendants]
  exact keeps.ofKind_walk other (fun _ => false) rfl root

private theorem members_eq (container : Node) {kind : Kind} (legacy : Bool)
    (other : kind ≠ .other) :
    members (f container) kind legacy = (members container kind legacy).map f := by
  cases legacy with
  | true => exact keeps.declarations_eq container other
  | false => exact keeps.ofKind_walk other Kind.isScope rfl container

private theorem named_eq {kind : Kind} {nodes : List Node} (other : kind ≠ .other)
    (ofOneKind : ∀ node ∈ nodes, node.value.kind = kind) :
    named (nodes.map f) = (named nodes).map f := by
  refine filter_map_of_eq fun node member => ?_
  exact keeps.isNamed_eq (ofOneKind node member ▸ other)

private theorem named_declarations_eq (root : Node) {kind : Kind} (other : kind ≠ .other) :
    named (declarations (f root) kind) = (named (declarations root kind)).map f := by
  rw [keeps.declarations_eq root other]
  exact keeps.named_eq other fun _ => kind_of_mem_ofKind

private theorem named_members_eq (container : Node) {kind : Kind} (legacy : Bool)
    (other : kind ≠ .other) :
    named (members (f container) kind legacy) = (named (members container kind legacy)).map f := by
  rw [keeps.members_eq container legacy other]
  exact keeps.named_eq other fun _ => kind_of_mem_ofKind

private theorem eligible_eq (container : Node) {kind : Kind} (legacy : Bool) (other : kind ≠ .other)
    (parameter : kind ≠ .parameter) :
    eligible (f container) kind legacy = (eligible container kind legacy).map f := by
  rw [eligible, eligible, keeps.named_members_eq container legacy other]
  refine filter_map_of_eq fun node member => ?_
  have kind := kind_of_mem_named_members member
  exact keeps.isVisible_eq (kind ▸ other) (kind ▸ parameter)

/-! ### Outlines -/

private theorem parameters_eq (node : Node) : parameters (f node) = parameters node := by
  rw [parameters, parameters, parameterNodes, parameterNodes,
    keeps.named_declarations_eq node (by decide), List.map_map]
  refine List.map_congr_left fun p member => ?_
  have other : p.value.kind ≠ .other := kind_of_mem_named_declarations member ▸ by decide
  rw [Function.comp_apply, keeps.nameOf_eq other, keeps.typeOf_eq other]

private theorem properties_eq (container : Node) (legacy : Bool) :
    properties (f container) legacy = properties container legacy := by
  rw [properties, properties, keeps.eligible_eq container legacy (by decide) (by decide),
    List.map_map]
  refine List.map_congr_left fun p member => ?_
  have kind := kind_of_mem_eligible member
  have other : p.value.kind ≠ .other := kind ▸ by decide
  have parameter : p.value.kind ≠ .parameter := kind ▸ by decide
  rw [Function.comp_apply, keeps.nameOf_eq other, keeps.typeOf_eq other,
    keeps.modifierOf_eq other parameter]

private theorem methods_eq (container : Node) (legacy : Bool) :
    methods (f container) legacy = methods container legacy := by
  rw [methods, methods, keeps.eligible_eq container legacy (by decide) (by decide), List.map_map]
  refine List.map_congr_left fun m member => ?_
  have kind := kind_of_mem_eligible member
  have other : m.value.kind ≠ .other := kind ▸ by decide
  have parameter : m.value.kind ≠ .parameter := kind ▸ by decide
  rw [Function.comp_apply, keeps.nameOf_eq other, keeps.typeOf_eq other,
    keeps.modifierOf_eq other parameter, ← apply_ite f, keeps.parameters_eq]

private theorem constructors_eq (container : Node) (legacy : Bool) :
    constructors (f container) legacy = constructors container legacy := by
  rw [constructors, constructors, keeps.eligible_eq container legacy (by decide) (by decide),
    List.map_map]
  refine List.map_congr_left fun c member => ?_
  have kind := kind_of_mem_eligible member
  have other : c.value.kind ≠ .other := kind ▸ by decide
  have parameter : c.value.kind ≠ .parameter := kind ▸ by decide
  rw [Function.comp_apply, keeps.nameOf_eq other, keeps.modifierOf_eq other parameter,
    keeps.parameters_eq]

private theorem enumMembers_eq (node : Node) : enumMembers (f node) = (enumMembers node).map f :=
  keeps.named_members_eq node false (by decide)

private theorem enumValues_eq (node : Node) : enumValues (f node) = enumValues node := by
  rw [enumValues, enumValues, keeps.enumMembers_eq, List.map_map]
  refine List.map_congr_left fun m member => ?_
  have kind := kind_of_mem_named_members member
  have other : m.value.kind ≠ .other := kind ▸ by decide
  have parameter : m.value.kind ≠ .parameter := kind ▸ by decide
  rw [Function.comp_apply, keeps.nameOf_eq other, keeps.enumValue_eq other parameter]

private theorem build_eq (root : Node) (path : Text) (legacy : Bool) :
    build (f root) path legacy = build root path legacy := by
  rw [build, build, keeps.named_declarations_eq root (by decide),
    keeps.named_declarations_eq root (by decide), keeps.named_declarations_eq root (by decide),
    List.map_map, List.map_map, List.map_map]
  congr 1
  all_goals
    refine List.map_congr_left fun node member => ?_
    have kind := kind_of_mem_named_declarations member
    have other : node.value.kind ≠ .other := kind ▸ by decide
    have parameter : node.value.kind ≠ .parameter := kind ▸ by decide
    rw [Function.comp_apply]
  · rw [buildClass, buildClass, keeps.name_eq other, keeps.modifierOf_eq other parameter,
      keeps.properties_eq, keeps.methods_eq, keeps.constructors_eq]
  · rw [buildInterface, buildInterface, keeps.name_eq other, keeps.modifierOf_eq other parameter,
      keeps.properties_eq, keeps.methods_eq]
  · rw [buildEnum, buildEnum, keeps.name_eq other, keeps.modifierOf_eq other parameter,
      keeps.enumValues_eq]

private theorem enumOverflows_eq (node : Node) : enumOverflows (f node) = enumOverflows node := by
  rw [enumOverflows, enumOverflows, keeps.enumMembers_eq, List.any_map, Bool.eq_iff_iff,
    List.any_eq_true, List.any_eq_true]
  refine exists_congr fun m => and_congr_right fun member => ?_
  have kind := kind_of_mem_named_members member
  rw [Function.comp_apply, keeps.overflows_eq (kind ▸ by decide) (kind ▸ by decide)]

private theorem buildOverflows_eq (root : Node) :
    buildOverflows (f root) = buildOverflows root := by
  rw [buildOverflows, buildOverflows, keeps.named_declarations_eq root (by decide), List.any_map]
  exact List.any_congr rfl keeps.enumOverflows_eq

private theorem sameOutlines (root : Node) : SameOutlines (f root) root :=
  ⟨keeps.build_eq root, keeps.buildOverflows_eq root⟩

end KeepsOutlines

/-! ### Trees of essentials -/

def core (node : Node) : Node := node.map essentials

private theorem keepsOutlines_core : KeepsOutlines core where
  essentials_eq node _ := by
    rw [core, Tree.value_map, Declaration.essentials_essentials]
  walk_eq closed _ node := by
    have scope : (fun d => closed d.kind) ∘ essentials = fun d => closed d.kind := by
      funext d
      rw [Function.comp_apply, Declaration.kind_essentials]
    rw [core, Tree.scopedDescendants_map, scope]
    refine filter_map_of_eq fun below _ => ?_
    rw [Tree.value_map, Declaration.kind_essentials]

theorem build_core (root : Node) (path : Text) (legacy : Bool) :
    build (core root) path legacy = build root path legacy :=
  keepsOutlines_core.build_eq root path legacy

theorem buildOverflows_core (root : Node) : buildOverflows (core root) = buildOverflows root :=
  keepsOutlines_core.buildOverflows_eq root

end Model

end Outline

/-! ## Nodes that are no declarations do not show in an outline

Such nodes may be contracted anywhere below the root: inside types, members and parameters. The
walks enter them, as none of them is a scope, so they meet the same declarations in the same order,
below the root and again below each declaration. So wrapping a subtree in such nodes changes no
outline either.
-/

namespace Outline.Model

open Declaration (Node Kind)

/-- A tree without the nodes below the root that are no declarations. -/
def contracted (root : Node) : Node := root.contract fun d => decide (d.kind = .other)

private theorem keepsOutlines_contracted : KeepsOutlines contracted where
  essentials_eq node _ := by
    rw [contracted, Tree.value_contract]
  walk_eq closed entered node := by
    have opened (d : Declaration) : decide (d.kind = .other) = true → closed d.kind = false := by
      intro other
      rw [of_decide_eq_true other, entered]
    have walk := Tree.scopedDescendants_contract opened node
    have kept :
      declarationsAmong (declarationsAmong (node.scopedDescendants fun d => closed d.kind)) =
        declarationsAmong (node.scopedDescendants fun d => closed d.kind) := by
      simp only [declarationsAmong, List.filter_filter, Bool.and_self]
    rw [contracted, walk, ← kept]
    refine filter_map_of_eq fun below _ => ?_
    rw [Tree.value_contract]

private theorem SameOutlines.trans {r s t : Node} (first : SameOutlines r s)
    (second : SameOutlines s t) :
    SameOutlines r t where
  build_eq path legacy := (first.build_eq path legacy).trans (second.build_eq path legacy)
  overflows_eq := first.overflows_eq.trans second.overflows_eq

private theorem SameOutlines.symm {s t : Node} (same : SameOutlines s t) : SameOutlines t s where
  build_eq path legacy := (same.build_eq path legacy).symm
  overflows_eq := same.overflows_eq.symm

private theorem sameOutlines_of_contracted {s t : Node} (same : contracted s = contracted t) :
    SameOutlines s t := by
  have left := keepsOutlines_contracted.sameOutlines s
  rw [same] at left
  exact left.symm.trans (keepsOutlines_contracted.sameOutlines t)

private theorem sameOutlines_of_children {s t : Node} (same : s.children = t.children) :
    SameOutlines s t := by
  have below : s.descendants = t.descendants := congrArg Tree.visit same
  refine ⟨fun path legacy => ?_, ?_⟩
  · simp only [build, declarations, below]
  · simp only [buildOverflows, declarations, below]

/-- A tree whose root is no declaration may itself be wrapped: what is below the root stays the same
up to contraction. -/
theorem sameOutlines_wrapIn {root : Node} (other : root.value.kind = .other)
    {around : List Declaration} (wrappers : ∀ d ∈ around, d.kind = .other) :
    SameOutlines (root.wrapIn around) root := by
  cases around with
  | nil => exact ⟨fun _ _ => rfl, rfl⟩
  | cons d around =>
    have skipped : ∀ e ∈ around, decide (e.kind = .other) = true := fun e member =>
      decide_eq_true (wrappers e (List.mem_cons_of_mem d member))
    have below : (contracted (root.wrapIn (d :: around))).children =
      (contracted root).children := by
      have outer : root.wrapIn (d :: around) = .node d [root.wrapIn around] := rfl
      rw [outer, contracted, Tree.children_contract, Tree.children_node,
        Tree.contractAll_wrapIn skipped, Tree.contractAll_single, Tree.value_contract, other]
      rfl
    have left := (keepsOutlines_contracted.sameOutlines (root.wrapIn (d :: around))).symm
    have right := keepsOutlines_contracted.sameOutlines root
    exact left.trans ((sameOutlines_of_children below).trans right)

/-- Contraction leaves nothing but declarations below the root, and neither it nor any wrapping of a
subtree changes an outline, whatever the path and the scoping. A root that is a declaration stays
outside: wrapped, it would be outlined itself. -/
theorem other_nodes_transparent (root : Node) :
    (∀ node ∈ (contracted root).descendants, node.value.kind ≠ .other) ∧
      SameOutlines (contracted root) root ∧
      ∀ (address : List Nat) (around : List Declaration), (∀ d ∈ around, d.kind = .other) →
        (address = [] → root.value.kind = .other) →
          SameOutlines (root.updateAt (Tree.wrapIn around) address) root := by
  refine ⟨?_, keepsOutlines_contracted.sameOutlines root, ?_⟩
  · intro node member
    rw [contracted] at member
    have kept := Tree.skip_of_mem_descendants_contract member
    exact of_decide_eq_false kept
  · intro address around wrappers atRoot
    cases address with
    | nil =>
      rw [Tree.updateAt]
      exact sameOutlines_wrapIn (atRoot rfl) wrappers
    | cons i address =>
      have skipped : ∀ d ∈ around, decide (d.kind = .other) = true := fun d member =>
        decide_eq_true (wrappers d member)
      exact sameOutlines_of_contracted (Tree.contract_wrapAt skipped root i address)

/-- A class with a method of one parameter, all inside nodes that are no declarations; one of these
has a name and one a modifier. -/
def scatteredClass : Node :=
  .node { kind := .other }
    [.node { kind := .other, name := some (Text.ofString "region") }
      [.node { kind := .classType, name := some (Text.ofString "C") }
        [.node { kind := .other, modifiers := ["public"] }
          [.node { kind := .method, name := some (Text.ofString "M"), modifiers := ["public"] }
            [.node { kind := .other }
              [.node { kind := .parameter, name := some (Text.ofString "a") } []]]],
        .node { kind := .enumType, name := some (Text.ofString "E") } []]]]

/-- Contracted, the class is a child of the root with its method and enum as children; wrapping the
method, or the whole tree, in two nodes that are no declarations changes no outline either. -/
theorem scatteredClass_transparent :
    (contracted scatteredClass).descendants.map (fun node => node.value.kind) =
        [.classType, .method, .parameter, .enumType] ∧
      SameOutlines (contracted scatteredClass) scatteredClass ∧
      SameOutlines (scatteredClass.updateAt (Tree.wrapIn [Declaration.blank, Declaration.blank])
        [0, 0, 0, 0]) scatteredClass ∧
      SameOutlines (scatteredClass.updateAt (Tree.wrapIn [Declaration.blank, Declaration.blank]) [])
        scatteredClass ∧
      ((build scatteredClass "F.cs" false).classes.map fun c => c.methods.length) = [1] := by
  obtain ⟨-, same, wrapped⟩ := other_nodes_transparent scatteredClass
  have wrappers : ∀ d ∈ [Declaration.blank, Declaration.blank], d.kind = .other := by decide
  exact ⟨by decide +kernel, same, wrapped _ _ wrappers (by decide),
    wrapped _ _ wrappers fun _ => rfl, by decide +kernel⟩

end Outline.Model
