import Outline.Proofs.Model.Essentials
import Outline.Proofs.Model.Scoping

/-!
Every outline is well formed.

Names, types and values in an outline are never empty: a declaration without a name is left out, and
a missing type or value has a substitute. The rules on eligible members and on modifier classes were
made apart and agree: what is eligible has a keyword that counts, so no member is private. And an
outline has as many types as there are named types in the tree.
-/

set_option autoImplicit false

namespace Outline

namespace Modifier

private theorem resolve_ne_private {keywords : List Text} {keyword : Text}
    (listed : keyword ∈ rules.map Prod.fst) (present : keywords.contains keyword = true) :
    resolve keywords ≠ .privateKind := by
  have classes : ∀ rule ∈ rules, rule.2 ≠ .privateKind := by decide
  obtain ⟨rule, isRule, rfl⟩ := List.mem_map.mp listed
  have isSome : (rules.find? fun r => keywords.contains r.1).isSome = true :=
    List.find?_isSome.mpr ⟨rule, isRule, present⟩
  obtain ⟨first, found⟩ := Option.isSome_iff_exists.mp isSome
  rw [resolve, found]
  exact classes first (List.mem_of_find?_eq_some found)

private theorem resolve_of_public {keywords : List Text}
    (present : keywords.contains "public" = true) :
    resolve keywords = .staticKind ∨ resolve keywords = .publicKind := by
  rw [resolve, rules, List.find?_cons]
  cases keywords.contains "static" with
  | true => exact Or.inl rfl
  | false =>
    rw [List.find?_cons, present]
    exact Or.inr rfl

end Modifier

namespace Declaration

theorem exists_name_of_isNamed {d : Declaration} (named : d.isNamed = true) :
    ∃ name, d.name = some name ∧ name ≠ [] := by
  rw [isNamed] at named
  split at named
  · exact ⟨_, ‹_›, List.cons_ne_nil _ _⟩
  · exact absurd named Bool.false_ne_true

private theorem resolve_of_visible_property {d : Declaration} (kind : d.kind = .property)
    (visible : d.isVisible = true) : Modifier.resolve d.modifiers ≠ .privateKind := by
  rw [isVisible, kind] at visible
  obtain ⟨keyword, required, present⟩ := List.any_eq_true.mp visible
  have listed : ∀ k ∈ [Text.ofString "public", Text.ofString "internal", Text.ofString "protected"],
      k ∈ Modifier.rules.map Prod.fst := by decide
  exact Modifier.resolve_ne_private (listed keyword required) present

private theorem resolve_of_visible_callable {d : Declaration}
    (kind : d.kind = .method ∨ d.kind = .constructor) (visible : d.isVisible = true) :
    Modifier.resolve d.modifiers = .staticKind ∨ Modifier.resolve d.modifiers = .publicKind := by
  have present : d.modifiers.contains "public" = true := by
    rcases kind with kind | kind
    all_goals
      rw [isVisible, kind] at visible
      simpa [requiredKeywords?] using visible
  exact Modifier.resolve_of_public present

end Declaration

namespace Model

open Declaration (Node Kind)

/-! ### Well-formed records

A record is well formed if no name, type or value in it is missing or empty, and no member in it has
a modifier class that its kind excludes. -/

structure Parameter.IsWellFormed (p : Parameter) : Prop where
  name : p.name ≠ []
  type : p.type ≠ []

structure Property.IsWellFormed (p : Property) : Prop where
  name : p.name ≠ []
  type : p.type ≠ []
  modifier : p.modifier ≠ .privateKind

structure Method.IsWellFormed (m : Method) : Prop where
  name : m.name ≠ []
  returnType : m.returnType ≠ []
  modifier : m.modifier = .staticKind ∨ m.modifier = .publicKind
  parameters : ∀ p ∈ m.parameters, p.IsWellFormed

structure Constructor.IsWellFormed (c : Constructor) : Prop where
  name : c.name ≠ []
  modifier : c.modifier = .staticKind ∨ c.modifier = .publicKind
  parameters : ∀ p ∈ c.parameters, p.IsWellFormed

structure EnumValue.IsWellFormed (v : EnumValue) : Prop where
  name : v.name ≠ []
  value : v.value ≠ []

structure ClassType.IsWellFormed (c : ClassType) : Prop where
  name : ∃ text, c.name = some text ∧ text ≠ []
  properties : ∀ p ∈ c.properties, p.IsWellFormed
  methods : ∀ m ∈ c.methods, m.IsWellFormed
  constructors : ∀ k ∈ c.constructors, k.IsWellFormed

structure InterfaceType.IsWellFormed (i : InterfaceType) : Prop where
  name : ∃ text, i.name = some text ∧ text ≠ []
  properties : ∀ p ∈ i.properties, p.IsWellFormed
  methods : ∀ m ∈ i.methods, m.IsWellFormed

structure EnumType.IsWellFormed (e : EnumType) : Prop where
  name : ∃ text, e.name = some text ∧ text ≠ []
  values : ∀ v ∈ e.values, v.IsWellFormed

structure Source.IsWellFormed (s : Source) : Prop where
  classes : ∀ c ∈ s.classes, c.IsWellFormed
  interfaces : ∀ i ∈ s.interfaces, i.IsWellFormed
  enums : ∀ e ∈ s.enums, e.IsWellFormed

/-! ### What is read of one node -/

private theorem orElse_ne_nil (t : Option Text) {substitute : Text} (nonempty : substitute ≠ []) :
    orElse t substitute ≠ [] := by
  unfold orElse
  split
  · exact List.cons_ne_nil _ _
  · exact nonempty

private theorem typeOf_ne_nil (node : Node) : typeOf node ≠ [] :=
  orElse_ne_nil _ (by decide)

private theorem enumValue_ne_nil (member : Node) : enumValue member ≠ [] := by
  rw [enumValue]
  split
  · exact orElse_ne_nil _ (by decide)
  · decide

private theorem nameOf_ne_nil {node : Node} (named : node.value.isNamed = true) :
    nameOf node ≠ [] := by
  obtain ⟨name, found, nonempty⟩ := Declaration.exists_name_of_isNamed named
  rw [nameOf, found]
  exact nonempty

theorem isNamed_of_mem_named {node : Node} {nodes : List Node} (member : node ∈ named nodes) :
    node.value.isNamed = true :=
  (List.mem_filter.mp member).2

private theorem nameOf_ne_nil_of_mem_eligible {container node : Node} {kind : Kind} {legacy : Bool}
    (member : node ∈ eligible container kind legacy) : nameOf node ≠ [] :=
  nameOf_ne_nil (isNamed_of_mem_named (List.mem_filter.mp member).1)

private theorem isVisible_of_mem_eligible {container node : Node} {kind : Kind} {legacy : Bool}
    (member : node ∈ eligible container kind legacy) : node.value.isVisible = true :=
  (List.mem_filter.mp member).2

/-! ### Members -/

private theorem isWellFormed_of_mem_parameters {node : Node} {p : Parameter}
    (member : p ∈ parameters node) :
    p.IsWellFormed := by
  obtain ⟨declared, found, rfl⟩ := List.mem_map.mp member
  exact ⟨nameOf_ne_nil (isNamed_of_mem_named found), typeOf_ne_nil declared⟩

section Containers

variable {container : Node} {legacy : Bool}

private theorem isWellFormed_of_mem_properties {p : Property}
    (member : p ∈ properties container legacy) :
    p.IsWellFormed := by
  obtain ⟨node, found, rfl⟩ := List.mem_map.mp member
  exact {
    name := nameOf_ne_nil_of_mem_eligible found
    type := typeOf_ne_nil node
    modifier := Declaration.resolve_of_visible_property (kind_of_mem_eligible found)
      (isVisible_of_mem_eligible found) }

private theorem isWellFormed_of_mem_methods {m : Method} (member : m ∈ methods container legacy) :
    m.IsWellFormed := by
  obtain ⟨node, found, rfl⟩ := List.mem_map.mp member
  exact {
    name := nameOf_ne_nil_of_mem_eligible found
    returnType := typeOf_ne_nil node
    modifier := Declaration.resolve_of_visible_callable (Or.inl (kind_of_mem_eligible found))
      (isVisible_of_mem_eligible found)
    parameters := fun _ => isWellFormed_of_mem_parameters }

private theorem isWellFormed_of_mem_constructors {c : Constructor}
    (member : c ∈ constructors container legacy) : c.IsWellFormed := by
  obtain ⟨node, found, rfl⟩ := List.mem_map.mp member
  exact {
    name := nameOf_ne_nil_of_mem_eligible found
    modifier := Declaration.resolve_of_visible_callable (Or.inr (kind_of_mem_eligible found))
      (isVisible_of_mem_eligible found)
    parameters := fun _ => isWellFormed_of_mem_parameters }

private theorem isWellFormed_of_mem_enumValues {v : EnumValue} (member : v ∈ enumValues container) :
    v.IsWellFormed := by
  obtain ⟨node, found, rfl⟩ := List.mem_map.mp member
  exact ⟨nameOf_ne_nil (isNamed_of_mem_named found), enumValue_ne_nil node⟩

end Containers

/-! ### Outlines -/

private theorem build_isWellFormed (root : Node) (path : Text) (legacy : Bool) :
    (build root path legacy).IsWellFormed where
  classes := by
    intro c member
    obtain ⟨node, found, rfl⟩ := List.mem_map.mp member
    exact {
      name := Declaration.exists_name_of_isNamed (isNamed_of_mem_named found)
      properties := fun _ => isWellFormed_of_mem_properties
      methods := fun _ => isWellFormed_of_mem_methods
      constructors := fun _ => isWellFormed_of_mem_constructors }
  interfaces := by
    intro i member
    obtain ⟨node, found, rfl⟩ := List.mem_map.mp member
    exact {
      name := Declaration.exists_name_of_isNamed (isNamed_of_mem_named found)
      properties := fun _ => isWellFormed_of_mem_properties
      methods := fun _ => isWellFormed_of_mem_methods }
  enums := by
    intro e member
    obtain ⟨node, found, rfl⟩ := List.mem_map.mp member
    exact {
      name := Declaration.exists_name_of_isNamed (isNamed_of_mem_named found)
      values := fun _ => isWellFormed_of_mem_enumValues }

private theorem length_named_ofKind (kind : Kind) (nodes : List Node) :
    (named (ofKind kind nodes)).length =
      nodes.countP fun node => decide (node.value.kind = kind) && node.value.isNamed := by
  rw [named_ofKind, List.countP_eq_length_filter]

private theorem countP_types (nodes : List Node) :
    nodes.countP (fun node => node.value.kind.isType && node.value.isNamed) =
      (named (ofKind .classType nodes)).length + (named (ofKind .interfaceType nodes)).length +
        (named (ofKind .enumType nodes)).length := by
  rw [length_named_ofKind, length_named_ofKind, length_named_ofKind]
  induction nodes with
  | nil => rfl
  | cons node nodes ih =>
    simp only [List.countP_cons, ih]
    cases node.value.kind <;> simp [Kind.isType] <;> omega

private theorem declarationCount_build (root : Node) (path : Text) (legacy : Bool) :
    (build root path legacy).declarationCount =
      root.preorder.countP fun node => node.value.kind.isType && node.value.isNamed := by
  rw [← Tree.descendants_eq_preorder, countP_types]
  simp only [Source.declarationCount, build, declarations, List.length_map]

/-- In every outline names, types and values are there and not empty, properties are not private,
and methods and constructors are static or public. It has as many types as the tree has named types
below its root, and is empty exactly if there are none. -/
theorem build_wellFormed_and_counted (root : Node) (path : Text) (legacy : Bool) :
    let source := build root path legacy
    source.IsWellFormed ∧
      source.declarationCount =
        root.preorder.countP (fun node => node.value.kind.isType && node.value.isNamed) ∧
      (source.isEmpty = true ↔
        ¬∃ node ∈ root.preorder, node.value.kind.isType = true ∧ node.value.isNamed = true) := by
  intro source
  have count := declarationCount_build root path legacy
  refine ⟨build_isWellFormed root path legacy, count, ?_⟩
  rw [Source.isEmpty, beq_iff_eq, count, List.countP_eq_zero]
  simp only [Bool.and_eq_true, not_exists, not_and]

end Model

end Outline
