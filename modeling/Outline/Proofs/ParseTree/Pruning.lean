import Outline.Proofs.Extraction.Overflow
import Outline.Proofs.Model.Essentials
import Outline.Proofs.Model.Scoping

/-!
What bodies hide and show.
-/

set_option autoImplicit false

/-! ## Bodies are opaque while they are closed

Pruning takes away from a parse tree all that closed bodies hide: everything below a field, an
event, an attribute or the like, and everything of a property, parameter, method or constructor but
the parts of its signature. What shows of a pruned tree is the image of what shows of the tree, and
a node and its pruning have the same essentials. So a tree and its pruning have the same outline, or
the same failure, whatever was taken away.
-/

namespace Outline.ParseTree

open Declaration (Kind Initializer essentials)

/-- What a node keeps of its children when it is pruned: all of them, or those that fill one of
several fields and perhaps the modifiers. -/
inductive Kept
  | all
  | parts (modifiers : Bool) (fields : List Text)
  deriving DecidableEq, Repr

namespace Kept

def keeps : Kept → Part → Bool
  | all, _ => true
  | parts modifiers fields, child =>
    modifiers && decide (child.type = Text.ofString "modifier")
      || fields.any fun field => decide (child.field = some field)

def keepsField (field : Text) : Kept → Bool
  | all => true
  | parts _ fields => fields.contains field

def keepsModifiers : Kept → Bool
  | all => true
  | parts modifiers _ => modifiers

private theorem keeps_of_keepsField {kept : Kept} {field : Text} (h : kept.keepsField field = true)
    {child : Part} (same : child.field = some field) : kept.keeps child = true := by
  cases kept with
  | all => rfl
  | parts modifiers fields =>
    have found : fields.any (fun f => decide (child.field = some f)) = true :=
      List.any_eq_true.mpr ⟨field, List.contains_iff_mem.mp h, decide_eq_true same⟩
    rw [keeps, found, Bool.or_true]

private theorem keeps_of_keepsModifiers {kept : Kept} (h : kept.keepsModifiers = true)
    {child : Part} (same : child.type = Text.ofString "modifier") : kept.keeps child = true := by
  cases kept with
  | all => rfl
  | parts modifiers fields =>
    obtain rfl : modifiers = true := h
    rw [keeps, decide_eq_true same]
    rfl

end Kept

def kept (type : Text) : Kept :=
  if closedTypes.contains type ∨ type = implicitParameter then .parts false []
  else if type = Text.ofString "property_declaration" then .parts true ["name", "type"]
  else if type = Text.ofString "parameter" then .parts false ["name", "type"]
  else if type = Text.ofString "method_declaration"
      ∨ type = Text.ofString "constructor_declaration" then
    .parts true ["name", "returns", "type", "parameters"]
  else .all

mutual

/-- A tree without what closed bodies hide, at every depth. -/
def prune : ParseTree → ParseTree
  | .node part children => .node part (pruneAll part.type children)

def pruneAll (type : Text) : List ParseTree → List ParseTree
  | [] => []
  | tree :: trees =>
    if (kept type).keeps tree.value then prune tree :: pruneAll type trees
    else pruneAll type trees

end

@[simp] theorem value_prune (tree : ParseTree) : (prune tree).value = tree.value := by
  cases tree with
  | node part children => rw [prune, Tree.value_node, Tree.value_node]

private theorem pruneAll_eq (type : Text) (trees : List ParseTree) :
    pruneAll type trees = (trees.filter fun tree => (kept type).keeps tree.value).map prune := by
  induction trees with
  | nil => rw [pruneAll, List.filter_nil, List.map_nil]
  | cons tree trees ih =>
    rw [pruneAll, ih, List.filter_cons]
    split_ifs <;> rfl

private theorem children_prune (tree : ParseTree) :
    (prune tree).children =
      (tree.children.filter fun child => (kept tree.value.type).keeps child.value).map prune := by
  cases tree with
  | node part children =>
    rw [prune, Tree.children_node, Tree.children_node, Tree.value_node, pruneAll_eq]

private theorem text?_prune (tree : ParseTree) : text? (prune tree) = text? tree := by
  rw [text?, text?, value_prune]

/-! ### What is kept -/

private theorem mem_kinds_of_kindOf {type : Text} {kind : Kind} (same : kindOf type = kind)
    (other : kind ≠ .other) : (type, kind) ∈ kinds := by
  rw [kindOf] at same
  split at same
  · next entry found =>
    have member := List.mem_of_find?_eq_some found
    have pass := List.find?_some found
    have type_eq : entry.1 = type := of_decide_eq_true pass
    rw [← same, ← type_eq]
    exact member
  · exact absurd same.symm other

private theorem kept_table : ∀ entry ∈ kinds,
    (entry.1 = implicitParameter ∨ (kept entry.1).keepsField "name" = true) ∧
    (entry.2 = .parameter ∨ (kept entry.1).keepsModifiers = true) ∧
    (entry.2 ≠ .enumMember ∨ kept entry.1 = .all) ∧
    ((entry.2 ≠ .method ∧ entry.2 ≠ .constructor) ∨
      (kept entry.1).keepsField "parameters" = true) := by
  decide

private theorem keepsField_name {type : Text} (other : kindOf type ≠ .other)
    (implicit : type ≠ implicitParameter) : (kept type).keepsField "name" = true :=
  (kept_table _ (mem_kinds_of_kindOf rfl other)).1.resolve_left implicit

private theorem keepsModifiers_of_kind {type : Text} (other : kindOf type ≠ .other)
    (parameter : kindOf type ≠ .parameter) : (kept type).keepsModifiers = true :=
  (kept_table _ (mem_kinds_of_kindOf rfl other)).2.1.resolve_left parameter

private theorem kept_enumMember {type : Text} (member : kindOf type = .enumMember) :
    kept type = .all :=
  (kept_table _ (mem_kinds_of_kindOf member (by decide))).2.2.1.resolve_left fun ne => ne rfl

private theorem keepsField_of_mem_typeFields {type field : Text}
    (member : field ∈ typeFields type) :
    (kept type).keepsField field = true := by
  rw [typeFields] at member
  split_ifs at member with method other
  · subst method
    revert member
    exact (by decide : ∀ field ∈ [Text.ofString "returns", Text.ofString "type"],
      (kept (Text.ofString "method_declaration")).keepsField field = true) field
  · obtain rfl := List.mem_singleton.mp member
    rcases other with rfl | rfl <;> decide
  · exact absurd member List.not_mem_nil

private theorem kept_of_namedNodes {type : Text} (shows : exposure false type = .namedNodes) :
    kept type = .all := by
  have closed : ∀ type ∈ closedTypes, exposure false type ≠ .namedNodes := by decide
  rw [kept]
  split_ifs with hidden property parameter method
  · rcases hidden with hidden | rfl
    · exact absurd shows (closed type (List.contains_iff_mem.mp hidden))
    · exact absurd shows (by decide)
  · exact absurd shows (by rw [property]; decide)
  · exact absurd shows (by rw [parameter]; decide)
  · rcases method with rfl | rfl <;> exact absurd shows (by decide)
  · rfl

private theorem keepsField_of_parameterList {type : Text}
    (shows : exposure false type = .parameterList) :
    (kept type).keepsField "parameters" = true := by
  have callable : kindOf type = .method ∨ kindOf type = .constructor := by
    rw [exposure] at shows
    split at shows <;> simp_all
    split_ifs at shows
  have other : kindOf type ≠ .other := by
    rcases callable with kind | kind <;> rw [kind] <;> decide
  refine (kept_table _ (mem_kinds_of_kindOf rfl other)).2.2.2.resolve_left fun ⟨method, constr⟩ =>
    ?_
  exact callable.elim method constr

/-! ### What shows of a pruned tree -/

mutual

/-- What shows of a pruned tree is the pruning of what shows of the tree. -/
theorem expose_prune : (tree : ParseTree) →
    expose false (prune tree) = (expose false tree).map prune
  | .node part children => by
    rw [prune, expose, expose, Tree.map, prune]
    congr 1
    cases shows : exposure false part.type with
    | nothing => rw [Tree.mapAll]
    | parameterList =>
      exact exposeParameters_prune (keepsField_of_parameterList shows) children
    | namedNodes =>
      exact exposeNamed_prune (kept_of_namedNodes shows) children

private theorem exposeNamed_prune {type : Text} (all : kept type = .all) :
    (trees : List ParseTree) →
    exposeNamed false (pruneAll type trees) = Tree.mapAll prune (exposeNamed false trees)
  | [] => by rw [pruneAll, exposeNamed, Tree.mapAll]
  | tree :: trees => by
    have keep : (kept type).keeps tree.value = true := by rw [all]; rfl
    rw [pruneAll, if_pos keep, exposeNamed, exposeNamed, value_prune, expose_prune tree,
      exposeNamed_prune all trees]
    split_ifs
    · rw [Tree.mapAll]
    · rfl

private theorem exposeParameters_prune {type : Text}
    (keep : (kept type).keepsField "parameters" = true) :
    (trees : List ParseTree) →
    exposeParameters false (pruneAll type trees) =
      Tree.mapAll prune (exposeParameters false trees)
  | [] => by rw [pruneAll, exposeParameters, Tree.mapAll]
  | tree :: trees => by
    have rest := exposeParameters_prune keep trees
    rw [pruneAll, exposeParameters]
    by_cases list : tree.value.field = some (Text.ofString "parameters")
    · rw [if_pos (Kept.keeps_of_keepsField keep list), exposeParameters, value_prune,
        if_pos list, if_pos list, expose_prune tree, Tree.mapAll, Tree.mapAll]
    · rw [if_neg list, ← rest]
      split_ifs
      · rw [exposeParameters, value_prune, if_neg list]
      · rfl

end

/-! ### What is read of a pruned node -/

private theorem field?_prune {tree : ParseTree} {field : Text}
    (keep : (kept tree.value.type).keepsField field = true) :
    field? field (prune tree) = (field? field tree).map prune := by
  rw [field?, field?, children_prune, List.find?_map, List.find?_filter]
  congr 2
  funext child
  rw [Function.comp_apply, value_prune]
  by_cases same : child.value.field = some field
  · simp [same, Kept.keeps_of_keepsField keep same]
  · simp [same]

private theorem nameOf_prune {tree : ParseTree} (other : kindOf tree.value.type ≠ .other) :
    nameOf (prune tree) = nameOf tree := by
  rw [nameOf, nameOf, value_prune, text?_prune]
  by_cases implicit : tree.value.type = implicitParameter
  · rw [if_pos implicit, if_pos implicit]
  · rw [if_neg implicit, if_neg implicit, field?_prune (keepsField_name other implicit)]
    cases field? "name" tree with
    | none => rfl
    | some child => exact congrArg Text.nonEmpty (text?_prune child)

private theorem modifiersOf_prune {tree : ParseTree} (other : kindOf tree.value.type ≠ .other)
    (parameter : kindOf tree.value.type ≠ .parameter) :
    modifiersOf (prune tree) = modifiersOf tree := by
  have keep := keepsModifiers_of_kind other parameter
  have kept_modifier : ∀ child : ParseTree,
      (decide (child.value.type = Text.ofString "modifier") &&
        (kept tree.value.type).keeps child.value) =
          decide (child.value.type = Text.ofString "modifier") := by
    intro child
    by_cases same : child.value.type = Text.ofString "modifier"
    · rw [decide_eq_true same, Kept.keeps_of_keepsModifiers keep same, Bool.and_true]
    · rw [decide_eq_false same, Bool.false_and]
  rw [modifiersOf, modifiersOf, children_prune, List.filter_map, List.filter_filter,
    List.filterMap_map]
  simp only [Function.comp_def, value_prune, text?_prune, kept_modifier]

private theorem typeOf_prune (tree : ParseTree) : typeOf (prune tree) = typeOf tree := by
  have found : ∀ fields ⊆ typeFields tree.value.type,
      fields.findSome? (fun field => field? field (prune tree)) =
        (fields.findSome? fun field => field? field tree).map prune := by
    intro fields subset
    induction fields with
    | nil => rfl
    | cons field fields ih =>
      have keep := keepsField_of_mem_typeFields (subset List.mem_cons_self)
      rw [List.findSome?_cons, List.findSome?_cons, field?_prune keep]
      cases field? field tree with
      | none => exact ih fun f member => subset (List.mem_cons_of_mem field member)
      | some child => rfl
  rw [typeOf, typeOf, value_prune, found _ (List.Subset.refl _)]
  cases (typeFields tree.value.type).findSome? fun field => field? field tree with
  | none => rfl
  | some child => exact text?_prune child

private theorem namedChildren_prune {tree : ParseTree} (all : kept tree.value.type = .all) :
    namedChildren (prune tree) = (namedChildren tree).map prune := by
  have everything : tree.children.filter (fun child => (kept tree.value.type).keeps child.value) =
      tree.children := List.filter_eq_self.mpr fun child _ => by rw [all]; rfl
  rw [namedChildren, namedChildren, children_prune, everything, List.filter_map]
  simp only [Function.comp_def, value_prune]

private theorem initializerNode?_prune {tree : ParseTree} (all : kept tree.value.type = .all) :
    initializerNode? (prune tree) = (initializerNode? tree).map prune := by
  have keep : (kept tree.value.type).keepsField "value" = true := by rw [all]; rfl
  have clause : kept (Text.ofString "equals_value_clause") = .all := by decide
  rw [initializerNode?, initializerNode?, field?_prune keep, namedChildren_prune all]
  cases field? "value" tree with
  | some expression => rfl
  | none =>
    simp only [Option.map_none, List.map_findSome?, List.filter_map, List.findSome?_map,
      Function.comp_def, value_prune]
    rw [← List.head?_filterMap, ← List.head?_filterMap]
    refine congrArg List.head? (List.filterMap_congr fun child member => ?_)
    have type : child.value.type = Text.ofString "equals_value_clause" :=
      of_decide_eq_true (List.mem_filter.mp member).2
    rw [namedChildren_prune (type ▸ clause), List.head?_map]

private theorem initializerOf_prune (tree : ParseTree) :
    initializerOf (prune tree) = initializerOf tree := by
  rw [initializerOf, initializerOf, value_prune]
  by_cases member : kindOf tree.value.type = .enumMember
  · rw [if_pos member, if_pos member, initializerNode?_prune (kept_enumMember member),
      Option.map_map]
    congr 1
    funext expression
    simp only [Function.comp_apply, value_prune, text?_prune]
  · rw [if_neg member, if_neg member]

private theorem essentials_declaration_prune (tree : ParseTree) :
    essentials (declaration (prune tree)) = essentials (declaration tree) := by
  have kind : (declaration (prune tree)).kind = kindOf tree.value.type := by
    rw [declaration, value_prune]
  by_cases other : kindOf tree.value.type = .other
  · rw [Declaration.essentials_of_other (kind.trans other),
      Declaration.essentials_of_other (d := declaration tree) other]
  · by_cases parameter : kindOf tree.value.type = .parameter
    · rw [Declaration.essentials_of_parameter (kind.trans parameter),
        Declaration.essentials_of_parameter (d := declaration tree) parameter]
      simp only [declaration, nameOf_prune other, typeOf_prune]
    · rw [Declaration.essentials_of_ne (kind ▸ other) (kind ▸ parameter),
        Declaration.essentials_of_ne (d := declaration tree) other parameter]
      simp only [declaration, value_prune, nameOf_prune other, modifiersOf_prune other parameter,
        typeOf_prune, initializerOf_prune]

private theorem core_view_prune (tree : ParseTree) :
    Model.core (view false (prune tree)) = Model.core (view false tree) := by
  rw [Model.core, Model.core, view, view, expose_prune, Tree.map_map, Tree.map_map, Tree.map_map]
  congr 1
  funext node
  exact essentials_declaration_prune node

private theorem outline_prune (tree : ParseTree) (path : Text) :
    Extraction.outline (prune tree) path false = Extraction.outline tree path false := by
  rw [Extraction.outline, Extraction.outline, ← Model.buildOverflows_core (view false (prune tree)),
    ← Model.build_core (view false (prune tree)), core_view_prune, Model.buildOverflows_core,
    Model.build_core]

/-- While bodies are closed, extraction from a tree and from its pruning end alike, and so do
extractions from any two trees that have one pruning. -/
theorem extractTree_prune (tree : ParseTree) (path : Text) :
    (Extraction.extractTree (prune tree) path false).result =
        (Extraction.extractTree tree path false).result ∧
      ∀ other, prune other = prune tree →
        (Extraction.extractTree other path false).result =
          (Extraction.extractTree tree path false).result := by
  simp only [Extraction.result_extractTree]
  refine ⟨outline_prune tree path, fun other same => ?_⟩
  rw [← outline_prune other path, same, outline_prune tree path]

def classWithBody (body : List ParseTree) : ParseTree :=
  .node { type := "compilation_unit" }
    [.node { type := "class_declaration" }
      [Extraction.leaf "identifier" "C" "name",
        .node { type := "method_declaration" }
          [.node { type := "modifier", bytes := some (Utf8.encodeLoose "public") } [],
            Extraction.leaf "predefined_type" "void" "returns",
            Extraction.leaf "identifier" "M" "name",
            .node { type := "block", field := some (Text.ofString "body") } body]]]

theorem extractTree_class_in_body :
    prune (classWithBody [classWithBody []]) = prune (classWithBody []) ∧
      (Extraction.extractTree (classWithBody [classWithBody []]) "F.cs" false).result =
        (Extraction.extractTree (classWithBody []) "F.cs" false).result :=
  ⟨rfl, (extractTree_prune (classWithBody []) "F.cs").2 _ rfl⟩

end Outline.ParseTree

/-! ## What open bodies add

With open bodies every named child of a node shows, with closed ones some of them, or the parameter
list alone. So as long as parameter lists are named nodes, what closed bodies show of a parse tree
embeds in what open ones show of it, and the default outline is a part of the one under legacy
scoping.
-/

namespace Outline.ParseTree

open Declaration (Kind)
open List (SublistForall₂)
open Outline.Tree (Embeds)

/-- Whether the parameter list of every method and constructor in a tree, where it has one, is more
than punctuation. -/
def HasNamedParameterLists (tree : ParseTree) : Prop :=
  ∀ node ∈ tree :: tree.preorder,
    node.value.type = Text.ofString "method_declaration" ∨
        node.value.type = Text.ofString "constructor_declaration" →
      (node.field? "parameters").all (fun list => list.value.named) = true

instance (tree : ParseTree) : Decidable tree.HasNamedParameterLists :=
  inferInstanceAs (Decidable (∀ node ∈ tree :: tree.preorder, _ → _ = true))

private theorem HasNamedParameterLists.of_mem {part : Part} {children : List ParseTree}
    {child : ParseTree}
    (named : HasNamedParameterLists (.node part children)) (member : child ∈ children) :
    child.HasNamedParameterLists := by
  intro node found
  refine named node (List.mem_cons_of_mem _ ?_)
  rw [Tree.preorder]
  exact Tree.mem_preorders_of_mem member found

private theorem type_of_callable : ∀ entry ∈ kinds, entry.2 = .method ∨ entry.2 = .constructor →
    entry.1 = Text.ofString "method_declaration" ∨
      entry.1 = Text.ofString "constructor_declaration" := by
  decide

private theorem exposure_cases (type : Text) :
    exposure false type = .nothing ∨ exposure true type = .namedNodes ∧
      (exposure false type = .namedNodes ∨ exposure false type = .parameterList ∧
        (type = Text.ofString "method_declaration" ∨
          type = Text.ofString "constructor_declaration")) := by
  have callable : kindOf type = .method ∨ kindOf type = .constructor →
      type = Text.ofString "method_declaration" ∨ type =
        Text.ofString "constructor_declaration" := by
    intro kind
    have other : kindOf type ≠ .other := by rcases kind with kind | kind <;> simp [kind]
    exact type_of_callable _ (mem_kinds_of_kindOf rfl other) kind
  cases kind : kindOf type with
  | parameter | enumMember | property => simp [exposure, kind]
  | method | constructor =>
    refine .inr ⟨by simp [exposure, kind], .inr ⟨by simp [exposure, kind], callable ?_⟩⟩
    simp [kind]
  | classType | interfaceType | enumType | otherType | other =>
    simp only [exposure, kind, Bool.not_false, Bool.true_and, Bool.not_true, Bool.false_and]
    by_cases shut : closedTypes.contains type = true
    · exact .inl (if_pos shut)
    · exact .inr ⟨if_neg Bool.false_ne_true, .inl (if_neg shut)⟩

mutual

private theorem embeds_expose : (tree : ParseTree) → tree.HasNamedParameterLists →
    Embeds (expose false tree) (expose true tree)
  | .node part children, named => by
    have below : ∀ child ∈ children, HasNamedParameterLists child := fun _ => named.of_mem
    rw [expose, expose]
    refine .node _ ?_
    rcases exposure_cases part.type with shut | ⟨allShow, same | ⟨list, callable⟩⟩
    · rw [shut]
      exact .nil
    · rw [same, allShow]
      exact embeds_exposeNamed children below
    · rw [list, allShow]
      have first := named _ List.mem_cons_self callable
      exact embeds_exposeParameters children below first

private theorem embeds_exposeNamed : (trees : List ParseTree) →
    (∀ tree ∈ trees, tree.HasNamedParameterLists) →
    SublistForall₂ Embeds (exposeNamed false trees) (exposeNamed true trees)
  | [], _ => by
    rw [exposeNamed]
    exact .nil
  | tree :: trees, named => by
    have rest := embeds_exposeNamed trees fun other member =>
      named other (List.mem_cons_of_mem _ member)
    rw [exposeNamed, exposeNamed]
    split_ifs
    · exact .cons (embeds_expose tree (named tree List.mem_cons_self)) rest
    · exact rest

private theorem embeds_exposeParameters : (trees : List ParseTree) →
    (∀ tree ∈ trees, tree.HasNamedParameterLists) →
    (trees.find? fun child => decide (child.value.field = some (Text.ofString "parameters"))).all
      (fun list => list.value.named) = true →
    SublistForall₂ Embeds (exposeParameters false trees) (exposeNamed true trees)
  | [], _, _ => by
    rw [exposeParameters]
    exact .nil
  | tree :: trees, named, first => by
    rw [exposeParameters, exposeNamed]
    by_cases list : tree.value.field = some (Text.ofString "parameters")
    · have shown : tree.value.named = true := by simpa [List.find?_cons, list] using first
      rw [if_pos list, if_pos shown]
      exact .cons (embeds_expose tree (named tree List.mem_cons_self)) .nil
    · rw [List.find?_cons, decide_eq_false list] at first
      have rest := embeds_exposeParameters trees
        (fun other member => named other (List.mem_cons_of_mem _ member)) first
      rw [if_neg list]
      split_ifs
      · exact .cons_right rest
      · exact rest

end

private theorem embeds_view {tree : ParseTree} (named : tree.HasNamedParameterLists) :
    Embeds (tree.view false) (tree.view true) :=
  Embeds.map declaration _ (embeds_expose tree named)

theorem eq_build_of_extractTree {tree : ParseTree} {path : Text} {legacy : Bool}
    {model : Model.Source} (found : (Extraction.extractTree tree path legacy).result = .ok model) :
    model = Model.build (tree.view legacy) path legacy := by
  rw [Extraction.result_extractTree, Extraction.outline] at found
  split_ifs at found
  exact (Except.ok.inj found).symm

/-- Legacy scoping only adds: where both extractions from a tree return, the default outline is a
part of the legacy one, type by type and member by member, in order. -/
theorem extractTree_isPartOf_legacy (tree : ParseTree) (path : Text)
    (named : tree.HasNamedParameterLists) (standard legacy : Model.Source)
    (byDefault : (Extraction.extractTree tree path false).result = .ok standard)
    (underLegacy : (Extraction.extractTree tree path true).result = .ok legacy) :
    standard.IsPartOf legacy := by
  rw [eq_build_of_extractTree byDefault, eq_build_of_extractTree underLegacy]
  exact Model.build_isPartOf (embeds_view named) path

/-- A class with a method of one parameter, whose body is a lambda with another, and with a struct
that has a property. -/
def classWithLambda : ParseTree :=
  let keyword : ParseTree := .node { type := "modifier", bytes := some (Utf8.encodeLoose "public") }
    []
  .node { type := "compilation_unit" }
    [.node { type := "class_declaration" }
      [Extraction.leaf "identifier" "C" "name",
        .node { type := "method_declaration" }
          [keyword, Extraction.leaf "identifier" "M" "name",
            .node { type := "parameter_list", field := some (Text.ofString "parameters") }
              [.node { type := "parameter" } [Extraction.leaf "identifier" "a" "name"]],
            .node { type := "block" } [Extraction.leaf "implicit_parameter" "x" "parameters"]],
        .node { type := "struct_declaration" }
          [.node { type := "property_declaration" }
            [keyword, Extraction.leaf "identifier" "P" "name"]]]]

/-- Legacy scoping gives the class the property of the struct, and its method the parameter of the
lambda. -/
theorem extractTree_classWithLambda :
    let standard := Model.build (classWithLambda.view false) "F.cs" false
    let legacy := Model.build (classWithLambda.view true) "F.cs" true
    classWithLambda.HasNamedParameterLists ∧
      (Extraction.extractTree classWithLambda "F.cs" false).result = .ok standard ∧
      (Extraction.extractTree classWithLambda "F.cs" true).result = .ok legacy ∧
      standard.classes.map (fun c => (c.properties.length, c.methods.map (·.parameters.length))) =
        [(0, [1])] ∧
      legacy.classes.map (fun c => (c.properties.length, c.methods.map (·.parameters.length))) =
        [(1, [2])] ∧
      standard.IsPartOf legacy := by
  have named : classWithLambda.HasNamedParameterLists := by decide
  have byDefault : (Extraction.extractTree classWithLambda "F.cs" false).result =
      .ok (Model.build (classWithLambda.view false) "F.cs" false) := by
    rw [Extraction.result_extractTree]
    decide +kernel
  have underLegacy : (Extraction.extractTree classWithLambda "F.cs" true).result =
      .ok (Model.build (classWithLambda.view true) "F.cs" true) := by
    rw [Extraction.result_extractTree]
    decide +kernel
  refine ⟨named, byDefault, underLegacy, by decide +kernel, by decide +kernel, ?_⟩
  exact extractTree_isPartOf_legacy classWithLambda "F.cs" named _ _ byDefault underLegacy

end Outline.ParseTree
