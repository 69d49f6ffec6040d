import Mathlib.Data.List.Basic
import Outline.ParseTree
import Outline.Proofs.Tree.Scopes
import Outline.Proofs.Tree.Walk

/-!
Walks over parse trees.
-/

set_option autoImplicit false

/-! ## Parse trees with the ranges of a text

In the tree of a source the text of each node lies inside the text of its parent, and siblings come
one behind the other. Then the nodes of the tree, listed in pre-order, are in the order in which
their texts start. What shows of the tree is listed in the same order, whether bodies are open or
closed.
-/

namespace Outline.ParseTree

/-- Whether each child of a node spans a stretch of the node's text, from the end of the child
before it on. -/
def HasOrderedChildren (node : ParseTree) : Prop :=
  (∀ child ∈ node.children, node.value.start ≤ child.value.start ∧
      child.value.start ≤ child.value.stop ∧ child.value.stop ≤ node.value.stop) ∧
    node.children.IsChain fun left right => left.value.stop ≤ right.value.start

def HasOrderedRanges (tree : ParseTree) : Prop :=
  ∀ node ∈ tree :: tree.preorder, node.HasOrderedChildren

instance (node : ParseTree) : Decidable node.HasOrderedChildren :=
  inferInstanceAs (Decidable (_ ∧ _))

instance (tree : ParseTree) : Decidable tree.HasOrderedRanges :=
  inferInstanceAs (Decidable (∀ node ∈ tree :: tree.preorder, node.HasOrderedChildren))

/-! ### The nodes of a tree -/

private theorem HasOrderedRanges.of_mem_children {tree child : ParseTree}
    (ordered : tree.HasOrderedRanges)
    (member : child ∈ tree.children) : child.HasOrderedRanges := by
  cases tree with
  | node part children =>
    intro node found
    apply ordered node
    rw [Tree.preorder]
    exact List.mem_cons_of_mem _ (Tree.mem_preorders_of_mem member found)

theorem HasOrderedRanges.of_mem {tree node : ParseTree} (ordered : tree.HasOrderedRanges)
    (member : node ∈ tree :: tree.preorder) : node.HasOrderedRanges := by
  intro below found
  apply ordered below
  rcases List.mem_cons.mp member with rfl | inside
  · exact found
  · apply List.mem_cons_of_mem
    rcases List.mem_cons.mp found with rfl | deeper
    · exact inside
    · exact (Tree.preorder_isInfix tree inside).subset deeper

private theorem stop_le_start_of_isChain {first : ParseTree} {rest : List ParseTree}
    (proper : ∀ sibling ∈ rest, sibling.value.start ≤ sibling.value.stop)
    (chain : (first :: rest).IsChain fun left right => left.value.stop ≤ right.value.start) :
    ∀ sibling ∈ rest, first.value.stop ≤ sibling.value.start := by
  induction rest generalizing first with
  | nil => exact fun sibling member => absurd member List.not_mem_nil
  | cons second rest ih =>
    obtain ⟨next, later⟩ := List.isChain_cons_cons.mp chain
    have behind := ih (fun sibling member => proper sibling (List.mem_cons_of_mem _ member)) later
    have range := proper second List.mem_cons_self
    intro sibling member
    rcases List.mem_cons.mp member with rfl | member
    · exact next
    · have := behind sibling member
      omega

mutual

private theorem start_of_mem_preorder : (tree : ParseTree) → tree.HasOrderedRanges →
    ∀ node ∈ tree.preorder,
      tree.value.start ≤ node.value.start ∧ node.value.start ≤ tree.value.stop
  | .node part children, ordered, node, member => by
    have here := (ordered _ List.mem_cons_self).1
    rw [Tree.preorder] at member
    obtain ⟨child, among, inside⟩ := start_of_mem_preorders children
      (fun child among => ordered.of_mem_children among)
      (fun child among => (here child among).2.1) node member
    have within := here child among
    simp only [Tree.value_node] at within ⊢
    omega

private theorem start_of_mem_preorders : (trees : List ParseTree) →
    (∀ tree ∈ trees, tree.HasOrderedRanges) →
    (∀ tree ∈ trees, tree.value.start ≤ tree.value.stop) → ∀ node ∈ Tree.preorders trees,
      ∃ tree ∈ trees, tree.value.start ≤ node.value.start ∧ node.value.start ≤ tree.value.stop
  | [], _, _, node, member => by
    rw [Tree.preorders] at member
    exact absurd member List.not_mem_nil
  | tree :: trees, ordered, proper, node, member => by
    rw [Tree.preorders] at member
    rcases List.mem_cons.mp member with rfl | member
    · exact ⟨node, List.mem_cons_self, Nat.le_refl _, proper node List.mem_cons_self⟩
    · rcases List.mem_append.mp member with below | later
      · exact ⟨tree, List.mem_cons_self,
          start_of_mem_preorder tree (ordered tree List.mem_cons_self) node below⟩
      · obtain ⟨other, among, inside⟩ := start_of_mem_preorders trees
          (fun other among => ordered other (List.mem_cons_of_mem _ among))
          (fun other among => proper other (List.mem_cons_of_mem _ among)) node later
        exact ⟨other, List.mem_cons_of_mem _ among, inside⟩

end

mutual

private theorem pairwise_preorder : (tree : ParseTree) → tree.HasOrderedRanges →
    tree.preorder.Pairwise fun left right => left.value.start ≤ right.value.start
  | .node part children, ordered => by
    obtain ⟨within, chain⟩ := ordered _ List.mem_cons_self
    rw [Tree.preorder]
    exact pairwise_preorders children (fun child among => ordered.of_mem_children among)
      (fun child among => (within child among).2.1) chain

private theorem pairwise_preorders :
    (trees : List ParseTree) → (∀ tree ∈ trees, tree.HasOrderedRanges) →
    (∀ tree ∈ trees, tree.value.start ≤ tree.value.stop) →
    trees.IsChain (fun left right => left.value.stop ≤ right.value.start) →
    (Tree.preorders trees).Pairwise fun left right => left.value.start ≤ right.value.start
  | [], _, _, _ => by
    rw [Tree.preorders]
    exact List.Pairwise.nil
  | tree :: trees, ordered, proper, chain => by
    have orderedLater : ∀ other ∈ trees, other.HasOrderedRanges :=
      fun other among => ordered other (List.mem_cons_of_mem _ among)
    have properLater : ∀ other ∈ trees, other.value.start ≤ other.value.stop :=
      fun other among => proper other (List.mem_cons_of_mem _ among)
    have range := proper tree List.mem_cons_self
    have inside := start_of_mem_preorder tree (ordered tree List.mem_cons_self)
    have behind : ∀ node ∈ Tree.preorders trees, tree.value.stop ≤ node.value.start := by
      intro node later
      obtain ⟨other, among, after, -⟩ :=
        start_of_mem_preorders trees orderedLater properLater node later
      have := stop_le_start_of_isChain properLater chain other among
      omega
    rw [Tree.preorders, List.pairwise_cons, List.pairwise_append]
    refine ⟨?_, pairwise_preorder tree (ordered tree List.mem_cons_self),
      pairwise_preorders trees orderedLater properLater chain.of_cons, ?_⟩
    · intro node member
      rcases List.mem_append.mp member with below | later
      · exact (inside node below).1
      · have := behind node later
        omega
    · intro left below right later
      have := inside left below
      have := behind right later
      omega

end

/-! ### The nodes that show -/

@[simp] theorem value_expose (bodies : Bool) (tree : ParseTree) :
  (expose bodies tree).value = tree := by
  cases tree with
  | node part children => rw [expose, Tree.value_node]

mutual

private theorem expose_preorder_sublist (bodies : Bool) : (tree : ParseTree) →
    ((expose bodies tree).preorder.map Tree.value).Sublist tree.preorder
  | .node part children => by
    rw [expose, Tree.preorder, Tree.preorder]
    cases exposure bodies part.type with
    | nothing =>
      simp only [Tree.preorders]
      exact List.nil_sublist _
    | parameterList => exact exposeParameters_preorders_sublist bodies children
    | namedNodes => exact exposeNamed_preorders_sublist bodies children

private theorem exposeNamed_preorders_sublist (bodies : Bool) : (trees : List ParseTree) →
    ((Tree.preorders (exposeNamed bodies trees)).map Tree.value).Sublist (Tree.preorders trees)
  | [] => by
    rw [exposeNamed, Tree.preorders]
    exact List.nil_sublist _
  | tree :: trees => by
    have rest := exposeNamed_preorders_sublist bodies trees
    have here := expose_preorder_sublist bodies tree
    rw [exposeNamed]
    split_ifs
    · rw [Tree.preorders, Tree.preorders, List.map_cons, List.map_append, value_expose]
      exact (here.append rest).cons_cons tree
    · rw [Tree.preorders]
      exact (rest.trans (List.sublist_append_right _ _)).cons tree

private theorem exposeParameters_preorders_sublist (bodies : Bool) : (trees : List ParseTree) →
    ((Tree.preorders (exposeParameters bodies trees)).map Tree.value).Sublist (Tree.preorders trees)
  | [] => by
    rw [exposeParameters, Tree.preorders]
    exact List.nil_sublist _
  | tree :: trees => by
    have rest := exposeParameters_preorders_sublist bodies trees
    have here := expose_preorder_sublist bodies tree
    rw [exposeParameters]
    split_ifs
    · simp only [Tree.preorders, List.append_nil, List.map_cons, value_expose]
      exact (here.trans (List.sublist_append_left _ _)).cons_cons tree
    · rw [Tree.preorders]
      exact (rest.trans (List.sublist_append_right _ _)).cons tree

end

def startOf (shown : Tree ParseTree) : Nat := shown.value.value.start

/-- Whether a walk meets the nodes below a root in the order in which their texts start. -/
def IsWalkedInOrder (root : Tree ParseTree) : Prop :=
  root.descendants.Pairwise fun left right => startOf left ≤ startOf right

theorem isWalkedInOrder_expose {tree : ParseTree} (ordered : tree.HasOrderedRanges)
    (bodies : Bool) :
    IsWalkedInOrder (expose bodies tree) := by
  have sorted := (pairwise_preorder tree ordered).sublist (expose_preorder_sublist bodies tree)
  rw [List.pairwise_map] at sorted
  rw [IsWalkedInOrder, Tree.descendants_eq_preorder]
  exact sorted

theorem IsWalkedInOrder.of_mem_descendants {root below : Tree ParseTree}
    (ordered : IsWalkedInOrder root) (member : below ∈ root.descendants) : IsWalkedInOrder below :=
  ordered.sublist (Tree.descendants_isInfix member).sublist

end Outline.ParseTree

/-! ## What shows of a parse tree, node by node

A parse tree is seen through a view: a node shows some of its children, depending on its type and on
whether bodies are open. The walks of the view go through a tree that is made of these children;
here it is said without that tree. Over the children that show, as over those of a declaration tree,
the plain and the scoped walk are what recursion lists and what the loop over a stack lists.
-/

namespace Outline.ParseTree

open Declaration (Node Kind scopeKinds)

/-- The children of a node that show. Parameters and enum members show none. With bodies closed,
neither do properties and the types that hold no declarations, and a method or a constructor shows
its parameter list only. -/
def shown (bodies : Bool) (tree : ParseTree) : List ParseTree :=
  let kind := kindOf tree.value.type
  if kind = .parameter ∨ kind = .enumMember then []
  else if bodies = false ∧ (kind = .property ∨ tree.value.type ∈ closedTypes) then []
  else if bodies = false ∧ (kind = .method ∨ kind = .constructor) then
    (tree.field? "parameters").toList
  else tree.namedChildren

private theorem kindOf_of_mem_closedTypes {type : Text} (member : type ∈ closedTypes) :
    kindOf type = .other := by
  have table : ∀ type ∈ closedTypes, kindOf type = .other := by decide
  exact table type member

private theorem shown_eq (bodies : Bool) (tree : ParseTree) :
    shown bodies tree =
      match exposure bodies tree.value.type with
      | .nothing => []
      | .parameterList => (tree.field? "parameters").toList
      | .namedNodes => tree.namedChildren := by
  by_cases member : tree.value.type ∈ closedTypes
  · have kind := kindOf_of_mem_closedTypes member
    cases bodies <;> simp [shown, exposure, kind, member]
  · cases kind : kindOf tree.value.type <;> cases bodies <;> simp [shown, exposure, kind, member]

private theorem exposeNamed_eq_map (bodies : Bool) (trees : List ParseTree) :
    exposeNamed bodies trees = (trees.filter fun tree => tree.value.named).map (expose bodies) := by
  induction trees with
  | nil => rw [exposeNamed, List.filter_nil, List.map_nil]
  | cons tree trees ih =>
    rw [exposeNamed, List.filter_cons, ih]
    split_ifs
    · rw [List.map_cons]
    · rfl

private theorem exposeParameters_eq_map (bodies : Bool) (trees : List ParseTree) :
    exposeParameters bodies trees =
      (trees.find? fun tree =>
        decide (tree.value.field = some (Text.ofString "parameters"))).toList.map
        (expose bodies) := by
  induction trees with
  | nil => rw [exposeParameters, List.find?_nil]; rfl
  | cons tree trees ih =>
    rw [exposeParameters, List.find?_cons]
    split_ifs with list
    · rw [decide_eq_true list]; rfl
    · rw [decide_eq_false list]; exact ih

private theorem children_expose (bodies : Bool) (tree : ParseTree) :
    (expose bodies tree).children = (shown bodies tree).map (expose bodies) := by
  rw [shown_eq]
  cases tree with
  | node part children =>
    rw [expose, Tree.children_node, Tree.value_node]
    cases exposure bodies part.type with
    | nothing => rfl
    | parameterList => exact exposeParameters_eq_map bodies children
    | namedNodes => exact exposeNamed_eq_map bodies children

/-! ### Walks over the children that show -/

def below (bodies : Bool) (tree : ParseTree) : List ParseTree :=
  (expose bodies tree).descendants.map Tree.value

def ownedBelow (bodies : Bool) (tree : ParseTree) : List ParseTree :=
  ((expose bodies tree).scopedDescendants fun node => (kindOf node.value.type).isScope).map
    Tree.value

private theorem isRecursive_map_value {bodies : Bool} {closed : ParseTree → Bool}
    {walk : Tree ParseTree → List (Tree ParseTree)}
    (recursive : Walk.IsRecursive Tree.children (fun node => closed node.value) walk) :
    Walk.IsRecursive (shown bodies) closed fun tree => (walk (expose bodies tree)).map
      Tree.value := by
  intro tree
  beta_reduce
  rw [recursive (expose bodies tree), children_expose, List.flatMap_map, List.map_flatMap]
  refine List.flatMap_congr fun child _ => ?_
  simp only [List.map_cons, value_expose, apply_ite (List.map Tree.value), List.map_nil]

private theorem isRecursive_below (bodies : Bool) :
    Walk.IsRecursive (shown bodies) (fun _ => false) (below bodies) :=
  isRecursive_map_value Tree.isRecursive_descendants

private theorem isRecursive_ownedBelow (bodies : Bool) :
    Walk.IsRecursive (shown bodies) (fun tree => (kindOf tree.value.type).isScope)
      (ownedBelow bodies) :=
  isRecursive_map_value (Tree.isRecursive_scopedDescendants _)

private theorem eq_expose_of_mem {bodies : Bool} {tree : ParseTree} {node : Tree ParseTree}
    (member : node ∈ (expose bodies tree).descendants) : node = expose bodies node.value := by
  refine Tree.forall_mem_descendants (P := fun node => node = expose bodies node.value) ?_
    ?_ node member
  · intro node exposed child below
    rw [exposed, children_expose] at below
    obtain ⟨raw, -, rfl⟩ := List.mem_map.mp below
    rw [value_expose]
  · rw [value_expose]

private theorem map_map_declaration {bodies : Bool} {tree : ParseTree}
    {nodes : List (Tree ParseTree)}
    (listed : ∀ node ∈ nodes, node ∈ (expose bodies tree).descendants) :
    nodes.map (Tree.map declaration) = (nodes.map Tree.value).map (view bodies) := by
  rw [List.map_map]
  refine List.map_congr_left fun node member => ?_
  rw [Function.comp_apply, view, ← eq_expose_of_mem (listed node member)]

private theorem descendants_view (bodies : Bool) (tree : ParseTree) :
    (view bodies tree).descendants = (below bodies tree).map (view bodies) := by
  rw [view, Tree.descendants_map, below]
  exact map_map_declaration fun _ member => member

private theorem scopedDescendants_view (bodies : Bool) (tree : ParseTree) :
    (view bodies tree).scopedDescendants Declaration.isScope =
      (ownedBelow bodies tree).map (view bodies) := by
  rw [view, Tree.scopedDescendants_map, ownedBelow]
  exact map_map_declaration fun _ member => (Tree.scopedDescendants_sublist _ _).subset member

/-! ### Both views of a tree -/

/-- Whether two walks over nodes with children and kinds are what recursion lists: each child,
followed by what lies below it, which the second walk leaves out for the kinds that are scopes.
Recursion has no other solution, and the loops over a stack list the walks and stop. -/
structure RefineRecursion {ν : Type} (children : ν → List ν) (kind : ν → Kind)
    (plain owned : ν → List ν) :
    Prop where
  plain_iff : ∀ walk : ν → List ν,
    (∀ node, walk node = (children node).flatMap fun child => child :: walk child) ↔ walk = plain
  owned_iff : ∀ walk : ν → List ν,
    (∀ node, walk node = (children node).flatMap fun child =>
      child :: if kind child ∈ scopeKinds then [] else walk child) ↔ walk = owned
  plain_listed : ∀ node, Walk.Loop.Lists children (fun _ => false) node (plain node)
  owned_listed : ∀ node,
    Walk.Loop.Lists children (fun child => decide (kind child ∈ scopeKinds)) node (owned node)

private theorem refineRecursion_of_isRecursive {ν : Type} {children : ν → List ν} {kind : ν → Kind}
    {plain owned : ν → List ν} (entering : Walk.IsRecursive children (fun _ => false) plain)
    (passing : Walk.IsRecursive children (fun node => (kind node).isScope) owned) :
    RefineRecursion children kind plain owned := by
  simp only [Declaration.isScope_eq_decide] at passing
  refine ⟨?_, ?_, Walk.Loop.lists_of_isRecursive entering, Walk.Loop.lists_of_isRecursive passing⟩
  · intro walk
    rw [← Walk.isRecursive_iff_eq entering walk]
    simp only [Walk.IsRecursive, Bool.false_eq_true, if_false]
  · intro walk
    rw [← Walk.isRecursive_iff_eq passing walk]
    simp only [Walk.IsRecursive, decide_eq_true_eq]

/-- The walks of declaration trees refine recursion over their children. So do the walks of every
parse tree over the children that show, with bodies open or closed, and the walks of its view list
the views of what they list. -/
theorem walks_refine_recursion :
    RefineRecursion Tree.children (fun node : Node => node.value.kind) Tree.descendants
      (Tree.scopedDescendants Declaration.isScope) ∧
    ∀ bodies, RefineRecursion (shown bodies) (fun tree => kindOf tree.value.type) (below bodies)
        (ownedBelow bodies) ∧
      ∀ tree, (view bodies tree).descendants = (below bodies tree).map (view bodies) ∧
        (view bodies tree).scopedDescendants Declaration.isScope =
          (ownedBelow bodies tree).map (view bodies) := by
  refine ⟨?_, fun bodies => ⟨?_, fun tree => ?_⟩⟩
  · exact refineRecursion_of_isRecursive Tree.isRecursive_descendants
      (Tree.isRecursive_scopedDescendants Declaration.isScope)
  · exact refineRecursion_of_isRecursive (isRecursive_below bodies) (isRecursive_ownedBelow bodies)
  · exact ⟨descendants_view bodies tree, scopedDescendants_view bodies tree⟩

end Outline.ParseTree

/-! ## The count of syntax errors

Counting passes over what lies below a node that is not marked as holding an error. Going on with a
stack therefore never counts more than the faults in its trees, and counts them all where the marks
are sound: an unmarked node then has no fault at or below it. Where the marks are exact as well, the
mark of the root tells whether there is anything to count.
-/

namespace Outline.ParseTree

/-- Whether a node is a fault or has one somewhere below it. -/
def HoldsFault (tree : ParseTree) : Prop :=
  ∃ node ∈ tree :: tree.preorder, node.value.isFault = true

instance (tree : ParseTree) : Decidable tree.HoldsFault :=
  inferInstanceAs (Decidable (∃ node ∈ tree :: tree.preorder, _ = true))

/-- Whether every node of a tree that holds a fault is marked so. -/
def IsSoundlyMarked (tree : ParseTree) : Prop :=
  ∀ node ∈ tree :: tree.preorder, node.HoldsFault → node.value.hasError = true

instance (tree : ParseTree) : Decidable tree.IsSoundlyMarked :=
  inferInstanceAs (Decidable (∀ node ∈ tree :: tree.preorder, _ → _ = true))

/-- Whether the nodes of a tree that are marked are those that hold a fault. -/
def IsExactlyMarked (tree : ParseTree) : Prop :=
  ∀ node ∈ tree :: tree.preorder, node.value.hasError = true ↔ node.HoldsFault

instance (tree : ParseTree) : Decidable tree.IsExactlyMarked :=
  inferInstanceAs (Decidable (∀ node ∈ tree :: tree.preorder, _ = true ↔ _))

/-- The number of nodes of a tree, the root included, that are faults. -/
def faultyNodes (tree : ParseTree) : Nat :=
  (tree :: tree.preorder).countP fun node => node.value.isFault

/-! ### Faults of several trees -/

private theorem faultsAll_append (s t : List ParseTree) :
    faultsAll (s ++ t) = faultsAll s + faultsAll t := by
  induction s with
  | nil => rw [List.nil_append, faultsAll, Nat.zero_add]
  | cons tree trees ih => rw [List.cons_append, faultsAll, faultsAll, ih, Nat.add_assoc]

private theorem faultsAll_reverse (trees : List ParseTree) :
    faultsAll trees.reverse = faultsAll trees := by
  induction trees with
  | nil => rfl
  | cons tree trees ih =>
    rw [List.reverse_cons, faultsAll_append, ih, faultsAll, faultsAll, faultsAll, Nat.add_zero,
      Nat.add_comm]

private theorem faults_eq (tree : ParseTree) :
    tree.faults = (if tree.value.isFault then 1 else 0) + faultsAll tree.children := by
  cases tree with
  | node part children => rw [faults, Tree.value_node, Tree.children_node]

mutual

private theorem faults_eq_faultyNodes : (tree : ParseTree) → tree.faults = tree.faultyNodes
  | .node part children => by
    rw [faults, faultyNodes, List.countP_cons, Tree.preorder, faultsAll_eq_countP children,
      Tree.value_node, Nat.add_comm]

private theorem faultsAll_eq_countP : (trees : List ParseTree) →
    faultsAll trees = (Tree.preorders trees).countP fun node => node.value.isFault
  | [] => by rw [faultsAll, Tree.preorders, List.countP_nil]
  | tree :: trees => by
    rw [faultsAll, faults_eq_faultyNodes tree, faultsAll_eq_countP trees, Tree.preorders,
      ← List.cons_append, List.countP_append, faultyNodes]

end

private theorem faultyNodes_pos_iff (tree : ParseTree) : 0 < tree.faultyNodes ↔ tree.HoldsFault :=
  List.countP_pos_iff

/-! ### Marks -/

private theorem IsSoundlyMarked.of_mem_children {tree child : ParseTree}
    (sound : tree.IsSoundlyMarked) (member : child ∈ tree.children) : child.IsSoundlyMarked := by
  intro node found
  refine sound node (List.mem_cons_of_mem _ ?_)
  cases tree with
  | node part children =>
    rw [Tree.preorder]
    exact Tree.mem_preorders_of_mem member found

private theorem IsSoundlyMarked.faults_eq_zero {tree : ParseTree} (sound : tree.IsSoundlyMarked)
    (unmarked : tree.value.hasError = false) : tree.faults = 0 := by
  have clean : ¬tree.HoldsFault := fun holds =>
    absurd (sound tree List.mem_cons_self holds) (by simp [unmarked])
  rw [← faultyNodes_pos_iff, ← faults_eq_faultyNodes] at clean
  exact Nat.eq_zero_of_not_pos clean

private theorem IsExactlyMarked.isSoundlyMarked {tree : ParseTree}
    (exactly : tree.IsExactlyMarked) :
    tree.IsSoundlyMarked :=
  fun node member holds => (exactly node member).mpr holds

/-! ### Counting with a stack -/

/-- A step moves a fault from the stack to the count, and loses only what it passes over. -/
theorem count_add_faultsAll_step (count : Nat) (tree : ParseTree) (stack : List ParseTree) :
    (if tree.value.isFault then count + 1 else count) +
          faultsAll (if tree.value.hasError then tree.children.reverse ++ stack else stack) +
        (if tree.value.hasError then 0 else faultsAll tree.children) =
      count + faultsAll (tree :: stack) := by
  rw [faultsAll, faults_eq]
  cases tree.value.hasError with
  | true =>
    simp only [↓reduceIte, faultsAll_append, faultsAll_reverse]
    split_ifs <;> omega
  | false =>
    simp only [Bool.false_eq_true, ↓reduceIte]
    split_ifs <;> omega

private theorem countFaults_le (count : Nat) (stack : List ParseTree) :
    countFaults count stack ≤ count + faultsAll stack := by
  fun_induction countFaults count stack with
  | case1 count => exact Nat.le_add_right _ _
  | case2 count tree stack ih =>
    simp only [dite_eq_ite] at ih
    have step := count_add_faultsAll_step count tree stack
    omega

private theorem countFaults_eq (count : Nat) {stack : List ParseTree}
    (sound : ∀ tree ∈ stack, tree.IsSoundlyMarked) :
    countFaults count stack = count + faultsAll stack := by
  fun_induction countFaults count stack with
  | case1 count => rw [faultsAll, Nat.add_zero]
  | case2 count tree stack ih =>
    simp only [dite_eq_ite] at ih
    have here := sound tree List.mem_cons_self
    have later : ∀ other ∈ stack, other.IsSoundlyMarked := fun other member =>
      sound other (List.mem_cons_of_mem _ member)
    have step := count_add_faultsAll_step count tree stack
    cases marked : tree.value.hasError with
    | true =>
      simp only [marked, ↓reduceIte, Nat.add_zero] at ih step ⊢
      rw [ih, step]
      intro other member
      rcases List.mem_append.mp member with below | waiting
      · exact here.of_mem_children (List.mem_reverse.mp below)
      · exact later other waiting
    | false =>
      -- nothing is lost with the children, because no fault lies below an unmarked node
      have nothing : faultsAll tree.children = 0 := by
        have none := here.faults_eq_zero marked
        rw [faults_eq] at none
        exact Nat.eq_zero_of_add_eq_zero_left none
      simp only [marked, Bool.false_eq_true, ↓reduceIte, nothing, Nat.add_zero] at ih step ⊢
      rw [ih later, step]

private theorem errorCount_le_faults (tree : ParseTree) : tree.errorCount ≤ tree.faults := by
  rw [errorCount]
  split_ifs
  · have bound := countFaults_le 0 [tree]
    rwa [faultsAll, faultsAll, Nat.zero_add, Nat.add_zero] at bound
  · exact Nat.zero_le _

private theorem IsSoundlyMarked.errorCount_eq_faults {tree : ParseTree}
    (sound : tree.IsSoundlyMarked) :
    tree.errorCount = tree.faults := by
  rw [errorCount]
  split_ifs with marked
  · rw [countFaults_eq 0 (by simpa using sound), faultsAll, faultsAll, Nat.zero_add, Nat.add_zero]
  · exact (sound.faults_eq_zero (by simpa using marked)).symm

/-- The count never exceeds the number of faulty nodes. It is that number if every node that holds a
fault is marked, and if no other node is marked either, it is positive exactly if the root is. -/
theorem errorCount_by_marks (tree : ParseTree) :
    tree.errorCount ≤ tree.faultyNodes ∧
      (tree.IsSoundlyMarked → tree.errorCount = tree.faultyNodes) ∧
      (tree.IsExactlyMarked → (0 < tree.errorCount ↔ tree.value.hasError = true)) := by
  rw [← faults_eq_faultyNodes]
  refine ⟨errorCount_le_faults tree, IsSoundlyMarked.errorCount_eq_faults, fun exactly => ?_⟩
  rw [exactly.isSoundlyMarked.errorCount_eq_faults, faults_eq_faultyNodes, faultyNodes_pos_iff]
  exact (exactly tree List.mem_cons_self).symm

/-- A tree with an error that holds a missing semicolon, beside a class without faults. -/
def halfBroken : ParseTree :=
  .node { type := "compilation_unit", hasError := true }
    [.node { type := "class_declaration" } [.node { type := "identifier" } []],
      .node { type := "ERROR", hasError := true }
        [.node { type := "identifier" } [],
          .node { type := ";", named := false, missing := true, hasError := true } []]]

/-- Both faults of a tree are counted, the missing token inside the other one. -/
theorem errorCount_halfBroken :
    halfBroken.IsSoundlyMarked ∧ halfBroken.IsExactlyMarked ∧ halfBroken.errorCount = 2 ∧
      halfBroken.value.hasError = true := by
  have sound : halfBroken.IsSoundlyMarked := by decide
  have exactly : halfBroken.IsExactlyMarked := by decide
  obtain ⟨-, counted, positive⟩ := errorCount_by_marks halfBroken
  have two : halfBroken.errorCount = 2 := (counted sound).trans (by decide)
  exact ⟨sound, exactly, two, (positive exactly).mp (by rw [two]; decide)⟩

end Outline.ParseTree
