import Mathlib.Data.List.Basic
import Mathlib.Data.List.Forall2
import Mathlib.Logic.Function.Iterate
import Outline.Declaration

/-!
Walks over trees.
-/

set_option autoImplicit false

/-! ## Walks with a stack

The stack of a walk holds exactly what is still to be listed: visiting a stack lists its trees in
recursive pre-order, one after the other. A walk that enters everything is the scoped walk whose
test never holds, so each fact about walks is proved for scoped walks and read off for plain ones.
-/

namespace Outline.Tree

universe u v

variable {α : Type u} {β : Type v}

@[simp] theorem value_node (a : α) (trees : List (Tree α)) : (node a trees).value = a := rfl

@[simp] theorem children_node (a : α) (trees : List (Tree α)) :
    (node a trees).children = trees := rfl

private theorem scopedPreorder_eq (closed : α → Bool) (tree : Tree α) :
    scopedPreorder closed tree = scopedPreorders closed tree.children := by
  cases tree with
  | node a trees => rw [scopedPreorder, children_node]

private theorem scopedPreorders_append (closed : α → Bool) (s t : List (Tree α)) :
    scopedPreorders closed (s ++ t) = scopedPreorders closed s ++ scopedPreorders closed t := by
  induction s with
  | nil => simp [scopedPreorders]
  | cons tree trees ih => simp [scopedPreorders, ih, List.append_assoc]

private theorem visitScoped_eq_scopedPreorders (closed : α → Bool) (stack : List (Tree α)) :
    visitScoped closed stack = scopedPreorders closed stack := by
  fun_induction visitScoped closed stack with
  | case1 => rw [scopedPreorders]
  | case2 tree stack ih =>
    rw [dite_eq_ite] at ih
    rw [scopedPreorders, ih]
    by_cases h : closed tree.value = true
    · simp only [h, ↓reduceIte, List.nil_append]
    · rw [if_neg h, if_neg h, scopedPreorders_append, scopedPreorder_eq]

private theorem visit_eq_visitScoped (stack : List (Tree α)) :
    visit stack = visitScoped (fun _ => false) stack := by
  fun_induction visit stack with
  | case1 => rw [visitScoped]
  | case2 tree stack ih => rw [visitScoped, ih, if_neg Bool.false_ne_true]

theorem descendants_eq_scopedDescendants (tree : Tree α) :
    tree.descendants = tree.scopedDescendants fun _ => false := by
  rw [descendants, scopedDescendants, visit_eq_visitScoped]

theorem scopedDescendants_eq_scopedPreorder (closed : α → Bool) (tree : Tree α) :
    tree.scopedDescendants closed = tree.scopedPreorder closed := by
  rw [scopedDescendants, visitScoped_eq_scopedPreorders, scopedPreorder_eq]

mutual

private theorem preorder_eq_scopedPreorder : (tree : Tree α) →
    tree.preorder = tree.scopedPreorder fun _ => false
  | node _ children => by
    rw [preorder, scopedPreorder, preorders_eq_scopedPreorders children]

private theorem preorders_eq_scopedPreorders : (trees : List (Tree α)) →
    preorders trees = scopedPreorders (fun _ => false) trees
  | [] => by rw [preorders, scopedPreorders]
  | tree :: trees => by
    rw [preorders, scopedPreorders, preorder_eq_scopedPreorder tree,
      preorders_eq_scopedPreorders trees, if_neg Bool.false_ne_true]

end

theorem mem_preorders_of_mem {trees : List (Tree α)} {node below : Tree α} (member : node ∈ trees)
    (found : below ∈ node :: node.preorder) : below ∈ preorders trees := by
  induction trees with
  | nil => exact absurd member List.not_mem_nil
  | cons tree trees ih =>
    rw [preorders]
    rcases List.mem_cons.mp member with rfl | later
    · rw [← List.cons_append]
      exact List.mem_append_left _ found
    · exact List.mem_cons_of_mem _ (List.mem_append_right _ (ih later))

theorem descendants_eq_preorder (tree : Tree α) : tree.descendants = tree.preorder := by
  rw [descendants_eq_scopedDescendants, scopedDescendants_eq_scopedPreorder,
    preorder_eq_scopedPreorder]

/-! ### Scoped and plain walks -/

mutual

private theorem scopedPreorder_sublist (closed : α → Bool) : (tree : Tree α) →
    (tree.scopedPreorder closed).Sublist tree.preorder
  | node _ trees => by
    rw [scopedPreorder, preorder]
    exact scopedPreorders_sublist closed trees

private theorem scopedPreorders_sublist (closed : α → Bool) : (trees : List (Tree α)) →
    (scopedPreorders closed trees).Sublist (preorders trees)
  | [] => by
    rw [scopedPreorders]
    exact List.nil_sublist _
  | tree :: trees => by
    rw [scopedPreorders, preorders]
    apply List.Sublist.cons_cons
    apply List.Sublist.append
    · split_ifs
      · exact List.nil_sublist _
      · exact scopedPreorder_sublist closed tree
    · exact scopedPreorders_sublist closed trees

end

mutual

private theorem scopedPreorder_of_open {closed : α → Bool} : (tree : Tree α) →
    (∀ below ∈ tree.preorder, closed below.value = false) →
    tree.scopedPreorder closed = tree.preorder
  | node _ trees, allOpen => by
    rw [preorder] at allOpen
    rw [scopedPreorder, preorder, scopedPreorders_of_open trees allOpen]

private theorem scopedPreorders_of_open {closed : α → Bool} : (trees : List (Tree α)) →
    (∀ below ∈ preorders trees, closed below.value = false) →
    scopedPreorders closed trees = preorders trees
  | [], _ => by rw [scopedPreorders, preorders]
  | tree :: trees, allOpen => by
    rw [preorders] at allOpen
    have here : closed tree.value = false := allOpen tree List.mem_cons_self
    have inside := scopedPreorder_of_open tree fun below member =>
      allOpen below (List.mem_cons_of_mem tree (List.mem_append_left _ member))
    have rest := scopedPreorders_of_open trees fun below member =>
      allOpen below (List.mem_cons_of_mem tree (List.mem_append_right _ member))
    rw [scopedPreorders, preorders, here, if_neg Bool.false_ne_true, inside, rest]

end

theorem scopedDescendants_sublist (closed : α → Bool) (tree : Tree α) :
    (tree.scopedDescendants closed).Sublist tree.descendants := by
  rw [scopedDescendants_eq_scopedPreorder, descendants_eq_preorder]
  exact scopedPreorder_sublist closed tree

theorem scopedDescendants_of_open {closed : α → Bool} {tree : Tree α}
    (allOpen : ∀ below ∈ tree.descendants, closed below.value = false) :
    tree.scopedDescendants closed = tree.descendants := by
  rw [descendants_eq_preorder] at allOpen
  rw [scopedDescendants_eq_scopedPreorder, descendants_eq_preorder]
  exact scopedPreorder_of_open tree allOpen

/-! ### Walks and images -/

@[simp] theorem value_map (f : α → β) (tree : Tree α) : (tree.map f).value = f tree.value := by
  cases tree with
  | node a trees => rw [map, value_node, value_node]

mutual

theorem map_map {γ : Type*} (g : β → γ) (f : α → β) : (tree : Tree α) →
    (tree.map f).map g = tree.map (g ∘ f)
  | node a trees => by
    rw [map, map, map, mapAll_mapAll g f trees, Function.comp_apply]

private theorem mapAll_mapAll {γ : Type*} (g : β → γ) (f : α → β) : (trees : List (Tree α)) →
    mapAll g (mapAll f trees) = mapAll (g ∘ f) trees
  | [] => by rw [mapAll, mapAll, mapAll]
  | tree :: trees => by
    rw [mapAll, mapAll, mapAll, map_map g f tree, mapAll_mapAll g f trees]

end

mutual

theorem scopedPreorder_map (closed : β → Bool) (f : α → β) : (tree : Tree α) →
    (tree.map f).scopedPreorder closed = (tree.scopedPreorder (closed ∘ f)).map (map f)
  | node a trees => by
    rw [map, scopedPreorder, scopedPreorder, scopedPreorders_map closed f trees]

private theorem scopedPreorders_map (closed : β → Bool) (f : α → β) : (trees : List (Tree α)) →
    scopedPreorders closed (mapAll f trees) = (scopedPreorders (closed ∘ f) trees).map (map f)
  | [] => by rw [mapAll, scopedPreorders, scopedPreorders, List.map_nil]
  | tree :: trees => by
    rw [mapAll, scopedPreorders, scopedPreorders, value_map, scopedPreorder_map closed f tree,
      scopedPreorders_map closed f trees, List.map_cons, List.map_append, Function.comp_apply,
      apply_ite (List.map (map f)), List.map_nil]

end

theorem scopedDescendants_map (closed : β → Bool) (f : α → β) (tree : Tree α) :
    (tree.map f).scopedDescendants closed =
      (tree.scopedDescendants (closed ∘ f)).map (map f) := by
  rw [scopedDescendants_eq_scopedPreorder, scopedDescendants_eq_scopedPreorder,
    scopedPreorder_map]

theorem descendants_map (f : α → β) (tree : Tree α) :
    (tree.map f).descendants = tree.descendants.map (map f) := by
  rw [descendants_eq_scopedDescendants, descendants_eq_scopedDescendants, scopedDescendants_map]
  rfl

end Outline.Tree

/-! ## Walks as loops over a stack

The nodes are of any type in which a node has a list of children. The loop keeps the nodes still to
be visited on a stack whose top is the end of a list: one turn takes the top off, lists it, and puts
its children on, the last one first, unless the node is closed.

What the stack stands for is read from the top: each node on it, followed by what lies below it. A
turn moves the first node of that reading to the end of what is listed, so a turn loses nothing and
adds nothing. It follows that the loop stops, having listed what recursion lists, and that recursion
has only one solution.
-/

namespace Outline.Walk

universe u

variable {ν : Type u}

/-- Whether a walk obeys the recursion that lists each child, followed by what lies below it unless
it is closed. -/
def IsRecursive (children : ν → List ν) (closed : ν → Bool) (walk : ν → List ν) : Prop :=
  ∀ node, walk node =
    (children node).flatMap fun child => child :: if closed child then [] else walk child

/-- The nodes still to be visited, the next one last, and those listed so far. -/
structure Loop (ν : Type u) where
  stack : List ν
  listed : List ν

namespace Loop

def start (children : ν → List ν) (node : ν) : Loop ν := ⟨(children node).reverse, []⟩

/-- One turn of the loop. With an empty stack there is nothing to do. -/
def turn (children : ν → List ν) (closed : ν → Bool) (loop : Loop ν) : Loop ν :=
  match loop.stack.getLast? with
  | none => loop
  | some current =>
    { stack := loop.stack.dropLast ++ if closed current then [] else (children current).reverse
      listed := loop.listed ++ [current] }

def after (children : ν → List ν) (closed : ν → Bool) (turns : Nat) (loop : Loop ν) : Loop ν :=
  (turn children closed)^[turns] loop

/-- Whether the loop that starts at a node lists exactly some nodes: one each turn, in their order,
and it has stopped as soon as all of them are listed, not before. -/
def Lists (children : ν → List ν) (closed : ν → Bool) (node : ν) (nodes : List ν) : Prop :=
  ∀ turns, ((start children node).after children closed turns).listed = nodes.take turns ∧
    (((start children node).after children closed turns).stack = [] ↔ nodes.length ≤ turns)

end Loop

/-- What a stack stands for: each node, the last one first, followed by what lies below it unless it
is closed. -/
def pending (closed : ν → Bool) (walk : ν → List ν) (stack : List ν) : List ν :=
  stack.reverse.flatMap fun node => node :: if closed node then [] else walk node

section Pending

variable {closed : ν → Bool} {walk : ν → List ν}

private theorem pending_nil : pending closed walk [] = [] := rfl

private theorem pending_concat (stack : List ν) (top : ν) :
    pending closed walk (stack ++ [top]) =
      top :: ((if closed top then [] else walk top) ++ pending closed walk stack) := by
  rw [pending, pending, List.reverse_append, List.reverse_singleton, List.singleton_append,
    List.flatMap_cons, List.cons_append]

private theorem pending_append (stack more : List ν) :
    pending closed walk (stack ++ more) = pending closed walk more ++
      pending closed walk stack := by
  rw [pending, pending, pending, List.reverse_append, List.flatMap_append]

variable (closed walk) in
private theorem pending_eq_nil_iff (stack : List ν) :
    pending closed walk stack = [] ↔ stack = [] := by
  rcases List.eq_nil_or_concat stack with rfl | ⟨before, top, rfl⟩
  · exact ⟨fun _ => rfl, fun _ => rfl⟩
  · rw [List.concat_eq_append, pending_concat]
    exact ⟨fun none => absurd none (List.cons_ne_nil _ _), fun none => absurd none (by simp)⟩

private theorem pending_reverse_children {children : ν → List ν}
    (recursive : IsRecursive children closed walk)
    (node : ν) : pending closed walk (children node).reverse = walk node := by
  rw [pending, List.reverse_reverse, ← recursive node]

end Pending

namespace Loop

variable {children : ν → List ν} {closed : ν → Bool} {walk : ν → List ν}

private theorem turn_of_empty (listed : List ν) :
    turn children closed ⟨[], listed⟩ = ⟨[], listed⟩ := rfl

private theorem turn_concat (stack : List ν) (top : ν) (listed : List ν) :
    turn children closed ⟨stack ++ [top], listed⟩ =
      ⟨stack ++ if closed top then [] else (children top).reverse, listed ++ [top]⟩ := by
  rw [turn, List.getLast?_concat, List.dropLast_concat]

/-- A turn moves the first node that is pending to the end of what is listed. -/
theorem turn_moves (recursive : IsRecursive children closed walk) (loop : Loop ν) :
    (loop.turn children closed).listed = loop.listed ++ (pending closed walk loop.stack).take 1 ∧
    pending closed walk (loop.turn children closed).stack =
      (pending closed walk loop.stack).drop 1 := by
  obtain ⟨stack, listed⟩ := loop
  rcases List.eq_nil_or_concat stack with rfl | ⟨before, top, rfl⟩
  · rw [turn_of_empty, pending_nil]
    exact ⟨(List.append_nil listed).symm, rfl⟩
  · have pushed : pending closed walk (if closed top then [] else (children top).reverse) =
        if closed top then [] else walk top := by
      split_ifs
      · exact pending_nil
      · exact pending_reverse_children recursive top
    rw [List.concat_eq_append, turn_concat, pending_concat, pending_append, pushed]
    exact ⟨rfl, rfl⟩

private theorem after_moves (recursive : IsRecursive children closed walk) (turns : Nat)
    (loop : Loop ν) :
    (loop.after children closed turns).listed =
      loop.listed ++ (pending closed walk loop.stack).take turns ∧
    pending closed walk (loop.after children closed turns).stack =
      (pending closed walk loop.stack).drop turns := by
  induction turns with
  | zero => exact ⟨(List.append_nil loop.listed).symm, rfl⟩
  | succ turns ih =>
    obtain ⟨listed, left⟩ := ih
    obtain ⟨more, less⟩ := turn_moves recursive (loop.after children closed turns)
    rw [left] at more less
    rw [after, Function.iterate_succ_apply']
    refine ⟨more.trans ?_, less.trans ?_⟩
    · rw [listed, List.append_assoc, List.take_add]
    · rw [List.drop_drop]

theorem lists_of_isRecursive (recursive : IsRecursive children closed walk) (node : ν) :
    Lists children closed node (walk node) := by
  intro turns
  obtain ⟨listed, left⟩ := after_moves recursive turns (start children node)
  rw [start, pending_reverse_children recursive] at listed left
  refine ⟨listed, ?_⟩
  rw [← pending_eq_nil_iff closed walk, start, left, List.drop_eq_nil_iff]

private theorem Lists.unique {node : ν} {nodes others : List ν}
    (first : Lists children closed node nodes)
    (second : Lists children closed node others) : nodes = others := by
  have enough := (first (max nodes.length others.length)).1
  have enoughToo := (second (max nodes.length others.length)).1
  rw [List.take_of_length_le (Nat.le_max_left _ _)] at enough
  rw [List.take_of_length_le (Nat.le_max_right _ _)] at enoughToo
  exact enough.symm.trans enoughToo

end Loop

/-- Recursion over children has at most one solution, since the loop lists any of them. -/
theorem isRecursive_iff_eq {children : ν → List ν} {closed : ν → Bool} {walk : ν → List ν}
    (recursive : IsRecursive children closed walk) (other : ν → List ν) :
    IsRecursive children closed other ↔ other = walk := by
  constructor
  · intro recursiveToo
    funext node
    exact (Loop.lists_of_isRecursive recursiveToo node).unique
      (Loop.lists_of_isRecursive recursive node)
  · rintro rfl
    exact recursive

end Outline.Walk

/-! ### Trees -/

namespace Outline.Tree

universe u

variable {α : Type u}

private theorem scopedPreorders_eq_flatMap (closed : α → Bool) (trees : List (Tree α)) :
    scopedPreorders closed trees = trees.flatMap fun child =>
      child :: if closed child.value then [] else child.scopedPreorder closed := by
  induction trees with
  | nil => rw [scopedPreorders, List.flatMap_nil]
  | cons tree trees ih => rw [scopedPreorders, ih, List.flatMap_cons, List.cons_append]

theorem isRecursive_scopedDescendants (closed : α → Bool) :
    Walk.IsRecursive children (fun node => closed node.value) (scopedDescendants closed) := by
  intro node
  simp only [scopedDescendants_eq_scopedPreorder]
  rw [scopedPreorder_eq, scopedPreorders_eq_flatMap]

theorem isRecursive_descendants :
    Walk.IsRecursive children (fun _ : Tree α => false) descendants := by
  have walks : (descendants : Tree α → List (Tree α)) = scopedDescendants fun _ => false :=
    funext descendants_eq_scopedDescendants
  rw [walks]
  exact isRecursive_scopedDescendants fun _ => false

private theorem forall_mem_visit {P : Tree α → Prop}
    (step : ∀ node, P node → ∀ child ∈ node.children, P child)
    {stack : List (Tree α)} (holds : ∀ node ∈ stack, P node) : ∀ node ∈ visit stack, P node := by
  fun_induction visit stack with
  | case1 => exact holds
  | case2 tree stack ih =>
    obtain ⟨top, rest⟩ := List.forall_mem_cons.mp holds
    refine List.forall_mem_cons.mpr ⟨top, ih fun node member => ?_⟩
    rcases List.mem_append.mp member with child | later
    · exact step tree top node child
    · exact rest node later

theorem forall_mem_descendants {P : Tree α → Prop}
    (step : ∀ node, P node → ∀ child ∈ node.children, P child) {root : Tree α} (holds : P root) :
    ∀ node ∈ root.descendants, P node :=
  forall_mem_visit step (step root holds)

end Outline.Tree

/-! ## Trees without the nodes that a test singles out

Contracting a tree removes such nodes below the root and puts what lies below each of them in its
place, at every depth. A walk that enters all of them lists the contracted tree as it lists the
tree, except for the nodes that are gone. Whatever is wrapped in such nodes has the contraction it
had before.
-/

namespace Outline.Tree

universe u

variable {α : Type u}

mutual

/-- The tree in which each node below the root at which a test holds has given way to what lies
below it. -/
def contract (skip : α → Bool) : Tree α → Tree α
  | node a trees => node a (contractAll skip trees)

def contractAll (skip : α → Bool) : List (Tree α) → List (Tree α)
  | [] => []
  | tree :: trees =>
    (if skip tree.value then (contract skip tree).children else [contract skip tree])
      ++ contractAll skip trees

end

/-- A tree inside nodes with some values, the first of them outermost. -/
def wrapIn (around : List α) (tree : Tree α) : Tree α :=
  around.foldr (fun a inner => node a [inner]) tree

/-- The tree with the subtree at an address replaced by its image; without one there it stays as it
is. -/
def updateAt (f : Tree α → Tree α) : Tree α → List Nat → Tree α
  | tree, [] => f tree
  | node a trees, i :: address => node a (trees.modify i (updateAt f · address))

variable {skip : α → Bool}

@[simp] theorem value_contract (tree : Tree α) : (contract skip tree).value = tree.value := by
  cases tree with
  | node a trees => rw [contract, value_node, value_node]

theorem children_contract (tree : Tree α) :
    (contract skip tree).children = contractAll skip tree.children := by
  cases tree with
  | node a trees => rw [contract, children_node, children_node]

/-! ### Walks -/

mutual

private theorem scopedPreorder_contract {closed : α → Bool}
    (entered : ∀ a, skip a = true → closed a = false) : (tree : Tree α) →
    (contract skip tree).scopedPreorder closed =
      ((tree.scopedPreorder closed).filter fun node => !skip node.value).map (contract skip)
  | node a trees => by
    rw [contract, scopedPreorder, scopedPreorder, scopedPreorders_contractAll entered trees]

private theorem scopedPreorders_contractAll {closed : α → Bool}
    (entered : ∀ a, skip a = true → closed a = false) : (trees : List (Tree α)) →
    scopedPreorders closed (contractAll skip trees) =
      ((scopedPreorders closed trees).filter fun node => !skip node.value).map (contract skip)
  | [] => by
    rw [contractAll, scopedPreorders]
    rfl
  | tree :: trees => by
    have here := scopedPreorder_contract entered tree
    have rest := scopedPreorders_contractAll entered trees
    rw [contractAll, scopedPreorders_append, rest, scopedPreorders]
    cases skipped : skip tree.value with
    | true =>
      have isEntered := entered _ skipped
      rw [if_pos rfl, ← scopedPreorder_eq, here, List.filter_cons_of_neg (by simp [skipped]),
        isEntered, if_neg Bool.false_ne_true, List.filter_append, List.map_append]
    | false =>
      have below : (if closed tree.value then [] else (contract skip tree).scopedPreorder closed) =
          ((if closed tree.value then [] else tree.scopedPreorder closed).filter
            fun node => !skip node.value).map (contract skip) := by
        rw [here]
        split_ifs <;> rfl
      rw [if_neg Bool.false_ne_true, List.filter_cons_of_pos (by simp [skipped]), List.map_cons,
        List.filter_append, List.map_append, ← below, scopedPreorders, scopedPreorders,
        value_contract, List.append_nil, List.cons_append]

end

theorem scopedDescendants_contract {closed : α → Bool}
    (entered : ∀ a, skip a = true → closed a = false) (tree : Tree α) :
    (contract skip tree).scopedDescendants closed =
      ((tree.scopedDescendants closed).filter fun node => !skip node.value).map
        (contract skip) := by
  rw [scopedDescendants_eq_scopedPreorder, scopedDescendants_eq_scopedPreorder]
  exact scopedPreorder_contract entered tree

private theorem descendants_contract (tree : Tree α) :
    (contract skip tree).descendants =
      (tree.descendants.filter fun node => !skip node.value).map (contract skip) := by
  rw [descendants_eq_scopedDescendants, descendants_eq_scopedDescendants]
  exact scopedDescendants_contract (fun _ _ => rfl) tree

theorem skip_of_mem_descendants_contract {tree below : Tree α}
    (member : below ∈ (contract skip tree).descendants) : skip below.value = false := by
  rw [descendants_contract] at member
  obtain ⟨kept, found, rfl⟩ := List.mem_map.mp member
  rw [value_contract]
  simpa using (List.mem_filter.mp found).2

/-! ### Wrapping -/

theorem contractAll_single (tree : Tree α) :
    contractAll skip [tree] =
      if skip (contract skip tree).value then (contract skip tree).children
      else [contract skip tree] := by
  rw [contractAll, contractAll, List.append_nil, value_contract]

private theorem contractAll_cons (tree : Tree α) (trees : List (Tree α)) :
    contractAll skip (tree :: trees) = contractAll skip [tree] ++ contractAll skip trees := by
  rw [contractAll, contractAll, contractAll, List.append_nil]

theorem contractAll_wrapIn {around : List α} (skipped : ∀ a ∈ around, skip a = true)
    (tree : Tree α) : contractAll skip [wrapIn around tree] = contractAll skip [tree] := by
  induction around with
  | nil => rfl
  | cons a around ih =>
    have inner := ih fun b member => skipped b (List.mem_cons_of_mem a member)
    have outer : wrapIn (a :: around) tree = node a [wrapIn around tree] := rfl
    rw [outer, contractAll_single, value_contract, value_node, skipped a List.mem_cons_self,
      if_pos rfl, children_contract, children_node, inner]

private theorem contractAll_modify {g : Tree α → Tree α}
    (same : ∀ tree, contractAll skip [g tree] = contractAll skip [tree]) (trees : List (Tree α))
    (i : Nat) : contractAll skip (trees.modify i g) = contractAll skip trees := by
  induction trees generalizing i with
  | nil => rw [List.modify_nil]
  | cons tree trees ih =>
    cases i with
    | zero => rw [List.modify_zero_cons, contractAll_cons, same, ← contractAll_cons]
    | succ i => rw [List.modify_succ_cons, contractAll_cons, ih i, ← contractAll_cons]

private theorem contract_updateAt_cons {f : Tree α → Tree α} {address : List Nat}
    (same : ∀ tree, contractAll skip [tree.updateAt f address] = contractAll skip [tree])
    (tree : Tree α) (i : Nat) :
    contract skip (tree.updateAt f (i :: address)) = contract skip tree := by
  cases tree with
  | node a trees => rw [updateAt, contract, contract, contractAll_modify same]

private theorem contractAll_updateAt {f : Tree α → Tree α}
    (same : ∀ tree, contractAll skip [f tree] = contractAll skip [tree]) (address : List Nat)
    (tree : Tree α) : contractAll skip [tree.updateAt f address] = contractAll skip [tree] := by
  induction address generalizing tree with
  | nil =>
    rw [updateAt]
    exact same tree
  | cons i address ih =>
    rw [contractAll_single, contract_updateAt_cons ih, ← contractAll_single]

theorem contract_wrapAt {around : List α} (skipped : ∀ a ∈ around, skip a = true) (tree : Tree α)
    (i : Nat) (address : List Nat) :
    contract skip (tree.updateAt (wrapIn around) (i :: address)) = contract skip tree :=
  contract_updateAt_cons (contractAll_updateAt (contractAll_wrapIn skipped) address) tree i

end Outline.Tree

/-! ## When one tree is another one with subtrees left out

A tree embeds in another if they have the same value at the root and the subtrees of the first
embed, in order, in some of the subtrees of the second. The walks follow: what a walk lists in the
small tree is listed in the large one too, in the same order and with at least as much below it, as
long as the walk of the large tree enters every node that the walk of the small one does.
-/

/-! ### Lists in which another one is found -/

namespace List.SublistForall₂

variable {α β : Type*} {R : α → β → Prop} {small more : List α} {large further : List β}

private theorem append_left (found : SublistForall₂ R small large) (before : List β) :
    SublistForall₂ R small (before ++ large) := by
  induction before with
  | nil => exact found
  | cons b before ih => exact .cons_right ih

private theorem append (found : SublistForall₂ R small large)
    (next : SublistForall₂ R more further) :
    SublistForall₂ R (small ++ more) (large ++ further) := by
  induction found with
  | nil => exact next.append_left _
  | cons here _ ih => exact .cons here ih
  | cons_right _ ih => exact .cons_right ih

theorem filter {p : α → Bool} {q : β → Bool} (same : ∀ a b, R a b → p a = q b)
    (found : SublistForall₂ R small large) :
    SublistForall₂ R (small.filter p) (large.filter q) := by
  induction found with
  | nil => exact .nil
  | @cons a b _ _ here _ ih =>
    rw [filter_cons, filter_cons, same a b here]
    split_ifs
    · exact .cons here ih
    · exact ih
  | @cons_right b _ _ _ ih =>
    rw [filter_cons]
    split_ifs
    · exact .cons_right ih
    · exact ih

theorem map {γ δ : Type*} {S : γ → δ → Prop} {f : α → γ} {g : β → δ}
    (step : ∀ a b, R a b → S (f a) (g b)) (found : SublistForall₂ R small large) :
    SublistForall₂ S (small.map f) (large.map g) := by
  induction found with
  | nil => exact .nil
  | cons here _ ih => exact .cons (step _ _ here) ih
  | cons_right _ ih => exact .cons_right ih

theorem sublist {small large : List α} (found : SublistForall₂ Eq small large) :
    small.Sublist large := by
  obtain ⟨part, same, within⟩ := sublistForall₂_iff.mp found
  rw [forall₂_eq_eq_eq] at same
  exact same ▸ within

theorem exists_mem {a : α} (found : SublistForall₂ R small large) (member : a ∈ small) :
    ∃ b ∈ large, R a b := by
  induction found with
  | nil => exact absurd member not_mem_nil
  | cons here _ ih =>
    rcases mem_cons.mp member with rfl | later
    · exact ⟨_, mem_cons_self, here⟩
    · obtain ⟨b, there, related⟩ := ih later
      exact ⟨b, mem_cons_of_mem _ there, related⟩
  | cons_right _ ih =>
    obtain ⟨b, there, related⟩ := ih member
    exact ⟨b, mem_cons_of_mem _ there, related⟩

end List.SublistForall₂

namespace Outline

open List (SublistForall₂)

namespace Tree

universe u v

variable {α : Type u} {β : Type v}

/-- One tree is another one with subtrees left out. -/
inductive Embeds : Tree α → Tree α → Prop
  | node (a : α) {small large : List (Tree α)} (below : SublistForall₂ Embeds small large) :
    Embeds (node a small) (node a large)

theorem Embeds.value_eq {s t : Tree α} (embeds : Embeds s t) : s.value = t.value := by
  cases embeds with
  | node a below => rfl

mutual

theorem Embeds.map (f : α → β) : (t : Tree α) → {s : Tree α} → Embeds s t →
    Embeds (s.map f) (t.map f)
  | Tree.node a trees, _, .node _ below => by
    rw [Tree.map, Tree.map]
    exact .node (f a) (embeds_mapAll f trees below)

private theorem embeds_mapAll (f : α → β) : (large : List (Tree α)) → {small : List (Tree α)} →
    SublistForall₂ Embeds small large → SublistForall₂ Embeds (mapAll f small) (mapAll f large)
  | _, _, .nil => by
    rw [mapAll]
    exact .nil
  | t :: trees, _, .cons here rest => by
    rw [mapAll, mapAll]
    exact .cons (Embeds.map f t here) (embeds_mapAll f trees rest)
  | t :: trees, _, .cons_right rest => by
    rw [mapAll.eq_def f (t :: trees)]
    exact .cons_right (embeds_mapAll f trees rest)

end

mutual

/-- What one walk lists in a tree, a walk that is closed at no more nodes lists in a tree in which
the first one embeds. -/
theorem Embeds.scopedPreorder {closed narrow : α → Bool}
    (wider : ∀ a, narrow a = true → closed a = true) : (t : Tree α) → {s : Tree α} → Embeds s t →
    SublistForall₂ Embeds (s.scopedPreorder closed) (t.scopedPreorder narrow)
  | Tree.node a trees, _, .node _ below => by
    rw [Tree.scopedPreorder, Tree.scopedPreorder]
    exact embeds_scopedPreorders wider trees below

private theorem embeds_scopedPreorders {closed narrow : α → Bool}
    (wider : ∀ a, narrow a = true → closed a = true) : (large : List (Tree α)) →
      {small : List (Tree α)} →
    SublistForall₂ Embeds small large →
    SublistForall₂ Embeds (scopedPreorders closed small) (scopedPreorders narrow large)
  | _, _, .nil => by
    rw [scopedPreorders]
    exact .nil
  | t :: trees, s :: _, .cons here rest => by
    have later := embeds_scopedPreorders wider trees rest
    rw [scopedPreorders, scopedPreorders]
    refine .cons here (.append ?_ later)
    by_cases shut : closed s.value = true
    · rw [if_pos shut]
      exact .nil
    · have entered : ¬narrow t.value = true := fun held => shut (here.value_eq ▸ wider _ held)
      rw [if_neg shut, if_neg entered]
      exact Embeds.scopedPreorder wider t here
  | t :: trees, _, .cons_right rest => by
    rw [scopedPreorders.eq_def narrow (t :: trees)]
    exact .cons_right ((embeds_scopedPreorders wider trees rest).append_left _)

end

theorem Embeds.scopedDescendants {s t : Tree α} (embeds : Embeds s t) (closed : α → Bool) :
    SublistForall₂ Embeds (s.scopedDescendants closed) (t.scopedDescendants closed) := by
  rw [scopedDescendants_eq_scopedPreorder, scopedDescendants_eq_scopedPreorder]
  exact Embeds.scopedPreorder (fun _ held => held) t embeds

theorem Embeds.scopedDescendants_descendants {s t : Tree α} (embeds : Embeds s t)
    (closed : α → Bool) : SublistForall₂ Embeds (s.scopedDescendants closed) t.descendants := by
  rw [descendants_eq_scopedDescendants, scopedDescendants_eq_scopedPreorder,
    scopedDescendants_eq_scopedPreorder]
  exact Embeds.scopedPreorder (fun _ held => absurd held Bool.false_ne_true) t embeds

theorem Embeds.descendants {s t : Tree α} (embeds : Embeds s t) :
    SublistForall₂ Embeds s.descendants t.descendants := by
  rw [descendants_eq_scopedDescendants s]
  exact embeds.scopedDescendants_descendants _

/-! ### Descendants of descendants -/

mutual

theorem preorder_isInfix : (t : Tree α) → {s : Tree α} → s ∈ t.preorder → s.preorder <:+: t.preorder
  | Tree.node _ trees, _, member => by
    rw [preorder] at member ⊢
    exact preorders_isInfix trees member

private theorem preorders_isInfix : (trees : List (Tree α)) → {s : Tree α} → s ∈ preorders trees →
    s.preorder <:+: preorders trees
  | t :: trees, s, member => by
    rw [preorders] at member ⊢
    refine List.IsInfix.trans ?_ (List.suffix_cons t _).isInfix
    rcases List.mem_cons.mp member with rfl | below
    · exact (List.prefix_append _ _).isInfix
    · rcases List.mem_append.mp below with below | later
      · exact (preorder_isInfix t below).trans (List.prefix_append _ _).isInfix
      · exact (preorders_isInfix trees later).trans (List.suffix_append _ _).isInfix

end

theorem descendants_isInfix {s t : Tree α} (member : s ∈ t.descendants) :
    s.descendants <:+: t.descendants := by
  rw [descendants_eq_preorder] at member ⊢
  rw [descendants_eq_preorder]
  exact preorder_isInfix t member

end Tree

end Outline
