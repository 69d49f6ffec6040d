import Mathlib.Data.List.Basic
import Outline.Declaration
import Outline.Proofs.Tree.Walk

/-!
The nodes of a tree by address, and the scopes that own them.
-/

set_option autoImplicit false

/-! ## Addresses: a node of a tree is named by the child indices that lead to it from the root

Addresses are ordered like words, an address before its extensions; that order is depth-first
pre-order. The walks are then listings by address: a plain walk lists the node at every address
below the root, a scoped walk those with no closed node strictly between them and the root.
-/

namespace Outline.Tree

universe u

variable {α : Type u}

mutual

def addresses : Tree α → List (List Nat)
  | node _ children => addressesFrom 0 children

/-- The addresses of siblings and of what lies below them, the first sibling having an index. -/
def addressesFrom (i : Nat) : List (Tree α) → List (List Nat)
  | [] => []
  | tree :: trees => [i] :: (tree.addresses.map (i :: ·) ++ addressesFrom (i + 1) trees)

end

/-- The nodes strictly between the root and the node at an address. -/
def between : Tree α → List Nat → List (Tree α)
  | tree, i :: j :: address =>
    match tree.children[i]? with
    | some child => child :: between child (j :: address)
    | none => []
  | _, _ => []

/-- Whether no closed node stands strictly between the root and the node at an address. -/
def isOpenAt (closed : α → Bool) (tree : Tree α) (address : List Nat) : Bool :=
  (tree.between address).all fun node => !closed node.value

/-! ### Which addresses are listed -/

private theorem at?_cons (tree : Tree α) (i : Nat) (address : List Nat) :
    tree.at? (i :: address) = tree.children[i]? >>= (at? · address) := by
  rw [at?]

private theorem at?_nil (tree : Tree α) : tree.at? [] = some tree := by
  rw [at?]

mutual

theorem mem_addresses_iff : (tree : Tree α) → (address : List Nat) →
    (address ∈ tree.addresses ↔ address ≠ [] ∧ (tree.at? address).isSome)
  | node a children, address => by
    rw [addresses, mem_addressesFrom_iff 0 children]
    constructor
    · rintro ⟨k, rest, child, rfl, hchild, hsome⟩
      refine ⟨List.cons_ne_nil _ _, ?_⟩
      rw [at?_cons, children_node, Nat.zero_add, hchild]
      exact hsome
    · rintro ⟨hne, hsome⟩
      obtain ⟨k, rest, rfl⟩ := List.exists_cons_of_ne_nil hne
      rw [at?_cons, children_node] at hsome
      cases hchild : children[k]? with
      | none => rw [hchild] at hsome; exact absurd hsome Bool.false_ne_true
      | some child =>
        rw [hchild] at hsome
        exact ⟨k, rest, child, by rw [Nat.zero_add], hchild, hsome⟩

private theorem mem_addressesFrom_iff (i : Nat) : (trees : List (Tree α)) → {address : List Nat} →
    (address ∈ addressesFrom i trees ↔ ∃ k rest tree,
      address = (i + k) :: rest ∧ trees[k]? = some tree ∧ (tree.at? rest).isSome)
  | [], address => by simp [addressesFrom]
  | tree :: trees, address => by
    rw [addressesFrom, List.mem_cons, List.mem_append, List.mem_map,
      mem_addressesFrom_iff (i + 1) trees]
    constructor
    · rintro (rfl | ⟨rest, hrest, rfl⟩ | ⟨k, rest, child, rfl, hchild, hsome⟩)
      · exact ⟨0, [], tree, rfl, rfl, by rw [at?_nil]; rfl⟩
      · exact ⟨0, rest, tree, rfl, rfl, ((mem_addresses_iff tree rest).mp hrest).2⟩
      · exact ⟨k + 1, rest, child, by rw [Nat.add_right_comm, Nat.add_assoc], hchild, hsome⟩
    · rintro ⟨k, rest, child, rfl, hchild, hsome⟩
      cases k with
      | zero =>
        obtain rfl : tree = child := by simpa using hchild
        cases rest with
        | nil => exact Or.inl rfl
        | cons j rest =>
          exact Or.inr (Or.inl ⟨j :: rest,
            (mem_addresses_iff tree _).mpr ⟨List.cons_ne_nil _ _, hsome⟩, rfl⟩)
      | succ k =>
        exact Or.inr (Or.inr ⟨k, rest, child, by rw [Nat.add_right_comm, Nat.add_assoc],
          by simpa using hchild, hsome⟩)

end

/-! ### Their order -/

private theorem head_lt_of_mem_addressesFrom {i j : Nat} {trees : List (Tree α)}
    {rest address : List Nat} (member : address ∈ addressesFrom j trees) (less : i < j) :
    i :: rest < address := by
  obtain ⟨k, tail, child, rfl, -, -⟩ := (mem_addressesFrom_iff j trees).mp member
  exact List.cons_lt_cons_iff.mpr (Or.inl (by omega))

mutual

theorem pairwise_addresses : (tree : Tree α) → tree.addresses.Pairwise (· < ·)
  | node _ children => by
    rw [addresses]
    exact pairwise_addressesFrom 0 children

private theorem pairwise_addressesFrom (i : Nat) : (trees : List (Tree α)) →
    (addressesFrom i trees).Pairwise (· < ·)
  | [] => by rw [addressesFrom]; exact List.Pairwise.nil
  | tree :: trees => by
    rw [addressesFrom, List.pairwise_cons, List.pairwise_append, List.pairwise_map]
    refine ⟨?_, ?_, pairwise_addressesFrom (i + 1) trees, ?_⟩
    · intro address member
      rcases List.mem_append.mp member with member | member
      · obtain ⟨rest, hrest, rfl⟩ := List.mem_map.mp member
        obtain ⟨j, tail, rfl⟩ :=
          List.exists_cons_of_ne_nil ((mem_addresses_iff tree rest).mp hrest).1
        exact List.cons_lt_cons_iff.mpr (Or.inr ⟨rfl, List.nil_lt_cons j tail⟩)
      · exact head_lt_of_mem_addressesFrom member (Nat.lt_succ_self i)
    · exact (pairwise_addresses tree).imp fun less =>
        List.cons_lt_cons_iff.mpr (Or.inr ⟨rfl, less⟩)
    · intro s hs t ht
      obtain ⟨rest, -, rfl⟩ := List.mem_map.mp hs
      exact head_lt_of_mem_addressesFrom ht (Nat.lt_succ_self i)

end

/-! ### Walks as listings by address -/

private theorem isOpenAt_single (closed : α → Bool) (tree : Tree α) (i : Nat) :
    tree.isOpenAt closed [i] = true := by
  rw [isOpenAt, between]
  · rfl
  · intro j k rest h
    exact absurd h (by simp)

private theorem isOpenAt_cons (closed : α → Bool) {tree child : Tree α} {i : Nat}
    {address : List Nat} (hchild : tree.children[i]? = some child) (hne : address ≠ []) :
    tree.isOpenAt closed (i :: address) =
      (!closed child.value && child.isOpenAt closed address) := by
  obtain ⟨j, rest, rfl⟩ := List.exists_cons_of_ne_nil hne
  rw [isOpenAt, between, hchild]
  rfl

mutual

private theorem scopedPreorder_eq_filterMap (closed : α → Bool) : (tree : Tree α) →
    tree.scopedPreorder closed = (tree.addresses.filter (tree.isOpenAt closed)).filterMap tree.at?
  | node a children => by
    rw [scopedPreorder, addresses]
    exact scopedPreorders_eq_filterMap closed a [] children

private theorem scopedPreorders_eq_filterMap (closed : α → Bool) (a : α) (before : List (Tree α)) :
    (trees : List (Tree α)) →
    scopedPreorders closed trees =
      ((addressesFrom before.length trees).filter
        ((node a (before ++ trees)).isOpenAt closed)).filterMap (node a (before ++ trees)).at?
  | [] => by rw [scopedPreorders, addressesFrom]; rfl
  | tree :: trees => by
    have hchild : (node a (before ++ tree :: trees)).children[before.length]? = some tree := by
      rw [children_node, List.getElem?_append_right (Nat.le_refl _), Nat.sub_self]
      rfl
    have hat (address : List Nat) :
        (node a (before ++ tree :: trees)).at? (before.length :: address) = tree.at? address := by
      rw [at?_cons, hchild]
      rfl
    have rest := scopedPreorders_eq_filterMap closed a (before ++ [tree]) trees
    rw [List.append_assoc, List.singleton_append, List.length_append, List.length_singleton] at rest
    have below : (if closed tree.value then [] else tree.scopedPreorder closed) =
        ((tree.addresses.map (before.length :: ·)).filter
          ((node a (before ++ tree :: trees)).isOpenAt closed)).filterMap
            (node a (before ++ tree :: trees)).at? := by
      rw [List.filter_map, List.filterMap_map]
      have hopen : ∀ address ∈ tree.addresses,
          ((node a (before ++ tree :: trees)).isOpenAt closed ∘ (before.length :: ·)) address =
            (!closed tree.value && tree.isOpenAt closed address) := fun address member =>
        isOpenAt_cons closed hchild ((mem_addresses_iff tree address).mp member).1
      rw [List.filter_congr hopen]
      have hcomp : (node a (before ++ tree :: trees)).at? ∘ (before.length :: ·) = tree.at? :=
        funext hat
      rw [hcomp]
      cases closed tree.value with
      | true => simp
      | false => simpa using scopedPreorder_eq_filterMap closed tree
    rw [scopedPreorders, addressesFrom, List.filter_cons_of_pos (isOpenAt_single closed _ _),
      List.filterMap_cons_some (by rw [hat, at?_nil]), List.filter_append, List.filterMap_append,
      ← rest, ← below]

end

theorem scopedDescendants_eq_filterMap (closed : α → Bool) (tree : Tree α) :
    tree.scopedDescendants closed =
      (tree.addresses.filter (tree.isOpenAt closed)).filterMap tree.at? := by
  rw [scopedDescendants_eq_scopedPreorder, scopedPreorder_eq_filterMap]

theorem descendants_eq_filterMap (tree : Tree α) :
    tree.descendants = tree.addresses.filterMap tree.at? := by
  have allOpen : tree.addresses.filter (tree.isOpenAt fun _ => false) = tree.addresses :=
    List.filter_eq_self.mpr fun address _ => List.all_eq_true.mpr fun _ _ => rfl
  rw [descendants_eq_scopedDescendants, scopedDescendants_eq_filterMap, allOpen]

end Outline.Tree

/-! ## Scopes partition a tree

The root and the closed nodes below it are the scopes of a tree, and a scope owns what the scoped
walk from it lists. The walk of a closed node is left out of the walk around it and taken up again
where the node is a scope itself, so the walks of all scopes list what the plain walk lists, in
another order.

Nodes that look alike may stand at several addresses. Said by address, every node below the root has
exactly one owner: the last scope on the way to it.
-/

namespace Outline.Tree

universe u

variable {α : Type u}

/-! ### The walks of all scopes -/

/-- What the closed ones among some nodes own, one after the other. -/
def ownedByClosed (closed : α → Bool) (nodes : List (Tree α)) : List (Tree α) :=
  (nodes.filter fun node => closed node.value).flatMap (scopedPreorder closed)

private theorem ownedByClosed_cons (closed : α → Bool) (node : Tree α) (nodes : List (Tree α)) :
    ownedByClosed closed (node :: nodes) =
      (if closed node.value then node.scopedPreorder closed else []) ++
        ownedByClosed closed nodes := by
  rw [ownedByClosed, List.filter_cons]
  split_ifs
  · rw [List.flatMap_cons, ownedByClosed]
  · rw [List.nil_append, ownedByClosed]

private theorem ownedByClosed_append (closed : α → Bool) (nodes more : List (Tree α)) :
    ownedByClosed closed (nodes ++ more) = ownedByClosed closed nodes ++
      ownedByClosed closed more := by
  rw [ownedByClosed, ownedByClosed, ownedByClosed, List.filter_append, List.flatMap_append]

mutual

/-- What lies below a tree belongs to the tree or to a closed node below it. -/
theorem preorder_perm_owned (closed : α → Bool) : (tree : Tree α) →
    tree.preorder.Perm (tree.scopedPreorder closed ++ ownedByClosed closed tree.preorder)
  | node _ trees => by
    rw [preorder, scopedPreorder]
    exact preorders_perm_owned closed trees

private theorem preorders_perm_owned (closed : α → Bool) : (trees : List (Tree α)) →
    (preorders trees).Perm (scopedPreorders closed trees ++ ownedByClosed closed (preorders trees))
  | [] => by
    rw [preorders, scopedPreorders]
    exact List.Perm.refl _
  | tree :: trees => by
    have inside := preorder_perm_owned closed tree
    have rest := preorders_perm_owned closed trees
    rw [preorders, scopedPreorders, ownedByClosed_cons, ownedByClosed_append, List.cons_append]
    refine List.Perm.cons tree ((inside.append rest).trans ?_)
    rw [List.append_assoc]
    refine ((List.perm_append_comm_assoc _ _ _).append_left _).trans ?_
    -- the walk of the first tree is its own if it is closed, and else the one of the scope around
    split_ifs
    · rw [List.nil_append]
      exact List.perm_append_comm_assoc _ _ _
    · rw [List.nil_append, List.append_assoc]

end

private theorem descendants_perm_scopes (closed : α → Bool) (tree : Tree α) :
    tree.descendants.Perm (tree.scopedDescendants closed ++
      (tree.descendants.filter fun node => closed node.value).flatMap
        (scopedDescendants closed)) := by
  have walks : scopedDescendants closed = scopedPreorder closed :=
    funext (scopedDescendants_eq_scopedPreorder closed)
  rw [walks, descendants_eq_preorder]
  exact preorder_perm_owned closed tree

/-! ### Owners by address -/

def scopedAddresses (closed : α → Bool) (tree : Tree α) : List (List Nat) :=
  tree.addresses.filter (tree.isOpenAt closed)

/-- Whether the node at one address owns the node at another: it is the root or closed, and the walk
from it lists the other node. -/
def Owns (closed : α → Bool) (tree : Tree α) (owner address : List Nat) : Prop :=
  ∃ scope below, tree.at? owner = some scope ∧ (owner = [] ∨ closed scope.value = true) ∧
    below ∈ scope.scopedAddresses closed ∧ address = owner ++ below

private theorem at?_append (tree : Tree α) (address more : List Nat) :
    tree.at? (address ++ more) = tree.at? address >>= (at? · more) := by
  induction address generalizing tree with
  | nil => rw [List.nil_append, at?_nil, Option.bind_eq_bind, Option.bind_some]
  | cons i address ih =>
    rw [List.cons_append, at?_cons, at?_cons]
    cases tree.children[i]? with
    | none => rfl
    | some child => exact ih child

private theorem mem_addresses_cons_iff {tree : Tree α} {i : Nat} {address : List Nat} :
    i :: address ∈ tree.addresses ↔
      ∃ child, tree.children[i]? = some child ∧ (address = [] ∨ address ∈ child.addresses) := by
  rw [mem_addresses_iff, at?_cons]
  cases tree.children[i]? with
  | none => simp
  | some child =>
    by_cases last : address = []
    · simp [last, at?_nil]
    · simp [last, mem_addresses_iff]

private theorem owns_nil_iff {closed : α → Bool} {tree : Tree α} {address : List Nat} :
    Owns closed tree [] address ↔ address ∈ tree.scopedAddresses closed := by
  constructor
  · rintro ⟨scope, below, found, -, listed, rfl⟩
    rw [at?_nil] at found
    exact Option.some.inj found ▸ listed
  · intro listed
    exact ⟨tree, address, at?_nil tree, .inl rfl, listed, rfl⟩

private theorem Owns.mem_addresses {closed : α → Bool} {tree : Tree α} {owner address : List Nat}
    (owns : Owns closed tree owner address) : address ∈ tree.addresses := by
  obtain ⟨scope, below, found, -, listed, rfl⟩ := owns
  obtain ⟨further, there⟩ := (mem_addresses_iff scope below).mp (List.mem_filter.mp listed).1
  refine (mem_addresses_iff tree _).mpr ⟨List.append_ne_nil_of_right_ne_nil owner further, ?_⟩
  rw [at?_append, found]
  exact there

private theorem Owns.eq_nil_or_cons {closed : α → Bool} {tree : Tree α} {owner address : List Nat}
    {i : Nat}
    (owns : Owns closed tree owner (i :: address)) : owner = [] ∨ ∃ further,
      owner = i :: further := by
  obtain ⟨-, below, -, -, -, same⟩ := owns
  cases owner with
  | nil => exact .inl rfl
  | cons j further => exact .inr ⟨further, by rw [(List.cons.inj same).1]⟩

section Child

variable {closed : α → Bool} {tree child : Tree α} {i : Nat} (here : tree.children[i]? = some child)

include here

private theorem singleton_mem_scopedAddresses : [i] ∈ tree.scopedAddresses closed :=
  List.mem_filter.mpr ⟨mem_addresses_cons_iff.mpr ⟨child, here, .inl rfl⟩,
    isOpenAt_single closed tree i⟩

private theorem cons_mem_scopedAddresses_iff {address : List Nat} (further : address ≠ []) :
    i :: address ∈ tree.scopedAddresses closed ↔
      closed child.value = false ∧ address ∈ child.scopedAddresses closed := by
  rw [scopedAddresses, List.mem_filter, scopedAddresses, List.mem_filter,
    isOpenAt_cons closed here further, mem_addresses_cons_iff, here]
  simp only [Option.some.injEq, exists_eq_left', further, false_or, Bool.and_eq_true,
    Bool.not_eq_true']
  tauto

private theorem owns_cons_iff {owner address : List Nat} :
    Owns closed tree (i :: owner) (i :: address) ↔
      Owns closed child owner address ∧ (owner = [] → closed child.value = true) := by
  have there : tree.at? (i :: owner) = child.at? owner := by rw [at?_cons, here]; rfl
  constructor
  · rintro ⟨scope, below, found, isScope, listed, same⟩
    rw [there] at found
    have closedHere : closed scope.value = true := isScope.resolve_left (List.cons_ne_nil _ _)
    refine ⟨⟨scope, below, found, .inr closedHere, listed, List.cons.inj same |>.2⟩, ?_⟩
    rintro rfl
    rw [at?_nil] at found
    rwa [Option.some.inj found]
  · rintro ⟨⟨scope, below, found, isScope, listed, rfl⟩, ofChild⟩
    refine ⟨scope, below, there.trans found, .inr ?_, listed, rfl⟩
    rcases isScope with rfl | closedHere
    · rw [at?_nil] at found
      exact Option.some.inj found ▸ ofChild rfl
    · exact closedHere

private theorem existsUnique_owner_single : ∃! owner, Owns closed tree owner [i] := by
  refine ⟨[], owns_nil_iff.mpr (singleton_mem_scopedAddresses here), fun other owns => ?_⟩
  rcases owns.eq_nil_or_cons with rfl | ⟨further, rfl⟩
  · rfl
  · have below := ((owns_cons_iff here).mp owns).1.mem_addresses
    exact absurd rfl ((mem_addresses_iff child []).mp below).1

/-- The owner seen from a child is the owner, unless it is the child itself and no scope; then it is
the root. -/
theorem existsUnique_owner_cons {address : List Nat} (further : address ≠ [])
    (fromChild : ∃! owner, Owns closed child owner address) :
    ∃! owner, Owns closed tree owner (i :: address) := by
  obtain ⟨owner, owns, only⟩ := fromChild
  by_cases passed : owner = [] ∧ closed child.value = false
  · obtain ⟨rfl, isOpen⟩ := passed
    have listed := owns_nil_iff.mp owns
    refine ⟨[], owns_nil_iff.mpr ((cons_mem_scopedAddresses_iff here further).mpr ⟨isOpen, listed⟩),
      ?_⟩
    intro other ownsToo
    rcases ownsToo.eq_nil_or_cons with rfl | ⟨rest, rfl⟩
    · rfl
    · obtain ⟨below, ofChild⟩ := (owns_cons_iff here).mp ownsToo
      have isClosed := ofChild (only rest below)
      rw [isOpen] at isClosed
      exact absurd isClosed Bool.false_ne_true
  · have ofChild : owner = [] → closed child.value = true := fun none =>
      Bool.of_not_eq_false fun isOpen => passed ⟨none, isOpen⟩
    refine ⟨i :: owner, (owns_cons_iff here).mpr ⟨owns, ofChild⟩, ?_⟩
    intro other ownsToo
    rcases ownsToo.eq_nil_or_cons with rfl | ⟨rest, rfl⟩
    · obtain ⟨isOpen, listed⟩ :=
        (cons_mem_scopedAddresses_iff here further).mp (owns_nil_iff.mp ownsToo)
      exact absurd ⟨(only [] (owns_nil_iff.mpr listed)).symm, isOpen⟩ passed
    · rw [only rest ((owns_cons_iff here).mp ownsToo).1]

end Child

private theorem existsUnique_owner (closed : α → Bool) {tree : Tree α} {address : List Nat}
    (member : address ∈ tree.addresses) : ∃! owner, Owns closed tree owner address := by
  induction address generalizing tree with
  | nil => exact absurd rfl ((mem_addresses_iff tree []).mp member).1
  | cons i address ih =>
    obtain ⟨child, here, reached⟩ := mem_addresses_cons_iff.mp member
    by_cases last : address = []
    · rw [last]
      exact existsUnique_owner_single here
    · exact existsUnique_owner_cons here last (ih (reached.resolve_left last))

private theorem mem_addresses_iff_existsUnique_owner (closed : α → Bool) (tree : Tree α)
    (address : List Nat) :
    address ∈ tree.addresses ↔ ∃! owner, Owns closed tree owner address :=
  ⟨existsUnique_owner closed, fun ⟨_, owns, _⟩ => owns.mem_addresses⟩

end Outline.Tree

/-! ### Trees of declarations -/

namespace Outline.Declaration

/-- The kinds of declarations that own the members below them. -/
def scopeKinds : List Kind := [.classType, .interfaceType, .enumType, .otherType]

theorem isScope_eq_decide (kind : Kind) : kind.isScope = decide (kind ∈ scopeKinds) := by
  cases kind <;> decide

/-- The plain walk lists what the root's scoped walk lists and what the scoped walks of all types
below it list, in another order. By address: the walks list the nodes at addresses, the plain one
those of all descendants, and an address is one of a descendant exactly if it has one owner among
the root and the types. -/
theorem scopes_partition (root : Node) :
    root.descendants.Perm (root.scopedDescendants isScope ++
      (root.descendants.filter fun node => decide (node.value.kind ∈ scopeKinds)).flatMap
        fun scope =>
        scope.scopedDescendants isScope) ∧
    root.descendants = root.addresses.filterMap root.at? ∧
    (∀ scope : Node,
      scope.scopedDescendants isScope = (scope.scopedAddresses isScope).filterMap scope.at?) ∧
    ∀ address, address ∈ root.addresses ↔ ∃! owner, root.Owns isScope owner address := by
  refine ⟨?_, Tree.descendants_eq_filterMap root, Tree.scopedDescendants_eq_filterMap isScope,
    Tree.mem_addresses_iff_existsUnique_owner isScope root⟩
  simp only [← isScope_eq_decide]
  exact Tree.descendants_perm_scopes isScope root

end Outline.Declaration
