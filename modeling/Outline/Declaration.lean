import Outline.Text.Basic

/-!
Finite trees with values at their nodes, and two ways to list what lies below a node.

`descendants` lists every proper descendant in depth-first pre-order. `scopedDescendants` does the
same but does not enter a node at which a test holds; such a node is itself listed. Both keep a
stack of the trees still to be visited, so that a deep tree costs no more than a wide one;
`preorder` and `scopedPreorder` are the same lists by recursion on the tree.
-/

set_option autoImplicit false

namespace Outline

universe u v

inductive Tree (α : Type u)
  | node (value : α) (children : List (Tree α))

namespace Tree

variable {α : Type u} {β : Type v}

def value : Tree α → α
  | node value _ => value

def children : Tree α → List (Tree α)
  | node _ children => children

mutual

def size : Tree α → Nat
  | node _ children => 1 + sizes children

def sizes : List (Tree α) → Nat
  | [] => 0
  | tree :: trees => tree.size + sizes trees

end

theorem sizes_append (s t : List (Tree α)) : sizes (s ++ t) = sizes s + sizes t := by
  induction s with
  | nil => simp [sizes]
  | cons tree trees ih => simp [sizes, ih, Nat.add_assoc]

theorem sizes_reverse (trees : List (Tree α)) : sizes trees.reverse = sizes trees := by
  induction trees with
  | nil => rfl
  | cons tree trees ih =>
    rw [List.reverse_cons, sizes_append, ih]
    simp only [sizes]
    omega

theorem size_eq (tree : Tree α) : tree.size = 1 + sizes tree.children := by
  cases tree; simp [size, children]

/-- Visits the trees on a stack, the children of each before what lay under it. -/
def visit : List (Tree α) → List (Tree α)
  | [] => []
  | tree :: stack => tree :: visit (tree.children ++ stack)
termination_by stack => sizes stack
decreasing_by simp only [sizes, size_eq, sizes_append]; omega

/-- Visits the trees on a stack without entering those at which a test holds. -/
def visitScoped (closed : α → Bool) : List (Tree α) → List (Tree α)
  | [] => []
  | tree :: stack =>
    tree :: visitScoped closed (if closed tree.value then stack else tree.children ++ stack)
termination_by stack => sizes stack
decreasing_by
  split
  · simp only [sizes, size_eq]; omega
  · simp only [sizes, size_eq, sizes_append]; omega

def descendants (tree : Tree α) : List (Tree α) := visit tree.children

/-- The proper descendants outside closed subtrees, in depth-first pre-order; the root is entered
whatever it is. -/
def scopedDescendants (closed : α → Bool) (tree : Tree α) : List (Tree α) :=
  visitScoped closed tree.children

mutual

def preorder : Tree α → List (Tree α)
  | node _ children => preorders children

def preorders : List (Tree α) → List (Tree α)
  | [] => []
  | tree :: trees => tree :: (preorder tree ++ preorders trees)

end

mutual

def scopedPreorder (closed : α → Bool) : Tree α → List (Tree α)
  | node _ children => scopedPreorders closed children

/-- Trees, each followed by its proper descendants unless it is closed. -/
def scopedPreorders (closed : α → Bool) : List (Tree α) → List (Tree α)
  | [] => []
  | tree :: trees =>
    tree :: ((if closed tree.value then [] else scopedPreorder closed tree)
      ++ scopedPreorders closed trees)

end

mutual

def map (f : α → β) : Tree α → Tree β
  | node value children => node (f value) (mapAll f children)

def mapAll (f : α → β) : List (Tree α) → List (Tree β)
  | [] => []
  | tree :: trees => map f tree :: mapAll f trees

end

def at? : Tree α → List Nat → Option (Tree α)
  | tree, [] => some tree
  | tree, i :: path => tree.children[i]? >>= (at? · path)

end Tree

/-! ### Declarations

Declarations: the nodes of a source file that an outline is made of.

A declaration has a kind, perhaps a name, modifier keywords and a type, and, for an enum member,
perhaps an initializer. Classes, interfaces and enums are outlined; they and the other types
(structs and records) own the members below them.
-/

namespace Declaration

/-- The kinds of nodes that an outline tells apart. -/
inductive Kind
  | classType | interfaceType | enumType | property | method | constructor | parameter | enumMember
  | otherType | other
  deriving DecidableEq, Repr

def Kind.name : Kind → String
  | .classType => "class"
  | .interfaceType => "interface"
  | .enumType => "enum"
  | .property => "property"
  | .method => "method"
  | .constructor => "constructor"
  | .parameter => "parameter"
  | .enumMember => "enum_member"
  | .otherType => "other_type"
  | .other => "other"

def Kind.isType : Kind → Bool
  | .classType | .interfaceType | .enumType => true
  | _ => false

def Kind.isScope : Kind → Bool
  | .classType | .interfaceType | .enumType | .otherType => true
  | _ => false

/-- What stands behind the equals sign of an enum member. -/
inductive Initializer
  | literal (value : Text)
  | expression (text : Text)
  /-- A literal without a value: an escape in it overflows. -/
  | overflow
  deriving DecidableEq, Repr

end Declaration

structure Declaration where
  kind : Declaration.Kind
  /-- The name, where one was recovered; it may still be empty. -/
  name : Option Text := none
  /-- The modifier keywords, as a strictly increasing list. -/
  modifiers : List Text := []
  /-- The type as written: of a property or parameter, or the return type of a method. -/
  type : Option Text := none
  initializer : Option Declaration.Initializer := none
  /-- What is remarked each time the name is read, if anything. -/
  nameRemark : Option Text := none
  /-- What is remarked each time the initializer is read, if anything. -/
  initializerRemark : Option Text := none
  deriving DecidableEq, Repr

namespace Declaration

abbrev Node := Tree Declaration

def isNamed (d : Declaration) : Bool :=
  match d.name with
  | some (_ :: _) => true
  | _ => false

def isScope (d : Declaration) : Bool := d.kind.isScope

def blank : Declaration := ⟨.other, none, [], none, none, none, none⟩

def wrap : Nat → Node → Node
  | 0, node => node
  | n + 1, node => .node blank [wrap n node]

end Declaration

/-! ### Modifiers

Modifier keywords: the one class that a set of keywords falls into, and which members are eligible.
-/

/-- The classes of modifiers; each declaration has exactly one. -/
inductive Modifier
  | staticKind | publicKind | internalKind | protectedKind | privateKind
  deriving DecidableEq, Repr

namespace Modifier

def name : Modifier → String
  | .staticKind => "Static"
  | .publicKind => "Public"
  | .internalKind => "Internal"
  | .protectedKind => "Protected"
  | .privateKind => "Private"

def ofName? (t : Text) : Option Modifier :=
  [Modifier.staticKind, .publicKind, .internalKind, .protectedKind, .privateKind].find? fun m =>
    decide (Text.ofString m.name = t)

/-- The keywords that decide the class, the first one present winning. -/
def rules : List (Text × Modifier) :=
  [("static", .staticKind), ("public", .publicKind), ("internal", .internalKind),
    ("protected", .protectedKind)]

/-- The class of a set of keywords; without any that counts it is private. -/
def resolve (keywords : List Text) : Modifier :=
  match rules.find? fun rule => keywords.contains rule.1 with
  | some rule => rule.2
  | none => .privateKind

end Modifier

namespace Declaration

/-- The keywords of which an eligible member of a kind has at least one; a kind without a rule is
always eligible. -/
def requiredKeywords? : Kind → Option (List Text)
  | .property => some ["public", "internal", "protected"]
  | .method | .constructor => some ["public"]
  | _ => none

/-- Whether a declaration is eligible. A member with no accessibility keyword is not. -/
def isVisible (d : Declaration) : Bool :=
  match requiredKeywords? d.kind with
  | none => true
  | some required => required.any d.modifiers.contains

end Declaration

end Outline
