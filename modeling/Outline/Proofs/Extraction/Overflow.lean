import Outline.Proofs.Extraction.Accounting
import Outline.Proofs.Literal.Quoted
import Outline.Proofs.Tree.Walk

/-!
When extraction from a parse tree fails.

Of all the ways in which a literal cannot be read only one is not forgiven: an escape whose number
overflows. A literal has no value exactly if it is quoted and runs into such an escape, and a tree
has no outline exactly if a named enum that shows has a named member of its own with such a literal.
Everything else gives an outline.
-/

set_option autoImplicit false

namespace Outline

namespace Literal

def IsQuotedType (type : Text) : Prop :=
  type = Text.ofString "character_literal" ∨ type = Text.ofString "string_literal"

private theorem exists_of_mapError_eq {ε δ α : Type} {f : ε → δ} {x : Except ε α} {e : δ}
    (failed : x.mapError f = .error e) : ∃ cause, x = .error cause ∧ f cause = e := by
  cases x with
  | error cause => exact ⟨cause, rfl, Except.error.inj failed⟩
  | ok a => exact absurd failed (by simp [Except.mapError])

private theorem decodeInteger_ne_overflow (text : Text) :
    decodeInteger text ≠ .error (.escape .overflow) := by
  intro failed
  obtain ⟨cause, -, same⟩ := exists_of_mapError_eq failed
  exact absurd same (by simp)

private theorem decodeReal_ne_overflow (text : Text) :
    decodeReal text ≠ .error (.escape .overflow) := by
  intro failed
  rw [decodeReal] at failed
  split at failed
  split_ifs at failed
  · obtain ⟨cause, -, same⟩ := exists_of_mapError_eq failed
    exact absurd same (by simp)
  · dsimp only at failed
    split at failed <;> simp at failed

private theorem decodeQuoted_eq_overflow_iff (text : Text) :
    decodeQuoted text = .error (.escape .overflow) ↔ Escape.Overflowing (inner text) := by
  rw [← Escape.decode_eq_overflow_iff, decodeQuoted]
  constructor
  · intro failed
    obtain ⟨cause, found, same⟩ := exists_of_mapError_eq failed
    rw [found, Flaw.escape.inj same]
  · intro found
    rw [found]
    rfl

private theorem decode_eq_overflow_iff (kind : Kind) (text : Text) :
    decode kind text = .error (.escape .overflow) ↔
      (kind = .character ∨ kind = .string) ∧ Escape.Overflowing (inner text) := by
  cases kind with
  | integer => simp [decode, decodeInteger_ne_overflow]
  | real => simp [decode, decodeReal_ne_overflow]
  | character => simp [decode, decodeQuoted_eq_overflow_iff]
  | string => simp [decode, decodeQuoted_eq_overflow_iff]
  | verbatim => simp [decode]
  | raw => simp [decode]

private theorem ofType?_quoted_iff (type : Text) :
    (Kind.ofType? type = some .character ∨ Kind.ofType? type = some .string) ↔
      IsQuotedType type := by
  constructor
  · unfold Kind.ofType?
    split_ifs <;> simp_all [IsQuotedType]
  · rintro (rfl | rfl)
    · exact Or.inl (by decide)
    · exact Or.inr (by decide)

private theorem value?_eq_none_iff (type text : Text) :
    value? type text = none ↔ IsQuotedType type ∧ Escape.Overflowing (inner text) := by
  rw [← ofType?_quoted_iff, value?]
  cases found : Kind.ofType? type with
  | none => simp
  | some kind =>
    simp only [Option.some.injEq]
    rw [← decode_eq_overflow_iff]
    split <;> simp_all

private theorem value?_of_error {type text : Text} {kind : Kind} {flaw : Flaw}
    (found : Kind.ofType? type = some kind) (failed : decode kind text = .error flaw)
    (forgiven : flaw ≠ .escape .overflow) : value? type text = some text := by
  simp only [value?, found, failed]

end Literal

namespace Model

open Declaration (Node Kind)

private theorem mem_named_ofKind_iff {kind : Kind} {nodes : List Node} {node : Node} :
    node ∈ named (ofKind kind nodes) ↔
      node ∈ nodes ∧ node.value.kind = kind ∧ node.value.isNamed = true := by
  rw [named, ofKind, List.mem_filter, List.mem_filter, decide_eq_true_iff, and_assoc]

/-- Building fails exactly on a named member that a named enum owns and that overflows. -/
theorem buildOverflows_iff (root : Node) :
    buildOverflows root = true ↔
      ∃ enum ∈ root.preorder, enum.value.kind = .enumType ∧ enum.value.isNamed = true ∧
        ∃ member ∈ enum.scopedPreorder Declaration.isScope,
          member.value.kind = .enumMember ∧ member.value.isNamed = true ∧
            member.value.initializer = some .overflow := by
  simp only [buildOverflows, List.any_eq_true, declarations, mem_named_ofKind_iff, enumOverflows,
    enumMembers, members, Bool.false_eq_true, ↓reduceIte, overflows, decide_eq_true_iff,
    Tree.descendants_eq_preorder, Tree.scopedDescendants_eq_scopedPreorder, and_assoc]

end Model

namespace ParseTree

open Declaration (Kind)

def isScope (tree : ParseTree) : Bool := (kindOf tree.value.type).isScope

/-- Whether the initializer of an enum member is a quoted literal with an escape that overflows. -/
def OverflowsAt (member : ParseTree) : Prop :=
  ∃ expression, initializerNode? member = some expression ∧
    Literal.IsQuotedType expression.value.type ∧
      Literal.Escape.Overflowing (Literal.inner ((text? expression).getD []))

/-- Whether a named enum that shows owns a named member that overflows. -/
def HasOverflow (bodies : Bool) (tree : ParseTree) : Prop :=
  ∃ enum ∈ (expose bodies tree).preorder,
    kindOf enum.value.value.type = .enumType ∧ (nameOf enum.value).isSome ∧
      ∃ member ∈ enum.scopedPreorder isScope,
        kindOf member.value.value.type = .enumMember ∧ (nameOf member.value).isSome ∧
          OverflowsAt member.value

private theorem nonEmpty_nonEmpty :
    (t : Option Text) → Text.nonEmpty (Text.nonEmpty t) = Text.nonEmpty t
  | none | some [] | some (_ :: _) => rfl

private theorem nonEmpty_nameOf (tree : ParseTree) : Text.nonEmpty (nameOf tree) = nameOf tree := by
  rw [nameOf]
  split_ifs <;> exact nonEmpty_nonEmpty _

private theorem isNamed_eq_isSome (d : Declaration) :
    d.isNamed = (Text.nonEmpty d.name).isSome := by
  rw [Declaration.isNamed]
  match d.name with
  | none | some [] | some (_ :: _) => rfl

private theorem isNamed_declaration (tree : ParseTree) :
    (declaration tree).isNamed = (nameOf tree).isSome := by
  rw [isNamed_eq_isSome, declaration, nonEmpty_nameOf]

private theorem isLiteralType_of_isQuotedType {type : Text} (quoted : Literal.IsQuotedType type) :
    Literal.isLiteralType type = true := by
  rcases quoted with rfl | rfl <;> decide

private theorem initializerOf_eq_overflow_iff (tree : ParseTree) :
    initializerOf tree = some .overflow ↔
      kindOf tree.value.type = .enumMember ∧ OverflowsAt tree := by
  rw [initializerOf]
  split_ifs with member
  · rw [Option.map_eq_some_iff]
    simp only [member, true_and, OverflowsAt, ← Literal.value?_eq_none_iff]
    refine exists_congr fun expression => and_congr_right fun _ => ?_
    constructor
    · intro same
      split_ifs at same with literal
      split at same
      · exact absurd same (by simp)
      · assumption
    · intro none
      have quoted := ((Literal.value?_eq_none_iff _ _).mp none).1
      rw [if_pos (isLiteralType_of_isQuotedType quoted), none]
  · simp [member]

private theorem buildOverflows_view_iff (bodies : Bool) (tree : ParseTree) :
    Model.buildOverflows (tree.view bodies) = true ↔ HasOverflow bodies tree := by
  have scope : Declaration.isScope ∘ declaration = isScope := rfl
  rw [Model.buildOverflows_iff, view, HasOverflow, ← Tree.descendants_eq_preorder,
    Tree.descendants_map]
  simp only [List.mem_map, exists_exists_and_eq_and, Tree.value_map, isNamed_declaration,
    Tree.scopedPreorder_map, scope, Tree.descendants_eq_preorder]
  refine exists_congr fun enum => and_congr_right fun _ => and_congr_right fun _ =>
    and_congr_right fun _ => exists_congr fun member => and_congr_right fun _ =>
      and_congr_right fun kind => and_congr_right fun _ => ?_
  exact (initializerOf_eq_overflow_iff member.value).trans (and_iff_right kind)

end ParseTree

namespace Extraction

/-- Extraction gives an outline exactly if no enum member in the tree overflows, and otherwise fails
with the overflow. A token has no value exactly if it is a quoted literal with an escape that
overflows, and a literal that cannot be read for any other reason is kept as written. -/
theorem extractTree_ok_iff_no_overflow (tree : ParseTree) (path : Text) (legacy : Bool) :
    ((extractTree tree path legacy).result = .ok (Model.build (tree.view legacy) path legacy) ↔
      ¬tree.HasOverflow legacy) ∧
    ((extractTree tree path legacy).result = .error .overflow ↔ tree.HasOverflow legacy) ∧
    ∀ type text : Text,
      (Literal.value? type text = none ↔
        Literal.IsQuotedType type ∧ Literal.Escape.Overflowing (Literal.inner text)) ∧
      ∀ kind flaw, Literal.Kind.ofType? type = some kind → Literal.decode kind text = .error flaw →
        flaw ≠ .escape .overflow → Literal.value? type text = some text := by
  refine ⟨?_, ?_, fun type text => ⟨Literal.value?_eq_none_iff type text, ?_⟩⟩
  · rw [result_extractTree, outline, ← ParseTree.buildOverflows_view_iff]
    split_ifs with overflow <;> simp [overflow]
  · rw [result_extractTree, outline, ← ParseTree.buildOverflows_view_iff]
    split_ifs with overflow <;> simp [overflow]
  · intro kind flaw found failed forgiven
    exact Literal.value?_of_error found failed forgiven

/-- An enum with a member whose literal names a number too large for an escape. -/
def overflowingEnum : ParseTree := enumOf "\"\\U80000000\""

theorem extractTree_overflowingEnum :
    Literal.value? "string_literal" "\"\\U80000000\"" = none ∧
      (extractTree overflowingEnum "F.cs" false).result = .error .overflow := by
  rw [result_extractTree]
  decide +kernel

theorem overflowingEnum_hasOverflow :
    overflowingEnum.HasOverflow false ∧
      Literal.value? "string_literal" "\"\\U00110000\"" =
        some (Text.ofString "\"\\U00110000\"") := by
  obtain ⟨-, fails, literals⟩ := extractTree_ok_iff_no_overflow overflowingEnum "F.cs" false
  refine ⟨fails.mp (by rw [result_extractTree]; decide +kernel), ?_⟩
  exact (literals _ _).2 .string (.escape .beyondUnicode) (by decide) (by decide +kernel)
    (by decide)

end Extraction

end Outline
