import Mathlib.Data.List.Forall2
import Mathlib.Tactic.SplitIfs
import Outline.Text.Basic

/-!
Texts: their order and their pieces.
-/

set_option autoImplicit false

/-! ## The order of texts

Texts are compared code point by code point, so the order is the lexicographic one. Sorting texts
that are all different gives the strictly increasing list of them, and such a list is known by its
elements. A set of texts is kept as such a list, whatever the order and the repetitions of the texts
it is made of.
-/

namespace Outline

namespace Sorting

universe u

variable {α : Type u} (le : α → α → Bool)

private theorem insert_perm (a : α) (l : List α) : (insert le a l).Perm (a :: l) := by
  induction l with
  | nil => exact List.Perm.refl _
  | cons b l ih =>
    rw [insert]
    split_ifs
    · exact List.Perm.refl _
    · exact (ih.cons b).trans (List.Perm.swap a b l)

theorem sort_perm (l : List α) : (sort le l).Perm l := by
  induction l with
  | nil => exact List.Perm.refl _
  | cons a l ih => exact (insert_perm le a (sort le l)).trans (ih.cons a)

theorem forall₂_sort {β : Type u} {le' : β → β → Bool} {related : α → β → Prop}
    (agree : ∀ a b a' b', related a a' → related b b' → le a b = le' a' b') {l : List α}
      {m : List β}
    (alike : List.Forall₂ related l m) : List.Forall₂ related (sort le l) (sort le' m) := by
  have inserted (a : α) (a' : β) (same : related a a') {l : List α} {m : List β}
      (alike : List.Forall₂ related l m) :
      List.Forall₂ related (insert le a l) (insert le' a' m) := by
    induction alike with
    | nil => exact .cons same .nil
    | cons here later ih =>
      rw [insert, insert, agree _ _ _ _ same here]
      split_ifs
      · exact .cons same (.cons here later)
      · exact .cons here ih
  induction alike with
  | nil => exact .nil
  | cons here later ih => exact inserted _ _ here ih

variable {le} (total : ∀ a b, le a b = true ∨ le b a = true)
  (trans : ∀ a b c, le a b = true → le b c = true → le a c = true)

include total trans

private theorem insert_pairwise (a : α) {l : List α} (sorted : l.Pairwise (le · · = true)) :
    (insert le a l).Pairwise (le · · = true) := by
  induction l with
  | nil => exact List.pairwise_singleton _ a
  | cons b l ih =>
    obtain ⟨first, rest⟩ := List.pairwise_cons.mp sorted
    rw [insert]
    split_ifs with before
    · refine List.pairwise_cons.mpr ⟨fun c member => ?_, sorted⟩
      rcases List.mem_cons.mp member with rfl | later
      · exact before
      · exact trans a b c before (first c later)
    · refine List.pairwise_cons.mpr ⟨fun c member => ?_, ih rest⟩
      rcases List.mem_cons.mp ((insert_perm le a l).mem_iff.mp member) with rfl | old
      · exact (total c b).resolve_left before
      · exact first c old

private theorem sort_pairwise (l : List α) : (sort le l).Pairwise (le · · = true) := by
  induction l with
  | nil => exact List.Pairwise.nil
  | cons a l ih => exact insert_pairwise total trans a ih

omit total trans

variable [DecidableEq α]

private theorem mem_insertNew_iff {a b : α} {l : List α} :
    b ∈ insertNew le a l ↔ b = a ∨ b ∈ l := by
  induction l with
  | nil => rw [insertNew, List.mem_singleton, List.mem_nil_iff, or_false]
  | cons c l ih =>
    rw [insertNew]
    split_ifs with same
    · rw [same, List.mem_cons, or_self_left]
    · rw [List.mem_cons]
    · rw [List.mem_cons, ih, List.mem_cons, or_left_comm]

private theorem mem_sortNew_iff {b : α} {l : List α} : b ∈ sortNew le l ↔ b ∈ l := by
  induction l with
  | nil => rw [sortNew]
  | cons a l ih => rw [sortNew, mem_insertNew_iff, ih, List.mem_cons]

variable {less : α → α → Prop} (less_of_le : ∀ a b, le a b = true → a ≠ b → less a b)
  (less_trans : ∀ a b c, less a b → less b c → less a c)

include total less_of_le less_trans

private theorem insertNew_pairwise (a : α) {l : List α} (sorted : l.Pairwise less) :
    (insertNew le a l).Pairwise less := by
  induction l with
  | nil => exact List.pairwise_singleton _ a
  | cons b l ih =>
    obtain ⟨first, rest⟩ := List.pairwise_cons.mp sorted
    rw [insertNew]
    split_ifs with same before
    · exact sorted
    · have lower := less_of_le a b before same
      refine List.pairwise_cons.mpr ⟨fun c member => ?_, sorted⟩
      rcases List.mem_cons.mp member with rfl | later
      · exact lower
      · exact less_trans a b c lower (first c later)
    · refine List.pairwise_cons.mpr ⟨fun c member => ?_, ih rest⟩
      rcases mem_insertNew_iff.mp member with rfl | old
      · exact less_of_le b c ((total c b).resolve_left before) (Ne.symm same)
      · exact first c old

private theorem sortNew_pairwise (l : List α) : (sortNew le l).Pairwise less := by
  induction l with
  | nil => exact List.Pairwise.nil
  | cons a l ih => exact insertNew_pairwise total less_of_le less_trans a ih

end Sorting

namespace Text

private theorem le_total (s t : Text) : le s t = true ∨ le t s = true := by
  induction s generalizing t with
  | nil => exact .inl rfl
  | cons a s ih =>
    cases t with
    | nil => exact .inr rfl
    | cons b t =>
      simp only [le, Bool.or_eq_true, Bool.and_eq_true, decide_eq_true_iff]
      rcases Std.lt_trichotomy a b with less | rfl | more
      · exact .inl (.inl less)
      · exact (ih t).imp (fun rest => .inr ⟨rfl, rest⟩) fun rest => .inr ⟨rfl, rest⟩
      · exact .inr (.inl more)

private theorem le_trans (s t u : Text) (first : le s t = true) (second : le t u = true) :
    le s u = true := by
  induction s generalizing t u with
  | nil => rfl
  | cons a s ih =>
    cases t with
    | nil => exact absurd first (by simp [le])
    | cons b t =>
      cases u with
      | nil => exact absurd second (by simp [le])
      | cons c u =>
        simp only [le, Bool.or_eq_true, Bool.and_eq_true, decide_eq_true_iff] at first second ⊢
        rcases first with less | ⟨rfl, first⟩
        · rcases second with more | ⟨rfl, -⟩
          · exact .inl (Fin.lt_trans less more)
          · exact .inl less
        · rcases second with more | ⟨rfl, second⟩
          · exact .inl more
          · exact .inr ⟨rfl, ih t u first second⟩

private theorem lex_of_le_of_ne {s t : Text} (before : le s t = true) (different : s ≠ t) :
    List.Lex (· < ·) s t := by
  induction s generalizing t with
  | nil =>
    obtain ⟨b, t, rfl⟩ := List.exists_cons_of_ne_nil different.symm
    exact .nil
  | cons a s ih =>
    cases t with
    | nil => exact absurd before (by simp [le])
    | cons b t =>
      simp only [le, Bool.or_eq_true, Bool.and_eq_true, decide_eq_true_iff] at before
      rcases before with less | ⟨rfl, rest⟩
      · exact .rel less
      · exact .cons (ih rest fun same => different (congrArg (a :: ·) same))

theorem sort_pairwise_lex {texts : List Text} (different : texts.Nodup) :
    (sort texts).Pairwise (List.Lex (· < ·)) := by
  have sorted := Sorting.sort_pairwise le_total le_trans texts
  have nodup : (sort texts).Nodup := (Sorting.sort_perm le texts).nodup_iff.mpr different
  refine (sorted.and nodup).imp fun {s t} both => ?_
  exact lex_of_le_of_ne both.1 both.2

/-- A strictly increasing list is known by its elements. -/
theorem eq_of_mem_iff {first second : List Text} (sortedFirst : first.Pairwise (List.Lex (· < ·)))
    (sortedSecond : second.Pairwise (List.Lex (· < ·))) (same : ∀ t, t ∈ first ↔ t ∈ second) :
    first = second := by
  have nodup : ∀ {texts : List Text}, texts.Pairwise (List.Lex (· < ·)) → texts.Nodup := by
    intro texts sorted
    refine sorted.imp fun {s t} before equal => ?_
    subst equal
    exact List.lt_irrefl s before
  have perm : first.Perm second :=
    (List.perm_ext_iff_of_nodup (nodup sortedFirst) (nodup sortedSecond)).mpr same
  exact perm.eq_of_pairwise (fun _ _ _ _ before after => absurd after (List.lt_asymm before))
    sortedFirst sortedSecond

/-! ### Sets of texts -/

theorem mem_set_iff {t : Text} {texts : List Text} : t ∈ set texts ↔ t ∈ texts :=
  Sorting.mem_sortNew_iff

theorem set_pairwise_lex (texts : List Text) : (set texts).Pairwise (List.Lex (· < ·)) :=
  Sorting.sortNew_pairwise le_total (fun _ _ => lex_of_le_of_ne) (fun _ _ _ => List.lt_trans) texts

theorem set_eq_of_mem_iff {texts others : List Text} (same : ∀ t, t ∈ texts ↔ t ∈ others) :
    set texts = set others := by
  refine eq_of_mem_iff (set_pairwise_lex texts) (set_pairwise_lex others) fun t => ?_
  rw [mem_set_iff, mem_set_iff, same]

theorem set_of_pairwise_lex {texts : List Text} (sorted : texts.Pairwise (List.Lex (· < ·))) :
    set texts = texts :=
  eq_of_mem_iff (set_pairwise_lex texts) sorted fun _ => mem_set_iff

end Text

end Outline

/-! ## The pieces of a text between occurrences of a separator

Pieces hold no separator, and joining pieces that hold none is undone by splitting.
-/

namespace Outline.Text

variable {separator : CodePoint}

theorem splitAt_line {t : Text} (free : separator ∉ t) (rest : Text) :
    splitAt separator (t ++ separator :: rest) = t :: splitAt separator rest := by
  induction t with
  | nil => rw [List.nil_append, splitAt, if_pos rfl]
  | cons c t ih =>
    have different : c ≠ separator := fun same => free (same ▸ List.mem_cons_self)
    have below : separator ∉ t := fun member => free (List.mem_cons_of_mem c member)
    rw [List.cons_append, splitAt, if_neg different, ih below]

theorem splitAt_of_not_mem {t : Text} (free : separator ∉ t) : splitAt separator t = [t] := by
  induction t with
  | nil => rfl
  | cons c t ih =>
    have different : c ≠ separator := fun same => free (same ▸ List.mem_cons_self)
    rw [splitAt, if_neg different, ih fun member => free (List.mem_cons_of_mem c member)]

theorem splitAt_replicate_append (count : Nat) (t : Text) :
    splitAt separator (List.replicate count separator ++ t) =
      List.replicate count [] ++ splitAt separator t := by
  induction count with
  | zero => rfl
  | succ count ih =>
    rw [List.replicate_succ, List.cons_append, splitAt, if_pos rfl, ih, List.replicate_succ,
      List.cons_append]

theorem joinWith_cons_cons (between part next : Text) (parts : List Text) :
    joinWith between (part :: next :: parts) = part ++ between ++
      joinWith between (next :: parts) :=
  rfl

theorem joinWith_append_singleton (between : Text) {parts : List Text} (notEmpty : parts ≠ [])
    (last : Text) :
    joinWith between (parts ++ [last]) = joinWith between parts ++ between ++ last := by
  induction parts with
  | nil => exact absurd rfl notEmpty
  | cons part parts ih =>
    cases parts with
    | nil => rfl
    | cons next parts =>
      rw [List.cons_append, List.cons_append, joinWith_cons_cons, joinWith_cons_cons,
        ← List.cons_append, ih (List.cons_ne_nil _ _)]
      simp only [List.append_assoc]

theorem splitAt_joinWith {part : Text} {parts : List Text}
    (free : ∀ t ∈ part :: parts, separator ∉ t) :
    splitAt separator (joinWith [separator] (part :: parts)) = part :: parts := by
  induction parts generalizing part with
  | nil => exact splitAt_of_not_mem (free part List.mem_cons_self)
  | cons next parts ih =>
    have later := ih fun t member => free t (List.mem_cons_of_mem _ member)
    rw [joinWith_cons_cons, List.append_assoc, List.singleton_append,
      splitAt_line (free part List.mem_cons_self), later]

theorem not_mem_of_mem_splitAt {t piece : Text} (member : piece ∈ splitAt separator t) :
    separator ∉ piece := by
  induction t generalizing piece with
  | nil =>
    obtain rfl := List.mem_singleton.mp member
    exact List.not_mem_nil
  | cons c t ih =>
    rw [splitAt] at member
    split_ifs at member with same
    · rcases List.mem_cons.mp member with rfl | later
      · exact List.not_mem_nil
      · exact ih later
    · split at member
      · obtain rfl := List.mem_singleton.mp member
        exact fun other => same (List.mem_singleton.mp other).symm
      · next first pieces split =>
        rw [split] at ih
        rcases List.mem_cons.mp member with rfl | later
        · rintro (_ | ⟨_, below⟩)
          · exact same rfl
          · exact ih List.mem_cons_self below
        · exact ih (List.mem_cons_of_mem _ later)

end Outline.Text
