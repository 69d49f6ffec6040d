import Outline.Proofs.Text.Utf8
import Outline.Proofs.Value.Reading

/-!
Values on one line.

A value of texts, lists and records is written without a line break, and what it is written as has a
surrogate exactly if a text or a key of the value has one: surrogates are never escaped. If no
record in it has a key twice, the value is read back from its line.
-/

set_option autoImplicit false

namespace Outline.Value

mutual

/-- Whether a value is made of texts alone, in lists and records. -/
def isTextual : Value → Bool
  | .null | .text _ => true
  | .list items => areTextual items
  | .record fields => areTextualFields fields
  | _ => false

def areTextual : List Value → Bool
  | [] => true
  | item :: items => isTextual item && areTextual items

def areTextualFields : List (Text × Value) → Bool
  | [] => true
  | (_, value) :: fields => isTextual value && areTextualFields fields

end

mutual

def hasSurrogate : Value → Bool
  | .text t => t.hasSurrogate
  | .list items => haveSurrogate items
  | .record fields => fieldsHaveSurrogate fields
  | _ => false

def haveSurrogate : List Value → Bool
  | [] => false
  | item :: items => hasSurrogate item || haveSurrogate items

def fieldsHaveSurrogate : List (Text × Value) → Bool
  | [] => false
  | (key, value) :: fields =>
    key.hasSurrogate || (hasSurrogate value || fieldsHaveSurrogate fields)

end

mutual

def isDistinct : Value → Bool
  | .list items => areDistinct items
  | .record fields => decide (fields.map Prod.fst).Nodup && areDistinctFields fields
  | _ => true

def areDistinct : List Value → Bool
  | [] => true
  | item :: items => isDistinct item && areDistinct items

/-- Whether no record in the values of fields has a key twice. -/
def areDistinctFields : List (Text × Value) → Bool
  | [] => true
  | (_, value) :: fields => isDistinct value && areDistinctFields fields

end

theorem areTextual_eq_all (items : List Value) : areTextual items = items.all isTextual := by
  induction items with
  | nil => rw [areTextual, List.all_nil]
  | cons item items ih => rw [areTextual, ih, List.all_cons]

theorem haveSurrogate_eq_any (items : List Value) :
    haveSurrogate items = items.any hasSurrogate := by
  induction items with
  | nil => rw [haveSurrogate, List.any_nil]
  | cons item items ih => rw [haveSurrogate, ih, List.any_cons]

theorem areDistinct_eq_all (items : List Value) : areDistinct items = items.all isDistinct := by
  induction items with
  | nil => rw [areDistinct, List.all_nil]
  | cons item items ih => rw [areDistinct, ih, List.all_cons]

namespace Json

/-! ### One code point -/

private theorem unitEscape_control : ∀ n < 0x20,
    (unitEscape n).hasSurrogate = false ∧ (10 : CodePoint) ∉ unitEscape n := by
  decide

private theorem shortEscape_spec {c letter : CodePoint} (short : shortEscape? c = some letter) :
    letter ≠ 10 ∧ letter.isSurrogate = false ∧ c.isSurrogate = false := by
  unfold shortEscape? at short
  split_ifs at short with quote
  · obtain rfl := Option.some.inj short
    rcases quote with rfl | rfl <;> decide
  all_goals
    obtain rfl := Option.some.inj short
    subst c
    decide

private theorem hasSurrogate_escapeLine (c : CodePoint) :
    (escapeLine c).hasSurrogate = c.isSurrogate := by
  rw [escapeLine]
  split
  · next letter short =>
    obtain ⟨-, letter_clean, c_clean⟩ := shortEscape_spec short
    rw [Text.hasSurrogate_cons, Text.hasSurrogate_cons, letter_clean, c_clean]
    rfl
  · split_ifs with control
    · rw [(unitEscape_control c.val control).1, CodePoint.isSurrogate,
        decide_eq_false (by omega), Bool.false_and]
    · rw [Text.hasSurrogate_cons, Text.hasSurrogate_nil, Bool.or_false]

private theorem newline_not_mem_escapeLine (c : CodePoint) : (10 : CodePoint) ∉ escapeLine c := by
  rw [escapeLine]
  split
  · next letter short =>
    have ne := (shortEscape_spec short).1
    simp [ne.symm]
  · split_ifs with control
    · exact (unitEscape_control c.val control).2
    · rw [List.mem_singleton]
      rintro rfl
      exact control (by decide)

private theorem hasSurrogate_quote (t : Text) :
    (quoteWith escapeLine t).hasSurrogate = t.hasSurrogate := by
  have body : Text.hasSurrogate (t.flatMap escapeLine) = t.hasSurrogate := by
    induction t with
    | nil => rfl
    | cons c t ih =>
      rw [List.flatMap_cons, Text.hasSurrogate_append, ih, hasSurrogate_escapeLine,
        Text.hasSurrogate_cons]
  rw [quoteWith, Text.hasSurrogate_append, Text.hasSurrogate_append, body]
  exact Bool.or_false _

private theorem newline_not_mem_quote (t : Text) : (10 : CodePoint) ∉ quoteWith escapeLine t := by
  simp only [quoteWith, List.mem_append, List.mem_singleton, List.mem_flatMap, not_or, not_exists,
    not_and]
  exact ⟨⟨by decide, fun c _ => newline_not_mem_escapeLine c⟩, by decide⟩

/-! ### A whole value -/

private theorem hasSurrogate_comma : Text.hasSurrogate [44, 32] = false := by decide

private theorem hasSurrogate_colon : Text.hasSurrogate [58, 32] = false := by decide

mutual

theorem hasSurrogate_line : (v : Value) → v.isTextual = true →
    (line v).hasSurrogate = v.hasSurrogate
  | .null, _ => by
    rw [line]
    change (Text.ofString "null").hasSurrogate = false
    decide
  | .text t, _ => by rw [line, hasSurrogate, hasSurrogate_quote]
  | .list items, textual => by
    rw [isTextual] at textual
    rw [line, hasSurrogate, Text.hasSurrogate_append, Text.hasSurrogate_append,
      hasSurrogate_lineItems items textual]
    exact Bool.or_false _
  | .record fields, textual => by
    rw [isTextual] at textual
    rw [line, hasSurrogate, Text.hasSurrogate_append, Text.hasSurrogate_append,
      hasSurrogate_lineFields fields textual]
    exact Bool.or_false _

private theorem hasSurrogate_lineItems : (items : List Value) → areTextual items = true →
    (lineItems items).hasSurrogate = haveSurrogate items
  | [], _ => by rw [lineItems, haveSurrogate, Text.hasSurrogate_nil]
  | [item], textual => by
    rw [areTextual, areTextual, Bool.and_true] at textual
    rw [lineItems, haveSurrogate, haveSurrogate, hasSurrogate_line item textual, Bool.or_false]
  | item :: next :: items, textual => by
    rw [areTextual, Bool.and_eq_true] at textual
    rw [lineItems, haveSurrogate, Text.hasSurrogate_append, Text.hasSurrogate_append,
      hasSurrogate_line item textual.1, hasSurrogate_lineItems (next :: items) textual.2,
      hasSurrogate_comma, Bool.or_false]

private theorem hasSurrogate_lineFields : (fields : List (Text × Value)) →
    areTextualFields fields = true → (lineFields fields).hasSurrogate = fieldsHaveSurrogate fields
  | [], _ => by rw [lineFields, fieldsHaveSurrogate, Text.hasSurrogate_nil]
  | [(key, value)], textual => by
    rw [areTextualFields, areTextualFields, Bool.and_true] at textual
    rw [lineFields, fieldsHaveSurrogate, fieldsHaveSurrogate, Text.hasSurrogate_append,
      Text.hasSurrogate_append, hasSurrogate_quote, hasSurrogate_line value textual,
      hasSurrogate_colon, Bool.or_false, Bool.or_false]
  | (key, value) :: next :: fields, textual => by
    rw [areTextualFields, Bool.and_eq_true] at textual
    rw [lineFields, fieldsHaveSurrogate, Text.hasSurrogate_append, Text.hasSurrogate_append,
      Text.hasSurrogate_append, Text.hasSurrogate_append, hasSurrogate_quote,
      hasSurrogate_line value textual.1, hasSurrogate_lineFields (next :: fields) textual.2,
      hasSurrogate_colon, hasSurrogate_comma, Bool.or_false, Bool.or_false, Bool.or_assoc]

end

mutual

theorem newline_not_mem_line : (v : Value) → v.isTextual = true → (10 : CodePoint) ∉ line v
  | .null, _ => by rw [line]; decide
  | .text t, _ => by rw [line]; exact newline_not_mem_quote t
  | .list items, textual => by
    rw [isTextual] at textual
    have inside := newline_not_mem_lineItems items textual
    simp [line, inside]
  | .record fields, textual => by
    rw [isTextual] at textual
    have inside := newline_not_mem_lineFields fields textual
    simp [line, inside]

private theorem newline_not_mem_lineItems : (items : List Value) → areTextual items = true →
    (10 : CodePoint) ∉ lineItems items
  | [], _ => by rw [lineItems]; exact List.not_mem_nil
  | [item], textual => by
    rw [areTextual, areTextual, Bool.and_true] at textual
    rw [lineItems]
    exact newline_not_mem_line item textual
  | item :: next :: items, textual => by
    rw [areTextual, Bool.and_eq_true] at textual
    have head := newline_not_mem_line item textual.1
    have tail := newline_not_mem_lineItems (next :: items) textual.2
    simp [lineItems, head, tail]

private theorem newline_not_mem_lineFields : (fields : List (Text × Value)) →
    areTextualFields fields = true → (10 : CodePoint) ∉ lineFields fields
  | [], _ => by rw [lineFields]; exact List.not_mem_nil
  | [(key, value)], textual => by
    rw [areTextualFields, areTextualFields, Bool.and_true] at textual
    have head := newline_not_mem_line value textual
    simp [lineFields, head, newline_not_mem_quote]
  | (key, value) :: next :: fields, textual => by
    rw [areTextualFields, Bool.and_eq_true] at textual
    have head := newline_not_mem_line value textual.1
    have tail := newline_not_mem_lineFields (next :: fields) textual.2
    simp [lineFields, head, tail, newline_not_mem_quote]

end

/-! ### Reading a line -/

/-- What a code point on a line is read as: its number, and whether it was written by number. -/
def lineUnits (c : CodePoint) : List (Nat × Bool) :=
  [(c.val, (shortEscape? c).isNone && decide (c.val < 0x20))]

private theorem readUnits_escapeLine (c : CodePoint) (rest : Text) :
    readUnits (escapeLine c ++ rest) = (readUnits rest).map (withUnits (lineUnits c)) := by
  rw [escapeLine, lineUnits]
  cases short : shortEscape? c with
  | some letter => exact readUnits_letter short rest
  | none =>
    dsimp only
    split_ifs with control
    · rw [readUnits_unitEscape (by omega), decide_eq_true control]
      rfl
    · rw [decide_eq_false control]
      exact readUnits_plain short control rest

private theorem joinPairs_lineUnits (t : Text) : joinPairs (t.flatMap lineUnits) = t := by
  induction t with
  | nil => rfl
  | cons c t ih =>
    rw [List.flatMap_cons, lineUnits, List.singleton_append, joinPairs_cons, pointOf_val, ih]
    intro b _ marked
    rw [Bool.and_eq_true, decide_eq_true_eq] at marked
    rw [isPair, decide_eq_false (by omega)]

private theorem isReadAsText_line (t : Text) : IsReadAsText (t.flatMap escapeLine) t := by
  have reads := isReadAsText_flatMap readUnits_escapeLine t
  rw [joinPairs_lineUnits] at reads
  exact reads

private theorem lineItems_eq : (items : List Value) →
    lineItems items = Text.joinWith [44, 32] (items.map line)
  | [] => rfl
  | [item] => by rw [lineItems]; rfl
  | item :: next :: items => by
    rw [lineItems, lineItems_eq (next :: items)]
    rfl

private def lineField (field : Text × Value) : Text :=
  quoteWith escapeLine field.1 ++ [58, 32] ++ line field.2

private theorem lineFields_eq : (fields : List (Text × Value)) →
    lineFields fields = Text.joinWith [44, 32] (fields.map lineField)
  | [] => rfl
  | [(key, value)] => by rw [lineFields]; rfl
  | (key, value) :: next :: fields => by
    rw [lineFields, lineFields_eq (next :: fields)]
    rfl

private theorem isBlank_space : IsBlank [32] := by simp [IsBlank, isSpace]

mutual

private theorem isReadAs_line : (v : Value) → v.isTextual = true → v.isDistinct = true →
    IsReadAs (line v) v
  | .null, _, _ => by
    rw [line]
    exact isReadAs_word (Text.ofString "null", .null) List.mem_cons_self
  | .text t, _, _ => by
    rw [line]
    exact isReadAs_quote (isReadAsText_line t)
  | .list [], _, _ => by
    rw [line]
    exact isReadAs_emptyList
  | .list (item :: items), textual, distinct => by
    rw [isTextual] at textual
    rw [isDistinct] at distinct
    rw [line, lineItems_eq, List.append_assoc]
    exact .list isBlank_nil isBlank_space isBlank_nil
      (isReadAs_lines (item :: items) textual distinct) (List.cons_ne_nil _ _)
  | .record [], _, _ => by
    rw [line]
    exact isReadAs_emptyRecord
  | .record (field :: fields), textual, distinct => by
    rw [isTextual] at textual
    rw [isDistinct, Bool.and_eq_true, decide_eq_true_eq] at distinct
    have reads := IsReadAs.record isBlank_nil isBlank_space isBlank_nil
      (isReadAsField_lines (field :: fields) textual distinct.2) (List.cons_ne_nil _ _)
    rw [collect_of_nodup distinct.1] at reads
    rw [line, lineFields_eq, List.append_assoc]
    exact reads

private theorem isReadAs_lines : (items : List Value) → areTextual items = true →
    areDistinct items = true → List.Forall₂ IsReadAs (items.map line) items
  | [], _, _ => .nil
  | item :: items, textual, distinct => by
    rw [areTextual, Bool.and_eq_true] at textual
    rw [areDistinct, Bool.and_eq_true] at distinct
    exact .cons (isReadAs_line item textual.1 distinct.1)
      (isReadAs_lines items textual.2 distinct.2)

private theorem isReadAsField_lines : (fields : List (Text × Value)) →
    areTextualFields fields = true → areDistinctFields fields = true →
    List.Forall₂ IsReadAsField (fields.map lineField) fields
  | [], _, _ => .nil
  | (key, value) :: fields, textual, distinct => by
    rw [areTextualFields, Bool.and_eq_true] at textual
    rw [areDistinctFields, Bool.and_eq_true] at distinct
    refine .cons ⟨_, _, ?_, isReadAsText_line key, isReadAs_line value textual.1 distinct.1⟩
      (isReadAsField_lines fields textual.2 distinct.2)
    simp [lineField, quoteWith]

end

theorem read?_line {v : Value} (textual : v.isTextual = true) (distinct : v.isDistinct = true) :
    read? (line v) = some v := (isReadAs_line v textual distinct).read?

end Json

end Outline.Value
