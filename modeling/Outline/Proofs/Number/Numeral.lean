import Mathlib.Data.List.DropRight
import Mathlib.Data.Nat.Digits.Defs
import Mathlib.Data.Nat.Log
import Mathlib.Tactic.Ring
import Outline.Number

/-!
Numerals.
-/

set_option autoImplicit false

/-! ## Digits as they are written

A digit of a base up to sixteen has a value and, where it is a letter, a case. The code points of
such digits are those that the readers of numerals take for digits, with the same values; none of
them is a blank, a sign or a mark of a base. The number that digits denote is their value in the
base, and the numeral that is written for a number in base ten denotes it without a leading zero.
-/

namespace Outline

private theorem Text.trim_of_solid {drop : CodePoint → Bool} {t : Text}
    (solid : ∀ c ∈ t, drop c = false) :
    t.trim drop = t := by
  have kept : ∀ c ∈ t, ¬drop c = true := fun c member => by simp [solid c member]
  have noneBefore : t.dropWhile drop = t :=
    List.dropWhile_eq_self_iff.mpr fun _ => kept _ (List.getElem_mem _)
  rw [Text.trim, noneBefore]
  exact List.rdropWhile_eq_self_iff.mpr fun nonempty => kept _ (List.getLast_mem nonempty)

theorem Integer.plain_of_solid {t : Text}
    (solid : ∀ c ∈ t, c.toAsciiDigit = c ∧ c.isNumeralBlank = false) : Integer.plain t = t := by
  have ascii : t.map CodePoint.toAsciiDigit = t :=
    (List.map_congr_left fun c member => (solid c member).1).trans (List.map_id t)
  rw [Integer.plain, ascii]
  exact Text.trim_of_solid fun c member => (solid c member).2

/-- A digit of a base up to sixteen: its value, and whether a letter is written as a capital. -/
structure Digit (base : Nat) where
  value : Fin 16
  below : value.val < base
  capital : Bool := false

namespace Digit

def figure (value : Fin 16) (capital : Bool) : CodePoint :=
  if value.val < 10 then ⟨48 + value, by omega⟩
  else if capital then ⟨55 + value, by omega⟩
  else ⟨87 + value, by omega⟩

variable {base : Nat}

def point (d : Digit base) : CodePoint := figure d.value d.capital

def spell (digits : List (Digit base)) : Text := digits.map point

/-- The number that digits denote, the most significant standing first. -/
def number (digits : List (Digit base)) : Nat :=
  Nat.ofDigits base (digits.reverse.map fun d => d.value.val)

/-! ### Code points of digits -/

private theorem alphanumericValue?_figure : ∀ (value : Fin 16) (capital : Bool),
    (figure value capital).alphanumericValue? = some value.val := by decide

theorem toAsciiDigit_figure : ∀ (value : Fin 16) (capital : Bool),
    (figure value capital).toAsciiDigit = figure value capital := by decide

theorem isNumeralBlank_figure : ∀ (value : Fin 16) (capital : Bool),
    (figure value capital).isNumeralBlank = false := by decide

theorem digitValue?_point (d : Digit base) :
    Integer.digitValue? base d.point = some d.value.val := by
  rw [Integer.digitValue?, point, alphanumericValue?_figure, Option.filter_some]
  simp [d.below]

theorem exists_point {c : CodePoint} {value : Nat} (small : base ≤ 16)
    (found : Integer.digitValue? base c = some value) : ∃ d : Digit base, d.point = c := by
  rw [Integer.digitValue?, Option.filter_eq_some_iff] at found
  obtain ⟨alphanumeric, below⟩ := found
  have below : value < base := by simpa using below
  rw [CodePoint.alphanumericValue?] at alphanumeric
  split_ifs at alphanumeric with digit upper lower
  all_goals obtain rfl := Option.some.inj alphanumeric
  · have plain : c.val - 48 < 10 := by omega
    refine ⟨⟨⟨c.val - 48, by omega⟩, below, false⟩, Fin.ext ?_⟩
    simp only [point, figure, plain, ↓reduceIte]
    omega
  · have letter : ¬c.val - 55 < 10 := by omega
    refine ⟨⟨⟨c.val - 55, by omega⟩, below, true⟩, Fin.ext ?_⟩
    simp only [point, figure, letter, ↓reduceIte]
    omega
  · have letter : ¬c.val - 87 < 10 := by omega
    refine ⟨⟨⟨c.val - 87, by omega⟩, below, false⟩, Fin.ext ?_⟩
    simp only [point, figure, letter, Bool.false_eq_true, ↓reduceIte]
    omega

/-! ### Numbers -/

private theorem ofDigits_eq (values : List Nat) :
    Integer.ofDigits base values = Nat.ofDigits base values.reverse := by
  rw [Nat.ofDigits_eq_foldr, List.foldr_reverse, Integer.ofDigits]
  congr 1
  funext n d
  simp only [Nat.cast_id]
  ring

private theorem filterMap_spell (digits : List (Digit base)) :
    (spell digits).filterMap (Integer.digitValue? base) = digits.map fun d => d.value.val := by
  rw [spell, List.filterMap_map]
  have each : Integer.digitValue? base ∘ point = some ∘ fun d : Digit base => d.value.val :=
    funext digitValue?_point
  rw [each, List.filterMap_eq_map]

theorem valueOf_spell (digits : List (Digit base)) :
    Integer.valueOf base (spell digits) = number digits := by
  rw [Integer.valueOf, filterMap_spell, ofDigits_eq, number, List.map_reverse]

theorem number_lt (large : 1 < base) (digits : List (Digit base)) :
    number digits < base ^ digits.length := by
  have bound := Nat.ofDigits_lt_base_pow_length (l := digits.reverse.map fun d => d.value.val) large
    (by
      intro value member
      obtain ⟨d, -, rfl⟩ := List.mem_map.mp member
      exact d.below)
  rwa [List.length_map, List.length_reverse] at bound

private theorem number_append_single (digits : List (Digit base)) (last : Digit base) :
    number (digits ++ [last]) = base * number digits + last.value := by
  rw [number, List.reverse_append, List.reverse_singleton, List.singleton_append, List.map_cons,
    Nat.ofDigits_cons, number, Nat.add_comm]

/-! ### Reading -/

private theorem plain_spell (digits : List (Digit base)) :
    Integer.plain (spell digits) = spell digits := by
  apply Integer.plain_of_solid
  intro c member
  obtain ⟨d, -, rfl⟩ := List.mem_map.mp member
  exact ⟨toAsciiDigit_figure d.value d.capital, isNumeralBlank_figure d.value d.capital⟩

private theorem sign_spell (digits : List (Digit base)) :
    Integer.sign (spell digits) = (false, spell digits) := by
  have unsigned : ∀ (value : Fin 16) (capital : Bool),
      figure value capital ≠ 45 ∧ figure value capital ≠ 43 := by decide
  cases digits with
  | nil => rfl
  | cons d digits =>
    obtain ⟨noMinus, noPlus⟩ := unsigned d.value d.capital
    rw [spell, List.map_cons, Integer.sign, point, if_neg noMinus, if_neg noPlus]

theorem takeWhile_spell (digits : List (Digit base)) :
    (spell digits).takeWhile (Integer.isDigit base) = spell digits := by
  rw [List.takeWhile_eq_self_iff]
  intro c member
  obtain ⟨d, -, rfl⟩ := List.mem_map.mp member
  rw [Integer.isDigit, digitValue?_point]
  rfl

private theorem lower_point_ne_mark {mark : CodePoint} (marked : Integer.baseMark? base = some mark)
    (d : Digit base) : d.point.lower ≠ mark := by
  have apart : ∀ (value : Fin 16) (capital : Bool), (figure value capital).lower ≠ 120 ∧
      (value.val < 8 → (figure value capital).lower ≠ 111) ∧
      (value.val < 2 → (figure value capital).lower ≠ 98) := by decide
  obtain ⟨notX, notO, notB⟩ := apart d.value d.capital
  have below := d.below
  rw [Integer.baseMark?] at marked
  split_ifs at marked with sixteen eight two
  all_goals obtain rfl := Option.some.inj marked
  · exact notX
  · exact notO (eight ▸ below)
  · exact notB (two ▸ below)

private theorem dropMark_spell {mark : CodePoint} (marked : Integer.baseMark? base = some mark)
    (digits : List (Digit base)) : Integer.dropMark mark (spell digits) = spell digits := by
  rcases digits with _ | ⟨first, _ | ⟨second, digits⟩⟩
  · rfl
  · rfl
  · exact if_neg fun same => lower_point_ne_mark marked second same.2

/-- Digits are read as the number they denote, unless there are too many of them in base ten. -/
theorem read_spell {digits : List (Digit base)} (nonempty : digits ≠ []) :
    Integer.read base (spell digits) =
      if base = 10 ∧ Integer.digitLimit < digits.length then .error (.longNumeral digits.length)
      else .ok (number digits : Int) := by
  have length : (spell digits).length = digits.length := List.length_map _
  have filled : (spell digits).isEmpty = false := by simp [spell, nonempty]
  simp only [Integer.read, plain_spell, sign_spell]
  cases marked : Integer.baseMark? base with
  | none => simp [takeWhile_spell, valueOf_spell, length, filled]
  | some mark => simp [dropMark_spell marked, takeWhile_spell, valueOf_spell, length, filled]

/-! ### Numerals -/

private theorem number_single (d : Digit base) : number [d] = d.value := by
  simp [number]

def ofLtTen (value : Nat) (small : value < 10) : Digit 10 := ⟨⟨value, by omega⟩, small, false⟩

def zero : Digit 10 := ofLtTen 0 (by decide)

private theorem ofChar_digitChar {value : Nat} (small : value < 10) :
    CodePoint.ofChar value.digitChar = (ofLtTen value small).point := by
  have each : ∀ digit : Fin 10, CodePoint.ofChar digit.val.digitChar =
      (ofLtTen digit.val digit.isLt).point := by decide
  exact each ⟨value, small⟩

end Digit

/-- Whether a text is the decimal numeral of a number: digits that denote it, the first of several
not being a zero. -/
def IsNumeral (n : Nat) (t : Text) : Prop :=
  ∃ digits : List (Digit 10), t = Digit.spell digits ∧ Digit.number digits = n ∧ digits ≠ [] ∧
    (1 < digits.length → ∀ d ∈ digits.head?, d.value ≠ 0)

private theorem ofNat_eq (n : Nat) : Text.ofNat n =
    (if n < 10 then [] else Text.ofNat (n / 10)) ++
      [(Digit.ofLtTen (n % 10) (Nat.mod_lt _ (by decide))).point] := by
  rw [Text.ofNat, Nat.toDigits_eq_if (by decide)]
  split_ifs with small
  · simp only [List.map_cons, List.map_nil, List.nil_append, List.cons.injEq, and_true]
    rw [Digit.ofChar_digitChar small]
    simp only [Nat.mod_eq_of_lt small]
  · rw [List.map_append, List.map_singleton, ← Text.ofNat, Digit.ofChar_digitChar]

theorem length_ofNat (n : Nat) : (Text.ofNat n).length = Nat.log 10 n + 1 := by
  induction n using Nat.strongRecOn with
  | ind n ih =>
    rw [ofNat_eq, List.length_append, List.length_singleton]
    by_cases small : n < 10
    · rw [if_pos small, Nat.log_of_lt small, List.length_nil]
    · have smaller := ih (n / 10) (by omega)
      rw [if_neg small, smaller, Nat.log_of_one_lt_of_le (by decide) (Nat.not_lt.mp small)]

theorem isNumeral_ofNat (n : Nat) : IsNumeral n (Text.ofNat n) := by
  induction n using Nat.strongRecOn with
  | ind n ih =>
    rw [ofNat_eq]
    generalize last : Digit.ofLtTen (n % 10) (Nat.mod_lt _ (by decide)) = d
    have value : d.value.val = n % 10 := by rw [← last]; rfl
    split_ifs with small
    · refine ⟨[d], rfl, ?_, by simp, by simp⟩
      rw [Digit.number_single, value, Nat.mod_eq_of_lt small]
    · obtain ⟨digits, spelled, denoted, nonempty, noZero⟩ := ih (n / 10) (by omega)
      refine ⟨digits ++ [d], ?_, ?_, by simp, fun _ first leads => ?_⟩
      · rw [spelled, Digit.spell, Digit.spell, List.map_append, List.map_singleton]
      · rw [Digit.number_append_single, denoted, value, Nat.div_add_mod]
      · rw [List.head?_append_of_ne_nil _ nonempty] at leads
        by_cases several : 1 < digits.length
        · exact noZero several first leads
        · obtain ⟨single, rfl⟩ := List.length_eq_one_iff.mp
            (Nat.le_antisymm (Nat.not_lt.mp several) (List.length_pos_iff.mpr nonempty))
          obtain rfl := Option.some.inj leads
          rw [Digit.number_single] at denoted
          intro zero
          rw [zero] at denoted
          exact absurd denoted (by simp; omega)

end Outline

/-! ## Numerals with a fraction and an exponent, by their parts

A numeral has digits before the point, perhaps a point with digits behind it, and perhaps an
exponent: its mark, perhaps a sign, and digits. No part can be taken for the next one, so reading
gives the parts back: the coefficient is the number of the digits on both sides of the point, and
the scale is the exponent less the number of digits behind the point.
-/

namespace Outline

/-- An exponent whose digits are written with symbols of a type. -/
structure ExponentParts (σ : Type) where
  capital : Bool
  minus : Option Bool
  digits : List σ

/-- The parts of a numeral whose digits are written with symbols of a type. -/
structure NumeralParts (σ : Type) where
  whole : List σ
  fraction : Option (List σ)
  exponent : Option (ExponentParts σ)

/-- A numeral: it has a digit on one side of the point, and an exponent has a digit. -/
structure Numeral extends NumeralParts (Digit 10) where
  nonempty : whole ++ fraction.getD [] ≠ []
  exponentNonempty : ∀ e ∈ exponent, e.digits ≠ []

namespace ExponentParts

variable {σ : Type}

def letter (e : ExponentParts σ) : CodePoint := if e.capital then 69 else 101

def signText : Option Bool → Text
  | none => []
  | some minus => [if minus then 45 else 43]

def text (point : σ → CodePoint) (e : ExponentParts σ) : Text :=
  e.letter :: (signText e.minus ++ e.digits.map point)

def value (e : ExponentParts (Digit 10)) : Int :=
  if e.minus = some true then -(Digit.number e.digits : Int) else Digit.number e.digits

end ExponentParts

namespace NumeralParts

variable {σ : Type}

def fractionText (point : σ → CodePoint) (r : NumeralParts σ) : Text :=
  match r.fraction with
  | none => []
  | some digits => 46 :: digits.map point

def exponentText (point : σ → CodePoint) (r : NumeralParts σ) : Text :=
  match r.exponent with
  | none => []
  | some e => e.text point

def text (point : σ → CodePoint) (r : NumeralParts σ) : Text :=
  r.whole.map point ++ (r.fractionText point ++ r.exponentText point)

/-- The marks of a numeral: the point, the mark of the exponent in both cases, and the signs. -/
def marks : List CodePoint := [46, 69, 101, 45, 43]

theorem forall_marks {p : CodePoint → Prop} :
    (∀ c ∈ marks, p c) ↔ p 46 ∧ p 69 ∧ p 101 ∧ p 45 ∧ p 43 := by
  simp [marks]

private theorem mem_exponent {point : σ → CodePoint} {e : ExponentParts σ} {c : CodePoint}
    (member : c ∈ e.text point) : (∃ x, c = point x) ∨ c ∈ marks := by
  rw [ExponentParts.text] at member
  rcases List.mem_cons.mp member with rfl | member
  · rw [ExponentParts.letter]
    cases e.capital <;> exact .inr (by decide)
  rcases List.mem_append.mp member with sign | digit
  · cases written : e.minus with
    | none =>
      rw [written] at sign
      exact absurd sign List.not_mem_nil
    | some minus =>
      rw [written] at sign
      rw [List.mem_singleton.mp sign]
      cases minus <;> exact .inr (by decide)
  · obtain ⟨x, -, rfl⟩ := List.mem_map.mp digit
    exact .inl ⟨x, rfl⟩

theorem mem_text {point : σ → CodePoint} {r : NumeralParts σ} {c : CodePoint}
    (member : c ∈ r.text point) : (∃ x, c = point x) ∨ c ∈ marks := by
  rw [text] at member
  rcases List.mem_append.mp member with whole | member
  · obtain ⟨x, -, rfl⟩ := List.mem_map.mp whole
    exact .inl ⟨x, rfl⟩
  rcases List.mem_append.mp member with fraction | exponent
  · rw [fractionText] at fraction
    cases written : r.fraction with
    | none =>
      rw [written] at fraction
      exact absurd fraction List.not_mem_nil
    | some digits =>
      rw [written] at fraction
      rcases List.mem_cons.mp fraction with rfl | behind
      · exact .inr (by decide)
      · obtain ⟨x, -, rfl⟩ := List.mem_map.mp behind
        exact .inl ⟨x, rfl⟩
  · rw [exponentText] at exponent
    cases written : r.exponent with
    | none =>
      rw [written] at exponent
      exact absurd exponent List.not_mem_nil
    | some e =>
      rw [written] at exponent
      exact mem_exponent exponent

end NumeralParts

namespace Numeral

def text (n : Numeral) : Text := n.toNumeralParts.text Digit.point

def behind (n : Numeral) : List (Digit 10) := n.fraction.getD []

def coefficient (n : Numeral) : Nat := Digit.number (n.whole ++ n.behind)

def exponentValue (n : Numeral) : Int := (n.exponent.map ExponentParts.value).getD 0

/-- The power of ten that the coefficient is multiplied by. -/
def scale (n : Numeral) : Int := n.exponentValue - n.behind.length

/-! ### Reading the parts -/

private theorem digitRun_spell (digits : List (Digit 10)) {rest : Text}
    (stops : ∀ c ∈ rest.head?, Integer.isDigit 10 c = false) :
    Scientific.digitRun (Digit.spell digits ++ rest) = (digits.map fun d => d.value.val, rest) := by
  have all : ∀ c ∈ Digit.spell digits, Integer.isDigit 10 c = true := by
    intro c member
    obtain ⟨d, -, rfl⟩ := List.mem_map.mp member
    rw [Integer.isDigit, Digit.digitValue?_point]
    rfl
  have ended : rest.takeWhile (Integer.isDigit 10) = [] ∧
      rest.dropWhile (Integer.isDigit 10) = rest := by
    cases rest with
    | nil => exact ⟨rfl, rfl⟩
    | cons c rest =>
      have stop := stops c rfl
      simp [stop]
  rw [Scientific.digitRun, List.takeWhile_append_of_pos all, List.dropWhile_append_of_pos all,
    ended.1, ended.2, List.append_nil, Digit.filterMap_spell]

private theorem sign_signText (minus : Option Bool) (digits : List (Digit 10)) :
    Integer.sign (ExponentParts.signText minus ++ Digit.spell digits) =
      (minus.getD false, Digit.spell digits) := by
  cases minus with
  | none => exact Digit.sign_spell digits
  | some minus => cases minus <;> rfl

private theorem ofDigits_values (digits : List (Digit 10)) :
    Integer.ofDigits 10 (digits.map fun d => d.value.val) = Digit.number digits := by
  rw [Digit.ofDigits_eq, Digit.number, List.map_reverse]

private theorem exponentOf_text (n : Numeral) :
    Scientific.exponentOf (n.exponentText Digit.point) = some n.exponentValue := by
  have filled := n.exponentNonempty
  rw [NumeralParts.exponentText, exponentValue]
  cases written : n.exponent with
  | none => rfl
  | some e =>
    have nonempty : e.digits ≠ [] := filled e written
    have mark : e.letter.lower = 101 := by
      rw [ExponentParts.letter]
      cases e.capital <;> decide
    have run : Scientific.digitRun (Digit.spell e.digits) =
        (e.digits.map fun d => d.value.val, []) := by
      simpa using @digitRun_spell e.digits [] (by simp)
    have spelled : e.digits.map Digit.point = Digit.spell e.digits := rfl
    have found : (e.digits.map fun d => d.value.val).isEmpty = false := by simp [nonempty]
    simp only [ExponentParts.text, Scientific.exponentOf, mark, ↓reduceIte, spelled, sign_signText,
      run, ofDigits_values, found, List.isEmpty_nil, Bool.not_true, Bool.or_self]
    rw [if_neg Bool.false_ne_true, Option.map_some, Option.getD_some, ExponentParts.value]
    cases e.minus with
    | none => rfl
    | some minus => cases minus <;> rfl

private theorem head?_exponentText (r : NumeralParts (Digit 10)) :
    ∀ c ∈ (r.exponentText Digit.point).head?, Integer.isDigit 10 c = false ∧ c ≠ 46 := by
  intro c leads
  rw [NumeralParts.exponentText] at leads
  cases written : r.exponent with
  | none =>
    rw [written] at leads
    exact absurd leads (by simp)
  | some e =>
    rw [written] at leads
    obtain rfl : e.letter = c := by simpa [ExponentParts.text] using leads
    rw [ExponentParts.letter]
    cases e.capital <;> decide

private theorem fractionRun_text (n : Numeral) :
    Scientific.fractionRun (n.fractionText Digit.point ++ n.exponentText Digit.point) =
      (n.behind.map fun d => d.value.val, n.exponentText Digit.point) := by
  have stops := head?_exponentText n.toNumeralParts
  rw [NumeralParts.fractionText, behind]
  cases n.fraction with
  | none =>
    rw [List.nil_append, Option.getD_none, List.map_nil]
    cases text : n.exponentText Digit.point with
    | nil => rfl
    | cons c rest =>
      have notPoint : c ≠ 46 := (stops c (by rw [text]; rfl)).2
      rw [Scientific.fractionRun, if_neg notPoint]
  | some digits =>
    rw [List.cons_append, Scientific.fractionRun, if_pos rfl, Option.getD_some]
    exact digitRun_spell digits fun c leads => (stops c leads).1

private theorem head?_fractionText (r : NumeralParts (Digit 10)) :
    ∀ c ∈ (r.fractionText Digit.point ++ r.exponentText Digit.point).head?,
      Integer.isDigit 10 c = false := by
  have stops := head?_exponentText r
  rw [NumeralParts.fractionText]
  cases r.fraction with
  | none => exact fun c leads => (stops c leads).1
  | some digits =>
    intro c leads
    obtain rfl : 46 = c := by simpa using leads
    decide

def scientific (n : Numeral) : Scientific :=
  ⟨false, (n.whole ++ n.behind).map fun d => d.value.val, n.behind.length, n.exponentValue⟩

theorem coefficient_scientific (n : Numeral) : n.scientific.coefficient = n.coefficient :=
  ofDigits_values _

theorem scale_scientific (n : Numeral) : n.scientific.scale = n.scale := rfl

private theorem readUnsigned_text (n : Numeral) :
    Scientific.readUnsigned false n.text = some n.scientific := by
  have found : ((n.whole.map fun d => d.value.val).isEmpty &&
      (n.behind.map fun d => d.value.val).isEmpty) = false := by
    have nonempty := n.nonempty
    rw [Bool.and_eq_false_iff]
    by_contra both
    simp only [List.isEmpty_map, not_or, Bool.not_eq_false, List.isEmpty_iff] at both
    exact nonempty (by rw [both.1, List.nil_append]; exact both.2)
  have whole := digitRun_spell n.whole (head?_fractionText n.toNumeralParts)
  have text : n.text = Digit.spell n.whole ++
    (n.fractionText Digit.point ++ n.exponentText Digit.point) := rfl
  simp only [Scientific.readUnsigned, text, whole, fractionRun_text, found, exponentOf_text]
  rw [if_neg Bool.false_ne_true, Option.map_some, scientific, List.map_append, List.length_map]

theorem readUnsigned_signed (n : Numeral) (negative : Bool) :
    Scientific.readUnsigned negative n.text = some { n.scientific with negative := negative } := by
  have read := n.readUnsigned_text
  simp only [Scientific.readUnsigned] at read ⊢
  split_ifs at read ⊢ with empty
  · obtain ⟨e, written, same⟩ := Option.map_eq_some_iff.mp read
    rw [written, ← same]
    rfl

/-! ### Reading the whole -/

private theorem solid_of_mem_text (n : Numeral) : ∀ c ∈ n.text,
    c.toAsciiDigit = c ∧ c.isNumeralBlank = false ∧ c.isBlank = false := by
  have digits : ∀ (value : Fin 16) (capital : Bool),
      (Digit.figure value capital).toAsciiDigit = Digit.figure value capital ∧
        (Digit.figure value capital).isNumeralBlank = false ∧
        (Digit.figure value capital).isBlank = false := by decide
  have marks : ∀ c ∈ NumeralParts.marks,
      c.toAsciiDigit = c ∧ c.isNumeralBlank = false ∧ c.isBlank = false :=
    NumeralParts.forall_marks.mpr (by decide)
  intro c member
  rcases NumeralParts.mem_text member with ⟨d, rfl⟩ | mark
  · exact digits d.value d.capital
  · exact marks c mark

theorem exists_head_text (n : Numeral) :
    ∃ c rest, n.text = c :: rest ∧ ((∃ d : Digit 10, c = d.point) ∨ c = 46) := by
  have nonempty := n.nonempty
  rw [text, NumeralParts.text]
  cases leading : n.whole with
  | cons d ds => exact ⟨d.point, _, rfl, .inl ⟨d, rfl⟩⟩
  | nil =>
    cases written : n.fraction with
    | none => exact absurd (by rw [leading, written]; rfl) nonempty
    | some ds =>
      refine ⟨46, ds.map Digit.point ++ n.exponentText Digit.point, ?_, .inr rfl⟩
      rw [NumeralParts.fractionText, written, List.map_nil, List.nil_append, List.cons_append]

private theorem exists_plain_head (n : Numeral) :
    ∃ c rest, n.text = c :: rest ∧ c ≠ 45 ∧ c ≠ 43 ∧ c.lower ≠ 105 ∧ c.lower ≠ 110 ∧
      c.lower ≠ 115 := by
  obtain ⟨c, rest, text, digit | point⟩ := n.exists_head_text
  · obtain ⟨d, rfl⟩ := digit
    have each : ∀ (value : Fin 16) (capital : Bool), value.val < 10 →
        Digit.figure value capital ≠ 45 ∧ Digit.figure value capital ≠ 43 ∧
          (Digit.figure value capital).lower ≠ 105 ∧ (Digit.figure value capital).lower ≠ 110 ∧
          (Digit.figure value capital).lower ≠ 115 := by decide
    exact ⟨d.point, rest, text, each d.value d.capital d.below⟩
  · rw [point] at text
    exact ⟨46, rest, text, by decide⟩

private theorem sign_text (n : Numeral) : Integer.sign n.text = (false, n.text) := by
  obtain ⟨c, rest, text, noMinus, noPlus, -⟩ := n.exists_plain_head
  rw [text, Integer.sign, if_neg noMinus, if_neg noPlus]

private theorem lower_text_ne_words (n : Numeral) :
    Text.lower n.text ≠ "inf" ∧ Text.lower n.text ≠ "infinity" ∧ Text.lower n.text ≠ "nan" ∧
      Text.startsWith "nan" (Text.lower n.text) = false ∧
      Text.startsWith "snan" (Text.lower n.text) = false := by
  obtain ⟨c, rest, text, -, -, noI, noN, noS⟩ := n.exists_plain_head
  have inf : Text.ofString "inf" = [105, 110, 102] := by decide
  have infinity : Text.ofString "infinity" = [105, 110, 102, 105, 110, 105, 116, 121] := by decide
  have nan : Text.ofString "nan" = [110, 97, 110] := by decide
  have snan : Text.ofString "snan" = [115, 110, 97, 110] := by decide
  have lowered : Text.lower n.text = c.lower :: Text.lower rest := by rw [text]; rfl
  have noLeadN : ((110 : CodePoint) == c.lower) = false := beq_eq_false_iff_ne.mpr (Ne.symm noN)
  have noLeadS : ((115 : CodePoint) == c.lower) = false := beq_eq_false_iff_ne.mpr (Ne.symm noS)
  simp [lowered, inf, infinity, nan, snan, noI, noN, noLeadN, noLeadS, Text.startsWith,
    List.isPrefixOf]

private theorem special?_text (n : Numeral) : Decimal.special? false n.text = none := by
  obtain ⟨noInf, noInfinity, -, noNan, noSnan⟩ := n.lower_text_ne_words
  simp [Decimal.special?, noInf, noInfinity, noNan, noSnan]

theorem decimal_read_text (n : Numeral) :
    Decimal.read n.text = Decimal.ofScientific n.scientific := by
  have ascii : n.text.map CodePoint.toAsciiDigit = n.text :=
    (List.map_congr_left fun c member => (n.solid_of_mem_text c member).1).trans (List.map_id _)
  have stripped : Text.strip n.text = n.text :=
    Text.trim_of_solid fun c member => (n.solid_of_mem_text c member).2.2
  simp only [Decimal.read, ascii, stripped, sign_text, special?_text, readUnsigned_text]

theorem double_read?_signed (n : Numeral) (negative : Bool) :
    Double.read? (if negative then 45 :: n.text else n.text) =
      some (Double.ofScientific { n.scientific with negative := negative }) := by
  have solid : ∀ c ∈ n.text, c.toAsciiDigit = c ∧ c.isNumeralBlank = false := fun c member =>
    ⟨(n.solid_of_mem_text c member).1, (n.solid_of_mem_text c member).2.1⟩
  have plain : Integer.plain (if negative then 45 :: n.text else n.text) =
      if negative then 45 :: n.text else n.text := by
    apply Integer.plain_of_solid
    cases negative with
    | false => exact solid
    | true => exact List.forall_mem_cons.mpr ⟨by decide, solid⟩
  have sign : Integer.sign (if negative then 45 :: n.text else n.text) = (negative, n.text) := by
    cases negative with
    | false => exact n.sign_text
    | true => rfl
  obtain ⟨noInf, noInfinity, noNan, -⟩ := n.lower_text_ne_words
  simp only [Double.read?, plain, sign, readUnsigned_signed]
  simp [noInf, noInfinity, noNan]

theorem double_read?_text (n : Numeral) :
    Double.read? n.text = some (Double.ofDecimal false n.coefficient n.scale) := by
  have read := n.double_read?_signed false
  rw [if_neg Bool.false_ne_true, Double.ofScientific] at read
  rw [read, ← coefficient_scientific, ← scale_scientific]
  rfl

end Numeral

/-! ### Numerals by their digits -/

namespace Digit

theorem number_zero_cons (digits : List (Digit 10)) : number (zero :: digits) = number digits := by
  rw [number, List.reverse_cons, List.map_append, Nat.ofDigits_append, List.map_singleton,
    Nat.ofDigits_singleton, number]
  simp [zero, ofLtTen]

theorem number_replicate_zero_append (count : Nat) (digits : List (Digit 10)) :
    number (List.replicate count zero ++ digits) = number digits := by
  induction count with
  | zero => rfl
  | succ count ih => rw [List.replicate_succ, List.cons_append, number_zero_cons, ih]

theorem spell_append (s t : List (Digit 10)) : spell (s ++ t) = spell s ++ spell t :=
    List.map_append

theorem spell_replicate_zero (count : Nat) :
    spell (List.replicate count zero) = List.replicate count 48 := List.map_replicate

end Digit

/-- The point and the digits behind it, or nothing if there are none. -/
def pointed (behind : List (Digit 10)) : Text :=
  if behind.isEmpty then [] else 46 :: Digit.spell behind

theorem pointed_of_ne_nil {behind : List (Digit 10)} (nonempty : behind ≠ []) :
    pointed behind = Text.ofString "." ++ Digit.spell behind := by
  have dot : Text.ofString "." = [46] := by decide
  rw [pointed, if_neg (by simpa using nonempty), dot]
  rfl

namespace Numeral

/-- The numeral of digits before and behind the point; there is no point without digits behind
it. -/
def ofDigits (whole behind : List (Digit 10)) (exponent : Option (ExponentParts (Digit 10)))
    (nonempty : whole ≠ []) (exponentNonempty : ∀ e ∈ exponent, e.digits ≠ []) : Numeral where
  whole := whole
  fraction := if behind.isEmpty then none else some behind
  exponent := exponent
  nonempty := by simp [nonempty]
  exponentNonempty := exponentNonempty

section OfDigits

variable {whole behind : List (Digit 10)} {exponent : Option (ExponentParts (Digit 10))}
  (nonempty : whole ≠ []) (exponentNonempty : ∀ e ∈ exponent, e.digits ≠ [])

private theorem behind_ofDigits :
    (ofDigits whole behind exponent nonempty exponentNonempty).behind = behind := by
  cases behind with
  | nil => rfl
  | cons d behind => rfl

theorem coefficient_ofDigits :
    (ofDigits whole behind exponent nonempty exponentNonempty).coefficient =
      Digit.number (whole ++ behind) := by
  rw [coefficient, behind_ofDigits]
  rfl

theorem scale_ofDigits :
    (ofDigits whole behind exponent nonempty exponentNonempty).scale =
      (exponent.map ExponentParts.value).getD 0 - behind.length := by
  rw [scale, behind_ofDigits]
  rfl

theorem text_ofDigits :
    (ofDigits whole behind exponent nonempty exponentNonempty).text =
      Digit.spell whole ++
        (pointed behind ++ (exponent.map (ExponentParts.text Digit.point)).getD []) := by
  rw [text, NumeralParts.text]
  cases behind with
  | nil => cases exponent <;> rfl
  | cons d behind => cases exponent <;> rfl

end OfDigits

end Numeral

theorem ExponentParts.exists_text (capital : Bool) (count : Nat) (e : Int) :
    ∃ part : ExponentParts (Digit 10), part.digits ≠ [] ∧ part.value = e ∧
      part.text Digit.point = Text.join [if capital then "E" else "e", if e < 0 then "-" else "+",
        Text.zeros count, Text.ofNat e.natAbs] := by
  obtain ⟨es, spelled, denoted, nonempty, -⟩ := isNumeral_ofNat e.natAbs
  refine ⟨⟨capital, some (decide (e < 0)), List.replicate count Digit.zero ++ es⟩,
    by simp [nonempty], ?_, ?_⟩
  · simp only [ExponentParts.value, Option.some.injEq, decide_eq_true_eq,
      Digit.number_replicate_zero_append, denoted]
    split_ifs <;> omega
  · have letter : (if capital then Text.ofString "E" else Text.ofString "e") =
        [if capital then 69 else 101] := by
      cases capital <;> decide
    have sign : (if e < 0 then Text.ofString "-" else Text.ofString "+") =
        ExponentParts.signText (some (decide (e < 0))) := by
      by_cases below : e < 0
      · rw [if_pos below, decide_eq_true below]
        decide
      · rw [if_neg below, decide_eq_false below]
        decide
    have digits : (List.replicate count Digit.zero ++ es).map Digit.point =
        Text.zeros count ++ Digit.spell es := by
      rw [← Digit.spell, Digit.spell_append, Digit.spell_replicate_zero, Text.zeros]
    rw [spelled, sign, letter, ExponentParts.text, ExponentParts.letter, digits]
    simp [Text.join]

theorem pointed_drop_one (ds : List (Digit 10)) :
    pointed (ds.drop 1) =
      if ds.length ≤ 1 then [] else Text.join [".", (Digit.spell ds).drop 1] := by
  by_cases single : ds.length ≤ 1
  · have none : ds.drop 1 = [] := List.drop_eq_nil_iff.mpr single
    rw [if_pos single, none]
    rfl
  · have some : ds.drop 1 ≠ [] := by
      rw [ne_eq, List.drop_eq_nil_iff]
      exact single
    have rest : (Digit.spell ds).drop 1 = Digit.spell (ds.drop 1) := List.map_drop.symm
    rw [if_neg single, pointed_of_ne_nil some, rest]
    simp [Text.join]

end Outline
