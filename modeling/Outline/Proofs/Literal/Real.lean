import Outline.Proofs.Literal.Integer
import Outline.Proofs.Number.Double

/-!
Real literals.
-/

set_option autoImplicit false

/-! ## Real literals by their spelling

A real literal is a numeral with separators anywhere among its digits, perhaps followed by the
letter of a suffix. The letters of the suffixes stand nowhere else in a literal, so the suffix and
the separators can be told from the numeral, which is then read as a decimal or as a binary number.
A binary literal of a small integral value is written as the integer that it denotes.
-/

namespace Outline.Literal

/-- The spelling of a real literal without its suffix. -/
structure RealSpelling extends NumeralParts (Place 10) where
  nonempty : Place.digits whole ++ Place.digits (fraction.getD []) ≠ []
  exponentNonempty : ∀ e ∈ exponent, Place.digits e.digits ≠ []

inductive DecimalSuffix
  | m | capitalM
  deriving DecidableEq, Repr

def DecimalSuffix.point : DecimalSuffix → CodePoint
  | m => 109
  | capitalM => 77

inductive BinarySuffix
  | f | capitalF | d | capitalD
  deriving DecidableEq, Repr

def BinarySuffix.point : BinarySuffix → CodePoint
  | f => 102
  | capitalF => 70
  | d => 100
  | capitalD => 68

namespace RealSpelling

def text (s : RealSpelling) : Text := s.toNumeralParts.text Place.point

def decimalText (s : RealSpelling) (suffix : DecimalSuffix) : Text := s.text ++ [suffix.point]

def binaryText (s : RealSpelling) (suffix : Option BinarySuffix) : Text :=
  s.text ++ (suffix.map BinarySuffix.point).toList

/-- The numeral of a literal: the literal without its separators. -/
def numeral (s : RealSpelling) : Numeral where
  whole := Place.digits s.whole
  fraction := s.fraction.map Place.digits
  exponent := s.exponent.map fun e => ⟨e.capital, e.minus, Place.digits e.digits⟩
  nonempty := by
    have nonempty := s.nonempty
    cases written : s.fraction with
    | none => simpa [written, Place.digits] using nonempty
    | some places => simpa [written] using nonempty
  exponentNonempty := by
    intro e found
    obtain ⟨spelled, written, rfl⟩ := Option.map_eq_some_iff.mp found
    exact s.exponentNonempty spelled written

/-! ### Separators and suffixes -/

private theorem dropSeparators_append (t u : Text) :
    dropSeparators (t ++ u) = dropSeparators t ++ dropSeparators u := List.filter_append t u

private theorem dropSeparators_map_point (places : List (Place 10)) :
    dropSeparators (places.map Place.point) = (Place.digits places).map Digit.point :=
  Place.dropSeparators_spell places

private theorem dropSeparators_exponent (e : ExponentParts (Place 10)) :
    dropSeparators (e.text Place.point) =
      (ExponentParts.text Digit.point ⟨e.capital, e.minus, Place.digits e.digits⟩) := by
  have letter : e.letter ≠ 95 := by
    rw [ExponentParts.letter]
    cases e.capital <;> decide
  have sign : dropSeparators (ExponentParts.signText e.minus) = ExponentParts.signText e.minus := by
    cases e.minus with
    | none => rfl
    | some minus => cases minus <;> rfl
  rw [ExponentParts.text, dropSeparators_cons letter, dropSeparators_append, sign,
    dropSeparators_map_point]
  rfl

private theorem dropSeparators_text (s : RealSpelling) :
    dropSeparators s.text = s.numeral.text := by
  have fraction :
      dropSeparators (s.fractionText Place.point) = s.numeral.fractionText Digit.point := by
    have digits : s.numeral.fraction = s.fraction.map Place.digits := rfl
    rw [NumeralParts.fractionText, NumeralParts.fractionText, digits]
    cases s.fraction with
    | none => rfl
    | some places =>
      have point : (46 : CodePoint) ≠ 95 := by decide
      exact (dropSeparators_cons point _).trans (congrArg _ (dropSeparators_map_point places))
  have exponent :
      dropSeparators (s.exponentText Place.point) = s.numeral.exponentText Digit.point := by
    have digits : s.numeral.exponent =
        s.exponent.map fun e => ⟨e.capital, e.minus, Place.digits e.digits⟩ := rfl
    rw [NumeralParts.exponentText, NumeralParts.exponentText, digits]
    cases s.exponent with
    | none => rfl
    | some e => exact dropSeparators_exponent e
  rw [text, NumeralParts.text, dropSeparators_append, dropSeparators_append, fraction, exponent,
    dropSeparators_map_point]
  rfl

private theorem splitRealSuffix_letter {c : CodePoint} (letter : isLetterOf "fFdDmM" c = true)
    (t : Text) :
    splitRealSuffix (t ++ [c]) = (t, decide (c.lower = 109)) := by
  rw [splitRealSuffix, List.reverse_append, List.reverse_singleton, List.singleton_append]
  simp [letter]

private theorem splitRealSuffix_of_plain {t : Text}
    (plain : ∀ c ∈ t, isLetterOf "fFdDmM" c = false ∧ c ≠ 10) : splitRealSuffix t = (t, false) := by
  rw [splitRealSuffix]
  split
  · next empty => rw [List.reverse_eq_nil_iff.mp empty]
  · next c rest reversed =>
    have member : c ∈ t := List.mem_reverse.mp (by rw [reversed]; exact List.mem_cons_self)
    obtain ⟨noLetter, noEnd⟩ := plain c member
    simp [noLetter, noEnd]

private theorem plain_of_mem_text (s : RealSpelling) :
    ∀ c ∈ s.text, isLetterOf "fFdDmM" c = false ∧ c ≠ 10 := by
  have digits : ∀ (value : Fin 16) (capital : Bool), value.val < 10 →
      isLetterOf "fFdDmM" (Digit.figure value capital) = false ∧
        Digit.figure value capital ≠ 10 := by decide
  have marks : ∀ c ∈ NumeralParts.marks, isLetterOf "fFdDmM" c = false ∧ c ≠ 10 :=
    NumeralParts.forall_marks.mpr (by decide)
  intro c member
  rcases NumeralParts.mem_text member with ⟨place, rfl⟩ | mark
  · cases place with
    | digit d => exact digits d.value d.capital d.below
    | separator => exact (by decide : isLetterOf "fFdDmM" 95 = false ∧ (95 : CodePoint) ≠ 10)
  · exact marks c mark

private theorem decodeReal_append_suffix (t : Text) (suffix : DecimalSuffix) :
    decodeReal (t ++ [suffix.point]) =
      ((Decimal.read (dropSeparators t)).map Decimal.text).mapError .decimal := by
  have letter : isLetterOf "fFdDmM" suffix.point = true ∧ suffix.point.lower = 109 := by
    cases suffix <;> decide
  rw [decodeReal, splitRealSuffix_letter letter.1, letter.2]
  simp

private theorem decodeReal_decimalText (s : RealSpelling) (suffix : DecimalSuffix) :
    decodeReal (s.decimalText suffix) =
      ((Decimal.read s.numeral.text).map Decimal.text).mapError .decimal := by
  rw [decimalText, decodeReal_append_suffix, dropSeparators_text]

private theorem decodeReal_binaryText (s : RealSpelling) (suffix : Option BinarySuffix) :
    decodeReal (s.binaryText suffix) =
      .ok (realText (Double.ofDecimal false s.numeral.coefficient s.numeral.scale)) := by
  have split : splitRealSuffix (s.binaryText suffix) = (s.text, false) := by
    cases suffix with
    | none =>
      rw [binaryText, Option.map_none, Option.toList_none, List.append_nil]
      exact splitRealSuffix_of_plain s.plain_of_mem_text
    | some letter =>
      have binary : isLetterOf "fFdDmM" letter.point = true ∧ letter.point.lower ≠ 109 := by
        cases letter <;> decide
      rw [binaryText, Option.map_some, Option.toList_some, splitRealSuffix_letter binary.1,
        decide_eq_false binary.2]
  simp [decodeReal, split, dropSeparators_text, Numeral.double_read?_text]

end RealSpelling

/-! ### Integral values -/

private theorem realText_ofDecimal {c n : Nat} {scale : Int} (integral : (c : ℚ) * 10 ^ scale = n)
    (small : n < 10 ^ 15) : realText (Double.ofDecimal false c scale) = Text.ofNat n := by
  have limit : n < plainIntegerLimit := small
  have exact : (Double.ofDecimal false c scale).integer? = some (n : Int) :=
    Double.integer?_ofDecimal false integral (small.trans (by decide))
  simp only [realText, exact, Int.natAbs_natCast]
  rw [if_pos limit]
  rfl

/-- A binary literal whose exact value is an integer below `10 ^ 15` is decoded to the decimal
numeral of the integer, however it is spelled. -/
theorem decodeReal_integral (s : RealSpelling) (suffix : Option BinarySuffix) {n : Nat}
    (integral : s.numeral.value = n) (small : n < 10 ^ 15) :
    ∃ numeral, decodeReal (s.binaryText suffix) = .ok numeral ∧ IsNumeral n numeral := by
  refine ⟨Text.ofNat n, ?_, isNumeral_ofNat n⟩
  rw [s.decodeReal_binaryText, realText_ofDecimal integral small]

def hundredths : RealSpelling where
  whole := [.digit (.ofLtTen 1 (by decide)), .digit (.ofLtTen 2 (by decide)), .separator,
    .digit .zero, .digit .zero]
  fraction := none
  exponent := some ⟨false, some true, [.digit (.ofLtTen 2 (by decide))]⟩
  nonempty := by simp [Place.digits]
  exponentNonempty := by simp [Place.digits]

theorem decodeReal_hundredths :
    ∃ numeral, decodeReal "12_00e-2f" = .ok numeral ∧ IsNumeral 12 numeral := by
  have spelled : Text.ofString "12_00e-2f" = hundredths.binaryText (some .f) := by decide
  have coefficient : hundredths.numeral.coefficient = 1200 := by decide
  have scale : hundredths.numeral.scale = -2 := by decide
  rw [spelled]
  apply decodeReal_integral hundredths (some .f)
  · rw [Numeral.value, coefficient, scale]
    norm_num
  · decide

end Outline.Literal

/-! ## Decimal literals keep their scale

A decimal is written in one of three layouts: plain with the point inside its digits, plain with
zeros before its digits, or with an exponent. Each of them is a numeral with the coefficient and the
scale of the decimal. So what a decimal literal is decoded to is read as the same decimal again.
-/

namespace Outline

namespace Decimal

/-! ### The three layouts -/

/-- Whether a text is in plain notation with a number of digits behind the point. -/
def IsPlain (places : Nat) (t : Text) : Prop :=
  ∃ whole behind : List (Digit 10), whole ≠ [] ∧ behind.length = places ∧
    t = Digit.spell whole ++ pointed behind

private theorem plainText_eq (coefficient places : Nat) :
    ∃ whole behind : List (Digit 10), whole ≠ [] ∧ behind.length = places ∧
      Digit.number (whole ++ behind) = coefficient ∧
      plainText coefficient places = Digit.spell whole ++ pointed behind := by
  obtain ⟨ds, spelled, denoted, nonempty, -⟩ := isNumeral_ofNat coefficient
  have length : (Digit.spell ds).length = ds.length := List.length_map _
  simp only [plainText, digits, spelled, length]
  by_cases whole : places = 0
  · refine ⟨ds, [], nonempty, whole.symm, by rw [List.append_nil, denoted], ?_⟩
    rw [if_pos whole]
    simp [pointed]
  by_cases inside : places < ds.length
  · have before : (ds.take (ds.length - places)).length = ds.length - places := by
      rw [List.length_take]
      omega
    have behind : (ds.drop (ds.length - places)).length = places := by
      rw [List.length_drop]
      omega
    have nonemptyBehind : ds.drop (ds.length - places) ≠ [] := by
      rw [← List.length_pos_iff]
      omega
    refine ⟨ds.take (ds.length - places), ds.drop (ds.length - places), ?_, behind, ?_, ?_⟩
    · rw [← List.length_pos_iff]
      omega
    · rw [List.take_append_drop, denoted]
    · rw [if_neg whole, if_pos inside, pointed_of_ne_nil nonemptyBehind]
      simp [Text.join, Digit.spell, List.map_take, List.map_drop]
  · refine ⟨[Digit.zero], List.replicate (places - ds.length) Digit.zero ++ ds, by simp, ?_, ?_, ?_⟩
    · rw [List.length_append, List.length_replicate]
      omega
    · rw [List.singleton_append, Digit.number_zero_cons, Digit.number_replicate_zero_append,
        denoted]
    · have nonemptyBehind : List.replicate (places - ds.length) Digit.zero ++ ds ≠ [] := by
        simp [nonempty]
      have lead : Text.ofString "0." = Digit.spell [Digit.zero] ++ "." := by decide
      rw [if_neg whole, if_neg inside, pointed_of_ne_nil nonemptyBehind, Digit.spell_append,
        Digit.spell_replicate_zero, lead]
      simp [Text.join, Text.zeros]

private theorem scientificText_eq (coefficient : Nat) (exponent : Int) :
    ∃ n : Numeral, n.text = scientificText coefficient exponent ∧ n.coefficient = coefficient ∧
      n.scale = exponent := by
  obtain ⟨ds, spelled, denoted, nonempty, -⟩ := isNumeral_ofNat coefficient
  have length : (Digit.spell ds).length = ds.length := List.length_map _
  have positive : 0 < ds.length := List.length_pos_iff.mpr nonempty
  have leading : ds.take 1 ≠ [] := by
    rw [← List.length_pos_iff, List.length_take]
    omega
  generalize power : adjusted coefficient exponent = e
  obtain ⟨part, filled, value, written⟩ := ExponentParts.exists_text true 0 e
  have filledAll : ∀ other ∈ some part, other.digits ≠ [] := by
    intro other found
    obtain rfl := Option.some.inj found
    exact filled
  refine ⟨Numeral.ofDigits (ds.take 1) (ds.drop 1) (some part) leading filledAll, ?_, ?_, ?_⟩
  · have first : Digit.spell (ds.take 1) = (Digit.spell ds).take 1 := List.map_take
    rw [Numeral.text_ofDigits, Option.map_some, Option.getD_some, written, pointed_drop_one, first]
    simp only [scientificText, power, digits, spelled, length]
    simp [Text.join, Text.zeros]
  · rw [Numeral.coefficient_ofDigits, List.take_append_drop, denoted]
  · rw [Numeral.scale_ofDigits, Option.map_some, Option.getD_some, value, List.length_drop, ← power,
      adjusted, digits, spelled, length]
    omega

/-- The text of a decimal that is not negative is a numeral of its coefficient and scale. -/
theorem exists_numeral_text (coefficient : Nat) (exponent : Int) :
    ∃ n : Numeral, n.text = text (.finite false coefficient exponent) ∧
      n.coefficient = coefficient ∧ n.scale = exponent := by
  simp only [text, Bool.false_eq_true, ↓reduceIte]
  by_cases plain : exponent ≤ 0 ∧ -6 ≤ adjusted coefficient exponent
  · rw [if_pos plain]
    obtain ⟨whole, behind, nonempty, places, denoted, spelled⟩ :=
      plainText_eq coefficient exponent.natAbs
    refine ⟨Numeral.ofDigits whole behind none nonempty (by simp), ?_, ?_, ?_⟩
    · rw [Numeral.text_ofDigits, spelled, Option.map_none, Option.getD_none, List.append_nil]
    · rw [Numeral.coefficient_ofDigits, denoted]
    · rw [Numeral.scale_ofDigits, Option.map_none, Option.getD_none, places]
      omega
  · rw [if_neg plain]
    exact scientificText_eq coefficient exponent

private theorem isPlain_text {coefficient : Nat} {exponent : Int} (notAbove : exponent ≤ 0)
    (near : -6 ≤ adjusted coefficient exponent) :
    IsPlain exponent.natAbs (text (.finite false coefficient exponent)) := by
  obtain ⟨whole, behind, nonempty, places, -, spelled⟩ := plainText_eq coefficient exponent.natAbs
  refine ⟨whole, behind, nonempty, places, ?_⟩
  simp [text, notAbove, near, spelled]

end Decimal

namespace Numeral

/-- The power of ten of the leading digit; zero has the one digit zero. -/
def leading (n : Numeral) : Int := n.scale + Nat.log 10 n.coefficient

private theorem leading_eq (n : Numeral) : n.leading = Decimal.adjusted n.coefficient n.scale := by
  rw [leading, Decimal.adjusted, Decimal.digits, length_ofNat]
  omega

/-- Whether a decimal is in range: the power of ten of its leading digit and that of its last. -/
def isInRange (n : Numeral) : Bool :=
  decide (n.leading ≤ 999999999999999999) && decide (-1999999999999999997 ≤ n.scale)

private theorem decimal_read_eq (n : Numeral) :
    Decimal.read n.text =
      if n.isInRange then .ok (.finite false n.coefficient n.scale) else .error .outOfRange := by
  rw [decimal_read_text, Decimal.ofScientific, coefficient_scientific, scale_scientific,
    ← leading_eq, isInRange, Decimal.greatestAdjusted, Decimal.leastExponent]
  by_cases above : n.leading > 999999999999999999
  · have refused := decide_eq_false (not_le.mpr above)
    simp [above, refused]
  by_cases below : n.scale < -1999999999999999997
  · have refused := decide_eq_false (not_le.mpr below)
    simp [below, refused]
  · have accepted := decide_eq_true (not_lt.mp above)
    have deep := decide_eq_true (not_lt.mp below)
    rw [accepted, deep, if_neg (by simp only [above, below, or_self, not_false_iff])]
    rfl

end Numeral

namespace Literal

private theorem dropSeparators_numeral (n : Numeral) : dropSeparators n.text = n.text := by
  have marks : ∀ c ∈ NumeralParts.marks, c ≠ 95 := NumeralParts.forall_marks.mpr (by decide)
  have kept : ∀ c ∈ n.text, c ≠ 95 := by
    intro c member
    rcases NumeralParts.mem_text member with ⟨d, rfl⟩ | mark
    · exact Place.point_digit_ne_separator d
    · exact marks c mark
  rw [dropSeparators, List.filter_eq_self]
  intro c member
  exact decide_eq_true (kept c member)

/-- A decimal literal is accepted exactly if its exponents are in range. What it is decoded to is a
numeral of the same coefficient and the same scale, is read as just that decimal, stands in plain
notation with as many digits behind the point as the scale says where the scale is not positive and
the leading digit stands near the point, and is decoded to itself as a decimal literal. -/
theorem decodeReal_keeps_scale (s : RealSpelling) (suffix : DecimalSuffix) :
    if s.numeral.isInRange then
      ∃ out, decodeReal (s.decimalText suffix) = .ok out ∧
        (∃ n : Numeral, n.text = out ∧ n.coefficient = s.numeral.coefficient ∧
          n.scale = s.numeral.scale) ∧
        Decimal.read out = .ok (.finite false s.numeral.coefficient s.numeral.scale) ∧
        (s.numeral.scale ≤ 0 → -6 ≤ s.numeral.leading →
          Decimal.IsPlain s.numeral.scale.natAbs out) ∧
        decodeReal (out ++ [DecimalSuffix.m.point]) = .ok out
    else decodeReal (s.decimalText suffix) = .error (.decimal .outOfRange) := by
  have decoded := s.decodeReal_decimalText suffix
  rw [Numeral.decimal_read_eq] at decoded
  by_cases inRange : s.numeral.isInRange
  · rw [if_pos inRange] at decoded ⊢
    obtain ⟨n, spelled, coefficient, scale⟩ :=
      Decimal.exists_numeral_text s.numeral.coefficient s.numeral.scale
    have again : n.isInRange := by
      rw [Numeral.isInRange, Numeral.leading, coefficient, scale]
      exact inRange
    have read :
      Decimal.read n.text = .ok (.finite false s.numeral.coefficient s.numeral.scale) := by
      rw [Numeral.decimal_read_eq, if_pos again, coefficient, scale]
    refine ⟨n.text, ?_, ⟨n, rfl, coefficient, scale⟩, read, ?_, ?_⟩
    · rw [decoded, spelled]
      rfl
    · intro notAbove near
      rw [spelled]
      rw [Numeral.leading_eq] at near
      exact Decimal.isPlain_text notAbove near
    · rw [RealSpelling.decodeReal_append_suffix, dropSeparators_numeral, read, spelled]
      rfl
  · rw [if_neg inRange] at decoded ⊢
    exact decoded

example : decodeReal "0.00_0150M" = .ok (Text.ofString "0.000150") := by decide

example : decodeReal "120e3m" = .ok (Text.ofString "1.20E+5") := by decide

end Literal

end Outline
