import Mathlib.Algebra.Field.Rat
import Mathlib.Algebra.Order.Ring.Cast
import Mathlib.Data.List.DropRight
import Mathlib.Tactic.NormNum
import Outline.Proofs.Number.Numeral

/-!
Binary numbers, read and written.
-/

set_option autoImplicit false

/-! ## Integers of at most 53 bits are binary numbers

A ratio that is such an integer has an exponent that is not positive. At that exponent its mantissa
is the integer times a power of two, so the division that gives the mantissa leaves no rest and
nothing is rounded. A decimal of such a value is therefore read as the integer itself, however many
digits and whichever scale it is written with.
-/

namespace Outline

def Numeral.value (n : Numeral) : ℚ := n.coefficient * 10 ^ n.scale

namespace Double

/-! ### Ratios -/

private theorem scaled_natCast (n base k : Nat) : scaled n base k = (n * base ^ k, 1) := rfl

private theorem scaled_neg_natCast (n base k : Nat) :
    scaled n base (-(k : Int)) = (n, base ^ k) := by
  cases k with
  | zero => simpa using scaled_natCast n base 0
  | succ k => rfl

private theorem divideRounded_mul (q : Nat) {d : Nat} (positive : 0 < d) :
    divideRounded (q * d) d = q := by
  simp [divideRounded, positive]

private theorem exists_exponentOf_mul {n d : Nat} (nonzero : 0 < n) (small : n < 2 ^ 53)
    (positive : 0 < d) :
    ∃ k : Nat, exponentOf (n * d) d = -k := by
  have product : n * d ≠ 0 := (Nat.mul_pos nonzero positive).ne'
  have estimated : (n * d).log2 < d.log2 + 54 := by
    rw [Nat.log2_lt product]
    calc n * d < 2 ^ 53 * 2 ^ (d.log2 + 1) := Nat.mul_lt_mul'' small Nat.lt_log2_self
      _ = 2 ^ (d.log2 + 54) := by rw [← Nat.pow_add]; congr 1; omega
  generalize lowest : max ((n * d).log2 - d.log2 - 53 : Int) leastExponent = low
  have least : leastExponent = -1074 := rfl
  have notAbove : low ≤ 0 := by omega
  obtain ⟨k, rfl⟩ : ∃ k : Nat, low = -k := ⟨low.natAbs, by omega⟩
  simp only [exponentOf, lowest, neg_neg, scaled_natCast]
  cases k with
  | zero =>
    have quotient : n * d * 2 ^ 0 / (1 * d) = n := by
      rw [pow_zero, mul_one, one_mul, Nat.mul_div_cancel n positive]
    rw [quotient]
    exact ⟨0, if_pos small⟩
  | succ k =>
    split_ifs
    · exact ⟨k + 1, rfl⟩
    · exact ⟨k, by omega⟩

private theorem exists_ofRatio_mul (negative : Bool) {n d : Nat} (small : n < 2 ^ 53)
    (positive : 0 < d) :
    ∃ k : Nat, ofRatio negative (n * d) d = .finite negative (n * 2 ^ k) (-k) := by
  rcases Nat.eq_zero_or_pos n with rfl | nonzero
  · refine ⟨1074, ?_⟩
    rw [ofRatio, if_pos (Nat.zero_mul d), Nat.zero_mul]
    rfl
  obtain ⟨k, exponent⟩ := exists_exponentOf_mul nonzero small positive
  have product : n * d ≠ 0 := (Nat.mul_pos nonzero positive).ne'
  have mantissa : divideRounded (n * d * 2 ^ k) (1 * d) = n * 2 ^ k := by
    rw [one_mul, Nat.mul_right_comm]
    exact divideRounded_mul _ positive
  have greatest : greatestExponent = 971 := rfl
  simp only [ofRatio, if_neg product, exponent, neg_neg, scaled_natCast, mantissa]
  by_cases carried : n * 2 ^ k = Nat.pow 2 53
  · cases k with
    | zero => exact absurd carried (by simpa using small.ne)
    | succ k =>
      have halved : Nat.pow 2 52 = n * 2 ^ k := by
        have doubled : Nat.pow 2 52 * 2 = n * 2 ^ k * 2 := by rw [mul_assoc, ← pow_succ, carried]
        exact Nat.eq_of_mul_eq_mul_right two_pos doubled
      refine ⟨k, ?_⟩
      rw [if_pos carried, halved]
      simp only
      rw [if_neg (by omega)]
      congr 1
      omega
  · refine ⟨k, ?_⟩
    rw [if_neg carried]
    exact if_neg (by omega)

private theorem integer?_shifted (negative : Bool) (n k : Nat) :
    (finite negative (n * 2 ^ k) (-k)).integer? = some (if negative then -(n : Int) else n) := by
  have positive : 0 < 2 ^ k := Nat.two_pow_pos k
  simp only [integer?, ratio, scaled_neg_natCast, Nat.mul_mod_left, Nat.mul_div_cancel n positive]
  rfl

/-! ### Decimals -/

private theorem log_mul_pow {n : Nat} (nonzero : n ≠ 0) (k : Nat) :
    Nat.log 10 (n * 10 ^ k) = Nat.log 10 n + k := by
  induction k with
  | zero => simp
  | succ k ih =>
    have shifted : n * 10 ^ k ≠ 0 := Nat.mul_ne_zero nonzero (by positivity)
    rw [pow_succ, ← mul_assoc, Nat.log_mul_base (by decide) shifted, ih, Nat.add_assoc]

private theorem exists_scaled_eq {c n : Nat} {s : Int} (value : (c : ℚ) * 10 ^ s = n) :
    ∃ d, 0 < d ∧ scaled c 10 s = (n * d, d) ∧
      (c ≠ 0 → (Nat.log 10 c : Int) + s = Nat.log 10 n) := by
  obtain ⟨k, rfl | rfl⟩ := s.eq_nat_or_neg
  · have whole : c * 10 ^ k = n := by
      rw [zpow_natCast] at value
      exact_mod_cast value
    refine ⟨1, one_pos, ?_, ?_⟩
    · rw [scaled_natCast, whole, mul_one]
    · intro nonzero
      rw [← whole, log_mul_pow nonzero]
      omega
  · have whole : c = n * 10 ^ k := by
      rw [zpow_neg, zpow_natCast] at value
      have cleared : (c : ℚ) = n * 10 ^ k := by
        rw [← value, inv_mul_cancel_right₀ (by positivity)]
      exact_mod_cast cleared
    refine ⟨10 ^ k, by positivity, ?_, ?_⟩
    · rw [scaled_neg_natCast, whole]
    · intro nonzero
      have positive : n ≠ 0 := by
        rintro rfl
        exact nonzero (by rw [whole, Nat.zero_mul])
      rw [whole, log_mul_pow positive]
      omega

/-- A decimal whose value is an integer of at most 53 bits is read as that integer. -/
theorem integer?_ofDecimal (negative : Bool) {c n : Nat} {s : Int} (value : (c : ℚ) * 10 ^ s = n)
    (small : n < 2 ^ 53) :
    (ofDecimal negative c s).integer? = some (if negative then -(n : Int) else n) := by
  obtain ⟨d, positive, ratio, leading⟩ := exists_scaled_eq value
  rw [ofDecimal, length_ofNat]
  by_cases zero : c = 0
  · have nothing : n = 0 := by
      rw [zero, Nat.cast_zero, zero_mul] at value
      exact_mod_cast value.symm
    have least := integer?_shifted negative 0 1074
    rw [Nat.zero_mul] at least
    rw [if_pos (.inl zero), nothing]
    exact least
  have few : Nat.log 10 n < 16 := Nat.log_lt_of_lt_pow' (by decide) (small.trans (by decide))
  have order := leading zero
  have notBelow : ¬(c = 0 ∨ ((Nat.log 10 c + 1 : Nat) : Int) + s < -330) := by
    rintro (absent | below)
    · exact zero absent
    · omega
  rw [if_neg notBelow, if_neg (by omega), ratio]
  obtain ⟨k, exact⟩ := exists_ofRatio_mul negative small positive
  simp only [exact]
  exact integer?_shifted negative n k

end Double

end Outline

/-! ## The texts of floating-point numbers

A finite number is written as a numeral, whose digits are those of the shortest decimal that reads
back; none of the decimals that read back as a number other than zero is zero, so there is a digit.
A number is read as some number from its text, which is the word of an infinity, that of a nan, or
its numeral.
-/

namespace Outline

namespace Double

/-! ### The shortest decimal -/

private theorem scaled_fst_zero (base : Nat) (e : Int) : (scaled 0 base e).1 = 0 := by
  cases e with
  | ofNat k => exact Nat.zero_mul _
  | negSucc k => rfl

private theorem scaled_pos {n base : Nat} (nonzero : 0 < n) (positive : 0 < base) (e : Int) :
    0 < (scaled n base e).1 ∧ 0 < (scaled n base e).2 := by
  cases e with
  | ofNat k => exact ⟨Nat.mul_pos nonzero (Nat.pow_pos positive), Nat.one_pos⟩
  | negSucc k => exact ⟨nonzero, Nat.pow_pos positive⟩

private theorem scaled_snd_pos (n : Nat) {base : Nat} (positive : 0 < base) (e : Int) :
    0 < (scaled n base e).2 := by
  cases e with
  | ofNat k => exact Nat.one_pos
  | negSucc k => exact Nat.pow_pos positive

private theorem interval_fst_pos {mantissa : Nat} (nonzero : mantissa ≠ 0) (exponent : Int) :
    0 < (interval mantissa exponent).1 := by
  simp only [interval]
  split_ifs <;> omega

private theorem readsBack_zero {mantissa : Nat} (nonzero : mantissa ≠ 0) (exponent unit : Int) :
    readsBack mantissa exponent 0 unit = false := by
  have low := interval_fst_pos nonzero exponent
  have base := (scaled_pos Nat.one_pos Nat.two_pos (exponent - 2)).1
  have parts := scaled_snd_pos 0 (show 0 < 10 by decide) unit
  have end_pos := Nat.mul_pos (Nat.mul_pos low base) parts
  simp only [readsBack, scaled_fst_zero, Nat.zero_mul]
  split_ifs
  · simp only [Bool.and_eq_false_iff, decide_eq_false_iff_not]
    omega
  · simp only [Bool.and_eq_false_iff, decide_eq_false_iff_not]
    omega

private theorem candidate?_ne_zero {mantissa : Nat} (nonzero : mantissa ≠ 0) {exponent order : Int}
    {count c : Nat} {unit : Int} (found : candidate? mantissa exponent order count =
      some (c, unit)) :
    c ≠ 0 := by
  rintro rfl
  have never (unit : Int) := readsBack_zero nonzero exponent unit
  simp only [candidate?] at found
  split_ifs at found with nearest same above below
  · rw [(Prod.mk.inj (Option.some.inj found)).1, never] at nearest
    cases nearest
  · rw [(Prod.mk.inj (Option.some.inj found)).1, never] at above
    cases above
  · rw [(Prod.mk.inj (Option.some.inj found)).1, never] at below
    cases below

private theorem search_ne_zero {mantissa : Nat} (nonzero : mantissa ≠ 0) (exponent order : Int)
    (fuel count : Nat) : (search mantissa exponent order fuel count).1 ≠ 0 := by
  induction fuel generalizing count with
  | zero =>
    rw [search]
    cases found : candidate? mantissa exponent order count with
    | none => exact nonzero
    | some pair => exact candidate?_ne_zero nonzero found
  | succ fuel ih =>
    rw [search]
    cases found : candidate? mantissa exponent order count with
    | none => exact ih (count + 1)
    | some pair => exact candidate?_ne_zero nonzero found

private theorem shortest_ne_zero {mantissa : Nat} (nonzero : mantissa ≠ 0) (exponent : Int) :
    (shortest mantissa exponent).1 ≠ 0 := search_ne_zero nonzero _ _ _ _

/-! ### The layouts -/

private theorem exists_digits {coefficient : Nat} (nonzero : coefficient ≠ 0) :
    ∃ ds : List (Digit 10), ds ≠ [] ∧
      (dropTrailingZeros (Text.ofNat coefficient)).1 = Digit.spell ds := by
  obtain ⟨ds, spelled, denoted, -, -⟩ := isNumeral_ofNat coefficient
  have kept : (dropTrailingZeros (Text.ofNat coefficient)).1 =
      Digit.spell (ds.rdropWhile fun d => d.point = 48) := by
    rw [dropTrailingZeros, spelled, Digit.spell, ← List.map_reverse, List.dropWhile_map,
      ← List.map_reverse]
    rfl
  refine ⟨_, fun none => nonzero ?_, kept⟩
  have zeros : ∀ d ∈ ds, d.value.val = 0 := by
    intro d member
    have zero := List.rdropWhile_eq_nil_iff.mp none d member
    have value := Digit.digitValue?_point d
    rw [of_decide_eq_true zero] at value
    exact (Option.some.inj value).symm
  rw [← denoted, Digit.number]
  have all : ds.reverse.map (fun d => d.value.val) = List.replicate ds.length 0 := by
    rw [List.eq_replicate_iff]
    simpa using zeros
  rw [all, Nat.ofDigits_replicate_zero]

private theorem exists_text (whole behind : List (Digit 10)) (nonempty : whole ≠ [])
    (filled : behind ≠ []) :
    ∃ n : Numeral, n.text = Digit.spell whole ++ (Text.ofString "." ++ Digit.spell behind) ∧
      46 ∈ n.text := by
  have written : (Numeral.ofDigits whole behind none nonempty (by simp)).text =
      Digit.spell whole ++ (Text.ofString "." ++ Digit.spell behind) := by
    rw [Numeral.text_ofDigits, Option.map_none, Option.getD_none, List.append_nil,
      pointed_of_ne_nil filled]
  refine ⟨_, written, ?_⟩
  have point : (46 : CodePoint) ∈ Text.ofString "." := by decide
  rw [written]
  simp [point]

private theorem exists_layout_positional {ds : List (Digit 10)} (nonempty : ds ≠ []) {point : Int}
    (positional : -4 < point ∧ point ≤ 16) :
    ∃ n : Numeral, n.text = layout (Digit.spell ds) point ∧ 46 ∈ n.text := by
  have length : (Digit.spell ds).length = ds.length := List.length_map _
  have positive : 0 < ds.length := List.length_pos_iff.mpr nonempty
  simp only [layout, length]
  rw [if_pos positional]
  split_ifs with inFront past
  · have lead : Text.ofString "0." = Digit.spell [Digit.zero] ++ "." := by decide
    have filled : List.replicate point.natAbs Digit.zero ++ ds ≠ [] := by simp [nonempty]
    obtain ⟨n, written, hasPoint⟩ := exists_text [Digit.zero]
      (List.replicate point.natAbs Digit.zero ++ ds) (by simp) filled
    refine ⟨n, ?_, hasPoint⟩
    rw [written, Digit.spell_append, Digit.spell_replicate_zero, lead]
    simp [Text.join, Text.zeros]
  · have tail : Text.ofString ".0" = "." ++ Digit.spell [Digit.zero] := by decide
    have filled : ds ++ List.replicate (point - ds.length).toNat Digit.zero ≠ [] := by
      simp [nonempty]
    obtain ⟨n, written, hasPoint⟩ := exists_text
      (ds ++ List.replicate (point - ds.length).toNat Digit.zero) [Digit.zero] filled (by simp)
    refine ⟨n, ?_, hasPoint⟩
    rw [written, Digit.spell_append, Digit.spell_replicate_zero, tail]
    simp [Text.join, Text.zeros]
  · have before : ds.take point.toNat ≠ [] := by
      rw [← List.length_pos_iff, List.length_take]
      omega
    have behind : ds.drop point.toNat ≠ [] := by
      rw [← List.length_pos_iff, List.length_drop]
      omega
    obtain ⟨n, written, hasPoint⟩ :=
      exists_text (ds.take point.toNat) (ds.drop point.toNat) before behind
    refine ⟨n, ?_, hasPoint⟩
    rw [written]
    simp [Text.join, Digit.spell, List.map_take, List.map_drop]

private theorem exists_layout_exponent {ds : List (Digit 10)} (nonempty : ds ≠ []) {point : Int}
    (far : ¬(-4 < point ∧ point ≤ 16)) :
    ∃ n : Numeral, n.text = layout (Digit.spell ds) point ∧ 101 ∈ n.text := by
  obtain ⟨part, filled, -, written⟩ :=
    ExponentParts.exists_text false (2 - (Text.ofNat (point - 1).natAbs).length) (point - 1)
  have filledAll : ∀ other ∈ some part, other.digits ≠ [] := by
    intro other found
    obtain rfl := Option.some.inj found
    exact filled
  have leading : ds.take 1 ≠ [] := by
    have positive : 0 < ds.length := List.length_pos_iff.mpr nonempty
    rw [← List.length_pos_iff, List.length_take]
    omega
  have first : Digit.spell (ds.take 1) = (Digit.spell ds).take 1 := List.map_take
  have letter : (101 : CodePoint) ∈ Text.ofString "e" := by decide
  refine ⟨Numeral.ofDigits (ds.take 1) (ds.drop 1) (some part) leading filledAll, ?_, ?_⟩
  · rw [layout, if_neg far, Numeral.text_ofDigits, Option.map_some, Option.getD_some, written,
      pointed_drop_one, first]
    simp [Text.join, Digit.spell]
  · rw [Numeral.text_ofDigits, Option.map_some, Option.getD_some, written]
    simp [Text.join, letter]

private theorem exists_layout {ds : List (Digit 10)} (nonempty : ds ≠ []) (point : Int) :
    ∃ n : Numeral, n.text = layout (Digit.spell ds) point ∧ (46 ∈ n.text ∨ 101 ∈ n.text) := by
  by_cases positional : -4 < point ∧ point ≤ 16
  · obtain ⟨n, written, marked⟩ := exists_layout_positional nonempty positional
    exact ⟨n, written, .inl marked⟩
  · obtain ⟨n, written, marked⟩ := exists_layout_exponent nonempty positional
    exact ⟨n, written, .inr marked⟩

/-- The text of a finite number is a numeral with a point or an exponent, after a minus sign if the
number is negative. -/
theorem exists_numeral_text (negative : Bool) (mantissa : Nat) (exponent : Int) :
    ∃ n : Numeral, (46 ∈ n.text ∨ 101 ∈ n.text) ∧ text (.finite negative mantissa exponent) =
      if negative then 45 :: n.text else n.text := by
  by_cases nothing : mantissa = 0
  · obtain ⟨n, written, point⟩ := exists_text [Digit.zero] [Digit.zero] (by simp) (by simp)
    have zero : n.text = Text.ofString "0.0" := by rw [written]; decide
    exact ⟨n, .inl point, by simp only [text, if_pos nothing, zero]⟩
  · obtain ⟨ds, nonempty, spelled⟩ := exists_digits (shortest_ne_zero nothing exponent)
    obtain ⟨n, written, marked⟩ := exists_layout nonempty (ds.length +
      (dropTrailingZeros (Text.ofNat (shortest mantissa exponent).1)).2 +
        (shortest mantissa exponent).2)
    have length : (Digit.spell ds).length = ds.length := List.length_map _
    refine ⟨n, marked, ?_⟩
    simp only [text, if_neg nothing, spelled, length, written]

def reread (x : Double) : Double := (read? x.text).getD x

theorem reread_finite {negative : Bool} {mantissa : Nat} {exponent : Int} {n : Numeral}
    (written : text (.finite negative mantissa exponent) =
      if negative then 45 :: n.text else n.text) :
    reread (.finite negative mantissa exponent) =
      ofScientific { n.scientific with negative := negative } := by
  rw [reread, written, n.double_read?_signed, Option.getD_some]

end Double

end Outline
