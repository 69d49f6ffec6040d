import Outline.Literal
import Outline.Proofs.Number.Numeral

/-!
Integer literals.
-/

set_option autoImplicit false

/-! ## Integer literals by their spelling

An integer literal is a digit followed by digits and separators, or a zero, the letter of a base and
digits and separators, at least one of them a digit; a suffix of letters may follow. The letters of
the suffix are no digits of any base, and neither a separator nor the letter of a base is a digit of
that base, so the parts of a literal can be told apart, and the literal denotes the number of its
digits. Base ten limits the digits that are read; in the other bases only the size of the number
counts.
-/

namespace Outline.Literal

inductive Place (base : Nat)
  | digit (d : Digit base)
  | separator

namespace Place

variable {base : Nat}

def point : Place base → CodePoint
  | digit d => d.point
  | separator => 95

def spell (places : List (Place base)) : Text := places.map point

def digits : List (Place base) → List (Digit base)
  | [] => []
  | digit d :: places => d :: digits places
  | separator :: places => digits places

end Place

inductive Mark
  | hexadecimal | binary
  deriving DecidableEq, Repr

def Mark.base : Mark → Nat
  | .hexadecimal => 16
  | .binary => 2

def Mark.letter : Mark → Bool → CodePoint
  | .hexadecimal, capital => if capital then 88 else 120
  | .binary, capital => if capital then 66 else 98

inductive SuffixLetter
  | u | capitalU | l | capitalL
  deriving DecidableEq, Repr

def SuffixLetter.point : SuffixLetter → CodePoint
  | u => 117
  | capitalU => 85
  | l => 108
  | capitalL => 76

inductive IntegerSpelling
  | decimal (first : Digit 10) (rest : List (Place 10)) (suffix : List SuffixLetter)
  /-- A zero and the letter of a base, then digits and separators with at least one digit. -/
  | marked (mark : Mark) (capital : Bool) (places : List (Place mark.base))
      (nonempty : Place.digits places ≠ []) (suffix : List SuffixLetter)

namespace IntegerSpelling

def text : IntegerSpelling → Text
  | decimal first rest suffix =>
    first.point :: (Place.spell rest ++ suffix.map SuffixLetter.point)
  | marked mark capital places _ suffix =>
    48 :: mark.letter capital :: (Place.spell places ++ suffix.map SuffixLetter.point)

def value : IntegerSpelling → Nat
  | decimal first rest _ => Digit.number (first :: Place.digits rest)
  | marked _ _ places _ _ => Digit.number (Place.digits places)

/-- Whether a decimal literal has more than 4300 digits, or the number of another one more than that
many in base ten. -/
def isTooLong : IntegerSpelling → Bool
  | decimal first rest _ => decide (4300 < (first :: Place.digits rest).length)
  | marked _ _ places _ _ => decide (10 ^ 4300 ≤ Digit.number (Place.digits places))

end IntegerSpelling

/-! ### Taking a literal apart -/

private theorem splitLineEnd_of_not_mem {t : Text} (absent : 10 ∉ t) :
    splitLineEnd t = (t, []) := by
  rw [splitLineEnd]
  split
  · next empty => rw [List.reverse_eq_nil_iff.mp empty]
  · next c r reversed =>
    have member : c ∈ t := List.mem_reverse.mp (by rw [reversed]; exact List.mem_cons_self)
    exact if_neg fun same : c = 10 => absent (same ▸ member)

private theorem dropIntegerSuffix_append {body suffix : Text}
    (letters : ∀ c ∈ suffix, isLetterOf "uUlL" c = true)
    (others : ∀ c ∈ body, isLetterOf "uUlL" c = false) (oneLine : 10 ∉ body) :
    dropIntegerSuffix (body ++ suffix) = body := by
  have ends : ((body ++ suffix).reverse.dropWhile (isLetterOf "uUlL")).reverse = body := by
    rw [List.reverse_append, List.dropWhile_append_of_pos]
    · refine List.rdropWhile_eq_self_iff.mpr fun nonempty => ?_
      simp [others _ (List.getLast_mem nonempty)]
    · exact fun c member => letters c (List.mem_reverse.mp member)
  rw [dropIntegerSuffix, ends]
  dsimp only
  split_ifs with shorter
  · rfl
  · obtain rfl : suffix = [] := by simpa using shorter
    rw [List.append_nil] at ends ⊢
    rw [splitLineEnd_of_not_mem oneLine]
    dsimp only
    rw [ends, List.append_nil]

theorem dropSeparators_cons {c : CodePoint} (kept : c ≠ 95) (t : Text) :
    dropSeparators (c :: t) = c :: dropSeparators t :=
  List.filter_cons_of_pos (by simpa using kept)

private theorem dropSeparators_separator (t : Text) : dropSeparators (95 :: t) = dropSeparators t :=
  List.filter_cons_of_neg (by simp)

namespace Place

variable {base : Nat}

theorem point_digit_ne_separator (d : Digit base) : d.point ≠ 95 := by
  have apart : ∀ (value : Fin 16) (capital : Bool), Digit.figure value capital ≠ 95 := by decide
  exact apart d.value d.capital

theorem dropSeparators_spell (places : List (Place base)) :
    dropSeparators (spell places) = Digit.spell (digits places) := by
  induction places with
  | nil => rfl
  | cons place places ih =>
    cases place with
    | digit d =>
      rw [digits, Digit.spell, List.map_cons, ← Digit.spell, ← ih]
      exact dropSeparators_cons (point_digit_ne_separator d) _
    | separator =>
      rw [digits, ← ih]
      exact dropSeparators_separator _

private theorem point_apart (place : Place base) :
    isLetterOf "uUlL" place.point = false ∧ place.point ≠ 10 := by
  have apart : ∀ (value : Fin 16) (capital : Bool),
      isLetterOf "uUlL" (Digit.figure value capital) = false ∧
        Digit.figure value capital ≠ 10 := by decide
  cases place with
  | digit d => exact apart d.value d.capital
  | separator => exact (by decide : isLetterOf "uUlL" 95 = false ∧ (95 : CodePoint) ≠ 10)

end Place

private theorem SuffixLetter.isLetterOf_point (letter : SuffixLetter) :
    isLetterOf "uUlL" letter.point = true := by
  cases letter <;> decide

private theorem Mark.letter_apart (mark : Mark) (capital : Bool) :
    isLetterOf "uUlL" (mark.letter capital) = false ∧ mark.letter capital ≠ 10 ∧
      mark.letter capital ≠ 95 := by
  cases mark <;> cases capital <;> decide

private theorem dropIntegerSuffix_spell {base : Nat} {lead : Text}
    (plain : ∀ c ∈ lead, isLetterOf "uUlL" c = false ∧ c ≠ 10) (places : List (Place base))
    (suffix : List SuffixLetter) :
    dropIntegerSuffix (lead ++ Place.spell places ++ suffix.map SuffixLetter.point) =
      lead ++ Place.spell places := by
  have apart : ∀ c ∈ lead ++ Place.spell places, isLetterOf "uUlL" c = false ∧ c ≠ 10 := by
    intro c member
    rcases List.mem_append.mp member with leading | spelled
    · exact plain c leading
    · obtain ⟨place, -, rfl⟩ := List.mem_map.mp spelled
      exact place.point_apart
  refine dropIntegerSuffix_append ?_ (fun c member => (apart c member).1)
    fun ending => (apart 10 ending).2 rfl
  intro c member
  obtain ⟨letter, -, rfl⟩ := List.mem_map.mp member
  exact letter.isLetterOf_point

/-! ### Reading the parts -/

private theorem decodeInteger_of_decimal {t : Text} {digits : List (Digit 10)}
    (body : dropSeparators (dropIntegerSuffix t) = Digit.spell digits) :
    decodeInteger t = (Integer.read 10 (Digit.spell digits) >>= Integer.write).mapError
      .integer := by
  have noMark : ∀ (value : Fin 16) (capital : Bool), value.val < 10 →
      (Digit.figure value capital).lower ≠ 120 ∧ (Digit.figure value capital).lower ≠ 98 := by
        decide
  rw [decodeInteger, body]
  rcases digits with _ | ⟨first, _ | ⟨second, digits⟩⟩
  · rfl
  · rfl
  · obtain ⟨notX, notB⟩ := noMark second.value second.capital second.below
    simp only [Digit.spell, List.map_cons]
    rw [if_neg fun same => notX same.2, if_neg fun same => notB same.2]

private theorem decodeInteger_of_marked {t rest : Text} {mark : Mark} {capital : Bool}
    (body : dropSeparators (dropIntegerSuffix t) = 48 :: mark.letter capital :: rest) :
    decodeInteger t = (Integer.read mark.base rest >>= Integer.write).mapError .integer := by
  rw [decodeInteger, body]
  dsimp only
  cases mark with
  | hexadecimal =>
    have lower : (Mark.hexadecimal.letter capital).lower = 120 := by cases capital <;> decide
    rw [if_pos ⟨rfl, lower⟩, Mark.base]
  | binary =>
    have lower : (Mark.binary.letter capital).lower = 98 := by cases capital <;> decide
    rw [if_neg fun same => absurd (lower.symm.trans same.2) (by decide), if_pos ⟨rfl, lower⟩,
      Mark.base]

private theorem write_read (n : Nat) :
    ((.ok (n : Int) : Except Integer.Flaw Int) >>= Integer.write).mapError Flaw.integer =
      if n < 10 ^ Integer.digitLimit then .ok (Text.ofNat n)
      else .error (.integer .longNumber) := by
  have numeral : Text.ofInt (n : Int) = Text.ofNat n := rfl
  have power (k : Nat) : Nat.pow 10 k = 10 ^ k := rfl
  have written : ((.ok (n : Int) : Except Integer.Flaw Int) >>= Integer.write) =
    Integer.write n := pure_bind _ _
  rw [written, Integer.write, Int.natAbs_natCast, numeral, power]
  split_ifs <;> rfl

namespace IntegerSpelling

private theorem dropSeparators_text (s : IntegerSpelling) :
    dropSeparators (dropIntegerSuffix s.text) = match s with
      | decimal first rest _ => Digit.spell (first :: Place.digits rest)
      | marked mark capital places _ _ =>
        48 :: mark.letter capital :: Digit.spell (Place.digits places) := by
  cases s with
  | decimal first rest suffix =>
    have noLead : ∀ c ∈ ([] : Text), isLetterOf "uUlL" c = false ∧ c ≠ 10 := by simp
    have dropped := dropIntegerSuffix_spell noLead (.digit first :: rest) suffix
    rw [List.nil_append] at dropped
    exact (congrArg dropSeparators dropped).trans
      (Place.dropSeparators_spell (.digit first :: rest))
  | marked mark capital places nonempty suffix =>
    obtain ⟨notSuffix, notEnd, notSeparator⟩ := mark.letter_apart capital
    have plain : ∀ c ∈ [48, mark.letter capital], isLetterOf "uUlL" c = false ∧ c ≠ 10 := by
      intro c member
      rcases List.mem_pair.mp member with rfl | rfl
      · decide
      · exact ⟨notSuffix, notEnd⟩
    refine (congrArg dropSeparators (dropIntegerSuffix_spell plain places suffix)).trans ?_
    rw [List.cons_append, List.cons_append, List.nil_append, dropSeparators_cons (by decide),
      dropSeparators_cons notSeparator, Place.dropSeparators_spell]

/-- A literal is decoded to the numeral of its number, unless it is too long to be read or
written. -/
theorem decodeInteger_text (s : IntegerSpelling) :
    (s.isTooLong = true → ∃ flaw, decodeInteger s.text = .error (.integer flaw)) ∧
      (s.isTooLong = false → decodeInteger s.text = .ok (Text.ofNat s.value)) := by
  have body := s.dropSeparators_text
  have same : Integer.digitLimit = 4300 := rfl
  cases s with
  | decimal first rest suffix =>
    rw [decodeInteger_of_decimal body, Digit.read_spell (by simp), isTooLong, value]
    generalize 4300 = limit at same ⊢
    rw [same]
    constructor
    · intro long
      rw [if_pos ⟨rfl, of_decide_eq_true long⟩]
      exact ⟨_, rfl⟩
    · intro short
      have few := of_decide_eq_false short
      have small : Digit.number (first :: Place.digits rest) < 10 ^ limit :=
        (Digit.number_lt (by decide) _).trans_le
          (Nat.pow_le_pow_right (by decide) (Nat.not_lt.mp few))
      rw [if_neg fun long => few long.2, write_read, same, if_pos small]
  | marked mark capital places nonempty suffix =>
    have notTen : mark.base ≠ 10 := by cases mark <;> decide
    rw [decodeInteger_of_marked body, Digit.read_spell nonempty, isTooLong, value,
      if_neg fun long => notTen long.1, write_read]
    generalize 4300 = limit at same ⊢
    rw [same]
    constructor
    · intro long
      rw [if_neg (Nat.not_lt.mpr (of_decide_eq_true long))]
      exact ⟨_, rfl⟩
    · intro short
      rw [if_pos (Nat.not_le.mp (of_decide_eq_false short))]

end IntegerSpelling

/-- An integer literal denotes the decimal numeral of the number of its digits, and is kept as
written exactly if it is too long. -/
theorem value?_integer (s : IntegerSpelling) :
    if s.isTooLong then value? "integer_literal" s.text = some s.text
    else ∃ numeral, value? "integer_literal" s.text = some numeral ∧ IsNumeral s.value numeral := by
  have kind : Kind.ofType? "integer_literal" = some .integer := by decide
  obtain ⟨kept, denoted⟩ := s.decodeInteger_text
  cases long : s.isTooLong with
  | true =>
    obtain ⟨flaw, failed⟩ := kept long
    simp only [value?, kind, decode, failed, ↓reduceIte]
  | false =>
    have decoded := denoted long
    rw [if_neg Bool.false_ne_true]
    refine ⟨Text.ofNat s.value, ?_, isNumeral_ofNat s.value⟩
    simp only [value?, kind, decode, decoded]

example : value? "integer_literal" "0xF_fUL" = some (Text.ofString "255") := by decide +kernel

end Outline.Literal

/-! ## Canonical numerals

Whatever text is read as an integer literal, with signs, blanks, digits of any script or a mark of a
base after another, what is written for it is a canonical numeral: at most 4300 digits without a
leading zero, and a minus only before a number that is not zero. Such a numeral has no suffix, no
separator and no mark of a base, so it is read as the number it denotes and written as it stands.
-/

namespace Outline.Literal

/-- Whether a text is a canonical numeral of an integer: the decimal numeral of its magnitude, of no
more than 4300 digits, after a minus if the integer is below zero. -/
def IsCanonical (t : Text) : Prop :=
  ∃ (negative : Bool) (n : Nat) (numeral : Text),
    IsNumeral n numeral ∧ numeral.length ≤ 4300 ∧ (negative = true → n ≠ 0) ∧
      t = if negative then 45 :: numeral else numeral

/-! ### What is written -/

private theorem length_ofNat_le {n limit : Nat} (small : n < 10 ^ limit) (positive : 0 < limit) :
    (Text.ofNat n).length ≤ limit := by
  rw [length_ofNat]
  have := Nat.log_lt_of_lt_pow' positive.ne' small
  omega

private theorem isCanonical_ofInt {n : Int} (small : n.natAbs < 10 ^ Integer.digitLimit) :
    IsCanonical (Text.ofInt n) := by
  have short := length_ofNat_le small (by decide)
  cases n with
  | ofNat n => exact ⟨false, n, _, isNumeral_ofNat n, short, by simp, rfl⟩
  | negSucc n => exact ⟨true, n + 1, _, isNumeral_ofNat (n + 1), short, by simp, rfl⟩

private theorem write_eq_ok_iff {n : Int} {t : Text} :
    Integer.write n = .ok t ↔ n.natAbs < 10 ^ Integer.digitLimit ∧ t = Text.ofInt n := by
  have power (k : Nat) : Nat.pow 10 k = 10 ^ k := rfl
  rw [Integer.write, power]
  split_ifs with small
  · simp [small, eq_comm]
  · simp [small]

private theorem ok_bind_write (n : Int) :
    ((.ok n : Except Integer.Flaw Int) >>= Integer.write) = Integer.write n := pure_bind _ _

private theorem decodeInteger_cases (s : Text) :
    (∃ flaw, decodeInteger s = .error (.integer flaw)) ∨
      ∃ n : Int, n.natAbs < 10 ^ Integer.digitLimit ∧ decodeInteger s = .ok (Text.ofInt n) := by
  have composed : ∃ read : Except Integer.Flaw Int,
      decodeInteger s = (read >>= Integer.write).mapError Flaw.integer := ⟨_, rfl⟩
  obtain ⟨read, composed⟩ := composed
  cases read with
  | error flaw => exact .inl ⟨flaw, composed⟩
  | ok n =>
    rw [ok_bind_write] at composed
    cases written : Integer.write n with
    | error flaw =>
      rw [written] at composed
      exact .inl ⟨flaw, composed⟩
    | ok text =>
      obtain ⟨small, rfl⟩ := write_eq_ok_iff.mp written
      rw [written] at composed
      exact .inr ⟨n, small, composed⟩

/-! ### What is written is read again -/

private theorem point_plain (d : Digit 10) :
    isLetterOf "uUlL" d.point = false ∧ d.point ≠ 10 ∧ d.point ≠ 95 := by
  have apart := (Place.digit d).point_apart
  exact ⟨apart.1, apart.2, Place.point_digit_ne_separator d⟩

private theorem dropSeparators_of_plain {t : Text}
    (plain : ∀ c ∈ t, isLetterOf "uUlL" c = false ∧ c ≠ 10 ∧ c ≠ 95) :
    dropSeparators (dropIntegerSuffix t) = t := by
  have noSuffix : ∀ c ∈ ([] : Text), isLetterOf "uUlL" c = true := by simp
  have kept := dropIntegerSuffix_append noSuffix (fun c member => (plain c member).1)
    fun ending => (plain 10 ending).2.1 rfl
  rw [List.append_nil] at kept
  rw [kept, dropSeparators, List.filter_eq_self]
  intro c member
  simpa using (plain c member).2.2

private theorem read_minus {digits : List (Digit 10)} (nonempty : digits ≠ [])
    (few : digits.length ≤ Integer.digitLimit) :
    Integer.read 10 (45 :: Digit.spell digits) = .ok (-(Digit.number digits : Int)) := by
  have plain : Integer.plain (45 :: Digit.spell digits) = 45 :: Digit.spell digits := by
    apply Integer.plain_of_solid
    intro c member
    rcases List.mem_cons.mp member with rfl | member
    · decide
    · obtain ⟨d, -, rfl⟩ := List.mem_map.mp member
      exact ⟨Digit.toAsciiDigit_figure d.value d.capital,
        Digit.isNumeralBlank_figure d.value d.capital⟩
  have sign : Integer.sign (45 :: Digit.spell digits) = (true, Digit.spell digits) := by
    rw [Integer.sign, if_pos rfl]
  have length : (Digit.spell digits).length = digits.length := List.length_map _
  have filled : (Digit.spell digits).isEmpty = false := by simp [Digit.spell, nonempty]
  have unmarked : Integer.baseMark? 10 = none := by decide
  have notLong : ¬Integer.digitLimit < digits.length := Nat.not_lt.mpr few
  simp only [Integer.read, plain, sign, unmarked, Digit.takeWhile_spell, Digit.valueOf_spell,
    length, filled]
  simp [notLong]

private theorem decodeInteger_minus {digits : List (Digit 10)} (nonempty : digits ≠ [])
    (few : digits.length ≤ Integer.digitLimit) :
    decodeInteger (45 :: Digit.spell digits) =
      (Integer.write (-(Digit.number digits : Int))).mapError .integer := by
  have body : dropSeparators (dropIntegerSuffix (45 :: Digit.spell digits)) =
      45 :: Digit.spell digits := by
    apply dropSeparators_of_plain
    intro c member
    rcases List.mem_cons.mp member with rfl | member
    · decide
    · obtain ⟨d, -, rfl⟩ := List.mem_map.mp member
      exact point_plain d
  obtain ⟨first, rest, rfl⟩ := List.exists_cons_of_ne_nil nonempty
  have unmarked : ¬(45 : CodePoint) = 48 := by decide
  have read := read_minus nonempty few
  rw [decodeInteger, body]
  simp only [Digit.spell, List.map_cons] at read ⊢
  simp only [unmarked, false_and, ↓reduceIte, read, ok_bind_write]

private theorem decodeInteger_digits {digits : List (Digit 10)} (nonempty : digits ≠ [])
    (few : digits.length ≤ Integer.digitLimit) :
    decodeInteger (Digit.spell digits) =
      (Integer.write (Digit.number digits : Int)).mapError .integer := by
  have body : dropSeparators (dropIntegerSuffix (Digit.spell digits)) = Digit.spell digits := by
    apply dropSeparators_of_plain
    intro c member
    obtain ⟨d, -, rfl⟩ := List.mem_map.mp member
    exact point_plain d
  have notLong : ¬(10 = 10 ∧ Integer.digitLimit < digits.length) := fun long =>
    Nat.not_lt.mpr few long.2
  rw [decodeInteger_of_decimal body, Digit.read_spell nonempty, if_neg notLong, ok_bind_write]

private theorem decodeInteger_ofInt {n : Int} (small : n.natAbs < 10 ^ Integer.digitLimit) :
    decodeInteger (Text.ofInt n) = .ok (Text.ofInt n) := by
  have written : Integer.write n = .ok (Text.ofInt n) := write_eq_ok_iff.mpr ⟨small, rfl⟩
  have short := length_ofNat_le small (by decide)
  obtain ⟨digits, spelled, denoted, nonempty, -⟩ := isNumeral_ofNat n.natAbs
  have few : digits.length ≤ Integer.digitLimit := by
    rw [spelled, Digit.spell, List.length_map] at short
    exact short
  cases n with
  | ofNat n =>
    have text : Text.ofInt (Int.ofNat n) = Digit.spell digits := spelled
    have value : (Digit.number digits : Int) = Int.ofNat n := by rw [denoted]; rfl
    rw [text] at written ⊢
    rw [decodeInteger_digits nonempty few, value, written]
    rfl
  | negSucc n =>
    have text : Text.ofInt (Int.negSucc n) = 45 :: Digit.spell digits := congrArg _ spelled
    have value : -(Digit.number digits : Int) = Int.negSucc n := by rw [denoted]; rfl
    rw [text] at written ⊢
    rw [decodeInteger_minus nonempty few, value, written]
    rfl

/-- Every text is kept as it is, if it cannot be read as an integer, or decoded to a canonical
numeral; and decoding the result again changes nothing. -/
theorem value?_integer_idempotent (s : Text) :
    ∃ result, value? "integer_literal" s = some result ∧
      value? "integer_literal" result = some result ∧
      ((∃ flaw, decodeInteger s = .error flaw) ∧ result = s ∨
        decodeInteger s = .ok result ∧ IsCanonical result) := by
  have kind : Kind.ofType? "integer_literal" = some .integer := by decide
  have denoted {t result : Text} (decoded : decodeInteger t = .ok result) :
      value? "integer_literal" t = some result := by
    simp only [value?, kind, decode, decoded]
  rcases decodeInteger_cases s with ⟨flaw, failed⟩ | ⟨n, small, decoded⟩
  · have kept : value? "integer_literal" s = some s := by
      simp only [value?, kind, decode, failed]
    exact ⟨s, kept, kept, .inl ⟨⟨_, failed⟩, rfl⟩⟩
  · exact ⟨_, denoted decoded, denoted (decodeInteger_ofInt small),
      .inr ⟨decoded, isCanonical_ofInt small⟩⟩

example : value? "integer_literal" "0x -0X1_F\n" = some (Text.ofString "-31") := by decide +kernel

end Outline.Literal
