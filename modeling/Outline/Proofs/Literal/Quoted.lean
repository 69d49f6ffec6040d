import Mathlib.Algebra.Group.Nat.Defs
import Mathlib.Data.List.Basic
import Mathlib.Data.Option.Basic
import Mathlib.Logic.Function.Basic
import Outline.Literal
import Outline.Proofs.Number.Numeral

/-!
Literals in quotes.
-/

set_option autoImplicit false

/-! ## Escapes by their grammar

`Numbered` says which digits a numbered escape takes behind its letter. A text is then read in one
of five ways: it is empty, begins with a code point that starts no escape, is a backslash alone, or
begins with an escape that is numbered or is not. The decoder has one equation for each, and
`Overflowing` says when it runs into an escape whose number overflows.
-/

namespace Outline.Literal.Escape

/-- Whether all code points of a text are hexadecimal digits. -/
def AllHex (digits : Text) : Prop := ∀ c ∈ digits, c.hexValue?.isSome

/-- Whether a text does not go on with a hexadecimal digit. -/
def StopsHex (rest : Text) : Prop := ∀ c ∈ rest.head?, c.hexValue? = none

/-- The digits of a numbered escape behind its letter: four after `u`, eight after `U`, and one to
four after `x`, as many as there are. -/
inductive Numbered : CodePoint → Text → Text → Prop
  | four {digits rest : Text} : AllHex digits → digits.length = 4 → Numbered 117 digits rest
  | eight {digits rest : Text} : AllHex digits → digits.length = 8 → Numbered 85 digits rest
  | upToFour {digits rest : Text} : AllHex digits → 0 < digits.length → digits.length ≤ 4 →
      (digits.length = 4 ∨ StopsHex rest) → Numbered 120 digits rest

/-- Whether a letter and the text behind it make a numbered escape. -/
def IsNumbered (letter : CodePoint) (t : Text) : Prop :=
  ∃ digits rest, t = digits ++ rest ∧ Numbered letter digits rest

def digitValues (digits : Text) : List Nat := digits.filterMap CodePoint.hexValue?

def number (digits : Text) : Nat := hexNumber (digitValues digits)

/-! ### Runs of digits -/

private theorem length_digitValues {digits : Text} (hex : AllHex digits) :
    (digitValues digits).length = digits.length := by
  induction digits with
  | nil => rfl
  | cons c digits ih =>
    obtain ⟨value, hvalue⟩ := Option.isSome_iff_exists.mp (hex c List.mem_cons_self)
    have htail := ih fun d hd => hex d (List.mem_cons_of_mem c hd)
    rw [digitValues, List.filterMap_cons_some hvalue, List.length_cons, List.length_cons]
    exact congrArg Nat.succ htail

private theorem hexRun_append {limit : Nat} {digits rest : Text} (hex : AllHex digits)
    (bound : digits.length ≤ limit) (stop : digits.length = limit ∨ StopsHex rest) :
    hexRun limit (digits ++ rest) = digitValues digits := by
  induction digits generalizing limit with
  | nil =>
    cases limit with
    | zero => rfl
    | succ limit =>
      have stops : StopsHex rest := stop.resolve_left (Nat.succ_ne_zero limit).symm
      cases rest with
      | nil => rfl
      | cons c rest => simp [hexRun, digitValues, stops c rfl]
  | cons c digits ih =>
    obtain ⟨value, hvalue⟩ := Option.isSome_iff_exists.mp (hex c List.mem_cons_self)
    cases limit with
    | zero => simp at bound
    | succ limit =>
      have htail : hexRun limit (digits ++ rest) = digitValues digits :=
        ih (fun d hd => hex d (List.mem_cons_of_mem c hd)) (by simpa using bound)
          (by simpa using stop)
      rw [List.cons_append, hexRun, hvalue]
      simp only [htail, digitValues, List.filterMap_cons_some hvalue]

private theorem exists_hexRun (limit : Nat) (t : Text) :
    ∃ digits rest, t = digits ++ rest ∧ AllHex digits ∧ digits.length ≤ limit ∧
      (digits.length = limit ∨ StopsHex rest) := by
  induction limit generalizing t with
  | zero => exact ⟨[], t, rfl, by simp [AllHex], Nat.le_refl 0, Or.inl rfl⟩
  | succ limit ih =>
    cases t with
    | nil => exact ⟨[], [], rfl, by simp [AllHex], Nat.zero_le _, Or.inr (by simp [StopsHex])⟩
    | cons c t =>
      cases hc : c.hexValue? with
      | none =>
        exact ⟨[], c :: t, rfl, by simp [AllHex], Nat.zero_le _, Or.inr (by simp [StopsHex, hc])⟩
      | some value =>
        obtain ⟨digits, rest, rfl, hex, bound, stop⟩ := ih t
        refine ⟨c :: digits, rest, rfl, ?_, by simpa using bound, by simpa using stop⟩
        intro d hd
        rcases List.mem_cons.mp hd with rfl | hd
        · rw [hc]; rfl
        · exact hex d hd

/-! ### Numbered escapes -/

private theorem numbered?_append {letter : CodePoint} {digits rest : Text}
    (escape : Numbered letter digits rest) :
    numbered? letter (digits ++ rest) = some (digitValues digits) := by
  cases escape with
  | four hex len =>
    rw [numbered?, if_pos rfl, hexRun_append hex (Nat.le_of_eq len) (Or.inl len)]
    simp [length_digitValues hex, len]
  | eight hex len =>
    rw [numbered?, if_neg (by decide), if_pos rfl, hexRun_append hex (Nat.le_of_eq len)
      (Or.inl len)]
    simp [length_digitValues hex, len]
  | upToFour hex pos bound stop =>
    rw [numbered?, if_neg (by decide), if_neg (by decide), if_pos rfl,
      hexRun_append hex bound stop]
    simp [length_digitValues hex, pos]

private theorem exists_digits_of_filter {limit : Nat} {t : Text} {values : List Nat}
    {test : List Nat → Bool} (found : (some (hexRun limit t)).filter test = some values) :
    ∃ digits rest, t = digits ++ rest ∧ AllHex digits ∧ digits.length ≤ limit ∧
      (digits.length = limit ∨ StopsHex rest) ∧ test (digitValues digits) = true := by
  obtain ⟨digits, rest, rfl, hex, bound, stop⟩ := exists_hexRun limit t
  rw [hexRun_append hex bound stop] at found
  obtain ⟨same, pass⟩ := Option.filter_eq_some_iff.mp found
  obtain rfl := Option.some.inj same
  exact ⟨digits, rest, rfl, hex, bound, stop, pass⟩

private theorem isNumbered_of_numbered? {letter : CodePoint} {t : Text} {values : List Nat}
    (found : numbered? letter t = some values) : IsNumbered letter t := by
  rw [numbered?] at found
  split_ifs at found with hu hU hx
  · obtain ⟨digits, rest, rfl, hex, -, -, len⟩ := exists_digits_of_filter found
    have len : digits.length = 4 := by simpa [length_digitValues hex] using len
    exact ⟨digits, rest, rfl, hu ▸ .four hex len⟩
  · obtain ⟨digits, rest, rfl, hex, -, -, len⟩ := exists_digits_of_filter found
    have len : digits.length = 8 := by simpa [length_digitValues hex] using len
    exact ⟨digits, rest, rfl, hU ▸ .eight hex len⟩
  · obtain ⟨digits, rest, rfl, hex, bound, stop, pos⟩ := exists_digits_of_filter found
    have pos : 0 < digits.length := by simpa [length_digitValues hex] using pos
    exact ⟨digits, rest, rfl, hx ▸ .upToFour hex pos bound stop⟩

private theorem numbered?_eq_none {letter : CodePoint} {t : Text} (plain : ¬IsNumbered letter t) :
    numbered? letter t = none := by
  cases found : numbered? letter t with
  | none => rfl
  | some values => exact absurd (isNumbered_of_numbered? found) plain

/-! ### Reading a text -/

/-- Texts are read from the left, an escape or a code point at a time. -/
theorem reading_induction {motive : Text → Prop} (nil : motive [])
    (plain : ∀ c t, c ≠ 92 → motive t → motive (c :: t)) (lone : motive [92])
    (numbered : ∀ letter digits rest, Numbered letter digits rest → motive rest →
      motive (92 :: letter :: (digits ++ rest)))
    (single : ∀ letter t, ¬IsNumbered letter t → motive t → motive (92 :: letter :: t))
    (t : Text) : motive t := by
  induction hn : t.length using Nat.strongRecOn generalizing t with
  | ind n ih =>
    subst hn
    match t with
    | [] => exact nil
    | c :: t =>
      by_cases hc : c = 92
      · subst hc
        match t with
        | [] => exact lone
        | letter :: t =>
          by_cases escape : IsNumbered letter t
          · obtain ⟨digits, rest, rfl, escape⟩ := escape
            exact numbered letter digits rest escape (ih _ (by grind) rest rfl)
          · exact single letter t escape (ih _ (by grind) t rfl)
      · exact plain c t hc (ih _ (by simp) t rfl)

private theorem decode_plain {c : CodePoint} (t : Text) (hc : c ≠ 92) :
    decode (c :: t) = (decode t).map (c :: ·) := by
  cases t with
  | nil => rw [decode, decode]; rfl
  | cons letter t => rw [decode, if_neg hc]; rfl

private theorem decode_numbered {letter : CodePoint} {digits rest : Text}
    (escape : Numbered letter digits rest) :
    decode (92 :: letter :: (digits ++ rest)) =
      (codePoint (number digits)).bind fun point => (decode rest).map (point :: ·) := by
  have hex : AllHex digits := by cases escape <;> assumption
  rw [decode, if_pos rfl, numbered?_append escape]
  simp only [length_digitValues hex, List.drop_left]
  rfl

private theorem decode_single {letter : CodePoint} {t : Text} (escape : ¬IsNumbered letter t) :
    decode (92 :: letter :: t) = (decode t).map fun rest =>
      match simple? letter with
      | some point => point :: rest
      | none => 92 :: letter :: rest := by
  rw [decode, if_pos rfl, numbered?_eq_none escape]
  cases decode t with
  | error flaw => rfl
  | ok rest => cases simple? letter <;> rfl

/-! ### Overflow -/

/-- A text in which the first escape that names no code point names a number that overflows. -/
inductive Overflowing : Text → Prop
  | here {digits rest : Text} : AllHex digits → digits.length = 8 → 0x80000000 ≤ number digits →
      Overflowing (92 :: 85 :: (digits ++ rest))
  | plain {c : CodePoint} {t : Text} : c ≠ 92 → Overflowing t → Overflowing (c :: t)
  | numbered {letter : CodePoint} {digits rest : Text} : Numbered letter digits rest →
      number digits < 0x110000 → Overflowing rest →
      Overflowing (92 :: letter :: (digits ++ rest))
  | single {letter : CodePoint} {t : Text} : ¬IsNumbered letter t → Overflowing t →
      Overflowing (92 :: letter :: t)

private theorem hexValue?_lt {c : CodePoint} {value : Nat} (found : c.hexValue? = some value) :
    value < 16 := by
  rw [CodePoint.hexValue?, Option.filter_eq_some_iff] at found
  simpa using found.2

private theorem number_lt (digits : Text) : number digits < 16 ^ digits.length := by
  have fold (values : List Nat) (n : Nat) (small : ∀ value ∈ values, value < 16) :
      values.foldl (fun n d => n * 16 + d) n < (n + 1) * 16 ^ values.length := by
    induction values generalizing n with
    | nil => simp
    | cons value values ih =>
      have head := small value List.mem_cons_self
      have tail := ih (n * 16 + value) fun d hd => small d (List.mem_cons_of_mem value hd)
      have grow : (n * 16 + value + 1) * 16 ^ values.length ≤
          (n + 1) * 16 * 16 ^ values.length := Nat.mul_le_mul_right _ (by omega)
      rw [List.foldl_cons, List.length_cons, Nat.pow_succ, Nat.mul_comm (16 ^ _) 16,
        ← Nat.mul_assoc]
      exact Nat.lt_of_lt_of_le tail grow
  have small : ∀ value ∈ digitValues digits, value < 16 := by
    intro value member
    obtain ⟨c, -, found⟩ := List.mem_filterMap.mp member
    exact hexValue?_lt found
  have bound := fold (digitValues digits) 0 small
  rw [Nat.zero_add, Nat.one_mul] at bound
  exact Nat.lt_of_lt_of_le bound (Nat.pow_le_pow_right (by omega) (List.length_filterMap_le _ _))

private theorem codePoint_of_lt {n : Nat} (small : n < 0x110000) :
    codePoint n = .ok ⟨n, small⟩ := by
  rw [codePoint, dif_pos small]

private theorem codePoint_eq_overflow_iff (n : Nat) :
    codePoint n = .error .overflow ↔ 0x80000000 ≤ n := by
  rw [codePoint]
  split_ifs with small fits
  · simp only [false_iff]
    omega
  · simp only [Except.error.injEq, reduceCtorEq, false_iff]
    omega
  · simp only [true_iff]
    omega

private theorem map_eq_error_iff {ε α β : Type} (f : α → β) (x : Except ε α) (e : ε) :
    x.map f = .error e ↔ x = .error e := by
  cases x <;> simp [Except.map]

theorem decode_eq_overflow_iff (t : Text) : decode t = .error .overflow ↔ Overflowing t := by
  constructor
  · induction t using reading_induction with
    | nil => simp [decode]
    | plain c t hc ih =>
      rw [decode_plain t hc, map_eq_error_iff]
      exact fun overflow => .plain hc (ih overflow)
    | lone => simp [decode]
    | numbered letter digits rest escape ih =>
      rw [decode_numbered escape]
      by_cases small : number digits < 0x110000
      · rw [codePoint_of_lt small]
        exact fun overflow => .numbered escape small (ih ((map_eq_error_iff _ _ _).mp overflow))
      · intro overflow
        have large : 0x80000000 ≤ number digits := by
          rw [← codePoint_eq_overflow_iff]
          cases point : codePoint (number digits) with
          | error flaw =>
            rw [point] at overflow
            exact congrArg Except.error (Except.error.inj overflow)
          | ok c =>
            rw [codePoint, dif_neg small] at point
            split_ifs at point
        have bound := number_lt digits
        cases escape with
        | four hex len => rw [len] at bound; omega
        | eight hex len => exact .here hex len large
        | upToFour hex pos few stop =>
          have := Nat.pow_le_pow_right (show 0 < 16 by omega) few
          omega
    | single letter t escape ih =>
      rw [decode_single escape, map_eq_error_iff]
      exact fun overflow => .single escape (ih overflow)
  · intro overflowing
    induction overflowing with
    | here hex len large =>
      rw [decode_numbered (.eight hex len), (codePoint_eq_overflow_iff _).mpr large]
      rfl
    | plain hc _ ih => rw [decode_plain _ hc, ih]; rfl
    | numbered escape small _ ih =>
      rw [decode_numbered escape, codePoint_of_lt small, ih]
      rfl
    | single escape _ ih => rw [decode_single escape, ih]; rfl

end Outline.Literal.Escape

/-! ## Spellings of character and string literals

What stands between the quotes of a literal is made of pieces, each of which denotes one code point:
a code point other than a backslash, an escape of one letter, or an escape with digits. The decoder
reads the pieces back one by one, provided that no piece which could take one more digit is followed
by a digit. Surrogates are code points like all others, so a pair of escapes denotes two of them.
-/

namespace Outline.Literal.Escape

/-- The letters of the escapes that are one letter long, with the code points they denote. -/
def simpleEscapes : List (CodePoint × CodePoint) :=
  [(39, 39), (34, 34), (92, 92), (48, 0), (97, 7), (98, 8), (102, 12), (110, 10),
    (114, 13), (116, 9), (118, 11)]

private theorem number_lt_of_few {digits : List (Digit 16)} (few : digits.length ≤ 4) :
    Digit.number digits < 0x110000 := by
  have bound := Digit.number_lt (by decide) digits
  have most : 16 ^ digits.length ≤ 16 ^ 4 := Nat.pow_le_pow_right (by decide) few
  omega

/-- What a literal is made of between its quotes. -/
inductive Piece
  | plain (c : CodePoint) (ordinary : c ≠ 92)
  | simple (letter meaning : CodePoint) (listed : (letter, meaning) ∈ simpleEscapes)
  | four (digits : List (Digit 16)) (count : digits.length = 4)
  /-- The letter `U` with eight digits that name a code point. -/
  | eight (digits : List (Digit 16)) (count : digits.length = 8)
      (small : Digit.number digits ≤ 0x10FFFF)
  | upToFour (digits : List (Digit 16)) (nonempty : digits ≠ []) (few : digits.length ≤ 4)

namespace Piece

def spell : Piece → Text
  | plain c _ => [c]
  | simple letter _ _ => [92, letter]
  | four digits _ => 92 :: 117 :: Digit.spell digits
  | eight digits _ _ => 92 :: 85 :: Digit.spell digits
  | upToFour digits _ _ => 92 :: 120 :: Digit.spell digits

def point : Piece → CodePoint
  | plain c _ => c
  | simple _ meaning _ => meaning
  | four digits count => ⟨Digit.number digits, number_lt_of_few (Nat.le_of_eq count)⟩
  | eight digits _ small => ⟨Digit.number digits, Nat.lt_succ_of_le small⟩
  | upToFour digits _ few => ⟨Digit.number digits, number_lt_of_few few⟩

def takesMore : Piece → Bool
  | upToFour digits _ _ => decide (digits.length < 4)
  | _ => false

def spellAll (pieces : List Piece) : Text := pieces.flatMap spell

/-- Whether no piece that would take one more digit is followed by one. -/
def Separated : List Piece → Prop
  | [] => True
  | piece :: pieces =>
    (piece.takesMore = true → ∀ d : Digit 16, (spellAll pieces).head? ≠ some d.point) ∧
      Separated pieces

end Piece

/-! ### Digits of escapes -/

private theorem allHex_spell (digits : List (Digit 16)) : AllHex (Digit.spell digits) := by
  intro c member
  obtain ⟨d, -, rfl⟩ := List.mem_map.mp member
  exact Option.isSome_iff_exists.mpr ⟨_, Digit.digitValue?_point d⟩

private theorem number_spell (digits : List (Digit 16)) :
    number (Digit.spell digits) = Digit.number digits :=
  Digit.valueOf_spell digits

private theorem stopsHex_iff (rest : Text) :
    StopsHex rest ↔ ∀ d : Digit 16, rest.head? ≠ some d.point := by
  constructor
  · intro stops d leads
    have none := stops d.point leads
    exact absurd ((Digit.digitValue?_point d).symm.trans none) (by simp)
  · intro apart c leads
    cases found : c.hexValue? with
    | none => rfl
    | some value =>
      obtain ⟨d, rfl⟩ := Digit.exists_point (by decide) found
      exact absurd leads (apart d)

instance : (rest : Text) → Decidable (StopsHex rest)
  | [] => isTrue (by simp [StopsHex])
  | c :: _ => decidable_of_iff (c.hexValue? = none) (by simp [StopsHex])

def Piece.decideSeparated : (pieces : List Piece) → Decidable (Separated pieces)
  | [] => isTrue trivial
  | piece :: pieces =>
    have := decideSeparated pieces
    decidable_of_iff ((piece.takesMore = true → StopsHex (spellAll pieces)) ∧ Separated pieces)
      (and_congr_left' (imp_congr_right fun _ => stopsHex_iff (spellAll pieces)))

instance : DecidablePred Piece.Separated := Piece.decideSeparated

/-! ### Reading pieces back -/

private theorem simple?_of_listed {letter meaning : CodePoint}
    (listed : (letter, meaning) ∈ simpleEscapes) :
    simple? letter = some meaning := by
  have each : (simpleEscapes.all fun entry => decide (simple? entry.1 = some entry.2)) = true := by
    decide
  exact of_decide_eq_true (List.all_eq_true.mp each _ listed)

private theorem not_isNumbered_of_listed {letter meaning : CodePoint}
    (listed : (letter, meaning) ∈ simpleEscapes) (t : Text) : ¬IsNumbered letter t := by
  have apart : (simpleEscapes.all fun entry =>
      decide (entry.1 ≠ 117 ∧ entry.1 ≠ 85 ∧ entry.1 ≠ 120)) = true := by decide
  obtain ⟨notFour, notEight, notShort⟩ :=
    of_decide_eq_true (List.all_eq_true.mp apart _ listed)
  rintro ⟨digits, rest, -, escape⟩
  cases escape with
  | four => exact notFour rfl
  | eight => exact notEight rfl
  | upToFour => exact notShort rfl

private theorem decode_digits {letter : CodePoint} {digits : List (Digit 16)} {rest : Text}
    (escape : Numbered letter (Digit.spell digits) rest) (small : Digit.number digits < 0x110000) :
    decode (92 :: letter :: (Digit.spell digits ++ rest)) =
      (decode rest).map (⟨Digit.number digits, small⟩ :: ·) := by
  rw [decode_numbered escape, number_spell, codePoint_of_lt small]
  rfl

/-- A piece is read back as the code point it denotes, whatever follows that it would not take. -/
theorem decode_piece (piece : Piece) {rest : Text}
    (stops : piece.takesMore = true → StopsHex rest) :
    decode (piece.spell ++ rest) = (decode rest).map (piece.point :: ·) := by
  cases piece with
  | plain c ordinary => exact decode_plain rest ordinary
  | simple letter meaning listed =>
    refine (decode_single (not_isNumbered_of_listed listed rest)).trans ?_
    rw [simple?_of_listed listed]
    rfl
  | four digits count =>
    exact decode_digits (.four (allHex_spell digits) ((List.length_map _).trans count)) _
  | eight digits count small =>
    exact decode_digits (.eight (allHex_spell digits) ((List.length_map _).trans count)) _
  | upToFour digits nonempty few =>
    have length : (Digit.spell digits).length = digits.length := List.length_map _
    refine decode_digits (.upToFour (allHex_spell digits) ?_ (length.trans_le few) ?_) _
    · rw [length]
      exact List.length_pos_iff.mpr nonempty
    · rw [length]
      exact few.eq_or_lt.imp id fun short => stops (decide_eq_true short)

private theorem decode_spellAll {pieces : List Piece} (separated : Piece.Separated pieces) :
    decode (Piece.spellAll pieces) = .ok (pieces.map Piece.point) := by
  induction pieces with
  | nil => rw [Piece.spellAll, List.flatMap_nil, decode, List.map_nil]
  | cons piece pieces ih =>
    obtain ⟨apart, later⟩ := separated
    have read := decode_piece piece fun more => (stopsHex_iff _).mpr (apart more)
    rw [Piece.spellAll, List.flatMap_cons, ← Piece.spellAll, read, ih later]
    rfl

/-! ### Literals -/

private theorem inner_quoted (quote : CodePoint) (t : Text) :
    inner (quote :: (t ++ [quote])) = t := by
  rw [inner, List.drop_one, List.tail_cons, List.dropLast_concat]

private theorem decodeQuoted_spellAll (quote : CodePoint) {pieces : List Piece}
    (separated : Piece.Separated pieces) :
    decodeQuoted (quote :: (Piece.spellAll pieces ++ [quote])) = .ok (pieces.map Piece.point) := by
  rw [decodeQuoted, inner_quoted, decode_spellAll separated]
  rfl

/-- The piece that spells a code point without digits: a backslash is escaped, and every other code
point stands for itself. -/
def Piece.ofPoint (c : CodePoint) : Piece :=
  if backslash : c = 92 then .simple 92 92 (by decide) else .plain c backslash

private theorem Piece.point_ofPoint (c : CodePoint) : (ofPoint c).point = c := by
  rw [ofPoint]
  split_ifs with backslash
  · exact backslash.symm
  · rfl

private theorem Piece.separated_map_ofPoint (points : Text) : Separated (points.map ofPoint) := by
  induction points with
  | nil => trivial
  | cons c points ih =>
    refine ⟨fun more => absurd more ?_, ih⟩
    rw [ofPoint]
    split_ifs <;> simp [takesMore]

/-- Every spelling is read back as the code points that its pieces denote, in a string literal and
in a character literal; and every text has a spelling. -/
theorem decode_inverts_spelling :
    (∀ pieces, Piece.Separated pieces →
      Literal.decode .string (34 :: (Piece.spellAll pieces ++ [34])) =
          .ok (pieces.map Piece.point) ∧
        Literal.decode .character (39 :: (Piece.spellAll pieces ++ [39])) =
          .ok (pieces.map Piece.point)) ∧
    ∀ points : Text, ∃ pieces, Piece.Separated pieces ∧
      Literal.decode .string (34 :: (Piece.spellAll pieces ++ [34])) = .ok points ∧
      Literal.decode .character (39 :: (Piece.spellAll pieces ++ [39])) = .ok points := by
  refine ⟨fun pieces separated => ?_, fun points => ?_⟩
  · exact ⟨decodeQuoted_spellAll 34 separated, decodeQuoted_spellAll 39 separated⟩
  · have separated := Piece.separated_map_ofPoint points
    have denoted : (points.map Piece.ofPoint).map Piece.point = points := by
      rw [List.map_map]
      exact (List.map_congr_left fun c _ => Piece.point_ofPoint c).trans (List.map_id _)
    have read := fun quote => decodeQuoted_spellAll quote separated
    rw [denoted] at read
    exact ⟨_, separated, read 34, read 39⟩

def hexDigit (value : Nat) (small : value < 16 := by decide) : Digit 16 :=
  ⟨⟨value, small⟩, small, true⟩

/-- An escaped backslash before what would otherwise be an escape, a short escape before a letter
that is no digit, and the escapes of a pair of surrogates. -/
def neighbours : List Piece :=
  [.simple 92 92 (by decide), .plain 117 (by decide), .plain 52 (by decide),
    .upToFour [hexDigit 4] (by decide) (by decide), .plain 103 (by decide),
    .four [hexDigit 13, hexDigit 8, hexDigit 3, hexDigit 13] rfl,
    .four [hexDigit 13, hexDigit 14, hexDigit 0, hexDigit 0] rfl]

theorem decode_neighbours :
    Piece.Separated neighbours ∧
      Literal.decode .string "\"\\\\u4\\x4g\\uD83D\\uDE00\"" =
        .ok [92, 117, 52, 4, 103, 0xD83D, 0xDE00] := by
  have separated : Piece.Separated neighbours := by decide
  have text : Text.ofString "\"\\\\u4\\x4g\\uD83D\\uDE00\"" =
      34 :: (Piece.spellAll neighbours ++ [34]) := by decide
  refine ⟨separated, ?_⟩
  rw [text, (decode_inverts_spelling.1 neighbours separated).1]
  decide

end Outline.Literal.Escape

/-! ## Verbatim strings

Between the quotes of a verbatim string every code point stands for itself, except that a quote is
written twice. Reading makes one quote of each pair, from left to right. It takes a written text
pair by pair, so what stands behind the text is read from its own beginning even if that is a quote;
hence the value of a text's spelling is the text, whatever runs of quotes it holds.
-/

namespace Outline.Literal.Verbatim

def written (c : CodePoint) : Text := if c = 34 then [34, 34] else [c]

def spelling (t : Text) : Text := Text.join ["@\"", t.flatMap written, "\""]

private theorem halveQuotes_cons_of_ne {c : CodePoint} (plain : c ≠ 34) (t : Text) :
    halveQuotes (c :: t) = c :: halveQuotes t := by
  cases t with
  | nil => rfl
  | cons d t => rw [halveQuotes, if_neg fun pair => plain pair.1]

private theorem halveQuotes_pair (t : Text) :
    halveQuotes (34 :: 34 :: t) = 34 :: halveQuotes t := by
  rw [halveQuotes, if_pos ⟨rfl, rfl⟩]

/-- What is read behind a written text is read from its first code point on, even if that is a
quote. -/
theorem halveQuotes_written_append (t rest : Text) :
    halveQuotes (t.flatMap written ++ rest) = t ++ halveQuotes rest := by
  induction t with
  | nil => rfl
  | cons c t ih =>
    rw [List.flatMap_cons, List.append_assoc, written]
    by_cases quote : c = 34
    · rw [if_pos quote, quote, List.cons_append, List.cons_append, List.nil_append,
        halveQuotes_pair, ih, List.cons_append]
    · rw [if_neg quote, List.singleton_append, halveQuotes_cons_of_ne quote, ih, List.cons_append]

private theorem halveQuotes_written (t : Text) : halveQuotes (t.flatMap written) = t := by
  have whole := halveQuotes_written_append t []
  rw [List.append_nil] at whole
  exact whole.trans (List.append_nil t)

private theorem body_spelling (t : Text) : ((spelling t).drop 2).dropLast = t.flatMap written := by
  have opening : Text.ofString "@\"" = [64, 34] := by decide
  have closing : Text.ofString "\"" = [34] := by decide
  rw [spelling, opening, closing]
  simp [Text.join]

private theorem decodeVerbatim_spelling (t : Text) : decodeVerbatim (spelling t) = t := by
  rw [decodeVerbatim, body_spelling, halveQuotes_written]

private theorem value?_spelling (t : Text) :
    value? "verbatim_string_literal" (spelling t) = some t := by
  have kind : Kind.ofType? "verbatim_string_literal" = some .verbatim := by decide
  simp only [value?, kind, decode, decodeVerbatim_spelling]

/-- The value of a text's verbatim spelling is the text; so the spellings of different texts have
different values. -/
theorem value?_inverts_spelling :
    (∀ t : Text, value? "verbatim_string_literal" (spelling t) = some t) ∧
    Function.Injective fun t : Text => value? "verbatim_string_literal" (spelling t) := by
  refine ⟨value?_spelling, fun s t same => ?_⟩
  simp only [value?_spelling] at same
  exact Option.some.inj same

/-- Quotes at both ends and next to the delimiters: `"a""` is spelled `@"""a"""""`, and one quote
less at its end is another value. -/
theorem value?_quoted_letter :
    spelling [34, 97, 34, 34] = Text.ofString "@\"\"\"a\"\"\"\"\"" ∧
    value? "verbatim_string_literal" "@\"\"\"a\"\"\"\"\"" = some [34, 97, 34, 34] ∧
    value? "verbatim_string_literal" (spelling [34, 97, 34]) ≠
      value? "verbatim_string_literal" (spelling [34, 97, 34, 34]) := by
  obtain ⟨inverts, injective⟩ := value?_inverts_spelling
  have spelled : spelling [34, 97, 34, 34] = Text.ofString "@\"\"\"a\"\"\"\"\"" := by decide
  refine ⟨spelled, ?_, injective.ne (by decide)⟩
  rw [← spelled]
  exact inverts _

end Outline.Literal.Verbatim
