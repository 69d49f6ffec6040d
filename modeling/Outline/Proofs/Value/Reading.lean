import Mathlib.Data.List.Nodup
import Outline.Proofs.Number.Double
import Outline.Proofs.Text.Basic
import Outline.Value

/-!
Reading values from what is written.

A text is read as a value if reading gives the value back before anything that a number does not go
on with. Words, numerals and quoted texts are read so. Lists and records are read so whose parts
are, in whichever of the two layouts: blanks may stand behind each bracket, comma and colon.
-/

set_option autoImplicit false

namespace Outline.Value

/-- The fields that come of setting some one after the other. -/
def collect (before fields : List (Text × Value)) : List (Text × Value) :=
  fields.foldl (fun before field => insert field.1 field.2 before) before

private theorem insert_of_not_mem {key : Text} (value : Value) {fields : List (Text × Value)}
    (new : key ∉ fields.map Prod.fst) : insert key value fields = fields ++ [(key, value)] := by
  induction fields with
  | nil => rfl
  | cons head fields ih =>
    obtain ⟨other, old⟩ := head
    rw [List.map_cons, List.mem_cons, not_or] at new
    rw [insert, if_neg (Ne.symm new.1), ih new.2, List.cons_append]

theorem collect_of_nodup {before fields : List (Text × Value)}
    (distinct : ((before ++ fields).map Prod.fst).Nodup) :
    collect before fields = before ++ fields := by
  induction fields generalizing before with
  | nil => exact (List.append_nil before).symm
  | cons field fields ih =>
    have new : field.1 ∉ before.map Prod.fst := by
      rw [List.map_append, List.map_cons] at distinct
      exact fun member => (List.disjoint_of_nodup_append distinct) member List.mem_cons_self
    have later : (((before ++ [field]) ++ fields).map Prod.fst).Nodup := by
      rw [List.append_assoc]
      exact distinct
    rw [collect, List.foldl_cons, ← collect, insert_of_not_mem field.2 new, ih later,
      List.append_assoc]
    rfl

namespace Json

/-! ### Blanks -/

def IsBlank (t : Text) : Prop := ∀ c ∈ t, isSpace c = true

theorem isBlank_nil : IsBlank [] := fun _ member => absurd member List.not_mem_nil

private theorem skip_append {gap : Text} (blank : IsBlank gap) (t : Text) :
    skip (gap ++ t) = skip t :=
  List.dropWhile_append_of_pos blank

private theorem skip_cons {c : CodePoint} (notSpace : isSpace c = false) (t : Text) :
    skip (c :: t) = c :: t :=
  List.dropWhile_cons_of_neg (by rw [notSpace]; exact Bool.false_ne_true)

private theorem readValue_append {gap : Text} (blank : IsBlank gap) (fuel : Nat) (t : Text) :
    readValue fuel (gap ++ t) = readValue fuel t := by
  cases fuel with
  | zero => rw [readValue, readValue]
  | succ fuel => rw [readValue, readValue, skip_append blank]

private theorem readItems_append {gap : Text} (blank : IsBlank gap) (fuel : Nat) (t : Text) :
    readItems fuel (gap ++ t) = readItems fuel t := by
  cases fuel with
  | zero => rw [readItems, readItems]
  | succ fuel => rw [readItems, readItems, readValue_append blank]

private theorem readFields_append {gap : Text} (blank : IsBlank gap) (fuel : Nat)
    (before : List (Text × Value)) (t : Text) :
    readFields fuel before (gap ++ t) = readFields fuel before t := by
  cases fuel with
  | zero => rw [readFields, readFields]
  | succ fuel => rw [readFields, readFields, skip_append blank]

/-! ### What is read -/

/-- Nothing stands at the beginning of a text that a number goes on with. -/
def EndsNumber (t : Text) : Prop := ∀ c ∈ t.head?, isNumberPart c = false

private theorem endsNumber_append {gap : Text} (blank : IsBlank gap) {c : CodePoint}
    (stops : isNumberPart c = false) (t : Text) : EndsNumber (gap ++ c :: t) := by
  have apart : ∀ d, isSpace d = true → isNumberPart d = false := by
    intro d space
    simp only [isSpace, Bool.or_eq_true, decide_eq_true_eq] at space
    rcases space with ((rfl | rfl) | rfl) | rfl <;> decide
  intro d leads
  cases gap with
  | nil =>
    obtain rfl := Option.some.inj leads
    exact stops
  | cons first gap =>
    obtain rfl := Option.some.inj leads
    exact apart _ (blank _ List.mem_cons_self)

private theorem endsNumber_comma (t : Text) : EndsNumber (44 :: t) := by
  intro d leads
  obtain rfl := Option.some.inj leads
  decide

/-- A text is read as a value before whatever ends a number. It begins neither with a blank nor with
the end of a list, and as much fuel as it is long is enough. -/
structure IsReadAs (t : Text) (v : Value) : Prop where
  head : ∃ c u, t = c :: u ∧ isSpace c = false ∧ c ≠ 93
  read : ∀ (fuel : Nat) (rest : Text), t.length ≤ fuel → EndsNumber rest →
    readValue fuel (t ++ rest) = some (v, rest)

namespace IsReadAs

variable {t : Text} {v : Value}

private theorem of_succ (head : ∃ c u, t = c :: u ∧ isSpace c = false ∧ c ≠ 93)
    (read : ∀ (fuel : Nat) (rest : Text), t.length ≤ fuel + 1 → EndsNumber rest →
      readValue (fuel + 1) (t ++ rest) = some (v, rest)) : IsReadAs t v where
  head := head
  read fuel rest enough ends := by
    obtain ⟨c, u, rfl, -⟩ := head
    obtain ⟨fuel, rfl⟩ : ∃ more, fuel = more + 1 := ⟨fuel - 1, by simp at enough; omega⟩
    exact read fuel rest enough ends

theorem read? (reads : IsReadAs t v) : Json.read? t = some v := by
  have whole := reads.read (2 * t.length + 2) [] (by omega) (by simp [EndsNumber])
  rw [List.append_nil] at whole
  rw [Json.read?, whole]
  rfl

end IsReadAs

/-! ### Words and numbers -/

theorem isReadAs_word : ∀ word ∈ words, IsReadAs word.1 word.2 := by
  simp only [words, List.forall_mem_cons]
  refine ⟨?_, ?_, ?_, ?_, ?_, ?_, fun _ member => absurd member List.not_mem_nil⟩
  all_goals
    refine .of_succ ⟨_, _, rfl, by decide, by decide⟩ fun fuel rest _ _ => ?_
    rw [readValue]
    rfl

private theorem word?_of_number {c : CodePoint} {u : Text} (first : isNumberPart c = true)
    (second : c = 45 → ∃ d w, u = d :: w ∧ isNumberPart d = true) : word? (c :: u) = none := by
  have apart {letter d : CodePoint} (part : isNumberPart d = true)
      (other : isNumberPart letter = false) : (letter == d) = false := by
    refine beq_eq_false_iff_ne.mpr ?_
    rintro rfl
    rw [part] at other
    cases other
  have spelled : words.map Prod.fst = [[110, 117, 108, 108], [116, 114, 117, 101],
      [102, 97, 108, 115, 101], [78, 97, 78], [73, 110, 102, 105, 110, 105, 116, 121],
      [45, 73, 110, 102, 105, 110, 105, 116, 121]] := by decide
  have none : ∀ lead ∈ words.map Prod.fst, Text.startsWith lead (c :: u) = false := by
    simp only [spelled, List.forall_mem_cons, Text.startsWith, List.isPrefixOf_cons_cons]
    refine ⟨?_, ?_, ?_, ?_, ?_, ?_, by simp⟩
    on_goal 6 =>
      by_cases minus : c = 45
      · obtain ⟨d, w, rfl, part⟩ := second minus
        rw [List.isPrefixOf_cons_cons, apart part (by decide), Bool.false_and, Bool.and_false]
      · rw [beq_eq_false_iff_ne.mpr (Ne.symm minus), Bool.false_and]
    all_goals rw [apart first (by decide), Bool.false_and]
  have missing : ∀ word ∈ words, ¬Text.startsWith word.1 (c :: u) = true := fun word member => by
    rw [none word.1 (List.mem_map_of_mem member)]
    exact Bool.false_ne_true
  rw [word?, List.find?_eq_none.mpr missing, Option.map_none]

private theorem special_of_number : ∀ c : CodePoint, isNumberPart c = true →
    isSpace c = false ∧ c ≠ 93 ∧ c ≠ 34 ∧ c ≠ 91 ∧ c ≠ 123 := by
  intro c part
  refine ⟨?_, ?_, ?_, ?_, ?_⟩
  · by_contra space
    simp only [isSpace, Bool.not_eq_false, Bool.or_eq_true, decide_eq_true_eq] at space
    rcases space with ((rfl | rfl) | rfl) | rfl <;> cases part
  all_goals
    rintro rfl
    cases part

private theorem isReadAs_number {t : Text} {v : Value} (parts : ∀ c ∈ t, isNumberPart c = true)
    (number : numberOf? t = some v) : IsReadAs t v := by
  cases t with
  | nil => cases number
  | cons c u =>
    have first := parts c List.mem_cons_self
    obtain ⟨notSpace, notEnd, notQuote, notBracket, notBrace⟩ := special_of_number c first
    refine .of_succ ⟨c, u, rfl, notSpace, notEnd⟩ fun fuel rest _ ends => ?_
    have noWord : word? (c :: (u ++ rest)) = none := by
      refine word?_of_number first fun minus => ?_
      subst minus
      cases u with
      | nil => cases number
      | cons d w => exact ⟨d, w ++ rest, rfl, parts d (by simp)⟩
    have stops : rest.takeWhile isNumberPart = [] ∧ rest.dropWhile isNumberPart = rest := by
      cases rest with
      | nil => exact ⟨rfl, rfl⟩
      | cons d rest =>
        have other : ¬isNumberPart d = true := by simp [ends d rfl]
        exact ⟨List.takeWhile_cons_of_neg other, List.dropWhile_cons_of_neg other⟩
    rw [List.cons_append, readValue, skip_cons notSpace]
    dsimp only
    rw [if_neg notQuote, if_neg notBracket, if_neg notBrace, noWord]
    dsimp only
    rw [← List.cons_append, List.takeWhile_append_of_pos parts, List.dropWhile_append_of_pos parts,
      stops.1, stops.2, List.append_nil, number]
    rfl

private theorem isReadAs_signed {u : Text} {v : Value} (negative : Bool)
    (begins : ∃ c w, u = c :: w ∧ c ≠ 45) (parts : ∀ c ∈ u, isNumberPart c = true)
    (number : (if u.any isFloatPart then
        (Scientific.readUnsigned negative u).map fun s => Value.float (Double.ofScientific s)
      else if u.isEmpty || !u.all (Integer.isDigit 10) then none
      else some (.int (if negative then -(Integer.valueOf 10 u : Int) else Integer.valueOf 10 u))) =
        some v) :
    IsReadAs (if negative then 45 :: u else u) v := by
  obtain ⟨c, w, rfl, notMinus⟩ := begins
  cases negative with
  | false =>
    refine isReadAs_number parts ?_
    rw [← number, numberOf?.eq_def]
    simp only [Bool.false_eq_true, ↓reduceIte, if_neg notMinus]
  | true =>
    refine isReadAs_number (List.forall_mem_cons.mpr ⟨by decide, parts⟩) ?_
    rw [← number, numberOf?.eq_def]
    simp only [↓reduceIte]

private theorem isNumberPart_point (d : Digit 10) :
    isNumberPart d.point = true ∧ Integer.isDigit 10 d.point = true ∧
      isFloatPart d.point = false ∧ d.point ≠ 45 := by
  have each : ∀ (value : Fin 16) (capital : Bool), value.val < 10 →
      isNumberPart (Digit.figure value capital) = true ∧
        Integer.isDigit 10 (Digit.figure value capital) = true ∧
        isFloatPart (Digit.figure value capital) = false ∧
        Digit.figure value capital ≠ 45 := by decide
  exact each d.value d.capital d.below

theorem isReadAs_int (n : Int) : IsReadAs (Text.ofInt n) (.int n) := by
  obtain ⟨ds, spelled, denoted, nonempty, -⟩ := isNumeral_ofNat n.natAbs
  have written : Text.ofInt n =
      if decide (n < 0) then 45 :: Digit.spell ds else Digit.spell ds := by
    rw [← spelled]
    cases n with
    | ofNat m => rfl
    | negSucc m => rw [Text.ofInt, decide_eq_true (Int.negSucc_lt_zero m)]; rfl
  have floatless : (Digit.spell ds).any isFloatPart = false := by
    simp [Digit.spell, isNumberPart_point]
  have digits : (Digit.spell ds).all (Integer.isDigit 10) = true := by
    simp [Digit.spell, isNumberPart_point]
  have filled : (Digit.spell ds).isEmpty = false := by simp [Digit.spell, nonempty]
  rw [written]
  refine isReadAs_signed (decide (n < 0)) ?_ (by simp [Digit.spell, isNumberPart_point]) ?_
  · cases ds with
    | nil => exact absurd rfl nonempty
    | cons d ds => exact ⟨d.point, Digit.spell ds, rfl, (isNumberPart_point d).2.2.2⟩
  · rw [floatless, digits, filled, Digit.valueOf_spell, denoted]
    simp only [Bool.false_eq_true, ↓reduceIte, Bool.not_true, Bool.or_self, Option.some.injEq,
      Value.int.injEq, decide_eq_true_eq]
    split_ifs <;> omega

theorem isReadAs_float (x : Double) : IsReadAs (number x) (.float x.reread) := by
  have words := isReadAs_word
  simp only [Json.words, List.forall_mem_cons] at words
  cases x with
  | nan => exact words.2.2.2.1
  | infinite negative =>
    cases negative with
    | false => exact words.2.2.2.2.1
    | true => exact words.2.2.2.2.2.1
  | finite negative mantissa exponent =>
    obtain ⟨n, marked, written⟩ := Double.exists_numeral_text negative mantissa exponent
    have plain : number (.finite negative mantissa exponent) =
        (Double.finite negative mantissa exponent).text := rfl
    rw [Double.reread_finite written, plain, written]
    refine isReadAs_signed negative ?_ (fun c member => ?_) ?_
    · obtain ⟨c, w, begins, leads⟩ := n.exists_head_text
      refine ⟨c, w, begins, ?_⟩
      rcases leads with ⟨d, rfl⟩ | rfl
      · exact (isNumberPart_point d).2.2.2
      · decide
    · rcases NumeralParts.mem_text member with ⟨d, rfl⟩ | mark
      · exact (isNumberPart_point d).1
      · exact (NumeralParts.forall_marks (p := fun c => isNumberPart c = true)).mpr
          (by decide) c mark
    · have point : n.text.any isFloatPart = true := by
        rcases marked with member | member
        · exact List.any_eq_true.mpr ⟨46, member, by decide⟩
        · exact List.any_eq_true.mpr ⟨101, member, by decide⟩
      rw [point, if_pos rfl, n.readUnsigned_signed]
      rfl

/-! ### Texts -/

private theorem hexValue?_ofChar : ∀ d : Fin 16,
    (CodePoint.ofChar d.val.digitChar).hexValue? = some d.val := by decide

private theorem hex_one {n : Nat} (small : n < 16) :
    Text.hex 1 n = [CodePoint.ofChar n.digitChar] := by
  rw [Text.hex, Nat.toDigits_of_lt_base small]
  rfl

private theorem hex_succ {width : Nat} (positive : 0 < width) (n : Nat) :
    Text.hex (width + 1) n =
      Text.hex width (n / 16) ++ [CodePoint.ofChar (n % 16).digitChar] := by
  by_cases small : n < 16
  · obtain ⟨width, rfl⟩ : ∃ more, width = more + 1 := ⟨width - 1, by omega⟩
    rw [Text.hex, Text.hex, Nat.toDigits_of_lt_base small, Nat.div_eq_of_lt small,
      Nat.mod_eq_of_lt small]
    simp [Text.zeros, List.replicate_succ', CodePoint.ofChar]
  · rw [Text.hex, Text.hex, Nat.toDigits_eq_if (by decide), if_neg small]
    simp

theorem exists_unitEscape {n : Nat} (small : n < 0x10000) :
    ∃ a b c d, unitEscape n = [92, 117, a, b, c, d] ∧ unit? a b c d = some n := by
  have lead : Text.ofString "\\u" = [92, 117] := by decide
  have digit (m : Nat) (below : m < 16) := hexValue?_ofChar ⟨m, below⟩
  have written : unitEscape n = [92, 117, .ofChar (n / 16 / 16 / 16).digitChar,
      .ofChar (n / 16 / 16 % 16).digitChar, .ofChar (n / 16 % 16).digitChar,
      .ofChar (n % 16).digitChar] := by
    rw [unitEscape, lead, hex_succ (by decide), hex_succ (by decide), hex_succ (by decide),
      hex_one (by omega)]
    rfl
  refine ⟨_, _, _, _, written, ?_⟩
  simp only [unit?, digit (n / 16 / 16 / 16) (by omega), digit (n / 16 / 16 % 16) (by omega),
    digit (n / 16 % 16) (by omega), digit (n % 16) (by omega), Option.bind_eq_bind,
    Option.bind_some, Option.pure_def, Option.some.injEq]
  omega

private theorem unescape?_of_shortEscape? {c letter : CodePoint}
    (short : shortEscape? c = some letter) :
    letter ≠ 117 ∧ unescape? letter = some c := by
  unfold shortEscape? at short
  split_ifs at short with quote
  · obtain rfl := Option.some.inj short
    rcases quote with rfl | rfl <;> decide
  all_goals
    obtain rfl := Option.some.inj short
    subst c
    decide

def withUnits (units : List (Nat × Bool)) (read : List (Nat × Bool) × Text) :
    List (Nat × Bool) × Text := (units ++ read.1, read.2)

theorem readUnits_letter {letter c : CodePoint} (short : shortEscape? c = some letter)
    (rest : Text) :
    readUnits (92 :: letter :: rest) = (readUnits rest).map (withUnits [(c.val, false)]) := by
  obtain ⟨notUnit, back⟩ := unescape?_of_shortEscape? short
  rw [readUnits.eq_def]
  dsimp only
  rw [if_neg (by decide), if_pos rfl, if_neg notUnit, back]
  cases readUnits rest <;> rfl

theorem readUnits_unitEscape {n : Nat} (small : n < 0x10000) (rest : Text) :
    readUnits (unitEscape n ++ rest) = (readUnits rest).map (withUnits [(n, true)]) := by
  obtain ⟨a, b, c, d, written, number⟩ := exists_unitEscape small
  rw [written]
  change readUnits (92 :: 117 :: a :: b :: c :: d :: rest) = _
  rw [readUnits.eq_def]
  dsimp only
  rw [if_neg (by decide), if_pos rfl, if_pos rfl, number]
  cases readUnits rest <;> rfl

theorem readUnits_plain {c : CodePoint} (noEscape : shortEscape? c = none)
    (notControl : ¬c.val < 0x20) (rest : Text) :
    readUnits (c :: rest) = (readUnits rest).map (withUnits [(c.val, false)]) := by
  have plain : c ≠ 34 ∧ c ≠ 92 := by
    constructor
    all_goals
      rintro rfl
      exact absurd noEscape (by decide)
  rw [readUnits.eq_def]
  dsimp only
  rw [if_neg plain.1, if_neg plain.2, if_neg notControl]
  cases readUnits rest <;> rfl

theorem pointOf_val (c : CodePoint) : pointOf c.val = c := by
  rw [pointOf, dif_pos c.isLt]

/-- Two units are joined only if both were written by number and are the halves of a pair. -/
theorem joinPairs_cons {a : Nat} {marked : Bool} {units : List (Nat × Bool)}
    (apart : ∀ b, units.head? = some (b, true) → marked = true → isPair a b = false) :
    joinPairs ((a, marked) :: units) = pointOf a :: joinPairs units := by
  cases marked with
  | false => rw [joinPairs]; simp
  | true =>
    cases units with
    | nil => rw [joinPairs]; simp
    | cons next units =>
      obtain ⟨b, nextMarked⟩ := next
      cases nextMarked with
      | false => rw [joinPairs]; simp
      | true => rw [joinPairs, apart b rfl rfl, if_neg Bool.false_ne_true]

def IsReadAsText (inside t : Text) : Prop :=
  ∀ rest, readText (inside ++ 34 :: rest) = some (t, rest)

theorem isReadAsText_flatMap {escape : CodePoint → Text} {units : CodePoint → List (Nat × Bool)}
    (each : ∀ c rest, readUnits (escape c ++ rest) = (readUnits rest).map (withUnits (units c)))
    (t : Text) : IsReadAsText (t.flatMap escape) (joinPairs (t.flatMap units)) := by
  intro rest
  have read : readUnits (t.flatMap escape ++ 34 :: rest) = some (t.flatMap units, rest) := by
    induction t with
    | nil =>
      rw [List.flatMap_nil, List.nil_append, readUnits.eq_def]
      rfl
    | cons c t ih =>
      rw [List.flatMap_cons, List.append_assoc, each, ih, Option.map_some, withUnits,
        List.flatMap_cons]
  rw [readText, read]
  rfl

theorem isReadAs_quote {escape : CodePoint → Text} {t back : Text}
    (reads : IsReadAsText (t.flatMap escape) back) :
      IsReadAs (quoteWith escape t) (.text back) := by
  refine .of_succ ⟨34, t.flatMap escape ++ [34], rfl, by decide, by decide⟩ fun fuel rest _ _ => ?_
  have opened : quoteWith escape t ++ rest = 34 :: (t.flatMap escape ++ 34 :: rest) := by
    simp [quoteWith]
  rw [opened, readValue, skip_cons (by decide)]
  dsimp only
  rw [if_pos rfl, reads rest]
  rfl

/-! ### Lists and records -/

/-- A part is read as a field: a key in quotes and, behind a colon and a blank, a value. -/
def IsReadAsField (part : Text) (field : Text × Value) : Prop :=
  ∃ name written, part = 34 :: (name ++ 34 :: 58 :: 32 :: written) ∧ IsReadAsText name field.1 ∧
    IsReadAs written field.2

section Layout

variable {gap opening closing : Text} {fuel : Nat} {t u rest : Text}

private theorem readItems_last {item : Value} (closes : IsBlank closing)
    (read : readValue fuel t = some (item, closing ++ 93 :: rest)) :
    readItems (fuel + 1) t = some ([item], rest) := by
  have behind : skip (closing ++ 93 :: rest) = 93 :: rest := by
    rw [skip_append closes, skip_cons (by decide)]
  rw [readItems, read]
  simp only [Option.bind_eq_bind, Option.bind_some, behind, ↓reduceIte]
  rfl

private theorem readItems_more {item : Value} (blank : IsBlank gap)
    (read : readValue fuel t = some (item, 44 :: (gap ++ u))) :
    readItems (fuel + 1) t = (readItems fuel u).map fun items => (item :: items.1, items.2) := by
  rw [readItems, read, ← readItems_append blank fuel u]
  change (readItems fuel (gap ++ u)).bind _ = _
  cases readItems fuel (gap ++ u) <;> rfl

private theorem readItems_joinWith (blank : IsBlank gap) (closes : IsBlank closing)
    {parts : List Text} {items : List Value} (reads : List.Forall₂ IsReadAs parts items)
    (nonempty : parts ≠ []) :
    ∀ (fuel : Nat) (rest : Text), (Text.joinWith (44 :: gap) parts).length < fuel →
      readItems fuel (Text.joinWith (44 :: gap) parts ++ (closing ++ 93 :: rest)) =
        some (items, rest) := by
  induction reads with
  | nil => exact absurd rfl nonempty
  | @cons part item parts items here later ih =>
    intro fuel rest enough
    obtain ⟨fuel, rfl⟩ : ∃ more, fuel = more + 1 := ⟨fuel - 1, by omega⟩
    cases later with
    | nil =>
      rw [Text.joinWith] at enough ⊢
      exact readItems_last closes
        (here.read fuel _ (by omega) (endsNumber_append closes (by decide) rest))
    | @cons next second others values reads later =>
      rw [Text.joinWith_cons_cons] at enough ⊢
      simp only [List.length_cons, List.length_append] at enough
      simp only [List.cons_append, List.append_assoc]
      rw [readItems_more blank (here.read fuel _ (by omega) (endsNumber_comma _)),
        ih (List.cons_ne_nil _ _) fuel rest (by omega), Option.map_some]

variable {key : Text} {value : Value} (before : List (Text × Value))

private theorem readFields_last (closes : IsBlank closing)
    (named : readText t = some (key, 58 :: 32 :: u))
    (read : readValue fuel u = some (value, closing ++ 125 :: rest)) :
    readFields (fuel + 1) before (34 :: t) = some (insert key value before, rest) := by
  have behind : skip (closing ++ 125 :: rest) = 125 :: rest := by
    rw [skip_append closes, skip_cons (by decide)]
  have colon : IsBlank [32] := by simp [IsBlank, isSpace]
  rw [← readValue_append colon] at read
  rw [readFields, skip_cons (by decide)]
  simp only [↓reduceIte, named]
  change (readValue fuel ([32] ++ u)).bind _ = _
  simp only [read, Option.bind_some, behind, ↓reduceIte]
  rfl

private theorem readFields_more (blank : IsBlank gap)
    (named : readText t = some (key, 58 :: 32 :: u))
    (read : readValue fuel u = some (value, 44 :: (gap ++ rest))) :
    readFields (fuel + 1) before (34 :: t) = readFields fuel (insert key value before) rest := by
  have colon : IsBlank [32] := by simp [IsBlank, isSpace]
  rw [← readValue_append colon] at read
  rw [readFields, skip_cons (by decide), ← readFields_append blank fuel _ rest]
  simp only [↓reduceIte, named]
  change (readValue fuel ([32] ++ u)).bind _ = _
  rw [read]
  rfl

private theorem readFields_joinWith (blank : IsBlank gap) (closes : IsBlank closing)
    {parts : List Text} {fields : List (Text × Value)}
    (reads : List.Forall₂ IsReadAsField parts fields) (nonempty : parts ≠ []) :
    ∀ (before : List (Text × Value)) (fuel : Nat) (rest : Text),
      (Text.joinWith (44 :: gap) parts).length < fuel →
      readFields fuel before (Text.joinWith (44 :: gap) parts ++ (closing ++ 125 :: rest)) =
        some (collect before fields, rest) := by
  induction reads with
  | nil => exact absurd rfl nonempty
  | @cons part field parts fields here later ih =>
    intro before fuel rest enough
    obtain ⟨name, written, rfl, named, reads⟩ := here
    obtain ⟨fuel, rfl⟩ : ∃ more, fuel = more + 1 := ⟨fuel - 1, by omega⟩
    cases later with
    | nil =>
      rw [Text.joinWith] at enough ⊢
      simp only [List.length_cons, List.length_append] at enough
      simp only [List.cons_append, List.append_assoc]
      exact readFields_last before closes (named _)
        (reads.read fuel _ (by omega) (endsNumber_append closes (by decide) rest))
    | @cons next second others values _ later =>
      rw [Text.joinWith_cons_cons] at enough ⊢
      simp only [List.length_cons, List.length_append] at enough
      simp only [List.cons_append, List.append_assoc]
      rw [readFields_more before blank (named _)
        (reads.read fuel _ (by omega) (endsNumber_comma _)),
        ih (List.cons_ne_nil _ _) _ fuel rest (by omega)]
      rfl

theorem IsReadAs.list (opens : IsBlank opening) (blank : IsBlank gap) (closes : IsBlank closing)
    {parts : List Text} {items : List Value} (reads : List.Forall₂ IsReadAs parts items)
    (nonempty : parts ≠ []) :
    IsReadAs (91 :: (opening ++ (Text.joinWith (44 :: gap) parts ++ (closing ++ [93]))))
      (.list items) := by
  refine .of_succ ⟨91, _, rfl, by decide, by decide⟩ fun fuel rest enough _ => ?_
  simp only [List.length_cons, List.length_append, List.length_nil] at enough
  have inside := readItems_joinWith blank closes reads nonempty fuel rest (by omega)
  obtain ⟨c, u, begins, notSpace, notEnd⟩ :
      ∃ c u, Text.joinWith (44 :: gap) parts = c :: u ∧ isSpace c = false ∧ c ≠ 93 := by
    cases reads with
    | nil => exact absurd rfl nonempty
    | cons here later =>
      obtain ⟨c, u, rfl, plain⟩ := here.head
      cases later with
      | nil => exact ⟨c, u, rfl, plain⟩
      | cons => exact ⟨c, _, rfl, plain⟩
  simp only [List.cons_append, List.append_assoc, List.nil_append]
  rw [begins, List.cons_append] at inside ⊢
  rw [readValue, skip_cons (by decide)]
  dsimp only
  rw [if_neg (by decide), if_pos rfl, skip_append opens, skip_cons notSpace]
  dsimp only
  rw [if_neg notEnd, inside]
  rfl

theorem IsReadAs.record (opens : IsBlank opening) (blank : IsBlank gap) (closes : IsBlank closing)
    {parts : List Text} {fields : List (Text × Value)}
    (reads : List.Forall₂ IsReadAsField parts fields) (nonempty : parts ≠ []) :
    IsReadAs (123 :: (opening ++ (Text.joinWith (44 :: gap) parts ++ (closing ++ [125]))))
      (.record (collect [] fields)) := by
  refine .of_succ ⟨123, _, rfl, by decide, by decide⟩ fun fuel rest enough _ => ?_
  simp only [List.length_cons, List.length_append, List.length_nil] at enough
  have inside := readFields_joinWith blank closes reads nonempty [] fuel rest (by omega)
  obtain ⟨u, begins⟩ : ∃ u, Text.joinWith (44 :: gap) parts = 34 :: u := by
    cases reads with
    | nil => exact absurd rfl nonempty
    | cons here later =>
      obtain ⟨name, written, rfl, -⟩ := here
      cases later with
      | nil => exact ⟨_, rfl⟩
      | cons => exact ⟨_, rfl⟩
  simp only [List.cons_append, List.append_assoc, List.nil_append]
  rw [begins, List.cons_append] at inside ⊢
  rw [readValue, skip_cons (by decide)]
  dsimp only
  rw [if_neg (by decide), if_neg (by decide), if_pos rfl, skip_append opens, skip_cons (by decide)]
  dsimp only
  rw [if_neg (by decide), inside]
  rfl

end Layout

theorem isReadAs_emptyList : IsReadAs [91, 93] (.list []) := by
  refine .of_succ ⟨91, [93], rfl, by decide, by decide⟩ fun fuel rest _ _ => ?_
  change readValue (fuel + 1) (91 :: 93 :: rest) = _
  rw [readValue, skip_cons (by decide)]
  rfl

theorem isReadAs_emptyRecord : IsReadAs [123, 125] (.record []) := by
  refine .of_succ ⟨123, [125], rfl, by decide, by decide⟩ fun fuel rest _ _ => ?_
  change readValue (fuel + 1) (123 :: 125 :: rest) = _
  rw [readValue, skip_cons (by decide)]
  rfl

end Json

end Outline.Value
