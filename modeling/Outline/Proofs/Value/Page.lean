import Outline.Proofs.Text.Basic
import Outline.Proofs.Text.Utf8
import Outline.Proofs.Value.Reading

/-!
Values on a page.

A page is ASCII, whatever the texts of the value are. Reading it gives the value back but for what a
page does not keep: the order of fields, of which the sorted one is read, a surrogate pair in a
text, which is read as one code point, and a number, which is read as the one that its text denotes.
-/

set_option autoImplicit false

namespace Outline

/-- A text with each surrogate pair in it as the code point that the pair stands for. -/
def Text.joinHalves : Text → Text
  | a :: b :: t =>
    if Value.Json.isPair a.val b.val then Value.Json.joined a.val b.val :: joinHalves t
    else a :: joinHalves (b :: t)
  | t => t

namespace Value

mutual

def reread : Value → Value
  | .float x => .float x.reread
  | .text t => .text t.joinHalves
  | .list items => .list (rereadItems items)
  | .record fields => .record (collect [] (Json.inKeyOrder (rereadFields fields)))
  | v => v

def rereadItems : List Value → List Value
  | [] => []
  | item :: items => reread item :: rereadItems items

/-- The fields that are read from those of a record, each with the key that it had. -/
def rereadFields : List (Text × Value) → List (Text × Text × Value)
  | [] => []
  | (key, value) :: fields => (key, key.joinHalves, reread value) :: rereadFields fields

end

namespace Json

/-! ### Texts -/

def asciiUnits (c : CodePoint) : List (Nat × Bool) :=
  if (shortEscape? c).isSome ∨ (0x20 ≤ c.val ∧ c.val ≤ 0x7E) then [(c.val, false)]
  else if c.val < 0x10000 then [(c.val, true)]
  else
    [(0xD800 + (c.val - 0x10000) / 0x400, true), (0xDC00 + (c.val - 0x10000) % 0x400, true)]

private theorem readUnits_escapeAscii (c : CodePoint) (rest : Text) :
    readUnits (escapeAscii c ++ rest) = (readUnits rest).map (withUnits (asciiUnits c)) := by
  have bound := c.isLt
  rw [escapeAscii, asciiUnits]
  cases short : shortEscape? c with
  | some letter =>
    simp only [Option.isSome_some, true_or, if_true]
    exact readUnits_letter short rest
  | none =>
    simp only [Option.isSome_none, Bool.false_eq_true, false_or]
    split_ifs with plain small
    · exact readUnits_plain short (by omega) rest
    · exact readUnits_unitEscape small rest
    · rw [List.append_assoc, readUnits_unitEscape (by omega), readUnits_unitEscape (by omega),
        Option.map_map]
      rfl

private theorem joinPairs_asciiUnits_append {c : CodePoint} {units : List (Nat × Bool)}
    (apart : ∀ b, units.head? = some (b, true) → isPair c.val b = false) :
    joinPairs (asciiUnits c ++ units) = c :: joinPairs units := by
  have bound := c.isLt
  rw [asciiUnits]
  split_ifs with plain small
  · have unmarked : ∀ b, units.head? = some (b, true) → false = true → isPair c.val b = false :=
      fun _ _ impossible => absurd impossible Bool.false_ne_true
    rw [List.singleton_append, joinPairs_cons unmarked, pointOf_val]
  · rw [List.singleton_append, joinPairs_cons (fun b leads _ => apart b leads), pointOf_val]
  · have pair : isPair (0xD800 + (c.val - 0x10000) / 0x400)
        (0xDC00 + (c.val - 0x10000) % 0x400) = true := by rw [isPair, decide_eq_true (by omega)]
    have back : 0x10000 + (0xD800 + (c.val - 0x10000) / 0x400 - 0xD800) * 0x400 +
        (0xDC00 + (c.val - 0x10000) % 0x400 - 0xDC00) = c.val := by omega
    rw [List.cons_append, List.singleton_append, joinPairs, if_pos pair, joined, back, pointOf_val]

private theorem asciiUnits_of_surrogate {c : CodePoint} (low : 0xD800 ≤ c.val)
    (high : c.val < 0xE000) : asciiUnits c = [(c.val, true)] := by
  have apart (d : CodePoint) (small : d.val < 0xD800) : c ≠ d := by
    rintro rfl
    omega
  have long : shortEscape? c = none := by
    simp only [shortEscape?, apart 34 (by decide), apart 92 (by decide), apart 10 (by decide),
      apart 13 (by decide), apart 9 (by decide), apart 12 (by decide), apart 8 (by decide),
      or_self, if_false]
  rw [asciiUnits, long, if_neg (by simp; omega), if_pos (by omega)]

private theorem eq_val_of_head?_asciiUnits {c : CodePoint} {a b : Nat} {units : List (Nat × Bool)}
    (leads : (asciiUnits c ++ units).head? = some (b, true)) (pair : isPair a b = true) :
    b = c.val := by
  rw [isPair, decide_eq_true_eq] at pair
  have bound := c.isLt
  rw [asciiUnits] at leads
  split_ifs at leads
  all_goals
    simp only [List.cons_append, List.head?_cons, Option.some.injEq, Prod.mk.injEq] at leads
    omega

private theorem joinPairs_asciiUnits (t : Text) :
    joinPairs (t.flatMap asciiUnits) = t.joinHalves := by
  induction t using Text.joinHalves.induct with
  | case1 a b t pair ih =>
    have bounds := pair
    rw [isPair, decide_eq_true_eq] at bounds
    rw [List.flatMap_cons, List.flatMap_cons, asciiUnits_of_surrogate bounds.1 (by omega),
      asciiUnits_of_surrogate (by omega) bounds.2.2.2, List.singleton_append, List.singleton_append,
      joinPairs, if_pos pair, ih, Text.joinHalves, if_pos pair]
  | case2 a b t apart ih =>
    rw [Text.joinHalves, if_neg apart, List.flatMap_cons, joinPairs_asciiUnits_append, ih]
    intro second leads
    rw [List.flatMap_cons] at leads
    by_contra pair
    rw [Bool.not_eq_false] at pair
    rw [eq_val_of_head?_asciiUnits leads pair] at pair
    exact apart pair
  | case3 t short =>
    cases t with
    | nil => rfl
    | cons a t =>
      cases t with
      | nil =>
        have alone : joinPairs (asciiUnits a ++ []) = [a] :=
          joinPairs_asciiUnits_append (by simp)
        rw [List.flatMap_cons, List.flatMap_nil, alone]
        rfl
      | cons b t => exact absurd rfl (short a b t)

private theorem isReadAsText_ascii (t : Text) :
    IsReadAsText (t.flatMap escapeAscii) t.joinHalves := by
  have reads := isReadAsText_flatMap readUnits_escapeAscii t
  rw [joinPairs_asciiUnits] at reads
  exact reads

/-! ### Reading a page -/

private theorem isBlank_lineBreak (level : Nat) : IsBlank (lineBreak level) := by
  refine List.forall_mem_cons.mpr ⟨by decide, fun c member => ?_⟩
  rw [List.eq_of_mem_replicate member]
  decide

private theorem block_eq (opens closes : CodePoint) (level : Nat) {parts : List Text}
    (nonempty : parts ≠ []) :
    block opens closes level parts = opens :: (lineBreak (level + 1) ++
      (Text.joinWith (44 :: lineBreak (level + 1)) parts ++ (lineBreak level ++ [closes]))) := by
  cases parts with
  | nil => exact absurd rfl nonempty
  | cons part parts => simp [block]

private theorem isReadAs_listBlock (level : Nat) {parts : List Text} {items : List Value}
    (reads : List.Forall₂ IsReadAs parts items) :
      IsReadAs (block 91 93 level parts) (.list items) := by
  cases reads with
  | nil => exact isReadAs_emptyList
  | cons here later =>
    rw [block_eq _ _ _ (List.cons_ne_nil _ _)]
    exact .list (isBlank_lineBreak _) (isBlank_lineBreak _) (isBlank_lineBreak _) (.cons here later)
      (List.cons_ne_nil _ _)

private theorem isReadAs_recordBlock (level : Nat) {parts : List Text}
    {fields : List (Text × Value)} (reads : List.Forall₂ IsReadAsField parts fields) :
    IsReadAs (block 123 125 level parts) (.record (collect [] fields)) := by
  cases reads with
  | nil => exact isReadAs_emptyRecord
  | cons here later =>
    rw [block_eq _ _ _ (List.cons_ne_nil _ _)]
    exact .record (isBlank_lineBreak _) (isBlank_lineBreak _) (isBlank_lineBreak _)
      (.cons here later) (List.cons_ne_nil _ _)

mutual

private theorem isReadAs_page (level : Nat) : (v : Value) → IsReadAs (pageFrom level v) v.reread
  | .null => by
    rw [pageFrom, reread]
    · exact isReadAs_word (Text.ofString "null", .null) (by simp [words])
    all_goals nofun
  | .bool b => by
    rw [pageFrom, reread]
    · cases b with
      | true => exact isReadAs_word (Text.ofString "true", .bool true) (by simp [words])
      | false => exact isReadAs_word (Text.ofString "false", .bool false) (by simp [words])
    all_goals nofun
  | .int n => by
    rw [pageFrom, reread]
    · exact isReadAs_int n
    all_goals nofun
  | .float x => by
    rw [pageFrom, reread]
    exact isReadAs_float x
  | .text t => by
    rw [pageFrom, reread]
    exact isReadAs_quote (isReadAsText_ascii t)
  | .list items => by
    rw [pageFrom, reread]
    exact isReadAs_listBlock level (isReadAs_pageItems (level + 1) items)
  | .record fields => by
    rw [pageFrom, reread]
    have sorted :=
      Sorting.forall₂_sort (fun a b => Text.le a.1 b.1) (fun a b a' b' first second => by
      rw [first.1, second.1]) (isReadAsField_pageFields (level + 1) fields)
    refine isReadAs_recordBlock level ?_
    rw [inKeyOrder, inKeyOrder, List.forall₂_map_left_iff, List.forall₂_map_right_iff]
    exact sorted.imp fun _ _ both => both.2

private theorem isReadAs_pageItems (level : Nat) : (items : List Value) →
    List.Forall₂ IsReadAs (pageItems level items) (rereadItems items)
  | [] => .nil
  | item :: items => .cons (isReadAs_page level item) (isReadAs_pageItems level items)

private theorem isReadAsField_pageFields (level : Nat) : (fields : List (Text × Value)) →
    List.Forall₂ (fun part field => part.1 = field.1 ∧ IsReadAsField part.2 field.2)
      (pageFields level fields) (rereadFields fields)
  | [] => .nil
  | (key, value) :: fields => by
    refine .cons ⟨rfl, _, _, ?_, isReadAsText_ascii key, isReadAs_page level value⟩
      (isReadAsField_pageFields level fields)
    simp [quoteWith]

end

/-- A page is read as the value that it keeps of the one written. -/
theorem read?_page (v : Value) : read? (page v) = some v.reread := (isReadAs_page 0 v).read?

/-! ### The bytes of a page -/

def IsAscii (t : Text) : Prop := ∀ c ∈ t, c.val < 0x80

instance : DecidablePred IsAscii := fun t =>
  @List.decidableBAll CodePoint (fun c => c.val < 0x80) (fun _ => inferInstance) t

private theorem isAscii_cons {c : CodePoint} {t : Text} :
    IsAscii (c :: t) ↔ c.val < 0x80 ∧ IsAscii t := List.forall_mem_cons

private theorem isAscii_append {s t : Text} : IsAscii (s ++ t) ↔ IsAscii s ∧ IsAscii t :=
  List.forall_mem_append

private theorem isAscii_joinWith {separator : Text} (ascii : IsAscii separator) {parts : List Text}
    (each : ∀ part ∈ parts, IsAscii part) : IsAscii (Text.joinWith separator parts) := by
  induction parts with
  | nil => exact fun _ member => absurd member List.not_mem_nil
  | cons part parts ih =>
    obtain ⟨here, later⟩ := List.forall_mem_cons.mp each
    cases parts with
    | nil => exact here
    | cons next parts =>
      rw [Text.joinWith_cons_cons]
      exact isAscii_append.mpr ⟨isAscii_append.mpr ⟨here, ascii⟩, ih later⟩

private theorem lt_of_hexValue? {c : CodePoint} {value : Nat} (found : c.hexValue? = some value) :
    c.val < 0x80 := by
  have digit := (Option.filter_eq_some_iff.mp found).1
  unfold CodePoint.alphanumericValue? at digit
  split_ifs at digit <;> omega

private theorem isAscii_unitEscape {n : Nat} (small : n < 0x10000) : IsAscii (unitEscape n) := by
  obtain ⟨a, b, c, d, written, number⟩ := exists_unitEscape small
  simp only [unit?, Option.bind_eq_bind, Option.bind_eq_some_iff] at number
  obtain ⟨_, first, _, second, _, third, _, fourth, -⟩ := number
  rw [written]
  simp only [isAscii_cons]
  exact ⟨by decide, by decide, lt_of_hexValue? first, lt_of_hexValue? second,
    lt_of_hexValue? third, lt_of_hexValue? fourth, by decide⟩

private theorem isAscii_escapeAscii (c : CodePoint) : IsAscii (escapeAscii c) := by
  have bound := c.isLt
  rw [escapeAscii]
  cases short : shortEscape? c with
  | some letter =>
    have small : letter.val < 0x80 := by
      unfold shortEscape? at short
      split_ifs at short with quote
      · obtain rfl := Option.some.inj short
        rcases quote with rfl | rfl <;> decide
      all_goals
        obtain rfl := Option.some.inj short
        decide
    exact isAscii_cons.mpr ⟨by decide, isAscii_cons.mpr ⟨small, by decide⟩⟩
  | none =>
    dsimp only
    split_ifs with plain small
    · exact isAscii_cons.mpr ⟨by omega, by decide⟩
    · exact isAscii_unitEscape small
    · exact isAscii_append.mpr
        ⟨isAscii_unitEscape (by omega), isAscii_unitEscape (by omega)⟩

private theorem isAscii_quote (t : Text) : IsAscii (quoteWith escapeAscii t) := by
  refine isAscii_append.mpr ⟨isAscii_append.mpr ⟨by decide, ?_⟩, by decide⟩
  intro c member
  obtain ⟨source, -, written⟩ := List.mem_flatMap.mp member
  exact isAscii_escapeAscii source c written

private theorem val_point_lt (d : Digit 10) : d.point.val < 0x80 := by
  have each : ∀ (value : Fin 16) (capital : Bool), (Digit.figure value capital).val < 0x80 := by
    decide
  exact each d.value d.capital

private theorem isAscii_ofInt (n : Int) : IsAscii (Text.ofInt n) := by
  have unsigned (m : Nat) : IsAscii (Text.ofNat m) := by
    obtain ⟨ds, spelled, -⟩ := isNumeral_ofNat m
    rw [spelled]
    intro c member
    obtain ⟨d, -, rfl⟩ := List.mem_map.mp member
    exact val_point_lt d
  cases n with
  | ofNat m => exact unsigned m
  | negSucc m => exact isAscii_cons.mpr ⟨by decide, unsigned (m + 1)⟩

private theorem isAscii_number (x : Double) : IsAscii (number x) := by
  cases x with
  | nan => exact of_decide_eq_true rfl
  | infinite negative =>
    cases negative with
    | false => exact of_decide_eq_true rfl
    | true => exact of_decide_eq_true rfl
  | finite negative mantissa exponent =>
    obtain ⟨n, -, written⟩ := Double.exists_numeral_text negative mantissa exponent
    have unsigned : IsAscii n.text := by
      intro c member
      rcases NumeralParts.mem_text member with ⟨d, rfl⟩ | mark
      · exact val_point_lt d
      · exact (NumeralParts.forall_marks (p := fun c => c.val < 0x80)).mpr (by decide) c mark
    change IsAscii (Double.finite negative mantissa exponent).text
    rw [written]
    cases negative with
    | false => exact unsigned
    | true => exact isAscii_cons.mpr ⟨by decide, unsigned⟩

private theorem isAscii_lineBreak (level : Nat) : IsAscii (lineBreak level) := by
  refine List.forall_mem_cons.mpr ⟨by decide, fun c member => ?_⟩
  rw [List.eq_of_mem_replicate member]
  decide

private theorem isAscii_block {opens closes : CodePoint} (opening : opens.val < 0x80)
    (closing : closes.val < 0x80) (level : Nat) {parts : List Text}
    (each : ∀ part ∈ parts, IsAscii part) : IsAscii (block opens closes level parts) := by
  cases parts with
  | nil => exact isAscii_cons.mpr ⟨opening, isAscii_cons.mpr ⟨closing, by decide⟩⟩
  | cons part parts =>
    have comma : IsAscii (44 :: lineBreak (level + 1)) :=
      isAscii_cons.mpr ⟨by decide, isAscii_lineBreak _⟩
    rw [block_eq _ _ _ (List.cons_ne_nil _ _)]
    refine isAscii_cons.mpr ⟨opening, isAscii_append.mpr ⟨isAscii_lineBreak _, ?_⟩⟩
    refine isAscii_append.mpr ⟨isAscii_joinWith comma each,
      isAscii_append.mpr ⟨isAscii_lineBreak _, ?_⟩⟩
    exact isAscii_cons.mpr ⟨closing, by decide⟩

mutual

private theorem isAscii_page (level : Nat) : (v : Value) → IsAscii (pageFrom level v)
  | .null => by
    rw [pageFrom]
    decide
  | .bool b => by
    rw [pageFrom]
    cases b with
    | false => exact of_decide_eq_true rfl
    | true => exact of_decide_eq_true rfl
  | .int n => by
    rw [pageFrom]
    exact isAscii_ofInt n
  | .float x => by
    rw [pageFrom]
    exact isAscii_number x
  | .text t => by
    rw [pageFrom]
    exact isAscii_quote t
  | .list items => by
    rw [pageFrom]
    exact isAscii_block (by decide) (by decide) level (isAscii_pageItems (level + 1) items)
  | .record fields => by
    rw [pageFrom, inKeyOrder]
    refine isAscii_block (by decide) (by decide) level fun part member => ?_
    obtain ⟨keyed, listed, rfl⟩ := List.mem_map.mp member
    exact isAscii_pageFields (level + 1) fields keyed ((Sorting.sort_perm _ _).mem_iff.mp listed)

private theorem isAscii_pageItems (level : Nat) : (items : List Value) →
    ∀ part ∈ pageItems level items, IsAscii part
  | [] => fun _ member => absurd member List.not_mem_nil
  | item :: items =>
    List.forall_mem_cons.mpr ⟨isAscii_page level item, isAscii_pageItems level items⟩

private theorem isAscii_pageFields (level : Nat) : (fields : List (Text × Value)) →
    ∀ keyed ∈ pageFields level fields, IsAscii keyed.2
  | [] => fun _ member => absurd member List.not_mem_nil
  | (key, value) :: fields => by
    refine List.forall_mem_cons.mpr ⟨?_, isAscii_pageFields level fields⟩
    refine isAscii_append.mpr ⟨isAscii_append.mpr ⟨isAscii_quote key, ?_⟩, isAscii_page level value⟩
    decide

end

theorem hasSurrogate_page (v : Value) : (page v).hasSurrogate = false := by
  refine (Text.hasSurrogate_eq_false_iff _).mpr fun c member => ?_
  have small := isAscii_page 0 v c member
  rw [CodePoint.isSurrogate, decide_eq_false (by omega), Bool.false_and]

end Json

end Value

end Outline
