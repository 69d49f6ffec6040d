import Mathlib.Algebra.Group.Nat.Defs
import Mathlib.Data.List.TakeWhile
import Outline.Text.Utf8

/-!
The bytes of texts.
-/

set_option autoImplicit false

/-! ## Where surrogates come from and where they cannot go

No byte sequence denotes a surrogate, so a decoded text has none. A text is encoded exactly if it
has none.
-/

namespace Outline

namespace Text

private theorem hasSurrogate_iff (t : Text) :
    t.hasSurrogate = true ↔ ∃ c ∈ t, c.isSurrogate = true :=
  List.any_eq_true

theorem hasSurrogate_eq_false_iff (t : Text) :
    t.hasSurrogate = false ↔ ∀ c ∈ t, c.isSurrogate = false := by
  simp only [hasSurrogate, List.any_eq_false, Bool.not_eq_true]

@[simp] theorem hasSurrogate_nil : hasSurrogate [] = false := rfl

@[simp] theorem hasSurrogate_cons (c : CodePoint) (t : Text) :
    hasSurrogate (c :: t) = (c.isSurrogate || t.hasSurrogate) := rfl

@[simp] theorem hasSurrogate_append (s t : Text) :
    hasSurrogate (s ++ t) = (s.hasSurrogate || t.hasSurrogate) := List.any_append

theorem hasSurrogate_ofString (s : String) : (ofString s).hasSurrogate = false := by
  rw [hasSurrogate_eq_false_iff]
  intro c member
  obtain ⟨char, -, rfl⟩ := List.mem_map.mp member
  have valid := char.valid
  simp only [UInt32.isValidChar, Nat.isValidChar] at valid
  have same : (CodePoint.ofChar char).val = char.val.toNat := rfl
  simp only [CodePoint.isSurrogate, same, Bool.and_eq_false_iff, decide_eq_false_iff_not]
  omega

end Text

namespace Utf8

private theorem scanTail_bounds {value low high missing used v : Nat} {bytes rest : Bytes}
    (hlow : 0x80 ≤ low) (hhigh : high ≤ 0xBF)
    (found : scanTail value low high (missing + 1) used bytes = .scalar v rest) :
    (value * 64 + (low - 0x80)) * 64 ^ missing ≤ v ∧
      v < (value * 64 + (high - 0x80) + 1) * 64 ^ missing := by
  induction missing generalizing value low high used bytes with
  | zero =>
    cases bytes with
    | nil => simp [scanTail] at found
    | cons byte bytes =>
      rw [scanTail] at found
      split_ifs at found with inRange
      rw [scanTail] at found
      obtain ⟨rfl, -⟩ := Scan.scalar.inj found
      rw [Nat.pow_zero]
      omega
  | succ missing ih =>
    cases bytes with
    | nil => simp [scanTail] at found
    | cons byte bytes =>
      rw [scanTail] at found
      split_ifs at found with inRange
      obtain ⟨lower, upper⟩ := ih (Nat.le_refl _) (Nat.le_refl _) found
      have pow : (64 : Nat) ^ (missing + 1) = 64 * 64 ^ missing := by
        rw [Nat.pow_succ, Nat.mul_comm]
      rw [pow, ← Nat.mul_assoc, ← Nat.mul_assoc]
      constructor
      · exact Nat.le_trans (Nat.mul_le_mul_right _ (by omega)) lower
      · exact Nat.lt_of_lt_of_le upper (Nat.mul_le_mul_right _ (by omega))

private theorem scan_scalar {lead : UInt8} {bytes rest : Bytes} {v : Nat}
    (found : scan lead bytes = .scalar v rest) : v < 0xD800 ∨ 0xDFFF < v ∧ v < 0x110000 := by
  have byte := lead.toNat_lt
  simp only [scan] at found
  split_ifs at found
  · obtain ⟨rfl, -⟩ := Scan.scalar.inj found
    omega
  all_goals
    obtain ⟨lower, upper⟩ := scanTail_bounds (by omega) (by omega) found
    omega

private theorem isSurrogate_codePoint {v : Nat} (scalar : v < 0xD800 ∨ 0xDFFF < v ∧ v < 0x110000) :
    (codePoint v).isSurrogate = false := by
  have bound : v < 0x110000 := by omega
  rw [codePoint, dif_pos bound]
  simp only [CodePoint.isSurrogate, Bool.and_eq_false_iff, decide_eq_false_iff_not]
  omega

private theorem decodeLenient_of_scalar {lead : UInt8} {bytes rest : Bytes} {v : Nat}
    (found : scan lead bytes = .scalar v rest) :
    decodeLenient (lead :: bytes) = codePoint v :: decodeLenient rest := by
  rw [decodeLenient]
  split
  · next same _ =>
    obtain ⟨rfl, rfl⟩ := Scan.scalar.inj (found.symm.trans same)
    rfl
  · next same _ => exact absurd (found.symm.trans same) (by simp)

private theorem decodeLenient_of_malformed {lead : UInt8} {bytes rest : Bytes} {length : Nat}
    {flaw : Flaw} (found : scan lead bytes = .malformed length flaw rest) :
    decodeLenient (lead :: bytes) = 0xFFFD :: decodeLenient rest := by
  rw [decodeLenient]
  split
  · next same _ => exact absurd (found.symm.trans same) (by simp)
  · next same _ =>
    obtain ⟨rfl, rfl, rfl⟩ := Scan.malformed.inj (found.symm.trans same)
    rfl

theorem hasSurrogate_decodeLenient (bytes : Bytes) :
    (decodeLenient bytes).hasSurrogate = false := by
  induction bytes using decodeLenient.induct with
  | case1 => rw [decodeLenient, Text.hasSurrogate_nil]
  | case2 lead bytes _ value rest _ found _ ih =>
    rw [decodeLenient_of_scalar found, Text.hasSurrogate_cons, ih,
      isSurrogate_codePoint (scan_scalar found)]
    rfl
  | case3 lead bytes _ _ _ rest _ found _ ih =>
    rw [decodeLenient_of_malformed found, Text.hasSurrogate_cons, ih]
    rfl

theorem encode_of_hasSurrogate_false {t : Text} (clean : t.hasSurrogate = false) :
    encode t = .ok (encodeLoose t) := by
  have all : ∀ c ∈ t, (!c.isSurrogate) = true := fun c member => by
    rw [(Text.hasSurrogate_eq_false_iff t).mp clean c member]
    rfl
  rw [encode, List.dropWhile_eq_nil_iff.mpr all]

theorem exists_encode_error {t : Text} (bad : t.hasSurrogate = true) :
    ∃ e, encode t = .error e := by
  rw [encode]
  split
  · next nothing =>
    obtain ⟨c, member, surrogate⟩ := (Text.hasSurrogate_iff t).mp bad
    have plain := List.dropWhile_eq_nil_iff.mp nothing c member
    rw [surrogate] at plain
    exact absurd plain Bool.false_ne_true
  · exact ⟨_, rfl⟩

end Utf8

end Outline

/-! ## Encoding and decoding

The bytes of a code point that is no surrogate are read back as that code point, whatever follows
them, so the bytes of a text without surrogates are decoded to the text.
-/

namespace Outline.Utf8

/-! ### One code point -/

private theorem toNat_byte {n : Nat} (small : n < 256) : (UInt8.ofNat n).toNat = n :=
  UInt8.toNat_ofNat_of_lt' small

private theorem scanTail_tail {low high : Nat} (value missing used k : Nat) (bytes : Bytes)
    (above : low ≤ 0x80 + k % 64) (below : 0x80 + k % 64 ≤ high) :
    scanTail value low high (missing + 1) used (UInt8.ofNat (0x80 + k % 64) :: bytes) =
      scanTail (value * 64 + k % 64) 0x80 0xBF missing (used + 1) bytes := by
  rw [scanTail, toNat_byte (by omega), if_pos ⟨above, below⟩, Nat.add_sub_cancel_left]

section Tails

variable {n value low high : Nat} (used : Nat) (rest : Bytes)

private theorem scanTail_one (above : low ≤ 0x80 + n % 64) (below : 0x80 + n % 64 ≤ high)
    (whole : value = n / 64) :
    scanTail value low high 1 used (UInt8.ofNat (0x80 + n % 64) :: rest) = .scalar n rest := by
  rw [scanTail_tail value 0 used n rest above below, scanTail]
  congr 1
  omega

private theorem scanTail_two (above : low ≤ 0x80 + n / 64 % 64) (below : 0x80 + n / 64 % 64 ≤ high)
    (whole : value = n / 4096) :
    scanTail value low high 2 used
      (UInt8.ofNat (0x80 + n / 64 % 64) :: UInt8.ofNat (0x80 + n % 64) :: rest) =
        .scalar n rest := by
  rw [scanTail_tail value 1 used (n / 64) _ above below]
  exact scanTail_one _ rest (by omega) (by omega) (by omega)

private theorem scanTail_three (above : low ≤ 0x80 + n / 4096 % 64)
    (below : 0x80 + n / 4096 % 64 ≤ high) (whole : value = n / 262144) :
    scanTail value low high 3 used (UInt8.ofNat (0x80 + n / 4096 % 64) ::
      UInt8.ofNat (0x80 + n / 64 % 64) :: UInt8.ofNat (0x80 + n % 64) :: rest) =
        .scalar n rest := by
  rw [scanTail_tail value 2 used (n / 4096) _ above below]
  exact scanTail_two _ rest (by omega) (by omega) (by omega)

end Tails

private theorem scan_two {n : Nat} (above : 0x80 ≤ n) (below : n < 0x800) (rest : Bytes) :
    scan (UInt8.ofNat (0xC0 + n / 64)) (UInt8.ofNat (0x80 + n % 64) :: rest) = .scalar n rest := by
  simp only [scan]
  rw [toNat_byte (by omega), if_neg (by omega), if_neg (by omega), if_pos (by omega)]
  exact scanTail_one 1 rest (by omega) (by omega) (by omega)

private theorem scan_three {n : Nat} (above : 0x800 ≤ n) (below : n < 0x10000)
    (scalar : n < 0xD800 ∨ 0xDFFF < n) (rest : Bytes) :
    scan (UInt8.ofNat (0xE0 + n / 4096))
      (UInt8.ofNat (0x80 + n / 64 % 64) :: UInt8.ofNat (0x80 + n % 64) :: rest) =
        .scalar n rest := by
  simp only [scan]
  rw [toNat_byte (by omega), if_neg (by omega), if_neg (by omega), if_neg (by omega)]
  -- the first byte of all bounds the second one from below, that of the surrogates from above
  by_cases first : n / 4096 = 0
  · rw [if_pos (by omega)]
    exact scanTail_two 1 rest (by omega) (by omega) (by omega)
  rw [if_neg (by omega)]
  by_cases surrogates : n / 4096 = 13
  · rw [if_pos (by omega)]
    exact scanTail_two 1 rest (by omega) (by omega) (by omega)
  rw [if_neg (by omega), if_pos (by omega)]
  exact scanTail_two 1 rest (by omega) (by omega) (by omega)

private theorem scan_four {n : Nat} (above : 0x10000 ≤ n) (below : n < 0x110000) (rest : Bytes) :
    scan (UInt8.ofNat (0xF0 + n / 262144))
      (UInt8.ofNat (0x80 + n / 4096 % 64) :: UInt8.ofNat (0x80 + n / 64 % 64) ::
        UInt8.ofNat (0x80 + n % 64) :: rest) = .scalar n rest := by
  simp only [scan]
  rw [toNat_byte (by omega), if_neg (by omega), if_neg (by omega), if_neg (by omega),
    if_neg (by omega), if_neg (by omega), if_neg (by omega)]
  by_cases first : n / 262144 = 0
  · rw [if_pos (by omega)]
    exact scanTail_three 1 rest (by omega) (by omega) (by omega)
  rw [if_neg (by omega)]
  by_cases last : n / 262144 = 4
  · rw [if_neg (by omega), if_pos (by omega)]
    exact scanTail_three 1 rest (by omega) (by omega) (by omega)
  rw [if_pos (by omega)]
  exact scanTail_three 1 rest (by omega) (by omega) (by omega)

private theorem scan_encodeOne {c : CodePoint} (plain : c.isSurrogate = false) (rest : Bytes) :
    ∃ lead bytes, encodeOne c ++ rest = lead :: bytes ∧ scan lead bytes = .scalar c.val rest := by
  have scalar : c.val < 0xD800 ∨ 0xDFFF < c.val := by
    simp only [CodePoint.isSurrogate, Bool.and_eq_false_iff, decide_eq_false_iff_not] at plain
    omega
  simp only [encodeOne]
  split_ifs with one two three
  · refine ⟨_, rest, rfl, ?_⟩
    simp only [scan]
    rw [toNat_byte (by omega), if_pos one]
  · exact ⟨_, _, rfl, scan_two (by omega) two rest⟩
  · exact ⟨_, _, rfl, scan_three (by omega) three scalar rest⟩
  · exact ⟨_, _, rfl, scan_four (by omega) c.isLt rest⟩

/-! ### A whole text -/

private theorem codePoint_val (c : CodePoint) : codePoint c.val = c := by
  rw [codePoint, dif_pos c.isLt]

private theorem decodeFrom_of_scalar {lead : UInt8} {bytes rest : Bytes} {value : Nat}
    (found : scan lead bytes = .scalar value rest) (size base offset : Nat) :
    decodeFrom size base offset (lead :: bytes) =
      (codePoint value :: ·) <$> decodeFrom size
        (baseAfter size base offset (offset + width value)) (offset + width value) rest := by
  rw [decodeFrom]
  split
  · next same _ =>
    obtain ⟨rfl, rfl⟩ := Scan.scalar.inj (found.symm.trans same)
    rfl
  · next same _ => exact absurd (found.symm.trans same) (by simp)

private theorem decodeFrom_encodeLoose {t : Text} (clean : t.hasSurrogate = false)
    (size base offset : Nat) :
    decodeFrom size base offset (encodeLoose t) = .ok t := by
  induction t generalizing base offset with
  | nil => rw [encodeLoose, List.flatMap_nil, decodeFrom]
  | cons c t ih =>
    rw [Text.hasSurrogate_cons, Bool.or_eq_false_iff] at clean
    obtain ⟨lead, bytes, begins, found⟩ := scan_encodeOne clean.1 (encodeLoose t)
    have whole : encodeLoose (c :: t) = lead :: bytes := by
      rw [← begins, encodeLoose, List.flatMap_cons, encodeLoose]
    rw [whole, decodeFrom_of_scalar found, ih clean.2, codePoint_val]
    rfl

theorem decode_encodeLoose {t : Text} (clean : t.hasSurrogate = false) :
    decode (encodeLoose t) = .ok t := by
  rw [decode, decodeFrom_encodeLoose clean]

end Outline.Utf8
