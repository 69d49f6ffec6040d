/-!
Texts as sequences of code points.

A text may hold lone surrogates, because an escape in a source file can spell one half of a pair;
so a text is a list of code points rather than a string of scalar values. Texts are ordered by
code point, and a finite set of texts is kept as its strictly increasing list.
-/

set_option autoImplicit false

namespace Outline.Sorting

universe u

variable {α : Type u}

/-- Puts an element before the first one that it is not greater than. -/
def insert (le : α → α → Bool) (a : α) : List α → List α
  | [] => [a]
  | b :: l => if le a b then a :: b :: l else b :: insert le a l

def sort (le : α → α → Bool) : List α → List α
  | [] => []
  | a :: l => insert le a (sort le l)

/-- Puts an element into an increasing list unless it is there already. -/
def insertNew [DecidableEq α] (le : α → α → Bool) (a : α) : List α → List α
  | [] => [a]
  | b :: l => if a = b then b :: l else if le a b then a :: b :: l else b :: insertNew le a l

def sortNew [DecidableEq α] (le : α → α → Bool) : List α → List α
  | [] => []
  | a :: l => insertNew le a (sortNew le l)

end Outline.Sorting

namespace Outline

/-- A code point: any number below `0x110000`, surrogates included. -/
abbrev CodePoint := Fin 0x110000

instance CodePoint.neZero_count : @NeZero Nat Zero.ofOfNat0 0x110000 := ⟨by decide⟩

abbrev Text := List CodePoint

namespace CodePoint

def ofChar (c : Char) : CodePoint :=
  ⟨c.toNat, by
    have h := c.valid
    simp only [UInt32.isValidChar, Nat.isValidChar] at h
    change c.val.toNat < 0x110000
    omega⟩

/-- A code point that is half of a UTF-16 pair and no character of its own. -/
def isSurrogate (c : CodePoint) : Bool :=
  decide (0xD800 ≤ c.val) && decide (c.val ≤ 0xDFFF)

/-- The character of a code point; a surrogate, which is none, gives the replacement character. -/
def toChar (c : CodePoint) : Char :=
  if c.isSurrogate then '\ufffd' else Char.ofNat c.val

/-- The small letter of a capital ASCII letter; every other code point stays as it is. -/
def lower (c : CodePoint) : CodePoint :=
  if h : 65 ≤ c.val ∧ c.val ≤ 90 then ⟨c.val + 32, by omega⟩ else c

def isIn (ranges : List (Nat × Nat)) (c : CodePoint) : Bool :=
  ranges.any fun range => decide (range.1 ≤ c.val) && decide (c.val ≤ range.2)

/-- The value of an ASCII letter or digit as a digit of a base up to 36. -/
def alphanumericValue? (c : CodePoint) : Option Nat :=
  if 48 ≤ c.val ∧ c.val ≤ 57 then some (c.val - 48)
  else if 65 ≤ c.val ∧ c.val ≤ 90 then some (c.val - 55)
  else if 97 ≤ c.val ∧ c.val ≤ 122 then some (c.val - 87)
  else none

def hexValue? (c : CodePoint) : Option Nat :=
  c.alphanumericValue?.filter (· < 16)

end CodePoint

namespace Text

def ofString (s : String) : Text := s.toList.map CodePoint.ofChar

instance : Coe String Text := ⟨ofString⟩

/-- The string of a text, each surrogate shown as the replacement character. -/
def toString (t : Text) : String := String.ofList (t.map CodePoint.toChar)

def join (parts : List Text) : Text := parts.flatten

/-- The parts one after the other with a separator between neighbours. -/
def joinWith (separator : Text) : List Text → Text
  | [] => []
  | [part] => part
  | part :: parts => part ++ separator ++ joinWith separator parts

/-- The order of texts by code point; a text precedes its extensions. -/
def le : Text → Text → Bool
  | [], _ => true
  | _ :: _, [] => false
  | a :: s, b :: t => decide (a < b) || (decide (a = b) && le s t)

def sort (texts : List Text) : List Text := Sorting.sort le texts

def set (texts : List Text) : List Text := Sorting.sortNew le texts

def startsWith (lead t : Text) : Bool := lead.isPrefixOf t

def lower (t : Text) : Text := t.map CodePoint.lower

/-- The pieces between occurrences of a code point; there is always one. -/
def splitAt (separator : CodePoint) : Text → List Text
  | [] => [[]]
  | c :: t =>
    if c = separator then [] :: splitAt separator t
    else match splitAt separator t with
      | [] => [[c]]
      | piece :: pieces => (c :: piece) :: pieces

def trim (drop : CodePoint → Bool) (t : Text) : Text :=
  ((t.dropWhile drop).reverse.dropWhile drop).reverse

def hasSurrogate (t : Text) : Bool := t.any CodePoint.isSurrogate

def digit (n : Nat) : CodePoint := if h : n < 10 then ⟨48 + n, by omega⟩ else 48

/-- The decimal numeral of a natural number, without leading zeros. -/
def ofNat (n : Nat) : Text := (Nat.toDigits 10 n).map CodePoint.ofChar

/-- The decimal numeral of an integer: a minus sign only below zero. -/
def ofInt : Int → Text
  | .ofNat n => ofNat n
  | .negSucc n => (45 : CodePoint) :: ofNat (n + 1)

def zeros (count : Nat) : Text := List.replicate count (48 : CodePoint)

def padded (width n : Nat) : Text := zeros (width - (ofNat n).length) ++ ofNat n

/-- The lower-case hexadecimal numeral of a number, padded with zeros to a width. -/
def hex (width n : Nat) : Text :=
  let digits := (Nat.toDigits 16 n).map CodePoint.ofChar
  zeros (width - digits.length) ++ digits

def nonEmpty : Option Text → Option Text
  | some (c :: t) => some (c :: t)
  | _ => none

end Text

/-! ### Lines

The lines of a text, and texts with line breaks of one kind.
-/

def CodePoint.isLineBreak (c : CodePoint) : Bool :=
  [0xA, 0xB, 0xC, 0xD, 0x1C, 0x1D, 0x1E, 0x85, 0x2028, 0x2029].contains c.val

/-- The lines of a text without their breaks. A carriage return and a line feed are one break, and
nothing follows the last break of a text that ends with one. -/
def Text.lines : Text → List Text
  | [] => []
  | 13 :: 10 :: t => [] :: lines t
  | c :: t =>
    if c.isLineBreak then [] :: lines t
    else match lines t with
      | [] => [[c]]
      | line :: more => (c :: line) :: more

/-- A text with each carriage return, alone or before a line feed, written as one line feed. -/
def Text.unifyBreaks : Text → Text
  | [] => []
  | [c] => [if c = 13 then 10 else c]
  | c :: d :: t =>
    if c = 13 then
      if d = 10 then 10 :: unifyBreaks t else 10 :: unifyBreaks (d :: t)
    else c :: unifyBreaks (d :: t)

end Outline
