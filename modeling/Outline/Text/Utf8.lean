import Outline.Text.Basic

/-!
Bytes and texts.

Decoding reads one sequence at a time. A sequence that breaks off ends where the first byte stands
that cannot continue it; the strict decoder reports it, the lenient one puts one replacement
character in its place. Surrogates have no encoding, except that a path may hold the low ones that
stand for single bytes.
-/

set_option autoImplicit false

namespace Outline

abbrev Bytes := List UInt8

namespace Utf8

inductive Flaw
  | start | continuation | ended
  deriving DecidableEq, Repr

/-- The outcome of reading one sequence: a value, or a number of bytes that form none. -/
inductive Scan
  | scalar (value : Nat) (rest : Bytes)
  | malformed (length : Nat) (flaw : Flaw) (rest : Bytes)

def Scan.rest : Scan → Bytes
  | .scalar _ rest => rest
  | .malformed _ _ rest => rest

/-- Reads the continuation bytes of a sequence; the next one must lie between `low` and `high`. -/
def scanTail (value low high : Nat) : Nat → Nat → Bytes → Scan
  | 0, _, bytes => .scalar value bytes
  | _ + 1, used, [] => .malformed used .ended []
  | missing + 1, used, byte :: bytes =>
    if low ≤ byte.toNat ∧ byte.toNat ≤ high then
      scanTail (value * 64 + (byte.toNat - 0x80)) 0x80 0xBF missing (used + 1) bytes
    else .malformed used .continuation (byte :: bytes)

def scan (lead : UInt8) (bytes : Bytes) : Scan :=
  let b := lead.toNat
  if b < 0x80 then .scalar b bytes
  else if b < 0xC2 then .malformed 1 .start bytes
  else if b < 0xE0 then scanTail (b - 0xC0) 0x80 0xBF 1 1 bytes
  else if b = 0xE0 then scanTail 0 0xA0 0xBF 2 1 bytes
  else if b = 0xED then scanTail 0xD 0x80 0x9F 2 1 bytes
  else if b < 0xF0 then scanTail (b - 0xE0) 0x80 0xBF 2 1 bytes
  else if b = 0xF0 then scanTail 0 0x90 0xBF 3 1 bytes
  else if b < 0xF4 then scanTail (b - 0xF0) 0x80 0xBF 3 1 bytes
  else if b = 0xF4 then scanTail 4 0x80 0x8F 3 1 bytes
  else .malformed 1 .start bytes

private theorem scanTail_rest_length_le (value low high missing used : Nat) (bytes : Bytes) :
    (scanTail value low high missing used bytes).rest.length ≤ bytes.length := by
  fun_induction scanTail value low high missing used bytes <;> simp_all [Scan.rest]
  omega

theorem scan_rest_length_le (lead : UInt8) (bytes : Bytes) :
    (scan lead bytes).rest.length ≤ bytes.length := by
  simp only [scan]
  repeat' split
  all_goals first
    | exact scanTail_rest_length_le ..
    | exact Nat.le_refl _

/-- The code point of a value; the replacement character if there is none. -/
def codePoint (value : Nat) : CodePoint :=
  if h : value < 0x110000 then ⟨value, h⟩ else 0xFFFD

/-- Decodes bytes, one replacement character for each sequence that breaks off. -/
def decodeLenient : Bytes → Text
  | [] => []
  | lead :: bytes =>
    have := scan_rest_length_le lead bytes
    match scan lead bytes, this with
    | .scalar value rest, shorter =>
      have : rest.length < (lead :: bytes).length := Nat.lt_succ_of_le shorter
      codePoint value :: decodeLenient rest
    | .malformed _ _ rest, shorter =>
      have : rest.length < (lead :: bytes).length := Nat.lt_succ_of_le shorter
      (0xFFFD : CodePoint) :: decodeLenient rest
termination_by bytes => bytes.length
decreasing_by all_goals assumption

structure DecodeError where
  /-- Offset of the first byte that is not part of a text, counted from the block it is in. -/
  start : Nat
  byte : UInt8
  length : Nat
  flaw : Flaw
  block : Nat
  deriving DecidableEq, Repr

/-- Where offsets count from after a sequence, where bytes come in blocks of a size: at a sequence
that reaches into the next block they count from its first byte, since the block takes over what was
left of the one before. -/
def baseAfter (size base start stop : Nat) : Nat :=
  let edge := (start / size + 1) * size
  if stop < edge then base else if stop = edge then edge else start

/-- Where offsets count from at a sequence that breaks off: from its own first byte, if the block it
begins in does not show that it breaks off. -/
def baseAt (size base start length : Nat) : Flaw → Nat
  | .start => base
  | .continuation => if start + length < (start / size + 1) * size then base else start
  | .ended => start

/-- The offset of the block that shows that a sequence breaks off; the end of the bytes is a block
of its own. -/
def blockOf (size start length : Nat) : Flaw → Nat
  | .start => start / size * size
  | .continuation => (start + length) / size * size
  | .ended => start + length

def width (value : Nat) : Nat :=
  if value < 0x80 then 1 else if value < 0x800 then 2 else if value < 0x10000 then 3 else 4

/-- Decodes bytes that come in blocks of a size from an offset on, or says where they stop being a
text; offsets count from `base` on. -/
def decodeFrom (size base offset : Nat) : Bytes → Except DecodeError Text
  | [] => .ok []
  | lead :: bytes =>
    have := scan_rest_length_le lead bytes
    match scan lead bytes, this with
    | .scalar value rest, shorter =>
      have : rest.length < (lead :: bytes).length := Nat.lt_succ_of_le shorter
      let stop := offset + width value
      (codePoint value :: ·) <$> decodeFrom size (baseAfter size base offset stop) stop rest
    | .malformed length flaw _, _ =>
      .error ⟨offset - baseAt size base offset length flaw, lead, length, flaw,
        blockOf size offset length flaw⟩
termination_by bytes => bytes.length
decreasing_by assumption

/-- The size of the blocks in which a file is decoded that is read piece by piece. -/
def blockSize : Nat := 8192

/-- The text of the sequences that end before an offset; the first one begins at `offset`. -/
def decodeUntil (limit offset : Nat) : Bytes → Text
  | [] => []
  | lead :: bytes =>
    have := scan_rest_length_le lead bytes
    match scan lead bytes, this with
    | .scalar value rest, shorter =>
      have : rest.length < (lead :: bytes).length := Nat.lt_succ_of_le shorter
      let stop := offset + width value
      if limit < stop then [] else codePoint value :: decodeUntil limit stop rest
    | .malformed _ _ _, _ => []
termination_by bytes => bytes.length
decreasing_by assumption

/-- Decodes bytes that come in blocks; where they are no text, those before the block that shows it,
and where in its block the text stops. -/
def decodeBlocks (bytes : Bytes) : Text × Option DecodeError :=
  match decodeFrom blockSize 0 0 bytes with
  | .ok text => (text, none)
  | .error e => (decodeUntil e.block 0 bytes, some e)

def decode (bytes : Bytes) : Except DecodeError Text :=
  match decodeFrom (bytes.length + 1) 0 0 bytes with
  | .ok text => .ok text
  | .error e =>
    .error (if e.flaw = .ended then { e with start := bytes.length - e.length } else e)

def Flaw.message : Flaw → String
  | .start => "invalid start byte"
  | .continuation => "invalid continuation byte"
  | .ended => "unexpected end of data"

def DecodeError.message (e : DecodeError) : Text :=
  let place : Text :=
    if e.length = 1 then
      Text.join ["byte 0x", Text.hex 2 e.byte.toNat, " in position ", Text.ofNat e.start]
    else
      Text.join
        ["bytes in position ", Text.ofNat e.start, "-", Text.ofNat (e.start + e.length - 1)]
  Text.join ["'utf-8' codec can't decode ", place, ": ", e.flaw.message]

def encodeOne (c : CodePoint) : Bytes :=
  let n := c.val
  let tail (k : Nat) : UInt8 := UInt8.ofNat (0x80 + k % 64)
  if n < 0x80 then [UInt8.ofNat n]
  else if n < 0x800 then [UInt8.ofNat (0xC0 + n / 64), tail n]
  else if n < 0x10000 then [UInt8.ofNat (0xE0 + n / 4096), tail (n / 64), tail n]
  else [UInt8.ofNat (0xF0 + n / 262144), tail (n / 4096), tail (n / 64), tail n]

/-- The bytes of a text, surrogates written as if they were characters. -/
def encodeLoose (t : Text) : Bytes := t.flatMap encodeOne

structure EncodeError where
  start : Nat
  first : CodePoint
  length : Nat
  deriving DecidableEq, Repr

/-- The bytes of a text without surrogates; otherwise its first run of them. -/
def encode (t : Text) : Except EncodeError Bytes :=
  match t.dropWhile (!·.isSurrogate) with
  | [] => .ok (encodeLoose t)
  | first :: rest =>
    .error ⟨(t.takeWhile (!·.isSurrogate)).length, first,
      1 + (rest.takeWhile (·.isSurrogate)).length⟩

def isEscapedByte (c : CodePoint) : Bool := decide (0xDC80 ≤ c.val) && decide (c.val ≤ 0xDCFF)

/-- The number of bytes of a path; otherwise its first run of surrogates that stand for no byte. -/
def pathSize (path : Text) : Except EncodeError Nat :=
  let isFault (c : CodePoint) : Bool := c.isSurrogate && !isEscapedByte c
  match path.dropWhile (!isFault ·) with
  | [] => .ok (path.foldl (fun size c => size + if isEscapedByte c then 1 else width c.val) 0)
  | first :: rest =>
    .error ⟨(path.takeWhile (!isFault ·)).length, first,
      1 + (rest.takeWhile (·.isSurrogate)).length⟩

def EncodeError.message (e : EncodeError) : Text :=
  let place : Text :=
    if e.length = 1 then
      Text.join ["character '\\u", Text.hex 4 e.first.val, "' in position ", Text.ofNat e.start]
    else
      Text.join
        ["characters in position ", Text.ofNat e.start, "-", Text.ofNat (e.start + e.length - 1)]
  Text.join ["'utf-8' codec can't encode ", place, ": surrogates not allowed"]

end Utf8

end Outline
