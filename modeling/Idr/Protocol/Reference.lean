/-
Idr/Protocol/Reference.lean

Text, digests, identifiers and references of the wire protocol.

Rust strings are UTF-8: their length is a byte count, digests are checked
byte by byte, and whitespace and control characters are properties of the
decoded scalar values.  A `Text` is therefore the list of the bytes; a
string literal stands for its UTF-8 bytes where a text is expected.

A `ReferenceV1` carries its own validity: the only way to build one is
`ReferenceV1.new`, as in the source, and no later definition re-checks it.
-/
import Idr.Lib.Except
import Mathlib.Algebra.Group.Nat.Defs

namespace Idr

/-! ### Text -/

/-- A `String` of the source: its bytes. -/
structure Text where
  bytes : List UInt8
  deriving DecidableEq

/-- The text of a literal. -/
def Text.ofString (s : String) : Text := ⟨s.toByteArray.data.toList⟩

instance : Coe String Text := ⟨Text.ofString⟩

instance : Append Text := ⟨fun s t => ⟨s.bytes ++ t.bytes⟩⟩

/-- `str::len`: the number of bytes. -/
def byteLen (s : Text) : Nat := s.bytes.length

/-- `str::starts_with`. -/
def Text.startsWith (s start : Text) : Bool := start.bytes.isPrefixOf s.bytes

/-- Decode UTF-8: `acc` holds the bits of a scalar value of which `pending` bytes are missing. -/
def decodeUtf8 : List UInt8 → Nat → Nat → List Nat
  | [], _, _ => []
  | b :: bs, acc, 0 =>
    let n := b.toNat
    if n < 0x80 then n :: decodeUtf8 bs acc 0
    else if n < 0xE0 then decodeUtf8 bs (n - 0xC0) 1
    else if n < 0xF0 then decodeUtf8 bs (n - 0xE0) 2
    else decodeUtf8 bs (n - 0xF0) 3
  | b :: bs, acc, k + 1 =>
    let acc' := acc * 64 + (b.toNat - 0x80)
    match k with
    | 0 => acc' :: decodeUtf8 bs 0 0
    | k' + 1 => decodeUtf8 bs acc' (k' + 1)

/-- `str::chars`, as scalar values. -/
def scalarValues (s : Text) : List Nat := decodeUtf8 s.bytes 0 0

/-- `char::is_control`: the general category Cc. -/
def isControl (c : Nat) : Bool :=
  c ≤ 0x1F || (0x7F ≤ c && c ≤ 0x9F)

/-- `char::is_whitespace`: the Unicode property White_Space. -/
def isWhitespace (c : Nat) : Bool :=
  (0x09 ≤ c && c ≤ 0x0D) || c = 0x20 || c = 0x85 || c = 0xA0 || c = 0x1680 ||
    (0x2000 ≤ c && c ≤ 0x200A) || c = 0x2028 || c = 0x2029 || c = 0x202F || c = 0x205F ||
    c = 0x3000

/-- `str::trim`, on scalar values. -/
def trim (cs : List Nat) : List Nat :=
  ((cs.dropWhile isWhitespace).reverse.dropWhile isWhitespace).reverse

/-- The lexicographic order of lists of numbers. -/
def compareNats : List Nat → List Nat → Ordering
  | [], [] => .eq
  | [], _ :: _ => .lt
  | _ :: _, [] => .gt
  | m :: ms, n :: ns =>
    if Nat.beq m n then compareNats ms ns else if Nat.ble m n then .lt else .gt

/-- The order of `String` in the source: by bytes. -/
def compareText (a b : Text) : Ordering :=
  compareNats (a.bytes.map UInt8.toNat) (b.bytes.map UInt8.toNat)

theorem compareNats_eq {ms : List Nat} : ∀ {ns : List Nat}, compareNats ms ns = .eq → ms = ns := by
  induction ms with
  | nil =>
    intro ns h
    cases ns with
    | nil => rfl
    | cons n ns => cases h
  | cons m ms ih =>
    intro ns h
    cases ns with
    | nil => cases h
    | cons n ns =>
      unfold compareNats at h
      split at h
      case isTrue hmn => rw [Nat.eq_of_beq_eq_true hmn, ih h]
      case isFalse => split at h <;> cases h

theorem compareText_eq {a b : Text} (h : compareText a b = .eq) : a = b := by
  obtain ⟨as⟩ := a
  obtain ⟨bs⟩ := b
  have hbytes : as.map UInt8.toNat = bs.map UInt8.toNat := compareNats_eq h
  rw [(List.map_inj_right fun _ _ => UInt8.toNat_inj.mp).mp hbytes]

/-! ### Digests -/

def isLowerHexByte (b : UInt8) : Bool :=
  (48 ≤ b.toNat && b.toNat ≤ 57) || (97 ≤ b.toNat && b.toNat ≤ 102)

/-- `valid_digest`: 64 lower-case hexadecimal digits. -/
def validDigest (value : Text) : Bool :=
  byteLen value = 64 && value.bytes.all isLowerHexByte

def hexDigit (n : Nat) : UInt8 :=
  if n < 10 then UInt8.ofNat (48 + n) else UInt8.ofNat (87 + n)

/-- `format!("{:02x}")` over bytes. -/
def encodeHex (bytes : List UInt8) : Text :=
  ⟨bytes.flatMap fun b => [hexDigit (b.toNat / 16), hexDigit (b.toNat % 16)]⟩

/-- `decode_nibble`. -/
def decodeNibble (b : UInt8) : Option Nat :=
  let n := b.toNat
  if 48 ≤ n ∧ n ≤ 57 then some (n - 48)
  else if 97 ≤ n ∧ n ≤ 102 then some (n - 87)
  else none

/-- The pairs of hexadecimal digits of a byte string of even length. -/
def decodeHexPairs : List UInt8 → Option (List UInt8)
  | [] => some []
  | [_] => none
  | h :: l :: rest =>
    match decodeNibble h, decodeNibble l, decodeHexPairs rest with
    | some high, some low, some bytes => some (UInt8.ofNat (high * 16 + low) :: bytes)
    | _, _, _ => none

/-- `decode_hex::<N>`. -/
def decodeHex (n : Nat) (value : Text) : Option (List UInt8) :=
  if byteLen value = n * 2 then decodeHexPairs value.bytes else none

/-! ### Identifiers -/

/-- A 128-bit identifier. -/
abbrev Uuid := BitVec 128

namespace Uuid

def isNil (u : Uuid) : Bool := u = 0

/-- The hexadecimal digit at position `i` of 32, most significant first. -/
def nibble (u : Uuid) (i : Nat) : Nat := u.toNat / 16 ^ (31 - i) % 16

/-- `Uuid::to_string`: the hyphenated lower-case form. -/
def toString (u : Uuid) : Text :=
  let digits (lo len : Nat) := (List.range' lo len).map fun i => hexDigit (nibble u i)
  ⟨digits 0 8 ++ 45 :: digits 8 4 ++ 45 :: digits 12 4 ++ 45 :: digits 16 4 ++
    45 :: digits 20 12⟩

/-- `get_version_num`: the high nibble of byte 6. -/
def versionNum (u : Uuid) : Nat := nibble u 12

/-- `get_variant() == RFC4122`: the two high bits of byte 8 are `10`. -/
def isRfc4122 (u : Uuid) : Bool := nibble u 16 / 4 = 2

/-- A hexadecimal digit of either case. -/
def parseNibble (b : UInt8) : Option Nat :=
  let n := b.toNat
  if 65 ≤ n ∧ n ≤ 70 then some (n - 55) else decodeNibble b

/-- Read a number from hexadecimal digits. -/
def parseDigits : List UInt8 → Nat → Option Nat
  | [], acc => some acc
  | b :: bs, acc =>
    match parseNibble b with
    | some d => parseDigits bs (acc * 16 + d)
    | none => none

/-- The 36-byte form with hyphens after 8, 12, 16 and 20 digits. -/
def parseHyphenated (bs : List UInt8) : Option Uuid :=
  if bs.length = 36 ∧ bs[8]? = some 45 ∧ bs[13]? = some 45 ∧ bs[18]? = some 45 ∧ bs[23]? = some 45
  then
    (parseDigits (bs.take 8 ++ (bs.drop 9).take 4 ++ (bs.drop 14).take 4 ++ (bs.drop 19).take 4 ++
      bs.drop 24) 0).map (BitVec.ofNat 128)
  else none

/-- `str::parse::<Uuid>`: the simple, hyphenated, braced and URN forms. -/
def parse (s : Text) : Option Uuid :=
  let bs := s.bytes
  match bs.length with
  | 32 => (parseDigits bs 0).map (BitVec.ofNat 128)
  | 36 => parseHyphenated bs
  | 38 => if bs[0]? = some 123 ∧ bs[37]? = some 125 then parseHyphenated ((bs.drop 1).take 36)
          else none
  | 45 => if bs.take 9 = Text.bytes "urn:uuid:" then parseHyphenated (bs.drop 9) else none
  | _ => none

end Uuid

/-! ### References -/

/-- The check of `ReferenceV1::new`: not blank, not padded, at most 512 bytes and without
control characters. -/
def isReference (value : Text) : Bool :=
  let chars := scalarValues value
  !(trim chars).isEmpty && trim chars = chars && byteLen value ≤ 512 && !chars.any isControl

/-- **A valid reference.** The validity is a field, so an invalid one cannot be built. -/
structure ReferenceV1 where
  asStr : Text
  valid : isReference asStr = true
  deriving DecidableEq

inductive ReferenceValidationErrorV1
  | mk
  deriving DecidableEq

/-- `ReferenceV1::new`. -/
def ReferenceV1.new (value : Text) : Except ReferenceValidationErrorV1 ReferenceV1 :=
  if h : isReference value = true then .ok ⟨value, h⟩ else .error .mk

theorem ReferenceV1.new_eq_ok {value : Text} {r : ReferenceV1} :
    ReferenceV1.new value = .ok r ↔ r.asStr = value := by
  constructor
  · intro h
    unfold ReferenceV1.new at h
    split at h
    · simp only [Except.ok.injEq] at h
      rw [← h]
    · cases h
  · rintro rfl
    simp [ReferenceV1.new, r.valid]

end Idr
