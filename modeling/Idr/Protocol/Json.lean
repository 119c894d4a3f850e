/-
Idr/Protocol/Json.lean

JSON values and the canonical encoding of the wire profile.

A `Value` is `serde_json::Value`: an object is the list of its fields in
the map's own order, with distinct keys.  `writeCanonicalValue` is the
encoder of the source, byte for byte: object keys are sorted by their
UTF-16 code units, the fields are then written in that order, and the
first field that cannot be written is the error of the object.  The
encoder recurses on the value and not on the sorted list, so the fields
are encoded first (`writeFields`) and sorted with their results; the
errors are read off in sorted order afterwards (`sequenceFields`).

`canonicalDigestV1` hashes the encoding of the pair of a domain string and
the value.  SHA-256 and Ed25519 are third-party code and enter as the
class `Crypto`; that a digest has 32 bytes is the only fact about them
that the model itself uses.
-/
import Idr.Protocol.Reference
import Mathlib.Data.List.Sort

namespace Idr

/-! ### Values -/

/-- `serde_json::Number`. -/
inductive Number
  | posInt (n : Nat)
  | negInt (z : Int)
  | float (bits : BitVec 64)
  deriving DecidableEq

namespace Number

/-- `Number::as_i64`. -/
def asI64 : Number → Option Int
  | posInt n => if n ≤ 2 ^ 63 - 1 then some n else none
  | negInt z => some z
  | float _ => none

/-- `Number::as_u64`. -/
def asU64 : Number → Option Nat
  | posInt n => some n
  | negInt _ => none
  | float _ => none

end Number

/-- `serde_json::Value`. -/
inductive Value
  | null
  | bool (b : Bool)
  | number (n : Number)
  | string (s : Text)
  | array (values : List Value)
  | object (fields : List (Text × Value))

namespace Value

mutual

/-- Equality of values is decidable: both lists of children are compared in step. -/
def decEq : (a b : Value) → Decidable (a = b)
  | null, null => isTrue rfl
  | bool a, bool b => decidable_of_iff (a = b) (by simp)
  | number a, number b => decidable_of_iff (a = b) (by simp)
  | string a, string b => decidable_of_iff (a = b) (by simp)
  | array as, array bs =>
    match decEqValues as bs with
    | isTrue h => isTrue (by rw [h])
    | isFalse h => isFalse (by simpa using h)
  | object as, object bs =>
    match decEqFields as bs with
    | isTrue h => isTrue (by rw [h])
    | isFalse h => isFalse (by simpa using h)
  | null, bool _ | null, number _ | null, string _ | null, array _ | null, object _
  | bool _, null | bool _, number _ | bool _, string _ | bool _, array _ | bool _, object _
  | number _, null | number _, bool _ | number _, string _ | number _, array _
  | number _, object _ | string _, null | string _, bool _ | string _, number _
  | string _, array _ | string _, object _ | array _, null | array _, bool _
  | array _, number _ | array _, string _ | array _, object _ | object _, null
  | object _, bool _ | object _, number _ | object _, string _ | object _, array _ =>
    isFalse (by simp)

def decEqValues : (as bs : List Value) → Decidable (as = bs)
  | [], [] => isTrue rfl
  | a :: as, b :: bs =>
    match decEq a b, decEqValues as bs with
    | isTrue h, isTrue h' => isTrue (by rw [h, h'])
    | isFalse h, _ => isFalse (by simp [h])
    | _, isFalse h => isFalse (by simp [h])
  | [], _ :: _ | _ :: _, [] => isFalse (by simp)

def decEqFields : (as bs : List (Text × Value)) → Decidable (as = bs)
  | [], [] => isTrue rfl
  | (k, a) :: as, (l, b) :: bs =>
    match (inferInstance : Decidable (k = l)), decEq a b, decEqFields as bs with
    | isTrue hk, isTrue h, isTrue h' => isTrue (by rw [hk, h, h'])
    | isFalse hk, _, _ => isFalse (by simp [hk])
    | _, isFalse h, _ => isFalse (by simp [h])
    | _, _, isFalse h => isFalse (by simp [h])
  | [], _ :: _ | _ :: _, [] => isFalse (by simp)

end

instance : DecidableEq Value := decEq

/-- `Value::get` with a string index. -/
def get (v : Value) (key : Text) : Option Value :=
  match v with
  | object fields => fields.lookup key
  | _ => none

/-- `Value::as_str`. -/
def asStr : Value → Option Text
  | string s => some s
  | _ => none

/-- `Value::as_bool`. -/
def asBool : Value → Option Bool
  | bool b => some b
  | _ => none

/-- `Value::as_u64`. -/
def asU64 : Value → Option Nat
  | number n => n.asU64
  | _ => none

/-- `Value::as_array`. -/
def asArray : Value → Option (List Value)
  | array values => some values
  | _ => none

/-- `Value::as_object`. -/
def asObject : Value → Option (List (Text × Value))
  | object fields => some fields
  | _ => none

end Value

/-- `Map::insert`: replace the field of that key, or put it at its place in the key order. -/
def insertField (fields : List (Text × Value)) (key : Text) (value : Value) :
    List (Text × Value) :=
  match fields with
  | [] => [(key, value)]
  | (k, v) :: rest =>
    match compareText key k with
    | .lt => (key, value) :: (k, v) :: rest
    | .eq => (key, value) :: rest
    | .gt => (k, v) :: insertField rest key value

/-! ### Protocol errors -/

/-- `ProductionProtocolErrorV1`. -/
inductive ProductionProtocolErrorV1
  | unsupportedWireVersion
  | unsupportedCriticalFeature
  | invalidCandidate
  | invalidProof
  | invalidKey
  | invalidTrustRoot
  | proofVerificationFailed
  | canonicalEncoding
  | nonIntegralNumber
  | unsafeInteger
  deriving DecidableEq

/-! ### Canonical encoding -/

/-- `IDR_MAX_SAFE_WIRE_INTEGER_V1`: the largest integer all wire languages represent exactly. -/
def idrMaxSafeWireIntegerV1 : Nat := 9007199254740991

/-- `validate_canonical_number`. -/
def validateCanonicalNumber (number : Number) : Except ProductionProtocolErrorV1 Unit :=
  match number.asI64 with
  | some value =>
    rejectIf (¬ (-(idrMaxSafeWireIntegerV1 : Int) ≤ value ∧ value ≤ idrMaxSafeWireIntegerV1))
      .unsafeInteger
  | none =>
    match number.asU64 with
    | some value => rejectIf (value > idrMaxSafeWireIntegerV1) .unsafeInteger
    | none => .error .nonIntegralNumber

/-! The encoder appends to an output buffer.  Here each writer puts its bytes in front of those that
follow: `write x rest` is the encoding of `x` followed by `rest`. -/

/-- The decimal digits of a natural number. -/
def decimalBytes (n : Nat) : List UInt8 :=
  (Nat.toDigits 10 n).map fun c => UInt8.ofNat c.toNat

/-- `Number::to_string`.  A float is refused before it is rendered, so no rendering is given. -/
def numberBytes : Number → List UInt8
  | .posInt n => decimalBytes n
  | .negInt z => 45 :: decimalBytes z.natAbs
  | .float _ => []

/-- A byte that `serde_json` writes as it is. -/
def plainByte (n : Nat) : Bool := Nat.ble 32 n && !Nat.beq n 34 && !Nat.beq n 92

/-- The escape of one byte of a string in `serde_json::to_string`. -/
def escapeByte (b : UInt8) : List UInt8 :=
  match b.toNat with
  | 34 => [92, 34]
  | 92 => [92, 92]
  | 8 => [92, 98]
  | 12 => [92, 102]
  | 10 => [92, 110]
  | 13 => [92, 114]
  | 9 => [92, 116]
  | n => [92, 117, 48, 48, hexDigit (n / 16), hexDigit (n % 16)]

/-- The bytes between the quotes of `serde_json::to_string`. -/
def writeEscaped : List UInt8 → List UInt8 → List UInt8
  | [], rest => rest
  | b :: bs, rest =>
    bif plainByte b.toNat then b :: writeEscaped bs rest
    else escapeByte b ++ writeEscaped bs rest

/-- `serde_json::to_string` of a string. -/
def writeString (s : Text) (rest : List UInt8) : List UInt8 :=
  34 :: writeEscaped s.bytes (34 :: rest)

/-- `str::encode_utf16`. -/
def utf16Units (s : Text) : List Nat :=
  (scalarValues s).flatMap fun c =>
    if c < 0x10000 then [c]
    else [0xD800 + (c - 0x10000) / 0x400, 0xDC00 + (c - 0x10000) % 0x400]

/-- The key order of the canonical encoding. -/
def utf16Le (a b : Text) : Bool := compareNats (utf16Units a) (utf16Units b) != .gt

/-- What a part of a value contributes to the output. -/
abbrev Writer := List UInt8 → List UInt8

/-- Write already encoded elements separated by commas. -/
def joinComma : List Writer → Writer
  | [] => id
  | [x] => x
  | x :: xs => fun rest => x (44 :: joinComma xs rest)

/-- Read the results of the fields off in order: the first error is the error of the object. -/
def sequenceFields :
    List (Text × Except ProductionProtocolErrorV1 Writer) →
      Except ProductionProtocolErrorV1 (List Writer)
  | [] => .ok []
  | (key, encoded) :: rest => do
    let value ← encoded
    let values ← sequenceFields rest
    .ok ((fun rest => writeString key (58 :: value rest)) :: values)

/-- Fields in the order in which the encoder writes them. -/
def sortFields {α : Type} (fields : List (Text × α)) : List (Text × α) :=
  fields.insertionSort fun a b => utf16Le a.1 b.1

mutual

/-- `write_canonical_value`. -/
def writeCanonicalValue : Value → Except ProductionProtocolErrorV1 Writer
  | .null => .ok ([110, 117, 108, 108] ++ ·)
  | .bool true => .ok ([116, 114, 117, 101] ++ ·)
  | .bool false => .ok ([102, 97, 108, 115, 101] ++ ·)
  | .number n => do
    validateCanonicalNumber n
    .ok (numberBytes n ++ ·)
  | .string s => .ok (writeString s)
  | .array values => do
    let parts ← writeValues values
    .ok fun rest => 91 :: joinComma parts (93 :: rest)
  | .object fields => do
    let parts ← sequenceFields (sortFields (writeFields fields))
    .ok fun rest => 123 :: joinComma parts (125 :: rest)

def writeValues : List Value → Except ProductionProtocolErrorV1 (List Writer)
  | [] => .ok []
  | v :: vs => do
    let part ← writeCanonicalValue v
    let parts ← writeValues vs
    .ok (part :: parts)

def writeFields : List (Text × Value) → List (Text × Except ProductionProtocolErrorV1 Writer)
  | [] => []
  | (key, v) :: fields => (key, writeCanonicalValue v) :: writeFields fields

end

/-! ### Limits -/

/-- The loop of `validate_json_limits`; the first argument is the number of nodes that may still
be visited, the head of the stack is its top. -/
def validateJsonLimitsLoop : Nat → List (Value × Nat) → Except ProductionProtocolErrorV1 Unit
  | _, [] => .ok ()
  | 0, _ :: _ => .error .invalidCandidate
  | n + 1, (value, depth) :: stack =>
    if depth > 32 then .error .invalidCandidate
    else match value with
      | .array values =>
        validateJsonLimitsLoop n ((values.map fun child => (child, depth + 1)).reverse ++ stack)
      | .object fields =>
        validateJsonLimitsLoop n ((fields.map fun f => (f.2, depth + 1)).reverse ++ stack)
      | .number number => do
        validateCanonicalNumber number
        validateJsonLimitsLoop n stack
      | _ => validateJsonLimitsLoop n stack

/-- `validate_json_limits`: at most 10000 nodes, at most 32 levels, canonical numbers only. -/
def validateJsonLimits (value : Value) : Except ProductionProtocolErrorV1 Unit :=
  validateJsonLimitsLoop 10000 [(value, 1)]

/-! ### Serialization -/

/-- `serde::Serialize` into a JSON value. -/
class Serialize (α : Type) where
  toValue : α → Value

export Serialize (toValue)

instance : Serialize Value := ⟨id⟩
instance : Serialize Nat := ⟨fun n => .number (.posInt n)⟩
instance : Serialize Bool := ⟨.bool⟩
instance : Serialize Text := ⟨.string⟩
instance : Serialize Uuid := ⟨fun u => .string u.toString⟩
instance : Serialize ReferenceV1 := ⟨fun r => .string r.asStr⟩
instance : Serialize UInt8 := ⟨fun b => .number (.posInt b.toNat)⟩

instance {α : Type} [Serialize α] : Serialize (List α) := ⟨fun xs => .array (xs.map toValue)⟩

instance {α : Type} [Serialize α] : Serialize (Option α) where
  toValue
    | some a => toValue a
    | none => .null

instance {α β : Type} [Serialize α] [Serialize β] : Serialize (α × β) :=
  ⟨fun p => .array [toValue p.1, toValue p.2]⟩

/-- `canonical_json_bytes_v1`. -/
def canonicalJsonBytesV1 {α : Type} [Serialize α] (value : α) :
    Except ProductionProtocolErrorV1 (List UInt8) := do
  let write ← writeCanonicalValue (toValue value)
  .ok (write [])

/-! ### Digests -/

/-- The cryptographic primitives the repository takes from its dependencies. -/
class Crypto where
  /-- SHA-256: 32 bytes. -/
  sha256 : List UInt8 → Vector UInt8 32
  /-- Whether 32 bytes are an Ed25519 verifying key. -/
  isVerifyingKey : List UInt8 → Bool
  /-- Ed25519 verification of a message under a key. -/
  verify : List UInt8 → List UInt8 → List UInt8 → Bool

namespace Sample

/-- A polynomial checksum of 256 bits. -/
def checksum (bytes : List UInt8) : Nat :=
  bytes.foldl (fun sum byte => (sum * 257 + byte.toNat + 1) % 2 ^ 256) 7

/-- The 32 bytes of a number, most significant first. -/
def digestBytes (sum : Nat) : Vector UInt8 32 :=
  ⟨⟨(List.range 32).map fun i => UInt8.ofNat (sum / 256 ^ (31 - i))⟩, by simp⟩

/-- The samples have a checksum in place of SHA-256, and verify every signature. -/
@[reducible]
def crypto : Crypto where
  sha256 bytes :=
    -- the match makes the kernel compute the sum once
    match checksum bytes + 1 with
    | 0 => digestBytes 0
    | sum + 1 => digestBytes sum
  isVerifyingKey _ := true
  verify _ _ _ := true

end Sample

variable [Crypto]

/-- `format!("{:x}", Sha256::digest(bytes))`. -/
def sha256Hex (bytes : List UInt8) : Text :=
  encodeHex (Crypto.sha256 bytes).toList

/-- A digest is well formed. -/
theorem validDigest_sha256Hex (bytes : List UInt8) : validDigest (sha256Hex bytes) = true := by
  have hall : ∀ n < 16, isLowerHexByte (hexDigit n) = true := by decide
  simp only [validDigest, Bool.and_eq_true, decide_eq_true_eq]
  constructor
  · simp [sha256Hex, encodeHex, byteLen, List.length_flatMap]
  · rw [List.all_eq_true]
    intro digit hdigit
    obtain ⟨byte, -, hdigit⟩ := List.mem_flatMap.mp hdigit
    have hlt := byte.toNat_lt
    rcases List.mem_cons.mp hdigit with rfl | hdigit
    · exact hall _ (by omega)
    · rw [List.mem_singleton.mp hdigit]
      exact hall _ (by omega)

/-- `canonical_digest_v1`. -/
def canonicalDigestV1 {α : Type} [Serialize α] (domain : Text) (value : α) :
    Except ProductionProtocolErrorV1 Text := do
  let bytes ← canonicalJsonBytesV1 (domain, value)
  .ok (sha256Hex bytes)

end Idr
