/-
Idr/AegisLife/EcmaScript.lean

The verifiers of the integration packs are scripts over untyped JSON.

What they share is here: the values of JSON as a script has them, the
conversions that the operators and the regular expressions apply, and the
helper functions that every pack repeats word for word.

`JSON.parse` makes a double of every number.  One that is a safe integer is a
`posInt` or a `negInt` here, `-0` with `0`, which no check tells apart; any other
is a `float`.  The value of a property is an `Option`, where `none` is
`undefined`.  The packs read the properties of a value after its shape has been
checked, so that none is read of `null`.  Strings and their canonical text are
those of the TypeScript contract (`typescript.text`).

The normal form of a text and the number that a text stands for come from the
language, and enter as the class `EcmaScript`.
-/
import Idr.Protocol.Agreement
import Mathlib.Data.Rat.Defs
import Mathlib.Algebra.Order.Ring.Cast
import Mathlib.Algebra.Order.Ring.Rat

namespace Idr

/-! ### Errors -/

/-- A `GateError` with its code, or an error that the language throws. -/
inductive GateError
  | denied (code : String)
  | typeError
  deriving DecidableEq

/-- `deny`. -/
def deny (code : String) : GateError := .denied code

/-! ### Numbers -/

/-- A number of the language. -/
inductive EcmaNumber
  | nan
  | minusInfinity
  | finite (q : ℚ)
  | plusInfinity
  deriving DecidableEq

/-- `Number::lessThan`; `none` where one of the two is not a number. -/
def EcmaNumber.lessThan : EcmaNumber → EcmaNumber → Option Bool
  | .nan, _ | _, .nan => none
  | .finite a, .finite b => some (a < b)
  | .minusInfinity, .minusInfinity | .plusInfinity, .plusInfinity => some false
  | .minusInfinity, _ | _, .plusInfinity => some true
  | .plusInfinity, _ | _, .minusInfinity => some false

/-- The parts of the language that are tables: the normal form C of a text, and the number that a
text stands for. -/
class EcmaScript where
  normalizeNfc : Text → Text
  stringToNumber : Text → EcmaNumber

/-- The number with the bits of a double. -/
def doubleValue (bits : BitVec 64) : EcmaNumber :=
  let fraction := (bits.extractLsb' 0 52).toNat
  let exponent := (bits.extractLsb' 52 11).toNat
  let negative := bits.getLsbD 63
  if exponent = 2047 then
    if fraction ≠ 0 then .nan else if negative then .minusInfinity else .plusInfinity
  else
    let significand := if exponent = 0 then fraction else 2 ^ 52 + fraction
    let exponent := max exponent 1
    let magnitude : ℚ := (significand * 2 ^ exponent : Nat) / (2 ^ 1075 : Nat)
    .finite (if negative then -magnitude else magnitude)

/-- `Number.isSafeInteger`. -/
def isSafeInteger : Option Value → Bool
  | some (.number (.posInt n)) => n ≤ idrMaxSafeWireIntegerV1
  | some (.number (.negInt z)) => -(idrMaxSafeWireIntegerV1 : Int) ≤ z
  | _ => false

/-- The sum of two safe integers.  From 2⁵³ on only even integers are numbers, and of two that are
equally near the one with the even significand is the sum. -/
def addSafe (a b : Nat) : Nat :=
  let sum := a + b
  if sum ≤ 2 ^ 53 ∨ sum % 2 = 0 then sum else if sum % 4 = 1 then sum - 1 else sum + 1

/-- A safe integer as a value. -/
def numberValue (z : Int) : Value :=
  .number (if 0 ≤ z then .posInt z.toNat else .negInt z)

/-! ### Conversions -/

mutual

/-- `ToString`.  An object of JSON has the text of the built-in method, unless it hides the method
under a property, which cannot be called. -/
def valueText : Value → Except GateError Text
  | .null => .ok "null"
  | .bool true => .ok "true"
  | .bool false => .ok "false"
  | .number n => .ok ⟨numberBytes n⟩
  | .string s => .ok s
  | .array values => do
    let texts ← elementTexts values
    .ok ⟨List.intercalate [44] texts⟩
  | .object fields =>
    if (fields.lookup ("toString" : Text)).isSome then .error .typeError else .ok "[object Object]"

/-- `Array.prototype.join` leaves out `null`. -/
def elementTexts : List Value → Except GateError (List (List UInt8))
  | [] => .ok []
  | .null :: values => do
    let texts ← elementTexts values
    .ok ([] :: texts)
  | value :: values => do
    let text ← valueText value
    let texts ← elementTexts values
    .ok (text.bytes :: texts)

end

/-- `RegExp.prototype.test`. -/
def regexTest (matched : Text → Bool) : Option Value → Except GateError Bool
  | none => .ok (matched "undefined")
  | some value => do
    let text ← valueText value
    .ok (matched text)

/-- `ToPrimitive`: an array or an object becomes its text. -/
def toPrimitive : Value → Except GateError Value
  | .array values => do
    let text ← valueText (.array values)
    .ok (.string text)
  | .object fields => do
    let text ← valueText (.object fields)
    .ok (.string text)
  | value => .ok value

section Host

variable [EcmaScript]

/-- `ToNumber`, of what is primitive. -/
def toNumber : Value → EcmaNumber
  | .null => .finite 0
  | .bool b => .finite (if b then 1 else 0)
  | .number (.posInt n) => .finite n
  | .number (.negInt z) => .finite z
  | .number (.float bits) => doubleValue bits
  | .string s => EcmaScript.stringToNumber s
  | .array _ | .object _ => .nan

/-- `a < b`: two texts are compared as texts, anything else as numbers. -/
def lessThan : Option Value → Option Value → Except GateError (Option Bool)
  | some a, some b => do
    let a ← toPrimitive a
    let b ← toPrimitive b
    match a, b with
    | .string s, .string t => .ok (some (compareNats (utf16Units s) (utf16Units t) = .lt))
    | a, b => .ok ((toNumber a).lessThan (toNumber b))
  | some a, none => do
    let _ ← toPrimitive a
    .ok none
  | none, some b => do
    let _ ← toPrimitive b
    .ok none
  | none, none => .ok none

/-- The operator `<`. -/
def isLess (a b : Option Value) : Except GateError Bool := do
  let result ← lessThan a b
  .ok (result = some true)

/-- The operator `>=`. -/
def isGreaterOrEqual (a b : Option Value) : Except GateError Bool := do
  let result ← lessThan a b
  .ok (result = some false)

end Host

/-- The operator `===`.  Two arrays or two objects of different places are never the same. -/
def strictEqual : Option Value → Option Value → Bool
  | none, none => true
  | some (.array _), _ | some (.object _), _ => false
  | some a, some b => a = b
  | _, _ => false

/-- Whether a condition takes a value as true. -/
def truthy : Option Value → Bool
  | none | some .null | some (.bool false) | some (.number (.posInt 0)) => false
  | some (.string s) => byteLen s ≠ 0
  | _ => true

/-- A property of a value whose shape has been checked. -/
def field (value : Option Value) (key : Text) : Option Value := value.bind (·.get key)

/-- `new Set(list).size === list.length`. -/
def distinctEntries (list : List Value) : Bool :=
  list.Pairwise fun a b => strictEqual (some a) (some b) = false

/-! ### Helper functions of the packs -/

/-- `object`. -/
def isObject : Option Value → Bool
  | some (.object _) => true
  | _ => false

/-- A property that is a certain text. -/
def hasText (value : Option Value) (text : Text) : Bool := value = some (.string text)

/-- A safe integer that is not negative. -/
def natural (value : Option Value) : Option Nat :=
  match value with
  | some (.number (.posInt n)) => if n ≤ idrMaxSafeWireIntegerV1 then some n else none
  | _ => none

/-- A pattern, tested on a value, and the negation of the test. -/
def requirePattern (matched : Text → Bool) (value : Option Value) (code : String) :
    Except GateError Unit := do
  let found ← regexTest matched value
  require (found = true) (deny code)

/-- `exactShape` or `assertExactKeys`: the object has these properties and no others. -/
def exactShape (code : String) (value : Option Value) (allowed required : List Text) :
    Except GateError Unit :=
  match value with
  | some (.object fields) => do
    rejectIf (∃ f ∈ fields, f.1 ∉ allowed) (deny "UNKNOWN_FIELD")
    rejectIf (∃ key ∈ required, key ∉ fields.map Prod.fst) (deny "MISSING_FIELD")
  | _ => .error (deny code)

mutual

/-- `scanForbidden` or `scanProhibitedFields`: a check of every name of a property. -/
def scanNames (check : Text → Except GateError Unit) : Value → Except GateError Unit
  | .array values => scanElements check values
  | .object fields => scanFields check fields
  | _ => .ok ()

def scanElements (check : Text → Except GateError Unit) : List Value → Except GateError Unit
  | [] => .ok ()
  | value :: values => do
    scanNames check value
    scanElements check values

def scanFields (check : Text → Except GateError Unit) :
    List (Text × Value) → Except GateError Unit
  | [] => .ok ()
  | (key, value) :: fields => do
    check key
    scanNames check value
    scanFields check fields

end

section Host

variable [EcmaScript]

mutual

/-- `assertCanonicalValue`. -/
def assertCanonicalValue : Value → Except GateError Unit
  | .null | .bool _ => .ok ()
  | .string s => rejectIf (s ≠ EcmaScript.normalizeNfc s) (deny "NON_NFC_STRING")
  | .number n =>
    rejectIf (isSafeInteger (some (.number n)) = false ∨ n.asU64 = none) (deny "UNSAFE_NUMBER")
  | .array values => assertCanonicalValues values
  | .object fields => assertCanonicalFields fields

def assertCanonicalValues : List Value → Except GateError Unit
  | [] => .ok ()
  | value :: values => do
    assertCanonicalValue value
    assertCanonicalValues values

def assertCanonicalFields : List (Text × Value) → Except GateError Unit
  | [] => .ok ()
  | (key, value) :: fields => do
    rejectIf (key ≠ EcmaScript.normalizeNfc key) (deny "NON_NFC_STRING")
    assertCanonicalValue value
    assertCanonicalFields fields

end

end Host

/-- `canonicalJson`, as code units: every part as `JSON.stringify` writes it, with the keys
sorted. -/
def canonicalText (value : Value) : List Nat := typescript.text value

/-- `same`. -/
def same (left right : Value) : Bool := canonicalText left = canonicalText right

/-- `Object.keys(value).sort()`, for a list of keys. -/
def sortKeys (keys : List Text) : List Text :=
  keys.insertionSort fun a b => utf16Le a b

/-- A list of keys as a value. -/
def keyList (keys : List Text) : Value := .array (keys.map .string)

/-- The copy of a value without one property. -/
def without (value : Value) (key : Text) : Value :=
  match value with
  | .object fields => .object (fields.filter fun f => f.1 ≠ key)
  | value => value

section Hash

variable [Crypto]

/-- `digest`. -/
def domainDigest (domain : Text) (value : Value) (key : Text) : Text :=
  "sha256:" ++ sha256Hex (domain.bytes ++ [0] ++ bufferFrom (canonicalText (without value key)))

end Hash

/-! ### Patterns -/

/-- The pattern `^[…]{low,high}$`, for a class of ASCII characters. -/
def matchesClass (cls : UInt8 → Bool) (low high : Nat) (s : Text) : Bool :=
  low ≤ byteLen s && byteLen s ≤ high && s.bytes.all cls

def isLowerLetter (b : UInt8) : Bool := 97 ≤ b.toNat && b.toNat ≤ 122

def isUpperLetter (b : UInt8) : Bool := 65 ≤ b.toNat && b.toNat ≤ 90

/-- One of the characters of a text. -/
def isOneOf (s : Text) (b : UInt8) : Bool := s.bytes.contains b

/-- The pattern `^sha256:[0-9a-f]{64}$`. -/
def isDigest (s : Text) : Bool :=
  s.startsWith "sha256:" && matchesClass isLowerHexByte 64 64 ⟨s.bytes.drop 7⟩

/-- The pattern `^[0-9a-f]{40}$`. -/
def isGitSha : Text → Bool := matchesClass isLowerHexByte 40 40

/-- The pattern `^[a-z0-9][-a-z0-9._:/]{2,179}$`. -/
def isPackToken (s : Text) : Bool :=
  let head := fun b => isLowerLetter b || isDigitByte b
  s.bytes.head?.any head
    && matchesClass (fun b => head b || isOneOf "-._:/" b) 2 179 ⟨s.bytes.drop 1⟩

/-! ### Every part of a value -/

mutual

/-- A check of every part of a value. -/
def Value.allParts (p : Value → Bool) : Value → Bool
  | .array values => p (.array values) && Value.allValues p values
  | .object fields => p (.object fields) && Value.allFields p fields
  | value => p value

def Value.allValues (p : Value → Bool) : List Value → Bool
  | [] => true
  | value :: values => value.allParts p && Value.allValues p values

def Value.allFields (p : Value → Bool) : List (Text × Value) → Bool
  | [] => true
  | (_, value) :: fields => value.allParts p && Value.allFields p fields

end

theorem Value.allValues_iff {p : Value → Bool} {values : List Value} :
    Value.allValues p values = true ↔ ∀ v ∈ values, v.allParts p = true := by
  induction values with
  | nil => exact ⟨fun _ v hv => (by cases hv), fun _ => rfl⟩
  | cons v values ih => rw [Value.allValues, Bool.and_eq_true, ih, List.forall_mem_cons]

theorem Value.allFields_iff {p : Value → Bool} {fields : List (Text × Value)} :
    Value.allFields p fields = true ↔ ∀ f ∈ fields, f.2.allParts p = true := by
  induction fields with
  | nil => exact ⟨fun _ f hf => (by cases hf), fun _ => rfl⟩
  | cons f fields ih => rw [Value.allFields, Bool.and_eq_true, ih, List.forall_mem_cons]

theorem Value.allParts_iff {p : Value → Bool} (v : Value) :
    v.allParts p = true ↔ v.Every fun u => p u = true := by
  induction v using Value.induction with
  | harray values ih =>
    rw [Value.allParts, Bool.and_eq_true, Value.every_array, Value.allValues_iff]
    exact and_congr_right fun _ => forall₂_congr ih
  | hobject fields ih =>
    rw [Value.allParts, Bool.and_eq_true, Value.every_object, Value.allFields_iff]
    exact and_congr_right fun _ => forall₂_congr ih
  | _ =>
    constructor
    · intro h u hu
      cases hu
      exact h
    · exact fun h => h.self

instance {p : Value → Prop} [DecidablePred p] (v : Value) : Decidable (v.Every p) :=
  decidable_of_iff (v.allParts fun u => p u) (by
    rw [Value.allParts_iff]
    exact forall₂_congr fun u _ => decide_eq_true_iff)

/-! ### Values that are read -/

/-- What holds of every part of a value that `JSON.parse` returns. -/
def ParsedPart : Value → Prop
  | .number (.posInt n) => n ≤ idrMaxSafeWireIntegerV1
  | .number (.negInt z) => -(idrMaxSafeWireIntegerV1 : Int) ≤ z ∧ z < 0
  | .string s => s.isUtf8 = true
  | .object fields =>
    (∀ f ∈ fields, f.1.isUtf8 = true) ∧ (fields.map Prod.fst).Nodup
  | _ => True

instance : DecidablePred ParsedPart := fun v =>
  match v with
  | .number (.posInt n) => inferInstanceAs (Decidable (n ≤ idrMaxSafeWireIntegerV1))
  | .number (.negInt z) =>
    inferInstanceAs (Decidable (-(idrMaxSafeWireIntegerV1 : Int) ≤ z ∧ z < 0))
  | .string s => inferInstanceAs (Decidable (s.isUtf8 = true))
  | .object fields =>
    inferInstanceAs (Decidable ((∀ f ∈ fields, f.1.isUtf8 = true) ∧ (fields.map Prod.fst).Nodup))
  | .null | .bool _ | .array _ | .number (.float _) => inferInstanceAs (Decidable True)

/-- **What `JSON.parse` returns**, of a file whose strings have no lone surrogate: a text is UTF-8
here, and cannot hold one. -/
structure ParsedJson where
  value : Value
  parsed : value.Every ParsedPart

/-- What is strictly equal is equal. -/
theorem strictEqual_eq_true {a b : Option Value} (h : strictEqual a b = true) : a = b := by
  unfold strictEqual at h
  split at h
  · rfl
  · cases h
  · cases h
  · exact congrArg some (of_decide_eq_true h)
  · cases h

/-! ### Integers -/

@[simp] theorem numberValue_natCast (n : Nat) : numberValue n = .number (.posInt n) := by
  rw [numberValue, if_pos (Int.natCast_nonneg n)]
  rfl

/-- From 2⁵³ on a sum is rounded, but never below a safe integer that it has reached. -/
theorem le_addSafe_iff {a b bound : Nat} (hbound : bound ≤ idrMaxSafeWireIntegerV1) :
    bound ≤ addSafe a b ↔ bound ≤ a + b := by
  have hmax : idrMaxSafeWireIntegerV1 = 2 ^ 53 - 1 := by decide
  simp only [addSafe]
  split
  · exact Iff.rfl
  · split <;> omega

section Lemmas

variable [EcmaScript]

theorem toNumber_numberValue (z : Int) : toNumber (numberValue z) = .finite z := by
  rw [numberValue]
  split
  · next h =>
    rw [toNumber, ← Int.cast_natCast, Int.toNat_of_nonneg h]
  · rfl

/-- Integers are compared as such. -/
theorem lessThan_integers (a b : Int) :
    lessThan (some (numberValue a)) (some (numberValue b)) = .ok (some (a < b)) := by
  show Except.ok ((toNumber (numberValue a)).lessThan (toNumber (numberValue b))) = _
  rw [toNumber_numberValue, toNumber_numberValue, EcmaNumber.lessThan]
  simp only [Int.cast_lt]

theorem isLess_integers (a b : Int) :
    isLess (some (numberValue a)) (some (numberValue b)) = .ok (a < b) := by
  rw [isLess, lessThan_integers]
  show Except.ok _ = _
  simp

theorem isGreaterOrEqual_integers (a b : Int) :
    isGreaterOrEqual (some (numberValue a)) (some (numberValue b)) = .ok (b ≤ a) := by
  rw [isGreaterOrEqual, lessThan_integers]
  show Except.ok _ = _
  simp

end Lemmas

/-! ### Canonical values -/

section Lemmas

variable [EcmaScript]

/-- A number that a pack admits: a safe integer that is not negative. -/
def AdmittedNumber (u : Value) : Prop :=
  ∀ n, u = .number n → ∃ k, n = .posInt k ∧ k ≤ idrMaxSafeWireIntegerV1

/-- **What a pack asserts to be canonical** has admitted numbers only. -/
theorem assertCanonicalValue_eq_ok (v : Value) (h : assertCanonicalValue v = .ok ()) :
    v.Every AdmittedNumber := by
  have helements : ∀ {values : List Value}, assertCanonicalValues values = .ok () →
      ∀ v ∈ values, assertCanonicalValue v = .ok () := by
    intro values
    induction values with
    | nil =>
      intro _ v hv
      cases hv
    | cons v values ih =>
      intro h
      simp only [assertCanonicalValues, bind_eq_ok, exists_unit_eq_ok] at h
      exact List.forall_mem_cons.mpr ⟨h.1, ih h.2⟩
  have hfields : ∀ {fields : List (Text × Value)}, assertCanonicalFields fields = .ok () →
      ∀ f ∈ fields, assertCanonicalValue f.2 = .ok () := by
    intro fields
    induction fields with
    | nil =>
      intro _ f hf
      cases hf
    | cons f fields ih =>
      intro h
      simp only [assertCanonicalFields, bind_eq_ok, exists_unit_eq_ok] at h
      exact List.forall_mem_cons.mpr ⟨h.2.1, ih h.2.2⟩
  induction v using Value.induction with
  | harray values ih =>
    rw [Value.every_array]
    exact ⟨fun n hn => (by cases hn), fun v hv => ih v hv (helements h v hv)⟩
  | hobject fields ih =>
    rw [Value.every_object]
    exact ⟨fun n hn => (by cases hn), fun f hf => ih f hf (hfields h f hf)⟩
  | hnumber n =>
    intro u hu
    cases hu
    intro m hm
    cases hm
    rw [assertCanonicalValue, rejectIf_eq_ok, not_or] at h
    cases n with
    | posInt k => exact ⟨k, rfl, by simpa [isSafeInteger] using h.1⟩
    | negInt z => exact absurd rfl h.2
    | float bits => exact absurd rfl h.2
  | _ =>
    intro u hu
    cases hu
    intro n hn
    cases hn

omit [EcmaScript] in
theorem Value.Every.safeNumbers {v : Value} (h : v.Every AdmittedNumber) : v.SafeNumbers := by
  intro u hu n hn
  obtain ⟨k, rfl, hk⟩ := h u hu n hn
  have hmax : idrMaxSafeWireIntegerV1 = 2 ^ 53 - 1 := by decide
  exact ⟨k, rfl, by omega, by omega⟩

omit [EcmaScript] in
/-- A value that is read and has admitted numbers is one that every contract can write. -/
theorem ParsedJson.wellFormed (json : ParsedJson) (h : json.value.Every AdmittedNumber) :
    json.value.WellFormed := by
  intro u hu
  have hparsed := json.parsed u hu
  cases u with
  | number n =>
    obtain ⟨k, rfl, hk⟩ := h _ hu n rfl
    have hmax : idrMaxSafeWireIntegerV1 = 2 ^ 53 - 1 := by decide
    show k < 2 ^ 64
    omega
  | string s => exact hparsed
  | object fields => exact hparsed
  | null | bool | array => trivial

omit [EcmaScript] in
/-- What is written of a value, as bytes. -/
theorem bufferFrom_canonicalText {v : Value} (hv : v.WellFormed) :
    bufferFrom (canonicalText v) = (python.text v).flatMap encodeScalar := by
  rw [canonicalText, text_typescript v hv, bufferFrom_units (text_scalar v hv)]

omit [EcmaScript] in
/-- **The bytes determine the value**, up to the order of fields. -/
theorem bufferFrom_injective {v w : Value} (hv : v.WellFormed) (hw : w.WellFormed)
    (hsafe : v.SafeNumbers) (hsafe' : w.SafeNumbers)
    (h : bufferFrom (canonicalText v) = bufferFrom (canonicalText w)) :
    v.canonical = w.canonical := by
  rw [bufferFrom_canonicalText hv, bufferFrom_canonicalText hw] at h
  obtain ⟨f, hf⟩ := (writes_iff v).mpr hsafe
  obtain ⟨g, hg⟩ := (writes_iff w).mpr hsafe'
  have hnil : Delimited [] := fun b hb => (by cases hb)
  refine (cancelsValue v w f g [] [] hf hg hnil hnil ?_).1
  rw [← written_python v hv f hf, ← written_python w hw g hg, h]

omit [EcmaScript] in
/-- **Two values that are the same** differ in the order of fields only. -/
theorem same_eq {v w : Value} (hv : v.WellFormed) (hw : w.WellFormed) (hsafe : v.SafeNumbers)
    (hsafe' : w.SafeNumbers) (h : same v w = true) : v.canonical = w.canonical :=
  bufferFrom_injective hv hw hsafe hsafe' (congrArg bufferFrom (of_decide_eq_true h))

end Lemmas

/-! ### Integers and texts -/

/-- A field that is an integer. -/
def IsInteger (value : Option Value) (n : Nat) : Prop := value = some (.number (.posInt n))

theorem natural_eq_some {value : Option Value} {n : Nat} :
    natural value = some n ↔ IsInteger value n ∧ n ≤ idrMaxSafeWireIntegerV1 := by
  constructor
  · intro h
    unfold natural at h
    split at h
    · next m =>
      split at h
      · next hm =>
        cases h
        exact ⟨rfl, hm⟩
      · cases h
    · cases h
  · rintro ⟨rfl, hn⟩
    exact if_pos hn

/-- A field that is tested to be an integer and for something else. -/
theorem natural_any {value : Option Value} {p : Nat → Bool}
    (h : (natural value).any p = true) :
    ∃ n, natural value = some n ∧ IsInteger value n ∧ n ≤ idrMaxSafeWireIntegerV1
      ∧ p n = true := by
  cases hn : natural value with
  | none =>
    rw [hn] at h
    cases h
  | some n =>
    rw [hn] at h
    exact ⟨n, rfl, (natural_eq_some.mp hn).1, (natural_eq_some.mp hn).2, h⟩

theorem hasText_iff {value : Option Value} {t : Text} :
    hasText value t = true ↔ value = some (.string t) := decide_eq_true_iff

/-! ### Shapes -/

/-- An object with exactly these properties. -/
def HasKeys (value : Option Value) (keys : List Text) : Prop :=
  ∃ fields, value = some (.object fields) ∧ ∀ key, key ∈ fields.map Prod.fst ↔ key ∈ keys

/-- A property of an object with these properties. -/
theorem HasKeys.field {value : Option Value} {keys : List Text} (h : HasKeys value keys)
    {key : Text} (hkey : key ∈ keys) : ∃ v, field value key = some v := by
  obtain ⟨fields, rfl, hkeys⟩ := h
  obtain ⟨f, hf, rfl⟩ := List.mem_map.mp ((hkeys key).mpr hkey)
  exact Option.isSome_iff_exists.mp (List.lookup_isSome_iff.mpr ⟨f, hf, beq_self_eq_true f.1⟩)

/-- An object without other properties than the required ones. -/
theorem exactShape_eq_ok {code : String} {value : Option Value} {keys : List Text} :
    exactShape code value keys keys = .ok () ↔ HasKeys value keys := by
  unfold exactShape
  split
  · next fields =>
    simp only [bind_eq_ok, rejectIf_eq_ok, exists_const, not_exists, not_and, not_not]
    constructor
    · rintro ⟨hallowed, hrequired⟩
      refine ⟨fields, rfl, fun key => ⟨?_, hrequired key⟩⟩
      intro hkey
      obtain ⟨f, hf, rfl⟩ := List.mem_map.mp hkey
      exact hallowed f hf
    · rintro ⟨_, hfields, hkeys⟩
      cases hfields
      exact ⟨fun f hf => (hkeys f.1).mp (List.mem_map_of_mem hf), fun key => (hkeys key).mpr⟩
  · next hne =>
    constructor
    · intro h
      cases h
    · rintro ⟨fields, rfl, -⟩
      exact absurd rfl (hne fields)

/-- A property is one of the fields. -/
theorem mem_of_field {fields : List (Text × Value)} {key : Text} {v : Value}
    (h : field (some (.object fields)) key = some v) : (key, v) ∈ fields := by
  obtain ⟨before, after, rfl, -⟩ := List.lookup_eq_some_iff.mp h
  exact List.mem_append_right _ (List.mem_cons_self ..)

/-- A property of a value is a part of it. -/
theorem Value.Every.field {p : Value → Prop} {v w : Value} {key : Text} (h : v.Every p)
    (hw : Idr.field (some v) key = some w) : w.Every p := by
  cases v with
  | object fields => exact (Value.every_object.mp h).2 _ (mem_of_field hw)
  | null | bool | number | string | array => cases hw

theorem canonical_keyList (keys : List Text) : (keyList keys).canonical = keyList keys := by
  rw [keyList, Value.canonical, Value.canonicalValues_eq, List.map_map]
  rfl

theorem keyList_injective {keys keys' : List Text} (h : keyList keys = keyList keys') :
    keys = keys' := by
  rw [keyList, keyList, Value.array.injEq] at h
  exact List.map_injective_iff.mpr (fun a b hab => Value.string.inj hab) h

theorem keyList_wellFormed {keys : List Text} (h : ∀ key ∈ keys, key.isUtf8 = true) :
    (keyList keys).WellFormed := by
  rw [keyList, Value.WellFormed, Value.every_array]
  refine ⟨trivial, ?_⟩
  intro v hv
  obtain ⟨key, hkey, rfl⟩ := List.mem_map.mp hv
  intro u hu
  cases hu
  exact h key hkey

theorem keyList_safeNumbers (keys : List Text) : (keyList keys).SafeNumbers := by
  rw [keyList, Value.SafeNumbers, Value.every_array]
  refine ⟨fun n hn => (by cases hn), ?_⟩
  intro v hv
  obtain ⟨key, -, rfl⟩ := List.mem_map.mp hv
  intro u hu
  cases hu
  intro n hn
  cases hn

/-- Lists of keys that are the same are equal. -/
theorem same_keyList {keys keys' : List Text} (hkeys : ∀ key ∈ keys, key.isUtf8 = true)
    (hkeys' : ∀ key ∈ keys', key.isUtf8 = true) (h : same (keyList keys) (keyList keys') = true) :
    keys = keys' := by
  have hcanonical := same_eq (keyList_wellFormed hkeys) (keyList_wellFormed hkeys')
    (keyList_safeNumbers _) (keyList_safeNumbers _) h
  rw [canonical_keyList, canonical_keyList] at hcanonical
  exact keyList_injective hcanonical

/-! ### A sample of the host -/

namespace Sample

/-- A host that hashes one message under each domain. -/
@[reducible]
def domainCrypto (table : List (Text × Nat)) : Crypto where
  sha256 bytes :=
    let entry := table.find? fun e => e.1.bytes.isPrefixOf bytes
    digestBytes ((entry.map Prod.snd).getD 0)
  isVerifyingKey _ := false
  verify _ _ _ := false

/-- A host whose texts are in normal form, and none is a number. -/
@[reducible]
def plainHost : EcmaScript where
  normalizeNfc := id
  stringToNumber _ := .nan

end Sample

end Idr
