/-
Idr/AegisLife/JsonSchema.lean

The part of JSON Schema that the packs publish, over JSON values.

A schema is data (`Schema`), and `Schema.valid` evaluates it.  An object schema
lists its properties and allows no others, as all of the packs do.  A verifier is
no laxer than a schema when all that it accepts is valid; `Schema.Admits` says
so of a property, which may be absent, and the rules below build the claim for
an object or an array from those for its parts.
-/
import Idr.AegisLife.EcmaScript

namespace Idr

/-! ### Schemas -/

/-- A schema without references. -/
inductive Schema
  /-- `const`. -/
  | const (value : Value)
  /-- `enum`, of texts. -/
  | enum (texts : List Text)
  /-- `"type": "string"`, with what `pattern`, `minLength` and `maxLength` ask for. -/
  | text (pattern : Text → Bool)
  /-- `"type": "integer"`, from `minimum` to the greatest safe integer. -/
  | integer (minimum : Nat)
  /-- `"type": "boolean"`. -/
  | boolean
  /-- `"type": "array"`. -/
  | array (items : Schema) (minItems : Nat) (maxItems : Option Nat) (uniqueItems : Bool)
  /-- `"type": "object"`, with `"additionalProperties": false`. -/
  | object (properties : List (Text × Schema)) (required : List Text)
  /-- `oneOf`. -/
  | oneOf (schemas : List Schema)

namespace Schema

mutual

/-- Whether a value is valid against a schema. -/
def valid : Schema → Value → Bool
  | .const c, v => v.canonical = c.canonical
  | .enum texts, v => texts.any fun t => v = .string t
  | .text pattern, .string s => pattern s
  | .integer minimum, .number (.posInt n) => minimum ≤ n && n ≤ idrMaxSafeWireIntegerV1
  | .boolean, .bool _ => true
  | .array items minItems maxItems uniqueItems, .array values =>
    minItems ≤ values.length && maxItems.all (values.length ≤ ·)
      && (!uniqueItems || (values.map Value.canonical).Nodup) && values.all fun v => items.valid v
  | .object properties required, .object fields =>
    fields.all (fun f => (properties.map Prod.fst).contains f.1)
      && required.all (fun key => (fields.map Prod.fst).contains key)
      && validProperties properties (.object fields)
  | .oneOf schemas, v => validCount schemas v = 1
  | .text _, _ | .integer _, _ | .boolean, _ | .array .., _ | .object .., _ => false

/-- Whether each property that is there is valid. -/
def validProperties : List (Text × Schema) → Value → Bool
  | [], _ => true
  | (key, schema) :: properties, v =>
    (field (some v) key).all (fun w => schema.valid w) && validProperties properties v

/-- How many of the schemas a value is valid against. -/
def validCount : List Schema → Value → Nat
  | [], _ => 0
  | schema :: schemas, v => (if schema.valid v then 1 else 0) + validCount schemas v

end

section Equations

variable {v c : Value} {texts required : List Text} {minimum n minItems : Nat} {items : Schema}
variable {maxItems : Option Nat} {uniqueItems : Bool} {values : List Value} {key : Text}
variable {properties : List (Text × Schema)} {fields : List (Text × Value)}

theorem valid_const : (const c).valid v = decide (v.canonical = c.canonical) := rfl

theorem valid_enum : (enum texts).valid v = texts.any fun t => v = .string t := rfl

theorem valid_integer : (integer minimum).valid (.number (.posInt n)) =
    (minimum ≤ n && n ≤ idrMaxSafeWireIntegerV1) := rfl

theorem valid_array : (array items minItems maxItems uniqueItems).valid (.array values) =
    (minItems ≤ values.length && maxItems.all (values.length ≤ ·)
      && (!uniqueItems || (values.map Value.canonical).Nodup)
      && values.all fun v => items.valid v) := rfl

theorem valid_object : (object properties required).valid (.object fields) =
    (fields.all (fun f => (properties.map Prod.fst).contains f.1)
      && required.all (fun key => (fields.map Prod.fst).contains key)
      && validProperties properties (.object fields)) := rfl

theorem validProperties_cons {schema : Schema} :
    validProperties ((key, schema) :: properties) v =
      ((field (some v) key).all (fun w => schema.valid w) && validProperties properties v) := rfl

end Equations

/-- What is there is valid. -/
def Admits (schema : Schema) (value : Option Value) : Prop :=
  ∀ v, value = some v → schema.valid v = true

/-! ### Leaves -/

theorem admits_const {c : Value} : (Schema.const c).Admits (some c) := by
  rintro v ⟨⟩
  rw [valid_const]
  exact decide_eq_true rfl

theorem admits_enum {texts : List Text} {t : Text} (h : t ∈ texts) :
    (Schema.enum texts).Admits (some (.string t)) := by
  rintro v ⟨⟩
  rw [valid_enum, List.any_eq_true]
  exact ⟨t, h, decide_eq_true rfl⟩

theorem admits_text {pattern : Text → Bool} {s : Text} (h : pattern s = true) :
    (Schema.text pattern).Admits (some (.string s)) := by
  rintro v ⟨⟩
  exact h

theorem admits_integer {minimum n : Nat} (hminimum : minimum ≤ n)
    (hsafe : n ≤ idrMaxSafeWireIntegerV1) :
    (Schema.integer minimum).Admits (some (.number (.posInt n))) := by
  rintro v ⟨⟩
  rw [valid_integer, Bool.and_eq_true]
  exact ⟨decide_eq_true hminimum, decide_eq_true hsafe⟩

theorem admits_boolean {b : Bool} : Schema.boolean.Admits (some (.bool b)) := by
  rintro v ⟨⟩
  rfl

/-- A text schema is valid for texts only. -/
theorem text_of_valid {pattern : Text → Bool} {v : Value}
    (h : (Schema.text pattern).valid v = true) : ∃ s, v = .string s ∧ pattern s = true := by
  cases v with
  | string s => exact ⟨s, rfl, h⟩
  | null | bool | number | array | object => exact absurd h Bool.false_ne_true

/-! ### Objects and arrays -/

theorem validProperties_iff {properties : List (Text × Schema)} {v : Value} :
    validProperties properties v = true ↔
      ∀ p ∈ properties, p.2.Admits (field (some v) p.1) := by
  induction properties with
  | nil => exact ⟨fun _ p hp => (by cases hp), fun _ => rfl⟩
  | cons p properties ih =>
    obtain ⟨key, schema⟩ := p
    rw [validProperties_cons, Bool.and_eq_true, ih, List.forall_mem_cons, Option.all_eq_true]
    exact and_congr_left fun _ => Iff.rfl

theorem valid_object_iff {properties : List (Text × Schema)} {required : List Text}
    {fields : List (Text × Value)} :
    (Schema.object properties required).valid (.object fields) = true ↔
      (∀ f ∈ fields, f.1 ∈ properties.map Prod.fst)
        ∧ (∀ key ∈ required, key ∈ fields.map Prod.fst)
        ∧ ∀ p ∈ properties, p.2.Admits (field (some (.object fields)) p.1) := by
  simp only [valid_object, Bool.and_eq_true, List.all_eq_true, List.contains_iff_mem,
    validProperties_iff, and_assoc]

/-- **An object with the properties of a schema** is admitted when each of them is. -/
theorem admits_object {properties : List (Text × Schema)} {required : List Text}
    {value : Option Value} (hkeys : ∀ fields, value = some (.object fields) →
      (∀ f ∈ fields, f.1 ∈ properties.map Prod.fst)
        ∧ ∀ key ∈ required, key ∈ fields.map Prod.fst)
    (hobject : isObject value = true)
    (h : ∀ p ∈ properties, p.2.Admits (field value p.1)) :
    (Schema.object properties required).Admits value := by
  rintro v rfl
  cases v with
  | object fields =>
    obtain ⟨hallowed, hrequired⟩ := hkeys fields rfl
    exact valid_object_iff.mpr ⟨hallowed, hrequired, h⟩
  | null | bool | number | string | array => cases hobject

/-- The same, where every property is required. -/
theorem admits_hasKeys {properties : List (Text × Schema)} {value : Option Value}
    (hkeys : HasKeys value (properties.map Prod.fst))
    (h : ∀ p ∈ properties, p.2.Admits (field value p.1)) :
    (Schema.object properties (properties.map Prod.fst)).Admits value := by
  obtain ⟨fields, rfl, hiff⟩ := hkeys
  apply admits_object _ rfl h
  rintro _ ⟨⟩
  exact ⟨fun f hf => (hiff f.1).mp (List.mem_map_of_mem hf), fun key => (hiff key).mpr⟩

/-- A valid object has valid properties. -/
theorem admits_of_object {properties : List (Text × Schema)} {required : List Text} {v : Value}
    (h : (Schema.object properties required).valid v = true) {key : Text} {schema : Schema}
    (hp : (key, schema) ∈ properties) : schema.Admits (field (some v) key) := by
  cases v with
  | object fields => exact (valid_object_iff.mp h).2.2 _ hp
  | null | bool | number | string | array => exact absurd h Bool.false_ne_true

theorem admits_array {items : Schema} {minItems : Nat} {maxItems : Option Nat}
    {uniqueItems : Bool} {values : List Value} (hmin : minItems ≤ values.length)
    (hmax : ∀ n, maxItems = some n → values.length ≤ n)
    (hunique : uniqueItems = true → (values.map Value.canonical).Nodup)
    (h : ∀ v ∈ values, items.valid v = true) :
    (Schema.array items minItems maxItems uniqueItems).Admits (some (.array values)) := by
  rintro v ⟨⟩
  simp only [valid_array, Bool.and_eq_true, List.all_eq_true, decide_eq_true_eq, Option.all_eq_true,
    Bool.or_eq_true, Bool.not_eq_true']
  refine ⟨⟨⟨hmin, hmax⟩, ?_⟩, h⟩
  cases uniqueItems with
  | false => exact .inl rfl
  | true => exact .inr (hunique rfl)

/-- A valid array has valid items. -/
theorem valid_of_array {items : Schema} {minItems : Nat} {maxItems : Option Nat}
    {uniqueItems : Bool} {values : List Value}
    (h : (Schema.array items minItems maxItems uniqueItems).valid (.array values) = true) :
    ∀ v ∈ values, items.valid v = true := by
  simp only [valid_array, Bool.and_eq_true, List.all_eq_true] at h
  exact h.2

end Schema

end Idr
