/-
Idr/Protocol/Deserialize.lean

Reading typed data back from JSON values.

`fromValue` is `serde_json::from_value`; every caller maps its errors to one
error, so a failure is `none`.  The derived readers accept more than the
writers produce: a structure may be an array of its fields in the order of
their declaration, a variant may be an object of one field with a null
value, and an identifier may be written in four forms.  What is written is
read back (`RoundTrip`).
-/
import Idr.Protocol.Canonical
import Idr.Protocol.Production

namespace Idr

/-- `serde_json::from_value`. -/
class Deserialize (α : Type) where
  fromValue : Value → Option α

export Deserialize (fromValue)

/-- What is written is read back. -/
class RoundTrip (α : Type) [Serialize α] [Deserialize α] : Prop where
  fromValue_toValue : ∀ a : α, fromValue (toValue a) = some a

export RoundTrip (fromValue_toValue)

/-- Reading what was written goes on with it. -/
theorem fromValue_bind {α β : Type} [Serialize α] [Deserialize α] [RoundTrip α] (a : α)
    (f : α → Option β) : (fromValue (toValue a)).bind f = f a := by
  rw [fromValue_toValue, Option.bind_some]

/-! ### Primitive types -/

instance : Deserialize Value := ⟨some⟩
instance : Deserialize Nat := ⟨Value.asU64⟩
instance : Deserialize Text := ⟨Value.asStr⟩

/-- References are checked when they are read. -/
instance : Deserialize ReferenceV1 where
  fromValue v := v.asStr.bind fun s => (ReferenceV1.new s).toOption

instance {α : Type} [Deserialize α] : Deserialize (List α) where
  fromValue v := v.asArray.bind (·.mapM fromValue)

instance : RoundTrip Value := ⟨fun _ => rfl⟩
instance : RoundTrip Nat := ⟨fun _ => rfl⟩
instance : RoundTrip Text := ⟨fun _ => rfl⟩

instance : RoundTrip ReferenceV1 where
  fromValue_toValue r := by
    show (ReferenceV1.new r.asStr).toOption = some r
    rw [ReferenceV1.new_eq_ok.mpr rfl]
    rfl

instance {α : Type} [Serialize α] [Deserialize α] [RoundTrip α] : RoundTrip (List α) where
  fromValue_toValue as := by
    show (as.map toValue).mapM fromValue = some as
    induction as with
    | nil => rfl
    | cons a as ih =>
      rw [List.map_cons, List.mapM_cons, fromValue_toValue, ih]
      rfl

/-! ### Identifiers -/

namespace Uuid

theorem parseNibble_hexDigit {n : Nat} (h : n < 16) : parseNibble (hexDigit n) = some n := by
  have hall : ∀ n < 16, parseNibble (hexDigit n) = some n := by decide
  exact hall n h

theorem parseDigits_hexDigits (ns : List Nat) (h : ∀ n ∈ ns, n < 16) (acc : Nat) :
    parseDigits (ns.map hexDigit) acc = some (ns.foldl (fun acc d => acc * 16 + d) acc) := by
  induction ns generalizing acc with
  | nil => rfl
  | cons n ns ih =>
    rw [List.map_cons, parseDigits, parseNibble_hexDigit (h n List.mem_cons_self)]
    exact ih (fun m hm => h m (List.mem_cons_of_mem n hm)) (acc * 16 + n)

/-- Folding the digits of a number, most significant first, gives the number back. -/
theorem foldl_digits (x k : Nat) :
    ((List.range k).map fun i => x / 16 ^ (k - 1 - i) % 16).foldl (fun acc d => acc * 16 + d) 0 =
      x % 16 ^ k := by
  induction k generalizing x with
  | zero =>
    show 0 = x % 1
    omega
  | succ k ih =>
    rw [List.range_succ, List.map_append, List.foldl_append]
    -- all digits but the last are those of `x / 16`
    have hinit : (List.range k).map (fun i => x / 16 ^ (k + 1 - 1 - i) % 16) =
        (List.range k).map fun i => x / 16 / 16 ^ (k - 1 - i) % 16 := by
      apply List.map_congr_left
      intro i hi
      have hlt := List.mem_range.mp hi
      have hexp : k + 1 - 1 - i = (k - 1 - i) + 1 := by omega
      rw [hexp, Nat.pow_succ', Nat.div_div_eq_div_mul]
    rw [hinit, ih]
    show x / 16 % 16 ^ k * 16 + x / 16 ^ (k + 1 - 1 - k) % 16 = x % 16 ^ (k + 1)
    have hlast : k + 1 - 1 - k = 0 := by omega
    rw [hlast, Nat.pow_zero, Nat.div_one, Nat.pow_succ', Nat.mod_mul, Nat.add_comm, Nat.mul_comm]

theorem toString_length (u : Uuid) : u.toString.bytes.length = 36 := by
  simp [toString]

/-- **An identifier is read back from its hyphenated form.** -/
theorem parse_toString (u : Uuid) : parse u.toString = some u := by
  have hdigits : parseDigits (((List.range 32).map (nibble u)).map hexDigit) 0 =
      some u.toNat := by
    have hparsed := parseDigits_hexDigits ((List.range 32).map (nibble u)) (by
      intro n hn
      obtain ⟨i, -, rfl⟩ := List.mem_map.mp hn
      exact Nat.mod_lt _ (by decide)) 0
    have hpow : 16 ^ 32 = 2 ^ 128 := by decide
    rw [hparsed, Option.some.injEq, ← Nat.mod_eq_of_lt u.isLt, ← hpow, ← foldl_digits u.toNat 32]
    rfl
  -- the form has 36 bytes, and without its hyphens it is the 32 digits
  have hparse : parse u.toString = parseHyphenated u.toString.bytes := by
    simp only [parse, toString_length]
  rw [hparse, parseHyphenated, if_pos ⟨toString_length u, rfl, rfl, rfl, rfl⟩]
  show (parseDigits (((List.range 32).map (nibble u)).map hexDigit) 0).map (BitVec.ofNat 128) =
    some u
  rw [hdigits, Option.map_some, BitVec.ofNat_toNat, BitVec.setWidth_eq]

end Uuid

instance : Deserialize Uuid := ⟨fun v => v.asStr.bind Uuid.parse⟩

instance : RoundTrip Uuid := ⟨Uuid.parse_toString⟩

/-! ### Structures and variants -/

/-- The fields of a structure that denies unknown ones, in the order of their declaration. -/
def structFields (keys : List Text) : Value → Option (List Value)
  | .object fields =>
    if fields.all (fun field => keys.contains field.1) then keys.mapM (fields.lookup ·) else none
  | .array values => if values.length = keys.length then some values else none
  | _ => none

/-- A variant without data: its name, or an object of its name and null. -/
def unitVariant {α : Type} (variants : List α) (wireName : α → Text) : Value → Option α
  | .string name => variants.find? fun variant => wireName variant = name
  | .object [(name, .null)] => variants.find? fun variant => wireName variant = name
  | _ => none

theorem mapM_option_congr {α β : Type} {f g : α → Option β} {as : List α}
    (h : ∀ a ∈ as, f a = g a) : as.mapM f = as.mapM g := by
  induction as with
  | nil => rfl
  | cons a as ih =>
    rw [List.mapM_cons, List.mapM_cons, h a List.mem_cons_self,
      ih fun b hb => h b (List.mem_cons_of_mem a hb)]

theorem mapM_lookup_zip {keys : List Text} (hnodup : keys.Nodup) {values : List Value}
    (hlength : keys.length = values.length) :
    keys.mapM ((keys.zip values).lookup ·) = some values := by
  induction keys generalizing values with
  | nil =>
    rw [List.length_eq_zero_iff.mp hlength.symm]
    rfl
  | cons key keys ih =>
    cases values with
    | nil => cases hlength
    | cons value values =>
      obtain ⟨hnew, hnodup⟩ := List.nodup_cons.mp hnodup
      have hrest : keys.mapM (((key, value) :: keys.zip values).lookup ·) =
          keys.mapM ((keys.zip values).lookup ·) := by
        apply mapM_option_congr
        intro k hk
        have hne : (k == key) = false := beq_false_of_ne fun heq => hnew (heq ▸ hk)
        rw [List.lookup_cons, hne]
      rw [List.zip_cons_cons, List.mapM_cons, List.lookup_cons_self, hrest,
        ih hnodup (Nat.succ.inj hlength)]
      rfl

/-- **The fields that were written are read.** -/
theorem structFields_object {keys : List Text} {values : List Value} {fields : List (Text × Value)}
    (hfields : fields = keys.zip values) (hnodup : keys.Nodup)
    (hlength : keys.length = values.length) :
    structFields keys (.object fields) = some values := by
  rw [structFields, if_pos, hfields, mapM_lookup_zip hnodup hlength]
  rw [List.all_eq_true, hfields]
  intro field hfield
  rw [List.contains_iff_mem]
  exact (List.of_mem_zip (a := field.1) (b := field.2) hfield).1

theorem unitVariant_string {α : Type} {variants : List α} {wireName : α → Text}
    (hinj : ∀ a b, wireName a = wireName b → a = b) {a : α} (ha : a ∈ variants) :
    unitVariant variants wireName (.string (wireName a)) = some a := by
  show variants.find? (fun variant => decide (wireName variant = wireName a)) = some a
  rcases hfound : variants.find? (fun variant => decide (wireName variant = wireName a)) with _ | b
  · exact absurd (decide_eq_true rfl) (List.find?_eq_none.mp hfound a ha)
  · have hname := List.find?_some hfound
    rw [hinj b a (of_decide_eq_true hname)]

end Idr
