/-
Idr/Protocol/Tree.lean

Values as trees.

What `serde_json` guarantees of a `Value` is said of all its parts: strings
and keys are UTF-8, integers fit their types, floats are finite, and the keys
of an object are distinct and, with the default map, in byte order.
`JsonValue` carries this, so it is `serde_json::Value` as a program can have
it.  `Reordered` relates values that differ in the order of fields only, at
any level; `collect` puts the members of each object of a tree into a map.

The canonical encoder writes a value exactly when every number in it is a
safe integer (`writes_iff`), does not look at the order of fields
(`Reordered.writes`), and puts the keys in strictly increasing order of their
code units (`keysIncreasing_canonical`).
-/
import Idr.Protocol.Map
import Idr.Protocol.Canonical
import Mathlib.Algebra.Group.Int.Defs

namespace Idr

/-! ### Parts -/

/-- The value occurs in the other, at any depth. -/
inductive Part : Value → Value → Prop
  | refl (v : Value) : Part v v
  | element {u v : Value} {values : List Value} (hv : v ∈ values) (h : Part u v) :
      Part u (.array values)
  | field {u : Value} {field : Text × Value} {fields : List (Text × Value)} (hv : field ∈ fields)
      (h : Part u field.2) : Part u (.object fields)

namespace Value

mutual

/-- Induction over values: a property of the children is one of the whole. -/
@[elab_as_elim]
theorem induction {P : Value → Prop} (hnull : P .null) (hbool : ∀ b, P (.bool b))
    (hnumber : ∀ n, P (.number n)) (hstring : ∀ s, P (.string s))
    (harray : ∀ values, (∀ v ∈ values, P v) → P (.array values))
    (hobject : ∀ fields, (∀ field ∈ fields, P field.2) → P (.object fields)) :
    ∀ v, P v
  | .null => hnull
  | .bool b => hbool b
  | .number n => hnumber n
  | .string s => hstring s
  | .array values =>
    harray values (inductionValues hnull hbool hnumber hstring harray hobject values)
  | .object fields =>
    hobject fields (inductionFields hnull hbool hnumber hstring harray hobject fields)

theorem inductionValues {P : Value → Prop} (hnull : P .null) (hbool : ∀ b, P (.bool b))
    (hnumber : ∀ n, P (.number n)) (hstring : ∀ s, P (.string s))
    (harray : ∀ values, (∀ v ∈ values, P v) → P (.array values))
    (hobject : ∀ fields, (∀ field ∈ fields, P field.2) → P (.object fields)) :
    ∀ values : List Value, ∀ v ∈ values, P v
  | [] => fun v hv => (by cases hv)
  | v :: values => List.forall_mem_cons.mpr
      ⟨induction hnull hbool hnumber hstring harray hobject v,
        inductionValues hnull hbool hnumber hstring harray hobject values⟩

theorem inductionFields {P : Value → Prop} (hnull : P .null) (hbool : ∀ b, P (.bool b))
    (hnumber : ∀ n, P (.number n)) (hstring : ∀ s, P (.string s))
    (harray : ∀ values, (∀ v ∈ values, P v) → P (.array values))
    (hobject : ∀ fields, (∀ field ∈ fields, P field.2) → P (.object fields)) :
    ∀ fields : List (Text × Value), ∀ field ∈ fields, P field.2
  | [] => fun field hfield => (by cases hfield)
  | field :: fields => List.forall_mem_cons.mpr
      ⟨induction hnull hbool hnumber hstring harray hobject field.2,
        inductionFields hnull hbool hnumber hstring harray hobject fields⟩

end

/-- Every part of the value, itself included, has the property. -/
def Every (p : Value → Prop) (v : Value) : Prop := ∀ u, Part u v → p u

theorem every_array {p : Value → Prop} {values : List Value} :
    Every p (.array values) ↔ p (.array values) ∧ ∀ v ∈ values, Every p v := by
  constructor
  · intro h
    exact ⟨h _ (.refl _), fun v hv u hu => h u (.element hv hu)⟩
  · rintro ⟨hself, hall⟩ u hu
    cases hu with
    | refl => exact hself
    | element hv h => exact hall _ hv u h

theorem every_object {p : Value → Prop} {fields : List (Text × Value)} :
    Every p (.object fields) ↔ p (.object fields) ∧ ∀ field ∈ fields, Every p field.2 := by
  constructor
  · intro h
    exact ⟨h _ (.refl _), fun field hfield u hu => h u (.field hfield hu)⟩
  · rintro ⟨hself, hall⟩ u hu
    cases hu with
    | refl => exact hself
    | field hv h => exact hall _ hv u h

/-- A property of a value without parts. -/
theorem every_number {p : Value → Prop} {n : Number} : Every p (.number n) ↔ p (.number n) := by
  constructor
  · exact fun h => h _ (.refl _)
  · intro h u hu
    cases hu
    exact h

theorem Every.self {p : Value → Prop} {v : Value} (h : v.Every p) : p v := h v (.refl v)

end Value

/-! ### Well-formed values -/

/-- The integer that a number is; a float is none, even one without a fraction. -/
def Number.toInt : Number → Option Int
  | .posInt n => some n
  | .negInt z => some z
  | .float _ => none

/-- What `serde_json::Number` guarantees. -/
def Number.InRange : Number → Prop
  | .posInt n => n < 2 ^ 64
  | .negInt z => -2 ^ 63 ≤ z ∧ z < 0
  | .float bits => bits.toNat / 2 ^ 52 % 2 ^ 11 ≠ 2 ^ 11 - 1

/-- An integer that all wire languages represent exactly. -/
def Number.IsSafeInteger (n : Number) : Prop :=
  ∃ z : Int, n.toInt = some z ∧ -(2 ^ 53 - 1) ≤ z ∧ z ≤ 2 ^ 53 - 1

namespace Value

/-- What holds of every part of a `serde_json::Value`, whatever map it keeps its fields in. -/
def PartOk : Value → Prop
  | .number n => n.InRange
  | .string s => s.isUtf8 = true
  | .object fields =>
    (∀ field ∈ fields, field.1.isUtf8 = true) ∧ (fields.map Prod.fst).Nodup
  | _ => True

/-- A `serde_json::Value`, with fields in any order. -/
abbrev WellFormed (v : Value) : Prop := v.Every PartOk

/-- The fields of every object are in the order of the default map. -/
abbrev MapOrdered (v : Value) : Prop :=
  v.Every fun u => ∀ fields, u = .object fields → fields.Pairwise FieldBefore

/-- Every number in the value is a safe integer. -/
abbrev SafeNumbers (v : Value) : Prop :=
  v.Every fun u => ∀ n, u = .number n → n.IsSafeInteger

/-- The keys of every object increase strictly by their UTF-16 code units. -/
abbrev KeysIncreasing (v : Value) : Prop :=
  v.Every fun u => ∀ fields, u = .object fields →
    fields.Pairwise fun a b => utf16Units a.1 < utf16Units b.1

end Value

/-- **`serde_json::Value` with default features.** -/
structure JsonValue where
  value : Value
  wellFormed : value.WellFormed
  mapOrdered : value.MapOrdered

instance : Serialize JsonValue := ⟨JsonValue.value⟩

/-! ### What is written -/

theorem validateCanonicalNumber_eq_ok {n : Number} :
    validateCanonicalNumber n = .ok () ↔ n.IsSafeInteger := by
  have hmax : idrMaxSafeWireIntegerV1 = 2 ^ 53 - 1 := by decide
  cases n with
  | posInt n =>
    have hint : (Number.posInt n).IsSafeInteger ↔ n ≤ 2 ^ 53 - 1 := by
      constructor
      · rintro ⟨z, hz, hlow, hhigh⟩
        cases hz
        omega
      · intro h
        exact ⟨n, rfl, by omega, by omega⟩
    rw [hint, validateCanonicalNumber, Number.asI64]
    split
    · rename_i value heq
      split at heq
      · cases heq
        rw [rejectIf_eq_ok, hmax]
        omega
      · cases heq
    · rename_i heq
      split at heq
      · cases heq
      · rw [Number.asU64]
        dsimp only
        rw [rejectIf_eq_ok, hmax]
        omega
  | negInt z =>
    rw [validateCanonicalNumber, Number.asI64]
    dsimp only
    rw [rejectIf_eq_ok, hmax]
    constructor
    · intro h
      exact ⟨z, rfl, by omega, by omega⟩
    · rintro ⟨z', hz, hlow, hhigh⟩
      cases hz
      omega
  | float bits =>
    constructor
    · intro h
      cases h
    · rintro ⟨z, hz, -⟩
      cases hz

theorem writeValues_iff {values : List Value} :
    (∃ parts, writeValues values = .ok parts) ↔ ∀ v ∈ values, ∃ f, WrittenValue v f := by
  induction values with
  | nil => exact ⟨fun _ v hv => (by cases hv), fun _ => ⟨[], rfl⟩⟩
  | cons v vs ih =>
    rw [List.forall_mem_cons, ← ih]
    simp only [writeValues, bind_eq_ok, Except.ok.injEq]
    constructor
    · rintro ⟨parts, part, hpart, parts', hparts, -⟩
      exact ⟨⟨part, hpart⟩, ⟨parts', hparts⟩⟩
    · rintro ⟨⟨part, hpart⟩, ⟨parts, hparts⟩⟩
      exact ⟨_, part, hpart, parts, hparts, rfl⟩

theorem sequenceFields_iff {fields : List (Text × Value)} :
    (∃ parts, sequenceFields (fields.map fun field => (field.1, writeCanonicalValue field.2)) =
      .ok parts) ↔ ∀ field ∈ fields, ∃ f, WrittenValue field.2 f := by
  induction fields with
  | nil => exact ⟨fun _ v hv => (by cases hv), fun _ => ⟨[], rfl⟩⟩
  | cons field fields ih =>
    rw [List.forall_mem_cons, ← ih]
    simp only [List.map_cons, sequenceFields, bind_eq_ok, Except.ok.injEq]
    constructor
    · rintro ⟨parts, part, hpart, parts', hparts, -⟩
      exact ⟨⟨part, hpart⟩, ⟨parts', hparts⟩⟩
    · rintro ⟨⟨part, hpart⟩, ⟨parts, hparts⟩⟩
      exact ⟨_, part, hpart, parts, hparts, rfl⟩

/-- A value without parts that is no number. -/
theorem safeNumbers_leaf {v : Value} (hparts : ∀ u, Part u v → u = v) (hne : ∀ n, v ≠ .number n) :
    v.SafeNumbers := by
  intro u hu n hn
  exact absurd ((hparts u hu).symm.trans hn) (hne n)

/-- **Exactly the values with safe integers are written.** -/
theorem writes_iff (v : Value) : (∃ f, WrittenValue v f) ↔ v.SafeNumbers := by
  induction v using Value.induction with
  | hnull =>
      exact ⟨fun _ => safeNumbers_leaf (fun u hu => by cases hu; rfl) (by simp), fun _ => ⟨_, rfl⟩⟩
  | hbool b =>
    refine ⟨fun _ => safeNumbers_leaf (fun u hu => by cases hu; rfl) (by simp), fun _ => ?_⟩
    cases b <;> exact ⟨_, rfl⟩
  | hstring s =>
      exact ⟨fun _ => safeNumbers_leaf (fun u hu => by cases hu; rfl) (by simp), fun _ => ⟨_, rfl⟩⟩
  | hnumber n =>
    rw [Value.SafeNumbers, Value.every_number]
    constructor
    · rintro ⟨f, hf⟩ m hm
      cases hm
      exact validateCanonicalNumber_eq_ok.mp hf.cases.1
    · intro h
      have hok := validateCanonicalNumber_eq_ok.mpr (h n rfl)
      exact ⟨_, by rw [WrittenValue, writeCanonicalValue, hok]; rfl⟩
  | harray values ih =>
    rw [Value.SafeNumbers, Value.every_array]
    have hall : (∀ v ∈ values, ∃ f, WrittenValue v f) ↔ ∀ v ∈ values, v.SafeNumbers :=
      forall₂_congr ih
    rw [← hall, ← writeValues_iff]
    simp only [WrittenValue, writeCanonicalValue, bind_eq_ok, Except.ok.injEq]
    constructor
    · rintro ⟨f, parts, hparts, -⟩
      exact ⟨fun n hn => (by cases hn), parts, hparts⟩
    · rintro ⟨-, parts, hparts⟩
      exact ⟨_, parts, hparts, rfl⟩
  | hobject fields ih =>
    rw [Value.SafeNumbers, Value.every_object]
    have hall : (∀ field ∈ sortFields fields, ∃ f, WrittenValue field.2 f) ↔
        ∀ field ∈ fields, field.2.SafeNumbers := by
      rw [← forall₂_congr ih]
      exact forall_congr' fun field => imp_congr_left (List.mem_insertionSort _)
    rw [← hall, ← sequenceFields_iff]
    simp only [WrittenValue, writeCanonicalValue, bind_eq_ok, Except.ok.injEq]
    rw [writeFields_eq, sortFields_map]
    constructor
    · rintro ⟨f, parts, hparts, -⟩
      exact ⟨fun n hn => (by cases hn), parts, hparts⟩
    · rintro ⟨-, parts, hparts⟩
      exact ⟨_, parts, hparts, rfl⟩

/-! ### The order of fields -/

section Order

variable {α : Type}

theorem sortFields_pairwise (fields : List (Text × α)) :
    (sortFields fields).Pairwise fun a b => utf16Units a.1 ≤ utf16Units b.1 := by
  have htotal : Std.Total fun a b : Text × α => (utf16Le a.1 b.1 : Prop) :=
    ⟨fun a b => by rw [utf16Le_iff, utf16Le_iff]; exact le_total _ _⟩
  have htrans : IsTrans (Text × α) fun a b => (utf16Le a.1 b.1 : Prop) :=
    ⟨fun a b c hab hbc => utf16Le_iff.mpr ((utf16Le_iff.mp hab).trans (utf16Le_iff.mp hbc))⟩
  have hsorted :=
    List.pairwise_insertionSort (fun a b : Text × α => (utf16Le a.1 b.1 : Prop)) fields
  exact hsorted.imp fun h => utf16Le_iff.mp h

theorem sortFields_perm_self (fields : List (Text × α)) : (sortFields fields).Perm fields :=
  List.perm_insertionSort _ fields

/-- With distinct keys the order is strict. -/
theorem sortFields_strict {fields : List (Text × α)}
    (hutf8 : ∀ field ∈ fields, field.1.isUtf8 = true)
    (hnodup : (fields.map Prod.fst).Nodup) :
    (sortFields fields).Pairwise fun a b => utf16Units a.1 < utf16Units b.1 := by
  have hperm := sortFields_perm_self fields
  have hdistinct : (sortFields fields).Pairwise fun a b => a.1 ≠ b.1 :=
    List.pairwise_map.mp ((hperm.map Prod.fst).nodup_iff.mpr hnodup)
  refine ((sortFields_pairwise fields).and hdistinct).imp_of_mem fun {a b} ha hb h => ?_
  refine lt_of_le_of_ne h.1 fun heq => h.2 ?_
  exact utf16Units_injective (hutf8 a (hperm.mem_iff.mp ha)) (hutf8 b (hperm.mem_iff.mp hb)) heq

/-- Sorting forgets the order of fields with distinct keys. -/
theorem sortFields_perm {fields fields' : List (Text × α)} (hperm : fields.Perm fields')
    (hutf8 : ∀ field ∈ fields, field.1.isUtf8 = true) (hnodup : (fields.map Prod.fst).Nodup) :
    sortFields fields = sortFields fields' := by
  have hutf8' : ∀ field ∈ fields', field.1.isUtf8 = true :=
    fun field hfield => hutf8 field (hperm.mem_iff.mpr hfield)
  have hnodup' := (hperm.map Prod.fst).nodup_iff.mp hnodup
  apply List.Perm.eq_of_pairwise _ (sortFields_strict hutf8 hnodup)
    (sortFields_strict hutf8' hnodup')
  · exact (sortFields_perm_self fields).trans (hperm.trans (sortFields_perm_self fields').symm)
  · intro a b _ _ hab hba
    exact absurd hba (lt_asymm hab)

end Order

/-- The values differ in the order of fields only, at any level. -/
inductive Reordered : Value → Value → Prop
  | refl (v : Value) : Reordered v v
  | trans {u v w : Value} (h : Reordered u v) (h' : Reordered v w) : Reordered u w
  | fields {fields fields' : List (Text × Value)} (h : fields.Perm fields') :
      Reordered (.object fields) (.object fields')
  | element {v w : Value} (before after : List Value) (h : Reordered v w) :
      Reordered (.array (before ++ v :: after)) (.array (before ++ w :: after))
  | field {v w : Value} (before : List (Text × Value)) (key : Text) (after : List (Text × Value))
      (h : Reordered v w) :
      Reordered (.object (before ++ (key, v) :: after)) (.object (before ++ (key, w) :: after))

theorem Reordered.wellFormed {v w : Value} (h : Reordered v w) (hv : v.WellFormed) :
    w.WellFormed := by
  induction h with
  | refl v => exact hv
  | trans _ _ ih ih' => exact ih' (ih hv)
  | fields hperm =>
    rw [Value.WellFormed, Value.every_object] at hv ⊢
    obtain ⟨⟨hutf8, hnodup⟩, hall⟩ := hv
    refine ⟨⟨?_, (hperm.map Prod.fst).nodup_iff.mp hnodup⟩, ?_⟩
    · exact fun field hfield => hutf8 field (hperm.mem_iff.mpr hfield)
    · exact fun field hfield => hall field (hperm.mem_iff.mpr hfield)
  | element before after _ ih =>
    rw [Value.WellFormed, Value.every_array] at hv ⊢
    simp only [List.forall_mem_append, List.forall_mem_cons] at hv ⊢
    obtain ⟨hself, hbefore, hv, hafter⟩ := hv
    exact ⟨trivial, hbefore, ih hv, hafter⟩
  | field before key after _ ih =>
    rw [Value.WellFormed, Value.every_object] at hv ⊢
    simp only [Value.PartOk, List.forall_mem_append, List.forall_mem_cons, List.map_append,
      List.map_cons] at hv ⊢
    obtain ⟨hself, hbefore, hv, hafter⟩ := hv
    exact ⟨hself, hbefore, ih hv, hafter⟩

/-- **The encoder does not look at the order of fields.** -/
theorem Reordered.writes {v w : Value} (h : Reordered v w) (hv : v.WellFormed) :
    writeCanonicalValue v = writeCanonicalValue w := by
  induction h with
  | refl v => rfl
  | trans h _ ih ih' => exact (ih hv).trans (ih' (h.wellFormed hv))
  | @fields fields fields' hperm =>
    obtain ⟨hutf8, hnodup⟩ := hv.self
    have hsort : sortFields (writeFields fields) = sortFields (writeFields fields') := by
      rw [writeFields_eq, writeFields_eq]
      apply sortFields_perm (hperm.map _)
      · intro field hfield
        obtain ⟨field, hmem, rfl⟩ := List.mem_map.mp hfield
        exact hutf8 field hmem
      · rw [List.map_map]
        exact hnodup
    rw [writeCanonicalValue, writeCanonicalValue, hsort]
  | @element v w before after _ ih =>
    have hwrites := ih ((Value.every_array.mp hv).2 v (by simp))
    clear hv ih
    have hvalues : writeValues (before ++ v :: after) = writeValues (before ++ w :: after) := by
      induction before with
      | nil => rw [List.nil_append, List.nil_append, writeValues, writeValues, hwrites]
      | cons b before ih' => rw [List.cons_append, List.cons_append, writeValues, writeValues, ih']
    rw [writeCanonicalValue, writeCanonicalValue, hvalues]
  | @field v w before key after _ ih =>
    have hv := (Value.every_object.mp hv).2 (key, v) (by simp)
    have hfields : writeFields (before ++ (key, v) :: after) =
        writeFields (before ++ (key, w) :: after) := by
      rw [writeFields_eq, writeFields_eq, List.map_append, List.map_append, List.map_cons,
        List.map_cons, ih hv]
    rw [writeCanonicalValue, writeCanonicalValue, hfields]

/-- **The keys of a canonical value increase.** -/
theorem keysIncreasing_canonical {v : Value} (hv : v.WellFormed) : v.canonical.KeysIncreasing := by
  have hleaf : ∀ v : Value, (∀ u, Part u v → u = v) → (∀ fields, v ≠ .object fields) →
      v.KeysIncreasing := by
    intro v hparts hne u hu fields hfields
    exact absurd ((hparts u hu).symm.trans hfields) (hne fields)
  induction v using Value.induction with
  | hnull => exact hleaf _ (fun u hu => by cases hu; rfl) (by simp [Value.canonical])
  | hbool b => exact hleaf _ (fun u hu => by cases hu; rfl) (by simp [Value.canonical])
  | hstring s => exact hleaf _ (fun u hu => by cases hu; rfl) (by simp [Value.canonical])
  | hnumber n => exact hleaf _ (fun u hu => by cases hu; rfl) (by simp [Value.canonical])
  | harray values ih =>
    have hall := (Value.every_array.mp hv).2
    rw [Value.canonical, Value.KeysIncreasing, Value.every_array, Value.canonicalValues_eq]
    refine ⟨fun fields hfields => (by cases hfields), ?_⟩
    intro w hw
    obtain ⟨v, hmem, rfl⟩ := List.mem_map.mp hw
    exact ih v hmem (hall v hmem)
  | hobject fields ih =>
    obtain ⟨⟨hutf8, hnodup⟩, hall⟩ := Value.every_object.mp hv
    rw [Value.canonical, Value.KeysIncreasing, Value.every_object, Value.canonicalFields_eq]
    constructor
    · intro sorted hsorted
      cases hsorted
      apply sortFields_strict
      · intro field hfield
        obtain ⟨field, hmem, rfl⟩ := List.mem_map.mp hfield
        exact hutf8 field hmem
      · rw [List.map_map]
        exact hnodup
    · intro field hfield
      rw [sortFields, List.mem_insertionSort] at hfield
      obtain ⟨field, hmem, rfl⟩ := List.mem_map.mp hfield
      exact ih field hmem (hall field hmem)

/-! ### Collecting members -/

namespace Value

mutual

/-- Put the members of every object into a map, in the order in which they stand. -/
def collect : Value → Value
  | .array values => .array (collectValues values)
  | .object fields => .object (insertFields (collectFields fields) [])
  | .null => .null
  | .bool b => .bool b
  | .number n => .number n
  | .string s => .string s

def collectValues : List Value → List Value
  | [] => []
  | v :: vs => v.collect :: collectValues vs

def collectFields : List (Text × Value) → List (Text × Value)
  | [] => []
  | (key, v) :: fields => (key, v.collect) :: collectFields fields

end

theorem collectValues_eq (values : List Value) : collectValues values = values.map collect := by
  induction values with
  | nil => rfl
  | cons v vs ih => rw [collectValues, ih, List.map_cons]

theorem collectFields_eq (fields : List (Text × Value)) :
    collectFields fields = fields.map fun field => (field.1, field.2.collect) := by
  induction fields with
  | nil => rfl
  | cons field fields ih =>
    obtain ⟨key, v⟩ := field
    rw [collectFields, ih, List.map_cons]

/-- **The order in which members are inserted does not matter**, at any level. -/
theorem collect_reordered {v w : Value} (h : Reordered v w) (hv : v.WellFormed) :
    v.collect = w.collect := by
  induction h with
  | refl v => rfl
  | trans h _ ih ih' => exact (ih hv).trans (ih' (h.wellFormed hv))
  | @fields fields fields' hperm =>
    obtain ⟨-, hnodup⟩ := hv.self
    have hcollect := (hperm.map fun field : Text × Value => (field.1, field.2.collect))
    have hnodup' : (([] ++ fields'.map fun field : Text × Value =>
        (field.1, field.2.collect)).map Prod.fst).Nodup := by
      rw [List.nil_append, List.map_map]
      exact (hperm.map Prod.fst).nodup_iff.mp hnodup
    obtain ⟨hsorted, hperm'⟩ := insertFields_sorted List.Pairwise.nil hnodup'
    rw [collect, collect, collectFields_eq, collectFields_eq,
      insertFields_eq (hcollect.trans hperm'.symm) hsorted]
  | @element v w before after _ ih =>
    rw [collect, collect, collectValues_eq, collectValues_eq, List.map_append, List.map_append,
      List.map_cons, List.map_cons, ih ((every_array.mp hv).2 v (by simp))]
  | @field v w before key after _ ih =>
    rw [collect, collect, collectFields_eq, collectFields_eq, List.map_append, List.map_append,
      List.map_cons, List.map_cons, ih ((every_object.mp hv).2 (key, v) (by simp))]

/-- A value that is in the order of the map already is left alone. -/
theorem collect_self {v : Value} (hmap : v.MapOrdered) : v.collect = v := by
  induction v using Value.induction with
  | hnull => rfl
  | hbool b => rfl
  | hstring s => rfl
  | hnumber n => rfl
  | harray values ih =>
    have hall := (every_array.mp hmap).2
    rw [collect, collectValues_eq]
    congr 1
    exact List.map_congr_left (g := id) (fun v hmem => ih v hmem (hall v hmem)) |>.trans
      (List.map_id _)
  | hobject fields ih =>
    obtain ⟨hsorted, hall⟩ := every_object.mp hmap
    have hfields : (fields.map fun field => (field.1, field.2.collect)) = fields := by
      refine List.map_congr_left (g := id) (fun field hmem => ?_) |>.trans (List.map_id _)
      exact Prod.ext rfl (ih field hmem (hall field hmem))
    rw [collect, collectFields_eq, hfields,
      insertFields_eq (List.Perm.refl fields) (hsorted fields rfl)]

/-- **Collecting a canonical value gives the value back**: its fields were only sorted. -/
theorem collect_canonical {v : Value} (hv : v.WellFormed) (hmap : v.MapOrdered) :
    v.canonical.collect = v := by
  induction v using Value.induction with
  | hnull => rfl
  | hbool b => rfl
  | hstring s => rfl
  | hnumber n =>
    cases n with
    | negInt z =>
      have hneg : -2 ^ 63 ≤ z ∧ z < 0 := hv.self
      rw [canonical, Number.canonical, collect]
      congr 2
      omega
    | _ => rfl
  | harray values ih =>
    have hall := (every_array.mp hv).2
    have hallMap := (every_array.mp hmap).2
    rw [canonical, collect, canonicalValues_eq, collectValues_eq, List.map_map]
    congr 1
    refine List.map_congr_left (g := id) (fun v hmem => ?_) |>.trans (List.map_id _)
    exact ih v hmem (hall v hmem) (hallMap v hmem)
  | hobject fields ih =>
    have hall := (every_object.mp hv).2
    obtain ⟨hsorted, hallMap⟩ := every_object.mp hmap
    have hcollect : (fields.map canonicalField).map (fun field => (field.1, field.2.collect)) =
        fields := by
      rw [List.map_map]
      refine List.map_congr_left (g := id) (fun field hmem => ?_) |>.trans (List.map_id _)
      exact Prod.ext rfl (ih field hmem (hall field hmem) (hallMap field hmem))
    rw [canonical, collect, canonicalFields_eq, collectFields_eq, ← sortFields_map collect,
      hcollect, insertFields_eq (sortFields_perm_self fields) (hsorted fields rfl)]

end Value

end Idr
