/-
Idr/Protocol/Limits.lean

The resource limits of a JSON value.

`validate_json_limits` walks over a value with a stack and counts the nodes.
What it accepts does not depend on the order of the walk: the value has at
most 10000 nodes, at most 32 levels, and safe integers only
(`validateJsonLimits_eq_ok`).  The loop invariant is about the whole stack:
the nodes still to be visited are those of all its entries.
-/
import Idr.Protocol.Tree
import Mathlib.Algebra.GroupWithZero.Nat

namespace Idr

/-! ### Size and depth -/

namespace Value

mutual

/-- The number of nodes: the value and all its parts. -/
def nodes : Value → Nat
  | .array values => 1 + nodesValues values
  | .object fields => 1 + nodesFields fields
  | .null => 1
  | .bool _ => 1
  | .number _ => 1
  | .string _ => 1

def nodesValues : List Value → Nat
  | [] => 0
  | v :: vs => v.nodes + nodesValues vs

def nodesFields : List (Text × Value) → Nat
  | [] => 0
  | (_, v) :: fields => v.nodes + nodesFields fields

end

mutual

/-- The number of levels. -/
def height : Value → Nat
  | .array values => 1 + heightValues values
  | .object fields => 1 + heightFields fields
  | .null => 1
  | .bool _ => 1
  | .number _ => 1
  | .string _ => 1

def heightValues : List Value → Nat
  | [] => 0
  | v :: vs => max v.height (heightValues vs)

def heightFields : List (Text × Value) → Nat
  | [] => 0
  | (_, v) :: fields => max v.height (heightFields fields)

end

theorem nodesValues_eq (values : List Value) : nodesValues values = (values.map nodes).sum := by
  induction values with
  | nil => rfl
  | cons v vs ih => rw [nodesValues, ih, List.map_cons, List.sum_cons]

theorem nodesFields_eq (fields : List (Text × Value)) :
    nodesFields fields = (fields.map fun field => field.2.nodes).sum := by
  induction fields with
  | nil => rfl
  | cons field fields ih =>
    obtain ⟨key, v⟩ := field
    rw [nodesFields, ih, List.map_cons, List.sum_cons]

theorem heightValues_le {values : List Value} {k : Nat} :
    heightValues values ≤ k ↔ ∀ v ∈ values, v.height ≤ k := by
  induction values with
  | nil => exact ⟨fun _ v hv => (by cases hv), fun _ => Nat.zero_le k⟩
  | cons v vs ih => rw [heightValues, Nat.max_le, ih, List.forall_mem_cons]

theorem heightFields_le {fields : List (Text × Value)} {k : Nat} :
    heightFields fields ≤ k ↔ ∀ field ∈ fields, field.2.height ≤ k := by
  induction fields with
  | nil => exact ⟨fun _ v hv => (by cases hv), fun _ => Nat.zero_le k⟩
  | cons field fields ih =>
    obtain ⟨key, v⟩ := field
    rw [heightFields, Nat.max_le, ih, List.forall_mem_cons]

theorem height_array (values : List Value) (k : Nat) :
    (Value.array values).height ≤ k + 1 ↔ ∀ v ∈ values, v.height ≤ k := by
  rw [height, Nat.add_comm, Nat.add_le_add_iff_right, heightValues_le]

theorem height_object (fields : List (Text × Value)) (k : Nat) :
    (Value.object fields).height ≤ k + 1 ↔ ∀ field ∈ fields, field.2.height ≤ k := by
  rw [height, Nat.add_comm, Nat.add_le_add_iff_right, heightFields_le]

/-- Every value is a node on a level. -/
theorem height_pos (v : Value) : 0 < v.height := by
  cases v with
  | array values => rw [height]; omega
  | object fields => rw [height]; omega
  | _ => exact Nat.one_pos

theorem nodes_pos (v : Value) : 0 < v.nodes := by
  cases v with
  | array values => rw [nodes]; omega
  | object fields => rw [nodes]; omega
  | _ => exact Nat.one_pos

end Value

/-! ### The order of fields does not matter -/

theorem Reordered.nodes_eq {v w : Value} (h : Reordered v w) : v.nodes = w.nodes := by
  induction h with
  | refl v => rfl
  | trans _ _ ih ih' => exact ih.trans ih'
  | fields hperm =>
    rw [Value.nodes, Value.nodes, Value.nodesFields_eq, Value.nodesFields_eq,
      (hperm.map _).sum_nat]
  | element before after _ ih =>
    rw [Value.nodes, Value.nodes, Value.nodesValues_eq, Value.nodesValues_eq]
    simp only [List.map_append, List.map_cons, ih]
  | field before key after _ ih =>
    rw [Value.nodes, Value.nodes, Value.nodesFields_eq, Value.nodesFields_eq]
    simp only [List.map_append, List.map_cons, ih]

theorem Reordered.height_eq {v w : Value} (h : Reordered v w) : v.height = w.height := by
  have hantisymm : ∀ {m n : Nat}, (∀ k, m ≤ k ↔ n ≤ k) → m = n := fun h =>
    Nat.le_antisymm ((h _).mpr (Nat.le_refl _)) ((h _).mp (Nat.le_refl _))
  induction h with
  | refl v => rfl
  | trans _ _ ih ih' => exact ih.trans ih'
  | fields hperm =>
    rw [Value.height, Value.height]
    congr 1
    apply hantisymm
    intro k
    rw [Value.heightFields_le, Value.heightFields_le]
    exact forall_congr' fun field => imp_congr_left hperm.mem_iff
  | element before after _ ih =>
    rw [Value.height, Value.height]
    congr 1
    apply hantisymm
    intro k
    rw [Value.heightValues_le, Value.heightValues_le]
    simp only [List.forall_mem_append, List.forall_mem_cons, ih]
  | field before key after _ ih =>
    rw [Value.height, Value.height]
    congr 1
    apply hantisymm
    intro k
    rw [Value.heightFields_le, Value.heightFields_le]
    simp only [List.forall_mem_append, List.forall_mem_cons, ih]

theorem Reordered.safeNumbers {v w : Value} (h : Reordered v w) (hv : v.WellFormed) :
    w.SafeNumbers ↔ v.SafeNumbers := by
  rw [← writes_iff, ← writes_iff]
  simp only [WrittenValue, h.writes hv]

/-! ### The walk -/

/-- What the walk accepts of a stack entry: its levels, from its depth on, and its numbers. -/
def EntryOk (entry : Value × Nat) : Prop :=
  entry.2 + entry.1.height ≤ 33 ∧ entry.1.SafeNumbers

/-- **The walk accepts a stack** when the nodes of all its entries fit, and each entry does. -/
theorem validateJsonLimitsLoop_eq_ok (n : Nat) :
    ∀ stack : List (Value × Nat), validateJsonLimitsLoop n stack = .ok () ↔
      (stack.map fun entry => entry.1.nodes).sum ≤ n ∧ ∀ entry ∈ stack, EntryOk entry := by
  induction n with
  | zero =>
    intro stack
    cases stack with
    | nil => exact ⟨fun _ => ⟨Nat.le_refl 0, fun entry h => (by cases h)⟩, fun _ => rfl⟩
    | cons entry stack =>
      have hpos := entry.1.nodes_pos
      constructor
      · intro h
        cases h
      · rintro ⟨h, -⟩
        rw [List.map_cons, List.sum_cons] at h
        omega
  | succ n ih =>
    intro stack
    cases stack with
    | nil => exact ⟨fun _ => ⟨Nat.zero_le _, fun entry h => (by cases h)⟩, fun _ => rfl⟩
    | cons entry stack =>
      obtain ⟨value, depth⟩ := entry
      have hheight := value.height_pos
      rw [List.map_cons, List.sum_cons, List.forall_mem_cons]
      unfold validateJsonLimitsLoop
      by_cases hdepth : depth > 32
      · rw [if_pos hdepth]
        refine ⟨fun h => (by cases h), ?_⟩
        rintro ⟨-, ⟨hle, -⟩, -⟩
        dsimp only at hle
        omega
      rw [if_neg hdepth]
      -- a value without parts is one node on one level
      have hleaf : value.nodes = 1 → value.height = 1 → value.SafeNumbers →
          (validateJsonLimitsLoop n stack = .ok () ↔
            value.nodes + (stack.map fun entry => entry.1.nodes).sum ≤ n + 1 ∧
              EntryOk (value, depth) ∧ ∀ entry ∈ stack, EntryOk entry) := by
        intro hnodes hlevel hsafe
        rw [ih stack, hnodes]
        have hok : EntryOk (value, depth) := ⟨by dsimp only; omega, hsafe⟩
        simp only [hok, true_and, Nat.add_comm 1, Nat.add_le_add_iff_right]
      -- a value with parts puts them on the stack
      have hparts : ∀ children : List Value,
          value.nodes = 1 + (children.map Value.nodes).sum →
          (∀ k, value.height ≤ k + 1 ↔ ∀ child ∈ children, child.height ≤ k) →
          (value.SafeNumbers ↔ ∀ child ∈ children, child.SafeNumbers) →
          (validateJsonLimitsLoop n
              ((children.map fun child => (child, depth + 1)).reverse ++ stack) = .ok () ↔
            value.nodes + (stack.map fun entry => entry.1.nodes).sum ≤ n + 1 ∧
              EntryOk (value, depth) ∧ ∀ entry ∈ stack, EntryOk entry) := by
        intro children hnodes hlevel hsafe
        have hentry : EntryOk (value, depth) ↔
            ∀ child ∈ children, EntryOk (child, depth + 1) := by
          have hbound := hlevel (32 - depth)
          rw [EntryOk, hsafe]
          dsimp only
          constructor
          · rintro ⟨hle, hall⟩ child hchild
            have hchildLe := hbound.mp (by omega) child hchild
            exact ⟨by dsimp only; omega, hall child hchild⟩
          · intro hall
            have hle := hbound.mpr fun child hchild => by
              have hchildLe := (hall child hchild).1
              dsimp only at hchildLe
              omega
            exact ⟨by omega, fun child hchild => (hall child hchild).2⟩
        rw [ih, hentry, hnodes, List.map_append, List.sum_append, List.map_reverse,
          List.sum_reverse, List.map_map, List.forall_mem_append]
        have hreverse : (∀ entry ∈ (children.map fun child => (child, depth + 1)).reverse,
            EntryOk entry) ↔ ∀ child ∈ children, EntryOk (child, depth + 1) := by
          simp only [List.mem_reverse, List.forall_mem_map]
        rw [hreverse]
        show ((children.map Value.nodes).sum + _ ≤ n ∧ _) ↔ _
        rw [Nat.add_assoc, Nat.add_comm 1, Nat.add_le_add_iff_right]
      cases value with
      | array values =>
        apply hparts values
        · rw [Value.nodes, Value.nodesValues_eq]
        · exact Value.height_array values
        · rw [Value.SafeNumbers, Value.every_array]
          exact ⟨fun h => h.2, fun h => ⟨fun n hn => (by cases hn), h⟩⟩
      | object fields =>
        have hstack : fields.map (fun f => (f.2, depth + 1)) =
            (fields.map Prod.snd).map fun child => (child, depth + 1) := by
          rw [List.map_map]
          rfl
        dsimp only
        rw [hstack]
        apply hparts
        · rw [Value.nodes, Value.nodesFields_eq, List.map_map]
          rfl
        · intro k
          rw [Value.height_object]
          simp only [List.forall_mem_map]
        · rw [Value.SafeNumbers, Value.every_object]
          simp only [List.forall_mem_map]
          exact ⟨fun h => h.2, fun h => ⟨fun n hn => (by cases hn), h⟩⟩
      | number number =>
        have hsafe : (Value.number number).SafeNumbers ↔ number.IsSafeInteger := by
          rw [Value.SafeNumbers, Value.every_number]
          exact ⟨fun h => h number rfl, fun h n hn => by cases hn; exact h⟩
        simp only [bind_eq_ok, exists_unit_eq_ok, validateCanonicalNumber_eq_ok]
        constructor
        · rintro ⟨hnumber, hrest⟩
          exact (hleaf rfl rfl (hsafe.mpr hnumber)).mp hrest
        · intro h
          have hnumber := h.2.1.2
          exact ⟨hsafe.mp hnumber, (hleaf rfl rfl hnumber).mpr h⟩
      | null => exact hleaf rfl rfl (safeNumbers_leaf (fun u hu => by cases hu; rfl) (by simp))
      | bool b => exact hleaf rfl rfl (safeNumbers_leaf (fun u hu => by cases hu; rfl) (by simp))
      | string s => exact hleaf rfl rfl (safeNumbers_leaf (fun u hu => by cases hu; rfl) (by simp))

/-- **What `validate_json_limits` accepts.** -/
theorem validateJsonLimits_eq_ok {v : Value} :
    validateJsonLimits v = .ok () ↔ v.nodes ≤ 10000 ∧ v.height ≤ 32 ∧ v.SafeNumbers := by
  rw [validateJsonLimits, validateJsonLimitsLoop_eq_ok]
  simp only [List.map_cons, List.map_nil, List.sum_cons, List.sum_nil, Nat.add_zero,
    List.mem_singleton, forall_eq, EntryOk]
  rw [show 1 + v.height ≤ 33 ↔ v.height ≤ 32 by omega]

end Idr
