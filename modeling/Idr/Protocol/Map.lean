/-
Idr/Protocol/Map.lean

The map of an object.

A map keeps its fields in the byte order of their keys.  `insertField` is the
only way in, so what it keeps is what a map is: with distinct keys, the fields
inserted in any order are the sorted list of them (`insertFields_eq`).
-/
import Idr.Protocol.Utf
import Idr.Lib.SortedSet

namespace Idr

/-! ### The order of keys -/

/-- The numbers a text is compared by. -/
def textKey (s : Text) : List Nat := s.bytes.map UInt8.toNat

/-- A set of texts is ascending in its keys. -/
theorem sortedSet_compareText_pairwise (names : List Text) :
    (sortedSet compareText names).Pairwise fun a b => textKey a < textKey b := by
  refine sortedSet_pairwise ?_ ?_ ?_ names
  · exact fun a b h => compareNats_eq_lt.mp h
  · exact fun a b h => compareNats_eq_gt.mp h
  · exact fun a b c hab hbc => hab.trans hbc

/-- A set of texts has as many elements as the list exactly when the list has no duplicates. -/
theorem length_sortedSet_compareText {names : List Text} :
    (sortedSet compareText names).length = names.length ↔ names.Nodup := by
  apply length_sortedSet_iff (r := fun a b => textKey a < textKey b)
  · exact fun a b h => compareNats_eq_lt.mp h
  · exact fun a b h => compareNats_eq_gt.mp h
  · exact fun a b c hab hbc => hab.trans hbc
  · exact fun a => lt_irrefl _
  · exact fun a b h => compareText_eq h

/-- The field comes before the other in a map. -/
def FieldBefore {α : Type} (a b : Text × α) : Prop := compareText a.1 b.1 = .lt

theorem fieldBefore_iff {α : Type} {a b : Text × α} :
    FieldBefore a b ↔ textKey a.1 < textKey b.1 := compareNats_eq_lt

/-! ### Insertion -/

/-- What a key selects after an insertion. -/
theorem lookup_insertField (fields : List (Text × Value)) (key key' : Text) (v : Value) :
    (insertField fields key v).lookup key' = if key' = key then some v else fields.lookup key' := by
  induction fields with
  | nil =>
    rw [insertField, List.lookup_cons]
    rcases hkey : key' == key with _ | _
    · rw [if_neg (by simpa using hkey)]
    · rw [if_pos (eq_of_beq hkey)]
  | cons field fields ih =>
    obtain ⟨k, w⟩ := field
    rw [insertField]
    split
    · rw [List.lookup_cons]
      rcases hkey : key' == key with _ | _
      · rw [if_neg (by simpa using hkey)]
      · rw [if_pos (eq_of_beq hkey)]
    · rename_i hcompare
      obtain rfl := compareText_eq hcompare
      rw [List.lookup_cons, List.lookup_cons]
      rcases hkey : key' == key with _ | _
      · rw [if_neg (by simpa using hkey)]
      · rw [if_pos (eq_of_beq hkey)]
    · rename_i hcompare
      -- the inserted key is not the one it passes
      have hne : key ≠ k := by
        rintro rfl
        rw [compareText, compareNats_eq_gt] at hcompare
        exact lt_irrefl _ hcompare
      rw [List.lookup_cons, ih, List.lookup_cons]
      rcases hkey : key' == k with _ | _
      · rfl
      · have hkey' : key' ≠ key := by
          rw [eq_of_beq hkey]
          exact Ne.symm hne
        rw [if_neg hkey', if_neg hkey']

theorem insertField_perm {fields : List (Text × Value)} {key : Text} (v : Value)
    (hkey : key ∉ fields.map Prod.fst) : (insertField fields key v).Perm ((key, v) :: fields) := by
  induction fields with
  | nil => exact List.Perm.refl _
  | cons field fields ih =>
    obtain ⟨k, w⟩ := field
    rw [List.map_cons, List.mem_cons, not_or] at hkey
    rw [insertField]
    split
    · exact List.Perm.refl _
    · rename_i hcompare
      exact absurd (compareText_eq hcompare) hkey.1
    · exact ((ih hkey.2).cons _).trans (List.Perm.swap _ _ _)

theorem insertField_sorted {fields : List (Text × Value)} {key : Text} (v : Value)
    (hkey : key ∉ fields.map Prod.fst) (hsorted : fields.Pairwise FieldBefore) :
    (insertField fields key v).Pairwise FieldBefore := by
  induction fields with
  | nil => exact List.pairwise_singleton _ _
  | cons field fields ih =>
    obtain ⟨k, w⟩ := field
    have hkeys := hkey
    rw [List.map_cons, List.mem_cons, not_or] at hkey
    rw [List.pairwise_cons] at hsorted
    rw [insertField]
    split
    · rename_i hcompare
      refine List.pairwise_cons.mpr ⟨?_, List.pairwise_cons.mpr hsorted⟩
      rw [List.forall_mem_cons]
      refine ⟨hcompare, fun b hb => ?_⟩
      have hlt := fieldBefore_iff.mp (hsorted.1 b hb)
      exact fieldBefore_iff.mpr ((compareNats_eq_lt.mp hcompare).trans hlt)
    · rename_i hcompare
      exact absurd (compareText_eq hcompare) hkey.1
    · rename_i hcompare
      refine List.pairwise_cons.mpr ⟨fun b hb => ?_, ih hkey.2 hsorted.2⟩
      rcases List.mem_cons.mp ((insertField_perm v hkey.2).mem_iff.mp hb) with rfl | hb
      · exact fieldBefore_iff.mpr (compareNats_eq_gt.mp hcompare)
      · exact hsorted.1 b hb

/-- Insert fields one after the other. -/
def insertFields (fields acc : List (Text × Value)) : List (Text × Value) :=
  fields.foldl (fun acc field => insertField acc field.1 field.2) acc

theorem insertFields_sorted {fields : List (Text × Value)} :
    ∀ {acc : List (Text × Value)}, acc.Pairwise FieldBefore →
      ((acc ++ fields).map Prod.fst).Nodup →
        (insertFields fields acc).Pairwise FieldBefore ∧
          (insertFields fields acc).Perm (acc ++ fields) := by
  induction fields with
  | nil =>
    intro acc hsorted _
    exact ⟨hsorted, by rw [List.append_nil]; exact List.Perm.refl _⟩
  | cons field fields ih =>
    intro acc hsorted hnodup
    obtain ⟨key, v⟩ := field
    have hkey : key ∉ acc.map Prod.fst := by
      rw [List.map_append, List.map_cons, List.nodup_append] at hnodup
      exact fun hmem => hnodup.2.2 _ hmem _ (by simp) rfl
    -- inserting the field, or putting it behind, has the same fields
    have hperm : (insertField acc key v ++ fields).Perm (acc ++ (key, v) :: fields) :=
      ((insertField_perm v hkey).append_right fields).trans List.perm_middle.symm
    obtain ⟨hall, hrest⟩ := ih (insertField_sorted v hkey hsorted)
      ((hperm.map Prod.fst).nodup_iff.mpr hnodup)
    exact ⟨hall, hrest.trans hperm⟩

/-- **Fields inserted in any order make the same map.** -/
theorem insertFields_eq {fields sorted : List (Text × Value)} (hperm : fields.Perm sorted)
    (hsorted : sorted.Pairwise FieldBefore) : insertFields fields [] = sorted := by
  have hirrefl : ∀ a b : Text × Value, FieldBefore a b → a.1 ≠ b.1 := by
    intro a b h heq
    rw [fieldBefore_iff, heq] at h
    exact lt_irrefl _ h
  have hnodup : (sorted.map Prod.fst).Nodup :=
    List.pairwise_map.mpr (hsorted.imp fun {a b} h => hirrefl a b h)
  have hinserted : (insertFields fields []).Pairwise FieldBefore ∧
      (insertFields fields []).Perm ([] ++ fields) :=
    insertFields_sorted List.Pairwise.nil
      (by rw [List.nil_append]; exact (hperm.map Prod.fst).nodup_iff.mpr hnodup)
  obtain ⟨hall, hrest⟩ := hinserted
  apply List.Perm.eq_of_pairwise _ hall hsorted (hrest.trans hperm)
  intro a b _ _ hab hba
  rw [fieldBefore_iff] at hab hba
  exact absurd hba (lt_asymm hab)

end Idr
