/-
Idr/Lib/SortedSet.lean

Ordered sets and maps as lists.

The source keeps its sets and maps in B-trees.  Here such a set is the
list of its elements in ascending order, and insertion puts a new element
at its place and leaves a present one where it is.  `mem_insertSorted`
says that insertion adds one element and nothing else, whatever the
comparison is, as long as elements that compare equal are equal.  Where the
comparison is that of an order, the set is ascending (`sortedSet_pairwise`),
and so its elements are distinct.
-/
import Mathlib.Data.List.Perm.Subperm

namespace Idr

universe u v

variable {α : Type u} {κ : Type u} {β : Type v}

/-- `BTreeSet::insert`. -/
@[grind =]
def insertSorted (cmp : α → α → Ordering) (a : α) : List α → List α
  | [] => [a]
  | b :: bs =>
    match cmp a b with
    | .lt => a :: b :: bs
    | .eq => b :: bs
    | .gt => b :: insertSorted cmp a bs

/-- The ascending set of the elements of a list. -/
@[grind =]
def sortedSet (cmp : α → α → Ordering) (as : List α) : List α :=
  as.foldl (fun set a => insertSorted cmp a set) []

/-- A comparison whose equal elements are equal. -/
def EqOfCompare (cmp : α → α → Ordering) : Prop := ∀ a b, cmp a b = .eq → a = b

/-- **Insertion adds exactly its element.** -/
theorem mem_insertSorted {cmp : α → α → Ordering} (hcmp : EqOfCompare cmp) {a x : α}
    {set : List α} : x ∈ insertSorted cmp a set ↔ x = a ∨ x ∈ set := by
  induction set with
  | nil => simp [insertSorted]
  | cons b bs ih =>
    unfold insertSorted
    rcases e : cmp a b with _ | _ | _
    · simp
    · have hab := hcmp a b e
      simp [hab]
    · simp only [List.mem_cons, ih]
      tauto

/-- Insertion adds no more than its element. -/
theorem mem_of_mem_insertSorted {cmp : α → α → Ordering} {a x : α} {set : List α}
    (h : x ∈ insertSorted cmp a set) : x = a ∨ x ∈ set := by
  induction set with
  | nil => simpa [insertSorted] using h
  | cons b bs ih =>
    unfold insertSorted at h
    rcases e : cmp a b with _ | _ | _ <;> rw [e] at h
    · simpa using h
    · exact .inr h
    · rcases List.mem_cons.mp h with rfl | h
      · exact .inr List.mem_cons_self
      · exact (ih h).imp id (List.mem_cons_of_mem b)

theorem mem_of_mem_sortedSet {cmp : α → α → Ordering} {x : α} {as : List α}
    (h : x ∈ sortedSet cmp as) : x ∈ as := by
  have hfold : ∀ (as set : List α), x ∈ as.foldl (fun set a => insertSorted cmp a set) set →
      x ∈ as ∨ x ∈ set := by
    intro as
    induction as with
    | nil => exact fun set h => .inr h
    | cons a as ih =>
      intro set h
      rcases ih _ h with h | h
      · exact .inl (List.mem_cons_of_mem a h)
      · rcases mem_of_mem_insertSorted h with rfl | h
        · exact .inl List.mem_cons_self
        · exact .inr h
  exact (hfold as [] h).resolve_right (List.not_mem_nil)

theorem mem_foldl_insertSorted {cmp : α → α → Ordering} (hcmp : EqOfCompare cmp) {x : α}
    (as : List α) : ∀ set : List α,
      x ∈ as.foldl (fun set a => insertSorted cmp a set) set ↔ x ∈ as ∨ x ∈ set := by
  induction as with
  | nil => simp
  | cons a as ih =>
    intro set
    simp only [List.foldl_cons, ih, mem_insertSorted hcmp, List.mem_cons]
    tauto

theorem mem_sortedSet {cmp : α → α → Ordering} (hcmp : EqOfCompare cmp) {x : α} {as : List α} :
    x ∈ sortedSet cmp as ↔ x ∈ as := by
  simp [sortedSet, mem_foldl_insertSorted hcmp]

/-! ### The order of the elements -/

section Order

variable {cmp : α → α → Ordering} {r : α → α → Prop} (hlt : ∀ a b, cmp a b = .lt → r a b)
  (hgt : ∀ a b, cmp a b = .gt → r b a) (htrans : ∀ a b c, r a b → r b c → r a c)

include hlt hgt htrans

theorem insertSorted_pairwise {a : α} {set : List α} (h : set.Pairwise r) :
    (insertSorted cmp a set).Pairwise r := by
  induction set with
  | nil => exact List.pairwise_singleton r a
  | cons b bs ih =>
    obtain ⟨hb, hbs⟩ := List.pairwise_cons.mp h
    unfold insertSorted
    rcases e : cmp a b with _ | _ | _
    · refine List.pairwise_cons.mpr ⟨?_, h⟩
      rw [List.forall_mem_cons]
      exact ⟨hlt a b e, fun x hx => htrans a b x (hlt a b e) (hb x hx)⟩
    · exact h
    · refine List.pairwise_cons.mpr ⟨fun x hx => ?_, ih hbs⟩
      rcases mem_of_mem_insertSorted hx with rfl | hx
      · exact hgt x b e
      · exact hb x hx

/-- **The set of a list is ascending.** -/
theorem sortedSet_pairwise (as : List α) : (sortedSet cmp as).Pairwise r := by
  have hfold : ∀ (as set : List α), set.Pairwise r →
      (as.foldl (fun set a => insertSorted cmp a set) set).Pairwise r := by
    intro as
    induction as with
    | nil => exact fun set h => h
    | cons a as ih => exact fun set h => ih _ (insertSorted_pairwise hlt hgt htrans h)
  exact hfold as [] List.Pairwise.nil

/-- **The set has as many elements as the list exactly when the list has no duplicates.** -/
theorem length_sortedSet_iff (hirrefl : ∀ a, ¬ r a a) (hcmp : EqOfCompare cmp) {as : List α} :
    (sortedSet cmp as).length = as.length ↔ as.Nodup := by
  have hnodup : (sortedSet cmp as).Nodup := by
    refine (sortedSet_pairwise hlt hgt htrans as).imp ?_
    rintro a _ hlt rfl
    exact hirrefl a hlt
  have hmem : ∀ a, a ∈ sortedSet cmp as ↔ a ∈ as := fun a => mem_sortedSet hcmp
  constructor
  · intro hlength
    have hsub : (sortedSet cmp as).Subperm as := hnodup.subperm fun a ha => (hmem a).mp ha
    exact (hsub.perm_of_length_le (Nat.le_of_eq hlength.symm)).nodup_iff.mp hnodup
  · intro has
    exact ((List.perm_ext_iff_of_nodup hnodup has).mpr hmem).length_eq

end Order

end Idr
