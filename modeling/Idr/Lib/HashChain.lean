/-
Idr/Lib/HashChain.lean

Hash chains, and tables in which several chains are interleaved.

A link `ρ` of a chain continues a hash (`accepts h row`) and leaves one
behind (`out row`); `Linked` says that a list of links is a chain from a
hash on, and `tail` is the hash at its end.  A table holds the chains of
several keys: `Interleaved` is the loop that walks over it once and keeps
the tail of each key, and it accepts exactly the tables whose chains are
all linked (`interleaved_iff`).

Two chains with the same tail carry the same contents (`Linked.binding`).
The proof walks both chains back from their ends.  Only the links at hand
must not collide, and none of them may lead to the hash that the chains
start from: that is what keeps a chain from ending inside another one.

Nothing here names the program.
-/
import Mathlib.Logic.Function.Basic
import Mathlib.Data.List.Induction

namespace Idr

namespace HashChain

universe u v w x

variable {η : Type u} {ρ : Type v} {κ : Type w} {α : Type x}

/-! ### One chain -/

/-- The hash at the end of a list of links. -/
@[grind =]
def tail (out : ρ → η) (h : η) (rows : List ρ) : η :=
  rows.foldl (fun _ row => out row) h

/-- Each link continues the one before it. -/
@[grind =]
def Linked (accepts : η → ρ → Prop) (out : ρ → η) : η → List ρ → Prop
  | _, [] => True
  | h, row :: rows => accepts h row ∧ Linked accepts out (out row) rows

variable {accepts : η → ρ → Prop} {out : ρ → η} {h g : η} {row : ρ} {rows rows' : List ρ}

theorem tail_append : tail out h (rows ++ [row]) = out row := by
  rw [tail, List.foldl_append]
  rfl

theorem tail_eq_getLast : tail out h rows = (rows.getLast?.map out).getD h := by
  rcases List.eq_nil_or_concat rows with rfl | ⟨rows, row, rfl⟩
  · rfl
  · rw [List.concat_eq_append, tail_append, List.getLast?_append]
    rfl

theorem linked_append :
    Linked accepts out h (rows ++ [row]) ↔
      Linked accepts out h rows ∧ accepts (tail out h rows) row := by
  induction rows generalizing h with
  | nil =>
    show accepts h row ∧ True ↔ True ∧ accepts h row
    rw [and_true, true_and]
  | cons r rows ih =>
    show accepts h r ∧ Linked accepts out (out r) (rows ++ [row]) ↔
      (accepts h r ∧ Linked accepts out (out r) rows) ∧ accepts (tail out (out r) rows) row
    rw [ih, and_assoc]

/-- Every link of a chain continues some hash. -/
theorem Linked.exists_accepts (hrows : Linked accepts out h rows) (hrow : row ∈ rows) :
    ∃ previous, accepts previous row := by
  induction rows generalizing h with
  | nil => cases hrow
  | cons r rows ih =>
    rcases List.mem_cons.mp hrow with rfl | hmem
    · exact ⟨h, hrows.1⟩
    · exact ih hrows.2 hmem

/-- **The tail of a chain binds its contents.** -/
theorem Linked.binding {accepts' : η → ρ → Prop} {content : ρ → α}
    (hrows : Linked accepts out g rows) (hrows' : Linked accepts' out g rows')
    (htail : tail out g rows = tail out g rows')
    (hinj : ∀ row ∈ rows, ∀ row' ∈ rows', out row = out row' → ∀ h h',
      accepts h row → accepts' h' row' → h = h' ∧ content row = content row')
    (hstart : ∀ row ∈ rows, out row ≠ g) (hstart' : ∀ row ∈ rows', out row ≠ g) :
    rows.map content = rows'.map content := by
  induction rows using List.reverseRecOn generalizing rows' with
  | nil =>
    -- a chain that ends where it starts has no link
    rcases List.eq_nil_or_concat rows' with rfl | ⟨rows', row', rfl⟩
    · rfl
    · rw [List.concat_eq_append] at htail hstart'
      rw [tail_append] at htail
      exact absurd htail.symm (hstart' row' (by simp))
  | append_singleton rows row ih =>
    rcases List.eq_nil_or_concat rows' with rfl | ⟨rows', row', rfl⟩
    · rw [tail_append] at htail
      exact absurd htail (hstart row (by simp))
    · rw [List.concat_eq_append] at *
      rw [tail_append, tail_append] at htail
      obtain ⟨hrows, hrow⟩ := linked_append.mp hrows
      obtain ⟨hrows', hrow'⟩ := linked_append.mp hrows'
      obtain ⟨hprevious, hcontent⟩ := hinj row (by simp) row' (by simp) htail _ _ hrow hrow'
      have hrest := ih hrows hrows' hprevious
        (fun r hr r' hr' => hinj r (List.mem_append_left _ hr) r' (List.mem_append_left _ hr'))
        (fun r hr => hstart r (List.mem_append_left _ hr))
        (fun r hr => hstart' r (List.mem_append_left _ hr))
      rw [List.map_append, List.map_append, hrest, List.map_singleton, List.map_singleton, hcontent]

/-! ### Interleaved chains -/

variable [DecidableEq κ] {key : ρ → κ}

/-- The chain of a key. -/
@[grind =]
def chainOf (key : ρ → κ) (k : κ) (rows : List ρ) : List ρ :=
  rows.filter fun row => key row = k

theorem chainOf_append {k : κ} :
    chainOf key k (rows ++ rows') = chainOf key k rows ++ chainOf key k rows' := by
  rw [chainOf, chainOf, chainOf, List.filter_append]

theorem chainOf_cons_self {k : κ} (hk : key row = k) :
    chainOf key k (row :: rows) = row :: chainOf key k rows :=
  List.filter_cons_of_pos (decide_eq_true hk)

theorem chainOf_cons_ne {k : κ} (hk : key row ≠ k) :
    chainOf key k (row :: rows) = chainOf key k rows := by
  rw [chainOf, List.filter_cons_of_neg (by simpa using hk)]
  rfl

/-- One walk over the table, with the tail of every key. -/
@[grind =]
def Interleaved (accepts : η → ρ → Prop) (key : ρ → κ) (out : ρ → η) : (κ → η) → List ρ → Prop
  | _, [] => True
  | tails, row :: rows => accepts (tails (key row)) row ∧
      Interleaved accepts key out (Function.update tails (key row) (out row)) rows

/-- **The walk accepts the tables whose chains are linked.** -/
theorem interleaved_iff {tails : κ → η} : Interleaved accepts key out tails rows ↔
    ∀ k, Linked accepts out (tails k) (chainOf key k rows) := by
  induction rows generalizing tails with
  | nil => exact ⟨fun _ _ => trivial, fun _ => trivial⟩
  | cons row rows ih =>
    show accepts (tails (key row)) row ∧ Interleaved accepts key out _ rows ↔ _
    rw [ih]
    constructor
    · rintro ⟨hrow, hrows⟩ k
      have hk := hrows k
      by_cases heq : key row = k
      · rw [chainOf_cons_self heq]
        rw [← heq, Function.update_self] at hk
        rw [← heq]
        exact ⟨hrow, hk⟩
      · rw [Function.update_of_ne (Ne.symm heq)] at hk
        rwa [chainOf_cons_ne heq]
    · intro hall
      have hself := hall (key row)
      rw [chainOf_cons_self rfl] at hself
      refine ⟨hself.1, fun k => ?_⟩
      by_cases heq : key row = k
      · rw [← heq, Function.update_self]
        exact hself.2
      · have hk := hall k
        rw [chainOf_cons_ne heq] at hk
        rwa [Function.update_of_ne (Ne.symm heq)]

end HashChain

end Idr
