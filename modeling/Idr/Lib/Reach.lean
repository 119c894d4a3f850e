/-
Idr/Lib/Reach.lean

Reachability along a finite list of edges.

`reach` is what a recursive query with `UNION` computes: it starts from
the root and adds the target of an edge whose source it has and whose
target it has not, until there is none.  Every addition uses an edge up,
so the number of edges is fuel enough, and the result is the set of the
nodes that the reflexive and transitive closure of the edges relates to
the root (`mem_reach`).

Nothing here names the program.
-/
import Mathlib.Logic.Relation
import Mathlib.Data.List.Basic

namespace Idr

universe u

variable {α : Type u} [DecidableEq α]

/-- The edge leads out of the set. -/
@[grind =]
def leadsOut (found : List α) (edge : α × α) : Bool :=
  found.contains edge.1 && !found.contains edge.2

/-- The nodes found so far, and those that at most `fuel` further edges add. -/
@[grind =]
def reachLoop (edges : List (α × α)) : Nat → List α → List α
  | 0, found => found
  | fuel + 1, found =>
    match edges.find? (leadsOut found) with
    | none => found
    | some edge => reachLoop edges fuel (found ++ [edge.2])

/-- `WITH RECURSIVE … UNION`: the nodes that edges lead to from the root. -/
@[grind =]
def reach (edges : List (α × α)) (root : α) : List α :=
  reachLoop edges edges.length [root]

/-- One node leads to another when an edge does. -/
def Edge (edges : List (α × α)) (x y : α) : Prop := (x, y) ∈ edges

theorem leadsOut_iff {found : List α} {x y : α} :
    leadsOut found (x, y) = true ↔ x ∈ found ∧ y ∉ found := by
  simp [leadsOut]

theorem subset_reachLoop (edges : List (α × α)) (fuel : Nat) :
    ∀ {found : List α} {x : α}, x ∈ found → x ∈ reachLoop edges fuel found := by
  induction fuel with
  | zero => exact fun h => h
  | succ fuel ih =>
    intro found x hx
    unfold reachLoop
    split
    · exact hx
    · exact ih (List.mem_append_left _ hx)

/-- What is found is led to by edges. -/
theorem reachLoop_sound {edges : List (α × α)} {root : α} (fuel : Nat) :
    ∀ {found : List α}, (∀ x ∈ found, Relation.ReflTransGen (Edge edges) root x) →
      ∀ x ∈ reachLoop edges fuel found, Relation.ReflTransGen (Edge edges) root x := by
  induction fuel with
  | zero => exact fun h => h
  | succ fuel ih =>
    intro found hfound
    unfold reachLoop
    split
    · exact hfound
    next edge hedge =>
      apply ih
      intro x hx
      rcases List.mem_append.mp hx with hx | hx
      · exact hfound x hx
      · -- the new node is the target of an edge from a node that was found
        rw [List.mem_singleton.mp hx]
        have hsource : edge.1 ∈ found := (leadsOut_iff.mp (List.find?_some hedge)).1
        have hmem : edge ∈ edges := List.mem_of_find?_eq_some hedge
        exact (hfound _ hsource).tail hmem

/-- The edges that lead to a node outside a set. -/
@[grind =]
def edgesOutside (edges : List (α × α)) (found : List α) : Nat :=
  edges.countP fun edge => !found.contains edge.2

theorem edgesOutside_lt {edges : List (α × α)} {found : List α} {edge : α × α}
    (h : edges.find? (leadsOut found) = some edge) :
    edgesOutside edges (found ++ [edge.2]) < edgesOutside edges found := by
  have houtside : edge.2 ∉ found := (leadsOut_iff.mp (List.find?_some h)).2
  -- count the edge that is used up apart from the others
  have hperm := List.perm_cons_erase (List.mem_of_find?_eq_some h)
  have hrest : edgesOutside (edges.erase edge) (found ++ [edge.2]) ≤
      edgesOutside (edges.erase edge) found := by
    apply List.countP_mono_left
    intro e _ he
    simp only [List.contains_eq_mem, List.mem_append, not_or, Bool.not_eq_true',
      decide_eq_false_iff_not] at he ⊢
    exact he.1
  unfold edgesOutside at hrest ⊢
  rw [hperm.countP_eq, hperm.countP_eq, List.countP_cons_of_neg (by simp),
    List.countP_cons_of_pos (by simpa using houtside)]
  omega

/-- With fuel for every edge that leads outside, no edge leads out of the result. -/
theorem reachLoop_closed {edges : List (α × α)} (fuel : Nat) :
    ∀ {found : List α}, edgesOutside edges found ≤ fuel →
      ∀ x y, (x, y) ∈ edges → x ∈ reachLoop edges fuel found → y ∈ reachLoop edges fuel found := by
  induction fuel with
  | zero =>
    intro found hfuel x y hxy hx
    have hnone : edgesOutside edges found = 0 := Nat.le_zero.mp hfuel
    have hinside : y ∈ found := by simpa using List.countP_eq_zero.mp hnone (x, y) hxy
    exact hinside
  | succ fuel ih =>
    intro found hfuel x y hxy hx
    unfold reachLoop at hx ⊢
    split at hx
    next hnone =>
      by_contra hy
      exact List.find?_eq_none.mp hnone (x, y) hxy (leadsOut_iff.mpr ⟨hx, hy⟩)
    next edge hedge =>
      have hlt := edgesOutside_lt hedge
      exact ih (by omega) x y hxy hx

/-- **What `reach` finds** is what the edges lead to from the root. -/
theorem mem_reach {edges : List (α × α)} {root x : α} :
    x ∈ reach edges root ↔ Relation.ReflTransGen (Edge edges) root x := by
  have hfuel : edgesOutside edges [root] ≤ edges.length := List.countP_le_length
  constructor
  · intro h
    refine reachLoop_sound edges.length ?_ x h
    intro y hy
    rw [List.mem_singleton.mp hy]
  · intro h
    induction h with
    | refl => exact subset_reachLoop edges _ (List.mem_singleton_self root)
    | tail _ hedge ih => exact reachLoop_closed edges.length hfuel _ _ hedge ih

end Idr
