/-
Idr/Lib/Graph.lean

Finite directed graphs: cycles, orders and paths.

A graph is a relation `E` between nodes.  It is acyclic when no path leads
back to where it began (`Acyclic`), which an order of the nodes along the
edges shows (`Along.acyclic`).  The other way round, nodes are peeled off:
those whose predecessors were all taken are ready, and one of them is taken
at a time (`Peeling`).  Peeling takes every node exactly when the graph is
acyclic (`Peeling.acyclic_iff`).  A search that closes a set of nodes under
the edges finds all paths (`not_transGen_of_closed`), and a depth-first visit
finishes one node after another (`Searched.insert`).

Nothing here names the program.
-/
import Mathlib.Logic.Relation
import Mathlib.Order.WellFoundedSet
import Mathlib.Data.List.Nodup
import Mathlib.Data.List.Perm.Subperm

namespace Idr

universe u

variable {α : Type u} {E : α → α → Prop}

/-! ### Cycles -/

/-- No path leads back to where it began. -/
def Acyclic (E : α → α → Prop) : Prop := ∀ a, ¬ Relation.TransGen E a a

/-- In an acyclic graph, some node of each finite set has no edge to it from the set. -/
theorem Acyclic.exists_source (h : Acyclic E) {as : List α} (hne : as ≠ []) :
    ∃ a ∈ as, ∀ b ∈ as, ¬ E b a := by
  let strict : IsStrictOrder α (Relation.TransGen E) :=
    { irrefl := h, trans := fun _ _ _ hab hbc => hab.trans hbc }
  have hfinite : {a | a ∈ as}.Finite := List.finite_toSet as
  obtain ⟨first, hfirst⟩ := List.exists_mem_of_ne_nil as hne
  have hwell : {a | a ∈ as}.WellFoundedOn (Relation.TransGen E) := hfinite.wellFoundedOn
  obtain ⟨a, ha, hmin⟩ := hwell.has_min Set.univ ⟨⟨first, hfirst⟩, trivial⟩
  refine ⟨a.1, a.2, fun b hb hedge => ?_⟩
  exact hmin ⟨b, hb⟩ trivial (.single hedge)

/-! ### Orders -/

/-- Every edge leads forward in the order. -/
def Along [DecidableEq α] (E : α → α → Prop) (order : List α) : Prop :=
  ∀ a b, E a b → order.idxOf a < order.idxOf b

/-- A path leads forward. -/
theorem Along.idxOf_lt [DecidableEq α] {order : List α} (h : Along E order) {a b : α}
    (hpath : Relation.TransGen E a b) : order.idxOf a < order.idxOf b := by
  induction hpath with
  | single hedge => exact h _ _ hedge
  | tail _ hedge ih => exact ih.trans (h _ _ hedge)

/-- What has an order is acyclic. -/
theorem Along.acyclic [DecidableEq α] {order : List α} (h : Along E order) : Acyclic E :=
  fun _ hcycle => Nat.lt_irrefl _ (h.idxOf_lt hcycle)

/-! ### Peeling -/

/-- **Peeling.** The nodes that were taken, each after its predecessors, and those that are ready:
the others whose predecessors were all taken. -/
structure Peeling (E : α → α → Prop) (nodes taken ready : List α) : Prop where
  nodup : (taken ++ ready).Nodup
  mem : ∀ a, a ∈ taken ++ ready ↔ a ∈ nodes ∧ ∀ b, E b a → b ∈ taken
  ordered : ∀ before a after, taken = before ++ a :: after → ∀ b, E b a → b ∈ before

variable {nodes taken ready : List α}

/-- At first nothing is taken, and the sources are ready. -/
theorem Peeling.start (hnodup : ready.Nodup) (hready : ∀ a, a ∈ ready ↔ a ∈ nodes ∧ ∀ b, ¬ E b a) :
    Peeling E nodes [] ready where
  nodup := hnodup
  mem a := by
    rw [List.nil_append, hready]
    refine and_congr_right fun _ => forall₂_congr fun b _ => ?_
    simp
  ordered before a after h := by
    rcases before with _ | _ <;> cases h

/-- **One node is taken**, and what it alone kept back becomes ready. -/
theorem Peeling.take {node : α} {released : List α} (h : Peeling E nodes taken (node :: ready))
    (hnodup : released.Nodup)
    (hreleased : ∀ a, a ∈ released ↔ a ∈ nodes ∧ E node a ∧ ∀ b, E b a → b ∈ taken ++ [node]) :
    Peeling E nodes (taken ++ [node]) (ready ++ released) := by
  have hsplit : taken ++ node :: ready = (taken ++ [node]) ++ ready := List.append_cons ..
  have hall := h.mem
  rw [hsplit] at hall
  have hnode : node ∈ nodes ∧ ∀ b, E b node → b ∈ taken :=
    (h.mem node).mp (List.mem_append_right _ List.mem_cons_self)
  have hnot : node ∉ taken := by
    have hdisjoint := (List.nodup_append.mp h.nodup).2.2
    exact fun hmem => hdisjoint node hmem node List.mem_cons_self rfl
  -- what is released was not ready before, for the node was not taken
  have hfresh : ∀ a ∈ released, a ∉ (taken ++ [node]) ++ ready := by
    intro a ha hmem
    exact hnot (((hall a).mp hmem).2 node ((hreleased a).mp ha).2.1)
  constructor
  · rw [← List.append_assoc]
    refine List.nodup_append.mpr ⟨hsplit ▸ h.nodup, hnodup, ?_⟩
    rintro a ha b hb rfl
    exact hfresh a hb ha
  · intro a
    rw [← List.append_assoc, List.mem_append, hall, hreleased]
    constructor
    · rintro (⟨hmem, hbefore⟩ | ⟨hmem, -, hbefore⟩)
      · exact ⟨hmem, fun b hb => List.mem_append_left _ (hbefore b hb)⟩
      · exact ⟨hmem, hbefore⟩
    · rintro ⟨hmem, hbefore⟩
      by_cases hedge : E node a
      · exact .inr ⟨hmem, hedge, hbefore⟩
      · refine .inl ⟨hmem, fun b hb => ?_⟩
        rcases List.mem_append.mp (hbefore b hb) with hb' | hb'
        · exact hb'
        · obtain rfl := List.mem_singleton.mp hb'
          exact absurd hb hedge
  · intro before a after htaken b hb
    rcases List.eq_nil_or_concat after with rfl | ⟨after, last, rfl⟩
    · obtain ⟨rfl, hlast⟩ := List.append_inj' htaken rfl
      obtain rfl := (List.cons.inj hlast).1
      exact hnode.2 b hb
    · rw [List.concat_eq_append, ← List.cons_append, ← List.append_assoc] at htaken
      exact h.ordered before a after (List.append_inj' htaken rfl).1 b hb

/-- What was taken has an order. -/
theorem Peeling.not_transGen (h : Peeling E nodes taken ready) {a : α} (ha : a ∈ taken) :
    ¬ Relation.TransGen E a a := by
  -- a path that ends among what was taken began there, and before
  have hback : ∀ before a after, taken = before ++ a :: after → ∀ b, Relation.TransGen E b a →
      b ∈ before := by
    intro before a after htaken b hpath
    induction hpath using Relation.TransGen.head_induction_on with
    | single hedge => exact h.ordered before a after htaken _ hedge
    | head hedge _ ih =>
      obtain ⟨first, rest, hbefore⟩ := List.append_of_mem ih
      rw [hbefore]
      refine List.mem_append_left _ (h.ordered first _ (rest ++ a :: after) ?_ _ hedge)
      rw [htaken, hbefore, List.append_assoc, List.cons_append]
  intro hcycle
  obtain ⟨before, after, htaken⟩ := List.append_of_mem ha
  have hmem := hback before a after htaken a hcycle
  have hnodup := (List.nodup_append.mp h.nodup).1
  rw [htaken] at hnodup
  exact (List.nodup_append.mp hnodup).2.2 a hmem a List.mem_cons_self rfl

/-- An edge to what was taken leads forward among it. -/
theorem Peeling.idxOf_lt [DecidableEq α] (h : Peeling E nodes taken ready) {a b : α}
    (hb : b ∈ taken)
    (hedge : E a b) : taken.idxOf a < taken.idxOf b := by
  obtain ⟨before, after, htaken⟩ := List.append_of_mem hb
  have ha := h.ordered before b after htaken a hedge
  have hnodup := (List.nodup_append.mp h.nodup).1
  rw [htaken] at hnodup ⊢
  have hnot : b ∉ before :=
    fun hmem => (List.nodup_append.mp hnodup).2.2 b hmem b List.mem_cons_self rfl
  rw [List.idxOf_append_of_mem ha, List.idxOf_append_of_notMem hnot, List.idxOf_cons_self,
    Nat.add_zero]
  exact List.idxOf_lt_length_of_mem ha

/-- **Peeling that is over took every node exactly when the graph is acyclic.** -/
theorem Peeling.acyclic_iff (h : Peeling E nodes taken [])
    (hwithin : ∀ a b, E a b → a ∈ nodes ∧ b ∈ nodes) :
    Acyclic E ↔ ∀ a ∈ nodes, a ∈ taken := by
  have hmem := h.mem
  rw [List.append_nil] at hmem
  constructor
  · intro hacyclic a ha
    by_contra hnot
    classical
    -- a source of what is left would be ready
    have hne : nodes.filter (fun a => decide (a ∉ taken)) ≠ [] :=
      List.ne_nil_of_mem (List.mem_filter.mpr ⟨ha, decide_eq_true hnot⟩)
    obtain ⟨source, hsource, hnone⟩ := hacyclic.exists_source hne
    obtain ⟨hnode, hleft⟩ := List.mem_filter.mp hsource
    refine of_decide_eq_true hleft ((hmem source).mpr ⟨hnode, fun b hb => ?_⟩)
    by_contra hb'
    exact hnone b (List.mem_filter.mpr ⟨(hwithin b source hb).1, decide_eq_true hb'⟩) hb
  · intro hall a hcycle
    have hnode : a ∈ nodes := by
      obtain ⟨b, hedge, -⟩ := Relation.TransGen.head'_iff.mp hcycle
      exact (hwithin a b hedge).1
    exact h.not_transGen (hall a hnode) hcycle

/-! ### Paths -/

/-- A set that is closed under the edges, and from which none leads to the target, has no path to
it. -/
theorem not_transGen_of_closed {S : α → Prop} {target : α}
    (hclosed : ∀ a, S a → ∀ b, E a b → b ≠ target ∧ S b) {start : α} (hstart : S start) :
    ¬ Relation.TransGen E start target := by
  intro hpath
  have hpath' : ∀ b, Relation.TransGen E start b → b ≠ target ∧ S b := by
    intro b hb
    induction hb with
    | single hedge => exact hclosed start hstart _ hedge
    | tail _ hedge ih => exact hclosed _ ih.2 _ hedge
  exact (hpath' target hpath).1 rfl

/-! ### Depth-first visits -/

/-- A set that no edge leaves, and no cycle goes through. -/
structure Searched (E : α → α → Prop) (S : α → Prop) : Prop where
  closed : ∀ a, S a → ∀ b, E a b → S b
  acyclic : ∀ a, S a → ¬ Relation.TransGen E a a

/-- No path leaves it either. -/
theorem Searched.of_transGen {S : α → Prop} (h : Searched E S) {a b : α} (ha : S a)
    (hpath : Relation.TransGen E a b) : S b := by
  induction hpath with
  | single hedge => exact h.closed _ ha _ hedge
  | tail _ hedge ih => exact h.closed _ ih _ hedge

/-- A node all of whose successors are searched is searched with them. -/
theorem Searched.insert {S : α → Prop} {node : α} (h : Searched E S) (hnode : ∀ b, E node b → S b) :
    Searched E fun a => a = node ∨ S a := by
  constructor
  · rintro a (rfl | ha) b hedge
    · exact Or.inr (hnode b hedge)
    · exact Or.inr (h.closed a ha b hedge)
  · rintro a (rfl | ha) hcycle
    · -- a cycle through the node goes on among what was searched, and comes back
      obtain ⟨b, hedge, hrest⟩ := Relation.TransGen.head'_iff.mp hcycle
      have hback : S a := by
        rcases Relation.reflTransGen_iff_eq_or_transGen.mp hrest with heq | hpath
        · exact heq ▸ hnode b hedge
        · exact h.of_transGen (hnode b hedge) hpath
      exact h.acyclic a hback hcycle
    · exact h.acyclic a ha hcycle

/-! ### Duplicates -/

theorem nodup_eraseDups [DecidableEq α] (as : List α) : as.eraseDups.Nodup := by
  induction h : as.length using Nat.strong_induction_on generalizing as with
  | _ n ih =>
    rcases as with _ | ⟨a, as⟩
    · exact List.nodup_nil
    · rw [List.eraseDups_cons]
      refine List.nodup_cons.mpr ⟨?_, ih _ ?_ _ rfl⟩
      · rw [List.mem_eraseDups]
        simp
      · rw [← h, List.length_cons]
        exact Nat.lt_succ_of_le (List.length_filter_le _ _)

end Idr
