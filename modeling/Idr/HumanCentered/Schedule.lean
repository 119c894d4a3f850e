/-
Idr/HumanCentered/Schedule.lean

What a valid coordination plan says of every schedule.

The loop of `dependency_graph_is_acyclic` peels the references off: its
indegrees are the numbers of predecessors that were not taken yet, so that
no subtraction goes below zero and the loop takes every reference exactly
when the graph is acyclic (`dependencyGraphIsAcyclic_iff`).  The search of
`dependency_path_exists` finds exactly the paths (`dependencyPathExists_iff`).
Since a path leads forward in every order along the edges, whatever the mode
puts first comes first in every schedule (`validate_schedules`).
-/
import Idr.HumanCentered.Turn
import Idr.Lib.Graph

namespace Idr

/-- The edges of a plan as a relation. -/
def Leads (edges : List TurnDependencyEdgeV1) (a b : HumanCenteredContractRefV1) : Prop :=
  (⟨a, b⟩ : TurnDependencyEdgeV1) ∈ edges

variable {edges : List TurnDependencyEdgeV1}
variable {nodes taken ready : List HumanCenteredContractRefV1}
variable {node target : HumanCenteredContractRefV1}

theorem mem_nextNodes {a : HumanCenteredContractRefV1} : a ∈ nextNodes edges node ↔
    Leads edges node a := by
  rw [nextNodes, List.mem_eraseDups, List.mem_map]
  constructor
  · rintro ⟨⟨before, after⟩, hmem, rfl⟩
    obtain ⟨hedge, hbefore⟩ := List.mem_filter.mp hmem
    obtain rfl : before = node := of_decide_eq_true hbefore
    exact hedge
  · intro hedge
    exact ⟨⟨node, a⟩, List.mem_filter.mpr ⟨hedge, decide_eq_true rfl⟩, rfl⟩

/-! ### Indegrees -/

/-- The number of predecessors that were not taken yet. -/
def openDegree (edges : List TurnDependencyEdgeV1) (taken : List HumanCenteredContractRefV1)
    (a : HumanCenteredContractRefV1) : Nat :=
  (edges.eraseDups.filter fun edge => edge.after = a ∧ edge.before ∉ taken).length

theorem openDegree_nil (a : HumanCenteredContractRefV1) :
    openDegree edges [] a = indegree edges a := by
  unfold openDegree indegree
  simp

theorem openDegree_eq_zero {a : HumanCenteredContractRefV1} :
    openDegree edges taken a = 0 ↔ ∀ b, Leads edges b a → b ∈ taken := by
  rw [openDegree, List.length_eq_zero_iff, List.filter_eq_nil_iff]
  constructor
  · intro h b hedge
    have hnot := h ⟨b, a⟩ (List.mem_eraseDups.mpr hedge)
    simpa using hnot
  · rintro h ⟨before, after⟩ hmem hopen
    obtain ⟨rfl, hnot⟩ := of_decide_eq_true hopen
    exact hnot (h before (List.mem_eraseDups.mp hmem))

/-- A filter by one of two tests that exclude each other. -/
theorem length_filter_or {α : Type} {p q r : α → Bool} (hor : ∀ a, p a = (q a || r a))
    (hnot : ∀ a, ¬ (q a = true ∧ r a = true)) (as : List α) :
    (as.filter p).length = (as.filter q).length + (as.filter r).length := by
  induction as with
  | nil => rfl
  | cons a as ih =>
    have hora := hor a
    have hnota := hnot a
    rw [List.filter_cons, List.filter_cons, List.filter_cons, hora]
    rcases hq : q a <;> rcases hr : r a <;> simp_all <;> omega

/-- **Taking a reference** lowers the indegree of each of its successors by one, and no other. -/
theorem openDegree_take (hnot : node ∉ taken) (a : HumanCenteredContractRefV1) :
    openDegree edges taken a
      = openDegree edges (taken ++ [node]) a + if a ∈ nextNodes edges node then 1 else 0 := by
  have hone : (edges.eraseDups.filter fun edge => decide (edge = ⟨node, a⟩)).length
      = if a ∈ nextNodes edges node then 1 else 0 := by
    have hcount := (nodup_eraseDups edges).count (a := ⟨node, a⟩)
    have hlength : (edges.eraseDups.filter fun edge => decide (edge = ⟨node, a⟩)).length
        = edges.eraseDups.count ⟨node, a⟩ := by
      rw [← List.countP_eq_length_filter]
      rfl
    rw [hlength, hcount]
    exact if_congr (List.mem_eraseDups.trans mem_nextNodes.symm) rfl rfl
  rw [← hone, openDegree, openDegree]
  refine length_filter_or ?_ ?_ _
  · rintro ⟨before, after⟩
    rw [Bool.eq_iff_iff]
    simp only [Bool.or_eq_true, decide_eq_true_eq, List.mem_append, List.mem_singleton,
      TurnDependencyEdgeV1.mk.injEq, not_or]
    constructor
    · rintro ⟨hafter, hbefore⟩
      by_cases heq : before = node
      · exact .inr ⟨heq, hafter⟩
      · exact .inl ⟨hafter, hbefore, heq⟩
    · rintro (⟨hafter, hbefore, -⟩ | ⟨rfl, hafter⟩)
      · exact ⟨hafter, hbefore⟩
      · exact ⟨hafter, hnot⟩
  · rintro ⟨before, after⟩ ⟨hkept, htaken⟩
    simp only [decide_eq_true_eq, List.mem_append, List.mem_singleton, not_or] at hkept
    exact hkept.2.2 (congrArg (·.before) (of_decide_eq_true htaken))

/-! ### The loop of `dependency_graph_is_acyclic` -/

/-- The indegrees of the loop, when the references `taken` were taken. -/
def openDegrees (edges : List TurnDependencyEdgeV1) (known taken : List HumanCenteredContractRefV1)
    (a : HumanCenteredContractRefV1) : Option Nat :=
  if a ∈ known then some (openDegree edges taken a) else none

/-- What one turn of the loop does to indegrees of which each that goes down is positive. -/
theorem releaseNodes_eq {degrees : HumanCenteredContractRefV1 → Option Nat}
    {next : List HumanCenteredContractRefV1} (hnodup : next.Nodup)
    (hsome : ∀ a ∈ next, ∃ degree, degrees a = some (degree + 1)) :
    releaseNodes degrees next ready =
      some (fun a => if a ∈ next then (degrees a).map (· - 1) else degrees a,
        ready ++ next.filter fun a => degrees a = some 1) := by
  induction next generalizing degrees ready with
  | nil => simp [releaseNodes]
  | cons first rest ih =>
    obtain ⟨hfirst, hrest⟩ := List.nodup_cons.mp hnodup
    obtain ⟨degree, hdegree⟩ := hsome first List.mem_cons_self
    rw [releaseNodes, hdegree]
    show releaseNodes (fun node => if node = first then some (degree + 1 - 1) else degrees node)
      rest
      (if degree + 1 - 1 = 0 then ready ++ [first] else ready) = _
    rw [Nat.add_sub_cancel, ih hrest]
    · congr 1
      refine Prod.ext (funext fun a => ?_) ?_
      · show (if a ∈ rest then Option.map (· - 1) (if a = first then some degree else degrees a)
          else if a = first then some degree else degrees a) = _
        by_cases hfirsta : a = first
        · subst hfirsta
          simp [hfirst, hdegree]
        · simp [hfirsta]
      · show (if degree = 0 then ready ++ [first] else ready) ++
            rest.filter (fun a => decide ((if a = first then some degree else degrees a) = some 1))
          = ready ++ (first :: rest).filter (fun a => decide (degrees a = some 1))
        have hsame : rest.filter
              (fun a => decide ((if a = first then some degree else degrees a) = some 1))
            = rest.filter (fun a => decide (degrees a = some 1)) := by
          refine List.filter_congr fun a ha => ?_
          have hne : a ≠ first := fun heq => hfirst (heq ▸ ha)
          rw [if_neg hne]
        rw [hsame, List.filter_cons, hdegree]
        by_cases hzero : degree = 0
        · simp [hzero]
        · simp [hzero]
    · intro a ha
      have hne : a ≠ first := fun heq => hfirst (heq ▸ ha)
      show ∃ degree', (if a = first then some degree else degrees a) = some (degree' + 1)
      rw [if_neg hne]
      exact hsome a (List.mem_cons_of_mem _ ha)

/-- **No subtraction of the loop goes below zero.** -/
def SubtractsOk (edges : List TurnDependencyEdgeV1) :
    Nat → (HumanCenteredContractRefV1 → Option Nat) → List HumanCenteredContractRefV1 → Prop
  | 0, _, _ => True
  | _ + 1, _, [] => True
  | fuel + 1, degrees, node :: ready =>
    (∀ a ∈ nextNodes edges node, ∃ degree, degrees a = some (degree + 1)) ∧
      ∀ degrees' ready', releaseNodes degrees (nextNodes edges node) ready =
        some (degrees', ready') →
        SubtractsOk edges fuel degrees' ready'

/-- No subtraction of `dependency_graph_is_acyclic` goes below zero. -/
def NeverUnderflows (nodes : List HumanCenteredContractRefV1)
    (edges : List TurnDependencyEdgeV1) : Prop :=
  let known := (nodes ++ edges.map (·.after)).eraseDups
  let degrees := fun node => if node ∈ known then some (indegree edges node) else none
  let ready := known.filter fun node => indegree edges node = 0
  SubtractsOk edges known.length degrees ready

variable {known : List HumanCenteredContractRefV1}

/-- **One turn of the loop peels a reference off.** -/
theorem releaseNodes_peeling (hwithin : ∀ a b, Leads edges a b → b ∈ known)
    (h : Peeling (Leads edges) known taken (node :: ready)) :
    (∀ a ∈ nextNodes edges node, ∃ degree, openDegrees edges known taken a = some (degree + 1)) ∧
    ∃ ready', releaseNodes (openDegrees edges known taken) (nextNodes edges node) ready
        = some (openDegrees edges known (taken ++ [node]), ready') ∧
      Peeling (Leads edges) known (taken ++ [node]) ready' := by
  have hnot : node ∉ taken :=
    fun hmem => (List.nodup_append.mp h.nodup).2.2 node hmem node List.mem_cons_self rfl
  have hdegrees : ∀ a ∈ nextNodes edges node, openDegrees edges known taken a
      = some (openDegree edges (taken ++ [node]) a + 1) := by
    intro a ha
    rw [openDegrees, if_pos (hwithin node a (mem_nextNodes.mp ha)), openDegree_take hnot, if_pos ha]
  refine ⟨fun a ha => ⟨_, hdegrees a ha⟩, ready ++ (nextNodes edges node).filter
    (fun a => openDegrees edges known taken a = some 1), ?_, ?_⟩
  · have hnext : (nextNodes edges node).Nodup := nodup_eraseDups _
    rw [releaseNodes_eq hnext fun a ha => ⟨_, hdegrees a ha⟩]
    congr 2
    funext a
    by_cases ha : a ∈ nextNodes edges node
    · rw [if_pos ha, hdegrees a ha, openDegrees, if_pos (hwithin node a (mem_nextNodes.mp ha))]
      rfl
    · rw [if_neg ha, openDegrees, openDegrees, openDegree_take hnot, if_neg ha]
      rfl
  · refine h.take (List.Nodup.filter _ (nodup_eraseDups _)) fun a => ?_
    rw [List.mem_filter, decide_eq_true_eq]
    constructor
    · rintro ⟨ha, hone⟩
      rw [hdegrees a ha] at hone
      have hzero : openDegree edges (taken ++ [node]) a = 0 := by
        have := Option.some.inj hone
        omega
      exact ⟨hwithin node a (mem_nextNodes.mp ha), mem_nextNodes.mp ha, openDegree_eq_zero.mp hzero⟩
    · rintro ⟨-, hedge, hbefore⟩
      have ha := mem_nextNodes.mpr hedge
      refine ⟨ha, ?_⟩
      rw [hdegrees a ha, openDegree_eq_zero.mpr hbefore]

/-- **The loop takes what it can.** The fuel is the number of references that may still be taken. -/
theorem drainReady_peeling (hwithin : ∀ a b, Leads edges a b → b ∈ known)
    (fuel : Nat) (hfuel : taken.length + fuel = known.length)
    (h : Peeling (Leads edges) known taken ready) :
    SubtractsOk edges fuel (openDegrees edges known taken) ready ∧
    ∃ taken', drainReady edges fuel (openDegrees edges known taken) ready taken.length
        = some taken'.length ∧
      Peeling (Leads edges) known taken' [] := by
  induction fuel generalizing taken ready with
  | zero =>
    -- everything was taken, so that nothing is ready
    have hsubset : taken ++ ready ⊆ known := fun a ha => ((h.mem a).mp ha).1
    have hlength := (h.nodup.subperm hsubset).length_le
    rw [List.length_append] at hlength
    obtain rfl : ready = [] := List.length_eq_zero_iff.mp (by omega)
    exact ⟨trivial, taken, rfl, h⟩
  | succ fuel ih =>
    rcases ready with _ | ⟨node, ready⟩
    · exact ⟨trivial, taken, rfl, h⟩
    · obtain ⟨hpositive, ready', hrelease, hnext⟩ := releaseNodes_peeling hwithin h
      have hlength : (taken ++ [node]).length = taken.length + 1 := List.length_append
      obtain ⟨hsubtracts, taken', hdrain, hpeeled⟩ := ih (by rw [hlength]; omega) hnext
      refine ⟨⟨hpositive, ?_⟩, taken', ?_, hpeeled⟩
      · intro degrees'' ready'' hrelease'
        obtain ⟨rfl, rfl⟩ := Prod.mk.inj (Option.some.inj (hrelease.symm.trans hrelease'))
        exact hsubtracts
      · rw [drainReady, hrelease]
        rw [hlength] at hdrain
        exact hdrain

/-- **The whole loop.** It takes references until none is ready. -/
theorem dependencyGraphIsAcyclic_peeling
    (hwithin : ∀ edge ∈ edges, edge.before ∈ nodes ∧ edge.after ∈ nodes) :
    NeverUnderflows nodes edges ∧ ∃ taken, Peeling (Leads edges) nodes taken [] ∧
      dependencyGraphIsAcyclic nodes edges = decide (taken.length = nodes.eraseDups.length) := by
  have hmem : ∀ a, a ∈ (nodes ++ edges.map (·.after)).eraseDups ↔ a ∈ nodes := by
    intro a
    rw [List.mem_eraseDups, List.mem_append, List.mem_map]
    refine ⟨?_, .inl⟩
    rintro (ha | ⟨edge, hedge, rfl⟩)
    · exact ha
    · exact (hwithin edge hedge).2
  unfold NeverUnderflows dependencyGraphIsAcyclic
  set known := (nodes ++ edges.map (·.after)).eraseDups with hknown
  have hstart : Peeling (Leads edges) known []
      (known.filter fun node => indegree edges node = 0) := by
    refine .start ((nodup_eraseDups _).filter _) fun a => ?_
    rw [List.mem_filter, decide_eq_true_eq, ← openDegree_nil, openDegree_eq_zero]
    simp
  have hdegrees : (fun node => if node ∈ known then some (indegree edges node) else none)
      = openDegrees edges known [] := by
    funext a
    rw [openDegrees, openDegree_nil]
  obtain ⟨hsubtracts, taken, hdrain, hpeeled⟩ := drainReady_peeling
    (fun a b hedge => (hmem b).mpr (hwithin _ hedge).2) known.length (Nat.zero_add _) hstart
  rw [List.length_nil] at hdrain
  dsimp only
  rw [hdegrees, hdrain]
  refine ⟨hsubtracts, taken, ⟨hpeeled.nodup, fun a => ?_, hpeeled.ordered⟩, ?_⟩
  · rw [hpeeled.mem, hmem]
  · simp

/-- **`dependency_graph_is_acyclic` is exact** for edges over the references. -/
theorem dependencyGraphIsAcyclic_iff
    (hwithin : ∀ edge ∈ edges, edge.before ∈ nodes ∧ edge.after ∈ nodes) :
    dependencyGraphIsAcyclic nodes edges = true ↔ Acyclic (Leads edges) := by
  obtain ⟨-, taken, hpeeled, hacyclic⟩ := dependencyGraphIsAcyclic_peeling hwithin
  rw [hacyclic, decide_eq_true_eq, hpeeled.acyclic_iff fun a b hedge => hwithin _ hedge]
  -- the references taken are as many as there are exactly when they are all of them
  have htaken := (List.nodup_append.mp hpeeled.nodup).1
  have hsubset : taken ⊆ nodes.eraseDups := by
    intro a ha
    exact List.mem_eraseDups.mpr ((hpeeled.mem a).mp (List.mem_append_left _ ha)).1
  constructor
  · intro hlength a ha
    have hperm := (htaken.subperm hsubset).perm_of_length_le (le_of_eq hlength.symm)
    exact hperm.mem_iff.mpr (List.mem_eraseDups.mpr ha)
  · intro hall
    refine Nat.le_antisymm (htaken.subperm hsubset).length_le ?_
    exact ((nodup_eraseDups nodes).subperm fun a ha => hall a (List.mem_eraseDups.mp ha)).length_le

/-! ### The search of `dependency_path_exists` -/

/-- The edges that the search has not followed yet. -/
def unfollowed (edges : List TurnDependencyEdgeV1)
    (visited : List HumanCenteredContractRefV1) : Nat :=
  (edges.filter fun edge => edge.before ∉ visited).length

theorem unfollowed_visit {visited : List HumanCenteredContractRefV1} (hnot : node ∉ visited) :
    unfollowed edges visited
      = unfollowed edges (node :: visited) + (edges.filter (·.before = node)).length := by
  refine length_filter_or ?_ ?_ _
  · intro edge
    rw [Bool.eq_iff_iff]
    simp only [decide_eq_true_eq, List.mem_cons, not_or, Bool.or_eq_true]
    constructor
    · intro hbefore
      by_cases heq : edge.before = node
      · exact .inr heq
      · exact .inl ⟨heq, hbefore⟩
    · rintro (⟨-, hbefore⟩ | heq)
      · exact hbefore
      · rwa [heq]
  · rintro edge ⟨hkept, hvisited⟩
    simp only [decide_eq_true_eq, List.mem_cons, not_or] at hkept hvisited
    exact hkept.1 hvisited

/-- What one visit adds to the queue. -/
theorem mem_after {a : HumanCenteredContractRefV1} :
    a ∈ (edges.filter (·.before = node)).map (·.after) ↔ Leads edges node a := by
  rw [← mem_nextNodes, nextNodes, List.mem_eraseDups]

/-- **The search is exact.** What it visited leads to the target nowhere, and only on to what it
visited or has in its queue. -/
theorem searchPath_iff {start : HumanCenteredContractRefV1} (fuel : Nat)
    {queue visited : List HumanCenteredContractRefV1}
    (hfuel : queue.length + unfollowed edges visited ≤ fuel)
    (hreached : ∀ a ∈ queue, Relation.ReflTransGen (Leads edges) start a)
    (hstart : start ∈ visited ∨ start ∈ queue)
    (hclosed : ∀ a ∈ visited, ∀ b, Leads edges a b → b ≠ target ∧ (b ∈ visited ∨ b ∈ queue)) :
    searchPath target edges fuel queue visited = true ↔
      Relation.TransGen (Leads edges) start target := by
  induction fuel generalizing queue visited with
  | zero =>
    obtain rfl : queue = [] := List.length_eq_zero_iff.mp (by omega)
    have hnot : ¬ Relation.TransGen (Leads edges) start target := by
      refine not_transGen_of_closed (S := (· ∈ visited)) ?_ (hstart.resolve_right List.not_mem_nil)
      intro a ha b hb
      exact ⟨(hclosed a ha b hb).1, (hclosed a ha b hb).2.resolve_right List.not_mem_nil⟩
    simp [searchPath, hnot]
  | succ fuel ih =>
    rcases queue with _ | ⟨current, queue⟩
    · have hnot : ¬ Relation.TransGen (Leads edges) start target := by
        refine not_transGen_of_closed (S := (· ∈ visited))
          ?_ (hstart.resolve_right List.not_mem_nil)
        intro a ha b hb
        exact ⟨(hclosed a ha b hb).1, (hclosed a ha b hb).2.resolve_right List.not_mem_nil⟩
      simp [searchPath, hnot]
    · rw [List.length_cons] at hfuel
      obtain ⟨hcurrent, hqueue⟩ := List.forall_mem_cons.mp hreached
      rw [searchPath]
      by_cases hvisited : current ∈ visited
      · rw [if_pos hvisited]
        refine ih (by omega) hqueue ?_ ?_
        · rcases hstart with hstart | hstart
          · exact .inl hstart
          · rcases List.mem_cons.mp hstart with rfl | hstart
            · exact .inl hvisited
            · exact .inr hstart
        · intro a ha b hb
          obtain ⟨hne, hb' | hb'⟩ := hclosed a ha b hb
          · exact ⟨hne, .inl hb'⟩
          · rcases List.mem_cons.mp hb' with rfl | hb'
            · exact ⟨hne, .inl hvisited⟩
            · exact ⟨hne, .inr hb'⟩
      · rw [if_neg hvisited]
        by_cases htarget : target ∈ (edges.filter (·.before = current)).map (·.after)
        · have hpath := Relation.TransGen.tail' hcurrent (mem_after.mp htarget)
          simp only [if_pos htarget, hpath]
        · simp only [if_neg htarget]
          refine ih ?_ ?_ ?_ ?_
          · have hfollowed := @unfollowed_visit edges _ _ hvisited
            rw [List.length_append, List.length_map]
            omega
          · intro a ha
            rcases List.mem_append.mp ha with ha | ha
            · exact hqueue a ha
            · exact hcurrent.tail (mem_after.mp ha)
          · rcases hstart with hstart | hstart
            · exact .inl (List.mem_cons_of_mem _ hstart)
            · rcases List.mem_cons.mp hstart with rfl | hstart
              · exact .inl List.mem_cons_self
              · exact .inr (List.mem_append_left _ hstart)
          · intro a ha b hb
            rcases List.mem_cons.mp ha with rfl | ha
            · refine ⟨fun heq => htarget (mem_after.mpr (heq ▸ hb)), .inr ?_⟩
              exact List.mem_append_right _ (mem_after.mpr hb)
            · obtain ⟨hne, hb' | hb'⟩ := hclosed a ha b hb
              · exact ⟨hne, .inl (List.mem_cons_of_mem _ hb')⟩
              · rcases List.mem_cons.mp hb' with rfl | hb'
                · exact ⟨hne, .inl List.mem_cons_self⟩
                · exact ⟨hne, .inr (List.mem_append_left _ hb')⟩

/-- **`dependency_path_exists` is exact**: it finds the paths that are not empty. -/
theorem dependencyPathExists_iff {start : HumanCenteredContractRefV1} :
    dependencyPathExists start target edges = true ↔
    Relation.TransGen (Leads edges) start target := by
  apply searchPath_iff
  · rw [List.length_singleton, Nat.add_comm]
    exact Nat.add_le_add_right (List.length_filter_le _ _) 1
  · intro a ha
    obtain rfl := List.mem_singleton.mp ha
    exact .refl
  · exact .inr (List.mem_singleton_self _)
  · intro a ha
    cases ha

/-! ### Schedules -/

/-- **A schedule of the plan**: its references in an order along its edges. -/
structure Schedules (plan : TurnCoordinationPlanV1)
    (order : List HumanCenteredContractRefV1) : Prop where
  nodup : order.Nodup
  mem : ∀ reference, reference ∈ order ↔ reference ∈ plan.knownRefs
  along : Along (Leads plan.dependencies) order

/-- What a schedule puts first. -/
def ComesFirst (order first second : List HumanCenteredContractRefV1) : Prop :=
  ∀ b ∈ second, ∃ a ∈ first, order.idxOf a < order.idxOf b

section Plan

variable [Crypto] [FloatText]
variable {self : TurnCoordinationPlanV1}

/-- What validation establishes of the graph and the gates of a plan. -/
structure PlanOk (plan : TurnCoordinationPlanV1) : Prop where
  edges : ∀ edge ∈ plan.dependencies, edge.before ∈ plan.knownRefs ∧ edge.after ∈ plan.knownRefs
  acyclic : dependencyGraphIsAcyclic plan.knownRefs plan.dependencies = true
  gates : plan.mode = .respondThenConfirmThenAct → ∀ action ∈ plan.actionRefs,
    ∃ gate ∈ plan.gates, gate.gateKind = .userAuthorization ∧ gate.requiredBefore = action
  responses : plan.responseBeforeAction = true → ∀ action ∈ plan.actionRefs,
    ∃ response ∈ plan.responseRefs, dependencyPathExists response action plan.dependencies = true
  actions : plan.mode = .actThenRespond → ∀ response ∈ plan.responseRefs,
    ∃ action ∈ plan.actionRefs, dependencyPathExists action response plan.dependencies = true

theorem TurnCoordinationPlanV1.planOk_of_validate (h : self.validate = .ok ()) : PlanOk self := by
  simp only [validate, bind_eq_ok, exists_unit_eq_ok, rejectIf_eq_ok, exists_const, forM_eq_ok,
    not_and, Bool.not_eq_false] at h
  obtain ⟨-, -, -, -, -, -, hedges, hacyclic, -, hgates, hresponses, hactions, -⟩ := h
  refine ⟨?_, hacyclic, ?_, ?_, ?_⟩
  · intro edge hedge
    have hvalid := hedges edge hedge
    simp only [validateEdge, bind_eq_ok, exists_unit_eq_ok, rejectIf_eq_ok, not_or,
      not_not] at hvalid
    exact ⟨hvalid.2.2.2.1, hvalid.2.2.2.2⟩
  · intro hmode action haction
    have hall := hgates hmode
    simp only [List.any_eq_true, Bool.not_eq_true', List.any_eq_false, not_exists, not_and,
      Bool.and_eq_true, decide_eq_true_eq] at hall
    simpa using hall action haction
  · intro hmode action haction
    have hall := hresponses hmode
    simp only [List.any_eq_true, Bool.not_eq_true', List.any_eq_false, not_exists, not_and] at hall
    simpa using hall action haction
  · intro hmode response hresponse
    have hall := hactions hmode
    simp only [List.any_eq_true, Bool.not_eq_true', List.any_eq_false, not_exists, not_and] at hall
    simpa using hall response hresponse

omit [Crypto] [FloatText] in
/-- A path puts its start first. -/
theorem comesFirst_of_path {order first second : List HumanCenteredContractRefV1}
    (hschedule : Schedules self order)
    (h : ∀ b ∈ second, ∃ a ∈ first, dependencyPathExists a b self.dependencies = true) :
    ComesFirst order first second := by
  intro b hb
  obtain ⟨a, ha, hpath⟩ := h b hb
  exact ⟨a, ha, hschedule.along.idxOf_lt (dependencyPathExists_iff.mp hpath)⟩

/-- **An accepted plan has a schedule.** -/
theorem TurnCoordinationPlanV1.exists_schedule (h : self.validate = .ok ()) :
    ∃ order, Schedules self order := by
  have hplan := self.planOk_of_validate h
  obtain ⟨-, taken, hpeeled, -⟩ := dependencyGraphIsAcyclic_peeling hplan.edges
  have hacyclic := (dependencyGraphIsAcyclic_iff hplan.edges).mp hplan.acyclic
  have hall := (hpeeled.acyclic_iff fun a b hedge => hplan.edges _ hedge).mp hacyclic
  refine ⟨taken, (List.nodup_append.mp hpeeled.nodup).1, fun reference => ⟨fun hmem => ?_, hall _⟩,
    ?_⟩
  · exact ((hpeeled.mem reference).mp (List.mem_append_left _ hmem)).1
  · intro a b hedge
    exact hpeeled.idxOf_lt (hall b (hplan.edges _ hedge).2) hedge

/-- **Accepted plans respect their mode in every schedule**, of which there is one.  The two graph
functions are exact, and the first never goes below zero. -/
theorem validate_schedules (h : self.validate = .ok ()) :
    ((∀ nodes edges, (∀ edge ∈ edges, edge.before ∈ nodes ∧ edge.after ∈ nodes) →
      (dependencyGraphIsAcyclic nodes edges = true ↔ Acyclic (Leads edges)) ∧
        NeverUnderflows nodes edges) ∧
      Acyclic (Leads self.dependencies) ∧ ∃ order, Schedules self order) ∧
    (∀ start target, dependencyPathExists start target self.dependencies = true ↔
      Relation.TransGen (Leads self.dependencies) start target) ∧
    (∀ order, Schedules self order →
      (self.mode = .respondThenAct ∨ self.mode = .respondThenConfirmThenAct
          ∨ self.mode = .acknowledgeThenRun → ComesFirst order self.responseRefs self.actionRefs) ∧
      (self.mode = .actThenRespond → ComesFirst order self.actionRefs self.responseRefs)) ∧
    (self.mode = .respondThenConfirmThenAct → ∀ action ∈ self.actionRefs,
      ∃ gate ∈ self.gates, gate.gateKind = .userAuthorization ∧ gate.requiredBefore = action) := by
  have hplan := self.planOk_of_validate h
  refine ⟨⟨fun nodes edges hwithin => ⟨dependencyGraphIsAcyclic_iff hwithin,
      (dependencyGraphIsAcyclic_peeling hwithin).1⟩,
    (dependencyGraphIsAcyclic_iff hplan.edges).mp hplan.acyclic, self.exists_schedule h⟩,
    fun start target => dependencyPathExists_iff, ?_, hplan.gates⟩
  intro order hschedule
  constructor
  · intro hmode
    refine comesFirst_of_path hschedule (hplan.responses ?_)
    unfold TurnCoordinationPlanV1.responseBeforeAction
    rcases hmode with hmode | hmode | hmode <;> rw [hmode] <;> rfl
  · intro hmode
    exact comesFirst_of_path hschedule (hplan.actions hmode)

end Plan

/-! ### A sample plan

One response, and an action after it. -/

namespace StoreSample

variable [Crypto] [FloatText]

def plannedResponse : HumanCenteredContractRefV1 :=
  ⟨.response, firstId, 1, sha256Hex (toVec ("response" : Text))⟩
def plannedAction : HumanCenteredContractRefV1 :=
  ⟨.action, secondId, 1, sha256Hex (toVec ("action" : Text))⟩

def coordination : TurnCoordinationPlanV1 :=
  let draft : TurnCoordinationPlanV1 := {
    metadata := metadata .turnCoordination turnId none [plannedResponse, plannedAction]
    mode := .respondThenAct
    responseRefs := [plannedResponse]
    actionRefs := [plannedAction]
    dependencies := [⟨plannedResponse, plannedAction⟩]
    gates := []
    failurePolicy := .reportOnly
    progressPolicy := .silent
    rationale := "respond first"
    recordDigest := "" }
  { draft with recordDigest := contractDigest "turn-coordination-plan-v1" draft.digestInput }

end StoreSample

/-- In every schedule of the sample plan the response comes before the action. -/
theorem validate_schedules_sample : let _ := Sample.crypto
    let _ := StoreSample.floatText
    StoreSample.coordination.validate = .ok () ∧ ∀ order, Schedules StoreSample.coordination order →
      ComesFirst order [StoreSample.plannedResponse] [StoreSample.plannedAction] := by
  intro crypto floatText
  have hvalid : StoreSample.coordination.validate = .ok () := by decide +kernel
  refine ⟨hvalid, fun order hschedule => ?_⟩
  obtain ⟨-, -, hmodes, -⟩ := validate_schedules hvalid
  exact (hmodes order hschedule).1 (Or.inl rfl)

end Idr
