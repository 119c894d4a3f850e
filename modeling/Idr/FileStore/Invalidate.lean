/-
Idr/FileStore/Invalidate.lean

What the invalidation of dependents computes.

`invalidateLoop` is a worklist: a reference that was withdrawn is taken from
the queue, and every current pointer that depends on it is invalidated and
put into the queue.  The set it computes is the least one that is closed
under that rule (`InvalidatedWith`), which `mem_invalidateLoop` says for every
fuel that the pointers do not exceed.  The reservations only see the
statuses of withdrawn attempts.
-/
import Idr.FileStore.Operations

namespace Idr

/-! ### InvalidatedWith reservations -/

@[simp] theorem ExecutionReservationStatusV1.withdrawn_withdrawn
    (status : ExecutionReservationStatusV1) : status.withdrawn.withdrawn = status.withdrawn := by
  cases status <;> rfl

/-- A withdrawn reservation stays as it is. -/
theorem ExecutionReservationRecordV1.withdraw_withdraw (self : ExecutionReservationRecordV1) :
    self.withdraw.withdraw = self.withdraw := by
  unfold withdraw
  rcases modifyLast_cases (fun attempt => attempt.withStatus attempt.status.withdrawn)
    self.attempts with
    ⟨-, hmodify⟩ | ⟨init, a, -, -, hmodify⟩
  · rw [hmodify]
    rfl
  · rw [hmodify]
    dsimp only
    rw [modifyLast_concat]
    simp only [ExecutionAttemptRecordV1.withStatus,
      ExecutionReservationStatusV1.withdrawn_withdrawn]

section Invalidate

variable [Crypto] [FloatText]
variable {records : List HumanCenteredContractSnapshotV1}
variable {pointers inv₀ : List HumanCenteredContractRefV1}
variable {root : HumanCenteredContractRefV1}

/-! ### The closure -/

/-- `pointer` is of another contract than `stale`, and its record depends on it. -/
def DependsOn (records : List HumanCenteredContractSnapshotV1)
    (stale pointer : HumanCenteredContractRefV1) : Prop :=
  pointer.sameContract stale = false ∧
    ∃ record, findRecord records pointer = some record ∧ stale ∈ record.metadata.dependencyRefs

/-- What is withdrawn with `root`: the pointers not invalidated before that depend on it, and those
that depend on them. -/
inductive InvalidatedWith (records : List HumanCenteredContractSnapshotV1)
    (pointers inv₀ : List HumanCenteredContractRefV1) (root : HumanCenteredContractRefV1) :
    HumanCenteredContractRefV1 → Prop
  | direct {pointer} : pointer ∈ pointers → pointer ∉ inv₀ → DependsOn records root pointer →
      InvalidatedWith records pointers inv₀ root pointer
  | next {stale pointer} : InvalidatedWith records pointers inv₀ root stale → pointer ∈ pointers →
      pointer ∉ inv₀ → DependsOn records stale pointer →
      InvalidatedWith records pointers inv₀ root pointer

theorem InvalidatedWith.mem_pointers {pointer : HumanCenteredContractRefV1}
    (h : InvalidatedWith records pointers inv₀ root pointer) : pointer ∈ pointers := by
  cases h <;> assumption

theorem InvalidatedWith.not_mem {pointer : HumanCenteredContractRefV1}
    (h : InvalidatedWith records pointers inv₀ root pointer) : pointer ∉ inv₀ := by
  cases h <;> assumption

/-- From the root, or from something that was withdrawn with it. -/
theorem InvalidatedWith.of_source {stale pointer : HumanCenteredContractRefV1}
    (h : stale = root ∨ InvalidatedWith records pointers inv₀ root stale)
    (hmem : pointer ∈ pointers)
    (hnew : pointer ∉ inv₀) (hdep : DependsOn records stale pointer) :
    InvalidatedWith records pointers inv₀ root pointer := by
  rcases h with rfl | h
  · exact .direct hmem hnew hdep
  · exact .next h hmem hnew hdep

/-! ### One turn of the loop -/

/-- **One turn**: it adds the pointers that depend on the stale reference, each of them once. -/
theorem invalidatePointers_eq_ok {stale : HumanCenteredContractRefV1}
    {inv queue inv' queue' : List HumanCenteredContractRefV1}
    (h : invalidatePointers records stale pointers inv queue = .ok (inv', queue')) :
    ∃ added, inv' = inv ++ added ∧ queue' = queue ++ added ∧ added.Nodup ∧
      (∀ p ∈ added, p ∉ inv ∧ p ∈ pointers ∧ DependsOn records stale p) ∧
      ∀ p ∈ pointers, DependsOn records stale p → p ∈ inv' := by
  induction pointers generalizing inv queue with
  | nil =>
    obtain ⟨rfl, rfl⟩ := Prod.mk.inj (Except.ok.inj h)
    refine ⟨[], (List.append_nil _).symm, (List.append_nil _).symm, List.nodup_nil, ?_, ?_⟩
    · intro p hp
      cases hp
    · intro p hp
      cases hp
  | cons pointer rest ih =>
    rw [invalidatePointers] at h
    split at h
    case isTrue hskip =>
      obtain ⟨added, hinv, hqueue, hnodup, hadded, hclosed⟩ := ih h
      refine ⟨added, hinv, hqueue, hnodup, ?_, ?_⟩
      · intro p hp
        obtain ⟨hfresh, hmem, hdep⟩ := hadded p hp
        exact ⟨hfresh, List.mem_cons_of_mem _ hmem, hdep⟩
      · intro p hp hdep
        rcases List.mem_cons.mp hp with rfl | hp
        · -- a pointer is passed over when it is of the contract itself, or is invalidated
          rcases hskip with hsame | hold
          · exact absurd hsame (by rw [hdep.1]; exact Bool.false_ne_true)
          · rw [hinv]
            exact List.mem_append_left _ hold
        · exact hclosed p hp hdep
    case isFalse hskip =>
      obtain ⟨hother, hfresh⟩ := not_or.mp hskip
      split at h
      case h_1 => cases h
      case h_2 record hrecord =>
        split at h
        case isTrue hmem =>
          have hdepends : DependsOn records stale pointer :=
            ⟨Bool.eq_false_iff.mpr hother, record, hrecord, hmem⟩
          obtain ⟨added, hinv, hqueue, hnodup, hadded, hclosed⟩ := ih h
          have hpointer : pointer ∉ added := by
            intro hin
            exact (hadded pointer hin).1 (List.mem_append_right _ (List.mem_singleton_self _))
          refine ⟨pointer :: added, ?_, ?_, List.nodup_cons.mpr ⟨hpointer, hnodup⟩, ?_, ?_⟩
          · rw [hinv, List.append_assoc, List.singleton_append]
          · rw [hqueue, List.append_assoc, List.singleton_append]
          · intro p hp
            rcases List.mem_cons.mp hp with rfl | hp
            · exact ⟨hfresh, List.mem_cons_self, hdepends⟩
            · obtain ⟨hnew, hin, hdep⟩ := hadded p hp
              exact ⟨fun hold => hnew (List.mem_append_left _ hold), List.mem_cons_of_mem _ hin,
                hdep⟩
          · intro p hp hdep
            rcases List.mem_cons.mp hp with rfl | hp
            · rw [hinv]
              exact List.mem_append_left _ (List.mem_append_right _ (List.mem_singleton_self _))
            · exact hclosed p hp hdep
        case isFalse hmem =>
          obtain ⟨added, hinv, hqueue, hnodup, hadded, hclosed⟩ := ih h
          refine ⟨added, hinv, hqueue, hnodup, ?_, ?_⟩
          · intro p hp
            obtain ⟨hnew, hin, hdep⟩ := hadded p hp
            exact ⟨hnew, List.mem_cons_of_mem _ hin, hdep⟩
          · intro p hp hdep
            rcases List.mem_cons.mp hp with rfl | hp
            · obtain ⟨-, record', hrecord', hin⟩ := hdep
              rw [hrecord] at hrecord'
              obtain rfl := Option.some.inj hrecord'
              exact absurd hin hmem
            · exact hclosed p hp hdep

/-- A turn fails only at a pointer that is not on record. -/
theorem invalidatePointers_total {stale : HumanCenteredContractRefV1}
    (hrecorded : ∀ p ∈ pointers, (findRecord records p).isSome = true)
    (inv queue : List HumanCenteredContractRefV1) :
    ∃ result, invalidatePointers records stale pointers inv queue = .ok result := by
  induction pointers generalizing inv queue with
  | nil => exact ⟨_, rfl⟩
  | cons pointer rest ih =>
    obtain ⟨hpointer, hrest⟩ := List.forall_mem_cons.mp hrecorded
    obtain ⟨record, hrecord⟩ := Option.isSome_iff_exists.mp hpointer
    rw [invalidatePointers, hrecord]
    split
    · exact ih hrest inv queue
    · dsimp only
      split
      · exact ih hrest _ _
      · exact ih hrest _ _

/-! ### The loop -/

/-- What holds before every turn of the loop.  `covered` and `closed` are the two halves of
completeness: what was invalidated waits or was visited, and what was visited is done. -/
structure LoopOk (records : List HumanCenteredContractSnapshotV1)
    (pointers inv₀ : List HumanCenteredContractRefV1) (root : HumanCenteredContractRefV1)
    (queue visited inv : List HumanCenteredContractRefV1) : Prop where
  kept : ∀ p ∈ inv₀, p ∈ inv
  sound : ∀ p ∈ inv, p ∈ inv₀ ∨ InvalidatedWith records pointers inv₀ root p
  queued : ∀ p ∈ queue, p = root ∨ InvalidatedWith records pointers inv₀ root p
  start : root ∈ queue ∨ root ∈ visited
  covered : ∀ p ∈ inv, p ∉ inv₀ → p ∈ queue ∨ p ∈ visited
  closed : ∀ v ∈ visited, ∀ p ∈ pointers, DependsOn records v p → p ∈ inv

/-- The pointers that are not invalidated yet. -/
def remaining (pointers inv : List HumanCenteredContractRefV1) : List HumanCenteredContractRefV1 :=
  pointers.filter fun p => !inv.contains p

omit [Crypto] [FloatText] in
/-- Every pointer that is added is one less that remains. -/
theorem length_remaining_append {inv added : List HumanCenteredContractRefV1}
    (hnodup : added.Nodup) (hadded : ∀ p ∈ added, p ∉ inv ∧ p ∈ pointers) :
    (remaining pointers (inv ++ added)).length + added.length ≤
    (remaining pointers inv).length := by
  have hsubset : ∀ p ∈ added, p ∈ remaining pointers inv := by
    intro p hp
    rw [remaining, List.mem_filter]
    exact ⟨(hadded p hp).2, by simpa using (hadded p hp).1⟩
  have hcount : added.length ≤ ((remaining pointers inv).filter (added.contains ·)).length := by
    refine (List.subperm_of_subset hnodup ?_).length_le
    intro p hp
    rw [List.mem_filter]
    exact ⟨hsubset p hp, by simpa using hp⟩
  have hrest : (remaining pointers (inv ++ added)).length
      = ((remaining pointers inv).filter fun p => !added.contains p).length := by
    rw [remaining, remaining, List.filter_filter]
    congr 2
    funext p
    simp only [List.contains_eq_mem, List.mem_append, Bool.decide_or, Bool.not_or, Bool.and_comm]
  have hsplit := List.length_eq_length_filter_add (l := remaining pointers inv) (added.contains ·)
  omega

/-- **What the loop keeps**, with enough fuel: at its end nothing waits. -/
theorem LoopOk.loop {fuel : Nat} {queue visited inv inv' : List HumanCenteredContractRefV1}
    (h : LoopOk records pointers inv₀ root queue visited inv)
    (hfuel : queue.length + (remaining pointers inv).length ≤ fuel)
    (hrun : invalidateLoop records pointers fuel queue visited inv = .ok inv') :
    ∃ visited', LoopOk records pointers inv₀ root [] visited' inv' := by
  induction fuel generalizing queue visited inv with
  | zero =>
    obtain rfl := List.length_eq_zero_iff.mp (Nat.eq_zero_of_le_zero (Nat.le_trans
      (Nat.le_add_right _ _) hfuel))
    obtain rfl := Except.ok.inj hrun
    exact ⟨visited, h⟩
  | succ fuel ih =>
    rcases queue with _ | ⟨stale, queue⟩
    · obtain rfl := Except.ok.inj hrun
      exact ⟨visited, h⟩
    · rw [invalidateLoop] at hrun
      rw [List.length_cons] at hfuel
      have hsource := h.queued stale List.mem_cons_self
      split at hrun
      case isTrue hvisited =>
        -- the reference was visited before: it only leaves the queue
        refine ih ⟨h.kept, h.sound, ?_, ?_, ?_, h.closed⟩ (by omega) hrun
        · intro p hp
          exact h.queued p (List.mem_cons_of_mem _ hp)
        · rcases h.start with hstart | hstart
          · rcases List.mem_cons.mp hstart with rfl | hstart
            · exact .inr hvisited
            · exact .inl hstart
          · exact .inr hstart
        · intro p hp hnew
          rcases h.covered p hp hnew with hq | hv
          · rcases List.mem_cons.mp hq with rfl | hq
            · exact .inr hvisited
            · exact .inl hq
          · exact .inr hv
      case isFalse hvisited =>
        obtain ⟨⟨inv₁, queue₁⟩, hturn, hrun⟩ := bind_eq_ok.mp hrun
        obtain ⟨added, rfl, rfl, hnodup, hadded, hclosed⟩ := invalidatePointers_eq_ok hturn
        have hfewer :=
          length_remaining_append hnodup fun p hp => ⟨(hadded p hp).1, (hadded p hp).2.1⟩
        have hwithdrawn : ∀ p ∈ added, InvalidatedWith records pointers inv₀ root p := by
          intro p hp
          obtain ⟨hfresh, hmem, hdep⟩ := hadded p hp
          exact .of_source hsource hmem (fun hold => hfresh (h.kept p hold)) hdep
        refine ih ⟨?_, ?_, ?_, ?_, ?_, ?_⟩ (by rw [List.length_append]; omega) hrun
        · intro p hp
          exact List.mem_append_left _ (h.kept p hp)
        · intro p hp
          rcases List.mem_append.mp hp with hp | hp
          · exact h.sound p hp
          · exact .inr (hwithdrawn p hp)
        · intro p hp
          rcases List.mem_append.mp hp with hp | hp
          · exact h.queued p (List.mem_cons_of_mem _ hp)
          · exact .inr (hwithdrawn p hp)
        · rcases h.start with hstart | hstart
          · rcases List.mem_cons.mp hstart with rfl | hstart
            · exact .inr List.mem_cons_self
            · exact .inl (List.mem_append_left _ hstart)
          · exact .inr (List.mem_cons_of_mem _ hstart)
        · intro p hp hnew
          rcases List.mem_append.mp hp with hp | hp
          · rcases h.covered p hp hnew with hq | hv
            · rcases List.mem_cons.mp hq with rfl | hq
              · exact .inr List.mem_cons_self
              · exact .inl (List.mem_append_left _ hq)
            · exact .inr (List.mem_cons_of_mem _ hv)
          · exact .inl (List.mem_append_right _ hp)
        · intro v hv p hp hdep
          rcases List.mem_cons.mp hv with rfl | hv
          · exact hclosed p hp hdep
          · exact List.mem_append_left _ (h.closed v hv p hp hdep)

/-- **The loop computes the closure.** -/
theorem mem_invalidateLoop {inv : List HumanCenteredContractRefV1}
    (h : invalidateLoop records pointers (pointers.length + 1) [root] [] inv₀ = .ok inv)
    {p : HumanCenteredContractRefV1} :
    p ∈ inv ↔ p ∈ inv₀ ∨ InvalidatedWith records pointers inv₀ root p := by
  have hstart : LoopOk records pointers inv₀ root [root] [] inv₀ :=
    { kept := fun p hp => hp
      sound := fun p hp => .inl hp
      queued := fun p hp => .inl (List.mem_singleton.mp hp)
      start := .inl (List.mem_singleton_self root)
      covered := fun p hp hnew => absurd hp hnew
      closed := fun v hv => absurd hv List.not_mem_nil }
  have hfuel : [root].length + (remaining pointers inv₀).length ≤ pointers.length + 1 := by
    have hle : (remaining pointers inv₀).length ≤ pointers.length := List.length_filter_le _ _
    rw [List.length_singleton]
    omega
  obtain ⟨visited, hend⟩ := hstart.loop hfuel h
  -- the queue is empty: the root and everything that was added were visited
  have hroot : root ∈ visited := hend.start.resolve_left List.not_mem_nil
  constructor
  · exact hend.sound p
  · rintro (hold | hwithdrawn)
    · exact hend.kept p hold
    · induction hwithdrawn with
      | direct hmem _ hdep => exact hend.closed root hroot _ hmem hdep
      | next hstale hmem _ hdep ih =>
        have hvisited := (hend.covered _ ih hstale.not_mem).resolve_left List.not_mem_nil
        exact hend.closed _ hvisited _ hmem hdep

theorem invalidateLoop_total (hrecorded : ∀ p ∈ pointers, (findRecord records p).isSome = true)
    (fuel : Nat) (queue visited inv : List HumanCenteredContractRefV1) :
    ∃ result, invalidateLoop records pointers fuel queue visited inv = .ok result := by
  induction fuel generalizing queue visited inv with
  | zero => exact ⟨_, rfl⟩
  | succ fuel ih =>
    rcases queue with _ | ⟨stale, queue⟩
    · exact ⟨_, rfl⟩
    · rw [invalidateLoop]
      split
      · exact ih queue visited inv
      · obtain ⟨⟨inv₁, queue₁⟩, hturn⟩ := invalidatePointers_total hrecorded inv queue
        rw [hturn]
        exact ih queue₁ (stale :: visited) inv₁

/-! ### What becomes of a snapshot -/

/-- The reservations after a reference is withdrawn: those of the reference, and those whose action
is no longer current. -/
def withdrawReservations (snapshot : HumanCenteredStoreSnapshotV1)
    (stale : HumanCenteredContractRefV1) (inv : List HumanCenteredContractRefV1) :
    List ExecutionReservationRecordV1 :=
  snapshot.executionReservations.map fun reservation =>
    if (stale.kind = .action ∧ reservation.actionRef = stale)
        ∨ ¬ (reservation.actionRef ∈ snapshot.currentPointers ∧ reservation.actionRef ∉ inv)
    then reservation.withdraw else reservation

/-- **What `invalidateDependents` does**, when every pointer is on record. -/
theorem invalidateDependents_eq_ok {snapshot result : HumanCenteredStoreSnapshotV1}
    {stale : HumanCenteredContractRefV1} :
    invalidateDependents snapshot stale = .ok result ↔
      ∃ inv, invalidateLoop snapshot.records snapshot.currentPointers
          (snapshot.currentPointers.length + 1) [stale] [] snapshot.invalidatedRefs = .ok inv ∧
        result = { snapshot with
          invalidatedRefs := dedupAdjacent (sortRefs inv)
          executionReservations := withdrawReservations snapshot stale inv } := by
  simp only [invalidateDependents, bind_eq_ok, Except.ok.injEq]
  refine exists_congr fun inv => and_congr_right fun _ => ?_
  rw [eq_comm (b := result)]
  suffices hreservations : (reconcileInvalidatedExecutionReservations { snapshot with
      executionReservations := invalidateExecutionReservation stale snapshot.executionReservations
      invalidatedRefs := dedupAdjacent (sortRefs inv) }).executionReservations
        = withdrawReservations snapshot stale inv by
    unfold reconcileInvalidatedExecutionReservations at hreservations ⊢
    dsimp only at hreservations ⊢
    rw [hreservations]
  have hcurrent : ∀ r, ({ snapshot with
      executionReservations := invalidateExecutionReservation stale snapshot.executionReservations
      invalidatedRefs := dedupAdjacent (sortRefs inv) } : HumanCenteredStoreSnapshotV1).isCurrent r
        = decide (r ∈ snapshot.currentPointers ∧ r ∉ inv) := by
    intro r
    simp [HumanCenteredStoreSnapshotV1.isCurrent, mem_dedupAdjacent]
  simp only [reconcileInvalidatedExecutionReservations, hcurrent, decide_eq_true_eq,
    withdrawReservations]
  unfold invalidateExecutionReservation
  by_cases hkind : stale.kind = .action
  · rw [if_neg (not_not.mpr hkind), List.map_map]
    apply List.map_congr_left
    intro reservation _
    by_cases href : reservation.actionRef = stale
    · -- the two sweeps may both meet the reservation
      have haction : reservation.withdraw.actionRef = stale := href
      simp [hkind, href, haction, ExecutionReservationRecordV1.withdraw_withdraw]
    · simp only [Function.comp, href, and_false, false_or, if_false, ite_not]
  · rw [if_pos hkind]
    apply List.map_congr_left
    intro reservation _
    simp only [hkind, false_and, false_or, ite_not]

/-- The references that are invalidated afterwards. -/
theorem mem_invalidatedRefs_of_invalidateDependents {snapshot result : HumanCenteredStoreSnapshotV1}
    {stale : HumanCenteredContractRefV1} (h : invalidateDependents snapshot stale = .ok result)
    {p : HumanCenteredContractRefV1} :
    p ∈ result.invalidatedRefs ↔ p ∈ snapshot.invalidatedRefs ∨
      InvalidatedWith snapshot.records snapshot.currentPointers snapshot.invalidatedRefs stale
        p := by
  obtain ⟨inv, hloop, rfl⟩ := invalidateDependents_eq_ok.mp h
  show p ∈ dedupAdjacent (sortRefs inv) ↔ _
  rw [mem_dedupAdjacent, mem_sortRefs]
  exact mem_invalidateLoop hloop

end Invalidate

end Idr
