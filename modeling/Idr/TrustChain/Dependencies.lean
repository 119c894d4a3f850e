/-
Idr/TrustChain/Dependencies.lean

The records a new record is stored to depend on.

The repository derives the edges of a record from its command and from the
current references of the run after the transition, by kind.  An
invalidation later spreads along these edges.  The edge of a receipt is
the action that is current when the receipt arrives, which need not be the
action that was dispatched.
-/
import Idr.TrustChain.Provenance

namespace Idr

/-! ### Dependency edges -/

/-- The kinds whose current records a record issued by the command depends on. -/
def dependencyKinds (records : CandidateKindV1 → Option AuthoritativeRecordRefV1) :
    IdrCommandV1 → List CandidateKindV1
  | .recordContext _ => [.canonicalInput]
  | .recordIntent _ => [.contextSnapshot]
  | .recordDecision _ => [.intent]
  | .recordTurn _ => [.intent, .decision]
  | .recordResponse _ => [.turnCoordination]
  | .recordAction _ =>
    [.turnCoordination, if (records .decision).isSome = true then .decision else .intent]
  | .commitExecutionReceipt _ _ _ _ _ _ => [.action]
  | .recordOutcome _ => [.executionReceipt]
  | .proposeHumanModelCandidate _ => [.outcome]
  | _ => []

/-- The records that the command itself names as dependencies. -/
def namedDependencies : IdrCommandV1 → List AuthoritativeRecordRefV1
  | .admitAction actionRef _ _ _ _ => [actionRef]
  | .recordHumanModelPromotion _ sourceCandidateRef => [sourceCandidateRef]
  | .promoteHumanModelAssertion _ promotionDecisionRef => [promotionDecisionRef]
  | .correctHumanModelAssertion assertionRef _ => [assertionRef]
  | _ => []

/-- The set of dependencies that `persist_contract_dependencies` collects for a record, beside its
predecessor. -/
def contractDependencies (command : IdrCommandV1)
    (records : CandidateKindV1 → Option AuthoritativeRecordRefV1)
    (record : AuthoritativeRecordRefV1) : List AuthoritativeRecordRefV1 :=
  sortedSet compareRecordRef
    (((dependencyKinds records command).filterMap records).filter (· ≠ record) ++
      namedDependencies command)

theorem mem_contractDependencies {command : IdrCommandV1}
    {records : CandidateKindV1 → Option AuthoritativeRecordRefV1}
    {record x : AuthoritativeRecordRefV1} :
    x ∈ contractDependencies command records record ↔
      (∃ kind ∈ dependencyKinds records command, records kind = some x) ∧ x ≠ record ∨
        x ∈ namedDependencies command := by
  simp [contractDependencies, mem_sortedSet compareRecordRef_eq, List.mem_filterMap]

/-! ### The edge of a receipt -/

section Receipt

variable [Crypto] {s t : RunStateV1} {i : RunInputV1}

/-- A newer revision of the action than the one of the execution has been recorded. -/
def NewerActionRecorded (p : IdrRunProjectionV1) (e : ExecutionProjectionV1) : Prop :=
  ∃ a, p.records .action = some a ∧ e.actionRef.revision < a.revision

/-- The current action of the run is the one of the execution, or a newer revision. -/
def ActionKept (p : IdrRunProjectionV1) : Prop :=
  ∀ e, p.execution = some e → ∃ a, p.records .action = some a ∧
    (a = e.actionRef ∨ e.actionRef.revision < a.revision)

omit [Crypto] in
/-- An issued record of kind action is the next revision of the action. -/
theorem RecordIdentity.action {fresh : FreshIdsV1} {p : IdrRunProjectionV1} {c : IdrCommandV1}
    {ref : AuthoritativeRecordRefV1} (h : RecordIdentity fresh p c ref)
    (hkind : ref.candidateKind = .action) : NextRecord p .action fresh.recordId ref := by
  cases h with
  | @next kind _ hnext =>
    obtain rfl : kind = .action := hnext.1.symm.trans hkind
    exact hnext
  | correction _ _ hother =>
    rw [hother] at hkind
    cases hkind

/-- The current action after a step: the one before, or its next revision. -/
theorem action_step (hstep : RunStep s i t) :
    t.projection.records .action = s.projection.records .action ∨
      i.revokes = false ∧ ∃ ref, t.projection.records .action = some ref ∧
        NextRecord s.projection .action i.fresh.recordId ref ∧
        RecordIdentity i.fresh s.projection i.command.command ref := by
  obtain ⟨issued, hrecords, hissued⟩ := runStep_records hstep
  rw [hrecords]
  rcases issued with _ | record
  · exact .inl rfl
  · obtain ⟨hrevokes, hidentity, -⟩ := (hissued record).2 rfl
    by_cases hkind : record.recordRef.candidateKind = .action
    · refine .inr ⟨hrevokes, record.recordRef, ?_, hidentity.action hkind, hidentity⟩
      rw [← hkind]
      exact insertRecord_self record
    · exact .inl (insertRecord_of_ne fun h => hkind h.symm)

/-- **What one step does to the action of an execution.** -/
theorem actionKept_step (hs : Reachable RunInit RunStep s) (hkept : ActionKept s.projection)
    (hstep : RunStep s i t) : ActionKept t.projection := by
  obtain ⟨-, -, -, transition, htransition, ht⟩ := runStep_eq_ok hstep
  intro e he
  rcases runTransition_execution htransition with ⟨f, hmoved⟩ |
    ⟨hrevokes, hreserves, a, next, hnext, -, -, hfrom⟩
  · rw [ht, hmoved] at he
    obtain ⟨last, hlast, rfl⟩ := Option.map_eq_some_iff.mp he
    obtain ⟨a, ha, hold⟩ := hkept last hlast
    rcases action_step hstep with hsame | ⟨-, ref, href, hnext, -⟩
    · exact ⟨a, hsame.trans ha, hold⟩
    · -- a new action has a higher revision than the one before
      have hrevision : ref.revision = a.revision + 1 := by
        have hids := hnext.2
        rw [ha] at hids
        exact hids.2
      refine ⟨ref, href, .inr ?_⟩
      rw [withState_actionRef, hrevision]
      rcases hold with rfl | hold <;> omega
  · obtain rfl := Option.some.inj (hnext.symm.trans (ht ▸ he))
    -- the reserved action is of kind action, and current
    obtain ⟨s₀, is, h₀, hrun⟩ := hs
    obtain ⟨-, -, -, -, -, -, -, -, -, -, -, -, hkind, -⟩ :=
      ((provenance_run h₀ (hrun.snoc hstep)).2 next he).action.recorded
    have hcurrent := hfrom.current
    rw [hkind] at hcurrent
    rcases action_step hstep with hsame | ⟨-, ref, -, -, hidentity⟩
    · exact ⟨next.actionRef, hsame.trans hcurrent, .inl rfl⟩
    · -- a reservation issues no record
      cases hidentity with
      | next hissued =>
        cases hc : i.command.command <;>
          simp_all [IdrCommandV1.reserves, IdrCommandV1.issuedKind,
            IdrCommandV1.expectedCandidateKind]
      | correction hc =>
        rw [hc] at hreserves
        cases hreserves

theorem actionKept_reachable (hs : Reachable RunInit RunStep s) : ActionKept s.projection := by
  refine hs.invariant_with (P := fun s => ActionKept s.projection) ?_ ?_
  · rintro s ⟨trustDomain, environmentRef, runId, tenantRef, hs⟩ e he
    rw [hs] at he
    cases he
  · exact fun s i t hs hkept hstep => actionKept_step hs hkept hstep

/-- A receipt leaves the current action as it is. -/
theorem receipt_action {transition : IdrTransitionV1} {receipt : CandidateSubmissionV1}
    {reservationId permitId : Uuid} {providerRef : ReferenceV1} {nonce : Text} {attempt : Nat}
    (h : runTransition s.projection i = .ok transition)
    (hc : i.command.command =
      .commitExecutionReceipt receipt reservationId permitId providerRef nonce attempt) :
    transition.projection.records .action = s.projection.records .action ∧
      ∀ record, transition.authoritativeRecord = some record →
        record.recordRef.candidateKind = .executionReceipt := by
  obtain ⟨hframe, hrecords⟩ := runTransition_records h
  rw [hframe.records]
  generalize i.revokes = revokes at hrecords
  cases hrecords with
  | revoked closure hnone =>
    rw [hnone]
    exact ⟨rfl, fun _ h => (by cases h)⟩
  | evaluated closure _ harm =>
    have hkind : ∀ record, transition.authoritativeRecord = some record →
        record.recordRef.candidateKind = .executionReceipt := by
      intro record hissued
      cases harm.identity hissued with
      | next hissues hnext =>
        rw [hc] at hissues
        cases hissues
        exact hnext.1
      | correction hother =>
        rw [hc] at hother
        cases hother
    refine ⟨?_, hkind⟩
    rcases hissued : transition.authoritativeRecord with _ | record
    · rfl
    · apply insertRecord_of_ne
      rw [hkind record hissued]
      simp

/-- **The edges of a receipt** refer to the dispatched action and nothing else, exactly when no
newer action has been recorded. -/
theorem receipt_dependencies {e : ExecutionProjectionV1} {transition : IdrTransitionV1}
    {record : AuthoritativeRecordV1} {receipt : CandidateSubmissionV1}
    {reservationId permitId : Uuid} {providerRef : ReferenceV1} {nonce : Text} {attempt : Nat}
    (hs : Reachable RunInit RunStep s) (h : runTransition s.projection i = .ok transition)
    (hc : i.command.command =
      .commitExecutionReceipt receipt reservationId permitId providerRef nonce attempt)
    (he : s.projection.execution = some e)
    (hrecord : transition.authoritativeRecord = some record) :
    (∀ x, x ∈ contractDependencies i.command.command transition.projection.records
        record.recordRef ↔ x = e.actionRef) ↔
      ¬ NewerActionRecorded s.projection e := by
  obtain ⟨haction, hkind⟩ := receipt_action h hc
  obtain ⟨a, ha, hold⟩ := actionKept_reachable hs e he
  -- the only edge is the current action, which is no receipt
  have hedge : ∀ x, x ∈ contractDependencies i.command.command transition.projection.records
      record.recordRef ↔ x = a := by
    intro x
    have hne : a ≠ record.recordRef := by
      intro hsame
      have hakind := recordsKinded_reachable hs _ a ha
      rw [hsame, hkind record hrecord] at hakind
      cases hakind
    rw [mem_contractDependencies, hc]
    simp only [dependencyKinds, namedDependencies, List.mem_singleton, exists_eq_left,
      List.not_mem_nil, or_false, haction, ha, Option.some.injEq]
    constructor
    · exact fun hx => hx.1.symm
    · rintro rfl
      exact ⟨rfl, hne⟩
  simp only [hedge]
  constructor
  · rintro hsame ⟨a', ha', hnewer⟩
    obtain rfl := Option.some.inj (ha.symm.trans ha')
    rw [(hsame a).mp rfl] at hnewer
    exact absurd hnewer (Nat.lt_irrefl _)
  · intro hnone
    have hsame : a = e.actionRef := hold.resolve_right fun hnewer => hnone ⟨a, ha, hnewer⟩
    intro x
    rw [hsame]

omit [Crypto]

instance (p : IdrRunProjectionV1) (e : ExecutionProjectionV1) :
    Decidable (NewerActionRecorded p e) :=
  decidable_of_iff ((p.records .action).any (fun a => e.actionRef.revision < a.revision) = true) (by
    simp [NewerActionRecorded, Option.any_eq_true])

/-- The receipt of the dispatch is committed; or a new action is recorded, and then it is. -/
def Sample.commitsReceipt (s : RunStateV1) : Bool :=
  s.projection.execution.any (fun e => ¬ NewerActionRecorded s.projection e) &&
    isOkAnd (@runTransition crypto s.projection (receiptCommitted false s))
      (fun transition => transition.authoritativeRecord.isSome) &&
    isOkAnd (@runStep crypto s (actionReplaced s)) fun t =>
      t.projection.execution.any (fun e => NewerActionRecorded t.projection e) &&
        isOkAnd (@runTransition crypto t.projection (receiptCommitted true t)) fun transition =>
          transition.authoritativeRecord.isSome

set_option maxRecDepth 10000 in
def Sample.receiptAwaited : RunScript (fun _ _ => True) commitsReceipt where
  inputs := toDispatch
  leads := by decide +kernel

/-- The receipt of the sample run refers to the dispatched action. -/
theorem receipt_dependencies_sample : ∃ s transition e record,
    @runTransition Sample.crypto s.projection (Sample.receiptCommitted false s) = .ok transition ∧
      s.projection.execution = some e ∧ transition.authoritativeRecord = some record ∧
      ∀ x, x ∈ contractDependencies (Sample.receiptCommitted false s).command.command
        transition.projection.records record.recordRef ↔ x = e.actionRef := by
  obtain ⟨s, is, hrun, h⟩ := Sample.receiptAwaited.run
  simp only [Sample.commitsReceipt, Bool.and_eq_true, isOkAnd_iff, Option.any_eq_true,
    decide_eq_true_eq, Option.isSome_iff_exists] at h
  obtain ⟨⟨⟨e, he, hnone⟩, transition, h, record, hrecord⟩, -⟩ := h
  have hreachable : Reachable RunInit (@RunStep Sample.crypto) s :=
    ⟨Sample.init, is, Sample.runInit_init, hrun.of_restrict⟩
  exact ⟨s, transition, e, record, h, he, hrecord,
    (@receipt_dependencies Sample.crypto s _ e transition record _ _ _ _ _ _ hreachable h rfl he
      hrecord).mpr hnone⟩

/-- It need not: after a new action was recorded, the receipt of the sample run refers to that. -/
theorem receipt_depends_on_newer :
    ¬ ∀ s i transition e record receipt reservationId permitId providerRef nonce attempt,
      Reachable RunInit (@RunStep Sample.crypto) s →
      @runTransition Sample.crypto s.projection i = .ok transition →
      i.command.command =
        .commitExecutionReceipt receipt reservationId permitId providerRef nonce attempt →
      s.projection.execution = some e → transition.authoritativeRecord = some record →
      ∀ x, x ∈ contractDependencies i.command.command transition.projection.records
        record.recordRef ↔ x = e.actionRef := by
  intro hedges
  obtain ⟨s, is, hrun, h⟩ := Sample.receiptAwaited.run
  simp only [Sample.commitsReceipt, Bool.and_eq_true, isOkAnd_iff, Option.any_eq_true,
    decide_eq_true_eq, Option.isSome_iff_exists] at h
  obtain ⟨-, t, ht, ⟨e, he, hnewer⟩, transition, h, record, hrecord⟩ := h
  have hreachable : Reachable RunInit (@RunStep Sample.crypto) t :=
    Reachable.snoc ⟨Sample.init, is, Sample.runInit_init, hrun.of_restrict⟩ ht
  have hedge := hedges t _ transition e record _ _ _ _ _ _ hreachable h rfl he hrecord
  exact (@receipt_dependencies Sample.crypto t _ e transition record _ _ _ _ _ _ hreachable h rfl he
    hrecord).mp hedge hnewer

end Receipt

end Idr
