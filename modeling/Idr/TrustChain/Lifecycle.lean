/-
Idr/TrustChain/Lifecycle.lean

What one step can do to the state of a run and to its execution.

Many commands touch the execution, each with its own list of states.
`LifecycleEffect` says once and for all what each of them can do; it is an
abstract transition relation on the pair of the run state and the
execution, and `evaluateCommand_effect` is the proof that the evaluator
refines it, one lemma for each arm.  The closure the repository applies
afterwards changes the execution by `closeAll` and the run state by
`closeRunState` (`applyRepositoryInvalidationClosure_effect`), and a
revocation does what `revoked` says.  `runTransition_effect` puts the three
together; the results about runs use it and nothing below it.
-/
import Idr.TrustChain.Run

namespace Idr

/-! ### The effects -/

/-- The authority of an execution is current: its action is the current record, not invalidated,
and its window has not elapsed. -/
def AuthorityCurrent (projection : IdrRunProjectionV1) (execution : ExecutionProjectionV1)
    (trustedNow : Nat) : Prop :=
  projection.records .action = some execution.actionRef
    ∧ execution.actionRef ∉ projection.invalidatedRecords
    ∧ executionAuthorityExpired execution trustedNow = false

instance (projection : IdrRunProjectionV1) (execution : ExecutionProjectionV1)
    (trustedNow : Nat) : Decidable (AuthorityCurrent projection execution trustedNow) := by
  unfold AuthorityCurrent
  infer_instance

/-- The same execution in another state. -/
def ExecutionProjectionV1.withState (execution : ExecutionProjectionV1)
    (state : ExecutionAggregateStateV1) : ExecutionProjectionV1 :=
  { execution with state }

/-- When an execution may be reserved: there is none, the last attempt for the same action can be
retried, or the last one, for another action, was cancelled. -/
def Reservable (execution : Option ExecutionProjectionV1) (next : ExecutionProjectionV1) : Prop :=
  execution = none ∧ next.attempt = 1
    ∨ (∃ last, execution = some last ∧ last.actionRef = next.actionRef
        ∧ Retryable last.state
        ∧ next.attempt = last.attempt + 1 ∧ next.idempotencyKey = last.idempotencyKey
        ∧ next.reservationId = last.reservationId)
    ∨ (∃ last, execution = some last ∧ last.actionRef ≠ next.actionRef
        ∧ last.state = .cancelled ∧ next.attempt = 1)

/-- The command that reserves an execution. -/
def IdrCommandV1.reserves : IdrCommandV1 → Bool
  | .reserveExecution _ _ _ _ _ _ _ _ _ => true
  | _ => false

/-- An intent whose fast path blocks the run. -/
def blocksRun (intent : CandidateSubmissionV1) : Bool :=
  (intent.payload.get "fast_path_outcome").bind Value.asStr = some "block"

/-- The commands that may leave both the run state and the execution as they are. -/
def IdrCommandV1.mayKeep : IdrCommandV1 → Bool
  | .startRun _ | .recordAction _ | .reserveExecution _ _ _ _ _ _ _ _ _ | .deliverPermit _ _
  | .startDispatch _ _ | .commitExecutionReceipt _ _ _ _ _ _ | .expireExecutionLease _
  | .invalidateRecord _ _ | .cancelRun _ => false
  | .recordIntent intent => !blocksRun intent
  | _ => true

/-- **What a command can do** to the run state and the execution: the constructors are the ways,
the two indices the state and the execution afterwards. -/
inductive LifecycleEffect (fresh : FreshIdsV1) (now : Nat) (p : IdrRunProjectionV1) :
    IdrCommandV1 → IdrRunStateV1 → Option ExecutionProjectionV1 → Prop
  | kept (c) : c.mayKeep = true → LifecycleEffect fresh now p c p.state p.execution
  | started (input) : p.state = .pending →
      LifecycleEffect fresh now p (.startRun input) .running p.execution
  | blocked (intent) : blocksRun intent = true →
      LifecycleEffect fresh now p (.recordIntent intent) .rejected p.execution
  | superseded (action) :
      LifecycleEffect fresh now p (.recordAction action) p.state
        (p.execution.map fun e => e.withState (supersededState e.state))
  | reserved {c next} : c.reserves = true → next.state = .permitIssued →
      next.permitId = fresh.permitId → Reservable p.execution next →
      (next.reservationId = fresh.reservationId ∨
        ∃ last, p.execution = some last ∧ next.reservationId = last.reservationId ∧
          next.attempt = last.attempt + 1) →
      LifecycleEffect fresh now p c p.state (some next)
  | delivered {e} : p.execution = some e → AuthorityCurrent p e now →
      e.state = .permitIssued →
      LifecycleEffect fresh now p (.deliverPermit e.reservationId e.permitId) p.state
        (some (e.withState .permitDelivered))
  | dispatched {e} : p.execution = some e → AuthorityCurrent p e now →
      e.state = .permitDelivered →
      LifecycleEffect fresh now p (.startDispatch e.reservationId e.permitId) p.state
        (some (e.withState .dispatchStarted))
  | withdrawn {c e} : (c = .deliverPermit e.reservationId e.permitId ∨
        c = .startDispatch e.reservationId e.permitId) →
      p.execution = some e → ¬ AuthorityCurrent p e now →
      LifecycleEffect fresh now p c p.state (some (e.withState (withdrawnState e.state)))
  | expired {c e} : (c = .recoverPermit e.reservationId ∨
      c = .expireExecutionLease e.reservationId) →
      p.execution = some e → executionAuthorityExpired e now = true → PermitOpen e.state →
      LifecycleEffect fresh now p c p.state (some (e.withState .expired))
  | overdue {e} : p.execution = some e → executionAuthorityExpired e now = true →
      (e.state = .dispatchStarted ∨ e.state = .awaitingProvider) →
      LifecycleEffect fresh now p (.expireExecutionLease e.reservationId) p.state
        (some (e.withState .reconciliationRequired))
  | received {e receipt state run} : p.execution = some e → InFlight e.state →
      receiptTerminalState receipt.payload = .ok state → receiptRunState state = .ok run →
      LifecycleEffect fresh now p
        (.commitExecutionReceipt receipt e.reservationId e.permitId e.providerRef e.dispatchNonce
          e.attempt) run (some (e.withState state))
  | invalidated (recordRef reasonRef) :
      LifecycleEffect fresh now p (.invalidateRecord recordRef reasonRef) .invalidated
        (p.execution.map fun e =>
          if e.actionRef.recordId = recordRef.recordId ∧ e.state.isTerminal = false
          then e.withState (withdrawnState e.state) else e)
  | cancelled (reasonRef) :
      LifecycleEffect fresh now p (.cancelRun reasonRef) .cancelled p.execution

@[simp] theorem withState_state (e : ExecutionProjectionV1) (s : ExecutionAggregateStateV1) :
    (e.withState s).state = s := rfl

@[simp] theorem withState_self (e : ExecutionProjectionV1) : e.withState e.state = e := rfl

@[simp] theorem withState_withState (e : ExecutionProjectionV1) (s t : ExecutionAggregateStateV1) :
    (e.withState s).withState t = e.withState t := rfl

@[simp] theorem withState_actionRef (e : ExecutionProjectionV1) (s : ExecutionAggregateStateV1) :
    (e.withState s).actionRef = e.actionRef := rfl

@[simp] theorem withState_reservationId (e : ExecutionProjectionV1)
    (s : ExecutionAggregateStateV1) : (e.withState s).reservationId = e.reservationId := rfl

@[simp] theorem withState_permitId (e : ExecutionProjectionV1) (s : ExecutionAggregateStateV1) :
    (e.withState s).permitId = e.permitId := rfl

@[simp] theorem withState_attempt (e : ExecutionProjectionV1) (s : ExecutionAggregateStateV1) :
    (e.withState s).attempt = e.attempt := rfl

@[simp] theorem withState_dispatchNonce (e : ExecutionProjectionV1)
    (s : ExecutionAggregateStateV1) : (e.withState s).dispatchNonce = e.dispatchNonce := rfl

theorem setExecutionState_execution (p : IdrRunProjectionV1)
    (f : ExecutionAggregateStateV1 → ExecutionAggregateStateV1) :
    (p.setExecutionState f).execution = p.execution.map fun e => e.withState (f e.state) := rfl

@[simp] theorem setExecutionState_state (p : IdrRunProjectionV1)
    (f : ExecutionAggregateStateV1 → ExecutionAggregateStateV1) :
    (p.setExecutionState f).state = p.state := rfl

/-! ### Recording commands -/

section Arms

variable [Crypto] {fresh : FreshIdsV1} {p : IdrRunProjectionV1} {command : IdrCommandEnvelopeV1}
  {now : Nat} {proofs : List VerifiedProductionProofV1} {r : ArmResultV1}

/-- Neither the run state nor the execution changes. -/
def Kept (p q : IdrRunProjectionV1) : Prop := q.state = p.state ∧ q.execution = p.execution

omit [Crypto] in
theorem Kept.effect {q : IdrRunProjectionV1} (h : Kept p q) {c : IdrCommandV1}
    (hc : c.mayKeep = true) : LifecycleEffect fresh now p c q.state q.execution := by
  rw [h.1, h.2]
  exact .kept c hc

theorem evaluateStartRun_effect {input : CandidateSubmissionV1}
    (h : evaluateStartRun fresh p command now proofs input = .ok r) :
    LifecycleEffect fresh now p (.startRun input) r.projection.state r.projection.execution := by
  simp only [evaluateStartRun, requireState, bind_eq_ok, require_eq_ok, exists_const,
    List.mem_singleton, Except.ok.injEq] at h
  obtain ⟨hpending, -, -, record, -, rfl⟩ := h
  exact .started input hpending

theorem evaluateRecordContext_kept {context : CandidateSubmissionV1}
    (h : evaluateRecordContext fresh p command now proofs context = .ok r) :
    Kept p r.projection := by
  simp only [evaluateRecordContext, bind_eq_ok, exists_unit_eq_ok, Except.ok.injEq] at h
  obtain ⟨-, revision, -, record, -, rfl⟩ := h
  exact ⟨rfl, rfl⟩

theorem evaluateRecordIntent_effect {intent : CandidateSubmissionV1}
    (h : evaluateRecordIntent fresh p command now proofs intent = .ok r) :
    LifecycleEffect fresh now p (.recordIntent intent) r.projection.state
      r.projection.execution := by
  simp only [evaluateRecordIntent, bind_eq_ok, exists_unit_eq_ok] at h
  obtain ⟨-, h⟩ := h
  split at h
  case isTrue hblock =>
    simp only [Except.ok.injEq] at h
    subst h
    exact .blocked intent (by simpa [blocksRun] using hblock)
  case isFalse hblock =>
    simp only [bind_eq_ok, exists_unit_eq_ok, Except.ok.injEq] at h
    obtain ⟨-, revision, -, record, -, rfl⟩ := h
    exact .kept _ (by simpa [IdrCommandV1.mayKeep, blocksRun] using hblock)

theorem evaluateRecordDecision_kept {decision : CandidateSubmissionV1}
    (h : evaluateRecordDecision fresh p command now proofs decision = .ok r) :
    Kept p r.projection := by
  simp only [evaluateRecordDecision, bind_eq_ok, exists_unit_eq_ok, Except.ok.injEq] at h
  obtain ⟨-, values, -, revision, -, record, -, rfl⟩ := h
  exact ⟨rfl, rfl⟩

theorem evaluateRecordTurn_kept {turn : CandidateSubmissionV1}
    (h : evaluateRecordTurn fresh p command now proofs turn = .ok r) : Kept p r.projection := by
  simp only [evaluateRecordTurn, bind_eq_ok, exists_unit_eq_ok, Except.ok.injEq] at h
  obtain ⟨-, -, -, revision, -, record, -, rfl⟩ := h
  exact ⟨rfl, rfl⟩

theorem evaluateRecordResponse_kept {response : CandidateSubmissionV1}
    (h : evaluateRecordResponse fresh p command now proofs response = .ok r) :
    Kept p r.projection := by
  simp only [evaluateRecordResponse, bind_eq_ok, exists_unit_eq_ok, Except.ok.injEq] at h
  obtain ⟨-, digest, -, channel, -, audience, -, revision, -, record, -, rfl⟩ := h
  exact ⟨rfl, rfl⟩

theorem evaluateConsumeResponseSend_kept {responseRef : AuthoritativeRecordRefV1}
    {bytes : List UInt8} {channelRef audienceRef : ReferenceV1} {nonce : Text}
    (h : evaluateConsumeResponseSend p now responseRef bytes channelRef audienceRef nonce = .ok r) :
    Kept p r.projection := by
  simp only [evaluateConsumeResponseSend, bind_eq_ok, exists_unit_eq_ok, okOr_eq_ok,
    rejectIf_eq_ok, exists_const, Except.ok.injEq] at h
  obtain ⟨-, binding, -, -, -, rfl⟩ := h
  exact ⟨rfl, rfl⟩

theorem evaluateRecordAction_effect {action : CandidateSubmissionV1}
    (h : evaluateRecordAction fresh p command now proofs action = .ok r) :
    LifecycleEffect fresh now p (.recordAction action) r.projection.state
      r.projection.execution := by
  simp only [evaluateRecordAction, bind_eq_ok, exists_unit_eq_ok, okOr_eq_ok, rejectIf_eq_ok,
    exists_const, Except.ok.injEq] at h
  obtain ⟨-, -, values, -, decision, -, -, revision, -, record, -, digest, -, rfl⟩ := h
  exact .superseded action

theorem evaluateAdmitAction_kept {actionRef : AuthoritativeRecordRefV1} {digest key : Text}
    {providerRef ownerRef : ReferenceV1}
    (h : evaluateAdmitAction fresh p command now proofs actionRef digest providerRef ownerRef key =
      .ok r) : Kept p r.projection := by
  simp only [evaluateAdmitAction, bind_eq_ok, exists_unit_eq_ok, okOr_eq_ok, rejectIf_eq_ok,
    exists_const, Except.ok.injEq] at h
  obtain ⟨-, bindings, -, authorization, -, validUntil, -, -, binding, -, revision, -, admission,
    -, rfl⟩ := h
  exact ⟨rfl, rfl⟩

theorem evaluateRecordOutcome_kept {outcome : CandidateSubmissionV1}
    (h : evaluateRecordOutcome fresh p command now proofs outcome = .ok r) :
    Kept p r.projection := by
  simp only [evaluateRecordOutcome, bind_eq_ok, exists_unit_eq_ok, okOr_eq_ok,
    Except.ok.injEq] at h
  obtain ⟨receiptRef, -, -, -, revision, -, record, -, rfl⟩ := h
  exact ⟨rfl, rfl⟩

theorem evaluateProposeHumanModelCandidate_kept {candidate : CandidateSubmissionV1}
    (h : evaluateProposeHumanModelCandidate fresh p command now proofs candidate = .ok r) :
    Kept p r.projection := by
  simp only [evaluateProposeHumanModelCandidate, bind_eq_ok, exists_unit_eq_ok, okOr_eq_ok,
    Except.ok.injEq] at h
  obtain ⟨outcomeRef, -, -, -, -, revision, -, record, -, rfl⟩ := h
  exact ⟨rfl, rfl⟩

theorem evaluateRecordHumanModelPromotion_kept {decision : CandidateSubmissionV1}
    {sourceRef : AuthoritativeRecordRefV1}
    (h : evaluateRecordHumanModelPromotion fresh p command now proofs decision sourceRef = .ok r) :
    Kept p r.projection := by
  simp only [evaluateRecordHumanModelPromotion, bind_eq_ok, exists_unit_eq_ok, okOr_eq_ok,
    rejectIf_eq_ok, exists_const, Except.ok.injEq] at h
  obtain ⟨-, -, source, -, outcome, -, -, revision, -, record, -, rfl⟩ := h
  exact ⟨rfl, rfl⟩

theorem evaluatePromoteHumanModelAssertion_kept {assertion : CandidateSubmissionV1}
    {decisionRef : AuthoritativeRecordRefV1}
    (h : evaluatePromoteHumanModelAssertion fresh p command now proofs assertion decisionRef =
      .ok r) : Kept p r.projection := by
  simp only [evaluatePromoteHumanModelAssertion, bind_eq_ok, exists_unit_eq_ok, okOr_eq_ok,
    rejectIf_eq_ok, exists_const, Except.ok.injEq] at h
  obtain ⟨-, -, promotion, -, source, -, -, lifecycle, -, impact, -, payload, -, validUntil, -,
    revision, -, record, -, rfl⟩ := h
  exact ⟨rfl, rfl⟩

theorem evaluateCorrectHumanModelAssertion_kept {assertionRef : AuthoritativeRecordRefV1}
    {correction : CandidateSubmissionV1}
    (h : evaluateCorrectHumanModelAssertion p command now proofs assertionRef correction = .ok r) :
    Kept p r.projection := by
  simp only [evaluateCorrectHumanModelAssertion, bind_eq_ok, exists_unit_eq_ok, okOr_eq_ok,
    Except.ok.injEq] at h
  obtain ⟨-, -, revision, -, record, -, rfl⟩ := h
  exact ⟨rfl, rfl⟩

/-! ### Execution commands -/

omit [Crypto] in
/-- The attempt rule admits exactly the reservable executions. -/
theorem reservationIdFor_reservable {execution : Option ExecutionProjectionV1}
    {next : ExecutionProjectionV1} {reservationId : Uuid}
    (h : reservationIdFor fresh execution next.actionRef next.idempotencyKey next.attempt =
      .ok reservationId) (hid : next.reservationId = reservationId) :
    Reservable execution next ∧ (next.reservationId = fresh.reservationId ∨
      ∃ last, execution = some last ∧ next.reservationId = last.reservationId ∧
        next.attempt = last.attempt + 1) := by
  subst hid
  rcases execution with _ | last
  · simp only [reservationIdFor, bind_eq_ok, rejectIf_eq_ok, exists_const, not_not,
      Except.ok.injEq] at h
    exact ⟨.inl ⟨rfl, h.1⟩, .inl h.2.symm⟩
  · simp only [reservationIdFor] at h
    split at h
    case isTrue haction =>
      simp only [bind_eq_ok, rejectIf_eq_ok, exists_const, not_or, not_not,
        Except.ok.injEq] at h
      obtain ⟨⟨hstate, hattempt, hkey⟩, hid⟩ := h
      have hnext := (checkedAddU32_eq_some.mp hattempt.symm).2.symm
      exact ⟨.inr (.inl ⟨last, rfl, haction, hstate, hnext, hkey.symm, hid.symm⟩),
        .inr ⟨last, rfl, hid.symm, hnext⟩⟩
    case isFalse haction =>
      simp only [bind_eq_ok, rejectIf_eq_ok, exists_const, not_or, not_not,
        Except.ok.injEq] at h
      obtain ⟨⟨hstate, hattempt⟩, hid⟩ := h
      exact ⟨.inr (.inr ⟨last, rfl, haction, hstate, hattempt⟩), .inl hid.symm⟩

omit [Crypto] in
theorem evaluateReserveExecution_effect {admissionRef actionRef : AuthoritativeRecordRefV1}
    {digest key nonce : Text} {providerRef ownerRef : ReferenceV1} {attempt lease : Nat}
    (h : evaluateReserveExecution fresh p command now proofs admissionRef actionRef digest
      providerRef ownerRef key attempt lease nonce = .ok r) :
    LifecycleEffect fresh now p
      (.reserveExecution admissionRef actionRef digest providerRef ownerRef key attempt lease nonce)
      r.projection.state r.projection.execution := by
  simp only [evaluateReserveExecution, bind_eq_ok, exists_unit_eq_ok, okOr_eq_ok, rejectIf_eq_ok,
    exists_const, Except.ok.injEq] at h
  obtain ⟨-, -, -, ⟨-, permitUntil⟩, -, admission, -, validUntil, -, -, reservationId, hid,
    rfl⟩ := h
  -- the attempt rule only looks at the action, the key and the attempt of the new execution
  refine .reserved rfl rfl rfl ?_ ?_
  · exact (reservationIdFor_reservable hid rfl).1
  · exact (reservationIdFor_reservable hid rfl).2

omit [Crypto] in
theorem evaluateRecoverPermit_effect {reservationId : Uuid}
    (h : evaluateRecoverPermit p command now reservationId = .ok r) :
    LifecycleEffect fresh now p (.recoverPermit reservationId) r.projection.state
      r.projection.execution := by
  simp only [evaluateRecoverPermit, bind_eq_ok, executionOf_eq_ok, exists_unit_eq_ok,
    rejectIf_eq_ok, exists_const, not_not] at h
  obtain ⟨e, ⟨he, rfl⟩, -, -, hopen, h⟩ := h
  split at h <;> simp only [Except.ok.injEq] at h <;> subst h
  case isTrue hexpired =>
    rw [setExecutionState_execution, he]
    exact .expired (.inl rfl) he hexpired hopen
  case isFalse => exact .kept _ rfl

omit [Crypto] in
/-- The two permit commands: the execution advances under current authority and is withdrawn
otherwise. -/
theorem evaluatePermitStep_eq_ok {expected next : ExecutionAggregateStateV1} {event : Text}
    {reservationId permitId : Uuid}
    (h : evaluatePermitStep expected next event p command now reservationId permitId = .ok r) :
    ∃ e, p.execution = some e ∧ e.reservationId = reservationId ∧ e.permitId = permitId ∧
      r.projection.state = p.state ∧
      (AuthorityCurrent p e now ∧ e.state = expected ∧
          r.projection.execution = some (e.withState next)
        ∨ ¬ AuthorityCurrent p e now ∧
          r.projection.execution = some (e.withState (withdrawnState e.state))) := by
  simp only [evaluatePermitStep, bind_eq_ok, currentExecution_eq_ok, exists_unit_eq_ok] at h
  obtain ⟨e, ⟨he, hreservation, hpermit⟩, -, ⟨current, q⟩, hensure, e', ⟨he', -, -⟩, h⟩ := h
  simp only [ensureCurrentExecutionAction, bind_eq_ok, currentExecution_eq_ok] at hensure
  obtain ⟨e'', ⟨he'', -, -⟩, hensure⟩ := hensure
  obtain rfl : e'' = e := by simpa [he''] using he
  refine ⟨e'', he, hreservation, hpermit, ?_⟩
  split at hensure <;> simp only [Except.ok.injEq, Prod.mk.injEq] at hensure <;>
    obtain ⟨rfl, rfl⟩ := hensure
  case isTrue hcurrent =>
    obtain rfl : e' = e'' := by simpa [he''] using he'.symm
    simp only [requireExecutionState, Bool.true_eq_false, if_false, bind_eq_ok, require_eq_ok,
      exists_const, Except.ok.injEq] at h
    obtain ⟨hstate, rfl⟩ := h
    refine ⟨rfl, .inl ⟨hcurrent, hstate, ?_⟩⟩
    simp [setExecutionState_execution, he]
  case isFalse hcurrent =>
    simp only [if_true, bind_eq_ok, Except.ok.injEq] at h
    obtain ⟨name, -, rfl⟩ := h
    refine ⟨rfl, .inr ⟨hcurrent, ?_⟩⟩
    simp [setExecutionState_execution, he]

omit [Crypto] in
theorem evaluateDeliverPermit_effect {reservationId permitId : Uuid}
    (h : evaluateDeliverPermit p command now reservationId permitId = .ok r) :
    LifecycleEffect fresh now p (.deliverPermit reservationId permitId) r.projection.state
      r.projection.execution := by
  obtain ⟨e, he, rfl, rfl, hstate, ⟨hcurrent, hissued, hafter⟩ | ⟨hcurrent, hafter⟩⟩ :=
    evaluatePermitStep_eq_ok h
  · rw [hstate, hafter]
    exact .delivered he hcurrent hissued
  · rw [hstate, hafter]
    exact .withdrawn (.inl rfl) he hcurrent

omit [Crypto] in
theorem evaluateStartDispatch_effect {reservationId permitId : Uuid}
    (h : evaluateStartDispatch p command now reservationId permitId = .ok r) :
    LifecycleEffect fresh now p (.startDispatch reservationId permitId) r.projection.state
      r.projection.execution := by
  obtain ⟨e, he, rfl, rfl, hstate, ⟨hcurrent, hdelivered, hafter⟩ | ⟨hcurrent, hafter⟩⟩ :=
    evaluatePermitStep_eq_ok h
  · rw [hstate, hafter]
    exact .dispatched he hcurrent hdelivered
  · rw [hstate, hafter]
    exact .withdrawn (.inr rfl) he hcurrent

theorem evaluateCommitExecutionReceipt_effect {receipt : CandidateSubmissionV1}
    {reservationId permitId : Uuid} {providerRef : ReferenceV1} {nonce : Text} {attempt : Nat}
    (h : evaluateCommitExecutionReceipt fresh p command now proofs receipt reservationId permitId
      providerRef nonce attempt = .ok r) :
    LifecycleEffect fresh now p
      (.commitExecutionReceipt receipt reservationId permitId providerRef nonce attempt)
      r.projection.state r.projection.execution := by
  simp only [evaluateCommitExecutionReceipt, bind_eq_ok, currentExecution_eq_ok, exists_unit_eq_ok,
    rejectIf_eq_ok, exists_const, not_or, not_not, Except.ok.injEq] at h
  obtain ⟨revision, -, e, ⟨he, rfl, rfl⟩, -, ⟨hflight, rfl, rfl, rfl⟩, -, record, -, state, hstate,
    run, hrun, rfl⟩ := h
  rw [setExecutionState_execution, he]
  exact .received he hflight hstate hrun

omit [Crypto] in
theorem evaluateReconcileExecution_kept {reservationId : Uuid}
    {resolution : ReconciliationResolutionV1}
    (h : evaluateReconcileExecution p command reservationId resolution = .ok r) :
    Kept p r.projection := by
  simp only [evaluateReconcileExecution, requireExecutionState, bind_eq_ok, executionOf_eq_ok,
    exists_unit_eq_ok, require_eq_ok, rejectIf_eq_ok, exists_const, Except.ok.injEq] at h
  obtain ⟨e, ⟨he, -⟩, -, hstate, -, rfl⟩ := h
  refine ⟨rfl, ?_⟩
  rw [setExecutionState_execution, he, ← hstate]
  rfl

omit [Crypto] in
theorem evaluateExpireExecutionLease_effect {reservationId : Uuid}
    (h : evaluateExpireExecutionLease p command now reservationId = .ok r) :
    LifecycleEffect fresh now p (.expireExecutionLease reservationId) r.projection.state
      r.projection.execution := by
  simp only [evaluateExpireExecutionLease, bind_eq_ok, executionOf_eq_ok, exists_unit_eq_ok,
    rejectIf_eq_ok, exists_const, Bool.not_eq_false] at h
  obtain ⟨e, ⟨he, rfl⟩, -, hexpired, h⟩ := h
  split at h
  case isTrue hopen =>
    simp only [Except.ok.injEq] at h
    subst h
    rw [setExecutionState_execution, he]
    exact .expired (.inr rfl) he hexpired hopen
  case isFalse =>
    split at h
    case isTrue hdispatched =>
      simp only [Except.ok.injEq] at h
      subst h
      rw [setExecutionState_execution, he]
      exact .overdue he hexpired hdispatched
    case isFalse => cases h

omit [Crypto] in
theorem evaluateInvalidateRecord_effect {recordRef : AuthoritativeRecordRefV1}
    {reasonRef : ReferenceV1} (h : evaluateInvalidateRecord p recordRef = .ok r) :
    LifecycleEffect fresh now p (.invalidateRecord recordRef reasonRef) r.projection.state
      r.projection.execution := by
  simp only [evaluateInvalidateRecord, bind_eq_ok, exists_unit_eq_ok, Except.ok.injEq] at h
  obtain ⟨-, rfl⟩ := h
  exact .invalidated recordRef reasonRef

omit [Crypto] in
theorem evaluateCancelRun_effect {reasonRef : ReferenceV1} (h : evaluateCancelRun p = .ok r) :
    LifecycleEffect fresh now p (.cancelRun reasonRef) r.projection.state
      r.projection.execution := by
  simp only [evaluateCancelRun, bind_eq_ok, rejectIf_eq_ok, exists_const, Except.ok.injEq] at h
  obtain ⟨-, rfl⟩ := h
  exact .cancelled reasonRef

/-! ### All commands -/

/-- **The evaluator refines the lifecycle.** -/
theorem evaluateCommand_effect (h : evaluateCommand fresh p command now proofs = .ok r) :
    LifecycleEffect fresh now p command.command r.projection.state r.projection.execution := by
  unfold evaluateCommand at h
  split at h <;> rename_i hcommand <;> rw [hcommand]
  · exact evaluateStartRun_effect h
  · exact (evaluateRecordContext_kept h).effect rfl
  · exact evaluateRecordIntent_effect h
  · exact (evaluateRecordDecision_kept h).effect rfl
  · exact (evaluateRecordTurn_kept h).effect rfl
  · exact (evaluateRecordResponse_kept h).effect rfl
  · exact (evaluateConsumeResponseSend_kept h).effect rfl
  · exact evaluateRecordAction_effect h
  · exact (evaluateAdmitAction_kept h).effect rfl
  · exact evaluateReserveExecution_effect h
  · exact evaluateRecoverPermit_effect h
  · exact evaluateDeliverPermit_effect h
  · exact evaluateStartDispatch_effect h
  · exact evaluateCommitExecutionReceipt_effect h
  · exact (evaluateReconcileExecution_kept h).effect rfl
  · exact evaluateExpireExecutionLease_effect h
  · exact evaluateInvalidateRecord_effect h
  · exact (evaluateRecordOutcome_kept h).effect rfl
  · exact (evaluateProposeHumanModelCandidate_kept h).effect rfl
  · exact (evaluateRecordHumanModelPromotion_kept h).effect rfl
  · exact (evaluatePromoteHumanModelAssertion_kept h).effect rfl
  · exact (evaluateCorrectHumanModelAssertion_kept h).effect rfl
  · exact evaluateCancelRun_effect h

end Arms

/-! ### Closure and revocation -/

/-- The execution after the closure of a list of records. -/
def closeAll (closure : List AuthoritativeRecordRefV1) (e : ExecutionProjectionV1) :
    ExecutionProjectionV1 :=
  if e.actionRef ∈ closure then e.withState (invalidatedState e.state) else e

/-- The run state after a closure that does not invalidate the run. -/
def closedRunState (execution : Option ExecutionProjectionV1) (run : IdrRunStateV1) :
    IdrRunStateV1 :=
  if execution.any (·.state = .reconciliationRequired) = true then .reconciliationRequired else run

/-- What a revocation makes of an execution. -/
def revokedState (state : ExecutionAggregateStateV1) : ExecutionAggregateStateV1 :=
  if crossedDispatchBoundary state = true then .reconciliationRequired else .cancelled

/-- What a revocation makes of the run state. -/
def revokedRunState (execution : Option ExecutionProjectionV1) : IdrRunStateV1 :=
  if execution.any (fun e => crossedDispatchBoundary e.state) = true then .reconciliationRequired
  else .waitingAuthorization

@[simp] theorem invalidatedState_invalidatedState (s : ExecutionAggregateStateV1) :
    invalidatedState (invalidatedState s) = invalidatedState s := by
  cases s <;> rfl

@[simp] theorem invalidatedState_revokedState (s : ExecutionAggregateStateV1) :
    invalidatedState (revokedState s) = revokedState s := by
  cases s <;> rfl

@[simp] theorem closeAll_actionRef (closure : List AuthoritativeRecordRefV1)
    (e : ExecutionProjectionV1) : (closeAll closure e).actionRef = e.actionRef := by
  unfold closeAll
  split <;> rfl

theorem closeAll_withState (closure : List AuthoritativeRecordRefV1) (e : ExecutionProjectionV1) :
    closeAll closure e = e.withState (closeAll closure e).state := by
  unfold closeAll
  split <;> rfl

theorem closeAll_cons (record : AuthoritativeRecordRefV1)
    (closure : List AuthoritativeRecordRefV1) (e : ExecutionProjectionV1) :
    closeAll closure (closeExecution record e) = closeAll (record :: closure) e := by
  by_cases hrecord : e.actionRef = record
  · subst hrecord
    by_cases hmem : e.actionRef ∈ closure <;>
      simp [closeAll, closeExecution, ExecutionProjectionV1.withState, hmem]
  · simp [closeAll, closeExecution, hrecord]

@[simp] theorem clearBindings_execution (p : IdrRunProjectionV1)
    (record : AuthoritativeRecordRefV1) : (clearBindings p record).execution = p.execution := by
  unfold clearBindings
  split <;> (try split) <;> rfl

@[simp] theorem clearBindings_state (p : IdrRunProjectionV1) (record : AuthoritativeRecordRefV1) :
    (clearBindings p record).state = p.state := by
  unfold clearBindings
  split <;> (try split) <;> rfl

/-- The loop over the closure leaves the run state alone and closes the execution. -/
theorem foldl_closeRecord (closure : List AuthoritativeRecordRefV1) :
    ∀ p : IdrRunProjectionV1, (closure.foldl closeRecord p).state = p.state ∧
      (closure.foldl closeRecord p).execution = p.execution.map (closeAll closure) := by
  induction closure with
  | nil =>
    intro p
    have hid : closeAll [] = id := by
      funext e
      simp [closeAll]
    simp [hid]
  | cons record closure ih =>
    intro p
    obtain ⟨hstate, hexecution⟩ := ih (closeRecord p record)
    rw [List.foldl_cons, hstate, hexecution]
    refine ⟨by simp [closeRecord], ?_⟩
    simp only [closeRecord, clearBindings_execution, Option.map_map]
    congr 1
    funext e
    exact closeAll_cons record closure e

theorem applyRepositoryInvalidationClosure_effect (p : IdrRunProjectionV1)
    (closure : List AuthoritativeRecordRefV1) (invalidateRun : Bool) :
    (applyRepositoryInvalidationClosure p closure invalidateRun).execution =
        p.execution.map (closeAll closure) ∧
      (applyRepositoryInvalidationClosure p closure invalidateRun).state =
        if invalidateRun = true then .invalidated
        else closedRunState (p.execution.map (closeAll closure)) p.state := by
  obtain ⟨hstate, hexecution⟩ := foldl_closeRecord closure p
  refine ⟨hexecution, ?_⟩
  simp only [applyRepositoryInvalidationClosure, closeRunState, hstate, hexecution, closedRunState]

/-! ### Steps of a run -/

/-- **What one step can do** to the run state and the execution: the effect of its command, with
or without a closure after it, or a revocation.  The flag says which of the two the step is. -/
inductive RunEffect (fresh : FreshIdsV1) (now : Nat) (p : IdrRunProjectionV1)
    (command : IdrCommandV1) : Bool → IdrRunStateV1 → Option ExecutionProjectionV1 → Prop
  | evaluated {run execution} : commandStateAllowed p.state command = true →
      LifecycleEffect fresh now p command run execution →
      (∀ recordRef reasonRef, command ≠ .invalidateRecord recordRef reasonRef) →
      RunEffect fresh now p command false run execution
  | closed {run execution kind previous} (closure) : commandStateAllowed p.state command = true →
      LifecycleEffect fresh now p command run execution →
      command.expectedCandidateKind = some kind → p.records kind = some previous →
      (∀ intent, command = .recordIntent intent → blocksRun intent = false) →
      RunEffect fresh now p command false (closedRunState (execution.map (closeAll closure)) run)
        (execution.map (closeAll closure))
  | invalidated {run execution} (recordRef reasonRef closure) :
      command = .invalidateRecord recordRef reasonRef →
      commandStateAllowed p.state command = true →
      LifecycleEffect fresh now p command run execution →
      RunEffect fresh now p command false .invalidated (execution.map (closeAll closure))
  | revoked : reverifiesAdmission command = true → p.actionAdmission.isSome = true →
      RunEffect fresh now p command true (revokedRunState p.execution)
        (p.execution.map fun e => e.withState (revokedState e.state))

/-! ### What becomes of the execution alone -/

section Change

variable {fresh : FreshIdsV1} {now : Nat} {p : IdrRunProjectionV1} {c : IdrCommandV1}
  {run : IdrRunStateV1} {after : Option ExecutionProjectionV1} {revokes : Bool}

/-- The execution is the one before, in some state. -/
def Moved (before after : Option ExecutionProjectionV1) : Prop :=
  ∃ f : ExecutionProjectionV1 → ExecutionAggregateStateV1,
    after = before.map fun e => e.withState (f e)

/-- The execution is newly reserved, under a fresh identifier or as the next attempt. -/
def NewlyReserved (fresh : FreshIdsV1) (before after : Option ExecutionProjectionV1) : Prop :=
  ∃ next, after = some next ∧ next.state = .permitIssued ∧ next.permitId = fresh.permitId ∧
    Reservable before next ∧
    (next.reservationId = fresh.reservationId ∨
      ∃ last, before = some last ∧ next.reservationId = last.reservationId ∧
        next.attempt = last.attempt + 1)

theorem Moved.of_some {before : Option ExecutionProjectionV1} {e : ExecutionProjectionV1}
    (he : before = some e) (s : ExecutionAggregateStateV1) :
    Moved before (some (e.withState s)) :=
  ⟨fun _ => s, by rw [he, Option.map_some]⟩

theorem Moved.refl (execution : Option ExecutionProjectionV1) : Moved execution execution :=
  ⟨fun e => e.state, by simp⟩

theorem Moved.closeAll {before after : Option ExecutionProjectionV1} (h : Moved before after)
    (closure : List AuthoritativeRecordRefV1) :
    Moved before (after.map (Idr.closeAll closure)) := by
  obtain ⟨f, rfl⟩ := h
  refine ⟨fun e => (Idr.closeAll closure (e.withState (f e))).state, ?_⟩
  rw [Option.map_map]
  congr 1
  funext e
  exact closeAll_withState closure (e.withState (f e))

theorem LifecycleEffect.change (h : LifecycleEffect fresh now p c run after) :
    Moved p.execution after ∨ c.reserves = true ∧ NewlyReserved fresh p.execution after := by
  cases h with
  | kept | started | blocked | cancelled => exact .inl (.refl _)
  | superseded => exact .inl ⟨fun e => supersededState e.state, rfl⟩
  | @reserved _ next hc hstate hpermit hreservable hids =>
    exact .inr ⟨hc, next, rfl, hstate, hpermit, hreservable, hids⟩
  | delivered he | dispatched he | withdrawn _ he | expired _ he | overdue he | received he =>
    exact .inl (.of_some he _)
  | invalidated recordRef =>
    refine .inl ⟨fun e => if e.actionRef.recordId = recordRef.recordId ∧
      e.state.isTerminal = false then withdrawnState e.state else e.state, ?_⟩
    congr 1
    funext e
    beta_reduce
    split <;> rfl

/-- **What a step makes of an execution**: the same one in some state, or a new reservation. -/
theorem RunEffect.change (h : RunEffect fresh now p c revokes run after) :
    Moved p.execution after ∨
      revokes = false ∧ c.reserves = true ∧ NewlyReserved fresh p.execution after := by
  cases h with
  | evaluated _ hlife _ => exact hlife.change.imp id fun hnext => ⟨rfl, hnext⟩
  | closed closure _ hlife hkind =>
    rcases hlife.change with hmoved | ⟨hreserves, -⟩
    · exact .inl (hmoved.closeAll closure)
    · cases c <;> simp_all [IdrCommandV1.reserves, IdrCommandV1.expectedCandidateKind]
  | invalidated recordRef reasonRef closure hc _ hlife =>
    rcases hlife.change with hmoved | ⟨hreserves, -⟩
    · exact .inl (hmoved.closeAll closure)
    · simp [hc, IdrCommandV1.reserves] at hreserves
  | revoked => exact .inl ⟨fun e => revokedState e.state, rfl⟩

end Change

section Steps

variable [Crypto] {p : IdrRunProjectionV1} {command : IdrCommandEnvelopeV1} {now : Nat}
  {proofs : List VerifiedProductionProofV1} {fresh : FreshIdsV1} {t : IdrTransitionV1}
  {loadClosure : AuthoritativeRecordRefV1 →
    Except IdrRuntimeErrorV1 (List AuthoritativeRecordRefV1)}

/-- The parts of an accepted evaluation: the checks passed, the arm's result, and the transition
assembled from it. -/
theorem evaluateAuthoritativeTransitionV1_eq_ok
    (h : evaluateAuthoritativeTransitionV1 fresh p command now proofs = .ok t) :
    checkCommand p command now proofs = .ok () ∧ ∃ r,
      evaluateCommand fresh { p with
        aggregateVersion := p.aggregateVersion + 1
        lastEventSequence := p.lastEventSequence + 1 } command now proofs = .ok r ∧
      r.projection.aggregateVersion = p.aggregateVersion + 1 ∧
      t = {
        projection := r.projection.insertRecord r.authoritativeRecord
        authoritativeRecord := r.authoritativeRecord
        eventType := r.eventType
        eventPayload := toValue command.command
        consumedProofIds := proofs.map VerifiedProductionProofV1.proofId
        consumedNonces := proofs.map VerifiedProductionProofV1.nonce } := by
  simp only [evaluateAuthoritativeTransitionV1, bind_eq_ok, exists_unit_eq_ok, okOr_eq_ok,
    checkedAddU64_eq_some, rejectIf_eq_ok, exists_const, not_not, Except.ok.injEq] at h
  obtain ⟨hcheck, version, ⟨-, rfl⟩, sequence, ⟨-, rfl⟩, r, hr, hversion, rfl⟩ := h
  refine ⟨hcheck, r, hr, ?_, rfl⟩
  rcases hrecord : r.authoritativeRecord with _ | record <;>
    simpa [IdrRunProjectionV1.insertRecord, hrecord] using hversion

omit [Crypto] in
@[simp] theorem insertRecord_state (record : Option AuthoritativeRecordV1) :
    (p.insertRecord record).state = p.state := by
  cases record <;> rfl

omit [Crypto] in
@[simp] theorem insertRecord_execution (record : Option AuthoritativeRecordV1) :
    (p.insertRecord record).execution = p.execution := by
  cases record <;> rfl

omit [Crypto] in
/-- The effect does not see the version and the event sequence. -/
theorem LifecycleEffect.of_advanced {c : IdrCommandV1} {version sequence : Nat}
    {run : IdrRunStateV1} {execution : Option ExecutionProjectionV1}
    (h : LifecycleEffect fresh now
      { p with aggregateVersion := version, lastEventSequence := sequence } c run execution) :
    LifecycleEffect fresh now p c run execution := by
  cases h with
  | kept _ hc => exact .kept c hc
  | started input hpending => exact .started input hpending
  | blocked intent hblock => exact .blocked intent hblock
  | superseded action => exact .superseded action
  | reserved hc hstate hpermit hreservable hids =>
      exact .reserved hc hstate hpermit hreservable hids
  | delivered he hcurrent hstate => exact .delivered he hcurrent hstate
  | dispatched he hcurrent hstate => exact .dispatched he hcurrent hstate
  | withdrawn hc he hcurrent => exact .withdrawn hc he hcurrent
  | expired hc he hexpired hopen => exact .expired hc he hexpired hopen
  | overdue he hexpired hstate => exact .overdue he hexpired hstate
  | received he hflight hstate hrun => exact .received he hflight hstate hrun
  | invalidated recordRef reasonRef => exact .invalidated recordRef reasonRef
  | cancelled reasonRef => exact .cancelled reasonRef

theorem evaluateAuthoritativeTransitionV1_effect
    (h : evaluateAuthoritativeTransitionV1 fresh p command now proofs = .ok t) :
    LifecycleEffect fresh now p command.command t.projection.state t.projection.execution := by
  obtain ⟨-, r, hr, -, rfl⟩ := evaluateAuthoritativeTransitionV1_eq_ok h
  simpa using (evaluateCommand_effect hr).of_advanced

/-- An intent that blocks the run issues no record. -/
theorem evaluateAuthoritativeTransitionV1_blocked {intent : CandidateSubmissionV1}
    (h : evaluateAuthoritativeTransitionV1 fresh p command now proofs = .ok t)
    (hcommand : command.command = .recordIntent intent) (hblocks : blocksRun intent = true) :
    t.authoritativeRecord = none := by
  obtain ⟨-, r, hr, -, rfl⟩ := evaluateAuthoritativeTransitionV1_eq_ok h
  have hblock : (intent.payload.get "fast_path_outcome").bind Value.asStr = some "block" := by
    simpa [blocksRun] using hblocks
  simp only [evaluateCommand, hcommand, evaluateRecordIntent, hblock, if_true, bind_eq_ok,
    exists_unit_eq_ok, Except.ok.injEq] at hr
  obtain ⟨-, rfl⟩ := hr
  rfl

omit [Crypto] in
theorem checkCommand_state (h : checkCommand p command now proofs = .ok ()) :
    commandStateAllowed p.state command.command = true := by
  simp only [checkCommand, requireCommandState, bind_eq_ok, exists_unit_eq_ok, require_eq_ok,
    exists_const] at h
  exact h.2.2.1

theorem evaluatedTransition_effect
    (h : evaluatedTransition loadClosure fresh p command now proofs = .ok t) :
    RunEffect fresh now p command.command false t.projection.state t.projection.execution := by
  simp only [evaluatedTransition, bind_eq_ok] at h
  obtain ⟨t₀, ht₀, h⟩ := h
  have heffect := evaluateAuthoritativeTransitionV1_effect ht₀
  have hallowed := checkCommand_state (evaluateAuthoritativeTransitionV1_eq_ok ht₀).1
  split at h
  case h_1 recordRef reasonRef hcommand =>
    simp only [bind_eq_ok, Except.ok.injEq] at h
    obtain ⟨closure, -, rfl⟩ := h
    obtain ⟨hexecution, hstate⟩ :=
      applyRepositoryInvalidationClosure_effect t₀.projection closure true
    simp only [hexecution, hstate, if_true]
    exact .invalidated recordRef reasonRef closure hcommand hallowed heffect
  case h_2 hother =>
    split at h
    case h_1 =>
      simp only [Except.ok.injEq] at h
      exact h ▸ .evaluated hallowed heffect fun _ _ => hother _ _
    case h_2 previous hprevious =>
      obtain ⟨kind, hkind, hrecord⟩ := Option.bind_eq_some_iff.mp hprevious
      split at h
      case isTrue hissued =>
        simp only [bind_eq_ok, Except.ok.injEq] at h
        obtain ⟨closure, -, rfl⟩ := h
        obtain ⟨hexecution, hstate⟩ :=
          applyRepositoryInvalidationClosure_effect t₀.projection closure false
        simp only [hexecution, hstate, Bool.false_eq_true, if_false]
        refine .closed closure hallowed heffect hkind hrecord fun intent hintent => ?_
        by_contra hblocks
        have hnone := evaluateAuthoritativeTransitionV1_blocked ht₀ hintent (by simpa using hblocks)
        simp [hnone] at hissued
      case isFalse =>
        simp only [Except.ok.injEq] at h
        exact h ▸ .evaluated hallowed heffect fun _ _ => hother _ _

omit [Crypto] in
/-- A closure after a revocation has nothing left to change in the execution. -/
theorem closeAll_revoked (closure : List AuthoritativeRecordRefV1)
    (execution : Option ExecutionProjectionV1) :
    (execution.map fun e => e.withState (revokedState e.state)).map (closeAll closure) =
      execution.map fun e => e.withState (revokedState e.state) := by
  rcases execution with _ | e
  · rfl
  · by_cases hmem : e.actionRef ∈ closure <;> simp [closeAll, hmem]

omit [Crypto] in
theorem closedRunState_revoked (execution : Option ExecutionProjectionV1) :
    closedRunState (execution.map fun e => e.withState (revokedState e.state))
      (revokedRunState execution) = revokedRunState execution := by
  rcases execution with _ | e
  · rfl
  · rcases hstate : e.state <;> simp [closedRunState, revokedRunState, revokedState, hstate,
      crossedDispatchBoundary]

omit [Crypto] in
theorem actionAdmissionProofFailure_effect
    (h : actionAdmissionProofFailure p command proofs = .ok t) :
    p.actionAdmission.isSome = true ∧ t.projection.state = revokedRunState p.execution ∧
      t.projection.execution = p.execution.map fun e => e.withState (revokedState e.state) := by
  simp only [actionAdmissionProofFailure, bind_eq_ok, okOr_eq_ok, Except.ok.injEq] at h
  obtain ⟨admission, hadmission, version, -, sequence, -, rfl⟩ := h
  refine ⟨by simp [hadmission], rfl, ?_⟩
  simp only [setExecutionState_execution]
  rcases p.execution with _ | e <;> simp [revokedState]

omit [Crypto] in
theorem revokedTransition_effect (hreverifies : reverifiesAdmission command.command = true)
    (h : revokedTransition loadClosure p command proofs = .ok t) :
    RunEffect fresh now p command.command true t.projection.state t.projection.execution := by
  simp only [revokedTransition, bind_eq_ok, Except.ok.injEq] at h
  obtain ⟨admission, -, closure, -, t₀, ht₀, rfl⟩ := h
  obtain ⟨hadmission, hstate, hexecution⟩ := actionAdmissionProofFailure_effect ht₀
  obtain ⟨hclosed, hrun⟩ := applyRepositoryInvalidationClosure_effect t₀.projection closure false
  simp only [hclosed, hrun, hstate, hexecution, closeAll_revoked, closedRunState_revoked,
    Bool.false_eq_true, if_false]
  exact .revoked hreverifies hadmission

/-- **Every step of a run has one of the effects.** -/
theorem runTransition_effect {i : RunInputV1} (h : runTransition p i = .ok t) :
    RunEffect i.fresh i.trustedNow p i.command.command i.revokes t.projection.state
      t.projection.execution := by
  obtain ⟨-, h⟩ := runTransition_eq_ok.mp h
  split at h
  case isTrue hrevokes =>
    rw [hrevokes]
    simp only [RunInputV1.revokes, Bool.and_eq_true] at hrevokes
    exact revokedTransition_effect hrevokes.2 h
  case isFalse hrevokes =>
    rw [Bool.not_eq_true] at hrevokes
    rw [hrevokes]
    exact evaluatedTransition_effect h

end Steps

end Idr
