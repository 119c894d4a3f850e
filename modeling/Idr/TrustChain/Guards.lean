/-
Idr/TrustChain/Guards.lean

The guards of the evaluator: which command a run state admits, which
records are current, and which execution a command may touch.

Each guard of the source that returns `Result` is a definition in `Except`
under its own name; next to it stands the lemma that says what passing it
establishes, so that no later proof unfolds a guard.
-/
import Idr.TrustChain.Command

namespace Idr

/-! ### Run states and callers -/

/-- `require_state`. -/
def requireState (current : IdrRunStateV1) (allowed : List IdrRunStateV1) :
    Except IdrRuntimeErrorV1 Unit :=
  require (current ∈ allowed) .invalidRunTransition

/-- The table of `require_command_state`: the run states in which a command may be evaluated. -/
def commandStateAllowed (current : IdrRunStateV1) : IdrCommandV1 → Bool
  | .startRun _ => current = .pending
  | .commitExecutionReceipt _ _ _ _ _ _ | .reconcileExecution _ _ | .expireExecutionLease _ =>
    current ∈ [.running, .reconciliationRequired, .invalidated]
  | .recordOutcome _ =>
    current ∈ [.running, .reconciliationRequired, .invalidated, .succeeded, .rejected, .failed]
  | .proposeHumanModelCandidate _ | .recordHumanModelPromotion _ _
  | .promoteHumanModelAssertion _ _ | .correctHumanModelAssertion _ _ =>
    current ∈ [.running, .reconciliationRequired, .invalidated, .succeeded, .rejected, .failed]
  | .cancelRun _ =>
    current ∈ [.running, .waitingInput, .waitingAuthorization, .waitingDependency,
      .reconciliationRequired, .invalidated]
  | _ => current ∈ [.running, .waitingInput, .waitingAuthorization, .waitingDependency]

/-- `require_command_state`. -/
def requireCommandState (current : IdrRunStateV1) (command : IdrCommandV1) :
    Except IdrRuntimeErrorV1 Unit :=
  require (commandStateAllowed current command = true) .invalidRunTransition

/-- `require_caller`. -/
def requireCaller (command : IdrCommandEnvelopeV1) (expectedIdentity : ReferenceV1) :
    Except IdrRuntimeErrorV1 Unit :=
  require (command.callerRef = expectedIdentity) .principalMismatch

/-! ### Records -/

/-- The run state admits the behavioural use of a record: it is in its validity window. -/
def liveAt (record : AuthoritativeRecordRefV1) (trustedNow : Nat) : Prop :=
  record.validFrom ≤ trustedNow ∧ trustedNow < record.validUntil

instance (record : AuthoritativeRecordRefV1) (trustedNow : Nat) :
    Decidable (liveAt record trustedNow) := by
  unfold liveAt
  infer_instance

/-- `require_record_at`. -/
def requireRecordAt (projection : IdrRunProjectionV1) (kind : CandidateKindV1)
    (trustedNow : Nat) : Except IdrRuntimeErrorV1 Unit :=
  match projection.records kind with
  | some record =>
    require (liveAt record trustedNow ∧ record ∉ projection.invalidatedRecords) .missingDependency
  | none => .error .missingDependency

/-- `require_no_record`. -/
def requireNoRecord (projection : IdrRunProjectionV1) (kind : CandidateKindV1) :
    Except IdrRuntimeErrorV1 Unit :=
  rejectIf ((projection.records kind).isSome = true) .invalidRunTransition

/-- `require_exact_current_record_at`. -/
def requireExactCurrentRecordAt (projection : IdrRunProjectionV1)
    (expected : AuthoritativeRecordRefV1) (trustedNow : Nat) : Except IdrRuntimeErrorV1 Unit :=
  require (projection.records expected.candidateKind = some expected
      ∧ expected.trustDomain = projection.trustDomain
      ∧ expected.validFrom ≤ trustedNow
      ∧ trustedNow < expected.validUntil
      ∧ expected ∉ projection.invalidatedRecords)
    .missingDependency

/-- `require_historical_evidence_record`. -/
def requireHistoricalEvidenceRecord (projection : IdrRunProjectionV1)
    (expected : AuthoritativeRecordRefV1) (trustedNow maximumDelaySeconds : Nat) :
    Except IdrRuntimeErrorV1 Unit := do
  let observationDeadline ←
    okOr (checkedAddU64 expected.validUntil maximumDelaySeconds) .expiredAuthority
  require (projection.records expected.candidateKind = some expected
      ∧ expected.trustDomain = projection.trustDomain
      ∧ expected.validFrom ≤ trustedNow
      ∧ trustedNow < observationDeadline
      ∧ expected ∉ projection.invalidatedRecords)
    .missingDependency

/-- `require_exact_governance_target`. -/
def requireExactGovernanceTarget (projection : IdrRunProjectionV1)
    (expected : AuthoritativeRecordRefV1) : Except IdrRuntimeErrorV1 Unit :=
  require (projection.records expected.candidateKind = some expected
      ∧ expected.trustDomain = projection.trustDomain
      ∧ expected ∉ projection.invalidatedRecords)
    .missingDependency

/-- `next_revision`. -/
def nextRevision (projection : IdrRunProjectionV1) (kind : CandidateKindV1) :
    Except IdrRuntimeErrorV1 Nat :=
  match projection.records kind with
  | none => .ok 1
  | some record => okOr (checkedAddU64 record.revision 1) .aggregateVersionConflict

/-- `record_id_for`; `fresh` is the identifier `Uuid::new_v4` would draw. -/
def recordIdFor (projection : IdrRunProjectionV1) (kind : CandidateKindV1) (fresh : Uuid) : Uuid :=
  match projection.records kind with
  | some record => record.recordId
  | none => fresh

theorem requireExactCurrentRecordAt_eq_ok {projection : IdrRunProjectionV1}
    {expected : AuthoritativeRecordRefV1} {now : Nat} {u : Unit} :
    requireExactCurrentRecordAt projection expected now = .ok u ↔
      projection.records expected.candidateKind = some expected ∧
        expected.trustDomain = projection.trustDomain ∧ expected.validFrom ≤ now ∧
        now < expected.validUntil ∧ expected ∉ projection.invalidatedRecords := by
  simp [requireExactCurrentRecordAt]

theorem requireExactGovernanceTarget_eq_ok {projection : IdrRunProjectionV1}
    {expected : AuthoritativeRecordRefV1} {u : Unit} :
    requireExactGovernanceTarget projection expected = .ok u ↔
      projection.records expected.candidateKind = some expected ∧
        expected.trustDomain = projection.trustDomain ∧
        expected ∉ projection.invalidatedRecords := by
  simp [requireExactGovernanceTarget]

theorem nextRevision_of_some {projection : IdrRunProjectionV1} {kind : CandidateKindV1}
    {record : AuthoritativeRecordRefV1} {n : Nat} (hrecord : projection.records kind = some record)
    (h : nextRevision projection kind = .ok n) : n = record.revision + 1 := by
  simp only [nextRevision, hrecord, okOr_eq_ok, checkedAddU64_eq_some] at h
  exact h.2.symm

theorem nextRevision_of_none {projection : IdrRunProjectionV1} {kind : CandidateKindV1} {n : Nat}
    (hrecord : projection.records kind = none) (h : nextRevision projection kind = .ok n) :
    n = 1 := by
  simp only [nextRevision, hrecord, Except.ok.injEq] at h
  exact h.symm

/-! ### The execution -/

/-- The execution with that reservation, as `filter` on the option selects it. -/
def executionOf (projection : IdrRunProjectionV1) (reservationId : Uuid) :
    Except IdrRuntimeErrorV1 ExecutionProjectionV1 :=
  okOr (projection.execution.filter fun execution => execution.reservationId = reservationId)
    .invalidExecutionTransition

/-- `current_execution`. -/
def currentExecution (projection : IdrRunProjectionV1) (reservationId permitId : Uuid) :
    Except IdrRuntimeErrorV1 ExecutionProjectionV1 :=
  okOr (projection.execution.filter fun execution =>
      execution.reservationId = reservationId ∧ execution.permitId = permitId)
    .invalidExecutionTransition

/-- The execution is dispatched and its result is not yet known. -/
def InFlight (state : ExecutionAggregateStateV1) : Prop :=
  state = .dispatchStarted ∨ state = .awaitingProvider ∨ state = .reconciliationRequired

instance (state : ExecutionAggregateStateV1) : Decidable (InFlight state) := by
  unfold InFlight
  infer_instance

/-- The permit has been issued and the execution not yet dispatched. -/
def PermitOpen (state : ExecutionAggregateStateV1) : Prop :=
  state = .permitIssued ∨ state = .permitDelivered

instance (state : ExecutionAggregateStateV1) : Decidable (PermitOpen state) := by
  unfold PermitOpen
  infer_instance

/-- A further attempt may follow. -/
def Retryable (state : ExecutionAggregateStateV1) : Prop :=
  state = .failed ∨ state = .rejected ∨ state = .expired

instance (state : ExecutionAggregateStateV1) : Decidable (Retryable state) := by
  unfold Retryable
  infer_instance

/-- Replace the state of the execution of a run, if it has one. -/
def IdrRunProjectionV1.setExecutionState (projection : IdrRunProjectionV1)
    (f : ExecutionAggregateStateV1 → ExecutionAggregateStateV1) : IdrRunProjectionV1 :=
  { projection with
    execution := projection.execution.map fun execution =>
      { execution with state := f execution.state } }

/-- `execution_authority_expired`. -/
def executionAuthorityExpired (execution : ExecutionProjectionV1) (trustedNow : Nat) : Bool :=
  trustedNow ≥ execution.leaseUntil
    || trustedNow ≥ execution.actionValidUntil
    || trustedNow ≥ execution.admissionValidUntil
    || trustedNow ≥ execution.authorizationValidUntil
    || trustedNow ≥ execution.permitValidUntil

/-- `require_execution_state`. -/
def requireExecutionState (execution : ExecutionProjectionV1)
    (expected : ExecutionAggregateStateV1) : Except IdrRuntimeErrorV1 Unit :=
  require (execution.state = expected) .invalidExecutionTransition

/-- What becomes of an execution whose authority is withdrawn, in the commands that decide this
without regard to an open reconciliation. -/
def withdrawnState : ExecutionAggregateStateV1 → ExecutionAggregateStateV1
  | .dispatchStarted | .awaitingProvider => .reconciliationRequired
  | _ => .cancelled

/-- `ensure_current_execution_action`: whether the authority of the execution is current, and the
projection with the execution withdrawn when it is not. -/
def ensureCurrentExecutionAction (projection : IdrRunProjectionV1)
    (reservationId permitId : Uuid) (trustedNow : Nat) :
    Except IdrRuntimeErrorV1 (Bool × IdrRunProjectionV1) := do
  let execution ← currentExecution projection reservationId permitId
  if projection.records .action = some execution.actionRef
      ∧ execution.actionRef ∉ projection.invalidatedRecords
      ∧ executionAuthorityExpired execution trustedNow = false then
    .ok (true, projection)
  else
    .ok (false, projection.setExecutionState withdrawnState)

theorem executionOf_eq_ok {projection : IdrRunProjectionV1} {reservationId : Uuid}
    {execution : ExecutionProjectionV1} :
    executionOf projection reservationId = .ok execution ↔
      projection.execution = some execution ∧ execution.reservationId = reservationId := by
  simp [executionOf, Option.filter_eq_some_iff]

theorem currentExecution_eq_ok {projection : IdrRunProjectionV1} {reservationId permitId : Uuid}
    {execution : ExecutionProjectionV1} :
    currentExecution projection reservationId permitId = .ok execution ↔
      projection.execution = some execution ∧ execution.reservationId = reservationId ∧
        execution.permitId = permitId := by
  simp [currentExecution, Option.filter_eq_some_iff]

/-! ### Proofs -/

/-- `ACTION_ADMISSION_PROOF_KINDS_V1`. -/
def actionAdmissionProofKindsV1 : List ProductionProofKindV1 :=
  [.capability, .authority, .policy, .exactAuthorization, .actionAdmission]

/-- `verified_proof_binding`. -/
def verifiedProofBinding (proofs : List VerifiedProductionProofV1)
    (proofKind : ProductionProofKindV1) (trustDomain : TrustDomainV1) :
    Except IdrRuntimeErrorV1 (Uuid × Nat) :=
  match proofs.find? fun proof => proof.proofKind = proofKind ∧ proof.trustDomain = trustDomain with
  | some proof => .ok (proof.proofId, proof.expiresAt)
  | none => .error .missingRequiredProof

/-- The binding of one proof kind inside an admission. -/
def admissionProofBinding (proofs : List VerifiedProductionProofV1) (trustDomain : TrustDomainV1)
    (proofKind : ProductionProofKindV1) :
    Except IdrRuntimeErrorV1 (ProductionProofKindV1 × ActionAdmissionProofBindingV1) := do
  let (proofId, validUntil) ← verifiedProofBinding proofs proofKind trustDomain
  .ok (proofKind, { proofId, validUntil })

/-- `verified_action_admission_proof_bindings`: collected into a map, so in the order of the
kinds. -/
def verifiedActionAdmissionProofBindings (proofs : List VerifiedProductionProofV1)
    (trustDomain : TrustDomainV1) :
    Except IdrRuntimeErrorV1 (List (ProductionProofKindV1 × ActionAdmissionProofBindingV1)) := do
  let bindings ← actionAdmissionProofKindsV1.mapM (admissionProofBinding proofs trustDomain)
  .ok (sortedSet (fun a b => compare a.1 b.1) bindings)

end Idr
