/-
Idr/TrustChain/Evaluate.lean

The evaluator: what one command does to one run.

`evaluateAuthoritativeTransitionV1` is the pure transition function of the
source.  The checks every command passes first are `checkCommand`; the
arms of the `match` on the command are one definition each, in the order
of the source, and work on the projection whose version and event sequence
have already been advanced.  An arm returns the new projection, the record
it issues, if any, and the type of its event; the current reference of the
record is entered into the projection afterwards, for all arms alike.

The proofs are the verified ones.  The source compares the kinds found
with the kinds required only outside its own unit tests; the model is the
build that runs in production.
-/
import Idr.TrustChain.Issue

namespace Idr

/-- `IDR_RECEIPT_OUTCOME_OBSERVATION_WINDOW_SECONDS_V1`. -/
def idrReceiptOutcomeObservationWindowSecondsV1 : Nat := 86400

/-- `IDR_OUTCOME_HUMAN_MODEL_WINDOW_SECONDS_V1`. -/
def idrOutcomeHumanModelWindowSecondsV1 : Nat := 604800

/-- What an arm of the evaluator returns. -/
structure ArmResultV1 where
  projection : IdrRunProjectionV1
  authoritativeRecord : Option AuthoritativeRecordV1
  eventType : Text

/-- The JSON object of a map from proof kinds. -/
def proofBindingsValue (bindings : List (ProductionProofKindV1 × ActionAdmissionProofBindingV1)) :
    Value :=
  .object <| bindings.map fun entry => (entry.1.wireName, .object [
    ("proof_id", toValue entry.2.proofId),
    ("valid_until", toValue entry.2.validUntil)])

variable [Crypto]

/-! ### Input, context and intent -/

def evaluateStartRun (fresh : FreshIdsV1) (projection : IdrRunProjectionV1)
    (command : IdrCommandEnvelopeV1) (trustedNow : Nat)
    (verifiedProofs : List VerifiedProductionProofV1) (input : CandidateSubmissionV1) :
    Except IdrRuntimeErrorV1 ArmResultV1 := do
  requireState projection.state [.pending]
  requireNoRecord projection .canonicalInput
  let projection := { projection with
    state := .running
    subjectRef := some input.subjectRef
    turnId := some input.turnId }
  let record ← issueRecord input command trustedNow verifiedProofs projection.trustDomain
    (recordIdFor projection .canonicalInput fresh.recordId) 1
  .ok ⟨projection, some record, "input_admitted"⟩

def evaluateRecordContext (fresh : FreshIdsV1) (projection : IdrRunProjectionV1)
    (command : IdrCommandEnvelopeV1) (trustedNow : Nat)
    (verifiedProofs : List VerifiedProductionProofV1) (context : CandidateSubmissionV1) :
    Except IdrRuntimeErrorV1 ArmResultV1 := do
  requireRecordAt projection .canonicalInput trustedNow
  let revision ← nextRevision projection .contextSnapshot
  let record ← issueRecord context command trustedNow verifiedProofs projection.trustDomain
    (recordIdFor projection .contextSnapshot fresh.recordId) revision
  .ok ⟨projection, some record, "context_snapshotted"⟩

def evaluateRecordIntent (fresh : FreshIdsV1) (projection : IdrRunProjectionV1)
    (command : IdrCommandEnvelopeV1) (trustedNow : Nat)
    (verifiedProofs : List VerifiedProductionProofV1) (intent : CandidateSubmissionV1) :
    Except IdrRuntimeErrorV1 ArmResultV1 := do
  requireRecordAt projection .contextSnapshot trustedNow
  if (intent.payload.get "fast_path_outcome").bind Value.asStr = some "block" then
    .ok ⟨{ projection with state := .rejected }, none, "intent_blocked"⟩
  else do
    validateIntentCandidate intent.payload
    let revision ← nextRevision projection .intent
    let record ← issueRecord intent command trustedNow verifiedProofs projection.trustDomain
      (recordIdFor projection .intent fresh.recordId) revision
    .ok ⟨projection, some record, "intent_admitted"⟩

/-! ### Decision, turn and response -/

def evaluateRecordDecision (fresh : FreshIdsV1) (projection : IdrRunProjectionV1)
    (command : IdrCommandEnvelopeV1) (trustedNow : Nat)
    (verifiedProofs : List VerifiedProductionProofV1) (decision : CandidateSubmissionV1) :
    Except IdrRuntimeErrorV1 ArmResultV1 := do
  requireRecordAt projection .intent trustedNow
  let values ← decisionBindingValues decision.payload
  let revision ← nextRevision projection .decision
  let record ← issueRecord decision command trustedNow verifiedProofs projection.trustDomain
    (recordIdFor projection .decision fresh.recordId) revision
  let projection := { projection with
    decisionBinding := some {
      decisionRef := record.recordRef
      selectedOptionRef := values.selectedOptionRef
      operationRef := values.operationRef
      parameterDigest := values.parameterDigest } }
  .ok ⟨projection, some record, "decision_admitted"⟩

def evaluateRecordTurn (fresh : FreshIdsV1) (projection : IdrRunProjectionV1)
    (command : IdrCommandEnvelopeV1) (trustedNow : Nat)
    (verifiedProofs : List VerifiedProductionProofV1) (turn : CandidateSubmissionV1) :
    Except IdrRuntimeErrorV1 ArmResultV1 := do
  requireRecordAt projection .intent trustedNow
  requireRecordAt projection .decision trustedNow
  validateTurnCandidate turn.payload
  let revision ← nextRevision projection .turnCoordination
  let record ← issueRecord turn command trustedNow verifiedProofs projection.trustDomain
    (recordIdFor projection .turnCoordination fresh.recordId) revision
  .ok ⟨projection, some record, "turn_admitted"⟩

def evaluateRecordResponse (fresh : FreshIdsV1) (projection : IdrRunProjectionV1)
    (command : IdrCommandEnvelopeV1) (trustedNow : Nat)
    (verifiedProofs : List VerifiedProductionProofV1) (response : CandidateSubmissionV1) :
    Except IdrRuntimeErrorV1 ArmResultV1 := do
  requireRecordAt projection .turnCoordination trustedNow
  let renderedContentDigest ← requiredPayloadDigest response.payload "rendered_content_digest"
  let channelRef ← requiredPayloadReference response.payload "channel_ref"
  let audienceRef ← requiredPayloadReference response.payload "audience_ref"
  let revision ← nextRevision projection .response
  let record ← issueRecord response command trustedNow verifiedProofs projection.trustDomain
    (recordIdFor projection .response fresh.recordId) revision
  let projection := { projection with
    responseBinding := some {
      responseRef := record.recordRef
      renderedContentDigest
      channelRef
      audienceRef } }
  .ok ⟨projection, some record, "response_recorded"⟩

def evaluateConsumeResponseSend (projection : IdrRunProjectionV1) (trustedNow : Nat)
    (responseRef : AuthoritativeRecordRefV1) (renderedBytes : List UInt8)
    (channelRef audienceRef : ReferenceV1) (sendNonce : Text) :
    Except IdrRuntimeErrorV1 ArmResultV1 := do
  requireExactCurrentRecordAt projection responseRef trustedNow
  let renderedDigest := sha256Hex renderedBytes
  let binding ← okOr projection.responseBinding .missingDependency
  rejectIf (binding.responseRef ≠ responseRef
      ∨ binding.renderedContentDigest ≠ renderedDigest
      ∨ binding.channelRef ≠ channelRef
      ∨ binding.audienceRef ≠ audienceRef)
    .bindingMismatch
  rejectIf (sendNonce ∈ projection.responseSendNonces) .proofReplay
  let projection := { projection with
    responseSendNonces := insertSorted compareText sendNonce projection.responseSendNonces }
  .ok ⟨projection, none, "response_send_permit_consumed"⟩

/-! ### Action and admission -/

/-- The digest of the request that an action makes of its provider. -/
def executionRequestDigest (actionRef : AuthoritativeRecordRefV1) (values : BindingValues) :
    Except IdrRuntimeErrorV1 Text :=
  fromProtocol (canonicalDigestV1 "idr-execution-request-v1"
    (Value.array [toValue actionRef, toValue values.operationRef, toValue values.parameterDigest]))

/-- The execution of an action that has been recorded anew. -/
def supersededState (state : ExecutionAggregateStateV1) : ExecutionAggregateStateV1 :=
  if state.isTerminal then state else withdrawnState state

def evaluateRecordAction (fresh : FreshIdsV1) (projection : IdrRunProjectionV1)
    (command : IdrCommandEnvelopeV1) (trustedNow : Nat)
    (verifiedProofs : List VerifiedProductionProofV1) (action : CandidateSubmissionV1) :
    Except IdrRuntimeErrorV1 ArmResultV1 := do
  requireRecordAt projection .turnCoordination trustedNow
  requireRecordAt projection .decision trustedNow
  let values ← actionBindingValues action.payload
  let decision ← okOr (projection.decisionBinding.filter fun decision =>
      projection.records .decision = some decision.decisionRef)
    .missingDependency
  rejectIf (decision.selectedOptionRef ≠ values.selectedOptionRef
      ∨ decision.operationRef ≠ values.operationRef
      ∨ decision.parameterDigest ≠ values.parameterDigest)
    .actionDerivationMismatch
  let revision ← nextRevision projection .action
  let record ← issueRecord action command trustedNow verifiedProofs projection.trustDomain
    (recordIdFor projection .action fresh.recordId) revision
  let requestDigest ← executionRequestDigest record.recordRef values
  let projection := { projection.setExecutionState supersededState with
    actionBinding := some {
      actionRef := record.recordRef
      selectedOptionRef := values.selectedOptionRef
      operationRef := values.operationRef
      parameterDigest := values.parameterDigest
      requestDigest }
    actionAdmission := none }
  .ok ⟨projection, some record, "action_recorded"⟩

def evaluateAdmitAction (fresh : FreshIdsV1) (projection : IdrRunProjectionV1)
    (command : IdrCommandEnvelopeV1) (trustedNow : Nat)
    (verifiedProofs : List VerifiedProductionProofV1) (actionRef : AuthoritativeRecordRefV1)
    (actionDigest : Text) (providerRef ownerRef : ReferenceV1) (idempotencyKey : Text) :
    Except IdrRuntimeErrorV1 ArmResultV1 := do
  requireExactCurrentRecordAt projection actionRef trustedNow
  let proofBindings ← verifiedActionAdmissionProofBindings verifiedProofs projection.trustDomain
  let authorization ← okOr (proofBindings.lookup .exactAuthorization) .missingRequiredProof
  let admissionValidUntil ←
    okOr (verifiedProofs.map VerifiedProductionProofV1.expiresAt ++
        [actionRef.validUntil, authorization.validUntil]).min?
      .expiredAuthority
  rejectIf (actionRef.recordDigest ≠ actionDigest
      ∨ trustedNow < actionRef.validFrom
      ∨ trustedNow ≥ actionRef.validUntil
      ∨ admissionValidUntil ≤ trustedNow
      ∨ byteLen idempotencyKey = 0)
    .bindingMismatch
  let actionBinding ← okOr (projection.actionBinding.filter fun binding =>
      binding.actionRef = actionRef)
    .actionDerivationMismatch
  let revision ← nextRevision projection .actionAdmissionDecision
  let admission ← issueInternalRecord fresh .actionAdmissionDecision
    (.object [
      ("action_ref", toValue actionRef),
      ("action_digest", toValue actionDigest),
      ("provider_ref", toValue providerRef),
      ("owner_ref", toValue ownerRef),
      ("operation_ref", toValue actionBinding.operationRef),
      ("parameter_digest", toValue actionBinding.parameterDigest),
      ("request_digest", toValue actionBinding.requestDigest),
      ("idempotency_key", toValue idempotencyKey),
      ("outcome", .string "admit"),
      ("action_valid_from", toValue actionRef.validFrom),
      ("action_valid_until", toValue actionRef.validUntil),
      ("proof_bindings", proofBindingsValue proofBindings),
      ("exact_authorization_proof_id", toValue authorization.proofId),
      ("authorization_valid_until", toValue authorization.validUntil),
      ("admission_valid_from", toValue trustedNow),
      ("admission_valid_until", toValue admissionValidUntil),
      ("trust_root_versions", toValue (sortedSet (fun a b : Nat => compare a b)
        (verifiedProofs.map VerifiedProductionProofV1.trustRootVersion)))])
    command projection trustedNow admissionValidUntil verifiedProofs
    (recordIdFor projection .actionAdmissionDecision fresh.recordId) revision
  let projection := { projection with
    actionAdmission := some {
      admissionRef := admission.recordRef
      actionRef
      providerRef
      ownerRef
      operationRef := actionBinding.operationRef
      parameterDigest := actionBinding.parameterDigest
      requestDigest := actionBinding.requestDigest
      idempotencyKey
      proofBindings
      exactAuthorizationProofId := authorization.proofId
      authorizationValidUntil := authorization.validUntil
      validUntil := admissionValidUntil } }
  .ok ⟨projection, some admission, "action_admitted"⟩

/-! ### Reservation and permit -/

/-- The attempt rule: which reservation an attempt belongs to. -/
def reservationIdFor (fresh : FreshIdsV1) (execution : Option ExecutionProjectionV1)
    (actionRef : AuthoritativeRecordRefV1) (idempotencyKey : Text) (attempt : Nat) :
    Except IdrRuntimeErrorV1 Uuid :=
  match execution with
  | some execution =>
    if execution.actionRef = actionRef then do
      rejectIf (¬ Retryable execution.state
          ∨ some attempt ≠ checkedAddU32 execution.attempt 1
          ∨ execution.idempotencyKey ≠ idempotencyKey)
        .executionAlreadyReserved
      .ok execution.reservationId
    else do
      rejectIf (execution.state ≠ .cancelled ∨ attempt ≠ 1) .executionAlreadyReserved
      .ok fresh.reservationId
  | none => do
    rejectIf (attempt ≠ 1) .invalidExecutionTransition
    .ok fresh.reservationId

def evaluateReserveExecution (fresh : FreshIdsV1) (projection : IdrRunProjectionV1)
    (command : IdrCommandEnvelopeV1) (trustedNow : Nat)
    (verifiedProofs : List VerifiedProductionProofV1)
    (actionAdmissionRef actionRef : AuthoritativeRecordRefV1) (actionDigest : Text)
    (providerRef ownerRef : ReferenceV1) (idempotencyKey : Text) (attempt leaseUntil : Nat)
    (dispatchNonce : Text) : Except IdrRuntimeErrorV1 ArmResultV1 := do
  requireExactCurrentRecordAt projection actionRef trustedNow
  requireExactCurrentRecordAt projection actionAdmissionRef trustedNow
  requireCaller command ownerRef
  let (_, executionPermitValidUntil) ←
    verifiedProofBinding verifiedProofs .executionPermit projection.trustDomain
  let admission ← okOr projection.actionAdmission .actionNotAdmitted
  let permitValidUntil ←
    okOr [leaseUntil, actionRef.validUntil, actionAdmissionRef.validUntil,
        admission.authorizationValidUntil, executionPermitValidUntil].min?
      .expiredAuthority
  rejectIf (actionAdmissionRef.candidateKind ≠ .actionAdmissionDecision
      ∨ admission.admissionRef ≠ actionAdmissionRef
      ∨ admission.actionRef ≠ actionRef
      ∨ admission.providerRef ≠ providerRef
      ∨ admission.ownerRef ≠ ownerRef
      ∨ admission.idempotencyKey ≠ idempotencyKey
      ∨ admission.validUntil ≠ actionAdmissionRef.validUntil
      ∨ actionRef.recordDigest ≠ actionDigest
      ∨ trustedNow < actionRef.validFrom
      ∨ trustedNow < actionAdmissionRef.validFrom
      ∨ trustedNow ≥ actionRef.validUntil
      ∨ trustedNow ≥ actionAdmissionRef.validUntil
      ∨ trustedNow ≥ admission.authorizationValidUntil
      ∨ attempt = 0
      ∨ leaseUntil ≤ trustedNow
      ∨ leaseUntil > permitValidUntil
      ∨ byteLen idempotencyKey = 0)
    .actionNotAdmitted
  let reservationId ←
    reservationIdFor fresh projection.execution actionRef idempotencyKey attempt
  let projection := { projection with
    execution := some {
      reservationId
      actionAdmissionRef
      actionRef
      providerRef
      ownerRef
      operationRef := admission.operationRef
      parameterDigest := admission.parameterDigest
      requestDigest := admission.requestDigest
      idempotencyKey
      attempt
      permitId := fresh.permitId
      exactAuthorizationProofId := admission.exactAuthorizationProofId
      actionValidUntil := actionRef.validUntil
      admissionValidUntil := actionAdmissionRef.validUntil
      authorizationValidUntil := admission.authorizationValidUntil
      permitValidUntil
      leaseUntil
      dispatchNonce
      state := .permitIssued } }
  .ok ⟨projection, none, "execution_permit_issued"⟩

def evaluateRecoverPermit (projection : IdrRunProjectionV1) (command : IdrCommandEnvelopeV1)
    (trustedNow : Nat) (reservationId : Uuid) : Except IdrRuntimeErrorV1 ArmResultV1 := do
  let execution ← executionOf projection reservationId
  requireCaller command execution.ownerRef
  rejectIf (InFlight execution.state) .executionRequiresReconciliation
  rejectIf (¬ PermitOpen execution.state) .invalidExecutionTransition
  if executionAuthorityExpired execution trustedNow = true then
    .ok ⟨projection.setExecutionState fun _ => .expired, none, "execution_lease_expired"⟩
  else
    .ok ⟨projection, none, "execution_permit_recovered"⟩

/-- The event of a permit command whose authority is no longer current. -/
def withdrawnEvent : ExecutionAggregateStateV1 → Except IdrRuntimeErrorV1 Text
  | .cancelled => .ok "execution_cancelled_invalid_authority"
  | .reconciliationRequired => .ok "execution_reconciliation_required_invalid_authority"
  | _ => .error .invalidExecutionTransition

/-- The common body of `DeliverPermit` and `StartDispatch`: under current authority the execution
goes from `expected` to `next`, otherwise it is withdrawn. -/
def evaluatePermitStep (expected next : ExecutionAggregateStateV1) (eventType : Text)
    (projection : IdrRunProjectionV1) (command : IdrCommandEnvelopeV1) (trustedNow : Nat)
    (reservationId permitId : Uuid) : Except IdrRuntimeErrorV1 ArmResultV1 := do
  let execution ← currentExecution projection reservationId permitId
  requireCaller command execution.providerRef
  let (authorityIsCurrent, projection) ←
    ensureCurrentExecutionAction projection reservationId permitId trustedNow
  let execution ← currentExecution projection reservationId permitId
  if authorityIsCurrent = false then do
    let event ← withdrawnEvent execution.state
    .ok ⟨projection, none, event⟩
  else do
    requireExecutionState execution expected
    .ok ⟨projection.setExecutionState fun _ => next, none, eventType⟩

def evaluateDeliverPermit (projection : IdrRunProjectionV1) (command : IdrCommandEnvelopeV1)
    (trustedNow : Nat) (reservationId permitId : Uuid) : Except IdrRuntimeErrorV1 ArmResultV1 :=
  evaluatePermitStep .permitIssued .permitDelivered "execution_permit_delivered"
    projection command trustedNow reservationId permitId

def evaluateStartDispatch (projection : IdrRunProjectionV1) (command : IdrCommandEnvelopeV1)
    (trustedNow : Nat) (reservationId permitId : Uuid) : Except IdrRuntimeErrorV1 ArmResultV1 :=
  evaluatePermitStep .permitDelivered .dispatchStarted "execution_dispatch_started"
    projection command trustedNow reservationId permitId

/-! ### Receipt, reconciliation and expiry -/

/-- The run state that a terminal receipt leaves behind. -/
def receiptRunState : ExecutionAggregateStateV1 → Except IdrRuntimeErrorV1 IdrRunStateV1
  | .succeeded | .compensated => .ok .succeeded
  | .failed => .ok .failed
  | .rejected => .ok .rejected
  | _ => .error .invalidExecutionTransition

def evaluateCommitExecutionReceipt (fresh : FreshIdsV1) (projection : IdrRunProjectionV1)
    (command : IdrCommandEnvelopeV1) (trustedNow : Nat)
    (verifiedProofs : List VerifiedProductionProofV1) (receipt : CandidateSubmissionV1)
    (reservationId permitId : Uuid) (providerRef : ReferenceV1) (dispatchNonce : Text)
    (attempt : Nat) : Except IdrRuntimeErrorV1 ArmResultV1 := do
  let receiptRevision ← nextRevision projection .executionReceipt
  let receiptRecordId := recordIdFor projection .executionReceipt fresh.recordId
  let execution ← currentExecution projection reservationId permitId
  let actionWasInvalidated : Bool := execution.actionRef ∈ projection.invalidatedRecords
  requireCaller command execution.providerRef
  rejectIf (¬ InFlight execution.state
      ∨ execution.providerRef ≠ providerRef
      ∨ execution.dispatchNonce ≠ dispatchNonce
      ∨ execution.attempt ≠ attempt)
    .bindingMismatch
  validateExecutionReceiptCandidate receipt.payload permitId providerRef dispatchNonce attempt
    actionWasInvalidated execution.requestDigest
  let record ← issueRecord receipt command trustedNow verifiedProofs projection.trustDomain
    receiptRecordId receiptRevision
  let executionState ← receiptTerminalState receipt.payload
  let runState ← receiptRunState executionState
  let projection := { projection.setExecutionState fun _ => executionState with state := runState }
  .ok ⟨projection, some record, "execution_receipt_committed"⟩

def evaluateReconcileExecution (projection : IdrRunProjectionV1) (command : IdrCommandEnvelopeV1)
    (reservationId : Uuid) (resolution : ReconciliationResolutionV1) :
    Except IdrRuntimeErrorV1 ArmResultV1 := do
  let execution ← executionOf projection reservationId
  requireCaller command execution.providerRef
  requireExecutionState execution .reconciliationRequired
  -- a terminal resolution must arrive as a receipt
  rejectIf (resolution ≠ .unknown) .bindingMismatch
  .ok ⟨projection.setExecutionState fun _ => .reconciliationRequired, none,
    "execution_reconciliation_still_unknown"⟩

def evaluateExpireExecutionLease (projection : IdrRunProjectionV1)
    (command : IdrCommandEnvelopeV1) (trustedNow : Nat) (reservationId : Uuid) :
    Except IdrRuntimeErrorV1 ArmResultV1 := do
  let execution ← executionOf projection reservationId
  requireCaller command execution.ownerRef
  rejectIf (executionAuthorityExpired execution trustedNow = false) .invalidExecutionTransition
  if PermitOpen execution.state then
    .ok ⟨projection.setExecutionState fun _ => .expired, none,
      "execution_lease_expired_before_dispatch"⟩
  else if execution.state = .dispatchStarted ∨ execution.state = .awaitingProvider then
    .ok ⟨projection.setExecutionState fun _ => .reconciliationRequired, none,
      "execution_lease_expired_after_dispatch"⟩
  else
    .error .invalidExecutionTransition

def evaluateInvalidateRecord (projection : IdrRunProjectionV1)
    (recordRef : AuthoritativeRecordRefV1) : Except IdrRuntimeErrorV1 ArmResultV1 := do
  requireExactGovernanceTarget projection recordRef
  let projection := { projection with
    invalidatedRecords := insertRecordRef recordRef projection.invalidatedRecords
    execution := projection.execution.map fun execution =>
      if execution.actionRef.recordId = recordRef.recordId ∧ execution.state.isTerminal = false
      then { execution with state := withdrawnState execution.state }
      else execution
    state := .invalidated }
  .ok ⟨projection, none, "record_invalidated"⟩

/-! ### Outcome and human model -/

def evaluateRecordOutcome (fresh : FreshIdsV1) (projection : IdrRunProjectionV1)
    (command : IdrCommandEnvelopeV1) (trustedNow : Nat)
    (verifiedProofs : List VerifiedProductionProofV1) (outcome : CandidateSubmissionV1) :
    Except IdrRuntimeErrorV1 ArmResultV1 := do
  let receiptRef ← okOr (projection.records .executionReceipt) .missingDependency
  requireHistoricalEvidenceRecord projection receiptRef trustedNow
    idrReceiptOutcomeObservationWindowSecondsV1
  validateOutcomeCandidate outcome.payload receiptRef.recordDigest
  let revision ← nextRevision projection .outcome
  let record ← issueRecord outcome command trustedNow verifiedProofs projection.trustDomain
    (recordIdFor projection .outcome fresh.recordId) revision
  .ok ⟨{ projection with outcomeBinding := some record.recordRef }, some record,
    "outcome_observed"⟩

def evaluateProposeHumanModelCandidate (fresh : FreshIdsV1) (projection : IdrRunProjectionV1)
    (command : IdrCommandEnvelopeV1) (trustedNow : Nat)
    (verifiedProofs : List VerifiedProductionProofV1) (candidate : CandidateSubmissionV1) :
    Except IdrRuntimeErrorV1 ArmResultV1 := do
  let outcomeRef ← okOr projection.outcomeBinding .missingDependency
  requireHistoricalEvidenceRecord projection outcomeRef trustedNow
    idrOutcomeHumanModelWindowSecondsV1
  requireExactRecordPayload candidate.payload "outcome" outcomeRef
  validateHumanModelCandidate candidate.payload
  let revision ← nextRevision projection .humanModelCandidate
  let record ← issueRecord candidate command trustedNow verifiedProofs projection.trustDomain
    (recordIdFor projection .humanModelCandidate fresh.recordId) revision
  let projection := { projection with
    humanModelCandidate := some {
      candidateRef := record.recordRef
      outcomeRef
      materializedPayload := candidate.payload } }
  .ok ⟨projection, some record, "human_model_candidate_recorded"⟩

def evaluateRecordHumanModelPromotion (fresh : FreshIdsV1) (projection : IdrRunProjectionV1)
    (command : IdrCommandEnvelopeV1) (trustedNow : Nat)
    (verifiedProofs : List VerifiedProductionProofV1) (decision : CandidateSubmissionV1)
    (sourceCandidateRef : AuthoritativeRecordRefV1) : Except IdrRuntimeErrorV1 ArmResultV1 := do
  requireExactCurrentRecordAt projection sourceCandidateRef trustedNow
  rejectIf (sourceCandidateRef.candidateKind ≠ .humanModelCandidate) .bindingMismatch
  let sourceCandidate ← okOr (projection.humanModelCandidate.filter fun candidate =>
      candidate.candidateRef = sourceCandidateRef)
    .missingDependency
  let outcome ← validateHumanModelPromotion decision.payload sourceCandidateRef.recordDigest
    sourceCandidate.materializedPayload
  requireExactRecordPayload decision.payload "outcome" sourceCandidate.outcomeRef
  let revision ← nextRevision projection .humanModelPromotionDecision
  let record ← issueRecord decision command trustedNow verifiedProofs projection.trustDomain
    (recordIdFor projection .humanModelPromotionDecision fresh.recordId) revision
  let projection := { projection with
    humanModelPromotion := some {
      decisionRef := record.recordRef
      sourceCandidateRef
      outcomeRef := sourceCandidate.outcomeRef
      outcome } }
  .ok ⟨projection, some record, "human_model_promotion_decided"⟩

/-- The lifecycle of an assertion, by the outcome of its promotion. -/
def promotedLifecycleState (outcome : Text) : Option Text :=
  if outcome = "promote_provisional" then some "provisional"
  else if outcome = "promote_user_confirmed" then some "user_confirmed"
  else if outcome = "promote_outcome_supported" then some "outcome_supported"
  else none

/-- The payload of a promoted assertion: the candidate's, with the six keys of the promotion. -/
def materializeAssertion (candidatePayload : List (Text × Value))
    (promotion : HumanModelPromotionProjectionV1) (lifecycleState : Text)
    (maximumImpactBasisPoints : Nat) : List (Text × Value) :=
  let fields := insertField candidatePayload "source_candidate_digest"
    (.string promotion.sourceCandidateRef.recordDigest)
  let fields := insertField fields "lifecycle_state" (.string lifecycleState)
  let fields := insertField fields "maximum_impact_basis_points" (toValue maximumImpactBasisPoints)
  let fields := insertField fields "promotion_decision_record_id"
    (toValue promotion.decisionRef.recordId)
  let fields := insertField fields "promotion_decision_revision"
    (toValue promotion.decisionRef.revision)
  insertField fields "promotion_decision_record_digest"
    (.string promotion.decisionRef.recordDigest)

def evaluatePromoteHumanModelAssertion (fresh : FreshIdsV1) (projection : IdrRunProjectionV1)
    (command : IdrCommandEnvelopeV1) (trustedNow : Nat)
    (verifiedProofs : List VerifiedProductionProofV1) (assertion : CandidateSubmissionV1)
    (promotionDecisionRef : AuthoritativeRecordRefV1) : Except IdrRuntimeErrorV1 ArmResultV1 := do
  requireExactCurrentRecordAt projection promotionDecisionRef trustedNow
  rejectIf (promotionDecisionRef.candidateKind ≠ .humanModelPromotionDecision) .bindingMismatch
  let promotion ← okOr (projection.humanModelPromotion.filter fun promotion =>
      promotion.decisionRef = promotionDecisionRef
        ∧ (promotedLifecycleState promotion.outcome).isSome = true)
    .bindingMismatch
  let sourceCandidate ← okOr (projection.humanModelCandidate.filter fun candidate =>
      candidate.candidateRef = promotion.sourceCandidateRef)
    .missingDependency
  validateHumanModelAssertionRequest assertion.payload promotion.sourceCandidateRef.recordDigest
  let lifecycleState ← okOr (promotedLifecycleState promotion.outcome) .bindingMismatch
  let maximumImpact ← maximumImpactBasisPoints sourceCandidate.materializedPayload
  let candidatePayload ← okOr sourceCandidate.materializedPayload.asObject .bindingMismatch
  let materializedPayload :=
    materializeAssertion candidatePayload promotion lifecycleState maximumImpact
  let assertionValidUntil ←
    okOr (verifiedProofs.map VerifiedProductionProofV1.expiresAt ++
        [assertion.validUntil, promotion.decisionRef.validUntil,
          promotion.sourceCandidateRef.validUntil]).min?
      .expiredAuthority
  let revision ← nextRevision projection .humanModelAssertion
  let record ← issueInternalRecord fresh .humanModelAssertion (.object materializedPayload) command
    projection trustedNow assertionValidUntil verifiedProofs
    (recordIdFor projection .humanModelAssertion fresh.recordId) revision
  .ok ⟨projection, some record, "human_model_assertion_promoted"⟩

def evaluateCorrectHumanModelAssertion (projection : IdrRunProjectionV1)
    (command : IdrCommandEnvelopeV1) (trustedNow : Nat)
    (verifiedProofs : List VerifiedProductionProofV1) (assertionRef : AuthoritativeRecordRefV1)
    (correction : CandidateSubmissionV1) : Except IdrRuntimeErrorV1 ArmResultV1 := do
  requireExactGovernanceTarget projection assertionRef
  validateHumanModelCorrection correction.payload
  let revision ← okOr (checkedAddU64 assertionRef.revision 1) .aggregateVersionConflict
  let record ← issueRecord correction command trustedNow verifiedProofs projection.trustDomain
    assertionRef.recordId revision
  let projection := { projection with
    invalidatedRecords := insertRecordRef assertionRef projection.invalidatedRecords }
  .ok ⟨projection, some record, "human_model_assertion_corrected"⟩

def evaluateCancelRun (projection : IdrRunProjectionV1) :
    Except IdrRuntimeErrorV1 ArmResultV1 := do
  rejectIf (projection.state = .succeeded ∨ projection.state = .rejected
      ∨ projection.state = .cancelled)
    .invalidRunTransition
  .ok ⟨{ projection with state := .cancelled }, none, "run_cancelled"⟩

/-! ### The transition function -/

/-- The kinds of the verified proofs, without the caller authentication. -/
def foundProofKinds (verifiedProofs : List VerifiedProductionProofV1) :
    Finset ProductionProofKindV1 :=
  ((verifiedProofs.map VerifiedProductionProofV1.proofKind).filter
    (· ≠ .callerAuthentication)).toFinset

/-- The lineage check of a candidate, for every command but `StartRun`. -/
def checkLineage (projection : IdrRunProjectionV1) (command : IdrCommandV1) (trustedNow : Nat) :
    Except IdrRuntimeErrorV1 Unit :=
  match command, command.candidate with
  | .startRun _, _ => .ok ()
  | _, none => .ok ()
  | _, some candidate =>
    rejectIf (projection.subjectRef ≠ some candidate.subjectRef
        ∨ projection.turnId ≠ some candidate.turnId
        ∨ trustedNow < candidate.validFrom
        ∨ trustedNow ≥ candidate.validUntil)
      .lineageMismatch

/-- The checks that every command passes first. -/
def checkCommand (projection : IdrRunProjectionV1) (command : IdrCommandEnvelopeV1)
    (trustedNow : Nat) (verifiedProofs : List VerifiedProductionProofV1) :
    Except IdrRuntimeErrorV1 Unit := do
  command.validate
  rejectIf (projection.runId ≠ command.runId
      ∨ projection.trustDomain ≠ command.trustDomain
      ∨ projection.environmentRef ≠ command.environmentRef
      ∨ projection.tenantRef ≠ command.tenantRef
      ∨ projection.aggregateVersion ≠ command.expectedAggregateVersion)
    .aggregateVersionConflict
  requireCommandState projection.state command.command
  checkLineage projection command.command trustedNow
  rejectIf (foundProofKinds verifiedProofs ≠ command.command.requiredProofKinds)
    .missingRequiredProof

/-- The `match` on the command. -/
def evaluateCommand (fresh : FreshIdsV1) (projection : IdrRunProjectionV1)
    (command : IdrCommandEnvelopeV1) (trustedNow : Nat)
    (verifiedProofs : List VerifiedProductionProofV1) : Except IdrRuntimeErrorV1 ArmResultV1 :=
  match command.command with
  | .startRun input => evaluateStartRun fresh projection command trustedNow verifiedProofs input
  | .recordContext context =>
    evaluateRecordContext fresh projection command trustedNow verifiedProofs context
  | .recordIntent intent =>
    evaluateRecordIntent fresh projection command trustedNow verifiedProofs intent
  | .recordDecision decision =>
    evaluateRecordDecision fresh projection command trustedNow verifiedProofs decision
  | .recordTurn turn => evaluateRecordTurn fresh projection command trustedNow verifiedProofs turn
  | .recordResponse response =>
    evaluateRecordResponse fresh projection command trustedNow verifiedProofs response
  | .consumeResponseSend responseRef renderedBytes channelRef audienceRef sendNonce =>
    evaluateConsumeResponseSend projection trustedNow responseRef renderedBytes channelRef
      audienceRef sendNonce
  | .recordAction action =>
    evaluateRecordAction fresh projection command trustedNow verifiedProofs action
  | .admitAction actionRef actionDigest providerRef ownerRef idempotencyKey =>
    evaluateAdmitAction fresh projection command trustedNow verifiedProofs actionRef actionDigest
      providerRef ownerRef idempotencyKey
  | .reserveExecution actionAdmissionRef actionRef actionDigest providerRef ownerRef idempotencyKey
      attempt leaseUntil dispatchNonce =>
    evaluateReserveExecution fresh projection command trustedNow verifiedProofs actionAdmissionRef
      actionRef actionDigest providerRef ownerRef idempotencyKey attempt leaseUntil dispatchNonce
  | .recoverPermit reservationId =>
    evaluateRecoverPermit projection command trustedNow reservationId
  | .deliverPermit reservationId permitId =>
    evaluateDeliverPermit projection command trustedNow reservationId permitId
  | .startDispatch reservationId permitId =>
    evaluateStartDispatch projection command trustedNow reservationId permitId
  | .commitExecutionReceipt receipt reservationId permitId providerRef dispatchNonce attempt =>
    evaluateCommitExecutionReceipt fresh projection command trustedNow verifiedProofs receipt
      reservationId permitId providerRef dispatchNonce attempt
  | .reconcileExecution reservationId resolution =>
    evaluateReconcileExecution projection command reservationId resolution
  | .expireExecutionLease reservationId =>
    evaluateExpireExecutionLease projection command trustedNow reservationId
  | .invalidateRecord recordRef _ => evaluateInvalidateRecord projection recordRef
  | .recordOutcome outcome =>
    evaluateRecordOutcome fresh projection command trustedNow verifiedProofs outcome
  | .proposeHumanModelCandidate candidate =>
    evaluateProposeHumanModelCandidate fresh projection command trustedNow verifiedProofs candidate
  | .recordHumanModelPromotion decision sourceCandidateRef =>
    evaluateRecordHumanModelPromotion fresh projection command trustedNow verifiedProofs decision
      sourceCandidateRef
  | .promoteHumanModelAssertion assertion promotionDecisionRef =>
    evaluatePromoteHumanModelAssertion fresh projection command trustedNow verifiedProofs assertion
      promotionDecisionRef
  | .correctHumanModelAssertion assertionRef correction =>
    evaluateCorrectHumanModelAssertion projection command trustedNow verifiedProofs assertionRef
      correction
  | .cancelRun _ => evaluateCancelRun projection

/-- `projection.records.insert` of an issued record. -/
def IdrRunProjectionV1.insertRecord (projection : IdrRunProjectionV1)
    (record : Option AuthoritativeRecordV1) : IdrRunProjectionV1 :=
  match record with
  | none => projection
  | some record =>
    { projection with
      records := Function.update projection.records record.recordRef.candidateKind
        (some record.recordRef) }

/-- `evaluate_authoritative_transition_v1`. -/
def evaluateAuthoritativeTransitionV1 (fresh : FreshIdsV1) (projection : IdrRunProjectionV1)
    (command : IdrCommandEnvelopeV1) (trustedNow : Nat)
    (verifiedProofs : List VerifiedProductionProofV1) :
    Except IdrRuntimeErrorV1 IdrTransitionV1 := do
  checkCommand projection command trustedNow verifiedProofs
  let previousVersion := projection.aggregateVersion
  let aggregateVersion ←
    okOr (checkedAddU64 projection.aggregateVersion 1) .aggregateVersionConflict
  let lastEventSequence ←
    okOr (checkedAddU64 projection.lastEventSequence 1) .aggregateVersionConflict
  let result ← evaluateCommand fresh { projection with aggregateVersion, lastEventSequence }
    command trustedNow verifiedProofs
  let projection := result.projection.insertRecord result.authoritativeRecord
  rejectIf (projection.aggregateVersion ≠ previousVersion + 1) .aggregateVersionConflict
  .ok {
    projection
    authoritativeRecord := result.authoritativeRecord
    eventType := result.eventType
    eventPayload := toValue command.command
    consumedProofIds := verifiedProofs.map VerifiedProductionProofV1.proofId
    consumedNonces := verifiedProofs.map VerifiedProductionProofV1.nonce }

end Idr
