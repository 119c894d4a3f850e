/-
Idr/Authority/Rows.lean

The tables of the authority and the orchestrator that writes them.

A table is a list of rows (`Idr.Lib.Table`), a row has the columns that
some statement of the repository reads.  A `text` column is a `Text`, a
column with an enumeration's names is the enumeration; the environment, which every
statement compares with the one of the orchestrator, is a reference.  A
`jsonb` column that is only ever parsed into one type has that type; the
payload of an audit event, which is hashed as it stands, is a `Value`.
Times are microseconds where the clock wrote them, and whole seconds where
`to_timestamp` of a command's second did.

Left out are the columns and tables that are written and never read again:
step snapshots, outbox, invalidations, the tables of the human model, and
the columns of the trust root that verified a proof.
-/
import Idr.Lib.Table
import Idr.Store.ExecutionGuard
import Idr.Store.LineageGuard

namespace Idr

/-! ### The JSON of a projection and of a receipt -/

/-- Every kind, in the derived order. -/
def CandidateKindV1.all : List CandidateKindV1 :=
  [.canonicalInput, .contextSnapshot, .intent, .decision, .turnCoordination, .response, .action,
    .actionAdmissionDecision, .executionReceipt, .outcome, .humanModelCandidate,
    .humanModelPromotionDecision, .humanModelAssertion]

instance : Serialize ExecutionProjectionV1 where
  toValue self := .object [
    ("reservation_id", toValue self.reservationId),
    ("action_admission_ref", toValue self.actionAdmissionRef),
    ("action_ref", toValue self.actionRef),
    ("provider_ref", toValue self.providerRef),
    ("owner_ref", toValue self.ownerRef),
    ("operation_ref", toValue self.operationRef),
    ("parameter_digest", toValue self.parameterDigest),
    ("request_digest", toValue self.requestDigest),
    ("idempotency_key", toValue self.idempotencyKey),
    ("attempt", toValue self.attempt),
    ("permit_id", toValue self.permitId),
    ("exact_authorization_proof_id", toValue self.exactAuthorizationProofId),
    ("action_valid_until", toValue self.actionValidUntil),
    ("admission_valid_until", toValue self.admissionValidUntil),
    ("authorization_valid_until", toValue self.authorizationValidUntil),
    ("permit_valid_until", toValue self.permitValidUntil),
    ("lease_until", toValue self.leaseUntil),
    ("dispatch_nonce", toValue self.dispatchNonce),
    ("state", toValue self.state)]

instance : Serialize ResponseBindingProjectionV1 where
  toValue self := .object [
    ("response_ref", toValue self.responseRef),
    ("rendered_content_digest", toValue self.renderedContentDigest),
    ("channel_ref", toValue self.channelRef),
    ("audience_ref", toValue self.audienceRef)]

instance : Serialize HumanModelPromotionProjectionV1 where
  toValue self := .object [
    ("decision_ref", toValue self.decisionRef),
    ("source_candidate_ref", toValue self.sourceCandidateRef),
    ("outcome_ref", toValue self.outcomeRef),
    ("outcome", toValue self.outcome)]

instance : Serialize HumanModelCandidateProjectionV1 where
  toValue self := .object [
    ("candidate_ref", toValue self.candidateRef),
    ("outcome_ref", toValue self.outcomeRef),
    ("materialized_payload", self.materializedPayload)]

instance : Serialize ActionAdmissionProjectionV1 where
  toValue self := .object [
    ("admission_ref", toValue self.admissionRef),
    ("action_ref", toValue self.actionRef),
    ("provider_ref", toValue self.providerRef),
    ("owner_ref", toValue self.ownerRef),
    ("operation_ref", toValue self.operationRef),
    ("parameter_digest", toValue self.parameterDigest),
    ("request_digest", toValue self.requestDigest),
    ("idempotency_key", toValue self.idempotencyKey),
    ("proof_bindings", proofBindingsValue self.proofBindings),
    ("exact_authorization_proof_id", toValue self.exactAuthorizationProofId),
    ("authorization_valid_until", toValue self.authorizationValidUntil),
    ("valid_until", toValue self.validUntil)]

instance : Serialize DecisionBindingProjectionV1 where
  toValue self := .object [
    ("decision_ref", toValue self.decisionRef),
    ("selected_option_ref", toValue self.selectedOptionRef),
    ("operation_ref", toValue self.operationRef),
    ("parameter_digest", toValue self.parameterDigest)]

instance : Serialize ActionBindingProjectionV1 where
  toValue self := .object [
    ("action_ref", toValue self.actionRef),
    ("selected_option_ref", toValue self.selectedOptionRef),
    ("operation_ref", toValue self.operationRef),
    ("parameter_digest", toValue self.parameterDigest),
    ("request_digest", toValue self.requestDigest)]

instance : Serialize IdrRunProjectionV1 where
  toValue self := .object [
    ("trust_domain", toValue self.trustDomain),
    ("environment_ref", toValue self.environmentRef),
    ("run_id", toValue self.runId),
    ("tenant_ref", toValue self.tenantRef),
    ("subject_ref", toValue self.subjectRef),
    ("turn_id", toValue self.turnId),
    ("aggregate_version", toValue self.aggregateVersion),
    ("state", toValue self.state),
    ("records", .object (CandidateKindV1.all.filterMap fun kind =>
      (self.records kind).map fun record => (kind.wireName, toValue record))),
    ("invalidated_records", toValue self.invalidatedRecords),
    ("response_send_nonces", toValue self.responseSendNonces),
    ("response_binding", toValue self.responseBinding),
    ("outcome_binding", toValue self.outcomeBinding),
    ("human_model_candidate", toValue self.humanModelCandidate),
    ("human_model_promotion", toValue self.humanModelPromotion),
    ("decision_binding", toValue self.decisionBinding),
    ("action_binding", toValue self.actionBinding),
    ("action_admission", toValue self.actionAdmission),
    ("execution", toValue self.execution),
    ("last_event_sequence", toValue self.lastEventSequence)]

instance : Serialize IdrCommandReceiptV1 where
  toValue self := .object [
    ("command_id", toValue self.commandId),
    ("attestation_id", toValue self.attestationId),
    ("trust_domain", toValue self.trustDomain),
    ("environment_ref", toValue self.environmentRef),
    ("run_id", toValue self.runId),
    ("aggregate_version", toValue self.aggregateVersion),
    ("event_sequence", toValue self.eventSequence),
    ("state", toValue self.state),
    ("record_ref", toValue self.recordRef),
    ("idempotent_replay", toValue self.idempotentReplay)]

/-! ### Checkpoints -/

/-- `AuditCheckpointV1`. -/
structure AuditCheckpointV1 where
  trustDomain : TrustDomainV1
  environmentRef : Text
  tenantRef : Text
  auditSequence : Nat
  chainRoot : Text
  recordSetRoot : Text
  executionStateRoot : Text
  checkpointId : Uuid
  deriving DecidableEq

instance : Serialize AuditCheckpointV1 where
  toValue self := .object [
    ("trust_domain", toValue self.trustDomain),
    ("environment_ref", toValue self.environmentRef),
    ("tenant_ref", toValue self.tenantRef),
    ("audit_sequence", toValue self.auditSequence),
    ("chain_root", toValue self.chainRoot),
    ("record_set_root", toValue self.recordSetRoot),
    ("execution_state_root", toValue self.executionStateRoot),
    ("checkpoint_id", toValue self.checkpointId)]

/-! ### Rows -/

/-- `idr_runs`. -/
structure RunRow where
  runId : Uuid
  trustDomain : TrustDomainV1
  environmentRef : ReferenceV1
  tenantRef : Text
  aggregateVersion : Nat
  projection : IdrRunProjectionV1
  projectionDigest : Text
  updatedAt : Nat

/-- `idr_contract_records`. -/
structure ContractRow where
  recordId : Uuid
  revision : Nat
  candidateKind : CandidateKindV1
  trustDomain : TrustDomainV1
  environmentRef : ReferenceV1
  runId : Uuid
  tenantRef : Text
  subjectRef : Text
  recordDigest : Text
  record : AuthoritativeRecordV1
  issuedAt : Nat
  validFrom : Nat
  validUntil : Nat

/-- `idr_contract_current`. -/
structure CurrentRow where
  runId : Uuid
  trustDomain : TrustDomainV1
  environmentRef : ReferenceV1
  candidateKind : CandidateKindV1
  recordId : Uuid
  revision : Nat
  recordDigest : Text

/-- `idr_contract_dependencies`. -/
structure DependencyRow where
  dependentRecordId : Uuid
  dependentRevision : Nat
  dependencyRecordId : Uuid
  dependencyRevision : Nat
  dependencyDigest : Text

/-- `idr_proof_envelopes`. -/
structure ProofRow where
  proofId : Uuid
  trustDomain : TrustDomainV1
  environmentRef : ReferenceV1
  proofKind : ProductionProofKindV1
  issuerRef : Text
  keyId : Text
  tenantRef : Text
  subjectRef : Text
  subjectDigest : Text
  nonce : Text
  envelope : ProductionProofEnvelopeV1

/-- `idr_proof_consumptions`. -/
structure ConsumptionRow where
  proofId : Uuid
  trustDomain : TrustDomainV1
  environmentRef : ReferenceV1
  tenantRef : Text
  nonce : Text
  commandId : Uuid
  runId : Uuid

/-- `idr_response_send_consumptions`: the key. -/
structure ResponseSendRow where
  tenantRef : Text
  sendNonce : Text

/-- `idr_operation_idempotency_fences`. -/
structure FenceRow where
  fenceId : Uuid
  trustDomain : TrustDomainV1
  environmentRef : ReferenceV1
  tenantRef : Text
  operationRef : Text
  idempotencyKey : Text
  firstRunId : Uuid
  firstActionRecordId : Uuid
  firstActionRevision : Nat
  firstActionDigest : Text
  fenceDigest : Text
  createdAt : Nat

/-- `idr_execution_reservations`. -/
structure ReservationRow where
  reservationId : Uuid
  fenceId : Uuid
  runId : Uuid
  tenantRef : Text
  actionRecordId : Uuid
  actionRevision : Nat
  actionAdmissionRecordId : Uuid
  actionAdmissionRevision : Nat
  operationRef : Text
  idempotencyKey : Text
  providerRef : Text
  ownerRef : Text
  state : ExecutionAggregateStateV1
  aggregateVersion : Nat
  actionDigest : Text
  parameterDigest : Text
  requestDigest : Text
  exactAuthorizationProofId : Uuid
  actionValidUntil : Nat
  admissionValidUntil : Nat
  authorizationValidUntil : Nat
  createdAt : Nat
  updatedAt : Nat

/-- `idr_execution_attempts`. -/
structure AttemptRow where
  reservationId : Uuid
  attempt : Nat
  permitId : Uuid
  dispatchNonce : Text
  leaseUntil : Nat
  permitValidUntil : Nat
  state : ExecutionAggregateStateV1
  providerRef : Text
  ownerRef : Text
  startedAt : Option Nat
  completedAt : Option Nat

/-- `idr_execution_receipts`. -/
structure ExecutionReceiptRow where
  receiptRecordId : Uuid
  receiptRevision : Nat
  reservationId : Uuid
  attempt : Nat
  permitId : Uuid
  providerRef : Text
  dispatchNonce : Text
  receipt : AuthoritativeRecordV1

/-- `idr_outcome_records`. -/
structure OutcomeRow where
  outcomeRecordId : Uuid
  outcomeRevision : Nat
  outcome : AuthoritativeRecordV1

/-- `idr_run_events`. -/
structure RunEventRow where
  globalSequence : Nat
  eventId : Uuid
  runId : Uuid
  runEventSequence : Nat
  aggregateVersion : Nat
  attestationId : Uuid

/-- `idr_audit_events`. -/
structure AuditRow where
  sequence : Nat
  eventId : Uuid
  trustDomain : TrustDomainV1
  environmentRef : ReferenceV1
  tenantRef : Text
  runId : Uuid
  aggregateVersion : Nat
  actorRef : Text
  callerRef : Text
  correlationRef : Text
  causationRef : Text
  contractRefs : Value
  proofRefs : Value
  policyRevisionRef : Text
  previousHash : Text
  eventHash : Text
  payload : Value
  attestationId : Uuid

/-- `idr_command_receipts`. -/
structure CommandReceiptRow where
  commandId : Uuid
  trustDomain : TrustDomainV1
  environmentRef : ReferenceV1
  runId : Uuid
  aggregateVersion : Nat
  eventSequence : Nat
  receipt : IdrCommandReceiptV1
  receiptMac : Text
  tenantRef : Text
  actorRef : Text
  callerRef : Text
  commandDigest : Text
  attestationId : Uuid

/-- `idr_audit_checkpoints`. -/
structure CheckpointRow where
  checkpointId : Uuid
  trustDomain : TrustDomainV1
  environmentRef : Text
  tenantRef : Text
  auditSequence : Nat
  chainRoot : Text
  recordSetRoot : Text
  executionStateRoot : Text
  signedCheckpoint : AuditCheckpointV1

/-- `idr_transition_attestations_v7`. -/
structure AttestationRow where
  attestationId : Uuid
  trustDomain : TrustDomainV1
  environmentRef : ReferenceV1
  purpose : AttestationPurposeV7
  commandId : Uuid
  runId : Uuid
  tenantRef : Text
  preAggregateVersion : Nat
  postAggregateVersion : Nat
  commandDigest : Text
  transitionDigest : Text
  databaseTxid : Nat
  backendPid : Nat
  nonce : Uuid
  keyVersion : Nat
  mac : Text

/-! ### The database -/

/-- The authority's schema. -/
structure DatabaseV1 where
  runs : List RunRow
  contractRecords : List ContractRow
  contractCurrent : List CurrentRow
  contractDependencies : List DependencyRow
  proofEnvelopes : List ProofRow
  proofConsumptions : List ConsumptionRow
  responseSends : List ResponseSendRow
  fences : List FenceRow
  reservations : List ReservationRow
  attempts : List AttemptRow
  executionReceipts : List ExecutionReceiptRow
  outcomeRecords : List OutcomeRow
  runEvents : List RunEventRow
  auditEvents : List AuditRow
  commandReceipts : List CommandReceiptRow
  auditCheckpoints : List CheckpointRow
  attestations : List AttestationRow

/-- A schema that was just migrated. -/
def DatabaseV1.empty : DatabaseV1 :=
  ⟨[], [], [], [], [], [], [], [], [], [], [], [], [], [], [], [], []⟩

/-- A row by the record and the revision it is for. -/
def DatabaseV1.contractRecord (db : DatabaseV1) (recordId : Uuid) (revision : Nat) :
    Option ContractRow :=
  db.contractRecords.find? fun row => (row.recordId, row.revision) = (recordId, revision)

def DatabaseV1.run (db : DatabaseV1) (runId : Uuid) : Option RunRow :=
  db.runs.find? fun row => row.runId = runId

def DatabaseV1.proofEnvelope (db : DatabaseV1) (proofId : Uuid) : Option ProofRow :=
  db.proofEnvelopes.find? fun row => row.proofId = proofId

/-- The row that `ORDER BY … DESC LIMIT 1` selects. -/
def lastBy {ρ : Type} (key : ρ → Nat) : List ρ → Option ρ
  | [] => none
  | row :: rows =>
    match lastBy key rows with
    | none => some row
    | some last => if key last < key row then some row else some last

/-! ### The orchestrator and its inputs -/

/-- `PostgresIdrOrchestratorV1`, with its security context and its attestation key. -/
structure PostgresIdrOrchestratorV1 where
  trustDomain : TrustDomainV1
  environmentRef : ReferenceV1
  audienceRef : ReferenceV1
  expectedIssuers : List (ProductionProofKindV1 × ReferenceV1)
  attestationKey : List UInt8
  attestationKeyVersion : Nat

/-- What one call of `transact_inner` takes in: the command, the current trust root, the clock at
the start and at the writes, and the identifiers and numbers that are drawn. -/
structure TransactInputV1 where
  command : IdrCommandEnvelopeV1
  trustRoot : TrustRootSnapshotV1
  startClock : Nat
  writeClock : Nat
  fresh : FreshIdsV1
  attestationId : Uuid
  attestationNonce : Uuid
  eventId : Uuid
  checkpointId : Uuid
  globalSequence : Nat
  auditSequence : Nat
  databaseTxid : Nat
  backendPid : Nat

/-- Microseconds in a second. -/
def microsPerSecond : Nat := 1000000

/-- `EXTRACT(EPOCH FROM clock)::bigint`, which rounds. -/
def epochSeconds (clock : Nat) : Nat := (clock + microsPerSecond / 2) / microsPerSecond

/-- `trusted_now`. -/
def TransactInputV1.trustedNow (i : TransactInputV1) : Nat := epochSeconds i.startClock

theorem epochSeconds_mono {a b : Nat} (h : a ≤ b) : epochSeconds a ≤ epochSeconds b :=
  Nat.div_le_div_right (Nat.add_le_add_right h _)

end Idr
