/-
Idr/TrustChain/Types.lean

The data of the control plane: run and execution states, record
references and records, commands, and the run projection.

A projection is what the authority knows of one run.  The finite maps of
the source are kept as functions (`records`, from the kind of a record to
the current reference of that kind) or as lists in key order; its ordered
sets are ascending lists (`Idr.Lib.SortedSet`).  `u64` and `u32` values are
natural numbers, and every place where the source checks for overflow does
so here with `checkedAddU64` and `checkedAddU32`.

`Serialize` instances give the JSON each type serializes to; digests and
audit payloads are computed from them.
-/
import Idr.Protocol.Production

namespace Idr

/-! ### Machine integers -/

/-- `u64::checked_add`. -/
def checkedAddU64 (a b : Nat) : Option Nat :=
  if a + b < 2 ^ 64 then some (a + b) else none

/-- `u32::checked_add`. -/
def checkedAddU32 (a b : Nat) : Option Nat :=
  if a + b < 2 ^ 32 then some (a + b) else none

theorem checkedAddU64_eq_some {a b c : Nat} :
    checkedAddU64 a b = some c ↔ a + b < 2 ^ 64 ∧ a + b = c := by
  unfold checkedAddU64
  split
  case isTrue hlt => exact ⟨fun h => ⟨hlt, Option.some.inj h⟩, fun h => congrArg some h.2⟩
  case isFalse hlt => exact ⟨fun h => (by cases h), fun h => absurd h.1 hlt⟩

theorem checkedAddU32_eq_some {a b c : Nat} :
    checkedAddU32 a b = some c ↔ a + b < 2 ^ 32 ∧ a + b = c := by
  unfold checkedAddU32
  split
  case isTrue hlt => exact ⟨fun h => ⟨hlt, Option.some.inj h⟩, fun h => congrArg some h.2⟩
  case isFalse hlt => exact ⟨fun h => (by cases h), fun h => absurd h.1 hlt⟩

/-! ### States -/

/-- `IdrRunStateV1`. -/
inductive IdrRunStateV1
  | pending
  | running
  | waitingInput
  | waitingAuthorization
  | waitingDependency
  | reconciliationRequired
  | succeeded
  | rejected
  | failed
  | cancelled
  | timedOut
  | invalidated
  deriving DecidableEq

def IdrRunStateV1.wireName : IdrRunStateV1 → Text
  | pending => "pending"
  | running => "running"
  | waitingInput => "waiting_input"
  | waitingAuthorization => "waiting_authorization"
  | waitingDependency => "waiting_dependency"
  | reconciliationRequired => "reconciliation_required"
  | succeeded => "succeeded"
  | rejected => "rejected"
  | failed => "failed"
  | cancelled => "cancelled"
  | timedOut => "timed_out"
  | invalidated => "invalidated"

/-- `ExecutionAggregateStateV1`. -/
inductive ExecutionAggregateStateV1
  | none
  | reservationCreated
  | permitIssued
  | permitDelivered
  | dispatchStarted
  | awaitingProvider
  | reconciliationRequired
  | succeeded
  | failed
  | rejected
  | cancelled
  | compensated
  | expired
  deriving DecidableEq

namespace ExecutionAggregateStateV1

def wireName : ExecutionAggregateStateV1 → Text
  | none => "none"
  | reservationCreated => "reservation_created"
  | permitIssued => "permit_issued"
  | permitDelivered => "permit_delivered"
  | dispatchStarted => "dispatch_started"
  | awaitingProvider => "awaiting_provider"
  | reconciliationRequired => "reconciliation_required"
  | succeeded => "succeeded"
  | failed => "failed"
  | rejected => "rejected"
  | cancelled => "cancelled"
  | compensated => "compensated"
  | expired => "expired"

/-- `is_terminal`. -/
def isTerminal : ExecutionAggregateStateV1 → Bool
  | succeeded | failed | rejected | cancelled | compensated | expired => true
  | _ => false

end ExecutionAggregateStateV1

instance : Serialize IdrRunStateV1 := ⟨fun s => .string s.wireName⟩
instance : Serialize ExecutionAggregateStateV1 := ⟨fun s => .string s.wireName⟩

/-! ### Record references -/

/-- `AuthoritativeRecordRefV1`: the identity, validity and digest of one record revision. -/
structure AuthoritativeRecordRefV1 where
  recordId : Uuid
  revision : Nat
  candidateKind : CandidateKindV1
  trustDomain : TrustDomainV1
  environmentRef : ReferenceV1
  validFrom : Nat
  validUntil : Nat
  recordDigest : Text
  deriving DecidableEq

/-- The derived order: lexicographic over the fields. -/
def compareRecordRef (a b : AuthoritativeRecordRefV1) : Ordering :=
  (compare a.recordId.toNat b.recordId.toNat).then <|
    (compare a.revision b.revision).then <|
      (compare a.candidateKind b.candidateKind).then <|
        (compare a.trustDomain b.trustDomain).then <|
          (compareText a.environmentRef.asStr b.environmentRef.asStr).then <|
            (compare a.validFrom b.validFrom).then <|
              (compare a.validUntil b.validUntil).then <|
                compareText a.recordDigest b.recordDigest

theorem compareRecordRef_eq : EqOfCompare compareRecordRef := by
  intro a b h
  simp only [compareRecordRef, Ordering.then_eq_eq, Nat.compare_eq_eq] at h
  obtain ⟨hid, hrevision, hkind, hdomain, henvironment, hfrom, huntil, hdigest⟩ := h
  obtain ⟨id, revision, kind, domain, ⟨environment, _⟩, validFrom, validUntil, digest⟩ := a
  obtain ⟨id', revision', kind', domain', ⟨environment', _⟩, validFrom', validUntil', digest'⟩ := b
  obtain rfl := BitVec.eq_of_toNat_eq hid
  obtain rfl : revision = revision' := hrevision
  obtain rfl : kind = kind' := by
    cases kind <;> cases kind' <;> first | rfl | cases hkind
  obtain rfl : domain = domain' := by
    cases domain <;> cases domain' <;> first | rfl | cases hdomain
  obtain rfl : environment = environment' := compareText_eq henvironment
  obtain rfl : validFrom = validFrom' := hfrom
  obtain rfl : validUntil = validUntil' := huntil
  obtain rfl : digest = digest' := compareText_eq hdigest
  rfl

instance : Serialize AuthoritativeRecordRefV1 where
  toValue self := .object [
    ("record_id", toValue self.recordId),
    ("revision", toValue self.revision),
    ("candidate_kind", toValue self.candidateKind),
    ("trust_domain", toValue self.trustDomain),
    ("environment_ref", toValue self.environmentRef),
    ("valid_from", toValue self.validFrom),
    ("valid_until", toValue self.validUntil),
    ("record_digest", toValue self.recordDigest)]

/-! ### Records -/

/-- `AuthoritativeRecordV1`: runtime-issued authoritative state. -/
structure AuthoritativeRecordV1 where
  recordRef : AuthoritativeRecordRefV1
  trustDomain : TrustDomainV1
  environmentRef : ReferenceV1
  runId : Uuid
  turnId : Uuid
  tenantRef : ReferenceV1
  subjectRef : ReferenceV1
  policyRevisionRef : ReferenceV1
  candidateId : Uuid
  candidateDigest : Text
  payload : Value
  issuedByCommandId : Uuid
  issuedAt : Nat
  validFrom : Nat
  validUntil : Nat
  proofIds : List Uuid
  deriving DecidableEq

instance : Serialize AuthoritativeRecordV1 where
  toValue self := .object [
    ("record_ref", toValue self.recordRef),
    ("trust_domain", toValue self.trustDomain),
    ("environment_ref", toValue self.environmentRef),
    ("run_id", toValue self.runId),
    ("turn_id", toValue self.turnId),
    ("tenant_ref", toValue self.tenantRef),
    ("subject_ref", toValue self.subjectRef),
    ("policy_revision_ref", toValue self.policyRevisionRef),
    ("candidate_id", toValue self.candidateId),
    ("candidate_digest", toValue self.candidateDigest),
    ("payload", self.payload),
    ("issued_by_command_id", toValue self.issuedByCommandId),
    ("issued_at", toValue self.issuedAt),
    ("valid_from", toValue self.validFrom),
    ("valid_until", toValue self.validUntil),
    ("proof_ids", toValue self.proofIds)]

/-- `AuthoritativeRecordDigestMaterialV1`. -/
structure AuthoritativeRecordDigestMaterialV1 where
  recordId : Uuid
  revision : Nat
  candidateKind : CandidateKindV1
  trustDomain : TrustDomainV1
  environmentRef : ReferenceV1
  validFrom : Nat
  validUntil : Nat
  runId : Uuid
  turnId : Uuid
  tenantRef : ReferenceV1
  subjectRef : ReferenceV1
  policyRevisionRef : ReferenceV1
  candidateId : Uuid
  candidateDigest : Text
  payload : Value
  issuedByCommandId : Uuid
  issuedAt : Nat
  proofIds : List Uuid
  deriving DecidableEq

instance : Serialize AuthoritativeRecordDigestMaterialV1 where
  toValue self := .object [
    ("record_id", toValue self.recordId),
    ("revision", toValue self.revision),
    ("candidate_kind", toValue self.candidateKind),
    ("trust_domain", toValue self.trustDomain),
    ("environment_ref", toValue self.environmentRef),
    ("valid_from", toValue self.validFrom),
    ("valid_until", toValue self.validUntil),
    ("run_id", toValue self.runId),
    ("turn_id", toValue self.turnId),
    ("tenant_ref", toValue self.tenantRef),
    ("subject_ref", toValue self.subjectRef),
    ("policy_revision_ref", toValue self.policyRevisionRef),
    ("candidate_id", toValue self.candidateId),
    ("candidate_digest", toValue self.candidateDigest),
    ("payload", self.payload),
    ("issued_by_command_id", toValue self.issuedByCommandId),
    ("issued_at", toValue self.issuedAt),
    ("proof_ids", toValue self.proofIds)]

/-! ### Commands -/

/-- `ReconciliationResolutionV1`. -/
inductive ReconciliationResolutionV1
  | succeeded
  | failed
  | rejected
  | compensated
  | unknown
  deriving DecidableEq

def ReconciliationResolutionV1.wireName : ReconciliationResolutionV1 → Text
  | succeeded => "succeeded"
  | failed => "failed"
  | rejected => "rejected"
  | compensated => "compensated"
  | unknown => "unknown"

instance : Serialize ReconciliationResolutionV1 := ⟨fun r => .string r.wireName⟩

/-- `IdrCommandV1`. -/
inductive IdrCommandV1
  | startRun (input : CandidateSubmissionV1)
  | recordContext (context : CandidateSubmissionV1)
  | recordIntent (intent : CandidateSubmissionV1)
  | recordDecision (decision : CandidateSubmissionV1)
  | recordTurn (turn : CandidateSubmissionV1)
  | recordResponse (response : CandidateSubmissionV1)
  | consumeResponseSend (responseRef : AuthoritativeRecordRefV1) (renderedBytes : List UInt8)
      (channelRef audienceRef : ReferenceV1) (sendNonce : Text)
  | recordAction (action : CandidateSubmissionV1)
  | admitAction (actionRef : AuthoritativeRecordRefV1) (actionDigest : Text)
      (providerRef ownerRef : ReferenceV1) (idempotencyKey : Text)
  | reserveExecution (actionAdmissionRef actionRef : AuthoritativeRecordRefV1)
      (actionDigest : Text) (providerRef ownerRef : ReferenceV1) (idempotencyKey : Text)
      (attempt leaseUntil : Nat) (dispatchNonce : Text)
  | recoverPermit (reservationId : Uuid)
  | deliverPermit (reservationId permitId : Uuid)
  | startDispatch (reservationId permitId : Uuid)
  | commitExecutionReceipt (receipt : CandidateSubmissionV1) (reservationId permitId : Uuid)
      (providerRef : ReferenceV1) (dispatchNonce : Text) (attempt : Nat)
  | reconcileExecution (reservationId : Uuid) (resolution : ReconciliationResolutionV1)
  | expireExecutionLease (reservationId : Uuid)
  | invalidateRecord (recordRef : AuthoritativeRecordRefV1) (reasonRef : ReferenceV1)
  | recordOutcome (outcome : CandidateSubmissionV1)
  | proposeHumanModelCandidate (candidate : CandidateSubmissionV1)
  | recordHumanModelPromotion (decision : CandidateSubmissionV1)
      (sourceCandidateRef : AuthoritativeRecordRefV1)
  | promoteHumanModelAssertion (assertion : CandidateSubmissionV1)
      (promotionDecisionRef : AuthoritativeRecordRefV1)
  | correctHumanModelAssertion (assertionRef : AuthoritativeRecordRefV1)
      (correction : CandidateSubmissionV1)
  | cancelRun (reasonRef : ReferenceV1)
  deriving DecidableEq

/-- The adjacently tagged form `{"command": tag, "payload": {fields}}`. -/
def taggedCommand (tag : Text) (fields : List (Text × Value)) : Value :=
  .object [("command", .string tag), ("payload", .object fields)]

instance : Serialize IdrCommandV1 where
  toValue
    | .startRun input => taggedCommand "start_run" [("input", toValue input)]
    | .recordContext context => taggedCommand "record_context" [("context", toValue context)]
    | .recordIntent intent => taggedCommand "record_intent" [("intent", toValue intent)]
    | .recordDecision decision => taggedCommand "record_decision" [("decision", toValue decision)]
    | .recordTurn turn => taggedCommand "record_turn" [("turn", toValue turn)]
    | .recordResponse response => taggedCommand "record_response" [("response", toValue response)]
    | .consumeResponseSend responseRef renderedBytes channelRef audienceRef sendNonce =>
      taggedCommand "consume_response_send" [
        ("response_ref", toValue responseRef),
        ("rendered_bytes", toValue renderedBytes),
        ("channel_ref", toValue channelRef),
        ("audience_ref", toValue audienceRef),
        ("send_nonce", toValue sendNonce)]
    | .recordAction action => taggedCommand "record_action" [("action", toValue action)]
    | .admitAction actionRef actionDigest providerRef ownerRef idempotencyKey =>
      taggedCommand "admit_action" [
        ("action_ref", toValue actionRef),
        ("action_digest", toValue actionDigest),
        ("provider_ref", toValue providerRef),
        ("owner_ref", toValue ownerRef),
        ("idempotency_key", toValue idempotencyKey)]
    | .reserveExecution actionAdmissionRef actionRef actionDigest providerRef ownerRef
        idempotencyKey attempt leaseUntil dispatchNonce =>
      taggedCommand "reserve_execution" [
        ("action_admission_ref", toValue actionAdmissionRef),
        ("action_ref", toValue actionRef),
        ("action_digest", toValue actionDigest),
        ("provider_ref", toValue providerRef),
        ("owner_ref", toValue ownerRef),
        ("idempotency_key", toValue idempotencyKey),
        ("attempt", toValue attempt),
        ("lease_until", toValue leaseUntil),
        ("dispatch_nonce", toValue dispatchNonce)]
    | .recoverPermit reservationId =>
      taggedCommand "recover_permit" [("reservation_id", toValue reservationId)]
    | .deliverPermit reservationId permitId =>
      taggedCommand "deliver_permit" [
        ("reservation_id", toValue reservationId),
        ("permit_id", toValue permitId)]
    | .startDispatch reservationId permitId =>
      taggedCommand "start_dispatch" [
        ("reservation_id", toValue reservationId),
        ("permit_id", toValue permitId)]
    | .commitExecutionReceipt receipt reservationId permitId providerRef dispatchNonce attempt =>
      taggedCommand "commit_execution_receipt" [
        ("receipt", toValue receipt),
        ("reservation_id", toValue reservationId),
        ("permit_id", toValue permitId),
        ("provider_ref", toValue providerRef),
        ("dispatch_nonce", toValue dispatchNonce),
        ("attempt", toValue attempt)]
    | .reconcileExecution reservationId resolution =>
      taggedCommand "reconcile_execution" [
        ("reservation_id", toValue reservationId),
        ("resolution", toValue resolution)]
    | .expireExecutionLease reservationId =>
      taggedCommand "expire_execution_lease" [("reservation_id", toValue reservationId)]
    | .invalidateRecord recordRef reasonRef =>
      taggedCommand "invalidate_record" [
        ("record_ref", toValue recordRef),
        ("reason_ref", toValue reasonRef)]
    | .recordOutcome outcome => taggedCommand "record_outcome" [("outcome", toValue outcome)]
    | .proposeHumanModelCandidate candidate =>
      taggedCommand "propose_human_model_candidate" [("candidate", toValue candidate)]
    | .recordHumanModelPromotion decision sourceCandidateRef =>
      taggedCommand "record_human_model_promotion" [
        ("decision", toValue decision),
        ("source_candidate_ref", toValue sourceCandidateRef)]
    | .promoteHumanModelAssertion assertion promotionDecisionRef =>
      taggedCommand "promote_human_model_assertion" [
        ("assertion", toValue assertion),
        ("promotion_decision_ref", toValue promotionDecisionRef)]
    | .correctHumanModelAssertion assertionRef correction =>
      taggedCommand "correct_human_model_assertion" [
        ("assertion_ref", toValue assertionRef),
        ("correction", toValue correction)]
    | .cancelRun reasonRef => taggedCommand "cancel_run" [("reason_ref", toValue reasonRef)]

/-- `IdrCommandEnvelopeV1`. -/
structure IdrCommandEnvelopeV1 where
  commandId : Uuid
  trustDomain : TrustDomainV1
  environmentRef : ReferenceV1
  runId : Uuid
  expectedAggregateVersion : Nat
  actorRef : ReferenceV1
  callerRef : ReferenceV1
  tenantRef : ReferenceV1
  scopeRef : ReferenceV1
  purposeRef : ReferenceV1
  policyRevisionRef : ReferenceV1
  correlationRef : ReferenceV1
  causationRef : ReferenceV1
  command : IdrCommandV1
  proofs : List ProductionProofEnvelopeV1
  deriving DecidableEq

/-- The fields of an envelope without its proofs, as `UnsignedCommandEnvelopeV1` lists them. -/
def unsignedCommandFields (self : IdrCommandEnvelopeV1) : List (Text × Value) := [
  ("command_id", toValue self.commandId),
  ("trust_domain", toValue self.trustDomain),
  ("environment_ref", toValue self.environmentRef),
  ("run_id", toValue self.runId),
  ("expected_aggregate_version", toValue self.expectedAggregateVersion),
  ("actor_ref", toValue self.actorRef),
  ("caller_ref", toValue self.callerRef),
  ("tenant_ref", toValue self.tenantRef),
  ("scope_ref", toValue self.scopeRef),
  ("purpose_ref", toValue self.purposeRef),
  ("policy_revision_ref", toValue self.policyRevisionRef),
  ("correlation_ref", toValue self.correlationRef),
  ("causation_ref", toValue self.causationRef),
  ("command", toValue self.command)]

instance : Serialize IdrCommandEnvelopeV1 where
  toValue self := .object (unsignedCommandFields self ++ [(("proofs" : Text), toValue self.proofs)])

/-! ### The run projection -/

/-- `ExecutionProjectionV1`. -/
structure ExecutionProjectionV1 where
  reservationId : Uuid
  actionAdmissionRef : AuthoritativeRecordRefV1
  actionRef : AuthoritativeRecordRefV1
  providerRef : ReferenceV1
  ownerRef : ReferenceV1
  operationRef : ReferenceV1
  parameterDigest : Text
  requestDigest : Text
  idempotencyKey : Text
  attempt : Nat
  permitId : Uuid
  exactAuthorizationProofId : Uuid
  actionValidUntil : Nat
  admissionValidUntil : Nat
  authorizationValidUntil : Nat
  permitValidUntil : Nat
  leaseUntil : Nat
  dispatchNonce : Text
  state : ExecutionAggregateStateV1
  deriving DecidableEq

/-- `ResponseBindingProjectionV1`. -/
structure ResponseBindingProjectionV1 where
  responseRef : AuthoritativeRecordRefV1
  renderedContentDigest : Text
  channelRef : ReferenceV1
  audienceRef : ReferenceV1
  deriving DecidableEq

/-- `HumanModelPromotionProjectionV1`. -/
structure HumanModelPromotionProjectionV1 where
  decisionRef : AuthoritativeRecordRefV1
  sourceCandidateRef : AuthoritativeRecordRefV1
  outcomeRef : AuthoritativeRecordRefV1
  outcome : Text
  deriving DecidableEq

/-- `HumanModelCandidateProjectionV1`. -/
structure HumanModelCandidateProjectionV1 where
  candidateRef : AuthoritativeRecordRefV1
  outcomeRef : AuthoritativeRecordRefV1
  materializedPayload : Value
  deriving DecidableEq

/-- `ActionAdmissionProofBindingV1`. -/
structure ActionAdmissionProofBindingV1 where
  proofId : Uuid
  validUntil : Nat
  deriving DecidableEq

/-- `ActionAdmissionProjectionV1`; the proof bindings are in the order of their kinds. -/
structure ActionAdmissionProjectionV1 where
  admissionRef : AuthoritativeRecordRefV1
  actionRef : AuthoritativeRecordRefV1
  providerRef : ReferenceV1
  ownerRef : ReferenceV1
  operationRef : ReferenceV1
  parameterDigest : Text
  requestDigest : Text
  idempotencyKey : Text
  proofBindings : List (ProductionProofKindV1 × ActionAdmissionProofBindingV1)
  exactAuthorizationProofId : Uuid
  authorizationValidUntil : Nat
  validUntil : Nat
  deriving DecidableEq

/-- `DecisionBindingProjectionV1`. -/
structure DecisionBindingProjectionV1 where
  decisionRef : AuthoritativeRecordRefV1
  selectedOptionRef : ReferenceV1
  operationRef : ReferenceV1
  parameterDigest : Text
  deriving DecidableEq

/-- `ActionBindingProjectionV1`. -/
structure ActionBindingProjectionV1 where
  actionRef : AuthoritativeRecordRefV1
  selectedOptionRef : ReferenceV1
  operationRef : ReferenceV1
  parameterDigest : Text
  requestDigest : Text
  deriving DecidableEq

/-- `IdrRunProjectionV1`: the authority's view of one run. -/
structure IdrRunProjectionV1 where
  trustDomain : TrustDomainV1
  environmentRef : ReferenceV1
  runId : Uuid
  tenantRef : ReferenceV1
  subjectRef : Option ReferenceV1
  turnId : Option Uuid
  aggregateVersion : Nat
  state : IdrRunStateV1
  records : CandidateKindV1 → Option AuthoritativeRecordRefV1
  invalidatedRecords : List AuthoritativeRecordRefV1
  responseSendNonces : List Text
  responseBinding : Option ResponseBindingProjectionV1
  outcomeBinding : Option AuthoritativeRecordRefV1
  humanModelCandidate : Option HumanModelCandidateProjectionV1
  humanModelPromotion : Option HumanModelPromotionProjectionV1
  decisionBinding : Option DecisionBindingProjectionV1
  actionBinding : Option ActionBindingProjectionV1
  actionAdmission : Option ActionAdmissionProjectionV1
  execution : Option ExecutionProjectionV1
  lastEventSequence : Nat

/-- `IdrRunProjectionV1::pending`: a run nothing has happened to. -/
def IdrRunProjectionV1.pending (trustDomain : TrustDomainV1) (environmentRef : ReferenceV1)
    (runId : Uuid) (tenantRef : ReferenceV1) : IdrRunProjectionV1 where
  trustDomain := trustDomain
  environmentRef := environmentRef
  runId := runId
  tenantRef := tenantRef
  subjectRef := none
  turnId := none
  aggregateVersion := 0
  state := .pending
  records := fun _ => none
  invalidatedRecords := []
  responseSendNonces := []
  responseBinding := none
  outcomeBinding := none
  humanModelCandidate := none
  humanModelPromotion := none
  decisionBinding := none
  actionBinding := none
  actionAdmission := none
  execution := none
  lastEventSequence := 0

/-- `invalidated_records.insert`. -/
def insertRecordRef (record : AuthoritativeRecordRefV1) (set : List AuthoritativeRecordRefV1) :
    List AuthoritativeRecordRefV1 :=
  insertSorted compareRecordRef record set

/-! ### Transitions and errors -/

/-- `IdrTransitionV1`: what one accepted command does to a run. -/
structure IdrTransitionV1 where
  projection : IdrRunProjectionV1
  authoritativeRecord : Option AuthoritativeRecordV1
  eventType : Text
  eventPayload : Value
  consumedProofIds : List Uuid
  consumedNonces : List Text

/-- `IdrCommandReceiptV1`. -/
structure IdrCommandReceiptV1 where
  commandId : Uuid
  attestationId : Uuid
  trustDomain : TrustDomainV1
  environmentRef : ReferenceV1
  runId : Uuid
  aggregateVersion : Nat
  eventSequence : Nat
  state : IdrRunStateV1
  recordRef : Option AuthoritativeRecordRefV1
  idempotentReplay : Bool
  deriving DecidableEq

/-- `IdrRuntimeErrorV1`. -/
inductive IdrRuntimeErrorV1
  | invalidCommand
  | aggregateVersionConflict
  | idempotencyConflict
  | integrityViolation
  | missingRequiredProof
  | proofReplay
  | missingDependency
  | bindingMismatch
  | actionNotAdmitted
  | actionDerivationMismatch
  | executionAlreadyReserved
  | invalidExecutionTransition
  | executionLeaseExpired
  | expiredAuthority
  | executionRequiresReconciliation
  | actionInvalidated
  | invalidRunTransition
  | lineageMismatch
  | principalMismatch
  | serialization
  | repository (message : String)
  | protocol (error : ProductionProtocolErrorV1)
  | invalidReference (error : ReferenceValidationErrorV1)
  deriving DecidableEq

/-- The `?` operator on a protocol result. -/
def fromProtocol {α : Type} (x : Except ProductionProtocolErrorV1 α) :
    Except IdrRuntimeErrorV1 α :=
  x.mapError .protocol

/-- The `?` operator on a reference. -/
def fromReference {α : Type} (x : Except ReferenceValidationErrorV1 α) :
    Except IdrRuntimeErrorV1 α :=
  x.mapError .invalidReference

@[simp] theorem fromProtocol_eq_ok {α : Type} {x : Except ProductionProtocolErrorV1 α} {a : α} :
    fromProtocol x = .ok a ↔ x = .ok a := by
  simp [fromProtocol]

@[simp] theorem fromReference_eq_ok {α : Type} {x : Except ReferenceValidationErrorV1 α} {a : α} :
    fromReference x = .ok a ↔ x = .ok a := by
  simp [fromReference]

end Idr
