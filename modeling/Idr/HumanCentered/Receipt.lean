/-
Idr/HumanCentered/Receipt.lean

Execution receipts and outcomes.

A receipt says what a provider did with one attempt of an action, and
depends on that action; an outcome says what was observed of it.
-/
import Idr.HumanCentered.Action

namespace Idr

/-! ### Receipts -/

/-- `ExecutionStateV1`. -/
inductive ExecutionStateV1
  | succeeded
  | failed
  | partiallySucceeded
  | rejected
  | compensated
  deriving DecidableEq

instance : Serialize ExecutionStateV1 where
  toValue
    | .succeeded => .string "succeeded"
    | .failed => .string "failed"
    | .partiallySucceeded => .string "partially_succeeded"
    | .rejected => .string "rejected"
    | .compensated => .string "compensated"

/-- `ExecutionReceiptV1`. -/
structure ExecutionReceiptV1 where
  metadata : HumanCenteredContractMetadataV1
  actionRef : HumanCenteredContractRefV1
  permitId : HumanCenteredProofIdV1
  authorizationId : Uuid
  executionId : Uuid
  providerRef : ReferenceV1
  ownerRef : ReferenceV1
  dispatchNonce : Text
  externalExecutionRef : Option ReferenceV1
  idempotencyKey : Text
  requestParameterDigest : Text
  attempt : Nat
  startedAt : Nat
  completedAt : Nat
  state : ExecutionStateV1
  resultPayload : Option Value
  resultPayloadDigest : Option Text
  appliedEffects : List Text
  verificationResults : List Text
  errorCodes : List Text
  recordDigest : Text
  deriving DecidableEq

namespace ExecutionReceiptV1

def digestInput (self : ExecutionReceiptV1) : Value := .array [
  .array [
    toValue self.metadata,
    toValue self.actionRef,
    toValue self.permitId,
    toValue self.authorizationId,
    toValue self.executionId,
    toValue self.providerRef,
    toValue self.ownerRef,
    toValue self.dispatchNonce,
    toValue self.externalExecutionRef,
    toValue self.idempotencyKey,
    toValue self.requestParameterDigest],
  .array [
    toValue self.attempt,
    toValue self.startedAt,
    toValue self.completedAt,
    toValue self.state,
    toValue self.resultPayload,
    toValue self.resultPayloadDigest,
    toValue self.appliedEffects,
    toValue self.verificationResults,
    toValue self.errorCodes]]

/-- The state agrees with the result, the verification and the errors. -/
def stateMismatch (self : ExecutionReceiptV1) : Bool :=
  match self.state with
  | .succeeded =>
    self.resultPayload.isNone || self.verificationResults.isEmpty || !self.errorCodes.isEmpty
  | .failed | .rejected => self.errorCodes.isEmpty
  | .partiallySucceeded | .compensated => false

/-- `ExecutionReceiptV1::proof_subject_ref`. -/
def proofSubjectRef (self : ExecutionReceiptV1) : Except HumanCenteredProtocolError ReferenceV1 :=
  (ReferenceV1.new ⟨Text.bytes "execution-receipt:" ++
    self.metadata.contractId.asUuid.toString.bytes
    ++ Text.bytes ":" ++ decimalBytes self.metadata.revision⟩).mapError fun _ => .invalidContract

/-- `ExecutionReceiptV1::expected_provider_proof_binding`. -/
def expectedProviderProofBinding (self : ExecutionReceiptV1) :
    Except HumanCenteredProtocolError ExpectedProofBindingV1 := do
  let context := self.metadata.authorityContext
  let subjectRef ← self.proofSubjectRef
  let value : ExpectedProofBindingV1 := {
    proofKind := .providerExecutionReceipt
    issuerRef := self.providerRef
    subjectRef
    subjectDigest := self.recordDigest
    tenantRef := context.tenantRef
    scopeRef := context.scopeRef
    purposeRef := context.purposeRef
    policyRevisionRef := self.metadata.policyRevisionRef }
  value.validate
  .ok value

variable [Crypto] [FloatText]

def validate (self : ExecutionReceiptV1) : Validated := do
  checkKind self.metadata .executionReceipt
  self.actionRef.validate
  validateRequiredText self.idempotencyKey
  validateTextCollection self.appliedEffects
  validateTextCollection self.verificationResults
  validateTextCollection self.errorCodes
  match self.resultPayload with
  | some payload => validateJsonPayload payload
  | none => .ok ()
  rejectIf (self.actionRef.kind ≠ .action
      ∨ self.actionRef ∉ self.metadata.dependencyRefs
      ∨ self.permitId.isEmpty = true
      ∨ self.authorizationId.isNil = true
      ∨ self.executionId.isNil = true
      ∨ self.providerRef.asStr.isBlank = true
      ∨ self.ownerRef.asStr.isBlank = true
      ∨ byteLen self.dispatchNonce ≠ 64
      ∨ validDigest self.dispatchNonce = false
      ∨ self.attempt = 0
      ∨ self.startedAt = 0
      ∨ self.completedAt < self.startedAt
      ∨ validDigest self.requestParameterDigest = false)
    .invalidContract
  rejectIf (self.resultPayload.map (contractDigest "execution-result-v1") ≠
    self.resultPayloadDigest)
    .digestMismatch
  rejectIf (self.stateMismatch = true) .invalidContract
  checkDigest "execution-receipt-v1" self.digestInput self.recordDigest

def recordRef (self : ExecutionReceiptV1) :
    Except HumanCenteredProtocolError HumanCenteredContractRefV1 :=
  contractRef self.validate .executionReceipt self.metadata self.recordDigest

end ExecutionReceiptV1

instance : Serialize ExecutionReceiptV1 where
  toValue self := .object [
    ("metadata", toValue self.metadata),
    ("action_ref", toValue self.actionRef),
    ("permit_id", toValue self.permitId),
    ("authorization_id", toValue self.authorizationId),
    ("execution_id", toValue self.executionId),
    ("provider_ref", toValue self.providerRef),
    ("owner_ref", toValue self.ownerRef),
    ("dispatch_nonce", toValue self.dispatchNonce),
    ("external_execution_ref", toValue self.externalExecutionRef),
    ("idempotency_key", toValue self.idempotencyKey),
    ("request_parameter_digest", toValue self.requestParameterDigest),
    ("attempt", toValue self.attempt),
    ("started_at", toValue self.startedAt),
    ("completed_at", toValue self.completedAt),
    ("state", toValue self.state),
    ("result_payload", toValue self.resultPayload),
    ("result_payload_digest", toValue self.resultPayloadDigest),
    ("applied_effects", toValue self.appliedEffects),
    ("verification_results", toValue self.verificationResults),
    ("error_codes", toValue self.errorCodes),
    ("record_digest", toValue self.recordDigest)]

/-! ### Outcomes -/

/-- `OutcomeStateV1`. -/
inductive OutcomeStateV1
  | observed
  | partiallyObserved
  | unknown
  | conflicted
  deriving DecidableEq

instance : Serialize OutcomeStateV1 where
  toValue
    | .observed => .string "observed"
    | .partiallyObserved => .string "partially_observed"
    | .unknown => .string "unknown"
    | .conflicted => .string "conflicted"

/-- `OutcomeAttributionV1`. -/
inductive OutcomeAttributionV1
  | intentResolution
  | decisionQuality
  | executionQuality
  | environmentChange
  | mixed
  | insufficientEvidence
  deriving DecidableEq

instance : Serialize OutcomeAttributionV1 where
  toValue
    | .intentResolution => .string "intent_resolution"
    | .decisionQuality => .string "decision_quality"
    | .executionQuality => .string "execution_quality"
    | .environmentChange => .string "environment_change"
    | .mixed => .string "mixed"
    | .insufficientEvidence => .string "insufficient_evidence"

/-- `OutcomeRecordV1`. -/
structure OutcomeRecordV1 where
  metadata : HumanCenteredContractMetadataV1
  decisionRef : Option HumanCenteredContractRefV1
  actionRef : Option HumanCenteredContractRefV1
  executionReceiptRef : Option HumanCenteredContractRefV1
  objective : Text
  state : OutcomeStateV1
  observedResults : List Text
  successCriteriaSatisfied : List Text
  successCriteriaUnsatisfied : List Text
  attribution : OutcomeAttributionV1
  attributionConfidence : UnitIntervalBasisPointsV1
  evidenceRefs : List ReferenceV1
  followUpRequired : Bool
  recordDigest : Text
  deriving DecidableEq

namespace OutcomeRecordV1

def digestInput (self : OutcomeRecordV1) : Value := .array [
  toValue self.metadata,
  toValue self.decisionRef,
  toValue self.actionRef,
  toValue self.executionReceiptRef,
  toValue self.objective,
  toValue self.state,
  toValue self.observedResults,
  toValue self.successCriteriaSatisfied,
  toValue self.successCriteriaUnsatisfied,
  toValue self.attribution,
  toValue self.attributionConfidence,
  toValue self.evidenceRefs,
  toValue self.followUpRequired]

/-- A reference of the outcome, where there is one, is a dependency of the kind. -/
def validateReference (self : OutcomeRecordV1) (kind : HumanCenteredContractKindV1) :
    Option HumanCenteredContractRefV1 → Validated
  | none => .ok ()
  | some reference => do
    reference.validate
    rejectIf (reference.kind ≠ kind ∨ reference ∉ self.metadata.dependencyRefs) .invalidContract

/-- The state agrees with the observations. -/
def stateMismatch (self : OutcomeRecordV1) : Bool :=
  match self.state with
  | .observed => self.observedResults.isEmpty || self.evidenceRefs.isEmpty
  | .unknown => !self.observedResults.isEmpty || !self.successCriteriaSatisfied.isEmpty
      || !self.successCriteriaUnsatisfied.isEmpty
  | .conflicted =>
    self.successCriteriaSatisfied.isEmpty || self.successCriteriaUnsatisfied.isEmpty
  | .partiallyObserved => false

variable [Crypto] [FloatText]

def validate (self : OutcomeRecordV1) : Validated := do
  checkKind self.metadata .outcome
  validateRequiredText self.objective
  validateTextCollection self.observedResults
  validateTextCollection self.successCriteriaSatisfied
  validateTextCollection self.successCriteriaUnsatisfied
  rejectIf (self.decisionRef = none ∧ self.actionRef = none) .invalidContract
  self.validateReference .decision self.decisionRef
  self.validateReference .action self.actionRef
  self.validateReference .executionReceipt self.executionReceiptRef
  rejectIf (self.executionReceiptRef ≠ none ∧ self.actionRef = none) .invalidContract
  rejectIf (self.state = .unknown ∧ self.attribution ≠ .insufficientEvidence) .invalidContract
  rejectIf (self.stateMismatch = true) .invalidContract
  rejectIf ((self.attribution = .executionQuality ∧ self.executionReceiptRef = none)
      ∨ (self.attribution = .decisionQuality ∧ self.decisionRef = none))
    .invalidContract
  checkDigest "outcome-record-v1" self.digestInput self.recordDigest

def recordRef (self : OutcomeRecordV1) :
    Except HumanCenteredProtocolError HumanCenteredContractRefV1 :=
  contractRef self.validate .outcome self.metadata self.recordDigest

end OutcomeRecordV1

instance : Serialize OutcomeRecordV1 where
  toValue self := .object [
    ("metadata", toValue self.metadata),
    ("decision_ref", toValue self.decisionRef),
    ("action_ref", toValue self.actionRef),
    ("execution_receipt_ref", toValue self.executionReceiptRef),
    ("objective", toValue self.objective),
    ("state", toValue self.state),
    ("observed_results", toValue self.observedResults),
    ("success_criteria_satisfied", toValue self.successCriteriaSatisfied),
    ("success_criteria_unsatisfied", toValue self.successCriteriaUnsatisfied),
    ("attribution", toValue self.attribution),
    ("attribution_confidence", toValue self.attributionConfidence),
    ("evidence_refs", toValue self.evidenceRefs),
    ("follow_up_required", toValue self.followUpRequired),
    ("record_digest", toValue self.recordDigest)]

end Idr
