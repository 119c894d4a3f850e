/-
Idr/HumanCentered/Action.lean

Action contracts, their authorization, and the request for a permit.

The authorization is for one exact action: its reference, the digest of its
parameters and the digest of the authority it was issued under.  A request
for a permit is for one attempt of one authorized action.
-/
import Idr.HumanCentered.Intent
import Idr.HumanCentered.Proof

namespace Idr

/-! ### Actions -/

/-- `ActionAuthorizationStateV1`. -/
inductive ActionAuthorizationStateV1
  | notRequired
  | pending
  | authorized
  | denied
  | expired
  | revoked
  deriving DecidableEq

instance : Serialize ActionAuthorizationStateV1 where
  toValue
    | .notRequired => .string "not_required"
    | .pending => .string "pending"
    | .authorized => .string "authorized"
    | .denied => .string "denied"
    | .expired => .string "expired"
    | .revoked => .string "revoked"

/-- `ActionContractV1`. -/
structure ActionContractV1 where
  metadata : HumanCenteredContractMetadataV1
  decisionRef : Option HumanCenteredContractRefV1
  operationRef : ReferenceV1
  parameters : Value
  parameterDigest : Text
  preconditions : List Text
  requiredAuthorityRefs : List ReferenceV1
  authorizationState : ActionAuthorizationStateV1
  impactLevel : ImpactLevelV1
  reversible : Bool
  idempotencyKey : Text
  verificationRequirements : List Text
  compensationOperations : List ReferenceV1
  recordDigest : Text
  deriving DecidableEq

namespace ActionContractV1

def digestInput (self : ActionContractV1) : Value := .array [
  .array [
    toValue self.metadata,
    toValue self.decisionRef,
    toValue self.operationRef,
    self.parameters,
    toValue self.parameterDigest,
    toValue self.preconditions],
  .array [
    toValue self.requiredAuthorityRefs,
    toValue self.authorizationState,
    toValue self.impactLevel,
    toValue self.reversible,
    toValue self.idempotencyKey,
    toValue self.verificationRequirements,
    toValue self.compensationOperations]]

/-- The decision, where there is one, is a dependency. -/
def validateDecision (self : ActionContractV1) : Validated :=
  match self.decisionRef with
  | none => .ok ()
  | some decisionRef => do
    decisionRef.validate
    rejectIf (decisionRef.kind ≠ .decision ∨ decisionRef ∉ self.metadata.dependencyRefs)
      .invalidContract

variable [Crypto] [FloatText]

def validate (self : ActionContractV1) : Validated := do
  checkKind self.metadata .action
  validateTextCollection self.preconditions
  validateTextCollection self.verificationRequirements
  validateRequiredText self.idempotencyKey
  validateJsonPayload self.parameters
  rejectIf (self.parameters.asObject = none
      ∨ self.operationRef.asStr.isBlank = true
      ∨ self.verificationRequirements = []
      ∨ contractDigest "action-parameters-v1" self.parameters ≠ self.parameterDigest)
    .invalidContract
  self.validateDecision
  let highImpact := self.impactLevel.rank ≥ ImpactLevelV1.high.rank
  rejectIf ((highImpact ∧ self.authorizationState = .notRequired)
      ∨ ((highImpact ∨ self.reversible = false) ∧ self.decisionRef = none))
    .invalidContract
  rejectIf (self.reversible = true ∧ self.compensationOperations = []) .invalidContract
  checkDigest "action-contract-v1" self.digestInput self.recordDigest

def recordRef (self : ActionContractV1) :
    Except HumanCenteredProtocolError HumanCenteredContractRefV1 :=
  contractRef self.validate .action self.metadata self.recordDigest

end ActionContractV1

instance : Serialize ActionContractV1 where
  toValue self := .object [
    ("metadata", toValue self.metadata),
    ("decision_ref", toValue self.decisionRef),
    ("operation_ref", toValue self.operationRef),
    ("parameters", self.parameters),
    ("parameter_digest", toValue self.parameterDigest),
    ("preconditions", toValue self.preconditions),
    ("required_authority_refs", toValue self.requiredAuthorityRefs),
    ("authorization_state", toValue self.authorizationState),
    ("impact_level", toValue self.impactLevel),
    ("reversible", toValue self.reversible),
    ("idempotency_key", toValue self.idempotencyKey),
    ("verification_requirements", toValue self.verificationRequirements),
    ("compensation_operations", toValue self.compensationOperations),
    ("record_digest", toValue self.recordDigest)]

/-! ### Authorizations -/

/-- `AuthorizationDecisionV1`. -/
inductive AuthorizationDecisionV1
  | approve
  | deny
  deriving DecidableEq

instance : Serialize AuthorizationDecisionV1 where
  toValue
    | .approve => .string "approve"
    | .deny => .string "deny"

/-- `ExactActionAuthorizationV1`. -/
structure ExactActionAuthorizationV1 where
  authorizationId : Uuid
  actionRef : HumanCenteredContractRefV1
  parameterDigest : Text
  actorRef : ReferenceV1
  decision : AuthorizationDecisionV1
  scopeRef : ReferenceV1
  authorityContextDigest : Text
  issuedAt : Nat
  expiresAt : Nat
  schemaVersion : Nat
  deriving DecidableEq

instance : Serialize ExactActionAuthorizationV1 where
  toValue self := .object [
    ("authorization_id", toValue self.authorizationId),
    ("action_ref", toValue self.actionRef),
    ("parameter_digest", toValue self.parameterDigest),
    ("actor_ref", toValue self.actorRef),
    ("decision", toValue self.decision),
    ("scope_ref", toValue self.scopeRef),
    ("authority_context_digest", toValue self.authorityContextDigest),
    ("issued_at", toValue self.issuedAt),
    ("expires_at", toValue self.expiresAt),
    ("schema_version", toValue self.schemaVersion)]

namespace ExactActionAuthorizationV1

variable [Crypto] [FloatText]

/-- `ExactActionAuthorizationV1::validate_for`. -/
def validateFor (self : ExactActionAuthorizationV1) (action : ActionContractV1) (validAt : Nat) :
    Validated := do
  action.validate
  self.actionRef.validate
  let actionRef ← action.recordRef
  rejectIf (self.authorizationId.isNil = true
      ∨ self.actionRef ≠ actionRef
      ∨ self.parameterDigest ≠ action.parameterDigest
      ∨ self.actorRef ≠ action.metadata.authorityContext.actorRef
      ∨ self.scopeRef ≠ action.metadata.authorityContext.scopeRef
      ∨ contractDigest "authority-context-v1" action.metadata.authorityContext
          ≠ self.authorityContextDigest
      ∨ self.issuedAt = 0
      ∨ self.expiresAt ≤ self.issuedAt
      ∨ validAt < self.issuedAt
      ∨ validAt ≥ self.expiresAt
      ∨ self.schemaVersion ≠ humanCenteredSchemaVersion)
    .invalidContract

def authorizationDigest (self : ExactActionAuthorizationV1) : Text :=
  contractDigest "exact-action-authorization-v1" self

end ExactActionAuthorizationV1

/-! ### Requests for a permit -/

/-- `ExecutionPermitRequestV1`. -/
structure ExecutionPermitRequestV1 where
  requestRef : ReferenceV1
  actionRef : HumanCenteredContractRefV1
  authorizationId : Uuid
  authorizationDigest : Text
  providerRef : ReferenceV1
  ownerRef : ReferenceV1
  attempt : Nat
  leaseIssuedAt : Nat
  leaseUntil : Nat
  dispatchNonce : Text
  idempotencyKey : Text
  tenantRef : ReferenceV1
  scopeRef : ReferenceV1
  purposeRef : ReferenceV1
  policyRevisionRef : ReferenceV1
  requestDigest : Text
  deriving DecidableEq

namespace ExecutionPermitRequestV1

def digestInput (self : ExecutionPermitRequestV1) : Value := .array [
  .array [
    toValue self.requestRef,
    toValue self.actionRef,
    toValue self.authorizationId,
    toValue self.authorizationDigest,
    toValue self.providerRef,
    toValue self.ownerRef,
    toValue self.attempt],
  .array [
    toValue self.leaseIssuedAt,
    toValue self.leaseUntil,
    toValue self.dispatchNonce,
    toValue self.idempotencyKey,
    toValue self.tenantRef,
    toValue self.scopeRef,
    toValue self.purposeRef,
    toValue self.policyRevisionRef]]

variable [Crypto] [FloatText]

/-- `ExecutionPermitRequestV1::validate_for`. -/
def validateFor (self : ExecutionPermitRequestV1) (action : ActionContractV1)
    (authorization : ExactActionAuthorizationV1) : Validated := do
  action.validate
  authorization.validateFor action self.leaseIssuedAt
  let context := action.metadata.authorityContext
  let actionRef ← action.recordRef
  rejectIf (self.requestRef.asStr.isBlank = true
      ∨ self.actionRef ≠ actionRef
      ∨ self.authorizationId ≠ authorization.authorizationId
      ∨ self.authorizationDigest ≠ authorization.authorizationDigest
      ∨ authorization.decision ≠ .approve
      ∨ self.providerRef.asStr.isBlank = true
      ∨ self.ownerRef.asStr.isBlank = true
      ∨ self.attempt = 0
      ∨ self.leaseUntil ≤ self.leaseIssuedAt
      ∨ self.leaseUntil > authorization.expiresAt
      ∨ self.leaseUntil > action.metadata.validUntil
      ∨ byteLen self.dispatchNonce ≠ 64
      ∨ validDigest self.dispatchNonce = false
      ∨ self.idempotencyKey ≠ action.idempotencyKey
      ∨ self.tenantRef ≠ context.tenantRef
      ∨ self.scopeRef ≠ context.scopeRef
      ∨ self.purposeRef ≠ context.purposeRef
      ∨ self.policyRevisionRef ≠ action.metadata.policyRevisionRef
      ∨ contractDigest "execution-permit-request-v1" self.digestInput ≠ self.requestDigest)
    .proofVerificationFailed

end ExecutionPermitRequestV1

instance : Serialize ExecutionPermitRequestV1 where
  toValue self := .object [
    ("request_ref", toValue self.requestRef),
    ("action_ref", toValue self.actionRef),
    ("authorization_id", toValue self.authorizationId),
    ("authorization_digest", toValue self.authorizationDigest),
    ("provider_ref", toValue self.providerRef),
    ("owner_ref", toValue self.ownerRef),
    ("attempt", toValue self.attempt),
    ("lease_issued_at", toValue self.leaseIssuedAt),
    ("lease_until", toValue self.leaseUntil),
    ("dispatch_nonce", toValue self.dispatchNonce),
    ("idempotency_key", toValue self.idempotencyKey),
    ("tenant_ref", toValue self.tenantRef),
    ("scope_ref", toValue self.scopeRef),
    ("purpose_ref", toValue self.purposeRef),
    ("policy_revision_ref", toValue self.policyRevisionRef),
    ("request_digest", toValue self.requestDigest)]

/-- `VerifiedExecutionPermitRequestV1`. -/
structure VerifiedExecutionPermitRequestV1 where
  request : ExecutionPermitRequestV1
  authorization : ExactActionAuthorizationV1
  verifiedProof : VerifiedProofV1
  deriving DecidableEq

/-- `VerifiedExecutionPermitRequestV1::validate_at`. -/
def VerifiedExecutionPermitRequestV1.validateAt [Crypto] [FloatText]
    (self : VerifiedExecutionPermitRequestV1) (action : ActionContractV1) (trustedNow : Nat) :
    Validated := do
  self.request.validateFor action self.authorization
  self.authorization.validateFor action trustedNow
  let claims := self.verifiedProof.claims
  rejectIf (trustedNow < self.request.leaseIssuedAt
      ∨ trustedNow ≥ self.request.leaseUntil
      ∨ trustedNow < claims.issuedAt
      ∨ trustedNow ≥ claims.expiresAt
      ∨ trustedNow ≥ action.metadata.validUntil
      ∨ self.verifiedProof.verifiedAt > trustedNow)
    .proofVerificationFailed

end Idr
