/-
Idr/Protocol/Production.lean

The production wire boundary: candidates, proof envelopes and trust roots.

Everything here is an untrusted submission, a signed proof envelope, or
the trust root that verifies one.  `CandidateSubmissionV1.validate` and
`ProductionProofClaimsV1.validate` are the shape checks; `verifyAt` is the
only way to obtain a `VerifiedProductionProofV1`, and it carries over
exactly the claims the runtime later reads.

Not modelled: the release gates (no function of the trust chain reads
them) and the constructors that draw a fresh identifier (the model
receives identifiers as inputs).
-/
import Idr.Protocol.Json
import Idr.Lib.SortedSet

namespace Idr

/-! ### Enumerations -/

/-- `TrustDomainV1`. -/
inductive TrustDomainV1
  | shadow
  | production
  deriving DecidableEq, Ord

def TrustDomainV1.wireName : TrustDomainV1 → Text
  | shadow => "shadow"
  | production => "production"

/-- `ProductionProofKindV1`, in the order the source derives. -/
inductive ProductionProofKindV1
  | callerAuthentication
  | inputAdmission
  | contextSnapshot
  | intentFastPathAdmission
  | decisionNecessityAdmission
  | turnCoordinationAdmission
  | responsePolicy
  | responseAdmission
  | authority
  | capability
  | policy
  | exactAuthorization
  | actionAdmission
  | executionPermit
  | providerReceipt
  | outcomeObservation
  | humanModelPromotion
  | humanModelUserConfirmation
  | humanModelCorrection
  deriving DecidableEq, Ord

def ProductionProofKindV1.wireName : ProductionProofKindV1 → Text
  | callerAuthentication => "caller_authentication"
  | inputAdmission => "input_admission"
  | contextSnapshot => "context_snapshot"
  | intentFastPathAdmission => "intent_fast_path_admission"
  | decisionNecessityAdmission => "decision_necessity_admission"
  | turnCoordinationAdmission => "turn_coordination_admission"
  | responsePolicy => "response_policy"
  | responseAdmission => "response_admission"
  | authority => "authority"
  | capability => "capability"
  | policy => "policy"
  | exactAuthorization => "exact_authorization"
  | actionAdmission => "action_admission"
  | executionPermit => "execution_permit"
  | providerReceipt => "provider_receipt"
  | outcomeObservation => "outcome_observation"
  | humanModelPromotion => "human_model_promotion"
  | humanModelUserConfirmation => "human_model_user_confirmation"
  | humanModelCorrection => "human_model_correction"

/-- `CandidateKindV1`, in the order the source derives. -/
inductive CandidateKindV1
  | canonicalInput
  | contextSnapshot
  | intent
  | decision
  | turnCoordination
  | response
  | action
  | actionAdmissionDecision
  | executionReceipt
  | outcome
  | humanModelCandidate
  | humanModelPromotionDecision
  | humanModelAssertion
  deriving DecidableEq, Ord

def CandidateKindV1.wireName : CandidateKindV1 → Text
  | canonicalInput => "canonical_input"
  | contextSnapshot => "context_snapshot"
  | intent => "intent"
  | decision => "decision"
  | turnCoordination => "turn_coordination"
  | response => "response"
  | action => "action"
  | actionAdmissionDecision => "action_admission_decision"
  | executionReceipt => "execution_receipt"
  | outcome => "outcome"
  | humanModelCandidate => "human_model_candidate"
  | humanModelPromotionDecision => "human_model_promotion_decision"
  | humanModelAssertion => "human_model_assertion"

instance : Serialize TrustDomainV1 := ⟨fun d => .string d.wireName⟩
instance : Serialize ProductionProofKindV1 := ⟨fun k => .string k.wireName⟩
instance : Serialize CandidateKindV1 := ⟨fun k => .string k.wireName⟩

/-! ### Wire compatibility -/

/-- `IDR_WIRE_SCHEMA_VERSION_V1`. -/
def idrWireSchemaVersionV1 : Nat := 1

/-- `IDR_MINIMUM_READER_VERSION_V1`. -/
def idrMinimumReaderVersionV1 : Nat := 1

/-- `IDR_PROOF_ALGORITHM_ED25519_V1`. -/
def idrProofAlgorithmEd25519V1 : Text := "ed25519"

/-- `IDR_MAX_AUTHORITY_EPOCH_SECONDS_V1`: the end of the year 9999. -/
def idrMaxAuthorityEpochSecondsV1 : Nat := 253402300799

/-- `WireCompatibilityV1`. -/
structure WireCompatibilityV1 where
  schemaVersion : Nat
  minimumReaderVersion : Nat
  criticalFeatureFlags : List Text
  deriving DecidableEq

/-- `WireCompatibilityV1::v1`. -/
def WireCompatibilityV1.v1 : WireCompatibilityV1 where
  schemaVersion := idrWireSchemaVersionV1
  minimumReaderVersion := idrMinimumReaderVersionV1
  criticalFeatureFlags := []

/-- A critical feature flag that is empty, over 128 bytes, or has a control character. -/
def malformedFlag (flag : Text) : Bool :=
  byteLen flag = 0 || byteLen flag > 128 || (scalarValues flag).any isControl

/-- `WireCompatibilityV1::validate`. -/
def WireCompatibilityV1.validate (self : WireCompatibilityV1) :
    Except ProductionProtocolErrorV1 Unit := do
  rejectIf (self.schemaVersion ≠ idrWireSchemaVersionV1
      ∨ self.minimumReaderVersion > idrWireSchemaVersionV1
      ∨ self.criticalFeatureFlags.any malformedFlag = true)
    .unsupportedWireVersion
  rejectIf (self.criticalFeatureFlags ≠ []) .unsupportedCriticalFeature

instance : Serialize WireCompatibilityV1 where
  toValue self := .object [
    ("schema_version", toValue self.schemaVersion),
    ("minimum_reader_version", toValue self.minimumReaderVersion),
    ("critical_feature_flags", toValue self.criticalFeatureFlags)]

/-! ### Candidates -/

/-- `valid_wire_uuid`. -/
def validWireUuid (value : Uuid) : Bool :=
  !value.isNil && value.isRfc4122 && 1 ≤ value.versionNum && value.versionNum ≤ 8

/-- `CandidateSubmissionV1`: public, untrusted input. -/
structure CandidateSubmissionV1 where
  compatibility : WireCompatibilityV1
  candidateId : Uuid
  candidateKind : CandidateKindV1
  runId : Uuid
  turnId : Uuid
  subjectRef : ReferenceV1
  tenantRef : ReferenceV1
  scopeRef : ReferenceV1
  purposeRef : ReferenceV1
  policyRevisionRef : ReferenceV1
  validFrom : Nat
  validUntil : Nat
  payload : Value
  deriving DecidableEq

/-- `CandidateSubmissionV1::validate`. -/
def CandidateSubmissionV1.validate (self : CandidateSubmissionV1) :
    Except ProductionProtocolErrorV1 Unit := do
  self.compatibility.validate
  rejectIf (self.candidateId.isNil = true
      ∨ validWireUuid self.runId = false
      ∨ validWireUuid self.turnId = false
      ∨ self.validFrom = 0
      ∨ self.validUntil ≤ self.validFrom
      ∨ self.validUntil > idrMaxAuthorityEpochSecondsV1)
    .invalidCandidate
  let bytes ← canonicalJsonBytesV1 self.payload
  rejectIf (bytes.length > 1048576) .invalidCandidate
  validateJsonLimits self.payload

instance : Serialize CandidateSubmissionV1 where
  toValue self := .object [
    ("compatibility", toValue self.compatibility),
    ("candidate_id", toValue self.candidateId),
    ("candidate_kind", toValue self.candidateKind),
    ("run_id", toValue self.runId),
    ("turn_id", toValue self.turnId),
    ("subject_ref", toValue self.subjectRef),
    ("tenant_ref", toValue self.tenantRef),
    ("scope_ref", toValue self.scopeRef),
    ("purpose_ref", toValue self.purposeRef),
    ("policy_revision_ref", toValue self.policyRevisionRef),
    ("valid_from", toValue self.validFrom),
    ("valid_until", toValue self.validUntil),
    ("payload", self.payload)]

/-- `CandidateSubmissionV1::canonical_digest`. -/
def CandidateSubmissionV1.canonicalDigest [Crypto] (self : CandidateSubmissionV1) :
    Except ProductionProtocolErrorV1 Text :=
  canonicalDigestV1 "idr-candidate-v1" self

/-! ### Proof claims and envelopes -/

/-- `ProductionProofClaimsV1`. -/
structure ProductionProofClaimsV1 where
  compatibility : WireCompatibilityV1
  proofId : Uuid
  trustDomain : TrustDomainV1
  environmentRef : ReferenceV1
  proofKind : ProductionProofKindV1
  issuerRef : ReferenceV1
  subjectRef : ReferenceV1
  subjectDigest : Text
  audienceRef : ReferenceV1
  tenantRef : ReferenceV1
  scopeRef : ReferenceV1
  purposeRef : ReferenceV1
  policyRevisionRef : ReferenceV1
  issuedAt : Nat
  notBefore : Nat
  expiresAt : Nat
  nonce : Text
  principalDigest : Text
  assertion : Value
  deriving DecidableEq

/-- `ProductionProofClaimsV1::validate`. -/
def ProductionProofClaimsV1.validate (self : ProductionProofClaimsV1) :
    Except ProductionProtocolErrorV1 Unit := do
  self.compatibility.validate
  rejectIf (self.proofId.isNil = true
      ∨ validDigest self.subjectDigest = false
      ∨ self.issuedAt = 0
      ∨ self.notBefore < self.issuedAt
      ∨ self.expiresAt ≤ self.notBefore
      ∨ self.expiresAt > idrMaxAuthorityEpochSecondsV1
      ∨ validDigest self.nonce = false
      ∨ validDigest self.principalDigest = false)
    .invalidProof
  validateJsonLimits self.assertion

instance : Serialize ProductionProofClaimsV1 where
  toValue self := .object [
    ("compatibility", toValue self.compatibility),
    ("proof_id", toValue self.proofId),
    ("trust_domain", toValue self.trustDomain),
    ("environment_ref", toValue self.environmentRef),
    ("proof_kind", toValue self.proofKind),
    ("issuer_ref", toValue self.issuerRef),
    ("subject_ref", toValue self.subjectRef),
    ("subject_digest", toValue self.subjectDigest),
    ("audience_ref", toValue self.audienceRef),
    ("tenant_ref", toValue self.tenantRef),
    ("scope_ref", toValue self.scopeRef),
    ("purpose_ref", toValue self.purposeRef),
    ("policy_revision_ref", toValue self.policyRevisionRef),
    ("issued_at", toValue self.issuedAt),
    ("not_before", toValue self.notBefore),
    ("expires_at", toValue self.expiresAt),
    ("nonce", toValue self.nonce),
    ("principal_digest", toValue self.principalDigest),
    ("assertion", self.assertion)]

/-- `ProductionProofClaimsV1::canonical_signing_bytes`. -/
def ProductionProofClaimsV1.canonicalSigningBytes (self : ProductionProofClaimsV1) :
    Except ProductionProtocolErrorV1 (List UInt8) :=
  canonicalJsonBytesV1 (("idr-production-proof-v1" : Text), self)

/-- `ProductionProofEnvelopeV1`. -/
structure ProductionProofEnvelopeV1 where
  claims : ProductionProofClaimsV1
  keyId : ReferenceV1
  algorithm : Text
  signature : Text
  deriving DecidableEq

/-- `ProductionProofEnvelopeV1::validate_shape`. -/
def ProductionProofEnvelopeV1.validateShape (self : ProductionProofEnvelopeV1) :
    Except ProductionProtocolErrorV1 Unit := do
  self.claims.validate
  rejectIf (self.algorithm ≠ idrProofAlgorithmEd25519V1
      ∨ (decodeHex 64 self.signature).isNone = true)
    .invalidProof

instance : Serialize ProductionProofEnvelopeV1 where
  toValue self := .object [
    ("claims", toValue self.claims),
    ("key_id", toValue self.keyId),
    ("algorithm", toValue self.algorithm),
    ("signature", toValue self.signature)]

/-- `ExpectedProductionProofV1`. -/
structure ExpectedProductionProofV1 where
  trustDomain : TrustDomainV1
  environmentRef : ReferenceV1
  proofKind : ProductionProofKindV1
  issuerRef : ReferenceV1
  subjectRef : ReferenceV1
  subjectDigest : Text
  audienceRef : ReferenceV1
  tenantRef : ReferenceV1
  scopeRef : ReferenceV1
  purposeRef : ReferenceV1
  policyRevisionRef : ReferenceV1
  deriving DecidableEq

/-! ### Trust roots -/

/-- `ProductionIssuerKeyV1`; the public key is its 32 bytes. -/
structure ProductionIssuerKeyV1 where
  trustDomain : TrustDomainV1
  environmentRef : ReferenceV1
  issuerRef : ReferenceV1
  keyId : ReferenceV1
  publicKey : List UInt8
  audienceRef : ReferenceV1
  tenantRef : ReferenceV1
  allowedProofKinds : List ProductionProofKindV1
  validFrom : Nat
  validUntil : Nat
  revokedAt : Option Nat
  deriving DecidableEq

/-- `TrustRootSnapshotV1`; the keys are the fields of a map by key id. -/
structure TrustRootSnapshotV1 where
  trustDomain : TrustDomainV1
  environmentRef : ReferenceV1
  rootVersion : Nat
  rootDigest : Text
  loadedAt : Nat
  keys : List (Text × ProductionIssuerKeyV1)
  deriving DecidableEq

/-- `VerifiedProductionProofV1`: what remains of a proof envelope once it has been verified. -/
structure VerifiedProductionProofV1 where
  proofId : Uuid
  nonce : Text
  trustDomain : TrustDomainV1
  environmentRef : ReferenceV1
  proofKind : ProductionProofKindV1
  expiresAt : Nat
  trustRootVersion : Nat
  trustRootDigest : Text
  verifiedAt : Nat
  deriving DecidableEq

variable [Crypto]

/-- `TrustRootSnapshotV1::verify_at`. -/
def TrustRootSnapshotV1.verifyAt (self : TrustRootSnapshotV1)
    (envelope : ProductionProofEnvelopeV1) (expected : ExpectedProductionProofV1)
    (trustedNow : Nat) : Except ProductionProtocolErrorV1 VerifiedProductionProofV1 := do
  envelope.validateShape
  let claims := envelope.claims
  let key ← okOr (self.keys.lookup envelope.keyId.asStr) .proofVerificationFailed
  rejectIf (self.trustDomain ≠ expected.trustDomain
      ∨ self.environmentRef ≠ expected.environmentRef
      ∨ claims.trustDomain ≠ expected.trustDomain
      ∨ claims.environmentRef ≠ expected.environmentRef
      ∨ key.trustDomain ≠ expected.trustDomain
      ∨ key.environmentRef ≠ expected.environmentRef
      ∨ claims.proofKind ≠ expected.proofKind
      ∨ claims.issuerRef ≠ expected.issuerRef
      ∨ claims.subjectRef ≠ expected.subjectRef
      ∨ claims.subjectDigest ≠ expected.subjectDigest
      ∨ claims.audienceRef ≠ expected.audienceRef
      ∨ claims.audienceRef ≠ key.audienceRef
      ∨ claims.tenantRef ≠ expected.tenantRef
      ∨ claims.scopeRef ≠ expected.scopeRef
      ∨ claims.purposeRef ≠ expected.purposeRef
      ∨ claims.policyRevisionRef ≠ expected.policyRevisionRef
      ∨ claims.issuerRef ≠ key.issuerRef
      ∨ claims.tenantRef ≠ key.tenantRef
      ∨ envelope.keyId ≠ key.keyId
      ∨ claims.proofKind ∉ key.allowedProofKinds
      ∨ trustedNow < claims.notBefore
      ∨ trustedNow ≥ claims.expiresAt
      ∨ claims.issuedAt < key.validFrom
      ∨ trustedNow ≥ key.validUntil
      ∨ key.revokedAt.any (fun revoked => trustedNow ≥ revoked) = true)
    .proofVerificationFailed
  let signature ← okOr (decodeHex 64 envelope.signature) .proofVerificationFailed
  let message ← claims.canonicalSigningBytes
  rejectIf (Crypto.verify key.publicKey message signature = false) .proofVerificationFailed
  .ok {
    proofId := claims.proofId
    nonce := claims.nonce
    trustDomain := claims.trustDomain
    environmentRef := claims.environmentRef
    proofKind := claims.proofKind
    expiresAt := claims.expiresAt
    trustRootVersion := self.rootVersion
    trustRootDigest := self.rootDigest
    verifiedAt := trustedNow }

/-- A verified proof says what its envelope claims, under the root that verified it. -/
theorem TrustRootSnapshotV1.verifyAt_eq_ok {root : TrustRootSnapshotV1}
    {envelope : ProductionProofEnvelopeV1} {expected : ExpectedProductionProofV1} {now : Nat}
    {proof : VerifiedProductionProofV1} (h : root.verifyAt envelope expected now = .ok proof) :
    proof.proofId = envelope.claims.proofId ∧ proof.nonce = envelope.claims.nonce ∧
      proof.trustDomain = envelope.claims.trustDomain ∧
      proof.proofKind = envelope.claims.proofKind ∧
      proof.expiresAt = envelope.claims.expiresAt ∧ now < proof.expiresAt ∧
      envelope.claims.tenantRef = expected.tenantRef := by
  simp only [TrustRootSnapshotV1.verifyAt, bind_eq_ok, rejectIf_eq_ok, okOr_eq_ok,
    exists_unit_eq_ok, exists_const, not_or, Except.ok.injEq] at h
  obtain ⟨-, key, -, hclaims, signature, -, message, -, -, rfl⟩ := h
  refine ⟨rfl, rfl, rfl, rfl, rfl, ?_, ?_⟩
  · exact Nat.lt_of_not_ge (by tauto)
  · exact not_not.mp (by tauto)

/-- A verified envelope names the domain and the environment that were expected. -/
theorem TrustRootSnapshotV1.verifyAt_expected {root : TrustRootSnapshotV1}
    {envelope : ProductionProofEnvelopeV1} {expected : ExpectedProductionProofV1} {now : Nat}
    {proof : VerifiedProductionProofV1} (h : root.verifyAt envelope expected now = .ok proof) :
    envelope.claims.trustDomain = expected.trustDomain ∧
      envelope.claims.environmentRef = expected.environmentRef := by
  simp only [TrustRootSnapshotV1.verifyAt, bind_eq_ok, rejectIf_eq_ok, okOr_eq_ok,
    exists_unit_eq_ok, exists_const, not_or] at h
  obtain ⟨-, key, -, hclaims, -⟩ := h
  exact ⟨not_not.mp (by tauto), not_not.mp (by tauto)⟩

end Idr
