/-
Idr/HumanCentered/Proof.lean

The signed proofs of the human-centered contracts.

The store takes verified proofs only, and keeps their envelopes with the
attempts they permit or settle.  What it checks of an envelope again is its
shape (`validateShape`); the signature was checked before, against a trust
root that the store does not see.
-/
import Idr.HumanCentered.Common

namespace Idr

/-- `ProofKindV1`. -/
inductive ProofKindV1
  | inputAdmission
  | contextSnapshot
  | intentFastPathFacts
  | decisionNecessityFacts
  | turnCoordinationFacts
  | authorityGrant
  | policyEvaluation
  | capability
  | humanConfirmation
  | dependencySnapshot
  | outcomeObservation
  | executionPermit
  | providerExecutionReceipt
  deriving DecidableEq

def ProofKindV1.wireName : ProofKindV1 → Text
  | inputAdmission => "input_admission"
  | contextSnapshot => "context_snapshot"
  | intentFastPathFacts => "intent_fast_path_facts"
  | decisionNecessityFacts => "decision_necessity_facts"
  | turnCoordinationFacts => "turn_coordination_facts"
  | authorityGrant => "authority_grant"
  | policyEvaluation => "policy_evaluation"
  | capability => "capability"
  | humanConfirmation => "human_confirmation"
  | dependencySnapshot => "dependency_snapshot"
  | outcomeObservation => "outcome_observation"
  | executionPermit => "execution_permit"
  | providerExecutionReceipt => "provider_execution_receipt"

instance : Serialize ProofKindV1 := ⟨fun self => .string self.wireName⟩

/-- `ProofClaimsV1`. -/
structure ProofClaimsV1 where
  proofId : HumanCenteredProofIdV1
  proofKind : ProofKindV1
  issuerRef : ReferenceV1
  subjectRef : ReferenceV1
  subjectDigest : Text
  tenantRef : ReferenceV1
  scopeRef : ReferenceV1
  purposeRef : ReferenceV1
  policyRevisionRef : ReferenceV1
  issuedAt : Nat
  expiresAt : Nat
  nonce : Text
  schemaVersion : Nat
  deriving DecidableEq

/-- `ProofClaimsV1::validate`. -/
def ProofClaimsV1.validate (self : ProofClaimsV1) : Validated :=
  rejectIf (self.proofId.isEmpty = true
      ∨ [self.issuerRef, self.subjectRef, self.tenantRef, self.scopeRef, self.purposeRef,
          self.policyRevisionRef].any (fun reference => reference.asStr.isBlank) = true
      ∨ validDigest self.subjectDigest = false
      ∨ self.issuedAt = 0
      ∨ self.expiresAt ≤ self.issuedAt
      ∨ self.expiresAt > humanCenteredMaxSafeWireInteger
      ∨ byteLen self.nonce ≠ 64
      ∨ validDigest self.nonce = false
      ∨ self.schemaVersion ≠ humanCenteredSchemaVersion)
    .invalidContract

instance : Serialize ProofClaimsV1 where
  toValue self := .object [
    ("proof_id", toValue self.proofId),
    ("proof_kind", toValue self.proofKind),
    ("issuer_ref", toValue self.issuerRef),
    ("subject_ref", toValue self.subjectRef),
    ("subject_digest", toValue self.subjectDigest),
    ("tenant_ref", toValue self.tenantRef),
    ("scope_ref", toValue self.scopeRef),
    ("purpose_ref", toValue self.purposeRef),
    ("policy_revision_ref", toValue self.policyRevisionRef),
    ("issued_at", toValue self.issuedAt),
    ("expires_at", toValue self.expiresAt),
    ("nonce", toValue self.nonce),
    ("schema_version", toValue self.schemaVersion)]

/-- `SignedProofEnvelopeV1`. -/
structure SignedProofEnvelopeV1 where
  claims : ProofClaimsV1
  keyId : ReferenceV1
  signature : Text
  deriving DecidableEq

/-- `SignedProofEnvelopeV1::validate_shape`. -/
def SignedProofEnvelopeV1.validateShape (self : SignedProofEnvelopeV1) : Validated := do
  self.claims.validate
  rejectIf (self.keyId.asStr.isBlank = true
      ∨ byteLen self.signature ≠ 128
      ∨ (decodeHex 64 self.signature).isNone = true)
    .proofVerificationFailed

instance : Serialize SignedProofEnvelopeV1 where
  toValue self := .object [
    ("claims", toValue self.claims),
    ("key_id", toValue self.keyId),
    ("signature", toValue self.signature)]

/-- `VerifiedProofV1`: an envelope whose signature was verified, and when. -/
structure VerifiedProofV1 where
  signedEnvelope : SignedProofEnvelopeV1
  verifiedAt : Nat
  deriving DecidableEq

namespace VerifiedProofV1

def claims (self : VerifiedProofV1) : ProofClaimsV1 := self.signedEnvelope.claims

def keyId (self : VerifiedProofV1) : ReferenceV1 := self.signedEnvelope.keyId

end VerifiedProofV1

/-- `ExpectedProofBindingV1`. -/
structure ExpectedProofBindingV1 where
  proofKind : ProofKindV1
  issuerRef : ReferenceV1
  subjectRef : ReferenceV1
  subjectDigest : Text
  tenantRef : ReferenceV1
  scopeRef : ReferenceV1
  purposeRef : ReferenceV1
  policyRevisionRef : ReferenceV1
  deriving DecidableEq

/-- `ExpectedProofBindingV1::validate`. -/
def ExpectedProofBindingV1.validate (self : ExpectedProofBindingV1) : Validated :=
  rejectIf (validDigest self.subjectDigest = false
      ∨ [self.issuerRef, self.subjectRef, self.tenantRef, self.scopeRef, self.purposeRef,
          self.policyRevisionRef].any (fun reference => reference.asStr.isBlank) = true)
    .invalidContract

end Idr
