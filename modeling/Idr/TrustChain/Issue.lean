/-
Idr/TrustChain/Issue.lean

Issuing authoritative records, and re-verifying stored ones.

`issueRecord` turns a submitted candidate into a record, `issueInternalRecord`
turns a payload of the runtime's own making into one.  Both bind the whole
record into its digest; `verifyAuthoritativeRecordV1` recomputes that
digest from a stored record.
-/
import Idr.TrustChain.Payload

namespace Idr

/-- The identifiers that `Uuid::new_v4` draws during one transition, in the order of their use:
a new record, an internal candidate, a reservation and a permit. -/
structure FreshIdsV1 where
  recordId : Uuid
  candidateId : Uuid
  reservationId : Uuid
  permitId : Uuid
  deriving DecidableEq

variable [Crypto]

/-! ### Digest material -/

/-- The digest material of a record: every field but the digest itself. -/
def AuthoritativeRecordV1.digestMaterial (self : AuthoritativeRecordV1) :
    AuthoritativeRecordDigestMaterialV1 where
  recordId := self.recordRef.recordId
  revision := self.recordRef.revision
  candidateKind := self.recordRef.candidateKind
  trustDomain := self.trustDomain
  environmentRef := self.environmentRef
  validFrom := self.validFrom
  validUntil := self.validUntil
  runId := self.runId
  turnId := self.turnId
  tenantRef := self.tenantRef
  subjectRef := self.subjectRef
  policyRevisionRef := self.policyRevisionRef
  candidateId := self.candidateId
  candidateDigest := self.candidateDigest
  payload := self.payload
  issuedByCommandId := self.issuedByCommandId
  issuedAt := self.issuedAt
  proofIds := self.proofIds

/-- The record that some digest material and its digest make up.  Both issuers build the record
and the material from the same values. -/
def AuthoritativeRecordDigestMaterialV1.toRecord (material : AuthoritativeRecordDigestMaterialV1)
    (recordDigest : Text) : AuthoritativeRecordV1 where
  recordRef := {
    recordId := material.recordId
    revision := material.revision
    candidateKind := material.candidateKind
    trustDomain := material.trustDomain
    environmentRef := material.environmentRef
    validFrom := material.validFrom
    validUntil := material.validUntil
    recordDigest }
  trustDomain := material.trustDomain
  environmentRef := material.environmentRef
  runId := material.runId
  turnId := material.turnId
  tenantRef := material.tenantRef
  subjectRef := material.subjectRef
  policyRevisionRef := material.policyRevisionRef
  candidateId := material.candidateId
  candidateDigest := material.candidateDigest
  payload := material.payload
  issuedByCommandId := material.issuedByCommandId
  issuedAt := material.issuedAt
  validFrom := material.validFrom
  validUntil := material.validUntil
  proofIds := material.proofIds

/-- The domain string of record digests. -/
def recordDigestDomain : Text := "idr-authoritative-record-v1"

/-! ### Issuing -/

/-- `issue_record`. -/
def issueRecord (candidate : CandidateSubmissionV1) (command : IdrCommandEnvelopeV1)
    (trustedNow : Nat) (proofs : List VerifiedProductionProofV1) (trustDomain : TrustDomainV1)
    (recordId : Uuid) (revision : Nat) : Except IdrRuntimeErrorV1 AuthoritativeRecordV1 := do
  fromProtocol candidate.validate
  rejectIf (trustedNow < candidate.validFrom ∨ trustedNow ≥ candidate.validUntil) .expiredAuthority
  let candidateDigest ← fromProtocol candidate.canonicalDigest
  let material : AuthoritativeRecordDigestMaterialV1 := {
    recordId
    revision
    candidateKind := candidate.candidateKind
    trustDomain
    environmentRef := command.environmentRef
    validFrom := candidate.validFrom
    validUntil := candidate.validUntil
    runId := candidate.runId
    turnId := candidate.turnId
    tenantRef := candidate.tenantRef
    subjectRef := candidate.subjectRef
    policyRevisionRef := candidate.policyRevisionRef
    candidateId := candidate.candidateId
    candidateDigest
    payload := candidate.payload
    issuedByCommandId := command.commandId
    issuedAt := trustedNow
    proofIds := proofs.map VerifiedProductionProofV1.proofId }
  let recordDigest ← fromProtocol (canonicalDigestV1 recordDigestDomain material)
  .ok (material.toRecord recordDigest)

/-- `issue_internal_record`. -/
def issueInternalRecord (fresh : FreshIdsV1) (candidateKind : CandidateKindV1) (payload : Value)
    (command : IdrCommandEnvelopeV1) (projection : IdrRunProjectionV1)
    (trustedNow validUntil : Nat) (proofs : List VerifiedProductionProofV1) (recordId : Uuid)
    (revision : Nat) : Except IdrRuntimeErrorV1 AuthoritativeRecordV1 := do
  rejectIf (validUntil ≤ trustedNow) .expiredAuthority
  let subjectRef ← okOr projection.subjectRef .missingDependency
  let turnId ← okOr projection.turnId .missingDependency
  let candidateId := fresh.candidateId
  let candidateDigest ← fromProtocol (canonicalDigestV1 "idr-internal-candidate-v1"
    (Value.array [toValue candidateId, toValue candidateKind, toValue projection.runId,
      toValue turnId, toValue subjectRef, toValue command.tenantRef, toValue command.scopeRef,
      toValue command.purposeRef, toValue command.policyRevisionRef, payload]))
  let material : AuthoritativeRecordDigestMaterialV1 := {
    recordId
    revision
    candidateKind
    trustDomain := projection.trustDomain
    environmentRef := projection.environmentRef
    validFrom := trustedNow
    validUntil
    runId := projection.runId
    turnId
    tenantRef := command.tenantRef
    subjectRef
    policyRevisionRef := command.policyRevisionRef
    candidateId
    candidateDigest
    payload
    issuedByCommandId := command.commandId
    issuedAt := trustedNow
    proofIds := proofs.map VerifiedProductionProofV1.proofId }
  let recordDigest ← fromProtocol (canonicalDigestV1 recordDigestDomain material)
  .ok (material.toRecord recordDigest)

/-! ### Re-verification -/

/-- `verify_authoritative_record_value_v1`, on the parsed record. -/
def verifyAuthoritativeRecordV1 (stored : AuthoritativeRecordV1) :
    Except IdrRuntimeErrorV1 AuthoritativeRecordRefV1 := do
  rejectIf (stored.recordRef.trustDomain ≠ stored.trustDomain
      ∨ stored.recordRef.environmentRef ≠ stored.environmentRef
      ∨ stored.recordRef.validFrom ≠ stored.validFrom
      ∨ stored.recordRef.validUntil ≠ stored.validUntil
      ∨ stored.validFrom = 0
      ∨ stored.validUntil ≤ stored.validFrom
      ∨ stored.issuedAt < stored.validFrom
      ∨ stored.issuedAt ≥ stored.validUntil
      ∨ validDigest stored.candidateDigest = false)
    .integrityViolation
  let expectedDigest ← fromProtocol (canonicalDigestV1 recordDigestDomain stored.digestMaterial)
  rejectIf (expectedDigest ≠ stored.recordRef.recordDigest) .integrityViolation
  .ok stored.recordRef

/-! ### What an issued record is -/

/-- **A record issued from a candidate** carries the candidate's data, the command's identity and
the proofs, under the identity and revision it was issued for. -/
theorem issueRecord_eq_ok {candidate : CandidateSubmissionV1} {command : IdrCommandEnvelopeV1}
    {now : Nat} {proofs : List VerifiedProductionProofV1} {trustDomain : TrustDomainV1}
    {recordId : Uuid} {revision : Nat} {record : AuthoritativeRecordV1}
    (h : issueRecord candidate command now proofs trustDomain recordId revision = .ok record) :
    record.recordRef.recordId = recordId ∧ record.recordRef.revision = revision ∧
      record.recordRef.candidateKind = candidate.candidateKind ∧
      record.recordRef.trustDomain = trustDomain ∧
      record.recordRef.environmentRef = command.environmentRef ∧
      record.recordRef.validFrom = candidate.validFrom ∧
      record.recordRef.validUntil = candidate.validUntil ∧
      candidate.validFrom ≤ now ∧ now < candidate.validUntil ∧
      record.payload = candidate.payload ∧ record.runId = candidate.runId ∧
      record.turnId = candidate.turnId ∧ record.tenantRef = candidate.tenantRef ∧
      record.subjectRef = candidate.subjectRef ∧
      record.policyRevisionRef = candidate.policyRevisionRef ∧
      record.issuedByCommandId = command.commandId ∧ record.issuedAt = now ∧
      record.proofIds = proofs.map VerifiedProductionProofV1.proofId := by
  simp only [issueRecord, bind_eq_ok, fromProtocol_eq_ok, exists_unit_eq_ok, rejectIf_eq_ok,
    exists_const, not_or, Nat.not_lt, Nat.not_le, ge_iff_le, Except.ok.injEq] at h
  obtain ⟨-, ⟨hfrom, huntil⟩, candidateDigest, -, recordDigest, -, rfl⟩ := h
  exact ⟨rfl, rfl, rfl, rfl, rfl, rfl, rfl, hfrom, huntil, rfl, rfl, rfl, rfl, rfl, rfl, rfl, rfl,
    rfl⟩

/-- **A record the runtime issues itself** carries the payload, the lineage of the run and the
proofs, and is valid from now. -/
theorem issueInternalRecord_eq_ok {fresh : FreshIdsV1} {kind : CandidateKindV1} {payload : Value}
    {command : IdrCommandEnvelopeV1} {projection : IdrRunProjectionV1} {now validUntil : Nat}
    {proofs : List VerifiedProductionProofV1} {recordId : Uuid} {revision : Nat}
    {record : AuthoritativeRecordV1}
    (h : issueInternalRecord fresh kind payload command projection now validUntil proofs recordId
      revision = .ok record) :
    record.recordRef.recordId = recordId ∧ record.recordRef.revision = revision ∧
      record.recordRef.candidateKind = kind ∧
      record.recordRef.trustDomain = projection.trustDomain ∧
      record.recordRef.environmentRef = projection.environmentRef ∧
      record.recordRef.validFrom = now ∧ record.recordRef.validUntil = validUntil ∧
      now < validUntil ∧ record.payload = payload ∧ record.runId = projection.runId ∧
      projection.turnId = some record.turnId ∧ record.tenantRef = command.tenantRef ∧
      projection.subjectRef = some record.subjectRef ∧
      record.policyRevisionRef = command.policyRevisionRef ∧
      record.issuedByCommandId = command.commandId ∧ record.issuedAt = now ∧
      record.proofIds = proofs.map VerifiedProductionProofV1.proofId := by
  simp only [issueInternalRecord, bind_eq_ok, fromProtocol_eq_ok, rejectIf_eq_ok, okOr_eq_ok,
    exists_const, Nat.not_le, Except.ok.injEq] at h
  obtain ⟨huntil, subjectRef, hsubject, turnId, hturn, candidateDigest, -, recordDigest, -, rfl⟩ :=
    h
  exact ⟨rfl, rfl, rfl, rfl, rfl, rfl, rfl, huntil, rfl, rfl, hturn, rfl, hsubject, rfl, rfl, rfl,
    rfl⟩

end Idr
