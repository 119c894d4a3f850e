/-
Idr/TrustChain/Stored.lean

Stored records.

A record is stored as its JSON value.  `verifyAuthoritativeRecordValueV1`
reads it back and recomputes its digest.  An issued record passes, since its
digest was taken of the same material; and no other record passes under the
same reference, since the digest determines the material, and the material
and the reference together are the whole record.
-/
import Idr.Protocol.Deserialize
import Idr.Protocol.Determines
import Idr.TrustChain.Basis

namespace Idr

/-! ### Reading records -/

theorem TrustDomainV1.mem_variants (d : TrustDomainV1) :
    d ∈ [TrustDomainV1.shadow, TrustDomainV1.production] := by
  cases d <;> decide

instance : Deserialize TrustDomainV1 where
  fromValue := unitVariant [.shadow, .production] TrustDomainV1.wireName

instance : RoundTrip TrustDomainV1 where
  fromValue_toValue d := unitVariant_string TrustDomainV1.wireName_injective d.mem_variants

/-- The kinds of candidates, as the source lists them. -/
def CandidateKindV1.variants : List CandidateKindV1 := [
  .canonicalInput, .contextSnapshot, .intent, .decision, .turnCoordination, .response, .action,
  .actionAdmissionDecision, .executionReceipt, .outcome, .humanModelCandidate,
  .humanModelPromotionDecision, .humanModelAssertion]

theorem CandidateKindV1.mem_variants (k : CandidateKindV1) : k ∈ variants := by
  cases k <;> decide

instance : Deserialize CandidateKindV1 where
  fromValue := unitVariant CandidateKindV1.variants CandidateKindV1.wireName

instance : RoundTrip CandidateKindV1 where
  fromValue_toValue k := unitVariant_string CandidateKindV1.wireName_injective k.mem_variants

/-- The fields of a record reference. -/
def AuthoritativeRecordRefV1.keys : List Text := [
  "record_id", "revision", "candidate_kind", "trust_domain", "environment_ref", "valid_from",
  "valid_until", "record_digest"]

instance : Deserialize AuthoritativeRecordRefV1 where
  fromValue v := do
    let fields ← structFields AuthoritativeRecordRefV1.keys v
    match fields with
    | [recordId, revision, candidateKind, trustDomain, environmentRef, validFrom, validUntil,
        recordDigest] =>
      let recordId ← fromValue recordId
      let revision ← fromValue revision
      let candidateKind ← fromValue candidateKind
      let trustDomain ← fromValue trustDomain
      let environmentRef ← fromValue environmentRef
      let validFrom ← fromValue validFrom
      let validUntil ← fromValue validUntil
      let recordDigest ← fromValue recordDigest
      some { recordId, revision, candidateKind, trustDomain, environmentRef, validFrom, validUntil,
             recordDigest }
    | _ => none

instance : RoundTrip AuthoritativeRecordRefV1 where
  fromValue_toValue self := by
    have hfields : structFields AuthoritativeRecordRefV1.keys (toValue self) =
        some [toValue self.recordId, toValue self.revision, toValue self.candidateKind,
          toValue self.trustDomain, toValue self.environmentRef, toValue self.validFrom,
          toValue self.validUntil, toValue self.recordDigest] :=
      structFields_object rfl (by decide) rfl
    show ((structFields AuthoritativeRecordRefV1.keys (toValue self)).bind _) = _
    rw [hfields, Option.bind_some]
    repeat refine (fromValue_bind _ _).trans ?_
    rfl

/-- The fields of `StoredAuthoritativeRecordV1`. -/
def AuthoritativeRecordV1.keys : List Text := [
  "record_ref", "trust_domain", "environment_ref", "run_id", "turn_id", "tenant_ref",
  "subject_ref", "policy_revision_ref", "candidate_id", "candidate_digest", "payload",
  "issued_by_command_id", "issued_at", "valid_from", "valid_until", "proof_ids"]

/-- `StoredAuthoritativeRecordV1`: a stored record has the fields of a record. -/
instance : Deserialize AuthoritativeRecordV1 where
  fromValue v := do
    let fields ← structFields AuthoritativeRecordV1.keys v
    match fields with
    | [recordRef, trustDomain, environmentRef, runId, turnId, tenantRef, subjectRef,
        policyRevisionRef, candidateId, candidateDigest, payload, issuedByCommandId, issuedAt,
        validFrom, validUntil, proofIds] =>
      let recordRef ← fromValue recordRef
      let trustDomain ← fromValue trustDomain
      let environmentRef ← fromValue environmentRef
      let runId ← fromValue runId
      let turnId ← fromValue turnId
      let tenantRef ← fromValue tenantRef
      let subjectRef ← fromValue subjectRef
      let policyRevisionRef ← fromValue policyRevisionRef
      let candidateId ← fromValue candidateId
      let candidateDigest ← fromValue candidateDigest
      let issuedByCommandId ← fromValue issuedByCommandId
      let issuedAt ← fromValue issuedAt
      let validFrom ← fromValue validFrom
      let validUntil ← fromValue validUntil
      let proofIds ← fromValue proofIds
      some { recordRef, trustDomain, environmentRef, runId, turnId, tenantRef, subjectRef,
             policyRevisionRef, candidateId, candidateDigest, payload, issuedByCommandId, issuedAt,
             validFrom, validUntil, proofIds }
    | _ => none

instance : RoundTrip AuthoritativeRecordV1 where
  fromValue_toValue self := by
    have hfields : structFields AuthoritativeRecordV1.keys (toValue self) =
        some [toValue self.recordRef, toValue self.trustDomain, toValue self.environmentRef,
          toValue self.runId, toValue self.turnId, toValue self.tenantRef,
          toValue self.subjectRef, toValue self.policyRevisionRef, toValue self.candidateId,
          toValue self.candidateDigest, self.payload, toValue self.issuedByCommandId,
          toValue self.issuedAt, toValue self.validFrom, toValue self.validUntil,
          toValue self.proofIds] :=
      structFields_object rfl (by decide) rfl
    show ((structFields AuthoritativeRecordV1.keys (toValue self)).bind _) = _
    rw [hfields, Option.bind_some]
    repeat refine (fromValue_bind _ _).trans ?_
    rfl

/-! ### What the digest material determines -/

/-- The material with its payload in canonical form. -/
def AuthoritativeRecordDigestMaterialV1.canonical (self : AuthoritativeRecordDigestMaterialV1) :
    AuthoritativeRecordDigestMaterialV1 :=
  { self with payload := self.payload.canonical }

theorem AuthoritativeRecordDigestMaterialV1.determined {a b : AuthoritativeRecordDigestMaterialV1}
    (h : (toValue a).canonical = (toValue b).canonical) : a.canonical = b.canonical := by
  have hfields := canonical_object_eq h rfl rfl rfl
  simp only [List.map_cons, Value.canonicalField, List.cons.injEq, Prod.mk.injEq,
    true_and] at hfields
  obtain ⟨hid, hrevision, hkind, hdomain, henvironment, hfrom, huntil, hrun, hturn, htenant,
    hsubject, hpolicy, hcandidate, hcandidateDigest, hpayload, hcommand, hissued, hproofs, -⟩ :=
    hfields
  rw [canonical, canonical, AuthoritativeRecordDigestMaterialV1.mk.injEq]
  exact ⟨Idr.determined hid, Idr.determined hrevision, Idr.determined hkind,
    Idr.determined hdomain, Idr.determined henvironment, Idr.determined hfrom,
    Idr.determined huntil, Idr.determined hrun, Idr.determined hturn, Idr.determined htenant,
    Idr.determined hsubject, Idr.determined hpolicy, Idr.determined hcandidate,
    Idr.determined hcandidateDigest, hpayload, Idr.determined hcommand, Idr.determined hissued,
    Idr.determined hproofs⟩

/-- The record with its payload in canonical form. -/
def AuthoritativeRecordV1.canonical (self : AuthoritativeRecordV1) : AuthoritativeRecordV1 :=
  { self with payload := self.payload.canonical }

/-- A record is its reference and its digest material. -/
theorem AuthoritativeRecordV1.canonical_eq {a b : AuthoritativeRecordV1}
    (href : a.recordRef = b.recordRef)
    (h : a.digestMaterial.canonical = b.digestMaterial.canonical) :
    a.canonical = b.canonical := by
  simp only [AuthoritativeRecordDigestMaterialV1.canonical, digestMaterial,
    AuthoritativeRecordDigestMaterialV1.mk.injEq] at h
  obtain ⟨-, -, -, hdomain, henvironment, hfrom, huntil, hrun, hturn, htenant, hsubject, hpolicy,
    hcandidate, hcandidateDigest, hpayload, hcommand, hissued, hproofs⟩ := h
  rw [canonical, canonical, AuthoritativeRecordV1.mk.injEq]
  exact ⟨href, hdomain, henvironment, hrun, hturn, htenant, hsubject, hpolicy, hcandidate,
    hcandidateDigest, hpayload, hcommand, hissued, hfrom, huntil, hproofs⟩

section

variable [Crypto]

/-- `verify_authoritative_record_value_v1`. -/
def verifyAuthoritativeRecordValueV1 (value : Value) :
    Except IdrRuntimeErrorV1 AuthoritativeRecordRefV1 := do
  let stored ← okOr (fromValue value) .integrityViolation
  verifyAuthoritativeRecordV1 stored

/-! ### Issued records -/

theorem validDigest_canonicalDigestV1 {α : Type} [Serialize α] {domain digest : Text} {value : α}
    (h : canonicalDigestV1 domain value = .ok digest) : validDigest digest = true := by
  simp only [canonicalDigestV1, bind_eq_ok, Except.ok.injEq] at h
  obtain ⟨bytes, -, rfl⟩ := h
  exact validDigest_sha256Hex bytes

/-- A record of some material passes if the material has a validity that covers the time of issue
and the digest of a candidate. -/
theorem verifyAuthoritativeRecordV1_toRecord {material : AuthoritativeRecordDigestMaterialV1}
    {digest : Text} (hdigest : canonicalDigestV1 recordDigestDomain material = .ok digest)
    (hfrom : 0 < material.validFrom) (hissued : material.validFrom ≤ material.issuedAt)
    (huntil : material.issuedAt < material.validUntil)
    (hcandidate : validDigest material.candidateDigest = true) :
    verifyAuthoritativeRecordV1 (material.toRecord digest) =
      .ok (material.toRecord digest).recordRef := by
  simp only [verifyAuthoritativeRecordV1, bind_eq_ok, rejectIf_eq_ok, fromProtocol_eq_ok,
    exists_const]
  refine ⟨?_, digest, hdigest, fun hne => hne rfl, trivial⟩
  rintro (h | h | h | h | h | h | h | h | h)
  · exact h rfl
  · exact h rfl
  · exact h rfl
  · exact h rfl
  · change material.validFrom = 0 at h
    omega
  · change material.validUntil ≤ material.validFrom at h
    omega
  · change material.issuedAt < material.validFrom at h
    omega
  · change material.issuedAt ≥ material.validUntil at h
    omega
  · change validDigest material.candidateDigest = false at h
    rw [hcandidate] at h
    cases h

/-- **An issued record passes.** -/
theorem IssuedAt.verifies {now : Nat} {record : AuthoritativeRecordV1} (h : IssuedAt now record)
    (hnow : 0 < now) : verifyAuthoritativeRecordV1 record = .ok record.recordRef := by
  cases h with
  | candidate h =>
    simp only [issueRecord, bind_eq_ok, fromProtocol_eq_ok, exists_unit_eq_ok, rejectIf_eq_ok,
      exists_const, not_or, Nat.not_lt, Nat.not_le, ge_iff_le, Except.ok.injEq] at h
    obtain ⟨hvalid, ⟨hfrom, huntil⟩, candidateDigest, hcandidate, digest, hdigest, rfl⟩ := h
    simp only [CandidateSubmissionV1.validate, bind_eq_ok, exists_unit_eq_ok, rejectIf_eq_ok,
      exists_const, not_or] at hvalid
    obtain ⟨-, ⟨-, -, -, hpositive, -⟩, -⟩ := hvalid
    exact verifyAuthoritativeRecordV1_toRecord hdigest (Nat.pos_of_ne_zero hpositive) hfrom huntil
      (validDigest_canonicalDigestV1 hcandidate)
  | internal h =>
    simp only [issueInternalRecord, bind_eq_ok, fromProtocol_eq_ok, rejectIf_eq_ok, okOr_eq_ok,
      exists_const, Nat.not_le, Except.ok.injEq] at h
    obtain ⟨huntil, subjectRef, -, turnId, -, candidateDigest, hcandidate, digest, hdigest, rfl⟩ :=
      h
    exact verifyAuthoritativeRecordV1_toRecord hdigest hnow (Nat.le_refl now) huntil
      (validDigest_canonicalDigestV1 hcandidate)

/-- What a stored record that passes establishes. -/
theorem verifyAuthoritativeRecordV1_eq_ok {stored : AuthoritativeRecordV1}
    {ref : AuthoritativeRecordRefV1} (h : verifyAuthoritativeRecordV1 stored = .ok ref) :
    stored.recordRef = ref ∧
      canonicalDigestV1 recordDigestDomain stored.digestMaterial = .ok ref.recordDigest := by
  simp only [verifyAuthoritativeRecordV1, bind_eq_ok, rejectIf_eq_ok, fromProtocol_eq_ok,
    exists_const, Except.ok.injEq, not_not] at h
  obtain ⟨-, digest, hdigest, rfl, rfl⟩ := h
  exact ⟨rfl, hdigest⟩

/-- **Two records that pass under one reference are the same.** -/
theorem verifyAuthoritativeRecordV1_injective {a b : AuthoritativeRecordV1}
    {ref : AuthoritativeRecordRefV1} (ha : verifyAuthoritativeRecordV1 a = .ok ref)
    (hb : verifyAuthoritativeRecordV1 b = .ok ref)
    (hfree : CollisionFree recordDigestDomain recordDigestDomain a.digestMaterial
      b.digestMaterial) :
    a.canonical = b.canonical := by
  obtain ⟨harecord, hadigest⟩ := verifyAuthoritativeRecordV1_eq_ok ha
  obtain ⟨hbrecord, hbdigest⟩ := verifyAuthoritativeRecordV1_eq_ok hb
  have hvalue := canonicalDigestV1_determined hadigest hbdigest hfree
  exact AuthoritativeRecordV1.canonical_eq (harecord.trans hbrecord.symm)
    (AuthoritativeRecordDigestMaterialV1.determined hvalue)

/-- **Authoritative records are self-verifying and tamper-evident.**  The stored value of a record
that an accepted evaluation issued passes with the reference of the record, and no stored value
that reads as another record passes with that reference. -/
theorem records_self_verifying {fresh : FreshIdsV1} {p : IdrRunProjectionV1}
    {command : IdrCommandEnvelopeV1} {now : Nat} {proofs : List VerifiedProductionProofV1}
    {t : IdrTransitionV1} {record : AuthoritativeRecordV1}
    (hstep : evaluateAuthoritativeTransitionV1 fresh p command now proofs = .ok t) (hnow : 0 < now)
    (hrecord : t.authoritativeRecord = some record) :
    verifyAuthoritativeRecordValueV1 (toValue record) = .ok record.recordRef ∧
      ∀ (value : Value) (stored : AuthoritativeRecordV1), fromValue value = some stored →
      stored.canonical ≠ record.canonical →
        CollisionFree recordDigestDomain recordDigestDomain record.digestMaterial
          stored.digestMaterial →
          verifyAuthoritativeRecordValueV1 value ≠ .ok record.recordRef := by
  obtain ⟨-, r, hr, -, rfl⟩ := evaluateAuthoritativeTransitionV1_eq_ok hstep
  have hverifies := (evaluateCommand_issued r hr record hrecord).verifies hnow
  constructor
  · rw [verifyAuthoritativeRecordValueV1, fromValue_toValue]
    exact hverifies
  · intro value stored hvalue hdiffer hfree hpasses
    rw [verifyAuthoritativeRecordValueV1, hvalue] at hpasses
    exact hdiffer (verifyAuthoritativeRecordV1_injective hverifies hpasses hfree).symm

end

/-! ### A sample -/

namespace Sample

/-- The evaluation of the input of the sample run. -/
def inputEvaluated : Except IdrRuntimeErrorV1 IdrTransitionV1 :=
  let _ := crypto
  let i := input 10 owner startRun noClosure init
  evaluateAuthoritativeTransitionV1 i.fresh init.projection i.command i.trustedNow i.verifiedProofs

/-- The record with another payload. -/
def tampered (record : AuthoritativeRecordV1) : AuthoritativeRecordV1 :=
  { record with payload := .object [("text", .string "goodbye")] }

/-- A record is issued, and the digests of it and of the tampered record differ. -/
def tamperedApart : Bool :=
  let _ := crypto
  isOkAnd inputEvaluated fun t => t.authoritativeRecord.any fun record =>
    decide ((tampered record).canonical ≠ record.canonical) &&
      decide (canonicalDigestV1 recordDigestDomain record.digestMaterial ≠
        canonicalDigestV1 recordDigestDomain (tampered record).digestMaterial)

set_option maxRecDepth 20000 in
theorem tamperedApart_true : tamperedApart = true := by
  decide +kernel

end Sample

/-- The record of the sample input passes, and the tampered record does not. -/
theorem records_self_verifying_sample : let _ := Sample.crypto
    ∃ t record, Sample.inputEvaluated = .ok t ∧ t.authoritativeRecord = some record ∧
      verifyAuthoritativeRecordValueV1 (toValue record) = .ok record.recordRef ∧
      verifyAuthoritativeRecordValueV1 (toValue (Sample.tampered record)) ≠
        .ok record.recordRef := by
  intro crypto
  have hsample := Sample.tamperedApart_true
  rw [Sample.tamperedApart] at hsample
  obtain ⟨t, ht, happly⟩ := isOkAnd_iff.mp hsample
  obtain ⟨record, hrecord, happly⟩ := (Option.any_eq_true _ _).mp happly
  simp only [Bool.and_eq_true, decide_eq_true_eq] at happly
  obtain ⟨hdiffer, hdigests⟩ := happly
  have hnow : 0 < 10 := by decide
  have hself := records_self_verifying ht hnow hrecord
  exact ⟨t, record, ht, hrecord, hself.1,
    hself.2 _ _ (fromValue_toValue _) hdiffer (.of_digest_ne hdigests)⟩

end Idr
