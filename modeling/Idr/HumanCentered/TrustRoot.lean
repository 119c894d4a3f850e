/-
Idr/HumanCentered/TrustRoot.lean

What is signed of a proof, and the trust root that verifies it.

The signing bytes of claims are a domain tag and then one word for each
field: the textual identifier, a byte for the kind, the texts behind their
lengths, and the numbers at their width.  Each word can be read off the
front of what is left, so the bytes of accepted claims determine the claims
(`canonicalSigningBytes_injective`).  A trust root that accepts one signature
for two sets of claims has accepted it for two messages.
-/
import Idr.HumanCentered.Proof
import Idr.Lib.PrefixCode
import Idr.Protocol.Deserialize

namespace Idr

/-! ### Signing bytes -/

/-- `PROOF_SIGNATURE_DOMAIN`. -/
def proofSignatureDomain : List UInt8 := Text.bytes "idr-proof-v1" ++ [0]

/-- `ProofKindV1::tag`. -/
def ProofKindV1.tag : ProofKindV1 → UInt8
  | inputAdmission => 1
  | contextSnapshot => 2
  | intentFastPathFacts => 3
  | decisionNecessityFacts => 4
  | turnCoordinationFacts => 5
  | authorityGrant => 6
  | policyEvaluation => 7
  | capability => 8
  | humanConfirmation => 9
  | dependencySnapshot => 10
  | outcomeObservation => 11
  | executionPermit => 12
  | providerExecutionReceipt => 13

/-- `append_text`. -/
def appendText (bytes : List UInt8) (value : Text) :
    Except HumanCenteredProtocolError (List UInt8) := do
  rejectIf (byteLen value ≥ 2 ^ 32) .invalidText
  .ok (bytes ++ toBeBytes 4 (byteLen value) ++ value.bytes)

/-- `ProofClaimsV1::canonical_signing_bytes`. -/
def ProofClaimsV1.canonicalSigningBytes (self : ProofClaimsV1) :
    Except HumanCenteredProtocolError (List UInt8) := do
  self.validate
  let bytes := proofSignatureDomain ++ self.proofId.asUuid.toString.bytes ++ [self.proofKind.tag]
  let bytes ← appendText bytes self.issuerRef.asStr
  let bytes ← appendText bytes self.subjectRef.asStr
  let bytes ← appendText bytes self.subjectDigest
  let bytes ← appendText bytes self.tenantRef.asStr
  let bytes ← appendText bytes self.scopeRef.asStr
  let bytes ← appendText bytes self.purposeRef.asStr
  let bytes ← appendText bytes self.policyRevisionRef.asStr
  let bytes := bytes ++ toBeBytes 8 self.issuedAt ++ toBeBytes 8 self.expiresAt
  let bytes ← appendText bytes self.nonce
  .ok (bytes ++ toBeBytes 2 self.schemaVersion)

/-! ### The trust root -/

/-- `IssuerKeyPolicyV1`. -/
structure IssuerKeyPolicyV1 where
  issuerRef : ReferenceV1
  keyId : ReferenceV1
  verifyingKey : List UInt8
  allowedProofKinds : List ProofKindV1
  tenantRef : ReferenceV1
  validFrom : Nat
  validUntil : Nat
  revokedAt : Option Nat

/-- `ProofTrustRootV1`: there is a policy, and no two have one key. -/
structure ProofTrustRootV1 where
  policies : List IssuerKeyPolicyV1
  nonempty : policies ≠ []
  distinct : (policies.map (·.keyId)).Nodup

/-- `ProofTrustRootV1::new`. -/
def ProofTrustRootV1.new (policies : List IssuerKeyPolicyV1) :
    Except HumanCenteredProtocolError ProofTrustRootV1 :=
  if h : policies ≠ [] ∧ (policies.map (·.keyId)).Nodup then .ok ⟨policies, h.1, h.2⟩
  else .error .invalidContract

section Verify

variable [Crypto]

/-- `IssuerKeyPolicyV1::new`. -/
def IssuerKeyPolicyV1.new (issuerRef keyId : ReferenceV1) (publicKeyHex : Text)
    (allowedProofKinds : List ProofKindV1) (tenantRef : ReferenceV1) (validFrom validUntil : Nat)
    (revokedAt : Option Nat) : Except HumanCenteredProtocolError IssuerKeyPolicyV1 := do
  let keyBytes ← okOr (decodeHex 32 publicKeyHex) .proofVerificationFailed
  rejectIf (Crypto.isVerifyingKey keyBytes = false) .proofVerificationFailed
  rejectIf (allowedProofKinds = []
      ∨ validFrom = 0
      ∨ validUntil ≤ validFrom
      ∨ validUntil > humanCenteredMaxSafeWireInteger
      ∨ revokedAt.any (fun value => value < validFrom ∨ value > validUntil) = true)
    .invalidContract
  .ok {
    issuerRef, keyId
    verifyingKey := keyBytes
    allowedProofKinds, tenantRef, validFrom, validUntil, revokedAt }

/-- `ProofTrustRootV1::verify_at`. -/
def ProofTrustRootV1.verifyAt (self : ProofTrustRootV1) (envelope : SignedProofEnvelopeV1)
    (expected : ExpectedProofBindingV1) (validAt : Nat) :
    Except HumanCenteredProtocolError VerifiedProofV1 := do
  envelope.validateShape
  expected.validate
  let claims := envelope.claims
  let policy ← okOr (self.policies.find? (·.keyId = envelope.keyId)) .proofVerificationFailed
  rejectIf (claims.proofKind ≠ expected.proofKind
      ∨ claims.issuerRef ≠ expected.issuerRef
      ∨ claims.subjectRef ≠ expected.subjectRef
      ∨ claims.subjectDigest ≠ expected.subjectDigest
      ∨ claims.tenantRef ≠ expected.tenantRef
      ∨ claims.scopeRef ≠ expected.scopeRef
      ∨ claims.purposeRef ≠ expected.purposeRef
      ∨ claims.policyRevisionRef ≠ expected.policyRevisionRef
      ∨ claims.issuerRef ≠ policy.issuerRef
      ∨ claims.tenantRef ≠ policy.tenantRef
      ∨ claims.proofKind ∉ policy.allowedProofKinds
      ∨ validAt < claims.issuedAt
      ∨ validAt ≥ claims.expiresAt
      ∨ claims.issuedAt < policy.validFrom
      ∨ validAt ≥ policy.validUntil
      ∨ policy.revokedAt.any (fun revokedAt => validAt ≥ revokedAt) = true)
    .proofVerificationFailed
  let signature ← okOr (decodeHex 64 envelope.signature) .proofVerificationFailed
  let message ← claims.canonicalSigningBytes
  rejectIf (Crypto.verify policy.verifyingKey message signature = false) .proofVerificationFailed
  .ok ⟨envelope, validAt⟩

end Verify

/-! ### Reading the bytes back -/

section Injective

theorem appendText_eq_ok {bytes : List UInt8} {value : Text} {result : List UInt8} :
    appendText bytes value = .ok result ↔
      byteLen value < 2 ^ 32 ∧ result = bytes ++ (toBeBytes 4 (byteLen value) ++ value.bytes) := by
  simp only [appendText, bind_eq_ok, rejectIf_eq_ok, Except.ok.injEq, Nat.not_le, ge_iff_le,
    List.append_assoc, exists_const]
  constructor
  · rintro ⟨hlength, rfl⟩
    exact ⟨hlength, rfl⟩
  · rintro ⟨hlength, rfl⟩
    exact ⟨hlength, rfl⟩

/-- A text behind its length. -/
def framed (value : Text) : List UInt8 := toBeBytes 4 (byteLen value) ++ value.bytes

theorem readOff_framed : ReadOff (fun value => byteLen value < 2 ^ 32) framed := by
  apply ReadOff.of_prefix (readOff_toBeBytes 4)
  · intro value hlength
    exact hlength
  · intro a b hbytes
    cases a
    cases b
    exact congrArg Text.mk hbytes

theorem readOff_uuid : ReadOff (fun _ => True) fun u : Uuid => u.toString.bytes := by
  apply ReadOff.of_length
  · intro u _
    exact u.toString_length
  · intro u v _ _ hbytes
    exact Uuid.toString_injective (congrArg Text.mk hbytes)

theorem readOff_tag : ReadOff (fun _ => True) fun kind : ProofKindV1 => [kind.tag] := by
  apply ReadOff.of_length (n := 1)
  · intro kind _
    rfl
  · intro a b _ _ htag
    -- the tags are distinct
    cases a <;> cases b <;> first | rfl | exact absurd htag (by decide)

/-- What accepted claims say of the numbers and the texts. -/
theorem ProofClaimsV1.validate_bounds {self : ProofClaimsV1} (h : self.validate = .ok ()) :
    self.issuedAt < 256 ^ 8 ∧ self.expiresAt < 256 ^ 8 ∧ self.schemaVersion = 1 := by
  simp only [validate, rejectIf_eq_ok, not_or, not_not, Nat.not_lt, Nat.not_le] at h
  obtain ⟨-, -, -, -, hissued, hexpires, -, -, hschema⟩ := h
  have hmax : humanCenteredMaxSafeWireInteger < 256 ^ 8 := by decide
  exact ⟨by omega, by omega, hschema⟩

/-- The bytes of accepted claims, word by word. -/
theorem canonicalSigningBytes_eq_ok {self : ProofClaimsV1} {bytes : List UInt8}
    (h : self.canonicalSigningBytes = .ok bytes) :
    self.validate = .ok () ∧
    (∀ value ∈ [self.issuerRef.asStr, self.subjectRef.asStr, self.subjectDigest,
      self.tenantRef.asStr, self.scopeRef.asStr, self.purposeRef.asStr,
      self.policyRevisionRef.asStr, self.nonce], byteLen value < 2 ^ 32) ∧
    bytes = proofSignatureDomain ++ (self.proofId.asUuid.toString.bytes ++ ([self.proofKind.tag] ++
      (framed self.issuerRef.asStr ++ (framed self.subjectRef.asStr ++ (framed self.subjectDigest ++
      (framed self.tenantRef.asStr ++
        (framed self.scopeRef.asStr ++ (framed self.purposeRef.asStr ++
      (framed self.policyRevisionRef.asStr ++ (toBeBytes 8 self.issuedAt ++
      (toBeBytes 8 self.expiresAt ++ (framed self.nonce ++
        toBeBytes 2 self.schemaVersion)))))))))))) := by
  simp only [ProofClaimsV1.canonicalSigningBytes, bind_eq_ok, appendText_eq_ok,
    Except.ok.injEq] at h
  obtain ⟨_, hvalid, _, ⟨h₁, rfl⟩, _, ⟨h₂, rfl⟩, _, ⟨h₃, rfl⟩, _, ⟨h₄, rfl⟩, _, ⟨h₅, rfl⟩, _,
    ⟨h₆, rfl⟩, _, ⟨h₇, rfl⟩, _, ⟨h₈, rfl⟩, rfl⟩ := h
  refine ⟨hvalid, ?_, ?_⟩
  · simp only [List.forall_mem_cons]
    exact ⟨h₁, h₂, h₃, h₄, h₅, h₆, h₇, h₈, fun value hmem => absurd hmem List.not_mem_nil⟩
  · simp only [framed, List.append_assoc]

/-- **The signing bytes determine the claims.** -/
theorem canonicalSigningBytes_determines {a b : ProofClaimsV1} {bytes : List UInt8}
    (ha : a.canonicalSigningBytes = .ok bytes) (hb : b.canonicalSigningBytes = .ok bytes) :
    a = b := by
  obtain ⟨havalid, hatexts, hbytes⟩ := canonicalSigningBytes_eq_ok ha
  obtain ⟨hbvalid, hbtexts, rfl⟩ := canonicalSigningBytes_eq_ok hb
  obtain ⟨haissued, haexpires, haschema⟩ := a.validate_bounds havalid
  obtain ⟨hbissued, hbexpires, hbschema⟩ := b.validate_bounds hbvalid
  simp only [List.forall_mem_cons] at hatexts hbtexts
  obtain ⟨ha₁, ha₂, ha₃, ha₄, ha₅, ha₆, ha₇, ha₈, -⟩ := hatexts
  obtain ⟨hb₁, hb₂, hb₃, hb₄, hb₅, hb₆, hb₇, hb₈, -⟩ := hbtexts
  -- one word after the other is read off the front
  have hrest := (List.append_cancel_left hbytes).symm
  obtain ⟨hid, hrest⟩ := readOff_uuid trivial trivial hrest
  obtain ⟨hkind, hrest⟩ := readOff_tag trivial trivial hrest
  obtain ⟨hissuer, hrest⟩ := readOff_framed ha₁ hb₁ hrest
  obtain ⟨hsubject, hrest⟩ := readOff_framed ha₂ hb₂ hrest
  obtain ⟨hdigest, hrest⟩ := readOff_framed ha₃ hb₃ hrest
  obtain ⟨htenant, hrest⟩ := readOff_framed ha₄ hb₄ hrest
  obtain ⟨hscope, hrest⟩ := readOff_framed ha₅ hb₅ hrest
  obtain ⟨hpurpose, hrest⟩ := readOff_framed ha₆ hb₆ hrest
  obtain ⟨hpolicy, hrest⟩ := readOff_framed ha₇ hb₇ hrest
  obtain ⟨hissuedAt, hrest⟩ := readOff_toBeBytes 8 haissued hbissued hrest
  obtain ⟨hexpiresAt, hrest⟩ := readOff_toBeBytes 8 haexpires hbexpires hrest
  obtain ⟨hnonce, -⟩ := readOff_framed ha₈ hb₈ hrest
  have hreference : ∀ {r s : ReferenceV1}, r.asStr = s.asStr → r = s := by
    rintro ⟨r, _⟩ ⟨s, _⟩ rfl
    rfl
  have hidentifier : ∀ {i j : HumanCenteredIdV1}, i.asUuid = j.asUuid → i = j := by
    rintro ⟨i, _⟩ ⟨j, _⟩ rfl
    rfl
  cases a
  cases b
  rw [ProofClaimsV1.mk.injEq]
  exact ⟨hidentifier hid, hkind, hreference hissuer, hreference hsubject, hdigest,
    hreference htenant, hreference hscope, hreference hpurpose, hreference hpolicy, hissuedAt,
    hexpiresAt, hnonce, haschema.trans hbschema.symm⟩

/-- The texts of accepted claims are short, so that accepted claims have signing bytes. -/
theorem canonicalSigningBytes_total {self : ProofClaimsV1} (h : self.validate = .ok ()) :
    ∃ bytes, self.canonicalSigningBytes = .ok bytes := by
  have hreference : ∀ r : ReferenceV1, byteLen r.asStr < 2 ^ 32 := by
    intro r
    have hvalid := r.valid
    simp only [isReference, Bool.and_eq_true, decide_eq_true_eq] at hvalid
    have hlength := hvalid.1.2
    omega
  have hdigest : ∀ {value : Text}, validDigest value = true → byteLen value < 2 ^ 32 := by
    intro value hvalue
    simp only [validDigest, Bool.and_eq_true, decide_eq_true_eq] at hvalue
    omega
  have hchecks := h
  simp only [ProofClaimsV1.validate, rejectIf_eq_ok, not_or, Bool.not_eq_false] at hchecks
  obtain ⟨-, -, hsubject, -, -, -, -, hnonce, -⟩ := hchecks
  simp only [ProofClaimsV1.canonicalSigningBytes, bind_eq_ok, appendText_eq_ok]
  exact ⟨_, (), h, _, ⟨hreference _, rfl⟩, _, ⟨hreference _, rfl⟩, _, ⟨hdigest hsubject, rfl⟩, _,
    ⟨hreference _, rfl⟩, _, ⟨hreference _, rfl⟩, _, ⟨hreference _, rfl⟩, _, ⟨hreference _, rfl⟩, _,
    ⟨hdigest hnonce, rfl⟩, rfl⟩

end Injective

/-! ### Accepted signatures -/

section Signatures

variable [Crypto]

/-- What the trust root has verified of an envelope: its signature, of its claims, under the key
that it names. -/
theorem ProofTrustRootV1.verifyAt_verifies {root : ProofTrustRootV1}
    {envelope : SignedProofEnvelopeV1}
    {expected : ExpectedProofBindingV1} {now : Nat} {proof : VerifiedProofV1}
    (h : root.verifyAt envelope expected now = .ok proof) :
    ∃ policy signature message, root.policies.find? (·.keyId = envelope.keyId) = some policy ∧
      decodeHex 64 envelope.signature = some signature ∧
      envelope.claims.canonicalSigningBytes = .ok message ∧
      Crypto.verify policy.verifyingKey message signature = true := by
  simp only [verifyAt, bind_eq_ok, exists_unit_eq_ok, rejectIf_eq_ok, okOr_eq_ok, exists_const,
    Bool.not_eq_false] at h
  obtain ⟨-, -, policy, hpolicy, -, signature, hsignature, message, hmessage, hverify, -⟩ := h
  exact ⟨policy, signature, message, hpolicy, hsignature, hmessage, hverify⟩

/-- The key verifies the signature for two messages. -/
def VerifiesTwice (key signature : List UInt8) : Prop :=
  ∃ message message', message ≠ message' ∧
    Crypto.verify key message signature = true ∧ Crypto.verify key message' signature = true

/-- **The signing bytes of accepted claims determine them**, and there are such bytes.  A signature
that is accepted for one set of claims is therefore not accepted for another under the same key,
unless the key verifies it for two messages. -/
theorem canonicalSigningBytes_injective :
    (∀ a b : ProofClaimsV1, a.validate = .ok () → b.validate = .ok () →
      (∃ bytes, a.canonicalSigningBytes = .ok bytes) ∧
        (a.canonicalSigningBytes = b.canonicalSigningBytes → a = b)) ∧
    ∀ (root : ProofTrustRootV1) (a b : SignedProofEnvelopeV1)
      (expected expected' : ExpectedProofBindingV1) (now now' : Nat)
      (proof proof' : VerifiedProofV1),
      root.verifyAt a expected now = .ok proof → root.verifyAt b expected' now' = .ok proof' →
      a.keyId = b.keyId → a.signature = b.signature → a.claims ≠ b.claims →
      ∃ policy ∈ root.policies, policy.keyId = a.keyId ∧
        ∃ signature, decodeHex 64 a.signature = some signature ∧
          VerifiesTwice policy.verifyingKey signature := by
  constructor
  · intro a b ha _
    obtain ⟨bytes, hbytes⟩ := canonicalSigningBytes_total ha
    refine ⟨⟨bytes, hbytes⟩, fun hsame => ?_⟩
    exact canonicalSigningBytes_determines hbytes (hsame.symm.trans hbytes)
  · intro root a b expected expected' now now' proof proof' ha hb hkey hsignature hclaims
    obtain ⟨policy, signature, message, hpolicy, hdecode, hmessage, hverify⟩ :=
      root.verifyAt_verifies ha
    obtain ⟨policy', signature', message', hpolicy', hdecode', hmessage', hverify'⟩ :=
      root.verifyAt_verifies hb
    have hsameKey : policy' = policy := by
      rw [← hkey, hpolicy] at hpolicy'
      exact (Option.some.inj hpolicy').symm
    have hsameSignature : signature' = signature := by
      rw [← hsignature, hdecode] at hdecode'
      exact (Option.some.inj hdecode').symm
    subst hsameKey hsameSignature
    refine ⟨policy', List.mem_of_find?_eq_some hpolicy, ?_, signature', hdecode, message,
      message', ?_, hverify, hverify'⟩
    · have hfound := List.find?_some hpolicy
      exact of_decide_eq_true hfound
    · intro hsame
      subst hsame
      exact hclaims (canonicalSigningBytes_determines hmessage hmessage')

end Signatures

/-! ### Sample claims

A signature that every key verifies: the two envelopes have it in common. -/

namespace StoreSample

def claims (proofKind : ProofKindV1) : ProofClaimsV1 where
  proofId := firstId
  proofKind := proofKind
  issuerRef := party
  subjectRef := party
  subjectDigest := encodeHex (List.replicate 32 7)
  tenantRef := party
  scopeRef := party
  purposeRef := party
  policyRevisionRef := party
  issuedAt := 10
  expiresAt := 1000
  nonce := encodeHex (List.replicate 32 9)
  schemaVersion := 1

def signedEnvelope (proofKind : ProofKindV1) : SignedProofEnvelopeV1 :=
  ⟨claims proofKind, party, encodeHex (List.replicate 64 5)⟩

def binding (proofKind : ProofKindV1) : ExpectedProofBindingV1 :=
  ⟨proofKind, party, party, encodeHex (List.replicate 32 7), party, party, party, party⟩

def trustRoot : ProofTrustRootV1 :=
  ⟨[⟨party, party, List.replicate 32 3, [.executionPermit, .capability], party, 1, 2000, none⟩],
    by decide, by simp⟩

end StoreSample

/-- Claims of two kinds have different signing bytes; where both envelopes are accepted, the key
verifies the signature for both. -/
theorem canonicalSigningBytes_injective_sample : let _ := Sample.crypto
    (StoreSample.claims .executionPermit).canonicalSigningBytes ≠
        (StoreSample.claims .capability).canonicalSigningBytes ∧
      VerifiesTwice (List.replicate 32 3) (List.replicate 64 5) := by
  intro crypto
  obtain ⟨hinjective, haccepted⟩ := canonicalSigningBytes_injective
  constructor
  · intro hsame
    have heq := (hinjective _ _ (by decide +kernel) (by decide +kernel)).2 hsame
    exact absurd (congrArg ProofClaimsV1.proofKind heq) (by decide)
  · obtain ⟨policy, hpolicy, -, signature, hsignature, htwice⟩ := haccepted StoreSample.trustRoot
      (StoreSample.signedEnvelope .executionPermit) (StoreSample.signedEnvelope .capability)
      (StoreSample.binding .executionPermit) (StoreSample.binding .capability) 20 30
      ⟨StoreSample.signedEnvelope .executionPermit, 20⟩ ⟨StoreSample.signedEnvelope .capability, 30⟩
      (by decide +kernel) (by decide +kernel) rfl rfl
      (fun heq => absurd (congrArg ProofClaimsV1.proofKind heq) (by decide))
    have hdecode : decodeHex 64 (encodeHex (List.replicate 64 5)) = some (List.replicate 64 5) := by
      decide +kernel
    rw [StoreSample.signedEnvelope, hdecode, Option.some.injEq] at hsignature
    rw [← hsignature, List.mem_singleton.mp hpolicy] at htwice
    exact htwice

end Idr
