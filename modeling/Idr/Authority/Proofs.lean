/-
Idr/Authority/Proofs.lean

The proofs of a command inside the transaction.

Three checks stand between a proof and its use.  The proofs a command
carries are verified under the current trust root
(`verifyProofsInsideTransaction`); the proofs that the bound admission
rests on are verified again before the commands that use it
(`reverifyBoundActionAdmissionProofs`); and none may have been consumed
before (`checkProofReplay`).

The second check compares what a bound proof claims with the scope, the
purpose and the policy revision of the command at hand.
`AdmissionVerifies` leaves that comparison out: it says that each bound
proof still verifies as the proof it is.
-/
import Idr.Authority.Attestation
import Mathlib.Data.Finset.Card

namespace Idr

/-! ### What a proof asserts -/

/-- The field and the value that a proof of a kind asserts. -/
def expectedAssertion : ProductionProofKindV1 → Text × Text
  | .callerAuthentication => ("outcome", "authenticate")
  | .exactAuthorization => ("decision", "approve")
  | .inputAdmission => ("outcome", "admit")
  | .contextSnapshot => ("outcome", "attest")
  | .intentFastPathAdmission | .decisionNecessityAdmission | .turnCoordinationAdmission =>
    ("outcome", "admit")
  | .responsePolicy | .responseAdmission | .authority | .capability | .policy | .actionAdmission =>
    ("outcome", "allow")
  | .executionPermit => ("outcome", "issue")
  | .providerReceipt => ("outcome", "attest")
  | .outcomeObservation => ("outcome", "observe")
  | .humanModelPromotion => ("outcome", "promote")
  | .humanModelUserConfirmation => ("outcome", "confirm")
  | .humanModelCorrection => ("outcome", "correct")

/-- `proof_assertion_allows`. -/
def proofAssertionAllows (claims : ProductionProofClaimsV1) : Bool :=
  let expected := expectedAssertion claims.proofKind
  (claims.assertion.get expected.1).bind Value.asStr = some expected.2

variable [Crypto]

/-- `expected_principal_digest`. -/
def expectedPrincipalDigest (command : IdrCommandEnvelopeV1) : Except IdrRuntimeErrorV1 Text :=
  fromProtocol (canonicalDigestV1 "idr-command-principal-v1" (command.actorRef, command.callerRef))

namespace PostgresIdrOrchestratorV1

/-! ### The proofs of a command -/

omit [Crypto] in
/-- The proof that is expected of a kind, for a command and a subject. -/
def expectedProof (self : PostgresIdrOrchestratorV1) (command : IdrCommandEnvelopeV1)
    (proofKind : ProductionProofKindV1) (issuerRef subjectRef : ReferenceV1)
    (subjectDigest : Text) : ExpectedProductionProofV1 where
  trustDomain := self.trustDomain
  environmentRef := self.environmentRef
  proofKind := proofKind
  issuerRef := issuerRef
  subjectRef := subjectRef
  subjectDigest := subjectDigest
  audienceRef := self.audienceRef
  tenantRef := command.tenantRef
  scopeRef := command.scopeRef
  purposeRef := command.purposeRef
  policyRevisionRef := command.policyRevisionRef

/-- The verification of one proof of a command. -/
def verifyCommandProof (self : PostgresIdrOrchestratorV1) (command : IdrCommandEnvelopeV1)
    (trustedNow : Nat) (trustRoot : TrustRootSnapshotV1) (subject : ReferenceV1 × Text)
    (proof : ProductionProofEnvelopeV1) : Except IdrRuntimeErrorV1 VerifiedProductionProofV1 := do
  let kind := proof.claims.proofKind
  let issuerRef ← okOr (self.expectedIssuers.lookup kind) .missingRequiredProof
  fromProtocol (trustRoot.verifyAt proof
    (self.expectedProof command kind issuerRef subject.1 subject.2) trustedNow)

/-- `verify_proofs_inside_transaction`. -/
def verifyProofsInsideTransaction (self : PostgresIdrOrchestratorV1)
    (command : IdrCommandEnvelopeV1) (trustedNow : Nat) (trustRoot : TrustRootSnapshotV1) :
    Except IdrRuntimeErrorV1 (List VerifiedProductionProofV1) := do
  let required := command.requiredProofKinds
  let found := (command.proofs.map (·.claims.proofKind)).toFinset
  rejectIf (found ≠ required ∨ command.proofs.length ≠ required.card) .missingRequiredProof
  let principalDigest ← expectedPrincipalDigest command
  rejectIf (command.proofs.any (fun proof =>
      !proofAssertionAllows proof.claims || proof.claims.principalDigest ≠ principalDigest) = true)
    .bindingMismatch
  let subject ← command.proofSubject
  command.proofs.mapM (self.verifyCommandProof command trustedNow trustRoot subject)

/-! ### The proofs of the bound admission -/

omit [Crypto] in
/-- The envelope of a proof, as this orchestrator finds it. -/
def boundEnvelope (self : PostgresIdrOrchestratorV1) (db : DatabaseV1) (proofId : Uuid) :
    Option ProductionProofEnvelopeV1 :=
  (db.proofEnvelopes.find? fun row => row.proofId = proofId
    && row.trustDomain = self.trustDomain
    && row.environmentRef = self.environmentRef).map (·.envelope)

/-- One turn of the loop over the kinds of the bound proofs. -/
def reverifyBoundProof (self : PostgresIdrOrchestratorV1) (db : DatabaseV1)
    (admission : ActionAdmissionProjectionV1) (command : IdrCommandEnvelopeV1) (trustedNow : Nat)
    (trustRoot : TrustRootSnapshotV1) (proofKind : ProductionProofKindV1) :
    Except IdrRuntimeErrorV1 Unit := do
  let binding ← okOr (admission.proofBindings.lookup proofKind) .actionNotAdmitted
  let envelope ← okOr (self.boundEnvelope db binding.proofId) .actionNotAdmitted
  let claims := envelope.claims
  let issuerRef ← okOr (self.expectedIssuers.lookup proofKind) .missingRequiredProof
  rejectIf (claims.proofId ≠ binding.proofId
      ∨ claims.proofKind ≠ proofKind
      ∨ claims.expiresAt ≠ binding.validUntil
      ∨ claims.tenantRef ≠ command.tenantRef
      ∨ claims.scopeRef ≠ command.scopeRef
      ∨ claims.purposeRef ≠ command.purposeRef
      ∨ claims.policyRevisionRef ≠ command.policyRevisionRef
      ∨ proofAssertionAllows claims = false)
    .actionNotAdmitted
  match trustRoot.verifyAt envelope
      (self.expectedProof command proofKind issuerRef claims.subjectRef claims.subjectDigest)
      trustedNow with
  | .ok _ => .ok ()
  | .error _ => .error .actionNotAdmitted

/-- `reverify_bound_action_admission_proofs`. -/
def reverifyBoundActionAdmissionProofs (self : PostgresIdrOrchestratorV1) (db : DatabaseV1)
    (projection : IdrRunProjectionV1) (command : IdrCommandEnvelopeV1) (trustedNow : Nat)
    (trustRoot : TrustRootSnapshotV1) : Except IdrRuntimeErrorV1 Unit :=
  if reverifiesAdmission command.command = true then do
    let admission ← okOr projection.actionAdmission .actionNotAdmitted
    rejectIf (admission.proofBindings.length ≠ actionAdmissionProofKindsV1.length
        ∨ (admission.proofBindings.lookup .exactAuthorization).all (fun binding =>
          binding.proofId ≠ admission.exactAuthorizationProofId
            || binding.validUntil ≠ admission.authorizationValidUntil) = true)
      .actionNotAdmitted
    actionAdmissionProofKindsV1.forM
      (self.reverifyBoundProof db admission command trustedNow trustRoot)
  else .ok ()

omit [Crypto] in
/-- The proof that a bound proof is by its own claims. -/
def ownProof (self : PostgresIdrOrchestratorV1) (claims : ProductionProofClaimsV1)
    (proofKind : ProductionProofKindV1) (issuerRef : ReferenceV1) : ExpectedProductionProofV1 where
  trustDomain := self.trustDomain
  environmentRef := self.environmentRef
  proofKind := proofKind
  issuerRef := issuerRef
  subjectRef := claims.subjectRef
  subjectDigest := claims.subjectDigest
  audienceRef := self.audienceRef
  tenantRef := claims.tenantRef
  scopeRef := claims.scopeRef
  purposeRef := claims.purposeRef
  policyRevisionRef := claims.policyRevisionRef

/-- A bound proof verifies as the proof it is, whatever the command at hand. -/
def boundProofVerifies (self : PostgresIdrOrchestratorV1) (db : DatabaseV1)
    (admission : ActionAdmissionProjectionV1) (trustedNow : Nat)
    (trustRoot : TrustRootSnapshotV1) (proofKind : ProductionProofKindV1) : Bool :=
  (admission.proofBindings.lookup proofKind).any fun binding =>
    (self.boundEnvelope db binding.proofId).any fun envelope =>
      (self.expectedIssuers.lookup proofKind).any fun issuerRef =>
        envelope.claims.proofId = binding.proofId
          && envelope.claims.proofKind = proofKind
          && envelope.claims.expiresAt = binding.validUntil
          && proofAssertionAllows envelope.claims
          && isOkAnd
            (trustRoot.verifyAt envelope (self.ownProof envelope.claims proofKind issuerRef)
            trustedNow) fun _ => true

/-- Every proof that the admission rests on verifies. -/
def AdmissionVerifies (self : PostgresIdrOrchestratorV1) (db : DatabaseV1)
    (admission : ActionAdmissionProjectionV1) (trustedNow : Nat)
    (trustRoot : TrustRootSnapshotV1) : Prop :=
  admission.proofBindings.length = actionAdmissionProofKindsV1.length
    ∧ (admission.proofBindings.lookup .exactAuthorization).any (fun binding =>
        binding.proofId = admission.exactAuthorizationProofId
          && binding.validUntil = admission.authorizationValidUntil) = true
    ∧ ∀ kind ∈ actionAdmissionProofKindsV1,
        self.boundProofVerifies db admission trustedNow trustRoot kind = true

instance (self : PostgresIdrOrchestratorV1) (db : DatabaseV1)
    (admission : ActionAdmissionProjectionV1) (trustedNow : Nat)
    (trustRoot : TrustRootSnapshotV1) :
    Decidable (self.AdmissionVerifies db admission trustedNow trustRoot) := by
  unfold AdmissionVerifies
  infer_instance

end PostgresIdrOrchestratorV1

/-! ### Replay -/

omit [Crypto] in
/-- The row consumes the proof id, or the nonce for the tenant, in the domain and environment. -/
def ConsumptionRow.consumes (row : ConsumptionRow) (trustDomain : TrustDomainV1)
    (environmentRef : ReferenceV1) (tenantRef : Text) (proofId : Uuid) (nonce : Text) : Bool :=
  row.trustDomain = trustDomain && row.environmentRef = environmentRef
    && (row.proofId = proofId || (row.tenantRef = tenantRef && row.nonce = nonce))

omit [Crypto] in
/-- `check_proof_replay`. -/
def checkProofReplay (db : DatabaseV1) (command : IdrCommandEnvelopeV1)
    (proofs : List VerifiedProductionProofV1) (trustDomain : TrustDomainV1) :
    Except IdrRuntimeErrorV1 Unit :=
  proofs.forM fun proof =>
    rejectIf (db.proofConsumptions.any (·.consumes trustDomain command.environmentRef
      command.tenantRef.asStr proof.proofId proof.nonce) = true) .proofReplay

/-! ### What verification establishes -/

/-- **What a verified proof is**: it repeats the claims of its envelope, which name the domain and
the environment of the orchestrator and the tenant of the command. -/
structure VerifiedFrom (o : PostgresIdrOrchestratorV1) (command : IdrCommandEnvelopeV1)
    (envelope : ProductionProofEnvelopeV1) (proof : VerifiedProductionProofV1) : Prop where
  proofId : proof.proofId = envelope.claims.proofId
  nonce : proof.nonce = envelope.claims.nonce
  proofKind : proof.proofKind = envelope.claims.proofKind
  expiresAt : proof.expiresAt = envelope.claims.expiresAt
  trustDomain : proof.trustDomain = envelope.claims.trustDomain
  claimsDomain : envelope.claims.trustDomain = o.trustDomain
  claimsEnvironment : envelope.claims.environmentRef = o.environmentRef
  tenantRef : envelope.claims.tenantRef = command.tenantRef
  assertion : proofAssertionAllows envelope.claims = true

theorem verifyProofsInsideTransaction_eq_ok {o : PostgresIdrOrchestratorV1}
    {command : IdrCommandEnvelopeV1} {now : Nat} {root : TrustRootSnapshotV1}
    {proofs : List VerifiedProductionProofV1}
    (h : o.verifyProofsInsideTransaction command now root = .ok proofs) :
    (command.proofs.map (·.claims.proofKind)).toFinset = command.requiredProofKinds ∧
      command.proofs.length = command.requiredProofKinds.card ∧
      List.Forall₂ (VerifiedFrom o command) command.proofs proofs := by
  simp only [PostgresIdrOrchestratorV1.verifyProofsInsideTransaction, bind_eq_ok, rejectIf_eq_ok,
    exists_const, not_or, not_not] at h
  obtain ⟨⟨hkinds, hcount⟩, digest, -, hallowed, subject, -, hproofs⟩ := h
  refine ⟨hkinds, hcount, forall₂_of_mapM_eq_ok hproofs ?_⟩
  intro envelope henvelope proof hproof
  have hassertion : proofAssertionAllows envelope.claims = true := by
    by_contra hno
    apply hallowed
    rw [List.any_eq_true]
    exact ⟨envelope, henvelope, by simp [hno]⟩
  simp only [PostgresIdrOrchestratorV1.verifyCommandProof, bind_eq_ok, okOr_eq_ok,
    fromProtocol_eq_ok] at hproof
  obtain ⟨issuer, -, hverify⟩ := hproof
  have hexpected := TrustRootSnapshotV1.verifyAt_expected hverify
  obtain ⟨hid, hnonce, hdomain, hkind, hexpires, -, htenant⟩ :=
    TrustRootSnapshotV1.verifyAt_eq_ok hverify
  exact ⟨hid, hnonce, hkind, hexpires, hdomain, hexpected.1, hexpected.2, htenant, hassertion⟩

end Idr
