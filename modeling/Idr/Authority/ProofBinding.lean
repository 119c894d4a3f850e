/-
Idr/Authority/ProofBinding.lean

Proofs are bound to their command.

Every proof of a command is about the digest of the unsigned command, and
verification compares the digest that a proof claims with the digest of the
command at hand.  A command always requires a proof of its caller; so a
proof that is accepted for two commands has claimed both digests, and the
digest determines every field of the command except the proofs attached to
it (`proofs_bound_to_command`).
-/
import Idr.Authority.Refinement
import Idr.TrustChain.ProofTarget

namespace Idr

/-- The domain under which unsigned commands are hashed. -/
def unsignedCommandDomain : Text := "idr-unsigned-command-envelope-v1"

section

variable [Crypto]

/-- The digest that a proof for a command is about. -/
theorem proofSubject_eq_ok {command : IdrCommandEnvelopeV1} {subject : ReferenceV1 × Text}
    (h : command.proofSubject = .ok subject) :
    canonicalDigestV1 unsignedCommandDomain (IdrCommandEnvelopeV1.Unsigned.mk command) =
      .ok subject.2 := by
  simp only [IdrCommandEnvelopeV1.proofSubject, bind_eq_ok, fromProtocol_eq_ok] at h
  obtain ⟨digest, hdigest, reference, -, hsubject⟩ := h
  cases hsubject
  exact hdigest

/-- A verified proof is about what was expected. -/
theorem TrustRootSnapshotV1.verifyAt_subjectDigest {root : TrustRootSnapshotV1}
    {envelope : ProductionProofEnvelopeV1} {expected : ExpectedProductionProofV1} {now : Nat}
    {proof : VerifiedProductionProofV1} (h : root.verifyAt envelope expected now = .ok proof) :
    envelope.claims.subjectDigest = expected.subjectDigest := by
  simp only [TrustRootSnapshotV1.verifyAt, bind_eq_ok, rejectIf_eq_ok, okOr_eq_ok,
    exists_unit_eq_ok, exists_const, not_or] at h
  obtain ⟨-, key, -, hclaims, -⟩ := h
  exact not_not.mp (by tauto)

/-- **Each accepted proof claims the digest of the unsigned command.** -/
theorem verifyProofs_subjectDigest {o : PostgresIdrOrchestratorV1} {command : IdrCommandEnvelopeV1}
    {now : Nat} {root : TrustRootSnapshotV1} {proofs : List VerifiedProductionProofV1}
    (h : o.verifyProofsInsideTransaction command now root = .ok proofs)
    {envelope : ProductionProofEnvelopeV1} (henvelope : envelope ∈ command.proofs) :
    canonicalDigestV1 unsignedCommandDomain (IdrCommandEnvelopeV1.Unsigned.mk command) =
      .ok envelope.claims.subjectDigest := by
  simp only [PostgresIdrOrchestratorV1.verifyProofsInsideTransaction, bind_eq_ok] at h
  obtain ⟨-, -, principalDigest, -, -, -, subject, hsubject, hproofs⟩ := h
  obtain ⟨proof, hproof⟩ := exists_of_mapM_eq_ok hproofs henvelope
  simp only [PostgresIdrOrchestratorV1.verifyCommandProof, bind_eq_ok, okOr_eq_ok,
    fromProtocol_eq_ok] at hproof
  obtain ⟨issuer, -, hverify⟩ := hproof
  have hdigest := TrustRootSnapshotV1.verifyAt_subjectDigest hverify
  rw [proofSubject_eq_ok hsubject, hdigest]
  rfl

/-- A command is only accepted with a proof of its caller. -/
theorem exists_mem_proofs {o : PostgresIdrOrchestratorV1} {command : IdrCommandEnvelopeV1}
    {now : Nat} {root : TrustRootSnapshotV1} {proofs : List VerifiedProductionProofV1}
    (h : o.verifyProofsInsideTransaction command now root = .ok proofs) :
    ∃ envelope, envelope ∈ command.proofs := by
  obtain ⟨hkinds, -, -⟩ := verifyProofsInsideTransaction_eq_ok h
  have hcaller : ProductionProofKindV1.callerAuthentication ∈
      (command.proofs.map (·.claims.proofKind)).toFinset := by
    rw [hkinds]
    exact Finset.mem_insert_self _ _
  obtain ⟨envelope, henvelope, -⟩ := List.mem_map.mp (List.mem_toFinset.mp hcaller)
  exact ⟨envelope, henvelope⟩

/-- **Proofs cannot be moved to another command.**  Two commands that differ in anything but the
proofs attached to them are never both accepted with the same proofs: not at another time, not
under another trust root and not by another orchestrator. -/
theorem proofs_bound_to_command {o o' : PostgresIdrOrchestratorV1}
    {c c' : IdrCommandEnvelopeV1} {now now' : Nat} {root root' : TrustRootSnapshotV1}
    {proofs : List VerifiedProductionProofV1}
    (haccepted : o.verifyProofsInsideTransaction c now root = .ok proofs)
    (hsame : c'.proofs ⊆ c.proofs) (hdiffer : c.bare ≠ c'.bare)
    (hfree : CollisionFree unsignedCommandDomain unsignedCommandDomain
      (IdrCommandEnvelopeV1.Unsigned.mk c) (IdrCommandEnvelopeV1.Unsigned.mk c')) :
    ∀ proofs', o'.verifyProofsInsideTransaction c' now' root' ≠ .ok proofs' := by
  intro proofs' haccepted'
  obtain ⟨envelope, henvelope⟩ := exists_mem_proofs haccepted'
  have hdigest' := verifyProofs_subjectDigest haccepted' henvelope
  have hdigest := verifyProofs_subjectDigest haccepted (hsame henvelope)
  have hvalue := canonicalDigestV1_determined hdigest hdigest' hfree
  exact hdiffer (IdrCommandEnvelopeV1.unsigned_determined hvalue)

end

/-! ### A sample -/

namespace Sample

/-- The first command, its proofs attached to another correlation. -/
def movedCommand : IdrCommandEnvelopeV1 :=
  { firstCall.command with correlationRef := tenant }

/-- The proofs of the first command verify, and the two commands have different digests. -/
def firstVerifies : Bool :=
  let _ := crypto
  isOkAnd (orchestrator.verifyProofsInsideTransaction firstCall.command firstCall.trustedNow
      firstCall.trustRoot) (fun _ => true)
    && decide (firstCall.command.bare ≠ movedCommand.bare)
    && decide (canonicalDigestV1 unsignedCommandDomain
        (IdrCommandEnvelopeV1.Unsigned.mk firstCall.command) ≠
      canonicalDigestV1 unsignedCommandDomain (IdrCommandEnvelopeV1.Unsigned.mk movedCommand))

set_option maxRecDepth 20000 in
theorem firstVerifies_true : firstVerifies = true := by
  decide +kernel

end Sample

/-- The proofs of the sample command are refused for the command with another correlation. -/
theorem proofs_bound_to_command_sample : let _ := Sample.crypto
    ∀ proofs, Sample.orchestrator.verifyProofsInsideTransaction Sample.movedCommand
      Sample.firstCall.trustedNow Sample.firstCall.trustRoot ≠ .ok proofs := by
  intro crypto
  have hsample := Sample.firstVerifies_true
  simp only [Sample.firstVerifies, Bool.and_eq_true, decide_eq_true_eq] at hsample
  obtain ⟨⟨hverifies, hdiffer⟩, hdigests⟩ := hsample
  obtain ⟨proofs, hproofs, -⟩ := isOkAnd_iff.mp hverifies
  exact proofs_bound_to_command hproofs (fun _ h => h) hdiffer (.of_digest_ne hdigests)

end Idr
