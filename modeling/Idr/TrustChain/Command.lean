/-
Idr/TrustChain/Command.lean

Commands: the submitted candidate, the proofs a command requires, its
shape check and its proof target.

A set of proof kinds is a `Finset`; the comparison of the presented with
the required kinds is an equality of sets, as in the source.
-/
import Idr.TrustChain.Types
import Mathlib.Data.Finset.Basic

namespace Idr

/-- `IDR_MAX_RENDERED_BYTES_V1`. -/
def idrMaxRenderedBytesV1 : Nat := 1048576

/-- `IDR_MAX_IDEMPOTENCY_KEY_BYTES_V1`. -/
def idrMaxIdempotencyKeyBytesV1 : Nat := 256

namespace IdrCommandV1

/-! ### What a command carries -/

/-- `candidate`: the submission inside a command. -/
def candidate : IdrCommandV1 → Option CandidateSubmissionV1
  | startRun input => some input
  | recordContext context => some context
  | recordIntent intent => some intent
  | recordDecision decision => some decision
  | recordTurn turn => some turn
  | recordResponse response => some response
  | recordAction action => some action
  | commitExecutionReceipt receipt _ _ _ _ _ => some receipt
  | recordOutcome outcome => some outcome
  | proposeHumanModelCandidate candidate => some candidate
  | recordHumanModelPromotion decision _ => some decision
  | promoteHumanModelAssertion assertion _ => some assertion
  | correctHumanModelAssertion _ correction => some correction
  | _ => none

/-- `expected_candidate_kind`. -/
def expectedCandidateKind : IdrCommandV1 → Option CandidateKindV1
  | startRun _ => some .canonicalInput
  | recordContext _ => some .contextSnapshot
  | recordIntent _ => some .intent
  | recordDecision _ => some .decision
  | recordTurn _ => some .turnCoordination
  | recordResponse _ => some .response
  | recordAction _ => some .action
  | commitExecutionReceipt _ _ _ _ _ _ => some .executionReceipt
  | recordOutcome _ => some .outcome
  | proposeHumanModelCandidate _ => some .humanModelCandidate
  | recordHumanModelPromotion _ _ => some .humanModelPromotionDecision
  | promoteHumanModelAssertion _ _ => some .humanModelAssertion
  | correctHumanModelAssertion _ _ => some .humanModelAssertion
  | _ => none

/-- `required_proof_kinds` of a command, without the caller authentication. -/
def requiredProofKinds : IdrCommandV1 → Finset ProductionProofKindV1
  | startRun _ => {.inputAdmission}
  | recordContext _ => {.contextSnapshot}
  | recordIntent _ => {.intentFastPathAdmission}
  | recordDecision _ => {.decisionNecessityAdmission}
  | recordTurn _ => {.turnCoordinationAdmission}
  | recordResponse _ => ∅
  | consumeResponseSend _ _ _ _ _ => {.responsePolicy, .responseAdmission}
  | recordAction _ => ∅
  | admitAction _ _ _ _ _ =>
    {.capability, .authority, .policy, .exactAuthorization, .actionAdmission}
  | reserveExecution _ _ _ _ _ _ _ _ _ => {.executionPermit}
  | recoverPermit _ => {.executionPermit}
  | deliverPermit _ _ => {.executionPermit}
  | startDispatch _ _ => {.executionPermit}
  | expireExecutionLease _ => {.executionPermit}
  | cancelRun _ => {.authority}
  | commitExecutionReceipt _ _ _ _ _ _ => {.providerReceipt}
  | reconcileExecution _ _ => {.providerReceipt}
  | invalidateRecord _ _ => {.policy}
  | recordOutcome _ => {.outcomeObservation}
  | proposeHumanModelCandidate _ => {.outcomeObservation}
  | recordHumanModelPromotion decision _ =>
    let outcome := (decision.payload.get "outcome").bind Value.asStr
    {.humanModelPromotion} ∪
      (if outcome = some "promote_user_confirmed" then {.humanModelUserConfirmation} else ∅) ∪
      (if outcome = some "promote_outcome_supported" then {.outcomeObservation} else ∅)
  | promoteHumanModelAssertion _ _ => {.humanModelPromotion}
  | correctHumanModelAssertion _ _ => {.humanModelCorrection}

/-- `explicit_digests`: the digests a command carries outside its candidate. -/
def explicitDigests : IdrCommandV1 → List Text
  | consumeResponseSend _ _ _ _ sendNonce => [sendNonce]
  | admitAction _ actionDigest _ _ _ => [actionDigest]
  | reserveExecution _ _ actionDigest _ _ _ _ _ dispatchNonce => [actionDigest, dispatchNonce]
  | commitExecutionReceipt _ _ _ _ dispatchNonce _ => [dispatchNonce]
  | _ => []

/-- The bound on idempotency keys: not empty, at most 256 bytes, no control character. -/
def validIdempotencyKey (key : Text) : Bool :=
  byteLen key ≠ 0 && byteLen key ≤ idrMaxIdempotencyKeyBytesV1 && !(scalarValues key).any isControl

/-- `validate_budgets`. -/
def validateBudgets : IdrCommandV1 → Except IdrRuntimeErrorV1 Unit
  | consumeResponseSend _ renderedBytes _ _ _ =>
    rejectIf (renderedBytes.length > idrMaxRenderedBytesV1) .invalidCommand
  | admitAction _ _ _ _ idempotencyKey =>
    rejectIf (validIdempotencyKey idempotencyKey = false) .invalidCommand
  | reserveExecution _ _ _ _ _ idempotencyKey _ _ _ =>
    rejectIf (validIdempotencyKey idempotencyKey = false) .invalidCommand
  | _ => .ok ()

end IdrCommandV1

namespace IdrCommandEnvelopeV1

/-! ### The shape check -/

/-- The loop over the proofs of an envelope: well-formed, of its trust domain, and with proof ids
and nonces that do not repeat. -/
def validateProofs (trustDomain : TrustDomainV1) :
    List ProductionProofEnvelopeV1 → List Uuid → List Text → Except IdrRuntimeErrorV1 Unit
  | [], _, _ => .ok ()
  | proof :: proofs, proofIds, nonces => do
    fromProtocol proof.validateShape
    rejectIf (proof.claims.trustDomain ≠ trustDomain
        ∨ proof.claims.proofId ∈ proofIds
        ∨ proof.claims.nonce ∈ nonces)
      .proofReplay
    validateProofs trustDomain proofs (proof.claims.proofId :: proofIds)
      (proof.claims.nonce :: nonces)

/-- The candidate of a command belongs to the envelope it is submitted in. -/
def validateCandidate (self : IdrCommandEnvelopeV1) : Except IdrRuntimeErrorV1 Unit :=
  match self.command.candidate with
  | none => .ok ()
  | some candidate => do
    fromProtocol candidate.validate
    rejectIf (candidate.runId ≠ self.runId
        ∨ candidate.tenantRef ≠ self.tenantRef
        ∨ candidate.scopeRef ≠ self.scopeRef
        ∨ candidate.purposeRef ≠ self.purposeRef
        ∨ candidate.policyRevisionRef ≠ self.policyRevisionRef
        ∨ some candidate.candidateKind ≠ self.command.expectedCandidateKind)
      .invalidCommand

/-- `IdrCommandEnvelopeV1::validate`. -/
def validate (self : IdrCommandEnvelopeV1) : Except IdrRuntimeErrorV1 Unit := do
  rejectIf (self.commandId.isNil = true
      ∨ self.runId.isNil = true
      ∨ self.expectedAggregateVersion > 9007199254740991
      ∨ self.proofs.length > 32)
    .invalidCommand
  validateProofs self.trustDomain self.proofs [] []
  self.validateCandidate
  rejectIf (self.command.explicitDigests.any (fun digest => !validDigest digest) = true)
    .invalidCommand
  self.command.validateBudgets

/-- `required_proof_kinds`: every command also needs a caller authentication. -/
def requiredProofKinds (self : IdrCommandEnvelopeV1) : Finset ProductionProofKindV1 :=
  insert .callerAuthentication self.command.requiredProofKinds

/-! ### Digests -/

/-- `UnsignedCommandEnvelopeV1`: an envelope serialized without its proofs. -/
structure Unsigned where
  envelope : IdrCommandEnvelopeV1

instance : Serialize Unsigned := ⟨fun self => .object (unsignedCommandFields self.envelope)⟩

variable [Crypto]

/-- `canonical_digest`: the storage digest of the whole envelope. -/
def canonicalDigest (self : IdrCommandEnvelopeV1) : Except IdrRuntimeErrorV1 Text :=
  fromProtocol (canonicalDigestV1 "idr-command-envelope-v1" self)

/-- `proof_subject`: the reference and the digest a proof for this command is about. -/
def proofSubject (self : IdrCommandEnvelopeV1) : Except IdrRuntimeErrorV1 (ReferenceV1 × Text) :=
  do
  let digest ← fromProtocol
    (canonicalDigestV1 "idr-unsigned-command-envelope-v1" (Unsigned.mk self))
  let subject ← fromReference (ReferenceV1.new ("command:" ++ self.commandId.toString))
  .ok (subject, digest)

end IdrCommandEnvelopeV1

end Idr
