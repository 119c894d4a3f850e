/-
Idr/TrustChain/Closure.lean

The two ways in which a transition withdraws what rests on a record: the
invalidation closure the repository computes, and the revocation of the
proofs an admission is bound to.

`applyRepositoryInvalidationClosure` takes the references the repository
found and works through them one by one; `closeRecord` is the body of that
loop.  `actionAdmissionProofFailure` is the transition that takes the
place of the evaluator's when a bound proof no longer verifies.
-/
import Idr.TrustChain.Evaluate

namespace Idr

/-! ### Invalidation closure -/

/-- Drop every binding of the projection that refers to an invalidated record. -/
def clearBindings (projection : IdrRunProjectionV1) (record : AuthoritativeRecordRefV1) :
    IdrRunProjectionV1 :=
  match record.candidateKind with
  | .decision =>
    { projection with
      decisionBinding := projection.decisionBinding.filter (·.decisionRef ≠ record) }
  | .response =>
    { projection with
      responseBinding := projection.responseBinding.filter (·.responseRef ≠ record) }
  | .action =>
    { projection with
      actionBinding := projection.actionBinding.filter (·.actionRef ≠ record)
      actionAdmission := projection.actionAdmission.filter (·.actionRef ≠ record) }
  | .actionAdmissionDecision =>
    { projection with
      actionAdmission := projection.actionAdmission.filter (·.admissionRef ≠ record) }
  | .outcome =>
    if projection.outcomeBinding = some record then
      { projection with
        outcomeBinding := none
        humanModelCandidate := projection.humanModelCandidate.filter (·.outcomeRef ≠ record)
        humanModelPromotion := projection.humanModelPromotion.filter (·.outcomeRef ≠ record) }
    else projection
  | .humanModelCandidate =>
    if projection.humanModelCandidate.any (·.candidateRef = record) = true then
      { projection with
        humanModelCandidate := none
        humanModelPromotion :=
          projection.humanModelPromotion.filter (·.sourceCandidateRef ≠ record) }
    else projection
  | .humanModelPromotionDecision =>
    { projection with
      humanModelPromotion := projection.humanModelPromotion.filter (·.decisionRef ≠ record) }
  | _ => projection

/-- What becomes of an execution whose action is invalidated by the closure. -/
def invalidatedState (state : ExecutionAggregateStateV1) : ExecutionAggregateStateV1 :=
  match state with
  | .dispatchStarted | .awaitingProvider | .reconciliationRequired => .reconciliationRequired
  | state => if state.isTerminal then state else .cancelled

/-- The execution after its action may have been invalidated. -/
def closeExecution (record : AuthoritativeRecordRefV1) (execution : ExecutionProjectionV1) :
    ExecutionProjectionV1 :=
  if execution.actionRef = record then
    { execution with state := invalidatedState execution.state }
  else execution

/-- The body of the loop over the closure: one invalidated record. -/
def closeRecord (projection : IdrRunProjectionV1) (record : AuthoritativeRecordRefV1) :
    IdrRunProjectionV1 :=
  let projection := clearBindings
    { projection with
      invalidatedRecords := insertRecordRef record projection.invalidatedRecords } record
  { projection with execution := projection.execution.map (closeExecution record) }

/-- The run state after the closure. -/
def closeRunState (projection : IdrRunProjectionV1) (invalidateRun : Bool) : IdrRunStateV1 :=
  if invalidateRun = true then .invalidated
  else if projection.execution.any (·.state = .reconciliationRequired) = true then
    .reconciliationRequired
  else projection.state

/-- `apply_repository_invalidation_closure`, on the projection of the transition. -/
def applyRepositoryInvalidationClosure (projection : IdrRunProjectionV1)
    (records : List AuthoritativeRecordRefV1) (invalidateRun : Bool) : IdrRunProjectionV1 :=
  let projection := records.foldl closeRecord projection
  { projection with state := closeRunState projection invalidateRun }

/-! ### Revoked admission proofs -/

/-- The states in which an execution has crossed the dispatch boundary. -/
def crossedDispatchBoundary (state : ExecutionAggregateStateV1) : Bool :=
  state ∈ [.dispatchStarted, .awaitingProvider, .reconciliationRequired, .succeeded, .failed,
    .rejected, .compensated]

/-- `action_admission_proof_failure`. -/
def actionAdmissionProofFailure (projection : IdrRunProjectionV1) (command : IdrCommandEnvelopeV1)
    (verifiedProofs : List VerifiedProductionProofV1) :
    Except IdrRuntimeErrorV1 IdrTransitionV1 := do
  let admission ← okOr projection.actionAdmission .actionNotAdmitted
  let aggregateVersion ← okOr (checkedAddU64 projection.aggregateVersion 1) .serialization
  let lastEventSequence ← okOr (checkedAddU64 projection.lastEventSequence 1) .serialization
  let crossed := projection.execution.any fun execution => crossedDispatchBoundary execution.state
  let projection := { projection.setExecutionState fun _ =>
      if crossed = true then .reconciliationRequired else .cancelled with
    aggregateVersion
    lastEventSequence
    state := if crossed = true then .reconciliationRequired else .waitingAuthorization }
  .ok {
    projection
    authoritativeRecord := none
    eventType :=
      if crossed = true then "action_admission_proof_revoked_reconciliation_required"
      else "action_admission_proof_revoked_cancelled"
    eventPayload := .object [
      ("requested_command", toValue command.command),
      ("failed_admission_ref", toValue admission.admissionRef),
      ("governance_disposition",
        .string (if crossed = true then "reconciliation_required" else "cancelled"))]
    consumedProofIds := verifiedProofs.map VerifiedProductionProofV1.proofId
    consumedNonces := verifiedProofs.map VerifiedProductionProofV1.nonce }

end Idr
