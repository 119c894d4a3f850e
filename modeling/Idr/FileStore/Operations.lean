/-
Idr/FileStore/Operations.lean

The operations of the file store, on a snapshot that was loaded.

An operation either fails and leaves the snapshot, or plans what follows:
the candidate to be stored, if there is one, and what is returned once it is
(`PlannedV1`).  An operation can store a candidate and return an error: an
attempt whose lease is over, or whose action was withdrawn, is ended in the
store before the caller is told.

The time and a fresh identifier are inputs of the model.
-/
import Idr.FileStore.Validate

namespace Idr

/-! ### Permits and results -/

/-- `ExecutionPermitV1`. -/
structure ExecutionPermitV1 where
  reservationId : Uuid
  permitId : HumanCenteredProofIdV1
  proofKeyId : ReferenceV1
  proofVerifiedAt : Nat
  issuedAt : Nat
  request : ExecutionPermitRequestV1
  deriving DecidableEq

/-- What an operation returns. -/
inductive StoreReplyV1
  | committed (reference : HumanCenteredContractRefV1)
  | alreadyCommitted (reference : HumanCenteredContractRefV1)
  | permit (permit : ExecutionPermitV1)
  | done
  | current (contract : Option HumanCenteredContractSnapshotV1)
  | invalidated (answer : Bool)
  | revisions (count : Nat)
  deriving DecidableEq

/-- A call of the store. -/
inductive StoreCallV1
  | commit (contract : HumanCenteredContractSnapshotV1)
  | commitExecutionReceipt (receipt : ExecutionReceiptV1) (proofEnvelope : SignedProofEnvelopeV1)
      (verifiedAt : Nat)
  | issueExecutionPermit (verifiedRequest : VerifiedExecutionPermitRequestV1) (reservationId : Uuid)
  | markExecutionPermitDelivered (permit : ExecutionPermitV1)
  | markExecutionDispatched (permit : ExecutionPermitV1)
  | recoverExecutionPermit (actionRef : HumanCenteredContractRefV1) (ownerRef : ReferenceV1)
  | loadCurrent (kind : HumanCenteredContractKindV1) (contractId : HumanCenteredContractIdV1)
  | isInvalidated (reference : HumanCenteredContractRefV1)
  | revisionCount
  deriving DecidableEq

/-- What an operation does with the snapshot it loaded: the candidate it stores, and the result it
returns when the candidate is stored. -/
structure PlannedV1 where
  candidate : Option HumanCenteredStoreSnapshotV1
  result : Except HumanCenteredStoreErrorV1 StoreReplyV1

/-- The plan that stores nothing. -/
def PlannedV1.reply (reply : StoreReplyV1) : PlannedV1 := ⟨none, .ok reply⟩

section Operations

variable [Crypto] [FloatText]

/-- The end of every operation that stores something. -/
def planSealed (candidate current : HumanCenteredStoreSnapshotV1)
    (result : Except HumanCenteredStoreErrorV1 StoreReplyV1) :
    Except HumanCenteredStoreErrorV1 PlannedV1 := do
  let candidate ← sealNextSnapshot candidate current
  validateSnapshot candidate
  .ok { candidate := some candidate, result }

/-! ### Commits -/

/-- `validate_receipt_proof_at`. -/
def validateReceiptProofAt (receipt : ExecutionReceiptV1) (proofEnvelope : SignedProofEnvelopeV1)
    (verifiedAt trustedNow : Nat) : Except HumanCenteredStoreErrorV1 Unit := do
  liftProtocol receipt.validate
  liftProtocol proofEnvelope.validateShape
  let expected ← liftProtocol receipt.expectedProviderProofBinding
  let claims := proofEnvelope.claims
  let subjectRef ← liftProtocol receipt.proofSubjectRef
  let reference ← liftProtocol receipt.recordRef
  rejectIf (claims.proofKind ≠ .providerExecutionReceipt
      ∨ claims.issuerRef ≠ receipt.providerRef
      ∨ claims.subjectRef ≠ subjectRef
      ∨ claims.subjectDigest ≠ reference.recordDigest
      ∨ claims.tenantRef ≠ expected.tenantRef
      ∨ claims.scopeRef ≠ expected.scopeRef
      ∨ claims.purposeRef ≠ expected.purposeRef
      ∨ claims.policyRevisionRef ≠ expected.policyRevisionRef
      ∨ claims.nonce ≠ receipt.dispatchNonce
      ∨ claims.issuedAt < receipt.completedAt
      ∨ trustedNow < receipt.completedAt
      ∨ trustedNow < claims.issuedAt
      ∨ trustedNow ≥ claims.expiresAt
      ∨ verifiedAt < claims.issuedAt
      ∨ verifiedAt ≥ claims.expiresAt
      ∨ verifiedAt > trustedNow)
    (.protocol .proofVerificationFailed)

/-- The new revision follows the current one, in the same context. -/
def checkPrevious (current : HumanCenteredStoreSnapshotV1)
    (contract : HumanCenteredContractSnapshotV1) (reference : HumanCenteredContractRefV1)
    (previous : Option HumanCenteredContractRefV1) : Except HumanCenteredStoreErrorV1 Unit :=
  match previous with
  | none =>
    require (reference.revision = 1 ∧ contract.metadata.predecessorRef = none) .staleCurrentPointer
  | some pointer => do
    require (pointer.kind = reference.kind
        ∧ checkedSucc pointer.revision = some reference.revision
        ∧ contract.metadata.predecessorRef = some pointer)
      .staleCurrentPointer
    let previousRecord ← okOr (findRecord current.records pointer) .corruptSnapshot
    require (lineageContextIsContinuous previousRecord.metadata contract.metadata = true)
      .crossObjectMismatch

/-- The dependency is the current revision of its contract, is not invalidated, and is on record. -/
def checkDependency (current : HumanCenteredStoreSnapshotV1)
    (dependency : HumanCenteredContractRefV1) : Except HumanCenteredStoreErrorV1 Unit :=
  rejectIf (previousPointer current.currentPointers dependency ≠ some dependency
      ∨ dependency ∈ current.invalidatedRefs
      ∨ current.records.any (·.isAt dependency) = false)
    .staleDependency

/-- `receipt_matches_attempt_parts`. -/
def receiptMatchesAttemptParts (receipt : ExecutionReceiptV1)
    (actionRef : HumanCenteredContractRefV1) (attempt : ExecutionAttemptRecordV1) : Bool :=
  receipt.actionRef = actionRef
    && receipt.permitId = attempt.permitId
    && receipt.authorizationId = attempt.authorization.authorizationId
    && receipt.providerRef = attempt.request.providerRef
    && receipt.ownerRef = attempt.request.ownerRef
    && receipt.dispatchNonce = attempt.request.dispatchNonce
    && receipt.attempt = attempt.attempt
    && receipt.idempotencyKey = attempt.request.idempotencyKey

/-- The status that a receipt settles its attempt in. -/
def settledStatus : ExecutionStateV1 → ExecutionReservationStatusV1
  | .succeeded => .succeeded
  | .failed => .failed
  | .partiallySucceeded => .partiallySucceeded
  | .rejected => .rejected
  | .compensated => .compensated

/-- The attempt, settled by a receipt. -/
def ExecutionAttemptRecordV1.settle (self : ExecutionAttemptRecordV1) (receipt : ExecutionReceiptV1)
    (receiptRef : HumanCenteredContractRefV1) (proofEnvelope : SignedProofEnvelopeV1)
    (verifiedAt : Nat) : ExecutionAttemptRecordV1 :=
  { self with
    status := settledStatus receipt.state
    receiptRef := some receiptRef
    receiptProofEnvelope := some proofEnvelope
    receiptVerifiedAt := some verifiedAt }

/-- The reservation, the attempt of the permit settled by a receipt. -/
def ExecutionReservationRecordV1.settle (self : ExecutionReservationRecordV1)
    (receipt : ExecutionReceiptV1) (receiptRef : HumanCenteredContractRefV1)
    (proofEnvelope : SignedProofEnvelopeV1) (verifiedAt : Nat) : ExecutionReservationRecordV1 :=
  { self with
    attempts := modifyFirst (fun attempt => attempt.permitId = receipt.permitId)
      (·.settle receipt receiptRef proofEnvelope verifiedAt) self.attempts }

/-- `apply_execution_receipt_transition`. -/
def applyExecutionReceiptTransition (snapshot : HumanCenteredStoreSnapshotV1)
    (receipt : ExecutionReceiptV1) (receiptRef : HumanCenteredContractRefV1)
    (proofEnvelope : SignedProofEnvelopeV1) (verifiedAt : Nat) :
    Except HumanCenteredStoreErrorV1 HumanCenteredStoreSnapshotV1 := do
  let reservation ← okOr (snapshot.executionReservations.find? fun reservation =>
      reservation.actionRef = receipt.actionRef)
    .executionReservationNotFound
  let attempt ← okOr (reservation.attempts.find? fun attempt => attempt.permitId = receipt.permitId)
    .executionReservationNotFound
  rejectIf (¬ (attempt.status = .dispatched ∨ attempt.status = .reconciliationRequired)
      ∨ receiptMatchesAttemptParts receipt reservation.actionRef attempt = false)
    .invalidExecutionTransition
  .ok { snapshot with
    executionReservations := modifyFirst
      (fun reservation => reservation.actionRef = receipt.actionRef)
      (·.settle receipt receiptRef proofEnvelope verifiedAt) snapshot.executionReservations }

/-- The revision that is replaced is withdrawn. -/
def withdrawPrevious (current : HumanCenteredStoreSnapshotV1)
    (previous : Option HumanCenteredContractRefV1) :
    Except HumanCenteredStoreErrorV1 HumanCenteredStoreSnapshotV1 :=
  match previous with
  | none => .ok current
  | some previous => invalidateDependents current previous

/-- A receipt settles its attempt. -/
def settleReceipt (candidate : HumanCenteredStoreSnapshotV1)
    (contract : HumanCenteredContractSnapshotV1) (reference : HumanCenteredContractRefV1)
    (receiptProof : Option (SignedProofEnvelopeV1 × Nat)) :
    Except HumanCenteredStoreErrorV1 HumanCenteredStoreSnapshotV1 :=
  match contract with
  | .executionReceipt receipt => do
    let (proofEnvelope, verifiedAt) ← okOr receiptProof .verifiedReceiptProofRequired
    applyExecutionReceiptTransition candidate receipt reference proofEnvelope verifiedAt
  | _ => .ok candidate

/-- The part of `commit_internal` that makes the candidate: the replaced revision is withdrawn, the
contract is added, and a receipt settles its attempt. -/
def commitCandidate (current : HumanCenteredStoreSnapshotV1)
    (contract : HumanCenteredContractSnapshotV1) (reference : HumanCenteredContractRefV1)
    (previous : Option HumanCenteredContractRefV1)
    (receiptProof : Option (SignedProofEnvelopeV1 × Nat)) :
    Except HumanCenteredStoreErrorV1 HumanCenteredStoreSnapshotV1 := do
  let candidate ← withdrawPrevious current previous
  let candidate := { candidate with records := candidate.records ++ [contract] }
  let candidate ← settleReceipt candidate contract reference receiptProof
  .ok { candidate with currentPointers := replacePointer candidate.currentPointers reference }

/-- Whether a contract is a receipt. -/
def isReceipt : HumanCenteredContractSnapshotV1 → Bool
  | .executionReceipt _ => true
  | _ => false

/-- What `commit_internal` checks before it loads the snapshot. -/
def commitPrecheck (contract : HumanCenteredContractSnapshotV1)
    (receiptProof : Option (SignedProofEnvelopeV1 × Nat)) :
    Except HumanCenteredStoreErrorV1 HumanCenteredContractRefV1 := do
  rejectIf (isReceipt contract ≠ receiptProof.isSome) .verifiedReceiptProofRequired
  liftProtocol contract.validate
  liftProtocol contract.recordRef

/-- The proof of a receipt, checked at the time of the commit. -/
def checkReceiptProof (clock : Option Nat) (contract : HumanCenteredContractSnapshotV1)
    (receiptProof : Option (SignedProofEnvelopeV1 × Nat)) : Except HumanCenteredStoreErrorV1 Unit :=
  match receiptProof with
  | none => .ok ()
  | some (proofEnvelope, verifiedAt) =>
    match contract with
    | .executionReceipt receipt => do
      let trustedNow ← okOr clock .trustedClockUnavailable
      validateReceiptProofAt receipt proofEnvelope verifiedAt trustedNow
    | _ => .error .verifiedReceiptProofRequired

/-- The checks of `commit_internal` against the snapshot, and its candidate. -/
def commitChecked (current : HumanCenteredStoreSnapshotV1)
    (contract : HumanCenteredContractSnapshotV1) (reference : HumanCenteredContractRefV1)
    (receiptProof : Option (SignedProofEnvelopeV1 × Nat)) :
    Except HumanCenteredStoreErrorV1 HumanCenteredStoreSnapshotV1 := do
  let previous := previousPointer current.currentPointers reference
  checkPrevious current contract reference previous
  contract.metadata.dependencyRefs.forM (checkDependency current)
  rejectIf (crossObjectConsistent contract current.records current.executionReservations = false)
    .crossObjectMismatch
  commitCandidate current contract reference previous receiptProof

/-- `commit_internal`, after the snapshot is loaded. -/
def commitInternal (clock : Option Nat) (contract : HumanCenteredContractSnapshotV1)
    (receiptProof : Option (SignedProofEnvelopeV1 × Nat)) (current : HumanCenteredStoreSnapshotV1) :
    Except HumanCenteredStoreErrorV1 PlannedV1 := do
  let reference ← commitPrecheck contract receiptProof
  checkReceiptProof clock contract receiptProof
  if current.records.any (·.isAt reference) = true then
    .ok (.reply (.alreadyCommitted reference))
  else do
    let candidate ← commitChecked current contract reference receiptProof
    planSealed candidate current (.ok (.committed reference))

/-! ### Permits -/

/-- The action contract that a reference leads to. -/
def findAction (records : List HumanCenteredContractSnapshotV1)
    (reference : HumanCenteredContractRefV1) : Option ActionContractV1 :=
  records.findSome? fun record =>
    match record with
    | .action action => if record.isAt reference = true then some action else none
    | _ => none

/-- The attempt that a verified request is turned into. -/
def nextAttempt (verifiedRequest : VerifiedExecutionPermitRequestV1) (trustedNow : Nat) :
    ExecutionAttemptRecordV1 :=
  let claims := verifiedRequest.verifiedProof.claims
  { attempt := verifiedRequest.request.attempt
    permitId := claims.proofId
    proofId := claims.proofId
    proofNonce := claims.nonce
    proofIssuerRef := claims.issuerRef
    proofKeyId := verifiedRequest.verifiedProof.keyId
    proofExpiresAt := claims.expiresAt
    subjectDigest := verifiedRequest.request.requestDigest
    permitProofEnvelope := verifiedRequest.verifiedProof.signedEnvelope
    authorization := verifiedRequest.authorization
    request := verifiedRequest.request
    consumedAt := trustedNow
    status := .permitIssued
    deliveredAt := none
    dispatchedAt := none
    receiptRef := none
    receiptProofEnvelope := none
    receiptVerifiedAt := none }

/-- The reservation is for the action, or for its idempotency scope. -/
def conflictsWith (action : ActionContractV1) (actionRef : HumanCenteredContractRefV1)
    (reservation : ExecutionReservationRecordV1) : Bool :=
  reservation.actionRef = actionRef
    || (reservation.tenantRef = action.metadata.authorityContext.tenantRef
      && reservation.operationRef = action.operationRef
      && reservation.idempotencyKey = action.idempotencyKey)

/-- The reservation is for the action and for its idempotency scope. -/
def reservedFor (action : ActionContractV1) (actionRef : HumanCenteredContractRefV1)
    (reservation : ExecutionReservationRecordV1) : Bool :=
  reservation.actionRef = actionRef
    && reservation.tenantRef = action.metadata.authorityContext.tenantRef
    && reservation.operationRef = action.operationRef
    && reservation.idempotencyKey = action.idempotencyKey

/-- The reservations with the next attempt, and the identifier of the reservation that has it. -/
def reserveAttempt (action : ActionContractV1) (actionRef : HumanCenteredContractRefV1)
    (attempt : ExecutionAttemptRecordV1) (fresh : Uuid)
    (reservations : List ExecutionReservationRecordV1) :
    Except HumanCenteredStoreErrorV1 (Uuid × List ExecutionReservationRecordV1) :=
  match reservations.find? (conflictsWith action actionRef) with
  | some reservation => do
    require (reservedFor action actionRef reservation = true) .executionAlreadyReserved
    let previous ← okOr reservation.attempts.getLast? .corruptSnapshot
    rejectIf (previous.status.permitsRetry = false) .executionAlreadyReserved
    -- `u32::checked_add(1)`
    let next ← okOr (if previous.attempt + 1 < 2 ^ 32 then some (previous.attempt + 1) else none)
      .attemptOverflow
    rejectIf (attempt.attempt ≠ next) .executionAlreadyReserved
    .ok (reservation.reservationId,
      modifyFirst (conflictsWith action actionRef)
        (fun reservation => { reservation with attempts := reservation.attempts ++ [attempt] })
        reservations)
  | none => do
    rejectIf (attempt.attempt ≠ 1) .invalidExecutionAttempt
    .ok (fresh, reservations ++ [{
      reservationId := fresh
      actionRef
      tenantRef := action.metadata.authorityContext.tenantRef
      operationRef := action.operationRef
      idempotencyKey := action.idempotencyKey
      attempts := [attempt] }])

/-- `issue_execution_permit`. -/
def issueExecutionPermit (clock : Option Nat) (verifiedRequest : VerifiedExecutionPermitRequestV1)
    (fresh : Uuid) (current : HumanCenteredStoreSnapshotV1) :
    Except HumanCenteredStoreErrorV1 PlannedV1 := do
  let request := verifiedRequest.request
  let trustedNow ← okOr clock .trustedClockUnavailable
  let attempt := nextAttempt verifiedRequest trustedNow
  require (current.isCurrent request.actionRef = true) .staleCurrentPointer
  let action ← okOr (findAction current.records request.actionRef) .corruptSnapshot
  liftProtocol (verifiedRequest.validateAt action trustedNow)
  let attempts := current.executionReservations.flatMap (·.attempts)
  rejectIf (attempts.any (fun other =>
      other.proofId = attempt.proofId || other.proofNonce = attempt.proofNonce) = true)
    .proofReplayDetected
  rejectIf (attempts.any (fun other =>
      other.authorization.authorizationId = request.authorizationId) = true)
    .authorizationAlreadyConsumed
  let (reservationId, executionReservations) ←
    reserveAttempt action request.actionRef attempt fresh current.executionReservations
  planSealed { current with executionReservations } current (.ok (.permit {
    reservationId
    permitId := attempt.permitId
    proofKeyId := attempt.proofKeyId
    proofVerifiedAt := verifiedRequest.verifiedProof.verifiedAt
    issuedAt := trustedNow
    request }))

/-- The lease, the proof or the authorization of the attempt is over. -/
def leaseOver (attempt : ExecutionAttemptRecordV1) (trustedNow : Nat) : Bool :=
  trustedNow ≥ attempt.request.leaseUntil
    || trustedNow ≥ attempt.proofExpiresAt
    || trustedNow ≥ attempt.authorization.expiresAt

/-- `validate_permit_matches_attempt`. -/
def permitMatchesAttempt (permit : ExecutionPermitV1) (reservation : ExecutionReservationRecordV1)
    (attempt : ExecutionAttemptRecordV1) : Bool :=
  permit.reservationId = reservation.reservationId
    && permit.permitId = attempt.permitId
    && permit.proofKeyId = attempt.proofKeyId
    && permit.request = attempt.request
    && permit.request.actionRef = reservation.actionRef

/-- The snapshot with the last attempt of the reservation changed. -/
def changeLastAttempt (snapshot : HumanCenteredStoreSnapshotV1) (reservationId : Uuid)
    (change : ExecutionAttemptRecordV1 → ExecutionAttemptRecordV1) : HumanCenteredStoreSnapshotV1 :=
  { snapshot with
    executionReservations :=
      modifyFirst (fun reservation => reservation.reservationId = reservationId)
      (fun reservation => { reservation with attempts := modifyLast change reservation.attempts })
      snapshot.executionReservations }

/-- The status of an attempt whose action is found to be withdrawn. -/
def ExecutionAttemptRecordV1.withdrawnStatus (self : ExecutionAttemptRecordV1) :
    ExecutionReservationStatusV1 :=
  if self.dispatchedAt.isSome = true then .reconciliationRequired else .cancelled

/-- The attempt in the next status, at the time it came to it. -/
def ExecutionAttemptRecordV1.advance (self : ExecutionAttemptRecordV1)
    (next : ExecutionReservationStatusV1) (trustedNow : Nat) :
    Except HumanCenteredStoreErrorV1 ExecutionAttemptRecordV1 :=
  match next with
  | .delivered => .ok { self with status := next, deliveredAt := some trustedNow }
  | .dispatched => .ok { self with status := next, dispatchedAt := some trustedNow }
  | _ => .error .invalidExecutionTransition

/-- `transition_execution_permit`. -/
def transitionExecutionPermit (clock : Option Nat) (permit : ExecutionPermitV1)
    (expected next : ExecutionReservationStatusV1) (current : HumanCenteredStoreSnapshotV1) :
    Except HumanCenteredStoreErrorV1 PlannedV1 := do
  let trustedNow ← okOr clock .trustedClockUnavailable
  let reservation ← okOr (current.executionReservations.find? fun reservation =>
      reservation.reservationId = permit.reservationId)
    .executionReservationNotFound
  let attempt ← okOr reservation.attempts.getLast? .corruptSnapshot
  require (permitMatchesAttempt permit reservation attempt = true) .executionPermitMismatch
  if current.isCurrent reservation.actionRef = false then
    planSealed
      (changeLastAttempt current permit.reservationId fun attempt =>
        attempt.withStatus attempt.withdrawnStatus)
      current (.error .executionActionInvalidated)
  else if leaseOver attempt trustedNow = true then
    planSealed (changeLastAttempt current permit.reservationId (·.withStatus .expired)) current
      (.error .executionLeaseExpired)
  else if attempt.status = next then .ok (.reply .done)
  else do
    require (attempt.status = expected) .invalidExecutionTransition
    let advanced ← attempt.advance next trustedNow
    planSealed (changeLastAttempt current permit.reservationId fun _ => advanced)
      current (.ok .done)

/-- `mark_execution_permit_delivered`. -/
def markExecutionPermitDelivered (clock : Option Nat) (permit : ExecutionPermitV1) :=
  transitionExecutionPermit clock permit .permitIssued .delivered

/-- `mark_execution_dispatched`. -/
def markExecutionDispatched (clock : Option Nat) (permit : ExecutionPermitV1) :=
  transitionExecutionPermit clock permit .delivered .dispatched

/-- `recover_execution_permit`. -/
def recoverExecutionPermit (clock : Option Nat) (actionRef : HumanCenteredContractRefV1)
    (ownerRef : ReferenceV1) (current : HumanCenteredStoreSnapshotV1) :
    Except HumanCenteredStoreErrorV1 PlannedV1 := do
  let trustedNow ← okOr clock .trustedClockUnavailable
  let reservation ← okOr (current.executionReservations.find? fun reservation =>
      reservation.actionRef = actionRef)
    .executionReservationNotFound
  let attempt ← okOr reservation.attempts.getLast? .corruptSnapshot
  require (attempt.request.ownerRef = ownerRef) .executionOwnerMismatch
  require (attempt.status = .permitIssued ∨ attempt.status = .delivered)
    .executionRequiresReconciliation
  if leaseOver attempt trustedNow = true then
    planSealed (changeLastAttempt current reservation.reservationId (·.withStatus .expired)) current
      (.error .executionLeaseExpired)
  else
    .ok (.reply (.permit {
      reservationId := reservation.reservationId
      permitId := attempt.permitId
      proofKeyId := attempt.proofKeyId
      proofVerifiedAt := attempt.consumedAt
      issuedAt := attempt.consumedAt
      request := attempt.request }))

/-! ### Reads -/

/-- `load_current`. -/
def loadCurrent (kind : HumanCenteredContractKindV1) (contractId : HumanCenteredContractIdV1)
    (current : HumanCenteredStoreSnapshotV1) : Option HumanCenteredContractSnapshotV1 :=
  match current.currentPointers.find? fun pointer =>
      pointer.kind = kind && pointer.contractId = contractId with
  | none => none
  | some reference =>
    if reference ∈ current.invalidatedRefs then none else findRecord current.records reference

/-! ### Calls -/

/-- What a call does with the snapshot it loaded. -/
def StoreCallV1.plan (self : StoreCallV1) (clock : Option Nat)
    (current : HumanCenteredStoreSnapshotV1) : Except HumanCenteredStoreErrorV1 PlannedV1 :=
  match self with
  | commit contract => do
    rejectIf (isReceipt contract = true) .verifiedReceiptProofRequired
    commitInternal clock contract none current
  | commitExecutionReceipt receipt proofEnvelope verifiedAt =>
    commitInternal clock (.executionReceipt receipt) (some (proofEnvelope, verifiedAt)) current
  | issueExecutionPermit verifiedRequest reservationId =>
    Idr.issueExecutionPermit clock verifiedRequest reservationId current
  | markExecutionPermitDelivered permit => Idr.markExecutionPermitDelivered clock permit current
  | markExecutionDispatched permit => Idr.markExecutionDispatched clock permit current
  | recoverExecutionPermit actionRef ownerRef =>
    Idr.recoverExecutionPermit clock actionRef ownerRef current
  | loadCurrent kind contractId => .ok (.reply (.current (Idr.loadCurrent kind contractId current)))
  | isInvalidated reference =>
    .ok (.reply (.invalidated (current.invalidatedRefs.contains reference)))
  | revisionCount => .ok (.reply (.revisions current.records.length))

end Operations

end Idr
