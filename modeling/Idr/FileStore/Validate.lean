/-
Idr/FileStore/Validate.lean

What a snapshot is checked for when it is loaded and before it is stored.

The seal, the records one after another, the pointers and the invalidated
references against the replayed history, and the execution reservations.  A
check of the source that keeps what it has seen in a set is written here
with the list of what comes before.
-/
import Idr.FileStore.Snapshot

namespace Idr

/-- `valid_store_digest`. -/
def validStoreDigest (value : Text) : Bool := validDigest value

/-- `receipt_matches_attempt`. -/
def receiptMatchesAttempt (receipt : ExecutionReceiptV1)
    (reservation : ExecutionReservationRecordV1)
    (attempt : ExecutionAttemptRecordV1) : Bool :=
  receipt.actionRef = reservation.actionRef
    && receipt.permitId = attempt.permitId
    && receipt.authorizationId = attempt.authorization.authorizationId
    && receipt.providerRef = attempt.request.providerRef
    && receipt.ownerRef = attempt.request.ownerRef
    && receipt.dispatchNonce = attempt.request.dispatchNonce
    && receipt.attempt = attempt.attempt
    && receipt.idempotencyKey = reservation.idempotencyKey

section Validate

variable [Crypto] [FloatText]

/-! ### Contracts against those before them -/

/-- The record a reference leads to, where there is a reference. -/
def resolveRef (priorRecords : List HumanCenteredContractSnapshotV1) :
    Option HumanCenteredContractRefV1 → Option (Option HumanCenteredContractSnapshotV1)
  | none => some none
  | some reference => (findRecord priorRecords reference).map some

/-- A decision is about an intent of its own context. -/
def decisionConsistent (decision : DecisionContractV1)
    (priorRecords : List HumanCenteredContractSnapshotV1) : Bool :=
  match findRecord priorRecords decision.intentRef with
  | some (.intent intent) => lineageContextIsContinuous decision.metadata intent.metadata
  | _ => false

/-- Every one of the references leads to a record of the context. -/
def refsConsistent (metadata : HumanCenteredContractMetadataV1)
    (refs : List HumanCenteredContractRefV1)
    (priorRecords : List HumanCenteredContractSnapshotV1) : Bool :=
  refs.all fun reference => (findRecord priorRecords reference).any fun record =>
    lineageContextIsContinuous metadata record.metadata

/-- An action keeps to the boundary of its decision. -/
def actionConsistent (action : ActionContractV1)
    (priorRecords : List HumanCenteredContractSnapshotV1) : Bool :=
  match action.decisionRef with
  | none => true
  | some reference =>
    match findRecord priorRecords reference with
    | some (.decision decision) =>
      let boundary := decision.authorizationBoundary
      lineageContextIsContinuous action.metadata decision.metadata
        && boundary.requiredAuthorityRefs.all (action.requiredAuthorityRefs.contains ·)
        && !(decide (action.authorizationState = .notRequired)
          && (decide (action.impactLevel.rank > boundary.maximumAutomaticImpact.rank)
            || boundary.userConfirmationRequired
            || boundary.prohibitedAutomaticOperations.contains action.operationRef))
    | _ => false

/-- A receipt settles an attempt that was dispatched, and that no other receipt settles. -/
def receiptConsistent (receipt : ExecutionReceiptV1)
    (priorRecords : List HumanCenteredContractSnapshotV1)
    (executionReservations : List ExecutionReservationRecordV1) : Bool :=
  match findRecord priorRecords receipt.actionRef with
  | some (.action action) =>
    match executionReservations.find? fun reservation =>
        reservation.actionRef = receipt.actionRef with
    | none => false
    | some reservation =>
      match reservation.attempts.find? fun attempt => attempt.permitId = receipt.permitId with
      | none => false
      | some attempt =>
        lineageContextIsContinuous receipt.metadata action.metadata
          && receipt.idempotencyKey = action.idempotencyKey
          && receipt.requestParameterDigest = action.parameterDigest
          && (attempt.status = .dispatched || attempt.status = .reconciliationRequired
            || (attempt.status.isTerminal && attempt.receiptRef = receipt.recordRef.toOption))
          && receiptMatchesAttempt receipt reservation attempt
          && attempt.dispatchedAt.any (fun dispatchedAt => dispatchedAt ≤ receipt.startedAt)
          && receipt.startedAt < attempt.request.leaseUntil
          && !priorRecords.any fun record =>
            match record with
            | .executionReceipt previous =>
              previous.actionRef = receipt.actionRef && previous.attempt = receipt.attempt
            | _ => false
  | _ => false

/-- An outcome agrees with its decision, its action and its receipt. -/
def outcomeConsistent (outcome : OutcomeRecordV1)
    (priorRecords : List HumanCenteredContractSnapshotV1) : Bool :=
  match resolveRef priorRecords outcome.decisionRef, resolveRef priorRecords outcome.actionRef,
      resolveRef priorRecords outcome.executionReceiptRef with
  | some decision, some action, some receipt =>
    [decision, action, receipt].all (fun dependency => dependency.all fun record =>
        lineageContextIsContinuous outcome.metadata record.metadata)
      && decision.all (fun record => match record with
        | .decision _ => true
        | _ => false)
      && action.all (fun record => match record with
        | .action actionContract => outcome.decisionRef.all fun decisionRef =>
          actionContract.decisionRef = some decisionRef
        | _ => false)
      && receipt.all (fun record => match record with
        | .executionReceipt receiptContract =>
          outcome.actionRef = some receiptContract.actionRef
            && !(decide (receiptContract.state = .failed ∨ receiptContract.state = .rejected)
              && !outcome.successCriteriaSatisfied.isEmpty)
        | _ => false)
  | _, _, _ => false

/-- `validate_cross_object_consistency`. -/
def crossObjectConsistent (contract : HumanCenteredContractSnapshotV1)
    (priorRecords : List HumanCenteredContractSnapshotV1)
    (executionReservations : List ExecutionReservationRecordV1) : Bool :=
  match contract with
  | .intent _ => true
  | .decision decision => decisionConsistent decision priorRecords
  | .turnCoordination plan =>
    refsConsistent plan.metadata (plan.responseRefs ++ plan.actionRefs) priorRecords
  | .response response => refsConsistent response.metadata response.sourceContractRefs priorRecords
  | .action action => actionConsistent action priorRecords
  | .executionReceipt receipt => receiptConsistent receipt priorRecords executionReservations
  | .outcome outcome => outcomeConsistent outcome priorRecords
  | .humanModelAssertion _ => true

/-! ### The records -/

/-- The first loop over the records: their references, none of which may be there already, with its
digest or with another. -/
def collectRefs (seen : List HumanCenteredContractRefV1) :
    List HumanCenteredContractSnapshotV1 →
      Except HumanCenteredStoreErrorV1 (List HumanCenteredContractRefV1)
  | [] => .ok seen
  | record :: records => do
    liftProtocol record.validate
    let reference ← liftProtocol record.recordRef
    rejectIf (reference ∈ seen
        ∨ seen.any (fun other => other.sameContract reference
            && other.revision = reference.revision) = true)
      .corruptSnapshot
    collectRefs (seen ++ [reference]) records

/-- The latest revision of each contract, with one more reference. -/
def noteLatest (latest : List HumanCenteredContractRefV1) (reference : HumanCenteredContractRefV1) :
    List HumanCenteredContractRefV1 :=
  match previousPointer latest reference with
  | none => latest ++ [reference]
  | some other =>
    if other.revision ≥ reference.revision then latest
    else latest.map fun r => if r.sameContract reference = true then reference else r

/-- The second loop over the records: what a record rests on is before it, and the two agree.  The
references of the records before it are `before`. -/
def checkRecords (executionReservations : List ExecutionReservationRecordV1)
    (prior : List HumanCenteredContractSnapshotV1)
    (before latest : List HumanCenteredContractRefV1) :
    List HumanCenteredContractSnapshotV1 →
      Except HumanCenteredStoreErrorV1 (List HumanCenteredContractRefV1)
  | [] => .ok latest
  | record :: records => do
    let reference ← liftProtocol record.recordRef
    rejectIf (record.metadata.predecessorRef.any (fun predecessor =>
        predecessor.kind ≠ reference.kind || !before.contains predecessor) = true)
      .corruptSnapshot
    rejectIf (record.metadata.dependencyRefs.any (fun dependency => !before.contains dependency) =
      true)
      .corruptSnapshot
    rejectIf (crossObjectConsistent record prior executionReservations = false) .corruptSnapshot
    checkRecords executionReservations (prior ++ [record]) (before ++ [reference])
      (noteLatest latest reference) records

/-- The loop over the pointers: each is the latest revision of its contract, and each contract has
one. -/
def checkPointers (recordRefs latest : List HumanCenteredContractRefV1)
    (currentIds : List HumanCenteredContractRefV1) :
    List HumanCenteredContractRefV1 → Except HumanCenteredStoreErrorV1 Unit
  | [] => rejectIf (currentIds.length ≠ latest.length) .corruptSnapshot
  | pointer :: pointers => do
    liftProtocol pointer.validate
    rejectIf (pointer ∉ recordRefs
        ∨ currentIds.any (·.sameContract pointer) = true
        ∨ previousPointer latest pointer ≠ some pointer)
      .corruptSnapshot
    checkPointers recordRefs latest (currentIds ++ [pointer]) pointers

/-! ### The reservations -/

/-- What an attempt has been through fits its status. -/
def timingIsValid (attempt : ExecutionAttemptRecordV1) : Bool :=
  let delivered := attempt.deliveredAt.isSome
  let dispatched := attempt.dispatchedAt.isSome
  let settled := attempt.receiptRef.isSome && attempt.receiptProofEnvelope.isSome
    && attempt.receiptVerifiedAt.isSome
  let unsettled := attempt.receiptRef.isNone && attempt.receiptProofEnvelope.isNone
    && attempt.receiptVerifiedAt.isNone
  match attempt.status with
  | .permitIssued => !delivered && !dispatched && unsettled
  | .delivered => delivered && !dispatched && unsettled
  | .dispatched => delivered && dispatched && unsettled
  | .expired => unsettled
  | .cancelled => !dispatched && unsettled
  | .reconciliationRequired => delivered && dispatched && unsettled
  | .succeeded | .failed | .partiallySucceeded | .rejected | .compensated =>
    delivered && dispatched && settled

/-- The order of the times of an attempt. -/
def timesInOrder (attempt : ExecutionAttemptRecordV1) : Bool :=
  attempt.deliveredAt.all (fun delivered => attempt.consumedAt ≤ delivered)
    && attempt.dispatchedAt.all fun dispatched =>
      attempt.deliveredAt.any fun delivered => delivered ≤ dispatched

/-- The attempt repeats its request, its proof and its authorization, and no attempt before it used
the same. -/
def attemptMismatch (action : ActionContractV1) (reservation : ExecutionReservationRecordV1)
    (earlier : List ExecutionAttemptRecordV1) (expectedAttempt : Nat)
    (attempt : ExecutionAttemptRecordV1) : Bool :=
  let permitClaims := attempt.permitProofEnvelope.claims
  attempt.attempt ≠ expectedAttempt
    || attempt.request.attempt ≠ expectedAttempt
    || attempt.permitId ≠ attempt.proofId
    || attempt.proofId.isEmpty
    || earlier.any (fun other => other.proofId = attempt.proofId)
    || !validStoreDigest attempt.proofNonce
    || earlier.any (fun other => other.proofNonce = attempt.proofNonce)
    || attempt.proofNonce ≠ attempt.request.dispatchNonce
    || attempt.proofIssuerRef.asStr.isBlank
    || attempt.proofKeyId.asStr.isBlank
    || attempt.proofExpiresAt < attempt.request.leaseUntil
    || permitClaims.proofId ≠ attempt.proofId
    || permitClaims.proofKind ≠ .executionPermit
    || permitClaims.issuerRef ≠ attempt.proofIssuerRef
    || attempt.permitProofEnvelope.keyId ≠ attempt.proofKeyId
    || permitClaims.subjectRef ≠ attempt.request.requestRef
    || permitClaims.subjectDigest ≠ attempt.request.requestDigest
    || permitClaims.nonce ≠ attempt.request.dispatchNonce
    || permitClaims.expiresAt ≠ attempt.proofExpiresAt
    || !validStoreDigest attempt.subjectDigest
    || attempt.subjectDigest ≠ attempt.request.requestDigest
    || earlier.any (fun other =>
        other.authorization.authorizationId = attempt.authorization.authorizationId)
    || attempt.authorization.authorizationId ≠ attempt.request.authorizationId
    || attempt.consumedAt < attempt.request.leaseIssuedAt
    || attempt.consumedAt ≥ attempt.request.leaseUntil
    || attempt.consumedAt ≥ attempt.proofExpiresAt
    || attempt.consumedAt ≥ attempt.authorization.expiresAt
    || attempt.consumedAt ≥ action.metadata.validUntil
    || attempt.request.actionRef ≠ reservation.actionRef

/-- The receipt of an attempt, where it has one, is on record and its proof is of it. -/
def checkReceipt (records : List HumanCenteredContractSnapshotV1)
    (reservation : ExecutionReservationRecordV1) (attempt : ExecutionAttemptRecordV1) :
    Except HumanCenteredStoreErrorV1 Unit :=
  match attempt.receiptRef with
  | none => .ok ()
  | some receiptRef =>
    match findRecord records receiptRef with
    | some (.executionReceipt receipt) => do
      rejectIf (receiptMatchesAttempt receipt reservation attempt = false) .corruptSnapshot
      let proofEnvelope ← okOr attempt.receiptProofEnvelope .corruptSnapshot
      liftProtocol proofEnvelope.validateShape
      let claims := proofEnvelope.claims
      let subjectRef ← liftProtocol receipt.proofSubjectRef
      rejectIf (claims.proofKind ≠ .providerExecutionReceipt
          ∨ claims.issuerRef ≠ receipt.providerRef
          ∨ claims.subjectRef ≠ subjectRef
          ∨ claims.subjectDigest ≠ receiptRef.recordDigest
          ∨ claims.nonce ≠ receipt.dispatchNonce
          ∨ claims.issuedAt < receipt.completedAt
          ∨ attempt.receiptVerifiedAt.all (fun verifiedAt =>
              verifiedAt < claims.issuedAt || verifiedAt ≥ claims.expiresAt) = true)
        .corruptSnapshot
    | _ => .error .corruptSnapshot

/-- The checks of one attempt.  `earlier` are the attempts before it, of all reservations, and
`last` says that it is the last of its own. -/
def checkAttempt (records : List HumanCenteredContractSnapshotV1) (action : ActionContractV1)
    (reservation : ExecutionReservationRecordV1) (earlier : List ExecutionAttemptRecordV1)
    (expectedAttempt : Nat) (last : Bool) (attempt : ExecutionAttemptRecordV1) :
    Except HumanCenteredStoreErrorV1 Unit := do
  rejectIf (expectedAttempt ≥ 2 ^ 32) .corruptSnapshot
  liftProtocol (attempt.request.validateFor action attempt.authorization)
  liftProtocol attempt.permitProofEnvelope.validateShape
  rejectIf (attemptMismatch action reservation earlier expectedAttempt attempt = true)
    .corruptSnapshot
  rejectIf (timingIsValid attempt = false ∨ timesInOrder attempt = false) .corruptSnapshot
  checkReceipt records reservation attempt
  rejectIf (last = false ∧ attempt.status.permitsRetry = false) .corruptSnapshot

/-- The loop over the attempts of a reservation. -/
def checkAttempts (records : List HumanCenteredContractSnapshotV1) (action : ActionContractV1)
    (reservation : ExecutionReservationRecordV1) (earlier : List ExecutionAttemptRecordV1)
    (index : Nat) : List ExecutionAttemptRecordV1 → Except HumanCenteredStoreErrorV1 Unit
  | [] => .ok ()
  | attempt :: attempts => do
    checkAttempt records action reservation earlier (index + 1) attempts.isEmpty attempt
    checkAttempts records action reservation (earlier ++ [attempt]) (index + 1) attempts

/-- The checks of one reservation; those before it are `before`. -/
def checkReservation (records : List HumanCenteredContractSnapshotV1)
    (before : List ExecutionReservationRecordV1) (reservation : ExecutionReservationRecordV1) :
    Except HumanCenteredStoreErrorV1 Unit :=
  match findRecord records reservation.actionRef with
  | some (.action action) => do
    rejectIf (reservation.reservationId.isNil = true
        ∨ before.any (fun other => other.reservationId = reservation.reservationId) = true
        ∨ reservation.tenantRef ≠ action.metadata.authorityContext.tenantRef
        ∨ reservation.operationRef ≠ action.operationRef
        ∨ reservation.idempotencyKey ≠ action.idempotencyKey
        ∨ reservation.attempts = []
        ∨ before.any (fun other => other.actionRef = reservation.actionRef) = true
        ∨ before.any (fun other => other.tenantRef = reservation.tenantRef
            && other.operationRef = reservation.operationRef
            && other.idempotencyKey = reservation.idempotencyKey) = true)
      .corruptSnapshot
    checkAttempts records action reservation (before.flatMap (·.attempts)) 0 reservation.attempts
  | _ => .error .corruptSnapshot

/-- The loop over the reservations. -/
def checkReservations (records : List HumanCenteredContractSnapshotV1)
    (before : List ExecutionReservationRecordV1) :
    List ExecutionReservationRecordV1 → Except HumanCenteredStoreErrorV1 Unit
  | [] => .ok ()
  | reservation :: reservations => do
    liftProtocol reservation.actionRef.validate
    checkReservation records before reservation
    checkReservations records (before ++ [reservation]) reservations

/-! ### The snapshot -/

/-- The first check of `validate_snapshot`: the snapshot is sealed, or it is empty. -/
def checkSeal (snapshot : HumanCenteredStoreSnapshotV1) : Except HumanCenteredStoreErrorV1 Unit :=
  let emptyState := snapshot.records = [] ∧ snapshot.currentPointers = []
    ∧ snapshot.invalidatedRefs = [] ∧ snapshot.executionReservations = []
  if snapshot.sequence = 0 then
    rejectIf (¬ emptyState
        ∨ snapshot.previousSnapshotDigest.isSome = true
        ∨ snapshot.snapshotDigest ≠ "")
      .corruptSnapshot
  else
    rejectIf (validStoreDigest snapshot.snapshotDigest = false
        ∨ snapshot.previousSnapshotDigest.any (fun digest => !validStoreDigest digest) = true
        ∨ computeSnapshotDigest snapshot ≠ snapshot.snapshotDigest)
      .corruptSnapshot

/-- `validate_snapshot`. -/
def validateSnapshot (snapshot : HumanCenteredStoreSnapshotV1) :
    Except HumanCenteredStoreErrorV1 Unit := do
  checkSeal snapshot
  let recordRefs ← collectRefs [] snapshot.records
  let latest ← checkRecords snapshot.executionReservations [] [] [] snapshot.records
  checkPointers recordRefs latest [] snapshot.currentPointers
  snapshot.invalidatedRefs.forM fun reference => do
    liftProtocol reference.validate
    rejectIf (reference ∉ recordRefs) .corruptSnapshot
  let replayed ← replayHistory snapshot.records
  rejectIf (replayed.currentPointers ≠ snapshot.currentPointers
      ∨ replayed.invalidatedRefs ≠ snapshot.invalidatedRefs)
    .corruptSnapshot
  checkReservations snapshot.records [] snapshot.executionReservations

end Validate

end Idr
