/-
Idr/FileStore/Snapshot.lean

The snapshot of the file store, and the history it stands for.

A snapshot holds every contract that was ever committed, the current
revision of each, the references that were invalidated, and the execution
reservations.  A new revision withdraws what rests on the one it replaces
(`invalidateDependents`).  The pointers and the invalidated references can
be computed again from the contracts alone (`replayHistory`).
-/
import Idr.HumanCentered.Contract
import Idr.Lib.InPlace

namespace Idr

/-! ### Errors -/

/-- `HumanCenteredStoreErrorV1`. -/
inductive HumanCenteredStoreErrorV1
  | protocol (error : HumanCenteredProtocolError)
  | io
  | serialization
  | poisoned
  | staleCurrentPointer
  | staleDependency
  | crossObjectMismatch
  | corruptSnapshot
  | corruptAnchor
  | rollbackDetected
  | proofReplayDetected
  | authorizationAlreadyConsumed
  | trustedClockUnavailable
  | executionAlreadyReserved
  | executionReservationNotFound
  | executionPermitMismatch
  | executionOwnerMismatch
  | executionLeaseExpired
  | executionRequiresReconciliation
  | executionActionInvalidated
  | invalidExecutionTransition
  | verifiedReceiptProofRequired
  | invalidExecutionAttempt
  | attemptOverflow
  | sequenceOverflow
  deriving DecidableEq

/-- `?` on a result of the protocol. -/
def liftProtocol {α : Type} (x : Except HumanCenteredProtocolError α) :
    Except HumanCenteredStoreErrorV1 α :=
  x.mapError .protocol

@[simp] theorem liftProtocol_eq_ok {α : Type} {x : Except HumanCenteredProtocolError α} {a : α} :
    liftProtocol x = .ok a ↔ x = .ok a :=
  mapError_eq_ok

/-! ### Reservations -/

/-- `ExecutionReservationStatusV1`. -/
inductive ExecutionReservationStatusV1
  | permitIssued
  | delivered
  | dispatched
  | cancelled
  | reconciliationRequired
  | succeeded
  | failed
  | partiallySucceeded
  | rejected
  | compensated
  | expired
  deriving DecidableEq

namespace ExecutionReservationStatusV1

def permitsRetry : ExecutionReservationStatusV1 → Bool
  | failed | rejected | expired => true
  | _ => false

def isTerminal : ExecutionReservationStatusV1 → Bool
  | succeeded | failed | partiallySucceeded | rejected | compensated | cancelled | expired => true
  | _ => false

def wireName : ExecutionReservationStatusV1 → Text
  | permitIssued => "permit_issued"
  | delivered => "delivered"
  | dispatched => "dispatched"
  | cancelled => "cancelled"
  | reconciliationRequired => "reconciliation_required"
  | succeeded => "succeeded"
  | failed => "failed"
  | partiallySucceeded => "partially_succeeded"
  | rejected => "rejected"
  | compensated => "compensated"
  | expired => "expired"

/-- What becomes of an attempt whose action is withdrawn. -/
def withdrawn : ExecutionReservationStatusV1 → ExecutionReservationStatusV1
  | permitIssued | delivered => cancelled
  | dispatched => reconciliationRequired
  | status => status

end ExecutionReservationStatusV1

instance : Serialize ExecutionReservationStatusV1 := ⟨fun self => .string self.wireName⟩

/-- `ExecutionAttemptRecordV1`. -/
structure ExecutionAttemptRecordV1 where
  attempt : Nat
  permitId : HumanCenteredProofIdV1
  proofId : HumanCenteredProofIdV1
  proofNonce : Text
  proofIssuerRef : ReferenceV1
  proofKeyId : ReferenceV1
  proofExpiresAt : Nat
  subjectDigest : Text
  permitProofEnvelope : SignedProofEnvelopeV1
  authorization : ExactActionAuthorizationV1
  request : ExecutionPermitRequestV1
  consumedAt : Nat
  status : ExecutionReservationStatusV1
  deliveredAt : Option Nat
  dispatchedAt : Option Nat
  receiptRef : Option HumanCenteredContractRefV1
  receiptProofEnvelope : Option SignedProofEnvelopeV1
  receiptVerifiedAt : Option Nat
  deriving DecidableEq

/-- The attempt in another status. -/
def ExecutionAttemptRecordV1.withStatus (self : ExecutionAttemptRecordV1)
    (status : ExecutionReservationStatusV1) : ExecutionAttemptRecordV1 :=
  { self with status }

instance : Serialize ExecutionAttemptRecordV1 where
  toValue self := .object [
    ("attempt", toValue self.attempt),
    ("permit_id", toValue self.permitId),
    ("proof_id", toValue self.proofId),
    ("proof_nonce", toValue self.proofNonce),
    ("proof_issuer_ref", toValue self.proofIssuerRef),
    ("proof_key_id", toValue self.proofKeyId),
    ("proof_expires_at", toValue self.proofExpiresAt),
    ("subject_digest", toValue self.subjectDigest),
    ("permit_proof_envelope", toValue self.permitProofEnvelope),
    ("authorization", toValue self.authorization),
    ("request", toValue self.request),
    ("consumed_at", toValue self.consumedAt),
    ("status", toValue self.status),
    ("delivered_at", toValue self.deliveredAt),
    ("dispatched_at", toValue self.dispatchedAt),
    ("receipt_ref", toValue self.receiptRef),
    ("receipt_proof_envelope", toValue self.receiptProofEnvelope),
    ("receipt_verified_at", toValue self.receiptVerifiedAt)]

/-- `ExecutionReservationRecordV1`. -/
structure ExecutionReservationRecordV1 where
  reservationId : Uuid
  actionRef : HumanCenteredContractRefV1
  tenantRef : ReferenceV1
  operationRef : ReferenceV1
  idempotencyKey : Text
  attempts : List ExecutionAttemptRecordV1
  deriving DecidableEq

instance : Serialize ExecutionReservationRecordV1 where
  toValue self := .object [
    ("reservation_id", toValue self.reservationId),
    ("action_ref", toValue self.actionRef),
    ("tenant_ref", toValue self.tenantRef),
    ("operation_ref", toValue self.operationRef),
    ("idempotency_key", toValue self.idempotencyKey),
    ("attempts", toValue self.attempts)]

/-! ### The snapshot -/

/-- `HumanCenteredStoreSnapshotV1`. -/
structure HumanCenteredStoreSnapshotV1 where
  sequence : Nat
  previousSnapshotDigest : Option Text
  snapshotDigest : Text
  records : List HumanCenteredContractSnapshotV1
  currentPointers : List HumanCenteredContractRefV1
  invalidatedRefs : List HumanCenteredContractRefV1
  executionReservations : List ExecutionReservationRecordV1
  deriving DecidableEq

/-- `HumanCenteredStoreSnapshotV1::default`. -/
def HumanCenteredStoreSnapshotV1.empty : HumanCenteredStoreSnapshotV1 where
  sequence := 0
  previousSnapshotDigest := none
  snapshotDigest := ""
  records := []
  currentPointers := []
  invalidatedRefs := []
  executionReservations := []

/-! ### References in order -/

/-- `sort` of the references. -/
def sortRefs (refs : List HumanCenteredContractRefV1) : List HumanCenteredContractRefV1 :=
  refs.insertionSort fun a b => a.compare b != .gt

@[simp] theorem mem_sortRefs {r : HumanCenteredContractRefV1}
    {refs : List HumanCenteredContractRefV1} :
    r ∈ sortRefs refs ↔ r ∈ refs :=
  (List.perm_insertionSort _ _).mem_iff

/-- `replace_pointer`. -/
def replacePointer (pointers : List HumanCenteredContractRefV1)
    (next : HumanCenteredContractRefV1) :
    List HumanCenteredContractRefV1 :=
  sortRefs ((pointers.filter fun current => !current.sameContract next) ++ [next])

theorem mem_replacePointer {r next : HumanCenteredContractRefV1}
    {pointers : List HumanCenteredContractRefV1} :
    r ∈ replacePointer pointers next ↔ r = next ∨ r ∈ pointers ∧ r.sameContract next = false := by
  rw [replacePointer, mem_sortRefs, List.mem_append, List.mem_singleton, List.mem_filter,
    Bool.not_eq_true', or_comm]

/-! ### What a withdrawn action does to its attempts -/

/-- The last attempt of the reservation, in the status of a withdrawn action. -/
def ExecutionReservationRecordV1.withdraw (self : ExecutionReservationRecordV1) :
    ExecutionReservationRecordV1 :=
  { self with
    attempts :=
      modifyLast (fun attempt => attempt.withStatus attempt.status.withdrawn) self.attempts }

/-- `invalidate_execution_reservation`. -/
def invalidateExecutionReservation (staleReference : HumanCenteredContractRefV1)
    (reservations : List ExecutionReservationRecordV1) : List ExecutionReservationRecordV1 :=
  if staleReference.kind ≠ .action then reservations
  else reservations.map fun reservation =>
    if reservation.actionRef = staleReference then reservation.withdraw else reservation

/-- The reference is a current pointer and was not invalidated. -/
def HumanCenteredStoreSnapshotV1.isCurrent (self : HumanCenteredStoreSnapshotV1)
    (reference : HumanCenteredContractRefV1) : Bool :=
  self.currentPointers.contains reference && !self.invalidatedRefs.contains reference

/-- `reconcile_invalidated_execution_reservations`. -/
def reconcileInvalidatedExecutionReservations (snapshot : HumanCenteredStoreSnapshotV1) :
    HumanCenteredStoreSnapshotV1 :=
  { snapshot with
    executionReservations := snapshot.executionReservations.map fun reservation =>
      if snapshot.isCurrent reservation.actionRef = true then reservation
      else reservation.withdraw }

/-! ### Replay -/

section Replay

variable [Crypto] [FloatText]

/-- `records.iter().find(..)`. -/
def findRecord (records : List HumanCenteredContractSnapshotV1)
    (reference : HumanCenteredContractRefV1) : Option HumanCenteredContractSnapshotV1 :=
  records.find? (·.isAt reference)

/-- One turn of the loop over the pointers: those that depend on the stale reference are
invalidated, and wait for their own turn. -/
def invalidatePointers (records : List HumanCenteredContractSnapshotV1)
    (stale : HumanCenteredContractRefV1) :
    List HumanCenteredContractRefV1 → List HumanCenteredContractRefV1 →
      List HumanCenteredContractRefV1 →
        Except HumanCenteredStoreErrorV1
          (List HumanCenteredContractRefV1 × List HumanCenteredContractRefV1)
  | [], invalidated, queue => .ok (invalidated, queue)
  | pointer :: pointers, invalidated, queue =>
    if pointer.sameContract stale = true ∨ pointer ∈ invalidated then
      invalidatePointers records stale pointers invalidated queue
    else match findRecord records pointer with
      | none => .error .corruptSnapshot
      | some record =>
        if stale ∈ record.metadata.dependencyRefs then
          invalidatePointers records stale pointers (invalidated ++ [pointer]) (queue ++ [pointer])
        else invalidatePointers records stale pointers invalidated queue

/-- The loop of `invalidate_dependents`.  A pointer waits at most once, so the number of pointers
and one is enough fuel. -/
def invalidateLoop (records : List HumanCenteredContractSnapshotV1)
    (pointers : List HumanCenteredContractRefV1) :
    Nat → List HumanCenteredContractRefV1 → List HumanCenteredContractRefV1 →
      List HumanCenteredContractRefV1 →
        Except HumanCenteredStoreErrorV1 (List HumanCenteredContractRefV1)
  | 0, _, _, invalidated => .ok invalidated
  | _ + 1, [], _, invalidated => .ok invalidated
  | fuel + 1, stale :: queue, visited, invalidated =>
    if stale ∈ visited then invalidateLoop records pointers fuel queue visited invalidated
    else do
      let (invalidated, queue) ← invalidatePointers records stale pointers invalidated queue
      invalidateLoop records pointers fuel queue (stale :: visited) invalidated

/-- `invalidate_dependents`. -/
def invalidateDependents (snapshot : HumanCenteredStoreSnapshotV1)
    (staleReference : HumanCenteredContractRefV1) :
    Except HumanCenteredStoreErrorV1 HumanCenteredStoreSnapshotV1 := do
  let executionReservations :=
    invalidateExecutionReservation staleReference snapshot.executionReservations
  let invalidatedRefs ← invalidateLoop snapshot.records snapshot.currentPointers
    (snapshot.currentPointers.length + 1) [staleReference] [] snapshot.invalidatedRefs
  .ok (reconcileInvalidatedExecutionReservations { snapshot with
    executionReservations
    invalidatedRefs := dedupAdjacent (sortRefs invalidatedRefs) })

/-- `lineage_context_is_continuous`. -/
def lineageContextIsContinuous (previous next : HumanCenteredContractMetadataV1) : Bool :=
  previous.runId = next.runId && previous.turnId = next.turnId
    && previous.authorityContext = next.authorityContext

/-- The revision that a contract replaces: the current one of its kind and identifier. -/
def previousPointer (pointers : List HumanCenteredContractRefV1)
    (reference : HumanCenteredContractRefV1) : Option HumanCenteredContractRefV1 :=
  pointers.find? (·.sameContract reference)

/-- A record follows the current revision of its contract, which is withdrawn. -/
def replayPrevious (replayed : HumanCenteredStoreSnapshotV1)
    (record : HumanCenteredContractSnapshotV1) (reference : HumanCenteredContractRefV1) :
    Except HumanCenteredStoreErrorV1 HumanCenteredStoreSnapshotV1 :=
  match previousPointer replayed.currentPointers reference with
  | none => do
    require (reference.revision = 1 ∧ record.metadata.predecessorRef = none) .corruptSnapshot
    .ok replayed
  | some pointer => do
    require (checkedSucc pointer.revision = some reference.revision
        ∧ record.metadata.predecessorRef = some pointer)
      .corruptSnapshot
    let previousRecord ← okOr (findRecord replayed.records pointer) .corruptSnapshot
    require (lineageContextIsContinuous previousRecord.metadata record.metadata = true)
      .corruptSnapshot
    invalidateDependents replayed pointer

/-- The turn of the loop of `replay_history`. -/
def replayRecord (replayed : HumanCenteredStoreSnapshotV1)
    (record : HumanCenteredContractSnapshotV1) :
    Except HumanCenteredStoreErrorV1 HumanCenteredStoreSnapshotV1 := do
  let reference ← liftProtocol record.recordRef
  let replayed ← replayPrevious replayed record reference
  .ok { replayed with
    records := replayed.records ++ [record]
    currentPointers := replacePointer replayed.currentPointers reference }

/-- `replay_history`. -/
def replayHistory (records : List HumanCenteredContractSnapshotV1) :
    Except HumanCenteredStoreErrorV1 HumanCenteredStoreSnapshotV1 :=
  records.foldlM replayRecord .empty

end Replay

/-! ### The seal -/

section Seal

variable [Crypto] [FloatText]

/-- `compute_snapshot_digest`. -/
def computeSnapshotDigest (snapshot : HumanCenteredStoreSnapshotV1) : Text :=
  sha256Hex (toVec (Value.array [
    .string "idr-store-snapshot-v3",
    toValue snapshot.sequence,
    toValue snapshot.previousSnapshotDigest,
    toValue snapshot.records,
    toValue snapshot.currentPointers,
    toValue snapshot.invalidatedRefs,
    toValue snapshot.executionReservations]))

/-- `seal_next_snapshot`. -/
def sealNextSnapshot (candidate previous : HumanCenteredStoreSnapshotV1) :
    Except HumanCenteredStoreErrorV1 HumanCenteredStoreSnapshotV1 := do
  let sequence ← okOr (checkedSucc previous.sequence) .sequenceOverflow
  let candidate := { candidate with
    sequence
    previousSnapshotDigest :=
      if previous.sequence > 0 then some previous.snapshotDigest else none
    snapshotDigest := "" }
  .ok { candidate with snapshotDigest := computeSnapshotDigest candidate }

end Seal

end Idr
