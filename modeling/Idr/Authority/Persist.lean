/-
Idr/Authority/Persist.lean

The writes of a transition.

Each function writes one group of tables through the view bridge and the
triggers of the tables behind it, in the order of the source.  A trigger
that compares two things which one function writes from the same value is
left out, as are foreign keys to a row that the same transaction has just
written.  What is kept can fail: version and revision chains, unique keys,
lineage, the dependency graph, and the guards of the execution tables.

The insert of a reservation runs its guards before it finds out that the
row is there already, so the guard for new reservations also stands before
every later update (`idrValidateExecutionAuthorityV4`).
-/
import Idr.Authority.Proofs
import Idr.TrustChain.Dependencies
import Idr.Lib.Reach
import Mathlib.Data.List.Sort

namespace Idr

/-- `i64_from_u64`, where the value itself is bound. -/
def i64FromU64 (value : Nat) : Except IdrRuntimeErrorV1 Unit :=
  require (value < 2 ^ 63) .serialization

/-- `i32::try_from`. -/
def i32TryFrom (value : Nat) : Except IdrRuntimeErrorV1 Unit :=
  require (value < 2 ^ 31) .serialization

/-! ### The run -/

/-- The row of a run. -/
def runRow (projection : IdrRunProjectionV1) (projectionDigest : Text) (clock : Nat) : RunRow where
  runId := projection.runId
  trustDomain := projection.trustDomain
  environmentRef := projection.environmentRef
  tenantRef := projection.tenantRef.asStr
  aggregateVersion := projection.aggregateVersion
  projection := projection
  projectionDigest := projectionDigest
  updatedAt := clock

/-- The update of the row of a run to its next version. -/
def updateRun (row old : RunRow) : Except IdrRuntimeErrorV1 RunRow := do
  rejectIf (old.trustDomain ≠ row.trustDomain
      ∨ old.environmentRef ≠ row.environmentRef
      ∨ old.aggregateVersion + 1 ≠ row.aggregateVersion)
    (raise "Attested Run aggregate update is invalid")
  .ok { old with
    aggregateVersion := row.aggregateVersion
    projection := row.projection
    projectionDigest := row.projectionDigest
    updatedAt := row.updatedAt }

/-- `upsert_run`: an insert that falls back to the next version of the row. -/
def upsertRun (attestation : AttestationRow) (clock : Nat) (projection : IdrRunProjectionV1)
    (projectionDigest : Text) (db : DatabaseV1) : Except IdrRuntimeErrorV1 DatabaseV1 := do
  i64FromU64 projection.aggregateVersion
  i64FromU64 projection.lastEventSequence
  bridgeAdmits attestation projection.trustDomain projection.environmentRef
    projection.tenantRef.asStr projection.runId
  let row := runRow projection projectionDigest clock
  let runs ← upsertRow (·.runId = row.runId) (updateRun row) row db.runs
  .ok { db with runs }

/-! ### The record -/

/-- The largest revision of a record. -/
def maxRevision (db : DatabaseV1) (recordId : Uuid) : Option Nat :=
  ((db.contractRecords.filter (·.recordId = recordId)).map (·.revision)).max?

/-- The row of a record. -/
def contractRow (record : AuthoritativeRecordV1) : ContractRow where
  recordId := record.recordRef.recordId
  revision := record.recordRef.revision
  candidateKind := record.recordRef.candidateKind
  trustDomain := record.trustDomain
  environmentRef := record.environmentRef
  runId := record.runId
  tenantRef := record.tenantRef.asStr
  subjectRef := record.subjectRef.asStr
  recordDigest := record.recordRef.recordDigest
  record := record
  issuedAt := record.issuedAt
  validFrom := record.validFrom
  validUntil := record.validUntil

/-- The row of the current record of a kind. -/
def currentRow (projection : IdrRunProjectionV1) (recordRef : AuthoritativeRecordRefV1) :
    CurrentRow where
  runId := projection.runId
  trustDomain := projection.trustDomain
  environmentRef := projection.environmentRef
  candidateKind := recordRef.candidateKind
  recordId := recordRef.recordId
  revision := recordRef.revision
  recordDigest := recordRef.recordDigest

/-- The update of the row of the current record to the next revision. -/
def updateCurrent (row old : CurrentRow) : Except IdrRuntimeErrorV1 CurrentRow := do
  rejectIf (old.revision + 1 ≠ row.revision)
    (raise "Attested current Contract revision is invalid")
  .ok { old with
    recordId := row.recordId
    revision := row.revision
    recordDigest := row.recordDigest }

/-- `persist_authoritative_record`. -/
def persistAuthoritativeRecord (attestation : AttestationRow) (projection : IdrRunProjectionV1)
    (record : AuthoritativeRecordV1) (db : DatabaseV1) : Except IdrRuntimeErrorV1 DatabaseV1 := do
  let recordRef := record.recordRef
  i64FromU64 recordRef.revision
  i64FromU64 record.issuedAt
  i64FromU64 record.validFrom
  i64FromU64 record.validUntil
  bridgeAdmits attestation record.trustDomain record.environmentRef record.tenantRef.asStr
    record.runId
  rejectIf (record.issuedByCommandId ≠ attestation.commandId)
    (raise "Authority Contract issuer command is not attested")
  -- `idr_enforce_record_lineage_v2`; the row of the run is written already
  let run ← okOr (db.run record.runId) foreignKeyViolation
  let predecessor := db.contractRecord recordRef.recordId (recordRef.revision - 1)
  require (idrEnforceRecordLineageV2 run.projection (predecessor.map (·.record)) record = true)
    (raise "Contract successor changed immutable lineage")
  -- `idr_enforce_contract_revision_v1`
  require (recordRef.revision = (maxRevision db recordRef.recordId).elim 1 (· + 1))
    (raise "contract revision must be contiguous")
  rejectIf (record.validUntil ≤ record.validFrom) checkViolation
  let contractRecords ← insertRow (fun row =>
      (row.recordId = recordRef.recordId && row.revision = recordRef.revision)
        || row.recordDigest = recordRef.recordDigest)
    uniqueViolation (contractRow record) db.contractRecords
  let current := currentRow projection recordRef
  let contractCurrent ← upsertRow
    (fun row => row.runId = current.runId && row.candidateKind = current.candidateKind)
    (updateCurrent current) current db.contractCurrent
  .ok { db with contractRecords, contractCurrent }

/-! ### The dependencies -/

/-- `idr_reject_dependency_cycle_v1`: the dependent is reached from the dependency. -/
def closesCycle (db : DatabaseV1) (new : DependencyRow) : Bool :=
  (reach (db.contractDependencies.map fun row =>
      ((row.dependentRecordId, row.dependentRevision),
        (row.dependencyRecordId, row.dependencyRevision)))
    (new.dependencyRecordId, new.dependencyRevision)).contains
      (new.dependentRecordId, new.dependentRevision)

/-- `idr_enforce_action_derivation_v2`: an action that departs from the option its decision
selected. -/
def departsFromDecision (db : DatabaseV1) (new : DependencyRow) : Bool :=
  match db.contractRecord new.dependentRecordId new.dependentRevision,
    db.contractRecord new.dependencyRecordId new.dependencyRevision with
  | some dependent, some dependency =>
    let text (row : ContractRow) (key : Text) := (row.record.payload.get key).bind Value.asStr
    dependent.candidateKind = .action && dependency.candidateKind = .decision &&
      (differs (text dependent "selected_option_ref") (text dependency "selected_option_ref")
        || differs (text dependent "operation_ref")
          (text dependency "selected_action_operation_ref")
        || differs (text dependent "parameter_digest")
          (text dependency "selected_action_parameter_digest"))
  | _, _ => false

/-- The insert of one edge. -/
def insertDependency (new : DependencyRow) (db : DatabaseV1) :
    Except IdrRuntimeErrorV1 DatabaseV1 := do
  rejectIf (departsFromDecision db new = true)
    (raise "Action does not derive from selected Decision option")
  rejectIf (closesCycle db new = true) (raise "contract dependency cycle")
  rejectIf (new.dependentRecordId = new.dependencyRecordId
      ∧ new.dependentRevision ≤ new.dependencyRevision)
    checkViolation
  let contractDependencies ← insertRow (fun row =>
      row.dependentRecordId = new.dependentRecordId
        && row.dependentRevision = new.dependentRevision
        && row.dependencyRecordId = new.dependencyRecordId
        && row.dependencyRevision = new.dependencyRevision)
    uniqueViolation new db.contractDependencies
  require ((db.contractRecord new.dependencyRecordId new.dependencyRevision).isSome = true)
    foreignKeyViolation
  .ok { db with contractDependencies }

/-- The edge from a record to a dependency. -/
def dependencyRow (record dependency : AuthoritativeRecordRefV1) : DependencyRow where
  dependentRecordId := record.recordId
  dependentRevision := record.revision
  dependencyRecordId := dependency.recordId
  dependencyRevision := dependency.revision
  dependencyDigest := dependency.recordDigest

/-- The edge to the revision before, selected from the stored records. -/
def insertPredecessorDependency (record : AuthoritativeRecordRefV1) (db : DatabaseV1) :
    Except IdrRuntimeErrorV1 DatabaseV1 :=
  if record.revision > 1 then do
    let row ← okOr (db.contractRecord record.recordId (record.revision - 1)) .missingDependency
    insertDependency {
      dependentRecordId := record.recordId
      dependentRevision := record.revision
      dependencyRecordId := row.recordId
      dependencyRevision := row.revision
      dependencyDigest := row.recordDigest } db
  else .ok db

/-- `persist_contract_dependencies`. -/
def persistContractDependencies (command : IdrCommandV1) (projection : IdrRunProjectionV1)
    (record : AuthoritativeRecordV1) (db : DatabaseV1) : Except IdrRuntimeErrorV1 DatabaseV1 := do
  let db ← insertPredecessorDependency record.recordRef db
  (contractDependencies command projection.records record.recordRef).foldlM
    (fun db dependency => do
      i64FromU64 dependency.revision
      insertDependency (dependencyRow record.recordRef dependency) db)
    db

/-! ### The proofs -/

/-- The row of a proof envelope. -/
def proofRow (command : IdrCommandEnvelopeV1) (trustDomain : TrustDomainV1)
    (envelope : ProductionProofEnvelopeV1) (proof : VerifiedProductionProofV1) : ProofRow where
  proofId := proof.proofId
  trustDomain := trustDomain
  environmentRef := command.environmentRef
  proofKind := proof.proofKind
  issuerRef := envelope.claims.issuerRef.asStr
  keyId := envelope.keyId.asStr
  tenantRef := envelope.claims.tenantRef.asStr
  subjectRef := envelope.claims.subjectRef.asStr
  subjectDigest := envelope.claims.subjectDigest
  nonce := proof.nonce
  envelope := envelope

/-- The consumption of a proof. -/
def consumptionRow (command : IdrCommandEnvelopeV1) (trustDomain : TrustDomainV1)
    (proof : VerifiedProductionProofV1) : ConsumptionRow where
  proofId := proof.proofId
  trustDomain := trustDomain
  environmentRef := command.environmentRef
  tenantRef := command.tenantRef.asStr
  nonce := proof.nonce
  commandId := command.commandId
  runId := command.runId

/-- The envelope and the consumption of one proof. -/
def persistProofConsumption (attestation : AttestationRow) (command : IdrCommandEnvelopeV1)
    (trustDomain : TrustDomainV1) (db : DatabaseV1)
    (verified : ProductionProofEnvelopeV1 × VerifiedProductionProofV1) :
    Except IdrRuntimeErrorV1 DatabaseV1 := do
  let (envelope, proof) := verified
  let claims := envelope.claims
  bridgeAdmits attestation trustDomain command.environmentRef claims.tenantRef.asStr command.runId
  -- `idr_enforce_proof_identity_v4`
  rejectIf (claims.trustDomain ≠ trustDomain ∨ claims.environmentRef ≠ command.environmentRef)
    (raise "Proof envelope trust identity mismatch")
  let proofEnvelopes ← insertRow (·.proofId = proof.proofId) uniqueViolation
    (proofRow command trustDomain envelope proof) db.proofEnvelopes
  bridgeAdmits attestation trustDomain command.environmentRef command.tenantRef.asStr command.runId
  let proofConsumptions ← insertRow (fun row => row.proofId = proof.proofId
      || (row.tenantRef = command.tenantRef.asStr && row.nonce = proof.nonce))
    uniqueViolation (consumptionRow command trustDomain proof) db.proofConsumptions
  .ok { db with proofEnvelopes, proofConsumptions }

/-- `persist_proof_consumptions`. -/
def persistProofConsumptions (attestation : AttestationRow) (command : IdrCommandEnvelopeV1)
    (verified : List VerifiedProductionProofV1) (trustDomain : TrustDomainV1) (db : DatabaseV1) :
    Except IdrRuntimeErrorV1 DatabaseV1 :=
  (command.proofs.zip verified).foldlM (persistProofConsumption attestation command trustDomain) db

/-! ### The execution -/

section Fence

variable [Crypto]

/-- `idempotency_fence_digest_v1`. -/
def idempotencyFenceDigestV1 (projection : IdrRunProjectionV1) (execution : ExecutionProjectionV1) :
    Except IdrRuntimeErrorV1 Text :=
  fromProtocol (canonicalDigestV1 "idr-operation-idempotency-fence-v1" (Value.array [
    toValue projection.trustDomain,
    toValue projection.environmentRef,
    toValue projection.tenantRef,
    toValue execution.operationRef,
    toValue execution.idempotencyKey,
    toValue projection.runId,
    toValue execution.actionRef.recordId,
    toValue execution.actionRef.revision,
    toValue execution.actionRef.recordDigest]))

/-- The fence of an execution. -/
def fenceRow (projection : IdrRunProjectionV1) (execution : ExecutionProjectionV1)
    (fenceDigest : Text) (clock : Nat) : FenceRow where
  fenceId := execution.reservationId
  trustDomain := projection.trustDomain
  environmentRef := projection.environmentRef
  tenantRef := projection.tenantRef.asStr
  operationRef := execution.operationRef.asStr
  idempotencyKey := execution.idempotencyKey
  firstRunId := projection.runId
  firstActionRecordId := execution.actionRef.recordId
  firstActionRevision := execution.actionRef.revision
  firstActionDigest := execution.actionRef.recordDigest
  fenceDigest := fenceDigest
  createdAt := clock

omit [Crypto] in
/-- Two fences of one identity or of one scope. -/
def FenceRow.conflicts (new old : FenceRow) : Bool :=
  old.fenceId = new.fenceId || (old.trustDomain = new.trustDomain
    && old.environmentRef = new.environmentRef && old.tenantRef = new.tenantRef
    && old.operationRef = new.operationRef && old.idempotencyKey = new.idempotencyKey)

/-- The fence of an execution is written, or was written before for the same execution. -/
def persistFence (attestation : AttestationRow) (clock : Nat) (projection : IdrRunProjectionV1)
    (execution : ExecutionProjectionV1) (db : DatabaseV1) :
    Except IdrRuntimeErrorV1 DatabaseV1 := do
  let fenceDigest ← idempotencyFenceDigestV1 projection execution
  i64FromU64 execution.actionRef.revision
  bridgeAdmits attestation projection.trustDomain projection.environmentRef
    projection.tenantRef.asStr attestation.runId
  let new := fenceRow projection execution fenceDigest clock
  let fences := insertOrIgnore new.conflicts new db.fences
  let persisted ← okOr (fences.find? fun row =>
      row.fenceId = execution.reservationId && row.idempotencyKey = execution.idempotencyKey)
    .integrityViolation
  rejectIf (persisted.trustDomain ≠ new.trustDomain
      ∨ persisted.environmentRef ≠ new.environmentRef
      ∨ persisted.tenantRef ≠ new.tenantRef
      ∨ persisted.operationRef ≠ new.operationRef
      ∨ persisted.firstRunId ≠ new.firstRunId
      ∨ persisted.firstActionRecordId ≠ new.firstActionRecordId
      ∨ persisted.firstActionRevision ≠ new.firstActionRevision
      ∨ persisted.firstActionDigest ≠ new.firstActionDigest
      ∨ persisted.fenceDigest ≠ new.fenceDigest)
    .integrityViolation
  .ok { db with fences }

end Fence

/-- The reservation of an execution. -/
def reservationRow (projection : IdrRunProjectionV1) (execution : ExecutionProjectionV1)
    (clock : Nat) : ReservationRow where
  reservationId := execution.reservationId
  fenceId := execution.reservationId
  runId := projection.runId
  tenantRef := projection.tenantRef.asStr
  actionRecordId := execution.actionRef.recordId
  actionRevision := execution.actionRef.revision
  actionAdmissionRecordId := execution.actionAdmissionRef.recordId
  actionAdmissionRevision := execution.actionAdmissionRef.revision
  operationRef := execution.operationRef.asStr
  idempotencyKey := execution.idempotencyKey
  providerRef := execution.providerRef.asStr
  ownerRef := execution.ownerRef.asStr
  state := execution.state
  aggregateVersion := projection.aggregateVersion
  actionDigest := execution.actionRef.recordDigest
  parameterDigest := execution.parameterDigest
  requestDigest := execution.requestDigest
  exactAuthorizationProofId := execution.exactAuthorizationProofId
  actionValidUntil := execution.actionValidUntil
  admissionValidUntil := execution.admissionValidUntil
  authorizationValidUntil := execution.authorizationValidUntil
  createdAt := clock
  updatedAt := clock

/-- The least of the three bounds is over at the clock. -/
def authorityElapsed (actionValidUntil admissionValidUntil authorizationValidUntil clock : Nat) :
    Bool :=
  min (min actionValidUntil admissionValidUntil) authorizationValidUntil * microsPerSecond ≤ clock

/-- The authority of a reservation is over at the clock. -/
def ReservationRow.elapsed (row : ReservationRow) (clock : Nat) : Bool :=
  authorityElapsed row.actionValidUntil row.admissionValidUntil row.authorizationValidUntil clock

/-- The authority of a reservation is absent, or not the one of its records and its proof. -/
def ReservationRow.authorityMismatch (new : ReservationRow) (db : DatabaseV1) : Bool :=
  let action := db.contractRecord new.actionRecordId new.actionRevision
  let admission := db.contractRecord new.actionAdmissionRecordId new.actionAdmissionRevision
  let authorization := db.proofEnvelope new.exactAuthorizationProofId
  action.map (·.candidateKind) ≠ some .action
    || admission.map (·.candidateKind) ≠ some .actionAdmissionDecision
    || action.map (·.trustDomain) ≠ admission.map (·.trustDomain)
    || action.map (·.environmentRef) ≠ admission.map (·.environmentRef)
    || action.map (·.validUntil) ≠ some new.actionValidUntil
    || admission.map (·.validUntil) ≠ some new.admissionValidUntil
    || authorization.map (·.proofKind) ≠ some .exactAuthorization
    || authorization.map (·.envelope.claims.expiresAt) ≠ some new.authorizationValidUntil

/-- `idr_validate_execution_authority_v4`. -/
def idrValidateExecutionAuthorityV4 (db : DatabaseV1) (clock : Nat) (new : ReservationRow) :
    Except IdrRuntimeErrorV1 Unit :=
  rejectIf (new.authorityMismatch db = true ∨ new.elapsed clock = true)
    (raise "Execution reservation authority is absent, expired, or mismatched")

/-- `idr_validate_execution_fence_v6`. -/
def idrValidateExecutionFenceV6 (db : DatabaseV1) (new : ReservationRow) :
    Except IdrRuntimeErrorV1 Unit :=
  let fence := db.fences.find? fun row => row.fenceId = new.fenceId
  let run := db.run new.runId
  rejectIf (run.isNone = true
      ∨ new.fenceId ≠ new.reservationId
      ∨ fence.map (·.trustDomain) ≠ run.map (·.trustDomain)
      ∨ fence.map (·.environmentRef) ≠ run.map (·.environmentRef)
      ∨ fence.map (·.tenantRef) ≠ some new.tenantRef
      ∨ fence.map (·.operationRef) ≠ some new.operationRef
      ∨ fence.map (·.idempotencyKey) ≠ some new.idempotencyKey
      ∨ fence.map (·.firstRunId) ≠ some new.runId
      ∨ fence.map (·.firstActionRecordId) ≠ some new.actionRecordId
      ∨ fence.map (·.firstActionRevision) ≠ some new.actionRevision
      ∨ fence.map (·.firstActionDigest) ≠ some new.actionDigest)
    (raise "Execution Reservation does not match its immutable fence")

/-- A reservation that shares a unique key. -/
def ReservationRow.conflicts (new old : ReservationRow) : Bool :=
  old.reservationId = new.reservationId
    || (old.actionRecordId = new.actionRecordId && old.actionRevision = new.actionRevision)
    || (old.tenantRef = new.tenantRef && old.operationRef = new.operationRef
      && old.idempotencyKey = new.idempotencyKey)
    || old.fenceId = new.fenceId

/-- The update that the view bridge makes of an insert that conflicts, with its guard
`idr_guard_execution_reservation_update_v5`. -/
def updateReservation (attestation : AttestationRow) (clock : Nat) (new : ReservationRow)
    (db : DatabaseV1) (old : ReservationRow) : Except IdrRuntimeErrorV1 ReservationRow := do
  rejectIf (old.aggregateVersion ≥ new.aggregateVersion)
    (raise "Attested execution Reservation version did not advance")
  let updated := { old with
    state := new.state
    aggregateVersion := new.aggregateVersion
    updatedAt := clock }
  idrValidateExecutionFenceV6 db updated
  rejectIf (updated.aggregateVersion ≠ old.aggregateVersion + 1
      ∨ updated.updatedAt < old.updatedAt
      ∨ idrExecutionStateTransitionAllowedV5 (some attestation.purpose) old.state updated.state
        = false)
    (raise "Execution reservation update is not a contiguous legal transition")
  .ok updated

/-- The insert of the reservation through the view bridge. -/
def persistReservation (attestation : AttestationRow) (clock : Nat)
    (projection : IdrRunProjectionV1) (execution : ExecutionProjectionV1) (db : DatabaseV1) :
    Except IdrRuntimeErrorV1 DatabaseV1 := do
  i64FromU64 execution.actionAdmissionRef.revision
  i64FromU64 execution.actionValidUntil
  i64FromU64 execution.admissionValidUntil
  i64FromU64 execution.authorizationValidUntil
  let new := reservationRow projection execution clock
  bridgeAdmits attestation attestation.trustDomain attestation.environmentRef new.tenantRef
    new.runId
  idrValidateExecutionAuthorityV4 db clock new
  idrValidateExecutionFenceV6 db new
  if db.reservations.any new.conflicts = true then
    match db.reservations.find? fun row => row.reservationId = new.reservationId with
    | none => .ok db
    | some old => do
      let updated ← updateReservation attestation clock new db old
      .ok { db with
        reservations := updateWhere (fun row => row.reservationId = new.reservationId)
          (fun _ => updated) db.reservations }
  else .ok { db with reservations := db.reservations ++ [new] }

/-- The attempt was dispatched. -/
def startedState (state : ExecutionAggregateStateV1) : Bool :=
  state ∈ [.dispatchStarted, .awaitingProvider, .reconciliationRequired, .succeeded, .failed,
    .rejected, .compensated]

/-- The attempt has a result. -/
def completedState (state : ExecutionAggregateStateV1) : Bool :=
  state ∈ [.succeeded, .failed, .rejected, .compensated]

/-- The attempt of an execution. -/
def attemptRow (execution : ExecutionProjectionV1) (clock : Nat) : AttemptRow where
  reservationId := execution.reservationId
  attempt := execution.attempt
  permitId := execution.permitId
  dispatchNonce := execution.dispatchNonce
  leaseUntil := execution.leaseUntil
  permitValidUntil := execution.permitValidUntil
  state := execution.state
  providerRef := execution.providerRef.asStr
  ownerRef := execution.ownerRef.asStr
  startedAt := if startedState execution.state = true then some clock else none
  completedAt := if completedState execution.state = true then some clock else none

/-- `idr_enforce_execution_attempt_sequence_v1`. -/
def idrEnforceExecutionAttemptSequenceV1 (db : DatabaseV1) (new : AttemptRow) :
    Except IdrRuntimeErrorV1 Unit :=
  let present := db.attempts.any fun row => row.reservationId = new.reservationId
    && row.attempt = new.attempt && row.permitId = new.permitId
  let last :=
    ((db.attempts.filter (·.reservationId = new.reservationId)).map (·.attempt)).max?
  require (present = true ∨ (new.attempt = last.elim 1 (· + 1) ∧ new.state = .permitIssued))
    (raise "execution attempt must be contiguous and start permit_issued")

/-- An attempt that shares a unique key. -/
def AttemptRow.conflicts (new old : AttemptRow) : Bool :=
  (old.reservationId = new.reservationId && old.attempt = new.attempt)
    || old.permitId = new.permitId
    || (old.reservationId = new.reservationId && old.dispatchNonce = new.dispatchNonce)

/-- The attempt is the same attempt, with the same permit, nonce, provider and owner. -/
def AttemptRow.sameIdentity (new old : AttemptRow) : Bool :=
  old.reservationId = new.reservationId && old.attempt = new.attempt
    && old.permitId = new.permitId && old.dispatchNonce = new.dispatchNonce
    && old.providerRef = new.providerRef && old.ownerRef = new.ownerRef

/-- The insert of the attempt through the view bridge. -/
def persistAttempt (attestation : AttestationRow) (clock : Nat)
    (execution : ExecutionProjectionV1) (db : DatabaseV1) :
    Except IdrRuntimeErrorV1 DatabaseV1 := do
  i32TryFrom execution.attempt
  i64FromU64 execution.leaseUntil
  i64FromU64 execution.permitValidUntil
  let new := attemptRow execution clock
  idrEnforceExecutionAttemptSequenceV1 db new
  rejectIf (new.attempt = 0 ∨ new.leaseUntil < new.permitValidUntil ∨ new.permitValidUntil = 0)
    checkViolation
  if db.attempts.any new.conflicts = true then do
    let old ← okOr (db.attempts.find? new.sameIdentity)
      (raise "Attested execution Attempt identity changed")
    -- `idr_guard_execution_attempt_update_v5`
    require (idrExecutionStateTransitionAllowedV5 (some attestation.purpose) old.state new.state
        = true)
      (raise "Execution attempt update is not a legal monotonic transition")
    .ok { db with
      attempts := updateWhere new.sameIdentity (fun row => { row with
        state := new.state
        startedAt := row.startedAt <|> new.startedAt
        completedAt := row.completedAt <|> new.completedAt }) db.attempts }
  else do
    require (db.reservations.any (fun row => row.reservationId = new.reservationId) = true)
      foreignKeyViolation
    .ok { db with attempts := db.attempts ++ [new] }

/-! ### The receipt, the outcome and the response -/

/-- `idr_validate_execution_receipt_v2`. -/
def idrValidateExecutionReceiptV2 (db : DatabaseV1) (new : ExecutionReceiptRow) :
    Except IdrRuntimeErrorV1 Unit :=
  let attempt := db.attempts.find? fun row =>
    row.reservationId = new.reservationId && row.attempt = new.attempt
  let reservation := db.reservations.find? fun row => row.reservationId = new.reservationId
  rejectIf (attempt.any (fun row => !startedState row.state) = true
      ∨ differs (attempt.map (·.permitId)) (some new.permitId) = true
      ∨ differs (attempt.map (·.providerRef)) (some new.providerRef) = true
      ∨ differs (attempt.map (·.dispatchNonce)) (some new.dispatchNonce) = true
      ∨ differs (reservation.map (·.requestDigest))
        ((new.receipt.payload.get "request_digest").bind Value.asStr) = true)
    (raise "Receipt does not match dispatched attempt and approved request")

/-- The receipt of an execution. -/
def persistExecutionReceipt (new : ExecutionReceiptRow) (db : DatabaseV1) :
    Except IdrRuntimeErrorV1 DatabaseV1 := do
  i32TryFrom new.attempt
  idrValidateExecutionReceiptV2 db new
  let executionReceipts ← insertRow (fun row =>
      (row.receiptRecordId = new.receiptRecordId && row.receiptRevision = new.receiptRevision)
        || (row.reservationId = new.reservationId && row.attempt = new.attempt))
    uniqueViolation new db.executionReceipts
  require (db.attempts.any (fun row =>
      row.reservationId = new.reservationId && row.attempt = new.attempt) = true)
    foreignKeyViolation
  .ok { db with executionReceipts }

/-- The outcome of an execution. -/
def persistOutcome (projection : IdrRunProjectionV1) (record : AuthoritativeRecordV1)
    (db : DatabaseV1) : Except IdrRuntimeErrorV1 DatabaseV1 := do
  let receiptRef ← okOr (projection.records .executionReceipt) .missingDependency
  let outcomeRecords ← insertRow (fun row =>
      row.outcomeRecordId = record.recordRef.recordId
        && row.outcomeRevision = record.recordRef.revision)
    uniqueViolation {
      outcomeRecordId := record.recordRef.recordId
      outcomeRevision := record.recordRef.revision
      outcome := record }
    db.outcomeRecords
  require (db.executionReceipts.any (fun row => row.receiptRecordId = receiptRef.recordId
      && row.receiptRevision = receiptRef.revision) = true)
    foreignKeyViolation
  .ok { db with outcomeRecords }

/-- The send of a response. -/
def persistResponseSend (tenantRef sendNonce : Text) (db : DatabaseV1) :
    Except IdrRuntimeErrorV1 DatabaseV1 := do
  let responseSends ← insertRow (fun row => row.tenantRef = tenantRef && row.sendNonce = sendNonce)
    uniqueViolation { tenantRef, sendNonce } db.responseSends
  .ok { db with responseSends }

/-- The tables of the execution. -/
def persistExecution [Crypto] (attestation : AttestationRow) (clock : Nat)
    (projection : IdrRunProjectionV1) (db : DatabaseV1) :
    Except IdrRuntimeErrorV1 DatabaseV1 :=
  match projection.execution with
  | none => .ok db
  | some execution => do
    let db ← persistFence attestation clock projection execution db
    let db ← persistReservation attestation clock projection execution db
    persistAttempt attestation clock execution db

/-- The tables that a response send writes. -/
def persistSend (command : IdrCommandEnvelopeV1) (db : DatabaseV1) :
    Except IdrRuntimeErrorV1 DatabaseV1 :=
  match command.command with
  | .consumeResponseSend _ _ _ _ sendNonce =>
    persistResponseSend command.tenantRef.asStr sendNonce db
  | _ => .ok db

/-- The tables that the result of an execution writes. -/
def persistResult (command : IdrCommandEnvelopeV1) (transition : IdrTransitionV1)
    (db : DatabaseV1) : Except IdrRuntimeErrorV1 DatabaseV1 :=
  match command.command with
  | .commitExecutionReceipt _ reservationId permitId providerRef dispatchNonce attempt => do
    let record ← okOr transition.authoritativeRecord .serialization
    persistExecutionReceipt {
      receiptRecordId := record.recordRef.recordId
      receiptRevision := record.recordRef.revision
      reservationId
      attempt
      permitId
      providerRef := providerRef.asStr
      dispatchNonce
      receipt := record } db
  | .recordOutcome _ => do
    let record ← okOr transition.authoritativeRecord .serialization
    persistOutcome transition.projection record db
  | _ => .ok db

/-- `persist_specialized_projection`. -/
def persistSpecializedProjection [Crypto] (attestation : AttestationRow) (clock : Nat)
    (command : IdrCommandEnvelopeV1) (transition : IdrTransitionV1) (db : DatabaseV1) :
    Except IdrRuntimeErrorV1 DatabaseV1 := do
  let db ← persistSend command db
  let db ← persistExecution attestation clock transition.projection db
  persistResult command transition db

end Idr
