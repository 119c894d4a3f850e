/-
Idr/Authority/Reads.lean

What a transaction reads and hashes.

The invalidation closure of a record is the set of the stored records that
dependency edges lead to, from a dependency to its dependents.  The roots
of a checkpoint are digests over the record rows and over the execution
rows of a tenant; the hash of an audit event covers the hash of the event
before it.
-/
import Idr.Authority.Persist

namespace Idr

/-! ### The invalidation closure -/

/-- The edges of the closure: from a dependency to its dependent. -/
def dependentEdges (db : DatabaseV1) : List ((Uuid × Nat) × (Uuid × Nat)) :=
  db.contractDependencies.map fun row =>
    ((row.dependencyRecordId, row.dependencyRevision),
      (row.dependentRecordId, row.dependentRevision))

/-- `ORDER BY issued_at, record_id, revision`. -/
def issuedBefore (a b : ContractRow) : Prop :=
  (compare a.issuedAt b.issuedAt).then
    ((compare a.recordId.toNat b.recordId.toNat).then (compare a.revision b.revision)) ≠ .gt

instance (a b : ContractRow) : Decidable (issuedBefore a b) := by
  unfold issuedBefore
  infer_instance

/-- The reference that the columns of a record row make up. -/
def ContractRow.recordRef (row : ContractRow) : AuthoritativeRecordRefV1 where
  recordId := row.recordId
  revision := row.revision
  candidateKind := row.candidateKind
  trustDomain := row.trustDomain
  environmentRef := row.environmentRef
  validFrom := row.validFrom
  validUntil := row.validUntil
  recordDigest := row.recordDigest

/-- The rows of the closure of a record. -/
def closureRows (db : DatabaseV1) (root : Uuid × Nat) : List ContractRow :=
  let closure := reach (dependentEdges db) root
  (db.contractRecords.filter fun row =>
    closure.contains (row.recordId, row.revision)).insertionSort issuedBefore

/-- `load_recursive_invalidation_closure`. -/
def loadRecursiveInvalidationClosure (db : DatabaseV1) (root : AuthoritativeRecordRefV1) :
    Except IdrRuntimeErrorV1 (List AuthoritativeRecordRefV1) := do
  i64FromU64 root.revision
  .ok ((closureRows db (root.recordId, root.revision)).map (·.recordRef))

theorem loadRecursiveInvalidationClosure_eq_ok {db : DatabaseV1}
    {root : AuthoritativeRecordRefV1} {closure : List AuthoritativeRecordRefV1}
    (h : loadRecursiveInvalidationClosure db root = .ok closure) {x : AuthoritativeRecordRefV1} :
    x ∈ closure ↔ ∃ row ∈ db.contractRecords, row.recordRef = x ∧
      Relation.ReflTransGen (Edge (dependentEdges db)) (root.recordId, root.revision)
        (row.recordId, row.revision) := by
  simp only [loadRecursiveInvalidationClosure, bind_eq_ok, Except.ok.injEq] at h
  obtain ⟨-, -, rfl⟩ := h
  simp only [closureRows, List.mem_map, List.mem_insertionSort, List.mem_filter,
    List.contains_iff_mem, mem_reach]
  constructor
  · rintro ⟨row, ⟨hrow, hreach⟩, rfl⟩
    exact ⟨row, hrow, rfl, hreach⟩
  · rintro ⟨row, hrow, rfl, hreach⟩
    exact ⟨row, ⟨hrow, hreach⟩, rfl⟩

/-! ### Roots -/

/-- A sort by a key of numbers. -/
def sortRows {ρ : Type} (key : ρ → List Nat) (rows : List ρ) : List ρ :=
  rows.insertionSort fun a b => compareNats (key a) (key b) ≠ .gt

/-- The leaf of a fence. -/
def FenceRow.leaf (row : FenceRow) : Value := .object [
  ("fence_id", toValue row.fenceId),
  ("trust_domain", toValue row.trustDomain),
  ("environment_ref", toValue row.environmentRef),
  ("tenant_ref", toValue row.tenantRef),
  ("operation_ref", toValue row.operationRef),
  ("idempotency_key", toValue row.idempotencyKey),
  ("first_run_id", toValue row.firstRunId),
  ("first_action_record_id", toValue row.firstActionRecordId),
  ("first_action_revision", toValue row.firstActionRevision),
  ("first_action_digest", toValue row.firstActionDigest),
  ("fence_digest", toValue row.fenceDigest),
  ("created_at_micros", toValue row.createdAt)]

/-- The leaf of a reservation. -/
def ReservationRow.leaf (row : ReservationRow) : Value := .object [
  ("reservation_id", toValue row.reservationId),
  ("fence_id", toValue row.fenceId),
  ("run_id", toValue row.runId),
  ("tenant_ref", toValue row.tenantRef),
  ("action_record_id", toValue row.actionRecordId),
  ("action_revision", toValue row.actionRevision),
  ("action_admission_record_id", toValue row.actionAdmissionRecordId),
  ("action_admission_revision", toValue row.actionAdmissionRevision),
  ("operation_ref", toValue row.operationRef),
  ("idempotency_key", toValue row.idempotencyKey),
  ("provider_ref", toValue row.providerRef),
  ("owner_ref", toValue row.ownerRef),
  ("state", toValue row.state),
  ("aggregate_version", toValue row.aggregateVersion),
  ("action_digest", toValue row.actionDigest),
  ("parameter_digest", toValue row.parameterDigest),
  ("request_digest", toValue row.requestDigest),
  ("exact_authorization_proof_id", toValue row.exactAuthorizationProofId),
  ("action_valid_until", toValue row.actionValidUntil),
  ("admission_valid_until", toValue row.admissionValidUntil),
  ("authorization_valid_until", toValue row.authorizationValidUntil),
  ("created_at_micros", toValue row.createdAt),
  ("updated_at_micros", toValue row.updatedAt)]

/-- The leaf of an attempt. -/
def AttemptRow.leaf (row : AttemptRow) : Value := .object [
  ("reservation_id", toValue row.reservationId),
  ("attempt", toValue row.attempt),
  ("permit_id", toValue row.permitId),
  ("dispatch_nonce", toValue row.dispatchNonce),
  ("lease_until", toValue row.leaseUntil),
  ("permit_valid_until", toValue row.permitValidUntil),
  ("state", toValue row.state),
  ("provider_ref", toValue row.providerRef),
  ("owner_ref", toValue row.ownerRef),
  ("started_at_micros", toValue row.startedAt),
  ("completed_at_micros", toValue row.completedAt)]

/-- The leaf of a record: its identifier, its revision and its digest. -/
def ContractRow.leaf (row : ContractRow) : Value :=
  .array [toValue row.recordId, toValue row.revision, toValue row.recordDigest]

variable [Crypto]

/-- `record_set_root_for_tenant`. -/
def recordSetRootForTenant (db : DatabaseV1) (tenantRef : Text) : Except IdrRuntimeErrorV1 Text :=
  let rows := sortRows (fun row => [row.recordId.toNat, row.revision])
    (db.contractRecords.filter (·.tenantRef = tenantRef))
  fromProtocol (canonicalDigestV1 "idr-authoritative-record-set-v1" (rows.map (·.leaf)))

/-- `execution_state_root_for_tenant`. -/
def executionStateRootForTenant (db : DatabaseV1) (tenantRef : Text) :
    Except IdrRuntimeErrorV1 Text :=
  let fences := sortRows (fun row => [row.fenceId.toNat])
    (db.fences.filter (·.tenantRef = tenantRef))
  let reservations := sortRows (fun row => [row.reservationId.toNat])
    (db.reservations.filter (·.tenantRef = tenantRef))
  let attempts := sortRows (fun row => [row.reservationId.toNat, row.attempt])
    (db.attempts.filter fun row => reservations.any (·.reservationId = row.reservationId))
  fromProtocol (canonicalDigestV1 "idr-execution-state-set-v1" (Value.array [
    toValue (fences.map (·.leaf)),
    toValue (reservations.map (·.leaf)),
    toValue (attempts.map (·.leaf))]))

/-- `hash_event_v1`. -/
def hashEventV1 (previousHash : Text) (event : Value) : Except IdrRuntimeErrorV1 Text := do
  let bytes ← fromProtocol (canonicalJsonBytesV1
    (Value.array [toValue ("idr-audit-event-v1" : Text), toValue previousHash, event]))
  .ok (sha256Hex bytes)

/-! ### The last rows -/

omit [Crypto] in
/-- The hash that the next event of a tenant continues. -/
def previousHash (db : DatabaseV1) (tenantRef : Text) : Text :=
  ((lastBy (·.sequence) (db.auditEvents.filter (·.tenantRef = tenantRef))).map (·.eventHash)).getD
    ⟨List.replicate 64 48⟩

omit [Crypto] in
/-- `latest_checkpoint_for_tenant`. -/
def latestCheckpointForTenant (db : DatabaseV1) (trustDomain : TrustDomainV1)
    (environmentRef tenantRef : Text) : Except IdrRuntimeErrorV1 AuditCheckpointV1 := do
  let row ← okOr (lastBy (·.auditSequence) (db.auditCheckpoints.filter fun row =>
      row.trustDomain = trustDomain && row.environmentRef = environmentRef
        && row.tenantRef = tenantRef))
    (.repository "no rows returned by a query that expected to return at least one row")
  .ok {
    trustDomain
    environmentRef := row.environmentRef
    tenantRef := row.tenantRef
    auditSequence := row.auditSequence
    chainRoot := row.chainRoot
    recordSetRoot := row.recordSetRoot
    executionStateRoot := row.executionStateRoot
    checkpointId := row.checkpointId }

end Idr
