/-
Idr/Authority/Transact.lean

One transaction of the orchestrator.

`transactInner` either answers a command that was committed before from its
stored receipt, or verifies the proofs, loads the run, evaluates the command
or revokes the bound admission, and writes the transition, its audit event,
its receipt and a checkpoint.  An error leaves the database as it was: the
transaction is rolled back, so the result carries a new database only when
the call succeeds.

Transactions are serializable, so a run of the authority is a sequence of
calls (`AuthorityStep`).  Of the environment it is assumed that the clock
does not go back, that drawn identifiers are new, and that the two
sequences count up.
-/
import Idr.Authority.Reads
import Idr.Lib.Steps

namespace Idr

variable [Crypto]

/-! ### A command that was committed before -/

omit [Crypto] in
/-- The receipt of a command. -/
def DatabaseV1.commandReceipt (db : DatabaseV1) (commandId : Uuid) : Option CommandReceiptRow :=
  db.commandReceipts.find? fun row => row.commandId = commandId

namespace PostgresIdrOrchestratorV1

omit [Crypto] in
/-- `same_command`. -/
def sameCommand (self : PostgresIdrOrchestratorV1) (row : CommandReceiptRow)
    (command : IdrCommandEnvelopeV1) (commandDigest : Text) : Prop :=
  row.trustDomain = self.trustDomain ∧ row.environmentRef = self.environmentRef
    ∧ row.tenantRef = command.tenantRef.asStr ∧ row.runId = command.runId
    ∧ row.actorRef = command.actorRef.asStr ∧ row.callerRef = command.callerRef.asStr
    ∧ row.commandDigest = commandDigest

omit [Crypto] in
instance (self : PostgresIdrOrchestratorV1) (row : CommandReceiptRow)
    (command : IdrCommandEnvelopeV1) (commandDigest : Text) :
    Decidable (self.sameCommand row command commandDigest) := by
  unfold sameCommand
  infer_instance

/-- The answer to a command whose receipt is stored. -/
def replayReceipt (self : PostgresIdrOrchestratorV1) (db : DatabaseV1) (i : TransactInputV1)
    (commandDigest : Text) (row : CommandReceiptRow) :
    Except IdrRuntimeErrorV1 (IdrCommandReceiptV1 × AuditCheckpointV1) := do
  require (self.sameCommand row i.command commandDigest) .idempotencyConflict
  let _ ← self.verifyProofsInsideTransaction i.command i.trustedNow i.trustRoot
  let receipt := row.receipt
  rejectIf (receipt.attestationId ≠ row.attestationId) .integrityViolation
  let mac ← self.commandReceiptMac receipt
  rejectIf (mac ≠ row.receiptMac) .integrityViolation
  let attestation ← okOr (db.attestations.find? (·.attestationId = row.attestationId))
    (.repository "no rows returned by a query that expected to return at least one row")
  let attestationId ← self.verifyAttestationRow attestation
  rejectIf (attestationId ≠ row.attestationId) .integrityViolation
  let checkpoint ← latestCheckpointForTenant db self.trustDomain self.environmentRef.asStr
    i.command.tenantRef.asStr
  .ok ({ receipt with idempotentReplay := true }, checkpoint)

/-! ### The stored run -/

end PostgresIdrOrchestratorV1

/-- `projection_digest_v1`. -/
def projectionDigestV1 (projection : IdrRunProjectionV1) : Except IdrRuntimeErrorV1 Text :=
  fromProtocol (canonicalDigestV1 "idr-run-projection-v1" projection)

omit [Crypto] in
/-- The digest of the projection that the last audit event of a run names. -/
def auditedDigest (db : DatabaseV1) (runId : Uuid) : Option Text :=
  (lastBy (·.sequence) (db.auditEvents.filter (·.runId = runId))).bind fun row =>
    (row.payload.get "projection_digest").bind Value.asStr

namespace PostgresIdrOrchestratorV1

/-- The projection a command is applied to: the stored one, or a pending one where the command
starts the run. -/
def loadRun (self : PostgresIdrOrchestratorV1) (db : DatabaseV1)
    (command : IdrCommandEnvelopeV1) : Except IdrRuntimeErrorV1 IdrRunProjectionV1 :=
  match db.run command.runId with
  | some row => do
    let computed ← projectionDigestV1 row.projection
    rejectIf (row.trustDomain ≠ self.trustDomain
        ∨ row.environmentRef ≠ self.environmentRef
        ∨ row.projection.trustDomain ≠ row.trustDomain
        ∨ row.projection.environmentRef ≠ row.environmentRef
        ∨ row.projectionDigest ≠ computed
        ∨ auditedDigest db command.runId ≠ some row.projectionDigest)
      .integrityViolation
    .ok row.projection
  | none =>
    match command.command with
    | .startRun _ =>
      if command.expectedAggregateVersion = 0 then
        .ok (.pending self.trustDomain self.environmentRef command.runId command.tenantRef)
      else .error .missingDependency
    | _ => .error .missingDependency

/-! ### The transition -/

/-- The transition of a command: the evaluated one with the stored closure, or the revocation of
the bound admission when its proofs do not verify again. -/
def produceTransition (self : PostgresIdrOrchestratorV1) (db : DatabaseV1) (i : TransactInputV1)
    (projection : IdrRunProjectionV1) (verifiedProofs : List VerifiedProductionProofV1) :
    Except IdrRuntimeErrorV1 IdrTransitionV1 := do
  let boundAdmissionResult := self.reverifyBoundActionAdmissionProofs db projection i.command
    i.trustedNow i.trustRoot
  checkProofReplay db i.command verifiedProofs self.trustDomain
  match boundAdmissionResult with
  | .ok () =>
    evaluatedTransition (loadRecursiveInvalidationClosure db) i.fresh projection i.command
      i.trustedNow verifiedProofs
  | .error .actionNotAdmitted =>
    revokedTransition (loadRecursiveInvalidationClosure db) projection i.command verifiedProofs
  | .error error => .error error

/-- What the attestation of a transition covers. -/
def transitionDigest (self : PostgresIdrOrchestratorV1) (command : IdrCommandEnvelopeV1)
    (commandDigest : Text) (preAggregateVersion : Nat) (projectionDigest : Text)
    (transition : IdrTransitionV1) : Except IdrRuntimeErrorV1 Text :=
  fromProtocol (canonicalDigestV1 "idr-orchestrator-transition-attestation-v1" (Value.object [
    ("trust_domain", toValue self.trustDomain),
    ("environment_ref", toValue self.environmentRef),
    ("command_id", toValue command.commandId),
    ("command_digest", toValue commandDigest),
    ("run_id", toValue command.runId),
    ("tenant_ref", toValue command.tenantRef),
    ("pre_aggregate_version", toValue preAggregateVersion),
    ("post_aggregate_version", toValue transition.projection.aggregateVersion),
    ("projection_digest", toValue projectionDigest),
    ("event_type", toValue transition.eventType),
    ("record_ref", toValue (transition.authoritativeRecord.map (·.recordRef))),
    ("consumed_proof_ids", toValue transition.consumedProofIds)]))

end PostgresIdrOrchestratorV1

/-! ### The writes -/

omit [Crypto] in
/-- The tables of the record of a transition. -/
def persistRecord (attestation : AttestationRow) (command : IdrCommandV1)
    (transition : IdrTransitionV1) (db : DatabaseV1) : Except IdrRuntimeErrorV1 DatabaseV1 :=
  match transition.authoritativeRecord with
  | none => .ok db
  | some record => do
    let db ← persistAuthoritativeRecord attestation transition.projection record db
    persistContractDependencies command transition.projection record db

/-- The tables of the transition itself. -/
def persistTransition (attestation : AttestationRow) (i : TransactInputV1)
    (trustDomain : TrustDomainV1) (transition : IdrTransitionV1) (projectionDigest : Text)
    (verifiedProofs : List VerifiedProductionProofV1) (db : DatabaseV1) :
    Except IdrRuntimeErrorV1 DatabaseV1 := do
  let db ← upsertRun attestation i.writeClock transition.projection projectionDigest db
  let db ← persistRecord attestation i.command.command transition db
  let db ← persistProofConsumptions attestation i.command verifiedProofs trustDomain db
  persistSpecializedProjection attestation i.writeClock i.command transition db

omit [Crypto] in
/-- The references of the record of a transition. -/
def contractRefs (transition : IdrTransitionV1) : Value :=
  toValue (transition.authoritativeRecord.map (·.recordRef)).toList

omit [Crypto] in
/-- The run event of a transition. -/
def runEventRow (attestation : AttestationRow) (i : TransactInputV1)
    (transition : IdrTransitionV1) : RunEventRow where
  globalSequence := i.globalSequence
  eventId := i.eventId
  runId := i.command.runId
  runEventSequence := transition.projection.lastEventSequence
  aggregateVersion := transition.projection.aggregateVersion
  attestationId := attestation.attestationId

omit [Crypto] in
/-- The row of a checkpoint. -/
def checkpointRow (checkpoint : AuditCheckpointV1) : CheckpointRow where
  checkpointId := checkpoint.checkpointId
  trustDomain := checkpoint.trustDomain
  environmentRef := checkpoint.environmentRef
  tenantRef := checkpoint.tenantRef
  auditSequence := checkpoint.auditSequence
  chainRoot := checkpoint.chainRoot
  recordSetRoot := checkpoint.recordSetRoot
  executionStateRoot := checkpoint.executionStateRoot
  signedCheckpoint := checkpoint

namespace PostgresIdrOrchestratorV1

omit [Crypto] in
/-- The payload of the audit event of a transition. -/
def auditPayload (self : PostgresIdrOrchestratorV1) (command : IdrCommandEnvelopeV1)
    (commandDigest projectionDigest : Text) (transition : IdrTransitionV1) : Value := .object [
  ("trust_domain", toValue self.trustDomain),
  ("environment_ref", toValue self.environmentRef),
  ("event_type", toValue transition.eventType),
  ("command_id", toValue command.commandId),
  ("command_digest", toValue commandDigest),
  ("run_id", toValue command.runId),
  ("tenant_ref", toValue command.tenantRef),
  ("aggregate_version", toValue transition.projection.aggregateVersion),
  ("actor_ref", toValue command.actorRef),
  ("caller_ref", toValue command.callerRef),
  ("correlation_ref", toValue command.correlationRef),
  ("causation_ref", toValue command.causationRef),
  ("policy_revision_ref", toValue command.policyRevisionRef),
  ("contract_refs", contractRefs transition),
  ("proof_refs", toValue transition.consumedProofIds),
  ("projection_digest", toValue projectionDigest),
  ("event_payload", transition.eventPayload)]

omit [Crypto] in
/-- The audit event of a transition. -/
def auditRow (self : PostgresIdrOrchestratorV1) (attestation : AttestationRow)
    (i : TransactInputV1) (transition : IdrTransitionV1) (previousHash eventHash : Text)
    (payload : Value) : AuditRow where
  sequence := i.auditSequence
  eventId := i.eventId
  trustDomain := self.trustDomain
  environmentRef := self.environmentRef
  tenantRef := i.command.tenantRef.asStr
  runId := i.command.runId
  aggregateVersion := transition.projection.aggregateVersion
  actorRef := i.command.actorRef.asStr
  callerRef := i.command.callerRef.asStr
  correlationRef := i.command.correlationRef.asStr
  causationRef := i.command.causationRef.asStr
  contractRefs := contractRefs transition
  proofRefs := toValue transition.consumedProofIds
  policyRevisionRef := i.command.policyRevisionRef.asStr
  previousHash := previousHash
  eventHash := eventHash
  payload := payload
  attestationId := attestation.attestationId

/-- The run event and the audit event of a transition, and the hash of the latter. -/
def recordEvents (self : PostgresIdrOrchestratorV1) (attestation : AttestationRow)
    (i : TransactInputV1) (commandDigest projectionDigest : Text) (transition : IdrTransitionV1)
    (db : DatabaseV1) : Except IdrRuntimeErrorV1 (Text × DatabaseV1) := do
  let command := i.command
  let previousHash := previousHash db command.tenantRef.asStr
  let payload := self.auditPayload command commandDigest projectionDigest transition
  let eventHash ← hashEventV1 previousHash payload
  let runEvents ← insertRow (fun row => row.globalSequence = i.globalSequence
      || row.eventId = i.eventId
      || (row.runId = command.runId
        && row.runEventSequence = transition.projection.lastEventSequence)
      || (row.runId = command.runId
        && row.aggregateVersion = transition.projection.aggregateVersion))
    uniqueViolation (runEventRow attestation i transition) db.runEvents
  let auditEvents ← insertRow (fun row => row.sequence = i.auditSequence
      || row.eventId = i.eventId)
    uniqueViolation
    (self.auditRow attestation i transition previousHash eventHash payload) db.auditEvents
  .ok (eventHash, { db with runEvents, auditEvents })

omit [Crypto] in
/-- The receipt of a transition. -/
def receiptOf (self : PostgresIdrOrchestratorV1) (attestation : AttestationRow)
    (i : TransactInputV1) (transition : IdrTransitionV1) : IdrCommandReceiptV1 where
  commandId := i.command.commandId
  attestationId := attestation.attestationId
  trustDomain := self.trustDomain
  environmentRef := self.environmentRef
  runId := i.command.runId
  aggregateVersion := transition.projection.aggregateVersion
  eventSequence := i.globalSequence
  state := transition.projection.state
  recordRef := transition.authoritativeRecord.map (·.recordRef)
  idempotentReplay := false

omit [Crypto] in
/-- The row of the receipt of a command. -/
def commandReceiptRow (self : PostgresIdrOrchestratorV1) (command : IdrCommandEnvelopeV1)
    (commandDigest : Text) (receipt : IdrCommandReceiptV1) (receiptMac : Text) :
    CommandReceiptRow where
  commandId := command.commandId
  trustDomain := self.trustDomain
  environmentRef := self.environmentRef
  runId := command.runId
  aggregateVersion := receipt.aggregateVersion
  eventSequence := receipt.eventSequence
  receipt := receipt
  receiptMac := receiptMac
  tenantRef := command.tenantRef.asStr
  actorRef := command.actorRef.asStr
  callerRef := command.callerRef.asStr
  commandDigest := commandDigest
  attestationId := receipt.attestationId

/-- The receipt of a transition is written. -/
def recordReceipt (self : PostgresIdrOrchestratorV1) (attestation : AttestationRow)
    (i : TransactInputV1) (commandDigest : Text) (transition : IdrTransitionV1)
    (db : DatabaseV1) : Except IdrRuntimeErrorV1 (IdrCommandReceiptV1 × DatabaseV1) := do
  let receipt := self.receiptOf attestation i transition
  let receiptMac ← self.commandReceiptMac receipt
  let commandReceipts ← insertRow (·.commandId = i.command.commandId) uniqueViolation
    (self.commandReceiptRow i.command commandDigest receipt receiptMac) db.commandReceipts
  .ok (receipt, { db with commandReceipts })

/-- The checkpoint after a transition. -/
def recordCheckpoint (self : PostgresIdrOrchestratorV1) (i : TransactInputV1) (eventHash : Text)
    (db : DatabaseV1) : Except IdrRuntimeErrorV1 (AuditCheckpointV1 × DatabaseV1) := do
  let tenantRef := i.command.tenantRef.asStr
  let recordSetRoot ← recordSetRootForTenant db tenantRef
  let executionStateRoot ← executionStateRootForTenant db tenantRef
  let checkpoint : AuditCheckpointV1 := {
    trustDomain := self.trustDomain
    environmentRef := self.environmentRef.asStr
    tenantRef
    auditSequence := i.auditSequence
    chainRoot := eventHash
    recordSetRoot
    executionStateRoot
    checkpointId := i.checkpointId }
  let auditCheckpoints ← insertRow (fun row => row.checkpointId = i.checkpointId
      || (row.tenantRef = tenantRef && row.auditSequence = i.auditSequence))
    uniqueViolation (checkpointRow checkpoint) db.auditCheckpoints
  .ok (checkpoint, { db with auditCheckpoints })

/-- All writes of a transition. -/
def commitTransition (self : PostgresIdrOrchestratorV1) (db : DatabaseV1) (i : TransactInputV1)
    (commandDigest : Text) (preAggregateVersion : Nat) (transition : IdrTransitionV1)
    (verifiedProofs : List VerifiedProductionProofV1) :
    Except IdrRuntimeErrorV1 (IdrCommandReceiptV1 × AuditCheckpointV1 × DatabaseV1) := do
  let command := i.command
  let projectionDigest ← projectionDigestV1 transition.projection
  let transitionDigest ← self.transitionDigest command commandDigest preAggregateVersion
    projectionDigest transition
  let (attestation, db) ← self.openAttestation db i (attestationPurpose transition.eventType)
    command.commandId command.runId command.tenantRef.asStr preAggregateVersion
    transition.projection.aggregateVersion commandDigest transitionDigest
  let db ← persistTransition attestation i self.trustDomain transition projectionDigest
    verifiedProofs db
  let (eventHash, db) ← self.recordEvents attestation i commandDigest projectionDigest transition db
  let (receipt, db) ← self.recordReceipt attestation i commandDigest transition db
  let (checkpoint, db) ← self.recordCheckpoint i eventHash db
  .ok (receipt, checkpoint, db)

/-! ### The transaction -/

/-- `transact_inner`, with the database it leaves behind. -/
def transactInner (self : PostgresIdrOrchestratorV1) (db : DatabaseV1) (i : TransactInputV1) :
    Except IdrRuntimeErrorV1 (IdrCommandReceiptV1 × AuditCheckpointV1 × DatabaseV1) := do
  rejectIf (i.trustRoot.trustDomain ≠ self.trustDomain
      ∨ i.trustRoot.environmentRef ≠ self.environmentRef)
    .bindingMismatch
  let commandDigest ← i.command.canonicalDigest
  match db.commandReceipt i.command.commandId with
  | some row => do
    let (receipt, checkpoint) ← self.replayReceipt db i commandDigest row
    .ok (receipt, checkpoint, db)
  | none => do
    let verifiedProofs ← self.verifyProofsInsideTransaction i.command i.trustedNow i.trustRoot
    let projection ← self.loadRun db i.command
    let transition ← self.produceTransition db i projection verifiedProofs
    self.commitTransition db i commandDigest projection.aggregateVersion transition verifiedProofs

end PostgresIdrOrchestratorV1

/-! ### Commands that are refused before the transaction -/

omit [Crypto] in
/-- `is_human_model_write`. -/
def isHumanModelWrite : IdrCommandV1 → Bool
  | .proposeHumanModelCandidate _ | .recordHumanModelPromotion _ _
  | .promoteHumanModelAssertion _ _ | .correctHumanModelAssertion _ _ => true
  | _ => false

end Idr
