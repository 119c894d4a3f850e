/-
Idr/Authority/Commit.lean

The authority as a transition system, and what a commit is.

A step is one call: it answers a command from its receipt, commits a
transition, or fails and is rolled back (`transact`).  Everything that a
commit goes through and leaves behind is collected in `Commits`, table by
table, so that an invariant of the database looks at one field of it.
-/
import Idr.Authority.Writes

namespace Idr

variable [Crypto]

/-! ### Calls and runs -/

/-- A call with its roll back: the database afterwards, and the answer. -/
def PostgresIdrOrchestratorV1.transact (self : PostgresIdrOrchestratorV1) (db : DatabaseV1)
    (i : TransactInputV1) :
    DatabaseV1 × Except IdrRuntimeErrorV1 (IdrCommandReceiptV1 × AuditCheckpointV1) :=
  match self.transactInner db i with
  | .ok (receipt, checkpoint, db) => (db, .ok (receipt, checkpoint))
  | .error error => (db, .error error)

/-- The state of the authority: its database, and the identifiers drawn so far. -/
structure AuthorityStateV1 where
  db : DatabaseV1
  drawn : List Uuid

omit [Crypto] in
/-- The clock of a run does not go back, the clock of a call does not, the identifiers it draws are
new and distinct, and the sequence of the audit events of a tenant counts up. -/
def AuthorityStateV1.admits (s : AuthorityStateV1) (i : TransactInputV1) : Prop :=
  (∀ row ∈ s.db.runs, row.runId = i.command.runId → row.updatedAt ≤ i.startClock) ∧
    i.startClock ≤ i.writeClock ∧ i.fresh.ids.Nodup ∧
    i.fresh.ids.all (fun id => !s.drawn.contains id) = true ∧
    (∀ row ∈ s.db.auditEvents, row.tenantRef = i.command.tenantRef.asStr →
      row.sequence < i.auditSequence)

omit [Crypto] in
instance (s : AuthorityStateV1) (i : TransactInputV1) : Decidable (s.admits i) := by
  unfold AuthorityStateV1.admits
  infer_instance

/-- One call. -/
def PostgresIdrOrchestratorV1.authorityStep (self : PostgresIdrOrchestratorV1)
    (s : AuthorityStateV1) (i : TransactInputV1) : Except IdrRuntimeErrorV1 AuthorityStateV1 := do
  require (s.admits i) (.repository "database clock or identifier source is invalid")
  .ok { db := (self.transact s.db i).1, drawn := i.fresh.ids ++ s.drawn }

/-- The step relation of the authority. -/
def AuthorityStep (o : PostgresIdrOrchestratorV1) (s : AuthorityStateV1) (i : TransactInputV1)
    (t : AuthorityStateV1) : Prop :=
  o.authorityStep s i = .ok t

omit [Crypto] in
/-- The authority starts with a schema that was just migrated. -/
def AuthorityInit (s : AuthorityStateV1) : Prop := s.db = .empty

/-! ### What a commit is -/

/-- What a call computes on the way to its commit. -/
structure CommitV1 where
  commandDigest : Text
  verifiedProofs : List VerifiedProductionProofV1
  loaded : IdrRunProjectionV1
  transition : IdrTransitionV1
  projectionDigest : Text
  attestation : AttestationRow
  eventHash : Text
  receiptMac : Text
  checkpoint : AuditCheckpointV1

namespace CommitV1

/-- The projection a commit writes. -/
def projection (c : CommitV1) : IdrRunProjectionV1 := c.transition.projection

/-- The record a commit writes, if there is one. -/
def record (c : CommitV1) : Option AuthoritativeRecordV1 := c.transition.authoritativeRecord

/-- The proofs a commit consumes, with their envelopes. -/
def proofs (c : CommitV1) (i : TransactInputV1) :
    List (ProductionProofEnvelopeV1 × VerifiedProductionProofV1) :=
  i.command.proofs.zip c.verifiedProofs

end CommitV1

/-- **The execution tables after a commit.** -/
structure ExecutionWritten (i : TransactInputV1) (c : CommitV1) (e : ExecutionProjectionV1)
    (db db' : DatabaseV1) : Prop where
  fence : ∃ fenceDigest, idempotencyFenceDigestV1 c.projection e = .ok fenceDigest ∧
    db'.fences = insertOrIgnore (fenceRow c.projection e fenceDigest i.writeClock).conflicts
      (fenceRow c.projection e fenceDigest i.writeClock) db.fences ∧
    ∃ row ∈ db'.fences, row.isFor (fenceRow c.projection e fenceDigest i.writeClock)
  authority : (reservationRow c.projection e i.writeClock).authorityMismatch db' = false
  open_ : (reservationRow c.projection e i.writeClock).elapsed i.writeClock = false
  fenced : Fenced db' (reservationRow c.projection e i.writeClock)
  reservation : ReservationWritten c.attestation.purpose i.writeClock
    (reservationRow c.projection e i.writeClock) db.reservations db'.reservations
  lease : e.permitValidUntil ≤ e.leaseUntil
  attempt : AttemptWritten c.attestation.purpose (attemptRow e i.writeClock)
    { db with reservations := db'.reservations } db'.attempts

/-- **What a commit goes through and leaves behind.** -/
structure Commits (o : PostgresIdrOrchestratorV1) (db : DatabaseV1) (i : TransactInputV1)
    (c : CommitV1) (db' : DatabaseV1) : Prop where
  commandDigest : i.command.canonicalDigest = .ok c.commandDigest
  unanswered : db.commandReceipt i.command.commandId = none
  verified : o.verifyProofsInsideTransaction i.command i.trustedNow i.trustRoot =
    .ok c.verifiedProofs
  loaded : o.loadRun db i.command = .ok c.loaded
  produced : o.produceTransition db i c.loaded c.verifiedProofs = .ok c.transition
  projectionDigest : projectionDigestV1 c.projection = .ok c.projectionDigest
  attested : ∃ pre digest, o.openAttestation db i (attestationPurpose c.transition.eventType)
    i.command.commandId i.command.runId i.command.tenantRef.asStr pre
    c.projection.aggregateVersion c.commandDigest digest =
      .ok (c.attestation, { db with attestations := db'.attestations })
  runDomain : c.projection.trustDomain = o.trustDomain
  runEnvironment : c.projection.environmentRef = o.environmentRef
  runTenant : i.command.tenantRef.asStr = ("*" : Text) ∨
    c.projection.tenantRef.asStr = i.command.tenantRef.asStr
  runs : RunWritten c.projection c.projectionDigest i.writeClock db.runs db'.runs
  records : db'.contractRecords = db.contractRecords ++ c.record.toList.map contractRow
  admitted : ∀ record, c.record = some record →
    RecordAdmitted { db with runs := db'.runs } record
  current : ∀ record, c.record = some record →
    CurrentWritten (currentRow c.projection record.recordRef) db.contractCurrent db'.contractCurrent
  currentKept : c.record = none → db'.contractCurrent = db.contractCurrent
  dependencies : db'.contractDependencies = db.contractDependencies ++
    c.record.toList.flatMap fun record =>
      newDependencies i.command.command c.projection record
        { db with contractRecords := db'.contractRecords }
  dependenciesStored : ∀ record, c.record = some record →
    (∀ x ∈ contractDependencies i.command.command c.projection.records record.recordRef,
      ∃ row ∈ db'.contractRecords, (row.recordId, row.revision) = (x.recordId, x.revision)) ∧
    (1 < record.recordRef.revision → ∃ row ∈ db'.contractRecords,
      (row.recordId, row.revision) = (record.recordRef.recordId, record.recordRef.revision - 1))
  dependenciesUnique : ∀ record, c.record = some record → UniqueBy DependencyRow.key
    (newDependencies i.command.command c.projection record
      { db with contractRecords := db'.contractRecords })
  proofEnvelopes : db'.proofEnvelopes = db.proofEnvelopes ++
    (c.proofs i).map fun v => proofRow i.command o.trustDomain v.1 v.2
  proofConsumptions : db'.proofConsumptions = db.proofConsumptions ++
    (c.proofs i).map fun v => consumptionRow i.command o.trustDomain v.2
  envelopesUnique : UniqueBy ProofRow.proofId db.proofEnvelopes →
    UniqueBy ProofRow.proofId db'.proofEnvelopes
  consumptionsUnique : UniqueBy ConsumptionRow.proofId db.proofConsumptions →
    UniqueBy ConsumptionRow.proofId db'.proofConsumptions
  noncesUnique : UniqueBy ConsumptionRow.nonceKey db.proofConsumptions →
    UniqueBy ConsumptionRow.nonceKey db'.proofConsumptions
  execution : ∀ e, c.projection.execution = some e → ExecutionWritten i c e db db'
  executionKept : c.projection.execution = none →
    db'.fences = db.fences ∧ db'.reservations = db.reservations ∧ db'.attempts = db.attempts
  eventHash : hashEventV1 (previousHash db i.command.tenantRef.asStr)
    (o.auditPayload i.command c.commandDigest c.projectionDigest c.transition) = .ok c.eventHash
  runEvents : db'.runEvents = db.runEvents ++ [runEventRow c.attestation i c.transition]
  auditEvents : db'.auditEvents = db.auditEvents ++
    [o.auditRow c.attestation i c.transition (previousHash db i.command.tenantRef.asStr) c.eventHash
      (o.auditPayload i.command c.commandDigest c.projectionDigest c.transition)]
  receiptMac : o.commandReceiptMac (o.receiptOf c.attestation i c.transition) = .ok c.receiptMac
  commandReceipts : db'.commandReceipts = db.commandReceipts ++
    [o.commandReceiptRow i.command c.commandDigest (o.receiptOf c.attestation i c.transition)
      c.receiptMac]
  newReceipt : ∀ row ∈ db.commandReceipts, row.commandId ≠ i.command.commandId
  checkpoint : c.checkpoint = {
    trustDomain := o.trustDomain
    environmentRef := o.environmentRef.asStr
    tenantRef := i.command.tenantRef.asStr
    auditSequence := i.auditSequence
    chainRoot := c.eventHash
    recordSetRoot := c.checkpoint.recordSetRoot
    executionStateRoot := c.checkpoint.executionStateRoot
    checkpointId := i.checkpointId }
  auditCheckpoints : db'.auditCheckpoints = db.auditCheckpoints ++ [checkpointRow c.checkpoint]

/-! ### Every successful call is an answer or a commit -/

section Inversion

variable {o : PostgresIdrOrchestratorV1} {db db' : DatabaseV1} {i : TransactInputV1}

/-- The execution tables, written after a state of the database from which they are read. -/
theorem persistExecution_eq_ok {attestation : AttestationRow} {clock : Nat}
    {projection : IdrRunProjectionV1}
    (h : persistExecution attestation clock projection db = .ok db') :
    ∃ fences reservations attempts,
      db' = { db with fences, reservations, attempts } ∧
      (projection.execution = none →
        fences = db.fences ∧ reservations = db.reservations ∧ attempts = db.attempts) ∧
      ∀ e, projection.execution = some e →
        (∃ fenceDigest, idempotencyFenceDigestV1 projection e = .ok fenceDigest ∧
          fences = insertOrIgnore (fenceRow projection e fenceDigest clock).conflicts
            (fenceRow projection e fenceDigest clock) db.fences ∧
          ∃ row ∈ fences, row.isFor (fenceRow projection e fenceDigest clock)) ∧
        (reservationRow projection e clock).authorityMismatch db = false ∧
        (reservationRow projection e clock).elapsed clock = false ∧
        Fenced { db with fences } (reservationRow projection e clock) ∧
        ReservationWritten attestation.purpose clock (reservationRow projection e clock)
          db.reservations reservations ∧
        e.permitValidUntil ≤ e.leaseUntil ∧
        AttemptWritten attestation.purpose (attemptRow e clock)
          { db with fences, reservations } attempts := by
  unfold persistExecution at h
  rcases hexecution : projection.execution with _ | e <;> rw [hexecution] at h
  · simp only [Except.ok.injEq] at h
    exact ⟨_, _, _, h.symm, fun _ => ⟨rfl, rfl, rfl⟩, fun e he => (by cases he)⟩
  · simp only [bind_eq_ok] at h
    obtain ⟨db₁, hfence, db₂, hreservation, hattempt⟩ := h
    obtain ⟨-, -, digest, hdigest, hrow, rfl⟩ := persistFence_eq_ok hfence
    obtain ⟨hmismatch, helapsed, hfenced, reservations, hwritten, rfl⟩ :=
      persistReservation_eq_ok hreservation
    obtain ⟨hlease, attempts, hattempts, rfl⟩ := persistAttempt_eq_ok hattempt
    refine ⟨_, reservations, attempts, rfl, fun hnone => (by cases hnone), ?_⟩
    rintro _ ⟨⟩
    exact ⟨⟨digest, hdigest, rfl, hrow⟩, hmismatch, helapsed, hfenced, hwritten, hlease, hattempts⟩

omit [Crypto] in
theorem persistRecord_eq_ok {attestation : AttestationRow} {command : IdrCommandV1}
    {transition : IdrTransitionV1} {db₁ : DatabaseV1}
    (h : persistRecord attestation command transition db = .ok db₁) :
    ∃ contractCurrent, db₁ = { db with
        contractRecords := db.contractRecords ++
          transition.authoritativeRecord.toList.map contractRow
        contractCurrent
        contractDependencies := db.contractDependencies ++
          transition.authoritativeRecord.toList.flatMap fun record =>
            newDependencies command transition.projection record { db with
              contractRecords := db.contractRecords ++
                transition.authoritativeRecord.toList.map contractRow } } ∧
      (transition.authoritativeRecord = none → contractCurrent = db.contractCurrent) ∧
      ∀ record, transition.authoritativeRecord = some record →
        RecordAdmitted db record ∧
        CurrentWritten (currentRow transition.projection record.recordRef) db.contractCurrent
          contractCurrent ∧
        (∀ x ∈ contractDependencies command transition.projection.records record.recordRef,
          ∃ row ∈ db₁.contractRecords, (row.recordId, row.revision) = (x.recordId, x.revision)) ∧
        (1 < record.recordRef.revision → ∃ row ∈ db₁.contractRecords,
          (row.recordId, row.revision) =
            (record.recordRef.recordId, record.recordRef.revision - 1)) ∧
        UniqueBy DependencyRow.key (newDependencies command transition.projection record
          { db with contractRecords := db₁.contractRecords }) := by
  unfold persistRecord at h
  rcases hrecord : transition.authoritativeRecord with _ | record <;> rw [hrecord] at h
  · simp only [Except.ok.injEq] at h
    refine ⟨_, ?_, fun _ => rfl, fun record hr => (by cases hr)⟩
    simp [← h]
  · simp only [bind_eq_ok] at h
    obtain ⟨db₂, hinsert, hdependencies⟩ := h
    obtain ⟨hadmitted, contractCurrent, hcurrent, rfl⟩ := persistAuthoritativeRecord_eq_ok hinsert
    obtain ⟨hstored, hpredecessor, hunique, rfl⟩ := persistContractDependencies_eq_ok hdependencies
    refine ⟨contractCurrent, ?_, fun hnone => (by cases hnone), ?_⟩
    · simp only [Option.toList_some, List.map_cons, List.map_nil, List.flatMap_cons,
        List.flatMap_nil, List.append_nil]
      rfl
    · rintro _ ⟨⟩
      refine ⟨hadmitted, hcurrent, hstored, fun hrevision => ?_, hunique⟩
      obtain ⟨row, hrow⟩ := hpredecessor hrevision
      exact ⟨row, List.mem_of_find?_eq_some hrow, by simpa using List.find?_some hrow⟩

/-- **A commit**, read off from the writes of a transition. -/
theorem commitTransition_eq_ok {digest : Text} {loaded : IdrRunProjectionV1}
    {transition : IdrTransitionV1} {proofs : List VerifiedProductionProofV1}
    {receipt : IdrCommandReceiptV1} {checkpoint : AuditCheckpointV1}
    (hdigest : i.command.canonicalDigest = .ok digest)
    (hnone : db.commandReceipt i.command.commandId = none)
    (hverified : o.verifyProofsInsideTransaction i.command i.trustedNow i.trustRoot = .ok proofs)
    (hloaded : o.loadRun db i.command = .ok loaded)
    (hproduced : o.produceTransition db i loaded proofs = .ok transition)
    (h : o.commitTransition db i digest loaded.aggregateVersion transition proofs =
      .ok (receipt, checkpoint, db')) :
    ∃ c, Commits o db i c db' ∧ SendWritten i.command db.responseSends db'.responseSends ∧
      c.transition = transition ∧ c.loaded = loaded ∧
      receipt = o.receiptOf c.attestation i c.transition ∧ checkpoint = c.checkpoint := by
  simp only [PostgresIdrOrchestratorV1.commitTransition, persistTransition,
    persistSpecializedProjection, PostgresIdrOrchestratorV1.recordEvents,
    PostgresIdrOrchestratorV1.recordReceipt, PostgresIdrOrchestratorV1.recordCheckpoint,
    bind_eq_ok, Except.ok.injEq, Prod.exists, Prod.mk.injEq] at h
  obtain ⟨projectionDigest, hprojectionDigest, transitionDigest, -, attestation, db₀, hattested,
    db₈, ⟨db₁, hrun, db₂, hrecord, db₃, hproofs, db₄, hsend, db₅, hexecution, hresult⟩,
    _, db₉, ⟨eventHash, heventHash, runEvents, hrunEvents, auditEvents, hauditEvents, hev⟩,
    receipt', db₁₀, ⟨receiptMac, hreceiptMac, commandReceipts, hcommandReceipts, hrc⟩,
    checkpoint', db₁₁, ⟨recordSetRoot, -, executionStateRoot, -, auditCheckpoints,
      hauditCheckpoints, hck⟩, rfl, rfl, rfl⟩ := h
  obtain ⟨rfl, rfl⟩ := hev
  obtain ⟨rfl, rfl⟩ := hrc
  obtain ⟨rfl, rfl⟩ := hck
  -- one write after the other; `dsimp only` reads the fields of the database written so far
  obtain ⟨rfl, -, hdomain, henvironment, -, -, hrunId, htenant, -, -⟩ :=
    openAttestation_eq_ok hattested
  obtain ⟨hbridge, runs, hruns, rfl⟩ := upsertRun_eq_ok hrun
  dsimp only at hrecord hruns
  obtain ⟨contractCurrent, rfl, hkept, hwritten⟩ := persistRecord_eq_ok hrecord
  dsimp only at hproofs hkept hwritten
  obtain ⟨rfl, henvelopes, hconsumptions, hnonces⟩ := persistProofConsumptions_eq_ok hproofs
  dsimp only at hsend henvelopes hconsumptions hnonces
  obtain ⟨responseSends, rfl, hsent⟩ := persistSend_eq_ok hsend
  dsimp only at hexecution
  obtain ⟨fences, reservations, attempts, rfl, hnoExecution, hexecution⟩ :=
    persistExecution_eq_ok hexecution
  dsimp only at hresult hnoExecution hexecution
  obtain ⟨executionReceipts, outcomeRecords, rfl⟩ := persistResult_eq_ok hresult
  dsimp only at hrunEvents hauditEvents hcommandReceipts hauditCheckpoints heventHash
  rw [insertRow_eq_ok] at hrunEvents hauditEvents hcommandReceipts hauditCheckpoints
  obtain ⟨-, rfl⟩ := hrunEvents
  obtain ⟨-, rfl⟩ := hauditEvents
  obtain ⟨hnewReceipt, rfl⟩ := hcommandReceipts
  obtain ⟨-, rfl⟩ := hauditCheckpoints
  dsimp only
  refine ⟨⟨digest, proofs, loaded, transition, projectionDigest, attestation, eventHash, receiptMac,
    _⟩, ?_, hsent, rfl, rfl, rfl, rfl⟩
  exact {
    commandDigest := hdigest
    unanswered := hnone
    verified := hverified
    loaded := hloaded
    produced := hproduced
    projectionDigest := hprojectionDigest
    attested := ⟨_, _, hattested⟩
    runDomain := hbridge.1.trans hdomain
    runEnvironment := hbridge.2.1.trans henvironment
    runTenant := by
      rw [← htenant]
      exact hbridge.2.2.1
    runs := hruns
    records := rfl
    admitted := fun record hr => { (hwritten record hr).1 with }
    current := fun record hr => (hwritten record hr).2.1
    currentKept := hkept
    dependencies := rfl
    dependenciesStored := fun record hr =>
      ⟨(hwritten record hr).2.2.1, (hwritten record hr).2.2.2.1⟩
    dependenciesUnique := fun record hr => (hwritten record hr).2.2.2.2
    proofEnvelopes := rfl
    proofConsumptions := rfl
    envelopesUnique := henvelopes
    consumptionsUnique := hconsumptions
    noncesUnique := hnonces
    execution := fun e he => by
      obtain ⟨hfence, hmismatch, helapsed, hfenced, hreservation, hlease, hattempt⟩ :=
        hexecution e he
      exact ⟨hfence, hmismatch, helapsed, { hfenced with }, hreservation, hlease, by
        cases hattempt with
        | inserted hnew hattempt hstate hr => exact .inserted hnew hattempt hstate hr
        | updated old hold hallowed => exact .updated old hold hallowed⟩
    executionKept := hnoExecution
    eventHash := heventHash
    runEvents := rfl
    auditEvents := rfl
    receiptMac := hreceiptMac
    commandReceipts := rfl
    newReceipt := fun row hrow => of_decide_eq_false (hnewReceipt row hrow)
    checkpoint := rfl
    auditCheckpoints := rfl }

/-- **A successful call** is the answer to a command that was committed before, and changes nothing,
or it is a commit. -/
theorem transactInner_eq_ok {receipt : IdrCommandReceiptV1} {checkpoint : AuditCheckpointV1}
    (h : o.transactInner db i = .ok (receipt, checkpoint, db')) :
    (db' = db ∧ ∃ digest row, i.command.canonicalDigest = .ok digest ∧
      db.commandReceipt i.command.commandId = some row ∧
      o.replayReceipt db i digest row = .ok (receipt, checkpoint)) ∨
    ∃ c, Commits o db i c db' ∧ SendWritten i.command db.responseSends db'.responseSends ∧
      receipt = o.receiptOf c.attestation i c.transition ∧ checkpoint = c.checkpoint := by
  simp only [PostgresIdrOrchestratorV1.transactInner, bind_eq_ok] at h
  obtain ⟨-, -, digest, hdigest, h⟩ := h
  rcases hrow : db.commandReceipt i.command.commandId with _ | row <;> rw [hrow] at h
  · right
    simp only [bind_eq_ok] at h
    obtain ⟨proofs, hverified, loaded, hloaded, transition, hproduced, hcommit⟩ := h
    obtain ⟨c, hc, hsent, -, -, hreceipt, hcheckpoint⟩ :=
      commitTransition_eq_ok hdigest hrow hverified hloaded hproduced hcommit
    exact ⟨c, hc, hsent, hreceipt, hcheckpoint⟩
  · left
    simp only [bind_eq_ok, Prod.exists, Except.ok.injEq, Prod.mk.injEq] at h
    obtain ⟨receipt', checkpoint', hreplay, rfl, rfl, rfl⟩ := h
    exact ⟨rfl, digest, row, hdigest, rfl, hreplay⟩

theorem authorityStep_db {s t : AuthorityStateV1} (h : AuthorityStep o s i t) :
    t.db = (o.transact s.db i).1 := by
  simp only [AuthorityStep, PostgresIdrOrchestratorV1.authorityStep, bind_eq_ok, require_eq_ok,
    exists_const, Except.ok.injEq] at h
  rw [← h.2]

/-- A call leaves the database as it was, or is a commit. -/
theorem transact_cases : (o.transact db i).1 = db ∨ ∃ c, Commits o db i c (o.transact db i).1 ∧
    SendWritten i.command db.responseSends (o.transact db i).1.responseSends := by
  unfold PostgresIdrOrchestratorV1.transact
  split
  next receipt checkpoint db' hok =>
    rcases transactInner_eq_ok hok with ⟨rfl, -⟩ | ⟨c, hc, hsent, -⟩
    · exact .inl rfl
    · exact .inr ⟨c, hc, hsent⟩
  next => exact .inl rfl

/-- **A step of the authority** leaves the database as it was, or is a commit. -/
theorem authorityStep_cases {s t : AuthorityStateV1} (h : AuthorityStep o s i t) :
    s.admits i ∧ t.drawn = i.fresh.ids ++ s.drawn ∧
      (t.db = s.db ∨ ∃ c, Commits o s.db i c t.db) := by
  simp only [AuthorityStep, PostgresIdrOrchestratorV1.authorityStep, bind_eq_ok, require_eq_ok,
    exists_const, Except.ok.injEq] at h
  obtain ⟨hadmits, rfl⟩ := h
  refine ⟨hadmits, rfl, ?_⟩
  rcases (transact_cases : (o.transact s.db i).1 = s.db ∨ _) with hdb | ⟨c, hc, -⟩
  · exact .inl hdb
  · exact .inr ⟨c, hc⟩

/-- A commit has its receipt. -/
theorem Commits.ne (h : ∃ c, Commits o db i c db') : db' ≠ db := by
  obtain ⟨c, hc⟩ := h
  intro heq
  have hreceipts := congrArg List.length hc.commandReceipts
  rw [heq, List.length_append, List.length_singleton] at hreceipts
  omega

/-- **What a step leaves of the sends**, where it is a commit. -/
theorem authorityStep_sends {s t : AuthorityStateV1} (h : AuthorityStep o s i t)
    (hcommits : ∃ c, Commits o s.db i c t.db) :
    SendWritten i.command s.db.responseSends t.db.responseSends := by
  rw [authorityStep_db h] at hcommits ⊢
  rcases (transact_cases : (o.transact s.db i).1 = s.db ∨ _) with hdb | ⟨-, -, hsent⟩
  · exact absurd hdb (Commits.ne hcommits)
  · exact hsent

end Inversion

end Idr
