/-
Idr/Authority/Writes.lean

What each write leaves behind.

One lemma for each function of `Idr.Authority.Persist`: which tables it
changes and how, and what its guards established.  The tables that a lemma
does not name are the old ones, by the form of the statement.
-/
import Idr.Authority.Transact

namespace Idr

variable {attestation : AttestationRow} {clock : Nat} {projection : IdrRunProjectionV1}
  {record : AuthoritativeRecordV1} {db db' : DatabaseV1}

theorem bridgeAdmits_eq_ok {trustDomain : TrustDomainV1} {environmentRef : ReferenceV1}
    {tenantRef : Text} {runId : Uuid} {u : Unit} :
    bridgeAdmits attestation trustDomain environmentRef tenantRef runId = .ok u ↔
      trustDomain = attestation.trustDomain ∧ environmentRef = attestation.environmentRef ∧
        (attestation.tenantRef = ("*" : Text) ∨ tenantRef = attestation.tenantRef) ∧
        (attestation.runId = 0 ∨ runId = attestation.runId) := by
  simp only [bridgeAdmits, bind_eq_ok, rejectIf_eq_ok, exists_const, not_not, not_and_or, ne_eq]

/-! ### The run -/

/-- **What the upsert of a run does.**  A new run is added; a stored one, which has the version
before, is replaced. -/
inductive RunWritten (projection : IdrRunProjectionV1) (projectionDigest : Text) (clock : Nat)
    (runs : List RunRow) : List RunRow → Prop
  | inserted (hnew : ∀ row ∈ runs, row.runId ≠ projection.runId) :
      RunWritten projection projectionDigest clock runs
        (runs ++ [runRow projection projectionDigest clock])
  | updated (old : RunRow) (hold : runs.find? (·.runId = projection.runId) = some old)
      (htrustDomain : old.trustDomain = projection.trustDomain)
      (henvironment : old.environmentRef = projection.environmentRef)
      (hversion : old.aggregateVersion + 1 = projection.aggregateVersion) :
      RunWritten projection projectionDigest clock runs
        (updateWhere (·.runId = projection.runId)
          (fun _ => { old with
            aggregateVersion := projection.aggregateVersion
            projection
            projectionDigest
            updatedAt := clock }) runs)

theorem upsertRun_eq_ok {projectionDigest : Text}
    (h : upsertRun attestation clock projection projectionDigest db = .ok db') :
    (projection.trustDomain = attestation.trustDomain ∧
      projection.environmentRef = attestation.environmentRef ∧
      (attestation.tenantRef = ("*" : Text) ∨
        projection.tenantRef.asStr = attestation.tenantRef) ∧
      (attestation.runId = 0 ∨ projection.runId = attestation.runId)) ∧
    ∃ runs, RunWritten projection projectionDigest clock db.runs runs ∧
      db' = { db with runs } := by
  simp only [upsertRun, bind_eq_ok, exists_unit_eq_ok, bridgeAdmits_eq_ok, exists_const,
    Except.ok.injEq] at h
  obtain ⟨-, -, hbridge, runs, hruns, rfl⟩ := h
  refine ⟨hbridge, runs, ?_, rfl⟩
  rcases upsertRow_eq_ok hruns with ⟨hnew, rfl⟩ | ⟨old, new, hold, hupdate, rfl⟩
  · refine .inserted fun row hrow => ?_
    exact of_decide_eq_false (hnew row hrow)
  · simp only [updateRun, bind_eq_ok, rejectIf_eq_ok, exists_const, not_or, not_not,
      Except.ok.injEq] at hupdate
    obtain ⟨⟨hdomain, henvironment, hversion⟩, rfl⟩ := hupdate
    exact .updated old hold hdomain henvironment hversion

/-! ### The record -/

/-- The next revision of a record, first in its lineage or after a row that is there. -/
structure RecordAdmitted (db : DatabaseV1) (record : AuthoritativeRecordV1) : Prop where
  revision : record.recordRef.revision =
    (maxRevision db record.recordRef.recordId).elim 1 (· + 1)
  validity : record.validFrom < record.validUntil
  newKey : ∀ row ∈ db.contractRecords,
    (row.recordId, row.revision) ≠ (record.recordRef.recordId, record.recordRef.revision)
  newDigest : ∀ row ∈ db.contractRecords, row.recordDigest ≠ record.recordRef.recordDigest
  lineage : ∃ run, db.run record.runId = some run ∧
    idrEnforceRecordLineageV2 run.projection
      ((db.contractRecord record.recordRef.recordId
        (record.recordRef.revision - 1)).map (·.record)) record = true

/-- **What the upsert of a current record does.** -/
inductive CurrentWritten (new : CurrentRow) (rows : List CurrentRow) : List CurrentRow → Prop
  | inserted (hnew : ∀ row ∈ rows, (row.runId, row.candidateKind) ≠
      (new.runId, new.candidateKind)) :
      CurrentWritten new rows (rows ++ [new])
  | updated (old : CurrentRow) (hold : old ∈ rows)
      (hkey : (old.runId, old.candidateKind) = (new.runId, new.candidateKind))
      (hrevision : old.revision + 1 = new.revision) :
      CurrentWritten new rows
        (updateWhere (fun row => row.runId = new.runId && row.candidateKind = new.candidateKind)
          (fun _ => { old with
            recordId := new.recordId
            revision := new.revision
            recordDigest := new.recordDigest }) rows)

theorem persistAuthoritativeRecord_eq_ok
    (h : persistAuthoritativeRecord attestation projection record db = .ok db') :
    RecordAdmitted db record ∧
    ∃ contractCurrent,
      CurrentWritten (currentRow projection record.recordRef) db.contractCurrent contractCurrent ∧
      db' = { db with
        contractRecords := db.contractRecords ++ [contractRow record]
        contractCurrent } := by
  simp only [persistAuthoritativeRecord, bind_eq_ok, exists_unit_eq_ok, bridgeAdmits_eq_ok,
    rejectIf_eq_ok, require_eq_ok, exists_const, okOr_eq_ok, insertRow_eq_ok, Nat.not_le,
    Except.ok.injEq] at h
  obtain ⟨-, -, -, -, -, -, run, hrun, hlineage, hrevision, hvalidity, rows, ⟨hnew, rfl⟩,
    current, hcurrent, rfl⟩ := h
  refine ⟨⟨hrevision, hvalidity, ?_, ?_, run, hrun, hlineage⟩, current, ?_, rfl⟩
  · intro row hrow hkey
    have := hnew row hrow
    simp_all
  · intro row hrow hdigest
    have := hnew row hrow
    simp_all
  · rcases upsertRow_eq_ok hcurrent with ⟨hnew, rfl⟩ | ⟨old, new, hold, hupdate, rfl⟩
    · refine .inserted fun row hrow hkey => ?_
      have := hnew row hrow
      simp_all
    · simp only [updateCurrent, bind_eq_ok, rejectIf_eq_ok, exists_const, not_not,
        Except.ok.injEq] at hupdate
      obtain ⟨hrevision, rfl⟩ := hupdate
      refine .updated old (List.mem_of_find?_eq_some hold) ?_ hrevision
      have := List.find?_some hold
      simp_all

/-! ### The dependencies -/

/-- The primary key of an edge. -/
def DependencyRow.key (row : DependencyRow) : (Uuid × Nat) × (Uuid × Nat) :=
  ((row.dependentRecordId, row.dependentRevision), (row.dependencyRecordId, row.dependencyRevision))

theorem insertDependency_eq_ok {new : DependencyRow} (h : insertDependency new db = .ok db') :
    departsFromDecision db new = false ∧
      (∃ row ∈ db.contractRecords, (row.recordId, row.revision) =
        (new.dependencyRecordId, new.dependencyRevision)) ∧
      (∀ row ∈ db.contractDependencies, row.key ≠ new.key) ∧
      db' = { db with contractDependencies := db.contractDependencies ++ [new] } := by
  simp only [insertDependency, bind_eq_ok, rejectIf_eq_ok, require_eq_ok, exists_const,
    insertRow_eq_ok, Bool.not_eq_true, Except.ok.injEq] at h
  obtain ⟨hderived, -, -, rows, ⟨hnew, rfl⟩, hfound, rfl⟩ := h
  obtain ⟨row, hrow⟩ := Option.isSome_iff_exists.mp hfound
  refine ⟨hderived, ⟨row, List.mem_of_find?_eq_some hrow, ?_⟩, fun row hmem hkey => ?_, rfl⟩
  · simpa using List.find?_some hrow
  · have hother := hnew row hmem
    simp_all [DependencyRow.key]

/-- The edges that a record is written with. -/
def newDependencies (command : IdrCommandV1) (projection : IdrRunProjectionV1)
    (record : AuthoritativeRecordV1) (db : DatabaseV1) : List DependencyRow :=
  let ref := record.recordRef
  (if ref.revision > 1 then
    (db.contractRecord ref.recordId (ref.revision - 1)).toList.map fun row => {
      dependentRecordId := ref.recordId
      dependentRevision := ref.revision
      dependencyRecordId := row.recordId
      dependencyRevision := row.revision
      dependencyDigest := row.recordDigest }
  else []) ++
    (contractDependencies command projection.records ref).map (dependencyRow ref)

theorem persistContractDependencies_eq_ok {command : IdrCommandV1}
    (h : persistContractDependencies command projection record db = .ok db') :
    (∀ x ∈ contractDependencies command projection.records record.recordRef,
      ∃ row ∈ db.contractRecords, (row.recordId, row.revision) = (x.recordId, x.revision)) ∧
    (1 < record.recordRef.revision → ∃ row, db.contractRecord record.recordRef.recordId
      (record.recordRef.revision - 1) = some row) ∧
    UniqueBy DependencyRow.key (newDependencies command projection record db) ∧
    db' = { db with
      contractDependencies :=
        db.contractDependencies ++ newDependencies command projection record db } := by
  simp only [persistContractDependencies, bind_eq_ok] at h
  obtain ⟨db₁, hpredecessor, hfold⟩ := h
  -- the predecessor edge
  have h₁ : (1 < record.recordRef.revision → ∃ row, db.contractRecord record.recordRef.recordId
      (record.recordRef.revision - 1) = some row) ∧ ∃ edges, UniqueBy DependencyRow.key edges ∧
      db₁ = { db with contractDependencies := db.contractDependencies ++ edges } ∧
      newDependencies command projection record db = edges ++
        (contractDependencies command projection.records record.recordRef).map
          (dependencyRow record.recordRef) := by
    unfold insertPredecessorDependency at hpredecessor
    split at hpredecessor
    case isTrue hrevision =>
      simp only [bind_eq_ok, okOr_eq_ok] at hpredecessor
      obtain ⟨row, hrow, hinsert⟩ := hpredecessor
      obtain ⟨-, -, -, rfl⟩ := insertDependency_eq_ok hinsert
      refine ⟨fun _ => ⟨row, hrow⟩, _, List.pairwise_singleton _ _, rfl, ?_⟩
      simp [newDependencies, hrevision, hrow]
    case isFalse hrevision =>
      simp only [Except.ok.injEq] at hpredecessor
      refine ⟨fun hlt => absurd hlt hrevision, [], .nil _, ?_, ?_⟩
      · simp [← hpredecessor]
      · simp [newDependencies, hrevision]
  obtain ⟨hrow, edges, hunique, rfl, hnew⟩ := h₁
  -- the edges of the set, one after the other
  have hset := foldlM_induction hfold (P := fun before after =>
      (∀ x ∈ before, ∃ row ∈ db.contractRecords,
        (row.recordId, row.revision) = (x.recordId, x.revision)) ∧
      UniqueBy DependencyRow.key (edges ++ before.map (dependencyRow record.recordRef)) ∧
      after = { db with
        contractDependencies := db.contractDependencies ++ edges ++
          before.map (dependencyRow record.recordRef) })
    ⟨fun x hx => (by cases hx), by simpa using hunique, by simp⟩ (by
      rintro before x _ after - ⟨hbefore, hapart, rfl⟩ hinsert
      simp only [bind_eq_ok, exists_unit_eq_ok] at hinsert
      obtain ⟨-, hinsert⟩ := hinsert
      obtain ⟨-, hfound, hother, rfl⟩ := insertDependency_eq_ok hinsert
      refine ⟨?_, ?_, by simp⟩
      · intro y hy
        rcases List.mem_append.mp hy with hy | hy
        · exact hbefore y hy
        · rw [List.mem_singleton.mp hy]
          exact hfound
      · rw [List.map_append, ← List.append_assoc]
        refine hapart.insert fun row hrow => hother row ?_
        rw [List.append_assoc]
        exact List.mem_append_right _ hrow)
  rw [← hnew] at hset
  refine ⟨hset.1, hrow, hset.2.1, ?_⟩
  rw [hset.2.2, hnew, List.append_assoc]

/-! ### The proofs -/

/-- A key of consumptions: the tenant and the nonce. -/
def ConsumptionRow.nonceKey (row : ConsumptionRow) : Text × Text := (row.tenantRef, row.nonce)

theorem persistProofConsumptions_eq_ok {command : IdrCommandEnvelopeV1}
    {verified : List VerifiedProductionProofV1} {trustDomain : TrustDomainV1}
    (h : persistProofConsumptions attestation command verified trustDomain db = .ok db') :
    db' = { db with
      proofEnvelopes := db.proofEnvelopes ++
        (command.proofs.zip verified).map fun v => proofRow command trustDomain v.1 v.2
      proofConsumptions := db.proofConsumptions ++
        (command.proofs.zip verified).map fun v => consumptionRow command trustDomain v.2 } ∧
    (UniqueBy ProofRow.proofId db.proofEnvelopes → UniqueBy ProofRow.proofId db'.proofEnvelopes) ∧
    (UniqueBy ConsumptionRow.proofId db.proofConsumptions →
      UniqueBy ConsumptionRow.proofId db'.proofConsumptions) ∧
    (UniqueBy ConsumptionRow.nonceKey db.proofConsumptions →
      UniqueBy ConsumptionRow.nonceKey db'.proofConsumptions) := by
  refine foldlM_induction h (P := fun before after => after = { db with
      proofEnvelopes := db.proofEnvelopes ++
        before.map fun v => proofRow command trustDomain v.1 v.2
      proofConsumptions := db.proofConsumptions ++
        before.map fun v => consumptionRow command trustDomain v.2 } ∧
      (UniqueBy ProofRow.proofId db.proofEnvelopes →
        UniqueBy ProofRow.proofId after.proofEnvelopes) ∧
      (UniqueBy ConsumptionRow.proofId db.proofConsumptions →
        UniqueBy ConsumptionRow.proofId after.proofConsumptions) ∧
      (UniqueBy ConsumptionRow.nonceKey db.proofConsumptions →
        UniqueBy ConsumptionRow.nonceKey after.proofConsumptions))
    ⟨by simp, id, id, id⟩ ?_
  rintro before ⟨envelope, proof⟩ _ after - ⟨rfl, henvelopes, hids, hnonces⟩ hinsert
  simp only [persistProofConsumption, bind_eq_ok, bridgeAdmits_eq_ok, rejectIf_eq_ok,
    exists_const, insertRow_eq_ok, Except.ok.injEq] at hinsert
  obtain ⟨-, -, rows, ⟨hnewEnvelope, rfl⟩, -, rows', ⟨hnew, rfl⟩, rfl⟩ := hinsert
  refine ⟨by simp, fun hu => ?_, fun hu => ?_, fun hu => ?_⟩
  · refine (henvelopes hu).insert fun r hr hkey => ?_
    have := hnewEnvelope r hr
    simp_all [proofRow]
  · refine (hids hu).insert fun r hr hkey => ?_
    have := hnew r hr
    simp_all [consumptionRow]
  · refine (hnonces hu).insert fun r hr hkey => ?_
    have := hnew r hr
    simp_all [consumptionRow, ConsumptionRow.nonceKey]

/-! ### The execution -/

/-- The fence on record is the fence of the execution, but for the time it was written. -/
def FenceRow.isFor (row new : FenceRow) : Prop :=
  row = { new with createdAt := row.createdAt }

section Fence

variable [Crypto]

theorem persistFence_eq_ok {execution : ExecutionProjectionV1}
    (h : persistFence attestation clock projection execution db = .ok db') :
    projection.trustDomain = attestation.trustDomain ∧
      projection.environmentRef = attestation.environmentRef ∧
    ∃ fenceDigest, idempotencyFenceDigestV1 projection execution = .ok fenceDigest ∧
      (∃ row ∈ insertOrIgnore (fenceRow projection execution fenceDigest clock).conflicts
          (fenceRow projection execution fenceDigest clock) db.fences,
        row.isFor (fenceRow projection execution fenceDigest clock)) ∧
      db' = { db with
        fences := insertOrIgnore (fenceRow projection execution fenceDigest clock).conflicts
          (fenceRow projection execution fenceDigest clock) db.fences } := by
  simp only [persistFence, bind_eq_ok, exists_unit_eq_ok, bridgeAdmits_eq_ok, rejectIf_eq_ok,
    exists_const, okOr_eq_ok, not_or, not_not, Except.ok.injEq] at h
  obtain ⟨digest, hdigest, -, ⟨hdomain, henvironment, -⟩, row, hfind, hsame, rfl⟩ := h
  refine ⟨hdomain, henvironment, digest, hdigest, ⟨row, List.mem_of_find?_eq_some hfind, ?_⟩, rfl⟩
  have hkey := List.find?_some hfind
  simp only [Bool.and_eq_true, decide_eq_true_eq] at hkey
  obtain ⟨hdomain, henvironment, htenant, hoperation, hrun, haction, hrevision, hactionDigest,
    hfenceDigest⟩ := hsame
  obtain ⟨hid, hidempotency⟩ := hkey
  show row = _
  rw [FenceRow.mk.injEq]
  exact ⟨hid, hdomain, henvironment, htenant, hoperation, hidempotency, hrun, haction, hrevision,
    hactionDigest, hfenceDigest, rfl⟩

end Fence

/-- What the fence of a reservation says, once its guard let it pass. -/
structure Fenced (db : DatabaseV1) (row : ReservationRow) : Prop where
  fenceId : row.fenceId = row.reservationId
  fence : ∃ fence ∈ db.fences, fence.fenceId = row.fenceId ∧ fence.tenantRef = row.tenantRef ∧
    fence.operationRef = row.operationRef ∧ fence.idempotencyKey = row.idempotencyKey ∧
    fence.firstRunId = row.runId ∧ fence.firstActionRecordId = row.actionRecordId ∧
    fence.firstActionRevision = row.actionRevision ∧ fence.firstActionDigest = row.actionDigest

theorem idrValidateExecutionFenceV6_eq_ok {new : ReservationRow} {u : Unit}
    (h : idrValidateExecutionFenceV6 db new = .ok u) : Fenced db new := by
  simp only [idrValidateExecutionFenceV6, rejectIf_eq_ok, not_or, not_not] at h
  obtain ⟨-, hfenceId, -, -, htenant, hoperation, hkey, hrun, haction, hrevision, hdigest⟩ := h
  refine ⟨hfenceId, ?_⟩
  rcases e : db.fences.find? (fun row => row.fenceId = new.fenceId) with _ | fence
  · rw [e] at htenant
    cases htenant
  · rw [e] at htenant hoperation hkey hrun haction hrevision hdigest
    simp only [Option.map_some, Option.some.injEq] at htenant hoperation hkey hrun
    simp only [Option.map_some, Option.some.injEq] at haction hrevision hdigest
    have hid := List.find?_some e
    exact ⟨fence, List.mem_of_find?_eq_some e, by simpa using hid, htenant, hoperation, hkey, hrun,
      haction, hrevision, hdigest⟩

/-- **What the insert of a reservation does.**  A new one is added; the one that is there is moved
to the next version; where another one takes a unique key, nothing is written. -/
inductive ReservationWritten (purpose : AttestationPurposeV7) (clock : Nat) (new : ReservationRow)
    (rows : List ReservationRow) : List ReservationRow → Prop
  | inserted (hnew : ∀ row ∈ rows, new.conflicts row = false) :
      ReservationWritten purpose clock new rows (rows ++ [new])
  | updated (old : ReservationRow)
      (hold : rows.find? (fun row => row.reservationId = new.reservationId) = some old)
      (hversion : new.aggregateVersion = old.aggregateVersion + 1)
      (hclock : old.updatedAt ≤ clock)
      (hallowed : idrExecutionStateTransitionAllowedV5 (some purpose) old.state new.state = true) :
      ReservationWritten purpose clock new rows
        (updateWhere (fun row => row.reservationId = new.reservationId)
          (fun _ => { old with
            state := new.state
            aggregateVersion := new.aggregateVersion
            updatedAt := clock }) rows)
  | ignored (hnone : ∀ row ∈ rows, row.reservationId ≠ new.reservationId) :
      ReservationWritten purpose clock new rows rows

theorem persistReservation_eq_ok {execution : ExecutionProjectionV1}
    (h : persistReservation attestation clock projection execution db = .ok db') :
    (reservationRow projection execution clock).authorityMismatch db = false ∧
      (reservationRow projection execution clock).elapsed clock = false ∧
      Fenced db (reservationRow projection execution clock) ∧
    ∃ reservations,
      ReservationWritten attestation.purpose clock (reservationRow projection execution clock)
        db.reservations reservations ∧
      db' = { db with reservations } := by
  simp only [persistReservation, bind_eq_ok, exists_unit_eq_ok] at h
  obtain ⟨-, -, -, -, -, hauthority, hfence, h⟩ := h
  simp only [idrValidateExecutionAuthorityV4, rejectIf_eq_ok, not_or,
    Bool.not_eq_true] at hauthority
  refine ⟨hauthority.1, hauthority.2, idrValidateExecutionFenceV6_eq_ok hfence, ?_⟩
  split at h
  case isTrue =>
    rcases e : db.reservations.find? (fun row =>
      row.reservationId = (reservationRow projection execution clock).reservationId) with _ | old
    · rw [e] at h
      simp only [Except.ok.injEq] at h
      refine ⟨db.reservations, .ignored fun row hrow => ?_, h.symm⟩
      simpa using List.find?_eq_none.mp e row hrow
    · rw [e] at h
      simp only [updateReservation, bind_eq_ok, exists_unit_eq_ok, rejectIf_eq_ok, exists_const,
        not_or, not_not, Nat.not_lt, Bool.not_eq_false, Except.ok.injEq] at h
      obtain ⟨updated, ⟨-, -, ⟨hversion, hclock, hallowed⟩, rfl⟩, rfl⟩ := h
      exact ⟨_, .updated old e hversion hclock hallowed, rfl⟩
  case isFalse hnone =>
    simp only [Except.ok.injEq] at h
    refine ⟨_, .inserted fun row hrow => ?_, h.symm⟩
    rw [List.any_eq_true] at hnone
    exact Bool.eq_false_iff.mpr fun hc => hnone ⟨row, hrow, hc⟩

/-- **What the insert of an attempt does.**  The next attempt is added with its permit issued; the
attempt that is there moves to an allowed state. -/
inductive AttemptWritten (purpose : AttestationPurposeV7) (new : AttemptRow) (db : DatabaseV1) :
    List AttemptRow → Prop
  | inserted (hnew : ∀ row ∈ db.attempts, new.conflicts row = false)
      (hattempt : new.attempt =
        ((db.attempts.filter (·.reservationId = new.reservationId)).map (·.attempt)).max?.elim 1
          (· + 1))
      (hstate : new.state = .permitIssued)
      (hreservation : ∃ row ∈ db.reservations, row.reservationId = new.reservationId) :
      AttemptWritten purpose new db (db.attempts ++ [new])
  | updated (old : AttemptRow) (hold : db.attempts.find? new.sameIdentity = some old)
      (hallowed : idrExecutionStateTransitionAllowedV5 (some purpose) old.state new.state = true) :
      AttemptWritten purpose new db
        (updateWhere new.sameIdentity (fun row => { row with
          state := new.state
          startedAt := row.startedAt <|> new.startedAt
          completedAt := row.completedAt <|> new.completedAt }) db.attempts)

theorem persistAttempt_eq_ok {execution : ExecutionProjectionV1}
    (h : persistAttempt attestation clock execution db = .ok db') :
    execution.permitValidUntil ≤ execution.leaseUntil ∧
    ∃ attempts, AttemptWritten attestation.purpose (attemptRow execution clock) db attempts ∧
      db' = { db with attempts } := by
  simp only [persistAttempt, bind_eq_ok, exists_unit_eq_ok, rejectIf_eq_ok, exists_const, not_or,
    Nat.not_lt] at h
  obtain ⟨-, -, -, hsequence, ⟨-, hvalidity, -⟩, h⟩ := h
  refine ⟨hvalidity, ?_⟩
  split at h
  case isTrue =>
    simp only [bind_eq_ok, okOr_eq_ok, require_eq_ok, exists_const, Except.ok.injEq] at h
    obtain ⟨old, hold, hallowed, rfl⟩ := h
    exact ⟨_, .updated old hold hallowed, rfl⟩
  case isFalse hnone =>
    simp only [bind_eq_ok, require_eq_ok, exists_const, Except.ok.injEq] at h
    obtain ⟨hreservation, rfl⟩ := h
    have hnew : ∀ row ∈ db.attempts, (attemptRow execution clock).conflicts row = false := by
      intro row hrow
      rw [List.any_eq_true] at hnone
      exact Bool.eq_false_iff.mpr fun hc => hnone ⟨row, hrow, hc⟩
    simp only [idrEnforceExecutionAttemptSequenceV1, require_eq_ok] at hsequence
    -- an attempt that is present would have been found as a conflict
    have hsequence := hsequence.resolve_left (by
      rw [List.any_eq_true]
      rintro ⟨row, hrow, hpresent⟩
      have := hnew row hrow
      simp_all [AttemptRow.conflicts])
    obtain ⟨row, hrow, hid⟩ := List.any_eq_true.mp hreservation
    exact ⟨_, .inserted hnew hsequence.1 hsequence.2 ⟨row, hrow, of_decide_eq_true hid⟩, rfl⟩

/-! ### The receipt, the outcome and the response -/

/-- **What a command leaves of the sends**: it consumes a nonce that its tenant has not consumed, or
it is no send. -/
inductive SendWritten (command : IdrCommandEnvelopeV1) (rows : List ResponseSendRow) :
    List ResponseSendRow → Prop
  | sent {responseRef bytes channelRef audienceRef sendNonce}
      (hcommand : command.command =
        .consumeResponseSend responseRef bytes channelRef audienceRef sendNonce)
      (hnew : ∀ row ∈ rows,
        ¬ (row.tenantRef = command.tenantRef.asStr ∧ row.sendNonce = sendNonce)) :
      SendWritten command rows (rows ++ [⟨command.tenantRef.asStr, sendNonce⟩])
  | kept (hcommand : ∀ responseRef bytes channelRef audienceRef sendNonce,
        command.command ≠ .consumeResponseSend responseRef bytes channelRef audienceRef sendNonce) :
      SendWritten command rows rows

theorem persistSend_eq_ok {command : IdrCommandEnvelopeV1} (h : persistSend command db = .ok db') :
    ∃ responseSends, db' = { db with responseSends } ∧
      SendWritten command db.responseSends responseSends := by
  unfold persistSend at h
  split at h
  next hcommand =>
    simp only [persistResponseSend, bind_eq_ok, insertRow_eq_ok, Except.ok.injEq] at h
    obtain ⟨rows, ⟨hnew, rfl⟩, rfl⟩ := h
    refine ⟨_, rfl, .sent hcommand fun row hrow hsame => ?_⟩
    have hconflict := hnew row hrow
    simp [hsame] at hconflict
  next hother =>
    cases h
    exact ⟨_, rfl, .kept fun _ _ _ _ _ hcommand => hother _ _ _ _ _ hcommand⟩

theorem persistResult_eq_ok {command : IdrCommandEnvelopeV1} {transition : IdrTransitionV1}
    (h : persistResult command transition db = .ok db') :
    ∃ executionReceipts outcomeRecords,
      db' = { db with executionReceipts, outcomeRecords } := by
  unfold persistResult at h
  split at h
  · simp only [persistExecutionReceipt, bind_eq_ok, Except.ok.injEq] at h
    obtain ⟨-, -, -, -, -, -, rows, -, -, -, rfl⟩ := h
    exact ⟨rows, _, rfl⟩
  · simp only [persistOutcome, bind_eq_ok, Except.ok.injEq] at h
    obtain ⟨-, -, -, -, rows, -, -, -, rfl⟩ := h
    exact ⟨_, rows, rfl⟩
  · cases h
    exact ⟨_, _, rfl⟩

end Idr
