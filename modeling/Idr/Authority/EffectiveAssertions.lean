/-
Idr/Authority/EffectiveAssertions.lean

Which assertions of the human model are served.

A promotion or a correction also writes a row of `idr_human_model_assertions`,
and every commit writes the records that its run has invalidated.  The step of
the authority is extended by the two tables (`HumanModelStep`); what a commit
has to write into them is read off the database it leaves.  The guards of the
table that the evaluation of the command has passed before are not repeated.

The validity of an assertion is stored twice: as `expires_at`, which the payload
may have, and as `valid_until` of its record, which is cut down to the bounds of
what the assertion rests on.  The query reads the first and not the second.
What it serves is current, not invalidated, effective and not expired by its
payload (`EffectiveAt`), and it is within the validity of its record exactly
when no assertion that is asked for is past it.
-/
import Idr.Authority.Promotion

namespace Idr

/-! ### Rows -/

/-- `idr_contract_invalidations`. -/
structure InvalidationRow where
  runId : Uuid
  recordId : Uuid
  revision : Nat
  commandId : Uuid

/-- `idr_human_model_assertions`, its time in microseconds. -/
structure AssertionRow where
  assertionRecordId : Uuid
  assertionRevision : Nat
  promotionDecision : Option (Uuid × Nat)
  predecessorAssertion : Option (Uuid × Nat)
  correctionProofId : Option Uuid
  tenantRef : Text
  subjectRef : Text
  lifecycleState : Text
  expiresAt : Option Nat
  assertion : AuthoritativeRecordV1

def InvalidationRow.key (row : InvalidationRow) : Uuid × Nat := (row.recordId, row.revision)

def AssertionRow.key (row : AssertionRow) : Uuid × Nat :=
  (row.assertionRecordId, row.assertionRevision)

/-- The state of the authority with the two tables. -/
structure HumanModelStateV1 where
  authority : AuthorityStateV1
  assertions : List AssertionRow
  invalidations : List InvalidationRow

/-- The database of a state. -/
def HumanModelStateV1.db (self : HumanModelStateV1) : DatabaseV1 := self.authority.db

/-! ### Writes -/

/-- The rows of the records that a run has invalidated; the unique constraint on a record leaves out
those that are there. -/
def persistInvalidations (command : IdrCommandEnvelopeV1) (refs : List AuthoritativeRecordRefV1)
    (rows : List InvalidationRow) : List InvalidationRow :=
  refs.foldl (fun rows ref =>
    insertOrIgnore (fun row => row.key = ref.key)
      ⟨command.runId, ref.recordId, ref.revision, command.commandId⟩ rows) rows

/-- `command_proof_id`. -/
def commandProofId (command : IdrCommandEnvelopeV1) (proofKind : ProductionProofKindV1) :
    Except IdrRuntimeErrorV1 Uuid :=
  okOr ((command.proofs.find? fun proof => proof.claims.proofKind = proofKind).map
    (·.claims.proofId))
    .missingRequiredProof

/-- The first second that is no `timestamptz`. -/
def timestampEnd : Nat := 9224318016000

/-- The payload of an assertion says when it expires. -/
def payloadExpiresAt (payload : Value) : Option Nat := (payload.get "expires_at").bind Value.asU64

/-- The insert of an assertion. -/
def insertAssertion (promotionDecision predecessorAssertion : Option (Uuid × Nat))
    (correctionProofId : Option Uuid) (lifecycleState : Text) (record : AuthoritativeRecordV1)
    (rows : List AssertionRow) : Except IdrRuntimeErrorV1 (List AssertionRow) := do
  let expiresAt := payloadExpiresAt record.payload
  require (expiresAt.all (· < 2 ^ 63) = true) .serialization
  require (expiresAt.all (· < timestampEnd) = true) (.repository "timestamp out of range")
  insertRow (fun row => row.key = record.recordRef.key) uniqueViolation {
    assertionRecordId := record.recordRef.recordId
    assertionRevision := record.recordRef.revision
    promotionDecision
    predecessorAssertion
    correctionProofId
    tenantRef := record.tenantRef.asStr
    subjectRef := record.subjectRef.asStr
    lifecycleState
    expiresAt := expiresAt.map (· * microsPerSecond)
    assertion := record } rows

/-- `persist_specialized_projection`, for the assertions. -/
def persistAssertion (command : IdrCommandEnvelopeV1) (record : Option AuthoritativeRecordV1)
    (rows : List AssertionRow) : Except IdrRuntimeErrorV1 (List AssertionRow) :=
  match command.command with
  | .promoteHumanModelAssertion _ promotionDecisionRef => do
    let record ← okOr record .serialization
    let lifecycleState ← requiredPayloadString record.payload "lifecycle_state"
    insertAssertion (some promotionDecisionRef.key) none none lifecycleState record rows
  | .correctHumanModelAssertion assertionRef _ => do
    let record ← okOr record .serialization
    let lifecycleState ← requiredPayloadString record.payload "lifecycle_state"
    let proofId ← commandProofId command .humanModelCorrection
    -- the predecessor references the assertions
    require (rows.any (fun row => row.key = assertionRef.key) = true) foreignKeyViolation
    insertAssertion none (some assertionRef.key) (some proofId) lifecycleState record rows
  | _ => .ok rows

/-- The record that a commit has added to a database. -/
def writtenRecord (before after : DatabaseV1) : Option AuthoritativeRecordV1 :=
  (after.contractRecords.drop before.contractRecords.length).head?.map (·.record)

section Step

variable [Crypto]

/-- One call.  One that the two tables refuse is rolled back as a whole, and is no step. -/
def PostgresIdrOrchestratorV1.humanModelStep (self : PostgresIdrOrchestratorV1)
    (s : HumanModelStateV1) (i : TransactInputV1) : Except IdrRuntimeErrorV1 HumanModelStateV1 := do
  let authority ← self.authorityStep s.authority i
  -- a call that leaves no receipt has written nothing
  if authority.db.commandReceipts.length = s.db.commandReceipts.length then
    .ok { s with authority }
  else
    let run ← okOr (authority.db.run i.command.runId) foreignKeyViolation
    let assertions ← persistAssertion i.command (writtenRecord s.db authority.db) s.assertions
    .ok {
      authority
      assertions
      invalidations :=
        persistInvalidations i.command run.projection.invalidatedRecords s.invalidations }

/-- The step relation of the authority with the two tables. -/
def HumanModelStep (o : PostgresIdrOrchestratorV1) (s : HumanModelStateV1) (i : TransactInputV1)
    (t : HumanModelStateV1) : Prop :=
  o.humanModelStep s i = .ok t

end Step

/-- The schema was just migrated. -/
def HumanModelInit (s : HumanModelStateV1) : Prop :=
  AuthorityInit s.authority ∧ s.assertions = [] ∧ s.invalidations = []

/-! ### The query -/

/-- `HumanModelQueryV1`. -/
structure HumanModelQueryV1 where
  tenantRef : ReferenceV1
  subjectRef : ReferenceV1
  scopeRef : ReferenceV1
  purposeRef : ReferenceV1
  policyRevisionRef : ReferenceV1
  maximumImpactBasisPoints : Nat

/-- `EffectiveHumanModelAssertionV1`. -/
structure EffectiveHumanModelAssertionV1 where
  assertionRecordId : Uuid
  assertionRevision : Nat
  recordDigest : Text
  predicate : Text
  valueDigest : Text
  scopeRef : Text
  lifecycleState : Text
  maximumImpactBasisPoints : Nat
  expiresAtEpochSeconds : Option Nat

/-- The lifecycles that are effective. -/
def effectiveLifecycles : List Text := ["provisional", "user_confirmed", "outcome_supported"]

/-- `jsonb_exists`. -/
def jsonbExists (value : Option Value) (text : Text) : Bool :=
  match value with
  | some (.array values) => values.any (· = .string text)
  | some (.object fields) => fields.any (·.1 = text)
  | some (.string s) => s = text
  | _ => false

/-- A field of a payload as a text.  The payloads of assertions are validated, so that the fields
read here are texts. -/
def payloadText (payload : Value) (field : Text) : Option Text :=
  (payload.get field).bind Value.asStr

/-- What a query asks for: the conditions on the person, the policy, the scope and the use. -/
def PostgresIdrOrchestratorV1.asks (self : PostgresIdrOrchestratorV1) (query : HumanModelQueryV1)
    (record : AuthoritativeRecordV1) : Bool :=
  record.tenantRef = query.tenantRef
    && record.subjectRef = query.subjectRef
    && record.policyRevisionRef = query.policyRevisionRef
    && payloadText record.payload "scope_ref" = some query.scopeRef.asStr
    && jsonbExists (record.payload.get "allowed_purposes") query.purposeRef.asStr
    && ((record.payload.get "maximum_impact_basis_points").bind Value.asU64).any
      (· ≤ query.maximumImpactBasisPoints)
    && record.trustDomain = self.trustDomain
    && record.environmentRef = self.environmentRef

/-- The `WHERE` of the query, on a row of the join. -/
def PostgresIdrOrchestratorV1.serves (self : PostgresIdrOrchestratorV1) (query : HumanModelQueryV1)
    (clock : Nat) (invalidations : List InvalidationRow) (a : AssertionRow) (c : ContractRow) :
    Bool :=
  c.tenantRef = query.tenantRef.asStr
    && c.subjectRef = query.subjectRef.asStr
    && c.record.policyRevisionRef = query.policyRevisionRef
    && payloadText a.assertion.payload "scope_ref" = some query.scopeRef.asStr
    && jsonbExists (a.assertion.payload.get "allowed_purposes") query.purposeRef.asStr
    && ((a.assertion.payload.get "maximum_impact_basis_points").bind Value.asU64).any
      (· ≤ query.maximumImpactBasisPoints)
    && effectiveLifecycles.contains a.lifecycleState
    && a.expiresAt.all (clock < ·)
    && c.trustDomain = self.trustDomain
    && c.environmentRef = self.environmentRef
    && !invalidations.any (·.key = a.key)

/-- The two joins. -/
def HumanModelStateV1.joined (self : HumanModelStateV1) : List (AssertionRow × ContractRow) :=
  self.assertions.flatMap fun a =>
    (self.db.contractRecords.filter (·.key = a.key)).flatMap fun c =>
      (self.db.contractCurrent.filter fun current =>
        (current.recordId, current.revision) = a.key).map fun _ => (a, c)

/-- `ORDER BY a.assertion_record_id, a.assertion_revision`. -/
def servedBefore (a b : AssertionRow × ContractRow) : Prop :=
  a.1.assertionRecordId.toNat < b.1.assertionRecordId.toNat ∨
    (a.1.assertionRecordId.toNat = b.1.assertionRecordId.toNat ∧
      a.1.assertionRevision ≤ b.1.assertionRevision)

instance : DecidableRel servedBefore := fun a b => by unfold servedBefore; infer_instance

/-- A row of the result. -/
def effectiveAssertion (row : AssertionRow × ContractRow) :
    Except IdrRuntimeErrorV1 EffectiveHumanModelAssertionV1 := do
  let (a, c) := row
  let unexpectedNull : IdrRuntimeErrorV1 := .repository "unexpected null"
  let impact ← okOr ((a.assertion.payload.get "maximum_impact_basis_points").bind Value.asU64)
    unexpectedNull
  let predicate ← okOr (payloadText a.assertion.payload "predicate") unexpectedNull
  let valueDigest ← okOr (payloadText a.assertion.payload "value_digest") unexpectedNull
  let scopeRef ← okOr (payloadText a.assertion.payload "scope_ref") unexpectedNull
  require (impact < 2 ^ 16) .serialization
  .ok {
    assertionRecordId := a.assertionRecordId
    assertionRevision := a.assertionRevision
    recordDigest := c.recordDigest
    predicate
    valueDigest
    scopeRef
    lifecycleState := a.lifecycleState
    maximumImpactBasisPoints := impact
    expiresAtEpochSeconds := a.expiresAt.map epochSeconds }

/-- `query_effective_human_model_assertions_for_test`, when the clock shows `clock`. -/
def PostgresIdrOrchestratorV1.queryEffectiveHumanModelAssertions (self : PostgresIdrOrchestratorV1)
    (s : HumanModelStateV1) (clock : Nat) (query : HumanModelQueryV1) :
    Except IdrRuntimeErrorV1 (List EffectiveHumanModelAssertionV1) :=
  ((s.joined.filter fun row => self.serves query clock s.invalidations row.1 row.2).insertionSort
    servedBefore).mapM effectiveAssertion

/-! ### What a step does -/

section Invariant

variable [Crypto] {o : PostgresIdrOrchestratorV1} {i : TransactInputV1} {s t : HumanModelStateV1}

/-- **What a commit does to the two tables.** -/
structure TablesWritten (i : TransactInputV1) (c : CommitV1) (s t : HumanModelStateV1) : Prop where
  assertions : persistAssertion i.command c.record s.assertions = .ok t.assertions
  invalidations :
    t.invalidations = persistInvalidations i.command c.projection.invalidatedRecords s.invalidations

theorem Commits.writtenRecord {c : CommitV1} {db db' : DatabaseV1} (h : Commits o db i c db') :
    writtenRecord db db' = c.record := by
  rw [Idr.writtenRecord, h.records, List.drop_left]
  cases c.record <;> rfl

/-- **A step** is one of the authority, and where that is a commit, the two tables are written. -/
theorem humanModelStep_cases (hs : Reachable AuthorityInit (AuthorityStep o) s.authority)
    (h : HumanModelStep o s i t) :
    AuthorityStep o s.authority i t.authority ∧
      (t.db = s.db ∧ t.assertions = s.assertions ∧ t.invalidations = s.invalidations ∨
        ∃ c, Commits o s.db i c t.db ∧ TablesWritten i c s t) := by
  simp only [HumanModelStep, PostgresIdrOrchestratorV1.humanModelStep, bind_eq_ok] at h
  obtain ⟨authority, hstep, h⟩ := h
  have hrows := runsOk_reachable hs
  have hrows' := runsOk_reachable (hs.snoc hstep)
  obtain ⟨hadmits, -, hcases⟩ := authorityStep_cases hstep
  split at h
  case isTrue hlength =>
    obtain rfl := Except.ok.inj h
    refine ⟨hstep, .inl ⟨?_, rfl, rfl⟩⟩
    rcases hcases with hdb | ⟨c, hc⟩
    · exact hdb
    · exfalso
      rw [hc.commandReceipts, List.length_append, List.length_singleton] at hlength
      exact absurd hlength (Nat.succ_ne_self _)
  case isFalse hlength =>
    simp only [bind_eq_ok, okOr_eq_ok, Except.ok.injEq] at h
    obtain ⟨run, hrun, assertions, hassertions, rfl⟩ := h
    rcases hcases with hdb | ⟨c, hc⟩
    · exact absurd (congrArg (fun db : DatabaseV1 => db.commandReceipts.length) hdb) hlength
    · refine ⟨hstep, .inr ⟨c, hc, ?_, ?_⟩⟩
      · rw [← hc.writtenRecord]
        exact hassertions
      · obtain ⟨row, hrow, hid, hprojection⟩ := hc.writtenRow hrows hadmits
        have hfound : authority.db.run i.command.runId = some row := by
          rw [← hid]
          exact hrows'.unique.find?_key.mpr ⟨hrow, rfl⟩
        obtain rfl := Option.some.inj (hfound.symm.trans hrun)
        rw [← hprojection]

/-- The authority of a reachable state is reachable. -/
theorem authority_reachable (h : Reachable HumanModelInit (HumanModelStep o) s) :
    Reachable AuthorityInit (AuthorityStep o) s.authority := by
  refine h.invariant (P := fun s => Reachable AuthorityInit (AuthorityStep o) s.authority) ?_ ?_
  · exact fun s hinit => .of_init hinit.1
  · exact fun s i t hs hstep => hs.snoc (humanModelStep_cases hs hstep).1

/-! ### What the tables hold -/

/-- The record of a row is stored, and its columns are those of the payload. -/
structure AssertionStored (db : DatabaseV1) (a : AssertionRow) : Prop where
  stored : contractRow a.assertion ∈ db.contractRecords
  key : a.assertion.recordRef.key = a.key
  lifecycle : a.assertion.payload.get "lifecycle_state" = some (.string a.lifecycleState)
  expiry : a.expiresAt = (payloadExpiresAt a.assertion.payload).map (· * microsPerSecond)

/-- **The invariant of the two tables.** -/
structure AssertionsOk (s : HumanModelStateV1) : Prop where
  keys : UniqueBy ContractRow.key s.db.contractRecords
  stored : ∀ a ∈ s.assertions, AssertionStored s.db a
  invalidated : ∀ run ∈ s.db.runs, ∀ ref ∈ run.projection.invalidatedRecords,
    ∃ row ∈ s.invalidations, row.key = ref.key
  current : ∀ current ∈ s.db.contractCurrent, ∃ run ∈ s.db.runs, run.runId = current.runId ∧
    ∃ ref, run.projection.records current.candidateKind = some ref ∧
      ref.key = (current.recordId, current.revision)

omit [Crypto] in
/-- Every record that a commit invalidates is in the table, with those that were there. -/
theorem mem_persistInvalidations {command : IdrCommandEnvelopeV1}
    {refs : List AuthoritativeRecordRefV1} : ∀ {rows : List InvalidationRow},
    (∀ row ∈ rows, row ∈ persistInvalidations command refs rows) ∧
      ∀ ref ∈ refs, ∃ row ∈ persistInvalidations command refs rows, row.key = ref.key := by
  induction refs with
  | nil =>
    intro rows
    refine ⟨fun row hrow => hrow, fun ref href => ?_⟩
    cases href
  | cons ref refs ih =>
    intro rows
    rw [persistInvalidations, List.foldl_cons, ← persistInvalidations]
    refine ⟨fun row hrow => ih.1 row (subset_insertOrIgnore hrow), ?_⟩
    intro ref' href'
    rcases List.mem_cons.mp href' with rfl | href'
    · -- the row is inserted here, or one with its key is there
      suffices hrow : ∃ row ∈ insertOrIgnore (fun row => decide (row.key = ref'.key))
          ⟨command.runId, ref'.recordId, ref'.revision, command.commandId⟩ rows,
          row.key = ref'.key by
        obtain ⟨row, hrow, hkey⟩ := hrow
        exact ⟨row, ih.1 row hrow, hkey⟩
      unfold insertOrIgnore
      split
      case isTrue hany =>
        obtain ⟨row, hrow, hkey⟩ := List.any_eq_true.mp hany
        exact ⟨row, hrow, of_decide_eq_true hkey⟩
      case isFalse => exact ⟨_, List.mem_append_right _ (List.mem_singleton_self _), rfl⟩
    · exact ih.2 ref' href'

omit [Crypto] in
/-- **What a write adds to the assertions**: one row, of the record, with the columns of its
payload. -/
theorem persistAssertion_eq_ok {command : IdrCommandEnvelopeV1}
    {record : Option AuthoritativeRecordV1} {rows rows' : List AssertionRow}
    (h : persistAssertion command record rows = .ok rows') : rows' = rows ∨
      ∃ a, rows' = rows ++ [a] ∧ record = some a.assertion ∧ a.assertion.recordRef.key = a.key ∧
        a.assertion.payload.get "lifecycle_state" = some (.string a.lifecycleState) ∧
        a.expiresAt = (payloadExpiresAt a.assertion.payload).map (· * microsPerSecond) := by
  have hinsert : ∀ {decision predecessor proofId lifecycleState record},
      insertAssertion decision predecessor proofId lifecycleState record rows = .ok rows' →
      ∃ a, rows' = rows ++ [a] ∧ a.assertion = record ∧ a.assertion.recordRef.key = a.key ∧
        a.lifecycleState = lifecycleState ∧
        a.expiresAt = (payloadExpiresAt a.assertion.payload).map (· * microsPerSecond) := by
    intro decision predecessor proofId lifecycleState record h
    simp only [insertAssertion, bind_eq_ok, require_eq_ok, exists_const, insertRow_eq_ok] at h
    obtain ⟨-, -, -, rfl⟩ := h
    exact ⟨_, rfl, rfl, rfl, rfl, rfl⟩
  unfold persistAssertion at h
  split at h
  · simp only [bind_eq_ok, okOr_eq_ok] at h
    obtain ⟨record, rfl, lifecycleState, hlifecycle, h⟩ := h
    obtain ⟨a, rfl, rfl, hkey, rfl, hexpiry⟩ := hinsert h
    exact .inr ⟨a, rfl, rfl, hkey, requiredPayloadString_eq_ok hlifecycle, hexpiry⟩
  · simp only [bind_eq_ok, okOr_eq_ok, require_eq_ok, exists_const] at h
    obtain ⟨record, rfl, lifecycleState, hlifecycle, proofId, -, -, h⟩ := h
    obtain ⟨a, rfl, rfl, hkey, rfl, hexpiry⟩ := hinsert h
    exact .inr ⟨a, rfl, rfl, hkey, requiredPayloadString_eq_ok hlifecycle, hexpiry⟩
  · exact .inl (Except.ok.inj h).symm

omit [Crypto] in
theorem AssertionStored.mono {db db' : DatabaseV1} {a : AssertionRow} (h : AssertionStored db a)
    (hrecords : ∀ row ∈ db.contractRecords, row ∈ db'.contractRecords) : AssertionStored db' a :=
  { h with stored := hrecords _ h.stored }

/-- The pointers to the current records agree with the projections. -/
theorem AssertionsOk.currentAfter {c : CommitV1} (hok : AssertionsOk s)
    (hs : RunsOk o s.authority) (hadmits : s.authority.admits i) (h : Commits o s.db i c t.db) :
    ∀ current ∈ t.db.contractCurrent, ∃ run ∈ t.db.runs, run.runId = current.runId ∧
      ∃ ref, run.projection.records current.candidateKind = some ref ∧
        ref.key = (current.recordId, current.revision) := by
  obtain ⟨written, hwritten, hwrittenId, hprojection⟩ :=
    Commits.writtenRow (s := s.authority) (t := t.authority) hs hadmits h
  obtain ⟨-, hid⟩ := Commits.frame (s := s.authority) (t := t.authority) hs hadmits h
  have hrecords := Commits.projectionRecords (s := s.authority) (t := t.authority) hs hadmits h
  -- a pointer that is not written still agrees
  have hkept : ∀ current ∈ s.db.contractCurrent,
      (∀ record, c.record = some record → (current.runId, current.candidateKind) ≠
        (c.projection.runId, record.recordRef.candidateKind)) →
      ∃ run ∈ t.db.runs, run.runId = current.runId ∧
        ∃ ref, run.projection.records current.candidateKind = some ref ∧
          ref.key = (current.recordId, current.revision) := by
    intro current hcurrent hother
    obtain ⟨run, hrun, hrunId, ref, href, hkey⟩ := hok.current current hcurrent
    by_cases hsame : run.runId = i.command.runId
    · refine ⟨written, hwritten, hwrittenId.trans (hsame.symm.trans hrunId), ref, ?_, hkey⟩
      have hloaded := Commits.loaded_of_row (s := s.authority) (t := t.authority) hs h hrun hsame
      rw [hprojection, hrecords]
      rcases hrecord : c.record with _ | record
      · rw [← hloaded]
        exact href
      · rw [insertRecord_of_ne, ← hloaded]
        · exact href
        · intro hkind
          refine hother record hrecord ?_
          rw [hid, ← hsame, hrunId, hkind]
    · exact ⟨run, Commits.otherRow (s := s.authority) (t := t.authority) hs hadmits h hrun hsame,
        hrunId, ref, href, hkey⟩
  intro current hcurrent
  rcases hrecord : c.record with _ | record
  · rw [h.currentKept hrecord] at hcurrent
    exact hkept current hcurrent fun record hrecord' => by
      rw [hrecord] at hrecord'
      cases hrecord'
  · have hnew : written.projection.records record.recordRef.candidateKind =
        some record.recordRef := by
      rw [hprojection, hrecords, hrecord]
      exact insertRecord_self record
    have hfresh : ∀ current ∈ s.db.contractCurrent, (current.runId, current.candidateKind) ≠
        (c.projection.runId, record.recordRef.candidateKind) →
        ∃ run ∈ t.db.runs, run.runId = current.runId ∧
          ∃ ref, run.projection.records current.candidateKind = some ref ∧
            ref.key = (current.recordId, current.revision) := by
      intro current hcurrent hne
      refine hkept current hcurrent fun record' hrecord' => ?_
      obtain rfl := Option.some.inj (hrecord.symm.trans hrecord')
      exact hne
    have hcurrents := h.current record hrecord
    generalize t.db.contractCurrent = rows at hcurrent hcurrents
    cases hcurrents with
    | inserted hother =>
      rcases List.mem_append.mp hcurrent with hcurrent | hcurrent
      · exact hfresh current hcurrent (hother current hcurrent)
      · rw [List.mem_singleton.mp hcurrent]
        exact ⟨written, hwritten, hwrittenId.trans hid.symm, record.recordRef, hnew, rfl⟩
    | updated old hold hkey =>
      rcases mem_updateWhere.mp hcurrent with ⟨hcurrent, hother⟩ | ⟨-, -, -, rfl⟩
      · refine hfresh current hcurrent fun hsame => ?_
        rw [Prod.mk.injEq] at hsame
        have htrue : (decide (current.runId = (currentRow c.projection record.recordRef).runId) &&
            decide (current.candidateKind =
              (currentRow c.projection record.recordRef).candidateKind)) = true := by
          rw [Bool.and_eq_true, decide_eq_true_eq, decide_eq_true_eq]
          exact hsame
        rw [htrue] at hother
        cases hother
      · obtain ⟨hrunId, hkind⟩ := Prod.mk.inj hkey
        refine ⟨written, hwritten, (hwrittenId.trans hid.symm).trans hrunId.symm, record.recordRef,
          ?_, rfl⟩
        show written.projection.records old.candidateKind = _
        rw [hkind]
        exact hnew

theorem AssertionsOk.step (hs : Reachable AuthorityInit (AuthorityStep o) s.authority)
    (hok : AssertionsOk s) (hstep : HumanModelStep o s i t) : AssertionsOk t := by
  obtain ⟨hauthority, hquiet | ⟨c, hc, htables⟩⟩ := humanModelStep_cases hs hstep
  · obtain ⟨hdb, hassertions, hinvalidations⟩ := hquiet
    exact {
      keys := hdb ▸ hok.keys
      stored := by
        rw [hassertions, hdb]
        exact hok.stored
      invalidated := by
        rw [hinvalidations, hdb]
        exact hok.invalidated
      current := hdb ▸ hok.current }
  · have hrows := runsOk_reachable hs
    obtain ⟨hadmits, -⟩ := authorityStep_cases hauthority
    have hmem : ∀ row ∈ s.db.contractRecords, row ∈ t.db.contractRecords := fun row hrow =>
      (Commits.mem_records (s := s.authority) (t := t.authority) hc).mpr (.inl hrow)
    refine ⟨?_, ?_, ?_, hok.currentAfter hrows hadmits hc⟩
    · rw [hc.records]
      rcases hrecord : c.record with _ | record
      · rw [Option.toList_none, List.map_nil, List.append_nil]
        exact hok.keys
      · exact hok.keys.insert (hc.admitted record hrecord).newKey
    · rcases persistAssertion_eq_ok htables.assertions with hsame | ⟨a, happend, hrecord, hkey,
        hlifecycle, hexpiry⟩
      · rw [hsame]
        exact fun a ha => (hok.stored a ha).mono hmem
      · rw [happend]
        refine forall_mem_insert (fun a ha => (hok.stored a ha).mono hmem)
          ⟨?_, hkey, hlifecycle, hexpiry⟩
        exact (Commits.mem_records (s := s.authority) (t := t.authority) hc).mpr
          (.inr ⟨_, hrecord, rfl⟩)
    · rw [htables.invalidations]
      intro run hrun ref href
      rcases Commits.mem_runs (s := s.authority) (t := t.authority) hrows hadmits hc hrun with
        ⟨hrun, -⟩ | ⟨-, hprojection, -⟩
      · obtain ⟨row, hrow, hkey⟩ := hok.invalidated run hrun ref href
        exact ⟨row, mem_persistInvalidations.1 row hrow, hkey⟩
      · rw [hprojection] at href
        exact mem_persistInvalidations.2 ref href

/-- **The two tables** in every reachable state. -/
theorem assertionsOk_reachable (h : Reachable HumanModelInit (HumanModelStep o) s) :
    AssertionsOk s := by
  refine h.invariant_with ?_ ?_
  · rintro s ⟨hauthority, hassertions, hinvalidations⟩
    have hdb : s.db = .empty := hauthority
    constructor
    · rw [hdb]
      exact .nil _
    · rw [hassertions]
      intro a ha
      cases ha
    · rw [hdb]
      intro run hrun
      cases hrun
    · rw [hdb]
      intro current hcurrent
      cases hcurrent
  · intro s i t hs hok hstep
    exact hok.step (authority_reachable hs) hstep

/-! ### What is served -/

/-- **Effective**: current, not invalidated, and of an effective lifecycle. -/
structure Effective (s : HumanModelStateV1) (row : ContractRow) : Prop where
  current : ∃ run ∈ s.db.runs, ∃ kind ref, run.projection.records kind = some ref ∧
    ref.key = row.key
  pointer : ∃ current ∈ s.db.contractCurrent, (current.recordId, current.revision) = row.key
  standing : ∀ run ∈ s.db.runs, ∀ ref ∈ run.projection.invalidatedRecords, ref.key ≠ row.key
  invalidations : ∀ invalidation ∈ s.invalidations, invalidation.key ≠ row.key
  lifecycle : ∃ state ∈ effectiveLifecycles,
    row.record.payload.get "lifecycle_state" = some (.string state)

/-- The payload does not expire before or at a time. -/
def ContractRow.Unexpired (row : ContractRow) (clock : Nat) : Prop :=
  ∀ expiresAt, payloadExpiresAt row.record.payload = some expiresAt →
    clock < expiresAt * microsPerSecond

/-- **Effective at a time**: and not expired by the payload. -/
structure EffectiveAt (s : HumanModelStateV1) (clock : Nat) (row : ContractRow) : Prop
    extends Effective s row where
  unexpired : row.Unexpired clock

/-- The record is within its validity at a time. -/
def ContractRow.ValidAt (row : ContractRow) (clock : Nat) : Prop :=
  clock < row.validUntil * microsPerSecond

/-- The validity of the record has ended, and its payload does not expire, or only later. -/
def ContractRow.OutlivesValidity (row : ContractRow) (clock : Nat) : Prop :=
  row.validUntil * microsPerSecond ≤ clock ∧ row.Unexpired clock

omit [Crypto] in
/-- The rows of the join are the stored assertions that a pointer to a current record names. -/
theorem AssertionsOk.mem_joined (hok : AssertionsOk s) {a : AssertionRow} {c : ContractRow} :
    (a, c) ∈ s.joined ↔ a ∈ s.assertions ∧ c = contractRow a.assertion ∧
      ∃ current ∈ s.db.contractCurrent, (current.recordId, current.revision) = a.key := by
  simp only [HumanModelStateV1.joined, List.mem_flatMap, List.mem_map, List.mem_filter,
    decide_eq_true_eq, Prod.mk.injEq]
  constructor
  · rintro ⟨a', ha', c', ⟨hc', hkey⟩, current, ⟨hcurrent, hpointer⟩, rfl, rfl⟩
    refine ⟨ha', ?_, current, hcurrent, hpointer⟩
    have hstored := hok.stored a' ha'
    exact hok.keys.eq hc' hstored.stored (hkey.trans hstored.key.symm)
  · rintro ⟨ha, rfl, current, hcurrent, hpointer⟩
    have hstored := hok.stored a ha
    exact ⟨a, ha, contractRow a.assertion, ⟨hstored.stored, hstored.key⟩, current,
      ⟨hcurrent, hpointer⟩, rfl, rfl⟩

omit [Crypto] in
theorem all_map_lt {x : Option Nat} {f : Nat → Nat} {clock : Nat} :
    (x.map f).all (clock < ·) = true ↔ ∀ n, x = some n → clock < f n := by
  cases x with
  | none => exact ⟨fun _ n hn => (by cases hn), fun _ => rfl⟩
  | some n =>
    rw [Option.map_some, Option.all_some, decide_eq_true_iff]
    exact ⟨fun h m hm => Option.some.inj hm ▸ h, fun h => h n rfl⟩

omit [Crypto] in
theorem payloadUnexpired {a : AssertionRow} {clock : Nat}
    (h : a.expiresAt = (payloadExpiresAt a.assertion.payload).map (· * microsPerSecond)) :
    a.expiresAt.all (clock < ·) = true ↔ ∀ expiresAt,
      payloadExpiresAt a.assertion.payload = some expiresAt →
      clock < expiresAt * microsPerSecond := by
  rw [h]
  exact all_map_lt

omit [Crypto] in
/-- **What the query selects**, among the assertions that a pointer names: those that are asked for
and are effective. -/
theorem AssertionsOk.serves_iff (hok : AssertionsOk s) {query : HumanModelQueryV1} {clock : Nat}
    {a : AssertionRow} (ha : a ∈ s.assertions)
    (hpointer : ∃ current ∈ s.db.contractCurrent, (current.recordId, current.revision) = a.key) :
    o.serves query clock s.invalidations a (contractRow a.assertion) = true ↔
      o.asks query a.assertion = true ∧ EffectiveAt s clock (contractRow a.assertion) := by
  have hstored := hok.stored a ha
  have hkey : (contractRow a.assertion).key = a.key := hstored.key
  have htext : ∀ x y : ReferenceV1, x.asStr = y.asStr ↔ x = y := by
    rintro ⟨x, hx⟩ ⟨y, hy⟩
    exact ReferenceV1.mk.injEq x hx y hy ▸ Iff.rfl
  simp only [PostgresIdrOrchestratorV1.serves, PostgresIdrOrchestratorV1.asks, Bool.and_eq_true,
    decide_eq_true_eq, Bool.not_eq_true', List.any_eq_false, List.contains_iff_mem]
  constructor
  · rintro ⟨⟨⟨⟨⟨⟨⟨⟨⟨⟨htenant, hsubject⟩, hpolicy⟩, hscope⟩, hpurpose⟩, himpact⟩, hlifecycle⟩,
      hexpiry⟩, hdomain⟩, henvironment⟩, hinvalidations⟩
    refine ⟨⟨⟨⟨⟨⟨⟨⟨(htext _ _).mp htenant, (htext _ _).mp hsubject⟩, hpolicy⟩, hscope⟩, hpurpose⟩,
      himpact⟩, hdomain⟩, henvironment⟩, ?_⟩
    have hnone : ∀ invalidation ∈ s.invalidations,
        invalidation.key ≠ (contractRow a.assertion).key := by
      intro invalidation hinvalidation
      rw [hkey]
      exact hinvalidations invalidation hinvalidation
    exact {
      current := by
        obtain ⟨current, hcurrent, hnamed⟩ := hpointer
        obtain ⟨run, hrun, -, ref, href, hrefKey⟩ := hok.current current hcurrent
        exact ⟨run, hrun, _, ref, href, by rw [hrefKey, hnamed, hkey]⟩
      pointer := by
        rw [hkey]
        exact hpointer
      standing := by
        intro run hrun ref href hsame
        obtain ⟨row, hrow, hrowKey⟩ := hok.invalidated run hrun ref href
        exact hnone row hrow (hrowKey.trans hsame)
      invalidations := hnone
      lifecycle := ⟨a.lifecycleState, hlifecycle, hstored.lifecycle⟩
      unexpired := (payloadUnexpired hstored.expiry).mp hexpiry }
  · rintro ⟨⟨⟨⟨⟨⟨⟨⟨htenant, hsubject⟩, hpolicy⟩, hscope⟩, hpurpose⟩, himpact⟩, hdomain⟩,
      henvironment⟩, heffective⟩
    refine ⟨⟨⟨⟨⟨⟨⟨⟨⟨⟨(htext _ _).mpr htenant, (htext _ _).mpr hsubject⟩, hpolicy⟩, hscope⟩,
      hpurpose⟩, himpact⟩, ?_⟩, ?_⟩, hdomain⟩, henvironment⟩, ?_⟩
    · obtain ⟨state, hstate, hpayload⟩ := heffective.lifecycle
      have hsame := hstored.lifecycle.symm.trans hpayload
      rw [Option.some.injEq, Value.string.injEq] at hsame
      rw [hsame]
      exact hstate
    · exact (payloadUnexpired hstored.expiry).mpr heffective.unexpired
    · intro invalidation hinvalidation
      rw [← hkey]
      exact heffective.invalidations invalidation hinvalidation

omit [Crypto] in
theorem effectiveAssertion_key {a : AssertionRow} {c : ContractRow}
    {x : EffectiveHumanModelAssertionV1} (h : effectiveAssertion (a, c) = .ok x) :
    (x.assertionRecordId, x.assertionRevision) = a.key := by
  simp only [effectiveAssertion, bind_eq_ok, exists_unit_eq_ok, Except.ok.injEq] at h
  obtain ⟨impact, -, predicate, -, valueDigest, -, scopeRef, -, -, rfl⟩ := h
  rfl

omit [Crypto] in
/-- **What is served**: the rows of the stored assertions that are asked for and effective. -/
theorem AssertionsOk.mem_served (hok : AssertionsOk s) {query : HumanModelQueryV1} {clock : Nat}
    {served : List EffectiveHumanModelAssertionV1}
    (hquery : o.queryEffectiveHumanModelAssertions s clock query = .ok served) :
    (∀ x ∈ served, ∃ a ∈ s.assertions, (x.assertionRecordId, x.assertionRevision) = a.key ∧
      o.asks query a.assertion = true ∧ EffectiveAt s clock (contractRow a.assertion)) ∧
    ∀ a ∈ s.assertions, o.asks query a.assertion = true →
      EffectiveAt s clock (contractRow a.assertion) →
      ∃ x ∈ served, (x.assertionRecordId, x.assertionRevision) = a.key := by
  have hselected : ∀ row, row ∈ (s.joined.filter fun row =>
      o.serves query clock s.invalidations row.1 row.2).insertionSort servedBefore ↔
        row ∈ s.joined ∧ o.serves query clock s.invalidations row.1 row.2 = true := by
    intro row
    rw [List.mem_insertionSort, List.mem_filter]
  constructor
  · intro x hx
    obtain ⟨⟨a, c⟩, hrow, hx⟩ := mem_of_mapM_eq_ok hquery hx
    obtain ⟨hjoined, hserves⟩ := (hselected _).mp hrow
    obtain ⟨ha, rfl, hpointer⟩ := hok.mem_joined.mp hjoined
    exact ⟨a, ha, effectiveAssertion_key hx, (hok.serves_iff ha hpointer).mp hserves⟩
  · intro a ha hasks heffective
    have hpointer := heffective.pointer
    rw [show (contractRow a.assertion).key = a.key from (hok.stored a ha).key] at hpointer
    have hrow := (hselected (a, contractRow a.assertion)).mpr
      ⟨hok.mem_joined.mpr ⟨ha, rfl, hpointer⟩, (hok.serves_iff ha hpointer).mpr ⟨hasks, heffective⟩⟩
    have hall := forall₂_of_mapM_eq_ok (R := fun row x => effectiveAssertion row = .ok x) hquery
      fun _ _ _ h => h
    obtain ⟨x, hx, hone⟩ := exists_mem_of_forall₂ hall hrow
    exact ⟨x, hx, effectiveAssertion_key hone⟩

/-- **What is served is effective**, and it is within the validity of its record exactly when no
effective assertion that is asked for outlives that validity by its payload. -/
theorem effective_assertions_served_iff (h : Reachable HumanModelInit (HumanModelStep o) s)
    {clock : Nat} {query : HumanModelQueryV1} {served : List EffectiveHumanModelAssertionV1}
    (hquery : o.queryEffectiveHumanModelAssertions s clock query = .ok served) :
    (∀ x ∈ served, ∃ row ∈ s.db.contractRecords,
      row.key = (x.assertionRecordId, x.assertionRevision) ∧ EffectiveAt s clock row) ∧
    ((∀ x ∈ served, ∃ row ∈ s.db.contractRecords,
        row.key = (x.assertionRecordId, x.assertionRevision) ∧ EffectiveAt s clock row ∧
          row.ValidAt clock) ↔
      ¬ ∃ a ∈ s.assertions, o.asks query a.assertion = true ∧
        Effective s (contractRow a.assertion) ∧
        (contractRow a.assertion).OutlivesValidity clock) := by
  have hok := assertionsOk_reachable h
  obtain ⟨hserved, hall⟩ := hok.mem_served hquery
  refine ⟨?_, ?_, ?_⟩
  · intro x hx
    obtain ⟨a, ha, hkey, -, heffective⟩ := hserved x hx
    have hstored := hok.stored a ha
    exact ⟨_, hstored.stored, hstored.key.trans hkey.symm, heffective⟩
  · rintro hvalid ⟨a, ha, hasks, heffective, hlapsed, hunexpired⟩
    obtain ⟨x, hx, hkey⟩ := hall a ha hasks ⟨heffective, hunexpired⟩
    obtain ⟨row, hrow, hrowKey, -, hopen⟩ := hvalid x hx
    have hstored := hok.stored a ha
    obtain rfl := hok.keys.eq hrow hstored.stored
      ((hrowKey.trans hkey).trans hstored.key.symm)
    exact absurd hopen (Nat.not_lt.mpr hlapsed)
  · intro hnone x hx
    obtain ⟨a, ha, hkey, hasks, heffective⟩ := hserved x hx
    have hstored := hok.stored a ha
    refine ⟨_, hstored.stored, hstored.key.trans hkey.symm, heffective, ?_⟩
    by_contra hlapsed
    exact hnone ⟨a, ha, hasks, heffective.toEffective, Nat.not_lt.mp hlapsed, heffective.unexpired⟩

end Invariant

end Idr
