/-
Idr/Authority/IdempotencyScope.lean

One side effect per idempotency scope.

The scope of a reservation is the domain and the environment of its fence
with the tenant, the operation and the idempotency key.  Fences are never
changed and share neither an identifier nor a scope; a reservation has the
identifier of its fence and repeats its scope (`FencesOk`).  So two
reservations of one scope are one, whatever runs and tenants they belong
to, and every later attempt keeps the scope of its reservation.

A commit that writes an execution leaves a fence of its scope behind that
names its run and its action (`Commits.fence`).  A reservation whose scope
is fenced by another run or action can therefore not be committed.  The
revocation of the bound admission, which takes the place of the command
when a bound proof does not verify again, reserves nothing and is not
refused by a fence.
-/
import Idr.Authority.Withdrawal

namespace Idr

/-! ### Scopes -/

/-- The scope of a fence. -/
def FenceRow.scope (row : FenceRow) : TrustDomainV1 × ReferenceV1 × Text × Text × Text :=
  (row.trustDomain, row.environmentRef, row.tenantRef, row.operationRef, row.idempotencyKey)

/-- The scope of a reservation: where its fence belongs, and its own operation and key. -/
def ReservationRow.Scoped (row : ReservationRow) (db : DatabaseV1)
    (scope : TrustDomainV1 × ReferenceV1 × Text × Text × Text) : Prop :=
  ∃ fence ∈ db.fences, fence.fenceId = row.fenceId ∧
    scope = (fence.trustDomain, fence.environmentRef, row.tenantRef, row.operationRef,
      row.idempotencyKey)

/-- **Fences and reservations agree**: neither an identifier nor a scope is fenced twice, and a
reservation repeats the scope of the fence it is named after. -/
structure FencesOk (db : DatabaseV1) : Prop where
  fenceIds : UniqueBy FenceRow.fenceId db.fences
  scopes : UniqueBy FenceRow.scope db.fences
  reservationIds : UniqueBy ReservationRow.reservationId db.reservations
  fenced : ∀ row ∈ db.reservations, Fenced db row

theorem Fenced.mono {db db' : DatabaseV1} {row : ReservationRow} (h : Fenced db row)
    (hle : ∀ fence ∈ db.fences, fence ∈ db'.fences) : Fenced db' row := by
  obtain ⟨fence, hfence, hrest⟩ := h.fence
  exact ⟨h.fenceId, fence, hle fence hfence, hrest⟩

/-- A fence of the identifier or of the scope of a new one is in its way. -/
theorem FenceRow.conflicts_of_scope {new old : FenceRow} (h : old.scope = new.scope) :
    new.conflicts old = true := by
  simp only [FenceRow.scope, Prod.mk.injEq] at h
  simp [FenceRow.conflicts, h]

theorem FenceRow.conflicts_of_id {new old : FenceRow} (h : old.fenceId = new.fenceId) :
    new.conflicts old = true := by
  simp [FenceRow.conflicts, h]

/-- The scope of a fence that is for an execution. -/
theorem FenceRow.isFor_scope {row new : FenceRow} (h : row.isFor new) :
    row.fenceId = new.fenceId ∧ row.scope = new.scope ∧ row.firstRunId = new.firstRunId ∧
      row.firstActionRecordId = new.firstActionRecordId ∧
      row.firstActionRevision = new.firstActionRevision := by
  rw [FenceRow.isFor] at h
  rw [h]
  exact ⟨rfl, rfl, rfl, rfl, rfl⟩

section Commit

variable [Crypto] {o : PostgresIdrOrchestratorV1} {db db' : DatabaseV1} {i : TransactInputV1}
  {c : CommitV1} {e : ExecutionProjectionV1} {s t : AuthorityStateV1}

/-! ### What a commit leaves of the fences -/

/-- **The fence of an execution** that a commit writes. -/
theorem Commits.fence (h : Commits o db i c db') (he : c.projection.execution = some e) :
    ∃ row ∈ db'.fences, row.fenceId = e.reservationId ∧
      row.scope = (o.trustDomain, o.environmentRef, c.projection.tenantRef.asStr,
        e.operationRef.asStr, e.idempotencyKey) ∧
      row.firstRunId = c.projection.runId ∧ row.firstActionRecordId = e.actionRef.recordId ∧
      row.firstActionRevision = e.actionRef.revision := by
  obtain ⟨digest, -, -, row, hrow, hfor⟩ := (h.execution e he).fence
  obtain ⟨hid, hscope, hrun, haction, hrevision⟩ := FenceRow.isFor_scope hfor
  refine ⟨row, hrow, hid, ?_, hrun, haction, hrevision⟩
  rw [hscope, FenceRow.scope, fenceRow, h.runDomain, h.runEnvironment]

/-- No commit removes a fence. -/
theorem Commits.fences_subset (h : Commits o db i c db') : ∀ row ∈ db.fences, row ∈ db'.fences := by
  intro row hrow
  rcases he : c.projection.execution with _ | e
  · rw [(h.executionKept he).1]
    exact hrow
  · obtain ⟨digest, -, hfences, -⟩ := (h.execution e he).fence
    rw [hfences]
    exact subset_insertOrIgnore hrow

theorem FencesOk.commit (hdb : FencesOk db) (h : Commits o db i c db') : FencesOk db' := by
  rcases he : c.projection.execution with _ | e
  · obtain ⟨hfences, hreservations, -⟩ := h.executionKept he
    constructor
    · rw [hfences]
      exact hdb.fenceIds
    · rw [hfences]
      exact hdb.scopes
    · rw [hreservations]
      exact hdb.reservationIds
    · rw [hreservations]
      exact fun row hrow => (hdb.fenced row hrow).mono h.fences_subset
  · have hwritten := h.execution e he
    obtain ⟨digest, -, hfences, -⟩ := hwritten.fence
    have hfenced := hwritten.fenced
    have hreservation := hwritten.reservation
    constructor
    · rw [hfences]
      exact hdb.fenceIds.insertOrIgnore fun _ _ => FenceRow.conflicts_of_id
    · rw [hfences]
      exact hdb.scopes.insertOrIgnore fun _ _ => FenceRow.conflicts_of_scope
    · generalize db'.reservations = rows at hreservation
      cases hreservation with
      | inserted hnew =>
        refine hdb.reservationIds.insert fun row hrow hid => ?_
        have hconflict := hnew row hrow
        simp [ReservationRow.conflicts, hid] at hconflict
      | updated old hold =>
        refine hdb.reservationIds.updateWhere fun row _ hrow => ?_
        have hid := List.find?_some hold
        rw [decide_eq_true_eq] at hid hrow
        exact hid.trans hrow.symm
      | ignored => exact hdb.reservationIds
    · have hrows : ∀ row ∈ db.reservations, Fenced db' row := fun row hrow =>
        (hdb.fenced row hrow).mono h.fences_subset
      generalize db'.reservations = rows at hreservation
      cases hreservation with
      | inserted hnew => exact forall_mem_insert hrows hfenced
      | updated old hold =>
        -- only the state, the version and the time of the row change
        refine forall_mem_updateWhere hrows fun row hrow hid => ?_
        have hmem := List.mem_of_find?_eq_some hold
        exact { hrows old hmem with }
      | ignored => exact hrows

theorem fencesOk_reachable (h : Reachable AuthorityInit (AuthorityStep o) s) : FencesOk s.db := by
  refine database_invariant ?_ ?_ h
  · exact ⟨.nil _, .nil _, .nil _, fun row hrow => (by cases hrow)⟩
  · exact fun _ _ _ _ _ _ _ hc hdb => hdb.commit hc

/-! ### The reservation of a command -/

/-- An evaluated reservation is for the action and under the key of its command. -/
theorem runTransition_reserves {p : IdrRunProjectionV1} {input : RunInputV1} {r : IdrTransitionV1}
    {admissionRef actionRef : AuthoritativeRecordRefV1} {digest key nonce : Text}
    {providerRef ownerRef : ReferenceV1} {attempt lease : Nat}
    (h : runTransition p input = .ok r)
    (hc : input.command.command = .reserveExecution admissionRef actionRef digest providerRef
      ownerRef key attempt lease nonce) (hrevokes : input.revokes = false) :
    ∃ e, r.projection.execution = some e ∧ e.actionRef = actionRef ∧ e.idempotencyKey = key := by
  obtain ⟨r', hr', hprojection⟩ := runTransition_quiet (by rw [hc]; rfl) (by simp [hc]) hrevokes h
  simp only [evaluateCommand, hc, evaluateReserveExecution, bind_eq_ok, exists_unit_eq_ok,
    okOr_eq_ok, rejectIf_eq_ok, exists_const, Except.ok.injEq] at hr'
  obtain ⟨-, -, -, ⟨-, permitUntil⟩, -, admission, -, validUntil, -, -, reservationId, -, rfl⟩ :=
    hr'
  rw [hprojection, insertRecord_execution]
  exact ⟨_, rfl, rfl, rfl⟩

/-- **A scope that is fenced by another run or action** admits no reservation. -/
theorem Commits.scope_free (hdb : FencesOk db') (h : Commits o db i c db')
    (he : c.projection.execution = some e) {fence : FenceRow} (hfence : fence ∈ db.fences)
    (hscope : fence.scope = (o.trustDomain, o.environmentRef, c.projection.tenantRef.asStr,
      e.operationRef.asStr, e.idempotencyKey)) :
    fence.firstRunId = c.projection.runId ∧ fence.firstActionRecordId = e.actionRef.recordId ∧
      fence.firstActionRevision = e.actionRef.revision := by
  obtain ⟨row, hrow, -, hrowScope, hrun, haction, hrevision⟩ := h.fence he
  -- the two fences have one scope, so they are one fence
  have hsame : fence = row :=
    hdb.scopes.eq (h.fences_subset fence hfence) hrow (hscope.trans hrowScope.symm)
  rw [hsame]
  exact ⟨hrun, haction, hrevision⟩

/-! ### The results -/

/-- **One side effect per idempotency scope**, in a state of the authority. -/
structure OneSideEffect (o : PostgresIdrOrchestratorV1) (s : AuthorityStateV1) : Prop where
  /-- Every reservation has a scope, and no two have the same. -/
  fenced : ∀ row ∈ s.db.reservations, ∃ scope, row.Scoped s.db scope
  distinct : ∀ row ∈ s.db.reservations, ∀ row' ∈ s.db.reservations, ∀ scope,
    row.Scoped s.db scope → row'.Scoped s.db scope → row = row'
  /-- A reservation whose scope is fenced by another run or action, and which is no revocation of
  its admission, changes nothing; it fails unless its command was committed before. -/
  refused : ∀ (i : TransactInputV1) (run : RunRow) (a : ActionAdmissionProjectionV1)
      (fence : FenceRow) (admissionRef actionRef : AuthoritativeRecordRefV1) (digest : Text)
      (providerRef ownerRef : ReferenceV1) (key : Text) (attempt lease : Nat) (nonce : Text),
    s.admits i → i.command.command = .reserveExecution admissionRef actionRef digest providerRef
      ownerRef key attempt lease nonce →
    s.db.run i.command.runId = some run → run.projection.actionAdmission = some a →
    ¬ Revokes o s.db i run.projection →
    fence ∈ s.db.fences →
    fence.scope = (o.trustDomain, o.environmentRef, run.projection.tenantRef.asStr,
      a.operationRef.asStr, key) →
    (fence.firstRunId ≠ i.command.runId ∨ fence.firstActionRecordId ≠ actionRef.recordId ∨
      fence.firstActionRevision ≠ actionRef.revision) →
    (o.transact s.db i).1 = s.db ∧
      (s.db.commandReceipt i.command.commandId = none →
        ∃ error, (o.transact s.db i).2 = .error error)
  /-- A revocation issues no record, and leaves the execution there was in some state. -/
  revoked : ∀ (i : TransactInputV1) (c : CommitV1) (db' : DatabaseV1), Commits o s.db i c db' →
    Revokes o s.db i c.loaded →
      c.record = none ∧ Moved c.loaded.execution c.projection.execution
  /-- Every commit keeps each reservation with its operation and key, and an execution of the
  reservation has the same. -/
  kept : ∀ (i : TransactInputV1) (c : CommitV1) (db' : DatabaseV1), Commits o s.db i c db' →
    ∀ row ∈ s.db.reservations,
      (∃ row' ∈ db'.reservations, row'.reservationId = row.reservationId ∧
        row'.operationRef = row.operationRef ∧ row'.idempotencyKey = row.idempotencyKey) ∧
      ∀ e, c.projection.execution = some e → e.reservationId = row.reservationId →
        e.operationRef.asStr = row.operationRef ∧ e.idempotencyKey = row.idempotencyKey

omit [Crypto] in
theorem FencesOk.distinct (hdb : FencesOk db) {row row' : ReservationRow}
    (hrow : row ∈ db.reservations) (hrow' : row' ∈ db.reservations)
    {scope : TrustDomainV1 × ReferenceV1 × Text × Text × Text} (h : row.Scoped db scope)
    (h' : row'.Scoped db scope) : row = row' := by
  -- a reservation has the scope of its fence
  have hfence : ∀ r ∈ db.reservations, r.Scoped db scope →
      ∃ fence ∈ db.fences, fence.fenceId = r.reservationId ∧ fence.scope = scope := by
    rintro r hr ⟨fence, hfence, hid, rfl⟩
    have hfenced := hdb.fenced r hr
    obtain ⟨fence', hfence', hid', htenant, hoperation, hkey, -⟩ := hfenced.fence
    obtain rfl : fence = fence' := hdb.fenceIds.eq hfence hfence' (hid.trans hid'.symm)
    refine ⟨fence, hfence, hid.trans hfenced.fenceId, ?_⟩
    rw [FenceRow.scope, htenant, hoperation, hkey]
  obtain ⟨fence, hmem, hid, hscope⟩ := hfence row hrow h
  obtain ⟨fence', hmem', hid', hscope'⟩ := hfence row' hrow' h'
  obtain rfl : fence = fence' := hdb.scopes.eq hmem hmem' (hscope.trans hscope'.symm)
  exact hdb.reservationIds.eq hrow hrow' (hid.symm.trans hid')

theorem FencesOk.kept (hdb' : FencesOk db') (h : Commits o db i c db') {row : ReservationRow}
    (hdb : FencesOk db) (hrow : row ∈ db.reservations) :
    (∃ row' ∈ db'.reservations, row'.reservationId = row.reservationId ∧
      row'.operationRef = row.operationRef ∧ row'.idempotencyKey = row.idempotencyKey) ∧
    ∀ e, c.projection.execution = some e → e.reservationId = row.reservationId →
      e.operationRef.asStr = row.operationRef ∧ e.idempotencyKey = row.idempotencyKey := by
  constructor
  · rcases he : c.projection.execution with _ | e
    · rw [(h.executionKept he).2.1]
      exact ⟨row, hrow, rfl, rfl, rfl⟩
    · have hreservation := (h.execution e he).reservation
      generalize db'.reservations = rows at hreservation ⊢
      cases hreservation with
      | inserted => exact ⟨row, List.mem_append_left _ hrow, rfl, rfl, rfl⟩
      | ignored => exact ⟨row, hrow, rfl, rfl, rfl⟩
      | updated old hold =>
        by_cases hid : row.reservationId =
          (reservationRow c.projection e i.writeClock).reservationId
        · -- the row is the one that is updated
          have hsame : row = old := by
            have holdId := List.find?_some hold
            rw [decide_eq_true_eq] at holdId
            exact hdb.reservationIds.eq hrow (List.mem_of_find?_eq_some hold)
              (hid.trans holdId.symm)
          refine ⟨_, mem_updateWhere.mpr (.inr ⟨row, hrow, decide_eq_true hid, rfl⟩), ?_, ?_,
            ?_⟩ <;>
            rw [hsame]
        · exact ⟨row, mem_updateWhere.mpr (.inl ⟨hrow, decide_eq_false hid⟩), rfl, rfl, rfl⟩
  · intro e he hid
    obtain ⟨fence, hfence, hfenceId, hscope, -⟩ := h.fence he
    have hfenced := (hdb.fenced row hrow).mono h.fences_subset
    obtain ⟨fence', hfence', hid', -, hoperation, hkey, -⟩ := hfenced.fence
    obtain rfl : fence = fence' := by
      refine hdb'.fenceIds.eq hfence hfence' ?_
      rw [hfenceId, hid', hfenced.fenceId, hid]
    simp only [FenceRow.scope, Prod.mk.injEq] at hscope
    obtain ⟨-, -, -, hscopeOperation, hscopeKey⟩ := hscope
    exact ⟨hscopeOperation.symm.trans hoperation, hscopeKey.symm.trans hkey⟩

/-- **One side effect per idempotency scope**, over all runs and tenants and in every order of the
calls. -/
theorem one_side_effect (hs : Reachable AuthorityInit (AuthorityStep o) s) : OneSideEffect o s := by
  have hdb := fencesOk_reachable hs
  have hruns := runsOk_reachable hs
  constructor
  · intro row hrow
    obtain ⟨fence, hfence, hid, -⟩ := (hdb.fenced row hrow).fence
    exact ⟨_, fence, hfence, hid, rfl⟩
  · exact fun row hrow row' hrow' scope h h' => hdb.distinct hrow hrow' h h'
  · intro i run a fence admissionRef actionRef digest providerRef ownerRef key attempt lease nonce
      hadmits hcommand hrun ha hquiet hfence hscope hother
    -- a commit would need the scope
    have hnone : ∀ c db', ¬ Commits o s.db i c db' := by
      intro c db' hc
      have hc' : Commits o s.db i c (⟨db', []⟩ : AuthorityStateV1).db := hc
      have hloaded : c.loaded = run.projection := by
        rcases loadRun_eq_ok hc.loaded with ⟨row, hrow, hloaded⟩ | ⟨hnone, -⟩
        · rw [hrun] at hrow
          cases hrow
          exact hloaded.symm
        · rw [hrun] at hnone
          cases hnone
      obtain ⟨u, closure, v, -, -, -, -, -, -, -, htransition⟩ := hc'.runStep hruns hadmits
      rw [hloaded] at htransition
      have hrevokes : (i.runInput c.verifiedProofs (decide (Revokes o s.db i run.projection))
          closure).revokes = false := by
        simp [RunInputV1.revokes, TransactInputV1.runInput, hquiet]
      obtain ⟨e, he, haction, hkey⟩ := runTransition_reserves htransition hcommand hrevokes
      obtain ⟨a', e', he', -, hfrom⟩ := runTransition_reserved htransition
        (by rw [show (i.runInput _ _ _).command.command = _ from hcommand]; rfl) hrevokes
      obtain rfl : e = e' := Option.some.inj (he.symm.trans he')
      obtain rfl : a = a' := Option.some.inj (ha.symm.trans hfrom.admission)
      obtain ⟨hframe, hrunId⟩ := hc'.frame hruns hadmits
      have hfree := hc.scope_free (hdb.commit hc) he hfence (by
        have htenant : c.projection.tenantRef = run.projection.tenantRef :=
          hframe.tenantRef.trans (congrArg _ hloaded)
        rw [hscope, hfrom.operationRef, hkey, htenant])
      rw [hrunId, haction] at hfree
      rcases hother with hother | hother | hother
      · exact hother hfree.1
      · exact hother hfree.2.1
      · exact hother hfree.2.2
    unfold PostgresIdrOrchestratorV1.transact
    split
    next receipt checkpoint db' hcall =>
      rcases transactInner_eq_ok hcall with ⟨rfl, digest', row, -, hrow, -⟩ | ⟨c, hc, -⟩
      · refine ⟨rfl, fun hunanswered => ?_⟩
        rw [hunanswered] at hrow
        cases hrow
      · exact absurd hc (hnone c db')
    next error hcall => exact ⟨rfl, fun _ => ⟨error, rfl⟩⟩
  · intro i c db' hc hrevokes
    have hc' : Commits o s.db i c (⟨db', []⟩ : AuthorityStateV1).db := hc
    obtain ⟨closure, q, hw⟩ := hc'.withdrawn
    obtain ⟨hnone, -, -, hexecution⟩ := hw.revoked hrevokes
    have hmoved : Moved c.loaded.execution q.execution :=
      ⟨fun e => revokedState e.state, hexecution⟩
    rw [hw.closed.2.2]
    exact ⟨hnone, hmoved.closeAll closure⟩
  · exact fun i c db' hc row hrow => (hdb.commit hc).kept hc hdb hrow

end Commit

/-- The scopes of the sample run, where its permit is issued. -/
theorem one_side_effect_sample : ∃ s row e,
    Reachable AuthorityInit (@AuthorityStep Sample.shortCrypto Sample.orchestrator) s ∧
    row ∈ s.db.runs ∧ row.projection.execution = some e ∧ e.state = .permitIssued ∧
    @OneSideEffect Sample.shortCrypto Sample.orchestrator s := by
  obtain ⟨s, hs, hdelivers⟩ := Sample.permit_issued Sample.permitDelivery
  obtain ⟨hissued, -⟩ := Bool.and_eq_true_iff.mp hdelivers
  obtain ⟨row, hrow, -, e, he, hstate⟩ := Sample.withExecution_row hissued
  exact ⟨s, row, e, hs.of_restrict, hrow, he, of_decide_eq_true hstate,
    @one_side_effect Sample.shortCrypto _ s hs.of_restrict⟩

namespace Sample

section Calls

variable [Crypto]

def otherAction : AuthorityStateV1 → TransactInputV1 := called 18 owner (recordAction 6) id

def otherAdmission : AuthorityStateV1 → TransactInputV1 := called 19 owner admitAction id

def otherReservation (s : AuthorityStateV1) : TransactInputV1 :=
  lapsed (called 20 owner reserveExecution id s)

/-- The scope is fenced by another action, but the reservation is taken, as a revocation. -/
def revokesFenced (s : AuthorityStateV1) : Bool :=
  leadsTo s otherAction fun t => leadsTo t otherAdmission fun t =>
    let i := otherReservation t
    (projection t).actionAdmission.any (fun admission =>
      match i.command.command with
      | .reserveExecution _ actionRef _ _ _ key _ _ _ => t.db.fences.any fun fence =>
        fence.trustDomain = orchestrator.trustDomain &&
          fence.environmentRef = orchestrator.environmentRef &&
          fence.tenantRef = (projection t).tenantRef.asStr &&
          fence.operationRef = admission.operationRef.asStr && fence.idempotencyKey = key &&
          fence.firstActionRevision ≠ actionRef.revision
      | _ => false) &&
      leadsTo t otherReservation fun r => t.db.commandReceipts.length < r.db.commandReceipts.length

end Calls

set_option maxRecDepth 100000 in
def fencedRevocation : PermitScript (@revokesFenced shortCrypto) where
  inputs := @callsToPermit shortCrypto
  leads := by decide +kernel

end Sample

/-- **A fenced reservation that is a revocation** is taken: the bound admission does not verify
under the trust root of the call, and is withdrawn before the scope is looked at. -/
theorem fenced_reservation_revokes : ∃ (s : AuthorityStateV1) (i : TransactInputV1) (run : RunRow)
      (admission : ActionAdmissionProjectionV1) (fence : FenceRow)
      (admissionRef actionRef : AuthoritativeRecordRefV1) (digest : Text)
      (providerRef ownerRef : ReferenceV1) (key : Text) (attempt lease : Nat) (nonce : Text),
    Reachable AuthorityInit (@AuthorityStep Sample.shortCrypto Sample.orchestrator) s ∧
    s.admits i ∧ i.command.command = .reserveExecution admissionRef actionRef digest providerRef
      ownerRef key attempt lease nonce ∧
    run ∈ s.db.runs ∧ run.projection.actionAdmission = some admission ∧ fence ∈ s.db.fences ∧
    fence.scope = (Sample.orchestrator.trustDomain, Sample.orchestrator.environmentRef,
      run.projection.tenantRef.asStr, admission.operationRef.asStr, key) ∧
    fence.firstActionRevision ≠ actionRef.revision ∧
    (@PostgresIdrOrchestratorV1.transact Sample.shortCrypto Sample.orchestrator s.db i).1 ≠
      s.db := by
  obtain ⟨s, hs, hrevokes⟩ := Sample.permit_issued Sample.fencedRevocation
  obtain ⟨s₁, hs₁, hrevokes⟩ := isOkAnd_iff.mp hrevokes
  obtain ⟨t, ht, hrevokes⟩ := isOkAnd_iff.mp hrevokes
  have htreach := (hs.of_restrict.snoc hs₁).snoc ht
  simp only [Bool.and_eq_true, Option.any_eq_true] at hrevokes
  obtain ⟨⟨admission, hadmission, hfenced⟩, htaken⟩ := hrevokes
  obtain ⟨r, hr, hlength⟩ := isOkAnd_iff.mp htaken
  split at hfenced
  next admissionRef actionRef digest providerRef ownerRef key attempt lease nonce hcommand =>
    obtain ⟨fence, hfence, hscope⟩ := List.any_eq_true.mp hfenced
    simp only [Bool.and_eq_true, decide_eq_true_eq] at hscope
    obtain ⟨⟨⟨⟨⟨hdomain, henvironment⟩, htenant⟩, hoperation⟩, hkey⟩, hrevision⟩ := hscope
    -- a run with an admission is stored
    obtain ⟨run, hrun, hprojection⟩ : ∃ run ∈ t.db.runs, Sample.projection t = run.projection := by
      rw [Sample.projection] at hadmission ⊢
      rcases hrow : t.db.run Sample.runId with _ | row
      · rw [hrow] at hadmission
        cases hadmission
      · exact ⟨row, List.mem_of_find?_eq_some hrow, rfl⟩
    rw [hprojection] at hadmission htenant
    obtain ⟨hadmits, -⟩ := @authorityStep_cases Sample.shortCrypto _ _ _ _ hr
    refine ⟨t, _, run, admission, fence, admissionRef, actionRef, digest, providerRef,
      ownerRef, key, attempt, lease, nonce, htreach, hadmits, hcommand, hrun, hadmission, hfence,
      ?_, hrevision, ?_⟩
    · rw [FenceRow.scope, hdomain, henvironment, htenant, hoperation, hkey]
    · intro hsame
      have hdb := @authorityStep_db Sample.shortCrypto _ _ _ _ hr
      rw [hdb, hsame, decide_eq_true_eq] at hlength
      exact absurd hlength (Nat.lt_irrefl _)
  next => cases hfenced

end Idr
