/-
Idr/Authority/ExecutionRows.lean

The rows of an execution, once its authority is over.

Every commit of a run with an execution writes the reservation and the
attempt of that execution again.  The insert of the reservation runs the
guard for new reservations before it finds out that the row is there, so
once the authority of an execution is over no command of the run can be
committed, except one that reserves it anew (`late_command_persists_iff`).
-/
import Idr.Authority.IdempotencyScope
import Idr.Authority.CurrentLineage

namespace Idr

section Commit

variable [Crypto] {o : PostgresIdrOrchestratorV1} {i : TransactInputV1} {c : CommitV1}
  {s t : AuthorityStateV1} {e : ExecutionProjectionV1}

/-- The guard for new reservations raises for the window of the execution of the projection. -/
def WindowRaises (clock : Nat) (p : IdrRunProjectionV1) : Prop :=
  ∃ e, p.execution = some e ∧ (reservationRow p e clock).elapsed clock = true

/-- The call reserves an execution, under an authority that is not over at its write clock. -/
def ReservesOpen (o : PostgresIdrOrchestratorV1) (db : DatabaseV1) (i : TransactInputV1)
    (p : IdrRunProjectionV1) : Prop :=
  ¬ Revokes o db i p ∧ i.command.command.reserves = true ∧ ∃ a, p.actionAdmission = some a ∧
    authorityElapsed a.actionRef.validUntil a.admissionRef.validUntil a.authorizationValidUntil
      i.writeClock = false

/-- Where the guard raises, the tables of the execution are not written. -/
theorem persistExecution_windowRaises {attestation : AttestationRow} {clock : Nat}
    {p : IdrRunProjectionV1} {db : DatabaseV1} (h : WindowRaises clock p) :
    ∀ db', persistExecution attestation clock p db ≠ .ok db' := by
  intro db' hpersisted
  obtain ⟨e, he, helapsed⟩ := h
  obtain ⟨fences, reservations, attempts, -, -, hexecution⟩ := persistExecution_eq_ok hpersisted
  obtain ⟨-, -, hopen, -⟩ := hexecution e he
  rw [helapsed] at hopen
  cases hopen

omit [Crypto] in
/-- A transition that reserves nothing keeps the bounds of the execution. -/
theorem windowRaises_of_moved {p q : IdrRunProjectionV1} {clock : Nat} (he : p.execution = some e)
    (helapsed : authorityElapsed e.actionValidUntil e.admissionValidUntil e.authorizationValidUntil
      clock = true) (hmoved : Moved p.execution q.execution) : WindowRaises clock q := by
  obtain ⟨f, hmoved⟩ := hmoved
  refine ⟨e.withState (f e), ?_, helapsed⟩
  rw [hmoved, he]
  rfl

omit [Crypto] in
/-- What is reserved has the bounds of its admission. -/
theorem ReservedFrom.windowRaises {p q : IdrRunProjectionV1} {command : IdrCommandEnvelopeV1}
    {proofs : List VerifiedProductionProofV1} {a : ActionAdmissionProjectionV1} {clock : Nat}
    (h : ReservedFrom p command proofs a e) (he : q.execution = some e) :
    ¬ WindowRaises clock q ↔ authorityElapsed a.actionRef.validUntil a.admissionRef.validUntil
      a.authorizationValidUntil clock = false := by
  have hbounds : (reservationRow q e clock).elapsed clock =
      authorityElapsed a.actionRef.validUntil a.admissionRef.validUntil a.authorizationValidUntil
        clock := by
    show authorityElapsed e.actionValidUntil e.admissionValidUntil e.authorizationValidUntil
      clock = _
    rw [h.actionValidUntil, h.admissionValidUntil, h.authorizationValidUntil, h.actionRef,
      h.actionAdmissionRef]
  simp only [WindowRaises, he, Option.some.injEq, exists_eq_left', hbounds, Bool.not_eq_true]

/-- **When a late command is persisted.**  Let the authority of the stored execution be over at the
write clock, and the command be accepted: then the guard for new reservations raises, and nothing is
written, unless the command reserves an execution under an authority that is not over. -/
theorem late_command_persists_iff {db : DatabaseV1} {p : IdrRunProjectionV1}
    {proofs : List VerifiedProductionProofV1} {transition : IdrTransitionV1}
    (he : p.execution = some e)
    (helapsed : authorityElapsed e.actionValidUntil e.admissionValidUntil e.authorizationValidUntil
      i.writeClock = true)
    (haccepted : o.produceTransition db i p proofs = .ok transition) :
    (¬ WindowRaises i.writeClock transition.projection ↔ ReservesOpen o db i p) ∧
      (WindowRaises i.writeClock transition.projection → ∀ attestation db₁ db₂,
        persistExecution attestation i.writeClock transition.projection db₁ ≠ .ok db₂) := by
  refine ⟨?_, fun hraises _ _ => persistExecution_windowRaises hraises⟩
  obtain ⟨-, closure, htransition, hrevoked, -⟩ := produceTransition_eq_ok haccepted
  constructor
  · intro hopen
    rcases runTransition_execution htransition with hmoved | ⟨hquiet, hreserves, a, e', he', -, -,
      hfrom⟩
    · exact absurd (windowRaises_of_moved he helapsed hmoved) hopen
    · refine ⟨fun hrevokes => ?_, hreserves, a, hfrom.admission, (hfrom.windowRaises he').mp hopen⟩
      have hreverifies := (hrevoked hrevokes).1
      simp [RunInputV1.revokes, TransactInputV1.runInput, hrevokes, hreverifies] at hquiet
  · rintro ⟨hquiet, hreserves, a, ha, hopen⟩
    obtain ⟨a', e', he', -, hfrom⟩ := runTransition_reserved htransition hreserves
      (by simp [RunInputV1.revokes, TransactInputV1.runInput, hquiet])
    obtain rfl := Option.some.inj (ha.symm.trans hfrom.admission)
    exact (hfrom.windowRaises he').mpr hopen

end Commit

namespace Sample

section Calls

variable [Crypto]

/-- The expiry of the lease, after the authority of the reservation is over. -/
def lateExpiry : AuthorityStateV1 → TransactInputV1 := called 60000 owner expireExecutionLease id

/-- The late expiry is evaluated, but its reservation is refused. -/
def refusesLate (s : AuthorityStateV1) : Bool :=
  let i := lateExpiry s
  leadsTo s lateExpiry (fun t => t.db.commandReceipts.length = s.db.commandReceipts.length) &&
    withExecution s (fun e => (reservationRow (projection s) e i.writeClock).elapsed
      i.writeClock) &&
    isOkAnd (orchestrator.verifyProofsInsideTransaction i.command i.trustedNow i.trustRoot)
      fun proofs => isOkAnd (orchestrator.produceTransition s.db i (projection s) proofs)
        fun t => t.projection.execution.any fun e => e.state = .expired

end Calls

set_option maxRecDepth 100000 in
def lateExpiryRefused : PermitScript (@refusesLate shortCrypto) where
  inputs := @callsToPermit shortCrypto
  leads := by decide +kernel

end Sample

/-- The late expiry of the sample lease: the command is accepted, and no receipt is written. -/
theorem Sample.late_expiry : ∃ s i t row e id proofs transition,
    Reachable AuthorityInit (@AuthorityStep shortCrypto orchestrator) s ∧
    @AuthorityStep shortCrypto orchestrator s i t ∧
    t.db.commandReceipts.length = s.db.commandReceipts.length ∧
    row ∈ s.db.runs ∧ row.runId = i.command.runId ∧ row.projection.execution = some e ∧
    authorityElapsed e.actionValidUntil e.admissionValidUntil e.authorizationValidUntil
      i.writeClock = true ∧
    i.command.command = .expireExecutionLease id ∧
    @PostgresIdrOrchestratorV1.produceTransition shortCrypto orchestrator s.db i row.projection
      proofs = .ok transition := by
  let crypto := shortCrypto
  obtain ⟨s, hs, hlate⟩ := permit_issued lateExpiryRefused
  simp only [refusesLate, Bool.and_eq_true] at hlate
  obtain ⟨⟨hstep, hexecution⟩, haccepted⟩ := hlate
  obtain ⟨t, ht, hsame⟩ := isOkAnd_iff.mp hstep
  rcases hrow : s.db.run runId with _ | row
  · rw [withExecution, projection, hrow] at hexecution
    cases hexecution
  have hprojection : projection s = row.projection := by
    rw [projection, hrow]
    rfl
  obtain ⟨e, he, helapsed⟩ := (Option.any_eq_true _ _).mp hexecution
  obtain ⟨proofs, -, haccepted⟩ := isOkAnd_iff.mp haccepted
  obtain ⟨transition, htransition, -⟩ := isOkAnd_iff.mp haccepted
  obtain ⟨hcommand, hrun⟩ := call_command (s.db.commandReceipts.length + 1) 60000
    (envelope (projection s).aggregateVersion owner (expireExecutionLease (projection s)))
  obtain ⟨hmem, hid⟩ := run_eq_some hrow
  exact ⟨s, lateExpiry s, t, row, e, _, proofs, transition, hs.of_restrict, ht,
    of_decide_eq_true hsame, hmem, hid.trans hrun.symm, hprojection ▸ he, helapsed, hcommand,
    hprojection ▸ htransition⟩

/-- **A late expiry is refused**: the command is accepted, but the guard for new reservations raises
for the window of the execution that it ends. -/
theorem late_expiry_refused : ∃ s i t row e id proofs transition,
    Reachable AuthorityInit (@AuthorityStep Sample.shortCrypto Sample.orchestrator) s ∧
    @AuthorityStep Sample.shortCrypto Sample.orchestrator s i t ∧ t.db = s.db ∧
    row ∈ s.db.runs ∧ row.runId = i.command.runId ∧ row.projection.execution = some e ∧
    authorityElapsed e.actionValidUntil e.admissionValidUntil e.authorizationValidUntil
      i.writeClock = true ∧
    i.command.command = .expireExecutionLease id ∧
    @PostgresIdrOrchestratorV1.produceTransition Sample.shortCrypto Sample.orchestrator s.db i
      row.projection proofs = .ok transition ∧
    WindowRaises i.writeClock transition.projection := by
  let crypto := Sample.shortCrypto
  obtain ⟨s, i, t, row, e, id, proofs, transition, hs, ht, hsame, hrow, hid, he, helapsed, hcommand,
    haccepted⟩ := Sample.late_expiry
  refine ⟨s, i, t, row, e, id, proofs, transition, hs, ht, ?_, hrow, hid, he, helapsed, hcommand,
    haccepted, ?_⟩
  · obtain ⟨-, -, hdb | ⟨c, hc⟩⟩ := authorityStep_cases ht
    · exact hdb
    · rw [hc.commandReceipts, List.length_append] at hsame
      simp at hsame
  · obtain ⟨-, closure, htransition, -⟩ := produceTransition_eq_ok haccepted
    rcases runTransition_execution htransition with hmoved | ⟨-, hreserves, -⟩
    · exact windowRaises_of_moved he helapsed hmoved
    · simp only [TransactInputV1.runInput, hcommand] at hreserves
      cases hreserves

/-- The late expiry of the sample lease reserves nothing. -/
theorem late_command_persists_sample : ∃ s i row e proofs transition,
    Reachable AuthorityInit (@AuthorityStep Sample.shortCrypto Sample.orchestrator) s ∧
    row ∈ s.db.runs ∧ row.projection.execution = some e ∧
    @PostgresIdrOrchestratorV1.produceTransition Sample.shortCrypto Sample.orchestrator s.db i
      row.projection proofs = .ok transition ∧
    (¬ WindowRaises i.writeClock transition.projection ↔
      @ReservesOpen Sample.shortCrypto Sample.orchestrator s.db i row.projection) := by
  let crypto := Sample.shortCrypto
  obtain ⟨s, i, t, row, e, id, proofs, transition, hs, -, -, hrow, -, he, helapsed, -, haccepted⟩ :=
    Sample.late_expiry
  exact ⟨s, i, row, e, proofs, transition, hs, hrow, he, haccepted,
    (late_command_persists_iff he helapsed haccepted).1⟩

end Idr
