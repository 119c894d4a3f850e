/-
Idr/Authority/Refinement.lean

The authority refines the transition systems of its runs.

Every row of a run holds the projection of a reachable state of
`Idr.TrustChain.Run`, and a commit on a run is a step of that system whose
closure is the one that the stored dependencies give (`Commits.runStep`).
So what holds of every reachable state of one run holds of every stored
projection, in every order of the calls of all runs and tenants
(`runsOk_reachable`).
-/
import Idr.Authority.Commit

namespace Idr

/-! ### The closure of a transition -/

/-- The record whose closure a transition is followed by, and whether it closes the run: the one an
invalidation names, or the one a new revision replaces. -/
def closureRoot (projection : IdrRunProjectionV1) (command : IdrCommandV1)
    (issued : Option AuthoritativeRecordV1) : Option (AuthoritativeRecordRefV1 × Bool) :=
  match command with
  | .invalidateRecord recordRef _ => some (recordRef, true)
  | command =>
    ((command.expectedCandidateKind.bind projection.records).filter fun previous =>
      issued.any fun record => record.recordRef.candidateKind = previous.candidateKind
        ∧ record.recordRef ≠ previous).map fun previous => (previous, false)

theorem closureRoot_of_ne {projection : IdrRunProjectionV1} {command : IdrCommandV1}
    {issued : Option AuthoritativeRecordV1}
    (h : ∀ recordRef reason, command = .invalidateRecord recordRef reason → False) :
    closureRoot projection command issued =
      ((command.expectedCandidateKind.bind projection.records).filter fun previous =>
        issued.any fun record => record.recordRef.candidateKind = previous.candidateKind
          ∧ record.recordRef ≠ previous).map fun previous => (previous, false) := by
  unfold closureRoot
  split
  · exact absurd rfl (h _ _)
  · rfl

section Closure

variable [Crypto] {p : IdrRunProjectionV1} {command : IdrCommandEnvelopeV1} {now : Nat}
  {proofs : List VerifiedProductionProofV1} {fresh : FreshIdsV1} {t : IdrTransitionV1}
  {load : AuthoritativeRecordRefV1 → Except IdrRuntimeErrorV1 (List AuthoritativeRecordRefV1)}

/-- An evaluated transition is that of the evaluator with the closure of its root. -/
theorem evaluatedTransition_eq_ok :
    evaluatedTransition load fresh p command now proofs = .ok t ↔
      ∃ t₀, evaluateAuthoritativeTransitionV1 fresh p command now proofs = .ok t₀ ∧
        match closureRoot p command.command t₀.authoritativeRecord with
        | none => t₀ = t
        | some (root, invalidateRun) => ∃ closure, load root = .ok closure ∧
          { t₀ with projection :=
              applyRepositoryInvalidationClosure t₀.projection closure invalidateRun } = t := by
  simp only [evaluatedTransition, bind_eq_ok]
  refine exists_congr fun t₀ => and_congr_right fun _ => ?_
  split
  next recordRef reason hcommand =>
    rw [hcommand]
    simp only [closureRoot, bind_eq_ok, Except.ok.injEq]
  next hother =>
    rw [closureRoot_of_ne hother]
    rcases hprevious : command.command.expectedCandidateKind.bind p.records with _ | previous
    · simp
    · simp only [Option.filter_some]
      split <;> simp

/-- The closure of the root, where there is one. -/
def LoadedBy (load : AuthoritativeRecordRefV1 →
      Except IdrRuntimeErrorV1 (List AuthoritativeRecordRefV1)) (p : IdrRunProjectionV1)
    (command : IdrCommandV1) (issued : Option AuthoritativeRecordV1)
    (closure : List AuthoritativeRecordRefV1) : Prop :=
  ∀ root invalidateRun, closureRoot p command issued = some (root, invalidateRun) →
    load root = .ok closure

/-- The transition depends on the repository only through the closure it loads. -/
theorem evaluatedTransition_load
    (h : evaluatedTransition load fresh p command now proofs = .ok t) :
    ∃ closure, LoadedBy load p command.command t.authoritativeRecord closure ∧
      evaluatedTransition (fun _ => .ok closure) fresh p command now proofs = .ok t := by
  obtain ⟨t₀, ht₀, h⟩ := evaluatedTransition_eq_ok.mp h
  rcases hroot : closureRoot p command.command t₀.authoritativeRecord with _ | ⟨root, run⟩ <;>
    rw [hroot] at h
  · subst h
    refine ⟨[], fun root run hr => ?_, evaluatedTransition_eq_ok.mpr ⟨t₀, ht₀, ?_⟩⟩
    · rw [hroot] at hr
      cases hr
    · rw [hroot]
  · obtain ⟨closure, hload, rfl⟩ := h
    refine ⟨closure, fun root' run' hr => ?_, evaluatedTransition_eq_ok.mpr ⟨t₀, ht₀, ?_⟩⟩
    · rw [hroot] at hr
      cases hr
      exact hload
    · rw [hroot]
      exact ⟨closure, rfl, rfl⟩

omit [Crypto] in
theorem revokedTransition_load (h : revokedTransition load p command proofs = .ok t) :
    ∃ admission closure, p.actionAdmission = some admission ∧
      load admission.admissionRef = .ok closure ∧
      revokedTransition (fun _ => .ok closure) p command proofs = .ok t := by
  simp only [revokedTransition, bind_eq_ok, okOr_eq_ok] at h
  obtain ⟨admission, hadmission, closure, hload, h⟩ := h
  refine ⟨admission, closure, hadmission, hload, ?_⟩
  simp only [revokedTransition, bind_eq_ok, okOr_eq_ok, hadmission]
  exact ⟨admission, rfl, closure, rfl, h⟩

end Closure

section Commit

variable [Crypto] {o : PostgresIdrOrchestratorV1} {db db' : DatabaseV1} {i : TransactInputV1}
  {c : CommitV1}

/-! ### A commit as a step of its run -/

/-- The bound admission is revoked: one of its proofs does not verify again. -/
def Revokes (o : PostgresIdrOrchestratorV1) (db : DatabaseV1) (i : TransactInputV1)
    (p : IdrRunProjectionV1) : Prop :=
  o.reverifyBoundActionAdmissionProofs db p i.command i.trustedNow i.trustRoot =
    .error .actionNotAdmitted

instance (o : PostgresIdrOrchestratorV1) (db : DatabaseV1) (i : TransactInputV1)
    (p : IdrRunProjectionV1) : Decidable (Revokes o db i p) := by
  unfold Revokes
  infer_instance

/-- The input of the run of a call. -/
def TransactInputV1.runInput (i : TransactInputV1) (verifiedProofs : List VerifiedProductionProofV1)
    (admissionRevoked : Bool) (closure : List AuthoritativeRecordRefV1) : RunInputV1 where
  fresh := i.fresh
  command := i.command
  trustedNow := i.trustedNow
  verifiedProofs := verifiedProofs
  admissionRevoked := admissionRevoked
  closure := closure

/-- Proofs that verify again are those of an admission that is there. -/
theorem reverify_eq_ok {p : IdrRunProjectionV1} {u : Unit}
    (h : o.reverifyBoundActionAdmissionProofs db p i.command i.trustedNow i.trustRoot = .ok u)
    (hreverifies : reverifiesAdmission i.command.command = true) :
    ∃ admission, p.actionAdmission = some admission ∧
      admission.proofBindings.length = actionAdmissionProofKindsV1.length ∧
      ∀ kind ∈ actionAdmissionProofKindsV1,
        o.reverifyBoundProof db admission i.command i.trustedNow i.trustRoot kind = .ok () := by
  rw [PostgresIdrOrchestratorV1.reverifyBoundActionAdmissionProofs, if_pos hreverifies] at h
  simp only [bind_eq_ok, okOr_eq_ok, rejectIf_eq_ok, exists_const, not_or, not_not,
    forM_eq_ok] at h
  obtain ⟨admission, hadmission, ⟨hlength, -⟩, hkinds⟩ := h
  exact ⟨admission, hadmission, hlength, hkinds⟩

theorem reverify_quiet {p : IdrRunProjectionV1}
    (h : reverifiesAdmission i.command.command = false) :
    o.reverifyBoundActionAdmissionProofs db p i.command i.trustedNow i.trustRoot = .ok () := by
  rw [PostgresIdrOrchestratorV1.reverifyBoundActionAdmissionProofs, if_neg (by simp [h])]

/-- **A produced transition** is the transition of the run, with the closure of the database. -/
theorem produceTransition_eq_ok {p : IdrRunProjectionV1} {t : IdrTransitionV1}
    {proofs : List VerifiedProductionProofV1}
    (h : o.produceTransition db i p proofs = .ok t) :
    checkProofReplay db i.command proofs o.trustDomain = .ok () ∧
    ∃ closure, runTransition p (i.runInput proofs (decide (Revokes o db i p)) closure) = .ok t ∧
      (Revokes o db i p → reverifiesAdmission i.command.command = true ∧
        ∃ admission, p.actionAdmission = some admission ∧
          loadRecursiveInvalidationClosure db admission.admissionRef = .ok closure) ∧
      (¬ Revokes o db i p → LoadedBy (loadRecursiveInvalidationClosure db) p i.command.command
        t.authoritativeRecord closure) := by
  simp only [PostgresIdrOrchestratorV1.produceTransition, bind_eq_ok, exists_unit_eq_ok] at h
  obtain ⟨hreplay, h⟩ := h
  refine ⟨hreplay, ?_⟩
  split at h
  next hok =>
    have hrevokes : ¬ Revokes o db i p := by
      intro hr
      rw [Revokes, hok] at hr
      cases hr
    obtain ⟨closure, hloaded, h⟩ := evaluatedTransition_load h
    refine ⟨closure, ?_, fun hr => absurd hr hrevokes, fun _ => hloaded⟩
    rw [runTransition_eq_ok]
    refine ⟨fun hreverifies => ?_, ?_⟩
    · obtain ⟨admission, hadmission, -⟩ := reverify_eq_ok hok hreverifies
      rw [hadmission]
      rfl
    · rw [if_neg (by simp [RunInputV1.revokes, TransactInputV1.runInput, hrevokes])]
      exact h
  next hrevoked =>
    have hrevokes : Revokes o db i p := hrevoked
    have hreverifies : reverifiesAdmission i.command.command = true := by
      by_contra hno
      rw [Revokes, reverify_quiet (Bool.not_eq_true _ ▸ hno)] at hrevokes
      cases hrevokes
    obtain ⟨admission, closure, hadmission, hload, h⟩ := revokedTransition_load h
    refine ⟨closure, ?_, fun _ => ⟨hreverifies, admission, hadmission, hload⟩,
      fun hno => absurd hrevokes hno⟩
    rw [runTransition_eq_ok]
    refine ⟨fun _ => by simp [hadmission], ?_⟩
    rw [if_pos (by simpa [RunInputV1.revokes, TransactInputV1.runInput, hrevokes]
      using hreverifies)]
    exact h
  next => cases h

/-! ### Rows of runs -/

/-- **A row of a run** repeats its projection, which is one that the run system reaches. -/
structure RunRowOk (o : PostgresIdrOrchestratorV1) (drawn : List Uuid) (row : RunRow) : Prop where
  runId : row.projection.runId = row.runId
  trustDomain : row.trustDomain = o.trustDomain
  environmentRef : row.environmentRef = o.environmentRef
  projectionDomain : row.projection.trustDomain = o.trustDomain
  projectionEnvironment : row.projection.environmentRef = o.environmentRef
  tenantRef : row.projection.tenantRef.asStr = row.tenantRef
  aggregateVersion : row.projection.aggregateVersion = row.aggregateVersion
  digest : projectionDigestV1 row.projection = .ok row.projectionDigest
  refined : ∃ s, Reachable RunInit RunStep s ∧ s.projection = row.projection ∧
    s.clock ≤ epochSeconds row.updatedAt ∧ ∀ id ∈ s.drawn, id ∈ drawn

/-- The rows of the runs. -/
structure RunsOk (o : PostgresIdrOrchestratorV1) (s : AuthorityStateV1) : Prop where
  unique : UniqueBy RunRow.runId s.db.runs
  rows : ∀ row ∈ s.db.runs, RunRowOk o s.drawn row

/-- The projection a command is applied to is stored, or pending. -/
theorem loadRun_eq_ok {command : IdrCommandEnvelopeV1} {p : IdrRunProjectionV1}
    (h : o.loadRun db command = .ok p) :
    (∃ row, db.run command.runId = some row ∧ row.projection = p) ∨
      db.run command.runId = none ∧ (∃ input, command.command = .startRun input) ∧
        command.expectedAggregateVersion = 0 ∧
        p = .pending o.trustDomain o.environmentRef command.runId command.tenantRef := by
  unfold PostgresIdrOrchestratorV1.loadRun at h
  rcases hrow : db.run command.runId with _ | row <;> rw [hrow] at h
  · right
    dsimp only at h
    split at h
    next input hcommand =>
      split at h
      case isTrue hversion =>
        cases h
        exact ⟨rfl, ⟨input, hcommand⟩, hversion, rfl⟩
      case isFalse => cases h
    next => cases h
  · left
    simp only [bind_eq_ok, Except.ok.injEq] at h
    obtain ⟨-, -, -, -, rfl⟩ := h
    exact ⟨row, rfl, rfl⟩

omit [Crypto] in
theorem run_eq_some {row : RunRow} {runId : Uuid} (h : db.run runId = some row) :
    row ∈ db.runs ∧ row.runId = runId :=
  ⟨List.mem_of_find?_eq_some h, by simpa using List.find?_some h⟩

/-- **The state of the run system that a commit starts from.** -/
theorem Commits.loadedState {s t : AuthorityStateV1} (hs : RunsOk o s) (hadmits : s.admits i)
    (h : Commits o s.db i c t.db) :
    c.loaded.runId = i.command.runId ∧ c.loaded.trustDomain = o.trustDomain ∧
      c.loaded.environmentRef = o.environmentRef ∧
    ∃ u, Reachable RunInit RunStep u ∧ u.projection = c.loaded ∧ u.clock ≤ i.trustedNow ∧
      ∀ id ∈ u.drawn, id ∈ s.drawn := by
  rcases loadRun_eq_ok h.loaded with ⟨row, hrow, hloaded⟩ | ⟨-, -, -, hloaded⟩
  · obtain ⟨hmem, hid⟩ := run_eq_some hrow
    have hok := hs.rows row hmem
    obtain ⟨u, hu, hprojection, hclock, hdrawn⟩ := hok.refined
    rw [← hloaded]
    refine ⟨hok.runId.trans hid, hok.projectionDomain, hok.projectionEnvironment, u, hu,
      hprojection, ?_, hdrawn⟩
    exact hclock.trans (epochSeconds_mono (hadmits.1 row hmem hid))
  · rw [hloaded]
    exact ⟨rfl, rfl, rfl, ⟨.pending o.trustDomain o.environmentRef i.command.runId
      i.command.tenantRef, 0, []⟩, .of_init ⟨_, _, _, _, rfl⟩, rfl, Nat.zero_le _,
      fun _ hid => (by cases hid)⟩

/-- **A commit is a step of its run.** -/
theorem Commits.runStep {s t : AuthorityStateV1} (hs : RunsOk o s) (hadmits : s.admits i)
    (h : Commits o s.db i c t.db) :
    ∃ u closure v, Reachable RunInit RunStep u ∧ u.projection = c.loaded ∧
      RunStep u (i.runInput c.verifiedProofs (decide (Revokes o s.db i c.loaded)) closure) v ∧
      v.projection = c.projection ∧ v.clock = i.trustedNow ∧ v.drawn = i.fresh.ids ++ u.drawn ∧
      (∀ id ∈ u.drawn, id ∈ s.drawn) ∧
      runTransition c.loaded
        (i.runInput c.verifiedProofs (decide (Revokes o s.db i c.loaded)) closure) =
          .ok c.transition := by
  obtain ⟨-, -, -, u, hu, hprojection, hclock, hdrawn⟩ := h.loadedState hs hadmits
  obtain ⟨-, closure, htransition, -, -⟩ := produceTransition_eq_ok h.produced
  obtain ⟨-, -, hnodup, hnew, -⟩ := hadmits
  refine ⟨u, closure, ⟨c.projection, i.trustedNow, i.fresh.ids ++ u.drawn⟩, hu, hprojection,
    ?_, rfl, rfl, rfl, hdrawn, htransition⟩
  have henvironment : environmentAdmits u
      (i.runInput c.verifiedProofs (decide (Revokes o s.db i c.loaded)) closure) := by
    refine ⟨hclock, hnodup, ?_⟩
    rw [List.all_eq_true] at hnew ⊢
    intro id hid
    have hid := hnew id hid
    simp only [List.contains_eq_mem, Bool.not_eq_true', decide_eq_false_iff_not] at hid ⊢
    exact fun hmem => hid (hdrawn id hmem)
  simp only [RunStep, Idr.runStep, bind_eq_ok, require_eq_ok, exists_const, Except.ok.injEq]
  refine ⟨henvironment, c.transition, ?_, rfl⟩
  rw [hprojection]
  exact htransition

/-- What a step leaves of the identity of its run, and how it counts. -/
theorem Commits.frame {s t : AuthorityStateV1} (hs : RunsOk o s) (hadmits : s.admits i)
    (h : Commits o s.db i c t.db) :
    StepFrame c.loaded c.transition ∧ c.projection.runId = i.command.runId := by
  obtain ⟨_, _, _, -, -, -, -, -, -, -, htransition⟩ := h.runStep hs hadmits
  have hframe := (runTransition_records htransition).1
  exact ⟨hframe, hframe.runId.trans (h.loadedState hs hadmits).1⟩

/-! ### The rows after a commit -/

/-- **The rows of the runs after a commit**: those of the other runs as they were, and the one of
the run of the command with the projection of the transition. -/
theorem Commits.mem_runs {s t : AuthorityStateV1} (hs : RunsOk o s) (hadmits : s.admits i)
    (h : Commits o s.db i c t.db) {row : RunRow} (hrow : row ∈ t.db.runs) :
    (row ∈ s.db.runs ∧ row.runId ≠ i.command.runId) ∨
      row.runId = i.command.runId ∧ row.projection = c.projection ∧
        row.trustDomain = o.trustDomain ∧ row.environmentRef = o.environmentRef ∧
        row.tenantRef = c.projection.tenantRef.asStr ∧
        row.aggregateVersion = c.projection.aggregateVersion ∧
        row.projectionDigest = c.projectionDigest ∧ row.updatedAt = i.writeClock := by
  obtain ⟨hframe, hid⟩ := h.frame hs hadmits
  have hruns := h.runs
  generalize t.db.runs = runs at hrow hruns
  cases hruns with
  | inserted hnew =>
    rcases List.mem_append.mp hrow with hrow | hrow
    · exact .inl ⟨hrow, by rw [← hid]; exact hnew row hrow⟩
    · rw [List.mem_singleton.mp hrow]
      exact .inr ⟨hid, rfl, h.runDomain, h.runEnvironment, rfl, rfl, rfl, rfl⟩
  | updated old hold hdomain henvironment hversion =>
    rcases mem_updateWhere.mp hrow with ⟨hrow, hne⟩ | ⟨row', -, -, rfl⟩
    · exact .inl ⟨hrow, by rw [← hid]; exact of_decide_eq_false hne⟩
    · -- the stored row is the one the command was applied to
      have hmem := List.mem_of_find?_eq_some hold
      have hrun : old.runId = c.projection.runId := by simpa using List.find?_some hold
      have htenant : old.tenantRef = c.projection.tenantRef.asStr := by
        have hload : s.db.run i.command.runId = some old := by
          rw [← hid]
          exact hold
        rcases loadRun_eq_ok h.loaded with ⟨row, hrow, hloaded⟩ | ⟨hnone, -⟩
        · rw [hload] at hrow
          cases hrow
          rw [← (hs.rows old hmem).tenantRef, hloaded]
          exact congrArg _ hframe.tenantRef.symm
        · rw [hload] at hnone
          cases hnone
      exact .inr ⟨hrun.trans hid, rfl, hdomain.trans h.runDomain,
        henvironment.trans h.runEnvironment, htenant, rfl, rfl, rfl⟩

theorem RunRowOk.mono {drawn drawn' : List Uuid} {row : RunRow} (h : RunRowOk o drawn row)
    (hle : ∀ id ∈ drawn, id ∈ drawn') : RunRowOk o drawn' row := by
  obtain ⟨u, hu, hprojection, hclock, hdrawn⟩ := h.refined
  exact { h with refined := ⟨u, hu, hprojection, hclock, fun id hid => hle id (hdrawn id hid)⟩ }

theorem Commits.runsOk {s t : AuthorityStateV1} (hs : RunsOk o s) (hadmits : s.admits i)
    (hdrawn : t.drawn = i.fresh.ids ++ s.drawn) (h : Commits o s.db i c t.db) : RunsOk o t := by
  constructor
  · have hruns := h.runs
    generalize t.db.runs = runs at hruns ⊢
    cases hruns with
    | inserted hnew =>
      exact hs.unique.insert hnew
    | updated old hold =>
      refine hs.unique.updateWhere fun row _ hrow => ?_
      have hid : old.runId = c.projection.runId := by simpa using List.find?_some hold
      exact hid.trans (of_decide_eq_true hrow).symm
  · intro row hrow
    rcases h.mem_runs hs hadmits hrow with ⟨hrow, -⟩ |
      ⟨hid, hprojection, hdomain, henvironment, htenant, hversion, hdigest, hclock⟩
    · refine (hs.rows row hrow).mono fun id hid => ?_
      rw [hdrawn]
      exact List.mem_append_right _ hid
    · obtain ⟨u, closure, v, hu, -, hstep, hv, hvclock, hvdrawn, hsub, -⟩ := h.runStep hs hadmits
      obtain ⟨-, hrunId⟩ := h.frame hs hadmits
      exact {
        runId := by rw [hprojection, hrunId, hid]
        trustDomain := hdomain
        environmentRef := henvironment
        projectionDomain := by rw [hprojection, h.runDomain]
        projectionEnvironment := by rw [hprojection, h.runEnvironment]
        tenantRef := by rw [hprojection, htenant]
        aggregateVersion := by rw [hprojection, hversion]
        digest := by rw [hprojection, hdigest, h.projectionDigest]
        refined := by
          refine ⟨v, hu.snoc hstep, hv.trans hprojection.symm, ?_, ?_⟩
          · rw [hvclock, hclock]
            exact epochSeconds_mono hadmits.2.1
          · rw [hvdrawn, hdrawn]
            intro id hid
            rcases List.mem_append.mp hid with hid | hid
            · exact List.mem_append_left _ hid
            · exact List.mem_append_right _ (hsub id hid) }

theorem RunsOk.quiet {s t : AuthorityStateV1} (hs : RunsOk o s) (hdb : t.db = s.db)
    (hdrawn : t.drawn = i.fresh.ids ++ s.drawn) : RunsOk o t := by
  constructor
  · rw [hdb]
    exact hs.unique
  · intro row hrow
    rw [hdb] at hrow
    refine (hs.rows row hrow).mono fun id hid => ?_
    rw [hdrawn]
    exact List.mem_append_right _ hid

/-- **The refinement.**  In every state that the authority reaches, each stored projection is the
projection of a reachable state of the run system. -/
theorem runsOk_reachable {s : AuthorityStateV1}
    (h : Reachable AuthorityInit (AuthorityStep o) s) : RunsOk o s := by
  refine h.invariant ?_ ?_
  · intro s hinit
    rw [AuthorityInit] at hinit
    exact ⟨by rw [hinit]; exact .nil _, fun row hrow => by rw [hinit] at hrow; cases hrow⟩
  · intro s i t hs hstep
    obtain ⟨hadmits, hdrawn, hdb | ⟨c, hc⟩⟩ := authorityStep_cases hstep
    · exact hs.quiet hdb hdrawn
    · exact hc.runsOk hs hadmits hdrawn

/-- **Invariants of the database.**  What holds of the empty schema and is kept by commits holds in
every state that the authority reaches. -/
theorem database_invariant {P : DatabaseV1 → Prop} (hempty : P .empty)
    (hcommit : ∀ (s : AuthorityStateV1) (i : TransactInputV1) (c : CommitV1) (t : AuthorityStateV1),
      Reachable AuthorityInit (AuthorityStep o) s → RunsOk o s → s.admits i →
        Commits o s.db i c t.db → P s.db → P t.db)
    {s : AuthorityStateV1} (h : Reachable AuthorityInit (AuthorityStep o) s) : P s.db := by
  refine h.invariant_with (P := fun s => P s.db) ?_ ?_
  · intro s hinit
    rw [show s.db = .empty from hinit]
    exact hempty
  · intro s i t hs hP hstep
    obtain ⟨hadmits, -, hdb | ⟨c, hc⟩⟩ := authorityStep_cases hstep
    · rw [hdb]
      exact hP
    · exact hcommit s i c t hs (runsOk_reachable hs) hadmits hc hP

/-! ### Rows that stay -/

/-- The rows of the tables that are only inserted into. -/
structure Extends (db db' : DatabaseV1) : Prop where
  attestations : ∀ row ∈ db.attestations, row ∈ db'.attestations
  contractRecords : ∀ row ∈ db.contractRecords, row ∈ db'.contractRecords
  contractDependencies : ∀ row ∈ db.contractDependencies, row ∈ db'.contractDependencies
  proofEnvelopes : ∀ row ∈ db.proofEnvelopes, row ∈ db'.proofEnvelopes
  proofConsumptions : ∀ row ∈ db.proofConsumptions, row ∈ db'.proofConsumptions
  auditEvents : ∀ row ∈ db.auditEvents, row ∈ db'.auditEvents
  commandReceipts : ∀ row ∈ db.commandReceipts, row ∈ db'.commandReceipts
  auditCheckpoints : ∀ row ∈ db.auditCheckpoints, row ∈ db'.auditCheckpoints

omit [Crypto] in
theorem Extends.refl (db : DatabaseV1) : Extends db db := by
  constructor <;> exact fun _ h => h

omit [Crypto] in
theorem Extends.trans {db₁ db₂ db₃ : DatabaseV1} (h : Extends db₁ db₂) (h' : Extends db₂ db₃) :
    Extends db₁ db₃ where
  attestations row hrow := h'.attestations row (h.attestations row hrow)
  contractRecords row hrow := h'.contractRecords row (h.contractRecords row hrow)
  contractDependencies row hrow := h'.contractDependencies row (h.contractDependencies row hrow)
  proofEnvelopes row hrow := h'.proofEnvelopes row (h.proofEnvelopes row hrow)
  proofConsumptions row hrow := h'.proofConsumptions row (h.proofConsumptions row hrow)
  auditEvents row hrow := h'.auditEvents row (h.auditEvents row hrow)
  commandReceipts row hrow := h'.commandReceipts row (h.commandReceipts row hrow)
  auditCheckpoints row hrow := h'.auditCheckpoints row (h.auditCheckpoints row hrow)

/-- The attestation of a commit is inserted, and verifies. -/
theorem Commits.attestation (h : Commits o db i c db') :
    db'.attestations = db.attestations ++ [c.attestation] ∧
      c.attestation.commandId = i.command.commandId ∧
      o.verifyAttestationRow c.attestation = .ok c.attestation.attestationId := by
  obtain ⟨pre, digest, hattested⟩ := h.attested
  obtain ⟨hdb, hid, -, -, -, hcommand, -, -, -, hverify⟩ := openAttestation_eq_ok hattested
  exact ⟨congrArg DatabaseV1.attestations hdb, hcommand, by rw [hid, hverify]⟩

theorem Commits.extends (h : Commits o db i c db') : Extends db db' where
  attestations row hrow := by
    rw [h.attestation.1]
    exact List.mem_append_left _ hrow
  contractRecords row hrow := by
    rw [h.records]
    exact List.mem_append_left _ hrow
  contractDependencies row hrow := by
    rw [h.dependencies]
    exact List.mem_append_left _ hrow
  proofEnvelopes row hrow := by
    rw [h.proofEnvelopes]
    exact List.mem_append_left _ hrow
  proofConsumptions row hrow := by
    rw [h.proofConsumptions]
    exact List.mem_append_left _ hrow
  auditEvents row hrow := by
    rw [h.auditEvents]
    exact List.mem_append_left _ hrow
  commandReceipts row hrow := by
    rw [h.commandReceipts]
    exact List.mem_append_left _ hrow
  auditCheckpoints row hrow := by
    rw [h.auditCheckpoints]
    exact List.mem_append_left _ hrow

/-- **No run removes a row** of these tables. -/
theorem authorityRun_extends {s t : AuthorityStateV1} {is : List TransactInputV1}
    (h : Run (AuthorityStep o) s is t) : Extends s.db t.db := by
  refine h.preserves (P := fun u => Extends s.db u.db) ?_ (.refl s.db)
  intro u i v hu hstep
  obtain ⟨-, -, hdb | ⟨c, hc⟩⟩ := authorityStep_cases hstep
  · rw [hdb]
    exact hu
  · exact hu.trans hc.extends

end Commit

/-! ### A sample authority

The calls that the counterexamples and the examples of use below share: the commands of the sample
run, each with signed proofs, under a trust root with one key. -/

namespace Sample

def issuer : ReferenceV1 := ⟨"issuer:test", by decide +kernel⟩
def audience : ReferenceV1 := ⟨"audience:test", by decide +kernel⟩
def keyRef : ReferenceV1 := ⟨"key:test", by decide +kernel⟩

/-- The kinds of the proofs that the sample issuer signs. -/
def signedKinds : List ProductionProofKindV1 :=
  [.callerAuthentication, .inputAdmission, .contextSnapshot, .intentFastPathAdmission,
    .decisionNecessityAdmission, .turnCoordinationAdmission, .authority, .capability, .policy,
    .exactAuthorization, .actionAdmission, .executionPermit, .providerReceipt]

def orchestrator : PostgresIdrOrchestratorV1 where
  trustDomain := .shadow
  environmentRef := environment
  audienceRef := audience
  expectedIssuers := signedKinds.map fun kind => (kind, issuer)
  attestationKey := List.replicate 32 7
  attestationKeyVersion := 1

def trustRoot : TrustRootSnapshotV1 where
  trustDomain := .shadow
  environmentRef := environment
  rootVersion := 1
  rootDigest := zeroDigest
  loadedAt := 1
  keys := [(keyRef.asStr, {
    trustDomain := .shadow
    environmentRef := environment
    issuerRef := issuer
    keyId := keyRef
    publicKey := List.replicate 32 0
    audienceRef := audience
    tenantRef := tenant
    allowedProofKinds := signedKinds
    validFrom := 1
    validUntil := 100000
    revokedAt := none })]

section Calls

variable [Crypto]

/-- A signed proof of a kind for a command. -/
def signedProof (command : IdrCommandEnvelopeV1) (subject : ReferenceV1 × Text)
    (principalDigest : Text) (expiresAt n : Nat) (kind : ProductionProofKindV1) :
    ProductionProofEnvelopeV1 where
  claims := {
    compatibility := .v1
    proofId := BitVec.ofNat 128 (300000 + n)
    trustDomain := command.trustDomain
    environmentRef := command.environmentRef
    proofKind := kind
    issuerRef := issuer
    subjectRef := subject.1
    subjectDigest := subject.2
    audienceRef := audience
    tenantRef := command.tenantRef
    scopeRef := command.scopeRef
    purposeRef := command.purposeRef
    policyRevisionRef := command.policyRevisionRef
    issuedAt := 1
    notBefore := 1
    expiresAt
    nonce := encodeHex (digestBytes n).toList
    principalDigest
    assertion := .object [((expectedAssertion kind).1, .string (expectedAssertion kind).2)] }
  keyId := keyRef
  algorithm := "ed25519"
  signature := encodeHex (List.replicate 64 0)

/-- A command with the proofs it requires. -/
def signed (expiresAt n : Nat) (command : IdrCommandEnvelopeV1) : IdrCommandEnvelopeV1 :=
  match command.proofSubject, expectedPrincipalDigest command with
  | .ok subject, .ok principalDigest =>
    { command with proofs := (proofKinds command.command).mapIdx fun k kind =>
        signedProof command subject principalDigest expiresAt (20 * n + k) kind }
  | _, _ => command

/-- The call of a command; `n` numbers what is drawn for it. -/
def call (n now : Nat) (command : IdrCommandEnvelopeV1) : TransactInputV1 where
  command := signed (now + 50000) n { command with commandId := BitVec.ofNat 128 (200000 + n) }
  trustRoot := trustRoot
  startClock := now * microsPerSecond
  writeClock := now * microsPerSecond
  fresh := freshIds n
  attestationId := BitVec.ofNat 128 (400000 + n)
  attestationNonce := BitVec.ofNat 128 (500000 + n)
  eventId := BitVec.ofNat 128 (600000 + n)
  checkpointId := BitVec.ofNat 128 (700000 + n)
  globalSequence := n
  auditSequence := n
  databaseTxid := n
  backendPid := 1

omit [Crypto] in
/-- The projection of the sample run. -/
def projection (s : AuthorityStateV1) : IdrRunProjectionV1 :=
  ((s.db.run runId).map (·.projection)).getD init.projection

/-- A command at a time, from a caller, as the run stands. -/
def called (now : Nat) (caller : ReferenceV1) (command : IdrRunProjectionV1 → IdrCommandV1)
    (change : IdrCommandEnvelopeV1 → IdrCommandEnvelopeV1) (s : AuthorityStateV1) :
    TransactInputV1 :=
  call (s.db.commandReceipts.length + 1) now
    (change (envelope (projection s).aggregateVersion caller (command (projection s))))

end Calls

/-- An authority that has not been called. -/
def emptyAuthority : AuthorityStateV1 := ⟨.empty, []⟩

/-- The input of the sample run, submitted to the empty authority. -/
def firstCall : TransactInputV1 := @called crypto 10 owner startRun id emptyAuthority

theorem authorityInit_empty : AuthorityInit emptyAuthority := rfl

set_option maxRecDepth 20000 in
/-- The first call of the sample is committed. -/
theorem firstCall_committed :
    isOkAnd (@PostgresIdrOrchestratorV1.authorityStep crypto orchestrator emptyAuthority firstCall)
      (fun s => decide (s.db.commandReceipts.length = 1)) = true := by
  decide +kernel

/-- The state after the first call, and its commit. -/
theorem started : ∃ t c, @AuthorityStep crypto orchestrator emptyAuthority firstCall t ∧
    @Commits crypto orchestrator emptyAuthority.db firstCall c t.db := by
  obtain ⟨t, ht, hlength⟩ := isOkAnd_iff.mp firstCall_committed
  obtain ⟨-, -, hdb | ⟨c, hc⟩⟩ := @authorityStep_cases crypto _ _ _ _ ht
  · rw [hdb] at hlength
    cases of_decide_eq_true hlength
  · exact ⟨t, c, ht, hc⟩

end Sample

end Idr
