/-
Idr/Authority/Revocation.lean

What a revocation is checked against.

Before the four commands of a permit the proofs of the bound admission are
verified again, and when one of them fails the revocation is committed in
place of the command.  The command itself is not evaluated then: neither
its version nor its tenant, neither its caller nor the permit it names is
compared with the run.  So a commit is optimistic except where it revokes
(`optimistic_concurrency`).  And the proofs are verified for the scope, the
purpose and the policy of the command at hand, so that a command for
another scope revokes an admission whose proofs verify
(`revocation_is_real_iff`).
-/
import Idr.Authority.CurrentLineage

namespace Idr

section Commit

variable [Crypto] {o : PostgresIdrOrchestratorV1} {i : TransactInputV1} {c : CommitV1}
  {s t : AuthorityStateV1}

/-! ### Optimistic concurrency -/

/-- The command is addressed to the run as it stands. -/
structure Addresses (command : IdrCommandEnvelopeV1) (p : IdrRunProjectionV1) : Prop where
  version : p.aggregateVersion = command.expectedAggregateVersion
  tenantRef : p.tenantRef = command.tenantRef
  trustDomain : p.trustDomain = command.trustDomain
  environmentRef : p.environmentRef = command.environmentRef

instance (command : IdrCommandEnvelopeV1) (p : IdrRunProjectionV1) :
    Decidable (Addresses command p) :=
  decidable_of_iff (p.aggregateVersion = command.expectedAggregateVersion ∧
      p.tenantRef = command.tenantRef ∧ p.trustDomain = command.trustDomain ∧
      p.environmentRef = command.environmentRef)
    ⟨fun ⟨version, tenantRef, trustDomain, environmentRef⟩ =>
      ⟨version, tenantRef, trustDomain, environmentRef⟩,
      fun h => ⟨h.version, h.tenantRef, h.trustDomain, h.environmentRef⟩⟩

/-- **The commit is optimistic**: its command is addressed to the run as it stood, and the version
of the run is counted up by one. -/
structure Optimistic (i : TransactInputV1) (c : CommitV1) : Prop where
  addressed : Addresses i.command c.loaded
  runId : c.loaded.runId = i.command.runId
  next : c.projection.aggregateVersion = c.loaded.aggregateVersion + 1

theorem Commits.optimistic_iff (hs : RunsOk o s) (hadmits : s.admits i)
    (h : Commits o s.db i c t.db) :
    Optimistic i c ↔ (Revokes o s.db i c.loaded → Addresses i.command c.loaded) := by
  constructor
  · intro hoptimistic _
    exact hoptimistic.addressed
  · intro hrevoked
    refine ⟨?_, (h.loadedState hs hadmits).1, (h.frame hs hadmits).1.aggregateVersion⟩
    by_cases hrevokes : Revokes o s.db i c.loaded
    · exact hrevoked hrevokes
    · -- the evaluator compares all four
      obtain ⟨hcheck, -⟩ := h.evaluates hs hadmits hrevokes
      have hchecked := checkCommand_checked hcheck
      exact ⟨checkCommand_version hcheck, hchecked.tenantRef, hchecked.trustDomain,
        hchecked.environmentRef⟩

/-- A call whose command, if it revokes, is addressed to the run as it stands. -/
def RevokesAddressed (o : PostgresIdrOrchestratorV1) (s : AuthorityStateV1) (i : TransactInputV1) :
    Prop :=
  ∀ p, o.loadRun s.db i.command = .ok p → Revokes o s.db i p → Addresses i.command p

/-- The call changes the run, by a command that expects the version. -/
def Changes (o : PostgresIdrOrchestratorV1) (runId : Uuid) (version : Nat)
    (_ : List TransactInputV1) (s : AuthorityStateV1) (i : TransactInputV1) (t : AuthorityStateV1) :
    Prop :=
  i.command.runId = runId ∧ i.command.expectedAggregateVersion = version ∧
    ∃ c, Commits o s.db i c t.db

/-- The call changes the run, after another that expected the same version. -/
def ChangesAgain (step : AuthorityStateV1 → TransactInputV1 → AuthorityStateV1 → Prop)
    (o : PostgresIdrOrchestratorV1) (s₀ : AuthorityStateV1) (runId : Uuid) (version : Nat)
    (is : List TransactInputV1) (s : AuthorityStateV1) (i : TransactInputV1)
    (t : AuthorityStateV1) : Prop :=
  Changes o runId version is s i t ∧ Happened step (Changes o runId version) s₀ is

/-- Along a run of such calls, a run of the authority is past every version that was expected. -/
theorem past_expected {s₀ : AuthorityStateV1} {is : List TransactInputV1} (h₀ : AuthorityInit s₀)
    (hrun : Run (Restrict (AuthorityStep o) (RevokesAddressed o)) s₀ is s) :
    ∀ runId version,
      Happened (Restrict (AuthorityStep o) (RevokesAddressed o)) (Changes o runId version) s₀ is →
      ∃ row ∈ s.db.runs, row.runId = runId ∧ version < row.projection.aggregateVersion := by
  refine hrun.history (P := fun is s => ∀ runId version,
      Happened (Restrict (AuthorityStep o) (RevokesAddressed o)) (Changes o runId version) s₀ is →
      ∃ row ∈ s.db.runs, row.runId = runId ∧ version < row.projection.aggregateVersion) ?_ ?_
  · rintro runId version ⟨js, j, ks, u, v, hnil, -⟩
    exact absurd hnil (by simp)
  · intro js u j v hjs hP hj runId version hhappened
    have hrows := runsOk_reachable ⟨s₀, js, h₀, hjs.of_restrict⟩
    have hdeterministic : ∀ s i t r, Restrict (AuthorityStep o) (RevokesAddressed o) s i t →
        Restrict (AuthorityStep o) (RevokesAddressed o) s i r → t = r :=
      fun s i t r ht hr => Except.ok.inj (ht.2.symm.trans hr.2)
    obtain ⟨hallowed, hstep⟩ := hj
    obtain ⟨hadmits, -, hdb | ⟨c, hc⟩⟩ := authorityStep_cases hstep
    · rcases hhappened.of_snoc hdeterministic hjs ⟨hallowed, hstep⟩ with hold | ⟨-, -, hcommits⟩
      · rw [hdb]
        exact hP runId version hold
      · exact absurd hdb (Commits.ne hcommits)
    · obtain ⟨written, hwritten, hid, hprojection⟩ := hc.writtenRow hrows hadmits
      have hnext := (hc.frame hrows hadmits).1.aggregateVersion
      rcases hhappened.of_snoc hdeterministic hjs ⟨hallowed, hstep⟩ with hold | ⟨rfl, rfl, -⟩
      · obtain ⟨row, hrow, rfl, hpast⟩ := hP runId version hold
        by_cases hsame : row.runId = j.command.runId
        · refine ⟨written, hwritten, hid.trans hsame.symm, ?_⟩
          rw [hc.loaded_of_row hrows hrow hsame] at hpast
          rw [hprojection]
          exact hpast.trans (by rw [CommitV1.projection, hnext]; exact Nat.lt_succ_self _)
        · exact ⟨row, hc.otherRow hrows hadmits hrow hsame, rfl, hpast⟩
      · have hoptimistic := (hc.optimistic_iff hrows hadmits).mpr (hallowed c.loaded hc.loaded)
        refine ⟨written, hwritten, hid, ?_⟩
        rw [hprojection, hoptimistic.next, hoptimistic.addressed.version]
        exact Nat.lt_succ_self _

/-- **Optimistic concurrency**: a commit of the authority is optimistic exactly when its command is
addressed to the run in case it revokes; and in a run of such calls no two commands that expect the
same version change the same run. -/
theorem optimistic_concurrency {s₀ : AuthorityStateV1} (h₀ : AuthorityInit s₀) :
    (∀ is s i t c, Run (AuthorityStep o) s₀ is s → AuthorityStep o s i t → Commits o s.db i c t.db →
      (Optimistic i c ↔ (Revokes o s.db i c.loaded → Addresses i.command c.loaded))) ∧
    ∀ is runId version, ¬ Happened (Restrict (AuthorityStep o) (RevokesAddressed o))
      (ChangesAgain (Restrict (AuthorityStep o) (RevokesAddressed o)) o s₀ runId version)
        s₀ is := by
  constructor
  · intro is s i t c hrun hstep hc
    exact hc.optimistic_iff (runsOk_reachable ⟨s₀, is, h₀, hrun⟩) (authorityStep_cases hstep).1
  · rintro is runId version ⟨js, j, ks, u, v, -, hjs, ⟨hallowed, hstep⟩, ⟨rfl, rfl, c, hc⟩, hbefore⟩
    have hrows := runsOk_reachable ⟨s₀, js, h₀, hjs.of_restrict⟩
    have hoptimistic := (hc.optimistic_iff hrows (authorityStep_cases hstep).1).mpr
      (hallowed c.loaded hc.loaded)
    obtain ⟨row, hrow, hid, hpast⟩ := past_expected h₀ hjs _ _ hbefore
    rw [hc.loaded_of_row hrows hrow hid, hoptimistic.addressed.version] at hpast
    exact Nat.lt_irrefl _ hpast

/-! ### The bindings of an admission -/

/-- The proofs of an admission are bound completely. -/
structure ProofsBound (a : ActionAdmissionProjectionV1) : Prop where
  count : a.proofBindings.length = actionAdmissionProofKindsV1.length
  authorization : a.proofBindings.lookup .exactAuthorization =
    some ⟨a.exactAuthorizationProofId, a.authorizationValidUntil⟩

omit [Crypto] in
/-- There is one binding for each of the kinds. -/
theorem verifiedActionAdmissionProofBindings_length {proofs : List VerifiedProductionProofV1}
    {trustDomain : TrustDomainV1}
    {bindings : List (ProductionProofKindV1 × ActionAdmissionProofBindingV1)}
    (h : verifiedActionAdmissionProofBindings proofs trustDomain = .ok bindings) :
    bindings.length = actionAdmissionProofKindsV1.length := by
  simp only [verifiedActionAdmissionProofBindings, admissionProofBinding,
    actionAdmissionProofKindsV1, List.mapM_cons, List.mapM_nil, bind_eq_ok, Except.ok.injEq, pure,
    Except.pure] at h
  obtain ⟨_, ⟨_, ⟨capability, -, rfl⟩, _, ⟨_, ⟨authority, -, rfl⟩, _, ⟨_, ⟨policy, -, rfl⟩, _,
    ⟨_, ⟨authorization, -, rfl⟩, _, ⟨_, ⟨admission, -, rfl⟩, _, rfl, rfl⟩, rfl⟩, rfl⟩, rfl⟩, rfl⟩,
    rfl⟩ := h
  -- the kinds are known and distinct, so the sorted set is computed
  rfl

omit [Crypto] in
theorem AdmittedFrom.proofsBound {p : IdrRunProjectionV1} {proofs : List VerifiedProductionProofV1}
    {record : AuthoritativeRecordRefV1} {binding : ActionBindingProjectionV1}
    {a : ActionAdmissionProjectionV1} (h : AdmittedFrom p proofs record binding a) :
    ProofsBound a :=
  ⟨verifiedActionAdmissionProofBindings_length h.proofBindings, h.authorization⟩

/-- The admission that is bound after a commit was bound before, or its proofs are bound. -/
theorem Commits.proofsBound (h : Commits o s.db i c t.db)
    (hloaded : ∀ a, c.loaded.actionAdmission = some a → ProofsBound a)
    {a : ActionAdmissionProjectionV1} (ha : c.projection.actionAdmission = some a) :
    ProofsBound a := by
  obtain ⟨closure, q, hw⟩ := h.withdrawn
  have hadmission : q.bindings.admission = some a := hw.closed.1.admission a ha
  by_cases hrevokes : Revokes o s.db i c.loaded
  · rw [(hw.revoked hrevokes).2.1] at hadmission
    exact hloaded a hadmission
  · obtain ⟨harm, -⟩ := hw.evaluated hrevokes
    generalize q.bindings = bindings at harm hadmission
    generalize q.invalidatedRecords = invalidated at harm
    generalize c.record = record at harm
    cases harm with
    | admitted _ _ hadmitted =>
      obtain rfl := Option.some.inj hadmission
      exact hadmitted.proofsBound
    | acted => cases hadmission
    | quiet | recorded | decided | responded | observed | proposed | promoted | asserted | corrected
    | invalidated => exact hloaded a hadmission

/-- **The proofs of a bound admission are bound completely**, in every run of the authority. -/
theorem proofsBound_reachable (hs : Reachable AuthorityInit (AuthorityStep o) s) :
    ∀ row ∈ s.db.runs, ∀ a, row.projection.actionAdmission = some a → ProofsBound a := by
  refine hs.invariant_with (P := fun s => ∀ row ∈ s.db.runs, ∀ a,
    row.projection.actionAdmission = some a → ProofsBound a) ?_ ?_
  · intro s h₀ row hrow
    rw [h₀] at hrow
    cases hrow
  · intro s i t hs hP hstep row hrow a ha
    have hrows := runsOk_reachable hs
    obtain ⟨hadmits, -, hdb | ⟨c, hc⟩⟩ := authorityStep_cases hstep
    · rw [hdb] at hrow
      exact hP row hrow a ha
    · rcases hc.mem_runs hrows hadmits hrow with ⟨hold, -⟩ | ⟨-, hprojection, -⟩
      · exact hP row hold a ha
      · have hloaded : ∀ a, c.loaded.actionAdmission = some a → ProofsBound a := by
          intro a ha
          rcases loadRun_eq_ok hc.loaded with ⟨old, hold, hloaded⟩ | ⟨-, -, -, hloaded⟩
          · exact hP old (run_eq_some hold).1 a (by rw [hloaded]; exact ha)
          · rw [hloaded] at ha
            cases ha
        rw [hprojection] at ha
        exact hc.proofsBound hloaded ha

/-! ### What a revocation is for -/

/-- The proof is for the tenant, the scope, the purpose and the policy of the command. -/
structure IsFor (claims : ProductionProofClaimsV1) (command : IdrCommandEnvelopeV1) : Prop where
  tenantRef : claims.tenantRef = command.tenantRef
  scopeRef : claims.scopeRef = command.scopeRef
  purposeRef : claims.purposeRef = command.purposeRef
  policyRevisionRef : claims.policyRevisionRef = command.policyRevisionRef

/-- The proofs that the admission is bound to are for the command. -/
def BoundFor (o : PostgresIdrOrchestratorV1) (db : DatabaseV1) (a : ActionAdmissionProjectionV1)
    (command : IdrCommandEnvelopeV1) : Prop :=
  ∀ kind ∈ actionAdmissionProofKindsV1, ∀ binding, a.proofBindings.lookup kind = some binding →
    ∀ envelope, o.boundEnvelope db binding.proofId = some envelope → IsFor envelope.claims command

/-- The command comes from the bound owner or provider, and names the reservation and the permit of
the run. -/
def Directed (command : IdrCommandEnvelopeV1) (p : IdrRunProjectionV1) : Prop :=
  match command.command with
  | .reserveExecution _ _ _ _ _ _ _ _ _ =>
    ∃ a, p.actionAdmission = some a ∧ command.callerRef = a.ownerRef
  | .recoverPermit reservationId =>
    ∃ e, p.execution = some e ∧ e.reservationId = reservationId ∧ command.callerRef = e.ownerRef
  | .deliverPermit reservationId permitId | .startDispatch reservationId permitId =>
    ∃ e, p.execution = some e ∧ e.reservationId = reservationId ∧ e.permitId = permitId ∧
      command.callerRef = e.providerRef
  | _ => True

/-- Every proof that the admission is bound to verifies, as the proof it is. -/
def ProofsVerify (o : PostgresIdrOrchestratorV1) (db : DatabaseV1) (i : TransactInputV1)
    (a : ActionAdmissionProjectionV1) : Prop :=
  ∀ kind ∈ actionAdmissionProofKindsV1,
    o.boundProofVerifies db a i.trustedNow i.trustRoot kind = true

/-- A proof that verifies is refused for a command that it is not for, and for no other. -/
theorem reverifyBoundProof_of_verifies {db : DatabaseV1} {a : ActionAdmissionProjectionV1}
    (command : IdrCommandEnvelopeV1) {now : Nat} {root : TrustRootSnapshotV1}
    {kind : ProductionProofKindV1} (h : o.boundProofVerifies db a now root kind = true) :
    ∃ binding envelope, a.proofBindings.lookup kind = some binding ∧
      o.boundEnvelope db binding.proofId = some envelope ∧
      (o.reverifyBoundProof db a command now root kind = .ok () ∧ IsFor envelope.claims command ∨
        o.reverifyBoundProof db a command now root kind = .error .actionNotAdmitted ∧
          ¬ IsFor envelope.claims command) := by
  obtain ⟨binding, hbinding, h⟩ := (Option.any_eq_true _ _).mp h
  obtain ⟨envelope, henvelope, h⟩ := (Option.any_eq_true _ _).mp h
  obtain ⟨issuer, hissuer, h⟩ := (Option.any_eq_true _ _).mp h
  simp only [Bool.and_eq_true, decide_eq_true_eq, isOkAnd_iff, and_true] at h
  obtain ⟨⟨⟨⟨hid, hkind⟩, hexpires⟩, hassertion⟩, proof, hverify⟩ := h
  refine ⟨binding, envelope, hbinding, henvelope, ?_⟩
  by_cases hfor : IsFor envelope.claims command
  · left
    refine ⟨?_, hfor⟩
    -- the proof is expected as the proof that it is
    have hown : o.expectedProof command kind issuer envelope.claims.subjectRef
        envelope.claims.subjectDigest = o.ownProof envelope.claims kind issuer := by
      simp only [PostgresIdrOrchestratorV1.expectedProof, PostgresIdrOrchestratorV1.ownProof,
        hfor.tenantRef, hfor.scopeRef, hfor.purposeRef, hfor.policyRevisionRef]
    simp only [PostgresIdrOrchestratorV1.reverifyBoundProof, bind_eq_ok, okOr_eq_ok,
      rejectIf_eq_ok, exists_const]
    refine ⟨binding, hbinding, envelope, henvelope, issuer, hissuer, ?_, ?_⟩
    · simp [hid, hkind, hexpires, hassertion, hfor.tenantRef, hfor.scopeRef, hfor.purposeRef,
        hfor.policyRevisionRef]
    · rw [hown, hverify]
  · right
    refine ⟨?_, hfor⟩
    have hrejected : envelope.claims.proofId ≠ binding.proofId
        ∨ envelope.claims.proofKind ≠ kind
        ∨ envelope.claims.expiresAt ≠ binding.validUntil
        ∨ envelope.claims.tenantRef ≠ command.tenantRef
        ∨ envelope.claims.scopeRef ≠ command.scopeRef
        ∨ envelope.claims.purposeRef ≠ command.purposeRef
        ∨ envelope.claims.policyRevisionRef ≠ command.policyRevisionRef
        ∨ proofAssertionAllows envelope.claims = false := by
      by_contra hno
      simp only [not_or, not_not] at hno
      obtain ⟨-, -, -, htenant, hscope, hpurpose, hpolicy, -⟩ := hno
      exact hfor ⟨htenant, hscope, hpurpose, hpolicy⟩
    rw [PostgresIdrOrchestratorV1.reverifyBoundProof, hbinding]
    show (okOr (o.boundEnvelope db binding.proofId) _ >>= _) = _
    rw [henvelope]
    show (okOr (o.expectedIssuers.lookup kind) _ >>= _) = _
    rw [hissuer]
    show (rejectIf _ _ >>= _) = _
    rw [rejectIf, if_pos hrejected]
    rfl

/-- **When an admission whose proofs verify is revoked**: when they are not for the command. -/
theorem revokes_iff {p : IdrRunProjectionV1} {db : DatabaseV1} {a : ActionAdmissionProjectionV1}
    (hreverifies : reverifiesAdmission i.command.command = true) (ha : p.actionAdmission = some a)
    (hbound : ProofsBound a) (hverify : ProofsVerify o db i a) :
    Revokes o db i p ↔ ¬ BoundFor o db a i.command := by
  have hcases := fun kind (hkind : kind ∈ actionAdmissionProofKindsV1) =>
    reverifyBoundProof_of_verifies i.command (hverify kind hkind)
  -- the admission is well formed, so the verification is that of its proofs
  have hproofs : o.reverifyBoundActionAdmissionProofs db p i.command i.trustedNow i.trustRoot =
      actionAdmissionProofKindsV1.forM
        (o.reverifyBoundProof db a i.command i.trustedNow i.trustRoot) := by
    rw [PostgresIdrOrchestratorV1.reverifyBoundActionAdmissionProofs, if_pos hreverifies, ha]
    show (rejectIf _ _ >>= _ : Except IdrRuntimeErrorV1 Unit) = _
    rw [rejectIf, if_neg]
    · rfl
    · simp [hbound.count, hbound.authorization]
  rw [Revokes, hproofs, forM_eq_error]
  · constructor
    · rintro ⟨kind, hkind, herror⟩ hfor
      obtain ⟨binding, envelope, hbinding, henvelope, ⟨hok, -⟩ | ⟨-, hno⟩⟩ := hcases kind hkind
      · rw [hok] at herror
        cases herror
      · exact hno (hfor kind hkind binding hbinding envelope henvelope)
    · intro hfor
      by_contra hnone
      apply hfor
      intro kind hkind binding hbinding envelope henvelope
      obtain ⟨binding', envelope', hbinding', henvelope', ⟨-, hyes⟩ | ⟨herror, -⟩⟩ :=
        hcases kind hkind
      · obtain rfl := Option.some.inj (hbinding.symm.trans hbinding')
        obtain rfl := Option.some.inj (henvelope.symm.trans henvelope')
        exact hyes
      · exact absurd ⟨kind, hkind, herror⟩ hnone
  · intro kind hkind
    obtain ⟨binding, envelope, -, -, h | h⟩ := hcases kind hkind
    · exact .inl h.1
    · exact .inr h.1

/-- A permit command that is evaluated comes from the bound owner or provider, and names the
reservation and the permit of the run. -/
theorem evaluateCommand_directed {fresh : FreshIdsV1} {p : IdrRunProjectionV1}
    {command : IdrCommandEnvelopeV1} {now : Nat} {proofs : List VerifiedProductionProofV1}
    {r : ArmResultV1} (hreverifies : reverifiesAdmission command.command = true)
    (h : evaluateCommand fresh p command now proofs = .ok r) : Directed command p := by
  unfold Directed
  have hpermit : ∀ expected next event reservationId permitId,
      evaluatePermitStep expected next event p command now reservationId permitId = .ok r →
      ∃ e, p.execution = some e ∧ e.reservationId = reservationId ∧ e.permitId = permitId ∧
        command.callerRef = e.providerRef := by
    intro expected next event reservationId permitId h
    simp only [evaluatePermitStep, requireCaller, bind_eq_ok, require_eq_ok, exists_const,
      currentExecution_eq_ok] at h
    obtain ⟨e, ⟨he, hreservation, hpermit⟩, hcaller, -⟩ := h
    exact ⟨e, he, hreservation, hpermit, hcaller⟩
  cases hc : command.command <;> rw [hc] at hreverifies <;> try cases hreverifies
  all_goals simp only [evaluateCommand, hc] at h
  · simp only [evaluateReserveExecution, requireCaller, bind_eq_ok, exists_unit_eq_ok, okOr_eq_ok,
      rejectIf_eq_ok, require_eq_ok, exists_const, not_or, not_not] at h
    obtain ⟨-, -, hcaller, -, -, a, ha, -, -, ⟨-, -, -, -, howner, -⟩, -⟩ := h
    exact ⟨a, ha, hcaller.trans howner.symm⟩
  · simp only [evaluateRecoverPermit, requireCaller, bind_eq_ok, exists_unit_eq_ok, require_eq_ok,
      exists_const, executionOf_eq_ok] at h
    obtain ⟨e, ⟨he, hreservation⟩, hcaller, -⟩ := h
    exact ⟨e, he, hreservation, hcaller⟩
  · exact hpermit _ _ _ _ _ h
  · exact hpermit _ _ _ _ _ h

/-- **The commit of a permit command is for real**: if it revokes the admission, one of the proofs
does not verify; and if they all do, then the command is one for the admission, from the bound
caller and for the reservation and the permit of the run. -/
structure ForReal (o : PostgresIdrOrchestratorV1) (db : DatabaseV1) (i : TransactInputV1)
    (c : CommitV1) (a : ActionAdmissionProjectionV1) : Prop where
  revocation : Revokes o db i c.loaded → ∃ kind ∈ actionAdmissionProofKindsV1,
    o.boundProofVerifies db a i.trustedNow i.trustRoot kind = false
  directed : ProofsVerify o db i a → BoundFor o db a i.command ∧ Directed i.command c.loaded

/-- **When a revocation is a real one**: exactly when the bound proofs, if they all verify, are for
the tenant, the scope, the purpose and the policy of the command. -/
theorem revocation_is_real_iff (hs : Reachable AuthorityInit (AuthorityStep o) s)
    (hstep : AuthorityStep o s i t) (h : Commits o s.db i c t.db)
    (hreverifies : reverifiesAdmission i.command.command = true) :
    ∃ a, c.loaded.actionAdmission = some a ∧
      (ForReal o s.db i c a ↔ (ProofsVerify o s.db i a → BoundFor o s.db a i.command)) := by
  have hrows := runsOk_reachable hs
  have hadmits := (authorityStep_cases hstep).1
  obtain ⟨u, closure, v, -, -, -, -, -, -, -, htransition⟩ := h.runStep hrows hadmits
  obtain ⟨a, ha⟩ := Option.isSome_iff_exists.mp
    ((runTransition_eq_ok.mp htransition).1 hreverifies)
  have hbound : ProofsBound a := by
    rcases loadRun_eq_ok h.loaded with ⟨row, hrow, hloaded⟩ | ⟨-, -, -, hloaded⟩
    · exact proofsBound_reachable hs row (run_eq_some hrow).1 a (by rw [hloaded]; exact ha)
    · rw [hloaded] at ha
      cases ha
  refine ⟨a, ha, ?_⟩
  constructor
  · exact fun hreal hverify => (hreal.directed hverify).1
  · intro hfor
    constructor
    · intro hrevokes
      by_contra hnone
      have hverify : ProofsVerify o s.db i a := by
        intro kind hkind
        by_contra hno
        exact hnone ⟨kind, hkind, Bool.not_eq_true _ ▸ hno⟩
      exact (revokes_iff hreverifies ha hbound hverify).mp hrevokes (hfor hverify)
    · intro hverify
      have hquiet : ¬ Revokes o s.db i c.loaded := fun hrevokes =>
        (revokes_iff hreverifies ha hbound hverify).mp hrevokes (hfor hverify)
      obtain ⟨-, r, hr, -⟩ := h.evaluates hrows hadmits hquiet
      have hdirected := evaluateCommand_directed hreverifies hr
      unfold Directed at hdirected ⊢
      exact ⟨hfor hverify, hdirected⟩

end Commit

/-! ### Sample revocations -/

namespace Sample

section Calls

variable [Crypto]

def callsToAdmission : List (AuthorityStateV1 → TransactInputV1) := [
  called 10 owner startRun id,
  called 11 owner recordContext id,
  called 12 owner recordIntent id,
  called 13 owner recordDecision id,
  called 14 owner recordTurn id,
  called 15 owner (recordAction 5) id,
  called 16 owner admitAction id]

/-- A reservation that names another scope, comes from the provider, and expects the first
version. -/
def foreignReservation : AuthorityStateV1 → TransactInputV1 :=
  called 17 provider reserveExecution fun command =>
    { command with scopeRef := owner, expectedAggregateVersion := 0 }

/-- The calls to an admission, which lead to a state with the property. -/
@[reducible]
def AdmissionScript (property : AuthorityStateV1 → Bool) : Type :=
  Script (@PostgresIdrOrchestratorV1.authorityStep shortCrypto orchestrator) (fun _ _ => True)
    emptyAuthority property

/-- The proofs of the admission verify, and the foreign reservation is committed. -/
def commitsForeign (s : AuthorityStateV1) : Bool :=
  let i := foreignReservation s
  (projection s).actionAdmission.any (fun a => actionAdmissionProofKindsV1.all fun kind =>
      orchestrator.boundProofVerifies s.db a i.trustedNow i.trustRoot kind) &&
    (projection s).aggregateVersion ≠ 0 &&
    leadsTo s foreignReservation fun t =>
      t.db.commandReceipts.length ≠ s.db.commandReceipts.length

/-- A reservation after the proofs of the admission have lapsed. -/
def lapsedReservation (s : AuthorityStateV1) : TransactInputV1 :=
  lapsed (called 17 owner reserveExecution id s)

/-- The lapsed reservation is addressed to the run as it stands, and committed as a revocation. -/
def commitsLapsed (s : AuthorityStateV1) : Bool :=
  let i := lapsedReservation s
  decide (Addresses i.command (projection s)) &&
    decide (Revokes orchestrator s.db i (projection s)) &&
    leadsTo s lapsedReservation fun t =>
      t.db.commandReceipts.length ≠ s.db.commandReceipts.length

end Calls

set_option maxRecDepth 100000 in
def foreignCommit : AdmissionScript (@commitsForeign shortCrypto) where
  inputs := @callsToAdmission shortCrypto
  leads := by decide +kernel

set_option maxRecDepth 100000 in
def lapsedCommit : AdmissionScript (@commitsLapsed shortCrypto) where
  inputs := @callsToAdmission shortCrypto
  leads := by decide +kernel

section Calls

variable [Crypto] {o : PostgresIdrOrchestratorV1} {s t : AuthorityStateV1} {i : TransactInputV1}

/-- A call that leaves a receipt is a commit. -/
theorem commits_of_receipt (ht : AuthorityStep o s i t)
    (h : t.db.commandReceipts.length ≠ s.db.commandReceipts.length) :
    ∃ c, Commits o s.db i c t.db := by
  obtain ⟨-, -, hdb | hc⟩ := authorityStep_cases ht
  · exact absurd (by rw [hdb]) h
  · exact hc

/-- A command other than `StartRun` for the sample run is applied to its projection. -/
theorem loaded_eq {c : CommitV1} (h : Commits o s.db i c t.db) (hrun : i.command.runId = runId)
    (hstart : ∀ input, i.command.command ≠ .startRun input) : c.loaded = projection s := by
  rcases loadRun_eq_ok h.loaded with ⟨row, hrow, hloaded⟩ | ⟨-, ⟨input, hinput⟩, -⟩
  · rw [projection, ← hrun, hrow, ← hloaded]
    rfl
  · exact absurd hinput (hstart input)

end Calls

/-- The foreign reservation of the sample run, as a commit. -/
theorem foreign_committed : ∃ s i t c a,
    Reachable AuthorityInit (@AuthorityStep shortCrypto orchestrator) s ∧
    @AuthorityStep shortCrypto orchestrator s i t ∧
    @Commits shortCrypto orchestrator s.db i c t.db ∧
    reverifiesAdmission i.command.command = true ∧ c.loaded.actionAdmission = some a ∧
    @ProofsVerify shortCrypto orchestrator s.db i a ∧
    c.loaded.aggregateVersion ≠ i.command.expectedAggregateVersion := by
  let crypto := shortCrypto
  obtain ⟨s, is, hrun, hforeign⟩ := foreignCommit.run
  simp only [commitsForeign, Bool.and_eq_true, decide_eq_true_eq] at hforeign
  obtain ⟨⟨hverify, hversion⟩, hcommits⟩ := hforeign
  obtain ⟨a, ha, hverify⟩ := (Option.any_eq_true _ _).mp hverify
  obtain ⟨t, ht, hreceipts⟩ := isOkAnd_iff.mp hcommits
  obtain ⟨c, hc⟩ := commits_of_receipt ht (of_decide_eq_true hreceipts)
  let command : IdrCommandEnvelopeV1 :=
    { envelope (projection s).aggregateVersion provider (reserveExecution (projection s)) with
      scopeRef := owner, expectedAggregateVersion := 0 }
  obtain ⟨hcommand, hid⟩ := call_command (s.db.commandReceipts.length + 1) 17 command
  obtain ⟨proofs, hsigned⟩ := signed_eq (17 + 50000) (s.db.commandReceipts.length + 1)
    { command with commandId := BitVec.ofNat 128 (200000 + (s.db.commandReceipts.length + 1)) }
  have hexpected : (foreignReservation s).command.expectedAggregateVersion = 0 :=
    congrArg IdrCommandEnvelopeV1.expectedAggregateVersion hsigned
  have hcommand : (foreignReservation s).command.command = reserveExecution (projection s) :=
    hcommand
  have hloaded := loaded_eq hc hid (by rw [hcommand]; intro input h; cases h)
  refine ⟨s, foreignReservation s, t, c, a, ⟨_, is, authorityInit_empty, hrun.of_restrict⟩,
    ht, hc, ?_, hloaded ▸ ha, List.all_eq_true.mp hverify, ?_⟩
  · rw [hcommand]
    rfl
  · rw [hexpected, hloaded]
    exact hversion

end Sample

/-- The revocation that the lapsed reservation of the sample run is committed as is optimistic. -/
theorem optimistic_concurrency_sample : ∃ s i t c,
    Reachable AuthorityInit (@AuthorityStep Sample.shortCrypto Sample.orchestrator) s ∧
    @AuthorityStep Sample.shortCrypto Sample.orchestrator s i t ∧
    @Commits Sample.shortCrypto Sample.orchestrator s.db i c t.db ∧
    @Revokes Sample.shortCrypto Sample.orchestrator s.db i c.loaded ∧ Optimistic i c := by
  let crypto := Sample.shortCrypto
  obtain ⟨s, is, hrun, hlapsed⟩ := Sample.lapsedCommit.run
  simp only [Sample.commitsLapsed, Bool.and_eq_true, decide_eq_true_eq] at hlapsed
  obtain ⟨⟨haddresses, hrevokes⟩, hcommits⟩ := hlapsed
  obtain ⟨t, ht, hreceipts⟩ := isOkAnd_iff.mp hcommits
  obtain ⟨c, hc⟩ := Sample.commits_of_receipt ht (of_decide_eq_true hreceipts)
  obtain ⟨hcommand, hid⟩ := Sample.call_command (s.db.commandReceipts.length + 1) 17
    (Sample.envelope (Sample.projection s).aggregateVersion Sample.owner
      (Sample.reserveExecution (Sample.projection s)))
  have hcommand : (Sample.lapsedReservation s).command.command =
      Sample.reserveExecution (Sample.projection s) := hcommand
  have hloaded := Sample.loaded_eq hc hid (by rw [hcommand]; intro input h; cases h)
  refine ⟨s, Sample.lapsedReservation s, t, c,
    ⟨_, is, Sample.authorityInit_empty, hrun.of_restrict⟩, ht, hc, hloaded ▸ hrevokes, ?_⟩
  exact ((optimistic_concurrency Sample.authorityInit_empty).1 is s _ t c hrun.of_restrict ht
    hc).mpr fun _ => hloaded ▸ haddresses

/-- **A stale command is committed**: the revocation that takes its place is not compared with the
version that the command expects. -/
theorem stale_command_committed : ∃ s i t c,
    Reachable AuthorityInit (@AuthorityStep Sample.shortCrypto Sample.orchestrator) s ∧
    @AuthorityStep Sample.shortCrypto Sample.orchestrator s i t ∧
    @Commits Sample.shortCrypto Sample.orchestrator s.db i c t.db ∧
    c.loaded.aggregateVersion ≠ i.command.expectedAggregateVersion ∧ ¬ Optimistic i c := by
  obtain ⟨s, i, t, c, a, hs, ht, hc, -, -, -, hversion⟩ := Sample.foreign_committed
  exact ⟨s, i, t, c, hs, ht, hc, hversion, fun h => hversion h.addressed.version⟩

/-- **An admission whose proofs verify is revoked**, by a command for another scope. -/
theorem verified_admission_revoked : ∃ s i t c a,
    Reachable AuthorityInit (@AuthorityStep Sample.shortCrypto Sample.orchestrator) s ∧
    @AuthorityStep Sample.shortCrypto Sample.orchestrator s i t ∧
    @Commits Sample.shortCrypto Sample.orchestrator s.db i c t.db ∧
    reverifiesAdmission i.command.command = true ∧ c.loaded.actionAdmission = some a ∧
    @ProofsVerify Sample.shortCrypto Sample.orchestrator s.db i a ∧
    @Revokes Sample.shortCrypto Sample.orchestrator s.db i c.loaded ∧
    ¬ @ForReal Sample.shortCrypto Sample.orchestrator s.db i c a := by
  let crypto := Sample.shortCrypto
  obtain ⟨s, i, t, c, a, hs, ht, hc, hreverifies, ha, hverify, hversion⟩ := Sample.foreign_committed
  have hrevokes : Revokes Sample.orchestrator s.db i c.loaded := by
    by_contra hquiet
    obtain ⟨hcheck, -⟩ := hc.evaluates (runsOk_reachable hs) (authorityStep_cases ht).1 hquiet
    exact hversion (checkCommand_version hcheck)
  refine ⟨s, i, t, c, a, hs, ht, hc, hreverifies, ha, hverify, hrevokes, fun hreal => ?_⟩
  obtain ⟨kind, hkind, hfails⟩ := hreal.revocation hrevokes
  rw [hverify kind hkind] at hfails
  cases hfails

/-- The delivery of the sample permit is for real. -/
theorem revocation_is_real_sample : ∃ s i c a,
    Reachable AuthorityInit (@AuthorityStep Sample.shortCrypto Sample.orchestrator) s ∧
    reverifiesAdmission i.command.command = true ∧ c.loaded.actionAdmission = some a ∧
    @ForReal Sample.shortCrypto Sample.orchestrator s.db i c a := by
  let crypto := Sample.shortCrypto
  obtain ⟨s, hs, hdelivers⟩ := Sample.permit_issued Sample.permitDelivery
  have hs := hs.of_restrict
  obtain ⟨hissued, hdelivered⟩ := Bool.and_eq_true_iff.mp hdelivers
  obtain ⟨t, ht, hdelivered⟩ := isOkAnd_iff.mp hdelivered
  obtain ⟨e₀, he₀, hissued⟩ := (Option.any_eq_true _ _).mp hissued
  obtain ⟨e, he, hdelivered⟩ := (Option.any_eq_true _ _).mp hdelivered
  rw [decide_eq_true_eq] at hissued hdelivered
  obtain ⟨hcommand, hrun⟩ := Sample.call_command (s.db.commandReceipts.length + 1) 18
    (Sample.envelope (Sample.projection s).aggregateVersion Sample.provider
      (Sample.deliverPermit (Sample.projection s)))
  have hreverifies : reverifiesAdmission (Sample.permitCollected s).command.command = true :=
    congrArg reverifiesAdmission hcommand
  have hchange : Sample.projection t ≠ Sample.projection s := by
    intro hsame
    rw [hsame, he₀] at he
    obtain rfl := Option.some.inj he
    rw [hissued] at hdelivered
    cases hdelivered
  obtain ⟨hadmits, c, hc, hprojection⟩ := Sample.commits hs ht hrun hchange
  have hquiet := hc.not_revokes (hprojection ▸ he) (.inl hdelivered)
  obtain ⟨a, ha, hreal⟩ := revocation_is_real_iff hs ht hc hreverifies
  refine ⟨s, _, c, a, hs, hreverifies, ha, hreal.mpr fun hverify => ?_⟩
  have hbound : ProofsBound a := by
    rw [Sample.loaded_eq hc hrun (fun input h => by
      cases hcommand.symm.trans h)] at ha
    obtain ⟨row, hrow, hsame, -⟩ := Sample.withExecution_row (s := s)
      (p := fun _ => true) (by rw [Sample.withExecution, he₀]; rfl)
    exact proofsBound_reachable hs row hrow a (hsame ▸ ha)
  by_contra hfor
  exact hquiet ((revokes_iff hreverifies ha hbound hverify).mpr hfor)

end Idr
