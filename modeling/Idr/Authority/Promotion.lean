/-
Idr/Authority/Promotion.lean

The promotion chain of the human model is sound.

A candidate, the decision to promote it and the assertion are issued in
three calls, with any calls in between.  What the last one relies on are
two bindings of the projection.  Two invariants tie these to the store:
what a binding refers to is current (`Referred`), since the closure of a
record that is replaced or invalidated drops every binding that refers to
it; and what is bound was recorded by an earlier call
(`PromotionHistory`), whose proofs were those that the decision needs.
-/
import Idr.Authority.CurrentLineage
import Idr.TrustChain.HumanModel
import Idr.Authority.ProofBinding

namespace Idr

/-! ### What the bindings refer to is current -/

/-- **What a binding refers to is current** and valid. -/
structure Referred (db : DatabaseV1) (p : IdrRunProjectionV1) : Prop extends Grounded db p where
  current : ∀ kind holder k ref, Holds p.bindings kind holder k ref → p.records k = some ref

section Commit

variable [Crypto] {o : PostgresIdrOrchestratorV1} {i : TransactInputV1} {c : CommitV1}
  {s t : AuthorityStateV1}

theorem Referred.commit (hr : Referred s.db c.loaded) (hok : LineageOk s) (hs : RunsOk o s)
    (hadmits : s.admits i) (h : Commits o s.db i c t.db) : Referred t.db c.projection := by
  refine { hr.toGrounded.commit hok hs hadmits h with current := ?_ }
  obtain ⟨hheld, hkinded⟩ := h.loadedHeld hs hadmits
  obtain ⟨closure, q, hw⟩ := h.withdrawn
  obtain ⟨hle, -, -⟩ := hw.closed
  intro kind holder k ref hholds
  rw [h.projectionRecords hs hadmits]
  have hdrops := hw.drops hheld hholds
  have hbefore := hholds.of_le hle
  -- a binding from before loses its holder with what it refers to
  have hold : Holds c.loaded.bindings kind holder k ref →
      (∀ record, c.record = some record → kind ≠ record.recordRef.candidateKind) →
      (c.loaded.insertRecord c.record).records k = some ref := by
    intro hbefore hother
    have hcurrent := hr.current _ _ _ _ hbefore
    rcases hrecord : c.record with _ | record
    · exact hcurrent
    · by_cases hkind : k = record.recordRef.candidateKind
      · exfalso
        have hadmission : record.recordRef.candidateKind ≠ .actionAdmissionDecision := by
          rw [← hkind]
          rintro rfl
          -- the binding of an admission is held by the admission
          cases hbefore with
          | admission => exact hother record hrecord hkind
        obtain ⟨row, hrow, hrowRef, -⟩ := hok.loaded h hcurrent
        have hne : record.recordRef ≠ ref := by
          intro heq
          refine (h.admitted record hrecord).newKey row hrow ?_
          rw [heq, ← hrowRef]
          rfl
        have hroot := h.replaces hs hadmits hrecord hadmission (hkind ▸ hcurrent) hne
        obtain ⟨holderRow, hholderRow, rfl, -⟩ := hok.loaded h (hheld.current _ _ _ _ hbefore)
        have hmem : ref ∈ closure := (hw.members ref).mpr ⟨ref, hroot, row, hrow, hrowRef, by
          rw [← hrowRef]
          exact .refl⟩
        exact hdrops (hw.spreads hmem hholderRow (hr.spreads _ _ _ _ hbefore))
      · rw [insertRecord_of_ne hkind]
        exact hcurrent
  by_cases hrevokes : Revokes o s.db i c.loaded
  · obtain ⟨hnone, hbindings, -⟩ := hw.revoked hrevokes
    rw [hbindings] at hbefore
    exact hold hbefore fun record hrecord => by rw [hnone] at hrecord; cases hrecord
  · rcases (hw.evaluated hrevokes).1.holds hbefore with ⟨hbefore, hother⟩ |
      ⟨record, hrecord, rfl, rfl, ⟨rfl, rfl⟩ | ⟨kind', holder', -, hbasis⟩⟩
    · exact hold hbefore hother
    · rw [hrecord]
      exact insertRecord_self record
    · -- what the basis refers to is of an earlier kind than the issued record
      have hcurrent := hr.current _ _ _ _ hbasis
      rw [hrecord, insertRecord_of_ne ?_]
      · exact hcurrent
      · rcases hbefore.rank with rfl | hlt
        · obtain ⟨row, hrow, hrowRef, -⟩ := hok.loaded h hcurrent
          refine absurd ?_ ((h.admitted record hrecord).newKey row hrow)
          rw [← hrowRef]
          rfl
        · rintro rfl
          exact absurd hlt (Nat.lt_irrefl _)

omit [Crypto] in
theorem Referred.mono {db db' : DatabaseV1} {p : IdrRunProjectionV1} (h : Referred db p)
    (hrecords : ∀ row ∈ db.contractRecords, row ∈ db'.contractRecords)
    (hedges : ∀ y x, Edge (dependentEdges db) y x → Edge (dependentEdges db') y x) :
    Referred db' p where
  valid := h.valid
  spreads kind holder k ref hholds := (h.spreads kind holder k ref hholds).mono hedges
  invalidated x hx := by
    obtain ⟨row, hrow, hrowRef⟩ := h.invalidated x hx
    exact ⟨row, hrecords row hrow, hrowRef⟩
  current := h.current

omit [Crypto] in
theorem referred_pending (db : DatabaseV1) (trustDomain : TrustDomainV1)
    (environmentRef : ReferenceV1) (runId : Uuid) (tenantRef : ReferenceV1) :
    Referred db (.pending trustDomain environmentRef runId tenantRef) where
  toGrounded := (anchored_pending db trustDomain environmentRef runId tenantRef).toGrounded
  current _ _ _ _ hholds := by cases hholds <;> rename_i hx <;> cases hx

/-- **What the bindings of every run refer to** is current. -/
theorem referred_reachable (h : Reachable AuthorityInit (AuthorityStep o) s) :
    ∀ row ∈ s.db.runs, Referred s.db row.projection := by
  refine lineage_invariant (P := fun s => ∀ row ∈ s.db.runs, Referred s.db row.projection)
    ?_ ?_ ?_ h.restrict_true
  · intro s hempty row hrow
    rw [hempty] at hrow
    cases hrow
  · intro s t hdb hs
    rw [hdb]
    exact hs
  · intro s i c t hs hok _ hadmits _ hc hP row hrow
    rcases hc.mem_runs hs hadmits hrow with ⟨hrow, -⟩ | ⟨-, hprojection, -⟩
    · exact (hP row hrow).mono (fun _ hrow => hc.mem_records.mpr (.inl hrow))
        fun _ _ hedge => hc.mem_edges.mpr (.inl hedge)
    · rw [hprojection]
      refine Referred.commit ?_ hok hs hadmits hc
      rcases loadRun_eq_ok hc.loaded with ⟨old, hold, hloaded⟩ | ⟨-, -, -, hloaded⟩
      · rw [← hloaded]
        exact hP old (run_eq_some hold).1
      · rw [hloaded]
        exact referred_pending ..

/-! ### What is bound was recorded -/

/-- The candidate of a binding is recorded, in a proposal. -/
def RecordsCandidate (o : PostgresIdrOrchestratorV1) (record : AuthoritativeRecordV1)
    (x : HumanModelCandidateProjectionV1) (_ : List TransactInputV1) (s : AuthorityStateV1)
    (i : TransactInputV1) (t : AuthorityStateV1) : Prop :=
  ∃ c, Commits o s.db i c t.db ∧ c.record = some record ∧ CandidateProposed c.loaded record x

/-- The decision of a binding is recorded, on a candidate and an outcome that are current. -/
def RecordsPromotion (o : PostgresIdrOrchestratorV1) (record : AuthoritativeRecordV1)
    (x : HumanModelPromotionProjectionV1) (source : HumanModelCandidateProjectionV1)
    (_ : List TransactInputV1) (s : AuthorityStateV1) (i : TransactInputV1)
    (t : AuthorityStateV1) : Prop :=
  ∃ c, Commits o s.db i c t.db ∧ c.record = some record ∧
    PromotionDecided c.loaded c.verifiedProofs record x source ∧
    CurrentRecord c.loaded x.sourceCandidateRef ∧ CurrentRecord c.loaded x.outcomeRef

/-- **What is bound of the human model was recorded** along the run, and is stored. -/
structure PromotionHistory (o : PostgresIdrOrchestratorV1) (s₀ : AuthorityStateV1)
    (is : List TransactInputV1) (db : DatabaseV1) (p : IdrRunProjectionV1) : Prop where
  candidate : ∀ x, p.humanModelCandidate = some x →
    ∃ record, contractRow record ∈ db.contractRecords ∧
      Happened (AuthorityStep o) (RecordsCandidate o record x) s₀ is
  promotion : ∀ x, p.humanModelPromotion = some x → ∃ record source,
    Happened (AuthorityStep o) (RecordsPromotion o record x source) s₀ is ∧
    ∃ candidate, contractRow candidate ∈ db.contractRecords ∧
      Happened (AuthorityStep o) (RecordsCandidate o candidate source) s₀ is

/-- **What a commit binds of the human model** was bound before, or is of the issued record. -/
theorem Commits.humanModel (hs : RunsOk o s) (hadmits : s.admits i) (h : Commits o s.db i c t.db) :
    (∀ x, c.projection.humanModelCandidate = some x → c.loaded.humanModelCandidate = some x ∨
      ∃ record, c.record = some record ∧ CandidateProposed c.loaded record x) ∧
    ∀ x, c.projection.humanModelPromotion = some x → c.loaded.humanModelPromotion = some x ∨
      ∃ record source, c.record = some record ∧
        PromotionDecided c.loaded c.verifiedProofs record x source := by
  by_cases hrevokes : Revokes o s.db i c.loaded
  · -- a revocation binds nothing
    obtain ⟨closure, q, hw⟩ := h.withdrawn
    obtain ⟨hle, -, -⟩ := hw.closed
    rw [(hw.revoked hrevokes).2.1] at hle
    exact ⟨fun x hx => .inl (hle.candidate x hx), fun x hx => .inl (hle.promotion x hx)⟩
  · obtain ⟨hcheck, r, hr, hrecord, hle⟩ := h.evaluates hs hadmits hrevokes
    have hchecked := checkCommand_checked hcheck
    constructor
    · intro x hx
      have hx := hle.candidate x hx
      rcases evaluateCommand_candidate hr hchecked.advanced with hsame | ⟨record, x', hissued, hx',
        hproposed⟩
      · exact .inl (hsame.symm.trans hx)
      · obtain rfl := Option.some.inj (hx'.symm.trans hx)
        exact .inr ⟨record, hrecord.trans hissued, { hproposed with }⟩
    · intro x hx
      have hx := hle.promotion x hx
      rcases evaluateCommand_promotion hr hchecked.advanced (checkCommand_proofKinds hcheck) with
        hsame | ⟨record, x', source, hissued, hx', hdecided⟩
      · exact .inl (hsame.symm.trans hx)
      · obtain rfl := Option.some.inj (hx'.symm.trans hx)
        exact .inr ⟨record, source, hrecord.trans hissued, { hdecided with }⟩

section History

variable {s₀ : AuthorityStateV1} {is : List TransactInputV1}

theorem PromotionHistory.append {db db' : DatabaseV1} {p : IdrRunProjectionV1}
    (h : PromotionHistory o s₀ is db p) (js : List TransactInputV1)
    (hrecords : ∀ row ∈ db.contractRecords, row ∈ db'.contractRecords) :
    PromotionHistory o s₀ (is ++ js) db' p where
  candidate x hx := by
    obtain ⟨record, hrow, hhappened⟩ := h.candidate x hx
    exact ⟨record, hrecords _ hrow, hhappened.append js⟩
  promotion x hx := by
    obtain ⟨record, source, hhappened, candidate, hrow, hcandidate⟩ := h.promotion x hx
    exact ⟨record, source, hhappened.append js, candidate, hrecords _ hrow, hcandidate.append js⟩

/-- **What a commit does to the history** of its run. -/
theorem PromotionHistory.commit (hp : PromotionHistory o s₀ is s.db c.loaded)
    (hreferred : Referred s.db c.loaded) (hheld : Held c.loaded)
    (hrun : Run (AuthorityStep o) s₀ is s) (hstep : AuthorityStep o s i t) (hs : RunsOk o s)
    (hadmits : s.admits i) (h : Commits o s.db i c t.db) :
    PromotionHistory o s₀ (is ++ [i]) t.db c.projection := by
  obtain ⟨hcandidate, hpromotion⟩ := h.humanModel hs hadmits
  have hbefore : PromotionHistory o s₀ (is ++ [i]) t.db c.loaded :=
    hp.append [i] fun _ hrow => h.mem_records.mpr (.inl hrow)
  constructor
  · intro x hx
    rcases hcandidate x hx with hx | ⟨record, hrecord, hproposed⟩
    · exact hbefore.candidate x hx
    · exact ⟨record, h.mem_records.mpr (.inr ⟨record, hrecord, rfl⟩),
        .last hrun hstep ⟨c, h, hrecord, hproposed⟩⟩
  · intro x hx
    rcases hpromotion x hx with hx | ⟨record, source, hrecord, hdecided⟩
    · exact hbefore.promotion x hx
    · obtain ⟨candidate, hrow, hhappened⟩ := hbefore.candidate source hdecided.bound
      refine ⟨record, source, .last hrun hstep ⟨c, h, hrecord, hdecided, ?_, ?_⟩, candidate, hrow,
        hhappened⟩
      · have hbound : Holds c.loaded.bindings _ _ _ _ := .candidate hdecided.bound
        rw [← hdecided.sourceCandidateRef]
        refine ⟨?_, hreferred.valid _ _ _ _ hbound⟩
        rw [(hheld.kinded _ _ _ _ hbound).2]
        exact hreferred.current _ _ _ _ hbound
      · have hbound : Holds c.loaded.bindings _ _ _ _ := .candidateOutcome hdecided.bound
        rw [← hdecided.outcomeRef]
        refine ⟨?_, hreferred.valid _ _ _ _ hbound⟩
        rw [(hheld.kinded _ _ _ _ hbound).2]
        exact hreferred.current _ _ _ _ hbound

/-- **The history of the human model** of every run. -/
theorem promotionHistory_run (h₀ : AuthorityInit s₀) (hrun : Run (AuthorityStep o) s₀ is s) :
    ∀ row ∈ s.db.runs, PromotionHistory o s₀ is s.db row.projection := by
  refine hrun.history (P := fun is s => ∀ row ∈ s.db.runs,
    PromotionHistory o s₀ is s.db row.projection) ?_ ?_
  · intro row hrow
    rw [AuthorityInit] at h₀
    rw [h₀] at hrow
    cases hrow
  · intro js u j v hjs hP hj row hrow
    have hreach : Reachable AuthorityInit (AuthorityStep o) u := ⟨s₀, js, h₀, hjs⟩
    obtain ⟨hadmits, -, hdb | ⟨c, hc⟩⟩ := authorityStep_cases hj
    · rw [hdb] at hrow ⊢
      exact (hP row hrow).append [j] fun _ hrow => hrow
    · have hs := runsOk_reachable hreach
      rcases hc.mem_runs hs hadmits hrow with ⟨hrow, -⟩ | ⟨-, hprojection, -⟩
      · exact (hP row hrow).append [j] fun _ hrow => hc.mem_records.mpr (.inl hrow)
      · rw [hprojection]
        obtain ⟨hheld, -⟩ := hc.loadedHeld hs hadmits
        rcases loadRun_eq_ok hc.loaded with ⟨old, hold, hloaded⟩ | ⟨-, -, -, hloaded⟩
        · have hmem := (run_eq_some hold).1
          refine PromotionHistory.commit ?_ ?_ hheld hjs hj hs hadmits hc
          · rw [← hloaded]
            exact hP old hmem
          · rw [← hloaded]
            exact referred_reachable hreach old hmem
        · refine PromotionHistory.commit ?_ ?_ hheld hjs hj hs hadmits hc
          · rw [hloaded]
            exact ⟨fun _ hx => (by cases hx), fun _ hx => (by cases hx)⟩
          · rw [hloaded]
            exact referred_pending ..

/-! ### The promotion -/

/-- The call presents a proof of the kind, for its command, that has not expired. -/
def PresentsProof (i : TransactInputV1) (kind : ProductionProofKindV1) : Prop :=
  ∃ envelope ∈ i.command.proofs, envelope.claims.proofKind = kind ∧
    proofAssertionAllows envelope.claims = true ∧ i.trustedNow < envelope.claims.expiresAt ∧
    canonicalDigestV1 unsignedCommandDomain (IdrCommandEnvelopeV1.Unsigned.mk i.command) =
      .ok envelope.claims.subjectDigest

/-- **What a decision rests on**, for the lifecycle it leads to. -/
structure PromotesTo (p : IdrRunProjectionV1) (i : TransactInputV1)
    (candidate decision : AuthoritativeRecordV1) (outcomeRef : AuthoritativeRecordRefV1)
    (lifecycleState : Text) : Prop where
  outcome : ∃ outcome, decision.payload.get "outcome" = some (.string outcome) ∧
    promotedLifecycleState outcome = some lifecycleState
  candidateDigest : decision.payload.get "candidate_digest" =
    some (.string candidate.recordRef.recordDigest)
  candidateCurrent : CurrentRecord p candidate.recordRef
  outcomeCurrent : CurrentRecord p outcomeRef
  promotion : PresentsProof i .humanModelPromotion
  userConfirmed : lifecycleState = "user_confirmed" → PresentsProof i .humanModelUserConfirmation
  outcomeSupported : lifecycleState = "outcome_supported" → PresentsProof i .outcomeObservation

/-- The call records the candidate, on the outcome. -/
def ProposesCandidate (o : PostgresIdrOrchestratorV1) (candidate : AuthoritativeRecordV1)
    (outcomeRef : AuthoritativeRecordRefV1) (_ : List TransactInputV1) (s : AuthorityStateV1)
    (i : TransactInputV1) (t : AuthorityStateV1) : Prop :=
  ∃ c, Commits o s.db i c t.db ∧ c.record = some candidate ∧
    c.loaded.outcomeBinding = some outcomeRef ∧
    validateHumanModelCandidate candidate.payload = .ok ()

/-- The call records the decision to promote the candidate. -/
def DecidesPromotion (o : PostgresIdrOrchestratorV1) (candidate decision : AuthoritativeRecordV1)
    (outcomeRef : AuthoritativeRecordRefV1) (lifecycleState : Text) (_ : List TransactInputV1)
    (s : AuthorityStateV1) (i : TransactInputV1) (t : AuthorityStateV1) : Prop :=
  ∃ c, Commits o s.db i c t.db ∧ c.record = some decision ∧
    PromotesTo c.loaded i candidate decision outcomeRef lifecycleState

/-- **A sound promotion**: the assertion that a commit issues, from a candidate and a decision that
earlier calls have recorded. -/
structure PromotionSound (o : PostgresIdrOrchestratorV1) (s₀ : AuthorityStateV1)
    (is : List TransactInputV1) (i : TransactInputV1) (c : CommitV1)
    (assertion candidate decision : AuthoritativeRecordV1) (outcomeRef : AuthoritativeRecordRefV1)
    (lifecycleState : Text) : Prop where
  issued : c.record = some assertion
  proposed : Happened (AuthorityStep o) (ProposesCandidate o candidate outcomeRef) s₀ is
  decided : Happened (AuthorityStep o)
    (DecidesPromotion o candidate decision outcomeRef lifecycleState) s₀ is
  payload : Materialized assertion.payload candidate.payload candidate.recordRef decision.recordRef
    lifecycleState
  evidence : lifecycleState = "provisional" → DistinctEvidence assertion.payload
  until_proofs : ∀ envelope ∈ i.command.proofs,
    assertion.recordRef.validUntil ≤ envelope.claims.expiresAt
  until_decision : assertion.recordRef.validUntil ≤ decision.recordRef.validUntil
  until_candidate : assertion.recordRef.validUntil ≤ candidate.recordRef.validUntil
  candidateCurrent : CurrentRecord c.loaded candidate.recordRef
  decisionCurrent : CurrentRecord c.loaded decision.recordRef
  outcomeCurrent : CurrentRecord c.loaded outcomeRef

omit [Crypto] in
/-- The outcome that leads to a lifecycle. -/
theorem promotedLifecycleState_eq_some {outcome lifecycleState : Text}
    (h : promotedLifecycleState outcome = some lifecycleState) :
    outcome = "promote_provisional" ∧ lifecycleState = "provisional" ∨
      outcome = "promote_user_confirmed" ∧ lifecycleState = "user_confirmed" ∨
      outcome = "promote_outcome_supported" ∧ lifecycleState = "outcome_supported" := by
  unfold promotedLifecycleState at h
  split at h
  case isTrue houtcome => exact .inl ⟨houtcome, (Option.some.inj h).symm⟩
  case isFalse =>
    split at h
    case isTrue houtcome => exact .inr (.inl ⟨houtcome, (Option.some.inj h).symm⟩)
    case isFalse =>
      split at h
      case isTrue houtcome => exact .inr (.inr ⟨houtcome, (Option.some.inj h).symm⟩)
      case isFalse => cases h

/-- The proposal of a candidate that was recorded. -/
theorem Happened.proposal {record : AuthoritativeRecordV1} {x : HumanModelCandidateProjectionV1}
    (h : Happened (AuthorityStep o) (RecordsCandidate o record x) s₀ is) :
    ∃ p, CandidateProposed p record x := by
  obtain ⟨-, j, -, u, v, -, -, -, c, -, -, hproposed⟩ := h
  exact ⟨c.loaded, hproposed⟩

/-- The decision of a promotion that was recorded. -/
theorem Happened.decision {record : AuthoritativeRecordV1} {x : HumanModelPromotionProjectionV1}
    {source : HumanModelCandidateProjectionV1}
    (h : Happened (AuthorityStep o) (RecordsPromotion o record x source) s₀ is) :
    ∃ p proofs, PromotionDecided p proofs record x source := by
  obtain ⟨-, j, -, u, v, -, -, -, c, -, -, hdecided, -⟩ := h
  exact ⟨c.loaded, c.verifiedProofs, hdecided⟩

/-- A verified proof is one that the call presents. -/
theorem Commits.presents (h : Commits o s.db i c t.db) {kind : ProductionProofKindV1}
    (hproof : ∃ proof ∈ c.verifiedProofs, proof.proofKind = kind) : PresentsProof i kind := by
  obtain ⟨proof, hproof, rfl⟩ := hproof
  have hverified := h.verified
  simp only [PostgresIdrOrchestratorV1.verifyProofsInsideTransaction, bind_eq_ok, rejectIf_eq_ok,
    exists_const] at hverified
  obtain ⟨-, digest, -, hallowed, subject, -, hproofs⟩ := hverified
  obtain ⟨envelope, henvelope, hone⟩ := mem_of_mapM_eq_ok hproofs hproof
  simp only [PostgresIdrOrchestratorV1.verifyCommandProof, bind_eq_ok, okOr_eq_ok,
    fromProtocol_eq_ok] at hone
  obtain ⟨issuer, -, hone⟩ := hone
  obtain ⟨-, -, -, hkind, hexpires, hnow, -⟩ := TrustRootSnapshotV1.verifyAt_eq_ok hone
  refine ⟨envelope, henvelope, hkind.symm, ?_, hexpires ▸ hnow,
    verifyProofs_subjectDigest h.verified henvelope⟩
  by_contra hno
  apply hallowed
  rw [List.any_eq_true]
  exact ⟨envelope, henvelope, by simp [hno]⟩

/-- **The human-model promotion chain is sound.** -/
theorem promotion_chain_sound (h₀ : AuthorityInit s₀) (hrun : Run (AuthorityStep o) s₀ is s)
    (hadmits : s.admits i) (h : Commits o s.db i c t.db) {submission : CandidateSubmissionV1}
    {decisionRef : AuthoritativeRecordRefV1}
    (hcommand : i.command.command = .promoteHumanModelAssertion submission decisionRef) :
    ∃ assertion candidate decision outcomeRef lifecycleState, decision.recordRef = decisionRef ∧
      PromotionSound o s₀ is i c assertion candidate decision outcomeRef lifecycleState := by
  have hreach : Reachable AuthorityInit (AuthorityStep o) s := ⟨s₀, is, h₀, hrun⟩
  have hs := runsOk_reachable hreach
  have hok := lineageOk_reachable hreach
  obtain ⟨hheld, hkinded⟩ := h.loadedHeld hs hadmits
  have hquiet : ¬ Revokes o s.db i c.loaded := by
    rw [Revokes, reverify_quiet (by rw [hcommand]; rfl)]
    intro h
    cases h
  obtain ⟨-, r, hr, hrecord, -⟩ := h.evaluates hs hadmits hquiet
  simp only [evaluateCommand, hcommand] at hr
  obtain ⟨assertion, promotion, source, lifecycleState, hassertion, hpromoted⟩ :=
    evaluatePromoteHumanModelAssertion_promoted hr
  -- the run of the command is stored, as it has a promotion
  have hstored : Referred s.db c.loaded ∧ PromotionHistory o s₀ is s.db c.loaded := by
    rcases loadRun_eq_ok h.loaded with ⟨row, hrow, hloaded⟩ | ⟨-, -, -, hloaded⟩
    · have hmem := (run_eq_some hrow).1
      rw [← hloaded]
      exact ⟨referred_reachable hreach row hmem,
        promotionHistory_run h₀ hrun row hmem⟩
    · have hbound := hpromoted.boundPromotion
      rw [hloaded] at hbound
      cases hbound
  obtain ⟨hreferred, hhistory⟩ := hstored
  obtain ⟨decision, source', hdecided, candidate', hrow', hcandidate'⟩ :=
    hhistory.promotion promotion hpromoted.boundPromotion
  obtain ⟨candidate, hrow, hcandidate⟩ := hhistory.candidate source hpromoted.bound
  obtain ⟨d, proofs, hdecision⟩ := hdecided.decision
  obtain ⟨e, hproposed⟩ := hcandidate.proposal
  obtain ⟨e', hproposed'⟩ := hcandidate'.proposal
  -- the candidate that is bound is the one that the decision was made on
  obtain rfl : candidate = candidate' := by
    have hkey : candidate.recordRef = candidate'.recordRef := by
      rw [← hproposed.candidateRef, ← hproposed'.candidateRef, hpromoted.sourceCandidateRef,
        hdecision.sourceCandidateRef]
    have hrows := hok.keys.eq hrow hrow' (by
      show candidate.recordRef.key = candidate'.recordRef.key
      rw [hkey])
    exact congrArg ContractRow.record hrows
  have hsourceRef : promotion.sourceCandidateRef = candidate.recordRef :=
    hpromoted.sourceCandidateRef.symm.trans hproposed.candidateRef
  have hdecisionRef : decision.recordRef = decisionRef :=
    hdecision.decisionRef.symm.trans hpromoted.boundDecision
  have hsource : Holds c.loaded.bindings _ _ _ _ := .promotionSource hpromoted.boundPromotion
  have houtcome : Holds c.loaded.bindings _ _ _ _ := .promotionOutcome hpromoted.boundPromotion
  have hmaterialized := hpromoted.materialized
  rw [hproposed.materializedPayload, hsourceRef, hdecision.decisionRef] at hmaterialized
  refine ⟨assertion, candidate, decision, promotion.outcomeRef, lifecycleState, hdecisionRef, {
    issued := hrecord.trans hassertion
    proposed := hcandidate'.mono ?_
    decided := hdecided.mono ?_
    payload := hmaterialized
    evidence := ?_
    until_proofs := ?_
    until_decision := hdecision.decisionRef ▸ hpromoted.until_decision
    until_candidate := hsourceRef ▸ hpromoted.until_candidate
    candidateCurrent := ?_
    decisionCurrent := hdecisionRef ▸ ⟨hpromoted.current, hpromoted.valid⟩
    outcomeCurrent := ?_ }⟩
  · rintro js w j x ⟨f, hf, hissued, hproposed⟩
    refine ⟨f, hf, hissued, ?_, hproposed.valid⟩
    rw [hproposed.outcome, hdecision.outcomeRef]
  · rintro js w j x ⟨f, hf, hissued, hdecided, hcurrent, houtcome⟩
    refine ⟨f, hf, hissued, {
      outcome := ⟨_, hdecided.outcome, hpromoted.promoted⟩
      candidateDigest := hsourceRef ▸ hdecided.candidateDigest
      candidateCurrent := hsourceRef ▸ hcurrent
      outcomeCurrent := houtcome
      promotion := hf.presents hdecided.promotionProof
      userConfirmed := ?_
      outcomeSupported := ?_ }⟩
    · intro hlifecycle
      rcases promotedLifecycleState_eq_some hpromoted.promoted with ⟨-, h⟩ | ⟨houtcome, -⟩ | ⟨-, h⟩
      · exact absurd (h.symm.trans hlifecycle) (by decide)
      · exact hf.presents (hdecided.userConfirmation houtcome)
      · exact absurd (h.symm.trans hlifecycle) (by decide)
    · intro hlifecycle
      rcases promotedLifecycleState_eq_some hpromoted.promoted with ⟨-, h⟩ | ⟨-, h⟩ | ⟨houtcome, -⟩
      · exact absurd (h.symm.trans hlifecycle) (by decide)
      · exact absurd (h.symm.trans hlifecycle) (by decide)
      · exact hf.presents (hdecided.outcomeObservation houtcome)
  · intro hlifecycle
    rcases promotedLifecycleState_eq_some hpromoted.promoted with ⟨houtcome, -⟩ | ⟨-, h⟩ | ⟨-, h⟩
    · -- the evidence of the candidate is that of the assertion
      obtain ⟨evidence, a, b, hevidence, hrest⟩ := hdecision.evidence houtcome
      rw [hproposed'.materializedPayload] at hevidence
      refine ⟨evidence, a, b, ?_, hrest⟩
      rw [hmaterialized.others _ (by decide), hevidence]
    · exact absurd (h.symm.trans hlifecycle) (by decide)
    · exact absurd (h.symm.trans hlifecycle) (by decide)
  · intro envelope henvelope
    obtain ⟨-, -, hfrom⟩ := verifyProofsInsideTransaction_eq_ok h.verified
    obtain ⟨proof, hproof, hverified⟩ := exists_mem_of_forall₂ hfrom henvelope
    rw [← hverified.expiresAt]
    exact hpromoted.until_proofs proof hproof
  · rw [← hsourceRef]
    refine ⟨?_, hreferred.valid _ _ _ _ hsource⟩
    rw [(hheld.kinded _ _ _ _ hsource).2]
    exact hreferred.current _ _ _ _ hsource
  · refine ⟨?_, hreferred.valid _ _ _ _ houtcome⟩
    rw [(hheld.kinded _ _ _ _ houtcome).2]
    exact hreferred.current _ _ _ _ houtcome

end History

end Commit

/-! ### Sample calls with every kind of proof -/

namespace Sample

/-- Every kind of proof. -/
def everyKind : List ProductionProofKindV1 :=
  signedKinds ++ [.responsePolicy, .responseAdmission, .outcomeObservation, .humanModelPromotion,
    .humanModelUserConfirmation, .humanModelCorrection]

/-- The sample orchestrator, with an issuer for every kind of proof. -/
def fullOrchestrator : PostgresIdrOrchestratorV1 :=
  { orchestrator with expectedIssuers := everyKind.map fun kind => (kind, issuer) }

def fullTrustRoot : TrustRootSnapshotV1 :=
  { trustRoot with keys := trustRoot.keys.map fun key =>
      (key.1, { key.2 with allowedProofKinds := everyKind }) }

section Calls

variable [Crypto]

/-- A command with the proofs it requires, of whatever kind. -/
def fullySigned (expiresAt n : Nat) (command : IdrCommandEnvelopeV1) : IdrCommandEnvelopeV1 :=
  match command.proofSubject, expectedPrincipalDigest command with
  | .ok subject, .ok principalDigest =>
    { command with
      proofs := (everyKind.filter (· ∈ command.requiredProofKinds)).mapIdx fun k kind =>
        signedProof command subject principalDigest expiresAt (20 * n + k) kind }
  | _, _ => command

/-- A command at a time, from a caller, as the run stands. -/
def fullyCalled (now : Nat) (caller : ReferenceV1) (command : IdrRunProjectionV1 → IdrCommandV1)
    (s : AuthorityStateV1) : TransactInputV1 :=
  let n := s.db.commandReceipts.length + 1
  let unsigned := envelope (projection s).aggregateVersion caller (command (projection s))
  { call n now unsigned with
    command :=
      fullySigned (now + 50000) n { unsigned with commandId := BitVec.ofNat 128 (200000 + n) }
    trustRoot := fullTrustRoot }

theorem fullySigned_eq (expiresAt n : Nat) (command : IdrCommandEnvelopeV1) :
    ∃ proofs, fullySigned expiresAt n command = { command with proofs } := by
  unfold fullySigned
  split
  · exact ⟨_, rfl⟩
  · exact ⟨command.proofs, rfl⟩

/-- A call submits the command it is made of, for the sample run. -/
theorem fullyCalled_command (now : Nat) (caller : ReferenceV1)
    (command : IdrRunProjectionV1 → IdrCommandV1) (s : AuthorityStateV1) :
    (fullyCalled now caller command s).command.command = command (projection s) ∧
      (fullyCalled now caller command s).command.runId = runId := by
  unfold fullyCalled
  obtain ⟨proofs, hsigned⟩ := fullySigned_eq (now + 50000) (s.db.commandReceipts.length + 1)
    { envelope (projection s).aggregateVersion caller (command (projection s)) with
      commandId := BitVec.ofNat 128 (200000 + (s.db.commandReceipts.length + 1)) }
  dsimp only
  rw [hsigned]
  exact ⟨rfl, rfl⟩

end Calls

end Sample

end Idr
