/-
Idr/TrustChain/Basis.lean

What a record and a binding rest on.

The kinds of records are ordered by lineage: a record depends on records
of earlier kinds only (`dependencyKinds_rank`), and up to the action it is
issued while all of these are current and valid (`evaluateCommand_basis`).

A binding of the projection is held by a record of its own kind and may
refer to further records (`Holds`).  The holder is always current, and a
closure that reaches the holder drops the binding.  So a binding that
outlives a closure refers to nothing the closure withdraws, provided that
whatever reaches one of its references also reaches its holder; that this
is so is a matter of the stored edges.
-/
import Idr.TrustChain.Dependencies
import Idr.TrustChain.Identity

namespace Idr

/-! ### The order of the kinds -/

/-- The place of a kind in the order of lineage. -/
def CandidateKindV1.rank : CandidateKindV1 → Nat
  | .canonicalInput => 0
  | .contextSnapshot => 1
  | .intent => 2
  | .decision => 3
  | .turnCoordination => 4
  | .response => 5
  | .action => 6
  | .actionAdmissionDecision => 7
  | .executionReceipt => 8
  | .outcome => 9
  | .humanModelCandidate => 10
  | .humanModelPromotionDecision => 11
  | .humanModelAssertion => 12

/-- A record depends on records of earlier kinds. -/
theorem dependencyKinds_rank {records : CandidateKindV1 → Option AuthoritativeRecordRefV1}
    {c : IdrCommandV1} {kind k : CandidateKindV1} (hc : c.issuedKind = some kind)
    (hk : k ∈ dependencyKinds records c) : k.rank < kind.rank := by
  cases c <;>
    simp only [dependencyKinds, List.mem_cons, List.not_mem_nil, or_false] at hk <;>
    cases hc
  case recordTurn => rcases hk with rfl | rfl <;> decide
  case recordAction =>
    rcases hk with rfl | rfl
    · decide
    · split <;> decide
  all_goals
    subst hk
    decide

/-! ### The basis of an issued record -/

section Basis

variable {p : IdrRunProjectionV1}

theorem requireRecordAt_eq_ok {kind : CandidateKindV1} {now : Nat} {u : Unit}
    (h : requireRecordAt p kind now = .ok u) :
    ∃ x, p.records kind = some x ∧ x ∉ p.invalidatedRecords := by
  unfold requireRecordAt at h
  split at h
  next x hx =>
    simp only [require_eq_ok] at h
    exact ⟨x, hx, h.2⟩
  next => cases h

variable [Crypto]

/-- **The basis of a record** up to the action: what it depends on is current and valid. -/
theorem evaluateCommand_basis {fresh : FreshIdsV1} {command : IdrCommandEnvelopeV1} {now : Nat}
    {proofs : List VerifiedProductionProofV1} {r : ArmResultV1} {kind k : CandidateKindV1}
    (h : evaluateCommand fresh p command now proofs = .ok r)
    (hissued : command.command.issuedKind = some kind) (hkind : kind.rank ≤ 6)
    (hk : k ∈ dependencyKinds p.records command.command) :
    ∃ x, p.records k = some x ∧ x ∉ p.invalidatedRecords := by
  unfold evaluateCommand at h
  split at h <;> rename_i hcommand <;> rw [hcommand] at hissued hk <;>
    simp only [dependencyKinds, List.mem_cons, List.not_mem_nil, or_false] at hk
  case h_2 =>
    simp only [evaluateRecordContext, bind_eq_ok] at h
    obtain ⟨u, hinput, -⟩ := h
    rw [hk]
    exact requireRecordAt_eq_ok hinput
  case h_3 =>
    simp only [evaluateRecordIntent, bind_eq_ok] at h
    obtain ⟨u, hcontext, -⟩ := h
    rw [hk]
    exact requireRecordAt_eq_ok hcontext
  case h_4 =>
    simp only [evaluateRecordDecision, bind_eq_ok] at h
    obtain ⟨u, hintent, -⟩ := h
    rw [hk]
    exact requireRecordAt_eq_ok hintent
  case h_5 =>
    simp only [evaluateRecordTurn, bind_eq_ok] at h
    obtain ⟨u, hintent, v, hdecision, -⟩ := h
    rcases hk with rfl | rfl
    · exact requireRecordAt_eq_ok hintent
    · exact requireRecordAt_eq_ok hdecision
  case h_6 =>
    simp only [evaluateRecordResponse, bind_eq_ok] at h
    obtain ⟨u, hturn, -⟩ := h
    rw [hk]
    exact requireRecordAt_eq_ok hturn
  case h_8 =>
    simp only [evaluateRecordAction, bind_eq_ok] at h
    obtain ⟨u, hturn, v, hdecision, -⟩ := h
    have hdecision := requireRecordAt_eq_ok hdecision
    -- a decision is there, so the action rests on it and not on the intent
    rw [if_pos (by obtain ⟨x, hx, -⟩ := hdecision; rw [hx]; rfl)] at hk
    rcases hk with rfl | rfl
    · exact requireRecordAt_eq_ok hturn
    · exact hdecision
  all_goals
    cases hissued
    exact absurd hkind (by decide)

end Basis

/-! ### The seal of an issued record -/

section Seal

variable [Crypto] {fresh : FreshIdsV1} {p : IdrRunProjectionV1} {command : IdrCommandEnvelopeV1}
  {now : Nat} {proofs : List VerifiedProductionProofV1}

/-- The record is what its digest material and the digest of that make up. -/
def Sealed (record : AuthoritativeRecordV1) : Prop :=
  ∃ material digest, record = AuthoritativeRecordDigestMaterialV1.toRecord material digest ∧
    canonicalDigestV1 recordDigestDomain material = .ok digest

/-- The record was issued at a time, from a candidate or by the runtime itself. -/
inductive IssuedAt (now : Nat) (record : AuthoritativeRecordV1) : Prop
  | candidate {candidate : CandidateSubmissionV1} {command : IdrCommandEnvelopeV1}
      {proofs : List VerifiedProductionProofV1} {trustDomain : TrustDomainV1} {recordId : Uuid}
      {revision : Nat}
      (h : issueRecord candidate command now proofs trustDomain recordId revision = .ok record)
  | internal {fresh : FreshIdsV1} {kind : CandidateKindV1} {payload : Value}
      {command : IdrCommandEnvelopeV1} {projection : IdrRunProjectionV1} {validUntil : Nat}
      {proofs : List VerifiedProductionProofV1} {recordId : Uuid} {revision : Nat}
      (h : issueInternalRecord fresh kind payload command projection now validUntil proofs recordId
        revision = .ok record)

/-- **Every issued record is sealed.** -/
theorem IssuedAt.isSealed {record : AuthoritativeRecordV1} (h : IssuedAt now record) :
    Sealed record := by
  cases h with
  | candidate h =>
    simp only [issueRecord, bind_eq_ok, fromProtocol_eq_ok, Except.ok.injEq] at h
    obtain ⟨_, -, _, -, candidateDigest, -, digest, hdigest, rfl⟩ := h
    exact ⟨_, digest, rfl, hdigest⟩
  | internal h =>
    simp only [issueInternalRecord, bind_eq_ok, fromProtocol_eq_ok, Except.ok.injEq] at h
    obtain ⟨_, -, subject, -, turn, -, candidateDigest, -, digest, hdigest, rfl⟩ := h
    exact ⟨_, digest, rfl, hdigest⟩

/-- **The record of an evaluation was issued in it.** -/
theorem evaluateCommand_issued : Ensures (evaluateCommand fresh p command now proofs) fun r =>
    ∀ record, r.authoritativeRecord = some record → IssuedAt now record := by
  unfold evaluateCommand
  split
  all_goals
    simp only [evaluateStartRun, evaluateRecordContext, evaluateRecordIntent,
      evaluateRecordDecision, evaluateRecordTurn, evaluateRecordResponse,
      evaluateConsumeResponseSend, evaluateRecordAction, evaluateAdmitAction,
      evaluateReserveExecution, evaluateRecoverPermit, evaluateDeliverPermit,
      evaluateStartDispatch, evaluatePermitStep, evaluateCommitExecutionReceipt,
      evaluateReconcileExecution, evaluateExpireExecutionLease, evaluateInvalidateRecord,
      evaluateRecordOutcome, evaluateProposeHumanModelCandidate, evaluateRecordHumanModelPromotion,
      evaluatePromoteHumanModelAssertion, evaluateCorrectHumanModelAssertion, evaluateCancelRun]
    with_reducible repeat' first
      | exact ensures_error
      | refine ensures_bind fun _ _ => ?_
      | refine ensures_ite (fun _ => ?_) (fun _ => ?_)
      | rw [ensures_ok]
  all_goals
    rintro record ⟨⟩ <;> first
      | exact .candidate (by with_reducible assumption)
      | exact .internal (by with_reducible assumption)

theorem runTransition_sealed {i : RunInputV1} {t : IdrTransitionV1}
    (h : runTransition p i = .ok t) {record : AuthoritativeRecordV1}
    (hrecord : t.authoritativeRecord = some record) : Sealed record := by
  rcases hrevokes : i.revokes with _ | _
  · obtain ⟨r, -, hr, -, hissued⟩ := runTransition_evaluates hrevokes h
    exact (evaluateCommand_issued r hr record (hissued ▸ hrecord)).isSealed
  · have hrecords := (runTransition_records h).2
    rw [hrevokes] at hrecords
    cases hrecords with
    | revoked _ hnone =>
      rw [hnone] at hrecord
      cases hrecord

end Seal

/-! ### Bindings and their holders -/

/-- A binding that the record `holder` holds refers to the record `ref`; with the kinds the two are
meant to have. -/
inductive Holds (b : RunBindings) : CandidateKindV1 → AuthoritativeRecordRefV1 →
    CandidateKindV1 → AuthoritativeRecordRefV1 → Prop
  | decision {x} : b.decision = some x → Holds b .decision x.decisionRef .decision x.decisionRef
  | action {x} : b.action = some x → Holds b .action x.actionRef .action x.actionRef
  | admission {x} : b.admission = some x →
      Holds b .actionAdmissionDecision x.admissionRef .actionAdmissionDecision x.admissionRef
  | admissionAction {x} : b.admission = some x →
      Holds b .actionAdmissionDecision x.admissionRef .action x.actionRef
  | response {x} : b.response = some x → Holds b .response x.responseRef .response x.responseRef
  | outcome {x} : b.outcome = some x → Holds b .outcome x .outcome x
  | candidate {x} : b.candidate = some x →
      Holds b .humanModelCandidate x.candidateRef .humanModelCandidate x.candidateRef
  | candidateOutcome {x} : b.candidate = some x →
      Holds b .humanModelCandidate x.candidateRef .outcome x.outcomeRef
  | promotion {x} : b.promotion = some x →
      Holds b .humanModelPromotionDecision x.decisionRef .humanModelPromotionDecision x.decisionRef
  | promotionSource {x} : b.promotion = some x →
      Holds b .humanModelPromotionDecision x.decisionRef .humanModelCandidate x.sourceCandidateRef
  | promotionOutcome {x} : b.promotion = some x →
      Holds b .humanModelPromotionDecision x.decisionRef .outcome x.outcomeRef

section Bindings

variable {b c : RunBindings} {kind k : CandidateKindV1} {holder ref : AuthoritativeRecordRefV1}

theorem Holds.of_le (h : Holds b kind holder k ref) (hle : b.Le c) :
    Holds c kind holder k ref := by
  cases h with
  | decision hx => exact .decision (hle.decision _ hx)
  | action hx => exact .action (hle.action _ hx)
  | admission hx => exact .admission (hle.admission _ hx)
  | admissionAction hx => exact .admissionAction (hle.admission _ hx)
  | response hx => exact .response (hle.response _ hx)
  | outcome hx => exact .outcome (hle.outcome _ hx)
  | candidate hx => exact .candidate (hle.candidate _ hx)
  | candidateOutcome hx => exact .candidateOutcome (hle.candidate _ hx)
  | promotion hx => exact .promotion (hle.promotion _ hx)
  | promotionSource hx => exact .promotionSource (hle.promotion _ hx)
  | promotionOutcome hx => exact .promotionOutcome (hle.promotion _ hx)

/-- A binding refers to its holder, and beside it to records of earlier kinds. -/
theorem Holds.rank (h : Holds b kind holder k ref) : ref = holder ∨ k.rank < kind.rank := by
  cases h with
  | decision | action | admission | response | outcome | candidate | promotion => exact .inl rfl
  | admissionAction | candidateOutcome | promotionSource | promotionOutcome =>
    right
    decide

/-- The holder of a binding is of a kind that leaves one. -/
theorem Holds.bound (h : Holds b kind holder k ref) :
    kind.unbound = false ∧ kind ≠ .humanModelAssertion := by
  cases h <;> exact ⟨rfl, nofun⟩

/-- No binding refers to an assertion. -/
theorem Holds.ref_ne (h : Holds b kind holder k ref) : k ≠ .humanModelAssertion := by
  cases h <;> nofun

end Bindings

/-! ### The bindings after an arm -/

/-- The kind of the record that a binding takes further references from. -/
def CandidateKindV1.basis : CandidateKindV1 → Option CandidateKindV1
  | .actionAdmissionDecision => some .action
  | .humanModelCandidate => some .outcome
  | .humanModelPromotionDecision => some .humanModelCandidate
  | _ => none

section Arm

variable [Crypto] {fresh : FreshIdsV1} {p : IdrRunProjectionV1} {c : IdrCommandV1}
  {proofs : List VerifiedProductionProofV1} {b : RunBindings}
  {invalidated : List AuthoritativeRecordRefV1} {issued : Option AuthoritativeRecordV1}
  {kind k : CandidateKindV1} {holder ref : AuthoritativeRecordRefV1}

/-- A binding after an arm is one from before, held by another kind than that of the issued record,
or it is held by the issued record and refers to that and to what its basis refers to. -/
theorem ArmEffect.holds (h : ArmEffect fresh p c proofs b invalidated issued)
    (hb : Holds b kind holder k ref) :
    (Holds p.bindings kind holder k ref ∧
      ∀ record, issued = some record → kind ≠ record.recordRef.candidateKind) ∨
    ∃ record, issued = some record ∧ holder = record.recordRef ∧
      kind = record.recordRef.candidateKind ∧
      (k = kind ∧ ref = holder ∨
        ∃ kind' holder', kind.basis = some kind' ∧ Holds p.bindings kind' holder' k ref) := by
  cases h with
  | quiet | invalidated => exact .inl ⟨hb, fun _ h => by cases h⟩
  | recorded hc hunbound hnext =>
    refine .inl ⟨hb, ?_⟩
    rintro record ⟨⟩ hkind
    have hbound := hb.bound.1
    rw [hkind, hnext.1, hunbound] at hbound
    cases hbound
  | asserted hc hnext =>
    refine .inl ⟨hb, ?_⟩
    rintro record ⟨⟩ hkind
    exact hb.bound.2 (hkind.trans hnext.1)
  | corrected hc _ _ hassertion =>
    refine .inl ⟨hb, ?_⟩
    rintro record ⟨⟩ hkind
    exact hb.bound.2 (hkind.trans hassertion)
  | decided hc hnext =>
    by_cases hkind : kind = .decision
    · subst hkind
      cases hb with
      | decision hx =>
        cases hx
        exact .inr ⟨_, rfl, rfl, hnext.1.symm, .inl ⟨rfl, rfl⟩⟩
    · exact .inl ⟨by cases hb <;> first | exact absurd rfl hkind | (constructor; assumption),
        by rintro record ⟨⟩; rw [hnext.1]; exact hkind⟩
  | responded hc hnext href =>
    by_cases hkind : kind = .response
    · subst hkind
      cases hb with
      | response hx =>
        cases hx
        exact .inr ⟨_, rfl, href, hnext.1.symm, .inl ⟨rfl, rfl⟩⟩
    · exact .inl ⟨by cases hb <;> first | exact absurd rfl hkind | (constructor; assumption),
        by rintro record ⟨⟩; rw [hnext.1]; exact hkind⟩
  | acted hc hnext =>
    by_cases hkind : kind = .action
    · subst hkind
      cases hb with
      | action hx =>
        cases hx
        exact .inr ⟨_, rfl, rfl, hnext.1.symm, .inl ⟨rfl, rfl⟩⟩
    · refine .inl ⟨?_, by rintro record ⟨⟩; rw [hnext.1]; exact hkind⟩
      -- the admission of the action before is gone
      cases hb with
      | admission hx | admissionAction hx => cases hx
      | _ => first | exact absurd rfl hkind | (constructor; assumption)
  | observed hc hnext =>
    by_cases hkind : kind = .outcome
    · subst hkind
      cases hb with
      | outcome hx =>
        cases hx
        exact .inr ⟨_, rfl, rfl, hnext.1.symm, .inl ⟨rfl, rfl⟩⟩
    · exact .inl ⟨by cases hb <;> first | exact absurd rfl hkind | (constructor; assumption),
        by rintro record ⟨⟩; rw [hnext.1]; exact hkind⟩
  | @admitted a binding record digest hc hnext hfrom =>
    by_cases hkind : kind = .actionAdmissionDecision
    · subst hkind
      cases hb with
      | admission hx =>
        cases hx
        exact .inr ⟨_, rfl, hfrom.admissionRef, hnext.1.symm, .inl ⟨rfl, rfl⟩⟩
      | admissionAction hx =>
        cases hx
        have hbound : Holds p.bindings .action a.actionRef .action a.actionRef := by
          rw [hfrom.actionRef]
          exact .action hfrom.action
        exact .inr ⟨_, rfl, hfrom.admissionRef, hnext.1.symm, .inr ⟨_, _, rfl, hbound⟩⟩
    · exact .inl ⟨by cases hb <;> first | exact absurd rfl hkind | (constructor; assumption),
        by rintro record ⟨⟩; rw [hnext.1]; exact hkind⟩
  | proposed hc hnext href houtcome =>
    by_cases hkind : kind = .humanModelCandidate
    · subst hkind
      cases hb with
      | candidate hx =>
        cases hx
        exact .inr ⟨_, rfl, href, hnext.1.symm, .inl ⟨rfl, rfl⟩⟩
      | candidateOutcome hx =>
        cases hx
        exact .inr ⟨_, rfl, href, hnext.1.symm, .inr ⟨_, _, rfl, .outcome houtcome⟩⟩
    · exact .inl ⟨by cases hb <;> first | exact absurd rfl hkind | (constructor; assumption),
        by rintro record ⟨⟩; rw [hnext.1]; exact hkind⟩
  | promoted hc hnext href hsource hcandidate houtcome =>
    by_cases hkind : kind = .humanModelPromotionDecision
    · subst hkind
      cases hb with
      | promotion hx =>
        cases hx
        exact .inr ⟨_, rfl, href, hnext.1.symm, .inl ⟨rfl, rfl⟩⟩
      | promotionSource hx =>
        cases hx
        have hbound : Holds p.bindings _ _ _ _ := .candidate hsource
        rw [hcandidate] at hbound
        exact .inr ⟨_, rfl, href, hnext.1.symm, .inr ⟨_, _, rfl, hbound⟩⟩
      | promotionOutcome hx =>
        cases hx
        have hbound : Holds p.bindings _ _ _ _ := .candidateOutcome hsource
        rw [houtcome] at hbound
        exact .inr ⟨_, rfl, href, hnext.1.symm, .inr ⟨_, _, rfl, hbound⟩⟩
    · exact .inl ⟨by cases hb <;> first | exact absurd rfl hkind | (constructor; assumption),
        by rintro record ⟨⟩; rw [hnext.1]; exact hkind⟩

/-- What an arm invalidates is the record that its command names for it. -/
theorem ArmEffect.invalidates (h : ArmEffect fresh p c proofs b invalidated issued)
    {x : AuthoritativeRecordRefV1} (hx : x ∈ invalidated) :
    x ∈ p.invalidatedRecords ∨ p.records x.candidateKind = some x ∧
      ((∃ reason, c = .invalidateRecord x reason) ∨
        ∃ correction, c = .correctHumanModelAssertion x correction) := by
  have hmem : ∀ {y}, x ∈ insertRecordRef y p.invalidatedRecords → x = y ∨
      x ∈ p.invalidatedRecords :=
    fun hx => (mem_insertSorted compareRecordRef_eq).mp hx
  cases h with
  | quiet | recorded | decided | responded | acted | admitted | observed | proposed | promoted
  | asserted => exact .inl hx
  | corrected hc hcurrent =>
    rcases hmem hx with rfl | hx
    · exact .inr ⟨hcurrent, .inr ⟨_, hc⟩⟩
    · exact .inl hx
  | invalidated hc hcurrent =>
    rcases hmem hx with rfl | hx
    · exact .inr ⟨hcurrent, .inl ⟨_, hc⟩⟩
    · exact .inl hx

/-- The references of the bindings are of the kinds they are meant to have, and the holder of a
binding is the current record of its kind. -/
structure Held (p : IdrRunProjectionV1) : Prop where
  kinded : ∀ kind holder k ref, Holds p.bindings kind holder k ref →
    holder.candidateKind = kind ∧ ref.candidateKind = k
  current : ∀ kind holder k ref, Holds p.bindings kind holder k ref →
    p.records kind = some holder

end Arm

section Steps

variable [Crypto] {s t : RunStateV1} {i : RunInputV1} {p q : IdrRunProjectionV1}

omit [Crypto] in
/-- What binds less under the same references. -/
theorem Held.of_le (h : Held p) (hle : q.bindings.Le p.bindings)
    (hrecords : q.records = p.records) :
    Held q where
  kinded _ _ _ _ hholds := h.kinded _ _ _ _ (hholds.of_le hle)
  current _ _ _ _ hholds := by
    rw [hrecords]
    exact h.current _ _ _ _ (hholds.of_le hle)

/-- **What an arm does to the holders.** -/
theorem ArmEffect.held {fresh : FreshIdsV1} {c : IdrCommandV1}
    {proofs : List VerifiedProductionProofV1} {invalidated : List AuthoritativeRecordRefV1}
    {issued : Option AuthoritativeRecordV1}
    (harm : ArmEffect fresh p c proofs q.bindings invalidated issued) (h : Held p)
    (hrecords : q.records = (p.insertRecord issued).records) : Held q := by
  constructor <;> intro kind holder k ref hholds
  · rcases harm.holds hholds with ⟨hold, -⟩ | ⟨record, -, rfl, rfl, hsame | hold⟩
    · exact h.kinded _ _ _ _ hold
    · rw [hsame.1, hsame.2]
      exact ⟨rfl, rfl⟩
    · obtain ⟨kind', holder', -, hold⟩ := hold
      exact ⟨rfl, (h.kinded _ _ _ _ hold).2⟩
  · rw [hrecords]
    rcases harm.holds hholds with ⟨hold, hother⟩ | ⟨record, hissued, rfl, rfl, -⟩
    · have hcurrent := h.current _ _ _ _ hold
      rcases hissued : issued with _ | record
      · exact hcurrent
      · rw [insertRecord_of_ne (hother record hissued)]
        exact hcurrent
    · rw [hissued]
      exact insertRecord_self record

/-- **What one step does to the holders.** -/
theorem held_step (hs : Held s.projection) (hstep : RunStep s i t) : Held t.projection := by
  obtain ⟨-, -, -, transition, htransition, ht⟩ := runStep_eq_ok hstep
  obtain ⟨hframe, hrecords⟩ := runTransition_records htransition
  rw [ht]
  have hkept := hframe.records
  generalize i.revokes = revokes at hrecords
  cases hrecords with
  | revoked closure hnone hle =>
    rw [hnone] at hkept
    exact hs.of_le hle hkept
  | @evaluated bindings _ closure _ harm hle =>
    let q : IdrRunProjectionV1 := { transition.projection with
      decisionBinding := bindings.decision
      actionBinding := bindings.action
      actionAdmission := bindings.admission
      responseBinding := bindings.response
      outcomeBinding := bindings.outcome
      humanModelCandidate := bindings.candidate
      humanModelPromotion := bindings.promotion }
    have hq : Held q := ArmEffect.held (q := q) harm hs hkept
    exact hq.of_le hle rfl

theorem held_reachable (h : Reachable RunInit RunStep s) : Held s.projection := by
  refine h.invariant (P := fun s => Held s.projection) ?_ fun _ _ _ => held_step
  rintro s ⟨trustDomain, environmentRef, runId, tenantRef, hs⟩
  rw [hs]
  constructor <;> intro kind holder k ref hholds <;> cases hholds <;> rename_i hx <;> cases hx

end Steps

/-! ### Named dependencies -/

section Named

variable [Crypto] {fresh : FreshIdsV1} {p : IdrRunProjectionV1} {command : IdrCommandEnvelopeV1}
  {now : Nat} {proofs : List VerifiedProductionProofV1} {r : ArmResultV1}

/-- What a command names as a dependency is current, and of an earlier kind than the record it
issues, unless it is the target of a correction.  An admission names an action, a promotion a
candidate. -/
theorem evaluateCommand_named (h : evaluateCommand fresh p command now proofs = .ok r)
    (hheld : Held p) {x : AuthoritativeRecordRefV1} (hx : x ∈ namedDependencies command.command) :
    p.records x.candidateKind = some x ∧
      ((∃ kind, command.command.issuedKind = some kind ∧ x.candidateKind.rank < kind.rank ∧
          (kind = .actionAdmissionDecision → x.candidateKind = .action) ∧
          (kind = .humanModelPromotionDecision → x.candidateKind = .humanModelCandidate)) ∨
        ∃ correction, command.command = .correctHumanModelAssertion x correction) := by
  unfold evaluateCommand at h
  split at h <;> rename_i hcommand <;> rw [hcommand] at hx <;>
    simp only [namedDependencies, List.mem_singleton, List.not_mem_nil] at hx
  case h_9 =>
    subst hx
    simp only [evaluateAdmitAction, bind_eq_ok, exists_unit_eq_ok, okOr_eq_ok, rejectIf_eq_ok,
      exists_const, Option.filter_eq_some_iff, decide_eq_true_eq] at h
    obtain ⟨hcurrent, _, -, _, -, _, -, -, binding, ⟨hbinding, rfl⟩, -⟩ := h
    have haction := (hheld.kinded _ _ _ _ (.action hbinding)).1
    refine ⟨(requireExactCurrentRecordAt_eq_ok.mp hcurrent).1, .inl ⟨.actionAdmissionDecision,
      by rw [hcommand]; rfl, ?_, fun _ => haction, fun h => by cases h⟩⟩
    rw [haction]
    decide
  case h_20 =>
    subst hx
    simp only [evaluateRecordHumanModelPromotion, bind_eq_ok, exists_unit_eq_ok, rejectIf_eq_ok,
      exists_const, not_not] at h
    obtain ⟨hcurrent, hkind, -⟩ := h
    refine ⟨(requireExactCurrentRecordAt_eq_ok.mp hcurrent).1, .inl ⟨.humanModelPromotionDecision,
      by rw [hcommand]; rfl, ?_, fun h => (by cases h), fun _ => hkind⟩⟩
    rw [hkind]
    decide
  case h_21 =>
    subst hx
    simp only [evaluatePromoteHumanModelAssertion, bind_eq_ok, exists_unit_eq_ok, rejectIf_eq_ok,
      exists_const, not_not] at h
    obtain ⟨hcurrent, hkind, -⟩ := h
    refine ⟨(requireExactCurrentRecordAt_eq_ok.mp hcurrent).1, .inl ⟨.humanModelAssertion,
      by rw [hcommand]; rfl, ?_, fun h => (by cases h), fun h => by cases h⟩⟩
    rw [hkind]
    decide
  case h_22 =>
    subst hx
    simp only [evaluateCorrectHumanModelAssertion, bind_eq_ok, exists_unit_eq_ok] at h
    exact ⟨(requireExactGovernanceTarget_eq_ok.mp h.1).1, .inr ⟨_, hcommand⟩⟩

end Named

/-! ### The bindings after a closure -/

section Closure

variable {p : IdrRunProjectionV1} {kind k : CandidateKindV1}
  {holder ref : AuthoritativeRecordRefV1}

/-- The record of the closure drops what it holds. -/
theorem closeRecord_drops {record : AuthoritativeRecordRefV1} (hkinded : Held p)
    (h : Holds (closeRecord p record).bindings kind holder k ref) : holder ≠ record := by
  have hle := (closeRecord_closed p record).bindings
  have hbefore := h.of_le hle
  have hkind := (hkinded.kinded _ _ _ _ hbefore).1
  rintro rfl
  cases h with
  | decision hx | action hx | admission hx | admissionAction hx | response hx | promotion hx
  | promotionSource hx | promotionOutcome hx =>
    -- the binding is filtered by its holder
    simp [closeRecord, clearBindings, hkind, IdrRunProjectionV1.bindings,
      Option.filter_eq_some_iff] at hx
  | outcome hx =>
    have hbound : p.outcomeBinding = some holder := hle.outcome _ hx
    simp [closeRecord, clearBindings, hkind, IdrRunProjectionV1.bindings, hbound] at hx
  | candidate hx | candidateOutcome hx =>
    have hbound : p.humanModelCandidate = some _ := hle.candidate _ hx
    simp [closeRecord, clearBindings, hkind, IdrRunProjectionV1.bindings, hbound] at hx

/-- **A closure drops what its records hold.** -/
theorem foldl_closeRecord_drops (closure : List AuthoritativeRecordRefV1) :
    ∀ {p : IdrRunProjectionV1}, Held p →
      Holds (closure.foldl closeRecord p).bindings kind holder k ref → holder ∉ closure := by
  induction closure with
  | nil => exact fun _ _ hmem => (by cases hmem)
  | cons record closure ih =>
    intro p hheld hholds hmem
    rcases List.mem_cons.mp hmem with rfl | hmem
    · -- what is left in the end was left by the first record
      have hle := (foldl_closeRecord_closed closure (Idr.closeRecord p holder)).bindings
      exact closeRecord_drops hheld (hholds.of_le hle) rfl
    · have hclosed := closeRecord_closed p record
      exact ih (hheld.of_le hclosed.bindings hclosed.framed.records) hholds hmem

end Closure

end Idr
