/-
Idr/TrustChain/Records.lean

What one step does to the records of a run and to the bindings that refer
to them.

`ArmEffect` is the counterpart of `LifecycleEffect` for this half of the
projection: its constructors are the kinds of records an arm issues, and
its indices the bindings, the invalidated records and the issued record
afterwards.  Every issued record carries the identity of the run and the
policy revision of its command (`NewRecord`); under which record identity
and revision it is issued is `RecordIdentity`.

The closure of the repository only drops bindings and adds invalidated
records.  `runTransition_records` puts the parts together.
-/
import Idr.TrustChain.Lifecycle

namespace Idr

/-! ### Bindings -/

/-- The bindings of a projection: what it keeps of records beyond their references. -/
@[ext]
structure RunBindings where
  decision : Option DecisionBindingProjectionV1
  action : Option ActionBindingProjectionV1
  admission : Option ActionAdmissionProjectionV1
  response : Option ResponseBindingProjectionV1
  outcome : Option AuthoritativeRecordRefV1
  candidate : Option HumanModelCandidateProjectionV1
  promotion : Option HumanModelPromotionProjectionV1

def IdrRunProjectionV1.bindings (p : IdrRunProjectionV1) : RunBindings where
  decision := p.decisionBinding
  action := p.actionBinding
  admission := p.actionAdmission
  response := p.responseBinding
  outcome := p.outcomeBinding
  candidate := p.humanModelCandidate
  promotion := p.humanModelPromotion

/-- `b` binds at most what `c` binds. -/
structure RunBindings.Le (b c : RunBindings) : Prop where
  decision : ∀ x, b.decision = some x → c.decision = some x
  action : ∀ x, b.action = some x → c.action = some x
  admission : ∀ x, b.admission = some x → c.admission = some x
  response : ∀ x, b.response = some x → c.response = some x
  outcome : ∀ x, b.outcome = some x → c.outcome = some x
  candidate : ∀ x, b.candidate = some x → c.candidate = some x
  promotion : ∀ x, b.promotion = some x → c.promotion = some x

theorem RunBindings.Le.refl (b : RunBindings) : b.Le b := by
  constructor <;> intro x h <;> exact h

theorem RunBindings.Le.trans {b c d : RunBindings} (hbc : b.Le c) (hcd : c.Le d) : b.Le d where
  decision x h := hcd.decision x (hbc.decision x h)
  action x h := hcd.action x (hbc.action x h)
  admission x h := hcd.admission x (hbc.admission x h)
  response x h := hcd.response x (hbc.response x h)
  outcome x h := hcd.outcome x (hbc.outcome x h)
  candidate x h := hcd.candidate x (hbc.candidate x h)
  promotion x h := hcd.promotion x (hbc.promotion x h)

/-! ### The checks of every command -/

/-- A submitted candidate belongs to the command it is submitted in. -/
structure CandidateOf (c : IdrCommandEnvelopeV1) (candidate : CandidateSubmissionV1) : Prop where
  runId : candidate.runId = c.runId
  tenantRef : candidate.tenantRef = c.tenantRef
  policyRevisionRef : candidate.policyRevisionRef = c.policyRevisionRef
  kind : c.command.expectedCandidateKind = some candidate.candidateKind

/-- What the checks of every command establish of its run: the command is addressed to it, and its
candidate, if any, is of the command and (but for `StartRun`) of the run's subject and turn. -/
structure Checked (p : IdrRunProjectionV1) (c : IdrCommandEnvelopeV1) : Prop where
  runId : p.runId = c.runId
  trustDomain : p.trustDomain = c.trustDomain
  environmentRef : p.environmentRef = c.environmentRef
  tenantRef : p.tenantRef = c.tenantRef
  candidate : ∀ candidate, c.command.candidate = some candidate → CandidateOf c candidate
  lineage : ∀ candidate, c.command.candidate = some candidate →
    (∀ input, c.command ≠ .startRun input) →
    p.subjectRef = some candidate.subjectRef ∧ p.turnId = some candidate.turnId

section Checks

variable {p : IdrRunProjectionV1} {c : IdrCommandEnvelopeV1} {now : Nat}
  {proofs : List VerifiedProductionProofV1}

theorem checkCommand_version (h : checkCommand p c now proofs = .ok ()) :
    p.aggregateVersion = c.expectedAggregateVersion := by
  simp only [checkCommand, bind_eq_ok, exists_unit_eq_ok, rejectIf_eq_ok, exists_const, not_or,
    not_not] at h
  exact h.2.1.2.2.2.2

theorem checkCommand_proofKinds (h : checkCommand p c now proofs = .ok ()) :
    foundProofKinds proofs = c.command.requiredProofKinds := by
  simp only [checkCommand, bind_eq_ok, exists_unit_eq_ok, rejectIf_eq_ok, exists_const,
    not_not] at h
  exact h.2.2.2.2

theorem checkCommand_candidateOf (h : checkCommand p c now proofs = .ok ())
    {candidate : CandidateSubmissionV1} (hc : c.command.candidate = some candidate) :
    CandidateOf c candidate := by
  simp only [checkCommand, bind_eq_ok, exists_unit_eq_ok] at h
  have hvalid : c.validate = .ok () := h.1
  simp only [IdrCommandEnvelopeV1.validate, bind_eq_ok, exists_unit_eq_ok] at hvalid
  have hcandidate := hvalid.2.2.1
  simp only [IdrCommandEnvelopeV1.validateCandidate, hc, bind_eq_ok, exists_unit_eq_ok,
    rejectIf_eq_ok, not_or, not_not] at hcandidate
  obtain ⟨-, hrun, htenant, -, -, hpolicy, hkind⟩ := hcandidate
  exact ⟨hrun, htenant, hpolicy, hkind.symm⟩

/-- Every candidate but that of `StartRun` has the subject and the turn of the run. -/
theorem checkCommand_lineage (h : checkCommand p c now proofs = .ok ())
    {candidate : CandidateSubmissionV1} (hc : c.command.candidate = some candidate)
    (hstart : ∀ input, c.command ≠ .startRun input) :
    p.subjectRef = some candidate.subjectRef ∧ p.turnId = some candidate.turnId := by
  simp only [checkCommand, bind_eq_ok, exists_unit_eq_ok] at h
  obtain ⟨-, -, -, h, -⟩ := h
  unfold checkLineage at h
  split at h
  · exact absurd ‹_› (hstart _)
  case h_2 hnone _ => simp [hc] at hnone
  case h_3 other hother _ =>
    obtain rfl := Option.some.inj (hother.symm.trans hc)
    simp only [rejectIf_eq_ok, not_or, not_not] at h
    exact ⟨h.1, h.2.1⟩

theorem checkCommand_checked (h : checkCommand p c now proofs = .ok ()) : Checked p c := by
  have hparts := h
  simp only [checkCommand, bind_eq_ok, exists_unit_eq_ok, rejectIf_eq_ok, exists_const, not_or,
    not_not] at hparts
  obtain ⟨-, ⟨hrun, hdomain, henvironment, htenant, -⟩, -⟩ := hparts
  exact {
    runId := hrun
    trustDomain := hdomain
    environmentRef := henvironment
    tenantRef := htenant
    candidate := fun candidate hc => checkCommand_candidateOf h hc
    lineage := fun candidate hc hstart => checkCommand_lineage h hc hstart }

/-- The checks do not see the version and the event sequence. -/
theorem Checked.advanced (h : Checked p c) {version sequence : Nat} :
    Checked { p with aggregateVersion := version, lastEventSequence := sequence } c :=
  ⟨h.runId, h.trustDomain, h.environmentRef, h.tenantRef, h.candidate, h.lineage⟩

end Checks

/-! ### Issued records -/

/-- The kind of record a command issues. -/
def IdrCommandV1.issuedKind : IdrCommandV1 → Option CandidateKindV1
  | .admitAction _ _ _ _ _ => some .actionAdmissionDecision
  | c => c.expectedCandidateKind

/-- The reference is the next of its kind: the first revision under the fresh identifier, or the
next revision of the current record. -/
def NextRecord (p : IdrRunProjectionV1) (kind : CandidateKindV1) (fresh : Uuid)
    (record : AuthoritativeRecordRefV1) : Prop :=
  record.candidateKind = kind ∧
    match p.records kind with
    | none => record.recordId = fresh ∧ record.revision = 1
    | some last => record.recordId = last.recordId ∧ record.revision = last.revision + 1

/-- What every record issued in a step has in common: the identity of the run, the policy revision
of the command, and the proofs of the step. -/
structure NewRecord (p q : IdrRunProjectionV1) (command : IdrCommandEnvelopeV1) (now : Nat)
    (proofs : List VerifiedProductionProofV1) (record : AuthoritativeRecordV1) : Prop where
  trustDomain : record.recordRef.trustDomain = p.trustDomain
  environmentRef : record.recordRef.environmentRef = p.environmentRef
  runId : record.runId = p.runId
  tenantRef : record.tenantRef = p.tenantRef
  subjectRef : q.subjectRef = some record.subjectRef
  turnId : q.turnId = some record.turnId
  policyRevisionRef : record.policyRevisionRef = command.policyRevisionRef
  issuedByCommandId : record.issuedByCommandId = command.commandId
  issuedAt : record.issuedAt = now
  live : liveAt record.recordRef now
  proofIds : record.proofIds = proofs.map VerifiedProductionProofV1.proofId

/-- The kinds of records that leave no binding in the projection. -/
def CandidateKindV1.unbound : CandidateKindV1 → Bool
  | .canonicalInput | .contextSnapshot | .intent | .turnCoordination | .executionReceipt => true
  | _ => false

/-- The admission that `AdmitAction` binds. -/
structure AdmittedFrom (p : IdrRunProjectionV1) (proofs : List VerifiedProductionProofV1)
    (record : AuthoritativeRecordRefV1) (binding : ActionBindingProjectionV1)
    (a : ActionAdmissionProjectionV1) : Prop where
  action : p.actionBinding = some binding
  actionRef : a.actionRef = binding.actionRef
  current : p.records a.actionRef.candidateKind = some a.actionRef
  valid : a.actionRef ∉ p.invalidatedRecords
  admissionRef : a.admissionRef = record
  operationRef : a.operationRef = binding.operationRef
  parameterDigest : a.parameterDigest = binding.parameterDigest
  requestDigest : a.requestDigest = binding.requestDigest
  proofBindings : verifiedActionAdmissionProofBindings proofs p.trustDomain = .ok a.proofBindings
  authorization : a.proofBindings.lookup .exactAuthorization =
    some ⟨a.exactAuthorizationProofId, a.authorizationValidUntil⟩
  validUntil : a.validUntil = record.validUntil
  validUntil_action : a.validUntil ≤ a.actionRef.validUntil
  validUntil_authorization : a.validUntil ≤ a.authorizationValidUntil
  validUntil_proofs : ∀ proof ∈ proofs, a.validUntil ≤ proof.expiresAt

variable [Crypto]

/-- **What an arm does to the records**: the bindings, the invalidated records and the issued
record afterwards. -/
inductive ArmEffect (fresh : FreshIdsV1) (p : IdrRunProjectionV1) (command : IdrCommandV1)
    (proofs : List VerifiedProductionProofV1) :
    RunBindings → List AuthoritativeRecordRefV1 → Option AuthoritativeRecordV1 → Prop
  | quiet : (command.issuedKind = none ∧ ∀ ref reason, command ≠ .invalidateRecord ref reason) ∨
        (∃ intent, command = .recordIntent intent ∧ blocksRun intent = true) →
      ArmEffect fresh p command proofs p.bindings p.invalidatedRecords none
  | recorded {kind record} : command.issuedKind = some kind → kind.unbound = true →
      NextRecord p kind fresh.recordId record.recordRef →
      ArmEffect fresh p command proofs p.bindings p.invalidatedRecords (some record)
  | decided {values record} : command.issuedKind = some .decision →
      NextRecord p .decision fresh.recordId record.recordRef →
      decisionBindingValues record.payload = .ok values →
      ArmEffect fresh p command proofs
        { p.bindings with
          decision := some ⟨record.recordRef, values.selectedOptionRef, values.operationRef,
            values.parameterDigest⟩ }
        p.invalidatedRecords (some record)
  | responded {binding record} : command.issuedKind = some .response →
      NextRecord p .response fresh.recordId record.recordRef →
      binding.responseRef = record.recordRef →
      ArmEffect fresh p command proofs { p.bindings with response := some binding }
        p.invalidatedRecords (some record)
  | acted {values decision digest record} : command.issuedKind = some .action →
      NextRecord p .action fresh.recordId record.recordRef →
      p.decisionBinding = some decision → p.records .decision = some decision.decisionRef →
      decision.selectedOptionRef = values.selectedOptionRef →
      decision.operationRef = values.operationRef →
      decision.parameterDigest = values.parameterDigest →
      executionRequestDigest record.recordRef values = .ok digest →
      ArmEffect fresh p command proofs
        { p.bindings with
          action := some ⟨record.recordRef, values.selectedOptionRef, values.operationRef,
            values.parameterDigest, digest⟩
          admission := none }
        p.invalidatedRecords (some record)
  | admitted {a binding record digest} :
      command = .admitAction a.actionRef digest a.providerRef a.ownerRef a.idempotencyKey →
      NextRecord p .actionAdmissionDecision fresh.recordId record.recordRef →
      AdmittedFrom p proofs record.recordRef binding a →
      ArmEffect fresh p command proofs { p.bindings with admission := some a }
        p.invalidatedRecords (some record)
  | observed {record} : command.issuedKind = some .outcome →
      NextRecord p .outcome fresh.recordId record.recordRef →
      ArmEffect fresh p command proofs { p.bindings with outcome := some record.recordRef }
        p.invalidatedRecords (some record)
  | proposed {candidate record} : command.issuedKind = some .humanModelCandidate →
      NextRecord p .humanModelCandidate fresh.recordId record.recordRef →
      candidate.candidateRef = record.recordRef →
      p.outcomeBinding = some candidate.outcomeRef →
      ArmEffect fresh p command proofs { p.bindings with candidate := some candidate }
        p.invalidatedRecords (some record)
  | promoted {promotion source record} : command.issuedKind = some .humanModelPromotionDecision →
      NextRecord p .humanModelPromotionDecision fresh.recordId record.recordRef →
      promotion.decisionRef = record.recordRef →
      p.humanModelCandidate = some source → source.candidateRef = promotion.sourceCandidateRef →
      source.outcomeRef = promotion.outcomeRef →
      ArmEffect fresh p command proofs { p.bindings with promotion := some promotion }
        p.invalidatedRecords (some record)
  | asserted {record} : command.issuedKind = some .humanModelAssertion →
      NextRecord p .humanModelAssertion fresh.recordId record.recordRef →
      ArmEffect fresh p command proofs p.bindings p.invalidatedRecords (some record)
  | corrected {assertionRef correction record} :
      command = .correctHumanModelAssertion assertionRef correction →
      p.records assertionRef.candidateKind = some assertionRef →
      assertionRef ∉ p.invalidatedRecords →
      record.recordRef.candidateKind = .humanModelAssertion →
      record.recordRef.recordId = assertionRef.recordId →
      record.recordRef.revision = assertionRef.revision + 1 →
      ArmEffect fresh p command proofs p.bindings
        (insertRecordRef assertionRef p.invalidatedRecords) (some record)
  | invalidated {recordRef reason} : command = .invalidateRecord recordRef reason →
      p.records recordRef.candidateKind = some recordRef → recordRef ∉ p.invalidatedRecords →
      ArmEffect fresh p command proofs p.bindings
        (insertRecordRef recordRef p.invalidatedRecords) none

/-- **Under which identity a record is issued**: the next of its kind, or, for a correction, the
next revision of its target. -/
inductive RecordIdentity (fresh : FreshIdsV1) (p : IdrRunProjectionV1) (command : IdrCommandV1)
    (ref : AuthoritativeRecordRefV1) : Prop
  | next {kind} : command.issuedKind = some kind → NextRecord p kind fresh.recordId ref →
      RecordIdentity fresh p command ref
  | correction {target correction} : command = .correctHumanModelAssertion target correction →
      p.records target.candidateKind = some target → ref.candidateKind = .humanModelAssertion →
      ref.recordId = target.recordId → ref.revision = target.revision + 1 →
      RecordIdentity fresh p command ref

theorem ArmEffect.identity {fresh : FreshIdsV1} {p : IdrRunProjectionV1} {command : IdrCommandV1}
    {proofs : List VerifiedProductionProofV1} {b : RunBindings}
    {invalidated : List AuthoritativeRecordRefV1} {issued : Option AuthoritativeRecordV1}
    (h : ArmEffect fresh p command proofs b invalidated issued) {record : AuthoritativeRecordV1}
    (hrecord : issued = some record) : RecordIdentity fresh p command record.recordRef := by
  cases h with
  | quiet | invalidated => cases hrecord
  | recorded hc _ hnext | decided hc hnext | responded hc hnext | acted hc hnext
  | observed hc hnext | proposed hc hnext | promoted hc hnext | asserted hc hnext =>
    cases hrecord
    exact .next hc hnext
  | admitted hc hnext =>
    cases hrecord
    exact .next (by rw [hc]; rfl) hnext
  | corrected hc hcurrent _ hkind hid hrevision =>
    cases hrecord
    exact .correction hc hcurrent hkind hid hrevision

section Arms

variable {fresh : FreshIdsV1} {p : IdrRunProjectionV1} {command : IdrCommandEnvelopeV1}
  {now : Nat} {proofs : List VerifiedProductionProofV1} {r : ArmResultV1}

omit [Crypto] in
/-- The identity that `record_id_for` and `next_revision` give. -/
theorem nextRecord_of {kind : CandidateKindV1} {revision : Nat} {id : Uuid}
    {record : AuthoritativeRecordRefV1} (hrevision : nextRevision p kind = .ok revision)
    (hkind : record.candidateKind = kind)
    (hid : record.recordId = recordIdFor p kind id) (hnext : record.revision = revision) :
    NextRecord p kind id record := by
  refine ⟨hkind, ?_⟩
  rcases hcurrent : p.records kind with _ | last
  · have hfirst := nextRevision_of_none hcurrent hrevision
    rw [recordIdFor, hcurrent] at hid
    exact ⟨hid, hnext.trans hfirst⟩
  · have hsucc := nextRevision_of_some hcurrent hrevision
    rw [recordIdFor, hcurrent] at hid
    exact ⟨hid, hnext.trans hsucc⟩

/-- A record issued from a candidate under the next identity of its kind. -/
theorem nextRecord_of_issueRecord {candidate : CandidateSubmissionV1} {revision : Nat}
    {record : AuthoritativeRecordV1} {kind : CandidateKindV1}
    (hrevision : nextRevision p kind = .ok revision)
    (h : issueRecord candidate command now proofs p.trustDomain (recordIdFor p kind fresh.recordId)
      revision = .ok record) (hkind : candidate.candidateKind = kind) :
    NextRecord p kind fresh.recordId record.recordRef := by
  obtain ⟨hid, hnext, hcandidate, -⟩ := issueRecord_eq_ok h
  exact nextRecord_of hrevision (hcandidate.trans hkind) hid hnext

/-! The arms, in the order of the evaluator.  What each of them needs to know of its candidate is
its kind. -/

theorem evaluateStartRun_arm {input : CandidateSubmissionV1}
    (h : evaluateStartRun fresh p command now proofs input = .ok r)
    (hkind : input.candidateKind = .canonicalInput) :
    ArmEffect fresh p (.startRun input) proofs r.projection.bindings
      r.projection.invalidatedRecords r.authoritativeRecord := by
  simp only [evaluateStartRun, requireNoRecord, bind_eq_ok, exists_unit_eq_ok, rejectIf_eq_ok,
    exists_const, Option.not_isSome_iff_eq_none, Except.ok.injEq] at h
  obtain ⟨-, hnone, record, hrecord, rfl⟩ := h
  have hrevision : nextRevision p .canonicalInput = .ok 1 := by
    rw [nextRevision, hnone]
  exact .recorded rfl rfl (nextRecord_of_issueRecord hrevision hrecord hkind)

theorem evaluateRecordContext_arm {context : CandidateSubmissionV1}
    (h : evaluateRecordContext fresh p command now proofs context = .ok r)
    (hkind : context.candidateKind = .contextSnapshot) :
    ArmEffect fresh p (.recordContext context) proofs r.projection.bindings
      r.projection.invalidatedRecords r.authoritativeRecord := by
  simp only [evaluateRecordContext, bind_eq_ok, exists_unit_eq_ok, Except.ok.injEq] at h
  obtain ⟨-, revision, hrevision, record, hrecord, rfl⟩ := h
  exact .recorded rfl rfl (nextRecord_of_issueRecord hrevision hrecord hkind)

theorem evaluateRecordIntent_arm {intent : CandidateSubmissionV1}
    (h : evaluateRecordIntent fresh p command now proofs intent = .ok r)
    (hkind : intent.candidateKind = .intent) :
    ArmEffect fresh p (.recordIntent intent) proofs r.projection.bindings
      r.projection.invalidatedRecords r.authoritativeRecord := by
  simp only [evaluateRecordIntent, bind_eq_ok, exists_unit_eq_ok] at h
  obtain ⟨-, h⟩ := h
  split at h
  case isTrue hblock =>
    simp only [Except.ok.injEq] at h
    subst h
    exact .quiet (.inr ⟨intent, rfl, by simpa [blocksRun] using hblock⟩)
  case isFalse =>
    simp only [bind_eq_ok, exists_unit_eq_ok, Except.ok.injEq] at h
    obtain ⟨-, revision, hrevision, record, hrecord, rfl⟩ := h
    exact .recorded rfl rfl (nextRecord_of_issueRecord hrevision hrecord hkind)

theorem evaluateRecordDecision_arm {decision : CandidateSubmissionV1}
    (h : evaluateRecordDecision fresh p command now proofs decision = .ok r)
    (hkind : decision.candidateKind = .decision) :
    ArmEffect fresh p (.recordDecision decision) proofs r.projection.bindings
      r.projection.invalidatedRecords r.authoritativeRecord := by
  simp only [evaluateRecordDecision, bind_eq_ok, exists_unit_eq_ok, Except.ok.injEq] at h
  obtain ⟨-, values, hvalues, revision, hrevision, record, hrecord, rfl⟩ := h
  refine .decided rfl (nextRecord_of_issueRecord hrevision hrecord hkind) ?_
  obtain ⟨-, -, -, -, -, -, -, -, -, hpayload, -⟩ := issueRecord_eq_ok hrecord
  rw [hpayload]
  exact hvalues

theorem evaluateRecordTurn_arm {turn : CandidateSubmissionV1}
    (h : evaluateRecordTurn fresh p command now proofs turn = .ok r)
    (hkind : turn.candidateKind = .turnCoordination) :
    ArmEffect fresh p (.recordTurn turn) proofs r.projection.bindings
      r.projection.invalidatedRecords r.authoritativeRecord := by
  simp only [evaluateRecordTurn, bind_eq_ok, exists_unit_eq_ok, Except.ok.injEq] at h
  obtain ⟨-, -, -, revision, hrevision, record, hrecord, rfl⟩ := h
  exact .recorded rfl rfl (nextRecord_of_issueRecord hrevision hrecord hkind)

theorem evaluateRecordResponse_arm {response : CandidateSubmissionV1}
    (h : evaluateRecordResponse fresh p command now proofs response = .ok r)
    (hkind : response.candidateKind = .response) :
    ArmEffect fresh p (.recordResponse response) proofs r.projection.bindings
      r.projection.invalidatedRecords r.authoritativeRecord := by
  simp only [evaluateRecordResponse, bind_eq_ok, exists_unit_eq_ok, Except.ok.injEq] at h
  obtain ⟨-, digest, -, channel, -, audience, -, revision, hrevision, record, hrecord, rfl⟩ := h
  exact .responded rfl (nextRecord_of_issueRecord hrevision hrecord hkind) rfl

theorem evaluateConsumeResponseSend_arm {responseRef : AuthoritativeRecordRefV1}
    {bytes : List UInt8} {channelRef audienceRef : ReferenceV1} {nonce : Text}
    (h : evaluateConsumeResponseSend p now responseRef bytes channelRef audienceRef nonce = .ok r) :
    ArmEffect fresh p (.consumeResponseSend responseRef bytes channelRef audienceRef nonce) proofs
      r.projection.bindings r.projection.invalidatedRecords r.authoritativeRecord := by
  simp only [evaluateConsumeResponseSend, bind_eq_ok, exists_unit_eq_ok, okOr_eq_ok,
    rejectIf_eq_ok, exists_const, Except.ok.injEq] at h
  obtain ⟨-, binding, -, -, -, rfl⟩ := h
  exact .quiet (.inl ⟨rfl, by simp⟩)

theorem evaluateRecordAction_arm {action : CandidateSubmissionV1}
    (h : evaluateRecordAction fresh p command now proofs action = .ok r)
    (hkind : action.candidateKind = .action) :
    ArmEffect fresh p (.recordAction action) proofs r.projection.bindings
      r.projection.invalidatedRecords r.authoritativeRecord := by
  simp only [evaluateRecordAction, bind_eq_ok, exists_unit_eq_ok, okOr_eq_ok, rejectIf_eq_ok,
    exists_const, not_or, not_not, Option.filter_eq_some_iff, decide_eq_true_eq,
    Except.ok.injEq] at h
  obtain ⟨-, -, values, -, decision, ⟨hdecision, hcurrent⟩, ⟨hoption, hoperation, hparameter⟩,
    revision, hrevision, record, hrecord, digest, hdigest, rfl⟩ := h
  exact .acted rfl (nextRecord_of_issueRecord hrevision hrecord hkind) hdecision hcurrent hoption
    hoperation hparameter hdigest

omit [Crypto] in
theorem min?_le {xs : List Nat} {m : Nat} (h : xs.min? = some m) {x : Nat} (hx : x ∈ xs) : m ≤ x :=
  (List.min?_eq_some_iff.mp h).2 x hx

theorem evaluateAdmitAction_arm {actionRef : AuthoritativeRecordRefV1} {digest key : Text}
    {providerRef ownerRef : ReferenceV1}
    (h : evaluateAdmitAction fresh p command now proofs actionRef digest providerRef ownerRef key =
      .ok r) :
    ArmEffect fresh p (.admitAction actionRef digest providerRef ownerRef key) proofs
      r.projection.bindings r.projection.invalidatedRecords r.authoritativeRecord := by
  simp only [evaluateAdmitAction, bind_eq_ok, exists_unit_eq_ok, okOr_eq_ok, rejectIf_eq_ok,
    exists_const, Option.filter_eq_some_iff, decide_eq_true_eq, Except.ok.injEq] at h
  obtain ⟨hcurrent, bindings, hbindings, authorization, hauthorization, validUntil, hmin, -,
    binding, ⟨hbinding, haction⟩, revision, hrevision, record, hrecord, rfl⟩ := h
  obtain ⟨hrecordId, hrecordRevision, hkind, -, -, -, huntil, -⟩ :=
    issueInternalRecord_eq_ok hrecord
  obtain ⟨hexact, -, -, -, hvalid⟩ := requireExactCurrentRecordAt_eq_ok.mp hcurrent
  refine .admitted rfl (nextRecord_of hrevision hkind hrecordId hrecordRevision) {
    action := hbinding
    actionRef := haction.symm
    current := hexact
    valid := hvalid
    admissionRef := rfl
    operationRef := rfl
    parameterDigest := rfl
    requestDigest := rfl
    proofBindings := hbindings
    authorization := hauthorization
    validUntil := huntil.symm
    validUntil_action := min?_le hmin (by simp)
    validUntil_authorization := min?_le hmin (by simp)
    validUntil_proofs := ?_ }
  intro proof hproof
  exact min?_le hmin (List.mem_append_left _ (List.mem_map_of_mem hproof))

omit [Crypto] in
/-- A command that only moves the execution leaves the records as they are. -/
theorem quiet_of {q : IdrRunProjectionV1} {c : IdrCommandV1} {event : Text} [Crypto]
    (hc : c.issuedKind = none) (hc' : ∀ ref reason, c ≠ .invalidateRecord ref reason)
    (hbindings : q.bindings = p.bindings)
    (hinvalidated : q.invalidatedRecords = p.invalidatedRecords) (hr : r = ⟨q, none, event⟩) :
    ArmEffect fresh p c proofs r.projection.bindings r.projection.invalidatedRecords
      r.authoritativeRecord := by
  subst hr
  rw [hbindings, hinvalidated]
  exact .quiet (.inl ⟨hc, hc'⟩)

theorem evaluateReserveExecution_arm {admissionRef actionRef : AuthoritativeRecordRefV1}
    {digest key nonce : Text} {providerRef ownerRef : ReferenceV1} {attempt lease : Nat}
    (h : evaluateReserveExecution fresh p command now proofs admissionRef actionRef digest
      providerRef ownerRef key attempt lease nonce = .ok r) :
    ArmEffect fresh p
      (.reserveExecution admissionRef actionRef digest providerRef ownerRef key attempt lease nonce)
      proofs r.projection.bindings r.projection.invalidatedRecords r.authoritativeRecord := by
  simp only [evaluateReserveExecution, bind_eq_ok, exists_unit_eq_ok, okOr_eq_ok, rejectIf_eq_ok,
    exists_const, Except.ok.injEq] at h
  obtain ⟨-, -, -, ⟨-, permitUntil⟩, -, admission, -, validUntil, -, -, reservationId, -, rfl⟩ := h
  exact .quiet (.inl ⟨rfl, by simp⟩)

theorem evaluateRecoverPermit_arm {reservationId : Uuid}
    (h : evaluateRecoverPermit p command now reservationId = .ok r) :
    ArmEffect fresh p (.recoverPermit reservationId) proofs r.projection.bindings
      r.projection.invalidatedRecords r.authoritativeRecord := by
  simp only [evaluateRecoverPermit, bind_eq_ok, exists_unit_eq_ok, rejectIf_eq_ok,
    exists_const] at h
  obtain ⟨e, -, -, -, -, h⟩ := h
  split at h <;> simp only [Except.ok.injEq] at h <;> subst h <;>
    exact .quiet (.inl ⟨rfl, by simp⟩)

theorem evaluatePermitStep_arm {c : IdrCommandV1} {expected next : ExecutionAggregateStateV1}
    {event : Text} {reservationId permitId : Uuid} (hc : c.issuedKind = none)
    (hc' : ∀ ref reason, c ≠ .invalidateRecord ref reason)
    (h : evaluatePermitStep expected next event p command now reservationId permitId = .ok r) :
    ArmEffect fresh p c proofs r.projection.bindings r.projection.invalidatedRecords
      r.authoritativeRecord := by
  simp only [evaluatePermitStep, bind_eq_ok, exists_unit_eq_ok] at h
  obtain ⟨e, -, -, ⟨current, q⟩, hensure, e', -, h⟩ := h
  have hq : q.bindings = p.bindings ∧ q.invalidatedRecords = p.invalidatedRecords := by
    simp only [ensureCurrentExecutionAction, bind_eq_ok] at hensure
    obtain ⟨e'', -, hensure⟩ := hensure
    split at hensure <;> simp only [Except.ok.injEq, Prod.mk.injEq] at hensure <;>
      obtain ⟨-, rfl⟩ := hensure <;> exact ⟨rfl, rfl⟩
  split at h <;> simp only [requireExecutionState, bind_eq_ok, require_eq_ok, exists_const,
    Except.ok.injEq] at h
  case isTrue =>
    obtain ⟨name, -, hr⟩ := h
    exact quiet_of hc hc' hq.1 hq.2 hr.symm
  case isFalse =>
    exact quiet_of (q := q.setExecutionState fun _ => next) hc hc' hq.1 hq.2 h.2.symm

theorem evaluateCommitExecutionReceipt_arm {receipt : CandidateSubmissionV1}
    {reservationId permitId : Uuid} {providerRef : ReferenceV1} {nonce : Text} {attempt : Nat}
    (h : evaluateCommitExecutionReceipt fresh p command now proofs receipt reservationId permitId
      providerRef nonce attempt = .ok r) (hkind : receipt.candidateKind = .executionReceipt) :
    ArmEffect fresh p
      (.commitExecutionReceipt receipt reservationId permitId providerRef nonce attempt) proofs
      r.projection.bindings r.projection.invalidatedRecords r.authoritativeRecord := by
  simp only [evaluateCommitExecutionReceipt, bind_eq_ok, exists_unit_eq_ok, rejectIf_eq_ok,
    exists_const, Except.ok.injEq] at h
  obtain ⟨revision, hrevision, e, -, -, -, -, record, hrecord, state, -, run, -, rfl⟩ := h
  exact .recorded rfl rfl (nextRecord_of_issueRecord hrevision hrecord hkind)

theorem evaluateReconcileExecution_arm {reservationId : Uuid}
    {resolution : ReconciliationResolutionV1}
    (h : evaluateReconcileExecution p command reservationId resolution = .ok r) :
    ArmEffect fresh p (.reconcileExecution reservationId resolution) proofs r.projection.bindings
      r.projection.invalidatedRecords r.authoritativeRecord := by
  simp only [evaluateReconcileExecution, bind_eq_ok, exists_unit_eq_ok, rejectIf_eq_ok,
    exists_const, Except.ok.injEq] at h
  obtain ⟨e, -, -, -, -, rfl⟩ := h
  exact .quiet (.inl ⟨rfl, by simp⟩)

theorem evaluateExpireExecutionLease_arm {reservationId : Uuid}
    (h : evaluateExpireExecutionLease p command now reservationId = .ok r) :
    ArmEffect fresh p (.expireExecutionLease reservationId) proofs r.projection.bindings
      r.projection.invalidatedRecords r.authoritativeRecord := by
  simp only [evaluateExpireExecutionLease, bind_eq_ok, exists_unit_eq_ok, rejectIf_eq_ok,
    exists_const] at h
  obtain ⟨e, -, -, -, h⟩ := h
  split at h
  case isTrue =>
    cases h
    exact .quiet (.inl ⟨rfl, by simp⟩)
  case isFalse =>
    split at h
    case isTrue =>
      cases h
      exact .quiet (.inl ⟨rfl, by simp⟩)
    case isFalse => cases h

theorem evaluateInvalidateRecord_arm {recordRef : AuthoritativeRecordRefV1} {reason : ReferenceV1}
    (h : evaluateInvalidateRecord p recordRef = .ok r) :
    ArmEffect fresh p (.invalidateRecord recordRef reason) proofs r.projection.bindings
      r.projection.invalidatedRecords r.authoritativeRecord := by
  simp only [evaluateInvalidateRecord, bind_eq_ok, exists_unit_eq_ok, Except.ok.injEq] at h
  obtain ⟨htarget, rfl⟩ := h
  obtain ⟨hcurrent, -, hvalid⟩ := requireExactGovernanceTarget_eq_ok.mp htarget
  exact .invalidated rfl hcurrent hvalid

theorem evaluateRecordOutcome_arm {outcome : CandidateSubmissionV1}
    (h : evaluateRecordOutcome fresh p command now proofs outcome = .ok r)
    (hkind : outcome.candidateKind = .outcome) :
    ArmEffect fresh p (.recordOutcome outcome) proofs r.projection.bindings
      r.projection.invalidatedRecords r.authoritativeRecord := by
  simp only [evaluateRecordOutcome, bind_eq_ok, exists_unit_eq_ok, Except.ok.injEq] at h
  obtain ⟨receiptRef, -, -, -, revision, hrevision, record, hrecord, rfl⟩ := h
  exact .observed rfl (nextRecord_of_issueRecord hrevision hrecord hkind)

theorem evaluateProposeHumanModelCandidate_arm {candidate : CandidateSubmissionV1}
    (h : evaluateProposeHumanModelCandidate fresh p command now proofs candidate = .ok r)
    (hkind : candidate.candidateKind = .humanModelCandidate) :
    ArmEffect fresh p (.proposeHumanModelCandidate candidate) proofs r.projection.bindings
      r.projection.invalidatedRecords r.authoritativeRecord := by
  simp only [evaluateProposeHumanModelCandidate, bind_eq_ok, exists_unit_eq_ok, okOr_eq_ok,
    Except.ok.injEq] at h
  obtain ⟨outcomeRef, houtcome, -, -, -, revision, hrevision, record, hrecord, rfl⟩ := h
  exact .proposed rfl (nextRecord_of_issueRecord hrevision hrecord hkind) rfl houtcome

theorem evaluateRecordHumanModelPromotion_arm {decision : CandidateSubmissionV1}
    {sourceRef : AuthoritativeRecordRefV1}
    (h : evaluateRecordHumanModelPromotion fresh p command now proofs decision sourceRef = .ok r)
    (hkind : decision.candidateKind = .humanModelPromotionDecision) :
    ArmEffect fresh p (.recordHumanModelPromotion decision sourceRef) proofs r.projection.bindings
      r.projection.invalidatedRecords r.authoritativeRecord := by
  simp only [evaluateRecordHumanModelPromotion, bind_eq_ok, exists_unit_eq_ok, okOr_eq_ok,
    rejectIf_eq_ok, exists_const, Option.filter_eq_some_iff, decide_eq_true_eq,
    Except.ok.injEq] at h
  obtain ⟨-, -, source, ⟨hsource, hcandidate⟩, outcome, -, -, revision, hrevision, record, hrecord,
    rfl⟩ := h
  exact .promoted rfl (nextRecord_of_issueRecord hrevision hrecord hkind) rfl hsource hcandidate rfl

theorem evaluatePromoteHumanModelAssertion_arm {assertion : CandidateSubmissionV1}
    {decisionRef : AuthoritativeRecordRefV1}
    (h : evaluatePromoteHumanModelAssertion fresh p command now proofs assertion decisionRef =
      .ok r) :
    ArmEffect fresh p (.promoteHumanModelAssertion assertion decisionRef) proofs
      r.projection.bindings r.projection.invalidatedRecords r.authoritativeRecord := by
  simp only [evaluatePromoteHumanModelAssertion, bind_eq_ok, exists_unit_eq_ok, okOr_eq_ok,
    rejectIf_eq_ok, exists_const, Except.ok.injEq] at h
  obtain ⟨-, -, promotion, -, source, -, -, lifecycle, -, impact, -, payload, -, validUntil, -,
    revision, hrevision, record, hrecord, rfl⟩ := h
  obtain ⟨hrecordId, hrecordRevision, hkind, -⟩ := issueInternalRecord_eq_ok hrecord
  exact .asserted rfl (nextRecord_of hrevision hkind hrecordId hrecordRevision)

theorem evaluateCorrectHumanModelAssertion_arm {assertionRef : AuthoritativeRecordRefV1}
    {correction : CandidateSubmissionV1}
    (h : evaluateCorrectHumanModelAssertion p command now proofs assertionRef correction = .ok r)
    (hkind : correction.candidateKind = .humanModelAssertion) :
    ArmEffect fresh p (.correctHumanModelAssertion assertionRef correction) proofs
      r.projection.bindings r.projection.invalidatedRecords r.authoritativeRecord := by
  simp only [evaluateCorrectHumanModelAssertion, bind_eq_ok, exists_unit_eq_ok, okOr_eq_ok,
    Except.ok.injEq] at h
  obtain ⟨htarget, -, revision, hrevision, record, hrecord, rfl⟩ := h
  obtain ⟨hcurrent, -, hvalid⟩ := requireExactGovernanceTarget_eq_ok.mp htarget
  obtain ⟨hrecordId, hrecordRevision, hcandidate, -⟩ := issueRecord_eq_ok hrecord
  have hnext := (checkedAddU64_eq_some.mp hrevision).2.symm
  exact .corrected rfl hcurrent hvalid (hcandidate.trans hkind) hrecordId
    (hrecordRevision.trans hnext)

theorem evaluateCancelRun_arm {reason : ReferenceV1} (h : evaluateCancelRun p = .ok r) :
    ArmEffect fresh p (.cancelRun reason) proofs r.projection.bindings
      r.projection.invalidatedRecords r.authoritativeRecord := by
  simp only [evaluateCancelRun, bind_eq_ok, rejectIf_eq_ok, exists_const, Except.ok.injEq] at h
  obtain ⟨-, rfl⟩ := h
  exact .quiet (.inl ⟨rfl, by simp⟩)

/-- **Every arm has one of the effects.** -/
theorem evaluateCommand_arm (h : evaluateCommand fresh p command now proofs = .ok r)
    (hchecked : Checked p command) :
    ArmEffect fresh p command.command proofs r.projection.bindings
      r.projection.invalidatedRecords r.authoritativeRecord := by
  have hcandidate : ∀ candidate kind, command.command.candidate = some candidate →
      command.command.expectedCandidateKind = some kind → candidate.candidateKind = kind := by
    intro candidate kind hc hk
    exact Option.some.inj ((hchecked.candidate candidate hc).kind.symm.trans hk)
  unfold evaluateCommand at h
  split at h <;> rename_i hcommand <;> rw [hcommand] at hcandidate ⊢
  · exact evaluateStartRun_arm h (hcandidate _ _ rfl rfl)
  · exact evaluateRecordContext_arm h (hcandidate _ _ rfl rfl)
  · exact evaluateRecordIntent_arm h (hcandidate _ _ rfl rfl)
  · exact evaluateRecordDecision_arm h (hcandidate _ _ rfl rfl)
  · exact evaluateRecordTurn_arm h (hcandidate _ _ rfl rfl)
  · exact evaluateRecordResponse_arm h (hcandidate _ _ rfl rfl)
  · exact evaluateConsumeResponseSend_arm h
  · exact evaluateRecordAction_arm h (hcandidate _ _ rfl rfl)
  · exact evaluateAdmitAction_arm h
  · exact evaluateReserveExecution_arm h
  · exact evaluateRecoverPermit_arm h
  · exact evaluatePermitStep_arm rfl (by simp) h
  · exact evaluatePermitStep_arm rfl (by simp) h
  · exact evaluateCommitExecutionReceipt_arm h (hcandidate _ _ rfl rfl)
  · exact evaluateReconcileExecution_arm h
  · exact evaluateExpireExecutionLease_arm h
  · exact evaluateInvalidateRecord_arm h
  · exact evaluateRecordOutcome_arm h (hcandidate _ _ rfl rfl)
  · exact evaluateProposeHumanModelCandidate_arm h (hcandidate _ _ rfl rfl)
  · exact evaluateRecordHumanModelPromotion_arm h (hcandidate _ _ rfl rfl)
  · exact evaluatePromoteHumanModelAssertion_arm h
  · exact evaluateCorrectHumanModelAssertion_arm h (hcandidate _ _ rfl rfl)
  · exact evaluateCancelRun_arm h

/-! ### What no arm touches -/

omit [Crypto] in
/-- What an arm leaves of the projection as it is. -/
structure Framed (p q : IdrRunProjectionV1) : Prop where
  trustDomain : q.trustDomain = p.trustDomain
  environmentRef : q.environmentRef = p.environmentRef
  runId : q.runId = p.runId
  tenantRef : q.tenantRef = p.tenantRef
  records : q.records = p.records
  aggregateVersion : q.aggregateVersion = p.aggregateVersion
  lastEventSequence : q.lastEventSequence = p.lastEventSequence

omit [Crypto] in
/-- The subject and the turn of the run stay the same. -/
def SameLineage (p q : IdrRunProjectionV1) : Prop :=
  q.subjectRef = p.subjectRef ∧ q.turnId = p.turnId

omit [Crypto] in
theorem Framed.refl (p : IdrRunProjectionV1) : Framed p p := ⟨rfl, rfl, rfl, rfl, rfl, rfl, rfl⟩

omit [Crypto] in
theorem ensureCurrentExecutionAction_framed {reservationId permitId : Uuid}
    {x : Bool × IdrRunProjectionV1}
    (h : ensureCurrentExecutionAction p reservationId permitId now = .ok x) :
    Framed p x.2 ∧ SameLineage p x.2 := by
  simp only [ensureCurrentExecutionAction, bind_eq_ok] at h
  obtain ⟨e, -, h⟩ := h
  split at h <;> simp only [Except.ok.injEq] at h <;> subst h <;>
    exact ⟨⟨rfl, rfl, rfl, rfl, rfl, rfl, rfl⟩, rfl, rfl⟩

omit [Crypto] in
theorem evaluatePermitStep_framed {expected next : ExecutionAggregateStateV1} {event : Text}
    {reservationId permitId : Uuid}
    (h : evaluatePermitStep expected next event p command now reservationId permitId = .ok r) :
    Framed p r.projection ∧ SameLineage p r.projection := by
  simp only [evaluatePermitStep, bind_eq_ok, exists_unit_eq_ok] at h
  obtain ⟨e, -, -, ⟨current, q⟩, hensure, e', -, h⟩ := h
  obtain ⟨hq, hlineage⟩ := ensureCurrentExecutionAction_framed hensure
  split at h <;> simp only [requireExecutionState, bind_eq_ok, require_eq_ok, exists_const,
    Except.ok.injEq] at h
  case isTrue =>
    obtain ⟨name, -, rfl⟩ := h
    exact ⟨hq, hlineage⟩
  case isFalse =>
    obtain ⟨-, rfl⟩ := h
    exact ⟨⟨hq.trustDomain, hq.environmentRef, hq.runId, hq.tenantRef, hq.records,
      hq.aggregateVersion, hq.lastEventSequence⟩, hlineage⟩

/-- **No arm touches the identity of the run**, and only `StartRun` sets its subject and turn. -/
theorem evaluateCommand_framed :
    Ensures (evaluateCommand fresh p command now proofs) fun r => Framed p r.projection ∧
      ((∀ input, command.command ≠ .startRun input) → SameLineage p r.projection) := by
  unfold evaluateCommand
  split <;> rename_i hcommand
  case h_1 input =>
    simp only [evaluateStartRun]
    with_reducible repeat' first
      | refine ensures_bind fun _ _ => ?_
      | rw [ensures_ok]
    exact ⟨⟨rfl, rfl, rfl, rfl, rfl, rfl, rfl⟩, fun h => absurd hcommand (h input)⟩
  case h_12 | h_13 =>
    intro r h
    obtain ⟨hframed, hlineage⟩ := evaluatePermitStep_framed h
    exact ⟨hframed, fun _ => hlineage⟩
  all_goals
    simp only [evaluateRecordContext, evaluateRecordIntent,
      evaluateRecordDecision, evaluateRecordTurn, evaluateRecordResponse,
      evaluateConsumeResponseSend, evaluateRecordAction, evaluateAdmitAction,
      evaluateReserveExecution, evaluateRecoverPermit, evaluateCommitExecutionReceipt,
      evaluateReconcileExecution, evaluateExpireExecutionLease, evaluateInvalidateRecord,
      evaluateRecordOutcome, evaluateProposeHumanModelCandidate, evaluateRecordHumanModelPromotion,
      evaluatePromoteHumanModelAssertion, evaluateCorrectHumanModelAssertion, evaluateCancelRun]
    with_reducible repeat' first
      | exact ensures_error
      | refine ensures_bind fun _ _ => ?_
      | refine ensures_ite (fun _ => ?_) (fun _ => ?_)
      | rw [ensures_ok]
    all_goals exact ⟨⟨rfl, rfl, rfl, rfl, rfl, rfl, rfl⟩, fun _ => ⟨rfl, rfl⟩⟩

theorem newRecord_of_issueRecord {q : IdrRunProjectionV1} {candidate : CandidateSubmissionV1}
    {recordId : Uuid} {revision : Nat} {record : AuthoritativeRecordV1}
    (hchecked : Checked p command) (hc : command.command.candidate = some candidate)
    (hsubject : q.subjectRef = some candidate.subjectRef)
    (hturn : q.turnId = some candidate.turnId)
    (h : issueRecord candidate command now proofs p.trustDomain recordId revision = .ok record) :
    NewRecord p q command now proofs record := by
  obtain ⟨-, -, -, hdomain, henvironment, hfrom, huntil, hlive, hlive', -, hrun, hturn', htenant,
    hsubject', hpolicy, hcommand, hissued, hproofs⟩ := issueRecord_eq_ok h
  have hcandidate := hchecked.candidate candidate hc
  exact {
    trustDomain := hdomain
    environmentRef := henvironment.trans hchecked.environmentRef.symm
    runId := hrun.trans (hcandidate.runId.trans hchecked.runId.symm)
    tenantRef := htenant.trans (hcandidate.tenantRef.trans hchecked.tenantRef.symm)
    subjectRef := by rw [hsubject, hsubject']
    turnId := by rw [hturn, hturn']
    policyRevisionRef := hpolicy.trans hcandidate.policyRevisionRef
    issuedByCommandId := hcommand
    issuedAt := hissued
    live := ⟨hfrom ▸ hlive, huntil ▸ hlive'⟩
    proofIds := hproofs }

theorem newRecord_of_issueInternalRecord {q : IdrRunProjectionV1} {kind : CandidateKindV1}
    {payload : Value} {validUntil : Nat} {recordId : Uuid} {revision : Nat}
    {record : AuthoritativeRecordV1} (hchecked : Checked p command)
    (hsubject : q.subjectRef = p.subjectRef) (hturn : q.turnId = p.turnId)
    (h : issueInternalRecord fresh kind payload command p now validUntil proofs recordId revision =
      .ok record) :
    NewRecord p q command now proofs record := by
  obtain ⟨-, -, -, hdomain, henvironment, hfrom, huntil, hlive, -, hrun, hturn', htenant,
    hsubject', hpolicy, hcommand, hissued, hproofs⟩ := issueInternalRecord_eq_ok h
  exact {
    trustDomain := hdomain
    environmentRef := henvironment
    runId := hrun
    tenantRef := htenant.trans hchecked.tenantRef.symm
    subjectRef := hsubject.trans hsubject'
    turnId := hturn.trans hturn'
    policyRevisionRef := hpolicy
    issuedByCommandId := hcommand
    issuedAt := hissued
    live := ⟨hfrom.le, huntil ▸ hlive⟩
    proofIds := hproofs }

/-- **Every issued record** carries the identity of its run and its command. -/
theorem evaluateCommand_newRecord (hchecked : Checked p command) :
    Ensures (evaluateCommand fresh p command now proofs) fun r => ∀ record,
      r.authoritativeRecord = some record →
        NewRecord p r.projection command now proofs record := by
  obtain ⟨-, -, -, -, -, hlineage⟩ := id hchecked
  have hcandidate : command.command.candidate = command.command.candidate := rfl
  unfold evaluateCommand
  split <;> rename_i hcommand <;> conv at hcandidate => { rhs; rw [hcommand] }
  all_goals
    simp only [evaluateStartRun, evaluateRecordContext, evaluateRecordIntent,
      evaluateRecordDecision, evaluateRecordTurn, evaluateRecordResponse,
      evaluateConsumeResponseSend, evaluateRecordAction, evaluateAdmitAction,
      evaluateReserveExecution, evaluateRecoverPermit, evaluateDeliverPermit,
      evaluateStartDispatch, evaluatePermitStep, evaluateCommitExecutionReceipt,
      evaluateReconcileExecution, evaluateExpireExecutionLease, evaluateInvalidateRecord,
      evaluateRecordOutcome, evaluateProposeHumanModelCandidate, evaluateRecordHumanModelPromotion,
      evaluatePromoteHumanModelAssertion, evaluateCorrectHumanModelAssertion, evaluateCancelRun]
    with_reducible repeat' first
      | exact ensures_error
      | refine ensures_bind fun _ _ => ?_
      | refine ensures_ite (fun _ => ?_) (fun _ => ?_)
      | rw [ensures_ok]
  all_goals
    rintro record ⟨⟩ <;> first
      | apply newRecord_of_issueRecord hchecked hcandidate
        · exact (hlineage _ hcandidate (by simp [hcommand])).1
        · exact (hlineage _ hcandidate (by simp [hcommand])).2
        · with_reducible assumption
      | exact newRecord_of_issueRecord hchecked hcandidate rfl rfl ‹_›
      | apply newRecord_of_issueInternalRecord hchecked
        · rfl
        · rfl
        · with_reducible assumption

end Arms

/-! ### Closure and steps -/

/-- What every step leaves of the projection as it is, and how it counts. -/
structure StepFrame (p : IdrRunProjectionV1) (t : IdrTransitionV1) : Prop where
  trustDomain : t.projection.trustDomain = p.trustDomain
  environmentRef : t.projection.environmentRef = p.environmentRef
  runId : t.projection.runId = p.runId
  tenantRef : t.projection.tenantRef = p.tenantRef
  records : t.projection.records = (p.insertRecord t.authoritativeRecord).records
  aggregateVersion : t.projection.aggregateVersion = p.aggregateVersion + 1
  lastEventSequence : t.projection.lastEventSequence = p.lastEventSequence + 1

/-- **What one step does to the records**: the effect of its arm with a closure after it, or a
revocation with its closure. -/
inductive RecordEffect (fresh : FreshIdsV1) (p : IdrRunProjectionV1)
    (command : IdrCommandEnvelopeV1) (now : Nat) (proofs : List VerifiedProductionProofV1)
    (t : IdrTransitionV1) : Bool → Prop
  | evaluated {bindings invalidated} (closure : List AuthoritativeRecordRefV1) :
      checkCommand p command now proofs = .ok () →
      ArmEffect fresh p command.command proofs bindings invalidated t.authoritativeRecord →
      t.projection.bindings.Le bindings →
      (∀ x, x ∈ t.projection.invalidatedRecords ↔ x ∈ closure ∨ x ∈ invalidated) →
      ((∀ input, command.command ≠ .startRun input) → SameLineage p t.projection) →
      (∀ record, t.authoritativeRecord = some record →
        NewRecord p t.projection command now proofs record) →
      RecordEffect fresh p command now proofs t false
  | revoked (closure : List AuthoritativeRecordRefV1) : t.authoritativeRecord = none →
      t.projection.bindings.Le p.bindings →
      (∀ x, x ∈ t.projection.invalidatedRecords ↔ x ∈ closure ∨ x ∈ p.invalidatedRecords) →
      SameLineage p t.projection →
      RecordEffect fresh p command now proofs t true

section Closure

variable {p : IdrRunProjectionV1}

omit [Crypto]

theorem clearBindings_le (record : AuthoritativeRecordRefV1) :
    (clearBindings p record).bindings.Le p.bindings := by
  have hfilter : ∀ {α : Type} {q : α → Bool} {o : Option α} (x : α), o.filter q = some x →
      o = some x := by
    intro α q o x h
    exact (Option.filter_eq_some_iff.mp h).1
  unfold clearBindings
  repeat' split
  all_goals
    constructor <;> intro x h <;> first
      | exact h
      | exact hfilter x h
      | cases h

theorem clearBindings_framed (record : AuthoritativeRecordRefV1) :
    Framed p (clearBindings p record) ∧ (clearBindings p record).subjectRef = p.subjectRef ∧
      (clearBindings p record).turnId = p.turnId ∧
      (clearBindings p record).invalidatedRecords = p.invalidatedRecords := by
  unfold clearBindings
  split <;> (try split) <;> exact ⟨⟨rfl, rfl, rfl, rfl, rfl, rfl, rfl⟩, rfl, rfl, rfl⟩

/-- What a closure leaves, drops and adds. -/
structure Closed (p q : IdrRunProjectionV1) (closure : List AuthoritativeRecordRefV1) : Prop where
  framed : Framed p q
  subjectRef : q.subjectRef = p.subjectRef
  turnId : q.turnId = p.turnId
  bindings : q.bindings.Le p.bindings
  invalidated : ∀ x, x ∈ q.invalidatedRecords ↔ x ∈ closure ∨ x ∈ p.invalidatedRecords

theorem closeRecord_closed (p : IdrRunProjectionV1) (record : AuthoritativeRecordRefV1) :
    Closed p (closeRecord p record) [record] := by
  let q := { p with invalidatedRecords := insertRecordRef record p.invalidatedRecords }
  obtain ⟨hframed, hsubject, hturn, hinvalidated⟩ := clearBindings_framed (p := q) record
  refine ⟨⟨hframed.trustDomain, hframed.environmentRef, hframed.runId, hframed.tenantRef,
    hframed.records, hframed.aggregateVersion, hframed.lastEventSequence⟩, hsubject, hturn,
    clearBindings_le (p := q) record, ?_⟩
  intro x
  show x ∈ (clearBindings q record).invalidatedRecords ↔ _
  rw [hinvalidated]
  simp [q, insertRecordRef, mem_insertSorted compareRecordRef_eq]

theorem foldl_closeRecord_closed (closure : List AuthoritativeRecordRefV1) :
    ∀ p : IdrRunProjectionV1, Closed p (closure.foldl closeRecord p) closure := by
  induction closure with
  | nil => exact fun p => ⟨.refl p, rfl, rfl, .refl _, by simp⟩
  | cons record closure ih =>
    intro p
    have hrecord := closeRecord_closed p record
    have hrest := ih (closeRecord p record)
    refine ⟨?_, hrest.subjectRef.trans hrecord.subjectRef, hrest.turnId.trans hrecord.turnId,
      hrest.bindings.trans hrecord.bindings, ?_⟩
    · exact ⟨hrest.framed.trustDomain.trans hrecord.framed.trustDomain,
        hrest.framed.environmentRef.trans hrecord.framed.environmentRef,
        hrest.framed.runId.trans hrecord.framed.runId,
        hrest.framed.tenantRef.trans hrecord.framed.tenantRef,
        hrest.framed.records.trans hrecord.framed.records,
        hrest.framed.aggregateVersion.trans hrecord.framed.aggregateVersion,
        hrest.framed.lastEventSequence.trans hrecord.framed.lastEventSequence⟩
    · intro x
      rw [List.foldl_cons, hrest.invalidated, hrecord.invalidated, List.mem_singleton,
        List.mem_cons]
      tauto

theorem applyRepositoryInvalidationClosure_closed (p : IdrRunProjectionV1)
    (closure : List AuthoritativeRecordRefV1) (invalidateRun : Bool) :
    Closed p (applyRepositoryInvalidationClosure p closure invalidateRun) closure := by
  obtain ⟨hframed, hsubject, hturn, hbindings, hinvalidated⟩ := foldl_closeRecord_closed closure p
  exact ⟨⟨hframed.trustDomain, hframed.environmentRef, hframed.runId, hframed.tenantRef,
    hframed.records, hframed.aggregateVersion, hframed.lastEventSequence⟩, hsubject, hturn,
    hbindings, hinvalidated⟩

theorem Closed.refl (p : IdrRunProjectionV1) : Closed p p [] :=
  ⟨.refl p, rfl, rfl, .refl _, by simp⟩

end Closure

section Steps

variable {p : IdrRunProjectionV1} {command : IdrCommandEnvelopeV1} {now : Nat}
  {proofs : List VerifiedProductionProofV1} {fresh : FreshIdsV1} {t : IdrTransitionV1}
  {loadClosure : AuthoritativeRecordRefV1 →
    Except IdrRuntimeErrorV1 (List AuthoritativeRecordRefV1)}

/-- An accepted evaluation is that of the evaluator, with a closure after it. -/
theorem evaluatedTransition_closed
    (h : evaluatedTransition loadClosure fresh p command now proofs = .ok t) :
    ∃ t₀ closure, evaluateAuthoritativeTransitionV1 fresh p command now proofs = .ok t₀ ∧
      Closed t₀.projection t.projection closure ∧
      t.authoritativeRecord = t₀.authoritativeRecord := by
  simp only [evaluatedTransition, bind_eq_ok] at h
  obtain ⟨t₀, ht₀, h⟩ := h
  repeat' split at h
  all_goals
    simp only [bind_eq_ok, Except.ok.injEq] at h
    first
      | exact ⟨t₀, [], ht₀, h ▸ .refl _, h ▸ rfl⟩
      | obtain ⟨closure, -, rfl⟩ := h
        exact ⟨t₀, closure, ht₀, applyRepositoryInvalidationClosure_closed _ _ _, rfl⟩

/-- A step that revokes nothing is an arm of the evaluator, with a closure after it. -/
theorem runTransition_evaluates {i : RunInputV1} (hrevokes : i.revokes = false)
    (h : runTransition p i = .ok t) :
    ∃ r closure, evaluateCommand i.fresh { p with
        aggregateVersion := p.aggregateVersion + 1
        lastEventSequence := p.lastEventSequence + 1 } i.command i.trustedNow i.verifiedProofs =
          .ok r ∧
      Closed (r.projection.insertRecord r.authoritativeRecord) t.projection closure ∧
      t.authoritativeRecord = r.authoritativeRecord := by
  obtain ⟨-, h⟩ := runTransition_eq_ok.mp h
  rw [if_neg (by simp [hrevokes])] at h
  obtain ⟨t₀, closure, ht₀, hclosed, hrecord⟩ := evaluatedTransition_closed h
  obtain ⟨-, r, hr, -, rfl⟩ := evaluateAuthoritativeTransitionV1_eq_ok ht₀
  exact ⟨r, closure, hr, hclosed, hrecord⟩

/-- A command that names no kind of record is followed by no closure. -/
theorem runTransition_quiet {i : RunInputV1}
    (hkind : i.command.command.expectedCandidateKind = none)
    (hother : ∀ ref reason, i.command.command ≠ .invalidateRecord ref reason)
    (hrevokes : i.revokes = false) (h : runTransition p i = .ok t) :
    ∃ r, evaluateCommand i.fresh { p with
        aggregateVersion := p.aggregateVersion + 1
        lastEventSequence := p.lastEventSequence + 1 } i.command i.trustedNow i.verifiedProofs =
          .ok r ∧
      t.projection = r.projection.insertRecord r.authoritativeRecord := by
  obtain ⟨-, h⟩ := runTransition_eq_ok.mp h
  rw [if_neg (by simp [hrevokes])] at h
  simp only [evaluatedTransition, hkind, Option.bind_none, bind_eq_ok, Except.ok.injEq] at h
  obtain ⟨t₀, ht₀, rfl⟩ := h
  obtain ⟨-, r, hr, -, rfl⟩ := evaluateAuthoritativeTransitionV1_eq_ok ht₀
  exact ⟨r, hr, rfl⟩

/-- The effect does not see the version and the event sequence. -/
theorem ArmEffect.of_advanced {c : IdrCommandV1} {version sequence : Nat} {bindings : RunBindings}
    {invalidated : List AuthoritativeRecordRefV1} {record : Option AuthoritativeRecordV1}
    (h : ArmEffect fresh { p with aggregateVersion := version, lastEventSequence := sequence } c
      proofs bindings invalidated record) :
    ArmEffect fresh p c proofs bindings invalidated record := by
  cases h with
  | quiet hc => exact .quiet hc
  | recorded hc hkind hnext => exact .recorded hc hkind hnext
  | decided hc hnext hvalues => exact .decided hc hnext hvalues
  | responded hc hnext href => exact .responded hc hnext href
  | acted hc hnext hdecision hcurrent hoption hoperation hparameter hdigest =>
    exact .acted hc hnext hdecision hcurrent hoption hoperation hparameter hdigest
  | admitted hc hnext hadmitted =>
    exact .admitted hc hnext { hadmitted with }
  | observed hc hnext => exact .observed hc hnext
  | proposed hc hnext href houtcome => exact .proposed hc hnext href houtcome
  | promoted hc hnext href hsource hcandidate houtcome =>
    exact .promoted hc hnext href hsource hcandidate houtcome
  | asserted hc hnext => exact .asserted hc hnext
  | corrected hc hcurrent hvalid hkind hid hrevision =>
    exact .corrected hc hcurrent hvalid hkind hid hrevision
  | invalidated hc hcurrent hvalid => exact .invalidated hc hcurrent hvalid

omit [Crypto] in
/-- An issued record enters the references and nothing else. -/
theorem insertRecord_framed (q : IdrRunProjectionV1) (record : Option AuthoritativeRecordV1) :
    q.insertRecord record = { q with records := (q.insertRecord record).records } := by
  cases record <;> rfl

omit [Crypto] in
theorem insertRecord_self (record : AuthoritativeRecordV1) :
    (p.insertRecord (some record)).records record.recordRef.candidateKind =
      some record.recordRef :=
  Function.update_self ..

omit [Crypto] in
theorem insertRecord_of_ne {record : AuthoritativeRecordV1} {kind : CandidateKindV1}
    (h : kind ≠ record.recordRef.candidateKind) :
    (p.insertRecord (some record)).records kind = p.records kind :=
  Function.update_of_ne h ..

omit [Crypto] in
theorem insertRecord_records {p q : IdrRunProjectionV1} (h : q.records = p.records)
    (record : Option AuthoritativeRecordV1) :
    (q.insertRecord record).records = (p.insertRecord record).records := by
  cases record with
  | none => exact h
  | some record =>
    show Function.update q.records _ _ = Function.update p.records _ _
    rw [h]

theorem evaluatedTransition_records
    (h : evaluatedTransition loadClosure fresh p command now proofs = .ok t) :
    StepFrame p t ∧ RecordEffect fresh p command now proofs t false := by
  obtain ⟨t₀, closure, ht₀, hclosed, hrecord⟩ := evaluatedTransition_closed h
  obtain ⟨hcheck, r, hr, -, rfl⟩ := evaluateAuthoritativeTransitionV1_eq_ok ht₀
  have hchecked := checkCommand_checked hcheck
  have harm := (evaluateCommand_arm hr hchecked.advanced).of_advanced
  have hnew := evaluateCommand_newRecord hchecked.advanced r hr
  obtain ⟨hframed, hlineage⟩ := evaluateCommand_framed r hr
  have hrecord : t.authoritativeRecord = r.authoritativeRecord := hrecord
  rw [← hrecord] at harm hclosed
  have hinsert := insertRecord_framed r.projection t.authoritativeRecord
  have hrecords : (r.projection.insertRecord t.authoritativeRecord).records =
      (p.insertRecord t.authoritativeRecord).records :=
    insertRecord_records (p := p) hframed.records _
  -- what the closure finds is the arm's projection with the record entered
  dsimp only at hclosed
  rw [hinsert, hrecords] at hclosed
  constructor
  · exact {
      trustDomain := hclosed.framed.trustDomain.trans hframed.trustDomain
      environmentRef := hclosed.framed.environmentRef.trans hframed.environmentRef
      runId := hclosed.framed.runId.trans hframed.runId
      tenantRef := hclosed.framed.tenantRef.trans hframed.tenantRef
      records := hclosed.framed.records
      aggregateVersion := hclosed.framed.aggregateVersion.trans hframed.aggregateVersion
      lastEventSequence := hclosed.framed.lastEventSequence.trans hframed.lastEventSequence }
  · refine .evaluated closure hcheck harm hclosed.bindings hclosed.invalidated ?_ ?_
    · intro hstart
      obtain ⟨hsubject, hturn⟩ := hlineage hstart
      exact ⟨hclosed.subjectRef.trans hsubject, hclosed.turnId.trans hturn⟩
    intro record hissued
    have hrecord := hnew record (hrecord ▸ hissued)
    exact { hrecord with
      subjectRef := hclosed.subjectRef.trans hrecord.subjectRef
      turnId := hclosed.turnId.trans hrecord.turnId }

theorem revokedTransition_records (h : revokedTransition loadClosure p command proofs = .ok t) :
    StepFrame p t ∧ RecordEffect fresh p command now proofs t true := by
  simp only [revokedTransition, bind_eq_ok, Except.ok.injEq] at h
  obtain ⟨admission, -, closure, -, t₀, ht₀, rfl⟩ := h
  have hclosed := applyRepositoryInvalidationClosure_closed t₀.projection closure false
  simp only [actionAdmissionProofFailure, bind_eq_ok, okOr_eq_ok, checkedAddU64_eq_some,
    Except.ok.injEq] at ht₀
  obtain ⟨bound, -, version, ⟨-, rfl⟩, sequence, ⟨-, rfl⟩, rfl⟩ := ht₀
  exact ⟨{
      trustDomain := hclosed.framed.trustDomain
      environmentRef := hclosed.framed.environmentRef
      runId := hclosed.framed.runId
      tenantRef := hclosed.framed.tenantRef
      records := hclosed.framed.records
      aggregateVersion := hclosed.framed.aggregateVersion
      lastEventSequence := hclosed.framed.lastEventSequence },
    .revoked closure rfl hclosed.bindings hclosed.invalidated ⟨hclosed.subjectRef, hclosed.turnId⟩⟩

theorem runTransition_records {i : RunInputV1} (h : runTransition p i = .ok t) :
    StepFrame p t ∧ RecordEffect i.fresh p i.command i.trustedNow i.verifiedProofs t i.revokes := by
  obtain ⟨-, h⟩ := runTransition_eq_ok.mp h
  split at h
  case isTrue hrevokes =>
    rw [hrevokes]
    exact revokedTransition_records h
  case isFalse hrevokes =>
    rw [Bool.not_eq_true] at hrevokes
    rw [hrevokes]
    exact evaluatedTransition_records h

/-- The step issues the record. -/
def Issues (record : AuthoritativeRecordV1) (s : RunStateV1) (i : RunInputV1) : Prop :=
  ∃ transition, runTransition s.projection i = .ok transition ∧
    transition.authoritativeRecord = some record

/-- **The records after a step** are those before with the issued one entered, whose identity and
lineage are known. -/
theorem runStep_records {s u : RunStateV1} {i : RunInputV1} (hstep : RunStep s i u) :
    ∃ issued, u.projection.records = (s.projection.insertRecord issued).records ∧
      ∀ record, (issued = some record ↔ Issues record s i) ∧
        (issued = some record → i.revokes = false ∧
          RecordIdentity i.fresh s.projection i.command.command record.recordRef ∧
          NewRecord s.projection u.projection i.command i.trustedNow i.verifiedProofs record) := by
  obtain ⟨-, -, -, transition, htransition, hu⟩ := runStep_eq_ok hstep
  obtain ⟨hframe, hrecords⟩ := runTransition_records htransition
  rw [hu]
  refine ⟨transition.authoritativeRecord, hframe.records, fun record => ⟨?_, fun hissued => ?_⟩⟩
  · constructor
    · exact fun h => ⟨transition, htransition, h⟩
    · rintro ⟨transition', htransition', h⟩
      rw [htransition, Except.ok.injEq] at htransition'
      rw [htransition', h]
  · generalize i.revokes = revokes at hrecords ⊢
    cases hrecords with
    | revoked closure hnone =>
      rw [hnone] at hissued
      cases hissued
    | evaluated closure _ harm _ _ _ hnew =>
      exact ⟨rfl, harm.identity hissued, hnew record hissued⟩

/-- Every current reference is of the kind it stands under. -/
def RecordsKinded (p : IdrRunProjectionV1) : Prop :=
  ∀ kind ref, p.records kind = some ref → ref.candidateKind = kind

omit [Crypto] in
theorem recordsKinded_step (hp : RecordsKinded p) (hframe : StepFrame p t) :
    RecordsKinded t.projection := by
  intro kind ref href
  rw [hframe.records] at href
  rcases hissued : t.authoritativeRecord with _ | record <;> rw [hissued] at href
  · exact hp kind ref href
  · by_cases hkind : kind = record.recordRef.candidateKind
    · subst hkind
      rw [insertRecord_self] at href
      rw [Option.some.inj href]
    · rw [insertRecord_of_ne hkind] at href
      exact hp kind ref href

theorem recordsKinded_reachable {s : RunStateV1} (hs : Reachable RunInit RunStep s) :
    RecordsKinded s.projection := by
  refine hs.invariant (P := fun s => RecordsKinded s.projection) ?_ ?_
  · rintro s ⟨trustDomain, environmentRef, runId, tenantRef, hs⟩ kind ref href
    rw [hs] at href
    cases href
  · intro s i t hs hstep
    obtain ⟨-, -, -, transition, htransition, ht⟩ := runStep_eq_ok hstep
    rw [ht]
    exact recordsKinded_step hs (runTransition_records htransition).1

end Steps

end Idr
