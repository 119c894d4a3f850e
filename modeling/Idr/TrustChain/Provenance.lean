/-
Idr/TrustChain/Provenance.lean

Where a dispatch comes from.

An execution is dispatched for the operation and the parameters of a
decision.  They reach it through four commands: the decision is bound, the
action is recorded against the bound decision, the action is admitted, and
the admission is reserved; each command copies what the one before has
left in the projection.  `Provenance` is the invariant that ties these
copies to the records of the history: what is bound was issued somewhere
along the run, under the conditions its command checks.  It is an
invariant of the run together with its inputs, since a projection does not
remember the records.

The second half is about the admission behind a permit.  A permit keeps
the reference of the admission it was reserved under, whereas what is
verified again before the dispatch is the admission bound at that time.
-/
import Idr.TrustChain.Records
import Idr.TrustChain.InFlight

namespace Idr

variable [Crypto]

/-! ### Reservations -/

/-- What an accepted `ReserveExecution` takes from the projection it is evaluated on. -/
structure ReservedFrom (p : IdrRunProjectionV1) (command : IdrCommandEnvelopeV1)
    (proofs : List VerifiedProductionProofV1) (a : ActionAdmissionProjectionV1)
    (e : ExecutionProjectionV1) : Prop where
  admission : p.actionAdmission = some a
  actionAdmissionRef : e.actionAdmissionRef = a.admissionRef
  actionRef : e.actionRef = a.actionRef
  providerRef : e.providerRef = a.providerRef
  ownerRef : e.ownerRef = a.ownerRef
  operationRef : e.operationRef = a.operationRef
  parameterDigest : e.parameterDigest = a.parameterDigest
  requestDigest : e.requestDigest = a.requestDigest
  idempotencyKey : e.idempotencyKey = a.idempotencyKey
  exactAuthorizationProofId : e.exactAuthorizationProofId = a.exactAuthorizationProofId
  actionValidUntil : e.actionValidUntil = e.actionRef.validUntil
  admissionValidUntil : e.admissionValidUntil = e.actionAdmissionRef.validUntil
  authorizationValidUntil : e.authorizationValidUntil = a.authorizationValidUntil
  current : p.records e.actionRef.candidateKind = some e.actionRef
  currentAdmission : p.records e.actionAdmissionRef.candidateKind = some e.actionAdmissionRef
  caller : command.callerRef = e.ownerRef
  lease : e.leaseUntil = e.permitValidUntil
  permit_action : e.permitValidUntil ≤ e.actionRef.validUntil
  permit_admission : e.permitValidUntil ≤ e.actionAdmissionRef.validUntil
  permit_authorization : e.permitValidUntil ≤ a.authorizationValidUntil
  permit_proof : ∃ proof ∈ proofs, proof.proofKind = .executionPermit ∧
    e.permitValidUntil ≤ proof.expiresAt

section Steps

variable {fresh : FreshIdsV1} {p : IdrRunProjectionV1} {command : IdrCommandEnvelopeV1} {now : Nat}
  {proofs : List VerifiedProductionProofV1}

omit [Crypto] in
theorem evaluateReserveExecution_reservedFrom {admissionRef actionRef : AuthoritativeRecordRefV1}
    {digest key nonce : Text} {providerRef ownerRef : ReferenceV1} {attempt lease : Nat}
    {r : ArmResultV1}
    (h : evaluateReserveExecution fresh p command now proofs admissionRef actionRef digest
      providerRef ownerRef key attempt lease nonce = .ok r) :
    ∃ a e, r.projection.execution = some e ∧ e.state = .permitIssued ∧
      ReservedFrom p command proofs a e := by
  simp only [evaluateReserveExecution, requireCaller, bind_eq_ok, exists_unit_eq_ok, okOr_eq_ok,
    rejectIf_eq_ok, require_eq_ok, exists_const, not_or, not_not, Except.ok.injEq] at h
  obtain ⟨haction, hadmission, hcaller, ⟨proofId, permitUntil⟩, hpermit, a, ha, permitValidUntil,
    hmin, ⟨-, rfl, rfl, rfl, rfl, rfl, -, -, -, -, -, -, -, -, -, hlease, -⟩, reservationId, -,
    rfl⟩ := h
  obtain ⟨hcurrent, -⟩ := requireExactCurrentRecordAt_eq_ok.mp haction
  obtain ⟨hcurrent', -⟩ := requireExactCurrentRecordAt_eq_ok.mp hadmission
  have hle : permitValidUntil ≤ lease := min?_le hmin (by simp)
  refine ⟨a, _, rfl, rfl, {
    admission := ha
    actionAdmissionRef := rfl
    actionRef := rfl
    providerRef := rfl
    ownerRef := rfl
    operationRef := rfl
    parameterDigest := rfl
    requestDigest := rfl
    idempotencyKey := rfl
    exactAuthorizationProofId := rfl
    actionValidUntil := rfl
    admissionValidUntil := rfl
    authorizationValidUntil := rfl
    current := hcurrent
    currentAdmission := hcurrent'
    caller := hcaller
    lease := Nat.le_antisymm (Nat.not_lt.mp hlease) hle
    permit_action := min?_le hmin (by simp)
    permit_admission := min?_le hmin (by simp)
    permit_authorization := min?_le hmin (by simp)
    permit_proof := ?_ }⟩
  unfold verifiedProofBinding at hpermit
  split at hpermit
  case h_1 proof hfound =>
    simp only [Except.ok.injEq, Prod.mk.injEq] at hpermit
    have hkind := List.find?_some hfound
    simp only [decide_eq_true_eq] at hkind
    refine ⟨proof, List.mem_of_find?_eq_some hfound, hkind.1, ?_⟩
    rw [hpermit.2]
    exact min?_le hmin (by simp)
  case h_2 => cases hpermit

/-- An evaluated reservation reserves from the bound admission. -/
theorem runTransition_reserved {i : RunInputV1} {t : IdrTransitionV1}
    (h : runTransition p i = .ok t) (hreserves : i.command.command.reserves = true)
    (hrevokes : i.revokes = false) :
    ∃ a e, t.projection.execution = some e ∧ e.state = .permitIssued ∧
      ReservedFrom p i.command i.verifiedProofs a e := by
  rcases hc : i.command.command <;> rw [hc] at hreserves <;> try cases hreserves
  -- a reservation issues no record, so no closure follows it
  obtain ⟨r, hr, ht⟩ := runTransition_quiet (by rw [hc]; rfl) (by simp [hc]) hrevokes h
  simp only [evaluateCommand, hc] at hr
  obtain ⟨a, e, he, hstate, hfrom⟩ := evaluateReserveExecution_reservedFrom hr
  refine ⟨a, e, ?_, hstate, { hfrom with }⟩
  rw [ht, insertRecord_execution]
  exact he

/-- **What becomes of the execution in a step**: it is the one before in some state, or it is newly
reserved from the bound admission. -/
theorem runTransition_execution {i : RunInputV1} {t : IdrTransitionV1}
    (h : runTransition p i = .ok t) :
    Moved p.execution t.projection.execution ∨
      i.revokes = false ∧ i.command.command.reserves = true ∧ ∃ a e,
        t.projection.execution = some e ∧ e.state = .permitIssued ∧
          Reservable p.execution e ∧ ReservedFrom p i.command i.verifiedProofs a e := by
  rcases (runTransition_effect h).change with hmoved | ⟨hrevokes, hreserves, next, hnext, -, -,
    hreservable, -⟩
  · exact .inl hmoved
  · refine .inr ⟨hrevokes, hreserves, ?_⟩
    obtain ⟨a, e, he, hstate, hfrom⟩ := runTransition_reserved h hreserves hrevokes
    obtain rfl := Option.some.inj (he.symm.trans hnext)
    exact ⟨a, e, he, hstate, hreservable, hfrom⟩

omit [Crypto] in
/-- The binding of one kind among those of an admission is that of a verified proof of the kind. -/
theorem proofBindings_lookup
    {bindings : List (ProductionProofKindV1 × ActionAdmissionProofBindingV1)}
    {kind : ProductionProofKindV1} {binding : ActionAdmissionProofBindingV1}
    {trustDomain : TrustDomainV1}
    (h : verifiedActionAdmissionProofBindings proofs trustDomain = .ok bindings)
    (hlookup : bindings.lookup kind = some binding) :
    ∃ proof ∈ proofs, proof.proofKind = kind ∧ proof.proofId = binding.proofId ∧
      proof.expiresAt = binding.validUntil := by
  simp only [verifiedActionAdmissionProofBindings, bind_eq_ok, Except.ok.injEq] at h
  obtain ⟨unsorted, hunsorted, rfl⟩ := h
  obtain ⟨before, after, hsplit, -⟩ := List.lookup_eq_some_iff.mp hlookup
  have hmem : (kind, binding) ∈ unsorted := by
    apply mem_of_mem_sortedSet
    rw [hsplit]
    simp
  obtain ⟨kind', -, hbinding⟩ := mem_of_mapM_eq_ok hunsorted hmem
  simp only [admissionProofBinding, verifiedProofBinding, bind_eq_ok, Except.ok.injEq,
    Prod.mk.injEq] at hbinding
  obtain ⟨⟨id, until_⟩, hfound, rfl, rfl⟩ := hbinding
  split at hfound
  case h_1 proof hproof =>
    simp only [Except.ok.injEq, Prod.mk.injEq] at hfound
    have hkind := List.find?_some hproof
    simp only [decide_eq_true_eq] at hkind
    exact ⟨proof, List.mem_of_find?_eq_some hproof, hkind.1, hfound.1, hfound.2⟩
  case h_2 => cases hfound

end Steps

/-! ### What happened along a run -/

/-- A decision for the operation and the parameters is recorded under the reference. -/
def RecordsDecision (ref : AuthoritativeRecordRefV1) (operationRef : ReferenceV1)
    (parameterDigest : Text) (_ : List RunInputV1) (s : RunStateV1) (i : RunInputV1)
    (_ : RunStateV1) : Prop :=
  ∃ record values, Issues record s i ∧ record.recordRef = ref ∧ ref.candidateKind = .decision ∧
    decisionBindingValues record.payload = .ok values ∧ values.operationRef = operationRef ∧
    values.parameterDigest = parameterDigest

/-- An action is recorded under the reference, while the current decision of the run is one for the
operation and the parameters. -/
def RecordsAction (s₀ : RunStateV1) (ref : AuthoritativeRecordRefV1) (operationRef : ReferenceV1)
    (parameterDigest : Text) (js : List RunInputV1) (s : RunStateV1) (i : RunInputV1)
    (_ : RunStateV1) : Prop :=
  ∃ record decisionRef, Issues record s i ∧ record.recordRef = ref ∧ ref.candidateKind = .action ∧
    s.projection.records .decision = some decisionRef ∧
    Happened RunStep (RecordsDecision decisionRef operationRef parameterDigest) s₀ js

/-- An action is admitted under the reference, by a verified authorization with that identifier
which is valid until then. -/
def AdmitsAction (ref : AuthoritativeRecordRefV1) (authorizationId : Uuid) (validUntil : Nat)
    (_ : List RunInputV1) (s : RunStateV1) (i : RunInputV1) (_ : RunStateV1) : Prop :=
  ∃ record proof, Issues record s i ∧ record.recordRef = ref ∧
    ref.candidateKind = .actionAdmissionDecision ∧ proof ∈ i.verifiedProofs ∧
    proof.proofKind = .exactAuthorization ∧ proof.proofId = authorizationId ∧
    proof.expiresAt = validUntil

/-- A permit that is valid until then is issued, by a verified proof at least as long valid. -/
def IssuesPermit (permitId : Uuid) (validUntil : Nat) (_ : List RunInputV1) (_ : RunStateV1)
    (i : RunInputV1) (t : RunStateV1) : Prop :=
  ∃ e proof, t.projection.execution = some e ∧ e.permitId = permitId ∧
    e.state = .permitIssued ∧ proof ∈ i.verifiedProofs ∧ proof.proofKind = .executionPermit ∧
    validUntil ≤ proof.expiresAt

/-- The action was recorded along the run for the operation and the parameters, and the request
digest is that of the three. -/
structure ActionProvenance (s₀ : RunStateV1) (is : List RunInputV1)
    (actionRef : AuthoritativeRecordRefV1) (operationRef : ReferenceV1)
    (parameterDigest requestDigest : Text) : Prop where
  recorded : Happened RunStep (RecordsAction s₀ actionRef operationRef parameterDigest) s₀ is
  request : fromProtocol (canonicalDigestV1 "idr-execution-request-v1"
    (Value.array [toValue actionRef, toValue operationRef, toValue parameterDigest])) =
      .ok requestDigest

/-- **What is bound was recorded.** -/
structure BindingProvenance (s₀ : RunStateV1) (is : List RunInputV1) (b : RunBindings) : Prop where
  decision : ∀ d, b.decision = some d →
    Happened RunStep (RecordsDecision d.decisionRef d.operationRef d.parameterDigest) s₀ is
  action : ∀ x, b.action = some x →
    ActionProvenance s₀ is x.actionRef x.operationRef x.parameterDigest x.requestDigest
  admission : ∀ a, b.admission = some a →
    ActionProvenance s₀ is a.actionRef a.operationRef a.parameterDigest a.requestDigest ∧
    Happened RunStep (AdmitsAction a.admissionRef a.exactAuthorizationProofId
      a.authorizationValidUntil) s₀ is

/-- **What is reserved was admitted**, and its permit is valid no longer than what it rests on. -/
structure PermitProvenance (s₀ : RunStateV1) (is : List RunInputV1) (e : ExecutionProjectionV1) :
    Prop where
  action : ActionProvenance s₀ is e.actionRef e.operationRef e.parameterDigest e.requestDigest
  admission : Happened RunStep (AdmitsAction e.actionAdmissionRef e.exactAuthorizationProofId
    e.authorizationValidUntil) s₀ is
  permit : Happened RunStep (IssuesPermit e.permitId e.permitValidUntil) s₀ is
  lease : e.leaseUntil = e.permitValidUntil
  permit_action : e.permitValidUntil ≤ e.actionRef.validUntil
  permit_admission : e.permitValidUntil ≤ e.actionAdmissionRef.validUntil
  permit_authorization : e.permitValidUntil ≤ e.authorizationValidUntil

section Provenance

variable {s₀ s t : RunStateV1} {is : List RunInputV1} {i : RunInputV1} {b c : RunBindings}
  {e : ExecutionProjectionV1}

theorem ActionProvenance.append {actionRef : AuthoritativeRecordRefV1} {operationRef : ReferenceV1}
    {parameterDigest requestDigest : Text}
    (h : ActionProvenance s₀ is actionRef operationRef parameterDigest requestDigest)
    (js : List RunInputV1) :
    ActionProvenance s₀ (is ++ js) actionRef operationRef parameterDigest requestDigest :=
  ⟨h.recorded.append js, h.request⟩

theorem BindingProvenance.append (h : BindingProvenance s₀ is b) (js : List RunInputV1) :
    BindingProvenance s₀ (is ++ js) b where
  decision d hd := (h.decision d hd).append js
  action x hx := (h.action x hx).append js
  admission a ha := ⟨(h.admission a ha).1.append js, (h.admission a ha).2.append js⟩

theorem BindingProvenance.of_le (h : BindingProvenance s₀ is c) (hle : b.Le c) :
    BindingProvenance s₀ is b where
  decision d hd := h.decision d (hle.decision d hd)
  action x hx := h.action x (hle.action x hx)
  admission a ha := h.admission a (hle.admission a ha)

theorem PermitProvenance.append (h : PermitProvenance s₀ is e) (js : List RunInputV1) :
    PermitProvenance s₀ (is ++ js) e :=
  ⟨h.action.append js, h.admission.append js, h.permit.append js, h.lease, h.permit_action,
    h.permit_admission, h.permit_authorization⟩

/-- The state of an execution plays no part. -/
theorem PermitProvenance.withState (h : PermitProvenance s₀ is e) (s : ExecutionAggregateStateV1) :
    PermitProvenance s₀ is (e.withState s) :=
  ⟨h.action, h.admission, h.permit, h.lease, h.permit_action, h.permit_admission,
    h.permit_authorization⟩

/-- **What an arm does to the provenance.**  Only three arms bind anything of it: the decision, the
action and its admission. -/
theorem ArmEffect.provenance {invalidated : List AuthoritativeRecordRefV1}
    {record : Option AuthoritativeRecordV1} (hrun : Run RunStep s₀ is s) (hstep : RunStep s i t)
    (h : ArmEffect i.fresh s.projection i.command.command i.verifiedProofs b invalidated record)
    (hissues : ∀ r, record = some r → Issues r s i)
    (hp : BindingProvenance s₀ is s.projection.bindings) :
    BindingProvenance s₀ (is ++ [i]) b := by
  have hbefore := hp.append [i]
  cases h with
  | quiet | recorded | asserted | corrected | invalidated => exact hbefore
  | responded | observed | proposed | promoted =>
    exact ⟨hbefore.decision, hbefore.action, hbefore.admission⟩
  | @decided values record _ hnext hvalues =>
    refine ⟨?_, hbefore.action, hbefore.admission⟩
    rintro d ⟨⟩
    exact .last hrun hstep
      ⟨record, values, hissues record rfl, rfl, hnext.1, hvalues, rfl, rfl⟩
  | @acted values decision digest record _ hnext hdecision hcurrent _ hoperation hparameter
      hdigest =>
    refine ⟨hbefore.decision, ?_, fun a ha => (by cases ha)⟩
    rintro x ⟨⟩
    refine ⟨.last hrun hstep ?_, hdigest⟩
    refine ⟨record, decision.decisionRef, hissues record rfl, rfl, hnext.1, hcurrent, ?_⟩
    rw [← hoperation, ← hparameter]
    exact hp.decision decision hdecision
  | @admitted a binding record digest _ hnext hadmitted =>
    refine ⟨hbefore.decision, hbefore.action, ?_⟩
    rintro a ⟨⟩
    have haction := hbefore.action binding hadmitted.action
    rw [hadmitted.actionRef, hadmitted.operationRef, hadmitted.parameterDigest,
      hadmitted.requestDigest]
    refine ⟨haction, .last hrun hstep ?_⟩
    obtain ⟨proof, hproof, hkind, hid, huntil⟩ :=
      proofBindings_lookup hadmitted.proofBindings hadmitted.authorization
    rw [hadmitted.admissionRef]
    exact ⟨record, proof, hissues record rfl, rfl, hnext.1, hproof, hkind, hid, huntil⟩

/-- What is reserved takes its provenance from the admission. -/
theorem ReservedFrom.provenance {a : ActionAdmissionProjectionV1} (hrun : Run RunStep s₀ is s)
    (hstep : RunStep s i t) (hp : BindingProvenance s₀ is s.projection.bindings)
    (h : ReservedFrom s.projection i.command i.verifiedProofs a e)
    (he : t.projection.execution = some e) (hstate : e.state = .permitIssued) :
    PermitProvenance s₀ (is ++ [i]) e := by
  obtain ⟨haction, hadmission⟩ := (hp.append [i]).admission a h.admission
  obtain ⟨proof, hproof, hkind, huntil⟩ := h.permit_proof
  refine {
    action := ?_
    admission := ?_
    permit := .last hrun hstep ⟨e, proof, he, rfl, hstate, hproof, hkind, huntil⟩
    lease := h.lease
    permit_action := h.permit_action
    permit_admission := h.permit_admission
    permit_authorization := h.authorizationValidUntil ▸ h.permit_authorization }
  · rw [h.actionRef, h.operationRef, h.parameterDigest, h.requestDigest]
    exact haction
  · rw [h.actionAdmissionRef, h.exactAuthorizationProofId, h.authorizationValidUntil]
    exact hadmission

/-- The provenance of everything a projection binds and reserves. -/
def Provenance (s₀ : RunStateV1) (is : List RunInputV1) (p : IdrRunProjectionV1) : Prop :=
  BindingProvenance s₀ is p.bindings ∧ ∀ e, p.execution = some e → PermitProvenance s₀ is e

/-- **What one step does to the provenance.** -/
theorem Provenance.step (hrun : Run RunStep s₀ is s) (h : Provenance s₀ is s.projection)
    (hstep : RunStep s i t) : Provenance s₀ (is ++ [i]) t.projection := by
  obtain ⟨-, -, -, transition, htransition, ht⟩ := runStep_eq_ok hstep
  obtain ⟨hbindings, hexecution⟩ := h
  constructor
  · obtain ⟨-, hrecords⟩ := runTransition_records htransition
    generalize i.revokes = revokes at hrecords
    rw [ht]
    cases hrecords with
    | evaluated closure _ harm hle _ _ =>
      have hissues : ∀ r, transition.authoritativeRecord = some r → Issues r s i :=
        fun r hr => ⟨transition, htransition, hr⟩
      exact (harm.provenance hrun hstep hissues hbindings).of_le hle
    | revoked closure _ hle => exact (hbindings.append [i]).of_le hle
  · intro e he
    rcases runTransition_execution htransition with ⟨f, hmoved⟩ |
      ⟨-, -, a, next, hnext, hstate, -, hfrom⟩
    · rw [ht, hmoved] at he
      obtain ⟨last, hlast, rfl⟩ := Option.map_eq_some_iff.mp he
      exact ((hexecution last hlast).append [i]).withState _
    · obtain rfl : next = e := Option.some.inj (hnext.symm.trans (ht ▸ he))
      exact hfrom.provenance hrun hstep hbindings he hstate

/-- **What is bound and reserved was recorded and admitted**, along every run. -/
theorem provenance_run (h₀ : RunInit s₀) (hrun : Run RunStep s₀ is s) :
    Provenance s₀ is s.projection := by
  refine hrun.history (P := fun is s => Provenance s₀ is s.projection) ?_ ?_
  · obtain ⟨trustDomain, environmentRef, runId, tenantRef, h₀⟩ := h₀
    rw [h₀]
    refine ⟨⟨fun _ h => (by cases h), fun _ h => (by cases h), fun _ h => (by cases h)⟩,
      fun _ h => (by cases h)⟩
  · exact fun js u i v hjs hu hi => hu.step hjs hi

/-! ### The binding at the dispatch -/

/-- **End-to-end binding**: what an execution is dispatched for, by whom and until when. -/
structure DispatchBound (s₀ : RunStateV1) (is : List RunInputV1) (s : RunStateV1) (i : RunInputV1)
    (e : ExecutionProjectionV1) : Prop where
  decision : Happened RunStep (RecordsAction s₀ e.actionRef e.operationRef e.parameterDigest) s₀ is
  request : fromProtocol (canonicalDigestV1 "idr-execution-request-v1"
    (Value.array [toValue e.actionRef, toValue e.operationRef, toValue e.parameterDigest])) =
      .ok e.requestDigest
  current : s.projection.records .action = some e.actionRef
  valid : e.actionRef ∉ s.projection.invalidatedRecords
  caller : i.command.callerRef = e.providerRef
  lease : i.trustedNow < e.leaseUntil
  lease_permit : e.leaseUntil ≤ e.permitValidUntil
  permit_action : e.permitValidUntil ≤ e.actionRef.validUntil
  permit_admission : e.permitValidUntil ≤ e.actionAdmissionRef.validUntil
  permit_authorization : ∃ validUntil, e.permitValidUntil ≤ validUntil ∧
    Happened RunStep (AdmitsAction e.actionAdmissionRef e.exactAuthorizationProofId validUntil)
      s₀ is
  permit_proof : Happened RunStep (IssuesPermit e.permitId e.permitValidUntil) s₀ is

omit [Crypto] in
theorem not_expired {now : Nat} (h : executionAuthorityExpired e now = false) :
    now < e.leaseUntil := by
  simp only [executionAuthorityExpired, Bool.or_eq_false_iff, decide_eq_false_iff_not,
    Nat.not_le, ge_iff_le] at h
  exact h.1.1.1.1

omit [Crypto] in
theorem evaluatePermitStep_caller {p : IdrRunProjectionV1} {command : IdrCommandEnvelopeV1}
    {now : Nat} {expected next : ExecutionAggregateStateV1} {event : Text}
    {reservationId permitId : Uuid} {r : ArmResultV1}
    (h : evaluatePermitStep expected next event p command now reservationId permitId = .ok r)
    (he : p.execution = some e) : command.callerRef = e.providerRef := by
  simp only [evaluatePermitStep, requireCaller, bind_eq_ok, currentExecution_eq_ok,
    require_eq_ok] at h
  obtain ⟨last, ⟨hlast, -, -⟩, -, hcaller, -⟩ := h
  obtain rfl := Option.some.inj (hlast.symm.trans he)
  exact hcaller

omit [Crypto] in
/-- A permit step that reaches its goal does so under current authority, for the provider. -/
theorem evaluatePermitStep_advanced {p : IdrRunProjectionV1} {command : IdrCommandEnvelopeV1}
    {now : Nat} {expected next : ExecutionAggregateStateV1} {event : Text}
    {reservationId permitId : Uuid} {r : ArmResultV1}
    (h : evaluatePermitStep expected next event p command now reservationId permitId = .ok r)
    (he : r.projection.execution = some e) (hstate : e.state = next)
    (hnext : ∀ state, withdrawnState state ≠ next) :
    ∃ last, p.execution = some last ∧ e = last.withState next ∧ last.state = expected ∧
      AuthorityCurrent p last now ∧ command.callerRef = last.providerRef := by
  obtain ⟨last, hlast, -, -, -, hafter⟩ := evaluatePermitStep_eq_ok h
  have hcaller := evaluatePermitStep_caller h hlast
  rcases hafter with ⟨hcurrent, hexpected, hafter⟩ | ⟨-, hafter⟩
  · obtain rfl := Option.some.inj (hafter.symm.trans he)
    exact ⟨last, hlast, rfl, hexpected, hcurrent, hcaller⟩
  · obtain rfl := Option.some.inj (hafter.symm.trans he)
    exact absurd hstate (hnext last.state)

omit [Crypto] in
theorem withdrawnState_ne (state : ExecutionAggregateStateV1) :
    withdrawnState state ≠ .permitDelivered ∧ withdrawnState state ≠ .dispatchStarted := by
  cases state <;> exact ⟨by simp [withdrawnState], by simp [withdrawnState]⟩

/-- The caller of an accepted dispatch is the provider of the execution, whose authority is
current. -/
theorem startDispatch_authority {p : IdrRunProjectionV1} {transition : IdrTransitionV1}
    {reservationId permitId : Uuid} (h : runTransition p i = .ok transition)
    (hc : i.command.command = .startDispatch reservationId permitId)
    (he : transition.projection.execution = some e) (hstate : e.state = .dispatchStarted) :
    ∃ last, p.execution = some last ∧ e = last.withState .dispatchStarted ∧
      AuthorityCurrent p last i.trustedNow ∧ i.command.callerRef = last.providerRef := by
  rcases hrevokes : i.revokes
  · obtain ⟨r, hr, ht⟩ := runTransition_quiet (by rw [hc]; rfl) (by simp [hc]) hrevokes h
    simp only [evaluateCommand, hc, evaluateStartDispatch] at hr
    rw [ht, insertRecord_execution] at he
    obtain ⟨last, hlast, hsame, -, hcurrent, hcaller⟩ :=
      evaluatePermitStep_advanced hr he hstate fun state => (withdrawnState_ne state).2
    exact ⟨last, hlast, hsame, hcurrent, hcaller⟩
  · -- a revocation never leaves an execution dispatched
    have heffect := runTransition_effect h
    rw [hrevokes, he] at heffect
    generalize transition.projection.state = run at heffect
    generalize hafter : some e = after at heffect
    cases heffect with
    | revoked =>
      obtain ⟨last, hlast, rfl⟩ := Option.map_eq_some_iff.mp hafter.symm
      rw [withState_state] at hstate
      unfold revokedState at hstate
      split at hstate <;> cases hstate

/-- **What is dispatched was decided, recorded, admitted and permitted.**  At every accepted
`StartDispatch` of every run, the execution carries the operation and the parameters of the
decision that was current when its action was recorded, under a permit that outlives none of the
authorities it rests on. -/
theorem dispatch_bound (h₀ : RunInit s₀) (hrun : Run RunStep s₀ is s) (hstep : RunStep s i t)
    {reservationId permitId : Uuid}
    (hc : i.command.command = .startDispatch reservationId permitId)
    (he : t.projection.execution = some e) (hstate : e.state = .dispatchStarted) :
    DispatchBound s₀ is s i e := by
  obtain ⟨-, -, -, transition, htransition, ht⟩ := runStep_eq_ok hstep
  obtain ⟨last, hlast, rfl, ⟨hcurrent, hvalid, hexpired⟩, hcaller⟩ :=
    startDispatch_authority htransition hc (ht ▸ he) hstate
  have hp := (provenance_run h₀ hrun).2 last hlast
  exact {
    decision := hp.action.recorded
    request := hp.action.request
    current := hcurrent
    valid := hvalid
    caller := hcaller
    lease := not_expired hexpired
    lease_permit := hp.lease.le
    permit_action := hp.permit_action
    permit_admission := hp.permit_admission
    permit_authorization := ⟨_, hp.permit_authorization, hp.admission⟩
    permit_proof := hp.permit }

omit [Crypto] in
/-- The sample run is bound at its dispatch. -/
theorem dispatch_bound_sample : ∃ is s t e,
    @RunStep Sample.crypto s (Sample.dispatchStarted s) t ∧ t.projection.execution = some e ∧
      e.state = .dispatchStarted ∧
      @DispatchBound Sample.crypto Sample.init is s (Sample.dispatchStarted s) e := by
  obtain ⟨t, hscript, hdispatched, -⟩ := sample_script
  obtain ⟨e, he, hstate⟩ := Sample.executionIs_iff.mp hdispatched
  rw [Sample.toDispatch, List.append_cons] at hscript
  obtain ⟨s, hs, -, hstep⟩ := runScript_append hscript
  obtain ⟨is, hrun⟩ := run_of_runScript hs
  exact ⟨is, s, t, e, hstep, he, hstate,
    @dispatch_bound Sample.crypto Sample.init s t is (Sample.dispatchStarted s) e
      Sample.runInit_init hrun.of_restrict hstep _ _ rfl he hstate⟩

end Provenance

/-! ### The admission behind a permit -/

section Admission

variable {s t : RunStateV1} {i : RunInputV1} {e : ExecutionProjectionV1}

section PermitOpen

omit [Crypto]

/-- The step uses an open permit: it recovers, delivers or dispatches it. -/
def UsesPermit (i : RunInputV1) (t : RunStateV1) : Prop :=
  i.revokes = false ∧ ∃ e, t.projection.execution = some e ∧
    ((∃ reservationId, i.command.command = .recoverPermit reservationId) ∨
      (∃ reservationId permitId, i.command.command = .deliverPermit reservationId permitId) ∧
        e.state = .permitDelivered ∨
      (∃ reservationId permitId, i.command.command = .startDispatch reservationId permitId) ∧
        e.state = .dispatchStarted)

/-- The action is admitted once more while a permit is open. -/
def ReadmitsOpenPermit (s : RunStateV1) (i : RunInputV1) : Prop :=
  i.command.command.issuedKind = some .actionAdmissionDecision ∧
    ∃ e, s.projection.execution = some e ∧ PermitOpen e.state

instance (s : RunStateV1) (i : RunInputV1) : Decidable (ReadmitsOpenPermit s i) :=
  decidable_of_iff (i.command.command.issuedKind = some .actionAdmissionDecision ∧
      s.projection.execution.any (fun e => PermitOpen e.state) = true) (by
    simp [ReadmitsOpenPermit, Option.any_eq_true])

/-- **The admission bound while a permit is open is the one the permit was reserved under.** -/
def PermitAdmission (p : IdrRunProjectionV1) : Prop :=
  ∀ e a, p.execution = some e → PermitOpen e.state → p.actionAdmission = some a →
    a.admissionRef = e.actionAdmissionRef ∧
      a.exactAuthorizationProofId = e.exactAuthorizationProofId

theorem withdrawnState_not_permitOpen (state : ExecutionAggregateStateV1) :
    ¬ PermitOpen (withdrawnState state) := by
  cases state <;> simp [withdrawnState, PermitOpen]

theorem supersededState_not_permitOpen (state : ExecutionAggregateStateV1) :
    ¬ PermitOpen (supersededState state) := by
  cases state <;> simp [supersededState, withdrawnState, PermitOpen,
    ExecutionAggregateStateV1.isTerminal]

theorem revokedState_not_permitOpen (state : ExecutionAggregateStateV1) :
    ¬ PermitOpen (revokedState state) := by
  unfold revokedState
  split <;> simp [PermitOpen]

/-- What a command leaves open was open before, unless the command reserves it.  A new action leaves
nothing open. -/
theorem LifecycleEffect.permitOpen {fresh : FreshIdsV1} {now : Nat} {p : IdrRunProjectionV1}
    {c : IdrCommandV1} {run : IdrRunStateV1} {after : Option ExecutionProjectionV1}
    (h : LifecycleEffect fresh now p c run after) (he : after = some e)
    (hopen : PermitOpen e.state) :
    ((∀ action, c ≠ .recordAction action) ∧
      ∃ last, p.execution = some last ∧ PermitOpen last.state ∧ e = last.withState e.state) ∨
      c.reserves = true := by
  cases h with
  | kept _ hc =>
    refine .inl ⟨?_, e, he, hopen, rfl⟩
    rintro action rfl
    cases hc
  | started | blocked | cancelled => exact .inl ⟨nofun, e, he, hopen, rfl⟩
  | superseded =>
    obtain ⟨last, -, rfl⟩ := Option.map_eq_some_iff.mp he
    exact absurd hopen (supersededState_not_permitOpen _)
  | reserved hc => exact .inr hc
  | @delivered last hlast _ hstate =>
    cases he
    exact .inl ⟨nofun, last, hlast, .inl hstate, rfl⟩
  | dispatched | expired | overdue =>
    cases he
    rcases hopen with h | h <;> cases h
  | withdrawn =>
    cases he
    exact absurd hopen (withdrawnState_not_permitOpen _)
  | received _ _ hreceipt =>
    cases he
    rcases receiptTerminalState_eq_ok hreceipt with rfl | rfl | rfl | rfl <;>
      rcases hopen with h | h <;> cases h
  | invalidated recordRef =>
    obtain ⟨last, hlast, hafter⟩ := Option.map_eq_some_iff.mp he
    split at hafter <;> subst hafter
    · exact absurd hopen (withdrawnState_not_permitOpen _)
    · exact .inl ⟨nofun, last, hlast, hopen, rfl⟩

/-- A closure leaves open only what it does not touch. -/
theorem closeAll_permitOpen {closure : List AuthoritativeRecordRefV1}
    (h : PermitOpen (closeAll closure e).state) :
    e.actionRef ∉ closure ∧ closeAll closure e = e := by
  unfold closeAll at h ⊢
  split at h
  case isTrue hmem =>
    rcases h with h | h <;> cases hstate : e.state <;>
      simp [invalidatedState, hstate, ExecutionAggregateStateV1.isTerminal] at h
  case isFalse hmem => exact ⟨hmem, if_neg hmem⟩

theorem RunEffect.permitOpen {fresh : FreshIdsV1} {now : Nat} {p : IdrRunProjectionV1}
    {c : IdrCommandV1} {revokes : Bool} {run : IdrRunStateV1}
    {after : Option ExecutionProjectionV1} (h : RunEffect fresh now p c revokes run after)
    (he : after = some e) (hopen : PermitOpen e.state) :
    (∃ last, p.execution = some last ∧ PermitOpen last.state ∧ e = last.withState e.state) ∨
      c.reserves = true ∧ revokes = false := by
  cases h with
  | evaluated _ hlife => exact (hlife.permitOpen he hopen).imp And.right fun hc => ⟨hc, rfl⟩
  | closed closure _ hlife | invalidated _ _ closure _ _ hlife =>
    obtain ⟨e₀, he₀, rfl⟩ := Option.map_eq_some_iff.mp he
    obtain ⟨-, hsame⟩ := closeAll_permitOpen hopen
    rw [hsame] at hopen ⊢
    exact (hlife.permitOpen he₀ hopen).imp And.right fun hc => ⟨hc, rfl⟩
  | revoked =>
    obtain ⟨last, -, rfl⟩ := Option.map_eq_some_iff.mp he
    exact absurd hopen (revokedState_not_permitOpen _)

end PermitOpen

/-- An arm binds another admission only when it issues one. -/
theorem ArmEffect.admission {fresh : FreshIdsV1} {p : IdrRunProjectionV1} {c : IdrCommandV1}
    {proofs : List VerifiedProductionProofV1} {b : RunBindings}
    {invalidated : List AuthoritativeRecordRefV1} {record : Option AuthoritativeRecordV1}
    (h : ArmEffect fresh p c proofs b invalidated record)
    (hc : c.issuedKind ≠ some .actionAdmissionDecision) {a : ActionAdmissionProjectionV1}
    (ha : b.admission = some a) : p.actionAdmission = some a := by
  cases h with
  | acted => cases ha
  | admitted hnew => exact absurd (by rw [hnew]; rfl) hc
  | quiet | recorded | decided | responded | observed | proposed | promoted | asserted | corrected
  | invalidated => exact ha

/-- **What one step does to the admission behind a permit.** -/
theorem permitAdmission_step (hs : PermitAdmission s.projection) (hstep : RunStep s i t)
    (hallowed : ¬ ReadmitsOpenPermit s i) : PermitAdmission t.projection := by
  obtain ⟨-, -, -, transition, htransition, ht⟩ := runStep_eq_ok hstep
  intro e a he hopen ha
  rw [ht] at he ha
  -- the bound admission is that of before, unless the step admits an action
  have hbefore : i.command.command.issuedKind ≠ some .actionAdmissionDecision →
      s.projection.actionAdmission = some a := by
    intro hc
    obtain ⟨-, hrecords⟩ := runTransition_records htransition
    generalize i.revokes = revokes at hrecords
    cases hrecords with
    | evaluated closure _ harm hle => exact harm.admission hc (hle.admission a ha)
    | revoked closure _ hle => exact hle.admission a ha
  rcases (runTransition_effect htransition).permitOpen he hopen with
    ⟨last, hlast, hwas, hsame⟩ | ⟨hreserves, hrevokes⟩
  · have hc : i.command.command.issuedKind ≠ some .actionAdmissionDecision :=
      fun hc => hallowed ⟨hc, last, hlast, hwas⟩
    rw [hsame]
    exact hs last a hlast hwas (hbefore hc)
  · have hc : i.command.command.issuedKind ≠ some .actionAdmissionDecision := by
      cases h : i.command.command <;>
        simp_all [IdrCommandV1.reserves, IdrCommandV1.issuedKind,
          IdrCommandV1.expectedCandidateKind]
    obtain ⟨a', next, hnext, -, hfrom⟩ := runTransition_reserved htransition hreserves hrevokes
    obtain rfl := Option.some.inj (hnext.symm.trans he)
    obtain rfl := Option.some.inj (hfrom.admission.symm.trans (hbefore hc))
    exact ⟨hfrom.actionAdmissionRef.symm, hfrom.exactAuthorizationProofId.symm⟩

/-- A step that uses a permit finds it open, and keeps the rest of the execution. -/
theorem UsesPermit.permitOpen {transition : IdrTransitionV1}
    (h : runTransition s.projection i = .ok transition) (ht : t.projection = transition.projection)
    (huses : UsesPermit i t) :
    ∃ e state, s.projection.execution = some e ∧ PermitOpen e.state ∧
      t.projection.execution = some (e.withState state) := by
  obtain ⟨hrevokes, e, he, hcommand⟩ := huses
  rcases hcommand with ⟨reservationId, hc⟩ | ⟨⟨reservationId, permitId, hc⟩, hstate⟩ |
    ⟨⟨reservationId, permitId, hc⟩, hstate⟩ <;>
    obtain ⟨r, hr, hprojection⟩ :=
      runTransition_quiet (by rw [hc]; rfl) (by simp [hc]) hrevokes h <;>
    rw [ht, hprojection, insertRecord_execution] at he <;>
    simp only [evaluateCommand, hc] at hr <;>
    rw [ht, hprojection, insertRecord_execution]
  · simp only [evaluateRecoverPermit, bind_eq_ok, executionOf_eq_ok, exists_unit_eq_ok,
      rejectIf_eq_ok, exists_const, not_not] at hr
    obtain ⟨last, ⟨hlast, -⟩, -, -, hopen, hr⟩ := hr
    split at hr <;> simp only [Except.ok.injEq] at hr <;> subst hr
    · refine ⟨last, .expired, hlast, hopen, ?_⟩
      rw [setExecutionState_execution, hlast]
      rfl
    · exact ⟨last, last.state, hlast, hopen, hlast⟩
  · obtain ⟨last, hlast, rfl, hissued, -⟩ :=
      evaluatePermitStep_advanced hr he hstate fun state => (withdrawnState_ne state).1
    exact ⟨last, _, hlast, .inl hissued, he⟩
  · obtain ⟨last, hlast, rfl, hdelivered, -⟩ :=
      evaluatePermitStep_advanced hr he hstate fun state => (withdrawnState_ne state).2
    exact ⟨last, _, hlast, .inr hdelivered, he⟩

/-- **A permit is used under the admission it was reserved under**, in the runs that admit no action
while a permit is open. -/
theorem permit_used_as_admitted
    (hs : Reachable RunInit (Restrict RunStep fun s i => ¬ ReadmitsOpenPermit s i) s)
    (hstep : RunStep s i t) (huses : UsesPermit i t) :
    ∃ a e, s.projection.actionAdmission = some a ∧ t.projection.execution = some e ∧
      a.admissionRef = e.actionAdmissionRef ∧
      a.exactAuthorizationProofId = e.exactAuthorizationProofId := by
  have hadmission : PermitAdmission s.projection := by
    refine hs.invariant (P := fun s => PermitAdmission s.projection) ?_ ?_
    · rintro s ⟨trustDomain, environmentRef, runId, tenantRef, hs⟩ e a he
      rw [hs] at he
      cases he
    · exact fun s i t hs hstep => permitAdmission_step hs hstep.2 hstep.1
  obtain ⟨-, -, -, transition, htransition, ht⟩ := runStep_eq_ok hstep
  obtain ⟨e, state, he, hopen, hafter⟩ := huses.permitOpen htransition ht
  -- the proofs of a bound admission have been verified again, so there is one
  have hbound : s.projection.actionAdmission.isSome = true := by
    refine (runTransition_eq_ok.mp htransition).1 ?_
    obtain ⟨-, e', -, ⟨r, hc⟩ | ⟨⟨r, permit, hc⟩, -⟩ | ⟨⟨r, permit, hc⟩, -⟩⟩ := huses <;>
      rw [hc] <;> rfl
  obtain ⟨a, ha⟩ := Option.isSome_iff_exists.mp hbound
  obtain ⟨href, hid⟩ := hadmission e a he hopen ha
  exact ⟨a, _, ha, hafter, href, hid⟩

omit [Crypto]

/-- The permit can be delivered; or its action is admitted once more, and then the permit is
delivered under the new admission. -/
def Sample.readmitsAction (s : RunStateV1) : Bool :=
  isOkAnd (@runStep crypto s (permitDelivered s)) (fun t => executionIs .permitDelivered t) &&
    isOkAnd (@runStep crypto s (actionReadmitted s)) fun t =>
      !admissionKept t &&
        isOkAnd (@runStep crypto t (permitDelivered t)) fun r => executionIs .permitDelivered r

set_option maxRecDepth 10000 in
def Sample.permitReadmitted :
    RunScript (fun s i => ¬ ReadmitsOpenPermit s i) readmitsAction where
  inputs := toPermit
  leads := by decide +kernel

theorem usesPermit_delivered {caller : ReferenceV1} {now : Nat}
    {closure : IdrRunProjectionV1 → List AuthoritativeRecordRefV1}
    (h : Sample.executionIs .permitDelivered t = true) :
    UsesPermit (Sample.input now caller Sample.deliverPermit closure s) t := by
  obtain ⟨e, he, hstate⟩ := Sample.executionIs_iff.mp h
  exact ⟨rfl, e, he, .inr (.inl ⟨⟨_, _, rfl⟩, hstate⟩)⟩

/-- The permit of the sample run is delivered under its own admission. -/
theorem permit_used_as_admitted_sample : ∃ s t a e,
    @RunStep Sample.crypto s (Sample.permitDelivered s) t ∧
      UsesPermit (Sample.permitDelivered s) t ∧
      s.projection.actionAdmission = some a ∧ t.projection.execution = some e ∧
      a.admissionRef = e.actionAdmissionRef ∧
      a.exactAuthorizationProofId = e.exactAuthorizationProofId := by
  obtain ⟨s, is, hrun, h⟩ := Sample.permitReadmitted.run
  simp only [Sample.readmitsAction, Bool.and_eq_true, isOkAnd_iff] at h
  obtain ⟨⟨t, ht, hdelivered⟩, -⟩ := h
  obtain ⟨a, e, ha, he, href, hid⟩ := @permit_used_as_admitted Sample.crypto s t
    (Sample.permitDelivered s) ⟨Sample.init, is, Sample.runInit_init, hrun⟩ ht
      (usesPermit_delivered hdelivered)
  exact ⟨s, t, a, e, ht, usesPermit_delivered hdelivered, ha, he, href, hid⟩

/-- Without the condition it may be used under another: the sample permit is delivered after its
action was admitted once more. -/
theorem permit_used_under_other_admission :
    ¬ ∀ s i t, Reachable RunInit (@RunStep Sample.crypto) s → @RunStep Sample.crypto s i t →
      UsesPermit i t → ∃ a e, s.projection.actionAdmission = some a ∧
        t.projection.execution = some e ∧ a.admissionRef = e.actionAdmissionRef ∧
        a.exactAuthorizationProofId = e.exactAuthorizationProofId := by
  intro hkept
  obtain ⟨s, is, hrun, h⟩ := Sample.permitReadmitted.run
  simp only [Sample.readmitsAction, Bool.and_eq_true, isOkAnd_iff, Bool.not_eq_true'] at h
  obtain ⟨-, t, ht, hother, r, hr, hdelivered⟩ := h
  have hreachable : Reachable RunInit (@RunStep Sample.crypto) t :=
    Reachable.snoc ⟨Sample.init, is, Sample.runInit_init, hrun.of_restrict⟩ ht
  have huses : UsesPermit (Sample.permitDelivered t) r := usesPermit_delivered hdelivered
  obtain ⟨a, e, ha, he, href, -⟩ := hkept t _ r hreachable hr huses
  obtain ⟨-, -, -, transition, htransition, hprojection⟩ := @runStep_eq_ok Sample.crypto _ _ _ hr
  obtain ⟨e₀, state, he₀, -, hafter⟩ := @UsesPermit.permitOpen Sample.crypto _ _ _ _ htransition
    hprojection huses
  obtain rfl := Option.some.inj (hafter.symm.trans he)
  have hsame : Sample.admissionKept t = true := by
    simp only [Sample.admissionKept, he₀, ha, Option.any_some, decide_eq_true_eq]
    exact href
  rw [hother] at hsame
  cases hsame

end Admission

end Idr
