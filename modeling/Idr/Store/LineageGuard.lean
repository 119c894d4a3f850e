/-
Idr/Store/LineageGuard.lean

The lineage trigger of the record table, against the evaluator.

Before a record is inserted, the trigger compares its subject and turn with
those of the run, and a successor field by field with the row of its
predecessor.  The evaluator checks run, tenant, subject and turn against
the projection; the policy revision it takes from the command as it comes.
`lineage_guard_agrees`: of the records the evaluator issues, the trigger
refuses exactly the successors issued under another policy revision.
-/
import Idr.TrustChain.Records

namespace Idr

/-! ### The guard -/

/-- `a <> b` in a condition: a null on either side makes it not true. -/
def differs {α : Type} [DecidableEq α] (a b : Option α) : Bool :=
  a.any fun x => b.any fun y => x ≠ y

theorem differs_eq_false {α : Type} [DecidableEq α] {x y : α} :
    differs (some x) (some y) = false ↔ x = y := by
  simp [differs]

@[simp] theorem differs_none_left {α : Type} [DecidableEq α] (b : Option α) :
    differs none b = false := rfl

/-- `idr_enforce_record_lineage_v2`: whether the row may be inserted.  `run` is the stored
projection of its run, and `predecessor` the row that is found under its identifier and the revision
before. -/
def idrEnforceRecordLineageV2 (run : IdrRunProjectionV1)
    (predecessor : Option AuthoritativeRecordV1) (new : AuthoritativeRecordV1) : Bool :=
  if differs (some new.subjectRef) run.subjectRef = true
      ∨ differs (some new.turnId) run.turnId = true then
    false
  else if new.recordRef.revision > 1 then
    !(differs (predecessor.map (·.runId)) (some new.runId)
      || differs (predecessor.map (·.tenantRef)) (some new.tenantRef)
      || differs (predecessor.map (·.subjectRef)) (some new.subjectRef)
      || differs (predecessor.map (·.turnId)) (some new.turnId)
      || differs (predecessor.map (·.policyRevisionRef)) (some new.policyRevisionRef))
  else true

/-- **What the trigger demands of a successor.** -/
structure SuccessorLineage (run : IdrRunProjectionV1) (predecessor new : AuthoritativeRecordV1) :
    Prop where
  runSubject : run.subjectRef = some new.subjectRef
  runTurn : run.turnId = some new.turnId
  runId : new.runId = predecessor.runId
  tenantRef : new.tenantRef = predecessor.tenantRef
  subjectRef : new.subjectRef = predecessor.subjectRef
  turnId : new.turnId = predecessor.turnId
  policyRevisionRef : new.policyRevisionRef = predecessor.policyRevisionRef

/-- The trigger lets a successor pass when it demands no more than it has. -/
theorem idrEnforceRecordLineageV2_successor {run : IdrRunProjectionV1}
    {predecessor new : AuthoritativeRecordV1} (hsubject : run.subjectRef = some new.subjectRef)
    (hturn : run.turnId = some new.turnId) (hrevision : 1 < new.recordRef.revision) :
    idrEnforceRecordLineageV2 run (some predecessor) new = true ↔
      SuccessorLineage run predecessor new := by
  have hrun : ¬ (differs (some new.subjectRef) run.subjectRef = true ∨
      differs (some new.turnId) run.turnId = true) := by
    rw [hsubject, hturn, not_or]
    exact ⟨by simp [differs], by simp [differs]⟩
  rw [idrEnforceRecordLineageV2, if_neg hrun, if_pos hrevision]
  simp only [Option.map_some, Bool.not_eq_true', Bool.or_eq_false_iff, differs_eq_false]
  constructor
  · rintro ⟨⟨⟨⟨hrunId, htenant⟩, hsubject'⟩, hturn'⟩, hpolicy⟩
    exact ⟨hsubject, hturn, hrunId.symm, htenant.symm, hsubject'.symm, hturn'.symm, hpolicy.symm⟩
  · intro h
    exact ⟨⟨⟨⟨h.runId.symm, h.tenantRef.symm⟩, h.subjectRef.symm⟩, h.turnId.symm⟩,
      h.policyRevisionRef.symm⟩

/-- The trigger lets a first revision of the run pass. -/
theorem idrEnforceRecordLineageV2_first {run : IdrRunProjectionV1} {new : AuthoritativeRecordV1}
    (hsubject : run.subjectRef = some new.subjectRef) (hturn : run.turnId = some new.turnId)
    (hrevision : new.recordRef.revision = 1) :
    idrEnforceRecordLineageV2 run none new = true := by
  simp [idrEnforceRecordLineageV2, differs, hsubject, hturn, hrevision]

/-! ### A run leaves its pending state for good -/

theorem pending_startRun {c : IdrCommandV1} (h : commandStateAllowed .pending c = true) :
    ∃ input, c = .startRun input := by
  cases c <;> simp_all [commandStateAllowed]

theorem LifecycleEffect.not_pending {fresh : FreshIdsV1} {now : Nat} {p : IdrRunProjectionV1}
    {c : IdrCommandV1} {run : IdrRunStateV1} {execution : Option ExecutionProjectionV1}
    (hallowed : commandStateAllowed p.state c = true)
    (h : LifecycleEffect fresh now p c run execution) : run ≠ .pending := by
  -- an arm that leaves the state as it is was not taken in the pending state
  have hkept : (∀ input, c ≠ .startRun input) → p.state ≠ .pending := by
    intro hc hpending
    rw [hpending] at hallowed
    obtain ⟨input, hstart⟩ := pending_startRun hallowed
    exact hc input hstart
  cases h with
  | kept c hc =>
    apply hkept
    rintro input rfl
    cases hc
  | reserved hc =>
    apply hkept
    rintro input rfl
    cases hc
  | withdrawn hc =>
    apply hkept
    rcases hc with rfl | rfl <;> simp
  | expired hc =>
    apply hkept
    rcases hc with rfl | rfl <;> simp
  | superseded | delivered | dispatched | overdue =>
    apply hkept
    simp
  | @received _ _ state _ _ _ _ hrun =>
    intro hpending
    cases state <;> simp [receiptRunState, hpending] at hrun
  | started | blocked | invalidated | cancelled => simp

/-- **No step leads back to the pending state.** -/
theorem RunEffect.not_pending {fresh : FreshIdsV1} {now : Nat} {p : IdrRunProjectionV1}
    {c : IdrCommandV1} {revokes : Bool} {run : IdrRunStateV1}
    {execution : Option ExecutionProjectionV1} (h : RunEffect fresh now p c revokes run execution) :
    run ≠ .pending := by
  cases h with
  | evaluated hallowed hlife => exact hlife.not_pending hallowed
  | closed closure hallowed hlife =>
    have hrun := hlife.not_pending hallowed
    unfold closedRunState
    split
    · simp
    · exact hrun
  | invalidated => simp
  | revoked =>
    unfold revokedRunState
    split <;> simp

/-! ### The lineage of the issued records -/

section Runs

variable [Crypto] {s₀ s t : RunStateV1} {is : List RunInputV1} {i : RunInputV1}
  {record : AuthoritativeRecordV1}

/-- The record has been issued in the run. -/
def Issued (s₀ : RunStateV1) (is : List RunInputV1) (record : AuthoritativeRecordV1) : Prop :=
  Happened RunStep (fun _ s i _ => Issues record s i) s₀ is

omit [Crypto] in
/-- The record is of the run, of its tenant, subject and turn. -/
structure OfRun (p : IdrRunProjectionV1) (record : AuthoritativeRecordV1) : Prop where
  runId : record.runId = p.runId
  tenantRef : record.tenantRef = p.tenantRef
  subjectRef : p.subjectRef = some record.subjectRef
  turnId : p.turnId = some record.turnId

omit [Crypto] in
theorem NewRecord.ofRun {p q : IdrRunProjectionV1} {command : IdrCommandEnvelopeV1} {now : Nat}
    {proofs : List VerifiedProductionProofV1} (h : NewRecord p q command now proofs record)
    (hrunId : q.runId = p.runId) (htenant : q.tenantRef = p.tenantRef) : OfRun q record :=
  ⟨h.runId.trans hrunId.symm, h.tenantRef.trans htenant.symm, h.subjectRef, h.turnId⟩

/-- What a run keeps of its records: they are of the run, there are none while it is pending, and
the current ones are among them. -/
structure LineageInv (s₀ : RunStateV1) (is : List RunInputV1) (s : RunStateV1) : Prop where
  ofRun : ∀ record, Issued s₀ is record → OfRun s.projection record
  pending : s.projection.state = .pending → ∀ record, ¬ Issued s₀ is record
  current : ∀ kind ref, s.projection.records kind = some ref →
    ∃ record, Issued s₀ is record ∧ record.recordRef = ref

/-- **What one step does to the lineage.** -/
theorem lineageInv_step (hrun : Run RunStep s₀ is s) (h : LineageInv s₀ is s)
    (hstep : RunStep s i t) : LineageInv s₀ (is ++ [i]) t := by
  obtain ⟨-, -, -, transition, htransition, ht⟩ := runStep_eq_ok hstep
  obtain ⟨hframe, hrecords⟩ := runTransition_records htransition
  have heffect := runTransition_effect htransition
  obtain ⟨issued, hcurrent, hissued⟩ := runStep_records hstep
  have hrunId : t.projection.runId = s.projection.runId := by
    rw [ht, hframe.runId]
  have htenant : t.projection.tenantRef = s.projection.tenantRef := by
    rw [ht, hframe.tenantRef]
  -- a record from before the step keeps its lineage: only the start of a run sets it, and before
  -- that there are no records
  have hbefore : ∀ record, Issued s₀ is record → OfRun t.projection record := by
    intro record hearlier
    have hlineage : SameLineage s.projection t.projection := by
      rw [ht]
      generalize i.revokes = revokes at hrecords
      cases hrecords with
      | revoked closure _ _ _ hlineage => exact hlineage
      | evaluated closure hcheck _ _ _ hlineage =>
        apply hlineage
        intro input hstart
        have hallowed := checkCommand_state hcheck
        rw [hstart, commandStateAllowed, decide_eq_true_eq] at hallowed
        exact h.pending hallowed record hearlier
    obtain ⟨hrecordRun, hrecordTenant, hsubject, hturn⟩ := h.ofRun record hearlier
    exact ⟨hrecordRun.trans hrunId.symm, hrecordTenant.trans htenant.symm,
      hlineage.1.trans hsubject, hlineage.2.trans hturn⟩
  refine {
    ofRun := ?_
    pending := fun hpending => absurd (ht ▸ hpending) heffect.not_pending
    current := ?_ }
  · intro record hhappened
    rcases hhappened.of_snoc runStep_deterministic hrun hstep with hearlier | hnow
    · exact hbefore record hearlier
    · obtain ⟨-, -, hnew⟩ := (hissued record).2 ((hissued record).1.mpr hnow)
      exact hnew.ofRun hrunId htenant
  · intro kind ref href
    rw [hcurrent] at href
    rcases issued with _ | record
    · obtain ⟨record, hearlier, hsame⟩ := h.current kind ref href
      exact ⟨record, hearlier.append [i], hsame⟩
    · by_cases hkind : kind = record.recordRef.candidateKind
      · subst hkind
        rw [insertRecord_self] at href
        exact ⟨record, .last hrun hstep ((hissued record).1.mp rfl), Option.some.inj href⟩
      · rw [insertRecord_of_ne hkind] at href
        obtain ⟨earlier, hearlier, hsame⟩ := h.current kind ref href
        exact ⟨earlier, hearlier.append [i], hsame⟩

theorem lineageInv_run (h₀ : RunInit s₀) (hrun : Run RunStep s₀ is s) : LineageInv s₀ is s := by
  refine hrun.history (P := LineageInv s₀) ?_ fun js u i v hjs h hstep =>
    lineageInv_step hjs h hstep
  obtain ⟨trustDomain, environmentRef, runId, tenantRef, hs⟩ := h₀
  have hnone : ∀ record, ¬ Issued s₀ [] record := by
    rintro record ⟨js, j, ks, u, v, hnil, -⟩
    exact absurd hnil (by simp)
  refine ⟨fun record hissued => absurd hissued (hnone record), fun _ => hnone, ?_⟩
  intro kind ref href
  rw [hs] at href
  cases href

/-- What the query for the predecessor of a record finds among the records of the run. -/
def FindsPredecessor (s₀ : RunStateV1) (is : List RunInputV1) (new : AuthoritativeRecordV1)
    (row : Option AuthoritativeRecordV1) : Prop :=
  let precedes (r : AuthoritativeRecordV1) : Prop :=
    r.recordRef.recordId = new.recordRef.recordId
      ∧ r.recordRef.revision + 1 = new.recordRef.revision
  match row with
  | none => ∀ r, Issued s₀ is r → ¬ precedes r
  | some r => Issued s₀ is r ∧ precedes r

/-- The command is under the policy revision of the predecessor, where there is one. -/
def KeepsPolicyRevision (i : RunInputV1) (row : Option AuthoritativeRecordV1) : Prop :=
  ∀ r, row = some r → i.command.policyRevisionRef = r.policyRevisionRef

/-- A record is a first revision, or its predecessor has been issued. -/
theorem issued_predecessor (h : LineageInv s₀ is s) (hstep : RunStep s i t)
    (hissues : Issues record s i) :
    record.recordRef.revision = 1 ∨ ∃ r, Issued s₀ is r ∧
      r.recordRef.recordId = record.recordRef.recordId ∧
      r.recordRef.revision + 1 = record.recordRef.revision := by
  obtain ⟨issued, -, hissued⟩ := runStep_records hstep
  obtain ⟨-, hidentity, -⟩ := (hissued record).2 ((hissued record).1.mpr hissues)
  -- either way the predecessor is a current record
  have hof : ∀ kind last, s.projection.records kind = some last →
      record.recordRef.recordId = last.recordId →
      record.recordRef.revision = last.revision + 1 →
      ∃ r, Issued s₀ is r ∧ r.recordRef.recordId = record.recordRef.recordId ∧
        r.recordRef.revision + 1 = record.recordRef.revision := by
    intro kind last hlast hid hrevision
    obtain ⟨r, hr, rfl⟩ := h.current kind last hlast
    exact ⟨r, hr, hid.symm, hrevision.symm⟩
  cases hidentity with
  | @next kind _ hnext =>
    have hids := hnext.2
    rcases hlast : s.projection.records kind with _ | last <;> rw [hlast] at hids
    · exact .inl hids.2
    · exact .inr (hof kind last hlast hids.1 hids.2)
  | @correction target _ _ hlast _ hid hrevision => exact .inr (hof _ target hlast hid hrevision)

/-- Revisions count from one. -/
theorem Issued.revision_pos (h : Issued s₀ is record) : 1 ≤ record.recordRef.revision := by
  obtain ⟨js, i, ks, u, v, -, -, hstep, hissues⟩ := h
  obtain ⟨issued, -, hissued⟩ := runStep_records hstep
  obtain ⟨-, hidentity, -⟩ := (hissued record).2 ((hissued record).1.mpr hissues)
  cases hidentity with
  | @next kind _ hnext =>
    have hids := hnext.2
    rcases hlast : u.projection.records kind with _ | last <;> rw [hlast] at hids
    · exact hids.2.ge
    · rw [hids.2]
      omega
  | correction _ _ _ _ hrevision =>
    rw [hrevision]
    omega

/-- **The trigger and the evaluator agree** on an issued record, and a successor has the lineage the
trigger demands, exactly when the command keeps to the policy revision of the predecessor.  Every
successor has one. -/
theorem lineage_guard_agrees (h₀ : RunInit s₀) (hrun : Run RunStep s₀ is s) (hstep : RunStep s i t)
    (hissues : Issues record s i) {row : Option AuthoritativeRecordV1}
    (hrow : FindsPredecessor s₀ is record row) :
    (record.recordRef.revision ≠ 1 → row.isSome = true) ∧
      (idrEnforceRecordLineageV2 t.projection row record = true ↔ KeepsPolicyRevision i row) ∧
      ((∀ predecessor, row = some predecessor →
          SuccessorLineage t.projection predecessor record) ↔ KeepsPolicyRevision i row) := by
  have hinv := lineageInv_run h₀ hrun
  obtain ⟨issued, -, hissued⟩ := runStep_records hstep
  obtain ⟨-, -, hnew⟩ := (hissued record).2 ((hissued record).1.mpr hissues)
  have hrecord : OfRun t.projection record :=
    (lineageInv_step hrun hinv hstep).ofRun record (.last hrun hstep hissues)
  rcases row with _ | predecessor
  · have hfirst : record.recordRef.revision = 1 := by
      refine (issued_predecessor hinv hstep hissues).resolve_right ?_
      rintro ⟨r, hr, hid, hrevision⟩
      exact hrow r hr ⟨hid, hrevision⟩
    have hpasses := idrEnforceRecordLineageV2_first hrecord.subjectRef hrecord.turnId hfirst
    exact ⟨fun hne => absurd hfirst hne, by simp [hpasses, KeepsPolicyRevision],
      by simp [KeepsPolicyRevision]⟩
  · obtain ⟨hpredecessor, -, hrevision⟩ := hrow
    have hearlier : OfRun t.projection predecessor :=
      (lineageInv_step hrun hinv hstep).ofRun predecessor (hpredecessor.append [i])
    have hsuccessor : SuccessorLineage t.projection predecessor record ↔
        KeepsPolicyRevision i (some predecessor) := by
      constructor
      · rintro h r hr
        obtain rfl := Option.some.inj hr
        exact hnew.policyRevisionRef.symm.trans h.policyRevisionRef
      · intro hkeeps
        exact {
          runSubject := hrecord.subjectRef
          runTurn := hrecord.turnId
          runId := hrecord.runId.trans hearlier.runId.symm
          tenantRef := hrecord.tenantRef.trans hearlier.tenantRef.symm
          subjectRef := Option.some.inj (hrecord.subjectRef.symm.trans hearlier.subjectRef)
          turnId := Option.some.inj (hrecord.turnId.symm.trans hearlier.turnId)
          policyRevisionRef := hnew.policyRevisionRef.trans (hkeeps predecessor rfl) }
    have hsucceeds : 1 < record.recordRef.revision := by
      have hpos := hpredecessor.revision_pos
      omega
    refine ⟨fun _ => rfl, ?_, by simpa using hsuccessor⟩
    rw [idrEnforceRecordLineageV2_successor hrecord.subjectRef hrecord.turnId hsucceeds]
    exact hsuccessor

end Runs

/-! ### The sample run -/

/-- The second context of the sample run, under a policy revision. -/
def Sample.contextRevised (policy : ReferenceV1) (s : RunStateV1) : RunInputV1 :=
  let context := { candidate 9 .contextSnapshot [] with policyRevisionRef := policy }
  let input := input 12 owner (fun _ => .recordContext context) noClosure s
  { input with command := { input.command with policyRevisionRef := policy } }

def Sample.nextPolicyRevision : ReferenceV1 := ⟨"policy:test:v2", by decide +kernel⟩

/-- The context of the run is recorded, and then revised, under its policy revision or under the
next one. -/
def Sample.revisesContext (s : RunStateV1) : Bool :=
  let context := input 11 owner recordContext noClosure
  isOkAnd (@runTransition crypto s.projection (context s)) fun first =>
    first.authoritativeRecord.any fun predecessor =>
      predecessor.policyRevisionRef = policyRevision &&
      isOkAnd (@runStep crypto s (context s)) fun t =>
        [policyRevision, nextPolicyRevision].all fun policy =>
          isOkAnd (@runStep crypto t (contextRevised policy t)) (fun _ => true) &&
          isOkAnd (@runTransition crypto t.projection (contextRevised policy t)) fun second =>
            second.authoritativeRecord.any fun record =>
              predecessor.recordRef.recordId = record.recordRef.recordId &&
              predecessor.recordRef.revision + 1 = record.recordRef.revision

set_option maxRecDepth 10000 in
def Sample.contextRecorded : RunScript (fun _ _ => True) revisesContext where
  inputs := toPermit.take 1
  leads := by decide +kernel

/-- What the evaluation of the sample says of a policy revision. -/
theorem sample_successor (policy : ReferenceV1)
    (hpolicy : policy ∈ [Sample.policyRevision, Sample.nextPolicyRevision]) :
    ∃ is s t predecessor record, @Run _ _ (@RunStep Sample.crypto) Sample.init is s ∧
      @RunStep Sample.crypto s (Sample.contextRevised policy s) t ∧
      @Issues Sample.crypto record s (Sample.contextRevised policy s) ∧
      @FindsPredecessor Sample.crypto Sample.init is record (some predecessor) ∧
      predecessor.policyRevisionRef = Sample.policyRevision := by
  obtain ⟨s, is, hrun, h⟩ := Sample.contextRecorded.run
  simp only [Sample.revisesContext, isOkAnd_iff, Option.any_eq_true, Bool.and_eq_true,
    decide_eq_true_eq, List.all_eq_true] at h
  obtain ⟨first, hfirst, predecessor, hpredecessor, hunder, t, ht, hboth⟩ := h
  obtain ⟨⟨u, hu, -⟩, second, hsecond, record, hrecord, hid, hrevision⟩ := hboth policy hpolicy
  exact ⟨is ++ [_], t, u, predecessor, record, hrun.of_restrict.snoc ht, hu,
    ⟨second, hsecond, hrecord⟩,
    ⟨.last hrun.of_restrict ht ⟨first, hfirst, hpredecessor⟩, hid, hrevision⟩, hunder⟩

/-- The trigger lets the revised context of the sample run pass under its policy revision. -/
theorem lineage_guard_agrees_sample : ∃ is s t predecessor record,
    @Run _ _ (@RunStep Sample.crypto) Sample.init is s ∧
      @RunStep Sample.crypto s (Sample.contextRevised Sample.policyRevision s) t ∧
      @Issues Sample.crypto record s (Sample.contextRevised Sample.policyRevision s) ∧
      idrEnforceRecordLineageV2 t.projection (some predecessor) record = true := by
  obtain ⟨is, s, t, predecessor, record, hrun, hstep, hissues, hrow, hunder⟩ :=
    sample_successor Sample.policyRevision (by simp)
  refine ⟨is, s, t, predecessor, record, hrun, hstep, hissues, ?_⟩
  apply (@lineage_guard_agrees Sample.crypto _ _ _ _ _ _ Sample.runInit_init hrun hstep hissues _
    hrow).2.1.mpr
  intro r hr
  rw [← Option.some.inj hr, hunder]
  rfl

/-- Under the next policy revision the evaluator accepts it and the trigger does not. -/
theorem lineage_guard_disagrees :
    ¬ ∀ s₀ is s i t record row, RunInit s₀ → @Run _ _ (@RunStep Sample.crypto) s₀ is s →
      @RunStep Sample.crypto s i t → @Issues Sample.crypto record s i →
      @FindsPredecessor Sample.crypto s₀ is record row →
      idrEnforceRecordLineageV2 t.projection row record = true := by
  intro hpasses
  obtain ⟨is, s, t, predecessor, record, hrun, hstep, hissues, hrow, hunder⟩ :=
    sample_successor Sample.nextPolicyRevision (by simp)
  have hkeeps := (@lineage_guard_agrees Sample.crypto _ _ _ _ _ _ Sample.runInit_init hrun hstep
    hissues _ hrow).2.1.mp (hpasses _ is s _ t record _ Sample.runInit_init hrun hstep hissues hrow)
  have hsame : Sample.nextPolicyRevision = Sample.policyRevision :=
    (hkeeps predecessor rfl).trans hunder
  exact absurd hsame (by decide +kernel)

end Idr
