/-
Idr/Authority/Withdrawal.lean

No binding survives the invalidation of what it refers to.

A commit withdraws the closure of one record: the one that it invalidates,
the one that its record replaces, or the admission that it revokes
(`withdrawnRoot`).  The closure drops the bindings of the records in it and
cancels an open execution of an action in it (`Withdrawn`).  What reaches a
reference of a binding reaches the holder of the binding as well
(`Anchored`), so no binding is left with a reference that was withdrawn.

The execution is the exception: it also refers to the admission it was
reserved under, and the invalidation of that record drops the bound
admission and leaves the execution as it is.  Every run that does not
invalidate the admission of an open execution keeps its references valid.
-/
import Idr.Authority.Lineage

namespace Idr

/-! ### The closure of a commit -/

/-- The record is in the closure of the root. -/
def InClosure (db : DatabaseV1) (root x : AuthoritativeRecordRefV1) : Prop :=
  ∃ row ∈ db.contractRecords, row.recordRef = x ∧ Spreads db root.key row.key

section Commit

variable [Crypto] {o : PostgresIdrOrchestratorV1} {i : TransactInputV1} {c : CommitV1}
  {s t : AuthorityStateV1} {record : AuthoritativeRecordV1}

/-- The record whose closure a commit withdraws. -/
def withdrawnRoot (o : PostgresIdrOrchestratorV1) (db : DatabaseV1) (i : TransactInputV1)
    (c : CommitV1) : Option AuthoritativeRecordRefV1 :=
  if Revokes o db i c.loaded then c.loaded.actionAdmission.map (·.admissionRef)
  else (closureRoot c.loaded i.command.command c.record).map Prod.fst

/-- **What a commit withdraws.**  Before the closure stands the projection `q` of the evaluated
command, or of the revocation. -/
structure Withdrawn (o : PostgresIdrOrchestratorV1) (db : DatabaseV1) (i : TransactInputV1)
    (c : CommitV1) (closure : List AuthoritativeRecordRefV1) (q : IdrRunProjectionV1) : Prop where
  members : ∀ x, x ∈ closure ↔ ∃ root, withdrawnRoot o db i c = some root ∧ InClosure db root x
  projection : ∃ state, c.projection = { closure.foldl closeRecord q with state }
  records : q.records = (c.loaded.insertRecord c.record).records
  evaluated : ¬ Revokes o db i c.loaded →
    ArmEffect i.fresh c.loaded i.command.command c.verifiedProofs q.bindings q.invalidatedRecords
        c.record ∧
      LifecycleEffect i.fresh i.trustedNow c.loaded i.command.command q.state q.execution
  revoked : Revokes o db i c.loaded → c.record = none ∧ q.bindings = c.loaded.bindings ∧
    q.invalidatedRecords = c.loaded.invalidatedRecords ∧
    q.execution = c.loaded.execution.map fun e => e.withState (revokedState e.state)

omit [Crypto] in
theorem mem_loadedClosure {db : DatabaseV1} {root : AuthoritativeRecordRefV1}
    {closure : List AuthoritativeRecordRefV1}
    (h : loadRecursiveInvalidationClosure db root = .ok closure) {x : AuthoritativeRecordRefV1} :
    x ∈ closure ↔ InClosure db root x :=
  loadRecursiveInvalidationClosure_eq_ok h

theorem Commits.withdrawn (h : Commits o s.db i c t.db) :
    ∃ closure q, Withdrawn o s.db i c closure q := by
  have hproduced := h.produced
  simp only [PostgresIdrOrchestratorV1.produceTransition, bind_eq_ok,
    exists_unit_eq_ok] at hproduced
  obtain ⟨-, hproduced⟩ := hproduced
  split at hproduced
  next hok =>
    have hquiet : ¬ Revokes o s.db i c.loaded := by
      intro hr
      rw [Revokes, hok] at hr
      cases hr
    obtain ⟨t₀, ht₀, hclosed⟩ := evaluatedTransition_eq_ok.mp hproduced
    obtain ⟨hcheck, r, hr, -, rfl⟩ := evaluateAuthoritativeTransitionV1_eq_ok ht₀
    have hchecked := checkCommand_checked hcheck
    have harm := (evaluateCommand_arm hr hchecked.advanced).of_advanced
    have hlife := (evaluateCommand_effect hr).of_advanced
    obtain ⟨hframed, -⟩ := evaluateCommand_framed r hr
    have hrecord : c.record = r.authoritativeRecord := by
      show c.transition.authoritativeRecord = _
      split at hclosed
      · rw [← hclosed]
      · obtain ⟨closure, -, heq⟩ := hclosed
        rw [← heq]
    -- the record enters the references only
    have hinsert := insertRecord_framed r.projection r.authoritativeRecord
    have heffect : ¬ Revokes o s.db i c.loaded →
        ArmEffect i.fresh c.loaded i.command.command c.verifiedProofs
            (r.projection.insertRecord r.authoritativeRecord).bindings
            (r.projection.insertRecord r.authoritativeRecord).invalidatedRecords c.record ∧
          LifecycleEffect i.fresh i.trustedNow c.loaded i.command.command
            (r.projection.insertRecord r.authoritativeRecord).state
            (r.projection.insertRecord r.authoritativeRecord).execution := by
      rw [hinsert, hrecord]
      exact fun _ => ⟨harm, hlife⟩
    have hrecords : (r.projection.insertRecord r.authoritativeRecord).records =
        (c.loaded.insertRecord c.record).records := by
      rw [hrecord]
      exact insertRecord_records (p := c.loaded) hframed.records _
    have hroot : withdrawnRoot o s.db i c =
        (closureRoot c.loaded i.command.command r.authoritativeRecord).map Prod.fst := by
      rw [withdrawnRoot, if_neg hquiet, hrecord]
    rcases hfound : closureRoot c.loaded i.command.command r.authoritativeRecord with
      _ | ⟨root, invalidateRun⟩ <;> rw [hfound] at hclosed hroot
    · refine ⟨[], _, fun x => ?_, ⟨c.projection.state, ?_⟩, hrecords, heffect,
        fun hno => absurd hno hquiet⟩
      · simp [hroot]
      · rw [CommitV1.projection, ← hclosed]
        rfl
    · obtain ⟨closure, hload, hclosed⟩ := hclosed
      refine ⟨closure, _, fun x => ?_, ⟨c.projection.state, ?_⟩, hrecords, heffect,
        fun hno => absurd hno hquiet⟩
      · rw [mem_loadedClosure hload, hroot]
        simp
      · rw [CommitV1.projection, ← hclosed]
        rfl
  next hrevoked =>
    have hrevokes : Revokes o s.db i c.loaded := hrevoked
    simp only [revokedTransition, bind_eq_ok, okOr_eq_ok, Except.ok.injEq] at hproduced
    obtain ⟨admission, hadmission, closure, hload, t₀, ht₀, htransition⟩ := hproduced
    have hexecution := (actionAdmissionProofFailure_effect ht₀).2.2
    simp only [actionAdmissionProofFailure, bind_eq_ok, okOr_eq_ok, checkedAddU64_eq_some,
      Except.ok.injEq] at ht₀
    obtain ⟨bound, -, version, -, sequence, -, rfl⟩ := ht₀
    have hnone : c.record = none := by
      show c.transition.authoritativeRecord = none
      rw [← htransition]
    refine ⟨closure, _, fun x => ?_, ⟨c.projection.state, ?_⟩, ?_, fun hno => absurd hrevokes hno,
      fun _ => ⟨hnone, ?_, ?_, hexecution⟩⟩
    · rw [mem_loadedClosure hload, withdrawnRoot, if_pos hrevokes, hadmission]
      simp
    · rw [CommitV1.projection, ← htransition]
      rfl
    all_goals
      try rw [hnone]
      rfl
  next => cases hproduced

/-! ### What is left after a withdrawal -/

section After

variable {closure : List AuthoritativeRecordRefV1} {q : IdrRunProjectionV1}

theorem Withdrawn.closed (h : Withdrawn o s.db i c closure q) :
    c.projection.bindings.Le q.bindings ∧
      (∀ x, x ∈ c.projection.invalidatedRecords ↔ x ∈ closure ∨ x ∈ q.invalidatedRecords) ∧
      c.projection.execution = q.execution.map (closeAll closure) := by
  obtain ⟨state, hprojection⟩ := h.projection
  have hclosed := foldl_closeRecord_closed closure q
  rw [hprojection]
  exact ⟨hclosed.bindings, hclosed.invalidated, (foldl_closeRecord closure q).2⟩

/-- The holders before the closure. -/
theorem Withdrawn.held (h : Withdrawn o s.db i c closure q) (hheld : Held c.loaded) : Held q := by
  by_cases hrevokes : Revokes o s.db i c.loaded
  · obtain ⟨hnone, hbindings, -⟩ := h.revoked hrevokes
    have hrecords := h.records
    rw [hnone] at hrecords
    exact hheld.of_le (by rw [hbindings]; exact .refl _) hrecords
  · exact (h.evaluated hrevokes).1.held hheld h.records

/-- What is still bound is held by no record of the closure. -/
theorem Withdrawn.drops (h : Withdrawn o s.db i c closure q) (hheld : Held c.loaded)
    {kind k : CandidateKindV1} {holder ref : AuthoritativeRecordRefV1}
    (hholds : Holds c.projection.bindings kind holder k ref) : holder ∉ closure := by
  obtain ⟨state, hprojection⟩ := h.projection
  rw [hprojection] at hholds
  exact foldl_closeRecord_drops closure (h.held hheld) hholds

end After

/-- The root of a withdrawal is current. -/
theorem withdrawnRoot_current (hs : RunsOk o s) (hadmits : s.admits i)
    (h : Commits o s.db i c t.db) {root : AuthoritativeRecordRefV1}
    (hroot : withdrawnRoot o s.db i c = some root) :
    c.loaded.records root.candidateKind = some root := by
  obtain ⟨hheld, hkinded⟩ := h.loadedHeld hs hadmits
  rw [withdrawnRoot] at hroot
  split at hroot
  case isTrue =>
    obtain ⟨a, ha, rfl⟩ := Option.map_eq_some_iff.mp hroot
    have hholds : Holds c.loaded.bindings _ _ _ _ := .admission ha
    rw [(hheld.kinded _ _ _ _ hholds).1]
    exact hheld.current _ _ _ _ hholds
  case isFalse hquiet =>
    obtain ⟨⟨found, invalidateRun⟩, hfound, rfl⟩ := Option.map_eq_some_iff.mp hroot
    unfold closureRoot at hfound
    split at hfound
    next recordRef reason hcommand =>
      cases hfound
      obtain ⟨r, hr, -⟩ := h.evaluated hs hadmits hquiet
      simp only [evaluateCommand, hcommand, evaluateInvalidateRecord, bind_eq_ok] at hr
      obtain ⟨u, htarget, -⟩ := hr
      exact (requireExactGovernanceTarget_eq_ok.mp htarget).1
    next =>
      obtain ⟨previous, hprevious, heq⟩ := Option.map_eq_some_iff.mp hfound
      cases heq
      obtain ⟨hcurrent, -⟩ := Option.filter_eq_some_iff.mp hprevious
      obtain ⟨kind, -, hcurrent⟩ := Option.bind_eq_some_iff.mp hcurrent
      rw [hkinded kind _ hcurrent]
      exact hcurrent

/-- The root of the withdrawal of a commit with a record is of the kind of the record. -/
theorem withdrawnRoot_kind (hs : RunsOk o s) (hadmits : s.admits i) (h : Commits o s.db i c t.db)
    (hrecord : c.record = some record) {root : AuthoritativeRecordRefV1}
    (hroot : withdrawnRoot o s.db i c = some root) :
    root.candidateKind = record.recordRef.candidateKind := by
  rw [withdrawnRoot, if_neg (h.issued hs hadmits hrecord).1] at hroot
  obtain ⟨⟨found, invalidateRun⟩, hfound, rfl⟩ := Option.map_eq_some_iff.mp hroot
  have hkind := (h.issued hs hadmits hrecord).2.identity.issuedKind
  unfold closureRoot at hfound
  split at hfound
  next hcommand =>
    rw [hcommand] at hkind
    cases hkind
  next =>
    obtain ⟨previous, hprevious, heq⟩ := Option.map_eq_some_iff.mp hfound
    cases heq
    obtain ⟨-, hany⟩ := Option.filter_eq_some_iff.mp hprevious
    rw [hrecord] at hany
    simp only [Option.any_some, decide_eq_true_eq] at hany
    exact hany.1.symm

/-! ### What the bindings rest on -/

omit [Crypto] in
theorem Spreads.mono {db db' : DatabaseV1} {y x : Uuid × Nat} (h : Spreads db y x)
    (hle : ∀ y x, Edge (dependentEdges db) y x → Edge (dependentEdges db') y x) :
    Spreads db' y x :=
  Relation.ReflTransGen.mono hle _ _ h

/-- The basis of an issued record leads to it. -/
theorem Commits.basis (hs : RunsOk o s) (hadmits : s.admits i) (h : Commits o s.db i c t.db)
    (hrecord : c.record = some record) {kind : CandidateKindV1} {x : AuthoritativeRecordRefV1}
    (hbasis : record.recordRef.candidateKind.basis = some kind)
    (hx : c.loaded.records kind = some x) : Spreads t.db x.key record.recordRef.key := by
  obtain ⟨hheld, hkinded⟩ := h.loadedHeld hs hadmits
  obtain ⟨hquiet, hissued⟩ := h.issued hs hadmits hrecord
  obtain ⟨r, hr, -⟩ := h.evaluated hs hadmits hquiet
  have hkind := hissued.identity.issuedKind
  have hdependency : x ∈ contractDependencies i.command.command c.projection.records
      record.recordRef := by
    rw [mem_contractDependencies]
    -- what the command names of the kind of the basis is the current record of it
    have hnamed : ∀ y, y ∈ namedDependencies i.command.command → y.candidateKind = kind →
        x ∈ namedDependencies i.command.command := by
      intro y hy hykind
      have hcurrent := (evaluateCommand_named hr ⟨hheld.kinded, hheld.current⟩ hy).1
      rw [hykind, hx] at hcurrent
      exact Option.some.inj hcurrent ▸ hy
    cases hrecordKind : record.recordRef.candidateKind <;> rw [hrecordKind] at hbasis hkind <;>
      cases hbasis
    case actionAdmissionDecision =>
      right
      cases hcommand : i.command.command <;> rw [hcommand] at hkind <;>
        first | (cases hkind; done) | skip
      rw [← hcommand]
      obtain ⟨-, ⟨kind, hissuedKind, -, haction, -⟩ | ⟨_, hcorrects⟩⟩ := evaluateCommand_named hr
        ⟨hheld.kinded, hheld.current⟩ (by rw [hcommand]; exact List.mem_singleton_self _)
      · refine hnamed _ (by rw [hcommand]; exact List.mem_singleton_self _) (haction ?_)
        rw [hcommand] at hissuedKind
        exact (Option.some.inj hissuedKind).symm
      · rw [hcommand] at hcorrects
        cases hcorrects
    case humanModelCandidate =>
      left
      cases hcommand : i.command.command <;> rw [hcommand] at hkind <;>
        first | (cases hkind; done) | skip
      refine ⟨⟨.outcome, List.mem_singleton_self _, ?_⟩, ?_⟩
      · rw [h.projectionRecords hs hadmits, hrecord,
          insertRecord_of_ne (by rw [hrecordKind]; nofun)]
        exact hx
      · rintro rfl
        rw [hkinded _ _ hx] at hrecordKind
        cases hrecordKind
    case humanModelPromotionDecision =>
      right
      cases hcommand : i.command.command <;> rw [hcommand] at hkind <;>
        first | (cases hkind; done) | skip
      rw [← hcommand]
      obtain ⟨-, ⟨kind, hissuedKind, -, -, hcandidate⟩ | ⟨_, hcorrects⟩⟩ := evaluateCommand_named hr
        ⟨hheld.kinded, hheld.current⟩ (by rw [hcommand]; exact List.mem_singleton_self _)
      · refine hnamed _ (by rw [hcommand]; exact List.mem_singleton_self _) (hcandidate ?_)
        rw [hcommand] at hissuedKind
        exact (Option.some.inj hissuedKind).symm
      · rw [hcommand] at hcorrects
        cases hcorrects
  exact .single (h.mem_edges.mpr (.inr ⟨record, hrecord, rfl, .inr ⟨x, hdependency, rfl⟩⟩))

/-! ### References stay valid -/

omit [Crypto] in
/-- An open execution refers to the current action, and to an admission of its run. -/
structure OpenOk (db : DatabaseV1) (p : IdrRunProjectionV1) (e : ExecutionProjectionV1) : Prop where
  action : p.records .action = some e.actionRef
  actionValid : e.actionRef ∉ p.invalidatedRecords
  admission : ∃ row ∈ db.contractRecords, row.recordRef = e.actionAdmissionRef ∧
    row.runId = p.runId ∧ row.candidateKind = .actionAdmissionDecision
  admissionValid : e.actionAdmissionRef ∉ p.invalidatedRecords

omit [Crypto] in
/-- **The references of the bindings are valid**, and spread to their holders. -/
structure Grounded (db : DatabaseV1) (p : IdrRunProjectionV1) : Prop where
  valid : ∀ kind holder k ref, Holds p.bindings kind holder k ref → ref ∉ p.invalidatedRecords
  spreads : ∀ kind holder k ref, Holds p.bindings kind holder k ref →
    Spreads db ref.key holder.key
  invalidated : ∀ x ∈ p.invalidatedRecords, ∃ row ∈ db.contractRecords, row.recordRef = x

omit [Crypto] in
/-- **The references of a run are valid**, those of an open execution among them. -/
structure Anchored (db : DatabaseV1) (p : IdrRunProjectionV1) : Prop extends Grounded db p where
  executionOpen : ∀ e, p.execution = some e → PermitOpen e.state → OpenOk db p e

/-- The command invalidates the admission that an open execution was reserved under. -/
def WithdrawsOpenAdmission (s : AuthorityStateV1) (i : TransactInputV1) : Prop :=
  ∃ row ∈ s.db.runs, row.runId = i.command.runId ∧ ∃ e, row.projection.execution = some e ∧
    PermitOpen e.state ∧ ∃ reasonRef,
      i.command.command = .invalidateRecord e.actionAdmissionRef reasonRef

instance (s : AuthorityStateV1) (i : TransactInputV1) : Decidable (WithdrawsOpenAdmission s i) :=
  decidable_of_iff (s.db.runs.any (fun row => row.runId = i.command.runId &&
      row.projection.execution.any fun e => PermitOpen e.state &&
        match i.command.command with
        | .invalidateRecord recordRef _ => decide (recordRef = e.actionAdmissionRef)
        | _ => false) = true) (by
    simp only [List.any_eq_true, Bool.and_eq_true, decide_eq_true_eq, Option.any_eq_true,
      WithdrawsOpenAdmission]
    refine exists_congr fun row => and_congr_right fun _ => and_congr_right fun _ =>
      exists_congr fun e => and_congr_right fun _ => and_congr_right fun _ => ?_
    split
    next recordRef reasonRef hcommand =>
      rw [decide_eq_true_eq, hcommand]
      exact ⟨fun h => ⟨reasonRef, h ▸ rfl⟩, fun ⟨_, h⟩ => (IdrCommandV1.invalidateRecord.inj h).1⟩
    next hother =>
      exact ⟨nofun, fun ⟨reasonRef, h⟩ => absurd h (hother _ _)⟩)

section Step

variable {closure : List AuthoritativeRecordRefV1} {q : IdrRunProjectionV1}

/-- A closure contains what it spreads to. -/
theorem Withdrawn.spreads (hw : Withdrawn o s.db i c closure q) {x : AuthoritativeRecordRefV1}
    (hx : x ∈ closure) {row : ContractRow} (hrow : row ∈ s.db.contractRecords)
    (hpath : Spreads s.db x.key row.key) : row.recordRef ∈ closure := by
  obtain ⟨root, hroot, row', hrow', rfl, hreach⟩ := (hw.members x).mp hx
  exact (hw.members _).mpr ⟨root, hroot, row, hrow, rfl, hreach.trans hpath⟩

/-- **What is invalid after a commit** was so before, or is in the closure, or is a corrected
assertion. -/
theorem Withdrawn.invalidated (hw : Withdrawn o s.db i c closure q) (hok : LineageOk s)
    (h : Commits o s.db i c t.db) (hkinds : ¬ RetypesRecord i.command.command)
    {x : AuthoritativeRecordRefV1} (hx : x ∈ c.projection.invalidatedRecords) :
    x ∈ c.loaded.invalidatedRecords ∨ x ∈ closure ∨
      x.candidateKind = .humanModelAssertion ∧ c.loaded.records x.candidateKind = some x := by
  rcases (hw.closed.2.1 x).mp hx with hx | hx
  · exact .inr (.inl hx)
  · by_cases hrevokes : Revokes o s.db i c.loaded
    · rw [(hw.revoked hrevokes).2.2.1] at hx
      exact .inl hx
    · rcases (hw.evaluated hrevokes).1.invalidates hx with hx | ⟨hcurrent, ⟨reason, hcommand⟩ |
        ⟨correction, hcommand⟩⟩
      · exact .inl hx
      · -- the invalidated record is the root of the closure
        obtain ⟨row, hrow, rfl, -⟩ := hok.loaded h hcurrent
        refine .inr (.inl ((hw.members _).mpr ⟨row.recordRef, ?_, row, hrow, rfl, .refl⟩))
        rw [withdrawnRoot, if_neg hrevokes, hcommand]
        rfl
      · rw [hcommand, RetypesRecord, not_not] at hkinds
        exact .inr (.inr ⟨hkinds, hcurrent⟩)

/-- What becomes invalid is of no kind but that of an assertion, unless it is in the closure. -/
theorem Withdrawn.stays (hw : Withdrawn o s.db i c closure q) (hok : LineageOk s)
    (h : Commits o s.db i c t.db) (hkinds : ¬ RetypesRecord i.command.command)
    {x : AuthoritativeRecordRefV1} (hvalid : x ∉ c.loaded.invalidatedRecords) (hx : x ∉ closure)
    (hkind : x.candidateKind ≠ .humanModelAssertion) : x ∉ c.projection.invalidatedRecords := by
  intro hinvalid
  rcases hw.invalidated hok h hkinds hinvalid with hbefore | hclosure | ⟨hassertion, -⟩
  · exact hvalid hbefore
  · exact hx hclosure
  · exact hkind hassertion

/-! ### Open executions -/

/-- **An execution that a commit leaves open** was open before, or is newly reserved. -/
theorem Withdrawn.open (hw : Withdrawn o s.db i c closure q) (hs : RunsOk o s)
    (hadmits : s.admits i) (h : Commits o s.db i c t.db) {e : ExecutionProjectionV1}
    (he : c.projection.execution = some e) (hopen : PermitOpen e.state) :
    ¬ Revokes o s.db i c.loaded ∧ e.actionRef ∉ closure ∧
      (((∀ action, i.command.command ≠ .recordAction action) ∧
          ∃ last, c.loaded.execution = some last ∧ PermitOpen last.state ∧
            e = last.withState e.state) ∨
        i.command.command.reserves = true ∧ ∃ a, c.loaded.actionAdmission = some a ∧
          e.actionRef = a.actionRef ∧ e.actionAdmissionRef = a.admissionRef ∧
          c.loaded.records e.actionRef.candidateKind = some e.actionRef) := by
  have hexecution := he
  rw [hw.closed.2.2] at hexecution
  obtain ⟨before, hbefore, hclosed⟩ := Option.map_eq_some_iff.mp hexecution
  rw [← hclosed] at hopen
  obtain ⟨hmem, hsame⟩ := closeAll_permitOpen hopen
  rw [hsame] at hopen hclosed
  subst hclosed
  have hquiet : ¬ Revokes o s.db i c.loaded := by
    intro hrevokes
    rw [(hw.revoked hrevokes).2.2.2] at hbefore
    obtain ⟨last, -, rfl⟩ := Option.map_eq_some_iff.mp hbefore
    exact revokedState_not_permitOpen _ hopen
  refine ⟨hquiet, hmem, ?_⟩
  refine ((hw.evaluated hquiet).2.permitOpen hbefore hopen).imp_right fun hreserves => ?_
  obtain ⟨u, closure', v, -, -, -, -, -, -, -, htransition⟩ := h.runStep hs hadmits
  obtain ⟨a, e', he', -, hfrom⟩ := runTransition_reserved htransition hreserves
    (by simp [RunInputV1.revokes, TransactInputV1.runInput, hquiet])
  obtain rfl := Option.some.inj (he'.symm.trans he)
  exact ⟨hreserves, a, hfrom.admission, hfrom.actionRef, hfrom.actionAdmissionRef, hfrom.current⟩

end Step

/-- An admission is withdrawn by its own invalidation, or by its revocation. -/
theorem withdrawnRoot_admission (hs : RunsOk o s) (hadmits : s.admits i)
    (h : Commits o s.db i c t.db) (hquiet : ¬ Revokes o s.db i c.loaded)
    {root : AuthoritativeRecordRefV1} (hroot : withdrawnRoot o s.db i c = some root)
    (hkind : root.candidateKind = .actionAdmissionDecision) :
    ∃ reasonRef, i.command.command = .invalidateRecord root reasonRef := by
  obtain ⟨-, hkinded⟩ := h.loadedHeld hs hadmits
  rw [withdrawnRoot, if_neg hquiet] at hroot
  obtain ⟨⟨found, invalidateRun⟩, hfound, rfl⟩ := Option.map_eq_some_iff.mp hroot
  unfold closureRoot at hfound
  split at hfound
  next recordRef reason hcommand =>
    cases hfound
    exact ⟨reason, hcommand⟩
  next =>
    -- no command submits an admission
    obtain ⟨previous, hprevious, heq⟩ := Option.map_eq_some_iff.mp hfound
    cases heq
    obtain ⟨hcurrent, -⟩ := Option.filter_eq_some_iff.mp hprevious
    obtain ⟨kind, hsubmits, hcurrent⟩ := Option.bind_eq_some_iff.mp hcurrent
    rw [← hkinded kind _ hcurrent, hkind] at hsubmits
    cases hcommand : i.command.command <;> rw [hcommand] at hsubmits <;> cases hsubmits

section Open

variable {closure : List AuthoritativeRecordRefV1} {q : IdrRunProjectionV1}
  {e last : ExecutionProjectionV1}

/-- The admission of an execution is not in the closure, unless its action is, or the command
invalidates it. -/
theorem Withdrawn.admission (hw : Withdrawn o s.db i c closure q) (hok : LineageOk s)
    (hs : RunsOk o s) (hadmits : s.admits i) (h : Commits o s.db i c t.db)
    (hquiet : ¬ Revokes o s.db i c.loaded)
    (hkeeps : ∀ reasonRef, i.command.command ≠ .invalidateRecord e.actionAdmissionRef reasonRef)
    (hopen : OpenOk s.db c.loaded e) (haction : e.actionRef ∉ closure) :
    e.actionAdmissionRef ∉ closure := by
  intro hmem
  obtain ⟨root, hroot, row, hrow, hrowRef, hpath⟩ := (hw.members _).mp hmem
  have hcurrentRoot := withdrawnRoot_current hs hadmits h hroot
  obtain ⟨rootRow, hrootRow, rfl, -⟩ := hok.loaded h hcurrentRoot
  obtain ⟨stored, hstored, hstoredRef, hrunId, hkind⟩ := hopen.admission
  obtain rfl : row = stored := by
    refine hok.keys.eq hrow hstored ?_
    rw [← ContractRow.recordRef_key, ← ContractRow.recordRef_key, hrowRef, hstoredRef]
  -- the run of the command is stored, as it has a record
  obtain ⟨run, hrun, hrunRow, hloaded⟩ : ∃ run ∈ s.db.runs, run.runId = i.command.runId ∧
      run.projection = c.loaded := by
    refine h.loadedRow.resolve_right fun hnone => ?_
    rw [hnone] at hcurrentRoot
    cases hcurrentRoot
  have hsameRun : row.runId = run.runId :=
    hrunId.trans ((h.loadedState hs hadmits).1.trans hrunRow.symm)
  by_cases hrootKind : rootRow.candidateKind = .actionAdmissionDecision
  · -- the root is the current admission, which the execution was reserved under
    obtain ⟨reasonRef, hcommand⟩ := withdrawnRoot_admission hs hadmits h hquiet hroot hrootKind
    obtain ⟨run', hrun', hrunId', ref, href, hid, hle⟩ := hok.current row hrow
    obtain rfl := hs.unique.eq hrun hrun' (hsameRun.symm.trans hrunId'.symm)
    rw [hloaded, hkind] at href
    have hroot' : c.loaded.records .actionAdmissionDecision = some rootRow.recordRef := by
      rw [← hrootKind]
      exact hcurrentRoot
    obtain rfl := Option.some.inj (hroot'.symm.trans href)
    refine hkeeps reasonRef ?_
    rw [hcommand, ← hrowRef]
    congr 1
    rcases Spreads.precedes hok hpath hrootRow hrow rfl rfl with hlt | ⟨-, -, hge⟩
    · rw [hrootKind, hkind] at hlt
      exact absurd hlt (Nat.lt_irrefl _)
    · have hrevision : rootRow.revision = row.revision := Nat.le_antisymm hge hle
      rw [hok.keys.eq hrootRow hrow (Prod.ext hid hrevision)]
  · -- what withdraws the admission withdraws its action
    have haction' := hopen.action
    rw [← hloaded] at haction'
    have hreaches := hok.admission hrootRow hrootKind hrun hs.unique haction' hpath row hrow rfl
      hsameRun hkind
    obtain ⟨actionRow, hactionRow, hactionRef, -⟩ := hok.loaded h hopen.action
    refine haction ((hw.members _).mpr ⟨_, hroot, actionRow, hactionRow, hactionRef, ?_⟩)
    rw [← hactionRef] at hreaches
    exact hreaches

/-- **An execution that stays open** keeps its references. -/
theorem OpenOk.commit (hopen : OpenOk s.db c.loaded last) (hw : Withdrawn o s.db i c closure q)
    (hok : LineageOk s) (hs : RunsOk o s) (hadmits : s.admits i) (h : Commits o s.db i c t.db)
    (hquiet : ¬ Revokes o s.db i c.loaded)
    (hkeeps : ∀ reasonRef, i.command.command ≠ .invalidateRecord last.actionAdmissionRef reasonRef)
    (hcommand : ∀ action, i.command.command ≠ .recordAction action)
    (haction : last.actionRef ∉ closure) : OpenOk t.db c.projection last := by
  obtain ⟨-, hkinded⟩ := h.loadedHeld hs hadmits
  obtain ⟨row, hrow, hrowRef, hrunId, hkind⟩ := hopen.admission
  have hkinds := h.not_retypes hok hs hadmits
  constructor
  case action =>
    rw [h.projectionRecords hs hadmits]
    rcases hrecord : c.record with _ | record
    · exact hopen.action
    · rw [insertRecord_of_ne, hopen.action]
      intro hactionKind
      have hissues := (h.issued hs hadmits hrecord).2.identity.issuedKind
      rw [← hactionKind] at hissues
      cases hc : i.command.command <;> rw [hc] at hissues <;>
        first | (cases hissues; done) | exact hcommand _ hc
  case actionValid =>
    refine hw.stays hok h hkinds hopen.actionValid haction ?_
    rw [hkinded _ _ hopen.action]
    nofun
  case admission =>
    exact ⟨row, h.mem_records.mpr (.inl hrow), hrowRef,
      hrunId.trans (h.frame hs hadmits).1.runId.symm, hkind⟩
  case admissionValid =>
    refine hw.stays hok h hkinds hopen.admissionValid
      (hw.admission hok hs hadmits h hquiet hkeeps hopen haction) ?_
    rw [← hrowRef]
    intro hassertion
    rw [show row.candidateKind = _ from hassertion] at hkind
    cases hkind

end Open

/-- **What one commit does to the references** of the bindings. -/
theorem Grounded.commit (ha : Grounded s.db c.loaded) (hok : LineageOk s) (hs : RunsOk o s)
    (hadmits : s.admits i) (h : Commits o s.db i c t.db) : Grounded t.db c.projection := by
  obtain ⟨hheld, hkinded⟩ := h.loadedHeld hs hadmits
  have hkinds := h.not_retypes hok hs hadmits
  obtain ⟨closure, q, hw⟩ := h.withdrawn
  obtain ⟨hle, -, -⟩ := hw.closed
  have hq := hw.held hheld
  have hedges : ∀ y x, Edge (dependentEdges s.db) y x → Edge (dependentEdges t.db) y x :=
    fun y x hedge => h.mem_edges.mpr (.inl hedge)
  -- what is invalid is stored
  have hstored : ∀ x ∈ c.projection.invalidatedRecords,
      ∃ row ∈ s.db.contractRecords, row.recordRef = x := by
    intro x hx
    rcases hw.invalidated hok h hkinds hx with hx | hx | ⟨-, hcurrent⟩
    · exact ha.invalidated x hx
    · obtain ⟨-, -, row, hrow, hrowRef, -⟩ := (hw.members x).mp hx
      exact ⟨row, hrow, hrowRef⟩
    · obtain ⟨row, hrow, hrowRef, -⟩ := hok.loaded h hcurrent
      exact ⟨row, hrow, hrowRef⟩
  constructor
  case invalidated =>
    intro x hx
    obtain ⟨row, hrow, hrowRef⟩ := hstored x hx
    exact ⟨row, h.mem_records.mpr (.inl hrow), hrowRef⟩
  case valid =>
    intro kind holder k ref hholds hinvalid
    have hdrops := hw.drops hheld hholds
    -- a binding from before is dropped with what it refers to
    have hold : ¬ Holds c.loaded.bindings kind holder k ref := by
      intro hbefore
      rcases hw.invalidated hok h hkinds hinvalid with hx | hx | ⟨hassertion, -⟩
      · exact ha.valid _ _ _ _ hbefore hx
      · obtain ⟨row, hrow, rfl, -⟩ := hok.loaded h (hheld.current _ _ _ _ hbefore)
        exact hdrops (hw.spreads hx hrow (ha.spreads _ _ _ _ hbefore))
      · exact hbefore.ref_ne ((hheld.kinded _ _ _ _ hbefore).2.symm.trans hassertion)
    have hbefore := hholds.of_le hle
    by_cases hrevokes : Revokes o s.db i c.loaded
    · rw [(hw.revoked hrevokes).2.1] at hbefore
      exact hold hbefore
    · rcases (hw.evaluated hrevokes).1.holds hbefore with ⟨hbefore, -⟩ |
        ⟨record, hrecord, rfl, hkind, ⟨-, rfl⟩ | ⟨kind', holder', -, hbasis⟩⟩
      · exact hold hbefore
      · -- the issued record was not stored before
        obtain ⟨row, hrow, hrowRef⟩ := hstored _ hinvalid
        refine (h.admitted record hrecord).newKey row hrow ?_
        rw [← hrowRef]
        rfl
      · rcases hw.invalidated hok h hkinds hinvalid with hx | hx | ⟨hassertion, -⟩
        · exact ha.valid _ _ _ _ hbasis hx
        · -- the closure begins at the kind of the record, and does not go back
          obtain ⟨root, hroot, row, hrow, rfl, hpath⟩ := (hw.members ref).mp hx
          obtain ⟨rootRow, hrootRow, rfl, -⟩ :=
            hok.loaded h (withdrawnRoot_current hs hadmits h hroot)
          have hrootKind := withdrawnRoot_kind hs hadmits h hrecord hroot
          have hrefKind := (hq.kinded _ _ _ _ hbefore).2
          have hrank : row.candidateKind.rank < rootRow.candidateKind.rank := by
            rcases hbefore.rank with hsame | hlt
            · exfalso
              refine (h.admitted record hrecord).newKey row hrow ?_
              rw [← hsame]
              rfl
            · rw [show row.candidateKind = k from hrefKind,
                show rootRow.candidateKind = _ from hrootKind, ← hkind]
              exact hlt
          rcases Spreads.precedes hok hpath hrootRow hrow rfl rfl with hlt | ⟨hsame, -⟩
          · exact absurd hlt (Nat.lt_asymm hrank)
          · rw [hsame] at hrank
            exact absurd hrank (Nat.lt_irrefl _)
        · exact hbasis.ref_ne ((hheld.kinded _ _ _ _ hbasis).2.symm.trans hassertion)
  case spreads =>
    intro kind holder k ref hholds
    have hbefore := hholds.of_le hle
    by_cases hrevokes : Revokes o s.db i c.loaded
    · rw [(hw.revoked hrevokes).2.1] at hbefore
      exact (ha.spreads _ _ _ _ hbefore).mono hedges
    · rcases (hw.evaluated hrevokes).1.holds hbefore with ⟨hbefore, -⟩ |
        ⟨record, hrecord, rfl, rfl, ⟨-, rfl⟩ | ⟨kind', holder', hkind, hbasis⟩⟩
      · exact (ha.spreads _ _ _ _ hbefore).mono hedges
      · exact .refl
      · exact ((ha.spreads _ _ _ _ hbasis).mono hedges).trans
          (h.basis hs hadmits hrecord hkind (hheld.current _ _ _ _ hbasis))

/-- **What one commit does to the references** of a run. -/
theorem Anchored.commit (ha : Anchored s.db c.loaded) (hok : LineageOk s) (hs : RunsOk o s)
    (hadmits : s.admits i) (h : Commits o s.db i c t.db) (hkeeps : ¬ WithdrawsOpenAdmission s i) :
    Anchored t.db c.projection := by
  obtain ⟨hheld, hkinded⟩ := h.loadedHeld hs hadmits
  have hkinds := h.not_retypes hok hs hadmits
  obtain ⟨closure, q, hw⟩ := h.withdrawn
  refine ⟨ha.toGrounded.commit hok hs hadmits h, ?executionOpen⟩
  case executionOpen =>
    intro e he hopen
    obtain ⟨hquiet, haction, ⟨hcommand, last, hlast, hwas, hsame⟩ |
      ⟨hreserves, a, hadmission, hactionRef, hadmissionRef, hcurrent⟩⟩ :=
        hw.open hs hadmits h he hopen
    · have hlastOk := ha.executionOpen last hlast hwas
      obtain ⟨run, hrun, hrunRow, hloaded⟩ := h.loadedRow.resolve_right fun hnone => by
        have haction := hlastOk.action
        rw [hnone] at haction
        cases haction
      rw [hsame] at haction ⊢
      refine { hlastOk.commit hw hok hs hadmits h hquiet ?_ hcommand haction with }
      intro reasonRef hinvalidates
      exact hkeeps ⟨run, hrun, hrunRow, last, hloaded ▸ hlast, hwas, reasonRef, hinvalidates⟩
    · -- a reservation issues no record, and withdraws nothing
      have hnone : c.record = none := by
        rcases hrecord : c.record with _ | record
        · rfl
        · have hissues := (h.issued hs hadmits hrecord).2.identity.issuedKind
          cases hc : i.command.command <;> rw [hc] at hreserves hissues <;>
            first | (cases hreserves; done) | cases hissues
      have hempty : ∀ x, x ∉ closure := by
        intro x hx
        obtain ⟨root, hroot, -⟩ := (hw.members x).mp hx
        rw [withdrawnRoot, if_neg hquiet, hnone] at hroot
        cases hc : i.command.command <;> rw [hc] at hreserves hroot <;>
          first | (cases hreserves; done) | cases hroot
      have hbinds : Holds c.loaded.bindings _ _ _ _ := .admission hadmission
      have hbindsAction : Holds c.loaded.bindings _ _ _ _ := .admissionAction hadmission
      have hadmissionKind := (hheld.kinded _ _ _ _ hbinds).2
      have hactionKind := (hheld.kinded _ _ _ _ hbindsAction).2
      have hrecords := h.projectionRecords hs hadmits
      rw [hnone] at hrecords
      constructor
      case action =>
        rw [hactionRef, hactionKind, ← hactionRef] at hcurrent
        rw [hrecords]
        exact hcurrent
      case actionValid =>
        rw [hactionRef]
        exact hw.stays hok h hkinds (ha.valid _ _ _ _ hbindsAction) (hempty _)
          (by simp [hactionKind])
      case admission =>
        obtain ⟨row, hrow, hrowRef, hrunId⟩ := hok.loaded h (hheld.current _ _ _ _ hbinds)
        refine ⟨row, h.mem_records.mpr (.inl hrow), hrowRef.trans hadmissionRef.symm,
          hrunId.trans (h.frame hs hadmits).2.symm, ?_⟩
        rw [← hrowRef] at hadmissionKind
        exact hadmissionKind
      case admissionValid =>
        rw [hadmissionRef]
        exact hw.stays hok h hkinds (ha.valid _ _ _ _ hbinds) (hempty _) (by simp [hadmissionKind])

end Commit

/-! ### A sample permit

The calls that lead the sample run to an issued permit, and what can follow it.  The checksum is
taken of the first bytes of a message only, which keeps the evaluation short; no check on the way
turns on two messages having different digests. -/

namespace Sample

@[reducible]
def shortCrypto : Crypto where
  sha256 bytes :=
    match checksum (bytes.take 160) + 1 with
    | 0 => digestBytes 0
    | sum + 1 => digestBytes sum
  isVerifyingKey _ := true
  verify _ _ _ := true

section Calls

variable [Crypto]

def callsToPermit : List (AuthorityStateV1 → TransactInputV1) := [
  called 10 owner startRun id,
  called 11 owner recordContext id,
  called 12 owner recordIntent id,
  called 13 owner recordDecision id,
  called 14 owner recordTurn id,
  called 15 owner (recordAction 5) id,
  called 16 owner admitAction id,
  called 17 owner reserveExecution id]

def permitCollected : AuthorityStateV1 → TransactInputV1 := called 18 provider deliverPermit id

def admissionInvalidated : AuthorityStateV1 → TransactInputV1 :=
  called 18 owner (fun p => .invalidateRecord (current p .actionAdmissionDecision) correlation) id

omit [Crypto] in
/-- The call, under a trust root that no longer admits the proofs of an admission. -/
def lapsed (i : TransactInputV1) : TransactInputV1 :=
  { i with trustRoot := { i.trustRoot with keys := i.trustRoot.keys.map fun key =>
      (key.1, { key.2 with allowedProofKinds := [.callerAuthentication, .executionPermit] }) } }

/-- The call is taken, and leads to a state with the property. -/
def leadsTo (s : AuthorityStateV1) (i : AuthorityStateV1 → TransactInputV1)
    (p : AuthorityStateV1 → Bool) : Bool :=
  isOkAnd (orchestrator.authorityStep s (i s)) p

omit [Crypto] in
/-- The execution of the sample run has the property. -/
def withExecution (s : AuthorityStateV1) (p : ExecutionProjectionV1 → Bool) : Bool :=
  (projection s).execution.any p

/-- The permit is issued, and can be delivered. -/
def deliversPermit (s : AuthorityStateV1) : Bool :=
  withExecution s (fun e => e.state = .permitIssued) &&
    leadsTo s permitCollected fun t => withExecution t fun e => e.state = .permitDelivered

/-- The permit outlives the admission that it was issued under. -/
def keepsPermit (s : AuthorityStateV1) : Bool :=
  leadsTo s admissionInvalidated fun t => withExecution t fun e =>
    e.state = .permitIssued && e.actionAdmissionRef ∈ (projection t).invalidatedRecords

end Calls

/-- The calls to an issued permit, which leads to a state with the property. -/
@[reducible]
def PermitScript (property : AuthorityStateV1 → Bool) : Type :=
  Script (@PostgresIdrOrchestratorV1.authorityStep shortCrypto orchestrator)
    (fun s i => isHumanModelWrite i.command.command = false ∧ ¬ WithdrawsOpenAdmission s i)
    emptyAuthority property

set_option maxRecDepth 100000 in
def permitDelivery : PermitScript (@deliversPermit shortCrypto) where
  inputs := @callsToPermit shortCrypto
  leads := by decide +kernel

set_option maxRecDepth 100000 in
def permitKept : PermitScript (@keepsPermit shortCrypto) where
  inputs := @callsToPermit shortCrypto
  leads := by decide +kernel

/-- The calls, as a run of the authority. -/
theorem permit_issued {property : AuthorityStateV1 → Bool} (script : PermitScript property) :
    ∃ s, Reachable AuthorityInit (Restrict (@AuthorityStep shortCrypto orchestrator) fun s i =>
        isHumanModelWrite i.command.command = false ∧ ¬ WithdrawsOpenAdmission s i) s ∧
      property s = true := by
  obtain ⟨s, is, hrun, hproperty⟩ := script.run
  exact ⟨s, ⟨_, is, authorityInit_empty, hrun⟩, hproperty⟩

theorem withExecution_row {s : AuthorityStateV1} {p : ExecutionProjectionV1 → Bool}
    (h : withExecution s p = true) : ∃ row ∈ s.db.runs, projection s = row.projection ∧
      ∃ e, row.projection.execution = some e ∧ p e = true := by
  rw [withExecution, projection] at h
  rcases hrow : s.db.run runId with _ | row
  · rw [hrow] at h
    cases h
  · rw [hrow] at h
    obtain ⟨e, he, hp⟩ := (Option.any_eq_true _ _).mp h
    exact ⟨row, List.mem_of_find?_eq_some hrow, by rw [projection, hrow]; rfl, e, he, hp⟩

end Sample

/-! ### Every reachable state -/

section Reachable

variable [Crypto] {o : PostgresIdrOrchestratorV1} {s : AuthorityStateV1}

omit [Crypto] in
theorem Anchored.mono {db db' : DatabaseV1} {p : IdrRunProjectionV1} (h : Anchored db p)
    (hrecords : ∀ row ∈ db.contractRecords, row ∈ db'.contractRecords)
    (hedges : ∀ y x, Edge (dependentEdges db) y x → Edge (dependentEdges db') y x) :
    Anchored db' p where
  valid := h.valid
  spreads kind holder k ref hholds := (h.spreads kind holder k ref hholds).mono hedges
  invalidated x hx := by
    obtain ⟨row, hrow, hrowRef⟩ := h.invalidated x hx
    exact ⟨row, hrecords row hrow, hrowRef⟩
  executionOpen e he hopen := by
    have hok := h.executionOpen e he hopen
    obtain ⟨row, hrow, hrowRef, hrest⟩ := hok.admission
    exact ⟨hok.action, hok.actionValid, ⟨row, hrecords row hrow, hrowRef, hrest⟩,
      hok.admissionValid⟩

omit [Crypto] in
theorem anchored_pending (db : DatabaseV1) (trustDomain : TrustDomainV1)
    (environmentRef : ReferenceV1) (runId : Uuid) (tenantRef : ReferenceV1) :
    Anchored db (.pending trustDomain environmentRef runId tenantRef) where
  valid _ _ _ _ hholds := by cases hholds <;> rename_i hx <;> cases hx
  spreads _ _ _ _ hholds := by cases hholds <;> rename_i hx <;> cases hx
  invalidated _ hx := by cases hx
  executionOpen _ he := by cases he

/-- **The references of every run**, in the runs that do not invalidate the admission of an open
execution. -/
theorem anchored_reachable
    (h : Reachable AuthorityInit (Restrict (AuthorityStep o) fun s i =>
      ¬ WithdrawsOpenAdmission s i) s) : ∀ row ∈ s.db.runs, Anchored s.db row.projection := by
  refine lineage_invariant (P := fun s => ∀ row ∈ s.db.runs, Anchored s.db row.projection)
    ?_ ?_ ?_ h
  · intro s hempty row hrow
    rw [hempty] at hrow
    cases hrow
  · intro s t hdb hs
    rw [hdb]
    exact hs
  · intro s i c t hs hok _ hadmits hkeeps hc hP row hrow
    rcases hc.mem_runs hs hadmits hrow with ⟨hrow, -⟩ | ⟨-, hprojection, -⟩
    · exact (hP row hrow).mono (fun _ hrow => hc.mem_records.mpr (.inl hrow))
        fun _ _ hedge => hc.mem_edges.mpr (.inl hedge)
    · rw [hprojection]
      refine Anchored.commit ?_ hok hs hadmits hc hkeeps
      rcases loadRun_eq_ok hc.loaded with ⟨old, hold, hloaded⟩ | ⟨-, -, -, hloaded⟩
      · rw [← hloaded]
        exact hP old (run_eq_some hold).1
      · rw [hloaded]
        exact anchored_pending ..

omit [Crypto] in
/-- **No reference to an invalidated record**: neither in a binding, nor in an execution that has
not ended and was not dispatched. -/
structure ReferencesValid (p : IdrRunProjectionV1) : Prop where
  bindings : ∀ kind holder k ref, Holds p.bindings kind holder k ref → ref ∉ p.invalidatedRecords
  execution : ∀ e, p.execution = some e → e.state.isTerminal = false → ¬ InFlight e.state →
    e.actionRef ∉ p.invalidatedRecords ∧ e.actionAdmissionRef ∉ p.invalidatedRecords

theorem references_valid
    (h : Reachable AuthorityInit (Restrict (AuthorityStep o) fun s i =>
      ¬ WithdrawsOpenAdmission s i) s) : ∀ row ∈ s.db.runs, ReferencesValid row.projection := by
  intro row hrow
  have hanchored := anchored_reachable h row hrow
  refine ⟨hanchored.valid, fun e he hterminal hflight => ?_⟩
  obtain ⟨u, hu, hprojection, -⟩ := ((runsOk_reachable h.of_restrict).rows row hrow).refined
  obtain ⟨hsome, hcreated, -⟩ := (executionInv_reachable hu).1 e (hprojection ▸ he)
  have hopen : PermitOpen e.state := by
    cases hstate : e.state <;> rw [hstate] at hterminal hflight hsome hcreated <;>
      simp_all [PermitOpen, InFlight, ExecutionAggregateStateV1.isTerminal]
  have hok := hanchored.executionOpen e he hopen
  exact ⟨hok.actionValid, hok.admissionValid⟩

end Reachable

/-- The references of the sample run are valid while its permit is issued. -/
theorem references_valid_sample : ∃ s row e,
    Reachable AuthorityInit (Restrict (@AuthorityStep Sample.shortCrypto Sample.orchestrator)
      fun s i => ¬ WithdrawsOpenAdmission s i) s ∧
    row ∈ s.db.runs ∧ row.projection.execution = some e ∧ e.state = .permitIssued ∧
    ReferencesValid row.projection := by
  obtain ⟨s, hs, hdelivers⟩ := Sample.permit_issued Sample.permitDelivery
  have hs : Reachable AuthorityInit
    (Restrict (@AuthorityStep Sample.shortCrypto Sample.orchestrator)
      fun s i => ¬ WithdrawsOpenAdmission s i) s := hs.restrict_mono fun s i h => h.2
  obtain ⟨hissued, -⟩ := Bool.and_eq_true_iff.mp hdelivers
  obtain ⟨row, hrow, -, e, he, hstate⟩ := Sample.withExecution_row hissued
  exact ⟨s, row, e, hs, hrow, he, of_decide_eq_true hstate,
    @references_valid Sample.shortCrypto _ s hs row hrow⟩

/-- **The permit outlives its admission**: invalidating the admission of an open execution leaves
the execution as it is. -/
theorem permit_outlives_admission : ∃ s row e,
    Reachable AuthorityInit (@AuthorityStep Sample.shortCrypto Sample.orchestrator) s ∧
    row ∈ s.db.runs ∧ row.projection.execution = some e ∧ e.state = .permitIssued ∧
    e.actionAdmissionRef ∈ row.projection.invalidatedRecords ∧
    ¬ ReferencesValid row.projection := by
  obtain ⟨s, hs, hkeeps⟩ := Sample.permit_issued Sample.permitKept
  obtain ⟨t, ht, hpermit⟩ := isOkAnd_iff.mp hkeeps
  obtain ⟨row, hrow, hprojection, e, he, hpermit⟩ := Sample.withExecution_row hpermit
  rw [Bool.and_eq_true, decide_eq_true_eq, decide_eq_true_eq, hprojection] at hpermit
  obtain ⟨hstate, hinvalid⟩ := hpermit
  refine ⟨t, row, e, hs.of_restrict.snoc ht, hrow, he, hstate, hinvalid, fun hvalid => ?_⟩
  refine (hvalid.execution e he ?_ ?_).2 hinvalid
  · rw [hstate]
    rfl
  · rw [hstate]
    nofun

end Idr
