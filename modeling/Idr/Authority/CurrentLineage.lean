/-
Idr/Authority/CurrentLineage.lean

Effects flow from current lineage.

The evaluator checks the record a command rests on, and none of those that
this one rests on.  That these are current as well is an invariant of the
stored graph (`BasisOk`): a record up to the action that is current and
valid has only current and valid dependencies.  A new record finds them so;
and when one of them is replaced or invalidated, the closure of that record
contains what depends on it.

The steps that let an effect out (`Effects`) rest on a record whose whole
dependency closure is current (`effects_flow_from_current_lineage`).
-/
import Idr.Authority.Withdrawal

namespace Idr

/-! ### Dependencies -/

/-- A record rests on another: an edge that does not lead from one revision to the next. -/
def RestsOn (db : DatabaseV1) (y x : Uuid × Nat) : Prop :=
  Edge (dependentEdges db) y x ∧ ¬ (y.1 = x.1 ∧ x.2 = y.2 + 1)

/-- The record is the current one of its kind, and valid. -/
def CurrentRecord (p : IdrRunProjectionV1) (x : AuthoritativeRecordRefV1) : Prop :=
  p.records x.candidateKind = some x ∧ x ∉ p.invalidatedRecords

/-- **The basis of the current records**, up to the action, is current. -/
def BasisOk (db : DatabaseV1) (p : IdrRunProjectionV1) : Prop :=
  ∀ kind ref, kind.rank ≤ 6 → p.records kind = some ref → ref ∉ p.invalidatedRecords →
    ∀ y, RestsOn db y ref.key → ∃ x, x.key = y ∧ CurrentRecord p x ∧
      x.candidateKind.rank < kind.rank

/-- **Current lineage**: every record in the dependency closure of the root is current. -/
def CurrentLineage (db : DatabaseV1) (p : IdrRunProjectionV1) (root : AuthoritativeRecordRefV1) :
    Prop :=
  ∀ y, Relation.ReflTransGen (RestsOn db) y root.key → ∃ x, x.key = y ∧ CurrentRecord p x

/-- A basis that is current is so along every path. -/
theorem BasisOk.lineage {db : DatabaseV1} {p : IdrRunProjectionV1} (h : BasisOk db p)
    {root : AuthoritativeRecordRefV1} (hroot : CurrentRecord p root)
    (hrank : root.candidateKind.rank ≤ 6) : CurrentLineage db p root := by
  intro y hpath
  -- along the path the kinds stay below that of the root
  suffices hrest : ∃ x, x.key = y ∧ CurrentRecord p x ∧ x.candidateKind.rank ≤ 6 by
    obtain ⟨x, hx, hcurrent, -⟩ := hrest
    exact ⟨x, hx, hcurrent⟩
  induction hpath using Relation.ReflTransGen.head_induction_on with
  | refl => exact ⟨root, rfl, hroot, hrank⟩
  | head hedge _ ih =>
    obtain ⟨x, rfl, ⟨hx, hvalid⟩, hle⟩ := ih
    obtain ⟨z, hz, hcurrent, hlt⟩ := h _ x hle hx hvalid _ hedge
    exact ⟨z, hz, hcurrent, by omega⟩

theorem not_retypesRecord_of_rank {kind : CandidateKindV1} (h : kind.rank ≤ 6) :
    kind ≠ .humanModelAssertion ∧ kind ≠ .actionAdmissionDecision := by
  constructor <;> rintro rfl <;> exact absurd h (by decide)

/-- What a command depends on is a matter of the records before the one it issues. -/
theorem dependencyKinds_congr {cmd : IdrCommandV1} {kind : CandidateKindV1}
    {records records' : CandidateKindV1 → Option AuthoritativeRecordRefV1}
    (hissues : cmd.issuedKind = some kind)
    (h : ∀ k : CandidateKindV1, k.rank < kind.rank → records k = records' k) :
    dependencyKinds records cmd = dependencyKinds records' cmd := by
  cases cmd <;> try rfl
  case recordAction =>
    cases hissues
    simp only [dependencyKinds]
    rw [h .decision (by decide)]

section Commit

variable [Crypto] {o : PostgresIdrOrchestratorV1} {i : TransactInputV1} {c : CommitV1}
  {s t : AuthorityStateV1} {record : AuthoritativeRecordV1}

/-! ### What a commit does to the basis -/

theorem ArmEffect.invalidated_mono {fresh : FreshIdsV1} {p : IdrRunProjectionV1}
    {cmd : IdrCommandV1} {proofs : List VerifiedProductionProofV1} {b : RunBindings}
    {invalidated : List AuthoritativeRecordRefV1} {issued : Option AuthoritativeRecordV1}
    (h : ArmEffect fresh p cmd proofs b invalidated issued) {x : AuthoritativeRecordRefV1}
    (hx : x ∈ p.invalidatedRecords) : x ∈ invalidated := by
  cases h with
  | corrected | invalidated => exact (mem_insertSorted compareRecordRef_eq).mpr (.inr hx)
  | quiet | recorded | decided | responded | acted | admitted | observed | proposed | promoted
  | asserted => exact hx

section Withdrawn

variable {closure : List AuthoritativeRecordRefV1} {q : IdrRunProjectionV1}

/-- An invalidated record stays so. -/
theorem Withdrawn.invalidated_mono (hw : Withdrawn o s.db i c closure q)
    {x : AuthoritativeRecordRefV1} (hx : x ∈ c.loaded.invalidatedRecords) :
    x ∈ c.projection.invalidatedRecords := by
  refine (hw.closed.2.1 x).mpr (.inr ?_)
  by_cases hrevokes : Revokes o s.db i c.loaded
  · rw [(hw.revoked hrevokes).2.2.1]
    exact hx
  · exact (hw.evaluated hrevokes).1.invalidated_mono hx

/-- The record that is replaced is the root of the closure. -/
theorem Commits.replaces (hs : RunsOk o s) (hadmits : s.admits i) (h : Commits o s.db i c t.db)
    (hrecord : c.record = some record)
    (hkind : record.recordRef.candidateKind ≠ .actionAdmissionDecision)
    {x : AuthoritativeRecordRefV1} (hx : c.loaded.records record.recordRef.candidateKind = some x)
    (hne : record.recordRef ≠ x) : withdrawnRoot o s.db i c = some x := by
  obtain ⟨hquiet, hissued⟩ := h.issued hs hadmits hrecord
  obtain ⟨-, hkinded⟩ := h.loadedHeld hs hadmits
  have hissues := hissued.identity.issuedKind
  have hexpected :
      i.command.command.expectedCandidateKind = some record.recordRef.candidateKind := by
    unfold IdrCommandV1.issuedKind at hissues
    split at hissues
    · exact absurd (Option.some.inj hissues).symm hkind
    · exact hissues
  rw [withdrawnRoot, if_neg hquiet, closureRoot_of_ne, hexpected, Option.bind_some, hx, hrecord]
  · have hsame : record.recordRef.candidateKind = x.candidateKind := (hkinded _ _ hx).symm
    simp [Option.filter, hsame, hne]
  · intro recordRef reason hcommand
    rw [hcommand] at hissues
    cases hissues

/-- What a valid record rests on stays current. -/
theorem BasisOk.stays (hbasis : BasisOk s.db c.loaded) (hok : LineageOk s) (hs : RunsOk o s)
    (hadmits : s.admits i) (h : Commits o s.db i c t.db) (hw : Withdrawn o s.db i c closure q)
    {kind : CandidateKindV1} {ref : AuthoritativeRecordRefV1} (hkind : kind.rank ≤ 6)
    (href : c.loaded.records kind = some ref) (hvalid : ref ∉ c.projection.invalidatedRecords)
    {y : Uuid × Nat} (hrests : RestsOn s.db y ref.key) :
    ∃ x, x.key = y ∧ CurrentRecord c.projection x ∧ x.candidateKind.rank < kind.rank := by
  obtain ⟨row, hrow, rfl, -⟩ := hok.loaded h href
  have hbefore : row.recordRef ∉ c.loaded.invalidatedRecords := fun hx =>
    hvalid (hw.invalidated_mono hx)
  obtain ⟨x, rfl, ⟨hx, hxvalid⟩, hlt⟩ := hbasis kind _ hkind href hbefore y hrests
  -- the closure of what the record rests on would contain the record
  have hclosure : x ∉ closure := by
    intro hmem
    refine hvalid ((hw.closed.2.1 _).mpr (.inl (hw.spreads hmem hrow ?_)))
    exact .single hrests.1
  refine ⟨x, rfl, ⟨?_, ?_⟩, hlt⟩
  · rw [h.projectionRecords hs hadmits]
    rcases hrecord : c.record with _ | record
    · exact hx
    · by_cases hsame : x.candidateKind = record.recordRef.candidateKind
      · exfalso
        obtain ⟨xrow, hxrow, hxref, -⟩ := hok.loaded h hx
        have hne : record.recordRef ≠ x := by
          intro heq
          refine (h.admitted record hrecord).newKey xrow hxrow ?_
          rw [heq, ← hxref]
          rfl
        have hroot := h.replaces hs hadmits hrecord (by
          rw [← hsame]
          exact (not_retypesRecord_of_rank (by omega)).2) (hsame ▸ hx) hne
        exact hclosure ((hw.members x).mpr ⟨x, hroot, xrow, hxrow, hxref, hxref ▸ .refl⟩)
      · rw [insertRecord_of_ne hsame]
        exact hx
  · exact hw.stays hok h (h.not_retypes hok hs hadmits) hxvalid hclosure
      (not_retypesRecord_of_rank (by omega)).1

/-- What an issued record rests on is current. -/
theorem Commits.issuedBasis (hok : LineageOk s) (hs : RunsOk o s) (hadmits : s.admits i)
    (h : Commits o s.db i c t.db) (hw : Withdrawn o s.db i c closure q)
    (hrecord : c.record = some record) (hkind : record.recordRef.candidateKind.rank ≤ 6)
    {x : AuthoritativeRecordRefV1}
    (hx : x ∈ contractDependencies i.command.command c.projection.records record.recordRef) :
    CurrentRecord c.projection x ∧
      x.candidateKind.rank < record.recordRef.candidateKind.rank := by
  have hkinds := h.not_retypes hok hs hadmits
  obtain ⟨hquiet, hissued⟩ := h.issued hs hadmits hrecord
  obtain ⟨r, hr, -⟩ := h.evaluated hs hadmits hquiet
  have hissues := hissued.identity.issuedKind
  rcases mem_contractDependencies.mp hx with ⟨⟨k, hk, hcurrent⟩, -⟩ | hnamed
  · have hrank := dependencyKinds_rank hissues hk
    have hother : ∀ kind : CandidateKindV1, kind.rank < record.recordRef.candidateKind.rank →
        c.projection.records kind = c.loaded.records kind := by
      intro kind hlt
      rw [h.projectionRecords hs hadmits, hrecord, insertRecord_of_ne]
      rintro rfl
      exact absurd hlt (Nat.lt_irrefl _)
    rw [dependencyKinds_congr hissues hother] at hk
    obtain ⟨x', hx', hvalid⟩ := evaluateCommand_basis hr hissues hkind hk
    obtain rfl : x = x' := Option.some.inj ((hcurrent.symm.trans (hother k hrank)).trans hx')
    obtain rfl := (h.loadedHeld hs hadmits).2 k x hx'
    refine ⟨⟨hcurrent, hw.stays hok h hkinds hvalid ?_ (not_retypesRecord_of_rank (by omega)).1⟩,
      hrank⟩
    -- the closure begins at the kind of the record, and does not go back
    intro hmem
    obtain ⟨root, hroot, row, hrow, rfl, hpath⟩ := (hw.members x).mp hmem
    obtain ⟨rootRow, hrootRow, rfl, -⟩ := hok.loaded h (withdrawnRoot_current hs hadmits h hroot)
    have hrootKind := withdrawnRoot_kind hs hadmits h hrecord hroot
    rw [← hrootKind] at hrank
    rcases Spreads.precedes hok hpath hrootRow hrow rfl rfl with hlt | ⟨hsame, -⟩
    · exact absurd hlt (Nat.lt_asymm hrank)
    · rw [show row.recordRef.candidateKind =
        rootRow.recordRef.candidateKind from hsame.symm] at hrank
      exact absurd hrank (Nat.lt_irrefl _)
  · -- a record up to the action names nothing
    exfalso
    cases hcommand : i.command.command <;> rw [hcommand] at hnamed hissues <;>
      first
        | cases hnamed; done
        | (rw [← Option.some.inj hissues] at hkind
           exact absurd hkind (by decide))

end Withdrawn

/-- **What a commit does to the basis** of its run. -/
theorem BasisOk.commit (hbasis : BasisOk s.db c.loaded) (hok : LineageOk s) (hs : RunsOk o s)
    (hadmits : s.admits i) (h : Commits o s.db i c t.db) : BasisOk t.db c.projection := by
  intro kind ref hkind href hvalid y hrests
  obtain ⟨closure, q, hw⟩ := h.withdrawn
  -- the current record is the issued one, or was current before
  have hcases : c.loaded.records kind = some ref ∨
      ∃ record, c.record = some record ∧ ref = record.recordRef ∧
        kind = record.recordRef.candidateKind := by
    rw [h.projectionRecords hs hadmits] at href
    rcases hrecord : c.record with _ | record <;> rw [hrecord] at href
    · exact .inl href
    · by_cases hsame : kind = record.recordRef.candidateKind
      · rw [hsame, insertRecord_self] at href
        exact .inr ⟨record, rfl, (Option.some.inj href).symm, hsame⟩
      · rw [insertRecord_of_ne hsame] at href
        exact .inl href
  rcases hcases with hloaded | ⟨record, hrecord, rfl, rfl⟩
  · refine hbasis.stays hok hs hadmits h hw hkind hloaded
      hvalid ⟨?_, hrests.2⟩
    rcases h.mem_edges.mp hrests.1 with hedge | ⟨record, hrecord, hkey, -⟩
    · exact hedge
    · -- the issued record was not stored before
      obtain ⟨row, hrow, rfl, -⟩ := hok.loaded h hloaded
      exact absurd hkey ((h.admitted record hrecord).newKey row hrow)
  · rcases h.mem_edges.mp hrests.1 with hedge | ⟨record', hrecord', -, hnew⟩
    · obtain ⟨-, -, row, hrow, -, hkey, -⟩ := hok.edges _ _ hedge
      exact absurd hkey ((h.admitted record hrecord).newKey row hrow)
    · obtain rfl := Option.some.inj (hrecord.symm.trans hrecord')
      rcases hnew with ⟨hrevision, rfl⟩ | ⟨x, hx, rfl⟩
      · refine absurd ⟨rfl, ?_⟩ hrests.2
        show record.recordRef.revision = record.recordRef.revision - 1 + 1
        omega
      · exact ⟨x, rfl, h.issuedBasis hok hs hadmits hw hrecord hkind hx⟩

/-- A commit leaves what the records of the other runs rest on. -/
theorem BasisOk.other {p : IdrRunProjectionV1} (hbasis : BasisOk s.db p)
    (h : Commits o s.db i c t.db)
    (hstored : ∀ kind ref, p.records kind = some ref →
      ∃ row ∈ s.db.contractRecords, row.recordRef = ref) : BasisOk t.db p := by
  intro kind ref hkind href hvalid y hrests
  refine hbasis kind ref hkind href hvalid y ⟨?_, hrests.2⟩
  rcases h.mem_edges.mp hrests.1 with hedge | ⟨record, hrecord, hkey, -⟩
  · exact hedge
  · obtain ⟨row, hrow, rfl⟩ := hstored kind ref href
    exact absurd hkey ((h.admitted record hrecord).newKey row hrow)

/-- **The basis of the current records** of every run is current. -/
theorem basisOk_reachable (h : Reachable AuthorityInit (AuthorityStep o) s) :
    ∀ row ∈ s.db.runs, BasisOk s.db row.projection := by
  refine lineage_invariant (P := fun s => ∀ row ∈ s.db.runs, BasisOk s.db row.projection)
    ?_ ?_ ?_ h.restrict_true
  · intro s hempty row hrow
    rw [hempty] at hrow
    cases hrow
  · intro s t hdb hs
    rw [hdb]
    exact hs
  · intro s i c t hs hok _ hadmits _ hc hP row hrow
    rcases hc.mem_runs hs hadmits hrow with ⟨hrow, -⟩ | ⟨-, hprojection, -⟩
    · refine (hP row hrow).other hc fun kind ref href => ?_
      obtain ⟨cr, hcr, hcref, -⟩ := hok.stored row hrow kind ref href
      exact ⟨cr, hcr, hcref⟩
    · rw [hprojection]
      refine BasisOk.commit ?_ hok hs hadmits hc
      rcases hc.loadedRow with ⟨old, hold, -, hloaded⟩ | hnone
      · exact hloaded ▸ hP old hold
      · intro kind ref _ href
        rw [hnone] at href
        cases href

/-! ### Effects -/

/-- The commit lets an effect out that rests on the record. -/
inductive Effects (o : PostgresIdrOrchestratorV1) (db : DatabaseV1) (i : TransactInputV1)
    (c : CommitV1) : AuthoritativeRecordRefV1 → Prop
  | send {responseRef bytes channelRef audienceRef nonce} :
      i.command.command = .consumeResponseSend responseRef bytes channelRef audienceRef nonce →
      Effects o db i c responseRef
  | admission {actionRef digest providerRef ownerRef key} :
      i.command.command = .admitAction actionRef digest providerRef ownerRef key →
      Effects o db i c actionRef
  | reserve {admissionRef actionRef digest providerRef ownerRef key attempt lease nonce} :
      i.command.command = .reserveExecution admissionRef actionRef digest providerRef ownerRef key
        attempt lease nonce → ¬ Revokes o db i c.loaded → Effects o db i c actionRef
  | deliver {reservationId permitId e} :
      i.command.command = .deliverPermit reservationId permitId →
      c.projection.execution = some e → e.state = .permitDelivered → Effects o db i c e.actionRef
  | dispatch {reservationId permitId e} :
      i.command.command = .startDispatch reservationId permitId →
      c.projection.execution = some e → e.state = .dispatchStarted → Effects o db i c e.actionRef

/-- A revocation leaves no permit delivered and no dispatch started. -/
theorem Commits.not_revokes (h : Commits o s.db i c t.db) {e : ExecutionProjectionV1}
    (he : c.projection.execution = some e)
    (hstate : e.state = .permitDelivered ∨ e.state = .dispatchStarted) :
    ¬ Revokes o s.db i c.loaded := by
  intro hrevokes
  obtain ⟨closure, q, hw⟩ := h.withdrawn
  rw [hw.closed.2.2, (hw.revoked hrevokes).2.2.2, closeAll_revoked] at he
  obtain ⟨last, -, rfl⟩ := Option.map_eq_some_iff.mp he
  unfold revokedState at hstate
  rw [withState_state] at hstate
  split at hstate <;> rcases hstate with hstate | hstate <;> cases hstate

/-- The result of a command that is followed by no closure. -/
theorem Commits.quiet (hs : RunsOk o s) (hadmits : s.admits i) (h : Commits o s.db i c t.db)
    (hquiet : ¬ Revokes o s.db i c.loaded)
    (hkind : i.command.command.expectedCandidateKind = none)
    (hother : ∀ ref reason, i.command.command ≠ .invalidateRecord ref reason) :
    ∃ r, evaluateCommand i.fresh { c.loaded with
        aggregateVersion := c.loaded.aggregateVersion + 1
        lastEventSequence := c.loaded.lastEventSequence + 1 } i.command i.trustedNow
          c.verifiedProofs = .ok r ∧
      c.projection.execution = r.projection.execution := by
  obtain ⟨u, closure, v, -, -, -, -, -, -, -, htransition⟩ := h.runStep hs hadmits
  obtain ⟨r, hr, hprojection⟩ := runTransition_quiet hkind hother
    (by simp [RunInputV1.revokes, TransactInputV1.runInput, hquiet]) htransition
  refine ⟨r, hr, ?_⟩
  rw [CommitV1.projection, hprojection, insertRecord_execution]

/-- An effect rests on a current record up to the action. -/
theorem Effects.root (hs : RunsOk o s) (hadmits : s.admits i) (h : Commits o s.db i c t.db)
    {root : AuthoritativeRecordRefV1} (heffects : Effects o s.db i c root) :
    CurrentRecord c.loaded root ∧ root.candidateKind.rank ≤ 6 := by
  obtain ⟨hheld, hkinded⟩ := h.loadedHeld hs hadmits
  -- the action of a permit step is current
  have haction : ∀ {e : ExecutionProjectionV1}, AuthorityCurrent c.loaded e i.trustedNow →
      CurrentRecord c.loaded e.actionRef ∧ e.actionRef.candidateKind.rank ≤ 6 := by
    rintro e ⟨hcurrent, hvalid, -⟩
    have hkind := hkinded _ _ hcurrent
    exact ⟨⟨hkind ▸ hcurrent, hvalid⟩, by rw [hkind]; decide⟩
  cases heffects with
  | send hcommand =>
    have hquiet : ¬ Revokes o s.db i c.loaded := by
      rw [Revokes, reverify_quiet (by rw [hcommand]; rfl)]
      intro h
      cases h
    obtain ⟨r, hr, -⟩ := h.evaluated hs hadmits hquiet
    simp only [evaluateCommand, hcommand, evaluateConsumeResponseSend, bind_eq_ok,
      exists_unit_eq_ok, okOr_eq_ok, rejectIf_eq_ok, exists_const, not_or, not_not] at hr
    obtain ⟨hcurrent, binding, hbinding, ⟨rfl, -⟩, -⟩ := hr
    obtain ⟨hroot, -, -, -, hvalid⟩ := requireExactCurrentRecordAt_eq_ok.mp hcurrent
    have hbound : Holds c.loaded.bindings _ _ _ _ := .response hbinding
    refine ⟨⟨hroot, hvalid⟩, ?_⟩
    rw [(hheld.kinded _ _ _ _ hbound).2]
    decide
  | admission hcommand =>
    have hquiet : ¬ Revokes o s.db i c.loaded := by
      rw [Revokes, reverify_quiet (by rw [hcommand]; rfl)]
      intro h
      cases h
    obtain ⟨r, hr, -⟩ := h.evaluated hs hadmits hquiet
    simp only [evaluateCommand, hcommand, evaluateAdmitAction, bind_eq_ok, exists_unit_eq_ok,
      okOr_eq_ok, rejectIf_eq_ok, exists_const, Option.filter_eq_some_iff, decide_eq_true_eq] at hr
    obtain ⟨hcurrent, _, -, _, -, _, -, -, binding, ⟨hbinding, rfl⟩, -⟩ := hr
    obtain ⟨hroot, -, -, -, hvalid⟩ := requireExactCurrentRecordAt_eq_ok.mp hcurrent
    have hbound : Holds c.loaded.bindings _ _ _ _ := .action hbinding
    refine ⟨⟨hroot, hvalid⟩, ?_⟩
    rw [(hheld.kinded _ _ _ _ hbound).2]
    decide
  | reserve hcommand hquiet =>
    obtain ⟨r, hr, hexecution⟩ := h.quiet hs hadmits hquiet (by rw [hcommand]; rfl)
      (by rw [hcommand]; intro _ _ h; cases h)
    simp only [evaluateCommand, hcommand] at hr
    obtain ⟨a, e, he, -, hfrom⟩ := evaluateReserveExecution_reservedFrom hr
    simp only [evaluateReserveExecution, bind_eq_ok, exists_unit_eq_ok, okOr_eq_ok,
      rejectIf_eq_ok, exists_const, Except.ok.injEq] at hr
    obtain ⟨hcurrent, -, -, ⟨-, permitUntil⟩, -, admission, -, validUntil, -, -, reservationId, -,
      rfl⟩ := hr
    obtain ⟨hroot, -, -, -, hvalid⟩ := requireExactCurrentRecordAt_eq_ok.mp hcurrent
    cases he
    have hbound : Holds c.loaded.bindings _ _ _ _ := .admissionAction hfrom.admission
    refine ⟨⟨hroot, hvalid⟩, ?_⟩
    have hkind := (hheld.kinded _ _ _ _ hbound).2
    rw [← hfrom.actionRef] at hkind
    rw [hkind]
    decide
  | deliver hcommand he hstate =>
    obtain ⟨r, hr, hexecution⟩ := h.quiet hs hadmits (h.not_revokes he (.inl hstate))
      (by rw [hcommand]; rfl) (by rw [hcommand]; intro _ _ h; cases h)
    simp only [evaluateCommand, hcommand] at hr
    obtain ⟨last, -, rfl, -, hcurrent, -⟩ := evaluatePermitStep_advanced hr (hexecution ▸ he) hstate
      fun state => (withdrawnState_ne state).1
    exact haction hcurrent
  | dispatch hcommand he hstate =>
    obtain ⟨r, hr, hexecution⟩ := h.quiet hs hadmits (h.not_revokes he (.inr hstate))
      (by rw [hcommand]; rfl) (by rw [hcommand]; intro _ _ h; cases h)
    simp only [evaluateCommand, hcommand] at hr
    obtain ⟨last, -, rfl, -, hcurrent, -⟩ := evaluatePermitStep_advanced hr (hexecution ▸ he) hstate
      fun state => (withdrawnState_ne state).2
    exact haction hcurrent

/-- **Effects flow from current lineage.** -/
theorem effects_flow_from_current_lineage
    (hs : Reachable AuthorityInit
      (Restrict (AuthorityStep o) fun _ i => isHumanModelWrite i.command.command = false) s)
    (hadmits : s.admits i) (h : Commits o s.db i c t.db) {root : AuthoritativeRecordRefV1}
    (heffects : Effects o s.db i c root) : CurrentLineage s.db c.loaded root := by
  have hruns := runsOk_reachable hs.of_restrict
  obtain ⟨hroot, hrank⟩ := heffects.root hruns hadmits h
  refine BasisOk.lineage ?_ hroot hrank
  rcases h.loadedRow with ⟨row, hrow, -, hloaded⟩ | hnone
  · exact hloaded ▸ basisOk_reachable hs.of_restrict row hrow
  · rw [CurrentRecord, hnone] at hroot
    cases hroot.1

end Commit

/-! ### The sample permit -/

section Calls

variable [Crypto]

theorem Sample.signed_eq (expiresAt n : Nat) (command : IdrCommandEnvelopeV1) :
    ∃ proofs, signed expiresAt n command = { command with proofs } := by
  unfold signed
  split
  · exact ⟨_, rfl⟩
  · exact ⟨command.proofs, rfl⟩

/-- A call submits the command it is made of, for its run. -/
theorem Sample.call_command (n now : Nat) (command : IdrCommandEnvelopeV1) :
    (call n now command).command.command = command.command ∧
      (call n now command).command.runId = command.runId := by
  obtain ⟨proofs, hsigned⟩ := signed_eq (now + 50000) n
    { command with commandId := BitVec.ofNat 128 (200000 + n) }
  unfold call
  rw [hsigned]
  exact ⟨rfl, rfl⟩

/-- A call that changes the sample run is a commit, and leaves the projection of the commit. -/
theorem Sample.commits {o : PostgresIdrOrchestratorV1} {s t : AuthorityStateV1}
    {i : TransactInputV1}
    (hs : Reachable AuthorityInit (AuthorityStep o) s) (ht : AuthorityStep o s i t)
    (hrun : i.command.runId = runId) (hchange : projection t ≠ projection s) :
    s.admits i ∧ ∃ c, Commits o s.db i c t.db ∧ projection t = c.projection := by
  obtain ⟨hadmits, -, hdb | ⟨c, hc⟩⟩ := authorityStep_cases ht
  · rw [projection, projection, hdb] at hchange
    exact absurd rfl hchange
  · have hruns := runsOk_reachable hs
    obtain ⟨row, hrow, hid, hprojection⟩ := hc.writtenRow hruns hadmits
    have hfound : t.db.run runId = some row := by
      rw [← hrun, ← hid]
      exact (runsOk_reachable (hs.snoc ht)).unique.find?_key.mpr ⟨hrow, rfl⟩
    refine ⟨hadmits, c, hc, ?_⟩
    rw [projection, hfound]
    exact hprojection

end Calls

/-- The delivery of the sample permit rests on a current lineage. -/
theorem effects_flow_from_current_lineage_sample : ∃ s i c e,
    Reachable AuthorityInit (Restrict (@AuthorityStep Sample.shortCrypto Sample.orchestrator)
      fun _ i => isHumanModelWrite i.command.command = false) s ∧
    c.projection.execution = some e ∧ e.state = .permitDelivered ∧
    @Effects Sample.shortCrypto Sample.orchestrator s.db i c e.actionRef ∧
    CurrentLineage s.db c.loaded e.actionRef := by
  let crypto := Sample.shortCrypto
  obtain ⟨s, hs, hdelivers⟩ := Sample.permit_issued Sample.permitDelivery
  have hs : Reachable AuthorityInit (Restrict (AuthorityStep Sample.orchestrator)
      fun _ i => isHumanModelWrite i.command.command = false) s :=
    hs.restrict_mono fun s i h => h.1
  obtain ⟨hissued, hdelivered⟩ := Bool.and_eq_true_iff.mp hdelivers
  obtain ⟨t, ht, hdelivered⟩ := isOkAnd_iff.mp hdelivered
  obtain ⟨e₀, he₀, hissued⟩ := (Option.any_eq_true _ _).mp hissued
  obtain ⟨e, he, hdelivered⟩ := (Option.any_eq_true _ _).mp hdelivered
  rw [decide_eq_true_eq] at hissued hdelivered
  obtain ⟨hcommand, hrun⟩ := Sample.call_command (s.db.commandReceipts.length + 1) 18
    (Sample.envelope (Sample.projection s).aggregateVersion Sample.provider
      (Sample.deliverPermit (Sample.projection s)))
  have hchange : Sample.projection t ≠ Sample.projection s := by
    intro hsame
    rw [hsame, he₀] at he
    obtain rfl := Option.some.inj he
    rw [hissued] at hdelivered
    cases hdelivered
  obtain ⟨hadmits, c, hc, hprojection⟩ := Sample.commits hs.of_restrict ht hrun hchange
  have heffects : Effects Sample.orchestrator s.db _ c e.actionRef :=
    .deliver hcommand (hprojection ▸ he) hdelivered
  exact ⟨s, _, c, e, hs, hprojection ▸ he, hdelivered, heffects,
    effects_flow_from_current_lineage hs hadmits hc heffects⟩

end Idr
