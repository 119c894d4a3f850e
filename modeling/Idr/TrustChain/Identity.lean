/-
Idr/TrustChain/Identity.lean

The identity of records over a whole run.

A record keeps its identifier through its revisions, and the kinds of
records do not share identifiers.  Both issuers derive the identifier from
the current record of the kind, or draw a new one, so this holds by
construction; except that a correction of a human-model assertion takes
its target from the command and never looks at the kind of the target.  A
correction that names a record of another kind issues an assertion under
that record's identifier (`RetypesRecord`).
-/
import Idr.TrustChain.Records

namespace Idr

variable [Crypto]

/-! ### The discipline of identities -/

omit [Crypto] in
/-- Two current records of different kinds have different identifiers. -/
def DistinctRecordIds (p : IdrRunProjectionV1) : Prop :=
  ∀ kind₁ kind₂ ref₁ ref₂, p.records kind₁ = some ref₁ → p.records kind₂ = some ref₂ →
    ref₁.recordId = ref₂.recordId → kind₁ = kind₂

/-- The record is the first of its kind, under an identifier that no record issued before has, or
the next revision of the current one. -/
def FirstOrNext (s₀ : RunStateV1) (is : List RunInputV1) (p : IdrRunProjectionV1)
    (ref : AuthoritativeRecordRefV1) : Prop :=
  p.records ref.candidateKind = none ∧ ref.revision = 1 ∧
      (∀ earlier, Happened RunStep (fun _ s i _ => Issues earlier s i) s₀ is →
        earlier.recordRef.recordId ≠ ref.recordId) ∨
    ∃ last, p.records ref.candidateKind = some last ∧ ref.recordId = last.recordId ∧
      ref.revision = last.revision + 1

/-- **Record identity and revision discipline** of the step `i` after the inputs `is`. -/
structure RecordDiscipline (s₀ : RunStateV1) (is : List RunInputV1) (s : RunStateV1)
    (i : RunInputV1) (t : RunStateV1) : Prop where
  distinct : DistinctRecordIds t.projection
  issued : ∀ record, Issues record s i → FirstOrNext s₀ is s.projection record.recordRef
  corrected : ∀ target correction,
    i.command.command = .correctHumanModelAssertion target correction →
    s.projection.records .humanModelAssertion = some target

omit [Crypto] in
/-- The command corrects a record that is no human-model assertion. -/
def RetypesRecord : IdrCommandV1 → Prop
  | .correctHumanModelAssertion target _ => target.candidateKind ≠ .humanModelAssertion
  | _ => False

instance (c : IdrCommandV1) : Decidable (RetypesRecord c) := by
  unfold RetypesRecord
  split <;> infer_instance

section Runs

variable {s₀ s t : RunStateV1} {is : List RunInputV1} {i : RunInputV1}

omit [Crypto] in
/-- But for such a correction, a record is issued under the next identity of its kind. -/
theorem RecordIdentity.nextRecord {fresh : FreshIdsV1} {p : IdrRunProjectionV1} {c : IdrCommandV1}
    {ref : AuthoritativeRecordRefV1} (h : RecordIdentity fresh p c ref) (hc : ¬ RetypesRecord c) :
    NextRecord p ref.candidateKind fresh.recordId ref := by
  cases h with
  | next _ hnext =>
    rw [hnext.1]
    exact hnext
  | correction hcommand hcurrent hkind hid hrevision =>
    rw [hcommand, RetypesRecord, not_not] at hc
    rw [hc] at hcurrent
    refine ⟨rfl, ?_⟩
    rw [hkind, hcurrent]
    exact ⟨hid, hrevision⟩

/-- What a run keeps of its identifiers: the current records have different ones, and every one in
use has been drawn. -/
structure IdentityInv (s₀ : RunStateV1) (is : List RunInputV1) (s : RunStateV1) : Prop where
  kinded : RecordsKinded s.projection
  distinct : DistinctRecordIds s.projection
  current : ∀ kind ref, s.projection.records kind = some ref → ref.recordId ∈ s.drawn
  issued : ∀ record, Happened RunStep (fun _ s i _ => Issues record s i) s₀ is →
    record.recordRef.recordId ∈ s.drawn

/-- A record drawn anew, or under the identifier of the current record of its kind. -/
theorem NextRecord.distinct {ref : AuthoritativeRecordRefV1} (h : IdentityInv s₀ is s)
    (hnext : NextRecord s.projection ref.candidateKind i.fresh.recordId ref)
    (hfresh : i.fresh.recordId ∉ s.drawn) (kind : CandidateKindV1)
    (other : AuthoritativeRecordRefV1) (hother : s.projection.records kind = some other)
    (hid : other.recordId = ref.recordId) : kind = ref.candidateKind := by
  have hids := hnext.2
  rcases hcurrent : s.projection.records ref.candidateKind with _ | last
  · rw [hcurrent] at hids
    exact absurd (hids.1 ▸ hid ▸ h.current kind other hother) hfresh
  · rw [hcurrent] at hids
    exact h.distinct kind ref.candidateKind other last hother hcurrent (hid.trans hids.1)

/-- **What one step does to the identifiers.** -/
theorem identityInv_step (hrun : Run RunStep s₀ is s) (h : IdentityInv s₀ is s)
    (hstep : RunStep s i t) (hc : ¬ RetypesRecord i.command.command) :
    IdentityInv s₀ (is ++ [i]) t := by
  obtain ⟨henv, -, hdrawn, transition, htransition, ht⟩ := runStep_eq_ok hstep
  obtain ⟨issued, hrecords, hissued⟩ := runStep_records hstep
  have hfresh : i.fresh.recordId ∉ s.drawn := by
    have hnew := henv.2.2
    simp only [FreshIdsV1.ids, List.all_cons, Bool.and_eq_true, Bool.not_eq_true',
      List.contains_eq_mem, decide_eq_false_iff_not] at hnew
    exact hnew.1
  have hnext : ∀ record, issued = some record →
      NextRecord s.projection record.recordRef.candidateKind i.fresh.recordId record.recordRef :=
    fun record hrecord => ((hissued record).2 hrecord).2.1.nextRecord hc
  -- the identifier of an issued record is drawn now, or was in use
  have hids : ∀ record, issued = some record → record.recordRef.recordId ∈ t.drawn := by
    intro record hrecord
    rw [hdrawn, List.mem_append]
    have hids := (hnext record hrecord).2
    rcases hcurrent : s.projection.records record.recordRef.candidateKind with _ | last
    · rw [hcurrent] at hids
      exact .inl (by simp [hids.1, FreshIdsV1.ids])
    · rw [hcurrent] at hids
      exact .inr (hids.1 ▸ h.current _ last hcurrent)
  have hbefore : ∀ {id}, id ∈ s.drawn → id ∈ t.drawn := by
    intro id hid
    rw [hdrawn]
    exact List.mem_append_right _ hid
  refine {
    kinded := ht ▸ recordsKinded_step h.kinded (runTransition_records htransition).1
    distinct := ?_
    current := ?_
    issued := ?_ }
  · intro kind₁ kind₂ ref₁ ref₂ href₁ href₂ hid
    rw [hrecords] at href₁ href₂
    rcases issued with _ | record
    · exact h.distinct kind₁ kind₂ ref₁ ref₂ href₁ href₂ hid
    · have hother := (hnext record rfl).distinct h hfresh
      by_cases hkind₁ : kind₁ = record.recordRef.candidateKind <;>
        by_cases hkind₂ : kind₂ = record.recordRef.candidateKind
      · exact hkind₁.trans hkind₂.symm
      · subst hkind₁
        rw [insertRecord_self] at href₁
        rw [insertRecord_of_ne hkind₂] at href₂
        obtain rfl := Option.some.inj href₁
        exact (hother _ _ href₂ hid.symm).symm
      · subst hkind₂
        rw [insertRecord_self] at href₂
        rw [insertRecord_of_ne hkind₁] at href₁
        obtain rfl := Option.some.inj href₂
        exact hother _ _ href₁ hid
      · rw [insertRecord_of_ne hkind₁] at href₁
        rw [insertRecord_of_ne hkind₂] at href₂
        exact h.distinct kind₁ kind₂ ref₁ ref₂ href₁ href₂ hid
  · intro kind ref href
    rw [hrecords] at href
    rcases issued with _ | record
    · exact hbefore (h.current kind ref href)
    · by_cases hkind : kind = record.recordRef.candidateKind
      · subst hkind
        rw [insertRecord_self] at href
        exact Option.some.inj href ▸ hids record rfl
      · rw [insertRecord_of_ne hkind] at href
        exact hbefore (h.current kind ref href)
  · intro record hhappened
    rcases hhappened.of_snoc runStep_deterministic hrun hstep with hearlier | hnow
    · exact hbefore (h.issued record hearlier)
    · exact hids record ((hissued record).1.mpr hnow)

theorem identityInv_run (h₀ : RunInit s₀)
    (hrun : Run (Restrict RunStep fun _ i => ¬ RetypesRecord i.command.command) s₀ is s) :
    IdentityInv s₀ is s := by
  refine hrun.history (P := IdentityInv s₀) ?_ ?_
  · -- a pending run has no records, and nothing has happened
    obtain ⟨trustDomain, environmentRef, runId, tenantRef, hs⟩ := h₀
    refine {
      kinded := ?_
      distinct := ?_
      current := ?_
      issued := ?_ }
    · intro kind ref href
      rw [hs] at href
      cases href
    · intro kind₁ kind₂ ref₁ ref₂ href₁
      rw [hs] at href₁
      cases href₁
    · intro kind ref href
      rw [hs] at href
      cases href
    · rintro record ⟨js, j, ks, u, v, hnil, -⟩
      exact absurd hnil (by simp)
  · intro js u i v hjs h hstep
    exact identityInv_step hjs.of_restrict h hstep.2 hstep.1

/-- An accepted correction names a current record of the kind it says. -/
theorem correction_target (hstep : RunStep s i t) {target : AuthoritativeRecordRefV1}
    {correction : CandidateSubmissionV1}
    (hc : i.command.command = .correctHumanModelAssertion target correction) :
    s.projection.records target.candidateKind = some target := by
  obtain ⟨-, -, -, transition, htransition, -⟩ := runStep_eq_ok hstep
  have hrevokes : i.revokes = false := by simp [RunInputV1.revokes, hc, reverifiesAdmission]
  obtain ⟨r, closure, hr, -⟩ := runTransition_evaluates hrevokes htransition
  simp only [evaluateCommand, hc, evaluateCorrectHumanModelAssertion, bind_eq_ok,
    exists_unit_eq_ok] at hr
  exact (requireExactGovernanceTarget_eq_ok.mp hr.1).1

/-- **Identifiers and revisions.** As long as no correction re-types a record, the discipline holds;
and a step breaks it exactly when it is such a correction. -/
theorem record_discipline (h₀ : RunInit s₀)
    (hrun : Run (Restrict RunStep fun _ i => ¬ RetypesRecord i.command.command) s₀ is s)
    (hstep : RunStep s i t) :
    RecordDiscipline s₀ is s i t ↔ ¬ RetypesRecord i.command.command := by
  have hinv := identityInv_run h₀ hrun
  constructor
  · intro hdiscipline hretypes
    unfold RetypesRecord at hretypes
    split at hretypes
    case h_1 target correction hc =>
      -- the current assertion is of that kind
      exact hretypes (hinv.kinded _ _ (hdiscipline.corrected target correction hc))
    case h_2 => exact hretypes
  · intro hc
    refine {
      distinct := (identityInv_step hrun.of_restrict hinv hstep hc).distinct
      issued := ?_
      corrected := ?_ }
    · intro record hissues
      obtain ⟨issued, -, hissued⟩ := runStep_records hstep
      obtain ⟨-, hidentity, -⟩ := (hissued record).2 ((hissued record).1.mpr hissues)
      have hnext := (hidentity.nextRecord hc).2
      rcases hcurrent : s.projection.records record.recordRef.candidateKind with _ | last <;>
        rw [hcurrent] at hnext
      · refine .inl ⟨hcurrent, hnext.2, fun earlier hearlier hsame => ?_⟩
        -- every identifier in use has been drawn, and this one is new
        have hdrawn := hinv.issued earlier hearlier
        rw [hsame, hnext.1] at hdrawn
        have hnew := (runStep_eq_ok hstep).1.2.2
        simp [FreshIdsV1.ids, hdrawn] at hnew
      · exact .inr ⟨last, hcurrent, hnext⟩
    · intro target correction hcommand
      rw [hcommand, RetypesRecord, not_not] at hc
      exact hc ▸ correction_target hstep hcommand

end Runs

/-! ### The sample run -/

omit [Crypto]

/-- The recorded action can be corrected as if it were an assertion; and it can be admitted. -/
def Sample.correctsAction (s : RunStateV1) : Bool :=
  isOkAnd (@runStep crypto s
      (input 16 owner (correctAssertion (current · .action)) noClosure s)) (fun _ => true) &&
    isOkAnd (@runStep crypto s (input 16 owner admitAction noClosure s)) (fun _ => true) &&
    decide ((current s.projection .action).candidateKind = .action)

set_option maxRecDepth 10000 in
def Sample.actionRecorded :
    RunScript (fun _ i => ¬ RetypesRecord i.command.command) correctsAction where
  inputs := toPermit.take 6
  leads := by decide +kernel

/-- The sample run up to the admission of its action keeps the discipline. -/
theorem record_discipline_sample : ∃ is s i t,
    @RunStep Sample.crypto s i t ∧ @RecordDiscipline Sample.crypto Sample.init is s i t := by
  obtain ⟨s, is, hrun, h⟩ := Sample.actionRecorded.run
  simp only [Sample.correctsAction, Bool.and_eq_true, isOkAnd_iff] at h
  obtain ⟨⟨-, t, ht, -⟩, -⟩ := h
  exact ⟨is, s, _, t, ht,
    (@record_discipline Sample.crypto _ _ _ _ _ Sample.runInit_init hrun ht).mpr not_false⟩

/-- A run need not keep it: the action of the sample run is re-typed. -/
theorem record_retyped :
    ¬ ∀ s₀ is s i t, RunInit s₀ → @Run _ _ (@RunStep Sample.crypto) s₀ is s →
      @RunStep Sample.crypto s i t → @RecordDiscipline Sample.crypto s₀ is s i t := by
  intro hdiscipline
  obtain ⟨s, is, hrun, h⟩ := Sample.actionRecorded.run
  simp only [Sample.correctsAction, Bool.and_eq_true, isOkAnd_iff, decide_eq_true_eq] at h
  obtain ⟨⟨⟨t, ht, -⟩, -⟩, hkind⟩ := h
  apply (@record_discipline Sample.crypto _ _ _ _ _ Sample.runInit_init hrun ht).mp
    (hdiscipline _ is s _ t Sample.runInit_init hrun.of_restrict ht)
  show (Sample.current s.projection .action).candidateKind ≠ .humanModelAssertion
  rw [hkind]
  simp

end Idr
