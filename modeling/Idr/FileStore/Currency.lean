/-
Idr/FileStore/Currency.lean

Current records rest on current records.

A commit invalidates what depends on the revision it replaces, while its
own dependencies were checked before that.  So a revision that rests on
something built on its own previous revision stays current on withdrawn
ground (`Undermines`), and no other commit does
(`currentRestsOnCurrent_commit`).
-/
import Idr.FileStore.Transition

namespace Idr

open HumanCenteredContractRefV1

/-- **Current records rest on current records.** -/
def CurrentRestsOnCurrent (s : HumanCenteredStoreSnapshotV1) [Crypto] [FloatText] : Prop :=
  ∀ p, s.isCurrent p = true → ∀ record, findRecord s.records p = some record →
    ∀ d ∈ record.metadata.dependencyRefs, s.isCurrent d = true

section Currency

variable [Crypto] [FloatText]
variable {current candidate : HumanCenteredStoreSnapshotV1} {clock : Option Nat}
  {call : StoreCallV1}
variable {contract : HumanCenteredContractSnapshotV1} {reference : HumanCenteredContractRefV1}
variable {receiptProof : Option (SignedProofEnvelopeV1 × Nat)}
variable {refs : List HumanCenteredContractRefV1}

omit [Crypto] [FloatText] in
/-- What it means that a contract is current. -/
theorem isCurrent_iff {s : HumanCenteredStoreSnapshotV1} {r : HumanCenteredContractRefV1} :
    s.isCurrent r = true ↔ r ∈ s.currentPointers ∧ r ∉ s.invalidatedRefs := by
  rw [← Bool.not_eq_false, isCurrent_eq_false_iff, not_or, not_not]

/-- **The revision undermines itself**: it depends on the revision it replaces, or on something that
is withdrawn with that. -/
def Undermines (s : HumanCenteredStoreSnapshotV1) (contract : HumanCenteredContractSnapshotV1)
    (reference : HumanCenteredContractRefV1) : Prop :=
  ∃ stale, previousPointer s.currentPointers reference = some stale ∧
    ∃ d ∈ contract.metadata.dependencyRefs,
      d = stale ∨ InvalidatedWith s.records s.currentPointers s.invalidatedRefs stale d

/-! ### One commit -/

/-- No record depends on itself. -/
theorem not_mem_dependencyRefs {record : HumanCenteredContractSnapshotV1}
    {r : HumanCenteredContractRefV1} (h : record.recordRef = .ok r) :
    r ∉ record.metadata.dependencyRefs := by
  intro hmem
  obtain ⟨hvalid, rfl, -⟩ := HumanCenteredContractSnapshotV1.recordRef_eq_ok.mp h
  have hmetadata := HumanCenteredContractSnapshotV1.checkKind_of_validate hvalid
  obtain ⟨-, -, -, hdependencies⟩ := HumanCenteredContractMetadataV1.validate_eq_ok hmetadata.1
  exact absurd ((hdependencies _ hmem).2 rfl) (Nat.lt_irrefl _)

/-- What is current after a commit: the contract, and what was current before, is of another
contract and is not withdrawn with the revision that is replaced. -/
structure CurrentAfter (current candidate : HumanCenteredStoreSnapshotV1)
    (contract : HumanCenteredContractSnapshotV1) (reference : HumanCenteredContractRefV1) :
    Prop where
  records : candidate.records = current.records ++ [contract]
  isCurrent : ∀ r, candidate.isCurrent r = true ↔ r = reference ∨
    (current.isCurrent r = true ∧ r.sameContract reference = false ∧
      ∀ stale, previousPointer current.currentPointers reference = some stale →
        ¬ InvalidatedWith current.records current.currentPointers current.invalidatedRefs stale r)

theorem currentAfter_of_commitChecked (hs : Accepted current refs) (hnew : reference ∉ refs)
    (h : commitChecked current contract reference receiptProof = .ok candidate) :
    CurrentAfter current candidate contract reference := by
  obtain ⟨-, withdrawn, settled, hwithdrawn, hsettled, rfl⟩ := commitChecked_eq_ok.mp h
  have hfrom := withdrawnFrom_of_withdrawPrevious hwithdrawn
  have hsame := (settleReceipt_eq_ok hsettled).1
  have hinvalidated : ∀ r, r ∈ withdrawn.invalidatedRefs ↔ r ∈ current.invalidatedRefs ∨
      ∃ stale, previousPointer current.currentPointers reference = some stale ∧
        InvalidatedWith current.records current.currentPointers current.invalidatedRefs stale
          r := by
    intro r
    rcases hprevious : previousPointer current.currentPointers reference with _ | stale
    · rw [hprevious] at hwithdrawn
      rw [← Except.ok.inj hwithdrawn]
      simp
    · rw [hprevious] at hwithdrawn
      rw [mem_invalidatedRefs_of_invalidateDependents hwithdrawn]
      simp
  constructor
  · rw [hsame]
    show withdrawn.records ++ [contract] = _
    rw [hfrom.records]
  · intro r
    rw [isCurrent_iff, isCurrent_iff, hsame]
    show r ∈ replacePointer withdrawn.currentPointers reference ∧ r ∉ withdrawn.invalidatedRefs ↔ _
    rw [hfrom.pointers, mem_replacePointer, hinvalidated, not_or, not_exists]
    constructor
    · rintro ⟨rfl | ⟨hmem, hother⟩, hnot, hkept⟩
      · exact .inl rfl
      · exact .inr ⟨⟨hmem, hnot⟩, hother, fun stale hstale hinv => hkept stale ⟨hstale, hinv⟩⟩
    · rintro (rfl | ⟨⟨hmem, hnot⟩, hother, hkept⟩)
      · -- what is new was not invalidated, and is not withdrawn
        refine ⟨.inl rfl, fun hold => hnew (hs.invalidated r hold).2, ?_⟩
        rintro stale ⟨-, hinv⟩
        exact hnew (hs.mem_refs_of_pointer hinv.mem_pointers)
      · exact ⟨.inr ⟨hmem, hother⟩, hnot, fun stale hstale => hkept stale hstale.1 hstale.2⟩

/-- **A commit keeps current records on current records exactly when it does not undermine
itself.** -/
theorem currentRestsOnCurrent_commit (hs : Accepted current refs) (hnew : reference ∉ refs)
    (href : contract.recordRef = .ok reference)
    (h : commitChecked current contract reference receiptProof = .ok candidate)
    (hrests : CurrentRestsOnCurrent current) :
    CurrentRestsOnCurrent candidate ↔ ¬ Undermines current contract reference := by
  have hafter := currentAfter_of_commitChecked hs hnew h
  have hchecked := (commitChecked_eq_ok.mp h).1
  -- the dependencies of the contract are current before
  have hdependencies : ∀ d ∈ contract.metadata.dependencyRefs, current.isCurrent d = true := by
    intro d hd
    have hok := checkDependency_eq_ok.mp (hchecked.dependencies d hd)
    exact isCurrent_iff.mpr ⟨(previousPointer_some hok.1).1, hok.2.1⟩
  constructor
  · rintro hafterRests ⟨stale, hstale, d, hd, hwithdrawn⟩
    have hfound : findRecord candidate.records reference = some contract := by
      rw [hafter.records]
      exact hs.refsOf.findRecord_concat hnew href
    have hcurrent :=
      hafterRests reference ((hafter.isCurrent reference).mpr (.inl rfl)) contract hfound
      d hd
    rcases (hafter.isCurrent d).mp hcurrent with rfl | ⟨-, hother, hkept⟩
    · exact not_mem_dependencyRefs href hd
    · rcases hwithdrawn with rfl | hinv
      · rw [(previousPointer_some hstale).2] at hother
        cases hother
      · exact hkept stale hstale hinv
  · intro hnot p hp record hfound d hd
    -- a dependency of the contract of the revision that is replaced is that revision
    have hstale : current.isCurrent d = true → d.sameContract reference = true →
        previousPointer current.currentPointers reference = some d := fun hcurrent hsame =>
      hs.one.previousPointer_eq_some.mpr ⟨(isCurrent_iff.mp hcurrent).1, hsame⟩
    rw [hafter.records] at hfound
    refine (hafter.isCurrent d).mpr (.inr ?_)
    rcases (hafter.isCurrent p).mp hp with rfl | ⟨hcurrent, hother, hkept⟩
    · rw [hs.refsOf.findRecord_concat hnew href] at hfound
      obtain rfl := Option.some.inj hfound
      refine ⟨hdependencies d hd, ?_, fun stale hprevious hinv =>
        hnot ⟨stale, hprevious, d, hd, .inr hinv⟩⟩
      rw [← Bool.not_eq_true]
      intro hsame
      exact hnot ⟨d, hstale (hdependencies d hd) hsame, d, hd, .inl rfl⟩
    · -- a record that was current depends on what was current, and is withdrawn with it
      obtain ⟨hpointer, hvalid⟩ := isCurrent_iff.mp hcurrent
      obtain ⟨record', hfound'⟩ := Option.isSome_iff_exists.mp (hs.pointer_recorded hpointer)
      rw [findRecord_append hfound'] at hfound
      obtain rfl := Option.some.inj hfound
      have hbefore := hrests p hcurrent record' hfound' d hd
      have hdepends : p ≠ d → DependsOn current.records d p := by
        intro hne
        refine ⟨?_, record', hfound', hd⟩
        rw [← Bool.not_eq_true]
        exact fun hsame =>
          hne (hs.one.eq_of_sameContract hpointer (isCurrent_iff.mp hbefore).1 hsame)
      have hne : p ≠ d := by
        rintro rfl
        exact not_mem_dependencyRefs (findRecord_some hfound').2 hd
      refine ⟨hbefore, ?_, fun stale hprevious hinv => ?_⟩
      · rw [← Bool.not_eq_true]
        intro hsame
        exact hkept d (hstale hbefore hsame) (.direct hpointer hvalid (hdepends hne))
      · exact hkept stale hprevious (.next hinv hpointer hvalid (hdepends hne))

/-! ### Runs -/

/-- The input commits a revision that undermines itself, and it passes the checks of a commit. -/
def UnderminingCommit (s : FileStoreStateV1) (i : StoreInputV1) : Prop :=
  i.persisted = true ∧ ∃ contract receiptProof reference,
    CommitCall i.call contract receiptProof ∧ contract.recordRef = .ok reference ∧
    s.snapshot.records.any (·.isAt reference) = false ∧
    CommitChecked s.snapshot contract reference ∧ Undermines s.snapshot contract reference

theorem currentRestsOnCurrent_congr (s t : HumanCenteredStoreSnapshotV1)
    (hrecords : s.records = t.records)
    (hpointers : s.currentPointers = t.currentPointers)
    (hinvalidated : s.invalidatedRefs = t.invalidatedRefs)
    (_ : s.executionReservations = t.executionReservations) (h : CurrentRestsOnCurrent s) :
    CurrentRestsOnCurrent t := by
  intro p hp record hfound d hd
  have hsame : ∀ r, s.isCurrent r = t.isCurrent r := by
    intro r
    unfold HumanCenteredStoreSnapshotV1.isCurrent
    rw [hpointers, hinvalidated]
  rw [← hsame] at hp ⊢
  rw [← hrecords] at hfound
  exact h p hp record hfound d hd

theorem StoreChange.currentRestsOnCurrent {s : FileStoreStateV1} {i : StoreInputV1}
    (hs : validateSnapshot s.snapshot = .ok ()) (hrests : CurrentRestsOnCurrent s.snapshot)
    (hpersisted : i.persisted = true) (hnot : ¬ UnderminingCommit s i)
    (h : StoreChange s.snapshot i.clock i.call candidate) : CurrentRestsOnCurrent candidate := by
  generalize hcall : i.call = call at h
  cases h with
  | commit hcommit href hproof hnew hchecked =>
    obtain ⟨refs, hs⟩ := validateSnapshot_eq_ok.mp hs
    have hmem : _ ∉ refs := fun hmem => by
      rw [hs.refsOf.any_isAt.mpr hmem] at hnew
      cases hnew
    refine (currentRestsOnCurrent_commit hs hmem href hchecked hrests).mpr fun hundermines => ?_
    exact hnot ⟨hpersisted, _, _, _, hcall ▸ hcommit, href, hnew,
      (commitChecked_eq_ok.mp hchecked).1, hundermines⟩
  | _ => exact currentRestsOnCurrent_congr _ _ rfl rfl rfl rfl hrests

/-- **Current records rest on current records**, over every run in which no commit undermines
itself; and a commit that does breaks it. -/
theorem current_rests_on_current {s : FileStoreStateV1}
    (h : Reachable FileStoreInit (Restrict FileStoreStep fun s i => ¬ UnderminingCommit s i) s) :
    CurrentRestsOnCurrent s.snapshot ∧
    ∀ contract receiptProof reference candidate, contract.recordRef = .ok reference →
      s.snapshot.records.any (·.isAt reference) = false →
      commitChecked s.snapshot contract reference receiptProof = .ok candidate →
      (CurrentRestsOnCurrent candidate ↔ ¬ Undermines s.snapshot contract reference) := by
  have hrests : CurrentRestsOnCurrent s.snapshot := by
    refine Reachable.invariant_with (P := fun s => CurrentRestsOnCurrent s.snapshot) ?_ ?_ h
    · rintro s ⟨hempty, -⟩ p hp
      rw [hempty] at hp
      cases hp
    · rintro s i t hreach hs ⟨hnot, hstep⟩
      rw [hstep.2.1]
      exact StoreInputV1.next_preserves currentRestsOnCurrent_congr hs
        fun candidate hpersisted hchange =>
        hchange.currentRestsOnCurrent (valid_of_reachable hreach.of_restrict) hs hpersisted hnot
  refine ⟨hrests, ?_⟩
  intro contract receiptProof reference candidate href hnew hchecked
  obtain ⟨refs, hs⟩ := validateSnapshot_eq_ok.mp (valid_of_reachable h.of_restrict)
  refine currentRestsOnCurrent_commit hs ?_ href hchecked hrests
  intro hmem
  rw [hs.refsOf.any_isAt.mpr hmem] at hnew
  cases hnew

end Currency

/-! ### A revision on its own previous revision

The second intent of the sample depends on the first, and the revision of the first on the
second. -/

namespace StoreSample

section Contracts

variable [Crypto] [FloatText]

def intents : List (Nat × StoreCallV1) := [(10, .commit first), (11, .commit second)]

/-- The call commits the first revision of a contract. -/
def commitsNew (s : HumanCenteredStoreSnapshotV1) (i : StoreInputV1) : Bool :=
  match i.call with
  | .commit contract => isOkAnd contract.recordRef fun reference =>
      (previousPointer s.currentPointers reference).isNone
  | _ => false

theorem not_underminingCommit {s : FileStoreStateV1} {i : StoreInputV1}
    (h : commitsNew s.snapshot i = true) : ¬ UnderminingCommit s i := by
  rintro ⟨-, contract, receiptProof, reference, hcall, href, -, -, stale, hstale, -⟩
  unfold commitsNew at h
  generalize i.call = call at h hcall
  cases hcall with
  | contract =>
    obtain ⟨reference', href', hnone⟩ := isOkAnd_iff.mp h
    obtain rfl := Except.ok.inj (href.symm.trans href')
    rw [hstale] at hnone
    cases hnone
  | receipt => cases h

/-- The two intents are committed, each is current, and the second depends on the first. -/
def intentsStored : Bool :=
  allowedAll commitsNew .empty intents && (storedAll .empty intents).any fun last =>
    last.isCurrent (refOf second) && decide (findRecord last.records (refOf second) = some second)
      && decide (refOf first ∈ second.metadata.dependencyRefs)

/-- The revision is current, and the second intent, on which it rests, is invalidated. -/
def restsOnWithdrawn : Bool :=
  (storedAll .empty (intents ++ [(12, .commit revised)])).any fun last =>
    last.isCurrent (refOf revised) &&
    decide (findRecord last.records (refOf revised) = some revised)
      && decide (refOf second ∈ revised.metadata.dependencyRefs) && !last.isCurrent (refOf second)

end Contracts

set_option maxRecDepth 20000 in
theorem intents_scripts : @intentsStored Sample.crypto floatText = true ∧
    @restsOnWithdrawn Sample.crypto floatText = true :=
  ⟨by decide +kernel, by decide +kernel⟩

end StoreSample

/-- The revision of the sample is current, and rests on an intent that is invalidated with the
revision it replaces. -/
theorem current_rests_on_withdrawn : let _ := Sample.crypto
    let _ := StoreSample.floatText
    ∃ s, Reachable FileStoreInit FileStoreStep s ∧
      s.snapshot.isCurrent (StoreSample.refOf StoreSample.revised) = true ∧
      ¬ CurrentRestsOnCurrent s.snapshot := by
  intro crypto floatText
  have hsample := StoreSample.intents_scripts.2
  obtain ⟨last, hlast, hsample⟩ := (Option.any_eq_true _ _).mp hsample
  simp only [Bool.and_eq_true, decide_eq_true_eq, Bool.not_eq_true'] at hsample
  obtain ⟨⟨⟨hcurrent, hfound⟩, hdependency⟩, hwithdrawn⟩ := hsample
  have hrun := StoreSample.run_of_storedAll 0 _ hlast (by decide)
  refine ⟨_, ⟨_, _, ⟨rfl, rfl⟩, hrun⟩, hcurrent, fun hrests => ?_⟩
  have hstill := hrests _ hcurrent _ hfound _ hdependency
  change last.isCurrent _ = true at hstill
  rw [hwithdrawn] at hstill
  cases hstill

/-- The second intent of the sample is current, and rests on the first, which is current. -/
theorem current_rests_on_current_sample : let _ := Sample.crypto
    let _ := StoreSample.floatText
    ∃ s, Reachable FileStoreInit
        (Restrict FileStoreStep fun s i => ¬ UnderminingCommit s i) s ∧
      s.snapshot.isCurrent (StoreSample.refOf StoreSample.second) = true ∧
      s.snapshot.isCurrent (StoreSample.refOf StoreSample.first) = true := by
  intro crypto floatText
  have hsample := StoreSample.intents_scripts.1
  obtain ⟨hallowed, hsample⟩ := Bool.and_eq_true_iff.mp hsample
  obtain ⟨last, hlast, hsample⟩ := (Option.any_eq_true _ _).mp hsample
  simp only [Bool.and_eq_true, decide_eq_true_eq] at hsample
  obtain ⟨⟨hcurrent, hfound⟩, hdependency⟩ := hsample
  have hrun := StoreSample.run_of_allowedAll 0 _ hlast hallowed (by decide)
  have hreach : Reachable FileStoreInit
      (Restrict FileStoreStep fun s i => ¬ UnderminingCommit s i) _ :=
    ⟨_, _, ⟨rfl, rfl⟩, hrun.mono fun s i t hstep =>
      ⟨StoreSample.not_underminingCommit hstep.1, hstep.2⟩⟩
  exact ⟨_, hreach, hcurrent,
    (current_rests_on_current hreach).1 _ hcurrent _ hfound _ hdependency⟩

end Idr
