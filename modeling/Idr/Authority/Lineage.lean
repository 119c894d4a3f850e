/-
Idr/Authority/Lineage.lean

The graph of the stored records.

A record is stored under its identifier and its revision.  An edge leads
from a dependency to its dependent: either to a record of a later kind, or
from one revision of a record to the next (`Precedes`).  So along a path
the kinds do not go back, and between records of one kind the revisions
count up (`Spreads.precedes`).  The revisions of a record form a chain,
whose last is the current one of its kind and run (`LineageOk`).

A correction could give a record another kind.  But the edge from the record
that it corrects is also the edge from the revision before, and is inserted
twice, so that no correction is ever committed (`Commits.not_correction`).
-/
import Idr.Authority.Refinement
import Idr.TrustChain.Basis

namespace Idr

/-! ### Keys and edges -/

/-- Where a record is stored. -/
def AuthoritativeRecordRefV1.key (self : AuthoritativeRecordRefV1) : Uuid × Nat :=
  (self.recordId, self.revision)

def ContractRow.key (row : ContractRow) : Uuid × Nat := (row.recordId, row.revision)

theorem ContractRow.recordRef_key (row : ContractRow) : row.recordRef.key = row.key := rfl

/-- The invalidation of one record spreads to the other. -/
def Spreads (db : DatabaseV1) : Uuid × Nat → Uuid × Nat → Prop :=
  Relation.ReflTransGen (Edge (dependentEdges db))

/-- One row comes before the other in the lineage of a run: it is of an earlier kind, which for an
admission is the action, or it is the revision before. -/
def Precedes (y x : ContractRow) : Prop :=
  y.runId = x.runId ∧
    (y.candidateKind.rank < x.candidateKind.rank ∧
        (x.candidateKind = .actionAdmissionDecision → y.candidateKind = .action) ∨
      y.candidateKind = x.candidateKind ∧ y.recordId = x.recordId ∧ x.revision = y.revision + 1)

/-- **The stored records and their edges.** -/
structure LineageOk (s : AuthorityStateV1) : Prop where
  keys : UniqueBy ContractRow.key s.db.contractRecords
  drawn : ∀ c ∈ s.db.contractRecords, c.recordId ∈ s.drawn
  /-- A stored record is a revision of the current one of its kind and run. -/
  current : ∀ c ∈ s.db.contractRecords, ∃ row ∈ s.db.runs, row.runId = c.runId ∧
    ∃ ref, row.projection.records c.candidateKind = some ref ∧ ref.recordId = c.recordId ∧
      c.revision ≤ ref.revision
  stored : ∀ row ∈ s.db.runs, ∀ kind ref, row.projection.records kind = some ref →
    ∃ c ∈ s.db.contractRecords, c.recordRef = ref ∧ c.runId = row.runId
  edges : ∀ y x, Edge (dependentEdges s.db) y x →
    ∃ cy ∈ s.db.contractRecords, ∃ cx ∈ s.db.contractRecords, cy.key = y ∧ cx.key = x ∧
      Precedes cy cx
  chained : ∀ c ∈ s.db.contractRecords, c.revision = 1 ∨
    ∃ n, c.revision = n + 1 ∧ 1 ≤ n ∧ Edge (dependentEdges s.db) (c.recordId, n) c.key

theorem mem_dependentEdges {db : DatabaseV1} {y x : Uuid × Nat} :
    Edge (dependentEdges db) y x ↔ ∃ d ∈ db.contractDependencies,
      (d.dependencyRecordId, d.dependencyRevision) = y ∧
        (d.dependentRecordId, d.dependentRevision) = x := by
  simp [Edge, dependentEdges]

section Paths

variable {s : AuthorityStateV1} (h : LineageOk s)

include h

/-- **Along a path** the kinds do not go back, and within a kind the revisions count up. -/
theorem Spreads.precedes {y x : Uuid × Nat} (hpath : Spreads s.db y x) {cy cx : ContractRow}
    (hcy : cy ∈ s.db.contractRecords) (hcx : cx ∈ s.db.contractRecords) (hy : cy.key = y)
    (hx : cx.key = x) :
    cy.candidateKind.rank < cx.candidateKind.rank ∨
      cy.candidateKind = cx.candidateKind ∧ cy.recordId = cx.recordId ∧
        cy.revision ≤ cx.revision := by
  induction hpath generalizing cx with
  | refl =>
    obtain rfl := h.keys.eq hcy hcx (hy.trans hx.symm)
    exact .inr ⟨rfl, rfl, Nat.le_refl _⟩
  | tail _ hedge ih =>
    obtain ⟨cz, hcz, cx', hcx', hz, hx', -, hprecedes⟩ := h.edges _ _ hedge
    obtain rfl := h.keys.eq hcx hcx' (hx.trans hx'.symm)
    have hbefore := ih hcz hz
    rcases hprecedes with ⟨hlt, -⟩ | ⟨hkind, hid, hrevision⟩
    · rcases hbefore with hbefore | ⟨hkind, -⟩
      · exact .inl (hbefore.trans hlt)
      · exact .inl (hkind ▸ hlt)
    · rcases hbefore with hbefore | ⟨hkind', hid', hle⟩
      · exact .inl (hkind ▸ hbefore)
      · exact .inr ⟨hkind'.trans hkind, hid'.trans hid, by omega⟩

/-- The invalidation of a revision spreads to every later one. -/
theorem LineageOk.chain {cy : ContractRow} (hcy : cy ∈ s.db.contractRecords) (n : Nat) :
    ∀ cx ∈ s.db.contractRecords, cx.recordId = cy.recordId → cx.revision = cy.revision + n →
      Spreads s.db cy.key cx.key := by
  induction n with
  | zero =>
    intro cx hcx hid hrevision
    have hkey : cx.key = cy.key := by
      rw [ContractRow.key, ContractRow.key, hid, hrevision, Nat.add_zero]
    rw [hkey]
    exact .refl
  | succ n ih =>
    intro cx hcx hid hrevision
    rcases h.chained cx hcx with hone | ⟨m, hm, -, hedge⟩
    · -- the first revision is no later one
      rcases h.chained cy hcy with hone' | ⟨m, hm, -⟩ <;> omega
    · obtain ⟨cz, hcz, -, -, hz, -⟩ := h.edges _ _ hedge
      have hcz' : cz.recordId = cx.recordId ∧ cz.revision = m := Prod.mk.inj hz
      refine (ih cz hcz (hcz'.1.trans hid) (by omega)).tail ?_
      rw [hz]
      exact hedge

/-- What spreads to an admission spreads to the current action of its run, unless it is an admission
itself. -/
theorem LineageOk.admission {root : ContractRow} (hroot : root ∈ s.db.contractRecords)
    (hkind : root.candidateKind ≠ .actionAdmissionDecision) {row : RunRow} (hrow : row ∈ s.db.runs)
    (hunique : UniqueBy RunRow.runId s.db.runs) {action : AuthoritativeRecordRefV1}
    (haction : row.projection.records .action = some action) {x : Uuid × Nat}
    (hpath : Spreads s.db root.key x) : ∀ cx ∈ s.db.contractRecords, cx.key = x →
      cx.runId = row.runId → cx.candidateKind = .actionAdmissionDecision →
        Spreads s.db root.key action.key := by
  induction hpath with
  | refl =>
    intro cx hcx hx _ hadmission
    obtain rfl := h.keys.eq hcx hroot hx
    exact absurd hadmission hkind
  | @tail z x hbefore hedge ih =>
    intro cx hcx hx hrun hadmission
    obtain ⟨cz, hcz, cx', hcx', hz, hx', hrun', hprecedes⟩ := h.edges _ _ hedge
    obtain rfl := h.keys.eq hcx hcx' (hx.trans hx'.symm)
    rcases hprecedes with ⟨-, hkinds⟩ | ⟨hsame, -, -⟩
    · -- the action before the admission is a revision of the current one
      obtain ⟨row', hrow', hrowId, ref, href, hid, hle⟩ := h.current cz hcz
      obtain rfl := hunique.eq hrow hrow' (hrun.symm.trans (hrun'.symm.trans hrowId.symm))
      rw [hkinds hadmission, haction] at href
      cases href
      obtain ⟨ca, hca, rfl, -⟩ := h.stored row hrow _ _ haction
      have hchain := h.chain hcz (ca.revision - cz.revision) ca hca hid
        (by have : cz.revision ≤ ca.revision := hle; omega)
      rw [hz] at hchain
      exact hbefore.trans hchain
    · exact ih cz hcz hz (hrun'.trans hrun) (hsame.trans hadmission)

end Paths

section Commit

variable [Crypto] {o : PostgresIdrOrchestratorV1} {i : TransactInputV1} {c : CommitV1}
  {s t : AuthorityStateV1} {record : AuthoritativeRecordV1}

/-! ### The record and the edges of a commit -/

/-- A commit that revokes nothing is an arm of the evaluator that leaves its bindings, or fewer. -/
theorem Commits.evaluates (hs : RunsOk o s) (hadmits : s.admits i) (h : Commits o s.db i c t.db)
    (hquiet : ¬ Revokes o s.db i c.loaded) :
    checkCommand c.loaded i.command i.trustedNow c.verifiedProofs = .ok () ∧
      ∃ r, evaluateCommand i.fresh { c.loaded with
          aggregateVersion := c.loaded.aggregateVersion + 1
          lastEventSequence := c.loaded.lastEventSequence + 1 } i.command i.trustedNow
            c.verifiedProofs = .ok r ∧
        c.record = r.authoritativeRecord ∧ c.projection.bindings.Le r.projection.bindings := by
  obtain ⟨u, closure, v, -, -, -, -, -, -, -, htransition⟩ := h.runStep hs hadmits
  obtain ⟨-, hevaluated⟩ := runTransition_eq_ok.mp htransition
  rw [if_neg (by simp [RunInputV1.revokes, TransactInputV1.runInput, hquiet])] at hevaluated
  obtain ⟨t₀, closure', ht₀, hclosed, hrecord⟩ := evaluatedTransition_closed hevaluated
  obtain ⟨hcheck, r, hr, -, rfl⟩ := evaluateAuthoritativeTransitionV1_eq_ok ht₀
  refine ⟨hcheck, r, hr, hrecord, ?_⟩
  have hle := hclosed.bindings
  rw [insertRecord_framed] at hle
  exact hle

/-- A commit that revokes nothing evaluates its command. -/
theorem Commits.evaluated (hs : RunsOk o s) (hadmits : s.admits i)
    (h : Commits o s.db i c t.db) (hquiet : ¬ Revokes o s.db i c.loaded) :
    ∃ r, evaluateCommand i.fresh { c.loaded with
        aggregateVersion := c.loaded.aggregateVersion + 1
        lastEventSequence := c.loaded.lastEventSequence + 1 } i.command i.trustedNow
          c.verifiedProofs = .ok r ∧ c.record = r.authoritativeRecord := by
  obtain ⟨-, r, hr, hrecord, -⟩ := h.evaluates hs hadmits hquiet
  exact ⟨r, hr, hrecord⟩

/-- **The record of a commit**, as its run issued it. -/
structure IssuedRow (i : TransactInputV1) (c : CommitV1) (record : AuthoritativeRecordV1) :
    Prop where
  identity : RecordIdentity i.fresh c.loaded i.command.command record.recordRef
  issued : NewRecord c.loaded c.projection i.command i.trustedNow c.verifiedProofs record
  recordRef : (contractRow record).recordRef = record.recordRef

theorem Commits.issued (hs : RunsOk o s) (hadmits : s.admits i) (h : Commits o s.db i c t.db)
    (hrecord : c.record = some record) :
    ¬ Revokes o s.db i c.loaded ∧ IssuedRow i c record := by
  obtain ⟨u, closure, v, -, -, -, -, -, -, -, htransition⟩ := h.runStep hs hadmits
  have hrecords := (runTransition_records htransition).2
  have hissued : c.transition.authoritativeRecord = some record := hrecord
  have hsealed := runTransition_sealed htransition hissued
  rcases hrevokes : (i.runInput c.verifiedProofs (decide (Revokes o s.db i c.loaded))
      closure).revokes with _ | _ <;> rw [hrevokes] at hrecords
  · cases hrecords with
    | evaluated _ _ harm _ _ _ hnew =>
      refine ⟨fun hr => ?_, harm.identity hissued, hnew record hissued, ?_⟩
      · -- a revocation is one of the commands that issue no record
        obtain ⟨-, closure', -, hrevoked, -⟩ := produceTransition_eq_ok h.produced
        have hreverifies := (hrevoked hr).1
        simp [RunInputV1.revokes, TransactInputV1.runInput, hr, hreverifies] at hrevokes
      · obtain ⟨material, digest, rfl, -⟩ := hsealed
        rfl
  · cases hrecords with
    | revoked _ hnone =>
      rw [hnone] at hissued
      cases hissued

/-- The projection a command is applied to is stored, or it has no records. -/
theorem Commits.loadedRow (h : Commits o s.db i c t.db) :
    (∃ row ∈ s.db.runs, row.runId = i.command.runId ∧ row.projection = c.loaded) ∨
      ∀ kind, c.loaded.records kind = none := by
  rcases loadRun_eq_ok h.loaded with ⟨row, hrow, hloaded⟩ | ⟨-, -, -, hloaded⟩
  · obtain ⟨hmem, hid⟩ := run_eq_some hrow
    exact .inl ⟨row, hmem, hid, hloaded⟩
  · rw [hloaded]
    exact .inr fun _ => rfl

/-- **The edges after a commit**: those before, and those from what the issued record rests on. -/
theorem Commits.mem_edges (h : Commits o s.db i c t.db) {y x : Uuid × Nat} :
    Edge (dependentEdges t.db) y x ↔ Edge (dependentEdges s.db) y x ∨
      ∃ record, c.record = some record ∧ x = record.recordRef.key ∧
        (1 < record.recordRef.revision ∧
            y = (record.recordRef.recordId, record.recordRef.revision - 1) ∨
          ∃ ref ∈ contractDependencies i.command.command c.projection.records record.recordRef,
            y = ref.key) := by
  rw [mem_dependentEdges, mem_dependentEdges, h.dependencies]
  rcases hrecord : c.record with _ | record
  · simp
  · have hpredecessor := (h.dependenciesStored record hrecord).2
    simp only [List.mem_append, or_and_right, exists_or, Option.toList_some, List.flatMap_cons,
      List.flatMap_nil, List.append_nil]
    refine or_congr Iff.rfl ⟨?_, ?_⟩
    · rintro ⟨d, hd, rfl, rfl⟩
      rcases List.mem_append.mp hd with hd | hd
      · split at hd
        case isTrue hrevision =>
          simp only [List.mem_map, Option.mem_toList] at hd
          obtain ⟨row, hrow, rfl⟩ := hd
          have hkey := List.find?_some hrow
          rw [decide_eq_true_eq] at hkey
          exact ⟨record, rfl, rfl, .inl ⟨hrevision, hkey⟩⟩
        case isFalse => cases hd
      · obtain ⟨ref, href, rfl⟩ := List.mem_map.mp hd
        exact ⟨record, rfl, rfl, .inr ⟨ref, href, rfl⟩⟩
    · rintro ⟨_, ⟨⟩, rfl, ⟨hrevision, rfl⟩ | ⟨ref, href, rfl⟩⟩
      · obtain ⟨row, hrow, hkey⟩ := hpredecessor hrevision
        have hfound : ∃ found, ({ s.db with contractRecords := t.db.contractRecords } :
            DatabaseV1).contractRecord record.recordRef.recordId (record.recordRef.revision - 1) =
              some found := by
          rw [← Option.isSome_iff_exists, DatabaseV1.contractRecord, List.find?_isSome]
          exact ⟨row, hrow, by simpa using hkey⟩
        obtain ⟨found, hfound⟩ := hfound
        have hkey' := List.find?_some hfound
        rw [decide_eq_true_eq] at hkey'
        refine ⟨{
            dependentRecordId := record.recordRef.recordId
            dependentRevision := record.recordRef.revision
            dependencyRecordId := found.recordId
            dependencyRevision := found.revision
            dependencyDigest := found.recordDigest }, List.mem_append_left _ ?_, hkey', rfl⟩
        rw [if_pos hrevision, hfound]
        exact List.mem_map.mpr ⟨found, by simp, rfl⟩
      · exact ⟨dependencyRow record.recordRef ref,
          List.mem_append_right _ (List.mem_map.mpr ⟨ref, href, rfl⟩), rfl, rfl⟩

/-- The references a commit leaves are those it found, with the issued one entered. -/
theorem Commits.projectionRecords (hs : RunsOk o s) (hadmits : s.admits i)
    (h : Commits o s.db i c t.db) :
    c.projection.records = (c.loaded.insertRecord c.record).records :=
  (h.frame hs hadmits).1.records

/-- What the run of a commit holds before it. -/
theorem Commits.loadedHeld (hs : RunsOk o s) (hadmits : s.admits i) (h : Commits o s.db i c t.db) :
    Held c.loaded ∧ RecordsKinded c.loaded := by
  obtain ⟨-, -, -, u, hu, hprojection, -⟩ := h.loadedState hs hadmits
  rw [← hprojection]
  exact ⟨held_reachable hu, recordsKinded_reachable hu⟩

omit [Crypto] in
/-- The kind of an issued record is the one its command issues. -/
theorem RecordIdentity.issuedKind {fresh : FreshIdsV1} {p : IdrRunProjectionV1} {cmd : IdrCommandV1}
    {ref : AuthoritativeRecordRefV1} (h : RecordIdentity fresh p cmd ref) :
    cmd.issuedKind = some ref.candidateKind := by
  cases h with
  | next hc hnext => rw [hc, hnext.1]
  | correction hc _ hkind =>
    rw [hc, hkind]
    rfl

/-- **What an issued record rests on** is current, and comes before it. -/
theorem Commits.dependency (hs : RunsOk o s) (hadmits : s.admits i) (h : Commits o s.db i c t.db)
    (hkinds : ¬ RetypesRecord i.command.command) (hrecord : c.record = some record)
    {ref : AuthoritativeRecordRefV1}
    (href : ref ∈ contractDependencies i.command.command c.projection.records record.recordRef) :
    c.loaded.records ref.candidateKind = some ref ∧
      (ref.candidateKind.rank < record.recordRef.candidateKind.rank ∧
          (record.recordRef.candidateKind = .actionAdmissionDecision →
            ref.candidateKind = .action) ∨
        ref.candidateKind = record.recordRef.candidateKind ∧
          ref.recordId = record.recordRef.recordId ∧
          record.recordRef.revision = ref.revision + 1) := by
  obtain ⟨hheld, hkinded⟩ := h.loadedHeld hs hadmits
  obtain ⟨hquiet, hissued⟩ := h.issued hs hadmits hrecord
  have hkind := hissued.identity.issuedKind
  rcases mem_contractDependencies.mp href with ⟨⟨kind, hmem, hcurrent⟩, -⟩ | hnamed
  · have hrank := dependencyKinds_rank hkind hmem
    have hne : kind ≠ record.recordRef.candidateKind := fun heq => by
      rw [heq] at hrank
      exact absurd hrank (Nat.lt_irrefl _)
    rw [h.projectionRecords hs hadmits, hrecord, insertRecord_of_ne hne] at hcurrent
    rw [hkinded kind ref hcurrent]
    refine ⟨hcurrent, .inl ⟨hrank, fun hadmission => ?_⟩⟩
    -- an admission names all that it depends on
    rw [hadmission] at hkind
    cases hcommand : i.command.command <;> rw [hcommand] at hkind hmem <;>
      first | (cases hmem; done) | cases hkind
  · obtain ⟨r, hr, -⟩ := h.evaluated hs hadmits hquiet
    obtain ⟨hcurrent, hbefore⟩ := evaluateCommand_named hr ⟨hheld.kinded, hheld.current⟩ hnamed
    refine ⟨hcurrent, ?_⟩
    rcases hbefore with ⟨kind, hkind', hrank, haction, -⟩ | ⟨correction, hcorrects⟩
    · obtain rfl := Option.some.inj (hkind'.symm.trans hkind)
      exact .inl ⟨hrank, haction⟩
    · -- the target of the correction is the current assertion
      rw [hcorrects, RetypesRecord, not_not] at hkinds
      rw [hcorrects] at hkind
      have hassertion : record.recordRef.candidateKind = .humanModelAssertion :=
        (Option.some.inj hkind).symm
      have hnext := (hissued.identity.nextRecord (by
        rw [hcorrects, RetypesRecord, not_not]
        exact hkinds)).2
      rw [hassertion, ← hkinds, hcurrent] at hnext
      exact .inr ⟨hkinds.trans hassertion.symm, hnext.1.symm, hnext.2⟩

/-! ### The rows after a commit -/

/-- The row of the run of a commit. -/
theorem Commits.writtenRow (hs : RunsOk o s) (hadmits : s.admits i) (h : Commits o s.db i c t.db) :
    ∃ row ∈ t.db.runs, row.runId = i.command.runId ∧ row.projection = c.projection := by
  obtain ⟨-, hid⟩ := h.frame hs hadmits
  have hruns := h.runs
  generalize t.db.runs = runs at hruns ⊢
  cases hruns with
  | inserted => exact ⟨_, List.mem_append_right _ (List.mem_singleton_self _), hid, rfl⟩
  | updated old hold =>
    have hmem := List.mem_of_find?_eq_some hold
    have hrun : old.runId = c.projection.runId := by simpa using List.find?_some hold
    exact ⟨_, mem_updateWhere.mpr (.inr ⟨old, hmem, decide_eq_true hrun, rfl⟩), hrun.trans hid, rfl⟩

/-- The rows of the other runs stay. -/
theorem Commits.otherRow (hs : RunsOk o s) (hadmits : s.admits i) (h : Commits o s.db i c t.db)
    {row : RunRow} (hrow : row ∈ s.db.runs) (hne : row.runId ≠ i.command.runId) :
    row ∈ t.db.runs := by
  obtain ⟨-, hid⟩ := h.frame hs hadmits
  have hruns := h.runs
  generalize t.db.runs = runs at hruns ⊢
  cases hruns with
  | inserted => exact List.mem_append_left _ hrow
  | updated =>
    exact mem_updateWhere.mpr (.inl ⟨hrow, decide_eq_false (by rw [hid]; exact hne)⟩)

/-- The stored row of the run of a commit is the one it was applied to. -/
theorem Commits.loaded_of_row (hs : RunsOk o s) (h : Commits o s.db i c t.db) {row : RunRow}
    (hrow : row ∈ s.db.runs) (hid : row.runId = i.command.runId) : row.projection = c.loaded := by
  have hfound : s.db.run i.command.runId = some row := by
    rw [← hid]
    exact hs.unique.find?_key.mpr ⟨hrow, rfl⟩
  rcases loadRun_eq_ok h.loaded with ⟨row', hrow', hloaded⟩ | ⟨hnone, -⟩
  · obtain rfl := Option.some.inj (hfound.symm.trans hrow')
    exact hloaded
  · rw [hfound] at hnone
    cases hnone

theorem Commits.mem_records (h : Commits o s.db i c t.db) {row : ContractRow} :
    row ∈ t.db.contractRecords ↔ row ∈ s.db.contractRecords ∨
      ∃ record, c.record = some record ∧ row = contractRow record := by
  rw [h.records, List.mem_append, List.mem_map]
  refine or_congr Iff.rfl ⟨?_, ?_⟩
  · rintro ⟨record, hrecord, rfl⟩
    exact ⟨record, Option.mem_toList.mp hrecord, rfl⟩
  · rintro ⟨record, hrecord, rfl⟩
    exact ⟨record, Option.mem_toList.mpr hrecord, rfl⟩

/-! ### The lineage after a commit -/

/-- What a command finds current is stored. -/
theorem LineageOk.loaded (hok : LineageOk s) (h : Commits o s.db i c t.db) {kind : CandidateKindV1}
    {ref : AuthoritativeRecordRefV1} (href : c.loaded.records kind = some ref) :
    ∃ cr ∈ s.db.contractRecords, cr.recordRef = ref ∧ cr.runId = i.command.runId := by
  rcases h.loadedRow with ⟨row, hrow, hid, hloaded⟩ | hnone
  · rw [← hloaded] at href
    obtain ⟨cr, hcr, hcref, hrun⟩ := hok.stored row hrow kind ref href
    exact ⟨cr, hcr, hcref, hrun.trans hid⟩
  · rw [hnone] at href
    cases href

/-- **No correction is committed**: its record would have two edges from the corrected one. -/
theorem Commits.not_correction (h : Commits o s.db i c t.db) (hok : LineageOk s) (hs : RunsOk o s)
    (hadmits : s.admits i) (target : AuthoritativeRecordRefV1)
    (correction : CandidateSubmissionV1) :
    i.command.command ≠ .correctHumanModelAssertion target correction := by
  intro hcommand
  have hquiet : ¬ Revokes o s.db i c.loaded := by
    rw [Revokes, reverify_quiet (by rw [hcommand]; rfl)]
    intro h
    cases h
  obtain ⟨r, hr, hissued⟩ := h.evaluated hs hadmits hquiet
  simp only [evaluateCommand, hcommand, evaluateCorrectHumanModelAssertion, bind_eq_ok,
    exists_unit_eq_ok, okOr_eq_ok, Except.ok.injEq] at hr
  obtain ⟨htarget, -, revision, hrevision, record, hrecord, rfl⟩ := hr
  obtain ⟨hid, hnext, -⟩ := issueRecord_eq_ok hrecord
  rw [← (checkedAddU64_eq_some.mp hrevision).2] at hnext
  -- the corrected record is stored, so that its revision is 1 or later
  obtain ⟨row, hrow, rfl, -⟩ := hok.loaded h (requireExactGovernanceTarget_eq_ok.mp htarget).1
  have hfirst : 1 ≤ row.revision := by
    rcases hok.chained row hrow with hone | ⟨n, hn, hn1, -⟩ <;> omega
  change record.recordRef.revision = row.revision + 1 at hnext
  have hlater : 1 < record.recordRef.revision := by omega
  -- the two edges
  have hunique := h.dependenciesUnique record hissued
  obtain ⟨before, hbefore⟩ : ∃ before, ({ s.db with contractRecords := t.db.contractRecords } :
      DatabaseV1).contractRecord record.recordRef.recordId (record.recordRef.revision - 1) =
        some before := by
    obtain ⟨found, hfound, hkey⟩ := (h.dependenciesStored record hissued).2 hlater
    refine Option.isSome_iff_exists.mp (List.find?_isSome.mpr ⟨found, hfound, ?_⟩)
    simpa using hkey
  have hbeforeKey : before.recordId = record.recordRef.recordId ∧
      before.revision = record.recordRef.revision - 1 := by
    simpa using List.find?_some hbefore
  have hnamed : row.recordRef ∈ contractDependencies i.command.command c.projection.records
      record.recordRef := by
    rw [mem_contractDependencies, hcommand]
    exact .inr (List.mem_singleton_self _)
  rw [newDependencies, if_pos hlater, hbefore] at hunique
  refine (List.pairwise_append.mp hunique).2.2 _ (List.mem_singleton_self _) _
    (List.mem_map_of_mem hnamed) ?_
  have hsame : before.recordId = row.recordId ∧ before.revision = row.revision := by
    refine ⟨hbeforeKey.1.trans hid, ?_⟩
    omega
  simp only [DependencyRow.key, dependencyRow, hsame.1, hsame.2]
  rfl

theorem Commits.not_retypes (h : Commits o s.db i c t.db) (hok : LineageOk s) (hs : RunsOk o s)
    (hadmits : s.admits i) : ¬ RetypesRecord i.command.command := by
  intro hretypes
  unfold RetypesRecord at hretypes
  split at hretypes
  next hcommand => exact h.not_correction hok hs hadmits _ _ hcommand
  next => exact hretypes

/-- The issued record is the first of its kind, or follows the current one. -/
theorem LineageOk.next (hok : LineageOk s) (hs : RunsOk o s) (hadmits : s.admits i)
    (h : Commits o s.db i c t.db) (hkinds : ¬ RetypesRecord i.command.command)
    (hrecord : c.record = some record) :
    record.recordRef.recordId = i.fresh.recordId ∧ record.recordRef.revision = 1 ∧
        c.loaded.records record.recordRef.candidateKind = none ∨
      ∃ last ∈ s.db.contractRecords,
        c.loaded.records record.recordRef.candidateKind = some last.recordRef ∧
        last.runId = i.command.runId ∧ last.candidateKind = record.recordRef.candidateKind ∧
        record.recordRef.recordId = last.recordId ∧
        record.recordRef.revision = last.revision + 1 := by
  have hnext := ((h.issued hs hadmits hrecord).2.identity.nextRecord hkinds).2
  rcases hlast : c.loaded.records record.recordRef.candidateKind with _ | last <;>
    rw [hlast] at hnext
  · exact .inl ⟨hnext.1, hnext.2, rfl⟩
  · obtain ⟨cr, hcr, rfl, hrun⟩ := hok.loaded h hlast
    exact .inr ⟨cr, hcr, rfl, hrun, (h.loadedHeld hs hadmits).2 _ _ hlast, hnext.1, hnext.2⟩

theorem LineageOk.commit (hok : LineageOk s) (hs : RunsOk o s) (hadmits : s.admits i)
    (hdrawn : t.drawn = i.fresh.ids ++ s.drawn) (h : Commits o s.db i c t.db)
    (hkinds : ¬ RetypesRecord i.command.command) : LineageOk t := by
  have hold : ∀ {cr}, cr ∈ s.db.contractRecords → cr ∈ t.db.contractRecords := fun hcr =>
    h.mem_records.mpr (.inl hcr)
  obtain ⟨written, hwritten, hwrittenId, hwrittenProjection⟩ := h.writtenRow hs hadmits
  constructor
  case keys =>
    rw [h.records]
    rcases hrecord : c.record with _ | record
    · simpa using hok.keys
    · exact hok.keys.insert (h.admitted record hrecord).newKey
  case drawn =>
    intro cr hcr
    rw [hdrawn]
    rcases h.mem_records.mp hcr with hcr | ⟨record, hrecord, rfl⟩
    · exact List.mem_append_right _ (hok.drawn cr hcr)
    · show record.recordRef.recordId ∈ _
      rcases hok.next hs hadmits h hkinds hrecord with ⟨hid, -⟩ | ⟨last, hlast, -, -, -, hid, -⟩
      · rw [hid]
        exact List.mem_append_left _ (by simp [FreshIdsV1.ids])
      · rw [hid]
        exact List.mem_append_right _ (hok.drawn last hlast)
  case current =>
    intro cr hcr
    rcases h.mem_records.mp hcr with hcr | ⟨record, hrecord, rfl⟩
    · obtain ⟨row, hrow, hrun, ref, href, hid, hle⟩ := hok.current cr hcr
      by_cases hcommand : row.runId = i.command.runId
      · refine ⟨written, hwritten, hwrittenId.trans (hcommand.symm.trans hrun), ?_⟩
        rw [h.loaded_of_row hs hrow hcommand] at href
        rw [hwrittenProjection]
        rw [h.projectionRecords hs hadmits]
        rcases hrecord : c.record with _ | record
        · exact ⟨ref, href, hid, hle⟩
        · by_cases hkind : cr.candidateKind = record.recordRef.candidateKind
          · -- the record has the next revision
            rw [hkind] at href ⊢
            rw [insertRecord_self]
            rcases hok.next hs hadmits h hkinds hrecord with ⟨-, -, hnone⟩ |
              ⟨last, -, hlast, -, -, hnext, hrevision⟩
            · rw [hnone] at href
              cases href
            · obtain rfl := Option.some.inj (hlast.symm.trans href)
              refine ⟨_, rfl, hnext.trans hid, ?_⟩
              rw [hrevision]
              exact Nat.le_succ_of_le hle
          · rw [insertRecord_of_ne hkind]
            exact ⟨ref, href, hid, hle⟩
      · exact ⟨row, h.otherRow hs hadmits hrow hcommand, hrun, ref, href, hid, hle⟩
    · have hissued := (h.issued hs hadmits hrecord).2
      refine ⟨written, hwritten, ?_, record.recordRef, ?_, rfl, Nat.le_refl _⟩
      · rw [hwrittenId, ← (h.loadedState hs hadmits).1]
        exact hissued.issued.runId.symm
      · rw [hwrittenProjection, h.projectionRecords hs hadmits, hrecord]
        exact insertRecord_self record
  case stored =>
    intro row hrow kind ref href
    rcases h.mem_runs hs hadmits hrow with ⟨hrow, -⟩ | ⟨hid, hprojection, -⟩
    · obtain ⟨cr, hcr, hcref, hrun⟩ := hok.stored row hrow kind ref href
      exact ⟨cr, hold hcr, hcref, hrun⟩
    · rw [hprojection, h.projectionRecords hs hadmits] at href
      rcases hrecord : c.record with _ | record <;> rw [hrecord] at href
      · obtain ⟨cr, hcr, hcref, hrun⟩ := hok.loaded h href
        exact ⟨cr, hold hcr, hcref, hrun.trans hid.symm⟩
      · have hissued := (h.issued hs hadmits hrecord).2
        by_cases hkind : kind = record.recordRef.candidateKind
        · subst hkind
          rw [insertRecord_self] at href
          refine ⟨contractRow record, h.mem_records.mpr (.inr ⟨record, hrecord, rfl⟩), ?_, ?_⟩
          · rw [hissued.recordRef]
            exact Option.some.inj href
          · rw [hid, ← (h.loadedState hs hadmits).1]
            exact hissued.issued.runId
        · rw [insertRecord_of_ne hkind] at href
          obtain ⟨cr, hcr, hcref, hrun⟩ := hok.loaded h href
          exact ⟨cr, hold hcr, hcref, hrun.trans hid.symm⟩
  case edges =>
    intro y x hedge
    rcases h.mem_edges.mp hedge with hedge | ⟨record, hrecord, rfl, hnew⟩
    · obtain ⟨cy, hcy, cx, hcx, hy, hx, hprecedes⟩ := hok.edges y x hedge
      exact ⟨cy, hold hcy, cx, hold hcx, hy, hx, hprecedes⟩
    · have hissued := (h.issued hs hadmits hrecord).2
      have hrunId : (contractRow record).runId = i.command.runId :=
        hissued.issued.runId.trans (h.loadedState hs hadmits).1
      have hcx := h.mem_records.mpr (.inr ⟨record, hrecord, rfl⟩)
      rcases hnew with ⟨hrevision, rfl⟩ | ⟨ref, href, rfl⟩
      · rcases hok.next hs hadmits h hkinds hrecord with ⟨-, hone, -⟩ |
          ⟨last, hlast, -, hrun, hkind, hid, hnext⟩
        · rw [hone] at hrevision
          exact absurd hrevision (Nat.lt_irrefl 1)
        · refine ⟨last, hold hlast, _, hcx, ?_, rfl, hrun.trans hrunId.symm, .inr ⟨hkind, hid.symm,
            hnext⟩⟩
          rw [hid, hnext]
          rfl
      · obtain ⟨hcurrent, hbefore⟩ := h.dependency hs hadmits hkinds hrecord href
        obtain ⟨cy, hcy, rfl, hrun⟩ := hok.loaded h hcurrent
        exact ⟨cy, hold hcy, _, hcx, rfl, rfl, hrun.trans hrunId.symm, hbefore⟩
  case chained =>
    intro cr hcr
    rcases h.mem_records.mp hcr with hcr | ⟨record, hrecord, rfl⟩
    · refine (hok.chained cr hcr).imp_right ?_
      rintro ⟨n, hn, hpos, hedge⟩
      exact ⟨n, hn, hpos, h.mem_edges.mpr (.inl hedge)⟩
    · rcases hok.next hs hadmits h hkinds hrecord with ⟨-, hone, -⟩ |
        ⟨last, hlast, -, -, -, -, hnext⟩
      · exact .inl hone
      · have hpos : 1 ≤ last.revision := by
          rcases hok.chained last hlast with hone | ⟨n, hn, -⟩ <;> omega
        refine .inr ⟨last.revision, hnext, hpos, h.mem_edges.mpr (.inr ⟨record, hrecord, rfl, ?_⟩)⟩
        refine .inl ⟨by omega, ?_⟩
        rw [hnext]
        rfl

/-! ### Every reachable state -/

omit [Crypto] in
theorem LineageOk.quiet (hok : LineageOk s) (hdb : t.db = s.db)
    (hdrawn : t.drawn = i.fresh.ids ++ s.drawn) : LineageOk t where
  keys := hdb ▸ hok.keys
  drawn cr hcr := by
    rw [hdrawn]
    exact List.mem_append_right _ (hok.drawn cr (hdb ▸ hcr))
  current := hdb ▸ hok.current
  stored := hdb ▸ hok.stored
  edges := hdb ▸ hok.edges
  chained := hdb ▸ hok.chained

theorem lineageOk_reachable (h : Reachable AuthorityInit (AuthorityStep o) s) : LineageOk s := by
  refine h.invariant_with ?_ ?_
  · intro s hinit
    rw [AuthorityInit] at hinit
    constructor
    case keys =>
      rw [hinit]
      exact .nil _
    case edges =>
      rw [hinit]
      intro y x hedge
      cases hedge
    all_goals
      rw [hinit]
      intro row hrow
      cases hrow
  · intro s i t hs hok hstep
    obtain ⟨hadmits, hdrawn, hdb | ⟨c, hc⟩⟩ := authorityStep_cases hstep
    · exact hok.quiet hdb hdrawn
    · have hruns := runsOk_reachable hs
      exact hok.commit hruns hadmits hdrawn hc (hc.not_retypes hok hruns hadmits)

/-- **Invariants of the lineage.**  What holds of the empty schema and is kept by the commits of
allowed commands holds in every state that these lead to. -/
theorem lineage_invariant {allowed : AuthorityStateV1 → TransactInputV1 → Prop}
    {P : AuthorityStateV1 → Prop} (hempty : ∀ s, s.db = .empty → P s)
    (hquiet : ∀ s t : AuthorityStateV1, t.db = s.db → P s → P t)
    (hcommit : ∀ s i c t, RunsOk o s → LineageOk s → LineageOk t → s.admits i → allowed s i →
      Commits o s.db i c t.db → P s → P t)
    (h : Reachable AuthorityInit (Restrict (AuthorityStep o) allowed) s) : P s := by
  refine h.invariant_with (fun s hinit => hempty s hinit) ?_
  intro s i t hs hP hstep
  have hok := lineageOk_reachable hs.of_restrict
  have hok' := lineageOk_reachable (hs.of_restrict.snoc hstep.2)
  obtain ⟨hadmits, -, hdb | ⟨c, hc⟩⟩ := authorityStep_cases hstep.2
  · exact hquiet s t hdb hP
  · exact hcommit s i c t (runsOk_reachable hs.of_restrict) hok hok' hadmits hstep.1 hc hP

end Commit

end Idr
