/-
Idr/Authority/Audit.lean

The audit chain.

Every commit appends one audit event to the chain of its tenant: it reads
the hash of the tenant's last event and hashes its own payload on top
(`recordEvents`).  The integrity check walks over the table by tenant and
sequence and rebuilds the tail of every tenant (`verifyAuditEvents`).

The two agree: the check accepts every table that commits have written, and
ends with the hashes that the next commits would continue
(`AuditOk.accepted`).  And the check binds: two tables that it accepts
with the same tail for a tenant hold the same payloads for it
(`verifyAuditEvents_binding`).  Both are read off from the library of hash
chains; the chains here are those of the tenants.
-/
import Idr.Authority.Refinement
import Idr.Protocol.Determines
import Idr.Lib.HashChain

namespace Idr

open HashChain

/-- The hash that the chain of a tenant starts from. -/
def genesisHash : Text := ⟨List.replicate 64 48⟩

/-! ### The check -/

/-- The columns of an audit event repeat its payload, and it continues the hash that is expected. -/
def PostgresIdrOrchestratorV1.auditColumnsMatch (self : PostgresIdrOrchestratorV1) (row : AuditRow)
    (expectedPrevious : Text) : Bool :=
  let column (key : Text) : Option Text := (row.payload.get key).bind Value.asStr
  row.trustDomain = self.trustDomain
    && row.environmentRef = self.environmentRef
    && column "trust_domain" = some row.trustDomain.wireName
    && column "environment_ref" = some row.environmentRef.asStr
    && row.previousHash = expectedPrevious
    && column "tenant_ref" = some row.tenantRef
    && column "run_id" = some row.runId.toString
    && (row.payload.get "aggregate_version").bind Value.asU64 = some row.aggregateVersion
    && column "actor_ref" = some row.actorRef
    && column "caller_ref" = some row.callerRef
    && column "correlation_ref" = some row.correlationRef
    && column "causation_ref" = some row.causationRef
    && column "policy_revision_ref" = some row.policyRevisionRef
    && (row.payload.get "contract_refs").map Value.canonical = some row.contractRefs.canonical
    && (row.payload.get "proof_refs").map Value.canonical = some row.proofRefs.canonical

section

variable [Crypto]

/-- The check of one audit event. -/
def PostgresIdrOrchestratorV1.verifyAuditRow (self : PostgresIdrOrchestratorV1)
    (expectedPrevious : Text) (row : AuditRow) : Except IdrRuntimeErrorV1 Unit := do
  rejectIf (self.auditColumnsMatch row expectedPrevious = false) .integrityViolation
  let eventHash ← hashEventV1 row.previousHash row.payload
  rejectIf (eventHash ≠ row.eventHash) .integrityViolation

omit [Crypto] in
/-- The tail of a tenant, as far as the loop has come. -/
def expectedPrevious (tenantRoots : List (Text × Text)) (tenantRef : Text) : Text :=
  (tenantRoots.lookup tenantRef).getD genesisHash

/-- The audit loop of `verify_database_integrity`; an insertion into the map of the tails is a new
first entry. -/
def PostgresIdrOrchestratorV1.verifyAuditEvents (self : PostgresIdrOrchestratorV1) :
    List AuditRow → List (Text × Text) → Except IdrRuntimeErrorV1 (List (Text × Text))
  | [], tenantRoots => .ok tenantRoots
  | row :: rows, tenantRoots => do
    self.verifyAuditRow (expectedPrevious tenantRoots row.tenantRef) row
    self.verifyAuditEvents rows ((row.tenantRef, row.eventHash) :: tenantRoots)

omit [Crypto] in
/-- `ORDER BY tenant_ref, sequence`, whatever the order of the tenants is. -/
structure AuditOrder (table rows : List AuditRow) : Prop where
  perm : rows.Perm table
  ordered : rows.Pairwise fun a b => a.tenantRef = b.tenantRef → a.sequence ≤ b.sequence

/-! ### The loop is a walk over interleaved chains -/

variable {o : PostgresIdrOrchestratorV1} {db : DatabaseV1} {s : AuthorityStateV1}
  {rows rows' : List AuditRow} {roots roots' tails : List (Text × Text)} {tenantRef : Text}

/-- The link relation of the chains. -/
def PostgresIdrOrchestratorV1.Continues (o : PostgresIdrOrchestratorV1) (previous : Text)
    (row : AuditRow) : Prop :=
  o.verifyAuditRow previous row = .ok ()

theorem continues_iff {previous : Text} {row : AuditRow} : o.Continues previous row ↔
    o.auditColumnsMatch row previous = true ∧
      hashEventV1 row.previousHash row.payload = .ok row.eventHash := by
  simp only [PostgresIdrOrchestratorV1.Continues, PostgresIdrOrchestratorV1.verifyAuditRow,
    bind_eq_ok, rejectIf_eq_ok, exists_const, not_not, Bool.not_eq_false]
  constructor
  · rintro ⟨hcolumns, eventHash, hhash, rfl⟩
    exact ⟨hcolumns, hhash⟩
  · rintro ⟨hcolumns, hhash⟩
    exact ⟨hcolumns, _, hhash, rfl⟩

omit [Crypto] in
theorem expectedPrevious_cons {eventHash : Text} :
    expectedPrevious ((tenantRef, eventHash) :: roots) =
      Function.update (expectedPrevious roots) tenantRef eventHash := by
  funext k
  rw [expectedPrevious, List.lookup_cons]
  by_cases heq : k = tenantRef
  · rw [heq, beq_self_eq_true, Function.update_self]
    rfl
  · rw [beq_false_of_ne heq, Function.update_of_ne heq]
    rfl

theorem verifyAuditEvents_iff : (∃ tails, o.verifyAuditEvents rows roots = .ok tails) ↔
    Interleaved o.Continues AuditRow.tenantRef AuditRow.eventHash (expectedPrevious roots)
      rows := by
  induction rows generalizing roots with
  | nil => exact ⟨fun _ => trivial, fun _ => ⟨roots, rfl⟩⟩
  | cons row rows ih =>
    simp only [PostgresIdrOrchestratorV1.verifyAuditEvents, bind_eq_ok, exists_unit_eq_ok]
    rw [exists_and_left, ih, expectedPrevious_cons]
    rfl

/-- The loop ends with the tail of every tenant. -/
theorem verifyAuditEvents_tail (h : o.verifyAuditEvents rows roots = .ok tails) (k : Text) :
    expectedPrevious tails k =
      tail AuditRow.eventHash (expectedPrevious roots k) (chainOf AuditRow.tenantRef k rows) := by
  induction rows generalizing roots with
  | nil =>
    cases h
    rfl
  | cons row rows ih =>
    simp only [PostgresIdrOrchestratorV1.verifyAuditEvents, bind_eq_ok, exists_unit_eq_ok] at h
    rw [ih h.2, expectedPrevious_cons]
    by_cases heq : row.tenantRef = k
    · rw [chainOf_cons_self heq, ← heq, Function.update_self]
      rfl
    · rw [chainOf_cons_ne heq, Function.update_of_ne (Ne.symm heq)]

/-! ### What commits write -/

omit [Crypto] in
theorem lastBy_eq_getLast {ρ : Type} {key : ρ → Nat} {rows : List ρ}
    (h : rows.Pairwise fun a b => key a < key b) : lastBy key rows = rows.getLast? := by
  induction rows with
  | nil => rfl
  | cons row rows ih =>
    obtain ⟨hrow, hrows⟩ := List.pairwise_cons.mp h
    rw [lastBy, ih hrows]
    rcases List.eq_nil_or_concat rows with rfl | ⟨rows, last, rfl⟩
    · rfl
    · have hlast : key row < key last := hrow last (by simp)
      rw [List.concat_eq_append, List.getLast?_append, ← List.cons_append, List.getLast?_append]
      simp [Nat.not_lt.mpr (Nat.le_of_lt hlast)]

omit [Crypto] in
/-- The event that a commit writes repeats its payload. -/
theorem auditRow_columns (attestation : AttestationRow) (i : TransactInputV1)
    (transition : IdrTransitionV1) (commandDigest projectionDigest previous eventHash : Text) :
    o.auditColumnsMatch (o.auditRow attestation i transition previous eventHash
      (o.auditPayload i.command commandDigest projectionDigest transition)) previous = true := by
  simp only [PostgresIdrOrchestratorV1.auditColumnsMatch, Bool.and_eq_true, decide_eq_true_eq]
  exact ⟨⟨⟨⟨⟨⟨⟨⟨⟨⟨⟨⟨⟨⟨rfl, rfl⟩, rfl⟩, rfl⟩, rfl⟩, rfl⟩, rfl⟩, rfl⟩, rfl⟩, rfl⟩, rfl⟩, rfl⟩, rfl⟩,
    rfl⟩, rfl⟩

/-- **The audit table**: the sequence counts up along the chain of each tenant, and the chains are
linked. -/
structure AuditOk (o : PostgresIdrOrchestratorV1) (db : DatabaseV1) : Prop where
  increasing : ∀ k, (chainOf AuditRow.tenantRef k db.auditEvents).Pairwise
    fun a b => a.sequence < b.sequence
  linked : ∀ k, Linked o.Continues AuditRow.eventHash genesisHash
    (chainOf AuditRow.tenantRef k db.auditEvents)

/-- The next event of a tenant continues its tail. -/
theorem AuditOk.previousHash (h : AuditOk o db) (k : Text) : Idr.previousHash db k =
    tail AuditRow.eventHash genesisHash (chainOf AuditRow.tenantRef k db.auditEvents) := by
  rw [tail_eq_getLast, ← lastBy_eq_getLast (h.increasing k)]
  rfl

/-- An event that comes last and continues the tail of its tenant keeps the chains linked. -/
theorem AuditOk.snoc {db' : DatabaseV1} {row : AuditRow} (h : AuditOk o db)
    (hevents : db'.auditEvents = db.auditEvents ++ [row])
    (hsequence : ∀ r ∈ db.auditEvents, r.tenantRef = row.tenantRef → r.sequence < row.sequence)
    (hrow : o.Continues (Idr.previousHash db row.tenantRef) row) : AuditOk o db' := by
  have hchain : ∀ k, chainOf AuditRow.tenantRef k db'.auditEvents =
      chainOf AuditRow.tenantRef k db.auditEvents ++ chainOf AuditRow.tenantRef k [row] := by
    intro k
    rw [hevents, chainOf_append]
  constructor
  · intro k
    rw [hchain k, List.pairwise_append]
    refine ⟨h.increasing k, List.Pairwise.filter _ (List.pairwise_singleton _ _), ?_⟩
    intro a ha b hb
    obtain ⟨hamem, hakey⟩ := List.mem_filter.mp ha
    obtain ⟨hbmem, hbkey⟩ := List.mem_filter.mp hb
    rw [List.mem_singleton.mp hbmem] at hbkey ⊢
    exact hsequence a hamem ((of_decide_eq_true hakey).trans (of_decide_eq_true hbkey).symm)
  · intro k
    rw [hchain k]
    by_cases heq : row.tenantRef = k
    · rw [chainOf_cons_self heq]
      refine linked_append.mpr ⟨h.linked k, ?_⟩
      rw [← h.previousHash k, ← heq]
      exact hrow
    · rw [chainOf_cons_ne heq]
      exact (List.append_nil _).symm ▸ h.linked k

theorem auditOk_reachable (h : Reachable AuthorityInit (AuthorityStep o) s) : AuditOk o s.db := by
  refine database_invariant ?_ ?_ h
  · exact ⟨fun k => List.Pairwise.nil, fun k => trivial⟩
  · intro s i c t _ _ hadmits hc hs
    refine hs.snoc hc.auditEvents hadmits.2.2.2.2 ?_
    exact continues_iff.mpr ⟨auditRow_columns _ _ _ _ _ _ _, hc.eventHash⟩

omit [Crypto] in
/-- The order of the check leaves every chain as it was written. -/
theorem AuditOrder.chainOf (h : AuditOrder db.auditEvents rows)
    (hincreasing : (chainOf AuditRow.tenantRef tenantRef db.auditEvents).Pairwise
      fun a b => a.sequence < b.sequence) :
    HashChain.chainOf AuditRow.tenantRef tenantRef rows =
      HashChain.chainOf AuditRow.tenantRef tenantRef db.auditEvents := by
  have hperm : (HashChain.chainOf AuditRow.tenantRef tenantRef rows).Perm
      (HashChain.chainOf AuditRow.tenantRef tenantRef db.auditEvents) := h.perm.filter _
  -- no two events of the chain have the same sequence
  have hunique : UniqueBy AuditRow.sequence
      (HashChain.chainOf AuditRow.tenantRef tenantRef db.auditEvents) :=
    hincreasing.imp Nat.ne_of_lt
  refine hperm.eq_of_pairwise ?_ ?_ (hincreasing.imp Nat.le_of_lt)
  · intro a b ha hb hle hge
    exact hunique.eq (hperm.mem_iff.mp ha) hb (Nat.le_antisymm hle hge)
  · refine List.pairwise_filter.mpr (h.ordered.imp ?_)
    intro a b hle ha hb
    exact hle ((of_decide_eq_true ha).trans (of_decide_eq_true hb).symm)

/-! ### The check accepts what commits write -/

/-- **What the check finds** in a table: it accepts it, the sequence counts up along the chain of
each tenant, and the check ends for each tenant with the hash that the next commit would
continue. -/
structure AuditAccepted (o : PostgresIdrOrchestratorV1) (db : DatabaseV1) (rows : List AuditRow) :
    Prop where
  accepted : ∃ tails, o.verifyAuditEvents rows [] = .ok tails ∧
    ∀ k, expectedPrevious tails k = previousHash db k
  sequences : ∀ k, (chainOf AuditRow.tenantRef k rows).Pairwise fun a b => a.sequence < b.sequence

/-- The check accepts a table of linked chains, whatever order it reads the tenants in. -/
theorem AuditOk.accepted (hok : AuditOk o db) (hrows : AuditOrder db.auditEvents rows) :
    AuditAccepted o db rows := by
  have hchains : ∀ k, chainOf AuditRow.tenantRef k rows =
      chainOf AuditRow.tenantRef k db.auditEvents :=
    fun k => hrows.chainOf (hok.increasing k)
  constructor
  · have hwalk : Interleaved o.Continues AuditRow.tenantRef AuditRow.eventHash
        (expectedPrevious []) rows := by
      refine interleaved_iff.mpr fun k => ?_
      rw [hchains k]
      exact hok.linked k
    obtain ⟨tails, htails⟩ := verifyAuditEvents_iff.mpr hwalk
    refine ⟨tails, htails, fun k => ?_⟩
    rw [verifyAuditEvents_tail htails k, hok.previousHash k, hchains k]
    rfl
  · intro k
    rw [hchains k]
    exact hok.increasing k

/-! ### What the check binds -/

omit [Crypto] in
/-- What the hash of an event is taken of. -/
def eventMaterial (row : AuditRow) : Value :=
  .array [toValue ("idr-audit-event-v1" : Text), toValue row.previousHash, row.payload]

/-- SHA-256 on the events of two tables: it does not collide, and the hash that chains start from
is none of its values. -/
structure HashSound (rows rows' : List AuditRow) : Prop where
  collisionFree : ∀ row ∈ rows, ∀ row' ∈ rows', ∀ bytes bytes',
    canonicalJsonBytesV1 (eventMaterial row) = .ok bytes →
      canonicalJsonBytesV1 (eventMaterial row') = .ok bytes' →
        Crypto.sha256 bytes = Crypto.sha256 bytes' → bytes = bytes'
  notGenesis : ∀ row ∈ rows ++ rows', ∀ bytes,
    canonicalJsonBytesV1 (eventMaterial row) = .ok bytes → sha256Hex bytes ≠ genesisHash

/-- An accepted event names the hash it continues, and its own hash. -/
theorem continues_hash {previous : Text} {row : AuditRow} (h : o.Continues previous row) :
    row.previousHash = previous ∧ ∃ bytes,
      canonicalJsonBytesV1 (eventMaterial row) = .ok bytes ∧ row.eventHash = sha256Hex bytes := by
  obtain ⟨hcolumns, hhash⟩ := continues_iff.mp h
  simp only [PostgresIdrOrchestratorV1.auditColumnsMatch, Bool.and_eq_true, decide_eq_true_eq]
    at hcolumns
  simp only [hashEventV1, bind_eq_ok, fromProtocol_eq_ok, Except.ok.injEq] at hhash
  obtain ⟨bytes, hbytes, heq⟩ := hhash
  exact ⟨by tauto, bytes, hbytes, heq.symm⟩

/-- Two accepted events with one hash continue the same hash with the same payload. -/
theorem HashSound.content {o' : PostgresIdrOrchestratorV1} (hsound : HashSound rows rows')
    {row row' : AuditRow} (hrow : row ∈ rows) (hrow' : row' ∈ rows')
    (heq : row.eventHash = row'.eventHash) {previous previous' : Text}
    (h : o.Continues previous row) (h' : o'.Continues previous' row') :
    previous = previous' ∧ row.payload.canonical = row'.payload.canonical := by
  obtain ⟨hprevious, bytes, hbytes, hhash⟩ := continues_hash h
  obtain ⟨hprevious', bytes', hbytes', hhash'⟩ := continues_hash h'
  have hsha : Crypto.sha256 bytes = Crypto.sha256 bytes' := by
    apply Vector.toList_inj.mp
    apply encodeHex_injective
    rw [← sha256Hex, ← sha256Hex, ← hhash, ← hhash', heq]
  obtain rfl := hsound.collisionFree row hrow row' hrow' bytes bytes' hbytes hbytes' hsha
  have hvalues := Value.array.inj (canonicalJsonBytesV1_injective hbytes hbytes')
  simp only [Value.canonicalValues_eq, List.map_cons, List.map_nil, List.cons.injEq, and_true,
    true_and] at hvalues
  obtain ⟨hlink, hpayload⟩ := hvalues
  rw [← hprevious, ← hprevious']
  exact ⟨determined hlink, hpayload⟩

/-- The hash of an event in an accepted table is that of its material. -/
theorem verifyAuditEvents_hash (h : o.verifyAuditEvents rows [] = .ok tails) {row : AuditRow}
    (hrow : row ∈ rows) {bytes : List UInt8}
    (hbytes : canonicalJsonBytesV1 (eventMaterial row) = .ok bytes) :
    row.eventHash = sha256Hex bytes := by
  have hlinked := interleaved_iff.mp (verifyAuditEvents_iff.mp ⟨tails, h⟩) row.tenantRef
  obtain ⟨previous, hcontinues⟩ :=
    hlinked.exists_accepts (List.mem_filter.mpr ⟨hrow, decide_eq_true rfl⟩)
  obtain ⟨-, bytes', hbytes', hhash⟩ := continues_hash hcontinues
  rw [hhash, Except.ok.inj (hbytes.symm.trans hbytes')]

/-- The hash is sound on accepted tables whose events of one hash are the same event, and in which
no event has the hash that chains start from. -/
theorem HashSound.of_hashes {o' : PostgresIdrOrchestratorV1} {tails' : List (Text × Text)}
    (h : o.verifyAuditEvents rows [] = .ok tails) (h' : o'.verifyAuditEvents rows' [] = .ok tails')
    (hdistinct : ∀ row ∈ rows, ∀ row' ∈ rows', row.eventHash = row'.eventHash →
      eventMaterial row = eventMaterial row')
    (hgenesis : ∀ row ∈ rows ++ rows', row.eventHash ≠ genesisHash) : HashSound rows rows' where
  collisionFree row hrow row' hrow' bytes bytes' hbytes hbytes' hsha := by
    have heq : row.eventHash = row'.eventHash := by
      rw [verifyAuditEvents_hash h hrow hbytes, verifyAuditEvents_hash h' hrow' hbytes', sha256Hex,
        sha256Hex, hsha]
    rw [hdistinct row hrow row' hrow' heq] at hbytes
    exact Except.ok.inj (hbytes.symm.trans hbytes')
  notGenesis row hrow bytes hbytes heq := by
    apply hgenesis row hrow
    rcases List.mem_append.mp hrow with hmem | hmem
    · exact (verifyAuditEvents_hash h hmem hbytes).trans heq
    · exact (verifyAuditEvents_hash h' hmem hbytes).trans heq

/-- Two tables that the check accepts with the same tail for a tenant hold the same payloads for
it, in the same order. -/
theorem verifyAuditEvents_binding {o' : PostgresIdrOrchestratorV1} {tails' : List (Text × Text)}
    (h : o.verifyAuditEvents rows [] = .ok tails) (h' : o'.verifyAuditEvents rows' [] = .ok tails')
    (hsound : HashSound rows rows') {k : Text}
    (htail : expectedPrevious tails k = expectedPrevious tails' k) :
    (chainOf AuditRow.tenantRef k rows).map (·.payload.canonical) =
      (chainOf AuditRow.tenantRef k rows').map (·.payload.canonical) := by
  have hlinked := interleaved_iff.mp (verifyAuditEvents_iff.mp ⟨tails, h⟩) k
  have hlinked' := interleaved_iff.mp (verifyAuditEvents_iff.mp ⟨tails', h'⟩) k
  rw [verifyAuditEvents_tail h, verifyAuditEvents_tail h'] at htail
  refine hlinked.binding hlinked' htail ?_ ?_ ?_
  · intro row hrow row' hrow' heq previous previous' hcontinues hcontinues'
    exact hsound.content (List.mem_of_mem_filter hrow) (List.mem_of_mem_filter hrow') heq
      hcontinues hcontinues'
  · intro row hrow heq
    obtain ⟨previous, hcontinues⟩ := hlinked.exists_accepts hrow
    obtain ⟨-, bytes, hbytes, hhash⟩ := continues_hash hcontinues
    exact hsound.notGenesis row (List.mem_append_left _ (List.mem_of_mem_filter hrow)) bytes hbytes
      (hhash.symm.trans heq)
  · intro row hrow heq
    obtain ⟨previous, hcontinues⟩ := hlinked'.exists_accepts hrow
    obtain ⟨-, bytes, hbytes, hhash⟩ := continues_hash hcontinues
    exact hsound.notGenesis row (List.mem_append_right _ (List.mem_of_mem_filter hrow)) bytes hbytes
      (hhash.symm.trans heq)

/-- **The audit chain is complete and binding.**  In every state that the authority reaches, the
check accepts the audit table; and two tables that it accepts with the same tail for a tenant hold
the same payloads for it. -/
theorem audit_chain_complete_and_binding (o o' : PostgresIdrOrchestratorV1) :
    (∀ s rows, Reachable AuthorityInit (AuthorityStep o) s → AuditOrder s.db.auditEvents rows →
      AuditAccepted o s.db rows) ∧
    (∀ rows rows' tails tails', o.verifyAuditEvents rows [] = .ok tails →
      o'.verifyAuditEvents rows' [] = .ok tails' → HashSound rows rows' →
        ∀ k, expectedPrevious tails k = expectedPrevious tails' k →
          (chainOf AuditRow.tenantRef k rows).map (·.payload.canonical) =
            (chainOf AuditRow.tenantRef k rows').map (·.payload.canonical)) := by
  constructor
  · intro s rows hs hrows
    exact (auditOk_reachable hs).accepted hrows
  · intro rows rows' tails tails' h h' hsound k htail
    exact verifyAuditEvents_binding h h' hsound htail

end

/-! ### A sample -/

namespace Sample

/-- Two events of one tenant, in order and with hashes of their own. -/
def twoEvents (s : AuthorityStateV1) : Bool :=
  match s.db.auditEvents with
  | [a, b] => a.tenantRef = b.tenantRef && a.sequence ≤ b.sequence && a.eventHash ≠ b.eventHash &&
      a.eventHash ≠ genesisHash && b.eventHash ≠ genesisHash
  | _ => false

set_option maxRecDepth 20000 in
/-- The first two calls of the sample run write an event each. -/
def audited :
    Script (@PostgresIdrOrchestratorV1.authorityStep crypto orchestrator) (fun _ _ => True)
      emptyAuthority twoEvents where
  inputs := [@called crypto 10 owner startRun id, @called crypto 11 owner recordContext id]
  leads := by decide +kernel

/-- A copy of an event, under another sequence number. -/
def renumbered (row : AuditRow) : AuditRow := { row with sequence := row.sequence + 1 }

/-- The check does not look at the sequence numbers. -/
theorem verifyAuditEvents_renumbered [Crypto] (rows : List AuditRow) (roots : List (Text × Text)) :
    orchestrator.verifyAuditEvents (rows.map renumbered) roots =
      orchestrator.verifyAuditEvents rows roots := by
  induction rows generalizing roots with
  | nil => rfl
  | cons row rows ih =>
    simp only [List.map_cons, PostgresIdrOrchestratorV1.verifyAuditEvents]
    rw [ih]
    rfl

end Sample

/-- The events of two calls are accepted, and so is a copy of them under other sequence numbers; the
tail binds their payloads. -/
theorem audit_chain_sample : let _ := Sample.crypto
    ∃ s a b tails, Reachable AuthorityInit (AuthorityStep Sample.orchestrator) s ∧
      s.db.auditEvents = [a, b] ∧ a.tenantRef = b.tenantRef ∧
      AuditAccepted Sample.orchestrator s.db [a, b] ∧
      Sample.orchestrator.verifyAuditEvents [a, b] [] = .ok tails ∧
      Sample.orchestrator.verifyAuditEvents ([a, b].map Sample.renumbered) [] = .ok tails ∧
      HashSound [a, b] ([a, b].map Sample.renumbered) ∧
      (chainOf AuditRow.tenantRef a.tenantRef [a, b]).map (·.payload.canonical) =
        (chainOf AuditRow.tenantRef a.tenantRef ([a, b].map Sample.renumbered)).map
          (·.payload.canonical) := by
  intro crypto
  obtain ⟨s, is, hrun, hevents⟩ := Sample.audited.run
  unfold Sample.twoEvents at hevents
  split at hevents
  case h_2 => cases hevents
  case h_1 a b hrows =>
    simp only [Bool.and_eq_true, decide_eq_true_eq] at hevents
    obtain ⟨⟨⟨⟨htenant, horder⟩, hdistinct⟩, ha⟩, hb⟩ := hevents
    have hreachable : Reachable AuthorityInit (AuthorityStep Sample.orchestrator) s :=
      ⟨_, is, Sample.authorityInit_empty, hrun.of_restrict⟩
    have hresults := audit_chain_complete_and_binding Sample.orchestrator Sample.orchestrator
    have hordered : AuditOrder s.db.auditEvents [a, b] := by
      rw [hrows]
      exact ⟨.refl _, by simp [horder]⟩
    have haccepted := hresults.1 s [a, b] hreachable hordered
    obtain ⟨tails, htails, -⟩ := haccepted.accepted
    have htails' := (Sample.verifyAuditEvents_renumbered [a, b] []).trans htails
    have hsound : HashSound [a, b] ([a, b].map Sample.renumbered) := by
      refine .of_hashes htails htails' ?_ ?_
      · simp only [List.map_cons, List.map_nil, List.mem_cons, List.not_mem_nil, or_false,
          forall_eq_or_imp, forall_eq]
        exact ⟨⟨fun _ => rfl, fun h => absurd h hdistinct⟩, fun h => absurd h.symm hdistinct,
          fun _ => rfl⟩
      · simp only [List.map_cons, List.map_nil, List.cons_append, List.nil_append, List.mem_cons,
          List.not_mem_nil, or_false, forall_eq_or_imp, forall_eq]
        exact ⟨ha, hb, ha, hb⟩
    exact ⟨s, a, b, tails, hreachable, hrows, htenant, haccepted, htails, htails', hsound,
      hresults.2 [a, b] _ tails tails htails htails' hsound a.tenantRef rfl⟩

end Idr
