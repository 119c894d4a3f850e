/-
Idr/Authority/ExactlyOnce.lean

Commands are executed once, and proofs are used once.

A commit leaves a receipt, its attestation and a checkpoint behind, and no
later step removes them (`Answered`).  A later call with the identifier of
the command therefore finds the receipt: it is answered from it when its
canonical bytes are those of the command, and refused when they are not.
The canonical bytes determine the fields that the answer compares
(`canonicalBytes_fields`); that two byte strings have different digests
when they differ is assumed of the two strings at hand.

The proofs of a commit are consumed with it, whichever transition it
commits, and the two unique constraints of the table of consumptions keep
every later commit from using them (`Consumed`).
-/
import Idr.Authority.Refinement
import Idr.Protocol.Canonical

namespace Idr

/-! ### The bytes of a command -/

/-- The bytes whose digest identifies a command. -/
def IdrCommandEnvelopeV1.canonicalBytes (self : IdrCommandEnvelopeV1) :
    Except ProductionProtocolErrorV1 (List UInt8) :=
  canonicalJsonBytesV1 (("idr-command-envelope-v1" : Text), self)

/-- **The bytes of a command determine** its run, its tenant, its actor and its caller. -/
theorem canonicalBytes_fields {c d : IdrCommandEnvelopeV1} {bytes : List UInt8}
    (hc : c.canonicalBytes = .ok bytes) (hd : d.canonicalBytes = .ok bytes) :
    c.runId = d.runId ∧ c.tenantRef.asStr = d.tenantRef.asStr ∧
      c.actorRef.asStr = d.actorRef.asStr ∧ c.callerRef.asStr = d.callerRef.asStr := by
  have hvalues : (toValue c).canonical = (toValue d).canonical := by
    have hpair := canonicalJsonBytesV1_injective hc hd
    exact (List.cons.inj (List.cons.inj (Value.array.inj hpair)).2).1
  have hget : ∀ key, ((toValue c).get key).map Value.canonical =
      ((toValue d).get key).map Value.canonical := by
    intro key
    rw [← Value.canonical_get, ← Value.canonical_get, hvalues]
  refine ⟨?_, ?_, ?_, ?_⟩
  · apply Uuid.toString_injective
    exact Value.string.inj (Option.some.inj (hget "run_id"))
  · exact Value.string.inj (Option.some.inj (hget "tenant_ref"))
  · exact Value.string.inj (Option.some.inj (hget "actor_ref"))
  · exact Value.string.inj (Option.some.inj (hget "caller_ref"))

variable [Crypto]

theorem canonicalDigest_eq_ok {command : IdrCommandEnvelopeV1} {digest : Text} :
    command.canonicalDigest = .ok digest ↔
      ∃ bytes, command.canonicalBytes = .ok bytes ∧ digest = sha256Hex bytes := by
  simp only [IdrCommandEnvelopeV1.canonicalDigest, canonicalDigestV1, fromProtocol_eq_ok,
    bind_eq_ok, Except.ok.injEq, eq_comm (a := digest)]
  rfl

variable {o : PostgresIdrOrchestratorV1} {db db' : DatabaseV1} {i j : TransactInputV1}
  {c d : CommitV1} {s t u : AuthorityStateV1}

/-! ### What the database keeps of a commit -/

/-- The receipt of a commit, as a row. -/
def receiptRow (o : PostgresIdrOrchestratorV1) (i : TransactInputV1) (c : CommitV1) :
    CommandReceiptRow :=
  o.commandReceiptRow i.command c.commandDigest (o.receiptOf c.attestation i c.transition)
    c.receiptMac

/-- What a commit leaves behind for those who call again. -/
structure Answered (o : PostgresIdrOrchestratorV1) (i : TransactInputV1) (c : CommitV1)
    (db : DatabaseV1) : Prop where
  receipt : receiptRow o i c ∈ db.commandReceipts
  attestation : c.attestation ∈ db.attestations
  checkpoint : checkpointRow c.checkpoint ∈ db.auditCheckpoints
  consumptions : ∀ v ∈ c.proofs i,
    consumptionRow i.command o.trustDomain v.2 ∈ db.proofConsumptions

theorem Commits.answered (h : Commits o db i c db') : Answered o i c db' where
  receipt := by
    rw [h.commandReceipts]
    exact List.mem_append_right _ (List.mem_singleton_self _)
  attestation := by
    rw [h.attestation.1]
    exact List.mem_append_right _ (List.mem_singleton_self _)
  checkpoint := by
    rw [h.auditCheckpoints]
    exact List.mem_append_right _ (List.mem_singleton_self _)
  consumptions v hv := by
    rw [h.proofConsumptions]
    exact List.mem_append_right _ (List.mem_map.mpr ⟨v, hv, rfl⟩)

omit [Crypto] in
theorem Answered.extends (h : Answered o i c db) (hle : Extends db db') : Answered o i c db' where
  receipt := hle.commandReceipts _ h.receipt
  attestation := hle.attestations _ h.attestation
  checkpoint := hle.auditCheckpoints _ h.checkpoint
  consumptions v hv := hle.proofConsumptions _ (h.consumptions v hv)

/-- Receipts are stored once per command, attestations verify, and proofs are consumed once. -/
structure ReceiptsOk (o : PostgresIdrOrchestratorV1) (db : DatabaseV1) : Prop where
  receipts : UniqueBy CommandReceiptRow.commandId db.commandReceipts
  attestations : ∀ row ∈ db.attestations, o.verifyAttestationRow row = .ok row.attestationId
  consumptions : UniqueBy ConsumptionRow.proofId db.proofConsumptions
  nonces : UniqueBy ConsumptionRow.nonceKey db.proofConsumptions

theorem Commits.receiptsOk (hdb : ReceiptsOk o db) (h : Commits o db i c db') :
    ReceiptsOk o db' where
  receipts := by
    rw [h.commandReceipts]
    exact hdb.receipts.insert h.newReceipt
  attestations := by
    obtain ⟨hrows, -, hverify⟩ := h.attestation
    rw [hrows]
    exact forall_mem_insert hdb.attestations hverify
  consumptions := h.consumptionsUnique hdb.consumptions
  nonces := h.noncesUnique hdb.nonces

theorem receiptsOk_reachable (h : Reachable AuthorityInit (AuthorityStep o) s) :
    ReceiptsOk o s.db := by
  refine database_invariant ?_ ?_ h
  · exact ⟨.nil _, fun row hrow => (by cases hrow), .nil _, .nil _⟩
  · exact fun _ _ _ _ _ _ _ hc hdb => hc.receiptsOk hdb

/-! ### Calling again -/

omit [Crypto] in
theorem lastBy_isSome {ρ : Type} (key : ρ → Nat) {rows : List ρ} {row : ρ} (h : row ∈ rows) :
    ∃ last, lastBy key rows = some last := by
  cases rows with
  | nil => cases h
  | cons r rows =>
    rw [lastBy]
    split
    · exact ⟨r, rfl⟩
    · split
      · exact ⟨r, rfl⟩
      · exact ⟨_, rfl⟩

/-- A tenant for which a commit left a checkpoint has a latest one. -/
theorem latestCheckpoint_of_answered (h : Commits o db i c db') {db₁ : DatabaseV1}
    (hdb : Answered o i c db₁) :
    ∃ checkpoint, latestCheckpointForTenant db₁ o.trustDomain o.environmentRef.asStr
      i.command.tenantRef.asStr = .ok checkpoint := by
  have hmem : checkpointRow c.checkpoint ∈ db₁.auditCheckpoints.filter fun row =>
      row.trustDomain = o.trustDomain && row.environmentRef = o.environmentRef.asStr
        && row.tenantRef = i.command.tenantRef.asStr := by
    refine List.mem_filter.mpr ⟨hdb.checkpoint, ?_⟩
    rw [h.checkpoint]
    simp [checkpointRow]
  obtain ⟨row, hrow⟩ := lastBy_isSome CheckpointRow.auditSequence hmem
  simp only [latestCheckpointForTenant, bind_eq_ok, okOr_eq_ok, Except.ok.injEq]
  exact ⟨_, row, hrow, rfl⟩

/-- The receipt of an answered command is found. -/
theorem Answered.commandReceipt (hok : ReceiptsOk o db) (h : Answered o i c db)
    (hid : j.command.commandId = i.command.commandId) :
    db.commandReceipt j.command.commandId = some (receiptRow o i c) := by
  rw [hid]
  exact hok.receipts.find?_key.mpr ⟨h.receipt, rfl⟩

/-- A call with the identifier of an answered command is answered, or fails. -/
theorem transactInner_answered (hok : ReceiptsOk o db) (h : Answered o i c db)
    (hid : j.command.commandId = i.command.commandId) :
    o.transactInner db j = (do
      rejectIf (j.trustRoot.trustDomain ≠ o.trustDomain
          ∨ j.trustRoot.environmentRef ≠ o.environmentRef)
        .bindingMismatch
      let digest ← j.command.canonicalDigest
      let (receipt, checkpoint) ← o.replayReceipt db j digest (receiptRow o i c)
      .ok (receipt, checkpoint, db)) := by
  unfold PostgresIdrOrchestratorV1.transactInner
  rw [h.commandReceipt hok hid]

/-- Proofs only verify under a trust root of the orchestrator's domain and environment. -/
theorem verifyProofs_trustRoot {command : IdrCommandEnvelopeV1} {now : Nat}
    {root : TrustRootSnapshotV1} {proofs : List VerifiedProductionProofV1}
    (h : o.verifyProofsInsideTransaction command now root = .ok proofs) :
    root.trustDomain = o.trustDomain ∧ root.environmentRef = o.environmentRef := by
  obtain ⟨hkinds, -, -⟩ := verifyProofsInsideTransaction_eq_ok h
  -- every command requires a proof of its caller
  have hcaller : ProductionProofKindV1.callerAuthentication ∈
      (command.proofs.map (·.claims.proofKind)).toFinset := by
    rw [hkinds]
    exact Finset.mem_insert_self _ _
  obtain ⟨envelope, henvelope, -⟩ := List.mem_map.mp (List.mem_toFinset.mp hcaller)
  simp only [PostgresIdrOrchestratorV1.verifyProofsInsideTransaction, bind_eq_ok] at h
  obtain ⟨-, -, digest, -, -, -, subject, -, hproofs⟩ := h
  obtain ⟨proof, hproof⟩ := exists_of_mapM_eq_ok hproofs henvelope
  simp only [PostgresIdrOrchestratorV1.verifyCommandProof, bind_eq_ok, okOr_eq_ok,
    fromProtocol_eq_ok, TrustRootSnapshotV1.verifyAt, exists_unit_eq_ok, rejectIf_eq_ok,
    exists_const, not_or, not_not] at hproof
  obtain ⟨issuer, -, -, key, -, ⟨hdomain, henvironment, -⟩, -⟩ := hproof
  exact ⟨hdomain, henvironment⟩

/-! ### The results -/

/-- **What a commit means for a later call** `j` on the database `db`. -/
structure ExactlyOnce (o : PostgresIdrOrchestratorV1) (i : TransactInputV1) (c : CommitV1)
    (db : DatabaseV1) (j : TransactInputV1) : Prop where
  /-- The identifier of the command is never committed again, and a call with it changes nothing. -/
  once : j.command.commandId = i.command.commandId →
    (o.transact db j).1 = db ∧ ∀ d db', ¬ Commits o db j d db'
  /-- The same bytes, with proofs that verify, are answered with the stored receipt. -/
  replayed : j.command.commandId = i.command.commandId →
    ∀ bytes, i.command.canonicalBytes = .ok bytes → j.command.canonicalBytes = .ok bytes →
      (∃ proofs, o.verifyProofsInsideTransaction j.command j.trustedNow j.trustRoot = .ok proofs) →
        ∃ checkpoint, (o.transact db j).2 =
          .ok ({ o.receiptOf c.attestation i c.transition with idempotentReplay := true },
            checkpoint)
  /-- Other bytes are a conflict, under any trust root that the orchestrator admits at all. -/
  conflicting : j.command.commandId = i.command.commandId →
    ∀ bytes bytes', i.command.canonicalBytes = .ok bytes → j.command.canonicalBytes = .ok bytes' →
      bytes ≠ bytes' → (sha256Hex bytes = sha256Hex bytes' → bytes = bytes') →
        (o.transact db j).2 = .error
          (if j.trustRoot.trustDomain = o.trustDomain ∧
            j.trustRoot.environmentRef = o.environmentRef
            then .idempotencyConflict else .bindingMismatch)
  /-- The proofs of the commit are consumed, and no other commit uses one of them. -/
  consumed : (∀ v ∈ c.proofs i, consumptionRow i.command o.trustDomain v.2 ∈ db.proofConsumptions) ∧
    ∀ d db', Commits o db j d db' → ∀ v ∈ c.proofs i, ∀ w ∈ d.proofs j,
      v.2.proofId ≠ w.2.proofId ∧
        (i.command.tenantRef = j.command.tenantRef → v.2.nonce ≠ w.2.nonce)

omit [Crypto] in
/-- A stored receipt is that of the same command exactly when the digests agree. -/
theorem sameCommand_of_bytes {bytes : List UInt8}
    (hi : i.command.canonicalBytes = .ok bytes) (hj : j.command.canonicalBytes = .ok bytes) :
    o.sameCommand (receiptRow o i c) j.command c.commandDigest := by
  obtain ⟨hrun, htenant, hactor, hcaller⟩ := canonicalBytes_fields hi hj
  exact ⟨rfl, rfl, htenant, hrun, hactor, hcaller, rfl⟩

theorem Answered.replayed (hok : ReceiptsOk o db) (h : Answered o i c db) {db₀ db₁ : DatabaseV1}
    (hc : Commits o db₀ i c db₁) (hid : j.command.commandId = i.command.commandId)
    {bytes : List UInt8} (hi : i.command.canonicalBytes = .ok bytes)
    (hj : j.command.canonicalBytes = .ok bytes) {proofs : List VerifiedProductionProofV1}
    (hproofs : o.verifyProofsInsideTransaction j.command j.trustedNow j.trustRoot = .ok proofs) :
    ∃ checkpoint, (o.transact db j).2 =
      .ok ({ o.receiptOf c.attestation i c.transition with idempotentReplay := true },
        checkpoint) := by
  have hdigest : j.command.canonicalDigest = .ok c.commandDigest := by
    obtain ⟨bytes', hbytes', hdigest⟩ := canonicalDigest_eq_ok.mp hc.commandDigest
    rw [hi] at hbytes'
    cases hbytes'
    exact canonicalDigest_eq_ok.mpr ⟨bytes, hj, hdigest⟩
  -- every attestation of the database verifies, so the one that is found does
  obtain ⟨attestation, hattestation⟩ : ∃ row,
      db.attestations.find? (fun row => row.attestationId = c.attestation.attestationId) =
        some row := by
    rw [← Option.isSome_iff_exists, List.find?_isSome]
    exact ⟨c.attestation, h.attestation, by simp⟩
  have hverify := hok.attestations attestation (List.mem_of_find?_eq_some hattestation)
  have hattestationId : attestation.attestationId = c.attestation.attestationId := by
    simpa using List.find?_some hattestation
  obtain ⟨checkpoint, hcheckpoint⟩ := latestCheckpoint_of_answered hc h
  obtain ⟨hdomain, henvironment⟩ := verifyProofs_trustRoot hproofs
  have htenant : j.command.tenantRef.asStr = i.command.tenantRef.asStr :=
    (canonicalBytes_fields hi hj).2.1.symm
  have hreplay : o.replayReceipt db j c.commandDigest (receiptRow o i c) =
      .ok ({ o.receiptOf c.attestation i c.transition with idempotentReplay := true },
        checkpoint) := by
    simp only [PostgresIdrOrchestratorV1.replayReceipt, bind_eq_ok, require_eq_ok, rejectIf_eq_ok,
      exists_const, okOr_eq_ok, not_not]
    refine ⟨sameCommand_of_bytes hi hj, proofs, hproofs, rfl, c.receiptMac, hc.receiptMac, rfl,
      attestation, hattestation, attestation.attestationId, hverify, hattestationId, checkpoint, ?_,
      rfl⟩
    rw [htenant]
    exact hcheckpoint
  have hinner : o.transactInner db j =
      .ok ({ o.receiptOf c.attestation i c.transition with idempotentReplay := true },
        checkpoint, db) := by
    rw [transactInner_answered hok h hid]
    simp only [bind_eq_ok, rejectIf_eq_ok, exists_const, not_or, not_not]
    exact ⟨⟨hdomain, henvironment⟩, c.commandDigest, hdigest, _, hreplay, rfl⟩
  exact ⟨checkpoint, by rw [PostgresIdrOrchestratorV1.transact, hinner]⟩

theorem Answered.conflicting (hok : ReceiptsOk o db) (h : Answered o i c db) {db₀ db₁ : DatabaseV1}
    (hc : Commits o db₀ i c db₁) (hid : j.command.commandId = i.command.commandId)
    {bytes bytes' : List UInt8} (hi : i.command.canonicalBytes = .ok bytes)
    (hj : j.command.canonicalBytes = .ok bytes') (hne : bytes ≠ bytes')
    (hcollision : sha256Hex bytes = sha256Hex bytes' → bytes = bytes') :
    (o.transact db j).2 = .error
      (if j.trustRoot.trustDomain = o.trustDomain ∧ j.trustRoot.environmentRef = o.environmentRef
        then .idempotencyConflict else .bindingMismatch) := by
  have hdigest : j.command.canonicalDigest = .ok (sha256Hex bytes') :=
    canonicalDigest_eq_ok.mpr ⟨bytes', hj, rfl⟩
  have hstored : c.commandDigest = sha256Hex bytes := by
    obtain ⟨bytes₁, hbytes₁, hdigest⟩ := canonicalDigest_eq_ok.mp hc.commandDigest
    rw [hi] at hbytes₁
    cases hbytes₁
    exact hdigest
  have hother : ¬ o.sameCommand (receiptRow o i c) j.command (sha256Hex bytes') := by
    rintro ⟨-, -, -, -, -, -, hsame⟩
    have hsame : c.commandDigest = sha256Hex bytes' := hsame
    exact hne (hcollision (hstored.symm.trans hsame))
  have hreplay : o.replayReceipt db j (sha256Hex bytes') (receiptRow o i c) =
      .error .idempotencyConflict := by
    unfold PostgresIdrOrchestratorV1.replayReceipt require
    rw [if_neg hother]
    rfl
  have hinner : o.transactInner db j = .error
      (if j.trustRoot.trustDomain = o.trustDomain ∧ j.trustRoot.environmentRef = o.environmentRef
        then .idempotencyConflict else .bindingMismatch) := by
    rw [transactInner_answered hok h hid, rejectIf, hdigest]
    by_cases hroot : j.trustRoot.trustDomain = o.trustDomain ∧
        j.trustRoot.environmentRef = o.environmentRef
    · rw [if_pos hroot, if_neg (by simp [hroot.1, hroot.2])]
      show (o.replayReceipt db j (sha256Hex bytes') (receiptRow o i c) >>= _) = _
      rw [hreplay]
      rfl
    · rw [if_neg hroot, if_pos (not_and_or.mp hroot)]
      rfl
  rw [PostgresIdrOrchestratorV1.transact, hinner]

/-- **Commands are executed exactly once, and proofs are used once.**  Whatever calls come between
and in which order, a later call with the identifier of a committed command is answered from the
receipt or refused and changes nothing, and no later commit uses a proof of the command. -/
theorem exactly_once (hs : Reachable AuthorityInit (AuthorityStep o) s)
    (hstep : AuthorityStep o s i t) (hc : Commits o s.db i c t.db)
    {is : List TransactInputV1} (hrun : Run (AuthorityStep o) t is u) (j : TransactInputV1) :
    ExactlyOnce o i c u.db j := by
  have hok := receiptsOk_reachable ((hs.snoc hstep).run hrun)
  have hanswered : Answered o i c u.db := hc.answered.extends (authorityRun_extends hrun)
  constructor
  · intro hid
    have hfound := hanswered.commandReceipt hok hid
    constructor
    · unfold PostgresIdrOrchestratorV1.transact
      split
      next hcall =>
        rcases transactInner_eq_ok hcall with ⟨hdb, -⟩ | ⟨d, hd, -⟩
        · exact hdb
        · rw [hd.unanswered] at hfound
          cases hfound
      next => rfl
    · intro d db' hd
      rw [hd.unanswered] at hfound
      cases hfound
  · rintro hid bytes hi hj ⟨proofs, hproofs⟩
    exact hanswered.replayed hok hc hid hi hj hproofs
  · intro hid bytes bytes' hi hj hne hcollision
    exact hanswered.conflicting hok hc hid hi hj hne hcollision
  · refine ⟨hanswered.consumptions, fun d db' hd v hv w hw => ?_⟩
    -- after the second commit both consumptions are rows of one table
    have hok' := hd.receiptsOk hok
    have hv' := hd.extends.proofConsumptions _ (hanswered.consumptions v hv)
    have hw' := hd.answered.consumptions w hw
    have hother : i.command.commandId ≠ j.command.commandId := by
      intro hid
      have hfound := hanswered.commandReceipt hok hid.symm
      rw [hd.unanswered] at hfound
      cases hfound
    constructor
    · intro hproofId
      have hrow := hok'.consumptions.eq hv' hw' hproofId
      exact hother (congrArg ConsumptionRow.commandId hrow)
    · intro htenant hnonce
      have hkey : (consumptionRow i.command o.trustDomain v.2).nonceKey =
          (consumptionRow j.command o.trustDomain w.2).nonceKey := by
        simp only [ConsumptionRow.nonceKey, consumptionRow, htenant, hnonce]
      have hrow := hok'.nonces.eq hv' hw' hkey
      exact hother (congrArg ConsumptionRow.commandId hrow)

omit [Crypto] in
/-- The first call of the sample is answered when it is made again. -/
theorem exactly_once_sample : ∃ (t : AuthorityStateV1) (c : CommitV1) (checkpoint : _),
    @Commits Sample.crypto Sample.orchestrator Sample.emptyAuthority.db Sample.firstCall c t.db ∧
      (@PostgresIdrOrchestratorV1.transact Sample.crypto Sample.orchestrator t.db
        Sample.firstCall).2 =
        .ok ({ Sample.orchestrator.receiptOf c.attestation Sample.firstCall c.transition with
          idempotentReplay := true }, checkpoint) := by
  let crypto := Sample.crypto
  obtain ⟨t, c, hstep, hc⟩ := Sample.started
  obtain ⟨bytes, hbytes, -⟩ := canonicalDigest_eq_ok.mp hc.commandDigest
  have honce :=
    exactly_once (.of_init Sample.authorityInit_empty) hstep hc (.nil t) Sample.firstCall
  obtain ⟨checkpoint, hcheckpoint⟩ := honce.replayed rfl bytes hbytes hbytes ⟨_, hc.verified⟩
  exact ⟨t, c, checkpoint, hc, hcheckpoint⟩

end Idr
