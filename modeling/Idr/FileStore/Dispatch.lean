/-
Idr/FileStore/Dispatch.lean

What becomes of a dispatched attempt.

`StoreChange.attempt_cases` lists what one call can do to one attempt.  From
it follow two invariants of all runs: an attempt waits for reconciliation
only when its action is withdrawn (`Reconciled`), and a dispatched attempt
without a receipt is still dispatched or waits for reconciliation, as long
as no late report of a permit meets it (`Unresolved`).  It also follows where
receipts come from: an attempt has one only after a valid and proven receipt
of that attempt was committed (`receipt_committed`).
-/
import Idr.FileStore.OneTime

namespace Idr

open HumanCenteredContractRefV1

section Dispatch

variable [Crypto] [FloatText]
variable {current candidate : HumanCenteredStoreSnapshotV1} {clock : Option Nat}
  {call : StoreCallV1}

/-! ### One attempt through one change -/

/-- **Everything a change can do to an attempt** `a` of the reservation `r`. -/
inductive AttemptStep (current candidate : HumanCenteredStoreSnapshotV1) (clock : Option Nat)
    (call : StoreCallV1) (r : ExecutionReservationRecordV1) (a : ExecutionAttemptRecordV1) :
    ExecutionAttemptRecordV1 → Prop
  | same : AttemptStep current candidate clock call r a a
  | withdrawn : candidate.isCurrent r.actionRef = false →
      AttemptStep current candidate clock call r a (a.withStatus a.status.withdrawn)
  | settled {receipt receiptRef proofEnvelope verifiedAt} :
      CommitCall call (.executionReceipt receipt) (some (proofEnvelope, verifiedAt)) →
      checkReceiptProof clock (.executionReceipt receipt) (some (proofEnvelope, verifiedAt))
        = .ok () →
      receiptMatchesAttemptParts receipt r.actionRef a = true →
      candidate.records = current.records ++ [.executionReceipt receipt] →
      a.status = .dispatched ∨ a.status = .reconciliationRequired →
      AttemptStep current candidate clock call r a
        (a.settle receipt receiptRef proofEnvelope verifiedAt)
  | gone {permit expected next} : MarkCall call permit expected next →
      current.isCurrent r.actionRef = false →
      AttemptStep current candidate clock call r a (a.withStatus a.withdrawnStatus)
  | expired {permit expected next trustedNow} : MarkCall call permit expected next →
      clock = some trustedNow →
      current.executionReservations.find? (fun r => decide (r.reservationId = permit.reservationId))
        = some r →
      r.attempts.getLast? = some a → permitMatchesAttempt permit r a = true →
      current.isCurrent r.actionRef = true → leaseOver a trustedNow = true →
      AttemptStep current candidate clock call r a (a.withStatus .expired)
  | advanced {permit expected next trustedNow a'} : MarkCall call permit expected next →
      a.status = expected → a.advance next trustedNow = .ok a' →
      AttemptStep current candidate clock call r a a'
  | recovered : a.status = .permitIssued ∨ a.status = .delivered →
      AttemptStep current candidate clock call r a (a.withStatus .expired)

/-- The attempt was there before the change, or it is the attempt of a permit that was issued. -/
def AttemptOrigin (current candidate : HumanCenteredStoreSnapshotV1) (clock : Option Nat)
    (call : StoreCallV1) (r' : ExecutionReservationRecordV1) (a' : ExecutionAttemptRecordV1) :
    Prop :=
  (∃ r ∈ current.executionReservations, r.actionRef = r'.actionRef ∧
    ∃ a ∈ r.attempts, AttemptStep current candidate clock call r a a') ∨
  ∃ verifiedRequest trustedNow, a' = nextAttempt verifiedRequest trustedNow

/-- A reservation whose last attempt was changed. -/
theorem attemptOrigin_changeLastAttempt {reservationId : Uuid}
    {change : ExecutionAttemptRecordV1 → ExecutionAttemptRecordV1}
    {r : ExecutionReservationRecordV1} {a : ExecutionAttemptRecordV1}
    (hr : current.executionReservations.find? (fun r => decide (r.reservationId = reservationId))
      = some r) (ha : r.attempts.getLast? = some a)
    (hstep : AttemptStep current (changeLastAttempt current reservationId change) clock call r a
      (change a)) {r' : ExecutionReservationRecordV1}
    (hr' : r' ∈ (changeLastAttempt current reservationId change).executionReservations)
    {a' : ExecutionAttemptRecordV1} (ha' : a' ∈ r'.attempts) :
    AttemptOrigin current (changeLastAttempt current reservationId change) clock call r' a' := by
  left
  rcases mem_modifyFirst hr' with hold | ⟨x, hx, rfl⟩
  · exact ⟨r', hold, rfl, a', ha', .same⟩
  · obtain rfl := Option.some.inj (hr.symm.trans hx)
    have hmem := List.mem_of_find?_eq_some hr
    rcases mem_modifyLast ha' with hold | ⟨last, hlast, rfl⟩
    · exact ⟨r, hmem, rfl, a', hold, .same⟩
    · obtain rfl := Option.some.inj (ha.symm.trans hlast)
      exact ⟨r, hmem, rfl, a, List.mem_of_getLast? ha, hstep⟩

omit [Crypto] [FloatText] in
/-- What it means that a contract is not current. -/
theorem isCurrent_eq_false_iff {s : HumanCenteredStoreSnapshotV1} {r : HumanCenteredContractRefV1} :
    s.isCurrent r = false ↔ r ∉ s.currentPointers ∨ r ∈ s.invalidatedRefs := by
  rw [HumanCenteredStoreSnapshotV1.isCurrent, Bool.and_eq_false_iff, Bool.not_eq_false',
    List.contains_iff_mem, ← Bool.not_eq_true, List.contains_iff_mem]

omit [Crypto] [FloatText] in
/-- Only the actions that are no longer current after a commit are withdrawn. -/
theorem isCurrent_eq_false_of_commit {reference stale : HumanCenteredContractRefV1}
    {refs inv : List HumanCenteredContractRefV1} (hnew : reference ∉ refs)
    (hstale : previousPointer current.currentPointers reference = some stale)
    (hpointers : candidate.currentPointers = replacePointer current.currentPointers reference)
    (hinvalidated : ∀ r, r ∈ candidate.invalidatedRefs ↔ r ∈ inv) {r : HumanCenteredContractRefV1}
    (hr : r ∈ refs) (hwithdrawn : (stale.kind = .action ∧ r = stale)
      ∨ ¬ (r ∈ current.currentPointers ∧ r ∉ inv)) : candidate.isCurrent r = false := by
  have hne : r ≠ reference := by
    rintro rfl
    exact hnew hr
  rw [isCurrent_eq_false_iff, hpointers, hinvalidated, mem_replacePointer]
  by_cases hinv : r ∈ inv
  · exact .inr hinv
  · left
    rintro (heq | ⟨hmem, hother⟩)
    · exact hne heq
    · rcases hwithdrawn with ⟨-, rfl⟩ | hgone
      · rw [(previousPointer_some hstale).2] at hother
        cases hother
      · exact hgone ⟨hmem, hinv⟩

omit [Crypto] [FloatText] in
/-- A withdrawn attempt is under way when it was before. -/
theorem withdrawn_underWay {status : ExecutionReservationStatusV1} :
    status.withdrawn = .dispatched ∨ status.withdrawn = .reconciliationRequired ↔
      status = .dispatched ∨ status = .reconciliationRequired := by
  cases status <;> decide

/-- An attempt after a commit. -/
theorem attemptOrigin_commit {contract : HumanCenteredContractSnapshotV1}
    {reference : HumanCenteredContractRefV1}
    {receiptProof : Option (SignedProofEnvelopeV1 × Nat)} {refs : List HumanCenteredContractRefV1}
    (hs : Accepted current refs) (hnew : reference ∉ refs)
    (hcommit : CommitCall call contract receiptProof)
    (hproof : checkReceiptProof clock contract receiptProof = .ok ())
    (h : commitChecked current contract reference receiptProof = .ok candidate)
    {r' : ExecutionReservationRecordV1} (hr' : r' ∈ candidate.executionReservations)
    {a' : ExecutionAttemptRecordV1} (ha' : a' ∈ r'.attempts) :
    AttemptOrigin current candidate clock call r' a' := by
  obtain ⟨-, withdrawn, settled, hwithdrawn, hsettled, rfl⟩ := commitChecked_eq_ok.mp h
  obtain ⟨hsame, hcases⟩ := settleReceipt_eq_ok hsettled
  set candidate := { settled with
    currentPointers := replacePointer settled.currentPointers reference } with hcandidate
  -- an attempt after the previous revision is withdrawn, before a receipt settles one
  have horigin : ∀ x ∈ withdrawn.executionReservations, ∀ a ∈ x.attempts,
      ∃ r ∈ current.executionReservations, r.actionRef = x.actionRef ∧ ∃ b ∈ r.attempts, a = b ∨
        (candidate.isCurrent r.actionRef = false ∧ a = b.withStatus b.status.withdrawn) := by
    intro x hx a ha
    rcases hprevious : previousPointer current.currentPointers reference with _ | stale
    · rw [hprevious] at hwithdrawn
      obtain rfl := Except.ok.inj hwithdrawn
      exact ⟨x, hx, rfl, a, ha, .inl rfl⟩
    · rw [hprevious] at hwithdrawn
      obtain ⟨inv, -, rfl⟩ := invalidateDependents_eq_ok.mp hwithdrawn
      obtain ⟨r, hr, rfl⟩ := List.mem_map.mp hx
      split at ha
      case isTrue hcondition =>
        obtain ⟨action, hrecorded⟩ := checkReservations_recorded hs.reservations r hr
        have hmem := hs.refsOf.findRecord_isSome.mp (Option.isSome_of_eq_some hrecorded)
        have hgone : candidate.isCurrent r.actionRef = false := by
          refine isCurrent_eq_false_of_commit hnew hprevious ?_ ?_ hmem hcondition
          · rw [hcandidate, hsame]
          · intro y
            rw [hcandidate, hsame]
            show y ∈ dedupAdjacent (sortRefs inv) ↔ _
            rw [mem_dedupAdjacent, mem_sortRefs]
        rw [if_pos hcondition]
        rcases mem_modifyLast ha with hold | ⟨last, hlast, rfl⟩
        · exact ⟨r, hr, rfl, a, hold, .inl rfl⟩
        · exact ⟨r, hr, rfl, last, List.mem_of_getLast? hlast, .inr ⟨hgone, rfl⟩⟩
      case isFalse hcondition =>
        rw [if_neg hcondition]
        exact ⟨r, hr, rfl, a, ha, .inl rfl⟩
  left
  rcases hcases with ⟨-, rfl⟩ | ⟨receipt, proofEnvelope, verifiedAt, rfl, rfl, happly⟩
  · obtain ⟨r, hr, href, b, hb, rfl | ⟨hgone, rfl⟩⟩ := horigin r' hr' a' ha'
    · exact ⟨r, hr, href, a', hb, .same⟩
    · exact ⟨r, hr, href, b, hb, .withdrawn hgone⟩
  · obtain ⟨reservation, attempt, hreservation, hattempt, hstatus, hmatches, hsettledEq⟩ :=
      applyExecutionReceiptTransition_eq_ok.mp happly
    have hrecords : candidate.records = current.records ++ [.executionReceipt receipt] := by
      rw [hcandidate, hsame, ← (withdrawnFrom_of_withdrawPrevious hwithdrawn).records]
    have hmem : r' ∈ modifyFirst (fun r => decide (r.actionRef = receipt.actionRef))
        (·.settle receipt reference proofEnvelope verifiedAt) withdrawn.executionReservations := by
      have hr'' : r' ∈ settled.executionReservations := hr'
      rw [hsettledEq] at hr''
      exact hr''
    rcases mem_modifyFirst hmem with hold | ⟨x, hx, rfl⟩
    · obtain ⟨r, hr, href, b, hb, rfl | ⟨hgone, rfl⟩⟩ := horigin r' hold a' ha'
      · exact ⟨r, hr, href, a', hb, .same⟩
      · exact ⟨r, hr, href, b, hb, .withdrawn hgone⟩
    · obtain rfl := Option.some.inj (hreservation.symm.trans hx)
      have hreservationMem := List.mem_of_find?_eq_some hreservation
      rcases mem_modifyFirst ha' with hold | ⟨y, hy, rfl⟩
      · obtain ⟨r, hr, href, b, hb, rfl | ⟨hgone, rfl⟩⟩ :=
          horigin reservation hreservationMem a' hold
        · exact ⟨r, hr, href, a', hb, .same⟩
        · exact ⟨r, hr, href, b, hb, .withdrawn hgone⟩
      · obtain rfl := Option.some.inj (hattempt.symm.trans hy)
        obtain ⟨r, hr, href, b, hb, rfl | ⟨hgone, rfl⟩⟩ :=
          horigin reservation hreservationMem attempt (List.mem_of_find?_eq_some hattempt)
        · rw [← href] at hmatches
          exact ⟨r, hr, href, attempt, hb, .settled hcommit hproof hmatches hrecords hstatus⟩
        · -- settling does not see whether the attempt was withdrawn before
          rw [← href] at hmatches
          refine ⟨r, hr, href, b, hb, ?_⟩
          show AttemptStep current candidate clock call r b
            (b.settle receipt reference proofEnvelope verifiedAt)
          exact .settled hcommit hproof hmatches hrecords (withdrawn_underWay.mp hstatus)

/-- **Where every attempt comes from.** -/
theorem StoreChange.attempt_cases (hs : validateSnapshot current = .ok ())
    (h : StoreChange current clock call candidate) {r' : ExecutionReservationRecordV1}
    (hr' : r' ∈ candidate.executionReservations) {a' : ExecutionAttemptRecordV1}
    (ha' : a' ∈ r'.attempts) : AttemptOrigin current candidate clock call r' a' := by
  cases h with
  | commit hcommit href hproof hnew hchecked =>
    obtain ⟨refs, hs⟩ := validateSnapshot_eq_ok.mp hs
    refine attemptOrigin_commit hs ?_ hcommit hproof hchecked hr' ha'
    intro hmem
    rw [hs.refsOf.any_isAt.mpr hmem] at hnew
    cases hnew
  | @issue verifiedRequest _ trustedNow _ _ _ _ _ _ _ _ hreserve =>
    rcases reserveAttempt_eq_ok.mp hreserve with
      ⟨reservation, previous, hfind, -, -, -, -, -, -, rfl⟩ | ⟨-, -, -, rfl⟩
    · rcases mem_modifyFirst hr' with hold | ⟨r, hr, rfl⟩
      · exact .inl ⟨r', hold, rfl, a', ha', .same⟩
      · rcases List.mem_append.mp ha' with hold | hlast
        · exact .inl ⟨r, List.mem_of_find?_eq_some hr, rfl, a', hold, .same⟩
        · exact .inr ⟨verifiedRequest, trustedNow, List.mem_singleton.mp hlast⟩
    · rcases List.mem_append.mp hr' with hold | hlast
      · exact .inl ⟨r', hold, rfl, a', ha', .same⟩
      · obtain rfl := List.mem_singleton.mp hlast
        exact .inr ⟨verifiedRequest, trustedNow, List.mem_singleton.mp ha'⟩
  | withdrawn hmark _ hreservation hattempt _ hgone =>
    exact attemptOrigin_changeLastAttempt hreservation hattempt (.gone hmark hgone) hr' ha'
  | expired hmark hclock hreservation hattempt hmatches hcurrent hover =>
    exact attemptOrigin_changeLastAttempt hreservation hattempt
      (.expired hmark hclock hreservation hattempt hmatches hcurrent hover) hr' ha'
  | advanced hmark _ hreservation hattempt _ _ _ hstatus hadvance =>
    exact attemptOrigin_changeLastAttempt hreservation hattempt (.advanced hmark hstatus hadvance)
      hr' ha'
  | @recovered _ _ _ reservation attempt _ hreservation hattempt hstatus _ =>
    -- the reservation was found by its action, and is changed by its identifier
    have hfound := (uniqueBy_reservationId hs).find?_key.mpr
      ⟨List.mem_of_find?_eq_some hreservation, rfl⟩
    exact attemptOrigin_changeLastAttempt hfound hattempt (.recovered hstatus) hr' ha'

/-! ### Receipts -/

/-- **The step commits a receipt of the attempt**: the receipt matches the attempt, its proof holds
at the time of the call, and it is stored. -/
def CommitsReceiptOf (actionRef : HumanCenteredContractRefV1) (a : ExecutionAttemptRecordV1)
    (_ : List StoreInputV1) (s : FileStoreStateV1) (i : StoreInputV1) (t : FileStoreStateV1) :
    Prop :=
  i.persisted = true ∧ ∃ receipt proofEnvelope verifiedAt,
    i.call = .commitExecutionReceipt receipt proofEnvelope verifiedAt ∧
    checkReceiptProof i.clock (.executionReceipt receipt) (some (proofEnvelope, verifiedAt))
      = .ok () ∧
    receiptMatchesAttemptParts receipt actionRef a = true ∧
    t.snapshot.records = s.snapshot.records ++ [.executionReceipt receipt]

/-- The snapshot has the attempt already, with a receipt. -/
def HasReceipt (s : HumanCenteredStoreSnapshotV1) (actionRef : HumanCenteredContractRefV1)
    (a : ExecutionAttemptRecordV1) : Prop :=
  ∃ r ∈ s.executionReservations, r.actionRef = actionRef ∧
    ∃ b ∈ r.attempts, b.identity = a.identity ∧ b.receiptRef.isSome = true

omit [Crypto] [FloatText] in
/-- A receipt matches an attempt by what identifies it. -/
theorem receiptMatchesAttemptParts_congr {receipt : ExecutionReceiptV1}
    {actionRef : HumanCenteredContractRefV1} {a b : ExecutionAttemptRecordV1}
    (h : a.identity = b.identity) :
    receiptMatchesAttemptParts receipt actionRef a =
      receiptMatchesAttemptParts receipt actionRef b := by
  show receiptMatchesAttemptParts receipt actionRef a.identity =
    receiptMatchesAttemptParts receipt actionRef b.identity
  rw [h]

/-- A step leaves an attempt its receipt, or commits one. -/
theorem FileStoreStep.receipt_cases {s t : FileStoreStateV1} {i : StoreInputV1}
    (hs : validateSnapshot s.snapshot = .ok ()) (hstep : FileStoreStep s i t)
    {r' : ExecutionReservationRecordV1} (hr' : r' ∈ t.snapshot.executionReservations)
    {a' : ExecutionAttemptRecordV1} (ha' : a' ∈ r'.attempts) (hsome : a'.receiptRef.isSome = true) :
    HasReceipt s.snapshot r'.actionRef a' ∨ ∀ js, CommitsReceiptOf r'.actionRef a' js s i t := by
  rw [hstep.2.1] at hr'
  rcases i.next_cases s.snapshot with hsame | ⟨candidate, hpersisted, hchange, hseal, -⟩
  · rw [hsame] at hr'
    exact .inl ⟨r', hr', rfl, a', ha', rfl, hsome⟩
  obtain ⟨-, heq⟩ := sealNextSnapshot_eq_ok.mp hseal
  rw [heq] at hr'
  rcases hchange.attempt_cases hs hr' ha' with
    ⟨r, hr, href, a, ha, hattempt⟩ | ⟨verifiedRequest, trustedNow, rfl⟩
  · have hkept : a.identity = a'.identity → a.receiptRef = a'.receiptRef →
        HasReceipt s.snapshot r'.actionRef a' := by
      intro hidentity hreceipt
      rw [← hreceipt] at hsome
      exact ⟨r, hr, href, a, ha, hidentity, hsome⟩
    cases hattempt with
    | same => exact .inl (hkept rfl rfl)
    | withdrawn => exact .inl (hkept rfl rfl)
    | @settled receipt receiptRef proofEnvelope verifiedAt hcommit hproof hmatches hrecords _ =>
      right
      intro _
      refine ⟨hpersisted, receipt, proofEnvelope, verifiedAt, ?_, hproof, ?_, ?_⟩
      · generalize i.call = call at hcommit
        cases hcommit
        rfl
      · rw [← href]
        exact hmatches
      · rw [hstep.2.1, heq]
        exact hrecords
    | gone => exact .inl (hkept rfl rfl)
    | expired => exact .inl (hkept rfl rfl)
    | @advanced _ _ next _ _ _ _ hadvance =>
      refine .inl (hkept (ExecutionAttemptRecordV1.identity_advance hadvance).symm ?_)
      cases next <;> first | (obtain rfl := Except.ok.inj hadvance; rfl) | cases hadvance
    | recovered => exact .inl (hkept rfl rfl)
  · cases hsome

/-- **Where receipts come from**, along a run: an attempt had its receipt before, or the receipt was
committed on the way. -/
theorem receipt_committed {s t : FileStoreStateV1} {is : List StoreInputV1}
    (hs : validateSnapshot s.snapshot = .ok ()) (hrun : Run FileStoreStep s is t) :
    ∀ r' ∈ t.snapshot.executionReservations, ∀ a' ∈ r'.attempts, a'.receiptRef.isSome = true →
      HasReceipt s.snapshot r'.actionRef a' ∨
        Happened FileStoreStep (CommitsReceiptOf r'.actionRef a') s is := by
  refine hrun.history (P := fun is t => ∀ r' ∈ t.snapshot.executionReservations,
    ∀ a' ∈ r'.attempts, a'.receiptRef.isSome = true → HasReceipt s.snapshot r'.actionRef a' ∨
      Happened FileStoreStep (CommitsReceiptOf r'.actionRef a') s is) ?_ ?_
  · exact fun r' hr' a' ha' hsome => .inl ⟨r', hr', rfl, a', ha', rfl, hsome⟩
  · intro js u i v hjs hu hstep r' hr' a' ha' hsome
    have hvalid : validateSnapshot u.snapshot = .ok () :=
      hjs.preserves (P := fun s => validateSnapshot s.snapshot = .ok ())
        (fun _ _ _ hs hstep => hstep.valid hs) hs
    rcases hstep.receipt_cases hvalid hr' ha' hsome with
      ⟨r, hr, href, a, ha, hidentity, hsome⟩ | hcommits
    · rw [← href]
      rcases hu r hr a ha hsome with ⟨q, hq, hqref, b, hb, hsame, hbefore⟩ | hhappened
      · exact .inl ⟨q, hq, hqref, b, hb, hsame.trans hidentity, hbefore⟩
      · refine .inr ((hhappened.append [i]).mono ?_)
        rintro _ _ _ _ ⟨hpersisted, receipt, proofEnvelope, verifiedAt, hcall, hproof, hmatches,
          hrecords⟩
        rw [receiptMatchesAttemptParts_congr hidentity] at hmatches
        exact ⟨hpersisted, receipt, proofEnvelope, verifiedAt, hcall, hproof, hmatches, hrecords⟩
    · exact .inr (.last hjs hstep (hcommits js))

/-! ### Withdrawn actions -/

/-- What is on record and is not current does not become current again. -/
theorem StoreChange.isCurrent_eq_false (hs : validateSnapshot current = .ok ())
    (h : StoreChange current clock call candidate) {r : HumanCenteredContractRefV1}
    (hrecorded : (findRecord current.records r).isSome = true) (hr : current.isCurrent r = false) :
    candidate.isCurrent r = false := by
  cases h with
  | @commit _ contract receiptProof reference _ hcommit href _ hnew hchecked =>
    obtain ⟨refs, hs⟩ := validateSnapshot_eq_ok.mp hs
    obtain ⟨-, withdrawn, settled, hwithdrawn, hsettled, rfl⟩ := commitChecked_eq_ok.mp hchecked
    have hsame := (settleReceipt_eq_ok hsettled).1
    have hne : r ≠ reference := by
      rintro rfl
      rw [hs.refsOf.any_isAt.mpr (hs.refsOf.findRecord_isSome.mp hrecorded)] at hnew
      cases hnew
    rw [isCurrent_eq_false_iff] at hr ⊢
    rw [hsame]
    show r ∉ replacePointer withdrawn.currentPointers reference ∨ r ∈ withdrawn.invalidatedRefs
    have hpointers := (withdrawnFrom_of_withdrawPrevious hwithdrawn).pointers
    have hkept : r ∈ current.invalidatedRefs → r ∈ withdrawn.invalidatedRefs := by
      intro hold
      rcases hprevious : previousPointer current.currentPointers reference with _ | stale
      · rw [hprevious] at hwithdrawn
        rwa [← Except.ok.inj hwithdrawn]
      · rw [hprevious] at hwithdrawn
        exact (mem_invalidatedRefs_of_invalidateDependents hwithdrawn).mpr (.inl hold)
    rw [hpointers, mem_replacePointer]
    rcases hr with hgone | hold
    · left
      rintro (heq | ⟨hmem, -⟩)
      · exact hne heq
      · exact hgone hmem
    · exact .inr (hkept hold)
  | _ => exact hr

/-- **An attempt waits for reconciliation** only when its action is withdrawn. -/
def Reconciled (s : HumanCenteredStoreSnapshotV1) : Prop :=
  ∀ r ∈ s.executionReservations, ∀ a ∈ r.attempts, a.status = .reconciliationRequired →
    s.isCurrent r.actionRef = false

theorem StoreChange.reconciled (hs : validateSnapshot current = .ok ())
    (hreconciled : Reconciled current)
    (h : StoreChange current clock call candidate) : Reconciled candidate := by
  intro r' hr' a' ha' hstatus
  rcases h.attempt_cases hs hr' ha' with
    ⟨r, hr, href, a, ha, hstep⟩ | ⟨verifiedRequest, trustedNow, rfl⟩
  · rw [← href]
    have hkept : current.isCurrent r.actionRef = false →
        candidate.isCurrent r.actionRef = false := by
      obtain ⟨refs, haccepted⟩ := validateSnapshot_eq_ok.mp hs
      obtain ⟨action, hrecorded⟩ := checkReservations_recorded haccepted.reservations r hr
      exact h.isCurrent_eq_false hs (Option.isSome_of_eq_some hrecorded)
    cases hstep with
    | same => exact hkept (hreconciled r hr a' ha hstatus)
    | withdrawn hgone => exact hgone
    | settled =>
      -- the statuses of receipts are others
      change settledStatus _ = _ at hstatus
      unfold settledStatus at hstatus
      split at hstatus <;> cases hstatus
    | gone _ hgone => exact hkept hgone
    | expired => cases hstatus
    | advanced hmark _ hadvance =>
      cases hmark <;> (rw [← Except.ok.inj hadvance] at hstatus; cases hstatus)
    | recovered => cases hstatus
  · cases hstatus

/-- What the snapshot holds, whatever its seal. -/
theorem StoreInputV1.next_preserves {P : HumanCenteredStoreSnapshotV1 → Prop} {i : StoreInputV1}
    (hcongr : ∀ s t : HumanCenteredStoreSnapshotV1, s.records = t.records →
      s.currentPointers = t.currentPointers → s.invalidatedRefs = t.invalidatedRefs →
      s.executionReservations = t.executionReservations → P s → P t)
    (hcurrent : P current)
    (hchange : ∀ candidate, i.persisted = true → StoreChange current i.clock i.call candidate →
      P candidate) : P (i.next current) := by
  rcases i.next_cases current with hsame | ⟨candidate, hpersisted, hstored, hseal, -⟩
  · rw [hsame]
    exact hcurrent
  · obtain ⟨-, heq⟩ := sealNextSnapshot_eq_ok.mp hseal
    rw [heq]
    exact hcongr candidate _ rfl rfl rfl rfl (hchange candidate hpersisted hstored)

omit [Crypto] [FloatText] in
theorem reconciled_congr (s t : HumanCenteredStoreSnapshotV1) (_ : s.records = t.records)
    (hpointers : s.currentPointers = t.currentPointers)
    (hinvalidated : s.invalidatedRefs = t.invalidatedRefs)
    (hreservations : s.executionReservations = t.executionReservations) (h : Reconciled s) :
    Reconciled t := by
  intro r hr a ha hstatus
  rw [← hreservations] at hr
  have hold := h r hr a ha hstatus
  unfold HumanCenteredStoreSnapshotV1.isCurrent at hold ⊢
  rwa [← hpointers, ← hinvalidated]

theorem reconciled_of_reachable {s : FileStoreStateV1}
    (h : Reachable FileStoreInit FileStoreStep s) :
    Reconciled s.snapshot := by
  refine Reachable.invariant_with (P := fun s => Reconciled s.snapshot) ?_ ?_ h
  · rintro s ⟨hempty, -⟩ r hr
    rw [hempty] at hr
    cases hr
  · intro s i t hreach hs hstep
    rw [hstep.2.1]
    exact StoreInputV1.next_preserves reconciled_congr hs fun candidate _ hchange =>
      hchange.reconciled (valid_of_reachable hreach) hs

/-! ### Receipts of withdrawn actions -/

/-- A valid receipt depends on its action. -/
theorem ExecutionReceiptV1.actionRef_mem_dependencyRefs {receipt : ExecutionReceiptV1}
    (h : receipt.validate = .ok ()) : receipt.actionRef ∈ receipt.metadata.dependencyRefs := by
  rcases hpayload : receipt.resultPayload with _ | payload
  · simp only [ExecutionReceiptV1.validate, hpayload, bind_eq_ok, exists_unit_eq_ok, rejectIf_eq_ok,
      not_or, not_not] at h
    obtain ⟨-, -, -, -, -, -, _, -, _, hfields, -⟩ := h
    exact hfields.2.1
  · simp only [ExecutionReceiptV1.validate, hpayload, bind_eq_ok, exists_unit_eq_ok, rejectIf_eq_ok,
      not_or, not_not] at h
    obtain ⟨-, -, -, -, -, -, -, _, hfields, -⟩ := h
    exact hfields.2.1

/-- **A receipt is never committed for an attempt that waits for reconciliation**: the receipt
depends on its action, which is withdrawn. -/
theorem reconciliation_never_settles {s : FileStoreStateV1}
    (h : Reachable FileStoreInit FileStoreStep s) {r : ExecutionReservationRecordV1}
    (hr : r ∈ s.snapshot.executionReservations) {a : ExecutionAttemptRecordV1} (ha : a ∈ r.attempts)
    (hstatus : a.status = .reconciliationRequired) :
    ∀ (clock : Option Nat) (receipt : ExecutionReceiptV1) (proofEnvelope : SignedProofEnvelopeV1)
      (verifiedAt : Nat) (planned : PlannedV1), receipt.actionRef = r.actionRef →
      (StoreCallV1.commitExecutionReceipt receipt proofEnvelope verifiedAt).plan clock s.snapshot
        = .ok planned → planned.candidate = none := by
  intro clock receipt proofEnvelope verifiedAt planned haction hplan
  rcases hcandidate : planned.candidate with _ | sealed
  · rfl
  · exfalso
    obtain ⟨candidate, hchange, -⟩ := StoreCallV1.plan_stores hplan hcandidate
    have hgone := reconciled_of_reachable h r hr a ha hstatus
    cases hchange with
    | commit hcommit href _ _ hchecked =>
      cases hcommit
      -- the action is among the dependencies, and is not current
      have hdependency : receipt.actionRef ∈ receipt.metadata.dependencyRefs := by
        have hvalid := (HumanCenteredContractSnapshotV1.recordRef_eq_ok.mp href).1
        exact ExecutionReceiptV1.actionRef_mem_dependencyRefs hvalid
      have hcurrent := checkDependency_eq_ok.mp
        ((commitChecked_eq_ok.mp hchecked).1.dependencies receipt.actionRef hdependency)
      rw [haction] at hcurrent
      have hpointer := (previousPointer_some hcurrent.1).1
      rcases isCurrent_eq_false_iff.mp hgone with hgone | hinvalidated
      · exact hgone hpointer
      · exact hcurrent.2.1 hinvalidated
    | withdrawn hmark => cases hmark
    | expired hmark => cases hmark
    | advanced hmark => cases hmark

/-! ### Dispatched attempts -/

/-- A dispatched attempt of an accepted snapshot has the time of its dispatch. -/
theorem dispatchedAt_isSome {s : HumanCenteredStoreSnapshotV1} (hs : validateSnapshot s = .ok ())
    {r : ExecutionReservationRecordV1} (hr : r ∈ s.executionReservations)
    {a : ExecutionAttemptRecordV1} (ha : a ∈ r.attempts) (hstatus : a.status = .dispatched) :
    a.dispatchedAt.isSome = true := by
  obtain ⟨refs, hs⟩ := validateSnapshot_eq_ok.mp hs
  have htiming := ((checkReservations_stands hs.reservations r hr).stand a ha).timing
  unfold timingIsValid at htiming
  rw [hstatus] at htiming
  simp only [Bool.and_eq_true] at htiming
  exact htiming.1.2

/-- The permit that a call reports to be delivered or dispatched. -/
def StoreCallV1.reported : StoreCallV1 → Option ExecutionPermitV1
  | markExecutionPermitDelivered permit => some permit
  | markExecutionDispatched permit => some permit
  | _ => none

/-- **A late report**: the permit of a dispatched attempt is reported after its lease, while the
action is current. -/
def StoreInputV1.isLateReport (self : StoreInputV1) (s : HumanCenteredStoreSnapshotV1) : Bool :=
  self.persisted && match self.call.reported, self.clock with
    | some permit, some trustedNow =>
      match s.executionReservations.find? (fun r => decide (r.reservationId = permit.reservationId))
        with
      | some r => s.isCurrent r.actionRef && r.attempts.getLast?.any fun a =>
        permitMatchesAttempt permit r a && leaseOver a trustedNow && a.status = .dispatched
      | none => false
    | _, _ => false

omit [Crypto] [FloatText] in
theorem MarkCall.reported {permit : ExecutionPermitV1}
    {expected next : ExecutionReservationStatusV1}
    (h : MarkCall call permit expected next) : call.reported = some permit := by
  cases h <;> rfl

omit [Crypto] [FloatText] in
theorem StoreInputV1.isLateReport_eq_true {i : StoreInputV1} {permit : ExecutionPermitV1}
    {expected next : ExecutionReservationStatusV1} {trustedNow : Nat}
    {r : ExecutionReservationRecordV1} {a : ExecutionAttemptRecordV1}
    (hpersisted : i.persisted = true)
    (hmark : MarkCall i.call permit expected next) (hclock : i.clock = some trustedNow)
    (hr : current.executionReservations.find?
      (fun r => decide (r.reservationId = permit.reservationId))
      = some r) (ha : r.attempts.getLast? = some a) (hmatches : permitMatchesAttempt permit r a =
        true)
    (hcurrent : current.isCurrent r.actionRef = true) (hover : leaseOver a trustedNow = true)
    (hstatus : a.status = .dispatched) : i.isLateReport current = true := by
  unfold isLateReport
  rw [hpersisted, hmark.reported, hclock]
  simp only [hr, hcurrent, ha, Option.any_some, hmatches, hover, hstatus, decide_true,
    Bool.and_self]

/-- **A dispatched attempt without a receipt** is still dispatched, or waits for reconciliation. -/
def Unresolved (s : HumanCenteredStoreSnapshotV1) : Prop :=
  ∀ r ∈ s.executionReservations, ∀ a ∈ r.attempts, a.dispatchedAt.isSome = true →
    a.receiptRef = none →
    a.status = .dispatched ∨ a.status = .reconciliationRequired

theorem StoreChange.unresolved {i : StoreInputV1} (hs : validateSnapshot current = .ok ())
    (hreconciled : Reconciled current) (hunresolved : Unresolved current)
    (hpersisted : i.persisted = true) (hlate : i.isLateReport current = false)
    (h : StoreChange current i.clock i.call candidate) : Unresolved candidate := by
  intro r' hr' a' ha' hdispatched hreceipt
  rcases h.attempt_cases hs hr' ha' with
    ⟨r, hr, -, a, ha, hstep⟩ | ⟨verifiedRequest, trustedNow, rfl⟩
  · cases hstep with
    | same => exact hunresolved r hr a' ha hdispatched hreceipt
    | withdrawn => exact withdrawn_underWay.mpr (hunresolved r hr a ha hdispatched hreceipt)
    | settled => cases hreceipt
    | gone =>
      right
      show (if a.dispatchedAt.isSome = true then _ else _) =
        ExecutionReservationStatusV1.reconciliationRequired
      exact if_pos hdispatched
    | expired hmark hclock hreservation hattempt hmatches hcurrent hover =>
      exfalso
      rcases hunresolved r hr a ha hdispatched hreceipt with hstatus | hstatus
      · rw [StoreInputV1.isLateReport_eq_true hpersisted hmark hclock hreservation hattempt hmatches
          hcurrent hover hstatus] at hlate
        cases hlate
      · rw [hreconciled r hr a ha hstatus] at hcurrent
        cases hcurrent
    | advanced hmark hstatus hadvance =>
      generalize i.call = call at hmark
      cases hmark with
      | delivered =>
        -- the attempt was not dispatched before it is delivered
        obtain rfl := Except.ok.inj hadvance
        have hnone := dispatchedAt_eq_none hs hr ha (.inl hstatus)
        change a.dispatchedAt.isSome = true at hdispatched
        rw [hnone] at hdispatched
        cases hdispatched
      | dispatched =>
        obtain rfl := Except.ok.inj hadvance
        exact .inl rfl
    | recovered hstatus =>
      change a.dispatchedAt.isSome = true at hdispatched
      rw [dispatchedAt_eq_none hs hr ha hstatus] at hdispatched
      cases hdispatched
  · cases hdispatched

/-- The steps without a late report. -/
def NoLateReport (s : FileStoreStateV1) (i : StoreInputV1) : Prop :=
  i.isLateReport s.snapshot = false

omit [Crypto] [FloatText] in
theorem unresolved_congr (s t : HumanCenteredStoreSnapshotV1) (_ : s.records = t.records)
    (_ : s.currentPointers = t.currentPointers) (_ : s.invalidatedRefs = t.invalidatedRefs)
    (hreservations : s.executionReservations = t.executionReservations) (h : Unresolved s) :
    Unresolved t := by
  intro r hr
  rw [← hreservations] at hr
  exact h r hr

theorem unresolved_of_reachable {s : FileStoreStateV1}
    (h : Reachable FileStoreInit (Restrict FileStoreStep NoLateReport) s) :
    Unresolved s.snapshot := by
  refine Reachable.invariant_with (P := fun s => Unresolved s.snapshot) ?_ ?_ h
  · rintro s ⟨hempty, -⟩ r hr
    rw [hempty] at hr
    cases hr
  · rintro s i t hreach hs ⟨hlate, hstep⟩
    rw [hstep.2.1]
    exact StoreInputV1.next_preserves unresolved_congr hs fun candidate hpersisted hchange =>
      hchange.unresolved (valid_of_reachable hreach.of_restrict)
        (reconciled_of_reachable hreach.of_restrict) hs hpersisted hlate

omit [Crypto] [FloatText] in
/-- An attempt that may not be retried is the last one. -/
theorem OneTime.getLast?_eq {s : HumanCenteredStoreSnapshotV1} (h : OneTime s)
    {r : ExecutionReservationRecordV1} (hr : r ∈ s.executionReservations)
    {a : ExecutionAttemptRecordV1} (ha : a ∈ r.attempts) (hstatus : a.status.permitsRetry = false) :
    r.attempts.getLast? = some a := by
  have hne : r.attempts ≠ [] := List.ne_nil_of_mem ha
  rw [List.getLast?_eq_some_getLast hne]
  congr 1
  have hsplit := List.dropLast_concat_getLast hne
  rw [← hsplit] at ha
  rcases List.mem_append.mp ha with hearlier | hlast
  · rw [h.retried r hr a hearlier] at hstatus
    cases hstatus
  · exact (List.mem_singleton.mp hlast).symm

/-- The call returns a permit of the reservation. -/
def HandsOutPermit (s : HumanCenteredStoreSnapshotV1) (i : StoreInputV1) (reservationId : Uuid) :
    Prop :=
  ∃ planned permit, i.call.plan i.clock s = .ok planned ∧ planned.result = .ok (.permit permit) ∧
    permit.reservationId = reservationId

/-- A permit is issued only when the last attempt may be retried. -/
theorem permitsRetry_of_issueExecutionPermit {s : HumanCenteredStoreSnapshotV1}
    (hs : validateSnapshot s = .ok ()) {verifiedRequest : VerifiedExecutionPermitRequestV1}
    {fresh : Uuid} {planned : PlannedV1} {permit : ExecutionPermitV1}
    (hplan : issueExecutionPermit clock verifiedRequest fresh s = .ok planned)
    (hresult : planned.result = .ok (.permit permit)) {r : ExecutionReservationRecordV1}
    (hr : r ∈ s.executionReservations) (hid : permit.reservationId = r.reservationId) :
    ∃ a, r.attempts.getLast? = some a ∧ a.status.permitsRetry = true := by
  simp only [issueExecutionPermit, bind_eq_ok, exists_unit_eq_ok] at hplan
  obtain ⟨trustedNow, -, -, action, -, -, -, -, ⟨reservationId, reservations⟩, hreserve, hplan⟩ :=
    hplan
  obtain ⟨sealed, ⟨hseal, hvalid⟩, rfl⟩ := planSealed_eq_ok.mp hplan
  obtain rfl : _ = permit := StoreReplyV1.permit.inj (Except.ok.inj hresult)
  change reservationId = r.reservationId at hid
  rcases reserveAttempt_eq_ok.mp hreserve with
    ⟨reservation, previous, hfind, -, hlast, hretry, -, -, hsame, -⟩ | ⟨-, -, hfresh, rfl⟩
  · have heq := (uniqueBy_reservationId hs).eq (List.mem_of_find?_eq_some hfind) hr
      (hsame.symm.trans hid)
    rw [heq] at hlast
    exact ⟨previous, hlast, hretry⟩
  · -- a new reservation may not take the identifier of another
    exfalso
    have hunique := uniqueBy_reservationId hvalid
    rw [(sealNextSnapshot_eq_ok.mp hseal).2] at hunique
    have hnew := (List.pairwise_append.mp hunique).2.2 r hr _ (List.mem_singleton_self _)
    exact hnew (hid.symm.trans hfresh)

/-- A permit is recovered only when the last attempt is not dispatched yet. -/
theorem undispatched_of_recoverExecutionPermit {s : HumanCenteredStoreSnapshotV1}
    (hs : validateSnapshot s = .ok ()) {actionRef : HumanCenteredContractRefV1}
    {ownerRef : ReferenceV1} {planned : PlannedV1} {permit : ExecutionPermitV1}
    (hplan : recoverExecutionPermit clock actionRef ownerRef s = .ok planned)
    (hresult : planned.result = .ok (.permit permit)) {r : ExecutionReservationRecordV1}
    (hr : r ∈ s.executionReservations) (hid : permit.reservationId = r.reservationId) :
    ∃ a, r.attempts.getLast? = some a ∧ (a.status = .permitIssued ∨ a.status = .delivered) := by
  obtain ⟨trustedNow, -, hplan⟩ := bind_eq_ok.mp hplan
  obtain ⟨reservation, hfind, hplan⟩ := bind_eq_ok.mp hplan
  obtain ⟨attempt, hlast, hplan⟩ := bind_eq_ok.mp hplan
  obtain ⟨⟨⟩, -, hplan⟩ := bind_eq_ok.mp hplan
  obtain ⟨⟨⟩, hstatus, hplan⟩ := bind_eq_ok.mp hplan
  rw [okOr_eq_ok] at hfind hlast
  rw [require_eq_ok] at hstatus
  split at hplan
  case isTrue =>
    obtain ⟨sealed, -, rfl⟩ := planSealed_eq_ok.mp hplan
    cases hresult
  case isFalse =>
    obtain rfl := Except.ok.inj hplan
    obtain rfl : _ = permit := StoreReplyV1.permit.inj (Except.ok.inj hresult)
    have heq := (uniqueBy_reservationId hs).eq (List.mem_of_find?_eq_some hfind) hr hid
    rw [heq] at hlast
    exact ⟨attempt, hlast, hstatus⟩

/-- A commit returns no permit. -/
theorem commitInternal_no_permit {contract : HumanCenteredContractSnapshotV1}
    {receiptProof : Option (SignedProofEnvelopeV1 × Nat)} {planned : PlannedV1}
    (hplan : commitInternal clock contract receiptProof current = .ok planned)
    (permit : ExecutionPermitV1) : planned.result ≠ .ok (.permit permit) := by
  intro hresult
  obtain ⟨reference, -, hplan⟩ := bind_eq_ok.mp hplan
  obtain ⟨⟨⟩, -, hplan⟩ := bind_eq_ok.mp hplan
  split at hplan
  case isTrue =>
    obtain rfl := Except.ok.inj hplan
    cases hresult
  case isFalse =>
    obtain ⟨candidate, -, hplan⟩ := bind_eq_ok.mp hplan
    obtain ⟨sealed, -, rfl⟩ := planSealed_eq_ok.mp hplan
    cases hresult

/-- A report of a permit returns none. -/
theorem transitionExecutionPermit_no_permit {reported : ExecutionPermitV1}
    {expected next : ExecutionReservationStatusV1} {planned : PlannedV1}
    (hplan : transitionExecutionPermit clock reported expected next current = .ok planned)
    (permit : ExecutionPermitV1) : planned.result ≠ .ok (.permit permit) := by
  intro hresult
  simp only [transitionExecutionPermit, bind_eq_ok, exists_unit_eq_ok] at hplan
  obtain ⟨trustedNow, -, reservation, -, attempt, -, -, hplan⟩ := hplan
  split at hplan
  case isTrue =>
    obtain ⟨sealed, -, rfl⟩ := planSealed_eq_ok.mp hplan
    cases hresult
  case isFalse =>
    split at hplan
    case isTrue =>
      obtain ⟨sealed, -, rfl⟩ := planSealed_eq_ok.mp hplan
      cases hresult
    case isFalse =>
      split at hplan
      case isTrue =>
        obtain rfl := Except.ok.inj hplan
        cases hresult
      case isFalse =>
        simp only [bind_eq_ok, exists_unit_eq_ok] at hplan
        obtain ⟨-, advanced, -, hplan⟩ := hplan
        obtain ⟨sealed, -, rfl⟩ := planSealed_eq_ok.mp hplan
        cases hresult

/-- **A permit is handed out only when no dispatch is under way**: the last attempt may be retried,
or is not dispatched yet. -/
theorem HandsOutPermit.last {s : HumanCenteredStoreSnapshotV1} {i : StoreInputV1}
    (hs : validateSnapshot s = .ok ()) {r : ExecutionReservationRecordV1}
    (hr : r ∈ s.executionReservations) (h : HandsOutPermit s i r.reservationId) :
    ∃ a, r.attempts.getLast? = some a ∧ (a.status.permitsRetry = true ∨
      a.status = .permitIssued ∨ a.status = .delivered) := by
  obtain ⟨planned, permit, hplan, hresult, hid⟩ := h
  generalize i.call = call at hplan
  cases call with
  | commit contract =>
    obtain ⟨⟨⟩, -, hplan⟩ := bind_eq_ok.mp hplan
    exact absurd hresult (commitInternal_no_permit hplan permit)
  | commitExecutionReceipt receipt proofEnvelope verifiedAt =>
    exact absurd hresult (commitInternal_no_permit hplan permit)
  | issueExecutionPermit verifiedRequest fresh =>
    obtain ⟨a, hlast, hretry⟩ := permitsRetry_of_issueExecutionPermit hs hplan hresult hr hid
    exact ⟨a, hlast, .inl hretry⟩
  | markExecutionPermitDelivered reported =>
    exact absurd hresult (transitionExecutionPermit_no_permit hplan permit)
  | markExecutionDispatched reported =>
    exact absurd hresult (transitionExecutionPermit_no_permit hplan permit)
  | recoverExecutionPermit actionRef ownerRef =>
    obtain ⟨a, hlast, hstatus⟩ := undispatched_of_recoverExecutionPermit hs hplan hresult hr hid
    exact ⟨a, hlast, .inr hstatus⟩
  | _ =>
    obtain rfl := Except.ok.inj hplan
    cases hresult

omit [Crypto] [FloatText] in
/-- Attempts of one snapshot with one identity are one attempt. -/
theorem OneTime.eq_of_identity {s : HumanCenteredStoreSnapshotV1} (h : OneTime s)
    {r r' : ExecutionReservationRecordV1} (hr : r ∈ s.executionReservations)
    (hr' : r' ∈ s.executionReservations) {a a' : ExecutionAttemptRecordV1} (ha : a ∈ r.attempts)
    (ha' : a' ∈ r'.attempts) (hidentity : a.identity = a'.identity) : a = a' := by
  have hunique : UniqueBy (·.proofId) s.attempts := h.attempts.imp fun happart => happart.1
  exact hunique.eq (List.mem_flatMap.mpr ⟨r, hr, ha⟩) (List.mem_flatMap.mpr ⟨r', hr', ha'⟩)
    (congrArg (·.proofId) hidentity)

/-- **An unresolved dispatch blocks retry**, over every run without late reports: from each
dispatched attempt on, the attempt stays.  Until a valid and proven receipt of it is committed, it
may not be retried, and stays the last of its reservation, for which no call hands out a permit. -/
theorem unresolved_dispatch_blocks_retry {s t : FileStoreStateV1} {is : List StoreInputV1}
    (h : Reachable FileStoreInit (Restrict FileStoreStep NoLateReport) s)
    (hrun : Run (Restrict FileStoreStep NoLateReport) s is t) {r : ExecutionReservationRecordV1}
    (hr : r ∈ s.snapshot.executionReservations) {a : ExecutionAttemptRecordV1}
    (ha : a ∈ r.attempts) (hstatus : a.status = .dispatched) :
    ∃ r' ∈ t.snapshot.executionReservations, r'.reservationId = r.reservationId ∧
      ∃ a' ∈ r'.attempts, AttemptExtends a a' ∧
        (Happened FileStoreStep (CommitsReceiptOf r.actionRef a) s is ∨
          (a'.receiptRef = none ∧ a'.status.permitsRetry = false ∧
            r'.attempts.getLast? = some a' ∧
            ∀ i, ¬ HandsOutPermit t.snapshot i r.reservationId)) := by
  have hvalid := valid_of_reachable h.of_restrict
  have hlater := h.run hrun
  have hvalid' := valid_of_reachable hlater.of_restrict
  obtain ⟨r', hr', hreservation⟩ :=
    (run_extends hvalid hrun.of_restrict).reservations.exists_mem hr
  obtain ⟨a', ha', hattempt⟩ := hreservation.attempts.exists_mem ha
  have hid : r'.reservationId = r.reservationId :=
    (congrArg (·.reservationId) hreservation.identity).symm
  have haction : r.actionRef = r'.actionRef := congrArg (·.actionRef) hreservation.identity
  refine ⟨r', hr', hid, a', ha', hattempt, ?_⟩
  rcases hreceipt : a'.receiptRef with _ | receiptRef
  · right
    have hdispatched : a'.dispatchedAt.isSome = true := by
      have hsome := dispatchedAt_isSome hvalid hr ha hstatus
      rw [hattempt.dispatched hsome]
      exact hsome
    have hunresolved := unresolved_of_reachable hlater r' hr' a' ha' hdispatched hreceipt
    have hblocked : a'.status.permitsRetry = false := by
      rcases hunresolved with hstatus' | hstatus' <;> rw [hstatus'] <;> rfl
    have hlast := (oneTime_of_valid hvalid').getLast?_eq hr' ha' hblocked
    refine ⟨rfl, hblocked, hlast, ?_⟩
    intro i hpermit
    rw [← hid] at hpermit
    obtain ⟨last, hlast', hfree⟩ := hpermit.last hvalid' hr'
    obtain rfl := Option.some.inj (hlast.symm.trans hlast')
    rw [hblocked] at hfree
    rcases hunresolved with hstatus' | hstatus' <;> rw [hstatus'] at hfree <;>
      rcases hfree with hfree | hfree | hfree <;> cases hfree
  · -- the attempt had no receipt when it was dispatched, so that one was committed since
    left
    have hsome : a'.receiptRef.isSome = true := by rw [hreceipt]; rfl
    rcases receipt_committed hvalid hrun.of_restrict r' hr' a' ha' hsome with
      ⟨q, hq, -, b, hb, hidentity, hbefore⟩ | hhappened
    · have heq := (oneTime_of_valid hvalid).eq_of_identity hq hr hb ha
        (hidentity.trans hattempt.identity.symm)
      rw [heq, receiptRef_eq_none hvalid hr ha (.inl hstatus)] at hbefore
      cases hbefore
    · refine hhappened.mono ?_
      rintro _ _ _ _ ⟨hpersisted, receipt, proofEnvelope, verifiedAt, hcall, hproof, hmatches,
        hrecords⟩
      rw [← haction, receiptMatchesAttemptParts_congr hattempt.identity.symm] at hmatches
      exact ⟨hpersisted, receipt, proofEnvelope, verifiedAt, hcall, hproof, hmatches, hrecords⟩

end Dispatch

/-! ### A receipt that comes too late

The attempt of the sample is dispatched, and its action is revised.  The receipt of the provider,
valid and proven as it may be, is refused. -/

namespace StoreSample

def receiptId : HumanCenteredIdV1 := ⟨0x10000000000040008000000000000006, by decide +kernel⟩
def receiptProofId : HumanCenteredIdV1 := ⟨0x10000000000040008000000000000013, by decide +kernel⟩

section Contracts

variable [Crypto] [FloatText]

def receipt : ExecutionReceiptV1 :=
  let draft : ExecutionReceiptV1 := {
    metadata := metadata .executionReceipt receiptId none [actionRef]
    actionRef := actionRef
    permitId := firstProof
    authorizationId := (authorization 1).authorizationId
    executionId := 55
    providerRef := party
    ownerRef := party
    dispatchNonce := firstNonce
    externalExecutionRef := none
    idempotencyKey := "key-1"
    requestParameterDigest := (action none).parameterDigest
    attempt := 1
    startedAt := 52
    completedAt := 55
    state := .failed
    resultPayload := none
    resultPayloadDigest := none
    appliedEffects := []
    verificationResults := []
    errorCodes := ["refused"]
    recordDigest := "" }
  { draft with recordDigest := contractDigest "execution-receipt-v1" draft.digestInput }

def receiptSubject : ReferenceV1 :=
  match receipt.proofSubjectRef with
  | .ok subject => subject
  | .error _ => party

def receiptEnvelope : SignedProofEnvelopeV1 := envelope {
  proofId := receiptProofId
  proofKind := .providerExecutionReceipt
  issuerRef := party
  subjectRef := receiptSubject
  subjectDigest := receipt.recordDigest
  tenantRef := party
  scopeRef := party
  purposeRef := party
  policyRevisionRef := party
  issuedAt := 56
  expiresAt := 90000
  nonce := firstNonce
  schemaVersion := 1 }

/-- The action is revised while its attempt is under way. -/
def revision : Nat × StoreCallV1 := (60, .commit (.action (action (some actionRef))))

/-- The receipt, committed at its time. -/
def receiptCommit : StoreCallV1 := .commitExecutionReceipt receipt receiptEnvelope 57

/-- The calls are made at the times given, in snapshots that allow them, and each of them stores a
snapshot. -/
def allowedAll (allowed : HumanCenteredStoreSnapshotV1 → StoreInputV1 → Bool)
    (current : HumanCenteredStoreSnapshotV1) : List (Nat × StoreCallV1) → Bool
  | [] => true
  | call :: calls => allowed current (taken call)
    && (stored current call.1 call.2).any fun next => allowedAll allowed next calls

/-- Allowed calls in the order of their times lead to what they store. -/
theorem run_of_allowedAll {allowed : HumanCenteredStoreSnapshotV1 → StoreInputV1 → Bool}
    {current last : HumanCenteredStoreSnapshotV1} (time : Nat) (calls : List (Nat × StoreCallV1))
    (h : storedAll current calls = some last) (hallowed : allowedAll allowed current calls = true)
    (htimes : (time :: calls.map Prod.fst).IsChain (· ≤ ·)) :
    Run (Restrict FileStoreStep fun s i => allowed s.snapshot i = true) ⟨current, time⟩
      (calls.map taken) ⟨last, (calls.map Prod.fst).getLastD time⟩ := by
  induction calls generalizing current time with
  | nil =>
    obtain rfl := Option.some.inj h
    exact .nil _
  | cons call calls ih =>
    obtain ⟨now, call⟩ := call
    obtain ⟨next, hnext, hrest⟩ := Option.bind_eq_some_iff.mp h
    obtain ⟨hfirst, hothers⟩ := Bool.and_eq_true_iff.mp hallowed
    obtain ⟨next', hnext', hothers⟩ := (Option.any_eq_true _ _).mp hothers
    obtain rfl := Option.some.inj (hnext.symm.trans hnext')
    obtain ⟨hle, hchain⟩ := List.isChain_cons_cons.mp htimes
    refine .cons (t := ⟨next, now⟩) ⟨hfirst, ?_, (next_taken hnext).symm, rfl⟩ ?_
    · intro time' htime
      rw [← Option.some.inj htime]
      exact hle
    · rw [List.map_cons, List.getLastD_cons]
      exact ih now hrest hothers hchain

/-- The calls up to the dispatch are not late reports, and the attempt is dispatched after them. -/
def dispatchedInTime : Bool :=
  allowedAll (fun s i => !i.isLateReport s) .empty toDispatched
    && (storedAll .empty toDispatched).any fun last =>
      last.executionReservations.any fun r => r.attempts.any fun a =>
        decide (a.status = .dispatched)

/-- After the late report the same attempt is expired, without a receipt, and a second one is
made. -/
def retriedUnresolved : Bool :=
  (storedAll .empty toDispatched).any fun dispatched =>
    (storedAll dispatched [lateMark, secondIssue]).any fun last =>
      dispatched.executionReservations.any fun r => r.attempts.any fun a =>
        last.executionReservations.any fun r' => r'.attempts.any fun a' =>
          decide (a.status = .dispatched) && decide (r'.reservationId = r.reservationId)
            && decide (a'.permitId = a.permitId) && decide (a'.receiptRef = none)
            && decide (a'.status.permitsRetry = true) && decide (r.attempts.length = 1)
            && decide (r'.attempts.length = 2)

/-- The call fails with the error. -/
def refused (planned : Except HumanCenteredStoreErrorV1 PlannedV1) (e : HumanCenteredStoreErrorV1) :
    Bool :=
  match planned with
  | .ok _ => false
  | .error e' => e' = e

omit [Crypto] [FloatText] in
theorem eq_error_of_refused {planned : Except HumanCenteredStoreErrorV1 PlannedV1}
    {e : HumanCenteredStoreErrorV1} (h : refused planned e = true) : planned = .error e := by
  rcases planned with e' | planned
  · exact congrArg _ (of_decide_eq_true h)
  · cases h

/-- The receipt is valid, proven and made for the attempt that waits for it, and is refused. -/
def receiptRefused : Bool :=
  (storedAll .empty (toDispatched ++ [revision])).any fun last =>
    last.executionReservations.any (fun r => r.attempts.any fun a =>
      decide (a.status = .reconciliationRequired) &&
        receiptMatchesAttemptParts receipt r.actionRef a)
    && decide (receipt.validate = .ok ())
    && decide (checkReceiptProof (some 61) (.executionReceipt receipt) (some (receiptEnvelope, 57))
      = .ok ())
    && refused (receiptCommit.plan (some 61) last) .staleDependency

end Contracts

set_option maxRecDepth 20000 in
theorem dispatch_scripts : @dispatchedInTime Sample.crypto floatText = true ∧
    @retriedUnresolved Sample.crypto floatText = true ∧
    @receiptRefused Sample.crypto floatText = true :=
  ⟨by decide +kernel, by decide +kernel, by decide +kernel⟩

end StoreSample

/-- The dispatch of the sample is reported late, after which its action is retried without a
receipt. -/
theorem unresolved_dispatch_retried : let _ := Sample.crypto
    let _ := StoreSample.floatText
    ∃ s t is, Reachable FileStoreInit FileStoreStep s ∧ Run FileStoreStep s is t ∧
      ∃ r ∈ s.snapshot.executionReservations, ∃ a ∈ r.attempts, a.status = .dispatched ∧
        ∃ r' ∈ t.snapshot.executionReservations, r'.reservationId = r.reservationId ∧
          ∃ a' ∈ r'.attempts, a'.permitId = a.permitId ∧ a'.receiptRef = none ∧
            a'.status.permitsRetry = true ∧ r.attempts.length = 1 ∧ r'.attempts.length = 2 := by
  intro crypto floatText
  have hsample := StoreSample.dispatch_scripts.2.1
  obtain ⟨dispatched, hdispatched, hsample⟩ := (Option.any_eq_true _ _).mp hsample
  obtain ⟨last, hlast, hsample⟩ := (Option.any_eq_true _ _).mp hsample
  obtain ⟨r, hr, hsample⟩ := List.any_eq_true.mp hsample
  obtain ⟨a, ha, hsample⟩ := List.any_eq_true.mp hsample
  obtain ⟨r', hr', hsample⟩ := List.any_eq_true.mp hsample
  obtain ⟨a', ha', hsample⟩ := List.any_eq_true.mp hsample
  simp only [Bool.and_eq_true, decide_eq_true_eq] at hsample
  obtain ⟨⟨⟨⟨⟨⟨hstatus, hid⟩, hpermit⟩, hreceipt⟩, hretry⟩, hone⟩, htwo⟩ := hsample
  have hstart := StoreSample.run_of_storedAll 0 _ hdispatched (by decide)
  have hrest := StoreSample.run_of_storedAll 50 _ hlast (by decide)
  exact ⟨_, _, _, ⟨_, _, ⟨rfl, rfl⟩, hstart⟩, hrest, r, hr, a, ha, hstatus, r', hr', hid, a', ha',
    hpermit, hreceipt, hretry, hone, htwo⟩

/-- The attempt of the sample is dispatched in time, and blocks every retry. -/
theorem unresolved_dispatch_blocks_retry_sample : let _ := Sample.crypto
    let _ := StoreSample.floatText
    ∃ s r a, Reachable FileStoreInit (Restrict FileStoreStep NoLateReport) s ∧
      r ∈ s.snapshot.executionReservations ∧ a ∈ r.attempts ∧ a.status = .dispatched ∧
      ∃ r' ∈ s.snapshot.executionReservations, r'.reservationId = r.reservationId ∧
        ∃ a' ∈ r'.attempts, AttemptExtends a a' ∧
          (Happened FileStoreStep (CommitsReceiptOf r.actionRef a) s [] ∨
            (a'.receiptRef = none ∧ a'.status.permitsRetry = false ∧
              r'.attempts.getLast? = some a' ∧
              ∀ i, ¬ HandsOutPermit s.snapshot i r.reservationId)) := by
  intro crypto floatText
  have hsample := StoreSample.dispatch_scripts.1
  obtain ⟨hallowed, hsample⟩ := Bool.and_eq_true_iff.mp hsample
  obtain ⟨last, hlast, hsample⟩ := (Option.any_eq_true _ _).mp hsample
  obtain ⟨r, hr, hsample⟩ := List.any_eq_true.mp hsample
  obtain ⟨a, ha, hsample⟩ := List.any_eq_true.mp hsample
  have hstatus := of_decide_eq_true hsample
  have hrun := StoreSample.run_of_allowedAll 0 _ hlast hallowed (by decide)
  have hreach : Reachable FileStoreInit (Restrict FileStoreStep NoLateReport) _ :=
    ⟨_, _, ⟨rfl, rfl⟩, hrun.mono fun s i t hstep => ⟨(Bool.not_eq_true' _).mp hstep.1, hstep.2⟩⟩
  exact ⟨_, r, a, hreach, hr, ha, hstatus,
    unresolved_dispatch_blocks_retry hreach (.nil _) hr ha hstatus⟩

/-- The attempt of the sample waits for reconciliation, and the valid and proven receipt of its
provider is refused. -/
theorem reconciliation_receipt_refused : let _ := Sample.crypto
    let _ := StoreSample.floatText
    ∃ s r a, Reachable FileStoreInit FileStoreStep s ∧
      r ∈ s.snapshot.executionReservations ∧ a ∈ r.attempts ∧ a.status = .reconciliationRequired ∧
      receiptMatchesAttemptParts StoreSample.receipt r.actionRef a = true ∧
      StoreSample.receipt.validate = .ok () ∧
      checkReceiptProof (some 61) (.executionReceipt StoreSample.receipt)
        (some (StoreSample.receiptEnvelope, 57)) = .ok () ∧
      StoreSample.receiptCommit.plan (some 61) s.snapshot = .error .staleDependency := by
  intro crypto floatText
  have hsample := StoreSample.dispatch_scripts.2.2
  obtain ⟨last, hlast, hsample⟩ := (Option.any_eq_true _ _).mp hsample
  simp only [Bool.and_eq_true, decide_eq_true_eq, List.any_eq_true] at hsample
  obtain ⟨⟨⟨⟨r, hr, a, ha, hstatus, hmatches⟩, hvalid⟩, hproof⟩, hrefused⟩ := hsample
  have hrun := StoreSample.run_of_storedAll 0 _ hlast (by decide)
  have hreach : Reachable FileStoreInit FileStoreStep _ := ⟨_, _, ⟨rfl, rfl⟩, hrun⟩
  exact ⟨_, r, a, hreach, hr, ha, hstatus, hmatches, hvalid, hproof,
    StoreSample.eq_error_of_refused hrefused⟩

/-- The attempt of the sample waits for reconciliation, and no receipt of it is ever stored. -/
theorem reconciliation_never_settles_sample : let _ := Sample.crypto
    let _ := StoreSample.floatText
    ∃ (s : FileStoreStateV1) (r : ExecutionReservationRecordV1),
      Reachable FileStoreInit FileStoreStep s ∧ r ∈ s.snapshot.executionReservations ∧
      ∀ (clock : Option Nat) (receipt : ExecutionReceiptV1) (proofEnvelope : SignedProofEnvelopeV1)
        (verifiedAt : Nat) (planned : PlannedV1), receipt.actionRef = r.actionRef →
        (StoreCallV1.commitExecutionReceipt receipt proofEnvelope verifiedAt).plan clock s.snapshot
          = .ok planned → planned.candidate = none := by
  intro crypto floatText
  have hsample := StoreSample.dispatch_scripts.2.2
  obtain ⟨last, hlast, hsample⟩ := (Option.any_eq_true _ _).mp hsample
  simp only [Bool.and_eq_true, decide_eq_true_eq, List.any_eq_true] at hsample
  obtain ⟨⟨⟨⟨r, hr, a, ha, hstatus, -⟩, -⟩, -⟩, -⟩ := hsample
  have hrun := StoreSample.run_of_storedAll 0 _ hlast (by decide)
  have hreach : Reachable FileStoreInit FileStoreStep _ := ⟨_, _, ⟨rfl, rfl⟩, hrun⟩
  exact ⟨_, r, hreach, hr, reconciliation_never_settles hreach hr ha hstatus⟩

end Idr
