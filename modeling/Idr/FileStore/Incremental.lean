/-
Idr/FileStore/Incremental.lean

The snapshot a commit makes is the one that replay finds.

A commit changes the pointers, the invalidated references and the
reservations where they are; `validateSnapshot` computes the first two again
from the records and looks at the third again.  Both work by the same step
on the last record, so they agree when they agree before (`Accepted.commit`).
What takes work is that every earlier receipt still agrees with the
reservations (`crossObjectConsistent_congr`) and that every attempt still
fits its status (`StandsOk.withdraw`, `StandsOk.settle`).
-/
import Idr.FileStore.Reservations

namespace Idr

open HumanCenteredContractRefV1

/-! ### Pointers -/

theorem OnePerContract.replacePointer {pointers : List HumanCenteredContractRefV1}
    (h : OnePerContract pointers) (reference : HumanCenteredContractRefV1) :
    OnePerContract (replacePointer pointers reference) := by
  suffices hkept : OnePerContract
      ((pointers.filter fun r => !r.sameContract reference) ++ [reference]) from
    hkept.perm (List.perm_insertionSort _ _).symm
  refine List.pairwise_append.mpr ⟨List.Pairwise.filter _ h, List.pairwise_singleton _ _, ?_⟩
  intro a ha b hb
  obtain rfl := List.mem_singleton.mp hb
  simpa using (List.mem_filter.mp ha).2

/-- **The pointer that is replaced** is the latest reference that gives way. -/
theorem replacePointer_perm {pointers latest : List HumanCenteredContractRefV1}
    {reference : HumanCenteredContractRefV1} (hone : OnePerContract latest)
    (hperm : pointers.Perm latest)
    (hlower : ∀ other ∈ latest, other.sameContract reference = true →
      other.revision < reference.revision) :
    (replacePointer pointers reference).Perm (noteLatest latest reference) := by
  have hpointers := (hone.perm hperm.symm).replacePointer reference
  apply (List.perm_ext_iff_of_nodup hpointers.nodup (hone.noteLatest reference).nodup).mpr
  intro r
  rw [mem_replacePointer, mem_noteLatest hlower, hperm.mem_iff]

/-! ### Attempts through a commit -/

/-- One list of reservations has become another: the identities are the same, and `P` relates what
the attempts have been through. -/
def ReservationsChanged
    (P : ExecutionReservationRecordV1 → ExecutionAttemptRecordV1 → ExecutionAttemptRecordV1 → Prop)
    (reservations reservations' : List ExecutionReservationRecordV1) : Prop :=
  List.Forall₂ (fun r r' => r.identity = r'.identity ∧ List.Forall₂ (P r) r.attempts r'.attempts)
    reservations reservations'

theorem ReservationsChanged.identity
    {P : ExecutionReservationRecordV1 → ExecutionAttemptRecordV1 → ExecutionAttemptRecordV1 → Prop}
    {reservations reservations' : List ExecutionReservationRecordV1}
    (h : ReservationsChanged P reservations reservations') :
    reservations.map (·.identity) = reservations'.map (·.identity) := by
  induction h with
  | nil => rfl
  | cons hhead _ ih => rw [List.map_cons, List.map_cons, hhead.1, ih]

/-- The attempt is as it was, or in the status of a withdrawn action. -/
def WithdrawnOrSame (a a' : ExecutionAttemptRecordV1) : Prop :=
  a' = a ∨ a' = a.withStatus a.status.withdrawn

theorem ExecutionReservationRecordV1.forall₂_withdraw (self : ExecutionReservationRecordV1) :
    List.Forall₂ WithdrawnOrSame self.attempts self.withdraw.attempts :=
  forall₂_modifyLast (fun _ _ => .inl rfl) fun _ _ => .inr rfl

theorem withdrawReservations_changed (snapshot : HumanCenteredStoreSnapshotV1)
    (stale : HumanCenteredContractRefV1) (inv : List HumanCenteredContractRefV1) :
    ReservationsChanged (fun _ => WithdrawnOrSame) snapshot.executionReservations
      (withdrawReservations snapshot stale inv) := by
  refine List.forall₂_map_right_iff.mpr (List.forall₂_same.mpr fun reservation _ => ?_)
  split
  · exact ⟨reservation.identity_withdraw.symm, reservation.forall₂_withdraw⟩
  · exact ⟨rfl, List.forall₂_same.mpr fun _ _ => .inl rfl⟩

/-- The attempt is as it was, or the receipt settles it. -/
def SettledOrSame (receipt : ExecutionReceiptV1) (receiptRef : HumanCenteredContractRefV1)
    (proofEnvelope : SignedProofEnvelopeV1) (verifiedAt : Nat)
    (reservation : ExecutionReservationRecordV1) (a a' : ExecutionAttemptRecordV1) : Prop :=
  a' = a ∨ (reservation.actionRef = receipt.actionRef ∧ receipt.attempt = a.attempt ∧
    a' = a.settle receipt receiptRef proofEnvelope verifiedAt)

section Incremental

variable [Crypto] [FloatText]
variable {records : List HumanCenteredContractSnapshotV1}
variable {reservation : ExecutionReservationRecordV1} {attempt : ExecutionAttemptRecordV1}
variable {attempts : List ExecutionAttemptRecordV1}

theorem StandOk.withdrawn (h : StandOk records reservation attempt) :
    StandOk records reservation (attempt.withStatus attempt.status.withdrawn) := by
  refine ⟨?_, h.order, h.receipt⟩
  have htiming := h.timing
  unfold timingIsValid at htiming ⊢
  rw [ExecutionAttemptRecordV1.withStatus]
  rcases hstatus : attempt.status <;> rw [hstatus] at htiming <;>
    simp_all [ExecutionReservationStatusV1.withdrawn]

/-- **A withdrawn reservation passes.** Only its last attempt changes. -/
theorem StandsOk.withdraw (h : StandsOk records reservation reservation.attempts) :
    StandsOk records reservation.withdraw reservation.withdraw.attempts := by
  obtain ⟨hstand, hretry⟩ := h
  have hsame : ∀ a, StandOk records reservation a → StandOk records reservation.withdraw a :=
    fun a ha => ⟨ha.timing, ha.order, ha.receipt⟩
  show StandsOk records reservation.withdraw
    (modifyLast (fun attempt => attempt.withStatus attempt.status.withdrawn) reservation.attempts)
  rcases modifyLast_cases (fun attempt => attempt.withStatus attempt.status.withdrawn)
    reservation.attempts with ⟨-, hmodify⟩ | ⟨init, last, hattempts, -, hmodify⟩ <;> rw [hmodify]
  · refine ⟨?_, ?_⟩ <;> (intro a ha; cases ha)
  · rw [hattempts] at hstand hretry
    refine ⟨?_, ?_⟩
    · intro a ha
      rcases List.mem_append.mp ha with ha | ha
      · exact hsame a (hstand a (List.mem_append_left _ ha))
      · obtain rfl := List.mem_singleton.mp ha
        exact hsame _ (hstand last (List.mem_append_right _ (List.mem_singleton_self _))).withdrawn
    · rw [List.dropLast_concat] at hretry ⊢
      exact hretry

/-! ### Earlier receipts -/

/-- What `receiptConsistent` establishes. -/
structure ReceiptAgrees (receipt : ExecutionReceiptV1)
    (prior : List HumanCenteredContractSnapshotV1)
    (reservations : List ExecutionReservationRecordV1) (action : ActionContractV1)
    (reservation : ExecutionReservationRecordV1) (attempt : ExecutionAttemptRecordV1) : Prop where
  recorded : findRecord prior receipt.actionRef = some (.action action)
  reserved : reservations.find? (fun r => decide (r.actionRef = receipt.actionRef))
    = some reservation
  permitted : reservation.attempts.find? (fun a => decide (a.permitId = receipt.permitId)) =
    some attempt
  context : lineageContextIsContinuous receipt.metadata action.metadata = true
  key : receipt.idempotencyKey = action.idempotencyKey
  digest : receipt.requestParameterDigest = action.parameterDigest
  status : attempt.status = .dispatched ∨ attempt.status = .reconciliationRequired ∨
    (attempt.status.isTerminal = true ∧ attempt.receiptRef = receipt.recordRef.toOption)
  matched : receiptMatchesAttempt receipt reservation attempt = true
  dispatched : ∃ dispatchedAt, attempt.dispatchedAt = some dispatchedAt ∧
    dispatchedAt ≤ receipt.startedAt
  lease : receipt.startedAt < attempt.request.leaseUntil
  first : ∀ previous, .executionReceipt previous ∈ prior →
    ¬ (previous.actionRef = receipt.actionRef ∧ previous.attempt = receipt.attempt)

/-- The record is a receipt of the same action and attempt. -/
def repeatsReceipt (receipt : ExecutionReceiptV1)
    (record : HumanCenteredContractSnapshotV1) : Bool :=
  match record with
  | .executionReceipt previous =>
    previous.actionRef = receipt.actionRef && previous.attempt = receipt.attempt
  | _ => false

theorem receiptConsistent_iff {receipt : ExecutionReceiptV1}
    {prior : List HumanCenteredContractSnapshotV1}
    {reservations : List ExecutionReservationRecordV1} :
    receiptConsistent receipt prior reservations = true ↔
      ∃ action reservation attempt,
        ReceiptAgrees receipt prior reservations action reservation attempt := by
  have hfirst : (!prior.any (repeatsReceipt receipt)) = true ↔
    ∀ previous, .executionReceipt previous ∈ prior →
        ¬ (previous.actionRef = receipt.actionRef ∧ previous.attempt = receipt.attempt) := by
    rw [Bool.not_eq_true', List.any_eq_false]
    constructor
    · intro h previous hmem hsame
      exact h _ hmem (by simpa [repeatsReceipt] using hsame)
    · intro h record hmem
      rcases record with _ | _ | _ | _ | _ | previous | _ | _ <;>
        first | exact Bool.false_ne_true | skip
      simpa [repeatsReceipt] using h previous hmem
  unfold receiptConsistent
  constructor
  · intro h
    split at h
    case h_1 action haction =>
      split at h
      case h_1 => cases h
      case h_2 reservation hreservation =>
        split at h
        case h_1 => cases h
        case h_2 attempt hattempt =>
          simp only [Bool.and_eq_true, decide_eq_true_eq, Bool.or_eq_true] at h
          obtain ⟨⟨⟨⟨⟨⟨⟨hcontext, hkey⟩, hdigest⟩, hstatus⟩, hmatched⟩, hdispatched⟩, hlease⟩,
            hprior⟩ := h
          refine ⟨action, reservation, attempt, haction, hreservation, hattempt, hcontext, hkey,
            hdigest, or_assoc.mp hstatus, hmatched, ?_, hlease, hfirst.mp hprior⟩
          rw [Option.any_eq_true] at hdispatched
          simpa using hdispatched
    case h_2 => cases h
  · rintro ⟨action, reservation, attempt, h⟩
    have hdispatched : attempt.dispatchedAt.any (fun at_ => decide (at_ ≤ receipt.startedAt)) =
        true := by
      rw [Option.any_eq_true]
      simpa using h.dispatched
    simp only [h.recorded, h.reserved, h.permitted, Bool.and_eq_true, decide_eq_true_eq,
      Bool.or_eq_true]
    exact ⟨⟨⟨⟨⟨⟨⟨h.context, h.key⟩, h.digest⟩, or_assoc.mpr h.status⟩, h.matched⟩, hdispatched⟩,
      h.lease⟩, hfirst.mpr h.first⟩

/-- **A receipt that agreed still agrees** when every attempt it may be of is still open, or settled
by it. -/
theorem receiptConsistent_congr {receipt : ExecutionReceiptV1}
    {prior : List HumanCenteredContractSnapshotV1}
    {reservations reservations' : List ExecutionReservationRecordV1}
    {P : ExecutionReservationRecordV1 → ExecutionAttemptRecordV1 → ExecutionAttemptRecordV1 → Prop}
    (hchanged : ReservationsChanged P reservations reservations')
    (hP : ∀ r a a', P r a a' → a.identity = a'.identity ∧
      (∀ dispatchedAt, a.dispatchedAt = some dispatchedAt → a'.dispatchedAt = some dispatchedAt) ∧
      (receiptMatchesAttempt receipt r a = true →
        a.status = .dispatched ∨ a.status = .reconciliationRequired ∨
          (a.status.isTerminal = true ∧ a.receiptRef = receipt.recordRef.toOption) →
        a'.status = .dispatched ∨ a'.status = .reconciliationRequired ∨
          (a'.status.isTerminal = true ∧ a'.receiptRef = receipt.recordRef.toOption)))
    (h : receiptConsistent receipt prior reservations = true) :
    receiptConsistent receipt prior reservations' = true := by
  obtain ⟨action, r, a, h⟩ := receiptConsistent_iff.mp h
  obtain ⟨r', hr', hid, hattempts⟩ := find?_forall₂ hchanged (fun x y hxy => by
    rw [show y.actionRef = x.actionRef from (congrArg (·.actionRef) hxy.1).symm]) h.reserved
  obtain ⟨a', ha', haa'⟩ := find?_forall₂ hattempts (fun x y hxy => by
    rw [show y.permitId = x.permitId from (congrArg (·.permitId) (hP r x y hxy).1).symm])
      h.permitted
  obtain ⟨hidentity, hdispatched, hstatus⟩ := hP r a a' haa'
  have hmatched : receiptMatchesAttempt receipt r' a' = receiptMatchesAttempt receipt r a := by
    show receiptMatchesAttempt receipt r'.identity a'.identity
      = receiptMatchesAttempt receipt r.identity a.identity
    rw [hid, hidentity]
  refine receiptConsistent_iff.mpr ⟨action, r', a', h.recorded, hr', ha', h.context, h.key,
    h.digest, hstatus h.matched h.status, hmatched.trans h.matched, ?_, ?_, h.first⟩
  · obtain ⟨dispatchedAt, hsome, hle⟩ := h.dispatched
    exact ⟨dispatchedAt, hdispatched dispatchedAt hsome, hle⟩
  · have hrequest : a'.request = a.request := (congrArg (·.request) hidentity).symm
    rw [hrequest]
    exact h.lease

/-- Contracts other than receipts do not look at the reservations. -/
theorem crossObjectConsistent_congr {record : HumanCenteredContractSnapshotV1}
    {prior : List HumanCenteredContractSnapshotV1}
    {reservations reservations' : List ExecutionReservationRecordV1}
    (hreceipt : ∀ receipt, record = .executionReceipt receipt →
      receiptConsistent receipt prior reservations = true →
        receiptConsistent receipt prior reservations' = true)
    (h : crossObjectConsistent record prior reservations = true) :
    crossObjectConsistent record prior reservations' = true := by
  cases record with
  | executionReceipt receipt => exact hreceipt receipt rfl h
  | _ => exact h

/-- A withdrawn attempt is as open as it was. -/
theorem receiptConsistent_withdrawn {receipt : ExecutionReceiptV1}
    {prior : List HumanCenteredContractSnapshotV1}
    {reservations reservations' : List ExecutionReservationRecordV1}
    (hchanged : ReservationsChanged (fun _ => WithdrawnOrSame) reservations reservations')
    (h : receiptConsistent receipt prior reservations = true) :
    receiptConsistent receipt prior reservations' = true := by
  refine receiptConsistent_congr hchanged ?_ h
  rintro r a a' (rfl | rfl)
  · exact ⟨rfl, fun _ h => h, fun _ hstatus => hstatus⟩
  · refine ⟨rfl, fun _ h => h, fun _ hstatus => ?_⟩
    show a.status.withdrawn = .dispatched ∨ a.status.withdrawn = .reconciliationRequired ∨
      (a.status.withdrawn.isTerminal = true ∧ a.receiptRef = receipt.recordRef.toOption)
    rcases hstatus with hstatus | hstatus | ⟨hterminal, href⟩
    · rw [hstatus]
      exact .inr (.inl rfl)
    · rw [hstatus]
      exact .inr (.inl rfl)
    · -- a terminal status is not withdrawn
      have hsame : a.status.withdrawn = a.status := by
        rcases hstatus : a.status <;> rw [hstatus] at hterminal <;> first | rfl | cases hterminal
      rw [hsame]
      exact .inr (.inr ⟨hterminal, href⟩)

/-! ### The receipt that is committed -/

omit [Crypto] [FloatText] in
/-- What settling an attempt needs, and what it gives. -/
theorem applyExecutionReceiptTransition_eq_ok {snapshot result : HumanCenteredStoreSnapshotV1}
    {receipt : ExecutionReceiptV1} {receiptRef : HumanCenteredContractRefV1}
    {proofEnvelope : SignedProofEnvelopeV1} {verifiedAt : Nat} :
    applyExecutionReceiptTransition snapshot receipt receiptRef proofEnvelope verifiedAt =
      .ok result ↔
      ∃ reservation attempt,
        snapshot.executionReservations.find? (fun r => decide (r.actionRef = receipt.actionRef))
          = some reservation ∧
        reservation.attempts.find? (fun a => decide (a.permitId = receipt.permitId)) =
          some attempt ∧
        (attempt.status = .dispatched ∨ attempt.status = .reconciliationRequired) ∧
        receiptMatchesAttemptParts receipt reservation.actionRef attempt = true ∧
        result = { snapshot with
          executionReservations := modifyFirst (fun r => decide (r.actionRef = receipt.actionRef))
            (·.settle receipt receiptRef proofEnvelope verifiedAt)
              snapshot.executionReservations } := by
  have hguard : ∀ p : Prop, ∀ b : Bool, ¬ (¬ p ∨ b = false) ↔ p ∧ b = true := by
    intro p b
    rw [not_or, not_not, Bool.not_eq_false]
  simp only [applyExecutionReceiptTransition, bind_eq_ok, okOr_eq_ok, rejectIf_eq_ok, exists_const,
    hguard, Except.ok.injEq, eq_comm (b := result)]
  constructor
  · rintro ⟨reservation, hreservation, attempt, hattempt, ⟨hstatus, hmatches⟩, hresult⟩
    exact ⟨reservation, attempt, hreservation, hattempt, hstatus, hmatches, hresult⟩
  · rintro ⟨reservation, attempt, hreservation, hattempt, hstatus, hmatches, hresult⟩
    exact ⟨reservation, hreservation, attempt, hattempt, ⟨hstatus, hmatches⟩, hresult⟩

omit [Crypto] [FloatText] in
@[simp] theorem ExecutionReservationRecordV1.identity_settle (self : ExecutionReservationRecordV1)
    (receipt : ExecutionReceiptV1) (receiptRef : HumanCenteredContractRefV1)
    (proofEnvelope : SignedProofEnvelopeV1) (verifiedAt : Nat) :
    (self.settle receipt receiptRef proofEnvelope verifiedAt).identity = self.identity := by
  have hattempts :
      (self.settle receipt receiptRef proofEnvelope verifiedAt).attempts.map (·.identity)
      = self.attempts.map (·.identity) := map_modifyFirst fun _ _ _ => rfl
  unfold identity
  rw [hattempts]
  rfl

omit [Crypto] [FloatText] in
/-- Settling changes the one attempt that the receipt is of. -/
theorem settle_changed {reservations : List ExecutionReservationRecordV1}
    {P : ExecutionReservationRecordV1 → ExecutionAttemptRecordV1 → ExecutionAttemptRecordV1 → Prop}
    {receipt : ExecutionReceiptV1} {receiptRef : HumanCenteredContractRefV1}
    {proofEnvelope : SignedProofEnvelopeV1} {verifiedAt : Nat} (hrefl : ∀ r a, P r a a)
    (hreservation : reservations.find? (fun r => decide (r.actionRef = receipt.actionRef))
      = some reservation)
    (hattempt : reservation.attempts.find? (fun a => decide (a.permitId = receipt.permitId))
      = some attempt)
    (hP : P reservation attempt (attempt.settle receipt receiptRef proofEnvelope verifiedAt)) :
    ReservationsChanged P reservations
      (modifyFirst (fun r => decide (r.actionRef = receipt.actionRef))
        (·.settle receipt receiptRef proofEnvelope verifiedAt) reservations) := by
  apply forall₂_modifyFirst
  · intro r _
    exact ⟨rfl, List.forall₂_same.mpr fun a _ => hrefl r a⟩
  · intro r hr
    rw [hreservation] at hr
    obtain rfl := Option.some.inj hr
    refine ⟨(ExecutionReservationRecordV1.identity_settle ..).symm, forall₂_modifyFirst ?_ ?_⟩
    · exact fun a _ => hrefl _ a
    · intro a ha
      rw [hattempt] at ha
      obtain rfl := Option.some.inj ha
      exact hP

omit [Crypto] [FloatText] in
theorem settledOrSame_settle {receipt : ExecutionReceiptV1}
    {receiptRef : HumanCenteredContractRefV1}
    {proofEnvelope : SignedProofEnvelopeV1} {verifiedAt : Nat}
    (hmatches : receiptMatchesAttemptParts receipt reservation.actionRef attempt = true) :
    SettledOrSame receipt receiptRef proofEnvelope verifiedAt reservation attempt
      (attempt.settle receipt receiptRef proofEnvelope verifiedAt) := by
  simp only [receiptMatchesAttemptParts, Bool.and_eq_true, decide_eq_true_eq] at hmatches
  exact .inr ⟨hmatches.1.1.1.1.1.1.1.symm, hmatches.1.2, rfl⟩

omit [Crypto] [FloatText] in
theorem settledStatus_isTerminal (state : ExecutionStateV1) :
    (settledStatus state).isTerminal = true := by
  cases state <;> rfl

/-- What is checked of the proof of a receipt. -/
theorem checkReceipt_settle {receipt : ExecutionReceiptV1} {receiptRef : HumanCenteredContractRefV1}
    {proofEnvelope : SignedProofEnvelopeV1} {verifiedAt trustedNow : Nat}
    (hfound : findRecord records receiptRef = some (.executionReceipt receipt))
    (hmatched : receiptMatchesAttempt receipt reservation attempt = true)
    (hproof : validateReceiptProofAt receipt proofEnvelope verifiedAt trustedNow = .ok ()) :
    checkReceipt records reservation (attempt.settle receipt receiptRef proofEnvelope verifiedAt)
      = .ok () := by
  have href := (findRecord_some hfound).2
  simp only [validateReceiptProofAt, bind_eq_ok, exists_unit_eq_ok, liftProtocol_eq_ok,
    rejectIf_eq_ok, not_or, not_not, Nat.not_lt, Nat.not_le] at hproof
  obtain ⟨-, hshape, expected, -, subjectRef, hsubject, reference, hreference, hkind, hissuer,
    hsubjectRef, hdigest, -, -, -, -, hnonce, hissued, -, -, -, hverified, hexpires, -⟩ := hproof
  have heq : reference = receiptRef := Except.ok.inj (hreference.symm.trans href)
  subst heq
  unfold checkReceipt
  split
  case h_1 hnone => cases hnone
  case h_2 receiptRef hsome =>
    obtain rfl := Option.some.inj hsome
    split
    case h_1 receipt' hfound' =>
      rw [hfound] at hfound'
      obtain rfl := HumanCenteredContractSnapshotV1.executionReceipt.inj (Option.some.inj hfound')
      simp only [bind_eq_ok, rejectIf_eq_ok, exists_const, okOr_eq_ok, liftProtocol_eq_ok,
        exists_unit_eq_ok, not_or, not_not, Nat.not_lt]
      refine ⟨?_, proofEnvelope, rfl, hshape, subjectRef, hsubject, hkind, hissuer, hsubjectRef,
        hdigest, hnonce, hissued, ?_⟩
      · rw [Bool.not_eq_false]
        exact hmatched
      · show ¬ (some verifiedAt).all
          (fun verifiedAt => decide (verifiedAt < proofEnvelope.claims.issuedAt)
          || decide (verifiedAt ≥ proofEnvelope.claims.expiresAt)) = true
        simp [hverified, hexpires]
    case h_2 hother => exact absurd hfound (hother receipt)

/-- **The settled reservation passes.** The attempt is its last one, for those before it may be
retried. -/
theorem StandsOk.settle {receipt : ExecutionReceiptV1} {receiptRef : HumanCenteredContractRefV1}
    {proofEnvelope : SignedProofEnvelopeV1} {verifiedAt : Nat}
    (h : StandsOk records reservation reservation.attempts)
    (hattempt : reservation.attempts.find? (fun a => decide (a.permitId = receipt.permitId))
      = some attempt)
    (hstatus : attempt.status = .dispatched ∨ attempt.status = .reconciliationRequired)
    (hreceipt : checkReceipt records reservation
      (attempt.settle receipt receiptRef proofEnvelope verifiedAt) = .ok ()) :
    StandsOk records (reservation.settle receipt receiptRef proofEnvelope verifiedAt)
      (reservation.settle receipt receiptRef proofEnvelope verifiedAt).attempts := by
  have hsame : ∀ a, StandOk records reservation a →
      StandOk records (reservation.settle receipt receiptRef proofEnvelope verifiedAt) a :=
    fun a ha => ⟨ha.timing, ha.order, ha.receipt⟩
  have hclosed : attempt.status.permitsRetry = false := by
    rcases hstatus with hstatus | hstatus <;> rw [hstatus] <;> rfl
  obtain ⟨hstand, hretry⟩ := h
  show StandsOk records (reservation.settle receipt receiptRef proofEnvelope verifiedAt)
    (modifyFirst (fun a => decide (a.permitId = receipt.permitId))
      (·.settle receipt receiptRef proofEnvelope verifiedAt) reservation.attempts)
  rcases List.eq_nil_or_concat reservation.attempts with hattempts | ⟨init, last, hattempts⟩
  · rw [hattempts] at hattempt
    cases hattempt
  rw [List.concat_eq_append] at hattempts
  rw [hattempts] at hattempt hstand hretry ⊢
  rw [List.dropLast_concat] at hretry
  have hinit : ∀ a ∈ init, decide (a.permitId = receipt.permitId) = false := by
    intro a ha
    by_contra hpermit
    have hsome : (init.find? (fun a => decide (a.permitId = receipt.permitId))).isSome = true :=
      List.find?_isSome.mpr ⟨a, ha, Bool.not_eq_false _ ▸ hpermit⟩
    obtain ⟨first, hfirst⟩ := Option.isSome_iff_exists.mp hsome
    rw [List.find?_append, hfirst] at hattempt
    obtain rfl := Option.some.inj hattempt
    rw [hretry first (List.mem_of_find?_eq_some hfirst)] at hclosed
    cases hclosed
  have hlast : last = attempt ∧ decide (last.permitId = receipt.permitId) = true := by
    have hnone : init.find? (fun a => decide (a.permitId = receipt.permitId)) = none :=
      List.find?_eq_none.mpr fun a ha => by rw [hinit a ha]; exact Bool.false_ne_true
    rw [List.find?_append, hnone, Option.none_or, List.find?_singleton] at hattempt
    split at hattempt
    case isTrue hpermit => exact ⟨Option.some.inj hattempt, hpermit⟩
    case isFalse => cases hattempt
  obtain ⟨rfl, hpermit⟩ := hlast
  rw [modifyFirst_concat hinit, if_pos hpermit]
  have hlastOk := hstand last (List.mem_append_right _ (List.mem_singleton_self _))
  refine ⟨?_, ?_⟩
  · intro a ha
    rcases List.mem_append.mp ha with ha | ha
    · exact hsame a (hstand a (List.mem_append_left _ ha))
    · obtain rfl := List.mem_singleton.mp ha
      refine ⟨?_, hlastOk.order, hreceipt⟩
      have htiming := hlastOk.timing
      unfold timingIsValid at htiming ⊢
      rw [ExecutionAttemptRecordV1.settle]
      rcases hstatus with hstatus | hstatus <;> rw [hstatus] at htiming <;>
        cases receipt.state <;> simp_all [settledStatus]
  · rw [List.dropLast_concat]
    exact hretry

/-! ### The candidate -/

/-- What the checks of a commit establish. -/
structure CommitChecked (current : HumanCenteredStoreSnapshotV1)
    (contract : HumanCenteredContractSnapshotV1) (reference : HumanCenteredContractRefV1) :
    Prop where
  previous : checkPrevious current contract reference
    (previousPointer current.currentPointers reference) = .ok ()
  dependencies : ∀ dependency ∈ contract.metadata.dependencyRefs,
    checkDependency current dependency = .ok ()
  consistent : crossObjectConsistent contract current.records current.executionReservations = true

/-- **The candidate of a commit**: the previous revision is withdrawn, then a receipt settles its
attempt. -/
theorem commitChecked_eq_ok {current candidate : HumanCenteredStoreSnapshotV1}
    {contract : HumanCenteredContractSnapshotV1} {reference : HumanCenteredContractRefV1}
    {receiptProof : Option (SignedProofEnvelopeV1 × Nat)} :
    commitChecked current contract reference receiptProof = .ok candidate ↔
      CommitChecked current contract reference ∧ ∃ withdrawn settled,
        withdrawPrevious current (previousPointer current.currentPointers reference) =
          .ok withdrawn ∧
        settleReceipt { withdrawn with records := withdrawn.records ++ [contract] } contract
          reference
          receiptProof = .ok settled ∧
        candidate = { settled with
          currentPointers := replacePointer settled.currentPointers reference } := by
  simp only [commitChecked, commitCandidate, bind_eq_ok, exists_unit_eq_ok, rejectIf_eq_ok,
    exists_const, forM_eq_ok, Bool.not_eq_false, Except.ok.injEq, eq_comm (b := candidate)]
  constructor
  · rintro ⟨hprevious, hdependencies, hconsistent, withdrawn, hwithdrawn, settled, hsettled, heq⟩
    exact ⟨⟨hprevious, hdependencies, hconsistent⟩, withdrawn, settled, hwithdrawn, hsettled, heq⟩
  · rintro ⟨h, withdrawn, settled, hwithdrawn, hsettled, heq⟩
    exact ⟨h.previous, h.dependencies, h.consistent, withdrawn, hwithdrawn, settled, hsettled, heq⟩

/-- The revision that a contract follows. -/
theorem checkPrevious_eq_ok {current : HumanCenteredStoreSnapshotV1}
    {contract : HumanCenteredContractSnapshotV1} {reference : HumanCenteredContractRefV1}
    {previous : Option HumanCenteredContractRefV1} :
    checkPrevious current contract reference previous = .ok () ↔
      (previous = none ∧ reference.revision = 1 ∧ contract.metadata.predecessorRef = none) ∨
      ∃ pointer record, previous = some pointer ∧ pointer.kind = reference.kind ∧
        checkedSucc pointer.revision = some reference.revision ∧
        contract.metadata.predecessorRef = some pointer ∧
        findRecord current.records pointer = some record ∧
        lineageContextIsContinuous record.metadata contract.metadata = true := by
  rcases previous with _ | pointer
  · simp [checkPrevious]
  · simp only [checkPrevious, bind_eq_ok, require_eq_ok, exists_const, okOr_eq_ok]
    constructor
    · rintro ⟨⟨hkind, hsucc, hpredecessor⟩, record, hrecord, hcontext⟩
      exact .inr ⟨pointer, record, rfl, hkind, hsucc, hpredecessor, hrecord, hcontext⟩
    · rintro (⟨hnone, -⟩ | ⟨_, record, heq, hkind, hsucc, hpredecessor, hrecord, hcontext⟩)
      · cases hnone
      · obtain rfl := Option.some.inj heq
        exact ⟨⟨hkind, hsucc, hpredecessor⟩, record, hrecord, hcontext⟩

theorem checkDependency_eq_ok {current : HumanCenteredStoreSnapshotV1}
    {dependency : HumanCenteredContractRefV1} :
    checkDependency current dependency = .ok () ↔
      previousPointer current.currentPointers dependency = some dependency ∧
        dependency ∉ current.invalidatedRefs ∧ current.records.any (·.isAt dependency) = true := by
  rw [checkDependency, rejectIf_eq_ok, not_or, not_or, not_not, Bool.not_eq_false]

/-- What `withdrawPrevious` leaves as it was, and how it changes the rest. -/
structure WithdrawnFrom (current withdrawn : HumanCenteredStoreSnapshotV1) : Prop where
  records : withdrawn.records = current.records
  pointers : withdrawn.currentPointers = current.currentPointers
  invalidated : ∀ r ∈ withdrawn.invalidatedRefs,
    r ∈ current.invalidatedRefs ∨ r ∈ current.currentPointers
  reservations : ReservationsChanged (fun _ => WithdrawnOrSame) current.executionReservations
    withdrawn.executionReservations
  stands : ∀ records, (∀ r ∈ current.executionReservations, StandsOk records r r.attempts) →
    ∀ r ∈ withdrawn.executionReservations, StandsOk records r r.attempts

theorem withdrawnFrom_of_invalidateDependents {current withdrawn : HumanCenteredStoreSnapshotV1}
    {stale : HumanCenteredContractRefV1} (h : invalidateDependents current stale = .ok withdrawn) :
    WithdrawnFrom current withdrawn := by
  have hinvalidated : ∀ r ∈ withdrawn.invalidatedRefs,
      r ∈ current.invalidatedRefs ∨ r ∈ current.currentPointers := by
    intro r hr
    rcases (mem_invalidatedRefs_of_invalidateDependents h).mp hr with hr | hr
    · exact .inl hr
    · exact .inr hr.mem_pointers
  obtain ⟨inv, -, rfl⟩ := invalidateDependents_eq_ok.mp h
  refine ⟨rfl, rfl, hinvalidated, withdrawReservations_changed current stale inv, ?_⟩
  intro records hstands r hr
  obtain ⟨reservation, hmem, rfl⟩ := List.mem_map.mp hr
  split
  · exact (hstands reservation hmem).withdraw
  · exact hstands reservation hmem

theorem withdrawnFrom_of_withdrawPrevious {current withdrawn : HumanCenteredStoreSnapshotV1}
    {previous : Option HumanCenteredContractRefV1}
    (h : withdrawPrevious current previous = .ok withdrawn) : WithdrawnFrom current withdrawn := by
  rcases previous with _ | pointer
  · obtain rfl := Except.ok.inj h
    refine ⟨rfl, rfl, fun r hr => .inl hr, ?_, fun _ hstands => hstands⟩
    exact List.forall₂_same.mpr fun _ _ => ⟨rfl, List.forall₂_same.mpr fun _ _ => .inl rfl⟩
  · exact withdrawnFrom_of_invalidateDependents h

omit [Crypto] [FloatText] in
/-- `settleReceipt` changes the reservations only. -/
theorem settleReceipt_eq_ok {candidate settled : HumanCenteredStoreSnapshotV1}
    {contract : HumanCenteredContractSnapshotV1} {reference : HumanCenteredContractRefV1}
    {receiptProof : Option (SignedProofEnvelopeV1 × Nat)}
    (h : settleReceipt candidate contract reference receiptProof = .ok settled) :
    settled = { candidate with executionReservations := settled.executionReservations } ∧
      ((isReceipt contract = false ∧ settled = candidate) ∨
        ∃ receipt proofEnvelope verifiedAt, contract = .executionReceipt receipt ∧
          receiptProof = some (proofEnvelope, verifiedAt) ∧
          applyExecutionReceiptTransition candidate receipt reference proofEnvelope verifiedAt
            = .ok settled) := by
  cases contract with
  | executionReceipt receipt =>
    simp only [settleReceipt, bind_eq_ok, okOr_eq_ok] at h
    obtain ⟨⟨proofEnvelope, verifiedAt⟩, rfl, happly⟩ := h
    refine ⟨?_, .inr ⟨receipt, proofEnvelope, verifiedAt, rfl, rfl, happly⟩⟩
    obtain ⟨_, _, -, -, -, -, rfl⟩ := applyExecutionReceiptTransition_eq_ok.mp happly
    rfl
  | _ =>
    obtain rfl := Except.ok.inj h
    exact ⟨rfl, .inl ⟨rfl, rfl⟩⟩

/-! ### The seal -/

theorem sealNextSnapshot_eq_ok {candidate previous sealed : HumanCenteredStoreSnapshotV1} :
    sealNextSnapshot candidate previous = .ok sealed ↔ previous.sequence < u64Max ∧
      sealed = { candidate with
        sequence := previous.sequence + 1
        previousSnapshotDigest :=
          if previous.sequence > 0 then some previous.snapshotDigest else none
        snapshotDigest := computeSnapshotDigest { candidate with
          sequence := previous.sequence + 1
          previousSnapshotDigest :=
            if previous.sequence > 0 then some previous.snapshotDigest else none
          snapshotDigest := "" } } := by
  simp only [sealNextSnapshot, bind_eq_ok, okOr_eq_ok, checkedSucc_eq_some, Except.ok.injEq]
  constructor
  · rintro ⟨sequence, ⟨hlt, rfl⟩, rfl⟩
    exact ⟨hlt, rfl⟩
  · rintro ⟨hlt, rfl⟩
    exact ⟨_, ⟨hlt, rfl⟩, rfl⟩

/-- A sealed snapshot carries the digest of what it holds. -/
theorem checkSeal_of_sealNextSnapshot {candidate previous sealed : HumanCenteredStoreSnapshotV1}
    (hprevious : checkSeal previous = .ok ())
    (h : sealNextSnapshot candidate previous = .ok sealed) :
    checkSeal sealed = .ok () := by
  obtain ⟨-, rfl⟩ := sealNextSnapshot_eq_ok.mp h
  rw [checkSeal, if_neg (Nat.succ_ne_zero previous.sequence), rejectIf_eq_ok, not_or, not_or]
  refine ⟨?_, ?_, not_not.mpr rfl⟩
  · rw [Bool.not_eq_false]
    exact validDigest_sha256Hex _
  · dsimp only
    split
    case isTrue hpos =>
      -- the digest of the snapshot before was checked when it was loaded
      rw [checkSeal, if_neg (Nat.ne_of_gt hpos), rejectIf_eq_ok, not_or,
        Bool.not_eq_false] at hprevious
      simp [hprevious.1]
    case isFalse => exact Bool.false_ne_true

/-! ### The commit -/

variable {current candidate sealed withdrawn replayed : HumanCenteredStoreSnapshotV1}
variable {contract : HumanCenteredContractSnapshotV1} {reference : HumanCenteredContractRefV1}
variable {refs : List HumanCenteredContractRefV1}
variable {receiptProof : Option (SignedProofEnvelopeV1 × Nat)}

/-- The new revision is later than those on record. -/
theorem Accepted.revision_lt (h : Accepted current refs)
    (hprevious : checkPrevious current contract reference
      (previousPointer current.currentPointers reference) = .ok ()) :
    ∀ r ∈ refs, r.sameContract reference = true → r.revision < reference.revision := by
  intro r hr hsame
  obtain ⟨p, hp, hpr, hle⟩ := h.exists_pointer hr
  have hfind := h.one.previousPointer_eq_some.mpr ⟨hp, sameContract_trans hpr hsame⟩
  rcases checkPrevious_eq_ok.mp hprevious with ⟨hnone, -⟩ | ⟨pointer, record, hsome, -, hsucc, -⟩
  · rw [hfind] at hnone
    cases hnone
  · rw [hfind] at hsome
    obtain rfl := Option.some.inj hsome
    have hnext := (checkedSucc_eq_some.mp hsucc).2
    omega

/-- Replay withdraws what the commit withdraws: neither looks at the reservations. -/
theorem replayPrevious_of_withdrawPrevious
    (hrecords : replayed.records = current.records)
    (hpointers : replayed.currentPointers = current.currentPointers)
    (hinvalidated : replayed.invalidatedRefs = current.invalidatedRefs)
    (hprevious : checkPrevious current contract reference
      (previousPointer current.currentPointers reference) = .ok ())
    (h : withdrawPrevious current (previousPointer current.currentPointers reference) =
      .ok withdrawn) :
    ∃ result, replayPrevious replayed contract reference = .ok result ∧
      result.records = replayed.records ∧ result.currentPointers = withdrawn.currentPointers ∧
      result.invalidatedRefs = withdrawn.invalidatedRefs := by
  rw [replayPrevious, hpointers]
  rcases checkPrevious_eq_ok.mp hprevious with
    ⟨hnone, hrevision, hpredecessor⟩ |
    ⟨pointer, record, hsome, -, hsucc, hpredecessor, hrecord, hcontext⟩
  · rw [hnone] at h ⊢
    obtain rfl := Except.ok.inj h
    refine ⟨replayed, ?_, rfl, hpointers, hinvalidated⟩
    simp [hrevision, hpredecessor]
  · rw [hsome] at h ⊢
    obtain ⟨inv, hloop, rfl⟩ := invalidateDependents_eq_ok.mp h
    have hreplayed : invalidateDependents replayed pointer = .ok { replayed with
        invalidatedRefs := dedupAdjacent (sortRefs inv)
        executionReservations := withdrawReservations replayed pointer inv } := by
      refine invalidateDependents_eq_ok.mpr ⟨inv, ?_, rfl⟩
      rw [hrecords, hpointers, hinvalidated]
      exact hloop
    refine ⟨{ replayed with
        invalidatedRefs := dedupAdjacent (sortRefs inv)
        executionReservations := withdrawReservations replayed pointer inv }, ?_, rfl,
        hpointers, rfl⟩
    simp only [bind_eq_ok, require_eq_ok, exists_const, okOr_eq_ok]
    exact ⟨⟨hsucc, hpredecessor⟩, record, by rw [hrecords]; exact hrecord, hcontext, hreplayed⟩

/-- **The reservations after a commit** pass, and every contract still agrees with them. -/
theorem Accepted.commit_reservations {settled : HumanCenteredStoreSnapshotV1} {clock : Option Nat}
    (h : Accepted current refs) (hnew : reference ∉ refs)
    (href : contract.recordRef = .ok reference)
    (hproof : checkReceiptProof clock contract receiptProof = .ok ())
    (hconsistent : crossObjectConsistent contract current.records current.executionReservations =
      true)
    (hwithdrawn : WithdrawnFrom current withdrawn)
    (hsettled : settleReceipt { withdrawn with records := withdrawn.records ++ [contract] } contract
      reference receiptProof = .ok settled) :
    (∀ record ∈ current.records ++ [contract], ∀ prior,
      crossObjectConsistent record prior current.executionReservations = true →
        crossObjectConsistent record prior settled.executionReservations = true) ∧
    current.executionReservations.map (·.identity) =
      settled.executionReservations.map (·.identity) ∧
    ∀ r ∈ settled.executionReservations,
      StandsOk (current.records ++ [contract]) r r.attempts := by
  -- the records are more, which the checks of the attempts do not mind
  have hmore : ∀ r ∈ current.executionReservations,
      StandsOk (current.records ++ [contract]) r r.attempts := by
    intro r hr
    have hstands := checkReservations_stands h.reservations r hr
    refine ⟨fun a ha => ?_, hstands.retry⟩
    have hstand := hstands.stand a ha
    refine ⟨hstand.timing, hstand.order, ?_⟩
    have hreceipt := hstand.receipt
    unfold checkReceipt at hreceipt ⊢
    split at hreceipt
    · rfl
    · split at hreceipt
      case h_1 receipt hfound =>
        rw [findRecord_append hfound]
        exact hreceipt
      case h_2 => cases hreceipt
  have hwithdrawnStands := hwithdrawn.stands _ hmore
  have hwithdrawnCross : ∀ record prior,
      crossObjectConsistent record prior current.executionReservations = true →
        crossObjectConsistent record prior withdrawn.executionReservations = true :=
    fun record prior => crossObjectConsistent_congr fun receipt _ =>
      receiptConsistent_withdrawn hwithdrawn.reservations
  rcases (settleReceipt_eq_ok hsettled).2 with ⟨-, rfl⟩ |
    ⟨receipt, proofEnvelope, verifiedAt, rfl, rfl, happly⟩
  · exact ⟨fun record _ prior => hwithdrawnCross record prior, hwithdrawn.reservations.identity,
      hwithdrawnStands⟩
  · obtain ⟨reservation, attempt, hreservation, hattempt, hstatus, hmatches, rfl⟩ :=
      applyExecutionReceiptTransition_eq_ok.mp happly
    dsimp only at hreservation ⊢
    have hchanged := settle_changed
      (P := SettledOrSame receipt reference proofEnvelope verifiedAt) (fun _ _ => .inl rfl)
      hreservation hattempt (settledOrSame_settle hmatches)
    obtain ⟨action, r, a, hagrees⟩ := receiptConsistent_iff.mp (hwithdrawnCross _ _ hconsistent)
    obtain rfl : reservation = r := Option.some.inj (hreservation.symm.trans hagrees.reserved)
    obtain rfl : attempt = a := Option.some.inj (hattempt.symm.trans hagrees.permitted)
    refine ⟨?_, hwithdrawn.reservations.identity.trans hchanged.identity, ?_⟩
    · intro record hmem prior hcross
      refine crossObjectConsistent_congr ?_ (hwithdrawnCross record prior hcross)
      rintro earlier rfl
      refine receiptConsistent_congr hchanged ?_
      rintro r a a' (rfl | ⟨haction, hnumber, rfl⟩)
      · exact ⟨rfl, fun _ h => h, fun _ hstatus => hstatus⟩
      · refine ⟨rfl, fun _ h => h, fun hmatched _ => .inr (.inr ⟨settledStatus_isTerminal _, ?_⟩)⟩
        simp only [receiptMatchesAttempt, Bool.and_eq_true, decide_eq_true_eq] at hmatched
        rcases List.mem_append.mp hmem with hold | hlast
        · -- an earlier receipt of the attempt would have kept this one out
          have hother := hagrees.first earlier hold
          exact absurd ⟨hmatched.1.1.1.1.1.1.1.trans haction, hmatched.1.2.trans hnumber.symm⟩
            hother
        · obtain rfl := HumanCenteredContractSnapshotV1.executionReceipt.inj
            (List.mem_singleton.mp hlast)
          show some reference = (ExecutionReceiptV1.recordRef earlier).toOption
          rw [show ExecutionReceiptV1.recordRef earlier = .ok reference from href]
          rfl
    · intro r hr
      rcases mem_modifyFirst hr with hold | ⟨x, hx, rfl⟩
      · exact hwithdrawnStands r hold
      · obtain rfl := Option.some.inj (hreservation.symm.trans hx)
        have hstands := hwithdrawnStands reservation (List.mem_of_find?_eq_some hreservation)
        refine hstands.settle hattempt hstatus ?_
        simp only [checkReceiptProof, bind_eq_ok, okOr_eq_ok] at hproof
        obtain ⟨trustedNow, -, hproof⟩ := hproof
        exact checkReceipt_settle (h.refsOf.findRecord_concat hnew href) hagrees.matched hproof

/-- The records of a commit pass. -/
theorem Accepted.commit_records {reservations : List ExecutionReservationRecordV1}
    (h : Accepted current refs) (href : contract.recordRef = .ok reference)
    (hchecked : CommitChecked current contract reference)
    (hcross : ∀ record ∈ current.records ++ [contract], ∀ prior,
      crossObjectConsistent record prior current.executionReservations = true →
        crossObjectConsistent record prior reservations = true) :
    checkRecords reservations [] [] [] (current.records ++ [contract])
      = .ok (latestOf (refs ++ [reference])) := by
  have hearlier : checkRecords reservations [] [] [] current.records = .ok (latestOf refs) :=
    checkRecords_congr (fun record hmem => hcross record (List.mem_append_left _ hmem)) h.records
  rw [checkRecords_append h.refsOf, hearlier]
  show checkRecords reservations current.records refs (latestOf refs) [contract] = _
  rw [latestOf_append]
  refine checkRecords_cons_eq_ok.mpr ⟨reference, href, ?_, ?_, ?_, rfl⟩
  · intro predecessor hpredecessor
    rcases checkPrevious_eq_ok.mp hchecked.previous with
      ⟨-, -, hnone⟩ | ⟨pointer, record, hsome, hkind, -, hpointer, -⟩
    · rw [hpredecessor] at hnone
      cases hnone
    · rw [hpredecessor] at hpointer
      obtain rfl := Option.some.inj hpointer
      exact ⟨hkind, h.mem_refs_of_pointer (previousPointer_some hsome).1⟩
  · intro dependency hdependency
    have hok := checkDependency_eq_ok.mp (hchecked.dependencies dependency hdependency)
    exact h.refsOf.any_isAt.mp hok.2.2
  · exact hcross contract (List.mem_append_right _ (List.mem_singleton_self _)) current.records
      hchecked.consistent

/-- **A commit keeps what is accepted.** -/
theorem Accepted.commit {clock : Option Nat} (h : Accepted current refs) (hnew : reference ∉ refs)
    (href : contract.recordRef = .ok reference)
    (hproof : checkReceiptProof clock contract receiptProof = .ok ())
    (hcommit : commitChecked current contract reference receiptProof = .ok candidate)
    (hseal : sealNextSnapshot candidate current = .ok sealed) :
    Accepted sealed (refs ++ [reference]) := by
  obtain ⟨hchecked, withdrawn, settled, hwithdrawn, hsettled, hcandidate⟩ :=
    commitChecked_eq_ok.mp hcommit
  have hfrom := withdrawnFrom_of_withdrawPrevious hwithdrawn
  obtain ⟨hcross, hidentity, hstands⟩ :=
    h.commit_reservations hnew href hproof hchecked.consistent hfrom hsettled
  have hlower := h.revision_lt hchecked.previous
  have hlatest := latestOk_latestOf refs
  obtain ⟨hvalid, -, hrefvalid⟩ := HumanCenteredContractSnapshotV1.recordRef_eq_ok.mp href
  have hsealed := checkSeal_of_sealNextSnapshot h.sealed hseal
  -- what the sealed snapshot holds
  obtain ⟨-, hsealedEq⟩ := sealNextSnapshot_eq_ok.mp hseal
  have hsettledEq := (settleReceipt_eq_ok hsettled).1
  have hrecords : sealed.records = current.records ++ [contract] := by
    rw [hsealedEq, hcandidate, hsettledEq]
    show withdrawn.records ++ [contract] = _
    rw [hfrom.records]
  have hpointers : sealed.currentPointers = replacePointer current.currentPointers reference := by
    rw [hsealedEq, hcandidate, hsettledEq]
    show replacePointer withdrawn.currentPointers reference = _
    rw [hfrom.pointers]
  have hinvalidated : sealed.invalidatedRefs = withdrawn.invalidatedRefs := by
    rw [hsealedEq, hcandidate, hsettledEq]
  have hreservations : sealed.executionReservations = settled.executionReservations := by
    rw [hsealedEq, hcandidate]
  refine ⟨hsealed, ?_, ?_, ?_, ?_, ?_, ?_, ?_, ?_⟩
  · rw [hrecords]
    exact h.refsOf.concat href
  · refine List.pairwise_append.mpr ⟨h.distinct, List.pairwise_singleton _ _, ?_⟩
    intro r hr r' hr' hclash
    obtain rfl := List.mem_singleton.mp hr'
    exact absurd hclash.2 (Nat.ne_of_lt (hlower r hr hclash.1))
  · rw [hrecords, hreservations]
    exact h.commit_records href hchecked hcross
  · intro p hp
    rw [hpointers, mem_replacePointer] at hp
    rcases hp with rfl | ⟨hp, -⟩
    · exact hrefvalid
    · exact h.pointers p hp
  · rw [hpointers, latestOf_append]
    apply replacePointer_perm hlatest.one h.latest
    intro other hother
    exact hlower other (hlatest.mem other hother)
  · intro r hr
    rw [hinvalidated] at hr
    rcases hfrom.invalidated r hr with hold | hpointer
    · obtain ⟨hrvalid, hmem⟩ := h.invalidated r hold
      exact ⟨hrvalid, List.mem_append_left _ hmem⟩
    · exact ⟨h.pointers r hpointer, List.mem_append_left _ (h.mem_refs_of_pointer hpointer)⟩
  · obtain ⟨replayed, hreplay, hsamePointers, hsameInvalidated⟩ := h.replayed
    obtain ⟨result, hresult, hresultRecords, hresultPointers, hresultInvalidated⟩ :=
      replayPrevious_of_withdrawPrevious (replayHistory_records hreplay) hsamePointers
        hsameInvalidated hchecked.previous hwithdrawn
    refine ⟨{ result with
        records := result.records ++ [contract]
        currentPointers := replacePointer result.currentPointers reference }, ?_, ?_, ?_⟩
    · rw [hrecords, replayHistory_concat, hreplay]
      show replayRecord replayed contract = _
      simp only [replayRecord, bind_eq_ok, liftProtocol_eq_ok]
      exact ⟨reference, href, result, hresult, rfl⟩
    · rw [hpointers, ← hfrom.pointers, ← hresultPointers]
    · rw [hinvalidated, ← hresultInvalidated]
  · rw [hrecords, hreservations]
    exact checkReservations_congr (fun r record hfound => findRecord_append hfound _) rfl hidentity
      hstands h.reservations

/-! ### What a commit reports -/

omit [Crypto] [FloatText] in
/-- Errors of the protocol are reported as such. -/
theorem liftProtocol_ne_corrupt {α : Type} {x : Except HumanCenteredProtocolError α} :
    liftProtocol x ≠ .error .corruptSnapshot := by
  intro h
  obtain ⟨e, -, he⟩ := mapError_eq_error.mp h
  cases he

theorem commitPrecheck_ne_corrupt :
    commitPrecheck contract receiptProof ≠ .error .corruptSnapshot := by
  intro h
  rcases bind_eq_error.mp h with h | ⟨_, -, h⟩
  · cases (rejectIf_eq_error.mp h).2
  · rcases bind_eq_error.mp h with h | ⟨_, -, h⟩
    · exact liftProtocol_ne_corrupt h
    · exact liftProtocol_ne_corrupt h

theorem checkReceiptProof_ne_corrupt {clock : Option Nat} :
    checkReceiptProof clock contract receiptProof ≠ .error .corruptSnapshot := by
  intro h
  unfold checkReceiptProof at h
  split at h
  · cases h
  · split at h
    · rcases bind_eq_error.mp h with h | ⟨trustedNow, -, h⟩
      · cases (okOr_eq_error.mp h).2
      · -- every check of the proof reports an error of the protocol
        rcases bind_eq_error.mp h with h | ⟨_, -, h⟩
        · exact liftProtocol_ne_corrupt h
        · rcases bind_eq_error.mp h with h | ⟨_, -, h⟩
          · exact liftProtocol_ne_corrupt h
          · rcases bind_eq_error.mp h with h | ⟨_, -, h⟩
            · exact liftProtocol_ne_corrupt h
            · rcases bind_eq_error.mp h with h | ⟨_, -, h⟩
              · exact liftProtocol_ne_corrupt h
              · rcases bind_eq_error.mp h with h | ⟨_, -, h⟩
                · exact liftProtocol_ne_corrupt h
                · cases (rejectIf_eq_error.mp h).2
    · cases h

/-- The candidate of an accepted snapshot is made, or refused for another reason. -/
theorem Accepted.commitChecked_ne_corrupt (h : Accepted current refs) :
    commitChecked current contract reference receiptProof ≠ .error .corruptSnapshot := by
  intro herror
  rcases bind_eq_error.mp herror with herror | ⟨_, hprevious, herror⟩
  · -- the previous revision is a pointer, which is on record
    rcases hfind : previousPointer current.currentPointers reference with _ | pointer
    · rw [hfind] at herror
      cases (require_eq_error.mp herror).2
    · rw [hfind] at herror
      rcases bind_eq_error.mp herror with herror | ⟨_, -, herror⟩
      · cases (require_eq_error.mp herror).2
      · rcases bind_eq_error.mp herror with herror | ⟨_, -, herror⟩
        · have hrecorded := h.pointer_recorded (previousPointer_some hfind).1
          rw [(okOr_eq_error.mp herror).1] at hrecorded
          cases hrecorded
        · cases (require_eq_error.mp herror).2
  · rcases bind_eq_error.mp herror with herror | ⟨_, -, herror⟩
    · obtain ⟨dependency, -, hdependency⟩ := exists_of_forM_eq_error herror
      cases (rejectIf_eq_error.mp hdependency).2
    · rcases bind_eq_error.mp herror with herror | ⟨_, -, herror⟩
      · cases (rejectIf_eq_error.mp herror).2
      · rcases bind_eq_error.mp herror with herror | ⟨withdrawn, -, herror⟩
        · rcases hfind : previousPointer current.currentPointers reference with _ | pointer
          · rw [hfind] at herror
            cases herror
          · obtain ⟨result, hresult⟩ := h.invalidateDependents_total pointer
            rw [hfind, withdrawPrevious, hresult] at herror
            cases herror
        · rcases bind_eq_error.mp herror with herror | ⟨_, -, herror⟩
          · cases contract with
            | executionReceipt receipt =>
              rcases bind_eq_error.mp herror with herror | ⟨proof, -, herror⟩
              · cases (okOr_eq_error.mp herror).2
              · rcases bind_eq_error.mp herror with herror | ⟨_, -, herror⟩
                · cases (okOr_eq_error.mp herror).2
                · rcases bind_eq_error.mp herror with herror | ⟨_, -, herror⟩
                  · cases (okOr_eq_error.mp herror).2
                  · rcases bind_eq_error.mp herror with herror | ⟨_, -, herror⟩
                    · cases (rejectIf_eq_error.mp herror).2
                    · cases herror
            | _ => cases herror
          · cases herror

theorem commitPrecheck_eq_ok :
    commitPrecheck contract receiptProof = .ok reference ↔
      isReceipt contract = receiptProof.isSome ∧ contract.recordRef = .ok reference := by
  simp only [commitPrecheck, bind_eq_ok, exists_unit_eq_ok, rejectIf_eq_ok, exists_const, not_not,
    liftProtocol_eq_ok]
  refine and_congr_right fun _ => and_iff_right_of_imp fun href => ?_
  exact (HumanCenteredContractSnapshotV1.recordRef_eq_ok.mp href).1

/-- **The incremental snapshot is the replayed one.** On a snapshot that is accepted, the sealed
candidate of every contract that passes the checks is accepted, with the pointers and the
invalidated references that replay finds; so a commit never reports a corrupt snapshot. -/
theorem commit_agrees_with_replay {clock : Option Nat}
    (hcurrent : validateSnapshot current = .ok ()) :
    (∀ reference candidate sealed,
      commitPrecheck contract receiptProof = .ok reference →
      checkReceiptProof clock contract receiptProof = .ok () →
      current.records.any (·.isAt reference) = false →
      commitChecked current contract reference receiptProof = .ok candidate →
      sealNextSnapshot candidate current = .ok sealed →
      validateSnapshot sealed = .ok () ∧
        ∃ replayed, replayHistory sealed.records = .ok replayed ∧
          replayed.currentPointers = sealed.currentPointers ∧
          replayed.invalidatedRefs = sealed.invalidatedRefs) ∧
    commitInternal clock contract receiptProof current ≠ .error .corruptSnapshot := by
  obtain ⟨refs, h⟩ := validateSnapshot_eq_ok.mp hcurrent
  have hsealed : ∀ reference candidate sealed,
      commitPrecheck contract receiptProof = .ok reference →
      checkReceiptProof clock contract receiptProof = .ok () →
      current.records.any (·.isAt reference) = false →
      commitChecked current contract reference receiptProof = .ok candidate →
      sealNextSnapshot candidate current = .ok sealed →
      Accepted sealed (refs ++ [reference]) := by
    intro reference candidate sealed hprecheck hproof hnew hchecked hseal
    refine h.commit ?_ (commitPrecheck_eq_ok.mp hprecheck).2 hproof hchecked hseal
    intro hmem
    rw [h.refsOf.any_isAt.mpr hmem] at hnew
    cases hnew
  constructor
  · intro reference candidate sealed hprecheck hproof hnew hchecked hseal
    have haccepted := hsealed reference candidate sealed hprecheck hproof hnew hchecked hseal
    exact ⟨validateSnapshot_eq_ok.mpr ⟨_, haccepted⟩, haccepted.replayed⟩
  · intro herror
    rcases bind_eq_error.mp herror with herror | ⟨reference, hprecheck, herror⟩
    · exact commitPrecheck_ne_corrupt herror
    rcases bind_eq_error.mp herror with herror | ⟨_, hproof, herror⟩
    · exact checkReceiptProof_ne_corrupt herror
    split at herror
    · cases herror
    case isFalse hnew =>
      rcases bind_eq_error.mp herror with herror | ⟨candidate, hchecked, herror⟩
      · exact h.commitChecked_ne_corrupt herror
      rcases bind_eq_error.mp herror with herror | ⟨sealed, hseal, herror⟩
      · rcases bind_eq_error.mp herror with herror | ⟨_, -, herror⟩
        · cases (okOr_eq_error.mp herror).2
        · cases herror
      have haccepted := hsealed reference candidate sealed hprecheck hproof
        (Bool.eq_false_iff.mpr hnew) hchecked hseal
      rw [validateSnapshot_eq_ok.mpr ⟨_, haccepted⟩] at herror
      cases herror

end Incremental

/-! ### A sample store

Intents of one context, with a checksum in place of SHA-256.  The second revision of the first
intent depends on the second intent, which was built on the first revision. -/

namespace StoreSample

section Contracts

variable [Crypto] [FloatText]

def hypothesis : RankedIntentHypothesisV1 := ⟨⟨party, "intent", ⟨5000, by decide⟩, [], []⟩, 1⟩

def intent (contractId : HumanCenteredIdV1) (predecessor : Option HumanCenteredContractRefV1)
    (dependencies : List HumanCenteredContractRefV1) : HumanCenteredContractSnapshotV1 :=
  let draft : IntentContractV1 := {
    metadata := metadata .intent contractId predecessor dependencies
    userStatedIntentRef := party
    baseHypotheses := [hypothesis]
    personalizedHypotheses := [hypothesis]
    primaryHypothesisRef := party
    confidence := ⟨5000, by decide⟩
    ambiguity := false
    clarificationRequired := false
    humanModelEffects := []
    resolutionMethod := .fullPath
    recordDigest := "" }
  .intent { draft with recordDigest := contractDigest "intent-contract-v1" draft.digestInput }

/-- The reference that a valid contract has. -/
def refOf (contract : HumanCenteredContractSnapshotV1) : HumanCenteredContractRefV1 :=
  ⟨contract.kind, contract.metadata.contractId, contract.metadata.revision, contract.recordDigest⟩

def first : HumanCenteredContractSnapshotV1 := intent firstId none []
def second : HumanCenteredContractSnapshotV1 := intent secondId none [refOf first]
def revised : HumanCenteredContractSnapshotV1 :=
  intent firstId (some (refOf first)) [refOf second]

/-- The snapshot that a call stores. -/
def stored (current : HumanCenteredStoreSnapshotV1) (now : Nat) (call : StoreCallV1) :
    Option HumanCenteredStoreSnapshotV1 :=
  match call.plan (some now) current with
  | .ok planned => planned.candidate
  | .error _ => none

/-- The calls are made at the times given, and each of them stores a snapshot. -/
def storedAll (current : HumanCenteredStoreSnapshotV1) :
    List (Nat × StoreCallV1) → Option HumanCenteredStoreSnapshotV1
  | [] => some current
  | (now, call) :: calls => (stored current now call).bind fun next => storedAll next calls

/-- The revision passes every check on the store of the two intents, and is sealed. -/
def revisionSealed : Bool :=
  (storedAll .empty [(10, .commit first), (11, .commit second)]).any fun current =>
    decide (validateSnapshot current = .ok ()) && isOkAnd (commitPrecheck revised none)
      fun reference =>
      decide (checkReceiptProof (some 12) revised none = .ok ())
        && decide (current.records.any (·.isAt reference) = false)
        && isOkAnd (commitChecked current revised reference none) fun candidate =>
          isOkAnd (sealNextSnapshot candidate current) fun sealed =>
            decide (sealed.invalidatedRefs = [refOf second])

end Contracts

set_option maxRecDepth 20000 in
theorem revisionSealed_true :
    @revisionSealed Sample.crypto floatText = true := by
  decide +kernel

end StoreSample

/-- The revision of the sample invalidates the second intent, and its snapshot is accepted. -/
theorem commit_agrees_with_replay_sample : let _ := Sample.crypto
    let _ := StoreSample.floatText
    ∃ sealed, validateSnapshot sealed = .ok () ∧
      sealed.invalidatedRefs = [StoreSample.refOf StoreSample.second] := by
  intro crypto floatText
  have hsample := StoreSample.revisionSealed_true
  obtain ⟨current, -, hsample⟩ := (Option.any_eq_true _ _).mp hsample
  simp only [Bool.and_eq_true, decide_eq_true_eq, isOkAnd_iff] at hsample
  obtain ⟨hcurrent, reference, hprecheck, ⟨hproof, hnew⟩, candidate, hchecked, sealed, hseal,
    hinvalidated⟩ := hsample
  have hall :=
    (commit_agrees_with_replay hcurrent).1 reference candidate sealed hprecheck hproof hnew
    hchecked hseal
  exact ⟨sealed, hall.1, hinvalidated⟩

end Idr
