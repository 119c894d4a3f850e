/-
Idr/FileStore/History.lean

Runs of the file store.

A step is one call, at the time its clock reads.  What the call stores is
the next snapshot, if it comes to the disk: a call that fails while it
stores the snapshot may have stored it or not (`persisted`).  All snapshots
of a run are accepted (`Reachable.accepted`), and each is an extension of
those before it: records, reservations and attempts are added, and their
identities are never changed (`Run.extends`).
-/
import Idr.FileStore.Incremental
import Idr.Lib.Steps

namespace Idr

open HumanCenteredContractRefV1

/-! ### Steps -/

/-- A call of the store, what its clock reads, and whether what it stores comes to the disk. -/
structure StoreInputV1 where
  call : StoreCallV1
  clock : Option Nat
  persisted : Bool

/-- The snapshot on the disk, and the latest time that was read. -/
structure FileStoreStateV1 where
  snapshot : HumanCenteredStoreSnapshotV1
  time : Nat

def FileStoreInit (s : FileStoreStateV1) : Prop := s.snapshot = .empty ∧ s.time = 0

section History

variable [Crypto] [FloatText]

/-- The snapshot after a call. -/
def StoreInputV1.next (self : StoreInputV1) (current : HumanCenteredStoreSnapshotV1) :
    HumanCenteredStoreSnapshotV1 :=
  match self.call.plan self.clock current with
  | .ok ⟨some candidate, _⟩ => if self.persisted = true then candidate else current
  | _ => current

/-- The time does not go back. -/
def StoreInputV1.inTime (self : StoreInputV1) (time : Nat) : Prop :=
  ∀ now, self.clock = some now → time ≤ now

/-- **A step of the store.** -/
def FileStoreStep (s : FileStoreStateV1) (i : StoreInputV1) (t : FileStoreStateV1) : Prop :=
  i.inTime s.time ∧ t.snapshot = i.next s.snapshot ∧ t.time = i.clock.getD s.time

/-! ### What a call stores -/

/-- The two forms of a commit. -/
inductive CommitCall : StoreCallV1 → HumanCenteredContractSnapshotV1 →
    Option (SignedProofEnvelopeV1 × Nat) → Prop
  | contract {contract} : isReceipt contract = false → CommitCall (.commit contract) contract none
  | receipt {receipt proofEnvelope verifiedAt} :
      CommitCall (.commitExecutionReceipt receipt proofEnvelope verifiedAt)
        (.executionReceipt receipt) (some (proofEnvelope, verifiedAt))

/-- The two transitions of a permit, with the status each expects and the one it leads to. -/
inductive MarkCall : StoreCallV1 → ExecutionPermitV1 → ExecutionReservationStatusV1 →
    ExecutionReservationStatusV1 → Prop
  | delivered {permit} :
      MarkCall (.markExecutionPermitDelivered permit) permit .permitIssued .delivered
  | dispatched {permit} :
      MarkCall (.markExecutionDispatched permit) permit .delivered .dispatched

/-- **Everything a call can store**, before it is sealed. -/
inductive StoreChange (current : HumanCenteredStoreSnapshotV1) (clock : Option Nat) :
    StoreCallV1 → HumanCenteredStoreSnapshotV1 → Prop
  | commit {call contract receiptProof reference candidate} :
      CommitCall call contract receiptProof →
      contract.recordRef = .ok reference →
      checkReceiptProof clock contract receiptProof = .ok () →
      current.records.any (·.isAt reference) = false →
      commitChecked current contract reference receiptProof = .ok candidate →
      StoreChange current clock call candidate
  | issue {verifiedRequest fresh trustedNow action reservationId executionReservations} :
      clock = some trustedNow →
      current.isCurrent verifiedRequest.request.actionRef = true →
      findAction current.records verifiedRequest.request.actionRef = some action →
      verifiedRequest.validateAt action trustedNow = .ok () →
      (∀ other ∈ current.executionReservations.flatMap (·.attempts),
        other.proofId ≠ verifiedRequest.verifiedProof.claims.proofId ∧
        other.proofNonce ≠ verifiedRequest.verifiedProof.claims.nonce ∧
        other.authorization.authorizationId ≠ verifiedRequest.request.authorizationId) →
      reserveAttempt action verifiedRequest.request.actionRef
        (nextAttempt verifiedRequest trustedNow)
        fresh current.executionReservations = .ok (reservationId, executionReservations) →
      StoreChange current clock (.issueExecutionPermit verifiedRequest fresh)
        { current with executionReservations }
  | withdrawn {call permit expected next trustedNow reservation attempt} :
      MarkCall call permit expected next →
      clock = some trustedNow →
      current.executionReservations.find? (fun r => decide (r.reservationId = permit.reservationId))
        = some reservation →
      reservation.attempts.getLast? = some attempt →
      permitMatchesAttempt permit reservation attempt = true →
      current.isCurrent reservation.actionRef = false →
      StoreChange current clock call (changeLastAttempt current permit.reservationId fun attempt =>
        attempt.withStatus attempt.withdrawnStatus)
  | expired {call permit expected next trustedNow reservation attempt} :
      MarkCall call permit expected next →
      clock = some trustedNow →
      current.executionReservations.find? (fun r => decide (r.reservationId = permit.reservationId))
        = some reservation →
      reservation.attempts.getLast? = some attempt →
      permitMatchesAttempt permit reservation attempt = true →
      current.isCurrent reservation.actionRef = true →
      leaseOver attempt trustedNow = true →
      StoreChange current clock call
        (changeLastAttempt current permit.reservationId (·.withStatus .expired))
  | advanced {call permit expected next trustedNow reservation attempt advanced} :
      MarkCall call permit expected next →
      clock = some trustedNow →
      current.executionReservations.find? (fun r => decide (r.reservationId = permit.reservationId))
        = some reservation →
      reservation.attempts.getLast? = some attempt →
      permitMatchesAttempt permit reservation attempt = true →
      current.isCurrent reservation.actionRef = true →
      leaseOver attempt trustedNow = false →
      attempt.status = expected →
      attempt.advance next trustedNow = .ok advanced →
      StoreChange current clock call
        (changeLastAttempt current permit.reservationId fun _ => advanced)
  | recovered {actionRef ownerRef trustedNow reservation attempt} :
      clock = some trustedNow →
      current.executionReservations.find? (fun r => decide (r.actionRef = actionRef))
        = some reservation →
      reservation.attempts.getLast? = some attempt →
      attempt.status = .permitIssued ∨ attempt.status = .delivered →
      leaseOver attempt trustedNow = true →
      StoreChange current clock (.recoverExecutionPermit actionRef ownerRef)
        (changeLastAttempt current reservation.reservationId (·.withStatus .expired))

variable {current sealed : HumanCenteredStoreSnapshotV1} {clock : Option Nat} {call : StoreCallV1}

/-- What is stored is sealed and was checked. -/
def SealedFrom (current candidate sealed : HumanCenteredStoreSnapshotV1) : Prop :=
  sealNextSnapshot candidate current = .ok sealed ∧ validateSnapshot sealed = .ok ()

theorem planSealed_eq_ok {candidate : HumanCenteredStoreSnapshotV1} {planned : PlannedV1}
    {result : Except HumanCenteredStoreErrorV1 StoreReplyV1} :
    planSealed candidate current result = .ok planned ↔
      ∃ sealed, SealedFrom current candidate sealed ∧ planned = ⟨some sealed, result⟩ := by
  simp only [planSealed, bind_eq_ok, exists_unit_eq_ok, Except.ok.injEq, SealedFrom, and_assoc,
    eq_comm (a := planned)]

theorem commitInternal_stores {contract : HumanCenteredContractSnapshotV1}
    {receiptProof : Option (SignedProofEnvelopeV1 × Nat)} {planned : PlannedV1}
    (hcall : CommitCall call contract receiptProof)
    (h : commitInternal clock contract receiptProof current = .ok planned)
    (hstored : planned.candidate = some sealed) :
    ∃ candidate, StoreChange current clock call candidate ∧
    SealedFrom current candidate sealed := by
  obtain ⟨reference, hprecheck, h⟩ := bind_eq_ok.mp h
  obtain ⟨⟨⟩, hproof, h⟩ := bind_eq_ok.mp h
  split at h
  · obtain rfl := Except.ok.inj h
    cases hstored
  case isFalse hnew =>
    obtain ⟨candidate, hchecked, h⟩ := bind_eq_ok.mp h
    obtain ⟨stored, hsealed, rfl⟩ := planSealed_eq_ok.mp h
    obtain rfl := Option.some.inj hstored
    exact ⟨candidate, .commit hcall (commitPrecheck_eq_ok.mp hprecheck).2 hproof
      (Bool.eq_false_iff.mpr hnew) hchecked, hsealed⟩

theorem issueExecutionPermit_stores {verifiedRequest : VerifiedExecutionPermitRequestV1}
    {fresh : Uuid} {planned : PlannedV1}
    (h : issueExecutionPermit clock verifiedRequest fresh current = .ok planned)
    (hstored : planned.candidate = some sealed) :
    ∃ candidate, StoreChange current clock (.issueExecutionPermit verifiedRequest fresh) candidate ∧
      SealedFrom current candidate sealed := by
  simp only [issueExecutionPermit, bind_eq_ok, okOr_eq_ok, require_eq_ok, exists_const,
    exists_unit_eq_ok, liftProtocol_eq_ok, rejectIf_eq_ok, List.any_eq_true, Bool.or_eq_true,
    decide_eq_true_eq, not_exists, not_and, not_or] at h
  obtain ⟨trustedNow, hclock, hcurrent, action, haction, hvalid, hproofs, hauthorizations,
    ⟨reservationId, executionReservations⟩, hreserve, h⟩ := h
  obtain ⟨stored, hsealed, rfl⟩ := planSealed_eq_ok.mp h
  obtain rfl := Option.some.inj hstored
  refine ⟨_, .issue hclock hcurrent haction hvalid ?_ hreserve, hsealed⟩
  intro other hother
  exact ⟨(hproofs other hother).1, (hproofs other hother).2, hauthorizations other hother⟩

theorem transitionExecutionPermit_stores {permit : ExecutionPermitV1}
    {expected next : ExecutionReservationStatusV1} {planned : PlannedV1}
    (hcall : MarkCall call permit expected next)
    (h : transitionExecutionPermit clock permit expected next current = .ok planned)
    (hstored : planned.candidate = some sealed) :
    ∃ candidate, StoreChange current clock call candidate ∧
    SealedFrom current candidate sealed := by
  obtain ⟨trustedNow, hclock, h⟩ := bind_eq_ok.mp h
  obtain ⟨reservation, hreservation, h⟩ := bind_eq_ok.mp h
  obtain ⟨attempt, hattempt, h⟩ := bind_eq_ok.mp h
  obtain ⟨⟨⟩, hmatches, h⟩ := bind_eq_ok.mp h
  rw [okOr_eq_ok] at hclock hreservation hattempt
  rw [require_eq_ok] at hmatches
  split at h
  case isTrue hgone =>
    obtain ⟨stored, hsealed, rfl⟩ := planSealed_eq_ok.mp h
    obtain rfl := Option.some.inj hstored
    exact ⟨_, .withdrawn hcall hclock hreservation hattempt hmatches hgone, hsealed⟩
  case isFalse hcurrent =>
    rw [Bool.not_eq_false] at hcurrent
    split at h
    case isTrue hover =>
      obtain ⟨stored, hsealed, rfl⟩ := planSealed_eq_ok.mp h
      obtain rfl := Option.some.inj hstored
      exact ⟨_, .expired hcall hclock hreservation hattempt hmatches hcurrent hover, hsealed⟩
    case isFalse hlease =>
      rw [Bool.not_eq_true] at hlease
      split at h
      · obtain rfl := Except.ok.inj h
        cases hstored
      · obtain ⟨⟨⟩, hstatus, h⟩ := bind_eq_ok.mp h
        obtain ⟨advanced, hadvance, h⟩ := bind_eq_ok.mp h
        rw [require_eq_ok] at hstatus
        obtain ⟨stored, hsealed, rfl⟩ := planSealed_eq_ok.mp h
        obtain rfl := Option.some.inj hstored
        exact ⟨_, .advanced hcall hclock hreservation hattempt hmatches hcurrent hlease hstatus
          hadvance, hsealed⟩

theorem recoverExecutionPermit_stores {actionRef : HumanCenteredContractRefV1}
    {ownerRef : ReferenceV1}
    {planned : PlannedV1}
    (h : recoverExecutionPermit clock actionRef ownerRef current = .ok planned)
    (hstored : planned.candidate = some sealed) :
    ∃ candidate, StoreChange current clock (.recoverExecutionPermit actionRef ownerRef) candidate ∧
      SealedFrom current candidate sealed := by
  obtain ⟨trustedNow, hclock, h⟩ := bind_eq_ok.mp h
  obtain ⟨reservation, hreservation, h⟩ := bind_eq_ok.mp h
  obtain ⟨attempt, hattempt, h⟩ := bind_eq_ok.mp h
  obtain ⟨⟨⟩, howner, h⟩ := bind_eq_ok.mp h
  obtain ⟨⟨⟩, hstatus, h⟩ := bind_eq_ok.mp h
  rw [okOr_eq_ok] at hclock hreservation hattempt
  rw [require_eq_ok] at hstatus
  split at h
  case isTrue hover =>
    obtain ⟨stored, hsealed, rfl⟩ := planSealed_eq_ok.mp h
    obtain rfl := Option.some.inj hstored
    exact ⟨_, .recovered hclock hreservation hattempt hstatus hover, hsealed⟩
  case isFalse =>
    obtain rfl := Except.ok.inj h
    cases hstored

/-- **Inversion of a call**: whatever is stored is one of the changes, sealed and checked. -/
theorem StoreCallV1.plan_stores {planned : PlannedV1} (h : call.plan clock current = .ok planned)
    (hstored : planned.candidate = some sealed) :
    ∃ candidate, StoreChange current clock call candidate ∧
    SealedFrom current candidate sealed := by
  cases call with
  | commit contract =>
    obtain ⟨⟨⟩, hreceipt, h⟩ := bind_eq_ok.mp h
    rw [rejectIf_eq_ok, Bool.not_eq_true] at hreceipt
    exact commitInternal_stores (.contract hreceipt) h hstored
  | commitExecutionReceipt receipt proofEnvelope verifiedAt =>
    exact commitInternal_stores .receipt h hstored
  | issueExecutionPermit verifiedRequest fresh => exact issueExecutionPermit_stores h hstored
  | markExecutionPermitDelivered permit =>
      exact transitionExecutionPermit_stores .delivered h hstored
  | markExecutionDispatched permit => exact transitionExecutionPermit_stores .dispatched h hstored
  | recoverExecutionPermit actionRef ownerRef => exact recoverExecutionPermit_stores h hstored
  | _ =>
    obtain rfl := Except.ok.inj h
    cases hstored

/-- **Inversion of a step**: the snapshot stays, or it is a change, sealed and checked. -/
theorem StoreInputV1.next_cases (i : StoreInputV1) (current : HumanCenteredStoreSnapshotV1) :
    i.next current = current ∨ ∃ candidate, i.persisted = true ∧
      StoreChange current i.clock i.call candidate ∧
      SealedFrom current candidate (i.next current) := by
  unfold next
  split
  case h_1 candidate result hplan =>
    split
    case isTrue hpersisted =>
      obtain ⟨unsealed, hchange, hsealed⟩ := StoreCallV1.plan_stores hplan rfl
      exact .inr ⟨unsealed, hpersisted, hchange, hsealed⟩
    case isFalse => exact .inl rfl
  case h_2 => exact .inl rfl

/-! ### Extensions -/

/-- An attempt later on: it is the same one, and what it has been through is kept. -/
structure AttemptExtends (a a' : ExecutionAttemptRecordV1) : Prop where
  identity : a.identity = a'.identity
  dispatched : a.dispatchedAt.isSome = true → a'.dispatchedAt = a.dispatchedAt
  receipt : a.receiptRef.isSome = true → a'.receiptRef = a.receiptRef

/-- A reservation later on: the same one, with more attempts. -/
structure ReservationExtends (r r' : ExecutionReservationRecordV1) : Prop where
  identity : { r with attempts := [] } = { r' with attempts := [] }
  attempts : Grows AttemptExtends r.attempts r'.attempts

/-- A snapshot later on: nothing is removed, and no identity is changed. -/
structure SnapshotExtends (s t : HumanCenteredStoreSnapshotV1) : Prop where
  records : s.records <+: t.records
  reservations : Grows ReservationExtends s.executionReservations t.executionReservations

omit [Crypto] [FloatText] in
theorem AttemptExtends.refl (a : ExecutionAttemptRecordV1) : AttemptExtends a a :=
  ⟨rfl, fun _ => rfl, fun _ => rfl⟩

omit [Crypto] [FloatText] in
theorem AttemptExtends.trans {a b c : ExecutionAttemptRecordV1} (h : AttemptExtends a b)
    (h' : AttemptExtends b c) : AttemptExtends a c := by
  refine ⟨h.identity.trans h'.identity, fun hsome => ?_, fun hsome => ?_⟩
  · have hb := h.dispatched hsome
    rw [h'.dispatched (by rw [hb]; exact hsome), hb]
  · have hb := h.receipt hsome
    rw [h'.receipt (by rw [hb]; exact hsome), hb]

omit [Crypto] [FloatText] in
theorem ReservationExtends.refl (r : ExecutionReservationRecordV1) : ReservationExtends r r :=
  ⟨rfl, .refl AttemptExtends.refl _⟩

omit [Crypto] [FloatText] in
theorem ReservationExtends.trans {a b c : ExecutionReservationRecordV1} (h : ReservationExtends a b)
    (h' : ReservationExtends b c) : ReservationExtends a c :=
  ⟨h.identity.trans h'.identity, h.attempts.trans (fun _ _ _ hab hbc => hab.trans hbc) h'.attempts⟩

omit [Crypto] [FloatText] in
theorem SnapshotExtends.refl (s : HumanCenteredStoreSnapshotV1) : SnapshotExtends s s :=
  ⟨List.prefix_refl _, .refl ReservationExtends.refl _⟩

omit [Crypto] [FloatText] in
theorem SnapshotExtends.trans {s t u : HumanCenteredStoreSnapshotV1} (h : SnapshotExtends s t)
    (h' : SnapshotExtends t u) :
    SnapshotExtends s u :=
  ⟨h.records.trans h'.records,
    h.reservations.trans (fun _ _ _ hab hbc => hab.trans hbc) h'.reservations⟩

omit [Crypto] [FloatText] in
/-- Reservations whose attempts change one by one. -/
theorem ReservationsChanged.extends {reservations reservations' : List ExecutionReservationRecordV1}
    (h : ReservationsChanged (fun _ => AttemptExtends) reservations reservations') :
    Grows ReservationExtends reservations reservations' := by
  apply Grows.of_forall₂
  refine List.Forall₂.imp (fun r r' hchange => ⟨?_, .of_forall₂ hchange.2⟩) h
  exact congrArg (fun x : ExecutionReservationRecordV1 => { x with attempts := [] }) hchange.1

omit [Crypto] [FloatText] in
theorem ReservationsChanged.mono
    {P Q : ExecutionReservationRecordV1 → ExecutionAttemptRecordV1 → ExecutionAttemptRecordV1 →
      Prop}
    {reservations reservations' : List ExecutionReservationRecordV1}
    (h : ReservationsChanged P reservations reservations') (hle : ∀ r a a', P r a a' → Q r a a') :
    ReservationsChanged Q reservations reservations' :=
  List.Forall₂.imp (fun r _ hchange => ⟨hchange.1, hchange.2.imp fun a a' => hle r a a'⟩) h

omit [Crypto] [FloatText] in
theorem WithdrawnOrSame.extends {a a' : ExecutionAttemptRecordV1} (h : WithdrawnOrSame a a') :
    AttemptExtends a a' := by
  rcases h with rfl | rfl
  · exact .refl _
  · exact ⟨rfl, fun _ => rfl, fun _ => rfl⟩

omit [Crypto] [FloatText] in
/-- Changing the last attempt of one reservation. -/
theorem changeLastAttempt_changed
    {P : ExecutionReservationRecordV1 → ExecutionAttemptRecordV1 → ExecutionAttemptRecordV1 → Prop}
    {reservationId : Uuid} {change : ExecutionAttemptRecordV1 → ExecutionAttemptRecordV1}
    {reservation : ExecutionReservationRecordV1} {attempt : ExecutionAttemptRecordV1}
    (hrefl : ∀ r a, P r a a)
    (hreservation : current.executionReservations.find?
      (fun r => decide (r.reservationId = reservationId)) = some reservation)
    (hattempt : reservation.attempts.getLast? = some attempt)
    (hidentity : (change attempt).identity = attempt.identity)
    (hP : P reservation attempt (change attempt)) :
    ReservationsChanged P current.executionReservations
      (changeLastAttempt current reservationId change).executionReservations := by
  apply forall₂_modifyFirst
  · intro r _
    exact ⟨rfl, List.forall₂_same.mpr fun a _ => hrefl r a⟩
  · intro r hr
    rw [hreservation] at hr
    obtain rfl := Option.some.inj hr
    have hlast : ∀ a, reservation.attempts.getLast? = some a → a = attempt := by
      intro a ha
      rw [hattempt] at ha
      exact (Option.some.inj ha).symm
    constructor
    · -- the identities are those of the attempts before
      have hidentities :
          List.Forall₂ (fun a a' : ExecutionAttemptRecordV1 => a.identity = a'.identity)
          reservation.attempts (modifyLast change reservation.attempts) := by
        refine forall₂_modifyLast (fun _ _ => rfl) fun a ha => ?_
        rw [hlast a ha, hidentity]
      unfold ExecutionReservationRecordV1.identity
      congr 1
      exact List.forall₂_eq_eq_eq ▸ List.forall₂_map_left_iff.mpr
        (List.forall₂_map_right_iff.mpr hidentities)
    · refine forall₂_modifyLast (fun a _ => hrefl _ a) fun a ha => ?_
      rw [hlast a ha]
      exact hP

/-! ### What is reached -/

theorem validateSnapshot_empty : validateSnapshot .empty = .ok () := by
  simp [validateSnapshot, checkSeal, HumanCenteredStoreSnapshotV1.empty, collectRefs, checkRecords,
    checkPointers, replayHistory, checkReservations]

theorem FileStoreStep.valid {s t : FileStoreStateV1} {i : StoreInputV1}
    (hs : validateSnapshot s.snapshot = .ok ()) (h : FileStoreStep s i t) :
    validateSnapshot t.snapshot = .ok () := by
  rw [h.2.1]
  rcases i.next_cases s.snapshot with hsame | ⟨candidate, -, -, hsealed⟩
  · rw [hsame]
    exact hs
  · exact hsealed.2

/-- **Every snapshot of a run is accepted.** -/
theorem valid_of_reachable {s : FileStoreStateV1} (h : Reachable FileStoreInit FileStoreStep s) :
    validateSnapshot s.snapshot = .ok () := by
  refine Reachable.invariant (P := fun s => validateSnapshot s.snapshot = .ok ()) ?_ ?_ h
  · rintro s ⟨hempty, -⟩
    rw [hempty]
    exact validateSnapshot_empty
  · exact fun s i t hs hstep => hstep.valid hs

/-! ### What every change keeps -/

omit [Crypto] [FloatText] in
/-- The reservations with the next attempt. -/
theorem reserveAttempt_eq_ok {action : ActionContractV1} {actionRef : HumanCenteredContractRefV1}
    {attempt : ExecutionAttemptRecordV1} {fresh reservationId : Uuid}
    {reservations reservations' : List ExecutionReservationRecordV1} :
    reserveAttempt action actionRef attempt fresh reservations =
      .ok (reservationId, reservations') ↔
      (∃ reservation previous, reservations.find? (conflictsWith action actionRef) =
        some reservation ∧
        reservedFor action actionRef reservation = true ∧
        reservation.attempts.getLast? = some previous ∧ previous.status.permitsRetry = true ∧
        previous.attempt + 1 < 2 ^ 32 ∧ attempt.attempt = previous.attempt + 1 ∧
        reservationId = reservation.reservationId ∧
        reservations' = modifyFirst (conflictsWith action actionRef)
          (fun r => { r with attempts := r.attempts ++ [attempt] }) reservations) ∨
      (reservations.find? (conflictsWith action actionRef) = none ∧ attempt.attempt = 1 ∧
        reservationId = fresh ∧ reservations' = reservations ++ [{
          reservationId := fresh
          actionRef
          tenantRef := action.metadata.authorityContext.tenantRef
          operationRef := action.operationRef
          idempotencyKey := action.idempotencyKey
          attempts := [attempt] }]) := by
  unfold reserveAttempt
  split
  case h_1 reservation hfind =>
    simp only [hfind, bind_eq_ok, require_eq_ok, exists_const, okOr_eq_ok, rejectIf_eq_ok,
      Except.ok.injEq, Prod.mk.injEq, Option.some.injEq, reduceCtorEq, false_and, or_false,
      Bool.not_eq_false, Option.ite_none_right_eq_some, not_not]
    constructor
    · rintro ⟨hreserved, previous, hprevious, hretry, next, ⟨hlt, rfl⟩, hnext, hid, hreservations⟩
      exact ⟨reservation, previous, rfl, hreserved, hprevious, hretry, hlt, hnext, hid.symm,
        hreservations.symm⟩
    · rintro ⟨_, previous, rfl, hreserved, hprevious, hretry, hlt, hnext, hid, hreservations⟩
      exact ⟨hreserved, previous, hprevious, hretry, _, ⟨hlt, rfl⟩, hnext, hid.symm,
        hreservations.symm⟩
  case h_2 hfind =>
    simp only [hfind, bind_eq_ok, exists_const, rejectIf_eq_ok, Except.ok.injEq, Prod.mk.injEq,
      reduceCtorEq, false_and, exists_false, false_or, true_and, not_not, eq_comm (a := fresh),
      eq_comm (b := reservations')]

/-- An attempt of an accepted snapshot that is under way has no receipt. -/
theorem receiptRef_eq_none {s : HumanCenteredStoreSnapshotV1} (hs : validateSnapshot s = .ok ())
    {r : ExecutionReservationRecordV1} (hr : r ∈ s.executionReservations)
    {a : ExecutionAttemptRecordV1} (ha : a ∈ r.attempts)
    (hstatus : a.status = .dispatched ∨ a.status = .reconciliationRequired) :
    a.receiptRef = none := by
  obtain ⟨refs, hs⟩ := validateSnapshot_eq_ok.mp hs
  have htiming := ((checkReservations_stands hs.reservations r hr).stand a ha).timing
  unfold timingIsValid at htiming
  rcases hstatus with hstatus | hstatus <;> rw [hstatus] at htiming <;>
    simp only [Bool.and_eq_true, Option.isNone_iff_eq_none] at htiming <;>
    exact htiming.2.1.1

/-- An attempt of an accepted snapshot that is not dispatched yet has not been dispatched. -/
theorem dispatchedAt_eq_none {s : HumanCenteredStoreSnapshotV1} (hs : validateSnapshot s = .ok ())
    {r : ExecutionReservationRecordV1} (hr : r ∈ s.executionReservations)
    {a : ExecutionAttemptRecordV1} (ha : a ∈ r.attempts)
    (hstatus : a.status = .permitIssued ∨ a.status = .delivered) : a.dispatchedAt = none := by
  obtain ⟨refs, hs⟩ := validateSnapshot_eq_ok.mp hs
  have htiming := ((checkReservations_stands hs.reservations r hr).stand a ha).timing
  unfold timingIsValid at htiming
  rcases hstatus with hstatus | hstatus <;> rw [hstatus] at htiming <;>
    simp only [Bool.and_eq_true, Bool.not_eq_true', Option.isSome_eq_false_iff,
      Option.isNone_iff_eq_none] at htiming <;>
    exact htiming.1.2

/-- A commit extends the snapshot. -/
theorem commit_extends {candidate : HumanCenteredStoreSnapshotV1}
    {contract : HumanCenteredContractSnapshotV1} {reference : HumanCenteredContractRefV1}
    {receiptProof : Option (SignedProofEnvelopeV1 × Nat)} (hs : validateSnapshot current = .ok ())
    (h : commitChecked current contract reference receiptProof = .ok candidate) :
    SnapshotExtends current candidate := by
  obtain ⟨-, withdrawn, settled, hwithdrawn, hsettled, rfl⟩ := commitChecked_eq_ok.mp h
  have hfrom := withdrawnFrom_of_withdrawPrevious hwithdrawn
  obtain ⟨hsame, hcases⟩ := settleReceipt_eq_ok hsettled
  have hwithdrawnExtends :
      Grows ReservationExtends current.executionReservations withdrawn.executionReservations :=
    (hfrom.reservations.mono fun _ _ _ => WithdrawnOrSame.extends).extends
  constructor
  · show current.records <+: settled.records
    rw [hsame, ← hfrom.records]
    exact List.prefix_append _ _
  · show Grows _ _ settled.executionReservations
    rcases hcases with ⟨-, rfl⟩ | ⟨receipt, proofEnvelope, verifiedAt, -, -, happly⟩
    · exact hwithdrawnExtends
    · obtain ⟨reservation, attempt, hreservation, hattempt, hstatus, -, rfl⟩ :=
        applyExecutionReceiptTransition_eq_ok.mp happly
      refine hwithdrawnExtends.trans (fun _ _ _ hab hbc => hab.trans hbc) ?_
      refine (settle_changed (fun _ a => .refl a) hreservation hattempt ⟨rfl, fun _ => rfl,
        ?_⟩).extends
      intro hsome
      -- the attempt is under way, so that it has no receipt yet
      obtain ⟨refs, hs⟩ := validateSnapshot_eq_ok.mp hs
      have hstands := hfrom.stands current.records (checkReservations_stands hs.reservations)
        reservation (List.mem_of_find?_eq_some hreservation)
      have htiming := (hstands.stand attempt (List.mem_of_find?_eq_some hattempt)).timing
      unfold timingIsValid at htiming
      rcases hstatus with hstatus | hstatus <;> rw [hstatus] at htiming <;> simp_all

/-- **Every change extends the snapshot.** -/
theorem StoreChange.extends {candidate : HumanCenteredStoreSnapshotV1}
    (hs : validateSnapshot current = .ok ()) (h : StoreChange current clock call candidate) :
    SnapshotExtends current candidate := by
  cases h with
  | commit _ _ _ _ hchecked => exact commit_extends hs hchecked
  | issue _ _ _ _ _ hreserve =>
    refine ⟨List.prefix_refl _, ?_⟩
    rcases reserveAttempt_eq_ok.mp hreserve with
      ⟨reservation, previous, hfind, -, -, -, -, -, -, rfl⟩ | ⟨-, -, -, rfl⟩
    · apply Grows.of_forall₂
      apply forall₂_modifyFirst
      · exact fun r _ => .refl r
      · exact fun r _ => ⟨rfl, (Grows.refl AttemptExtends.refl _).append _⟩
    · exact (Grows.refl ReservationExtends.refl _).append _
  | withdrawn _ _ hreservation hattempt =>
    exact ⟨List.prefix_refl _,
      (changeLastAttempt_changed (fun _ a => .refl a) hreservation hattempt rfl
      ⟨rfl, fun _ => rfl, fun _ => rfl⟩).extends⟩
  | expired _ _ hreservation hattempt =>
    exact ⟨List.prefix_refl _,
      (changeLastAttempt_changed (fun _ a => .refl a) hreservation hattempt rfl
      ⟨rfl, fun _ => rfl, fun _ => rfl⟩).extends⟩
  | @advanced _ permit expected next trustedNow reservation attempt advanced hcall _ hreservation
      hattempt _ _ _ hstatus hadvance =>
    have hidentity := ExecutionAttemptRecordV1.identity_advance hadvance
    have hmem := List.mem_of_find?_eq_some hreservation
    have hundispatched : attempt.dispatchedAt = none := by
      apply dispatchedAt_eq_none hs hmem (List.mem_of_getLast? hattempt)
      cases hcall with
      | delivered => exact .inl hstatus
      | dispatched => exact .inr hstatus
    refine ⟨List.prefix_refl _,
      (changeLastAttempt_changed (fun _ a => .refl a) hreservation hattempt
      hidentity ⟨hidentity.symm, ?_, ?_⟩).extends⟩
    · intro hsome
      rw [hundispatched] at hsome
      cases hsome
    · intro _
      cases hcall <;> rw [← Except.ok.inj hadvance]
  | recovered =>
    refine ⟨List.prefix_refl _, ?_⟩
    apply ReservationsChanged.extends
    apply forall₂_modifyFirst
    · exact fun r _ => ⟨rfl, List.forall₂_same.mpr fun a _ => .refl a⟩
    · intro r _
      refine ⟨?_, forall₂_modifyLast (fun a _ => .refl a) fun a _ =>
        ⟨rfl, fun _ => rfl, fun _ => rfl⟩⟩
      symm
      apply ExecutionReservationRecordV1.identity_modifyLast
      exact fun a _ => ExecutionAttemptRecordV1.identity_withStatus a .expired

theorem StoreInputV1.next_extends (i : StoreInputV1) (hs : validateSnapshot current = .ok ()) :
    SnapshotExtends current (i.next current) := by
  rcases i.next_cases current with hsame | ⟨candidate, -, hchange, hseal, -⟩
  · rw [hsame]
    exact .refl current
  · obtain ⟨-, heq⟩ := sealNextSnapshot_eq_ok.mp hseal
    have hextends := hchange.extends hs
    rw [heq]
    exact ⟨hextends.records, hextends.reservations⟩

/-- **Along a run nothing is removed, and no identity is changed.** -/
theorem run_extends {s t : FileStoreStateV1} {is : List StoreInputV1}
    (hs : validateSnapshot s.snapshot = .ok ()) (h : Run FileStoreStep s is t) :
    SnapshotExtends s.snapshot t.snapshot := by
  induction h with
  | nil s => exact .refl _
  | @cons s i t is u hstep _ ih =>
    have hnext := i.next_extends hs
    rw [← hstep.2.1] at hnext
    exact hnext.trans (ih (hstep.valid hs))

end History

end Idr
