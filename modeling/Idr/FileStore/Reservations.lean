/-
Idr/FileStore/Reservations.lean

The two halves of the checks of the reservations.

What identifies a reservation and its attempts never changes (`identity`).
The checks of a reservation are those of its identity, which look at the
identities of what is before it, and those of what its attempts have been
through (`StandOk`), which look at one attempt.  So reservations with the
same identities pass when their attempts do (`checkReservations_congr`).
-/
import Idr.FileStore.Accepted

namespace Idr

/-! ### Identities -/

/-- An attempt without what it has been through. -/
def ExecutionAttemptRecordV1.identity
    (self : ExecutionAttemptRecordV1) : ExecutionAttemptRecordV1 :=
  { self with
    status := .permitIssued
    deliveredAt := none
    dispatchedAt := none
    receiptRef := none
    receiptProofEnvelope := none
    receiptVerifiedAt := none }

/-- A reservation without what its attempts have been through. -/
def ExecutionReservationRecordV1.identity (self : ExecutionReservationRecordV1) :
    ExecutionReservationRecordV1 :=
  { self with attempts := self.attempts.map (·.identity) }

@[simp] theorem ExecutionAttemptRecordV1.identity_withStatus (self : ExecutionAttemptRecordV1)
    (status : ExecutionReservationStatusV1) :
    (self.withStatus status).identity = self.identity := rfl

@[simp] theorem ExecutionAttemptRecordV1.identity_settle (self : ExecutionAttemptRecordV1)
    (receipt : ExecutionReceiptV1) (receiptRef : HumanCenteredContractRefV1)
    (proofEnvelope : SignedProofEnvelopeV1) (verifiedAt : Nat) :
    (self.settle receipt receiptRef proofEnvelope verifiedAt).identity = self.identity := rfl

theorem ExecutionAttemptRecordV1.identity_advance {self advanced : ExecutionAttemptRecordV1}
    {next : ExecutionReservationStatusV1} {trustedNow : Nat}
    (h : self.advance next trustedNow = .ok advanced) : advanced.identity = self.identity := by
  unfold advance at h
  split at h
  case h_1 =>
    rw [← Except.ok.inj h]
    rfl
  case h_2 =>
    rw [← Except.ok.inj h]
    rfl
  case h_3 => cases h

/-- Changing what the last attempt has been through keeps the identity of the reservation. -/
theorem ExecutionReservationRecordV1.identity_modifyLast {self : ExecutionReservationRecordV1}
    {change : ExecutionAttemptRecordV1 → ExecutionAttemptRecordV1}
    (h : ∀ attempt ∈ self.attempts, (change attempt).identity = attempt.identity) :
    { self with attempts := modifyLast change self.attempts }.identity = self.identity := by
  have hattempts : (modifyLast change self.attempts).map (·.identity) =
      self.attempts.map (·.identity) :=
    map_modifyLast h
  unfold identity
  rw [hattempts]

@[simp] theorem ExecutionReservationRecordV1.identity_withdraw
    (self : ExecutionReservationRecordV1) :
    self.withdraw.identity = self.identity :=
  identity_modifyLast fun _ _ => rfl

/-- The checks of an attempt against its identity see nothing else. -/
theorem attemptMismatch_identity (action : ActionContractV1)
    (reservation : ExecutionReservationRecordV1) (earlier : List ExecutionAttemptRecordV1) (n : Nat)
    (attempt : ExecutionAttemptRecordV1) :
    attemptMismatch action reservation earlier n attempt
      = attemptMismatch action reservation.identity (earlier.map (·.identity))
        n attempt.identity := by
  unfold attemptMismatch
  simp only [List.any_map]
  rfl

/-- What a reservation repeats of its action, and what it shares with none before it. -/
def reservationMismatch (action : ActionContractV1) (before : List ExecutionReservationRecordV1)
    (reservation : ExecutionReservationRecordV1) : Prop :=
  reservation.reservationId.isNil = true
    ∨ before.any (fun other => other.reservationId = reservation.reservationId) = true
    ∨ reservation.tenantRef ≠ action.metadata.authorityContext.tenantRef
    ∨ reservation.operationRef ≠ action.operationRef
    ∨ reservation.idempotencyKey ≠ action.idempotencyKey
    ∨ reservation.attempts = []
    ∨ before.any (fun other => other.actionRef = reservation.actionRef) = true
    ∨ before.any (fun other => other.tenantRef = reservation.tenantRef
        && other.operationRef = reservation.operationRef
        && other.idempotencyKey = reservation.idempotencyKey) = true

theorem reservationMismatch_identity (action : ActionContractV1)
    (before : List ExecutionReservationRecordV1) (reservation : ExecutionReservationRecordV1) :
    reservationMismatch action before reservation
      ↔ reservationMismatch action (before.map (·.identity)) reservation.identity := by
  unfold reservationMismatch
  simp only [List.any_map, ExecutionReservationRecordV1.identity, List.map_eq_nil_iff]
  rfl

section Reservations

variable [Crypto] [FloatText]
variable {records records' : List HumanCenteredContractSnapshotV1}
variable {action : ActionContractV1} {reservation : ExecutionReservationRecordV1}
variable {attempt : ExecutionAttemptRecordV1} {earlier attempts : List ExecutionAttemptRecordV1}

/-! ### One attempt -/

/-- The checks of an attempt that see its identity only. -/
def IdentityOk (action : ActionContractV1) (reservation : ExecutionReservationRecordV1)
    (earlier : List ExecutionAttemptRecordV1) (n : Nat) (attempt : ExecutionAttemptRecordV1) :
    Prop :=
  n < 2 ^ 32 ∧ attempt.request.validateFor action attempt.authorization = .ok () ∧
    attempt.permitProofEnvelope.validateShape = .ok () ∧
    attemptMismatch action reservation earlier n attempt = false

/-- The checks of an attempt that see what it has been through. -/
structure StandOk (records : List HumanCenteredContractSnapshotV1)
    (reservation : ExecutionReservationRecordV1) (attempt : ExecutionAttemptRecordV1) : Prop where
  timing : timingIsValid attempt = true
  order : timesInOrder attempt = true
  receipt : checkReceipt records reservation attempt = .ok ()

theorem checkAttempt_eq_ok {n : Nat} {last : Bool} :
    checkAttempt records action reservation earlier n last attempt = .ok () ↔
      IdentityOk action reservation earlier n attempt ∧ StandOk records reservation attempt ∧
        (last = false → attempt.status.permitsRetry = true) := by
  simp only [checkAttempt, bind_eq_ok, exists_unit_eq_ok, rejectIf_eq_ok, exists_const,
    liftProtocol_eq_ok, IdentityOk, Nat.not_le, Bool.not_eq_true, not_or, Bool.not_eq_false,
    not_and]
  constructor
  · rintro ⟨hn, hrequest, hshape, hmismatch, ⟨htiming, horder⟩, hreceipt, hlast⟩
    exact ⟨⟨hn, hrequest, hshape, hmismatch⟩, ⟨htiming, horder, hreceipt⟩, hlast⟩
  · rintro ⟨⟨hn, hrequest, hshape, hmismatch⟩, hstand, hlast⟩
    exact ⟨hn, hrequest, hshape, hmismatch, ⟨hstand.timing, hstand.order⟩, hstand.receipt, hlast⟩

theorem identityOk_identity {n : Nat} :
    IdentityOk action reservation earlier n attempt ↔
      IdentityOk action reservation.identity (earlier.map (·.identity)) n attempt.identity := by
  unfold IdentityOk
  rw [attemptMismatch_identity]
  rfl

/-! ### The attempts of a reservation -/

/-- The identities of the attempts, one after another. -/
def IdentitiesOk (action : ActionContractV1) (reservation : ExecutionReservationRecordV1)
    (earlier : List ExecutionAttemptRecordV1) (index : Nat) : List ExecutionAttemptRecordV1 → Prop
  | [] => True
  | attempt :: attempts =>
    IdentityOk action reservation earlier (index + 1) attempt ∧
      IdentitiesOk action reservation (earlier ++ [attempt]) (index + 1) attempts

theorem identitiesOk_identity {index : Nat} :
    IdentitiesOk action reservation earlier index attempts ↔
      IdentitiesOk action reservation.identity (earlier.map (·.identity)) index
        (attempts.map (·.identity)) := by
  induction attempts generalizing earlier index with
  | nil => exact Iff.rfl
  | cons attempt attempts ih =>
    rw [List.map_cons, IdentitiesOk, IdentitiesOk, identityOk_identity, ih, List.map_append,
      List.map_singleton]

/-- What the attempts of a reservation have been through: those before the last one may be
retried. -/
structure StandsOk (records : List HumanCenteredContractSnapshotV1)
    (reservation : ExecutionReservationRecordV1) (attempts : List ExecutionAttemptRecordV1) :
    Prop where
  stand : ∀ attempt ∈ attempts, StandOk records reservation attempt
  retry : ∀ attempt ∈ attempts.dropLast, attempt.status.permitsRetry = true

theorem checkAttempts_eq_ok {index : Nat} :
    checkAttempts records action reservation earlier index attempts = .ok () ↔
      IdentitiesOk action reservation earlier index attempts ∧
        StandsOk records reservation attempts := by
  induction attempts generalizing earlier index with
  | nil =>
    constructor
    · intro _
      refine ⟨trivial, ?_, ?_⟩ <;> (intro attempt h; cases h)
    · intro _
      rfl
  | cons attempt attempts ih =>
    simp only [checkAttempts, bind_eq_ok, exists_unit_eq_ok, checkAttempt_eq_ok, ih, IdentitiesOk]
    constructor
    · rintro ⟨⟨hid, hstand, hlast⟩, hids, hstands⟩
      refine ⟨⟨hid, hids⟩, List.forall_mem_cons.mpr ⟨hstand, hstands.stand⟩, ?_⟩
      rcases attempts with _ | ⟨next, attempts⟩
      · intro a ha
        cases ha
      · exact List.forall_mem_cons.mpr ⟨hlast rfl, hstands.retry⟩
    · rintro ⟨⟨hid, hids⟩, hstands⟩
      obtain ⟨hstand, hrest⟩ := List.forall_mem_cons.mp hstands.stand
      rcases attempts with _ | ⟨next, attempts⟩
      · refine ⟨⟨hid, hstand, ?_⟩, hids, hrest, ?_⟩
        · intro hlast
          cases hlast
        · intro a ha
          cases ha
      · obtain ⟨hretry, hretries⟩ := List.forall_mem_cons.mp hstands.retry
        exact ⟨⟨hid, hstand, fun _ => hretry⟩, hids, hrest, hretries⟩

/-! ### The reservations -/

/-- The identity of a reservation, after those before it. -/
structure ReservationIdentityOk (records : List HumanCenteredContractSnapshotV1)
    (before : List ExecutionReservationRecordV1) (reservation : ExecutionReservationRecordV1)
    (action : ActionContractV1) : Prop where
  actionRef : reservation.actionRef.validate = .ok ()
  recorded : findRecord records reservation.actionRef = some (.action action)
  repeats : ¬ reservationMismatch action before reservation
  attempts : IdentitiesOk action reservation (before.flatMap (·.attempts)) 0 reservation.attempts

/-- **The loop over the reservations**, at one of them. -/
theorem checkReservations_cons_eq_ok {before reservations : List ExecutionReservationRecordV1} :
    checkReservations records before (reservation :: reservations) = .ok () ↔
      (∃ action, ReservationIdentityOk records before reservation action) ∧
        StandsOk records reservation reservation.attempts ∧
        checkReservations records (before ++ [reservation]) reservations = .ok () := by
  have hone : checkReservation records before reservation = .ok () ↔
      ∃ action, findRecord records reservation.actionRef = some (.action action) ∧
        ¬ reservationMismatch action before reservation ∧
        IdentitiesOk action reservation (before.flatMap (·.attempts)) 0 reservation.attempts ∧
        StandsOk records reservation reservation.attempts := by
    unfold checkReservation
    split
    case h_1 action hrecorded =>
      simp only [hrecorded, bind_eq_ok, rejectIf_eq_ok, exists_const, checkAttempts_eq_ok]
      constructor
      · rintro ⟨hrepeats, hids, hstands⟩
        exact ⟨action, rfl, hrepeats, hids, hstands⟩
      · rintro ⟨action', heq, hrepeats, hids, hstands⟩
        obtain rfl := HumanCenteredContractSnapshotV1.action.inj (Option.some.inj heq)
        exact ⟨hrepeats, hids, hstands⟩
    case h_2 hother =>
      constructor
      · intro herror
        cases herror
      · rintro ⟨action, hrecorded, -⟩
        exact absurd hrecorded (hother action)
  simp only [checkReservations, bind_eq_ok, exists_unit_eq_ok, exists_const, liftProtocol_eq_ok,
    hone]
  constructor
  · rintro ⟨href, ⟨action, hrecorded, hrepeats, hids, hstands⟩, hrest⟩
    exact ⟨⟨action, href, hrecorded, hrepeats, hids⟩, hstands, hrest⟩
  · rintro ⟨⟨action, hid⟩, hstands, hrest⟩
    exact ⟨hid.actionRef, ⟨action, hid.recorded, hid.repeats, hid.attempts, hstands⟩, hrest⟩

theorem checkReservations_stands {before reservations : List ExecutionReservationRecordV1}
    (h : checkReservations records before reservations = .ok ()) :
    ∀ reservation ∈ reservations, StandsOk records reservation reservation.attempts := by
  induction reservations generalizing before with
  | nil =>
    intro reservation hr
    cases hr
  | cons first reservations ih =>
    obtain ⟨-, hstands, hrest⟩ := checkReservations_cons_eq_ok.mp h
    exact List.forall_mem_cons.mpr ⟨hstands, ih hrest⟩

/-- The action of every reservation is on record. -/
theorem checkReservations_recorded {before reservations : List ExecutionReservationRecordV1}
    (h : checkReservations records before reservations = .ok ()) :
    ∀ reservation ∈ reservations, ∃ action,
      findRecord records reservation.actionRef = some (.action action) := by
  induction reservations generalizing before with
  | nil =>
    intro reservation hr
    cases hr
  | cons first reservations ih =>
    obtain ⟨⟨action, hid⟩, -, hrest⟩ := checkReservations_cons_eq_ok.mp h
    exact List.forall_mem_cons.mpr ⟨⟨action, hid.recorded⟩, ih hrest⟩

omit [Crypto] [FloatText] in
theorem flatMap_attempts_identity (reservations : List ExecutionReservationRecordV1) :
    (reservations.flatMap (·.attempts)).map (·.identity)
      = (reservations.map (·.identity)).flatMap (·.attempts) := by
  rw [List.map_flatMap, List.flatMap_map]
  rfl

/-- **Reservations of the same identities** pass when their attempts do.  The records may be
more. -/
theorem checkReservations_congr {before before' reservations reservations' :
      List ExecutionReservationRecordV1}
    (hfound : ∀ r record, findRecord records r = some record → findRecord records' r = some record)
    (hbefore : before.map (·.identity) = before'.map (·.identity))
    (hsame : reservations.map (·.identity) = reservations'.map (·.identity))
    (hstands : ∀ reservation ∈ reservations', StandsOk records' reservation reservation.attempts)
    (h : checkReservations records before reservations = .ok ()) :
    checkReservations records' before' reservations' = .ok () := by
  induction reservations generalizing before before' reservations' with
  | nil =>
    obtain rfl := List.map_eq_nil_iff.mp hsame.symm
    rfl
  | cons reservation reservations ih =>
    rcases reservations' with _ | ⟨reservation', reservations'⟩
    · cases hsame
    · obtain ⟨hhead, htail⟩ := List.cons.inj hsame
      have hidentity : reservation.identity = reservation'.identity := hhead
      obtain ⟨⟨action, hid⟩, -, hrest⟩ := checkReservations_cons_eq_ok.mp h
      obtain ⟨hstand, hstands⟩ := List.forall_mem_cons.mp hstands
      have href : reservation'.actionRef = reservation.actionRef :=
        (congrArg (·.actionRef) hidentity).symm
      have hattempts :
          reservation.attempts.map (·.identity) = reservation'.attempts.map (·.identity) :=
        congrArg (·.attempts) hidentity
      refine checkReservations_cons_eq_ok.mpr ⟨⟨action, ?_, ?_, ?_, ?_⟩, hstand, ?_⟩
      · rw [href]
        exact hid.actionRef
      · rw [href]
        exact hfound _ _ hid.recorded
      · rw [reservationMismatch_identity, ← hbefore, ← hidentity,
          ← reservationMismatch_identity]
        exact hid.repeats
      · rw [identitiesOk_identity, flatMap_attempts_identity, ← hbefore, ← hidentity, ← hattempts,
          ← flatMap_attempts_identity, ← identitiesOk_identity]
        exact hid.attempts
      · refine ih ?_ htail hstands hrest
        rw [List.map_append, List.map_append, hbefore, List.map_singleton, List.map_singleton,
          hidentity]

end Reservations

end Idr
