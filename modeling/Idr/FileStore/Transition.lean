/-
Idr/FileStore/Transition.lean

The calls that move a permit on, and what the store then says of its snapshot.

A call that changes the last attempt of a reservation keeps all identities,
so that its snapshot is accepted exactly when the changed attempt fits its
status and every receipt on record still agrees with it; where it is not
accepted, the store reports itself corrupt (`validate_changeLastAttempt`).
From that follows when a call reports corruption, and that a settled attempt
is never changed (`permitCallKeeps_iff`).
-/
import Idr.FileStore.Dispatch

namespace Idr

open HumanCenteredContractRefV1

section Transition

variable [Crypto] [FloatText]
variable {s sealed : HumanCenteredStoreSnapshotV1} {clock : Option Nat} {call : StoreCallV1}
variable {records : List HumanCenteredContractSnapshotV1}
variable {reservations reservations' : List ExecutionReservationRecordV1}

/-! ### Failures

Other reservations than those of an accepted snapshot are refused as corrupt. -/

theorem checkRecords_failsOnly {prior : List HumanCenteredContractSnapshotV1}
    {before latest out : List HumanCenteredContractRefV1}
    (h : checkRecords reservations prior before latest records = .ok out) :
    FailsOnly .corruptSnapshot (checkRecords reservations' prior before latest records) := by
  induction records generalizing prior before latest with
  | nil => exact failsOnly_of_ok h
  | cons record records ih =>
    obtain ⟨reference, href, -, -, -, hrest⟩ := checkRecords_cons_eq_ok.mp h
    apply FailsOnly.bind (failsOnly_of_ok (liftProtocol_eq_ok.mpr href))
    intro reference' href'
    obtain rfl := Except.ok.inj ((liftProtocol_eq_ok.mp href').symm.trans href)
    apply FailsOnly.bind failsOnly_rejectIf
    intro _ _
    apply FailsOnly.bind failsOnly_rejectIf
    intro _ _
    apply FailsOnly.bind failsOnly_rejectIf
    intro _ _
    exact ih hrest

/-- The checks of attempts of the identities given, whose receipts are in order. -/
theorem checkAttempts_failsOnly {action : ActionContractV1}
    {reservation : ExecutionReservationRecordV1}
    {earlier attempts : List ExecutionAttemptRecordV1} {index : Nat}
    (hid : IdentitiesOk action reservation earlier index attempts)
    (hreceipts : ∀ a ∈ attempts, checkReceipt records reservation a = .ok ()) :
    FailsOnly .corruptSnapshot
      (checkAttempts records action reservation earlier index attempts) := by
  induction attempts generalizing earlier index with
  | nil => exact failsOnly_of_ok (a := ()) rfl
  | cons attempt attempts ih =>
    obtain ⟨⟨hn, hrequest, hshape, -⟩, hrest⟩ := hid
    obtain ⟨hreceipt, hreceipts⟩ := List.forall_mem_cons.mp hreceipts
    apply FailsOnly.bind
    · apply FailsOnly.bind failsOnly_rejectIf
      intro _ _
      apply FailsOnly.bind (failsOnly_of_ok (liftProtocol_eq_ok.mpr hrequest))
      intro _ _
      apply FailsOnly.bind (failsOnly_of_ok (liftProtocol_eq_ok.mpr hshape))
      intro _ _
      apply FailsOnly.bind failsOnly_rejectIf
      intro _ _
      apply FailsOnly.bind failsOnly_rejectIf
      intro _ _
      apply FailsOnly.bind (failsOnly_of_ok hreceipt)
      intro _ _
      exact failsOnly_rejectIf
    · intro _ _
      exact ih hrest hreceipts

theorem checkReservations_failsOnly {before before' : List ExecutionReservationRecordV1}
    (hbefore : before.map (·.identity) = before'.map (·.identity))
    (hsame : reservations.map (·.identity) = reservations'.map (·.identity))
    (hreceipts : ∀ r ∈ reservations', ∀ a ∈ r.attempts, checkReceipt records r a = .ok ())
    (h : checkReservations records before reservations = .ok ()) :
    FailsOnly .corruptSnapshot (checkReservations records before' reservations') := by
  induction reservations generalizing before before' reservations' with
  | nil =>
    obtain rfl := List.map_eq_nil_iff.mp hsame.symm
    exact failsOnly_of_ok (a := ()) rfl
  | cons reservation reservations ih =>
    rcases reservations' with _ | ⟨reservation', reservations'⟩
    · cases hsame
    · obtain ⟨hhead, htail⟩ := List.cons.inj hsame
      have hidentity : reservation.identity = reservation'.identity := hhead
      obtain ⟨⟨action, hid⟩, -, hrest⟩ := checkReservations_cons_eq_ok.mp h
      obtain ⟨hreceipt, hreceipts⟩ := List.forall_mem_cons.mp hreceipts
      have href : reservation'.actionRef = reservation.actionRef :=
        (congrArg (·.actionRef) hidentity).symm
      have hattempts :
          reservation.attempts.map (·.identity) = reservation'.attempts.map (·.identity) :=
        congrArg (·.attempts) hidentity
      have hids : IdentitiesOk action reservation' (before'.flatMap (·.attempts)) 0
          reservation'.attempts := by
        rw [identitiesOk_identity, flatMap_attempts_identity, ← hbefore, ← hidentity, ← hattempts,
          ← flatMap_attempts_identity, ← identitiesOk_identity]
        exact hid.attempts
      apply FailsOnly.bind
      · apply failsOnly_of_ok (a := ())
        rw [liftProtocol_eq_ok, href]
        exact hid.actionRef
      · intro _ _
        apply FailsOnly.bind
        · unfold checkReservation
          rw [href, hid.recorded]
          apply FailsOnly.bind failsOnly_rejectIf
          intro _ _
          exact checkAttempts_failsOnly hids hreceipt
        · intro _ _
          refine ih ?_ htail hreceipts hrest
          rw [List.map_append, List.map_append, hbefore, List.map_singleton, List.map_singleton,
            hidentity]

/-- **Other reservations in an accepted snapshot**: of the same identities, with receipts in order,
they are accepted or the snapshot is corrupt. -/
theorem Accepted.validate_failsOnly {refs : List HumanCenteredContractRefV1} (hs : Accepted s refs)
    {candidate : HumanCenteredStoreSnapshotV1} (hseal : checkSeal candidate = .ok ())
    (hrecords : candidate.records = s.records)
    (hpointers : candidate.currentPointers = s.currentPointers)
    (hinvalidated : candidate.invalidatedRefs = s.invalidatedRefs)
    (hsame : s.executionReservations.map (·.identity) =
      candidate.executionReservations.map (·.identity))
    (hreceipts : ∀ r ∈ candidate.executionReservations, ∀ a ∈ r.attempts,
      checkReceipt candidate.records r a = .ok ()) :
    FailsOnly .corruptSnapshot (validateSnapshot candidate) := by
  have hcollect : collectRefs [] candidate.records = .ok refs := by
    rw [hrecords]
    exact collectRefs_eq_ok.mpr ⟨refs, hs.refsOf, rfl, hs.distinct, fun s hs => (by cases hs)⟩
  apply FailsOnly.bind (failsOnly_of_ok hseal)
  intro _ _
  apply FailsOnly.bind (failsOnly_of_ok hcollect)
  intro refs' hrefs'
  obtain rfl := Except.ok.inj (hcollect.symm.trans hrefs')
  apply FailsOnly.bind
  · rw [hrecords]
    exact checkRecords_failsOnly hs.records
  intro latest hlatest
  rw [hrecords] at hlatest
  obtain rfl := checkRecords_latest hs.refsOf hlatest
  apply FailsOnly.bind
  · apply failsOnly_of_ok (a := ())
    rw [hpointers]
    exact (checkPointers_iff_perm (latestOk_latestOf refs)).mpr ⟨hs.pointers, hs.latest⟩
  intro _ _
  apply FailsOnly.bind
  · apply failsOnly_of_ok (a := ())
    rw [hinvalidated, forM_eq_ok]
    intro r hr
    obtain ⟨hvalid, hmem⟩ := hs.invalidated r hr
    exact bind_eq_ok.mpr ⟨(), liftProtocol_eq_ok.mpr hvalid, rejectIf_eq_ok.mpr (not_not.mpr hmem)⟩
  intro _ _
  obtain ⟨replayed, hreplayed, -⟩ := hs.replayed
  apply FailsOnly.bind
  · rw [hrecords]
    exact failsOnly_of_ok hreplayed
  intro _ _
  apply FailsOnly.bind failsOnly_rejectIf
  intro _ _
  rw [hrecords]
  rw [hrecords] at hreceipts
  exact checkReservations_failsOnly rfl hsame hreceipts hs.reservations

/-! ### One changed attempt -/

/-- What every change of a permit call keeps of an attempt. -/
structure KeepsAttempt (a a' : ExecutionAttemptRecordV1) : Prop where
  identity : a'.identity = a.identity
  receiptRef : a'.receiptRef = a.receiptRef
  envelope : a'.receiptProofEnvelope = a.receiptProofEnvelope
  verifiedAt : a'.receiptVerifiedAt = a.receiptVerifiedAt
  dispatched : ∀ dispatchedAt, a.dispatchedAt = some dispatchedAt →
    a'.dispatchedAt = some dispatchedAt

/-- **The changed attempt fits**: its times fit its status, and every receipt on record of it still
agrees with it. -/
structure Fits (records : List HumanCenteredContractSnapshotV1) (r : ExecutionReservationRecordV1)
    (a : ExecutionAttemptRecordV1) : Prop where
  timing : timingIsValid a = true
  order : timesInOrder a = true
  receipts : ∀ receipt, .executionReceipt receipt ∈ records → receipt.actionRef = r.actionRef →
    receipt.permitId = a.permitId → a.status = .dispatched ∨ a.status = .reconciliationRequired ∨
      (a.status.isTerminal = true ∧ a.receiptRef = receipt.recordRef.toOption)

variable {r : ExecutionReservationRecordV1} {a : ExecutionAttemptRecordV1}

/-- The check of the receipt of an attempt sees its identity and its receipt. -/
theorem KeepsAttempt.checkReceipt {a' : ExecutionAttemptRecordV1} (h : KeepsAttempt a a')
    {r' : ExecutionReservationRecordV1} (hr : r'.actionRef = r.actionRef)
    (hkey : r'.idempotencyKey = r.idempotencyKey) :
    checkReceipt records r' a' = Idr.checkReceipt records r a := by
  have hmatched :
      ∀ receipt, receiptMatchesAttempt receipt r' a' = receiptMatchesAttempt receipt r a := by
    intro receipt
    show receiptMatchesAttempt receipt r'.identity a'.identity
      = receiptMatchesAttempt receipt r.identity a.identity
    rw [h.identity]
    unfold receiptMatchesAttempt
    show (_ && _) = (_ && _)
    rw [show r'.identity.actionRef = r.identity.actionRef from hr,
      show r'.identity.idempotencyKey = r.identity.idempotencyKey from hkey]
  unfold Idr.checkReceipt
  simp only [h.receiptRef, hmatched, h.envelope, h.verifiedAt]

/-- Every record of an accepted snapshot agrees with its reservations. -/
theorem checkRecords_consistent {prior : List HumanCenteredContractSnapshotV1}
    {before latest out : List HumanCenteredContractRefV1}
    (h : checkRecords reservations prior before latest records = .ok out) :
    ∀ record ∈ records, ∃ prior', crossObjectConsistent record prior' reservations = true := by
  induction records generalizing prior before latest with
  | nil =>
    intro record hrecord
    cases hrecord
  | cons first records ih =>
    obtain ⟨reference, -, -, -, hconsistent, hrest⟩ := checkRecords_cons_eq_ok.mp h
    exact List.forall_mem_cons.mpr ⟨⟨prior, hconsistent⟩, ih hrest⟩

/-- A permit carries the identifier of its proof. -/
theorem IdentitiesOk.permitId {action : ActionContractV1}
    {reservation : ExecutionReservationRecordV1}
    {earlier attempts : List ExecutionAttemptRecordV1} {index : Nat}
    (h : IdentitiesOk action reservation earlier index attempts) :
    ∀ a ∈ attempts, a.permitId = a.proofId := by
  induction attempts generalizing earlier index with
  | nil =>
    intro a ha
    cases ha
  | cons attempt attempts ih =>
    obtain ⟨⟨-, -, -, hmismatch⟩, hrest⟩ := h
    refine List.forall_mem_cons.mpr ⟨?_, ih hrest⟩
    simp only [attemptMismatch, Bool.or_eq_false_iff, decide_eq_false_iff_not, not_not] at hmismatch
    tauto

theorem checkReservations_permitId {before : List ExecutionReservationRecordV1}
    (h : checkReservations records before reservations = .ok ()) :
    ∀ r ∈ reservations, ∀ a ∈ r.attempts, a.permitId = a.proofId := by
  induction reservations generalizing before with
  | nil =>
    intro r hr
    cases hr
  | cons reservation reservations ih =>
    obtain ⟨⟨action, hid⟩, -, hrest⟩ := checkReservations_cons_eq_ok.mp h
    exact List.forall_mem_cons.mpr ⟨hid.attempts.permitId, ih hrest⟩

theorem checkReservations_ne_nil {before : List ExecutionReservationRecordV1}
    (h : checkReservations records before reservations = .ok ()) :
    ∀ r ∈ reservations, r.attempts ≠ [] := by
  induction reservations generalizing before with
  | nil =>
    intro r hr
    cases hr
  | cons reservation reservations ih =>
    obtain ⟨⟨action, hid⟩, -, hrest⟩ := checkReservations_cons_eq_ok.mp h
    refine List.forall_mem_cons.mpr ⟨fun hnil => hid.repeats ?_, ih hrest⟩
    unfold reservationMismatch
    tauto

/-- The permits of an attempt's reservation are all different. -/
theorem permitId_inj (hs : validateSnapshot s = .ok ()) (hr : r ∈ s.executionReservations)
    {a a' : ExecutionAttemptRecordV1} (ha : a ∈ r.attempts) (ha' : a' ∈ r.attempts)
    (hpermit : a.permitId = a'.permitId) : a = a' := by
  obtain ⟨refs, hs'⟩ := validateSnapshot_eq_ok.mp hs
  have hproof := checkReservations_permitId hs'.reservations r hr
  have happart := (oneTime_of_valid hs).attempts
  have hunique : UniqueBy (·.proofId) r.attempts := by
    have hof := (List.pairwise_flatMap.mp happart).1 r hr
    exact hof.imp fun h => h.1
  apply hunique.eq ha ha'
  show a.proofId = a'.proofId
  rw [← hproof a ha, ← hproof a' ha', hpermit]

/-- **Every attempt of an accepted snapshot fits.** -/
theorem fits_of_mem (h : validateSnapshot s = .ok ()) (hr : r ∈ s.executionReservations)
    (ha : a ∈ r.attempts) : Fits s.records r a := by
  obtain ⟨refs, haccepted⟩ := validateSnapshot_eq_ok.mp h
  have hstand := (checkReservations_stands haccepted.reservations r hr).stand a ha
  refine ⟨hstand.timing, hstand.order, ?_⟩
  intro receipt hreceipt haction hpermit
  obtain ⟨prior, hconsistent⟩ := checkRecords_consistent haccepted.records _ hreceipt
  obtain ⟨action, r', a', hagrees⟩ := receiptConsistent_iff.mp hconsistent
  -- the receipt finds this attempt
  have hreservation : r' = r := by
    have hunique := (oneTime_of_valid h).reservations.imp fun hseparate => hseparate.1
    have hfound := List.find?_some hagrees.reserved
    refine UniqueBy.eq hunique (List.mem_of_find?_eq_some hagrees.reserved) hr ?_
    exact (of_decide_eq_true hfound).trans haction
  subst hreservation
  have hattempt : a' = a := by
    have hfound := List.find?_some hagrees.permitted
    exact permitId_inj h hr (List.mem_of_find?_eq_some hagrees.permitted) ha
      ((of_decide_eq_true hfound).trans hpermit)
  rw [← hattempt]
  exact hagrees.status

section Changed

variable {reservationId : Uuid} {change : ExecutionAttemptRecordV1 → ExecutionAttemptRecordV1}

omit [Crypto] [FloatText] in
/-- The changed attempt is in its reservation. -/
theorem mem_modifyLast_of_getLast? (ha : r.attempts.getLast? = some a) :
    change a ∈ modifyLast change r.attempts := by
  have hlast := getLast?_modifyLast change r.attempts
  rw [ha, Option.map_some] at hlast
  exact List.mem_of_getLast? hlast

omit [Crypto] [FloatText] in
/-- The reservations with the changed attempt. -/
theorem changeLastAttempt_identity (hr : s.executionReservations.find?
      (fun r => decide (r.reservationId = reservationId)) = some r)
    (ha : r.attempts.getLast? = some a) (hkeeps : KeepsAttempt a (change a)) :
    s.executionReservations.map (·.identity)
      = (changeLastAttempt s reservationId change).executionReservations.map (·.identity) :=
  (changeLastAttempt_changed (P := fun _ _ _ => True) (fun _ _ => trivial) hr ha hkeeps.identity
    trivial).identity

/-- The receipts of the attempts are in order, for those of the attempts before were. -/
theorem changeLastAttempt_receipts (hs : validateSnapshot s = .ok ())
    (hr : s.executionReservations.find? (fun r => decide (r.reservationId = reservationId)) =
      some r)
    (ha : r.attempts.getLast? = some a) (hkeeps : KeepsAttempt a (change a)) :
    ∀ r' ∈ (changeLastAttempt s reservationId change).executionReservations, ∀ a' ∈ r'.attempts,
      checkReceipt s.records r' a' = .ok () := by
  obtain ⟨refs, hs⟩ := validateSnapshot_eq_ok.mp hs
  have hreceipt : ∀ r ∈ s.executionReservations, ∀ a ∈ r.attempts,
      checkReceipt s.records r a = .ok () :=
    fun r hr a ha => ((checkReservations_stands hs.reservations r hr).stand a ha).receipt
  intro r' hr' a' ha'
  rcases mem_modifyFirst hr' with hold | ⟨x, hx, rfl⟩
  · exact hreceipt r' hold a' ha'
  · obtain rfl := Option.some.inj (hr.symm.trans hx)
    have hmem := List.mem_of_find?_eq_some hr
    rcases mem_modifyLast ha' with hold | ⟨last, hlast, rfl⟩
    · exact hreceipt r hmem a' hold
    · obtain rfl := Option.some.inj (ha.symm.trans hlast)
      rw [hkeeps.checkReceipt rfl rfl]
      exact hreceipt r hmem a (List.mem_of_getLast? ha)

/-- **A changed attempt that fits is accepted.** -/
theorem validateSnapshot_of_fits (hs : validateSnapshot s = .ok ())
    (hr : s.executionReservations.find? (fun r => decide (r.reservationId = reservationId)) =
      some r)
    (ha : r.attempts.getLast? = some a) (hkeeps : KeepsAttempt a (change a))
    (hfits : Fits s.records r (change a))
    (hseal : sealNextSnapshot (changeLastAttempt s reservationId change) s = .ok sealed) :
    validateSnapshot sealed = .ok () := by
  have hreceipts := changeLastAttempt_receipts hs hr ha hkeeps
  obtain ⟨refs, hs⟩ := validateSnapshot_eq_ok.mp hs
  have hsealed := checkSeal_of_sealNextSnapshot hs.sealed hseal
  obtain ⟨-, heq⟩ := sealNextSnapshot_eq_ok.mp hseal
  have hreservations : sealed.executionReservations
      = (changeLastAttempt s reservationId change).executionReservations := by rw [heq]
  have hrecords : sealed.records = s.records := by rw [heq]; rfl
  have hpointers : sealed.currentPointers = s.currentPointers := by rw [heq]; rfl
  have hinvalidated : sealed.invalidatedRefs = s.invalidatedRefs := by rw [heq]; rfl
  refine validateSnapshot_eq_ok.mpr ⟨refs, hsealed, hrecords ▸ hs.refsOf, hs.distinct, ?_,
    hpointers ▸ hs.pointers, hpointers ▸ hs.latest, hinvalidated ▸ hs.invalidated, ?_, ?_⟩
  · rw [hrecords, hreservations]
    refine checkRecords_congr ?_ hs.records
    intro record hrecord prior hcross
    refine crossObjectConsistent_congr ?_ hcross
    rintro receipt rfl hconsistent
    have hchanged := changeLastAttempt_changed
      (P := fun x y y' => y = y' ∨ (x = r ∧ y = a ∧ y' = change a)) (fun _ _ => .inl rfl) hr ha
      hkeeps.identity (.inr ⟨rfl, rfl, rfl⟩)
    refine receiptConsistent_congr hchanged ?_ hconsistent
    rintro x y y' (rfl | ⟨rfl, rfl, rfl⟩)
    · exact ⟨rfl, fun _ h => h, fun _ hstatus => hstatus⟩
    · refine ⟨hkeeps.identity.symm, hkeeps.dispatched, fun hmatched _ => ?_⟩
      simp only [receiptMatchesAttempt, Bool.and_eq_true, decide_eq_true_eq] at hmatched
      have hpermit : (change y).permitId = y.permitId := congrArg (·.permitId) hkeeps.identity
      exact hfits.receipts receipt hrecord hmatched.1.1.1.1.1.1.1
        (hmatched.1.1.1.1.1.1.2.trans hpermit.symm)
  · rw [hrecords, hpointers, hinvalidated]
    exact hs.replayed
  · rw [hrecords, hreservations]
    refine checkReservations_congr (fun _ _ h => h) rfl
      (changeLastAttempt_identity hr ha hkeeps) ?_ hs.reservations
    intro r' hr'
    have hstands := checkReservations_stands hs.reservations
    rcases mem_modifyFirst hr' with hold | ⟨x, hx, rfl⟩
    · exact hstands r' hold
    · obtain rfl := Option.some.inj (hr.symm.trans hx)
      have hold := hstands r (List.mem_of_find?_eq_some hr)
      refine ⟨fun a' ha' => ?_, ?_⟩
      · have hreceipt := hreceipts _ hr' a' ha'
        rcases mem_modifyLast ha' with hmem | ⟨last, hlast, rfl⟩
        · exact ⟨(hold.stand a' hmem).timing, (hold.stand a' hmem).order, hreceipt⟩
        · obtain rfl := Option.some.inj (ha.symm.trans hlast)
          exact ⟨hfits.timing, hfits.order, hreceipt⟩
      · show ∀ a' ∈ (modifyLast change r.attempts).dropLast, a'.status.permitsRetry = true
        rw [dropLast_modifyLast]
        exact hold.retry

/-- **A changed attempt of an accepted snapshot fits.** -/
theorem fits_of_validateSnapshot
    (hr : s.executionReservations.find? (fun r => decide (r.reservationId = reservationId)) =
      some r)
    (ha : r.attempts.getLast? = some a)
    (hseal : sealNextSnapshot (changeLastAttempt s reservationId change) s = .ok sealed)
    (h : validateSnapshot sealed = .ok ()) : Fits s.records r (change a) := by
  obtain ⟨-, heq⟩ := sealNextSnapshot_eq_ok.mp hseal
  have hmem :
      { r with attempts := modifyLast change r.attempts } ∈ sealed.executionReservations := by
    rw [heq]
    exact mem_modifyFirst_of_find? hr
  have hfits := fits_of_mem h hmem (mem_modifyLast_of_getLast? ha)
  have hrecords : sealed.records = s.records := by rw [heq]; rfl
  rw [hrecords] at hfits
  exact ⟨hfits.timing, hfits.order, hfits.receipts⟩

/-- **A changed attempt is accepted exactly when it fits**, and the snapshot is corrupt when it does
not. -/
theorem validate_changeLastAttempt (hs : validateSnapshot s = .ok ())
    (hr : s.executionReservations.find? (fun r => decide (r.reservationId = reservationId)) =
      some r)
    (ha : r.attempts.getLast? = some a) (hkeeps : KeepsAttempt a (change a))
    (hseal : sealNextSnapshot (changeLastAttempt s reservationId change) s = .ok sealed) :
    validateSnapshot sealed = .ok () ∧ Fits s.records r (change a) ∨
      validateSnapshot sealed = .error .corruptSnapshot ∧ ¬ Fits s.records r (change a) := by
  by_cases hfits : Fits s.records r (change a)
  · exact .inl ⟨validateSnapshot_of_fits hs hr ha hkeeps hfits hseal, hfits⟩
  · refine .inr ⟨?_, hfits⟩
    have hreceipts := changeLastAttempt_receipts hs hr ha hkeeps
    obtain ⟨refs, haccepted⟩ := validateSnapshot_eq_ok.mp hs
    have hsealed := checkSeal_of_sealNextSnapshot haccepted.sealed hseal
    have hidentity := changeLastAttempt_identity hr ha hkeeps
    obtain ⟨-, heq⟩ := sealNextSnapshot_eq_ok.mp hseal
    have honly : FailsOnly .corruptSnapshot (validateSnapshot sealed) := by
      apply haccepted.validate_failsOnly hsealed <;> rw [heq]
      · rfl
      · rfl
      · rfl
      · exact hidentity
      · exact hreceipts
    apply honly.eq_error
    intro _ hvalid
    exact hfits (fits_of_validateSnapshot hr ha hseal hvalid)

/-- The plan of a changed attempt reports corruption exactly when the attempt does not fit. -/
theorem planSealed_changeLastAttempt (hs : validateSnapshot s = .ok ())
    (hr : s.executionReservations.find? (fun r => decide (r.reservationId = reservationId)) =
      some r)
    (ha : r.attempts.getLast? = some a) (hkeeps : KeepsAttempt a (change a))
    {result : Except HumanCenteredStoreErrorV1 StoreReplyV1} :
    planSealed (changeLastAttempt s reservationId change) s result = .error .corruptSnapshot ↔
      s.sequence < u64Max ∧ ¬ Fits s.records r (change a) := by
  rw [planSealed, bind_eq_error]
  constructor
  · rintro (hseal | ⟨sealed, hseal, hvalid⟩)
    · -- the only failure of the seal is the overflow
      rw [sealNextSnapshot, bind_eq_error] at hseal
      rcases hseal with hseal | ⟨_, -, hseal⟩
      · cases (okOr_eq_error.mp hseal).2
      · cases hseal
    · refine ⟨(sealNextSnapshot_eq_ok.mp hseal).1, ?_⟩
      rcases validate_changeLastAttempt hs hr ha hkeeps hseal with ⟨hok, -⟩ | ⟨-, hfits⟩
      · rw [hok] at hvalid
        cases hvalid
      · exact hfits
  · rintro ⟨hsequence, hfits⟩
    have hseal : ∃ sealed, sealNextSnapshot (changeLastAttempt s reservationId change) s =
        .ok sealed :=
      ⟨_, sealNextSnapshot_eq_ok.mpr ⟨hsequence, rfl⟩⟩
    obtain ⟨sealed, hseal⟩ := hseal
    refine .inr ⟨sealed, hseal, ?_⟩
    rcases validate_changeLastAttempt hs hr ha hkeeps hseal with ⟨-, hfits'⟩ | ⟨hcorrupt, -⟩
    · exact absurd hfits' hfits
    · rw [hcorrupt]
      rfl

end Changed

/-! ### The changes of a permit call -/

omit [Crypto] [FloatText] in
theorem keepsAttempt_withStatus (a : ExecutionAttemptRecordV1)
    (status : ExecutionReservationStatusV1) : KeepsAttempt a (a.withStatus status) :=
  ⟨rfl, rfl, rfl, rfl, fun _ h => h⟩

omit [Crypto] [FloatText] in
/-- An attempt without a receipt has no proof of one either. -/
theorem unsettled_of_receiptRef (h : timingIsValid a = true) (hreceipt : a.receiptRef = none) :
    a.receiptProofEnvelope = none ∧ a.receiptVerifiedAt = none := by
  unfold timingIsValid at h
  rw [hreceipt] at h
  rcases hstatus : a.status <;> rw [hstatus] at h <;> simp_all

/-- A receipt on record has a reference. -/
theorem recordRef_isSome (hs : validateSnapshot s = .ok ()) {receipt : ExecutionReceiptV1}
    (h : .executionReceipt receipt ∈ s.records) : receipt.recordRef.toOption.isSome = true := by
  obtain ⟨refs, hs⟩ := validateSnapshot_eq_ok.mp hs
  obtain ⟨reference, -, href⟩ := exists_mem_of_forall₂ hs.refsOf h
  change receipt.recordRef = .ok reference at href
  rw [href]
  rfl

/-- The attempt of a withdrawn action fits unless it has a receipt. -/
theorem fits_withdrawnStatus (hs : validateSnapshot s = .ok ()) (hr : r ∈ s.executionReservations)
    (ha : a ∈ r.attempts) :
    Fits s.records r (a.withStatus a.withdrawnStatus) ↔ a.receiptRef = none := by
  have hfits := fits_of_mem hs hr ha
  constructor
  · intro h
    have htiming := h.timing
    unfold timingIsValid ExecutionAttemptRecordV1.withStatus
      ExecutionAttemptRecordV1.withdrawnStatus at htiming
    split at htiming <;> simp_all
  · intro hreceipt
    obtain ⟨henvelope, hverified⟩ := unsettled_of_receiptRef hfits.timing hreceipt
    have horder := hfits.order
    refine ⟨?_, horder, ?_⟩
    · unfold timesInOrder at horder
      unfold timingIsValid ExecutionAttemptRecordV1.withStatus
        ExecutionAttemptRecordV1.withdrawnStatus
      rcases hdispatched : a.dispatchedAt with _ | dispatchedAt
      · simp [hreceipt, henvelope, hverified]
      · rw [hdispatched] at horder
        rcases hdelivered : a.deliveredAt with _ | deliveredAt
        · simp [hdelivered] at horder
        · simp [hreceipt, henvelope, hverified]
    · intro receipt hmem haction hpermit
      show a.withdrawnStatus = _ ∨ a.withdrawnStatus = _ ∨ _
      have hstatus := hfits.receipts receipt hmem haction hpermit
      have hsome := recordRef_isSome hs hmem
      have hdispatched : a.dispatchedAt.isSome = true := by
        have htiming := hfits.timing
        unfold timingIsValid at htiming
        rcases hstatus with hstatus | hstatus | ⟨-, hsettled⟩
        · rw [hstatus] at htiming
          simp_all
        · rw [hstatus] at htiming
          simp_all
        · rw [← hsettled, hreceipt] at hsome
          cases hsome
      right
      left
      exact if_pos hdispatched

/-- An attempt may expire unless a receipt of it is on record. -/
theorem fits_expired (hs : validateSnapshot s = .ok ()) (hr : r ∈ s.executionReservations)
    (ha : a ∈ r.attempts) :
    Fits s.records r (a.withStatus .expired) ↔ ∀ receipt, .executionReceipt receipt ∈ s.records →
      receipt.actionRef = r.actionRef → receipt.permitId ≠ a.permitId := by
  have hfits := fits_of_mem hs hr ha
  constructor
  · intro h receipt hmem haction hpermit
    have htiming := h.timing
    have hsome := recordRef_isSome hs hmem
    rcases h.receipts receipt hmem haction hpermit with hstatus | hstatus | ⟨-, hsettled⟩
    · cases hstatus
    · cases hstatus
    · rw [← hsettled] at hsome
      unfold timingIsValid at htiming
      simp_all [ExecutionAttemptRecordV1.withStatus]
  · intro hnone
    refine ⟨?_, hfits.order, fun receipt hmem haction hpermit =>
      absurd hpermit (hnone receipt hmem haction)⟩
    -- a receipt that the attempt has would be on record
    have hreceipt : a.receiptRef = none := by
      obtain ⟨refs, hs⟩ := validateSnapshot_eq_ok.mp hs
      have hcheck := ((checkReservations_stands hs.reservations r hr).stand a ha).receipt
      rcases href : a.receiptRef with _ | reference
      · rfl
      · exfalso
        unfold checkReceipt at hcheck
        simp only [href] at hcheck
        split at hcheck
        case h_1 receipt hfound =>
          obtain ⟨⟨⟩, hmatched, -⟩ := bind_eq_ok.mp hcheck
          rw [rejectIf_eq_ok, Bool.not_eq_false] at hmatched
          simp only [receiptMatchesAttempt, Bool.and_eq_true, decide_eq_true_eq] at hmatched
          exact hnone receipt (findRecord_some hfound).1 hmatched.1.1.1.1.1.1.1
            hmatched.1.1.1.1.1.1.2
        case h_2 => cases hcheck
    obtain ⟨henvelope, hverified⟩ := unsettled_of_receiptRef hfits.timing hreceipt
    unfold timingIsValid
    simp [ExecutionAttemptRecordV1.withStatus, hreceipt, henvelope, hverified]

/-- An attempt that is not dispatched yet has no receipt. -/
theorem receiptRef_eq_none_of_open (hs : validateSnapshot s = .ok ())
    (hr : r ∈ s.executionReservations) (ha : a ∈ r.attempts)
    (hstatus : a.status = .permitIssued ∨ a.status = .delivered) : a.receiptRef = none := by
  have htiming := (fits_of_mem hs hr ha).timing
  unfold timingIsValid at htiming
  rcases hstatus with hstatus | hstatus <;> rw [hstatus] at htiming <;> simp_all

/-- Every reservation has an attempt. -/
theorem exists_getLast? (hs : validateSnapshot s = .ok ()) (hr : r ∈ s.executionReservations) :
    ∃ a, r.attempts.getLast? = some a := by
  obtain ⟨refs, hs⟩ := validateSnapshot_eq_ok.mp hs
  have hne := checkReservations_ne_nil hs.reservations r hr
  exact ⟨_, List.getLast?_eq_some_getLast hne⟩

/-- An attempt that is not dispatched yet has no receipt on record. -/
theorem no_receipt_of_open (hs : validateSnapshot s = .ok ()) (hr : r ∈ s.executionReservations)
    (ha : a ∈ r.attempts) (hstatus : a.status = .permitIssued ∨ a.status = .delivered) :
    ∀ receipt, .executionReceipt receipt ∈ s.records →
      receipt.actionRef = r.actionRef → receipt.permitId ≠ a.permitId := by
  intro receipt hmem haction hpermit
  have hopen := (fits_of_mem hs hr ha).receipts receipt hmem haction hpermit
  rcases hstatus with hstatus | hstatus <;> rw [hstatus] at hopen <;>
    simp_all [ExecutionReservationStatusV1.isTerminal]

/-- An attempt that is delivered or dispatched fits, unless it is so before the time of its last
step. -/
theorem fits_advance (hs : validateSnapshot s = .ok ()) (hr : r ∈ s.executionReservations)
    (ha : a ∈ r.attempts) {permit : ExecutionPermitV1}
    {expected next : ExecutionReservationStatusV1} (hmark : MarkCall call permit expected next)
    (hstatus : a.status = expected) {trustedNow : Nat} {a' : ExecutionAttemptRecordV1}
    (hadvance : a.advance next trustedNow = .ok a') :
    KeepsAttempt a a' ∧
      (Fits s.records r a' ↔ a.deliveredAt.getD a.consumedAt ≤ trustedNow) := by
  have hfits := fits_of_mem hs hr ha
  have htiming := hfits.timing
  have horder := hfits.order
  have hopen : a.status = .permitIssued ∨ a.status = .delivered := by
    cases hmark with
    | delivered => exact .inl hstatus
    | dispatched => exact .inr hstatus
  have hnone := no_receipt_of_open hs hr ha hopen
  have hundispatched := dispatchedAt_eq_none hs hr ha hopen
  unfold timingIsValid at htiming
  cases hmark with
  | delivered =>
    obtain rfl := Except.ok.inj hadvance
    refine ⟨⟨rfl, rfl, rfl, rfl, fun _ h => h⟩, ?_⟩
    rw [hstatus] at htiming
    simp only [Bool.and_eq_true, Bool.not_eq_true', Option.isSome_eq_false_iff,
      Option.isNone_iff_eq_none] at htiming
    obtain ⟨⟨hundelivered, -⟩, ⟨hreceipt, henvelope⟩, hverified⟩ := htiming
    rw [hundelivered, Option.getD_none]
    constructor
    · intro h
      have horder' := h.order
      unfold timesInOrder at horder'
      simpa [hundispatched] using horder'
    · intro hle
      refine ⟨?_, ?_, fun receipt hmem haction hpermit =>
        absurd hpermit (hnone receipt hmem haction)⟩
      · simp [timingIsValid, hundispatched, hreceipt, henvelope, hverified]
      · simp [timesInOrder, hundispatched, hle]
  | dispatched =>
    obtain rfl := Except.ok.inj hadvance
    refine ⟨⟨rfl, rfl, rfl, rfl, fun _ h => ?_⟩, ?_⟩
    · rw [hundispatched] at h
      cases h
    rw [hstatus] at htiming
    simp only [Bool.and_eq_true, Bool.not_eq_true', Option.isSome_eq_false_iff,
      Option.isNone_iff_eq_none] at htiming
    obtain ⟨⟨hdelivered, -⟩, ⟨hreceipt, henvelope⟩, hverified⟩ := htiming
    obtain ⟨deliveredAt, hsome⟩ := Option.isSome_iff_exists.mp hdelivered
    unfold timesInOrder at horder
    rw [hsome] at horder
    rw [hsome, Option.getD_some]
    constructor
    · intro h
      have horder' := h.order
      unfold timesInOrder at horder'
      rw [Bool.and_eq_true] at horder'
      simpa [hsome] using horder'.2
    · intro hle
      refine ⟨?_, ?_, fun receipt hmem haction hpermit =>
        absurd hpermit (hnone receipt hmem haction)⟩
      · simp [timingIsValid, hreceipt, henvelope, hverified]
      · simp [timesInOrder, hle] at horder ⊢
        exact horder.1

/-! ### Permit calls -/

/-- The calls that move a permit on, or give it out again. -/
def StoreCallV1.isPermitCall : StoreCallV1 → Bool
  | markExecutionPermitDelivered _ | markExecutionDispatched _ | recoverExecutionPermit _ _ => true
  | _ => false

/-- What the caller sees of a call. -/
def StoreCallV1.outcome (self : StoreCallV1) (clock : Option Nat)
    (current : HumanCenteredStoreSnapshotV1) : Except HumanCenteredStoreErrorV1 StoreReplyV1 :=
  self.plan clock current >>= (·.result)

/-- The attempts that have a receipt are as they were. -/
def SettledKept (s t : HumanCenteredStoreSnapshotV1) : Prop :=
  ReservationsChanged (fun _ a a' => a.receiptRef.isSome = true → a' = a) s.executionReservations
    t.executionReservations

/-- The permit is that of the last attempt `a` of its reservation `r`. -/
def FindsAttempt (s : HumanCenteredStoreSnapshotV1) (permit : ExecutionPermitV1)
    (r : ExecutionReservationRecordV1) (a : ExecutionAttemptRecordV1) : Prop :=
  s.executionReservations.find? (fun r => decide (r.reservationId = permit.reservationId)) =
    some r ∧
    r.attempts.getLast? = some a ∧ permitMatchesAttempt permit r a = true

/-- **What a permit call promises**: it never reports corruption, settled attempts are as they were,
and a repeated call does nothing or fails. -/
structure PermitCallKeeps (s : HumanCenteredStoreSnapshotV1) (clock : Option Nat)
    (call : StoreCallV1) : Prop where
  uncorrupted : call.outcome clock s ≠ .error .corruptSnapshot
  settled : ∀ planned sealed, call.plan clock s = .ok planned → planned.candidate = some sealed →
    SettledKept s sealed
  repeated : ∀ permit expected next r a, MarkCall call permit expected next →
    FindsAttempt s permit r a → a.status ≠ expected →
      call.plan clock s = .ok (.reply .done) ∨
        ∃ e, call.outcome clock s = .error e ∧ e ≠ .corruptSnapshot

/-- **What the store takes for corruption** in an attempt that is reported: its action is withdrawn,
and it has a receipt; its lease is over, and a receipt of it is on record; or it moves on, and the
clock is behind the time of its last step. -/
def MisjudgedAttempt (s : HumanCenteredStoreSnapshotV1) (expected : ExecutionReservationStatusV1)
    (trustedNow : Nat) (r : ExecutionReservationRecordV1) (a : ExecutionAttemptRecordV1) : Prop :=
  (s.isCurrent r.actionRef = false ∧ a.receiptRef.isSome = true) ∨
  (s.isCurrent r.actionRef = true ∧ leaseOver a trustedNow = true ∧
    ∃ receipt, .executionReceipt receipt ∈ s.records ∧ receipt.actionRef = r.actionRef ∧
      receipt.permitId = a.permitId) ∨
  (s.isCurrent r.actionRef = true ∧ leaseOver a trustedNow = false ∧ a.status = expected ∧
    trustedNow < a.deliveredAt.getD a.consumedAt)

/-- **The calls that the store takes for corruption**: reports of such attempts, while the snapshot
can be counted up. -/
def Misjudged (s : HumanCenteredStoreSnapshotV1) (clock : Option Nat) (call : StoreCallV1) : Prop :=
  ∃ permit expected next trustedNow r a, MarkCall call permit expected next ∧
    clock = some trustedNow ∧
    FindsAttempt s permit r a ∧ s.sequence < u64Max ∧ MisjudgedAttempt s expected trustedNow r a

/-! ### Settled attempts -/

/-- The change of a settled attempt does not fit, so that it is never stored. -/
theorem settledKept_of_changeLastAttempt {reservationId : Uuid}
    {change : ExecutionAttemptRecordV1 → ExecutionAttemptRecordV1}
    (hr : s.executionReservations.find? (fun r => decide (r.reservationId = reservationId)) =
      some r)
    (ha : r.attempts.getLast? = some a) (hkeeps : KeepsAttempt a (change a))
    (hsealed : SealedFrom s (changeLastAttempt s reservationId change) sealed)
    (hreceipt : Fits s.records r (change a) → a.receiptRef = none) : SettledKept s sealed := by
  have hfits := fits_of_validateSnapshot hr ha hsealed.1 hsealed.2
  have hreservations : sealed.executionReservations
      = (changeLastAttempt s reservationId change).executionReservations := by
    rw [(sealNextSnapshot_eq_ok.mp hsealed.1).2]
  rw [SettledKept, hreservations]
  refine changeLastAttempt_changed (fun _ _ _ => rfl) hr ha hkeeps.identity ?_
  intro hsettled
  rw [hreceipt hfits] at hsettled
  cases hsettled

/-- An expired attempt that fits has no receipt. -/
theorem receiptRef_of_fits_expired (h : Fits records r (a.withStatus .expired)) :
    a.receiptRef = none := by
  have htiming := h.timing
  unfold timingIsValid at htiming
  simp_all [ExecutionAttemptRecordV1.withStatus]

/-- **Permit calls keep settled attempts**, whatever they store. -/
theorem settledKept_of_plan (hs : validateSnapshot s = .ok ()) (hcall : call.isPermitCall = true)
    {planned : PlannedV1} (hplan : call.plan clock s = .ok planned)
    (hstored : planned.candidate = some sealed) : SettledKept s sealed := by
  obtain ⟨candidate, hchange, hsealed⟩ := StoreCallV1.plan_stores hplan hstored
  cases hchange with
  | commit hcommit => cases hcommit <;> cases hcall
  | issue => cases hcall
  | withdrawn hmark _ hreservation hattempt =>
    refine settledKept_of_changeLastAttempt hreservation hattempt (keepsAttempt_withStatus _ _)
      hsealed ?_
    exact (fits_withdrawnStatus hs (List.mem_of_find?_eq_some hreservation)
      (List.mem_of_getLast? hattempt)).mp
  | expired hmark _ hreservation hattempt =>
    exact settledKept_of_changeLastAttempt hreservation hattempt (keepsAttempt_withStatus _ _)
      hsealed
      receiptRef_of_fits_expired
  | advanced hmark _ hreservation hattempt _ _ _ hstatus hadvance =>
    have hmem := List.mem_of_find?_eq_some hreservation
    have hmemAttempt := List.mem_of_getLast? hattempt
    obtain ⟨hkeeps, -⟩ := fits_advance hs hmem hmemAttempt hmark hstatus hadvance
    refine settledKept_of_changeLastAttempt hreservation hattempt hkeeps hsealed fun _ => ?_
    apply receiptRef_eq_none_of_open hs hmem hmemAttempt
    cases hmark with
    | delivered => exact .inl hstatus
    | dispatched => exact .inr hstatus
  | @recovered _ _ _ reservation attempt _ hreservation hattempt hstatus _ =>
    have hmem := List.mem_of_find?_eq_some hreservation
    have hfound := (uniqueBy_reservationId hs).find?_key.mpr ⟨hmem, rfl⟩
    exact settledKept_of_changeLastAttempt hfound hattempt (keepsAttempt_withStatus _ _) hsealed
      receiptRef_of_fits_expired

/-! ### Corruption -/

omit [Crypto] [FloatText] in
/-- The steps of a permit call, once its attempt is found. -/
theorem transitionExecutionPermit_of_finds [Crypto] [FloatText] {permit : ExecutionPermitV1}
    {expected next : ExecutionReservationStatusV1} {trustedNow : Nat}
    (h : FindsAttempt s permit r a) :
    transitionExecutionPermit (some trustedNow) permit expected next s =
      if s.isCurrent r.actionRef = false then
        planSealed (changeLastAttempt s permit.reservationId fun attempt =>
          attempt.withStatus attempt.withdrawnStatus) s (.error .executionActionInvalidated)
      else if leaseOver a trustedNow = true then
        planSealed (changeLastAttempt s permit.reservationId (·.withStatus .expired)) s
          (.error .executionLeaseExpired)
      else if a.status = next then .ok (.reply .done)
      else require (a.status = expected) .invalidExecutionTransition >>= fun _ =>
        a.advance next trustedNow >>= fun advanced =>
          planSealed (changeLastAttempt s permit.reservationId fun _ => advanced)
            s (.ok .done) := by
  obtain ⟨hr, ha, hmatches⟩ := h
  rw [transitionExecutionPermit, hr]
  show (okOr r.attempts.getLast? _ >>= _) = _
  rw [ha]
  show (require _ _ >>= _) = _
  rw [require, if_pos hmatches]
  rfl

/-- A call that does not find its attempt fails, and not as corrupt. -/
theorem transitionExecutionPermit_unfound (hs : validateSnapshot s = .ok ())
    {permit : ExecutionPermitV1} (expected next : ExecutionReservationStatusV1)
    (h : ¬ ∃ trustedNow r a, clock = some trustedNow ∧ FindsAttempt s permit r a) :
    ∃ e, transitionExecutionPermit clock permit expected next s = .error e ∧
    e ≠ .corruptSnapshot := by
  rcases clock with _ | trustedNow
  · exact ⟨_, rfl, by decide⟩
  rcases hr : s.executionReservations.find?
    (fun r => decide (r.reservationId = permit.reservationId))
    with _ | r
  · refine ⟨.executionReservationNotFound, ?_, by decide⟩
    rw [transitionExecutionPermit, hr]
    rfl
  · obtain ⟨a, ha⟩ := exists_getLast? hs (List.mem_of_find?_eq_some hr)
    refine ⟨.executionPermitMismatch, ?_, by decide⟩
    have hmismatch : permitMatchesAttempt permit r a ≠ true :=
      fun hmatches => h ⟨trustedNow, r, a, rfl, hr, ha, hmatches⟩
    rw [transitionExecutionPermit, hr]
    show (okOr r.attempts.getLast? _ >>= _) = _
    rw [ha]
    show (require _ _ >>= _) = _
    rw [require, if_neg hmismatch]
    rfl

/-- Only the plan itself reports corruption. -/
theorem planSealed_outcome {candidate : HumanCenteredStoreSnapshotV1}
    {result : Except HumanCenteredStoreErrorV1 StoreReplyV1}
    (hresult : result ≠ .error .corruptSnapshot) :
    (planSealed candidate s result >>= (·.result)) = .error .corruptSnapshot ↔
      planSealed candidate s result = .error .corruptSnapshot := by
  rw [bind_eq_error]
  constructor
  · rintro (h | ⟨planned, h, h'⟩)
    · exact h
    · obtain ⟨_, -, rfl⟩ := planSealed_eq_ok.mp h
      exact absurd h' hresult
  · exact .inl

/-- What a report leads to, once its attempt is found. -/
theorem transition_corrupt_iff (hs : validateSnapshot s = .ok ()) {permit : ExecutionPermitV1}
    {expected next : ExecutionReservationStatusV1} (hmark : MarkCall call permit expected next)
    {trustedNow : Nat} (hfinds : FindsAttempt s permit r a) :
    (transitionExecutionPermit (some trustedNow) permit expected next s >>= (·.result))
        = .error .corruptSnapshot ↔
      s.sequence < u64Max ∧ MisjudgedAttempt s expected trustedNow r a := by
  rw [transitionExecutionPermit_of_finds hfinds, MisjudgedAttempt]
  obtain ⟨hr, ha, -⟩ := hfinds
  have hmem := List.mem_of_find?_eq_some hr
  have hmemAttempt := List.mem_of_getLast? ha
  by_cases hgone : s.isCurrent r.actionRef = false
  · rw [if_pos hgone, planSealed_outcome (by simp),
      planSealed_changeLastAttempt hs hr ha (keepsAttempt_withStatus _ _),
      fits_withdrawnStatus hs hmem hmemAttempt]
    simp [hgone, Option.isSome_iff_ne_none]
  rw [if_neg hgone]
  rw [Bool.not_eq_false] at hgone
  by_cases hover : leaseOver a trustedNow = true
  · rw [if_pos hover, planSealed_outcome (by simp),
      planSealed_changeLastAttempt hs hr ha (keepsAttempt_withStatus _ _),
      fits_expired hs hmem hmemAttempt]
    simp [hgone, hover]
  rw [if_neg hover]
  rw [Bool.not_eq_true] at hover
  -- the attempt is repeated, is in another status, or moves on
  have hdifferent : expected ≠ next := by cases hmark <;> decide
  by_cases hnext : a.status = next
  · rw [if_pos hnext, hnext]
    simp [hgone, hover, hdifferent.symm, PlannedV1.reply, bind, Except.bind]
  rw [if_neg hnext]
  by_cases hexpected : a.status = expected
  · obtain ⟨a', hadvance⟩ : ∃ a', a.advance next trustedNow = .ok a' := by
      cases hmark <;> exact ⟨_, rfl⟩
    obtain ⟨hkeeps, hfits⟩ := fits_advance hs hmem hmemAttempt hmark hexpected hadvance
    rw [require, if_pos hexpected, hadvance]
    show (planSealed (changeLastAttempt s permit.reservationId fun _ => a') s (.ok .done)
      >>= (·.result)) = _ ↔ _
    rw [planSealed_outcome (by simp), planSealed_changeLastAttempt hs hr ha hkeeps, hfits]
    simp [hgone, hover, hexpected]
  · rw [require, if_neg hexpected]
    simp [hgone, hover, hexpected, bind, Except.bind]

/-- **When a report of a permit is taken for corruption.** -/
theorem outcome_corrupt_iff (hs : validateSnapshot s = .ok ()) {permit : ExecutionPermitV1}
    {expected next : ExecutionReservationStatusV1} (hmark : MarkCall call permit expected next) :
    call.outcome clock s = .error .corruptSnapshot ↔ Misjudged s clock call := by
  have hplan : call.outcome clock s
      = transitionExecutionPermit clock permit expected next s >>= (·.result) := by
    cases hmark <;> rfl
  rw [hplan]
  constructor
  · intro h
    by_cases hfinds : ∃ trustedNow r a, clock = some trustedNow ∧ FindsAttempt s permit r a
    · obtain ⟨trustedNow, r, a, rfl, hfinds⟩ := hfinds
      exact ⟨permit, expected, next, trustedNow, r, a, hmark, rfl, hfinds,
        (transition_corrupt_iff hs hmark hfinds).mp h⟩
    · obtain ⟨e, herror, hne⟩ := transitionExecutionPermit_unfound hs expected next hfinds
      rw [herror] at h
      exact absurd (Except.error.inj h) hne
  · rintro ⟨permit', expected', next', trustedNow, r, a, hmark', rfl, hfinds, hmisjudged⟩
    obtain ⟨rfl, rfl, rfl⟩ : permit' = permit ∧ expected' = expected ∧ next' = next := by
      cases hmark <;> cases hmark' <;> exact ⟨rfl, rfl, rfl⟩
    exact (transition_corrupt_iff hs hmark hfinds).mpr hmisjudged

/-- A permit that is given out again is never taken for corruption. -/
theorem recover_outcome_ne_corrupt (hs : validateSnapshot s = .ok ())
    (actionRef : HumanCenteredContractRefV1) (ownerRef : ReferenceV1) :
    (StoreCallV1.recoverExecutionPermit actionRef ownerRef).outcome clock s
      ≠ .error .corruptSnapshot := by
  intro h
  rcases bind_eq_error.mp h with h | ⟨planned, h, hresult⟩
  · change recoverExecutionPermit clock actionRef ownerRef s = _ at h
    rcases bind_eq_error.mp h with h | ⟨trustedNow, hclock, h⟩
    · cases (okOr_eq_error.mp h).2
    rcases bind_eq_error.mp h with h | ⟨r, hr, h⟩
    · cases (okOr_eq_error.mp h).2
    rw [okOr_eq_ok] at hr
    have hmem := List.mem_of_find?_eq_some hr
    rcases bind_eq_error.mp h with h | ⟨a, ha, h⟩
    · obtain ⟨a, ha⟩ := exists_getLast? hs hmem
      rw [(okOr_eq_error.mp h).1] at ha
      cases ha
    rw [okOr_eq_ok] at ha
    rcases bind_eq_error.mp h with h | ⟨_, -, h⟩
    · cases (require_eq_error.mp h).2
    rcases bind_eq_error.mp h with h | ⟨_, hstatus, h⟩
    · cases (require_eq_error.mp h).2
    rw [require_eq_ok] at hstatus
    split at h
    · have hfound := (uniqueBy_reservationId hs).find?_key.mpr ⟨hmem, rfl⟩
      have hcorrupt :=
        (planSealed_changeLastAttempt hs hfound ha (keepsAttempt_withStatus _ _)).mp h
      refine hcorrupt.2 ((fits_expired hs hmem (List.mem_of_getLast? ha)).mpr ?_)
      exact no_receipt_of_open hs hmem (List.mem_of_getLast? ha) hstatus
    · cases h
  · -- the results are a permit and the end of the lease
    change recoverExecutionPermit clock actionRef ownerRef s = _ at h
    simp only [recoverExecutionPermit, bind_eq_ok] at h
    obtain ⟨_, -, _, -, _, -, _, -, _, -, h⟩ := h
    split at h
    · obtain ⟨_, -, rfl⟩ := planSealed_eq_ok.mp h
      cases hresult
    · obtain rfl := Except.ok.inj h
      cases hresult

/-- A plan whose result is an error gives an error. -/
theorem planSealed_outcome_error (candidate : HumanCenteredStoreSnapshotV1)
    (e : HumanCenteredStoreErrorV1) :
    ∃ e', (planSealed candidate s (.error e) >>= (·.result)) = .error e' := by
  rcases hplan : planSealed candidate s (.error e) with e' | planned
  · exact ⟨e', rfl⟩
  · obtain ⟨_, -, rfl⟩ := planSealed_eq_ok.mp hplan
    exact ⟨e, rfl⟩

/-- A repeated report does nothing, or fails. -/
theorem transition_repeated {permit : ExecutionPermitV1}
    {expected next : ExecutionReservationStatusV1} {trustedNow : Nat}
    (hfinds : FindsAttempt s permit r a)
    (hstatus : a.status ≠ expected) :
    transitionExecutionPermit (some trustedNow) permit expected next s = .ok (.reply .done) ∨
      ∃ e, (transitionExecutionPermit (some trustedNow) permit expected next s >>= (·.result))
        = .error e := by
  rw [transitionExecutionPermit_of_finds hfinds]
  split
  · exact .inr (planSealed_outcome_error _ _)
  split
  · exact .inr (planSealed_outcome_error _ _)
  split
  · exact .inl rfl
  · right
    rw [require, if_neg hstatus]
    exact ⟨_, rfl⟩

/-- **When a permit call keeps its promise**: unless it is taken for corruption. -/
theorem permitCallKeeps_iff (hs : validateSnapshot s = .ok ()) (hcall : call.isPermitCall = true) :
    PermitCallKeeps s clock call ↔ ¬ Misjudged s clock call := by
  constructor
  · rintro hkeeps ⟨permit, expected, next, trustedNow, r, a, hmark, hrest⟩
    exact hkeeps.uncorrupted ((outcome_corrupt_iff hs hmark).mpr ⟨_, _, _, _, _, _, hmark, hrest⟩)
  · intro hnot
    have huncorrupted : call.outcome clock s ≠ .error .corruptSnapshot := by
      cases call with
      | markExecutionPermitDelivered permit =>
        exact fun h => hnot ((outcome_corrupt_iff hs .delivered).mp h)
      | markExecutionDispatched permit =>
        exact fun h => hnot ((outcome_corrupt_iff hs .dispatched).mp h)
      | recoverExecutionPermit actionRef ownerRef =>
        exact recover_outcome_ne_corrupt hs actionRef ownerRef
      | _ => cases hcall
    refine ⟨huncorrupted, fun planned sealed => settledKept_of_plan hs hcall, ?_⟩
    intro permit expected next r a hmark hfinds hstatus
    have hplan : call.plan clock s = transitionExecutionPermit clock permit expected next s := by
      cases hmark <;> rfl
    rw [StoreCallV1.outcome, hplan] at huncorrupted ⊢
    rcases clock with _ | trustedNow
    · exact .inr ⟨_, rfl, by decide⟩
    · rcases transition_repeated hfinds hstatus with hdone | ⟨e, herror⟩
      · exact .inl hdone
      · refine .inr ⟨e, herror, ?_⟩
        rintro rfl
        exact huncorrupted herror

end Transition

/-! ### A settled attempt, reported late

The attempt of the sample is settled by its receipt.  Its dispatch, reported again after the lease,
is taken for corruption. -/

namespace StoreSample

section Contracts

variable [Crypto] [FloatText]

/-- The receipt of the attempt is committed in time. -/
def toSettled : List (Nat × StoreCallV1) := toDispatched ++ [(60, receiptCommit)]

/-- The attempt is settled, and its late report is refused as corrupt. -/
def settledReported : Bool :=
  (storedAll .empty toSettled).any fun last =>
    decide (validateSnapshot last = .ok ())
      && last.executionReservations.any (fun r => r.attempts.any fun a =>
        decide (a.status = .failed) && decide (a.permitId = firstPermit.permitId))
      && refused (lateMark.2.plan (some 120) last) .corruptSnapshot

/-- A report of the settled attempt in time is refused as a transition. -/
def settledRefused : Bool :=
  (storedAll .empty toSettled).any fun last =>
    decide (validateSnapshot last = .ok ())
      && refused (lateMark.2.plan (some 61) last) .invalidExecutionTransition

end Contracts

set_option maxRecDepth 20000 in
theorem settled_scripts : @settledReported Sample.crypto floatText = true ∧
    @settledRefused Sample.crypto floatText = true :=
  ⟨by decide +kernel, by decide +kernel⟩

end StoreSample

/-- The dispatch of the sample is reported again after its receipt and its lease, and the store
reports itself corrupt. -/
theorem settled_report_corrupt : let _ := Sample.crypto
    let _ := StoreSample.floatText
    ∃ s, Reachable FileStoreInit FileStoreStep s ∧
      (∃ r ∈ s.snapshot.executionReservations, ∃ a ∈ r.attempts, a.status = .failed ∧
        a.permitId = StoreSample.firstPermit.permitId) ∧
      (StoreCallV1.markExecutionDispatched StoreSample.firstPermit).outcome (some 120) s.snapshot
        = .error .corruptSnapshot := by
  intro crypto floatText
  have hsample := StoreSample.settled_scripts.1
  obtain ⟨last, hlast, hsample⟩ := (Option.any_eq_true _ _).mp hsample
  simp only [Bool.and_eq_true, decide_eq_true_eq, List.any_eq_true] at hsample
  obtain ⟨⟨-, r, hr, a, ha, hstatus, hpermit⟩, hrefused⟩ := hsample
  have hrun := StoreSample.run_of_storedAll 0 _ hlast (by decide)
  refine ⟨_, ⟨_, _, ⟨rfl, rfl⟩, hrun⟩, ⟨r, hr, a, ha, hstatus, hpermit⟩, ?_⟩
  rw [StoreCallV1.outcome]
  show (StoreSample.lateMark.2.plan (some 120) last >>= _) = _
  rw [StoreSample.eq_error_of_refused hrefused]
  rfl

/-- The dispatch of the sample, reported again after its receipt and within its lease, keeps the
promise. -/
theorem permitCallKeeps_sample : let _ := Sample.crypto
    let _ := StoreSample.floatText
    ∃ s, validateSnapshot s = .ok () ∧
      PermitCallKeeps s (some 61) (.markExecutionDispatched StoreSample.firstPermit) := by
  intro crypto floatText
  have hsample := StoreSample.settled_scripts.2
  obtain ⟨last, -, hsample⟩ := (Option.any_eq_true _ _).mp hsample
  simp only [Bool.and_eq_true, decide_eq_true_eq] at hsample
  obtain ⟨hvalid, hrefused⟩ := hsample
  refine ⟨last, hvalid, (permitCallKeeps_iff hvalid rfl).mpr ?_⟩
  rw [← outcome_corrupt_iff hvalid .dispatched, StoreCallV1.outcome]
  show ¬ (StoreSample.lateMark.2.plan (some 61) last >>= _) = _
  rw [StoreSample.eq_error_of_refused hrefused]
  intro h
  cases h

end Idr
