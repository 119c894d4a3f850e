/-
Idr/FileStore/OneTime.lean

Permits and reservations are one-time.

Every accepted snapshot has at most one reservation of an action and of an
idempotency scope, its attempts are numbered from 1, all of them but the last
may be retried, and no two attempts share a proof, a nonce or an
authorization (`OneTime`).  A permit is issued for a new attempt, and
attempts stay, so that what one issue consumed is never issued again
(`permits_are_one_time`).
-/
import Idr.FileStore.History
import Idr.Lib.Table

namespace Idr

open HumanCenteredContractRefV1

/-- The attempts do not share what a permit consumes. -/
def Apart (a a' : ExecutionAttemptRecordV1) : Prop :=
  a.proofId ≠ a'.proofId ∧ a.proofNonce ≠ a'.proofNonce ∧
    a.authorization.authorizationId ≠ a'.authorization.authorizationId

/-- The reservations do not share an action or an idempotency scope. -/
def SeparateReservations (r r' : ExecutionReservationRecordV1) : Prop :=
  r.actionRef ≠ r'.actionRef ∧
    ¬ (r.tenantRef = r'.tenantRef ∧ r.operationRef = r'.operationRef ∧
      r.idempotencyKey = r'.idempotencyKey)

/-- All attempts of the snapshot. -/
def HumanCenteredStoreSnapshotV1.attempts (self : HumanCenteredStoreSnapshotV1) :
    List ExecutionAttemptRecordV1 :=
  self.executionReservations.flatMap (·.attempts)

/-- **Permits and reservations are one-time** in a snapshot. -/
structure OneTime (s : HumanCenteredStoreSnapshotV1) : Prop where
  reservations : s.executionReservations.Pairwise SeparateReservations
  numbered : ∀ r ∈ s.executionReservations,
    r.attempts.map (·.attempt) = List.range' 1 r.attempts.length
  retried : ∀ r ∈ s.executionReservations, ∀ a ∈ r.attempts.dropLast, a.status.permitsRetry = true
  attempts : s.attempts.Pairwise Apart

/-- What the checks of an attempt say of its number, and of the attempts before it. -/
theorem attemptMismatch_eq_false {action : ActionContractV1}
    {reservation : ExecutionReservationRecordV1} {earlier : List ExecutionAttemptRecordV1} {n : Nat}
    {attempt : ExecutionAttemptRecordV1}
    (h : attemptMismatch action reservation earlier n attempt = false) :
    attempt.attempt = n ∧ ∀ other ∈ earlier, Apart other attempt := by
  simp only [attemptMismatch, Bool.or_eq_false_iff, decide_eq_false_iff_not, not_not,
    List.any_eq_false, decide_eq_true_eq] at h
  have hproofs : ∀ other ∈ earlier, other.proofId ≠ attempt.proofId := by tauto
  have hnonces : ∀ other ∈ earlier, other.proofNonce ≠ attempt.proofNonce := by tauto
  have hauthorizations : ∀ other ∈ earlier,
      other.authorization.authorizationId ≠ attempt.authorization.authorizationId := by tauto
  refine ⟨by tauto, fun other hother => ?_⟩
  exact ⟨hproofs other hother, hnonces other hother, hauthorizations other hother⟩

section OneTime

variable [Crypto] [FloatText]
variable {records : List HumanCenteredContractSnapshotV1}

/-! ### One snapshot -/

/-- The identities of the attempts of a reservation: they are numbered, and are apart from each
other and from those before. -/
theorem IdentitiesOk.apart {action : ActionContractV1} {reservation : ExecutionReservationRecordV1}
    {earlier attempts : List ExecutionAttemptRecordV1} {index : Nat}
    (h : IdentitiesOk action reservation earlier index attempts) :
    attempts.map (·.attempt) = List.range' (index + 1) attempts.length ∧
      (∀ a ∈ earlier, ∀ a' ∈ attempts, Apart a a') ∧ attempts.Pairwise Apart := by
  induction attempts generalizing earlier index with
  | nil =>
    refine ⟨rfl, ?_, .nil⟩
    intro a _ a' ha'
    cases ha'
  | cons attempt attempts ih =>
    obtain ⟨⟨-, -, -, hmismatch⟩, hrest⟩ := h
    obtain ⟨hnumbered, hearlier, hpairwise⟩ := ih hrest
    obtain ⟨hnumber, happart⟩ := attemptMismatch_eq_false hmismatch
    refine ⟨?_, ?_, List.pairwise_cons.mpr ⟨?_, hpairwise⟩⟩
    · rw [List.map_cons, hnumber, hnumbered, List.length_cons, List.range'_succ]
    · intro a ha a' ha'
      rcases List.mem_cons.mp ha' with rfl | ha'
      · exact happart a ha
      · exact hearlier a (List.mem_append_left _ ha) a' ha'
    · exact hearlier attempt (List.mem_append_right _ (List.mem_singleton_self _))

/-- The reservations one after another: each is separate from those before it, and so are its
attempts. -/
theorem checkReservations_oneTime {before reservations : List ExecutionReservationRecordV1}
    (h : checkReservations records before reservations = .ok ()) :
    (∀ b ∈ before, ∀ r ∈ reservations, SeparateReservations b r) ∧
      reservations.Pairwise SeparateReservations ∧
      (∀ r ∈ reservations, r.attempts.map (·.attempt) = List.range' 1 r.attempts.length) ∧
      (∀ a ∈ before.flatMap (·.attempts), ∀ a' ∈ reservations.flatMap (·.attempts), Apart a a') ∧
      (reservations.flatMap (·.attempts)).Pairwise Apart := by
  induction reservations generalizing before with
  | nil =>
    refine ⟨?_, .nil, ?_, ?_, .nil⟩
    · intro b _ r hr
      cases hr
    · intro r hr
      cases hr
    · intro a _ a' ha'
      cases ha'
  | cons reservation reservations ih =>
    obtain ⟨⟨action, hid⟩, -, hrest⟩ := checkReservations_cons_eq_ok.mp h
    obtain ⟨hseparate, hpairwise, hnumbered, happart, happartPairwise⟩ := ih hrest
    obtain ⟨hnumber, hearlier, hattempts⟩ := hid.attempts.apart
    have hrepeats := hid.repeats
    simp only [reservationMismatch, not_or, List.any_eq_true, not_exists, decide_eq_true_eq,
      Bool.and_eq_true] at hrepeats
    obtain ⟨-, -, -, -, -, -, hactions, hscopes⟩ := hrepeats
    have hmem : reservation ∈ before ++ [reservation] :=
      List.mem_append_right _ (List.mem_singleton_self _)
    rw [List.flatMap_cons]
    refine ⟨?_, List.pairwise_cons.mpr ⟨hseparate reservation hmem, hpairwise⟩,
      List.forall_mem_cons.mpr ⟨hnumber, hnumbered⟩, ?_,
      List.pairwise_append.mpr ⟨hattempts, happartPairwise, ?_⟩⟩
    · intro b hb r hr
      rcases List.mem_cons.mp hr with rfl | hr
      · exact ⟨fun heq => hactions b ⟨hb, heq⟩,
          fun heq => hscopes b ⟨hb, ⟨heq.1, heq.2.1⟩, heq.2.2⟩⟩
      · exact hseparate b (List.mem_append_left _ hb) r hr
    · intro a ha a' ha'
      rcases List.mem_append.mp ha' with ha' | ha'
      · exact hearlier a ha a' ha'
      · refine happart a ?_ a' ha'
        rw [List.flatMap_append]
        exact List.mem_append_left _ ha
    · intro a ha a' ha'
      refine happart a ?_ a' ha'
      rw [List.flatMap_append]
      exact List.mem_append_right _ (by rwa [List.flatMap_singleton])

/-- **Every accepted snapshot is one-time.** -/
theorem oneTime_of_valid {s : HumanCenteredStoreSnapshotV1} (h : validateSnapshot s = .ok ()) :
    OneTime s := by
  obtain ⟨refs, h⟩ := validateSnapshot_eq_ok.mp h
  obtain ⟨-, hseparate, hnumbered, -, happart⟩ := checkReservations_oneTime h.reservations
  exact ⟨hseparate, hnumbered, fun r hr => (checkReservations_stands h.reservations r hr).retry,
    happart⟩

/-- The identifiers of the reservations are all different. -/
theorem checkReservations_ids {before reservations : List ExecutionReservationRecordV1}
    (h : checkReservations records before reservations = .ok ()) :
    (∀ b ∈ before, ∀ r ∈ reservations, b.reservationId ≠ r.reservationId) ∧
      UniqueBy (·.reservationId) reservations := by
  induction reservations generalizing before with
  | nil =>
    refine ⟨?_, .nil _⟩
    intro b _ r hr
    cases hr
  | cons reservation reservations ih =>
    obtain ⟨⟨action, hid⟩, -, hrest⟩ := checkReservations_cons_eq_ok.mp h
    obtain ⟨hbefore, hunique⟩ := ih hrest
    have hrepeats := hid.repeats
    simp only [reservationMismatch, not_or, List.any_eq_true, not_exists, decide_eq_true_eq,
      Bool.and_eq_true] at hrepeats
    refine ⟨?_, List.pairwise_cons.mpr ⟨?_, hunique⟩⟩
    · intro b hb r hr
      rcases List.mem_cons.mp hr with rfl | hr
      · exact fun heq => hrepeats.2.1 b ⟨hb, heq⟩
      · exact hbefore b (List.mem_append_left _ hb) r hr
    · exact hbefore reservation (List.mem_append_right _ (List.mem_singleton_self _))

theorem uniqueBy_reservationId {s : HumanCenteredStoreSnapshotV1}
    (h : validateSnapshot s = .ok ()) :
    UniqueBy (·.reservationId) s.executionReservations := by
  obtain ⟨refs, h⟩ := validateSnapshot_eq_ok.mp h
  exact (checkReservations_ids h.reservations).2

/-! ### Runs -/

/-- The input issues a permit for the request, and its attempt is stored. -/
def StoresPermit (s : FileStoreStateV1) (i : StoreInputV1)
    (verifiedRequest : VerifiedExecutionPermitRequestV1) : Prop :=
  i.persisted = true ∧ ∃ fresh planned, i.call = .issueExecutionPermit verifiedRequest fresh ∧
    i.call.plan i.clock s.snapshot = .ok planned ∧ planned.candidate.isSome = true

variable {s t : FileStoreStateV1} {i : StoreInputV1}
variable {verifiedRequest : VerifiedExecutionPermitRequestV1}

/-- What is issued was not issued before. -/
theorem StoresPermit.fresh (h : StoresPermit s i verifiedRequest) :
    ∀ other ∈ s.snapshot.attempts,
      other.proofId ≠ verifiedRequest.verifiedProof.claims.proofId ∧
      other.proofNonce ≠ verifiedRequest.verifiedProof.claims.nonce ∧
      other.authorization.authorizationId ≠ verifiedRequest.request.authorizationId := by
  obtain ⟨-, fresh, planned, hcall, hplan, hstored⟩ := h
  obtain ⟨sealed, hsealed⟩ := Option.isSome_iff_exists.mp hstored
  rw [hcall] at hplan
  obtain ⟨candidate, hchange, -⟩ := issueExecutionPermit_stores hplan hsealed
  cases hchange with
  | commit hcommit => cases hcommit
  | issue _ _ _ _ hfresh _ => exact hfresh
  | withdrawn hmark => cases hmark
  | expired hmark => cases hmark
  | advanced hmark => cases hmark

/-- The authorization of a valid request is the one it names. -/
theorem VerifiedExecutionPermitRequestV1.authorizationId_eq {action : ActionContractV1} {now : Nat}
    (h : verifiedRequest.validateAt action now = .ok ()) :
    verifiedRequest.request.authorizationId = verifiedRequest.authorization.authorizationId := by
  obtain ⟨⟨⟩, hrequest, -⟩ := bind_eq_ok.mp h
  simp only [ExecutionPermitRequestV1.validateFor, bind_eq_ok, exists_unit_eq_ok, rejectIf_eq_ok,
    not_or, not_not] at hrequest
  obtain ⟨-, -, _, -, -, -, hauthorization, -⟩ := hrequest
  exact hauthorization

/-- **What is issued is stored**: an attempt with its proof, its nonce and its authorization. -/
theorem StoresPermit.stored (h : StoresPermit s i verifiedRequest) (hstep : FileStoreStep s i t) :
    ∃ a ∈ t.snapshot.attempts,
      a.proofId = verifiedRequest.verifiedProof.claims.proofId ∧
      a.proofNonce = verifiedRequest.verifiedProof.claims.nonce ∧
      a.authorization.authorizationId = verifiedRequest.request.authorizationId := by
  obtain ⟨hpersisted, fresh, planned, hcall, hplan, hstored⟩ := h
  obtain ⟨sealed, hsealed⟩ := Option.isSome_iff_exists.mp hstored
  have hnext : t.snapshot = sealed := by
    rw [hstep.2.1, StoreInputV1.next, hplan]
    rcases planned with ⟨candidate, result⟩
    obtain rfl : candidate = some sealed := hsealed
    exact if_pos hpersisted
  rw [hcall] at hplan
  obtain ⟨candidate, hchange, hseal, -⟩ := issueExecutionPermit_stores hplan hsealed
  have hattempts : t.snapshot.attempts = candidate.attempts := by
    rw [hnext, (sealNextSnapshot_eq_ok.mp hseal).2]
    rfl
  rw [hattempts]
  cases hchange with
  | commit hcommit => cases hcommit
  | @issue _ _ trustedNow action _ _ _ _ _ hvalid _ hreserve =>
    refine ⟨nextAttempt verifiedRequest trustedNow, ?_, rfl, rfl,
      (VerifiedExecutionPermitRequestV1.authorizationId_eq hvalid).symm⟩
    rw [HumanCenteredStoreSnapshotV1.attempts, List.mem_flatMap]
    rcases reserveAttempt_eq_ok.mp hreserve with
      ⟨reservation, previous, hfind, -, -, -, -, -, -, rfl⟩ | ⟨-, -, -, rfl⟩
    · refine ⟨{ reservation with
        attempts := reservation.attempts ++ [nextAttempt verifiedRequest trustedNow] }, ?_, ?_⟩
      · exact mem_modifyFirst_of_find? hfind
      · exact List.mem_append_right _ (List.mem_singleton_self _)
    · exact ⟨_, List.mem_append_right _ (List.mem_singleton_self _), List.mem_singleton_self _⟩
  | withdrawn hmark => cases hmark
  | expired hmark => cases hmark
  | advanced hmark => cases hmark

omit [Crypto] [FloatText] in
/-- The attempts of an extended snapshot include those of the snapshot. -/
theorem SnapshotExtends.exists_attempt {s t : HumanCenteredStoreSnapshotV1}
    (h : SnapshotExtends s t)
    {a : ExecutionAttemptRecordV1} (ha : a ∈ s.attempts) :
    ∃ a' ∈ t.attempts, AttemptExtends a a' := by
  obtain ⟨r, hr, ha⟩ := List.mem_flatMap.mp ha
  obtain ⟨r', hr', hextends⟩ := h.reservations.exists_mem hr
  obtain ⟨a', ha', haa'⟩ := hextends.attempts.exists_mem ha
  exact ⟨a', List.mem_flatMap.mpr ⟨r', hr', ha'⟩, haa'⟩

/-- **Permits and reservations are one-time**, over every run: in each snapshot; from each snapshot
to each later one, where nothing is removed and no identity is changed; and between any two
issues. -/
theorem permits_are_one_time (h : Reachable FileStoreInit FileStoreStep s) :
    OneTime s.snapshot ∧
    (∀ is t, Run FileStoreStep s is t → SnapshotExtends s.snapshot t.snapshot) ∧
    ∀ i t is u j verifiedRequest verifiedRequest', FileStoreStep s i t → Run FileStoreStep t is u →
      StoresPermit s i verifiedRequest → StoresPermit u j verifiedRequest' →
      verifiedRequest.verifiedProof.claims.proofId ≠ verifiedRequest'.verifiedProof.claims.proofId ∧
      verifiedRequest.verifiedProof.claims.nonce ≠ verifiedRequest'.verifiedProof.claims.nonce ∧
      verifiedRequest.request.authorizationId ≠ verifiedRequest'.request.authorizationId := by
  have hvalid := valid_of_reachable h
  refine ⟨oneTime_of_valid hvalid, fun is t => run_extends hvalid, ?_⟩
  intro i t is u j request request' hstep hrun hfirst hsecond
  obtain ⟨a, ha, hproof, hnonce, hauthorization⟩ := hfirst.stored hstep
  -- the attempt of the first issue is still there when the second is made
  obtain ⟨a', ha', hextends⟩ := (run_extends (hstep.valid hvalid) hrun).exists_attempt ha
  obtain ⟨hproof', hnonce', hauthorization'⟩ := hsecond.fresh a' ha'
  have hidentity := hextends.identity
  refine ⟨?_, ?_, ?_⟩
  · rw [← hproof, show a.proofId = a'.proofId from congrArg (·.proofId) hidentity]
    exact hproof'
  · rw [← hnonce, show a.proofNonce = a'.proofNonce from congrArg (·.proofNonce) hidentity]
    exact hnonce'
  · rw [← hauthorization, show a.authorization = a'.authorization from
      congrArg (·.authorization) hidentity]
    exact hauthorization'

end OneTime

/-! ### A sample run

An action is committed, a permit for it is issued, delivered and dispatched.  After the lease is
over the dispatch is reported again, and a second permit is issued. -/

namespace StoreSample

def actionId : HumanCenteredIdV1 := ⟨0x10000000000040008000000000000005, by decide +kernel⟩
def firstProof : HumanCenteredIdV1 := ⟨0x10000000000040008000000000000011, by decide +kernel⟩
def secondProof : HumanCenteredIdV1 := ⟨0x10000000000040008000000000000012, by decide +kernel⟩
def firstNonce : Text := "1111111111111111111111111111111111111111111111111111111111111111"
def secondNonce : Text := "2222222222222222222222222222222222222222222222222222222222222222"

def signature : Text :=
  ⟨Text.bytes firstNonce ++ Text.bytes secondNonce⟩

def envelope (claims : ProofClaimsV1) : SignedProofEnvelopeV1 := ⟨claims, party, signature⟩

section Contracts

variable [Crypto] [FloatText]

def action (predecessor : Option HumanCenteredContractRefV1) : ActionContractV1 :=
  let draft : ActionContractV1 := {
    metadata := metadata .action actionId predecessor []
    decisionRef := none
    operationRef := party
    parameters := .object []
    parameterDigest := contractDigest "action-parameters-v1" (Value.object [])
    preconditions := []
    requiredAuthorityRefs := []
    authorizationState := .authorized
    impactLevel := .low
    reversible := true
    idempotencyKey := "key-1"
    verificationRequirements := ["done"]
    compensationOperations := [party]
    recordDigest := "" }
  { draft with recordDigest := contractDigest "action-contract-v1" draft.digestInput }

def actionRef : HumanCenteredContractRefV1 := refOf (.action (action none))

def authorization (attempt : Nat) : ExactActionAuthorizationV1 where
  authorizationId := BitVec.ofNat 128 (100 + attempt)
  actionRef := actionRef
  parameterDigest := (action none).parameterDigest
  actorRef := party
  decision := .approve
  scopeRef := party
  authorityContextDigest := contractDigest "authority-context-v1" context
  issuedAt := 1
  expiresAt := 90000
  schemaVersion := 1

def request (attempt : Nat) (nonce : Text) (leaseIssuedAt leaseUntil : Nat) :
    ExecutionPermitRequestV1 :=
  let draft : ExecutionPermitRequestV1 := {
    requestRef := party
    actionRef := actionRef
    authorizationId := (authorization attempt).authorizationId
    authorizationDigest := (authorization attempt).authorizationDigest
    providerRef := party
    ownerRef := party
    attempt
    leaseIssuedAt
    leaseUntil
    dispatchNonce := nonce
    idempotencyKey := "key-1"
    tenantRef := party
    scopeRef := party
    purposeRef := party
    policyRevisionRef := party
    requestDigest := "" }
  { draft with requestDigest := contractDigest "execution-permit-request-v1" draft.digestInput }

def verifiedRequest (attempt : Nat) (proofId : HumanCenteredIdV1) (nonce : Text)
    (leaseIssuedAt leaseUntil : Nat) : VerifiedExecutionPermitRequestV1 where
  request := request attempt nonce leaseIssuedAt leaseUntil
  authorization := authorization attempt
  verifiedProof := {
    verifiedAt := 15
    signedEnvelope := envelope {
      proofId
      proofKind := .executionPermit
      issuerRef := party
      subjectRef := party
      subjectDigest := (request attempt nonce leaseIssuedAt leaseUntil).requestDigest
      tenantRef := party
      scopeRef := party
      purposeRef := party
      policyRevisionRef := party
      issuedAt := 1
      expiresAt := 90000
      nonce
      schemaVersion := 1 } }

def firstRequest : VerifiedExecutionPermitRequestV1 :=
  verifiedRequest 1 firstProof firstNonce 20 100
def secondRequest : VerifiedExecutionPermitRequestV1 :=
  verifiedRequest 2 secondProof secondNonce 200 300

def firstPermit : ExecutionPermitV1 where
  reservationId := 77
  permitId := firstProof
  proofKeyId := party
  proofVerifiedAt := 15
  issuedAt := 30
  request := firstRequest.request

/-- The calls that lead to a dispatched attempt. -/
def toDispatched : List (Nat × StoreCallV1) := [
  (10, .commit (.action (action none))),
  (30, .issueExecutionPermit firstRequest 77),
  (40, .markExecutionPermitDelivered firstPermit),
  (50, .markExecutionDispatched firstPermit)]

/-- The dispatch reported again, after the lease. -/
def lateMark : Nat × StoreCallV1 := (120, .markExecutionDispatched firstPermit)

def secondIssue : Nat × StoreCallV1 := (210, .issueExecutionPermit secondRequest 78)

/-- A call that is stored, at its time. -/
def taken (call : Nat × StoreCallV1) : StoreInputV1 := ⟨call.2, some call.1, true⟩

theorem next_taken {current next : HumanCenteredStoreSnapshotV1} {now : Nat} {call : StoreCallV1}
    (h : stored current now call = some next) : (taken (now, call)).next current = next := by
  unfold stored at h
  unfold StoreInputV1.next taken
  dsimp only
  split at h
  case h_1 planned hplan =>
    rw [hplan]
    rcases planned with ⟨candidate, result⟩
    obtain rfl : candidate = some next := h
    rfl
  case h_2 => cases h

/-- Calls in the order of their times lead to what they store. -/
theorem run_of_storedAll {current last : HumanCenteredStoreSnapshotV1} (time : Nat)
    (calls : List (Nat × StoreCallV1)) (h : storedAll current calls = some last)
    (htimes : (time :: calls.map Prod.fst).IsChain (· ≤ ·)) :
    Run FileStoreStep ⟨current, time⟩ (calls.map taken)
      ⟨last, (calls.map Prod.fst).getLastD time⟩ := by
  induction calls generalizing current time with
  | nil =>
    obtain rfl := Option.some.inj h
    exact .nil _
  | cons call calls ih =>
    obtain ⟨now, call⟩ := call
    obtain ⟨next, hnext, hrest⟩ := Option.bind_eq_some_iff.mp h
    obtain ⟨hle, hchain⟩ := List.isChain_cons_cons.mp htimes
    refine .cons (t := ⟨next, now⟩) ⟨?_, (next_taken hnext).symm, rfl⟩ ?_
    · intro time' htime
      rw [← Option.some.inj htime]
      exact hle
    · rw [List.map_cons, List.getLastD_cons]
      exact ih now hrest hchain

theorem storedAll_append {current last : HumanCenteredStoreSnapshotV1}
    (calls more : List (Nat × StoreCallV1)) (h : storedAll current (calls ++ more) = some last) :
    ∃ middle, storedAll current calls = some middle ∧ storedAll middle more = some last := by
  induction calls generalizing current with
  | nil => exact ⟨current, rfl, h⟩
  | cons call calls ih =>
    obtain ⟨next, hnext, hrest⟩ := Option.bind_eq_some_iff.mp h
    obtain ⟨middle, hmiddle, hlast⟩ := ih hrest
    exact ⟨middle, Option.bind_eq_some_iff.mpr ⟨next, hnext, hmiddle⟩, hlast⟩

theorem storesPermit_taken (time : Nat) {current next : HumanCenteredStoreSnapshotV1} {now : Nat}
    {verifiedRequest : VerifiedExecutionPermitRequestV1} {fresh : Uuid}
    (h : stored current now (.issueExecutionPermit verifiedRequest fresh) = some next) :
    StoresPermit ⟨current, time⟩ (taken (now, .issueExecutionPermit verifiedRequest fresh))
      verifiedRequest := by
  unfold stored at h
  split at h
  case h_1 planned hplan => exact ⟨rfl, fresh, planned, rfl, hplan, Option.isSome_of_eq_some h⟩
  case h_2 => cases h

/-- The run of the sample, whose last snapshot has two attempts. -/
def retriedTwice : Bool :=
  (storedAll .empty (toDispatched ++ [lateMark, secondIssue])).any fun last =>
    last.attempts.length = 2

end Contracts

set_option maxRecDepth 20000 in
theorem retriedTwice_true : @retriedTwice Sample.crypto floatText = true := by
  decide +kernel

end StoreSample

/-- Two permits are issued in the sample run, with proofs of their own. -/
theorem permits_are_one_time_sample : let _ := Sample.crypto
    let _ := StoreSample.floatText
    ∃ s i t is u j, Reachable FileStoreInit FileStoreStep s ∧
      StoresPermit s i StoreSample.firstRequest ∧ FileStoreStep s i t ∧ Run FileStoreStep t is u ∧
      StoresPermit u j StoreSample.secondRequest ∧
      StoreSample.firstRequest.verifiedProof.claims.proofId
        ≠ StoreSample.secondRequest.verifiedProof.claims.proofId := by
  intro crypto floatText
  have hsample := StoreSample.retriedTwice_true
  obtain ⟨last, hall, -⟩ := (Option.any_eq_true _ _).mp hsample
  obtain ⟨first, hfirst, hall⟩ := Option.bind_eq_some_iff.mp hall
  obtain ⟨second, hsecond, hall⟩ := Option.bind_eq_some_iff.mp hall
  obtain ⟨third, hthird, hall⟩ := StoreSample.storedAll_append
    [(40, .markExecutionPermitDelivered StoreSample.firstPermit),
      (50, .markExecutionDispatched StoreSample.firstPermit), StoreSample.lateMark]
    [StoreSample.secondIssue] hall
  obtain ⟨fourth, hfourth, -⟩ := Option.bind_eq_some_iff.mp hall
  have hstart : Reachable FileStoreInit FileStoreStep ⟨first, 10⟩ := by
    refine ⟨⟨.empty, 0⟩, _, ⟨rfl, rfl⟩, StoreSample.run_of_storedAll 0
      [(10, .commit (.action (StoreSample.action none)))] (Option.bind_eq_some_iff.mpr
      ⟨first, hfirst, rfl⟩) (by decide)⟩
  have hissue := StoreSample.run_of_storedAll 10
    [(30, .issueExecutionPermit StoreSample.firstRequest 77)]
    (Option.bind_eq_some_iff.mpr ⟨second, hsecond, rfl⟩) (by decide)
  have hrest := StoreSample.run_of_storedAll 30 _ hthird (by decide)
  rcases hissue with _ | ⟨hstep, hnil⟩
  cases hnil
  have hstores := StoreSample.storesPermit_taken 10 hsecond
  have hstores' := StoreSample.storesPermit_taken 120 hfourth
  exact ⟨_, _, _, _, _, _, hstart, hstores, hstep, hrest, hstores',
    ((permits_are_one_time hstart).2.2 _ _ _ _ _ _ _ hstep hrest hstores hstores').1⟩

end Idr
