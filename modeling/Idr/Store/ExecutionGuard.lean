/-
Idr/Store/ExecutionGuard.lean

The database's own table of execution states, against the evaluator.

The migrations install a relation between the old and the new state of an
execution, and the update guards of the reservation and of its attempt
raise when a change is not in it.  The evaluator never looks at that
relation.  `execution_guard_agrees` says for which steps the two agree: of
the steps the evaluator accepts, the guard refuses exactly those of
`GuardRefuses`, which withdraw an execution that is expired or awaits its
reconciliation.

Which pairs can occur at all is a matter of what is reachable
(`ExecutionShape`): an execution starts with its permit, and an attempt
with a result belongs to a closed run.
-/
import Idr.TrustChain.InFlight

namespace Idr

/-! ### The guard -/

/-- The purposes an attestation is opened for. -/
inductive AttestationPurposeV7
  | commandTransition
  | governanceProofRevocation
  | checkpointPublication
  | outboxDelivery
  deriving DecidableEq

def AttestationPurposeV7.wireName : AttestationPurposeV7 → Text
  | commandTransition => "command_transition"
  | governanceProofRevocation => "governance_proof_revocation"
  | checkpointPublication => "checkpoint_publication"
  | outboxDelivery => "outbox_delivery"

/-- The events of a revocation start with these words. -/
def revocationEventPrefix : Text := "action_admission_proof_revoked_"

/-- The purpose under which a transition is committed. -/
def attestationPurpose (eventType : Text) : AttestationPurposeV7 :=
  if eventType.startsWith revocationEventPrefix = true then .governanceProofRevocation
  else .commandTransition

/-- `idr_execution_state_transition_allowed_v5`; `attestation` is the purpose of the active
attestation, if there is one. -/
def idrExecutionStateTransitionAllowedV5 (attestation : Option AttestationPurposeV7)
    (oldState newState : ExecutionAggregateStateV1) : Bool :=
  if oldState = newState
      ∨ (oldState = .reservationCreated ∧ newState = .permitIssued)
      ∨ (oldState = .permitIssued ∧ newState ∈ [.permitDelivered, .expired, .cancelled])
      ∨ (oldState = .permitDelivered ∧ newState ∈ [.dispatchStarted, .expired, .cancelled])
      ∨ (oldState ∈ [.dispatchStarted, .awaitingProvider] ∧
          newState ∈ [.reconciliationRequired, .succeeded, .failed, .rejected, .compensated])
      ∨ (oldState = .reconciliationRequired ∧
          newState ∈ [.succeeded, .failed, .rejected, .compensated])
      ∨ (oldState ∈ [.failed, .rejected, .expired] ∧ newState = .permitIssued) then
    true
  else if newState = .reconciliationRequired then
    attestation = some .governanceProofRevocation
  else
    false

/-! ### The purpose of a step -/

/-- The event of an arm is not one of a revocation. -/
def NotRevocation (r : ArmResultV1) : Prop := r.eventType.startsWith revocationEventPrefix = false

theorem notRevocation_mk {p : IdrRunProjectionV1} {record : Option AuthoritativeRecordV1}
    {event : Text} (h : event.startsWith revocationEventPrefix = false) :
    NotRevocation ⟨p, record, event⟩ := h

theorem withdrawnEvent_notRevocation {state : ExecutionAggregateStateV1} {event : Text}
    (h : withdrawnEvent state = .ok event) : event.startsWith revocationEventPrefix = false := by
  cases state <;> simp only [withdrawnEvent, Except.ok.injEq, reduceCtorEq] at h <;> subst h <;>
    decide

section Steps

variable [Crypto] {p : IdrRunProjectionV1} {i : RunInputV1} {t : IdrTransitionV1}

theorem evaluateCommand_notRevocation {fresh : FreshIdsV1} {command : IdrCommandEnvelopeV1}
    {now : Nat} {proofs : List VerifiedProductionProofV1} :
    Ensures (evaluateCommand fresh p command now proofs) NotRevocation := by
  unfold evaluateCommand
  -- every arm ends in a literal event, or in the event of a withdrawal
  split <;> simp only [evaluateStartRun, evaluateRecordContext, evaluateRecordIntent,
    evaluateRecordDecision, evaluateRecordTurn, evaluateRecordResponse, evaluateConsumeResponseSend,
    evaluateRecordAction, evaluateAdmitAction, evaluateReserveExecution, evaluateRecoverPermit,
    evaluateDeliverPermit, evaluateStartDispatch, evaluatePermitStep,
    evaluateCommitExecutionReceipt, evaluateReconcileExecution, evaluateExpireExecutionLease,
    evaluateInvalidateRecord, evaluateRecordOutcome, evaluateProposeHumanModelCandidate,
    evaluateRecordHumanModelPromotion, evaluatePromoteHumanModelAssertion,
    evaluateCorrectHumanModelAssertion, evaluateCancelRun]
  all_goals
    with_reducible repeat' first
      | exact ensures_error
      | refine ensures_bind fun _ _ => ?_
      | refine ensures_ite (fun _ => ?_) (fun _ => ?_)
      | rw [ensures_ok]
      | exact notRevocation_mk (withdrawnEvent_notRevocation ‹_›)
      | exact notRevocation_mk (by decide)

/-- **The purpose of a step** says whether it is a revocation. -/
theorem attestationPurpose_runTransition (h : runTransition p i = .ok t) :
    attestationPurpose t.eventType =
      if i.revokes = true then .governanceProofRevocation else .commandTransition := by
  obtain ⟨-, h⟩ := runTransition_eq_ok.mp h
  split at h
  case isTrue hrevokes =>
    simp only [revokedTransition, actionAdmissionProofFailure, bind_eq_ok, Except.ok.injEq] at h
    obtain ⟨admission, -, closure, -, t₀, ⟨admission', -, version, -, sequence, -, rfl⟩, rfl⟩ := h
    rw [if_pos hrevokes, attestationPurpose, if_pos]
    dsimp only
    split <;> decide
  case isFalse hrevokes =>
    have hevent : t.eventType.startsWith revocationEventPrefix = false := by
      simp only [evaluatedTransition, bind_eq_ok] at h
      obtain ⟨t₀, ht₀, h⟩ := h
      obtain ⟨-, r, hr, -, rfl⟩ := evaluateAuthoritativeTransitionV1_eq_ok ht₀
      have hr := evaluateCommand_notRevocation r hr
      repeat' split at h
      all_goals
        simp only [bind_eq_ok, Except.ok.injEq] at h
        first | subst h | obtain ⟨closure, -, rfl⟩ := h
        exact hr
    rw [if_neg hrevokes, attestationPurpose, if_neg (by simp [hevent])]

end Steps

/-! ### What is reachable -/

/-- The states of an attempt with a result. -/
def HasResult (state : ExecutionAggregateStateV1) : Prop :=
  state = .succeeded ∨ state = .failed ∨ state = .rejected ∨ state = .compensated

/-- The states of a run that a receipt has closed. -/
def Settled (run : IdrRunStateV1) : Prop :=
  run = .succeeded ∨ run = .failed ∨ run = .rejected

/-- An execution starts with its permit, and an attempt with a result belongs to a closed run. -/
def ExecutionShape (run : IdrRunStateV1) (execution : Option ExecutionProjectionV1) : Prop :=
  ∀ e, execution = some e →
    e.state ≠ .none ∧ e.state ≠ .reservationCreated ∧ (HasResult e.state → Settled run)

/-- Besides the shape, the reservation of an execution is among the identifiers drawn. -/
def ExecutionInv (s : RunStateV1) : Prop :=
  ExecutionShape s.projection.state s.projection.execution ∧
    ∀ e, s.projection.execution = some e → e.reservationId ∈ s.drawn

theorem not_hasResult_withdrawn (s : ExecutionAggregateStateV1) :
    ¬ HasResult (withdrawnState s) := by
  cases s <;> simp [withdrawnState, HasResult]

theorem hasResult_superseded {s : ExecutionAggregateStateV1} :
    HasResult (supersededState s) ↔ HasResult s := by
  cases s <;> simp [supersededState, withdrawnState, HasResult,
    ExecutionAggregateStateV1.isTerminal]

theorem hasResult_invalidated {s : ExecutionAggregateStateV1} :
    HasResult (invalidatedState s) ↔ HasResult s := by
  cases s <;> simp [invalidatedState, HasResult, ExecutionAggregateStateV1.isTerminal]

theorem receiptRunState_settled {state : ExecutionAggregateStateV1} {run : IdrRunStateV1}
    (h : receiptRunState state = .ok run) : Settled run := by
  cases state <;> simp only [receiptRunState, Except.ok.injEq, reduceCtorEq] at h <;> subst h <;>
    simp [Settled]

/-- A closed run admits no command that could reopen or cancel it. -/
theorem Settled.not_allowed {run : IdrRunStateV1} {c : IdrCommandV1} (h : Settled run)
    (hallowed : commandStateAllowed run c = true) : c.mayKeep = true := by
  rcases h with rfl | rfl | rfl <;> cases c <;>
    simp_all [commandStateAllowed, IdrCommandV1.mayKeep]

section Effects

variable {fresh : FreshIdsV1} {now : Nat} {p : IdrRunProjectionV1} {c : IdrCommandV1}
  {run : IdrRunStateV1} {after : Option ExecutionProjectionV1} {revokes : Bool}

/-- **What a command does to the shape.** -/
theorem LifecycleEffect.shape (h : LifecycleEffect fresh now p c run after)
    (hallowed : commandStateAllowed p.state c = true)
    (hp : ExecutionShape p.state p.execution) : ExecutionShape run after := by
  -- an execution in another state than before is none of a closed run
  have hmoved : ∀ e s, p.execution = some e → s ≠ .none → s ≠ .reservationCreated →
      ¬ HasResult s → ExecutionShape run (some (e.withState s)) := by
    rintro e s - hnone hcreated hresult e' ⟨⟩
    exact ⟨hnone, hcreated, fun h => absurd h hresult⟩
  -- a command that closes or reopens the run finds no result
  have hopen : c.mayKeep = false → ∀ e, p.execution = some e → ¬ HasResult e.state := by
    intro hc e he hresult
    simp [((hp e he).2.2 hresult).not_allowed hallowed] at hc
  cases h with
  | kept => exact hp
  | started | cancelled =>
    intro e he
    exact ⟨(hp e he).1, (hp e he).2.1, fun h => absurd h (hopen rfl e he)⟩
  | blocked intent hblocks =>
    intro e he
    have hc : IdrCommandV1.mayKeep (.recordIntent intent) = false := by
      simp [IdrCommandV1.mayKeep, hblocks]
    exact ⟨(hp e he).1, (hp e he).2.1, fun h => absurd h (hopen hc e he)⟩
  | superseded =>
    intro e' he'
    obtain ⟨e, he, rfl⟩ := Option.map_eq_some_iff.mp he'
    refine ⟨?_, ?_, fun h => (hp e he).2.2 (hasResult_superseded.mp h)⟩
    · cases e.state <;>
        simp [supersededState, withdrawnState, ExecutionAggregateStateV1.isTerminal]
    · cases e.state <;>
        simp [supersededState, withdrawnState, ExecutionAggregateStateV1.isTerminal]
  | reserved _ hstate =>
    rintro e ⟨⟩
    simp [hstate, HasResult]
  | @delivered e he => exact hmoved e _ he (by simp) (by simp) (by simp [HasResult])
  | @dispatched e he => exact hmoved e _ he (by simp) (by simp) (by simp [HasResult])
  | @withdrawn _ e _ he =>
    refine hmoved e _ he ?_ ?_ (not_hasResult_withdrawn _) <;>
      cases e.state <;> simp [withdrawnState]
  | @expired _ e _ he => exact hmoved e _ he (by simp) (by simp) (by simp [HasResult])
  | @overdue e he => exact hmoved e _ he (by simp) (by simp) (by simp [HasResult])
  | @received e _ state _ he _ hstate hrun =>
    rintro e' ⟨⟩
    refine ⟨?_, ?_, fun _ => receiptRunState_settled hrun⟩ <;>
      rcases receiptTerminalState_eq_ok hstate with rfl | rfl | rfl | rfl <;> simp
  | invalidated recordRef =>
    intro e' he'
    obtain ⟨e, he, rfl⟩ := Option.map_eq_some_iff.mp he'
    split
    · refine ⟨?_, ?_, fun h => absurd h (not_hasResult_withdrawn _)⟩ <;>
        cases e.state <;> simp [withdrawnState]
    · exact ⟨(hp e he).1, (hp e he).2.1, fun h => absurd h (hopen rfl e he)⟩

/-- A closure keeps the shape. -/
theorem ExecutionShape.closeAll {execution : Option ExecutionProjectionV1}
    (h : ExecutionShape run execution) (closure : List AuthoritativeRecordRefV1) :
    ExecutionShape run (execution.map (Idr.closeAll closure)) := by
  intro e' he'
  obtain ⟨e, he, rfl⟩ := Option.map_eq_some_iff.mp he'
  obtain ⟨hnone, hcreated, hresult⟩ := h e he
  unfold Idr.closeAll
  split
  · refine ⟨?_, ?_, fun h => hresult (hasResult_invalidated.mp h)⟩ <;>
      cases e.state <;>
        simp [invalidatedState, ExecutionAggregateStateV1.isTerminal]
  · exact ⟨hnone, hcreated, hresult⟩

theorem RunEffect.shape (h : RunEffect fresh now p c revokes run after)
    (hp : ExecutionShape p.state p.execution) : ExecutionShape run after := by
  cases h with
  | evaluated hallowed hlife => exact hlife.shape hallowed hp
  | @closed run execution _ _ closure hallowed hlife =>
    intro e he
    obtain ⟨hnone, hcreated, hresult⟩ := (hlife.shape hallowed hp).closeAll closure e he
    refine ⟨hnone, hcreated, fun h => ?_⟩
    have hstate : e.state ≠ .reconciliationRequired := by
      rintro hstate
      simp [hstate, HasResult] at h
    simpa [closedRunState, he, hstate] using hresult h
  | @invalidated run execution recordRef reasonRef closure hc hallowed hlife =>
    have hshape := hlife.shape hallowed hp
    have hrun : run = .invalidated := by
      subst hc
      cases hlife with
      | kept _ hkeep => simp [IdrCommandV1.mayKeep] at hkeep
      | reserved hreserves => simp [IdrCommandV1.reserves] at hreserves
      | withdrawn hpermit => simp at hpermit
      | expired hpermit => simp at hpermit
      | invalidated => rfl
    exact hrun ▸ hshape.closeAll closure
  | revoked =>
    intro e' he'
    obtain ⟨e, he, rfl⟩ := Option.map_eq_some_iff.mp he'
    unfold revokedState
    split <;> simp [HasResult]

/-! ### Where the guard refuses -/

/-- The commands that move a permit on, or withdraw it. -/
def IdrCommandV1.movesPermit : IdrCommandV1 → Bool
  | .deliverPermit _ _ | .startDispatch _ _ => true
  | _ => false

/-- The guard refuses what the command does to the execution: a revocation of an expired one, the
cancellation of one that awaits its reconciliation, a permit step of an expired one. -/
def CommandRefused (revokes : Bool) (e : ExecutionProjectionV1) (c : IdrCommandV1) : Prop :=
  if revokes = true then e.state = .expired
  else e.state = .reconciliationRequired ∧ CommandAbandons e c
    ∨ e.state = .expired ∧ c.movesPermit = true

instance (revokes : Bool) (e : ExecutionProjectionV1) (c : IdrCommandV1) :
    Decidable (CommandRefused revokes e c) := by
  unfold CommandRefused
  infer_instance

/-- The guard refuses the step. -/
def GuardRefuses (s : RunStateV1) (i : RunInputV1) : Prop :=
  ∃ e, s.projection.execution = some e ∧ CommandRefused i.revokes e i.command.command

/-- The guard at a step that is no revocation. -/
def Permitted (oldState newState : ExecutionAggregateStateV1) : Prop :=
  idrExecutionStateTransitionAllowedV5 (some .commandTransition) oldState newState = true

instance (oldState newState : ExecutionAggregateStateV1) :
    Decidable (Permitted oldState newState) := by
  unfold Permitted
  infer_instance

theorem Permitted.refl (s : ExecutionAggregateStateV1) : Permitted s s := by
  simp [Permitted, idrExecutionStateTransitionAllowedV5]

/-- What a closure makes of an execution alone is permitted. -/
theorem permitted_invalidatedState {state : ExecutionAggregateStateV1} (hnone : state ≠ .none)
    (hcreated : state ≠ .reservationCreated) : Permitted state (invalidatedState state) := by
  cases state <;> first | contradiction | decide

theorem invalidatedState_superseded (s : ExecutionAggregateStateV1) :
    invalidatedState (supersededState s) = supersededState s := by
  cases s <;> rfl

theorem invalidatedState_withdrawn (s : ExecutionAggregateStateV1) :
    invalidatedState (withdrawnState s) = withdrawnState s := by
  cases s <;> rfl

/-- A command that moves no permit leaves the state as it is, or one that a closure leaves alone. -/
def Closable (c : IdrCommandV1) (old new : ExecutionAggregateStateV1) : Prop :=
  c.movesPermit = true ∨ new = old ∨ invalidatedState new = new

/-- The same reservation, and the same attempt of it. -/
def SameAttempt (e e' : ExecutionProjectionV1) : Prop :=
  e'.reservationId = e.reservationId ∧ e'.attempt = e.attempt

theorem mayKeep_not_refused {e : ExecutionProjectionV1} (h : c.mayKeep = true) :
    ¬ CommandRefused false e c := by
  have hmoves : c.movesPermit = false := by
    cases c <;> simp_all [IdrCommandV1.mayKeep, IdrCommandV1.movesPermit]
  simp [CommandRefused, hmoves, (mayKeep_not_abandons h e).1]

/-- A permit command or a new action finds no attempt with a result. -/
theorem not_hasResult_of_allowed {e : ExecutionProjectionV1}
    (hp : ExecutionShape p.state p.execution) (he : p.execution = some e)
    (hallowed : commandStateAllowed p.state c = true) (hc : c.mayKeep = false) :
    ¬ HasResult e.state := by
  intro hresult
  simp [((hp e he).2.2 hresult).not_allowed hallowed] at hc

/-- **What the guard makes of a command.** -/
theorem LifecycleEffect.guard {e e' : ExecutionProjectionV1}
    (h : LifecycleEffect fresh now p c run after)
    (hp : ExecutionShape p.state p.execution) (hallowed : commandStateAllowed p.state c = true)
    (he : p.execution = some e) (he' : after = some e') (hsame : SameAttempt e e')
    (hfresh : e.reservationId ≠ fresh.reservationId) :
    (Permitted e.state e'.state ↔ ¬ CommandRefused false e c) ∧
      Closable c e.state e'.state := by
  obtain ⟨hnone, hcreated, -⟩ := hp e he
  have hunchanged : e' = e → ¬ CommandRefused false e c →
      (Permitted e.state e'.state ↔ ¬ CommandRefused false e c) ∧
        Closable c e.state e'.state := by
    rintro rfl hno
    exact ⟨iff_of_true (.refl _) hno, .inr (.inl rfl)⟩
  cases h with
  | kept _ hc =>
    obtain rfl : e' = e := by simpa [he] using he'.symm
    exact hunchanged rfl (mayKeep_not_refused hc)
  | started | blocked | cancelled =>
    obtain rfl : e' = e := by simpa [he] using he'.symm
    exact hunchanged rfl (by simp [CommandRefused, CommandAbandons, IdrCommandV1.movesPermit])
  | superseded =>
    obtain rfl : e' = e.withState (supersededState e.state) := by simpa [he] using he'.symm
    refine ⟨?_, .inr (.inr (invalidatedState_superseded _))⟩
    simp only [withState_state, CommandRefused, CommandAbandons, IdrCommandV1.movesPermit,
      Bool.false_eq_true, if_false, and_true, and_false, or_false]
    cases hstate : e.state <;> first | contradiction | decide
  | reserved _ _ _ _ hids =>
    cases he'
    rcases hids with hid | ⟨last, hlast, -, hattempt⟩
    · exact absurd (hsame.1.symm.trans hid) hfresh
    · obtain rfl : last = e := by simpa [he] using hlast.symm
      simp [hsame.2] at hattempt
  | @delivered e₀ he₀ _ hstate =>
    obtain rfl : e₀ = e := by simpa [he] using he₀.symm
    cases he'
    refine ⟨iff_of_true ?_ (by simp [CommandRefused, hstate]), .inl rfl⟩
    rw [withState_state, hstate]
    decide
  | @dispatched e₀ he₀ _ hstate =>
    obtain rfl : e₀ = e := by simpa [he] using he₀.symm
    cases he'
    refine ⟨iff_of_true ?_ (by simp [CommandRefused, hstate]), .inl rfl⟩
    rw [withState_state, hstate]
    decide
  | @withdrawn _ e₀ hc he₀ =>
    obtain rfl : e₀ = e := by simpa [he] using he₀.symm
    cases he'
    have hmoves : c.movesPermit = true ∧ CommandAbandons e₀ c ∧ c.mayKeep = false := by
      rcases hc with rfl | rfl <;> exact ⟨rfl, trivial, rfl⟩
    have hresult := not_hasResult_of_allowed hp he hallowed hmoves.2.2
    refine ⟨?_, .inl hmoves.1⟩
    simp only [withState_state, CommandRefused, hmoves, Bool.false_eq_true, if_false, and_true]
    cases hstate : e₀.state <;> first | contradiction | decide | simp [HasResult, hstate] at hresult
  | @expired _ e₀ hc he₀ _ hopen =>
    obtain rfl : e₀ = e := by simpa [he] using he₀.symm
    cases he'
    have hno : ¬ CommandRefused false e₀ c := by
      rcases hc with rfl | rfl <;>
        simp [CommandRefused, CommandAbandons, IdrCommandV1.movesPermit]
    refine ⟨iff_of_true ?_ hno, .inr (.inr rfl)⟩
    rcases hopen with hstate | hstate <;> rw [withState_state, hstate] <;> decide
  | @overdue e₀ he₀ _ hstate =>
    obtain rfl : e₀ = e := by simpa [he] using he₀.symm
    cases he'
    refine ⟨iff_of_true ?_ ?_, .inr (.inr rfl)⟩
    · rcases hstate with hstate | hstate <;> rw [withState_state, hstate] <;> decide
    · simp [CommandRefused, CommandAbandons, IdrCommandV1.movesPermit]
  | @received e₀ receipt state _ he₀ hflight hstate =>
    obtain rfl : e₀ = e := by simpa [he] using he₀.symm
    cases he'
    refine ⟨iff_of_true ?_ ?_, .inr (.inr ?_)⟩
    · rw [withState_state]
      rcases hflight with hold | hold | hold <;> rw [hold] <;>
        rcases receiptTerminalState_eq_ok hstate with rfl | rfl | rfl | rfl <;> decide
    · simp [CommandRefused, CommandAbandons, IdrCommandV1.movesPermit]
    · rcases receiptTerminalState_eq_ok hstate with rfl | rfl | rfl | rfl <;> rfl
  | invalidated recordRef reasonRef =>
    simp only [he, Option.map_some, Option.some.injEq] at he'
    by_cases hrecord : e.actionRef.recordId = recordRef.recordId ∧ e.state.isTerminal = false
    · obtain rfl : e' = e.withState (withdrawnState e.state) := by simpa [hrecord] using he'.symm
      have hterminal := hrecord.2
      refine ⟨?_, .inr (.inr (invalidatedState_withdrawn _))⟩
      simp only [withState_state, CommandRefused, CommandAbandons, IdrCommandV1.movesPermit,
        hrecord.1, Bool.false_eq_true, if_false, and_true, and_false, or_false]
      cases hstate : e.state <;> first
        | contradiction
        | decide
        | simp [hstate, ExecutionAggregateStateV1.isTerminal] at hterminal
    · obtain rfl : e' = e := by simpa [hrecord] using he'.symm
      refine hunchanged rfl ?_
      rintro (⟨hstate, hid⟩ | ⟨-, hmoves⟩)
      · exact hrecord ⟨hid, by rw [hstate]; rfl⟩
      · cases hmoves

/-- **What the guard makes of a step.** -/
theorem RunEffect.guard {e e' : ExecutionProjectionV1}
    (h : RunEffect fresh now p c revokes run after)
    (hp : ExecutionShape p.state p.execution) (he : p.execution = some e) (he' : after = some e')
    (hsame : SameAttempt e e') (hfresh : e.reservationId ≠ fresh.reservationId) :
    idrExecutionStateTransitionAllowedV5
        (some (if revokes = true then .governanceProofRevocation else .commandTransition))
        e.state e'.state = true ↔
      ¬ CommandRefused revokes e c := by
  obtain ⟨hnone, hcreated, -⟩ := hp e he
  -- a closure only follows a command that moves no permit
  have hclosed : ∀ {run execution} (closure : List AuthoritativeRecordRefV1),
      commandStateAllowed p.state c = true → LifecycleEffect fresh now p c run execution →
      c.movesPermit = false → execution.map (Idr.closeAll closure) = some e' →
      (Permitted e.state e'.state ↔ ¬ CommandRefused false e c) := by
    intro run execution closure hallowed hlife hmoves he'
    obtain ⟨e₀, he₀, rfl⟩ := Option.map_eq_some_iff.mp he'
    have hsame₀ : SameAttempt e e₀ := by
      rw [closeAll_withState] at hsame
      exact hsame
    obtain ⟨hguard, hclosable⟩ := hlife.guard hp hallowed he he₀ hsame₀ hfresh
    rw [← hguard]
    unfold Idr.closeAll
    split
    · rcases hclosable with h | hsame | hstable
      · simp [hmoves] at h
      · rw [withState_state, hsame]
        exact iff_of_true (permitted_invalidatedState hnone hcreated) (.refl _)
      · rw [withState_state, hstable]
    · rfl
  cases h with
  | evaluated hallowed hlife => exact (hlife.guard hp hallowed he he' hsame hfresh).1
  | closed closure hallowed hlife hkind =>
    refine hclosed closure hallowed hlife ?_ he'
    cases c <;> simp_all [IdrCommandV1.movesPermit, IdrCommandV1.expectedCandidateKind]
  | invalidated _ _ closure hc hallowed hlife =>
    exact hclosed closure hallowed hlife (by rw [hc]; rfl) he'
  | revoked =>
    obtain rfl : e' = e.withState (revokedState e.state) := by simpa [he] using he'.symm
    simp only [withState_state, CommandRefused, if_true]
    cases hstate : e.state <;> first | contradiction | decide

end Effects

/-! ### Evaluator and guard -/

section Runs

variable [Crypto]

theorem executionInv_step {s t : RunStateV1} {i : RunInputV1} (h : RunStep s i t)
    (hs : ExecutionInv s) : ExecutionInv t := by
  obtain ⟨-, -, hdrawn, transition, htransition, ht⟩ := runStep_eq_ok h
  have heffect := runTransition_effect htransition
  rw [← ht] at heffect
  refine ⟨heffect.shape hs.1, fun e' he' => ?_⟩
  rw [hdrawn, List.mem_append]
  rcases heffect.change with ⟨f, hmoved⟩ | ⟨-, -, next, hnext, -, -, -, hids⟩
  · rw [he'] at hmoved
    obtain ⟨e, he, rfl⟩ := Option.map_eq_some_iff.mp hmoved.symm
    exact .inr (hs.2 e he)
  · obtain rfl : next = e' := by simpa [he'] using hnext.symm
    rcases hids with hid | ⟨last, hlast, hid, -⟩
    · exact .inl (by simp [hid, FreshIdsV1.ids])
    · exact .inr (hid ▸ hs.2 last hlast)

/-- **An execution starts with its permit, and one with a result belongs to a closed run**, in
every reachable state. -/
theorem executionInv_reachable {s : RunStateV1} (h : Reachable RunInit RunStep s) :
    ExecutionInv s := by
  refine h.invariant ?_ fun s i t hs hstep => executionInv_step hstep hs
  rintro s ⟨trustDomain, environmentRef, runId, tenantRef, hs⟩
  refine ⟨fun e he => ?_, fun e he => ?_⟩ <;> simp [hs, IdrRunProjectionV1.pending] at he

/-- **Evaluator and guard agree** on every accepted step that keeps the attempt, except on those of
`GuardRefuses`, where they disagree. -/
theorem execution_guard_agrees {s : RunStateV1} {i : RunInputV1} {transition : IdrTransitionV1}
    {e e' : ExecutionProjectionV1} (hs : Reachable RunInit RunStep s)
    (henv : environmentAdmits s i) (h : runTransition s.projection i = .ok transition)
    (he : s.projection.execution = some e) (he' : transition.projection.execution = some e')
    (hsame : SameAttempt e e') :
    idrExecutionStateTransitionAllowedV5 (some (attestationPurpose transition.eventType))
        e.state e'.state = true ↔
      ¬ GuardRefuses s i := by
  have hinv := executionInv_reachable hs
  have hfresh : e.reservationId ≠ i.fresh.reservationId := by
    intro hid
    have hnew := henv.2.2
    simp only [FreshIdsV1.ids, List.all_cons, List.all_nil, Bool.and_eq_true,
      Bool.not_eq_true', List.contains_eq_mem, decide_eq_false_iff_not] at hnew
    exact hnew.2.2.1 (hid ▸ hinv.2 e he)
  rw [attestationPurpose_runTransition h,
    (runTransition_effect h).guard hinv.1 he he' hsame hfresh]
  simp [GuardRefuses, he]

omit [Crypto] in
/-- They agree on the sample run when its lease runs out. -/
theorem execution_guard_agrees_sample : ∃ s transition e e',
    @runTransition Sample.crypto s.projection (Sample.leaseExpires s) = .ok transition ∧
      s.projection.execution = some e ∧ transition.projection.execution = some e' ∧
      e.state = .dispatchStarted ∧ e'.state = .reconciliationRequired ∧
      idrExecutionStateTransitionAllowedV5 (some (attestationPurpose transition.eventType))
        e.state e'.state = true := by
  obtain ⟨s, is, e, -, t, -, hrun, he, hstate, -, ⟨ht, hoverdue⟩, -⟩ := sample_dispatched
  obtain ⟨henv, -, -, transition, htransition, hprojection⟩ := @runStep_eq_ok Sample.crypto _ _ _ ht
  obtain ⟨e', he', hstate'⟩ := Sample.executionIs_iff.mp hoverdue
  have hafter : transition.projection.execution = some e' := hprojection ▸ he'
  have hf : InFlight e.state := .inl hstate
  have hsame : SameAttempt e e' := by
    rcases @inFlight_step Sample.crypto _ _ _ _ ht he hf with ⟨-, h⟩ | ⟨-, h⟩
    · obtain rfl := Option.some.inj (he'.symm.trans h)
      exact ⟨rfl, rfl⟩
    · rw [he'] at h
      cases h <;> exact ⟨rfl, rfl⟩
  refine ⟨s, transition, e, e', htransition, he, hafter, hstate, hstate', ?_⟩
  refine (@execution_guard_agrees Sample.crypto s (Sample.leaseExpires s) transition e e'
    ⟨Sample.init, is, Sample.runInit_init, hrun.of_restrict⟩ henv htransition he hafter
      hsame).mpr ?_
  rintro ⟨e₀, he₀, hrefused⟩
  obtain rfl := Option.some.inj (he.symm.trans he₀)
  simp [CommandRefused, RunInputV1.revokes, Sample.leaseExpires, Sample.input, hstate] at hrefused

omit [Crypto] in
/-- They do not when a new action cancels the open reconciliation of the sample run: the evaluator
accepts the step, and the guard refuses the change it makes. -/
theorem execution_guard_disagrees :
    ¬ ∀ s i transition e e', Reachable RunInit (@RunStep Sample.crypto) s →
      environmentAdmits s i → @runTransition Sample.crypto s.projection i = .ok transition →
      s.projection.execution = some e → transition.projection.execution = some e' →
      SameAttempt e e' →
      idrExecutionStateTransitionAllowedV5 (some (attestationPurpose transition.eventType))
        e.state e'.state = true := by
  intro hagrees
  obtain ⟨s, is, -, -, t, r, hrun, -, -, -, ⟨ht, hoverdue⟩, hr, hcancelled⟩ := sample_dispatched
  obtain ⟨henv, -, -, transition, htransition, hprojection⟩ := @runStep_eq_ok Sample.crypto _ _ _ hr
  obtain ⟨e, he, hstate⟩ := Sample.executionIs_iff.mp hoverdue
  obtain ⟨e', he', hstate'⟩ := Sample.executionIs_iff.mp hcancelled
  have hreachable : Reachable RunInit (@RunStep Sample.crypto) t :=
    Reachable.snoc ⟨Sample.init, is, Sample.runInit_init, hrun.of_restrict⟩ ht
  have hf : InFlight e.state := .inr (.inr hstate)
  have hsame : SameAttempt e e' := by
    rcases @inFlight_step Sample.crypto _ _ _ _ hr he hf with ⟨-, h⟩ | ⟨-, h⟩
    · obtain rfl := Option.some.inj (he'.symm.trans h)
      exact ⟨rfl, rfl⟩
    · rw [he'] at h
      cases h <;> exact ⟨rfl, rfl⟩
  have hallowed :=
    hagrees t (Sample.actionReplaced t) transition e e' hreachable henv htransition he
    (hprojection ▸ he') hsame
  simp [hstate, hstate', idrExecutionStateTransitionAllowedV5] at hallowed

end Runs

end Idr
