/-
Idr/Orchestrator/Step.lean

The steps of the persistent orchestrator.

A step is asked to move to a state, with a condition to wait for where the
state is one of waiting.  `transition` checks the table of moves, the
presence of the condition and the number of attempts, then moves the record,
and checks the record last.  What this last check can refuse is only the
kind of the condition, and by then the record has moved: a refused request
has changed nothing exactly when it is no `MisfitWait`.

A record that has moved so is well formed but for its condition, and the
next move makes it whole again, so that the attempts are counted right in
every run (`transition_run`).
-/
import Idr.HumanCentered.Common
import Mathlib.Data.List.Induction

namespace Idr

/-! ### Records -/

/-- `OrchestrationStepKindV1`. -/
inductive OrchestrationStepKindV1
  | inputAdmission
  | contextSnapshot
  | intentAssessment
  | decision
  | turnPlanning
  | responseAdmission
  | actionAdmission
  | execution
  | outcomeObservation
  | humanModelCandidate
  deriving DecidableEq

/-- `OrchestrationStepStateV1`. -/
inductive OrchestrationStepStateV1
  | pending
  | running
  | waitingInput
  | waitingAuthorization
  | waitingDependency
  | succeeded
  | failed
  | cancelled
  | timedOut
  | invalidated
  deriving DecidableEq

namespace OrchestrationStepStateV1

/-- `may_transition_to`. -/
def mayTransitionTo : OrchestrationStepStateV1 → OrchestrationStepStateV1 → Bool
  | pending, next => next ∈ [running, cancelled, timedOut, invalidated]
  | running, next =>
    next ∈ [waitingInput, waitingAuthorization, waitingDependency, succeeded, failed, cancelled,
      timedOut, invalidated]
  | waitingInput, next
  | waitingAuthorization, next
  | waitingDependency, next => next ∈ [running, failed, cancelled, timedOut, invalidated]
  | _, _ => false

/-- The states of waiting. -/
def isWaiting (self : OrchestrationStepStateV1) : Bool :=
  self ∈ [waitingInput, waitingAuthorization, waitingDependency]

end OrchestrationStepStateV1

/-- `WaitConditionV1`. -/
inductive WaitConditionV1
  | userInput (reference : ReferenceV1)
  | authorization (contract : HumanCenteredContractRefV1)
  | dependency (contract : HumanCenteredContractRefV1)
  | providerReconciliation (reference : ReferenceV1)
  deriving DecidableEq

/-- The states in which a condition can be waited for. -/
def WaitConditionV1.matchesState : WaitConditionV1 → OrchestrationStepStateV1 → Bool
  | userInput _, .waitingInput => true
  | authorization _, .waitingAuthorization => true
  | dependency _, .waitingDependency => true
  | providerReconciliation _, .waitingDependency => true
  | _, _ => false

/-- `RetryPolicyV1`. -/
structure RetryPolicyV1 where
  maximumAttempts : Nat
  initialBackoffMillis : Nat
  maximumBackoffMillis : Nat
  deriving DecidableEq

/-- `RetryPolicyV1::validate`. -/
def RetryPolicyV1.validate (self : RetryPolicyV1) : Validated :=
  rejectIf (self.maximumAttempts = 0
      ∨ self.initialBackoffMillis = 0
      ∨ self.maximumBackoffMillis < self.initialBackoffMillis)
    .invalidContract

/-- `OrchestrationStepRecordV1`. -/
structure OrchestrationStepRecordV1 where
  stepId : Uuid
  runId : HumanCenteredRunIdV1
  turnId : HumanCenteredTurnIdV1
  stepKind : OrchestrationStepKindV1
  state : OrchestrationStepStateV1
  attempt : Nat
  dependencyStepIds : List Uuid
  waitCondition : Option WaitConditionV1
  retryPolicy : RetryPolicyV1
  causationRef : ReferenceV1
  correlationRef : ReferenceV1
  deriving DecidableEq

namespace OrchestrationStepRecordV1

/-- `OrchestrationStepRecordV1::validate`. -/
def validate (self : OrchestrationStepRecordV1) : Validated := do
  self.retryPolicy.validate
  rejectIf (self.stepId.isNil = true
      ∨ self.runId.isEmpty = true
      ∨ self.turnId.isEmpty = true
      ∨ ¬ self.dependencyStepIds.Nodup
      ∨ self.dependencyStepIds.contains self.stepId = true
      ∨ self.attempt > self.retryPolicy.maximumAttempts
      ∨ self.state.isWaiting ≠ self.waitCondition.isSome
      ∨ (self.state.isWaiting = true ∧ self.waitCondition.any (·.matchesState self.state) = false)
      ∨ self.causationRef.asStr.isBlank = true
      ∨ self.correlationRef.asStr.isBlank = true)
    .invalidContract

/-- `OrchestrationStepRecordV1::pending`; the first argument is the new identifier. -/
def pending (stepId : Uuid) (runId : HumanCenteredRunIdV1) (turnId : HumanCenteredTurnIdV1)
    (stepKind : OrchestrationStepKindV1) (dependencyStepIds : List Uuid)
    (retryPolicy : RetryPolicyV1)
    (causationRef correlationRef : ReferenceV1) :
    Except HumanCenteredProtocolError OrchestrationStepRecordV1 := do
  let value : OrchestrationStepRecordV1 := {
    stepId, runId, turnId, stepKind
    state := .pending
    attempt := 0
    dependencyStepIds
    waitCondition := none
    retryPolicy, causationRef, correlationRef }
  value.validate
  .ok value

/-- The attempt that a move to the state makes: one more where the step starts to run. -/
def nextAttempt (self : OrchestrationStepRecordV1) (next : OrchestrationStepStateV1) :
    Except HumanCenteredProtocolError Nat :=
  if next = .running then do
    -- `u32::checked_add(1)`
    rejectIf (self.attempt + 1 ≥ 2 ^ 32) .revisionOverflow
    rejectIf (self.attempt + 1 > self.retryPolicy.maximumAttempts) .invalidTransition
    .ok (self.attempt + 1)
  else .ok self.attempt

/-- `OrchestrationStepRecordV1::transition`: the record after the call, and what the call returns.
The record has moved before it is checked. -/
def transition (self : OrchestrationStepRecordV1) (next : OrchestrationStepStateV1)
    (waitCondition : Option WaitConditionV1) : OrchestrationStepRecordV1 × Validated :=
  if self.state.mayTransitionTo next = false then (self, .error .invalidTransition)
  else if next.isWaiting ≠ waitCondition.isSome then (self, .error .invalidContract)
  else match self.nextAttempt next with
    | .error e => (self, .error e)
    | .ok attempt =>
      let moved := { self with attempt, state := next, waitCondition }
      (moved, moved.validate)

end OrchestrationStepRecordV1

/-! ### One request -/

section Request

variable {self : OrchestrationStepRecordV1} {next : OrchestrationStepStateV1}
variable {waitCondition : Option WaitConditionV1} {moved : OrchestrationStepRecordV1}

/-- What a valid record is, apart from the kind of its condition. -/
structure StepWellFormed (record : OrchestrationStepRecordV1) : Prop where
  retryPolicy : record.retryPolicy.validate = .ok ()
  named : record.stepId.isNil = false ∧ record.runId.isEmpty = false ∧ record.turnId.isEmpty = false
  dependencies : record.dependencyStepIds.Nodup ∧ record.stepId ∉ record.dependencyStepIds
  attempts : record.attempt ≤ record.retryPolicy.maximumAttempts
  waiting : record.state.isWaiting = record.waitCondition.isSome

/-- The condition is of a kind that the state can wait for. -/
def WaitFits (state : OrchestrationStepStateV1) (waitCondition : Option WaitConditionV1) : Prop :=
  state.isWaiting = true → waitCondition.any (·.matchesState state) = true

theorem OrchestrationStepRecordV1.validate_eq_ok :
    self.validate = .ok () ↔ StepWellFormed self ∧ WaitFits self.state self.waitCondition := by
  simp only [validate, bind_eq_ok, exists_unit_eq_ok, rejectIf_eq_ok, not_or, not_and, not_not,
    Nat.not_lt, List.contains_iff_mem, Bool.not_eq_true, Bool.not_eq_false, gt_iff_lt,
    ReferenceV1.isBlank_asStr, ne_eq]
  constructor
  · rintro ⟨hpolicy, hstep, hrun, hturn, hnodup, hself, hattempts, hwaiting, hfits, -⟩
    exact ⟨⟨hpolicy, ⟨hstep, hrun, hturn⟩, ⟨hnodup, hself⟩, hattempts, hwaiting⟩, hfits⟩
  · rintro ⟨⟨hpolicy, ⟨hstep, hrun, hturn⟩, ⟨hnodup, hself⟩, hattempts, hwaiting⟩, hfits⟩
    exact ⟨hpolicy, hstep, hrun, hturn, hnodup, hself, hattempts, hwaiting, hfits, trivial, trivial⟩

/-- **The requests that are refused too late**: a running step is to wait, for a condition of a kind
that the state cannot wait for. -/
def MisfitWait (self : OrchestrationStepRecordV1) (next : OrchestrationStepStateV1)
    (waitCondition : Option WaitConditionV1) : Prop :=
  self.state = .running ∧ next.isWaiting = true ∧
    ∃ condition, waitCondition = some condition ∧ condition.matchesState next = false

/-- A move: the record after it, which is well formed again. -/
structure StepMoves (record : OrchestrationStepRecordV1) (next : OrchestrationStepStateV1)
    (waitCondition : Option WaitConditionV1) (moved : OrchestrationStepRecordV1) : Prop where
  allowed : record.state.mayTransitionTo next = true
  state : moved.state = next
  waitCondition : moved.waitCondition = waitCondition
  attempt : moved.attempt = record.attempt + if next = .running then 1 else 0
  wellFormed : StepWellFormed moved

/-- **What a request does**: nothing, and it is refused; or the step moves, and is refused where the
condition does not fit. -/
theorem transition_cases (h : StepWellFormed self) :
    (∃ e, self.transition next waitCondition = (self, .error e) ∧
      ¬ MisfitWait self next waitCondition) ∨
    ∃ moved, StepMoves self next waitCondition moved ∧
      self.transition next waitCondition = (moved, moved.validate) ∧
      (moved.validate = .ok () ↔ WaitFits next waitCondition) := by
  unfold OrchestrationStepRecordV1.transition
  split
  case isTrue hnot =>
    refine Or.inl ⟨_, rfl, ?_⟩
    rintro ⟨hrunning, hwaiting, -⟩
    -- a running step may go to every state of waiting
    rw [hrunning] at hnot
    revert hnot hwaiting
    cases next <;> decide
  case isFalse hallowed =>
    rw [Bool.not_eq_false] at hallowed
    split
    case isTrue hpresence =>
      refine Or.inl ⟨_, rfl, ?_⟩
      rintro ⟨-, hwaiting, condition, rfl, -⟩
      exact hpresence hwaiting
    case isFalse hpresence =>
      rw [not_not] at hpresence
      rcases hattempt : self.nextAttempt next with e | attempt
      · refine Or.inl ⟨e, rfl, ?_⟩
        rintro ⟨-, hwaiting, -⟩
        -- a state of waiting is not that of running
        have hnext : next ≠ .running := by
          rintro rfl
          cases hwaiting
        rw [OrchestrationStepRecordV1.nextAttempt, if_neg hnext] at hattempt
        cases hattempt
      · have hcount : attempt = self.attempt + (if next = .running then 1 else 0) ∧
            attempt ≤ self.retryPolicy.maximumAttempts := by
          unfold OrchestrationStepRecordV1.nextAttempt at hattempt
          split at hattempt
          case isTrue hrunning =>
            simp only [bind_eq_ok, rejectIf_eq_ok, Except.ok.injEq, Nat.not_lt, gt_iff_lt,
              exists_const] at hattempt
            obtain ⟨-, hbound, rfl⟩ := hattempt
            exact ⟨by rw [if_pos hrunning], hbound⟩
          case isFalse hrunning =>
            obtain rfl := Except.ok.inj hattempt
            exact ⟨by rw [if_neg hrunning, Nat.add_zero], h.attempts⟩
        have hmoved : StepWellFormed { self with attempt, state := next, waitCondition } :=
          ⟨h.retryPolicy, h.named, h.dependencies, hcount.2, hpresence⟩
        refine Or.inr ⟨_, ⟨hallowed, rfl, rfl, hcount.1, hmoved⟩, rfl, ?_⟩
        rw [OrchestrationStepRecordV1.validate_eq_ok]
        exact ⟨fun hvalid => hvalid.2, fun hfits => ⟨hmoved, hfits⟩⟩

/-- A move of a well formed step with a condition that does not fit starts from running. -/
theorem misfitWait_iff (h : StepMoves self next waitCondition moved) :
    MisfitWait self next waitCondition ↔ ¬ WaitFits next waitCondition := by
  have hpresence := h.wellFormed.waiting
  rw [h.state, h.waitCondition] at hpresence
  constructor
  · rintro ⟨-, hwaiting, condition, rfl, hother⟩ hfits
    have hmatches := hfits hwaiting
    rw [Option.any_some, hother] at hmatches
    cases hmatches
  · intro hmisfit
    unfold WaitFits at hmisfit
    rw [Classical.not_imp, Bool.not_eq_true] at hmisfit
    obtain ⟨hwaiting, hother⟩ := hmisfit
    rw [hwaiting] at hpresence
    obtain ⟨condition, rfl⟩ := Option.isSome_iff_exists.mp hpresence.symm
    refine ⟨?_, hwaiting, condition, rfl, hother⟩
    -- only a running step may be asked to wait
    have hallowed := h.allowed
    revert hallowed hwaiting
    cases self.state <;> cases next <;> decide

/-- A move changes the step: no state may move to itself. -/
theorem StepMoves.ne (h : StepMoves self next waitCondition moved) : moved ≠ self := by
  intro hsame
  have hallowed := h.allowed
  rw [← h.state, hsame] at hallowed
  revert hallowed
  cases self.state <;> decide

/-- **A refused request changes nothing exactly when it is no misfit.** -/
theorem transition_unchanged_iff (h : self.validate = .ok ()) :
    (∀ e, (self.transition next waitCondition).2 = .error e →
      (self.transition next waitCondition).1 = self) ↔ ¬ MisfitWait self next waitCondition := by
  have hwell := (OrchestrationStepRecordV1.validate_eq_ok.mp h).1
  rcases @transition_cases _ next waitCondition hwell with
    ⟨e, hrefused, hfit⟩ | ⟨moved, hmoves, hmoved, hvalid⟩
  · rw [hrefused]
    exact ⟨fun _ => hfit, fun _ _ _ => rfl⟩
  · rw [hmoved, misfitWait_iff hmoves, not_not]
    constructor
    · intro hunchanged
      rcases hcheck : moved.validate with e | u
      · exact absurd (hunchanged e hcheck) hmoves.ne
      · exact hvalid.mp hcheck
    · intro hfits e hcheck
      rw [hvalid.mpr hfits] at hcheck
      cases hcheck

end Request

/-! ### Runs -/

/-- A request: the state to move to, and the condition to wait for. -/
structure StepRequestV1 where
  next : OrchestrationStepStateV1
  waitCondition : Option WaitConditionV1

namespace OrchestrationStepRecordV1

/-- The record after a list of requests, accepted or refused. -/
def performs (self : OrchestrationStepRecordV1) : List StepRequestV1 → OrchestrationStepRecordV1
  | [] => self
  | request :: requests =>
    performs (self.transition request.next request.waitCondition).1 requests

/-- How many of the requests are accepted transitions into running. -/
def acceptedRunning (self : OrchestrationStepRecordV1) : List StepRequestV1 → Nat
  | [] => 0
  | request :: requests =>
    let (moved, result) := self.transition request.next request.waitCondition
    (if request.next = .running ∧ result = .ok () then 1 else 0) + acceptedRunning moved requests

end OrchestrationStepRecordV1

section Runs

variable {start : OrchestrationStepRecordV1}

/-- One request keeps the record well formed, and counts an attempt when it is accepted into
running. -/
theorem transition_keeps (h : StepWellFormed start) (request : StepRequestV1) :
    StepWellFormed (start.transition request.next request.waitCondition).1 ∧
      (start.transition request.next request.waitCondition).1.attempt = start.attempt +
        if request.next = .running ∧
          (start.transition request.next request.waitCondition).2 = .ok ()
          then 1 else 0 := by
  rcases @transition_cases _ request.next request.waitCondition h with
    ⟨e, hrefused, -⟩ | ⟨moved, hmoves, hmoved, hvalid⟩
  · rw [hrefused]
    refine ⟨h, ?_⟩
    rw [if_neg (fun hok => by cases hok.2), Nat.add_zero]
  · rw [hmoved]
    refine ⟨hmoves.wellFormed, ?_⟩
    show moved.attempt = _
    rw [hmoves.attempt]
    congr 1
    refine if_congr ?_ rfl rfl
    refine ⟨fun hrunning => ⟨hrunning, hvalid.mpr ?_⟩, fun hok => hok.1⟩
    -- a running step waits for nothing
    intro hwaiting
    rw [hrunning] at hwaiting
    cases hwaiting

/-- **Along a run the record stays well formed, and the attempts are counted.** -/
theorem transition_run (requests : List StepRequestV1) : ∀ {start : OrchestrationStepRecordV1},
    StepWellFormed start → StepWellFormed (start.performs requests) ∧
      (start.performs requests).attempt = start.attempt + start.acceptedRunning requests := by
  induction requests with
  | nil =>
    intro start h
    exact ⟨h, rfl⟩
  | cons request requests ih =>
    intro start h
    obtain ⟨hwell, hattempt⟩ := transition_keeps h request
    obtain ⟨hwell', hattempt'⟩ := ih hwell
    refine ⟨hwell', ?_⟩
    rw [OrchestrationStepRecordV1.performs, hattempt', hattempt, Nat.add_assoc]
    rfl

theorem performs_append (before after : List StepRequestV1) : ∀ {start : OrchestrationStepRecordV1},
    start.performs (before ++ after) = (start.performs before).performs after := by
  induction before with
  | nil => intro start; rfl
  | cons request before ih => intro start; exact ih

/-- The record is valid after every request of a run exactly when no request is a misfit. -/
theorem validate_run_iff (h : start.validate = .ok ()) (requests : List StepRequestV1) :
    (∀ before after, requests = before ++ after → (start.performs before).validate = .ok ()) ↔
      ∀ before request after, requests = before ++ request :: after →
        ¬ MisfitWait (start.performs before) request.next request.waitCondition := by
  have hwell := (OrchestrationStepRecordV1.validate_eq_ok.mp h).1
  constructor
  · intro hvalid before request after hsplit hmisfit
    have hnext := hvalid (before ++ [request]) after (by rw [hsplit, List.append_assoc]; rfl)
    rw [performs_append] at hnext
    have hbefore := (transition_run before hwell).1
    rcases @transition_cases _ request.next request.waitCondition hbefore with
      ⟨e, -, hfit⟩ | ⟨moved, hmoves, hmoved, hok⟩
    · exact hfit hmisfit
    · have hperforms : (start.performs before).performs [request] = moved :=
        congrArg Prod.fst hmoved
      rw [hperforms] at hnext
      exact (misfitWait_iff hmoves).mp hmisfit (hok.mp hnext)
  · intro hfits before
    induction before using List.reverseRecOn with
    | nil => exact fun _ _ => h
    | append_singleton before request ih =>
      intro after hsplit
      rw [List.append_assoc] at hsplit
      have hvalid := ih (request :: after) hsplit
      have hbefore := (transition_run before hwell).1
      rw [performs_append]
      rcases @transition_cases _ request.next request.waitCondition hbefore with
        ⟨e, hrefused, -⟩ | ⟨moved, hmoves, hmoved, hok⟩
      · have hperforms : (start.performs before).performs [request] = start.performs before :=
          congrArg Prod.fst hrefused
        rw [hperforms]
        exact hvalid
      · have hperforms : (start.performs before).performs [request] = moved :=
          congrArg Prod.fst hmoved
        rw [hperforms, hok]
        by_contra hother
        exact hfits before request after hsplit ((misfitWait_iff hmoves).mpr hother)

/-- **Refused requests, and runs from pending.**  A refused request changes nothing exactly when it
is no misfit.  In every run from pending the attempts are the accepted transitions into running, and
the record is valid throughout exactly when no request of the run is a misfit. -/
theorem refused_transition_unchanged_iff (record : OrchestrationStepRecordV1)
    (next : OrchestrationStepStateV1) (waitCondition : Option WaitConditionV1) :
    (record.validate = .ok () →
      ((∀ e, (record.transition next waitCondition).2 = .error e →
        (record.transition next waitCondition).1 = record) ↔
        ¬ MisfitWait record next waitCondition)) ∧
    ∀ stepId runId turnId stepKind dependencyStepIds retryPolicy causationRef correlationRef start,
      OrchestrationStepRecordV1.pending stepId runId turnId stepKind dependencyStepIds retryPolicy
        causationRef correlationRef = .ok start →
      ∀ requests, (start.performs requests).attempt = start.acceptedRunning requests ∧
        ((∀ before after, requests = before ++ after → (start.performs before).validate = .ok ()) ↔
          ∀ before request after, requests = before ++ request :: after →
            ¬ MisfitWait (start.performs before) request.next request.waitCondition) := by
  refine ⟨fun h => transition_unchanged_iff h, ?_⟩
  intro stepId runId turnId stepKind dependencyStepIds retryPolicy causationRef correlationRef start
    hpending requests
  simp only [OrchestrationStepRecordV1.pending, bind_eq_ok, Except.ok.injEq] at hpending
  obtain ⟨_, hvalid, rfl⟩ := hpending
  refine ⟨?_, validate_run_iff hvalid requests⟩
  rw [(transition_run requests (OrchestrationStepRecordV1.validate_eq_ok.mp hvalid).1).2,
    Nat.zero_add]

end Runs

/-! ### A sample step -/

namespace StoreSample

/-- A running step, in its first attempt of three. -/
def runningStep : OrchestrationStepRecordV1 where
  stepId := firstId.asUuid
  runId := runId
  turnId := turnId
  stepKind := .actionAdmission
  state := .running
  attempt := 1
  dependencyStepIds := []
  waitCondition := none
  retryPolicy := ⟨3, 100, 1000⟩
  causationRef := party
  correlationRef := party

def pendingStep : OrchestrationStepRecordV1 := { runningStep with state := .pending, attempt := 0 }

/-- The step is to wait for input, with a reference that authorizes. -/
def misfit : StepRequestV1 :=
  ⟨.waitingInput, some (.authorization ⟨.action, firstId, 1, ""⟩)⟩

end StoreSample

/-- **A refused request can change the step**: the running sample waits for input after it, for a
condition of another kind. -/
theorem refused_transition_changed :
    ¬ ∀ (record : OrchestrationStepRecordV1) (next : OrchestrationStepStateV1)
      (waitCondition : Option WaitConditionV1), record.validate = .ok () →
      ∀ e, (record.transition next waitCondition).2 = .error e →
        (record.transition next waitCondition).1 = record := by
  intro hall
  have hsame :=
    hall StoreSample.runningStep StoreSample.misfit.next StoreSample.misfit.waitCondition
    (by decide +kernel) .invalidContract (by decide +kernel)
  exact absurd (congrArg OrchestrationStepRecordV1.state hsame) (by decide +kernel)

/-- The sample step runs twice, and waits in between for what it can wait for. -/
theorem refused_transition_unchanged_sample :
    (StoreSample.pendingStep.performs [⟨.running, none⟩,
      ⟨.waitingInput, some (.userInput StoreSample.party)⟩, ⟨.running, none⟩]).attempt = 2 ∧
    ∀ e, (StoreSample.runningStep.transition .pending none).2 = .error e →
      (StoreSample.runningStep.transition .pending none).1 = StoreSample.runningStep := by
  obtain ⟨hstep, hrun⟩ :=
    refused_transition_unchanged_iff StoreSample.runningStep .pending none
  constructor
  · have hpending : OrchestrationStepRecordV1.pending StoreSample.firstId.asUuid StoreSample.runId
        StoreSample.turnId .actionAdmission [] ⟨3, 100, 1000⟩ StoreSample.party StoreSample.party =
          .ok StoreSample.pendingStep := by decide +kernel
    rw [(hrun _ _ _ _ _ _ _ _ _ hpending _).1]
    decide +kernel
  · refine (hstep (by decide +kernel)).mpr ?_
    rintro ⟨-, hwaiting, -⟩
    cases hwaiting

end Idr
