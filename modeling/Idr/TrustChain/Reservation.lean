/-
Idr/TrustChain/Reservation.lean

What an execution that has ended leaves open for the next one.

The attempt rule reads the stored execution and nothing else of it is read
when an execution is reserved (`reserves_iff`): whether a reservation is
accepted is the attempt rule together with the checks that would be made
of a run without an execution (`OtherChecks`).

For an action of its own, the rule asks that the last execution was
cancelled.  An execution that has run out is not, and no recording of an
action makes it so: it keeps its state until a command withdraws it
(`ended_run`).
-/
import Idr.TrustChain.InFlight

namespace Idr

/-- The execution ended before it was dispatched. -/
def EndedUndispatched (state : ExecutionAggregateStateV1) : Prop :=
  state = .cancelled ∨ state = .expired

instance (state : ExecutionAggregateStateV1) : Decidable (EndedUndispatched state) := by
  unfold EndedUndispatched
  infer_instance

/-- The command asks for a permit, or for its dispatch. -/
def IdrCommandV1.asksPermit : IdrCommandV1 → Bool
  | .deliverPermit _ _ | .startDispatch _ _ => true
  | _ => false

/-- The step withdraws an execution that is not open: it revokes the bound admission, or asks for
the permit. -/
def RunInputV1.Withdraws (i : RunInputV1) : Prop :=
  i.revokes = true ∨ i.command.command.asksPermit = true

instance (i : RunInputV1) : Decidable i.Withdraws := by
  unfold RunInputV1.Withdraws
  infer_instance

instance (i : RunInputV1) : Decidable i.Reserves := by
  unfold RunInputV1.Reserves
  infer_instance

/-- The run without its execution. -/
def RunStateV1.withoutExecution (s : RunStateV1) : RunStateV1 :=
  { s with projection := { s.projection with execution := none } }

/-- The command reserves the first attempt for an action. -/
def IdrCommandV1.ReservesFirst (c : IdrCommandV1) (actionRef : AuthoritativeRecordRefV1) : Prop :=
  ∃ admissionRef actionDigest providerRef ownerRef idempotencyKey leaseUntil dispatchNonce,
    c = .reserveExecution admissionRef actionRef actionDigest providerRef ownerRef idempotencyKey 1
      leaseUntil dispatchNonce

/-! ### An execution that has ended -/

section Ended

variable {e : ExecutionProjectionV1} {p : IdrRunProjectionV1} {fresh : FreshIdsV1} {now : Nat}
  {c : IdrCommandV1} {run : IdrRunStateV1} {after : Option ExecutionProjectionV1}

theorem EndedUndispatched.terminal {state : ExecutionAggregateStateV1}
    (h : EndedUndispatched state) : state.isTerminal = true := by
  rcases h with rfl | rfl <;> rfl

theorem EndedUndispatched.not_permitOpen {state : ExecutionAggregateStateV1}
    (h : EndedUndispatched state) : ¬ PermitOpen state := by
  rcases h with rfl | rfl <;> decide

theorem EndedUndispatched.not_inFlight {state : ExecutionAggregateStateV1}
    (h : EndedUndispatched state) : ¬ InFlight state := by
  rcases h with rfl | rfl <;> decide

/-- A closure leaves an execution that has ended as it is. -/
theorem closeAll_ended (h : EndedUndispatched e.state) (closure : List AuthoritativeRecordRefV1) :
    closeAll closure e = e := by
  unfold closeAll
  split
  · rcases h with h | h <;> rw [← withState_self e, h] <;> rfl
  · rfl

/-- What is left of an execution that has ended: the same one, or, where it is `withdrawn`, the same
one in the state cancelled. -/
def LeavesEnded (e : ExecutionProjectionV1) (withdrawn : Prop)
    (after : Option ExecutionProjectionV1) : Prop :=
  ¬ withdrawn ∧ after = some e ∨ withdrawn ∧ after = some (e.withState .cancelled)

theorem LeavesEnded.closeAll {withdrawn : Prop} (h : LeavesEnded e withdrawn after)
    (hended : EndedUndispatched e.state) (closure : List AuthoritativeRecordRefV1) :
    LeavesEnded e withdrawn (after.map (Idr.closeAll closure)) := by
  rcases h with ⟨hno, rfl⟩ | ⟨hyes, rfl⟩
  · exact .inl ⟨hno, congrArg some (closeAll_ended hended closure)⟩
  · exact .inr ⟨hyes, congrArg some (closeAll_ended (.inl rfl) closure)⟩

theorem mayKeep_not_asksPermit (h : c.mayKeep = true) : c.asksPermit = false := by
  cases c <;> simp_all [IdrCommandV1.mayKeep, IdrCommandV1.asksPermit]

/-- **What a command does to an execution that has ended**: a command for its permit cancels it, and
the others leave it as it is, unless they reserve another. -/
theorem LifecycleEffect.ended (h : LifecycleEffect fresh now p c run after)
    (he : p.execution = some e) (hended : EndedUndispatched e.state) (hc : c.reserves = false) :
    LeavesEnded e (c.asksPermit = true) after := by
  cases h with
  | kept _ hkeep =>
    exact .inl ⟨by simp [mayKeep_not_asksPermit hkeep], he⟩
  | started | blocked | cancelled => exact .inl ⟨by simp [IdrCommandV1.asksPermit], he⟩
  | superseded =>
    refine .inl ⟨by simp [IdrCommandV1.asksPermit], ?_⟩
    rw [he, Option.map_some, supersededState, if_pos hended.terminal, withState_self]
  | reserved hreserves => exact absurd (hreserves.symm.trans hc) (by decide)
  | @delivered e' he' _ hstate =>
    obtain rfl := Option.some.inj (he.symm.trans he')
    exact absurd (.inl hstate) hended.not_permitOpen
  | @dispatched e' he' _ hstate =>
    obtain rfl := Option.some.inj (he.symm.trans he')
    exact absurd (.inr hstate) hended.not_permitOpen
  | @withdrawn c e' hcommand he' =>
    obtain rfl := Option.some.inj (he.symm.trans he')
    have hwithdrawn : withdrawnState e.state = .cancelled := by
      rcases hended with h | h <;> rw [h] <;> rfl
    rw [hwithdrawn]
    exact .inr ⟨by rcases hcommand with rfl | rfl <;> rfl, rfl⟩
  | @expired c e' _ he' _ hopen =>
    obtain rfl := Option.some.inj (he.symm.trans he')
    exact absurd hopen hended.not_permitOpen
  | @overdue e' he' _ hstate =>
    obtain rfl := Option.some.inj (he.symm.trans he')
    exact absurd (hstate.imp_right .inl) hended.not_inFlight
  | @received e' _ _ _ he' hflight =>
    obtain rfl := Option.some.inj (he.symm.trans he')
    exact absurd hflight hended.not_inFlight
  | invalidated recordRef =>
    refine .inl ⟨by simp [IdrCommandV1.asksPermit], ?_⟩
    rw [he, Option.map_some, if_neg]
    rintro ⟨-, hterminal⟩
    exact absurd (hended.terminal.symm.trans hterminal) (by decide)

end Ended

section Runs

variable [Crypto] {s t : RunStateV1} {i : RunInputV1} {e : ExecutionProjectionV1}

/-- **What a step does to an execution that has ended.** -/
theorem ended_step (h : RunStep s i t) (he : s.projection.execution = some e)
    (hended : EndedUndispatched e.state) (hreserves : ¬ i.Reserves) :
    LeavesEnded e i.Withdraws t.projection.execution := by
  obtain ⟨-, -, -, transition, htransition, ht⟩ := runStep_eq_ok h
  have heffect := runTransition_effect htransition
  rw [← ht] at heffect
  rw [RunInputV1.Reserves] at hreserves
  rw [RunInputV1.Withdraws]
  generalize t.projection.state = run at heffect
  generalize t.projection.execution = after at heffect ⊢
  generalize i.revokes = revokes at heffect hreserves ⊢
  cases revokes with
  | true =>
    cases heffect with
    | revoked =>
      refine .inr ⟨.inl rfl, ?_⟩
      rw [he, Option.map_some]
      rcases hended with h | h <;> rw [h] <;> rfl
  | false =>
    have hc : i.command.command.reserves = false := by
      rw [← Bool.not_eq_true]
      exact fun h => hreserves ⟨rfl, h⟩
    rw [or_iff_right (by decide)]
    cases heffect with
    | evaluated _ hlife => exact hlife.ended he hended hc
    | closed closure _ hlife => exact (hlife.ended he hended hc).closeAll hended closure
    | invalidated _ _ closure _ _ hlife =>
      exact (hlife.ended he hended hc).closeAll hended closure

/-- **What a run leaves of an execution that has ended**: it is cancelled when it was, or when a
step of the run withdrew it. -/
theorem ended_run {is : List RunInputV1} (h : Run RunStep s is t)
    (he : s.projection.execution = some e) (hended : EndedUndispatched e.state)
    (hreserves : ∀ i ∈ is, ¬ i.Reserves) :
    LeavesEnded e (∃ i ∈ is, i.Withdraws) t.projection.execution := by
  induction h generalizing e with
  | nil => exact .inl ⟨by simp, he⟩
  | @cons s i u is t hstep _ ih =>
    have hrest : ∀ j ∈ is, ¬ j.Reserves := fun j hj => hreserves j (List.mem_cons_of_mem i hj)
    rcases ended_step hstep he hended (hreserves i List.mem_cons_self) with ⟨hno, he'⟩ | ⟨hyes, he'⟩
    · rcases ih he' hended hrest with ⟨hnone, h⟩ | ⟨hsome, h⟩
      · exact .inl ⟨by simpa [hno] using hnone, h⟩
      · exact .inr ⟨by simpa [hno] using hsome, h⟩
    · refine .inr ⟨⟨i, List.mem_cons_self, hyes⟩, ?_⟩
      rcases ih he' (.inl rfl) hrest with ⟨-, h⟩ | ⟨-, h⟩
      · exact h
      · rw [h, withState_withState]

/-! ### The attempt rule and the other checks -/

/-- A command that replaces no record and invalidates none is followed by no closure. -/
theorem evaluatedTransition_of_quiet {p : IdrRunProjectionV1} {fresh : FreshIdsV1}
    {command : IdrCommandEnvelopeV1} {now : Nat} {proofs : List VerifiedProductionProofV1}
    (hkind : command.command.expectedCandidateKind = none)
    (hinvalidate : ∀ recordRef reasonRef, command.command ≠ .invalidateRecord recordRef reasonRef)
    (loadClosure : AuthoritativeRecordRefV1 →
      Except IdrRuntimeErrorV1 (List AuthoritativeRecordRefV1)) :
    evaluatedTransition loadClosure fresh p command now proofs =
      evaluateAuthoritativeTransitionV1 fresh p command now proofs := by
  unfold evaluatedTransition
  rw [hkind]
  rcases evaluateAuthoritativeTransitionV1 fresh p command now proofs with error | transition
  · rfl
  · dsimp only [bind, Except.bind]
    split
    case h_1 recordRef reasonRef hcommand => exact absurd hcommand (hinvalidate _ _)
    case h_2 => rfl

/-- **The steps of such a command.** -/
theorem runStep_quiet_iff (hkind : i.command.command.expectedCandidateKind = none)
    (hinvalidate : ∀ recordRef reasonRef, i.command.command ≠ .invalidateRecord recordRef reasonRef)
    (hrevokes : i.revokes = false) :
    RunStep s i t ↔ environmentAdmits s i ∧
      (reverifiesAdmission i.command.command = true → s.projection.actionAdmission.isSome = true) ∧
      ∃ transition, evaluateAuthoritativeTransitionV1 i.fresh s.projection i.command i.trustedNow
          i.verifiedProofs = .ok transition ∧
        t = ⟨transition.projection, i.trustedNow, i.fresh.ids ++ s.drawn⟩ := by
  have htransition : ∀ transition, runTransition s.projection i = .ok transition ↔
      (reverifiesAdmission i.command.command = true →
        s.projection.actionAdmission.isSome = true) ∧
      evaluateAuthoritativeTransitionV1 i.fresh s.projection i.command i.trustedNow
        i.verifiedProofs = .ok transition := by
    intro transition
    rw [runTransition_eq_ok, if_neg (by simp [hrevokes]),
      evaluatedTransition_of_quiet hkind hinvalidate]
  simp only [RunStep, runStep, bind_eq_ok, require_eq_ok, exists_const, Except.ok.injEq,
    htransition]
  constructor
  · rintro ⟨henv, transition, ⟨hbound, hevaluated⟩, rfl⟩
    exact ⟨henv, hbound, transition, hevaluated, rfl⟩
  · rintro ⟨henv, hbound, transition, hevaluated, rfl⟩
    exact ⟨henv, transition, ⟨hbound, hevaluated⟩, rfl⟩

omit [Crypto] in
/-- The attempt rule takes the first attempt for another action after a cancelled execution only. -/
theorem reservationIdFor_other {fresh : FreshIdsV1} {actionRef : AuthoritativeRecordRefV1}
    {key : Text} (haction : actionRef ≠ e.actionRef) :
    (∃ reservationId, reservationIdFor fresh (some e) actionRef key 1 = .ok reservationId) ↔
      e.state = .cancelled := by
  simp [reservationIdFor, haction.symm, bind_eq_ok, rejectIf_eq_ok]

section Reserve

variable {fresh : FreshIdsV1} {p : IdrRunProjectionV1} {command : IdrCommandEnvelopeV1} {now : Nat}
  {proofs : List VerifiedProductionProofV1} {admissionRef actionRef : AuthoritativeRecordRefV1}
  {digest key nonce : Text} {providerRef ownerRef : ReferenceV1} {lease : Nat}

omit [Crypto] in
/-- **A reservation is evaluated** as for a run without an execution, and by the attempt rule. -/
theorem evaluateReserveExecution_iff :
    (∃ r, evaluateReserveExecution fresh p command now proofs admissionRef actionRef digest
        providerRef ownerRef key 1 lease nonce = .ok r) ↔
      (∃ r, evaluateReserveExecution fresh { p with execution := none } command now proofs
        admissionRef actionRef digest providerRef ownerRef key 1 lease nonce = .ok r) ∧
      ∃ reservationId, reservationIdFor fresh p.execution actionRef key 1 = .ok reservationId := by
  have hnone : reservationIdFor fresh none actionRef key 1 = .ok fresh.reservationId := rfl
  simp only [evaluateReserveExecution, bind_eq_ok, exists_unit_eq_ok, okOr_eq_ok, rejectIf_eq_ok,
    exists_const, Except.ok.injEq]
  constructor
  · rintro ⟨r, haction, hadmission, hcaller, proof, hproof, a, ha, permitUntil, hmin, hchecks,
      reservationId, hid, -⟩
    exact ⟨⟨_, haction, hadmission, hcaller, proof, hproof, a, ha, permitUntil, hmin, hchecks,
      _, hnone, rfl⟩, reservationId, hid⟩
  · rintro ⟨⟨r, haction, hadmission, hcaller, proof, hproof, a, ha, permitUntil, hmin, hchecks,
      -, -, -⟩, reservationId, hid⟩
    exact ⟨_, haction, hadmission, hcaller, proof, hproof, a, ha, permitUntil, hmin, hchecks,
      reservationId, hid, rfl⟩

/-- The same of the transition. -/
theorem evaluateAuthoritativeTransitionV1_reserve_iff
    (hc : command.command = .reserveExecution admissionRef actionRef digest providerRef ownerRef key
      1 lease nonce) :
    (∃ t, evaluateAuthoritativeTransitionV1 fresh p command now proofs = .ok t) ↔
      (∃ t, evaluateAuthoritativeTransitionV1 fresh { p with execution := none } command now
        proofs =
        .ok t) ∧
      ∃ reservationId, reservationIdFor fresh p.execution actionRef key 1 = .ok reservationId := by
  -- the version is checked once more after the command, which does not touch it
  have hversion : ∀ q r, evaluateReserveExecution fresh q command now proofs admissionRef actionRef
      digest providerRef ownerRef key 1 lease nonce = .ok r →
      (r.projection.insertRecord r.authoritativeRecord).aggregateVersion = q.aggregateVersion := by
    intro q r h
    simp only [evaluateReserveExecution, bind_eq_ok, exists_unit_eq_ok, okOr_eq_ok, rejectIf_eq_ok,
      exists_const, Except.ok.injEq] at h
    obtain ⟨-, -, -, -, -, a, -, permitUntil, -, -, reservationId, -, rfl⟩ := h
    rfl
  simp only [evaluateAuthoritativeTransitionV1, bind_eq_ok, exists_unit_eq_ok, okOr_eq_ok,
    checkedAddU64_eq_some, rejectIf_eq_ok, exists_const, not_not, evaluateCommand, hc]
  constructor
  · rintro ⟨t, hcheck, version, hadvance, sequence, hsequence, r, hr, -, -⟩
    obtain ⟨⟨r', hr'⟩, hid⟩ := evaluateReserveExecution_iff.mp ⟨r, hr⟩
    refine ⟨⟨_, hcheck, version, hadvance, sequence, hsequence, r', hr', ?_, rfl⟩, hid⟩
    rw [hversion _ _ hr']
    exact hadvance.2.symm
  · rintro ⟨⟨t, hcheck, version, hadvance, sequence, hsequence, r', hr', -, -⟩, hid⟩
    obtain ⟨r, hr⟩ := (evaluateReserveExecution_iff (p := { p with
      aggregateVersion := version
      lastEventSequence := sequence })).mpr ⟨⟨r', hr'⟩, hid⟩
    refine ⟨_, hcheck, version, hadvance, sequence, hsequence, r, hr, ?_, rfl⟩
    rw [hversion _ _ hr]
    exact hadvance.2.symm

end Reserve

/-- The checks of a reservation other than the attempt rule: it is accepted of the run without its
execution. -/
def OtherChecks (s : RunStateV1) (i : RunInputV1) : Prop :=
  ∃ t, RunStep s.withoutExecution i t

/-- The step is accepted and reserves the first attempt for the action. -/
def AcceptsFirst (s : RunStateV1) (i : RunInputV1) (actionRef : AuthoritativeRecordRefV1) : Prop :=
  ∃ t next, RunStep s i t ∧ t.projection.execution = some next ∧ next.state = .permitIssued ∧
    next.actionRef = actionRef ∧ next.attempt = 1 ∧ next.reservationId = i.fresh.reservationId

/-- **What a reservation of a first attempt is refused for**: the attempt rule, or another check. -/
theorem reserves_iff {actionRef : AuthoritativeRecordRefV1}
    (hc : i.command.command.ReservesFirst actionRef) (hrevokes : i.revokes = false)
    (he : s.projection.execution = some e) (haction : actionRef ≠ e.actionRef) :
    AcceptsFirst s i actionRef ↔ OtherChecks s i ∧ e.state = .cancelled := by
  obtain ⟨admissionRef, digest, providerRef, ownerRef, key, lease, nonce, hc⟩ := hc
  have hkind : i.command.command.expectedCandidateKind = none := by rw [hc]; rfl
  have hinvalidate : ∀ recordRef reasonRef,
      i.command.command ≠ .invalidateRecord recordRef reasonRef := by simp [hc]
  have hstep : ∀ s, (∃ t, RunStep s i t) ↔ environmentAdmits s i ∧
      (reverifiesAdmission i.command.command = true → s.projection.actionAdmission.isSome = true) ∧
      ∃ transition, evaluateAuthoritativeTransitionV1 i.fresh s.projection i.command i.trustedNow
        i.verifiedProofs = .ok transition := by
    intro s
    simp only [runStep_quiet_iff hkind hinvalidate hrevokes]
    constructor
    · rintro ⟨t, henv, hbound, transition, h, -⟩
      exact ⟨henv, hbound, transition, h⟩
    · rintro ⟨henv, hbound, transition, h⟩
      exact ⟨_, henv, hbound, transition, h, rfl⟩
  have hevaluates : (∃ t, evaluateAuthoritativeTransitionV1 i.fresh s.projection i.command
      i.trustedNow i.verifiedProofs = .ok t) ↔ _ :=
    evaluateAuthoritativeTransitionV1_reserve_iff hc
  rw [he, reservationIdFor_other haction] at hevaluates
  rw [OtherChecks, hstep]
  constructor
  · rintro ⟨t, next, ht, -⟩
    obtain ⟨henv, hbound, h⟩ := (hstep s).mp ⟨t, ht⟩
    obtain ⟨h, hcancelled⟩ := hevaluates.mp h
    exact ⟨⟨henv, hbound, h⟩, hcancelled⟩
  · rintro ⟨⟨henv, hbound, h⟩, hcancelled⟩
    obtain ⟨t, ht⟩ := (hstep s).mpr ⟨henv, hbound, hevaluates.mpr ⟨h, hcancelled⟩⟩
    refine ⟨t, ?_⟩
    obtain ⟨-, -, transition, htransition, rfl⟩ :=
      (runStep_quiet_iff hkind hinvalidate hrevokes).mp ht
    obtain ⟨-, r, hr, -, rfl⟩ := evaluateAuthoritativeTransitionV1_eq_ok htransition
    simp only [evaluateCommand, hc, evaluateReserveExecution, bind_eq_ok, exists_unit_eq_ok,
      okOr_eq_ok, rejectIf_eq_ok, exists_const, Except.ok.injEq] at hr
    obtain ⟨-, -, -, -, -, a, -, permitUntil, -, -, reservationId, hid, rfl⟩ := hr
    refine ⟨_, ht, rfl, rfl, rfl, rfl, ?_⟩
    simp only [he, reservationIdFor, if_neg haction.symm, bind_eq_ok, rejectIf_eq_ok, exists_const,
      Except.ok.injEq] at hid
    exact hid.2.symm

/-- **When an execution that has ended lets another action be reserved**: for every run from a state
in which it has ended, with no reservation in between. -/
theorem ended_execution_unblocks_iff {is : List RunInputV1} {actionRef : AuthoritativeRecordRefV1}
    (he : s.projection.execution = some e) (hended : EndedUndispatched e.state)
    (hrun : Run RunStep s is t) (hreserves : ∀ j ∈ is, ¬ j.Reserves)
    (hc : i.command.command.ReservesFirst actionRef) (hrevokes : i.revokes = false)
    (haction : actionRef ≠ e.actionRef) (hchecks : OtherChecks t i) :
    AcceptsFirst t i actionRef ↔ e.state = .cancelled ∨ ∃ j ∈ is, j.Withdraws := by
  rcases ended_run hrun he hended hreserves with ⟨hnone, he'⟩ | ⟨hsome, he'⟩
  · rw [reserves_iff hc hrevokes he' haction]
    simp only [hchecks, true_and, hnone, or_false]
  · rw [reserves_iff hc hrevokes he' haction]
    simp only [hchecks, true_and, hsome, or_true, withState_state]

end Runs

/-! ### A sample reservation -/

namespace Sample

/-- The action that replaced another is admitted. -/
def renewedAdmitted : RunStateV1 → RunInputV1 := input 2003 owner admitAction noClosure

def reserveRenewed (p : IdrRunProjectionV1) : IdrCommandV1 :=
  .reserveExecution (current p .actionAdmissionDecision) (current p .action)
    (current p .action).recordDigest provider owner "key-1" 1 4000 zeroDigest

def renewedReserved : RunStateV1 → RunInputV1 := input 2004 owner reserveRenewed noClosure

theorem renewedReserved_reserves (s : RunStateV1) :
    (renewedReserved s).command.command.ReservesFirst (current s.projection .action) :=
  ⟨_, _, _, _, _, _, _, rfl⟩

/-- The reservation of the new action passes the checks other than the attempt rule; whether it is
accepted is `accepted`. -/
def reservesRenewed (accepted : Bool) (e : ExecutionProjectionV1) (s : RunStateV1) : Bool :=
  let _ := crypto
  decide (current s.projection .action ≠ e.actionRef) &&
    isOkAnd (runStep s.withoutExecution (renewedReserved s)) (fun _ => true) &&
    isOkAnd (runStep s (renewedReserved s)) (fun _ => true) == accepted

/-- The execution has ended in `state`, and `is` lead to the reservation of the new action. -/
def endsIn (state : ExecutionAggregateStateV1) (is : List (RunStateV1 → RunInputV1))
    (accepted : Bool) (s : RunStateV1) : Bool :=
  s.projection.execution.any fun e => e.state = state &&
    (@runScript _ _ _ (@runStep crypto) (fun _ i => ¬ i.Reserves ∧ ¬ i.Withdraws) _ s is).any
      (reservesRenewed accepted e)

set_option maxRecDepth 10000 in
/-- The permit runs out before a new action is recorded and admitted. -/
def permitExpired : RunScript (fun _ _ => True)
    (endsIn .expired [actionReplaced, renewedAdmitted] false) where
  inputs := toPermit ++ [leaseExpires]
  leads := by decide +kernel

set_option maxRecDepth 10000 in
/-- The permit is cancelled by the new action. -/
def permitCancelled : RunScript (fun _ _ => True) (endsIn .cancelled [renewedAdmitted] true) where
  inputs := toPermit ++ [actionReplaced]
  leads := by decide +kernel

/-- What the two scripts say. -/
theorem ended_of_script {is : List (RunStateV1 → RunInputV1)} {state : ExecutionAggregateStateV1}
    {accepted : Bool} (script : RunScript (fun _ _ => True) (endsIn state is accepted)) :
    ∃ s e js t, Reachable RunInit (@RunStep crypto) s ∧ s.projection.execution = some e ∧
      e.state = state ∧ @Run _ _ (@RunStep crypto) s js t ∧
      (∀ j ∈ js, ¬ j.Reserves ∧ ¬ j.Withdraws) ∧
      current t.projection .action ≠ e.actionRef ∧ @OtherChecks crypto t (renewedReserved t) ∧
      ((∃ r, @RunStep crypto t (renewedReserved t) r) ↔ accepted = true) := by
  obtain ⟨s, is, hrun, hends⟩ := script.run
  obtain ⟨e, he, hends⟩ := (Option.any_eq_true _ _).mp hends
  rw [Bool.and_eq_true, decide_eq_true_eq] at hends
  obtain ⟨t, ht, hreserves⟩ := (Option.any_eq_true _ _).mp hends.2
  obtain ⟨js, hrun'⟩ := run_of_runScript ht
  simp only [reservesRenewed, Bool.and_eq_true, beq_iff_eq, decide_eq_true_eq, isOkAnd_iff,
    and_true] at hreserves
  obtain ⟨⟨haction, hchecks⟩, haccepted⟩ := hreserves
  refine ⟨s, e, js, t, ⟨init, is, runInit_init, hrun.of_restrict⟩, he, hends.1, hrun'.of_restrict,
    hrun'.forall_mem, haction, hchecks, ?_⟩
  rw [← haccepted, isOkAnd_iff]
  simp only [and_true]
  rfl

end Sample

/-- The reservation of a new action after a cancelled one, in the sample run. -/
theorem ended_execution_unblocks_sample : ∃ s e js t i actionRef,
    Reachable RunInit (@RunStep Sample.crypto) s ∧ s.projection.execution = some e ∧
    e.state = .cancelled ∧ @Run _ _ (@RunStep Sample.crypto) s js t ∧
    i.command.command.ReservesFirst actionRef ∧ actionRef ≠ e.actionRef ∧
    @AcceptsFirst Sample.crypto t i actionRef := by
  obtain ⟨s, e, js, t, hs, he, hstate, hrun, hquiet, haction, hchecks, -⟩ :=
    Sample.ended_of_script Sample.permitCancelled
  have hreserves := Sample.renewedReserved_reserves t
  exact ⟨s, e, js, t, _, _, hs, he, hstate, hrun, hreserves, haction,
    (@ended_execution_unblocks_iff Sample.crypto _ _ _ _ _ _ he (.inl hstate) hrun
      (fun j hj => (hquiet j hj).1) hreserves rfl haction hchecks).mpr (.inl hstate)⟩

/-- **An execution that has run out blocks the next action**: its reservation is refused, although
it passes the checks other than the attempt rule. -/
theorem expired_execution_blocks : ∃ s e js t i actionRef,
    Reachable RunInit (@RunStep Sample.crypto) s ∧ s.projection.execution = some e ∧
    e.state = .expired ∧ @Run _ _ (@RunStep Sample.crypto) s js t ∧
    i.command.command.ReservesFirst actionRef ∧ actionRef ≠ e.actionRef ∧
    @OtherChecks Sample.crypto t i ∧ ¬ ∃ r, @RunStep Sample.crypto t i r := by
  obtain ⟨s, e, js, t, hs, he, hstate, hrun, -, haction, hchecks, hrefused⟩ :=
    Sample.ended_of_script Sample.permitExpired
  refine ⟨s, e, js, t, _, _, hs, he, hstate, hrun, Sample.renewedReserved_reserves t, haction,
    hchecks, ?_⟩
  rw [hrefused]
  decide

end Idr
