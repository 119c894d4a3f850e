/-
Idr/TrustChain/ClosedRuns.lean

Closed runs and closed executions.

The evaluator closes a run through its table of command states: a cancelled
run admits no command at all, a settled one only observations, and an
invalidated one the receipt and its cancellation besides.  Two ways lead
past the table.  A revocation of the admission is not looked up in it and
reopens whatever it finds; and a record that replaces a current one is
followed by a closure, which moves the run back to reconciliation when its
execution is there.  `ReopensRun` says when, and
`closed_stays_closed` that nothing else reopens a run or an execution.
-/
import Idr.Store.ExecutionGuard

namespace Idr

/-! ### The property -/

/-- The states in which a run is closed. -/
def ClosedRun (run : IdrRunStateV1) : Prop :=
  run = .cancelled ∨ Settled run ∨ run = .invalidated

/-- The commands that lead out of an invalidated run. -/
def IdrCommandV1.leavesInvalidated : IdrCommandV1 → Bool
  | .cancelRun _ | .commitExecutionReceipt _ _ _ _ _ _ => true
  | _ => false

/-- **Closed runs and closed executions stay closed**: a cancelled or settled run keeps its state
for good, an invalidated one until it is cancelled or a receipt arrives, and a terminal execution
does not come back to life under the same attempt. -/
structure ClosedStaysClosed (step : RunStateV1 → RunInputV1 → RunStateV1 → Prop) : Prop where
  settled : ∀ s is t, Reachable RunInit step s → Run step s is t →
    s.projection.state = .cancelled ∨ Settled s.projection.state →
    t.projection.state = s.projection.state
  invalidated : ∀ s i t, Reachable RunInit step s → step s i t →
    s.projection.state = .invalidated →
    t.projection.state = .invalidated ∨
      i.revokes = false ∧ i.command.command.leavesInvalidated = true
  execution : ∀ s is t e e', Reachable RunInit step s → Run step s is t →
    s.projection.execution = some e → e.state.isTerminal = true →
    t.projection.execution = some e' → SameAttempt e e' → e'.state.isTerminal = true

/-! ### What reopens a run -/

/-- The step replaces a current record, other than by a receipt, while the execution awaits its
reconciliation or comes to await it by the closure. -/
def ReplacesUnderReconciliation (s : RunStateV1) (i : RunInputV1) : Prop :=
  i.revokes = false ∧ i.command.command.leavesInvalidated = false ∧
    (i.command.command.expectedCandidateKind.bind s.projection.records).isSome = true ∧
    ∃ e, s.projection.execution = some e ∧ (closeAll i.closure e).state = .reconciliationRequired

/-- The step reopens a closed run. -/
def ReopensRun (s : RunStateV1) (i : RunInputV1) : Prop :=
  ClosedRun s.projection.state ∧ (i.revokes = true ∨ ReplacesUnderReconciliation s i)

instance (run : IdrRunStateV1) : Decidable (ClosedRun run) := by
  unfold ClosedRun Settled
  infer_instance

instance (s : RunStateV1) (i : RunInputV1) : Decidable (ReplacesUnderReconciliation s i) :=
  decidable_of_iff (i.revokes = false ∧ i.command.command.leavesInvalidated = false ∧
      (i.command.command.expectedCandidateKind.bind s.projection.records).isSome = true ∧
      s.projection.execution.any (fun e =>
        (closeAll i.closure e).state = .reconciliationRequired) = true) (by
    simp [ReplacesUnderReconciliation, Option.any_eq_true])

instance (s : RunStateV1) (i : RunInputV1) : Decidable (ReopensRun s i) := by
  unfold ReopensRun
  infer_instance

/-! ### One step -/

section Effects

variable {fresh : FreshIdsV1} {now : Nat} {p : IdrRunProjectionV1} {c : IdrCommandV1}
  {run : IdrRunStateV1} {after : Option ExecutionProjectionV1} {revokes : Bool}

/-- A command that a closed run admits leaves its state alone, but for the two that lead out of an
invalidated one; and then, or when it names a kind of record, it leaves the execution alone. -/
theorem LifecycleEffect.closedRun (hallowed : commandStateAllowed p.state c = true)
    (h : LifecycleEffect fresh now p c run after) (hclosed : ClosedRun p.state) :
    p.state = .invalidated ∧ c.leavesInvalidated = true ∨
      run = p.state ∧ (c.expectedCandidateKind.isSome = true → after = p.execution) := by
  have hadmits : p.state = .invalidated ∧ c.leavesInvalidated = true ∨ c.mayKeep = true ∨
      ∃ reservationId, c = .expireExecutionLease reservationId := by
    rcases hclosed with hrun | (hrun | hrun | hrun) | hrun <;> rw [hrun] at hallowed <;>
      cases c <;> simp_all [commandStateAllowed, IdrCommandV1.mayKeep,
        IdrCommandV1.leavesInvalidated]
  rcases hadmits with hleaves | hkeep | ⟨reservationId, rfl⟩
  · exact .inl hleaves
  · right
    cases h with
    | kept => exact ⟨rfl, fun _ => rfl⟩
    | reserved hreserves => cases c <;> simp_all [IdrCommandV1.mayKeep, IdrCommandV1.reserves]
    | withdrawn hc => rcases hc with rfl | rfl <;> cases hkeep
    | expired hc =>
      refine ⟨rfl, fun hkind => ?_⟩
      rcases hc with rfl | rfl <;> cases hkind
    | blocked intent hblocks => simp [IdrCommandV1.mayKeep, hblocks] at hkeep
    | started | superseded | delivered | dispatched | overdue | received | invalidated
    | cancelled => cases hkeep
  · refine .inr ⟨?_, fun hkind => by cases hkind⟩
    cases h with
    | reserved hreserves => cases hreserves
    | kept | withdrawn | expired | overdue => rfl

/-- **What one step does to a terminal execution**, when it is no revocation: it stays terminal, or
a new attempt takes its place. -/
theorem LifecycleEffect.terminal (h : LifecycleEffect fresh now p c run after)
    {e e' : ExecutionProjectionV1} (he : p.execution = some e)
    (hterminal : e.state.isTerminal = true)
    (he' : after = some e') :
    e'.reservationId = e.reservationId ∧ e'.attempt = e.attempt ∧ e'.state.isTerminal = true ∨
      e'.reservationId = fresh.reservationId ∨
      e'.reservationId = e.reservationId ∧ e.attempt < e'.attempt := by
  have hsame : ∀ state : ExecutionAggregateStateV1, state.isTerminal = true →
      some (e.withState state) = some e' →
      e'.reservationId = e.reservationId ∧ e'.attempt = e.attempt ∧ e'.state.isTerminal = true := by
    rintro state hstate ⟨⟩
    exact ⟨rfl, rfl, hstate⟩
  -- a command that expects a live state finds none
  have hlive : ∀ {e₀ : ExecutionProjectionV1} {state : ExecutionAggregateStateV1},
      p.execution = some e₀ → e₀.state = state → state.isTerminal = false → False := by
    intro e₀ state he₀ hstate hlive
    obtain rfl := Option.some.inj (he.symm.trans he₀)
    rw [hstate, hlive] at hterminal
    cases hterminal
  cases h with
  | kept | started | blocked | cancelled =>
    rw [he] at he'
    exact .inl (hsame e.state hterminal he')
  | superseded =>
    rw [he] at he'
    exact .inl (hsame _ (by rw [supersededState, if_pos hterminal]; exact hterminal) he')
  | invalidated recordRef =>
    rw [he, Option.map_some, if_neg (by simp [hterminal])] at he'
    exact .inl (hsame e.state hterminal he')
  | @withdrawn _ e₀ _ he₀ =>
    obtain rfl := Option.some.inj (he.symm.trans he₀)
    refine .inl (hsame _ ?_ he')
    rcases hstate : e.state <;> rw [hstate] at hterminal <;> first | rfl | cases hterminal
  | @reserved _ next _ _ _ _ hids =>
    obtain rfl := Option.some.inj he'
    rcases hids with hid | ⟨last, hlast, hid, hattempt⟩
    · exact .inr (.inl hid)
    · obtain rfl := Option.some.inj (he.symm.trans hlast)
      exact .inr (.inr ⟨hid, by omega⟩)
  | delivered he₀ _ hstate => exact (hlive he₀ hstate rfl).elim
  | dispatched he₀ _ hstate => exact (hlive he₀ hstate rfl).elim
  | expired _ he₀ _ hopen => rcases hopen with hstate | hstate <;> exact (hlive he₀ hstate rfl).elim
  | overdue he₀ _ hstate => rcases hstate with hstate | hstate <;> exact (hlive he₀ hstate rfl).elim
  | received he₀ hflight =>
    rcases hflight with hstate | hstate | hstate <;> exact (hlive he₀ hstate rfl).elim

theorem isTerminal_invalidatedState {state : ExecutionAggregateStateV1}
    (h : state.isTerminal = true) : (invalidatedState state).isTerminal = true := by
  cases state <;> first | rfl | cases h

theorem isTerminal_closeAll (closure : List AuthoritativeRecordRefV1) {e : ExecutionProjectionV1}
    (h : e.state.isTerminal = true) : (closeAll closure e).state.isTerminal = true := by
  unfold closeAll
  split
  · exact isTerminal_invalidatedState h
  · exact h

theorem RunEffect.terminal (h : RunEffect fresh now p c false run after)
    {e e' : ExecutionProjectionV1} (he : p.execution = some e)
    (hterminal : e.state.isTerminal = true)
    (he' : after = some e') :
    e'.reservationId = e.reservationId ∧ e'.attempt = e.attempt ∧ e'.state.isTerminal = true ∨
      e'.reservationId = fresh.reservationId ∨
      e'.reservationId = e.reservationId ∧ e.attempt < e'.attempt := by
  -- a closure after the command changes neither the attempt nor that it is terminal
  have hclosed : ∀ {run execution} (closure : List AuthoritativeRecordRefV1),
      LifecycleEffect fresh now p c run execution →
      execution.map (closeAll closure) = some e' →
      e'.reservationId = e.reservationId ∧ e'.attempt = e.attempt ∧ e'.state.isTerminal = true ∨
        e'.reservationId = fresh.reservationId ∨
        e'.reservationId = e.reservationId ∧ e.attempt < e'.attempt := by
    intro run execution closure hlife hafter
    obtain ⟨e₀, he₀, rfl⟩ := Option.map_eq_some_iff.mp hafter
    have hstep := hlife.terminal he hterminal he₀
    have hstate := closeAll_withState closure e₀
    have hid : (closeAll closure e₀).reservationId = e₀.reservationId := by rw [hstate]; rfl
    have hattempt : (closeAll closure e₀).attempt = e₀.attempt := by rw [hstate]; rfl
    rw [hid, hattempt]
    exact hstep.imp_left fun h => ⟨h.1, h.2.1, isTerminal_closeAll closure h.2.2⟩
  cases h with
  | evaluated _ hlife => exact hlife.terminal he hterminal he'
  | closed closure _ hlife => exact hclosed closure hlife he'
  | invalidated _ _ closure _ _ hlife => exact hclosed closure hlife he'

end Effects

/-- A terminal execution without a result is cancelled or expired, and a revocation cancels it. -/
theorem isTerminal_revokedState {state : ExecutionAggregateStateV1} (h : state.isTerminal = true)
    (hresult : ¬ HasResult state) : (revokedState state).isTerminal = true := by
  cases state <;> simp_all [HasResult, revokedState, crossedDispatchBoundary,
    ExecutionAggregateStateV1.isTerminal]

section Steps

variable [Crypto] {s t r : RunStateV1} {i : RunInputV1} {transition : IdrTransitionV1}

/-- **What one step does to a closed run**: nothing, unless it reopens it or leads out of an
invalidated one. -/
theorem runTransition_closedRun (h : runTransition s.projection i = .ok transition)
    (hclosed : ClosedRun s.projection.state) (hopen : ¬ ReopensRun s i) :
    s.projection.state = .invalidated ∧ i.revokes = false ∧
        i.command.command.leavesInvalidated = true ∨
      transition.projection.state = s.projection.state := by
  have hrevokes : i.revokes = false := by
    rw [← Bool.not_eq_true]
    exact fun hrevokes => hopen ⟨hclosed, .inl hrevokes⟩
  obtain ⟨-, h⟩ := runTransition_eq_ok.mp h
  rw [if_neg (by simp [hrevokes]), evaluatedTransition] at h
  simp only [bind_eq_ok] at h
  obtain ⟨t₀, ht₀, h⟩ := h
  have hallowed := checkCommand_state (evaluateAuthoritativeTransitionV1_eq_ok ht₀).1
  rcases (evaluateAuthoritativeTransitionV1_effect ht₀).closedRun hallowed hclosed with
    ⟨hinvalidated, hleaves⟩ | ⟨hrun, hkept⟩
  · exact .inl ⟨hinvalidated, hrevokes, hleaves⟩
  · by_cases hleaves : i.command.command.leavesInvalidated = true
    · by_cases hinvalidated : s.projection.state = .invalidated
      · exact .inl ⟨hinvalidated, hrevokes, hleaves⟩
      · -- no other closed run admits the receipt or the cancellation
        rcases hclosed with hstate | (hstate | hstate | hstate) | hstate <;>
          rw [hstate] at hallowed <;> cases hc : i.command.command <;>
          simp_all [commandStateAllowed, IdrCommandV1.leavesInvalidated]
    · rw [Bool.not_eq_true] at hleaves
      right
      split at h
      case h_1 recordRef reasonRef hc =>
        rcases hclosed with hstate | (hstate | hstate | hstate) | hstate <;>
          rw [hstate, hc] at hallowed <;> simp [commandStateAllowed] at hallowed
      case h_2 =>
        split at h
        case h_1 =>
          simp only [Except.ok.injEq] at h
          exact h ▸ hrun
        case h_2 previous hprevious =>
          split at h
          case isTrue =>
            simp only [bind_eq_ok, Except.ok.injEq] at h
            obtain ⟨closure, rfl, rfl⟩ := h
            obtain ⟨kind, hkind, -⟩ := Option.bind_eq_some_iff.mp hprevious
            -- the closure moves the state only when the execution awaits its reconciliation
            have hnone : ¬ ((s.projection.execution.map (closeAll i.closure)).any
                (·.state = .reconciliationRequired) = true) := by
              rintro hany
              obtain ⟨e, he, hstate⟩ := (Option.any_eq_true _ _).mp hany
              obtain ⟨e₀, he₀, rfl⟩ := Option.map_eq_some_iff.mp he
              refine hopen ⟨hclosed, .inr ⟨hrevokes, hleaves, by simp [hprevious], e₀, he₀, ?_⟩⟩
              simpa using hstate
            have hexecution : t₀.projection.execution = s.projection.execution :=
              hkept (by rw [hkind]; rfl)
            obtain ⟨-, hstate⟩ :=
              applyRepositoryInvalidationClosure_effect t₀.projection i.closure false
            show (applyRepositoryInvalidationClosure t₀.projection i.closure false).state = _
            rw [hstate, if_neg (by simp), hexecution, closedRunState, if_neg hnone, hrun]
          case isFalse =>
            simp only [Except.ok.injEq] at h
            exact h ▸ hrun

/-- The execution `e` is over: what the run holds under its reservation is a later attempt, or the
same one, terminal. -/
def Over (e : ExecutionProjectionV1) (s : RunStateV1) : Prop :=
  e.reservationId ∈ s.drawn ∧
    ∀ e', s.projection.execution = some e' → e'.reservationId = e.reservationId →
      e.attempt < e'.attempt ∨ e'.attempt = e.attempt ∧ e'.state.isTerminal = true

/-- **What one step does to an execution that is over.** -/
theorem over_step {e : ExecutionProjectionV1} (hs : Reachable RunInit RunStep s) (h : Over e s)
    (hstep : RunStep s i t) (hopen : ¬ ReopensRun s i) : Over e t := by
  obtain ⟨henv, -, hdrawn, transition, htransition, ht⟩ := runStep_eq_ok hstep
  have heffect := runTransition_effect htransition
  rw [← ht] at heffect
  refine ⟨by rw [hdrawn]; exact List.mem_append_right _ h.1, fun e' he' hid => ?_⟩
  have hfresh : e.reservationId ≠ i.fresh.reservationId := by
    intro hsame
    have hnew := henv.2.2
    simp only [FreshIdsV1.ids, List.all_cons, List.all_nil, Bool.and_eq_true,
      Bool.not_eq_true', List.contains_eq_mem, decide_eq_false_iff_not] at hnew
    exact hnew.2.2.1 (hsame ▸ h.1)
  rcases heffect.change with ⟨f, hmoved⟩ | ⟨-, -, next, hnext, -, -, -, hids⟩
  · rw [he'] at hmoved
    obtain ⟨last, hlast, rfl⟩ := Option.map_eq_some_iff.mp hmoved.symm
    rcases h.2 last hlast hid with hlater | ⟨hattempt, hterminal⟩
    · exact .inl hlater
    · rcases hrevokes : i.revokes with _ | _
      · rw [hrevokes] at heffect
        rcases heffect.terminal hlast hterminal he' with ⟨-, -, hstate⟩ | hother | ⟨-, hlater⟩
        · exact .inr ⟨hattempt, hstate⟩
        · exact absurd (hid.symm.trans hother) hfresh
        · exact .inl (hattempt ▸ hlater)
      · -- what a revocation brings back to life has a result, and its run is closed
        have hresult : ¬ HasResult last.state := by
          intro hresult
          have hsettled := ((executionInv_reachable hs).1 last hlast).2.2 hresult
          exact hopen ⟨.inr (.inl hsettled), .inl hrevokes⟩
        rw [hrevokes] at heffect
        generalize t.projection.state = run, t.projection.execution = after at heffect he'
        cases heffect with
        | revoked =>
          rw [hlast, Option.map_some, Option.some.injEq] at he'
          refine .inr ⟨hattempt, ?_⟩
          rw [← he', withState_state]
          exact isTerminal_revokedState hterminal hresult
  · obtain rfl := Option.some.inj (hnext.symm.trans he')
    rcases hids with hnew | ⟨last, hlast, hsame, hattempt⟩
    · exact absurd (hid.symm.trans hnew) hfresh
    · left
      rcases h.2 last hlast (hsame ▸ hid) with hlater | ⟨hold, -⟩ <;> omega

end Steps

/-! ### Whole runs -/

section Runs

variable [Crypto]

/-- **Closed runs and executions stay closed** in every run that no step reopens. -/
theorem closed_stays_closed :
    ClosedStaysClosed (Restrict RunStep fun s i => ¬ ReopensRun s i) where
  settled := by
    intro s is t hs hrun hclosed
    refine hrun.preserves (P := fun u => u.projection.state = s.projection.state) ?_ rfl
    intro u i v hu hstep
    obtain ⟨-, -, -, transition, htransition, hv⟩ := runStep_eq_ok hstep.2
    have hrun : ClosedRun u.projection.state := by
      rw [hu]
      exact hclosed.imp_right .inl
    rw [hv, ← hu]
    refine (runTransition_closedRun htransition hrun hstep.1).resolve_left ?_
    rintro ⟨hinvalidated, -⟩
    rw [hu] at hinvalidated
    rcases hclosed with hstate | hstate | hstate | hstate <;> rw [hstate] at hinvalidated <;>
      cases hinvalidated
  invalidated := by
    intro s i t hs hstep hinvalidated
    obtain ⟨-, -, -, transition, htransition, ht⟩ := runStep_eq_ok hstep.2
    rcases runTransition_closedRun htransition (.inr (.inr hinvalidated)) hstep.1 with
      ⟨-, hleaves⟩ | hkept
    · exact .inr hleaves
    · exact .inl (ht ▸ hkept.trans hinvalidated)
  execution := by
    intro s is t e e' hs hrun he hterminal he' hsame
    have hover : Over e s := by
      refine ⟨(executionInv_reachable hs.of_restrict).2 e he, fun e₀ he₀ _ => .inr ?_⟩
      obtain rfl := Option.some.inj (he.symm.trans he₀)
      exact ⟨rfl, hterminal⟩
    -- along the run the state before each step is reachable
    have hafter : Reachable RunInit RunStep t ∧ Over e t := by
      refine hrun.preserves (P := fun u => Reachable RunInit RunStep u ∧ Over e u) ?_
        ⟨hs.of_restrict, hover⟩
      intro u i v hu hstep
      exact ⟨hu.1.snoc hstep.2, over_step hu.1 hu.2 hstep.2 hstep.1⟩
    rcases hafter.2.2 e' he' hsame.1 with hlater | ⟨-, hstate⟩
    · exact absurd hsame.2 hlater.ne'
    · exact hstate

omit [Crypto]

/-- A permit of the sample run is to be delivered when a bound proof has been revoked. -/
def Sample.admissionRevoked (s : RunStateV1) : RunInputV1 :=
  { input 2003 provider deliverPermit noClosure s with admissionRevoked := true }

/-- The permit expires, and the run is cancelled; or it is cancelled at once, and then the admission
is revoked. -/
def Sample.closesRun (s : RunStateV1) : Bool :=
  let along := @runScript _ _ _ (@runStep crypto) (fun s i => ¬ ReopensRun s i) _
  (along s [leaseExpires]).any (fun t =>
      t.projection.execution.any (fun e => e.state.isTerminal) &&
      (along t [runCancelled]).any fun r =>
        t.projection.execution.any fun e => r.projection.execution.any fun e' =>
          e'.reservationId = e.reservationId && e'.attempt = e.attempt) &&
    isOkAnd (@runStep crypto s (runCancelled s)) fun t =>
      t.projection.state = .cancelled &&
        isOkAnd (@runStep crypto t (admissionRevoked t)) fun r => r.projection.state ≠ .cancelled

set_option maxRecDepth 10000 in
def Sample.permitWaits : RunScript (fun s i => ¬ ReopensRun s i) closesRun where
  inputs := toPermit
  leads := by decide +kernel

/-- The expired execution of the sample run stays terminal when the run is cancelled. -/
theorem closed_stays_closed_sample : ∃ s is t e e',
    s.projection.execution = some e ∧ e.state.isTerminal = true ∧
      @Run _ _ (@RunStep Sample.crypto) s is t ∧ t.projection.execution = some e' ∧
      SameAttempt e e' ∧ e'.state.isTerminal = true := by
  obtain ⟨s, is, hrun, h⟩ := Sample.permitWaits.run
  simp only [Sample.closesRun, Bool.and_eq_true, Option.any_eq_true, decide_eq_true_eq] at h
  obtain ⟨⟨t, ht, ⟨e, he, hterminal⟩, r, hr, e₀, he₀, e', he', hid, hattempt⟩, -⟩ := h
  obtain rfl := Option.some.inj (he.symm.trans he₀)
  obtain ⟨js, hexpired⟩ := run_of_runScript ht
  obtain ⟨ks, hcancelled⟩ := run_of_runScript hr
  have hreachable : Reachable RunInit (Restrict (@RunStep Sample.crypto)
      fun s i => ¬ ReopensRun s i) t :=
    ⟨Sample.init, is ++ js, Sample.runInit_init, hrun.append hexpired⟩
  exact ⟨t, ks, r, e, e', he, hterminal, hcancelled.of_restrict, he', ⟨hid, hattempt⟩,
    (@closed_stays_closed Sample.crypto).execution t ks r e e' hreachable hcancelled he
      hterminal he'
      ⟨hid, hattempt⟩⟩

/-- The cancelled sample run does not stay cancelled: the revocation reopens it. -/
theorem closed_reopened : ¬ ClosedStaysClosed (@RunStep Sample.crypto) := by
  intro hcloses
  obtain ⟨s, is, hrun, h⟩ := Sample.permitWaits.run
  simp only [Sample.closesRun, Bool.and_eq_true, isOkAnd_iff, decide_eq_true_eq] at h
  obtain ⟨-, t, ht, hcancelled, r, hr, hreopened⟩ := h
  have hreachable : Reachable RunInit (@RunStep Sample.crypto) t :=
    Reachable.snoc ⟨Sample.init, is, Sample.runInit_init, hrun.of_restrict⟩ ht
  apply hreopened
  rw [← hcancelled]
  exact hcloses.settled t _ r hreachable (.cons hr (.nil r)) (.inl hcancelled)

end Runs

end Idr
