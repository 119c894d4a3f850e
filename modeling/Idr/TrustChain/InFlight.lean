/-
Idr/TrustChain/InFlight.lean

Executions in flight: dispatched, with a result that is not yet known.

Two properties of every run.  A dispatch is never duplicated: it stays in
flight under its reservation, attempt, permit and nonce until its own
receipt arrives (`DispatchNeverDuplicated`).  And it can always be closed:
while it is in flight the run admits a receipt (`ReceiptsOpen`).

Both hold in the runs whose steps leave out a few cases, and fail without
that.  An open reconciliation is abandoned by the commands that do not
know about it (`AbandonsDispatch`), and a run may be closed, or a permit
dispatched, in a run state that admits no receipt (`StrandsDispatch`).
What one step does to an execution in flight is `inFlight_step`; the
results about runs are inductions over it.
-/
import Idr.TrustChain.Lifecycle

namespace Idr

/-! ### Identity of a dispatch -/

/-- The four identifiers under which an execution is dispatched. -/
structure DispatchIdentity where
  reservationId : Uuid
  attempt : Nat
  permitId : Uuid
  dispatchNonce : Text
  deriving DecidableEq

/-- The identity of an execution. -/
def ExecutionProjectionV1.identity (e : ExecutionProjectionV1) : DispatchIdentity :=
  ⟨e.reservationId, e.attempt, e.permitId, e.dispatchNonce⟩

@[simp] theorem withState_identity (e : ExecutionProjectionV1) (s : ExecutionAggregateStateV1) :
    (e.withState s).identity = e.identity := rfl

/-- The dispatch `id` is in flight in `s`. -/
def InFlightAs (id : DispatchIdentity) (s : RunStateV1) : Prop :=
  ∃ e, s.projection.execution = some e ∧ e.identity = id ∧ InFlight e.state

/-- The command commits a receipt for the permit, attempt and nonce of `id`. -/
def ReceiptFor (id : DispatchIdentity) (c : IdrCommandV1) : Prop :=
  ∃ receipt reservationId providerRef, c = .commitExecutionReceipt receipt reservationId
    id.permitId providerRef id.dispatchNonce id.attempt

/-- The step reserves an execution. -/
def RunInputV1.Reserves (i : RunInputV1) : Prop :=
  i.revokes = false ∧ i.command.command.reserves = true

/-- **An in-flight dispatch is never duplicated.** From a dispatched execution on, as long as no
receipt for it is committed, it stays in flight under the same identity and nothing is reserved. -/
def DispatchNeverDuplicated (step : RunStateV1 → RunInputV1 → RunStateV1 → Prop) : Prop :=
  ∀ s e is t, Reachable RunInit step s → s.projection.execution = some e →
    e.state = .dispatchStarted → Run step s is t →
    (∀ i ∈ is, ¬ ReceiptFor e.identity i.command.command) →
    InFlightAs e.identity t ∧ ∀ i ∈ is, ¬ i.Reserves

/-- While an execution is in flight, its receipt is not refused for the state of the run. -/
def ReceiptsOpen (s : RunStateV1) : Prop :=
  ∀ e, s.projection.execution = some e → InFlight e.state → ∀ receipt,
    requireCommandState s.projection.state (.commitExecutionReceipt receipt e.reservationId
      e.permitId e.providerRef e.dispatchNonce e.attempt) = .ok ()

/-! ### What goes wrong -/

/-- The commands that cancel an execution whose reconciliation is open. -/
def CommandAbandons (e : ExecutionProjectionV1) : IdrCommandV1 → Prop
  | .recordAction _ | .deliverPermit _ _ | .startDispatch _ _ => True
  | .invalidateRecord recordRef _ => e.actionRef.recordId = recordRef.recordId
  | _ => False

instance (e : ExecutionProjectionV1) (c : IdrCommandV1) : Decidable (CommandAbandons e c) := by
  unfold CommandAbandons
  split <;> infer_instance

/-- The step abandons an open reconciliation. -/
def AbandonsDispatch (s : RunStateV1) (i : RunInputV1) : Prop :=
  i.revokes = false ∧ ∃ e, s.projection.execution = some e ∧ e.state = .reconciliationRequired ∧
    CommandAbandons e i.command.command

instance (s : RunStateV1) (i : RunInputV1) : Decidable (AbandonsDispatch s i) :=
  decidable_of_iff (i.revokes = false ∧ s.projection.execution.any (fun e =>
      e.state = .reconciliationRequired ∧ CommandAbandons e i.command.command) = true) (by
    simp [AbandonsDispatch, Option.any_eq_true])

/-- The run states that admit a receipt. -/
def AdmitsReceipt (run : IdrRunStateV1) : Prop :=
  run = .running ∨ run = .reconciliationRequired ∨ run = .invalidated

instance (run : IdrRunStateV1) : Decidable (AdmitsReceipt run) := by
  unfold AdmitsReceipt
  infer_instance

/-- The commands that leave an execution in flight in a run state that admits no receipt. -/
def CommandStrands (p : IdrRunProjectionV1) (e : ExecutionProjectionV1) (now : Nat) :
    IdrCommandV1 → Prop
  | .cancelRun _ => InFlight e.state
  | .recordIntent intent => InFlight e.state ∧ blocksRun intent = true
  | .startDispatch _ _ =>
    e.state = .permitDelivered ∧ AuthorityCurrent p e now ∧ ¬ AdmitsReceipt p.state
  | _ => False

/-- The step strands an execution in flight. -/
def StrandsDispatch (s : RunStateV1) (i : RunInputV1) : Prop :=
  i.revokes = false ∧ ∃ e, s.projection.execution = some e ∧
    CommandStrands s.projection e i.trustedNow i.command.command

instance (p : IdrRunProjectionV1) (e : ExecutionProjectionV1) (now : Nat) (c : IdrCommandV1) :
    Decidable (CommandStrands p e now c) := by
  unfold CommandStrands
  split <;> infer_instance

instance (s : RunStateV1) (i : RunInputV1) : Decidable (StrandsDispatch s i) :=
  decidable_of_iff (i.revokes = false ∧ s.projection.execution.any (fun e =>
      CommandStrands s.projection e i.trustedNow i.command.command) = true) (by
    simp [StrandsDispatch, Option.any_eq_true])

/-! ### The sample run -/

/-- The execution is dispatched.  From there the run can be cancelled; or the lease runs out, and a
new action cancels the open reconciliation. -/
def Sample.leavesDispatch (s : RunStateV1) : Bool :=
  executionIs .dispatchStarted s &&
    isOkAnd (@runStep crypto s (runCancelled s)) (fun t =>
      executionIs .dispatchStarted t && t.projection.state = .cancelled) &&
    isOkAnd (@runStep crypto s (leaseExpires s)) fun t =>
      executionIs .reconciliationRequired t &&
        isOkAnd (@runStep crypto t (actionReplaced t)) fun r => executionIs .cancelled r

set_option maxRecDepth 10000 in
/-- The sample run reaches its dispatch without an abandoned or a stranded execution. -/
def Sample.dispatched :
    RunScript (fun s i => ¬ AbandonsDispatch s i ∧ ¬ StrandsDispatch s i) leavesDispatch where
  inputs := toDispatch
  leads := by decide +kernel

/-- The script of the sample run leads to its dispatch. -/
theorem sample_script : ∃ s, @runScript _ _ _ (@runStep Sample.crypto)
      (fun s i => ¬ AbandonsDispatch s i ∧ ¬ StrandsDispatch s i) _ Sample.init
      Sample.toDispatch = some s ∧
    Sample.executionIs .dispatchStarted s = true ∧
    (∃ c, @RunStep Sample.crypto s (Sample.runCancelled s) c ∧
      Sample.executionIs .dispatchStarted c = true ∧ c.projection.state = .cancelled) ∧
    ∃ t, (@RunStep Sample.crypto s (Sample.leaseExpires s) t ∧
      Sample.executionIs .reconciliationRequired t = true) ∧
    ∃ r, @RunStep Sample.crypto t (Sample.actionReplaced t) r ∧
      Sample.executionIs .cancelled r = true := by
  obtain ⟨s, hs, h⟩ := Sample.dispatched.leads_to
  simp only [Sample.leavesDispatch, Bool.and_eq_true, isOkAnd_iff, decide_eq_true_eq] at h
  obtain ⟨⟨hdispatched, c, hc, hcancelled⟩, t, ht, hoverdue, r, hr, habandoned⟩ := h
  exact ⟨s, hs, hdispatched, ⟨c, hc, hcancelled⟩, t, ⟨ht, hoverdue⟩, r, hr, habandoned⟩

/-- The sample run, as a run: a dispatched execution `s`, cancelled in `c`, overdue in `t` and
abandoned in `r`. -/
theorem sample_dispatched : ∃ s is e c t r,
    Run (Restrict (@RunStep Sample.crypto) fun s i => ¬ AbandonsDispatch s i ∧
      ¬ StrandsDispatch s i)
      Sample.init is s ∧
    s.projection.execution = some e ∧ e.state = .dispatchStarted ∧
    (@RunStep Sample.crypto s (Sample.runCancelled s) c ∧
      Sample.executionIs .dispatchStarted c = true ∧ c.projection.state = .cancelled) ∧
    (@RunStep Sample.crypto s (Sample.leaseExpires s) t ∧
      Sample.executionIs .reconciliationRequired t = true) ∧
    (@RunStep Sample.crypto t (Sample.actionReplaced t) r ∧
      Sample.executionIs .cancelled r = true) := by
  obtain ⟨s, hs, hdispatched, ⟨c, hc⟩, t, ht, r, hr⟩ := sample_script
  obtain ⟨is, hrun⟩ := run_of_runScript hs
  obtain ⟨e, he, hstate⟩ := Sample.executionIs_iff.mp hdispatched
  exact ⟨s, is, e, c, t, r, hrun, he, hstate, hc, ht, hr⟩

/-- The lease of the sample run runs out without an abandoned execution. -/
theorem sample_lease_expires {s : RunStateV1} {e : ExecutionProjectionV1}
    (he : s.projection.execution = some e) (hstate : e.state = .dispatchStarted) :
    ¬ AbandonsDispatch s (Sample.leaseExpires s) := by
  rintro ⟨-, e', he', hopen, -⟩
  obtain rfl : e' = e := by simpa [he] using he'.symm
  simp [hstate] at hopen

/-! ### One step of an execution in flight -/

/-- What can become of an execution in flight: it stays in flight, its receipt is committed, or an
open reconciliation is cancelled. -/
inductive InFlightOutcome (e : ExecutionProjectionV1) (c : IdrCommandV1) :
    Option ExecutionProjectionV1 → Prop
  | stays {s} : InFlight s → ¬ (e.state = .reconciliationRequired ∧ CommandAbandons e c) →
      c.reserves = false → InFlightOutcome e c (some (e.withState s))
  | received {s} : ReceiptFor e.identity c → InFlightOutcome e c (some (e.withState s))
  | abandoned : e.state = .reconciliationRequired → CommandAbandons e c → c.reserves = false →
      InFlightOutcome e c (some (e.withState .cancelled))

theorem InFlight.withdrawn {s : ExecutionAggregateStateV1} (h : InFlight s) :
    withdrawnState s = if s = .reconciliationRequired then .cancelled
      else .reconciliationRequired := by
  rcases h with rfl | rfl | rfl <;> rfl

theorem InFlight.superseded {s : ExecutionAggregateStateV1} (h : InFlight s) :
    supersededState s = withdrawnState s := by
  rcases h with rfl | rfl | rfl <;> rfl

theorem InFlight.not_permitOpen {s : ExecutionAggregateStateV1} (h : InFlight s) :
    ¬ PermitOpen s := by
  rcases h with rfl | rfl | rfl <;> simp [PermitOpen]

theorem InFlight.not_terminal {s : ExecutionAggregateStateV1} (h : InFlight s) :
    s.isTerminal = false := by
  rcases h with rfl | rfl | rfl <;> rfl

theorem Reservable.not_inFlight {e next : ExecutionProjectionV1} (h : Reservable (some e) next) :
    ¬ InFlight e.state := by
  rcases h with ⟨h, -⟩ | ⟨last, h, -, hstate, -⟩ | ⟨last, h, -, hstate, -⟩
  · cases h
  · cases h
    rcases hstate with hstate | hstate | hstate <;> simp [InFlight, hstate]
  · cases h
    simp [InFlight, hstate]

/-- A withdrawal takes an execution in flight to reconciliation, and an open reconciliation to
cancellation. -/
theorem InFlightOutcome.of_withdrawn {e : ExecutionProjectionV1} {c : IdrCommandV1}
    (hf : InFlight e.state) (habandons : CommandAbandons e c) (hc : c.reserves = false) :
    InFlightOutcome e c (some (e.withState (withdrawnState e.state))) := by
  rw [hf.withdrawn]
  split
  case isTrue hopen => exact .abandoned hopen habandons hc
  case isFalse hopen => exact .stays (.inr (.inr rfl)) (fun h => hopen h.1) hc

theorem mayKeep_not_abandons {c : IdrCommandV1} (h : c.mayKeep = true)
    (e : ExecutionProjectionV1) : ¬ CommandAbandons e c ∧ c.reserves = false := by
  cases c <;> simp_all [IdrCommandV1.mayKeep, CommandAbandons, IdrCommandV1.reserves]

/-- **What a command does to an execution in flight.** -/
theorem LifecycleEffect.inFlight {fresh : FreshIdsV1} {now : Nat} {p : IdrRunProjectionV1}
    {c : IdrCommandV1} {run : IdrRunStateV1} {after : Option ExecutionProjectionV1}
    {e : ExecutionProjectionV1} (h : LifecycleEffect fresh now p c run after)
    (he : p.execution = some e) (hf : InFlight e.state) : InFlightOutcome e c after := by
  cases h with
  | kept _ hc =>
    obtain ⟨hno, hreserves⟩ := mayKeep_not_abandons hc e
    rw [he, ← withState_self e]
    exact .stays hf (fun h => hno h.2) hreserves
  | started | blocked | cancelled =>
    rw [he, ← withState_self e]
    exact .stays hf (fun h => h.2) rfl
  | superseded action =>
    rw [he, Option.map_some, hf.superseded]
    exact .of_withdrawn hf trivial rfl
  | reserved _ _ _ hreservable => exact absurd hf (he ▸ hreservable).not_inFlight
  | @delivered e' he' _ hstate =>
    obtain rfl : e' = e := by simpa [he] using he'.symm
    exact absurd (.inl hstate) hf.not_permitOpen
  | @dispatched e' he' _ hstate =>
    obtain rfl : e' = e := by simpa [he] using he'.symm
    exact absurd (.inr hstate) hf.not_permitOpen
  | @withdrawn _ e' hc he' _ =>
    obtain rfl : e' = e := by simpa [he] using he'.symm
    rcases hc with rfl | rfl <;> exact .of_withdrawn hf trivial rfl
  | @expired _ e' _ he' _ hopen =>
    obtain rfl : e' = e := by simpa [he] using he'.symm
    exact absurd hopen hf.not_permitOpen
  | @overdue e' he' _ _ =>
    obtain rfl : e' = e := by simpa [he] using he'.symm
    exact .stays (.inr (.inr rfl)) (fun h => h.2) rfl
  | @received e' receipt _ _ he' _ _ _ =>
    obtain rfl : e' = e := by simpa [he] using he'.symm
    exact .received ⟨receipt, _, _, rfl⟩
  | invalidated recordRef reasonRef =>
    simp only [he, Option.map_some, hf.not_terminal, and_true]
    split
    case isTrue hrecord => exact .of_withdrawn hf hrecord rfl
    case isFalse hrecord =>
      rw [← withState_self e]
      exact .stays hf (fun h => hrecord h.2) rfl

/-- A closure keeps an execution in flight, and leaves the other outcomes alone. -/
theorem InFlightOutcome.closeAll {e : ExecutionProjectionV1} {c : IdrCommandV1}
    {after : Option ExecutionProjectionV1} (h : InFlightOutcome e c after)
    (closure : List AuthoritativeRecordRefV1) :
    InFlightOutcome e c (after.map (Idr.closeAll closure)) := by
  cases h with
  | @stays s hs hno hreserves =>
    rw [Option.map_some, closeAll_withState, withState_withState]
    refine .stays ?_ hno hreserves
    unfold Idr.closeAll
    split
    · rcases hs with rfl | rfl | rfl <;> exact .inr (.inr rfl)
    · exact hs
  | received hreceipt =>
    rw [Option.map_some, closeAll_withState, withState_withState]
    exact .received hreceipt
  | abandoned hopen habandons hreserves =>
    rw [Option.map_some, closeAll_withState, withState_withState]
    have hcancelled : (Idr.closeAll closure (e.withState .cancelled)).state = .cancelled := by
      unfold Idr.closeAll
      split <;> rfl
    rw [hcancelled]
    exact .abandoned hopen habandons hreserves

section Steps

variable [Crypto]

/-- **What a step does to an execution in flight.** -/
theorem inFlight_step {s t : RunStateV1} {i : RunInputV1} {e : ExecutionProjectionV1}
    (h : RunStep s i t) (he : s.projection.execution = some e) (hf : InFlight e.state) :
    i.revokes = true ∧ t.projection.execution = some (e.withState .reconciliationRequired) ∨
      i.revokes = false ∧
        InFlightOutcome e i.command.command t.projection.execution := by
  obtain ⟨-, -, -, transition, htransition, ht⟩ := runStep_eq_ok h
  have heffect := runTransition_effect htransition
  rw [← ht] at heffect
  generalize t.projection.state = run at heffect
  generalize t.projection.execution = after at heffect ⊢
  generalize i.revokes = revokes at heffect ⊢
  cases heffect with
  | evaluated _ hlife _ => exact .inr ⟨rfl, hlife.inFlight he hf⟩
  | closed closure _ hlife _ _ _ => exact .inr ⟨rfl, (hlife.inFlight he hf).closeAll closure⟩
  | invalidated _ _ closure _ _ hlife =>
    exact .inr ⟨rfl, (hlife.inFlight he hf).closeAll closure⟩
  | revoked =>
    refine .inl ⟨rfl, ?_⟩
    rw [he, Option.map_some]
    rcases hf with hstate | hstate | hstate <;> simp [revokedState, crossedDispatchBoundary, hstate]

/-! ### A dispatch is never duplicated -/

/-- A step abandons an open reconciliation exactly when it takes the execution out of flight
without a receipt for it. -/
theorem abandonsDispatch_iff {s t : RunStateV1} {i : RunInputV1} {e : ExecutionProjectionV1}
    (h : RunStep s i t) (he : s.projection.execution = some e) (hf : InFlight e.state)
    (hreceipt : ¬ ReceiptFor e.identity i.command.command) :
    AbandonsDispatch s i ↔ ¬ InFlightAs e.identity t := by
  rcases inFlight_step h he hf with ⟨hrevokes, ht⟩ | ⟨hrevokes, houtcome⟩
  · refine iff_of_false (fun hab => ?_) (fun hno => hno ⟨_, ht, rfl, .inr (.inr rfl)⟩)
    simp [hab.1] at hrevokes
  · generalize ht : t.projection.execution = after at houtcome
    cases houtcome with
    | stays hs hno _ =>
      refine iff_of_false (fun hab => ?_) (fun hno => hno ⟨_, ht, rfl, hs⟩)
      obtain ⟨-, e', he', hopen, habandons⟩ := hab
      obtain rfl : e' = e := by simpa [he] using he'.symm
      exact hno ⟨hopen, habandons⟩
    | received h => exact absurd h hreceipt
    | abandoned hopen habandons _ =>
      refine iff_of_true ⟨hrevokes, e, he, hopen, habandons⟩ ?_
      rintro ⟨e', he', -, hf'⟩
      simp only [ht, Option.some.injEq] at he'
      subst he'
      simp [InFlight] at hf'

omit [Crypto] in
theorem InFlightOutcome.not_reserves {e : ExecutionProjectionV1} {c : IdrCommandV1}
    {after : Option ExecutionProjectionV1} (h : InFlightOutcome e c after) :
    c.reserves = false := by
  cases h with
  | stays _ _ hno => exact hno
  | received hreceipt =>
    obtain ⟨receipt, reservationId, providerRef, rfl⟩ := hreceipt
    rfl
  | abandoned _ _ hno => exact hno

theorem not_reserves_of_inFlight {s t : RunStateV1} {i : RunInputV1} {e : ExecutionProjectionV1}
    (h : RunStep s i t) (he : s.projection.execution = some e) (hf : InFlight e.state) :
    ¬ i.Reserves := by
  rintro ⟨hrevokes, hreserves⟩
  rcases inFlight_step h he hf with ⟨hrevoked, -⟩ | ⟨-, houtcome⟩
  · simp [hrevokes] at hrevoked
  · simp [houtcome.not_reserves] at hreserves

/-- Along a run that abandons no reconciliation and commits no receipt for it, a dispatch stays in
flight. -/
theorem inFlight_run {id : DispatchIdentity} {s t : RunStateV1} {is : List RunInputV1}
    (h : Run (Restrict RunStep fun s i => ¬ AbandonsDispatch s i) s is t) (hs : InFlightAs id s)
    (hreceipt : ∀ i ∈ is, ¬ ReceiptFor id i.command.command) :
    InFlightAs id t ∧ ∀ i ∈ is, ¬ i.Reserves := by
  induction h with
  | nil s => exact ⟨hs, by simp⟩
  | @cons s i r is t hstep _ ih =>
    obtain ⟨e, he, rfl, hf⟩ := hs
    have hr : InFlightAs e.identity r := by
      have hkeeps := mt (abandonsDispatch_iff hstep.2 he hf (hreceipt i (by simp))).mpr hstep.1
      exact not_not.mp hkeeps
    obtain ⟨ht, hreserves⟩ := ih hr fun j hj => hreceipt j (by simp [hj])
    refine ⟨ht, ?_⟩
    rintro j (_ | ⟨_, hj⟩)
    · exact not_reserves_of_inFlight hstep.2 he hf
    · exact hreserves j hj

/-- **A dispatch is never duplicated** in the runs that abandon no open reconciliation. -/
theorem dispatch_never_duplicated :
    DispatchNeverDuplicated (Restrict RunStep fun s i => ¬ AbandonsDispatch s i) := by
  intro s e is t _ he hdispatched hrun hreceipt
  exact inFlight_run hrun ⟨e, he, rfl, .inl hdispatched⟩ hreceipt

omit [Crypto] in
/-- The dispatch of the sample run outlives its lease. -/
theorem dispatch_never_duplicated_sample : ∃ s e t,
    s.projection.execution = some e ∧ e.state = .dispatchStarted ∧
      @RunStep Sample.crypto s (Sample.leaseExpires s) t ∧ InFlightAs e.identity t := by
  obtain ⟨s, is, e, c, t, r, hrun, he, hstate, -, ⟨ht, -⟩, -⟩ := sample_dispatched
  refine ⟨s, e, t, he, hstate, ht, ?_⟩
  have hreachable : Reachable RunInit
      (Restrict (@RunStep Sample.crypto) fun s i => ¬ AbandonsDispatch s i) s :=
    ⟨Sample.init, is, Sample.runInit_init, hrun.mono fun _ _ _ h => ⟨h.1.1, h.2⟩⟩
  refine (@dispatch_never_duplicated Sample.crypto s e [Sample.leaseExpires s] t hreachable he
    hstate (.cons ⟨sample_lease_expires he hstate, ht⟩ (.nil t)) ?_).1
  rintro i (_ | ⟨_, ⟨⟩⟩) ⟨receipt, reservationId, providerRef, hc⟩
  cases hc

omit [Crypto] in
/-- Without the condition it is: a new action cancels the dispatch of the sample run once its
lease has run out, with no receipt for it. -/
theorem dispatch_duplicated :
    ¬ DispatchNeverDuplicated (@RunStep Sample.crypto) := by
  intro hnever
  obtain ⟨s, is, e, c, t, r, hrun, he, hstate, -, ⟨ht, -⟩, hr, habandoned⟩ := sample_dispatched
  have hreachable : Reachable RunInit (@RunStep Sample.crypto) s :=
    ⟨Sample.init, is, Sample.runInit_init, hrun.of_restrict⟩
  obtain ⟨⟨e', he', -, hf⟩, -⟩ := hnever s e [Sample.leaseExpires s, Sample.actionReplaced t] r
    hreachable he hstate (.cons ht (.cons hr (.nil r))) (by
      rintro i (_ | ⟨_, _ | ⟨_, ⟨⟩⟩⟩) ⟨receipt, reservationId, providerRef, hc⟩ <;> cases hc)
  obtain ⟨e'', he'', hcancelled⟩ := Sample.executionIs_iff.mp habandoned
  obtain rfl : e' = e'' := by simpa [he''] using he'.symm
  simp [InFlight, hcancelled] at hf

/-! ### A dispatch can always be closed -/

/-- An execution in flight comes with a run state that admits its receipt. -/
def ReceiptAdmitted (run : IdrRunStateV1) (execution : Option ExecutionProjectionV1) : Prop :=
  ∀ e, execution = some e → InFlight e.state → AdmitsReceipt run

omit [Crypto] in
theorem ReceiptAdmitted.receiptsOpen {s : RunStateV1}
    (h : ReceiptAdmitted s.projection.state s.projection.execution) : ReceiptsOpen s := by
  intro e he hf receipt
  simpa [requireCommandState, commandStateAllowed, AdmitsReceipt] using h e he hf

omit [Crypto] in
theorem mayKeep_not_strands {c : IdrCommandV1} (h : c.mayKeep = true) (p : IdrRunProjectionV1)
    (e : ExecutionProjectionV1) (now : Nat) : ¬ CommandStrands p e now c := by
  cases c <;> simp_all [IdrCommandV1.mayKeep, CommandStrands]

omit [Crypto] in
theorem withdrawnState_inFlight {s : ExecutionAggregateStateV1}
    (h : InFlight (withdrawnState s)) : InFlight s := by
  cases s <;> simp_all [withdrawnState, InFlight]

omit [Crypto] in
theorem supersededState_inFlight {s : ExecutionAggregateStateV1}
    (h : InFlight (supersededState s)) : InFlight s := by
  cases s <;> simp_all [supersededState, withdrawnState, InFlight,
    ExecutionAggregateStateV1.isTerminal]

omit [Crypto] in
theorem invalidatedState_inFlight {s : ExecutionAggregateStateV1} :
    InFlight (invalidatedState s) ↔ InFlight s := by
  cases s <;> decide

omit [Crypto] in
theorem closeAll_inFlight {closure : List AuthoritativeRecordRefV1} {e : ExecutionProjectionV1} :
    InFlight (closeAll closure e).state ↔ InFlight e.state := by
  unfold closeAll
  split
  · exact invalidatedState_inFlight
  · rfl

omit [Crypto] in
/-- **What a command does to the run state under an execution in flight.** -/
theorem LifecycleEffect.receiptAdmitted_iff {fresh : FreshIdsV1} {now : Nat}
    {p : IdrRunProjectionV1} {c : IdrCommandV1} {run : IdrRunStateV1}
    {after : Option ExecutionProjectionV1} (h : LifecycleEffect fresh now p c run after)
    (hp : ReceiptAdmitted p.state p.execution) :
    ReceiptAdmitted run after ↔ ¬ ∃ e, p.execution = some e ∧ CommandStrands p e now c := by
  -- most commands keep what the run admits, and strand nothing
  have hkept : ReceiptAdmitted run after → (∀ e, ¬ CommandStrands p e now c) →
      (ReceiptAdmitted run after ↔ ¬ ∃ e, p.execution = some e ∧ CommandStrands p e now c) := by
    intro hafter hno
    refine iff_of_true hafter ?_
    rintro ⟨e, -, hstrands⟩
    exact hno e hstrands
  cases h with
  | kept _ hc =>
    exact hkept hp fun e => mayKeep_not_strands hc p e now
  | started =>
    exact hkept (fun _ _ _ => .inl rfl) fun _ => id
  | blocked intent hblocks =>
    simp [ReceiptAdmitted, CommandStrands, AdmitsReceipt, hblocks]
  | superseded =>
    refine hkept ?_ fun _ => id
    intro e' he' hf
    obtain ⟨e, he, rfl⟩ := Option.map_eq_some_iff.mp he'
    exact hp e he (supersededState_inFlight hf)
  | reserved hc hstate =>
    refine iff_of_true ?_ ?_
    · rintro e' ⟨⟩ hf
      simp [InFlight, hstate] at hf
    · rintro ⟨e, -, hstrands⟩
      cases c <;> simp_all [IdrCommandV1.reserves, CommandStrands]
  | delivered =>
    refine hkept ?_ fun _ => id
    rintro e' ⟨⟩ hf
    simp [InFlight] at hf
  | @dispatched e he hcurrent hstate =>
    simp [ReceiptAdmitted, CommandStrands, he, hstate, hcurrent, InFlight]
  | @withdrawn _ e hc he hcurrent =>
    refine iff_of_true ?_ ?_
    · rintro e' ⟨⟩ hf
      exact hp e he (withdrawnState_inFlight hf)
    · rintro ⟨e', he', hstrands⟩
      obtain rfl : e' = e := by simpa [he] using he'.symm
      rcases hc with rfl | rfl
      · exact hstrands
      · exact hcurrent hstrands.2.1
  | expired hc =>
    refine iff_of_true ?_ ?_
    · rintro e' ⟨⟩ hf
      simp [InFlight] at hf
    · rintro ⟨e', -, hstrands⟩
      rcases hc with rfl | rfl <;> exact hstrands
  | @overdue e he _ hstate =>
    refine hkept ?_ fun _ => id
    rintro e' ⟨⟩ -
    exact hp e he (hstate.imp id .inl)
  | received _ _ hstate =>
    refine hkept ?_ fun _ => id
    rintro e' ⟨⟩ hf
    rcases receiptTerminalState_eq_ok hstate with rfl | rfl | rfl | rfl <;> simp [InFlight] at hf
  | invalidated =>
    exact hkept (fun _ _ _ => .inr (.inr rfl)) fun _ => id
  | cancelled =>
    simp [ReceiptAdmitted, CommandStrands, AdmitsReceipt]

/-- A step strands an execution in flight exactly when its receipt is no longer admitted. -/
theorem strandsDispatch_iff {s t : RunStateV1} {i : RunInputV1} (h : RunStep s i t)
    (hs : ReceiptAdmitted s.projection.state s.projection.execution) :
    StrandsDispatch s i ↔ ¬ ReceiptAdmitted t.projection.state t.projection.execution := by
  obtain ⟨-, -, -, transition, htransition, ht⟩ := runStep_eq_ok h
  have heffect := runTransition_effect htransition
  rw [← ht] at heffect
  unfold StrandsDispatch
  generalize t.projection.state = run at heffect ⊢
  generalize t.projection.execution = after at heffect ⊢
  generalize i.revokes = revokes at heffect ⊢
  cases heffect with
  | evaluated _ hlife _ =>
    simp only [true_and, hlife.receiptAdmitted_iff hs, not_not]
  | @closed run₀ execution kind _ closure _ hlife hkind _ hintent =>
    have hno : ¬ ∃ e, s.projection.execution = some e ∧
        CommandStrands s.projection e i.trustedNow i.command.command := by
      rintro ⟨e, -, hstrands⟩
      rcases hc : i.command.command <;>
        simp_all [CommandStrands, IdrCommandV1.expectedCandidateKind]
    have hlived := (hlife.receiptAdmitted_iff hs).mpr hno
    refine iff_of_false (fun hstrands => hno hstrands.2) (not_not.mpr ?_)
    intro e' he' hf
    obtain ⟨e, he, rfl⟩ := Option.map_eq_some_iff.mp he'
    unfold closedRunState
    split
    · exact .inr (.inl rfl)
    · exact hlived e he (closeAll_inFlight.mp hf)
  | invalidated recordRef reasonRef _ hc =>
    refine iff_of_false ?_ (not_not.mpr fun _ _ _ => .inr (.inr rfl))
    rintro ⟨-, e, -, hstrands⟩
    simp [hc, CommandStrands] at hstrands
  | revoked =>
    refine iff_of_false (by simp) (not_not.mpr ?_)
    intro e' he' hf
    obtain ⟨e, he, rfl⟩ := Option.map_eq_some_iff.mp he'
    rcases hcrossed : crossedDispatchBoundary e.state
    · simp [revokedState, hcrossed, InFlight] at hf
    · simp [revokedRunState, he, hcrossed, AdmitsReceipt]

/-- **A dispatch can always be closed** in the runs that strand none. -/
theorem dispatch_always_closable {s : RunStateV1}
    (h : Reachable RunInit (Restrict RunStep fun s i => ¬ StrandsDispatch s i) s) :
    ReceiptsOpen s := by
  refine ReceiptAdmitted.receiptsOpen ?_
  refine h.invariant (P := fun s =>
    ReceiptAdmitted s.projection.state s.projection.execution) ?_ ?_
  · rintro s ⟨trustDomain, environmentRef, runId, tenantRef, hs⟩ e he
    simp [hs, IdrRunProjectionV1.pending] at he
  · intro s i t hs hstep
    exact not_not.mp (mt (strandsDispatch_iff hstep.2 hs).mpr hstep.1)

omit [Crypto] in
/-- The dispatch of the sample run can be closed. -/
theorem dispatch_always_closable_sample : ∃ s e,
    s.projection.execution = some e ∧ e.state = .dispatchStarted ∧ ReceiptsOpen s := by
  obtain ⟨s, is, e, -, -, -, hrun, he, hstate, -⟩ := sample_dispatched
  refine ⟨s, e, he, hstate, @dispatch_always_closable Sample.crypto s ?_⟩
  exact ⟨Sample.init, is, Sample.runInit_init, hrun.mono fun _ _ _ h => ⟨h.1.2, h.2⟩⟩

omit [Crypto] in
/-- Without the condition it may not: the cancelled sample run refuses every receipt of its
dispatch. -/
theorem dispatch_stranded :
    ¬ ∀ s, Reachable RunInit (@RunStep Sample.crypto) s → ReceiptsOpen s := by
  intro hopen
  obtain ⟨s, is, -, c, -, -, hrun, -, -, ⟨hc, hdispatched, hcancelled⟩, -⟩ := sample_dispatched
  obtain ⟨e, he, hstate⟩ := Sample.executionIs_iff.mp hdispatched
  have hreachable : Reachable RunInit (@RunStep Sample.crypto) c :=
    Reachable.snoc ⟨Sample.init, is, Sample.runInit_init, hrun.of_restrict⟩ hc
  have haccepted := hopen c hreachable e he (.inl hstate) (Sample.candidate 7 .executionReceipt [])
  simp [requireCommandState, commandStateAllowed, hcancelled] at haccepted

end Steps

end Idr
