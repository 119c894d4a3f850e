/-
Idr/TrustChain/Run.lean

One run as a transition system.

A step takes a command with its verified proofs at a trusted time.  It is
the evaluator's transition followed by the invalidation closure that the
repository applies to it (`evaluatedTransition`), or, when one of the
proofs an admission is bound to no longer verifies, the revocation that
takes its place (`revokedTransition`).  What the repository would load as
a closure is an input here: the results about single runs hold for every
such list.  `Idr.Authority` computes it from the stored dependencies.

The state of a run carries the time of its last step and the identifiers
drawn so far.  Time does not go back, and an identifier that is drawn is
new (`environmentAdmits`); nothing else is assumed of the environment.

The last section describes one run in full: the inputs that lead from a
pending run to a dispatched execution.  The examples of use and the
counterexamples of later modules start from it.
-/
import Idr.TrustChain.Closure
import Idr.Lib.Steps

namespace Idr

section Transitions

variable [Crypto]

/-! ### Transitions -/

/-- The commands before which the proofs of the bound admission are verified again. -/
def reverifiesAdmission : IdrCommandV1 → Bool
  | .reserveExecution _ _ _ _ _ _ _ _ _ | .recoverPermit _ | .deliverPermit _ _
  | .startDispatch _ _ => true
  | _ => false

/-- The transition of the evaluator with the closure the repository applies to it: that of the
invalidated record, or that of the record a new revision replaces. -/
def evaluatedTransition
    (loadClosure : AuthoritativeRecordRefV1 →
      Except IdrRuntimeErrorV1 (List AuthoritativeRecordRefV1))
    (fresh : FreshIdsV1) (projection : IdrRunProjectionV1) (command : IdrCommandEnvelopeV1)
    (trustedNow : Nat) (verifiedProofs : List VerifiedProductionProofV1) :
    Except IdrRuntimeErrorV1 IdrTransitionV1 := do
  let supersededRecord := command.command.expectedCandidateKind.bind projection.records
  let transition ←
    evaluateAuthoritativeTransitionV1 fresh projection command trustedNow verifiedProofs
  match command.command with
  | .invalidateRecord recordRef _ => do
    let closure ← loadClosure recordRef
    .ok { transition with
      projection := applyRepositoryInvalidationClosure transition.projection closure true }
  | _ =>
    match supersededRecord with
    | none => .ok transition
    | some previousRecord =>
      if transition.authoritativeRecord.any (fun record =>
          record.recordRef.candidateKind = previousRecord.candidateKind
            ∧ record.recordRef ≠ previousRecord) = true
      then do
        let closure ← loadClosure previousRecord
        .ok { transition with
          projection := applyRepositoryInvalidationClosure transition.projection closure false }
      else .ok transition

/-- The revocation of the bound admission, with the closure of its record. -/
def revokedTransition
    (loadClosure : AuthoritativeRecordRefV1 →
      Except IdrRuntimeErrorV1 (List AuthoritativeRecordRefV1))
    (projection : IdrRunProjectionV1) (command : IdrCommandEnvelopeV1)
    (verifiedProofs : List VerifiedProductionProofV1) :
    Except IdrRuntimeErrorV1 IdrTransitionV1 := do
  let admission ← okOr projection.actionAdmission .actionNotAdmitted
  let closure ← loadClosure admission.admissionRef
  let transition ← actionAdmissionProofFailure projection command verifiedProofs
  .ok { transition with
    projection := applyRepositoryInvalidationClosure transition.projection closure false }

/-! ### The transition system of one run -/

/-- The state of a run: its projection, the time of the last step and the identifiers drawn. -/
structure RunStateV1 where
  projection : IdrRunProjectionV1
  clock : Nat
  drawn : List Uuid

/-- The input of a step.  `admissionRevoked` says that a bound proof failed re-verification;
`closure` is what the repository returns for the record in question. -/
structure RunInputV1 where
  fresh : FreshIdsV1
  command : IdrCommandEnvelopeV1
  trustedNow : Nat
  verifiedProofs : List VerifiedProductionProofV1
  admissionRevoked : Bool
  closure : List AuthoritativeRecordRefV1

/-- The identifiers drawn in one step. -/
def FreshIdsV1.ids (fresh : FreshIdsV1) : List Uuid :=
  [fresh.recordId, fresh.candidateId, fresh.reservationId, fresh.permitId]

/-- Time does not go back, and the drawn identifiers are new and distinct. -/
def environmentAdmits (s : RunStateV1) (i : RunInputV1) : Prop :=
  s.clock ≤ i.trustedNow ∧ i.fresh.ids.Nodup ∧
    i.fresh.ids.all (fun id => !s.drawn.contains id) = true

instance (s : RunStateV1) (i : RunInputV1) : Decidable (environmentAdmits s i) := by
  unfold environmentAdmits
  infer_instance

/-- Whether a step revokes the bound admission instead of evaluating the command. -/
def RunInputV1.revokes (i : RunInputV1) : Bool :=
  i.admissionRevoked && reverifiesAdmission i.command.command

/-- The transition of one step.  A command before which the bound admission is verified again is
refused when none is bound. -/
def runTransition (projection : IdrRunProjectionV1) (i : RunInputV1) :
    Except IdrRuntimeErrorV1 IdrTransitionV1 := do
  rejectIf (reverifiesAdmission i.command.command = true ∧ projection.actionAdmission.isNone = true)
    .actionNotAdmitted
  if i.revokes = true then
    revokedTransition (fun _ => .ok i.closure) projection i.command i.verifiedProofs
  else
    evaluatedTransition (fun _ => .ok i.closure) i.fresh projection i.command i.trustedNow
      i.verifiedProofs

/-- One accepted step of a run. -/
def runStep (s : RunStateV1) (i : RunInputV1) : Except IdrRuntimeErrorV1 RunStateV1 := do
  require (environmentAdmits s i) (.repository "trusted time or identifier source is invalid")
  let transition ← runTransition s.projection i
  .ok {
    projection := transition.projection
    clock := i.trustedNow
    drawn := i.fresh.ids ++ s.drawn }

/-- The step relation of a run. -/
def RunStep (s : RunStateV1) (i : RunInputV1) (t : RunStateV1) : Prop :=
  runStep s i = .ok t

/-- A run starts pending, at any time, in any environment. -/
def RunInit (s : RunStateV1) : Prop :=
  ∃ trustDomain environmentRef runId tenantRef,
    s.projection = IdrRunProjectionV1.pending trustDomain environmentRef runId tenantRef

/-- A transition is a revocation, or an evaluation with its closure. -/
theorem runTransition_eq_ok {p : IdrRunProjectionV1} {i : RunInputV1} {t : IdrTransitionV1} :
    runTransition p i = .ok t ↔
      (reverifiesAdmission i.command.command = true → p.actionAdmission.isSome = true) ∧
      if i.revokes = true then
        revokedTransition (fun _ => .ok i.closure) p i.command i.verifiedProofs = .ok t
      else
        evaluatedTransition (fun _ => .ok i.closure) i.fresh p i.command i.trustedNow
          i.verifiedProofs = .ok t := by
  simp only [runTransition, bind_eq_ok, rejectIf_eq_ok, exists_const, not_and,
    Option.isNone_iff_eq_none, ← ne_eq, Option.ne_none_iff_isSome]
  split <;> rfl

theorem runStep_eq_ok {s : RunStateV1} {i : RunInputV1} {t : RunStateV1} (h : RunStep s i t) :
    environmentAdmits s i ∧ t.clock = i.trustedNow ∧ t.drawn = i.fresh.ids ++ s.drawn ∧
      ∃ transition, runTransition s.projection i = .ok transition ∧
        t.projection = transition.projection := by
  simp only [RunStep, runStep, bind_eq_ok, require_eq_ok, exists_const, Except.ok.injEq] at h
  obtain ⟨henv, transition, htransition, rfl⟩ := h
  exact ⟨henv, rfl, rfl, transition, htransition, rfl⟩

theorem runStep_deterministic (s : RunStateV1) (i : RunInputV1) (t r : RunStateV1)
    (ht : RunStep s i t) (hr : RunStep s i r) : t = r :=
  Except.ok.inj (ht.symm.trans hr)

end Transitions

/-! ### A sample run

The run that the counterexamples and the examples of use below share: the path from the input to a
dispatched execution. -/

namespace Sample

def environment : ReferenceV1 := ⟨"environment:idr:shadow:test", by decide +kernel⟩
def tenant : ReferenceV1 := ⟨"tenant:test", by decide +kernel⟩
def subject : ReferenceV1 := ⟨"subject:test", by decide +kernel⟩
def owner : ReferenceV1 := ⟨"owner:test", by decide +kernel⟩
def provider : ReferenceV1 := ⟨"provider:test", by decide +kernel⟩
def scope : ReferenceV1 := ⟨"scope:test", by decide +kernel⟩
def purpose : ReferenceV1 := ⟨"purpose:test", by decide +kernel⟩
def policyRevision : ReferenceV1 := ⟨"policy:test:v1", by decide +kernel⟩
def correlation : ReferenceV1 := ⟨"correlation:test", by decide +kernel⟩

def runId : Uuid := 0x11111111111141118111111111111111
def turnId : Uuid := 0x22222222222242228222222222222222
def zeroDigest : Text := "0000000000000000000000000000000000000000000000000000000000000000"

def candidate (n : Nat) (kind : CandidateKindV1) (payload : List (Text × Value)) :
    CandidateSubmissionV1 where
  compatibility := .v1
  candidateId := BitVec.ofNat 128 (1000 + n)
  candidateKind := kind
  runId := runId
  turnId := turnId
  subjectRef := subject
  tenantRef := tenant
  scopeRef := scope
  purposeRef := purpose
  policyRevisionRef := policyRevision
  validFrom := 1
  validUntil := 100000
  payload := .object payload

def envelope (version : Nat) (caller : ReferenceV1) (command : IdrCommandV1) :
    IdrCommandEnvelopeV1 where
  commandId := BitVec.ofNat 128 (2000 + version)
  trustDomain := .shadow
  environmentRef := environment
  runId := runId
  expectedAggregateVersion := version
  actorRef := owner
  callerRef := caller
  tenantRef := tenant
  scopeRef := scope
  purposeRef := purpose
  policyRevisionRef := policyRevision
  correlationRef := correlation
  causationRef := correlation
  command := command
  proofs := []

def verifiedProof (n : Nat) (kind : ProductionProofKindV1) : VerifiedProductionProofV1 where
  proofId := BitVec.ofNat 128 (3000 + n)
  nonce := zeroDigest
  trustDomain := .shadow
  environmentRef := environment
  proofKind := kind
  expiresAt := 50000
  trustRootVersion := 1
  trustRootDigest := zeroDigest
  verifiedAt := 1

/-- The kinds of the proofs that the sample commands require. -/
def proofKinds (command : IdrCommandV1) : List ProductionProofKindV1 :=
  [.callerAuthentication, .inputAdmission, .contextSnapshot, .intentFastPathAdmission,
    .decisionNecessityAdmission, .turnCoordinationAdmission, .authority, .capability, .policy,
    .exactAuthorization, .actionAdmission, .executionPermit, .providerReceipt,
    .humanModelCorrection].filter
      fun kind => kind = .callerAuthentication ∨ kind ∈ command.requiredProofKinds

def freshIds (version : Nat) : FreshIdsV1 where
  recordId := BitVec.ofNat 128 (5000 + 4 * version)
  candidateId := BitVec.ofNat 128 (5001 + 4 * version)
  reservationId := BitVec.ofNat 128 (5002 + 4 * version)
  permitId := BitVec.ofNat 128 (5003 + 4 * version)

/-- A command at a time, from a caller, with the version the run is at. -/
def input (now : Nat) (caller : ReferenceV1) (command : IdrRunProjectionV1 → IdrCommandV1)
    (closure : IdrRunProjectionV1 → List AuthoritativeRecordRefV1) (s : RunStateV1) :
    RunInputV1 where
  fresh := freshIds s.projection.aggregateVersion
  command := envelope s.projection.aggregateVersion caller (command s.projection)
  trustedNow := now
  verifiedProofs := (proofKinds (command s.projection)).mapIdx fun i kind =>
    verifiedProof (20 * s.projection.aggregateVersion + i) kind
  admissionRevoked := false
  closure := closure s.projection

def noClosure (_ : IdrRunProjectionV1) : List AuthoritativeRecordRefV1 := []

/-- The current reference of a kind, where there is one. -/
def current (p : IdrRunProjectionV1) (kind : CandidateKindV1) : AuthoritativeRecordRefV1 :=
  (p.records kind).getD ⟨0, 0, kind, .shadow, environment, 0, 0, ""⟩

def reservation (p : IdrRunProjectionV1) : Uuid := (p.execution.map (·.reservationId)).getD 0
def permit (p : IdrRunProjectionV1) : Uuid := (p.execution.map (·.permitId)).getD 0

/-! The commands of the path to a dispatched execution. -/

def startRun (_ : IdrRunProjectionV1) : IdrCommandV1 :=
  .startRun (candidate 0 .canonicalInput [("text", .string "hello")])

def recordContext (_ : IdrRunProjectionV1) : IdrCommandV1 :=
  .recordContext (candidate 1 .contextSnapshot [])

def recordIntent (_ : IdrRunProjectionV1) : IdrCommandV1 :=
  .recordIntent (candidate 2 .intent [
    ("fast_path_outcome", .string "unknown"),
    ("resolution_method", .string "full_path")])

def recordDecision (_ : IdrRunProjectionV1) : IdrCommandV1 :=
  .recordDecision (candidate 3 .decision [
    ("necessity_outcome", .string "required"),
    ("selected_option_ref", .string "option:a"),
    ("selected_action_operation_ref", .string "operation:send"),
    ("selected_action_parameter_digest", .string zeroDigest)])

def recordTurn (_ : IdrRunProjectionV1) : IdrCommandV1 :=
  .recordTurn (candidate 4 .turnCoordination [
    ("mode", .string "act_then_respond"),
    ("nodes", .array [.string "action", .string "response"]),
    ("edges", .array [.array [.string "action", .string "response"]])])

def recordAction (n : Nat) (_ : IdrRunProjectionV1) : IdrCommandV1 :=
  .recordAction (candidate n .action [
    ("selected_option_ref", .string "option:a"),
    ("operation_ref", .string "operation:send"),
    ("parameter_digest", .string zeroDigest)])

def admitAction (p : IdrRunProjectionV1) : IdrCommandV1 :=
  .admitAction (current p .action) (current p .action).recordDigest provider owner "key-1"

def reserveExecution (p : IdrRunProjectionV1) : IdrCommandV1 :=
  .reserveExecution (current p .actionAdmissionDecision) (current p .action)
    (current p .action).recordDigest provider owner "key-1" 1 1000 zeroDigest

def deliverPermit (p : IdrRunProjectionV1) : IdrCommandV1 :=
  .deliverPermit (reservation p) (permit p)

def startDispatch (p : IdrRunProjectionV1) : IdrCommandV1 :=
  .startDispatch (reservation p) (permit p)

def expireExecutionLease (p : IdrRunProjectionV1) : IdrCommandV1 :=
  .expireExecutionLease (reservation p)

def init : RunStateV1 := ⟨.pending .shadow environment runId tenant, 0, []⟩

/-- The path to a permit that waits for its delivery. -/
def toPermit : List (RunStateV1 → RunInputV1) := [
  input 10 owner startRun noClosure,
  input 11 owner recordContext noClosure,
  input 12 owner recordIntent noClosure,
  input 13 owner recordDecision noClosure,
  input 14 owner recordTurn noClosure,
  input 15 owner (recordAction 5) noClosure,
  input 16 owner admitAction noClosure,
  input 17 owner reserveExecution noClosure]

def permitDelivered : RunStateV1 → RunInputV1 := input 18 provider deliverPermit noClosure

def dispatchStarted : RunStateV1 → RunInputV1 := input 19 provider startDispatch noClosure

/-- The path to a dispatched execution. -/
def toDispatch : List (RunStateV1 → RunInputV1) := toPermit ++ [permitDelivered, dispatchStarted]

/-- The action is admitted once more. -/
def actionReadmitted : RunStateV1 → RunInputV1 := input 18 owner admitAction noClosure

/-- The lease runs out after the dispatch. -/
def leaseExpires : RunStateV1 → RunInputV1 := input 2000 owner expireExecutionLease noClosure

/-- A new action replaces the dispatched one. -/
def actionReplaced : RunStateV1 → RunInputV1 :=
  input 2001 owner (recordAction 6) fun p => [current p .action, current p .actionAdmissionDecision]

/-- The run is cancelled under the dispatch. -/
def runCancelled : RunStateV1 → RunInputV1 :=
  input 2002 owner (fun _ => .cancelRun correlation) noClosure

/-- The provider's receipt for the execution of the run. -/
def commitReceipt (actionWasInvalidated : Bool) (p : IdrRunProjectionV1) : IdrCommandV1 :=
  .commitExecutionReceipt
    (candidate 7 .executionReceipt [
      ("permit_id", toValue (permit p)),
      ("provider_ref", toValue provider),
      ("dispatch_nonce", .string zeroDigest),
      ("attempt", toValue (1 : Nat)),
      ("action_was_invalidated", .bool actionWasInvalidated),
      ("request_digest", .string ((p.execution.map (·.requestDigest)).getD "")),
      ("result_digest", .string zeroDigest),
      ("state", .string "succeeded")])
    (reservation p) (permit p) provider zeroDigest 1

def receiptCommitted (actionWasInvalidated : Bool) : RunStateV1 → RunInputV1 :=
  input 2005 provider (commitReceipt actionWasInvalidated) noClosure

/-- A correction of a human-model assertion that names the record `target`. -/
def correctAssertion (target : IdrRunProjectionV1 → AuthoritativeRecordRefV1)
    (p : IdrRunProjectionV1) : IdrCommandV1 :=
  .correctHumanModelAssertion (target p)
    (candidate 8 .humanModelAssertion [
      ("lifecycle_state", .string "corrected"),
      ("predicate", .string "predicate:test"),
      ("scope_ref", .string "scope:test"),
      ("value_digest", .string zeroDigest),
      ("evidence_refs", .array [.string "evidence:test"]),
      ("allowed_purposes", .array [.string "purpose:test"]),
      ("maximum_impact_basis_points", toValue (100 : Nat))])

/-- The state of the execution is `state`. -/
def executionIs (state : ExecutionAggregateStateV1) (s : RunStateV1) : Bool :=
  s.projection.execution.any fun e => e.state = state

theorem executionIs_iff {state : ExecutionAggregateStateV1} {s : RunStateV1} :
    executionIs state s = true ↔ ∃ e, s.projection.execution = some e ∧ e.state = state := by
  simp [executionIs, Option.any_eq_true]

/-- The bound admission is the one the execution was reserved under. -/
def admissionKept (s : RunStateV1) : Bool :=
  s.projection.execution.any fun e =>
    s.projection.actionAdmission.any fun a => a.admissionRef = e.actionAdmissionRef

theorem runInit_init : RunInit init := ⟨_, _, _, _, rfl⟩

/-- The inputs of a sample run that meet the condition and lead to a state with the property. -/
@[reducible]
def RunScript (allowed : RunStateV1 → RunInputV1 → Prop) [∀ s i, Decidable (allowed s i)]
    (property : RunStateV1 → Bool) : Type :=
  Script (@runStep crypto) allowed init property

end Sample

end Idr
