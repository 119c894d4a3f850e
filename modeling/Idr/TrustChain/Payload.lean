/-
Idr/TrustChain/Payload.lean

Validation of candidate payloads.

A payload is untrusted JSON.  Each validator of the source reads the
fields it needs in the source's order and fails with `BindingMismatch`, or
with `InvalidReference` where a field must be a reference.

The turn candidate carries a graph.  The depth-first visit of the source
recurses on the call stack; here the recursion is on a fuel argument, one
more than the number of nodes, which is more than the depth the visit can
reach because every nested call has added a node to `visiting`.
-/
import Idr.TrustChain.Guards

namespace Idr

/-! ### Fields -/

/-- `required_payload_string`. -/
def requiredPayloadString (payload : Value) (field : Text) : Except IdrRuntimeErrorV1 Text :=
  okOr (((payload.get field).bind Value.asStr).filter fun value => byteLen value ≠ 0)
    .bindingMismatch

/-- A field that is required to be a text is that text. -/
theorem requiredPayloadString_eq_ok {payload : Value} {field s : Text}
    (h : requiredPayloadString payload field = .ok s) : payload.get field = some (.string s) := by
  simp only [requiredPayloadString, okOr_eq_ok, Option.filter_eq_some_iff,
    Option.bind_eq_some_iff] at h
  obtain ⟨⟨v, hv, hs⟩, -⟩ := h
  cases v with
  | string found => rw [hv, Option.some.inj (show some found = some s from hs)]
  | null | bool | number | array | object => cases hs

/-- `required_payload_digest`. -/
def requiredPayloadDigest (payload : Value) (field : Text) :
    Except IdrRuntimeErrorV1 Text := do
  let value ← requiredPayloadString payload field
  require (validDigest value = true) .bindingMismatch
  .ok value

/-- `ReferenceV1::new(required_payload_string(payload, field)?)?`. -/
def requiredPayloadReference (payload : Value) (field : Text) :
    Except IdrRuntimeErrorV1 ReferenceV1 := do
  let value ← requiredPayloadString payload field
  fromReference (ReferenceV1.new value)

/-- A field that is required to be a digest is that text. -/
theorem requiredPayloadDigest_eq_ok {payload : Value} {field s : Text}
    (h : requiredPayloadDigest payload field = .ok s) : payload.get field = some (.string s) := by
  simp only [requiredPayloadDigest, bind_eq_ok, require_eq_ok, exists_const, Except.ok.injEq] at h
  obtain ⟨value, hvalue, -, rfl⟩ := h
  exact requiredPayloadString_eq_ok hvalue

/-- A field that is required to be a reference is the text of that reference. -/
theorem requiredPayloadReference_eq_ok {payload : Value} {field : Text} {reference : ReferenceV1}
    (h : requiredPayloadReference payload field = .ok reference) :
    payload.get field = some (.string reference.asStr) := by
  simp only [requiredPayloadReference, bind_eq_ok, fromReference_eq_ok, ReferenceV1.new_eq_ok] at h
  obtain ⟨value, hvalue, rfl⟩ := h
  exact requiredPayloadString_eq_ok hvalue

/-- A field that must be an array. -/
def requiredPayloadArray (payload : Value) (field : Text) :
    Except IdrRuntimeErrorV1 (List Value) :=
  okOr ((payload.get field).bind Value.asArray) .bindingMismatch

/-! ### Intent, decision and action -/

/-- `validate_intent_candidate`. -/
def validateIntentCandidate (payload : Value) : Except IdrRuntimeErrorV1 Unit := do
  let outcome ← requiredPayloadString payload "fast_path_outcome"
  let resolution ← requiredPayloadString payload "resolution_method"
  require ((outcome = "allow_fast_path" ∧ resolution = "deterministic_fast_path")
      ∨ (outcome = "unknown" ∧ resolution = "full_path"))
    .bindingMismatch

/-- The values by which a decision and an action are compared. -/
structure BindingValues where
  selectedOptionRef : ReferenceV1
  operationRef : ReferenceV1
  parameterDigest : Text
  deriving DecidableEq

/-- `decision_binding_values`. -/
def decisionBindingValues (payload : Value) : Except IdrRuntimeErrorV1 BindingValues := do
  let necessity ← requiredPayloadString payload "necessity_outcome"
  require (necessity = "required" ∨ necessity = "unknown") .bindingMismatch
  let selectedOptionRef ← requiredPayloadReference payload "selected_option_ref"
  let operationRef ← requiredPayloadReference payload "selected_action_operation_ref"
  let parameterDigest ← requiredPayloadDigest payload "selected_action_parameter_digest"
  .ok { selectedOptionRef, operationRef, parameterDigest }

/-- `action_binding_values`. -/
def actionBindingValues (payload : Value) : Except IdrRuntimeErrorV1 BindingValues := do
  let selectedOptionRef ← requiredPayloadReference payload "selected_option_ref"
  let operationRef ← requiredPayloadReference payload "operation_ref"
  let parameterDigest ← requiredPayloadDigest payload "parameter_digest"
  .ok { selectedOptionRef, operationRef, parameterDigest }

/-! ### Turn coordination -/

/-- The loop `any(|child| !visit(child, ..))`: visit the children until one visit fails. -/
def visitChildren (visit : Text → List Text → List Text → Bool × List Text × List Text) :
    List Text → List Text → List Text → Bool × List Text × List Text
  | [], visiting, visited => (true, visiting, visited)
  | child :: children, visiting, visited =>
    match visit child visiting visited with
    | (true, visiting', visited') => visitChildren visit children visiting' visited'
    | (false, visiting', visited') => (false, visiting', visited')

/-- `visit`: whether no cycle is reachable from the node, with the updated sets of nodes on the
current path and of finished nodes. -/
def visit (adjacency : Text → List Text) :
    Nat → Text → List Text → List Text → Bool × List Text × List Text
  | 0, _, visiting, visited => (false, visiting, visited)
  | fuel + 1, node, visiting, visited =>
    if node ∈ visited then (true, visiting, visited)
    else if node ∈ visiting then (false, visiting, visited)
    else
      match visitChildren (visit adjacency fuel) (adjacency node) (node :: visiting) visited with
      | (true, visiting', visited') => (true, visiting'.erase node, node :: visited')
      | (false, visiting', visited') => (false, visiting', visited')

/-- One node of a turn graph. -/
def turnNode (node : Value) : Except IdrRuntimeErrorV1 Text :=
  okOr (node.asStr.filter fun name => byteLen name ≠ 0) .bindingMismatch

/-- One edge of a turn graph: a pair of distinct known nodes. -/
def turnEdge (nodes : List Text) (edge : Value) : Except IdrRuntimeErrorV1 (Text × Text) :=
  match edge.asArray with
  | some [source, target] => do
    let source ← okOr source.asStr .bindingMismatch
    let target ← okOr target.asStr .bindingMismatch
    rejectIf (source = target ∨ source ∉ nodes ∨ target ∉ nodes) .bindingMismatch
    .ok (source, target)
  | _ => .error .bindingMismatch

/-- The successors of a node, in the order of the edges. -/
def successors (edges : List (Text × Text)) (node : Text) : List Text :=
  (edges.filter fun edge => edge.1 = node).map Prod.snd

/-- The mode that the nodes and edges of a turn demand. -/
def expectedTurnMode (nodes : List Text) (edges : List (Text × Text)) : Option Text :=
  if ("response" : Text) ∈ nodes then
    if ("action" : Text) ∈ nodes then
      if edges = ([("action", "response")] : List (Text × Text)) then some "act_then_respond"
      else if edges = ([("response", "action")] : List (Text × Text)) then some "respond_then_act"
      else none
    else some "respond_only"
  else none

/-- `validate_turn_candidate`. -/
def validateTurnCandidate (payload : Value) : Except IdrRuntimeErrorV1 Unit := do
  let mode ← requiredPayloadString payload "mode"
  let nodes ← requiredPayloadArray payload "nodes"
  let names ← nodes.mapM turnNode
  let nodeNames := sortedSet compareText names
  rejectIf (nodeNames.length ≠ nodes.length ∨ nodeNames = []) .bindingMismatch
  let edges ← requiredPayloadArray payload "edges"
  let edges ← edges.mapM (turnEdge nodeNames)
  let (acyclic, _, _) :=
    visitChildren (visit (successors edges) (nodeNames.length + 1)) nodeNames [] []
  require (acyclic = true) .bindingMismatch
  require (expectedTurnMode nodeNames edges = some mode) .bindingMismatch

/-! ### Human model -/

/-- One evidence reference. -/
def evidenceRef (reference : Value) : Except IdrRuntimeErrorV1 Text :=
  okOr (reference.asStr.filter fun value => isReference value) .bindingMismatch

/-- The distinct evidence references of a payload. -/
def evidenceRefs (payload : Value) : Except IdrRuntimeErrorV1 (List Text) := do
  let evidence ← requiredPayloadArray payload "evidence_refs"
  let evidence ← evidence.mapM evidenceRef
  .ok (sortedSet compareText evidence)

/-- A usage that is not a reference. -/
def invalidUsage (usage : Value) : Bool :=
  match usage.asStr with
  | some value => !isReference value
  | none => true

/-- `maximum_impact_basis_points`: a number of at most 10000. -/
def maximumImpactBasisPoints (payload : Value) : Except IdrRuntimeErrorV1 Nat :=
  okOr (((payload.get "maximum_impact_basis_points").bind Value.asU64).filter (· ≤ 10000))
    .bindingMismatch

/-- `validate_human_model_candidate`. -/
def validateHumanModelCandidate (payload : Value) : Except IdrRuntimeErrorV1 Unit := do
  let predicate ← requiredPayloadString payload "predicate"
  let scope ← requiredPayloadString payload "scope_ref"
  let _ ← requiredPayloadDigest payload "value_digest"
  let evidence ← evidenceRefs payload
  let usages ← okOr (((payload.get "allowed_purposes").bind Value.asArray).filter (· ≠ []))
    .bindingMismatch
  let _ ← maximumImpactBasisPoints payload
  rejectIf (byteLen predicate = 0
      ∨ isReference scope = false
      ∨ evidence = []
      ∨ usages.any invalidUsage = true)
    .bindingMismatch

/-- `require_exact_record_payload`. -/
def requireExactRecordPayload (payload : Value) (fieldPrefix : Text)
    (expected : AuthoritativeRecordRefV1) : Except IdrRuntimeErrorV1 Unit := do
  let text ← requiredPayloadString payload (fieldPrefix ++ "_record_id")
  let recordId ← okOr (Uuid.parse text) .bindingMismatch
  let revision ← okOr ((payload.get (fieldPrefix ++ "_revision")).bind Value.asU64)
    .bindingMismatch
  let digest ← requiredPayloadDigest payload (fieldPrefix ++ "_record_digest")
  require (recordId = expected.recordId
      ∧ revision = expected.revision
      ∧ digest = expected.recordDigest)
    .bindingMismatch

/-- `validate_human_model_promotion`. -/
def validateHumanModelPromotion (payload : Value) (candidateDigest : Text)
    (sourceCandidate : Value) : Except IdrRuntimeErrorV1 Text := do
  let digest ← requiredPayloadString payload "candidate_digest"
  rejectIf (digest ≠ candidateDigest) .bindingMismatch
  let outcome ← requiredPayloadString payload "outcome"
  let claimedEvidenceCount :=
    ((payload.get "independent_evidence_count").bind Value.asU64).getD 0
  let evidenceRoots ← evidenceRefs sourceCandidate
  let independentEvidenceCount := evidenceRoots.length
  rejectIf (claimedEvidenceCount ≠ independentEvidenceCount) .bindingMismatch
  require (outcome = "keep_session" ∨ outcome = "store_candidate" ∨ outcome = "reject"
      ∨ (outcome = "promote_provisional" ∧ independentEvidenceCount ≥ 2)
      ∨ outcome = "promote_user_confirmed" ∨ outcome = "promote_outcome_supported")
    .bindingMismatch
  .ok outcome

/-- `validate_human_model_assertion_request`. -/
def validateHumanModelAssertionRequest (payload : Value) (sourceCandidateDigest : Text) :
    Except IdrRuntimeErrorV1 Unit := do
  let object ← okOr payload.asObject .bindingMismatch
  rejectIf (object.length ≠ 1 ∨ (object.lookup ("source_candidate_digest" : Text)).isNone = true)
    .bindingMismatch
  let digest ← requiredPayloadString payload "source_candidate_digest"
  rejectIf (digest ≠ sourceCandidateDigest) .bindingMismatch

/-- `validate_human_model_correction`. -/
def validateHumanModelCorrection (payload : Value) : Except IdrRuntimeErrorV1 Unit := do
  let lifecycleState ← requiredPayloadString payload "lifecycle_state"
  require (lifecycleState = "corrected" ∨ lifecycleState = "rejected"
      ∨ lifecycleState = "deleted")
    .bindingMismatch
  validateHumanModelCandidate payload

/-! ### Receipts and outcomes -/

/-- `receipt_terminal_state`. -/
def receiptTerminalState (payload : Value) :
    Except IdrRuntimeErrorV1 ExecutionAggregateStateV1 :=
  let state := (payload.get "state").bind Value.asStr
  if state = some "succeeded" then .ok .succeeded
  else if state = some "failed" then .ok .failed
  else if state = some "rejected" then .ok .rejected
  else if state = some "compensated" then .ok .compensated
  else .error .bindingMismatch

/-- `validate_execution_receipt_candidate`. -/
def validateExecutionReceiptCandidate (payload : Value) (permitId : Uuid)
    (providerRef : ReferenceV1) (dispatchNonce : Text) (attempt : Nat)
    (actionWasInvalidated : Bool) (expectedRequestDigest : Text) :
    Except IdrRuntimeErrorV1 Unit := do
  let payloadPermit ← requiredPayloadString payload "permit_id"
  let payloadProvider ← requiredPayloadString payload "provider_ref"
  let payloadDispatchNonce ← requiredPayloadString payload "dispatch_nonce"
  let payloadAttempt ←
    okOr (((payload.get "attempt").bind Value.asU64).filter (· < 2 ^ 32)) .bindingMismatch
  let payloadInvalidated ←
    okOr ((payload.get "action_was_invalidated").bind Value.asBool) .bindingMismatch
  let requestDigest ← requiredPayloadDigest payload "request_digest"
  let _ ← requiredPayloadDigest payload "result_digest"
  let _ ← receiptTerminalState payload
  require (payloadPermit = permitId.toString
      ∧ payloadProvider = providerRef.asStr
      ∧ payloadDispatchNonce = dispatchNonce
      ∧ payloadAttempt = attempt
      ∧ payloadInvalidated = actionWasInvalidated
      ∧ requestDigest = expectedRequestDigest)
    .bindingMismatch

/-- `validate_outcome_candidate`. -/
def validateOutcomeCandidate (payload : Value) (receiptRecordDigest : Text) :
    Except IdrRuntimeErrorV1 Unit := do
  let digest ← requiredPayloadString payload "receipt_record_digest"
  rejectIf (digest ≠ receiptRecordDigest) .bindingMismatch
  let _ ← requiredPayloadDigest payload "observed_value_digest"
  let _ ← requiredPayloadString payload "observation"
  .ok ()

/-- A receipt never ends an execution as cancelled or expired. -/
theorem receiptTerminalState_eq_ok {payload : Value} {state : ExecutionAggregateStateV1}
    (h : receiptTerminalState payload = .ok state) :
    state = .succeeded ∨ state = .failed ∨ state = .rejected ∨ state = .compensated := by
  unfold receiptTerminalState at h
  grind

end Idr
