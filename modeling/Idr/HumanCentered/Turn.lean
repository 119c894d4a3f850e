/-
Idr/HumanCentered/Turn.lean

Response contracts and turn coordination plans.

A plan orders the responses and actions of a turn.  Its mode says which of
the two must come first, and the edges of its dependency graph must say the
same: the graph is acyclic (`dependencyGraphIsAcyclic`), and whatever comes
second is reached from something that comes first (`dependencyPathExists`).
-/
import Idr.HumanCentered.Intent

namespace Idr

/-! ### Responses -/

/-- `ResponsePhaseV1`. -/
inductive ResponsePhaseV1
  | preAction
  | progress
  | postAction
  | final
  deriving DecidableEq

instance : Serialize ResponsePhaseV1 where
  toValue
    | .preAction => .string "pre_action"
    | .progress => .string "progress"
    | .postAction => .string "post_action"
    | .final => .string "final"

/-- `ResponseTypeV1`. -/
inductive ResponseTypeV1
  | answer
  | clarification
  | recommendation
  | challenge
  | confirmationRequest
  | progressUpdate
  | executionReport
  | recoveryOffer
  deriving DecidableEq

instance : Serialize ResponseTypeV1 where
  toValue
    | .answer => .string "answer"
    | .clarification => .string "clarification"
    | .recommendation => .string "recommendation"
    | .challenge => .string "challenge"
    | .confirmationRequest => .string "confirmation_request"
    | .progressUpdate => .string "progress_update"
    | .executionReport => .string "execution_report"
    | .recoveryOffer => .string "recovery_offer"

/-- `ExplanationDepthV1`. -/
inductive ExplanationDepthV1
  | minimal
  | low
  | medium
  | high
  deriving DecidableEq

instance : Serialize ExplanationDepthV1 where
  toValue
    | .minimal => .string "minimal"
    | .low => .string "low"
    | .medium => .string "medium"
    | .high => .string "high"

/-- `TerminologyLevelV1`. -/
inductive TerminologyLevelV1
  | plain
  | professional
  | expert
  deriving DecidableEq

instance : Serialize TerminologyLevelV1 where
  toValue
    | .plain => .string "plain"
    | .professional => .string "professional"
    | .expert => .string "expert"

/-- `ResponseContractV1`. -/
structure ResponseContractV1 where
  metadata : HumanCenteredContractMetadataV1
  sourceContractRefs : List HumanCenteredContractRefV1
  responsePhase : ResponsePhaseV1
  responseType : ResponseTypeV1
  answerStructure : List Text
  evidenceRefs : List ReferenceV1
  explanationDepth : ExplanationDepthV1
  terminologyLevel : TerminologyLevelV1
  clarificationQuestions : List Text
  uncertaintyDisclosures : List Text
  prohibitedContentRefs : List ReferenceV1
  requiresPostRenderPolicyCheck : Bool
  recordDigest : Text
  deriving DecidableEq

namespace ResponseContractV1

def digestInput (self : ResponseContractV1) : Value := .array [
  toValue self.metadata,
  toValue self.sourceContractRefs,
  toValue self.responsePhase,
  toValue self.responseType,
  toValue self.answerStructure,
  toValue self.evidenceRefs,
  toValue self.explanationDepth,
  toValue self.terminologyLevel,
  toValue self.clarificationQuestions,
  toValue self.uncertaintyDisclosures,
  toValue self.prohibitedContentRefs,
  toValue self.requiresPostRenderPolicyCheck]

/-- A source is a dependency of a kind that can be answered from, and before the action neither a
receipt nor an outcome. -/
def validateSource (self : ResponseContractV1) (reference : HumanCenteredContractRefV1) :
    Validated := do
  reference.validate
  rejectIf (reference.kind ∉ [HumanCenteredContractKindV1.intent, .decision, .action,
        .executionReceipt, .outcome]
      ∨ reference ∉ self.metadata.dependencyRefs)
    .invalidContract
  rejectIf (self.responsePhase = .preAction
      ∧ reference.kind ∈ [HumanCenteredContractKindV1.executionReceipt, .outcome])
    .invalidContract

variable [Crypto] [FloatText]

def validate (self : ResponseContractV1) : Validated := do
  checkKind self.metadata .response
  validateTextCollection self.answerStructure
  validateTextCollection self.clarificationQuestions
  validateTextCollection self.uncertaintyDisclosures
  rejectIf (self.sourceContractRefs = []
      ∨ self.answerStructure = []
      ∨ self.requiresPostRenderPolicyCheck = false)
    .invalidContract
  self.sourceContractRefs.forM self.validateSource
  rejectIf (self.responseType = .clarification ∧ self.clarificationQuestions = []) .invalidContract
  checkDigest "response-contract-v1" self.digestInput self.recordDigest

def recordRef (self : ResponseContractV1) :
    Except HumanCenteredProtocolError HumanCenteredContractRefV1 :=
  contractRef self.validate .response self.metadata self.recordDigest

end ResponseContractV1

instance : Serialize ResponseContractV1 where
  toValue self := .object [
    ("metadata", toValue self.metadata),
    ("source_contract_refs", toValue self.sourceContractRefs),
    ("response_phase", toValue self.responsePhase),
    ("response_type", toValue self.responseType),
    ("answer_structure", toValue self.answerStructure),
    ("evidence_refs", toValue self.evidenceRefs),
    ("explanation_depth", toValue self.explanationDepth),
    ("terminology_level", toValue self.terminologyLevel),
    ("clarification_questions", toValue self.clarificationQuestions),
    ("uncertainty_disclosures", toValue self.uncertaintyDisclosures),
    ("prohibited_content_refs", toValue self.prohibitedContentRefs),
    ("requires_post_render_policy_check", toValue self.requiresPostRenderPolicyCheck),
    ("record_digest", toValue self.recordDigest)]

/-! ### Turn coordination -/

/-- `TurnCoordinationModeV1`. -/
inductive TurnCoordinationModeV1
  | respondOnly
  | actThenRespond
  | respondThenAct
  | respondThenConfirmThenAct
  | parallel
  | acknowledgeThenRun
  | streamProgressThenFinal
  deriving DecidableEq

instance : Serialize TurnCoordinationModeV1 where
  toValue
    | .respondOnly => .string "respond_only"
    | .actThenRespond => .string "act_then_respond"
    | .respondThenAct => .string "respond_then_act"
    | .respondThenConfirmThenAct => .string "respond_then_confirm_then_act"
    | .parallel => .string "parallel"
    | .acknowledgeThenRun => .string "acknowledge_then_run"
    | .streamProgressThenFinal => .string "stream_progress_then_final"

/-- `TurnGateKindV1`. -/
inductive TurnGateKindV1
  | userAuthorization
  | userInput
  | policyApproval
  | humanApprover
  | dependency
  deriving DecidableEq

instance : Serialize TurnGateKindV1 where
  toValue
    | .userAuthorization => .string "user_authorization"
    | .userInput => .string "user_input"
    | .policyApproval => .string "policy_approval"
    | .humanApprover => .string "human_approver"
    | .dependency => .string "dependency"

/-- `TurnDependencyEdgeV1`. -/
structure TurnDependencyEdgeV1 where
  before : HumanCenteredContractRefV1
  after : HumanCenteredContractRefV1
  deriving DecidableEq

instance : Serialize TurnDependencyEdgeV1 where
  toValue self := .object [
    ("before", toValue self.before),
    ("after", toValue self.after)]

/-- `TurnGateV1`. -/
structure TurnGateV1 where
  gateKind : TurnGateKindV1
  requiredBefore : HumanCenteredContractRefV1
  policyRef : Option ReferenceV1
  deriving DecidableEq

instance : Serialize TurnGateV1 where
  toValue self := .object [
    ("gate_kind", toValue self.gateKind),
    ("required_before", toValue self.requiredBefore),
    ("policy_ref", toValue self.policyRef)]

/-- `TurnFailurePolicyV1`. -/
inductive TurnFailurePolicyV1
  | reportOnly
  | reportAndOfferRecovery
  | compensateThenReport
  | escalate
  deriving DecidableEq

instance : Serialize TurnFailurePolicyV1 where
  toValue
    | .reportOnly => .string "report_only"
    | .reportAndOfferRecovery => .string "report_and_offer_recovery"
    | .compensateThenReport => .string "compensate_then_report"
    | .escalate => .string "escalate"

/-- `TurnProgressPolicyV1`. -/
inductive TurnProgressPolicyV1
  | silent
  | acknowledgeOnly
  | streamStatus
  deriving DecidableEq

instance : Serialize TurnProgressPolicyV1 where
  toValue
    | .silent => .string "silent"
    | .acknowledgeOnly => .string "acknowledge_only"
    | .streamStatus => .string "stream_status"

section Graph

/-- The references that a list of edges leads to from one, each once. -/
def nextNodes (edges : List TurnDependencyEdgeV1) (node : HumanCenteredContractRefV1) :
    List HumanCenteredContractRefV1 :=
  ((edges.filter (·.before = node)).map (·.after)).eraseDups

/-- How many different references have an edge to the reference. -/
def indegree (edges : List TurnDependencyEdgeV1) (node : HumanCenteredContractRefV1) : Nat :=
  (edges.eraseDups.filter (·.after = node)).length

/-- One turn of the loop of `dependency_graph_is_acyclic`: the indegree of each successor goes down,
and those at which it reaches zero become ready. -/
def releaseNodes (degrees : HumanCenteredContractRefV1 → Option Nat) :
    List HumanCenteredContractRefV1 → List HumanCenteredContractRefV1 →
      Option ((HumanCenteredContractRefV1 → Option Nat) × List HumanCenteredContractRefV1)
  | [], ready => some (degrees, ready)
  | next :: rest, ready =>
    match degrees next with
    | none => none
    | some degree =>
      releaseNodes (fun node => if node = next then some (degree - 1) else degrees node) rest
        (if degree - 1 = 0 then ready ++ [next] else ready)

/-- The loop of `dependency_graph_is_acyclic`: the number of references that become ready.  A
reference becomes ready at most once, so the number of references is enough fuel. -/
def drainReady (edges : List TurnDependencyEdgeV1) :
    Nat → (HumanCenteredContractRefV1 → Option Nat) → List HumanCenteredContractRefV1 → Nat →
      Option Nat
  | 0, _, _, visited => some visited
  | _ + 1, _, [], visited => some visited
  | fuel + 1, degrees, node :: ready, visited =>
    match releaseNodes degrees (nextNodes edges node) ready with
    | none => none
    | some (degrees, ready) => drainReady edges fuel degrees ready (visited + 1)

/-- `dependency_graph_is_acyclic`: every reference becomes ready. -/
def dependencyGraphIsAcyclic (nodes : List HumanCenteredContractRefV1)
    (edges : List TurnDependencyEdgeV1) : Bool :=
  let known := (nodes ++ edges.map (·.after)).eraseDups
  let degrees := fun node => if node ∈ known then some (indegree edges node) else none
  let ready := known.filter fun node => indegree edges node = 0
  drainReady edges known.length degrees ready 0 = some nodes.eraseDups.length

/-- The loop of `dependency_path_exists`: a breadth-first search.  Each edge is taken at most once,
so the number of edges is enough fuel. -/
def searchPath (target : HumanCenteredContractRefV1) (edges : List TurnDependencyEdgeV1) :
    Nat → List HumanCenteredContractRefV1 → List HumanCenteredContractRefV1 → Bool
  | 0, _, _ => false
  | _ + 1, [], _ => false
  | fuel + 1, current :: queue, visited =>
    if current ∈ visited then searchPath target edges fuel queue visited
    else
      let next := (edges.filter (·.before = current)).map (·.after)
      if target ∈ next then true
      else searchPath target edges fuel (queue ++ next) (current :: visited)

/-- `dependency_path_exists`. -/
def dependencyPathExists (start target : HumanCenteredContractRefV1)
    (edges : List TurnDependencyEdgeV1) : Bool :=
  searchPath target edges (edges.length + 1) [start] []

end Graph

/-- `TurnCoordinationPlanV1`. -/
structure TurnCoordinationPlanV1 where
  metadata : HumanCenteredContractMetadataV1
  mode : TurnCoordinationModeV1
  responseRefs : List HumanCenteredContractRefV1
  actionRefs : List HumanCenteredContractRefV1
  dependencies : List TurnDependencyEdgeV1
  gates : List TurnGateV1
  failurePolicy : TurnFailurePolicyV1
  progressPolicy : TurnProgressPolicyV1
  rationale : Text
  recordDigest : Text
  deriving DecidableEq

namespace TurnCoordinationPlanV1

def digestInput (self : TurnCoordinationPlanV1) : Value := .array [
  toValue self.metadata,
  toValue self.mode,
  toValue self.responseRefs,
  toValue self.actionRefs,
  toValue self.dependencies,
  toValue self.gates,
  toValue self.failurePolicy,
  toValue self.progressPolicy,
  toValue self.rationale]

/-- The references of the plan. -/
def knownRefs (self : TurnCoordinationPlanV1) : List HumanCenteredContractRefV1 :=
  self.responseRefs ++ self.actionRefs

/-- The mode puts a response before every action. -/
def responseBeforeAction (self : TurnCoordinationPlanV1) : Bool :=
  self.mode ∈ [.respondThenAct, .respondThenConfirmThenAct, .acknowledgeThenRun]

def validateEdge (self : TurnCoordinationPlanV1) (edge : TurnDependencyEdgeV1) : Validated := do
  edge.before.validate
  edge.after.validate
  rejectIf (edge.before = edge.after ∨ edge.before ∉ self.knownRefs ∨ edge.after ∉ self.knownRefs)
    .invalidDependency

def validateGate (self : TurnCoordinationPlanV1) (gate : TurnGateV1) : Validated := do
  gate.requiredBefore.validate
  rejectIf (gate.requiredBefore ∉ self.knownRefs) .invalidDependency
  rejectIf (gate.gateKind = .userAuthorization ∧ gate.requiredBefore.kind ≠ .action)
    .invalidDependency

variable [Crypto] [FloatText]

def validate (self : TurnCoordinationPlanV1) : Validated := do
  checkKind self.metadata .turnCoordination
  validateRequiredText self.rationale
  rejectIf (self.responseRefs = []
      ∨ self.responseRefs.any (·.kind ≠ .response) = true
      ∨ self.actionRefs.any (·.kind ≠ .action) = true)
    .invalidContract
  rejectIf (decide (self.mode ≠ .respondOnly) = self.actionRefs.isEmpty) .invalidContract
  let confirmationMode := self.mode = .respondThenConfirmThenAct
  rejectIf (decide confirmationMode ≠ self.gates.any (·.gateKind = .userAuthorization))
    .invalidContract
  rejectIf (¬ self.knownRefs ⊆ self.metadata.dependencyRefs) .invalidDependency
  self.dependencies.forM self.validateEdge
  rejectIf (dependencyGraphIsAcyclic self.knownRefs self.dependencies = false) .invalidDependency
  self.gates.forM self.validateGate
  rejectIf (confirmationMode ∧ self.actionRefs.any (fun action => !self.gates.any fun gate =>
      gate.gateKind = .userAuthorization && gate.requiredBefore = action) = true)
    .invalidDependency
  rejectIf (self.responseBeforeAction = true ∧ self.actionRefs.any (fun action =>
      !self.responseRefs.any (dependencyPathExists · action self.dependencies)) = true)
    .invalidDependency
  rejectIf (self.mode = .actThenRespond ∧ self.responseRefs.any (fun response =>
      !self.actionRefs.any (dependencyPathExists · response self.dependencies)) = true)
    .invalidDependency
  checkDigest "turn-coordination-plan-v1" self.digestInput self.recordDigest

def recordRef (self : TurnCoordinationPlanV1) :
    Except HumanCenteredProtocolError HumanCenteredContractRefV1 :=
  contractRef self.validate .turnCoordination self.metadata self.recordDigest

end TurnCoordinationPlanV1

instance : Serialize TurnCoordinationPlanV1 where
  toValue self := .object [
    ("metadata", toValue self.metadata),
    ("mode", toValue self.mode),
    ("response_refs", toValue self.responseRefs),
    ("action_refs", toValue self.actionRefs),
    ("dependencies", toValue self.dependencies),
    ("gates", toValue self.gates),
    ("failure_policy", toValue self.failurePolicy),
    ("progress_policy", toValue self.progressPolicy),
    ("rationale", toValue self.rationale),
    ("record_digest", toValue self.recordDigest)]

end Idr
