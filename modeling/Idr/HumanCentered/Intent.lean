/-
Idr/HumanCentered/Intent.lean

Intent and decision contracts.

Every contract is checked in the same order: its metadata, its kind, its own
contents, and last the digest of its record (`checkKind`, `checkDigest`).
Its reference is made of the same parts (`contractRef`).
-/
import Idr.HumanCentered.Common
import Mathlib.Algebra.GroupWithZero.Nat

namespace Idr

/-! ### What all contracts share -/

/-- The first two checks of a contract. -/
def checkKind (metadata : HumanCenteredContractMetadataV1) (kind : HumanCenteredContractKindV1) :
    Validated := do
  metadata.validate
  rejectIf (metadata.contractKind ≠ kind) .contractKindMismatch

section Digest

variable [Crypto] [FloatText]

/-- The last check of a contract. -/
def checkDigest (domain : Text) (input : Value) (recordDigest : Text) : Validated :=
  rejectIf (contractDigest domain input ≠ recordDigest) .digestMismatch

end Digest

/-- `record_ref`: the reference of a contract that is valid. -/
def contractRef (valid : Validated) (kind : HumanCenteredContractKindV1)
    (metadata : HumanCenteredContractMetadataV1) (recordDigest : Text) :
    Except HumanCenteredProtocolError HumanCenteredContractRefV1 := do
  valid
  HumanCenteredContractRefV1.new kind metadata.contractId metadata.revision recordDigest

/-- A contract whose kind was checked has valid metadata of that kind. -/
theorem checkKind_eq_ok {metadata : HumanCenteredContractMetadataV1}
    {kind : HumanCenteredContractKindV1} {u : Unit} :
    checkKind metadata kind = .ok u ↔
    metadata.validate = .ok () ∧ metadata.contractKind = kind := by
  simp only [checkKind, bind_eq_ok, exists_unit_eq_ok, rejectIf_eq_ok, not_not]

/-! ### Intents -/

/-- `IntentResolutionMethodV1`. -/
inductive IntentResolutionMethodV1
  | deterministicFastPath
  | fullPath
  deriving DecidableEq

instance : Serialize IntentResolutionMethodV1 where
  toValue
    | .deterministicFastPath => .string "deterministic_fast_path"
    | .fullPath => .string "full_path"

/-- `IntentHypothesisV1`. -/
structure IntentHypothesisV1 where
  hypothesisRef : ReferenceV1
  intentName : Text
  confidence : UnitIntervalBasisPointsV1
  supportingEvidenceRefs : List ReferenceV1
  contradictingEvidenceRefs : List ReferenceV1
  deriving DecidableEq

/-- `IntentHypothesisV1::validate`. -/
def IntentHypothesisV1.validate (self : IntentHypothesisV1) : Validated := do
  validateRequiredText self.intentName
  rejectIf (self.hypothesisRef.asStr.isBlank = true
      ∨ self.supportingEvidenceRefs.any (self.contradictingEvidenceRefs.contains ·) = true)
    .invalidContract

instance : Serialize IntentHypothesisV1 where
  toValue self := .object [
    ("hypothesis_ref", toValue self.hypothesisRef),
    ("intent_name", toValue self.intentName),
    ("confidence", toValue self.confidence),
    ("supporting_evidence_refs", toValue self.supportingEvidenceRefs),
    ("contradicting_evidence_refs", toValue self.contradictingEvidenceRefs)]

/-- `RankedIntentHypothesisV1`. -/
structure RankedIntentHypothesisV1 where
  hypothesis : IntentHypothesisV1
  rank : Nat
  deriving DecidableEq

instance : Serialize RankedIntentHypothesisV1 where
  toValue self := .object [
    ("hypothesis", toValue self.hypothesis),
    ("rank", toValue self.rank)]

/-- The loop of `validate_ranked_hypotheses`, with the ranks and the references seen so far. -/
def validateRankedLoop (ranks : List Nat) (references : List Text) :
    List RankedIntentHypothesisV1 → Validated
  | [] => .ok ()
  | value :: values => do
    value.hypothesis.validate
    rejectIf (value.rank = 0 ∨ value.rank ∈ ranks
        ∨ value.hypothesis.hypothesisRef.asStr ∈ references)
      .invalidContract
    validateRankedLoop (value.rank :: ranks) (value.hypothesis.hypothesisRef.asStr :: references)
      values

/-- `validate_ranked_hypotheses`: the ranks are `1, …, n`. -/
def validateRankedHypotheses (values : List RankedIntentHypothesisV1) : Validated := do
  rejectIf (values.length > 256) .collectionLimitExceeded
  validateRankedLoop [] [] values
  rejectIf ((values.map (·.rank)).insertionSort (· ≤ ·) ≠ List.range' 1 values.length)
    .invalidContract

/-- `HumanModelEffectKindV1`. -/
inductive HumanModelEffectKindV1
  | reorderedBaseHypothesis
  | addedPersonalizedHypothesis
  | exposedModelExpressionConflict
  deriving DecidableEq

instance : Serialize HumanModelEffectKindV1 where
  toValue
    | .reorderedBaseHypothesis => .string "reordered_base_hypothesis"
    | .addedPersonalizedHypothesis => .string "added_personalized_hypothesis"
    | .exposedModelExpressionConflict => .string "exposed_model_expression_conflict"

/-- `HumanModelIntentEffectV1`. -/
structure HumanModelIntentEffectV1 where
  assertionRef : HumanCenteredContractRefV1
  effectKind : HumanModelEffectKindV1
  affectedHypothesisRef : ReferenceV1
  baseRank : Option Nat
  personalizedRank : Nat
  explanationRef : ReferenceV1
  deriving DecidableEq

instance : Serialize HumanModelIntentEffectV1 where
  toValue self := .object [
    ("assertion_ref", toValue self.assertionRef),
    ("effect_kind", toValue self.effectKind),
    ("affected_hypothesis_ref", toValue self.affectedHypothesisRef),
    ("base_rank", toValue self.baseRank),
    ("personalized_rank", toValue self.personalizedRank),
    ("explanation_ref", toValue self.explanationRef)]

/-- `IntentContractV1`. -/
structure IntentContractV1 where
  metadata : HumanCenteredContractMetadataV1
  userStatedIntentRef : ReferenceV1
  baseHypotheses : List RankedIntentHypothesisV1
  personalizedHypotheses : List RankedIntentHypothesisV1
  primaryHypothesisRef : ReferenceV1
  confidence : UnitIntervalBasisPointsV1
  ambiguity : Bool
  clarificationRequired : Bool
  humanModelEffects : List HumanModelIntentEffectV1
  resolutionMethod : IntentResolutionMethodV1
  recordDigest : Text
  deriving DecidableEq

namespace IntentContractV1

def digestInput (self : IntentContractV1) : Value := .array [
  toValue self.metadata,
  toValue self.userStatedIntentRef,
  toValue self.baseHypotheses,
  toValue self.personalizedHypotheses,
  toValue self.primaryHypothesisRef,
  toValue self.confidence,
  toValue self.ambiguity,
  toValue self.clarificationRequired,
  toValue self.humanModelEffects,
  toValue self.resolutionMethod]

variable [Crypto] [FloatText]

def validate (self : IntentContractV1) : Validated := do
  checkKind self.metadata .intent
  validateRankedHypotheses self.baseHypotheses
  validateRankedHypotheses self.personalizedHypotheses
  rejectIf (self.userStatedIntentRef.asStr.isBlank = true
      ∨ self.baseHypotheses = []
      ∨ self.personalizedHypotheses = [])
    .invalidContract
  let baseRefs := self.baseHypotheses.map (·.hypothesis.hypothesisRef.asStr)
  let personalizedRefs := self.personalizedHypotheses.map (·.hypothesis.hypothesisRef.asStr)
  rejectIf (¬ baseRefs ⊆ personalizedRefs
      ∨ self.primaryHypothesisRef.asStr ∉ personalizedRefs
      ∨ (self.resolutionMethod = .deterministicFastPath
        ∧ (self.humanModelEffects ≠ [] ∨ ¬ personalizedRefs ⊆ baseRefs))
      ∨ self.humanModelEffects.any
          (fun effect => !self.metadata.dependencyRefs.contains effect.assertionRef) = true)
    .invalidContract
  checkDigest "intent-contract-v1" self.digestInput self.recordDigest

def recordRef (self : IntentContractV1) :
    Except HumanCenteredProtocolError HumanCenteredContractRefV1 :=
  contractRef self.validate .intent self.metadata self.recordDigest

end IntentContractV1

instance : Serialize IntentContractV1 where
  toValue self := .object [
    ("metadata", toValue self.metadata),
    ("user_stated_intent_ref", toValue self.userStatedIntentRef),
    ("base_hypotheses", toValue self.baseHypotheses),
    ("personalized_hypotheses", toValue self.personalizedHypotheses),
    ("primary_hypothesis_ref", toValue self.primaryHypothesisRef),
    ("confidence", toValue self.confidence),
    ("ambiguity", toValue self.ambiguity),
    ("clarification_required", toValue self.clarificationRequired),
    ("human_model_effects", toValue self.humanModelEffects),
    ("resolution_method", toValue self.resolutionMethod),
    ("record_digest", toValue self.recordDigest)]

/-! ### Decisions -/

/-- `DecisionStageV1`. -/
inductive DecisionStageV1
  | framing
  | gatheringEvidence
  | generatingOptions
  | comparingOptions
  | awaitingUserInput
  | recommendationReady
  | userDecided
  deriving DecidableEq

instance : Serialize DecisionStageV1 where
  toValue
    | .framing => .string "framing"
    | .gatheringEvidence => .string "gathering_evidence"
    | .generatingOptions => .string "generating_options"
    | .comparingOptions => .string "comparing_options"
    | .awaitingUserInput => .string "awaiting_user_input"
    | .recommendationReady => .string "recommendation_ready"
    | .userDecided => .string "user_decided"

/-- `CriterionImportanceV1`. -/
inductive CriterionImportanceV1
  | required
  | high
  | medium
  | low
  deriving DecidableEq

instance : Serialize CriterionImportanceV1 where
  toValue
    | .required => .string "required"
    | .high => .string "high"
    | .medium => .string "medium"
    | .low => .string "low"

/-- `DecisionCriterionV1`. -/
structure DecisionCriterionV1 where
  name : Text
  importance : CriterionImportanceV1
  weight : Option UnitIntervalBasisPointsV1
  evidenceRefs : List ReferenceV1
  deriving DecidableEq

instance : Serialize DecisionCriterionV1 where
  toValue self := .object [
    ("name", toValue self.name),
    ("importance", toValue self.importance),
    ("weight", toValue self.weight),
    ("evidence_refs", toValue self.evidenceRefs)]

/-- `DecisionOptionV1`. -/
structure DecisionOptionV1 where
  optionRef : ReferenceV1
  label : Text
  description : Text
  evidenceRefs : List ReferenceV1
  reversible : Bool
  deriving DecidableEq

instance : Serialize DecisionOptionV1 where
  toValue self := .object [
    ("option_ref", toValue self.optionRef),
    ("label", toValue self.label),
    ("description", toValue self.description),
    ("evidence_refs", toValue self.evidenceRefs),
    ("reversible", toValue self.reversible)]

/-- `DecisionRiskV1`. -/
structure DecisionRiskV1 where
  summary : Text
  impact : ImpactLevelV1
  likelihood : UnitIntervalBasisPointsV1
  evidenceRefs : List ReferenceV1
  mitigation : Option Text
  deriving DecidableEq

/-- `DecisionRiskV1::validate`. -/
def DecisionRiskV1.validate (self : DecisionRiskV1) : Validated := do
  validateRequiredText self.summary
  match self.mitigation with
  | some mitigation => validateRequiredText mitigation
  | none => .ok ()

instance : Serialize DecisionRiskV1 where
  toValue self := .object [
    ("summary", toValue self.summary),
    ("impact", toValue self.impact),
    ("likelihood", toValue self.likelihood),
    ("evidence_refs", toValue self.evidenceRefs),
    ("mitigation", toValue self.mitigation)]

/-- `DecisionRecommendationV1`. -/
structure DecisionRecommendationV1 where
  optionRef : ReferenceV1
  confidence : UnitIntervalBasisPointsV1
  conditions : List Text
  evidenceRefs : List ReferenceV1
  deriving DecidableEq

instance : Serialize DecisionRecommendationV1 where
  toValue self := .object [
    ("option_ref", toValue self.optionRef),
    ("confidence", toValue self.confidence),
    ("conditions", toValue self.conditions),
    ("evidence_refs", toValue self.evidenceRefs)]

/-- `DecisionAuthorizationBoundaryV1`. -/
structure DecisionAuthorizationBoundaryV1 where
  maximumAutomaticImpact : ImpactLevelV1
  userConfirmationRequired : Bool
  requiredAuthorityRefs : List ReferenceV1
  prohibitedAutomaticOperations : List ReferenceV1
  deriving DecidableEq

instance : Serialize DecisionAuthorizationBoundaryV1 where
  toValue self := .object [
    ("maximum_automatic_impact", toValue self.maximumAutomaticImpact),
    ("user_confirmation_required", toValue self.userConfirmationRequired),
    ("required_authority_refs", toValue self.requiredAuthorityRefs),
    ("prohibited_automatic_operations", toValue self.prohibitedAutomaticOperations)]

/-- `DecisionContractV1`. -/
structure DecisionContractV1 where
  metadata : HumanCenteredContractMetadataV1
  intentRef : HumanCenteredContractRefV1
  subject : Text
  stage : DecisionStageV1
  objective : Text
  constraints : List Text
  criteria : List DecisionCriterionV1
  options : List DecisionOptionV1
  evidenceRefs : List ReferenceV1
  conflicts : List Text
  risks : List DecisionRiskV1
  uncertainty : List Text
  recommendation : Option DecisionRecommendationV1
  selectedOptionRef : Option ReferenceV1
  requiredUserInputs : List Text
  authorizationBoundary : DecisionAuthorizationBoundaryV1
  recordDigest : Text
  deriving DecidableEq

namespace DecisionContractV1

def digestInput (self : DecisionContractV1) : Value := .array [
  .array [
    toValue self.metadata,
    toValue self.intentRef,
    toValue self.subject,
    toValue self.stage,
    toValue self.objective,
    toValue self.constraints,
    toValue self.criteria,
    toValue self.options],
  .array [
    toValue self.evidenceRefs,
    toValue self.conflicts,
    toValue self.risks,
    toValue self.uncertainty,
    toValue self.recommendation,
    toValue self.selectedOptionRef,
    toValue self.requiredUserInputs,
    toValue self.authorizationBoundary]]

/-- The stage agrees with the recommendation, the selection and the inputs that are asked for. -/
def stageMismatch (self : DecisionContractV1) : Bool :=
  match self.stage with
  | .awaitingUserInput => self.requiredUserInputs.isEmpty || self.selectedOptionRef.isSome
  | .recommendationReady =>
    self.recommendation.isNone || !self.requiredUserInputs.isEmpty || self.selectedOptionRef.isSome
  | .userDecided => self.selectedOptionRef.isNone || !self.requiredUserInputs.isEmpty
  | _ => self.selectedOptionRef.isSome

variable [Crypto] [FloatText]

def validate (self : DecisionContractV1) : Validated := do
  checkKind self.metadata .decision
  self.intentRef.validate
  validateRequiredText self.subject
  validateRequiredText self.objective
  validateTextCollection self.constraints
  validateTextCollection self.conflicts
  validateTextCollection self.uncertainty
  validateTextCollection self.requiredUserInputs
  rejectIf (self.criteria.length > 256 ∨ self.options.length > 256 ∨ self.risks.length > 256)
    .collectionLimitExceeded
  rejectIf (self.intentRef.kind ≠ .intent
      ∨ self.intentRef ∉ self.metadata.dependencyRefs
      ∨ self.criteria.any (fun criterion => validateRequiredText criterion.name != .ok ()) = true
      ∨ self.risks.any (fun risk => risk.validate != .ok ()) = true)
    .invalidContract
  let optionRefs := self.options.map (·.optionRef.asStr)
  rejectIf (uniqueStrings optionRefs = false
      ∨ (self.options = [] ∧ self.requiredUserInputs = []))
    .invalidContract
  let weightedCriteria := self.criteria.filterMap (·.weight)
  rejectIf (weightedCriteria ≠ []
      ∧ (weightedCriteria.length ≠ self.criteria.length
        ∨ (weightedCriteria.map (·.value)).sum ≠ 10000))
    .invalidContract
  self.options.forM fun option => do
    validateRequiredText option.label
    validateRequiredText option.description
  match self.recommendation with
  | some recommendation => do
    validateTextCollection recommendation.conditions
    rejectIf (recommendation.optionRef.asStr ∉ optionRefs) .invalidContract
  | none => .ok ()
  rejectIf (self.selectedOptionRef.any (fun selected => !optionRefs.contains selected.asStr) = true)
    .invalidContract
  rejectIf (self.stageMismatch = true) .invalidContract
  rejectIf (self.authorizationBoundary.maximumAutomaticImpact.rank ≥ ImpactLevelV1.high.rank)
    .invalidContract
  checkDigest "decision-contract-v1" self.digestInput self.recordDigest

def recordRef (self : DecisionContractV1) :
    Except HumanCenteredProtocolError HumanCenteredContractRefV1 :=
  contractRef self.validate .decision self.metadata self.recordDigest

end DecisionContractV1

instance : Serialize DecisionContractV1 where
  toValue self := .object [
    ("metadata", toValue self.metadata),
    ("intent_ref", toValue self.intentRef),
    ("subject", toValue self.subject),
    ("stage", toValue self.stage),
    ("objective", toValue self.objective),
    ("constraints", toValue self.constraints),
    ("criteria", toValue self.criteria),
    ("options", toValue self.options),
    ("evidence_refs", toValue self.evidenceRefs),
    ("conflicts", toValue self.conflicts),
    ("risks", toValue self.risks),
    ("uncertainty", toValue self.uncertainty),
    ("recommendation", toValue self.recommendation),
    ("selected_option_ref", toValue self.selectedOptionRef),
    ("required_user_inputs", toValue self.requiredUserInputs),
    ("authorization_boundary", toValue self.authorizationBoundary),
    ("record_digest", toValue self.recordDigest)]

end Idr
