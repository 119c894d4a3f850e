/-
Idr/HumanCentered/Contract.lean

Assertions about a person, and the eight kinds of contracts together.

What a store reads of every contract alike is its reference and its
metadata.  Both are tied together by the validity of the contract
(`recordRef_eq_ok`): the reference has the kind, the identifier and the
revision of the metadata, and is itself valid.
-/
import Idr.HumanCentered.Turn
import Idr.HumanCentered.Receipt

namespace Idr

/-! ### Assertions -/

/-- `HumanModelAssertionTypeV1`. -/
inductive HumanModelAssertionTypeV1
  | interactionProfile
  | cognitiveInteractionProfile
  | personalDecisionModel
  | goal
  | constraint
  | decisionHistory
  | outcomeHistory
  deriving DecidableEq

instance : Serialize HumanModelAssertionTypeV1 where
  toValue
    | .interactionProfile => .string "interaction_profile"
    | .cognitiveInteractionProfile => .string "cognitive_interaction_profile"
    | .personalDecisionModel => .string "personal_decision_model"
    | .goal => .string "goal"
    | .constraint => .string "constraint"
    | .decisionHistory => .string "decision_history"
    | .outcomeHistory => .string "outcome_history"

/-- `HumanModelValueV1`. -/
inductive HumanModelValueV1
  | boolean (value : Bool)
  | integer (value : Int)
  | basisPoints (value : UnitIntervalBasisPointsV1)
  | text (value : Text)
  | enum (value : Text)
  | reference (value : ReferenceV1)
  deriving DecidableEq

/-- `HumanModelValueV1::validate`. -/
def HumanModelValueV1.validate : HumanModelValueV1 → Validated
  | text value | enum value => validateRequiredText value
  | reference value => rejectIf (value.asStr.isBlank = true) .invalidReference
  | boolean _ | integer _ | basisPoints _ => .ok ()

/-- An `i64` as a JSON number. -/
def integerValue (z : Int) : Value :=
  if 0 ≤ z then .number (.posInt z.toNat) else .number (.negInt z)

instance : Serialize HumanModelValueV1 where
  toValue
    | .boolean value => .object [("type", .string "boolean"), ("data", toValue value)]
    | .integer value => .object [("type", .string "integer"), ("data", integerValue value)]
    | .basisPoints value => .object [("type", .string "basis_points"), ("data", toValue value)]
    | .text value => .object [("type", .string "text"), ("data", toValue value)]
    | .enum value => .object [("type", .string "enum"), ("data", toValue value)]
    | .reference value => .object [("type", .string "reference"), ("data", toValue value)]

/-- `HumanModelScopeV1`. -/
structure HumanModelScopeV1 where
  domains : List Text
  taskTypes : List Text
  global : Bool
  deriving DecidableEq

/-- `HumanModelScopeV1::validate`. -/
def HumanModelScopeV1.validate (self : HumanModelScopeV1) : Validated := do
  rejectIf (self.domains.length > 64
      ∨ self.taskTypes.length > 64
      ∨ uniqueStrings self.domains = false
      ∨ uniqueStrings self.taskTypes = false
      ∨ (self.global = true ∧ (self.domains ≠ [] ∨ self.taskTypes ≠ []))
      ∨ (self.global = false ∧ self.domains = [] ∧ self.taskTypes = []))
    .invalidContract
  (self.domains ++ self.taskTypes).forM validateRequiredText

instance : Serialize HumanModelScopeV1 where
  toValue self := .object [
    ("domains", toValue self.domains),
    ("task_types", toValue self.taskTypes),
    ("global", toValue self.global)]

/-- `HumanModelPersistenceScopeV1`. -/
inductive HumanModelPersistenceScopeV1
  | turn
  | session
  | longTerm
  deriving DecidableEq

instance : Serialize HumanModelPersistenceScopeV1 where
  toValue
    | .turn => .string "turn"
    | .session => .string "session"
    | .longTerm => .string "long_term"

/-- `HumanModelEpistemicStatusV1`. -/
inductive HumanModelEpistemicStatusV1
  | candidate
  | provisional
  | userConfirmed
  | outcomeSupported
  deriving DecidableEq

instance : Serialize HumanModelEpistemicStatusV1 where
  toValue
    | .candidate => .string "candidate"
    | .provisional => .string "provisional"
    | .userConfirmed => .string "user_confirmed"
    | .outcomeSupported => .string "outcome_supported"

/-- `HumanModelLifecycleStatusV1`. -/
inductive HumanModelLifecycleStatusV1
  | active
  | rejected
  | expired
  | superseded
  deriving DecidableEq

instance : Serialize HumanModelLifecycleStatusV1 where
  toValue
    | .active => .string "active"
    | .rejected => .string "rejected"
    | .expired => .string "expired"
    | .superseded => .string "superseded"

/-- `HumanModelSourceTypeV1`. -/
inductive HumanModelSourceTypeV1
  | explicitUserStatement
  | inferredFromInteraction
  | decisionObservation
  | outcomeObservation
  | userCorrection
  | importedAuthorizedSource
  deriving DecidableEq

instance : Serialize HumanModelSourceTypeV1 where
  toValue
    | .explicitUserStatement => .string "explicit_user_statement"
    | .inferredFromInteraction => .string "inferred_from_interaction"
    | .decisionObservation => .string "decision_observation"
    | .outcomeObservation => .string "outcome_observation"
    | .userCorrection => .string "user_correction"
    | .importedAuthorizedSource => .string "imported_authorized_source"

/-- `HumanModelCorrectionStateV1`. -/
inductive HumanModelCorrectionStateV1
  | notReviewed
  | confirmed
  | corrected
  | rejected
  deriving DecidableEq

instance : Serialize HumanModelCorrectionStateV1 where
  toValue
    | .notReviewed => .string "not_reviewed"
    | .confirmed => .string "confirmed"
    | .corrected => .string "corrected"
    | .rejected => .string "rejected"

/-- `HumanModelUsagePolicyV1`. -/
structure HumanModelUsagePolicyV1 where
  allowedUses : List Text
  forbiddenUses : List Text
  maximumImpactLevel : ImpactLevelV1
  deriving DecidableEq

/-- `HumanModelUsagePolicyV1::validate`. -/
def HumanModelUsagePolicyV1.validate (self : HumanModelUsagePolicyV1) : Validated := do
  rejectIf (self.allowedUses.length > 64
      ∨ self.forbiddenUses.length > 64
      ∨ self.allowedUses = []
      ∨ uniqueStrings self.allowedUses = false
      ∨ uniqueStrings self.forbiddenUses = false
      ∨ self.maximumImpactLevel.rank ≥ ImpactLevelV1.high.rank
      ∨ self.allowedUses.any (self.forbiddenUses.contains ·) = true)
    .invalidContract
  (self.allowedUses ++ self.forbiddenUses).forM validateRequiredText

instance : Serialize HumanModelUsagePolicyV1 where
  toValue self := .object [
    ("allowed_uses", toValue self.allowedUses),
    ("forbidden_uses", toValue self.forbiddenUses),
    ("maximum_impact_level", toValue self.maximumImpactLevel)]

/-- `HumanModelAssertionV1`. -/
structure HumanModelAssertionV1 where
  metadata : HumanCenteredContractMetadataV1
  assertionId : HumanModelAssertionIdV1
  subjectRef : ReferenceV1
  assertionType : HumanModelAssertionTypeV1
  predicate : Text
  value : HumanModelValueV1
  claimSummary : Text
  scope : HumanModelScopeV1
  persistenceScope : HumanModelPersistenceScopeV1
  epistemicStatus : HumanModelEpistemicStatusV1
  lifecycleStatus : HumanModelLifecycleStatusV1
  confidence : UnitIntervalBasisPointsV1
  sourceType : HumanModelSourceTypeV1
  sourceRefs : List ReferenceV1
  supportingEvidenceRefs : List ReferenceV1
  contradictingEvidenceRefs : List ReferenceV1
  correctionState : HumanModelCorrectionStateV1
  correctedValue : Option HumanModelValueV1
  firstObservedAt : Nat
  lastObservedAt : Nat
  expiresAt : Option Nat
  decayPolicyRef : ReferenceV1
  usagePolicy : HumanModelUsagePolicyV1
  recordDigest : Text
  deriving DecidableEq

namespace HumanModelAssertionV1

def digestInput (self : HumanModelAssertionV1) : Value := .array [
  .array [
    toValue self.metadata,
    toValue self.assertionId,
    toValue self.subjectRef,
    toValue self.assertionType,
    toValue self.predicate,
    toValue self.value,
    toValue self.claimSummary,
    toValue self.scope,
    toValue self.persistenceScope,
    toValue self.epistemicStatus,
    toValue self.lifecycleStatus],
  .array [
    toValue self.confidence,
    toValue self.sourceType,
    toValue self.sourceRefs,
    toValue self.supportingEvidenceRefs,
    toValue self.contradictingEvidenceRefs,
    toValue self.correctionState,
    toValue self.correctedValue,
    toValue self.firstObservedAt,
    toValue self.lastObservedAt,
    toValue self.expiresAt,
    toValue self.decayPolicyRef,
    toValue self.usagePolicy]]

variable [Crypto] [FloatText]

def validate (self : HumanModelAssertionV1) : Validated := do
  checkKind self.metadata .humanModelAssertion
  self.value.validate
  self.scope.validate
  self.usagePolicy.validate
  validateRequiredText self.predicate
  validateRequiredText self.claimSummary
  rejectIf (self.assertionId.isEmpty = true
      ∨ self.subjectRef ≠ self.metadata.authorityContext.subjectRef
      ∨ self.decayPolicyRef.asStr.isBlank = true
      ∨ self.sourceRefs = []
      ∨ self.firstObservedAt = 0
      ∨ self.lastObservedAt < self.firstObservedAt
      ∨ self.expiresAt.any (fun expires => expires ≤ self.lastObservedAt) = true
      ∨ self.supportingEvidenceRefs.any (self.contradictingEvidenceRefs.contains ·) = true
      ∨ decide (self.correctionState = .corrected) ≠ self.correctedValue.isSome
      ∨ (self.persistenceScope = .longTerm ∧ self.epistemicStatus = .candidate))
    .invalidContract
  match self.correctedValue with
  | some value => value.validate
  | none => .ok ()
  checkDigest "human-model-assertion-v1" self.digestInput self.recordDigest

def recordRef (self : HumanModelAssertionV1) :
    Except HumanCenteredProtocolError HumanCenteredContractRefV1 :=
  contractRef self.validate .humanModelAssertion self.metadata self.recordDigest

end HumanModelAssertionV1

instance : Serialize HumanModelAssertionV1 where
  toValue self := .object [
    ("metadata", toValue self.metadata),
    ("assertion_id", toValue self.assertionId),
    ("subject_ref", toValue self.subjectRef),
    ("assertion_type", toValue self.assertionType),
    ("predicate", toValue self.predicate),
    ("value", toValue self.value),
    ("claim_summary", toValue self.claimSummary),
    ("scope", toValue self.scope),
    ("persistence_scope", toValue self.persistenceScope),
    ("epistemic_status", toValue self.epistemicStatus),
    ("lifecycle_status", toValue self.lifecycleStatus),
    ("confidence", toValue self.confidence),
    ("source_type", toValue self.sourceType),
    ("source_refs", toValue self.sourceRefs),
    ("supporting_evidence_refs", toValue self.supportingEvidenceRefs),
    ("contradicting_evidence_refs", toValue self.contradictingEvidenceRefs),
    ("correction_state", toValue self.correctionState),
    ("corrected_value", toValue self.correctedValue),
    ("first_observed_at", toValue self.firstObservedAt),
    ("last_observed_at", toValue self.lastObservedAt),
    ("expires_at", toValue self.expiresAt),
    ("decay_policy_ref", toValue self.decayPolicyRef),
    ("usage_policy", toValue self.usagePolicy),
    ("record_digest", toValue self.recordDigest)]

/-! ### All contracts -/

/-- `HumanCenteredContractSnapshotV1`. -/
inductive HumanCenteredContractSnapshotV1
  | intent (value : IntentContractV1)
  | decision (value : DecisionContractV1)
  | turnCoordination (value : TurnCoordinationPlanV1)
  | response (value : ResponseContractV1)
  | action (value : ActionContractV1)
  | executionReceipt (value : ExecutionReceiptV1)
  | outcome (value : OutcomeRecordV1)
  | humanModelAssertion (value : HumanModelAssertionV1)
  deriving DecidableEq

namespace HumanCenteredContractSnapshotV1

def kind : HumanCenteredContractSnapshotV1 → HumanCenteredContractKindV1
  | intent _ => .intent
  | decision _ => .decision
  | turnCoordination _ => .turnCoordination
  | response _ => .response
  | action _ => .action
  | executionReceipt _ => .executionReceipt
  | outcome _ => .outcome
  | humanModelAssertion _ => .humanModelAssertion

def metadata : HumanCenteredContractSnapshotV1 → HumanCenteredContractMetadataV1
  | intent value => value.metadata
  | decision value => value.metadata
  | turnCoordination value => value.metadata
  | response value => value.metadata
  | action value => value.metadata
  | executionReceipt value => value.metadata
  | outcome value => value.metadata
  | humanModelAssertion value => value.metadata

/-- The digest a contract carries. -/
def recordDigest : HumanCenteredContractSnapshotV1 → Text
  | intent value => value.recordDigest
  | decision value => value.recordDigest
  | turnCoordination value => value.recordDigest
  | response value => value.recordDigest
  | action value => value.recordDigest
  | executionReceipt value => value.recordDigest
  | outcome value => value.recordDigest
  | humanModelAssertion value => value.recordDigest

section Validate

variable [Crypto] [FloatText]

def validate : HumanCenteredContractSnapshotV1 → Validated
  | intent value => value.validate
  | decision value => value.validate
  | turnCoordination value => value.validate
  | response value => value.validate
  | action value => value.validate
  | executionReceipt value => value.validate
  | outcome value => value.validate
  | humanModelAssertion value => value.validate

def recordRef : HumanCenteredContractSnapshotV1 →
    Except HumanCenteredProtocolError HumanCenteredContractRefV1
  | intent value => value.recordRef
  | decision value => value.recordRef
  | turnCoordination value => value.recordRef
  | response value => value.recordRef
  | action value => value.recordRef
  | executionReceipt value => value.recordRef
  | outcome value => value.recordRef
  | humanModelAssertion value => value.recordRef

/-- `record.record_ref().ok().as_ref() == Some(reference)`. -/
def isAt (self : HumanCenteredContractSnapshotV1) (reference : HumanCenteredContractRefV1) : Bool :=
  isOkAnd self.recordRef (· = reference)

/-- Every kind of contract makes its reference in the same way. -/
theorem recordRef_eq (self : HumanCenteredContractSnapshotV1) :
    self.recordRef = contractRef self.validate self.kind self.metadata self.recordDigest := by
  cases self <;> rfl

/-- A valid contract has valid metadata, of its kind. -/
theorem checkKind_of_validate {self : HumanCenteredContractSnapshotV1}
    (h : self.validate = .ok ()) :
    self.metadata.validate = .ok () ∧ self.metadata.contractKind = self.kind := by
  rw [← checkKind_eq_ok (u := ())]
  cases self <;> (obtain ⟨⟨⟩, hkind, -⟩ := bind_eq_ok.mp h; exact hkind)

/-- **The reference of a contract** is made of what its metadata say and of the digest it
carries. -/
theorem recordRef_eq_ok {self : HumanCenteredContractSnapshotV1} {r : HumanCenteredContractRefV1} :
    self.recordRef = .ok r ↔ self.validate = .ok () ∧
      r = ⟨self.kind, self.metadata.contractId, self.metadata.revision, self.recordDigest⟩ ∧
      r.validate = .ok () := by
  rw [recordRef_eq, contractRef, bind_eq_ok]
  simp only [exists_unit_eq_ok, HumanCenteredContractRefV1.new_eq_ok]

theorem isAt_iff {self : HumanCenteredContractSnapshotV1} {r : HumanCenteredContractRefV1} :
    self.isAt r = true ↔ self.recordRef = .ok r := by
  rw [isAt, isOkAnd_iff]
  constructor
  · rintro ⟨a, ha, heq⟩
    rw [ha, of_decide_eq_true heq]
  · intro h
    exact ⟨r, h, decide_eq_true rfl⟩

end Validate

end HumanCenteredContractSnapshotV1

/-- The tag and the content of a contract. -/
instance : Serialize HumanCenteredContractSnapshotV1 where
  toValue self := .object [
    ("contract_kind", toValue self.kind),
    ("contract", match self with
      | .intent value => toValue value
      | .decision value => toValue value
      | .turnCoordination value => toValue value
      | .response value => toValue value
      | .action value => toValue value
      | .executionReceipt value => toValue value
      | .outcome value => toValue value
      | .humanModelAssertion value => toValue value)]

end Idr
