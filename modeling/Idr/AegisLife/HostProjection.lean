/-
Idr/AegisLife/HostProjection.lean

The pack that maps the snapshot of a host decision to a projection.

A profile holds three tables, which its validator compares with the tables of
the pack (`validateMapping_eq_ok`).  A snapshot names a strategy, an action and
a run; the tables map them, and six rules tie them together
(`ConsistencyRules`).  Both tables and rules compare texts, so that they hold of
every snapshot that is accepted.  The time of the capture and the two flags of
independence are taken as they come: a time that is no number is neither before
the receipt nor after the assessment, and a flag that is not true need not be
`false`.

The files that a profile binds are read from the repository, and are a
parameter.
-/
import Idr.AegisLife.EcmaScript

namespace Idr

namespace HostProjection

/-! ### Constants -/

def snapshotDomain : Text := "idr:aegis:host-decision-snapshot:v1"

def gateDomain : Text := "idr:aegis:host-projection-implementation-gate:v1"

def profileDomain : Text := "idr:aegis:host-projection-mapping-profile:v1"

def prohibitedFields : List Text := ["action", "authorization", "conversation", "execution_permit",
  "goal_text", "human_model", "message_text", "output_text", "personality", "prompt",
  "provider_payload", "raw_text", "secret", "token", "vector"]

def coordinationMapping : List (Text × Text) := [
  ("response_only", "respond_only"),
  ("action_before_response", "act_then_respond"),
  ("response_before_action", "respond_then_act"),
  ("response_then_authorization_gate_then_action", "respond_then_confirm_then_act"),
  ("parallel_response_and_action", "parallel"),
  ("acknowledge_before_background_run", "acknowledge_then_run"),
  ("stream_progress_before_final", "stream_progress_then_final")]

def actionMapping : List (Text × Text) := [
  ("no_action", "none"),
  ("action_blocked", "blocked"),
  ("action_ready", "planned"),
  ("action_waiting_authorization", "waiting_authorization")]

def runMapping : List (Text × Text) := [
  ("queued", "pending"),
  ("executing", "running"),
  ("waiting_user_input", "waiting_input"),
  ("waiting_action_authorization", "waiting_authorization"),
  ("waiting_external_dependency", "waiting_dependency"),
  ("completed", "succeeded"),
  ("declined", "rejected"),
  ("execution_failed", "failed"),
  ("user_cancelled", "cancelled"),
  ("deadline_exceeded", "timed_out"),
  ("superseded_or_stale", "invalidated")]

def consistencyRules : List Text := ["no_action_requires_response_only",
  "non_response_only_requires_action", "waiting_action_requires_waiting_run",
  "waiting_run_requires_waiting_action", "blocked_action_requires_declined_run",
  "declined_run_requires_blocked_action"]

def prohibitedInputs : List Text := ["idr_assessment", "idr_coordination_mode",
  "idr_action_posture", "idr_next_run_state", "shadow_comparison_result", "shadow_divergence",
  "evaluation_label", "chosen_action", "execution_result", "goal_outcome", "journal_record",
  "synthetic_fixture_result"]

def gateChecks : List Text := ["host_mapping_profile_locked", "host_source_owner_approved",
  "host_snapshot_implementation_registered", "pre_idr_capture_order_verified",
  "receipt_source_binding_verified", "source_enum_semantics_reviewed",
  "coordination_mapping_coverage_verified", "action_mapping_coverage_verified",
  "run_state_mapping_coverage_verified", "cross_field_consistency_tested",
  "no_circular_derivation_verified", "deterministic_mapper_verified",
  "failure_isolation_verified", "security_privacy_review_passed",
  "cross_language_conformance_passed"]

def snapshotFields : List Text := ["schema_id", "schema_version", "snapshot_ref",
  "receipt_digest", "receipt_source_binding_digest", "captured_at_logical_time", "owner_ref",
  "owner_version", "policy_ref", "host_coordination_strategy", "host_action_state",
  "host_run_phase", "idr_output_used", "shadow_result_used", "snapshot_digest"]

def profileFields : List Text := ["schema_id", "schema_version", "mapping_ref",
  "target_projection_schema", "source_review_pin", "lifecycle", "owner",
  "source_snapshot_contract", "coordination_mapping", "action_mapping", "run_state_mapping",
  "consistency_rules", "independence_policy", "implementation_gate", "profile_digest"]

/-- The place of a schema, from the directory of the integration. -/
def schemaPath (name : Text) : Text := "contracts/integrations/aegis-life/" ++ name

def targetSchemaPath : Text :=
  schemaPath "structured-observation/v1/idr-aegis-structured-observation-v1.schema.json"

def snapshotSchemaPath : Text :=
  schemaPath "host-projection-mapping/v1/idr-aegis-host-decision-snapshot-v1.schema.json"

/-! ### Helper functions -/

/-- `assertExactKeys`. -/
def assertExactKeys (value : Option Value) (keys : List Text) : Except GateError Unit :=
  exactShape "INVALID_OBJECT" value keys keys

/-- `scanForbidden`. -/
def scanForbidden : Value → Except GateError Unit :=
  scanNames fun key => rejectIf (key ∈ prohibitedFields) (deny "PROHIBITED_DATA_FIELD")

/-- The entries of a mapping as a value. -/
def mappingEntries (table : List (Text × Text)) : List Value :=
  table.map fun e => .object [("source", .string e.1), ("target", .string e.2)]

/-! ### The profile -/

section Profile

variable [EcmaScript] [Crypto] (readFile : Text → Except GateError (List UInt8))

/-- A file of the repository has the digest that is bound. -/
def checkFile (path : Text) (digest : Option Value) (code : String) : Except GateError Unit := do
  let bytes ← readFile path
  require (hasText digest ("sha256:" ++ sha256Hex bytes) = true) (deny code)

/-- `validateTarget`. -/
def validateTarget (target : Option Value) : Except GateError Unit := do
  assertExactKeys target ["schema_id", "schema_version", "schema_path", "schema_digest",
    "projection_definition", "required_fields"]
  require (hasText (field target "schema_id") "idr.aegis.structured-observation" = true
      ∧ field target "schema_version" = some (.number (.posInt 1))
      ∧ hasText (field target "schema_path") targetSchemaPath = true
      ∧ hasText (field target "projection_definition") "HostProjectionFactsV1" = true
      ∧ (field target "required_fields").any
        (same · (keyList ["coordination_mode", "action_posture", "next_run_state"])) = true)
    (deny "TARGET_SCHEMA_BINDING_MISMATCH")
  requirePattern isDigest (field target "schema_digest") "TARGET_SCHEMA_BINDING_MISMATCH"
  checkFile readFile targetSchemaPath (field target "schema_digest") "TARGET_SCHEMA_DIGEST_MISMATCH"

/-- `validateSourcePin`. -/
def validateSourcePin (pin : Option Value) : Except GateError Unit := do
  assertExactKeys pin ["repository", "commit_sha", "tree_sha", "review_document", "review_scope"]
  require (hasText (field pin "repository") "Aegis Life" = true
      ∧ hasText (field pin "commit_sha") "381d14fb1dccfeae691286a39579535ef59f7b4e" = true
      ∧ hasText (field pin "tree_sha") "da76b01653bb194e4f192e5768b32a38fd3b2173" = true
      ∧ hasText (field pin "review_document")
        "docs/integrations/IDR-AEGIS-SOURCE-DATA-FLOW-REVIEW.md" = true
      ∧ hasText (field pin "review_scope") "tracked_source_and_documentation_only" = true)
    (deny "SOURCE_REVIEW_PIN_MISMATCH")
  requirePattern isGitSha (field pin "commit_sha") "SOURCE_REVIEW_PIN_MISMATCH"
  requirePattern isGitSha (field pin "tree_sha") "SOURCE_REVIEW_PIN_MISMATCH"

/-- `validateLifecycle`.  The three times are compared as they come. -/
def validateLifecycle (lifecycle : Option Value) : Except GateError Unit := do
  assertExactKeys lifecycle ["status", "created_at_logical_time", "valid_from_logical_time",
    "valid_until_logical_time"]
  require (hasText (field lifecycle "status") "SPECIFICATION_ONLY" = true)
    (deny "LIFECYCLE_MISMATCH")
  let early ← isLess (field lifecycle "valid_from_logical_time")
    (field lifecycle "created_at_logical_time")
  rejectIf (early = true) (deny "LIFECYCLE_MISMATCH")
  let empty ← isGreaterOrEqual (field lifecycle "valid_from_logical_time")
    (field lifecycle "valid_until_logical_time")
  rejectIf (empty = true) (deny "LIFECYCLE_MISMATCH")

/-- `validateOwner`. -/
def validateOwner (owner : Option Value) : Except GateError Unit := do
  assertExactKeys owner ["owner_kind", "owner_ref", "trust_state", "reason_code"]
  require (hasText (field owner "trust_state") "NOT_IMPLEMENTED" = true)
    (deny "OWNER_NOT_IMPLEMENTED")
  require (hasText (field owner "owner_kind") "aegis_host_decision_runtime" = true
      ∧ hasText (field owner "owner_ref") "component:aegis-host-decision-runtime" = true
      ∧ hasText (field owner "reason_code") "NO_INDEPENDENT_PRODUCT_HOST_SNAPSHOT" = true)
    (deny "OWNER_BOUNDARY_MISMATCH")
  requirePattern isPackToken (field owner "owner_ref") "OWNER_BOUNDARY_MISMATCH"

/-- `validateSourceSnapshotContract`. -/
def validateSourceSnapshotContract (contract : Option Value) : Except GateError Unit := do
  assertExactKeys contract ["schema_id", "schema_version", "schema_path", "schema_digest",
    "status", "required_fields", "digest_domain", "capture_order", "invalid_snapshot"]
  require (hasText (field contract "schema_id") "idr.aegis.host-decision-snapshot" = true
      ∧ field contract "schema_version" = some (.number (.posInt 1))
      ∧ hasText (field contract "schema_path") snapshotSchemaPath = true
      ∧ hasText (field contract "status") "SPECIFIED_NOT_IMPLEMENTED" = true
      ∧ (field contract "required_fields").any (same · (keyList snapshotFields)) = true
      ∧ hasText (field contract "digest_domain") snapshotDomain = true
      ∧ hasText (field contract "capture_order") "after_receipt_before_idr_assessment" = true
      ∧ hasText (field contract "invalid_snapshot") "REJECT_PROJECTION" = true)
    (deny "SOURCE_SNAPSHOT_CONTRACT_MISMATCH")
  requirePattern isDigest (field contract "schema_digest") "SOURCE_SNAPSHOT_CONTRACT_MISMATCH"
  checkFile readFile snapshotSchemaPath (field contract "schema_digest")
    "SOURCE_SCHEMA_DIGEST_MISMATCH"

/-- `validateMapping`. -/
def validateMapping (actual : Option Value) (expected : List (Text × Text)) (code : String) :
    Except GateError Unit :=
  match actual with
  | some (.array entries) => do
    require (entries.length = expected.length) (deny code)
    entries.forM fun entry => assertExactKeys (some entry) ["source", "target"]
    require (same (.array entries) (.array (mappingEntries expected)) = true) (deny code)
    require (distinctEntries (entries.filterMap fun entry => field (some entry) "source") = true)
      (deny code)
    require (distinctEntries (entries.filterMap fun entry => field (some entry) "target") = true)
      (deny code)
  | _ => .error (deny code)

/-- `validateIndependence`. -/
def validateIndependence (policy : Option Value) : Except GateError Unit := do
  assertExactKeys policy ["capture_order", "mapping_mode", "network_access", "database_access",
    "model_call", "unknown_value", "prohibited_inputs"]
  let expected : Value := .object [
    ("capture_order", .string "source_snapshot_before_idr_assessment"),
    ("mapping_mode", .string "pure_exact_lookup"),
    ("network_access", .string "forbidden"),
    ("database_access", .string "forbidden"),
    ("model_call", .string "forbidden"),
    ("unknown_value", .string "REJECT_PROJECTION"),
    ("prohibited_inputs", keyList prohibitedInputs)]
  require (policy.any (same · expected) = true) (deny "INDEPENDENCE_POLICY_MISMATCH")

/-- A property of what may be `null`. -/
def property (value : Value) (key : Text) : Except GateError (Option Value) :=
  match value with
  | .null => .error .typeError
  | value => .ok (field (some value) key)

/-- Whether `value.length !== 0`, of what may be `null`. -/
def hasLength (value : Option Value) : Except GateError Bool :=
  match value with
  | none | some .null => .error .typeError
  | some (.array values) => .ok (values ≠ [])
  | some (.string s) => .ok (byteLen s ≠ 0)
  | some value => .ok (field (some value) "length" ≠ some (.number (.posInt 0)))

/-- One of the checks of a gate: the first is satisfied, and no other. -/
def validateCheck (check : Value × Nat) : Except GateError Unit := do
  let value := some check.1
  assertExactKeys value ["check", "status", "evidence_refs"]
  if hasText (field value "status") "UNSATISFIED" then
    let evidence ← hasLength (field value "evidence_refs")
    rejectIf (evidence = true) (deny "GATE_EVIDENCE_MISMATCH")
  let expectedStatus : Text := if check.2 = 0 then "SATISFIED" else "UNSATISFIED"
  require (hasText (field value "status") expectedStatus = true) (deny "GATE_STATUS_MISMATCH")
  let expectedEvidence : List Text :=
    if check.2 = 0 then ["spec:host-projection-mapping-v1"] else []
  require ((field value "evidence_refs").any (same · (keyList expectedEvidence)) = true)
    (deny "GATE_EVIDENCE_MISMATCH")

/-- The checks of a gate, with their names in order.  A name that is `undefined` is written as
nothing, which is never the name of a check. -/
def validateChecks (checks : Option Value) : Except GateError Nat :=
  match checks with
  | some (.array checks) => do
    require (checks.length = gateChecks.length) (deny "GATE_CHECKS_MISMATCH")
    let names ← checks.mapM fun check => property check "check"
    require (names.all Option.isSome = true
        ∧ same (.array (names.filterMap id)) (keyList gateChecks) = true
        ∧ distinctEntries (names.filterMap id) = true)
      (deny "GATE_CHECKS_MISMATCH")
    checks.zipIdx.forM validateCheck
    .ok (checks.countP fun check => hasText (field (some check) "status") "SATISFIED")
  | _ => .error (deny "GATE_CHECKS_MISMATCH")

/-- `validateGate`. -/
def validateGate (gate lifecycle : Option Value) : Except GateError Nat := do
  assertExactKeys gate ["decision", "assessed_at_logical_time", "checks", "decision_reason",
    "gate_digest"]
  require (hasText (field gate "decision") "BLOCKED" = true
      ∧ hasText (field gate "decision_reason")
        "HOST_PROJECTION_SOURCE_NOT_IMPLEMENTED_OR_APPROVED" = true)
    (deny "IMPLEMENTATION_GATE_BLOCKED")
  let early ← isLess (field gate "assessed_at_logical_time")
    (field lifecycle "valid_from_logical_time")
  rejectIf (early = true) (deny "GATE_TIME_INVALID")
  let late ← isGreaterOrEqual (field gate "assessed_at_logical_time")
    (field lifecycle "valid_until_logical_time")
  rejectIf (late = true) (deny "GATE_TIME_INVALID")
  let satisfied ← validateChecks (field gate "checks")
  requirePattern isDigest (field gate "gate_digest") "GATE_DIGEST_MISMATCH"
  require (gate.any (fun gate => hasText (field (some gate) "gate_digest")
      (domainDigest gateDomain gate "gate_digest")) = true)
    (deny "GATE_DIGEST_MISMATCH")
  .ok satisfied

/-- `validateProfile`. -/
def validateProfile (profile : Value) : Except GateError Nat := do
  assertCanonicalValue profile
  scanForbidden profile
  let value := some profile
  assertExactKeys value profileFields
  require (hasText (field value "schema_id") "idr.aegis.host-projection-mapping-profile" = true
      ∧ field value "schema_version" = some (.number (.posInt 1)))
    (deny "PROFILE_IDENTITY_MISMATCH")
  requirePattern isPackToken (field value "mapping_ref") "PROFILE_IDENTITY_MISMATCH"
  validateTarget readFile (field value "target_projection_schema")
  validateSourcePin (field value "source_review_pin")
  validateLifecycle (field value "lifecycle")
  validateOwner (field value "owner")
  validateSourceSnapshotContract readFile (field value "source_snapshot_contract")
  validateMapping (field value "coordination_mapping") coordinationMapping
    "COORDINATION_MAPPING_MISMATCH"
  validateMapping (field value "action_mapping") actionMapping "ACTION_MAPPING_MISMATCH"
  validateMapping (field value "run_state_mapping") runMapping "RUN_MAPPING_MISMATCH"
  require ((field value "consistency_rules").any (same · (keyList consistencyRules)) = true)
    (deny "CONSISTENCY_RULES_MISMATCH")
  validateIndependence (field value "independence_policy")
  let satisfiedGateCount ← validateGate (field value "implementation_gate")
    (field value "lifecycle")
  requirePattern isDigest (field value "profile_digest") "PROFILE_DIGEST_MISMATCH"
  require (hasText (field value "profile_digest")
      (domainDigest profileDomain profile "profile_digest") = true)
    (deny "PROFILE_DIGEST_MISMATCH")
  .ok satisfiedGateCount

end Profile

/-! ### The snapshot -/

/-- What a host decided: the strategy, the action and the run. -/
structure HostFacts where
  coordination : Option Value
  action : Option Value
  run : Option Value
  deriving DecidableEq

/-- The three fields that a snapshot or a vector has. -/
def sourceFacts (source : Option Value) : HostFacts where
  coordination := field source "host_coordination_strategy"
  action := field source "host_action_state"
  run := field source "host_run_phase"

/-- `validateConsistency`. -/
def validateConsistency (source : HostFacts) : Except GateError Unit := do
  let strategy := source.coordination
  let action := source.action
  let run := source.run
  rejectIf (hasText action "no_action" = true ∧ hasText strategy "response_only" = false)
    (deny "INCONSISTENT_HOST_SNAPSHOT")
  rejectIf (hasText strategy "response_only" = false ∧ hasText action "no_action" = true)
    (deny "INCONSISTENT_HOST_SNAPSHOT")
  rejectIf (hasText action "action_waiting_authorization" = true
      ∧ hasText run "waiting_action_authorization" = false)
    (deny "INCONSISTENT_HOST_SNAPSHOT")
  rejectIf (hasText run "waiting_action_authorization" = true
      ∧ hasText action "action_waiting_authorization" = false)
    (deny "INCONSISTENT_HOST_SNAPSHOT")
  rejectIf (hasText action "action_blocked" = true ∧ hasText run "declined" = false)
    (deny "INCONSISTENT_HOST_SNAPSHOT")
  rejectIf (hasText run "declined" = true ∧ hasText action "action_blocked" = false)
    (deny "INCONSISTENT_HOST_SNAPSHOT")

/-- `lookup`. -/
def lookup (entries source : Option Value) : Except GateError (Option Value) :=
  match entries with
  | some (.array entries) =>
    match entries.find? fun candidate => strictEqual (field (some candidate) "source") source with
    | some entry => .ok (field (some entry) "target")
    | none => .error (deny "UNKNOWN_SOURCE_ENUM")
  | _ => .error .typeError

/-- `projectSource`, of a source with the three fields. -/
def projectSource (profile : Value) (source : HostFacts) : Except GateError HostFacts := do
  let coordination ← lookup (field (some profile) "coordination_mapping") source.coordination
  let action ← lookup (field (some profile) "action_mapping") source.action
  let run ← lookup (field (some profile) "run_state_mapping") source.run
  validateConsistency source
  .ok { coordination, action, run }

section Snapshot

variable [EcmaScript] [Crypto]

/-- `validateSnapshot`. -/
def validateSnapshot (snapshot profile : Value) (receiptTime assessmentStartTime : Int) :
    Except GateError HostFacts := do
  assertCanonicalValue snapshot
  scanForbidden snapshot
  let value := some snapshot
  assertExactKeys value snapshotFields
  require (hasText (field value "schema_id") "idr.aegis.host-decision-snapshot" = true
      ∧ field value "schema_version" = some (.number (.posInt 1)))
    (deny "SNAPSHOT_IDENTITY_MISMATCH")
  requirePattern isPackToken (field value "snapshot_ref") "SNAPSHOT_IDENTITY_MISMATCH"
  requirePattern isDigest (field value "receipt_digest") "SNAPSHOT_IDENTITY_MISMATCH"
  requirePattern isDigest (field value "receipt_source_binding_digest")
    "SNAPSHOT_IDENTITY_MISMATCH"
  require (strictEqual (field value "owner_ref")
      (field (field (some profile) "owner") "owner_ref") = true)
    (deny "SNAPSHOT_OWNER_MISMATCH")
  requirePattern isPackToken (field value "owner_version") "SNAPSHOT_OWNER_MISMATCH"
  requirePattern isPackToken (field value "policy_ref") "SNAPSHOT_OWNER_MISMATCH"
  rejectIf (truthy (field value "idr_output_used") = true
      ∨ truthy (field value "shadow_result_used") = true)
    (deny "CIRCULAR_DERIVATION")
  let projection ← projectSource profile (sourceFacts value)
  let early ← isLess (field value "captured_at_logical_time") (some (numberValue receiptTime))
  rejectIf (early = true) (deny "SNAPSHOT_CAPTURE_ORDER_INVALID")
  let late ← isGreaterOrEqual (field value "captured_at_logical_time")
    (some (numberValue assessmentStartTime))
  rejectIf (late = true) (deny "SNAPSHOT_CAPTURE_ORDER_INVALID")
  requirePattern isDigest (field value "snapshot_digest") "SNAPSHOT_DIGEST_MISMATCH"
  require (hasText (field value "snapshot_digest")
      (domainDigest snapshotDomain snapshot "snapshot_digest") = true)
    (deny "SNAPSHOT_DIGEST_MISMATCH")
  .ok projection

end Snapshot

/-! ### The six rules -/

/-- The words that the rules are about. -/
structure RuleWords where
  responseOnly : Text
  noAction : Text
  waitingAction : Text
  waitingRun : Text
  blockedAction : Text
  declinedRun : Text

def sourceWords : RuleWords where
  responseOnly := "response_only"
  noAction := "no_action"
  waitingAction := "action_waiting_authorization"
  waitingRun := "waiting_action_authorization"
  blockedAction := "action_blocked"
  declinedRun := "declined"

def targetWords : RuleWords where
  responseOnly := "respond_only"
  noAction := "none"
  waitingAction := "waiting_authorization"
  waitingRun := "waiting_authorization"
  blockedAction := "blocked"
  declinedRun := "rejected"

/-- **The rules that a profile declares.** -/
structure ConsistencyRules (words : RuleWords) (facts : HostFacts) : Prop where
  no_action_requires_response_only :
    facts.action = some (.string words.noAction) →
      facts.coordination = some (.string words.responseOnly)
  non_response_only_requires_action :
    facts.coordination ≠ some (.string words.responseOnly) →
      facts.action ≠ some (.string words.noAction)
  waiting_action_requires_waiting_run :
    facts.action = some (.string words.waitingAction) →
      facts.run = some (.string words.waitingRun)
  waiting_run_requires_waiting_action :
    facts.run = some (.string words.waitingRun) →
      facts.action = some (.string words.waitingAction)
  blocked_action_requires_declined_run :
    facts.action = some (.string words.blockedAction) →
      facts.run = some (.string words.declinedRun)
  declined_run_requires_blocked_action :
    facts.run = some (.string words.declinedRun) →
      facts.action = some (.string words.blockedAction)

/-- `validateConsistency` checks the rules. -/
theorem validateConsistency_eq_ok {source : HostFacts} :
    validateConsistency source = .ok () ↔ ConsistencyRules sourceWords source := by
  have hfalse : ∀ {value : Option Value} {t : Text},
      hasText value t = false ↔ value ≠ some (.string t) :=
    fun {value t} => decide_eq_false_iff_not
  simp only [validateConsistency, bind_eq_ok, rejectIf_eq_ok, exists_const, hasText_iff, hfalse,
    not_and, not_not]
  constructor
  · rintro ⟨hnone, hothers, hwaiting, hwaitingRun, hblocked, hdeclined⟩
    exact ⟨hnone, hothers, hwaiting, hwaitingRun, hblocked, hdeclined⟩
  · rintro ⟨hnone, hothers, hwaiting, hwaitingRun, hblocked, hdeclined⟩
    exact ⟨hnone, hothers, hwaiting, hwaitingRun, hblocked, hdeclined⟩

/-- Rules that hold of facts hold of their images under tables that confuse nothing. -/
theorem ConsistencyRules.map {words words' : RuleWords} {facts facts' : HostFacts}
    (h : ConsistencyRules words facts)
    (honly : facts'.coordination = some (.string words'.responseOnly)
      ↔ facts.coordination = some (.string words.responseOnly))
    (hnone : facts'.action = some (.string words'.noAction)
      ↔ facts.action = some (.string words.noAction))
    (hwaiting : facts'.action = some (.string words'.waitingAction)
      ↔ facts.action = some (.string words.waitingAction))
    (hwaitingRun : facts'.run = some (.string words'.waitingRun)
      ↔ facts.run = some (.string words.waitingRun))
    (hblocked : facts'.action = some (.string words'.blockedAction)
      ↔ facts.action = some (.string words.blockedAction))
    (hdeclined : facts'.run = some (.string words'.declinedRun)
      ↔ facts.run = some (.string words.declinedRun)) : ConsistencyRules words' facts' where
  no_action_requires_response_only := by
    rw [hnone, honly]
    exact h.no_action_requires_response_only
  non_response_only_requires_action := by
    rw [Ne, Ne, hnone, honly]
    exact h.non_response_only_requires_action
  waiting_action_requires_waiting_run := by
    rw [hwaiting, hwaitingRun]
    exact h.waiting_action_requires_waiting_run
  waiting_run_requires_waiting_action := by
    rw [hwaiting, hwaitingRun]
    exact h.waiting_run_requires_waiting_action
  blocked_action_requires_declined_run := by
    rw [hblocked, hdeclined]
    exact h.blocked_action_requires_declined_run
  declined_run_requires_blocked_action := by
    rw [hblocked, hdeclined]
    exact h.declined_run_requires_blocked_action

/-! ### The tables -/

/-- The sources and the targets that a mapping lists. -/
def tableOf (entries : List Value) : List (Option Value × Option Value) :=
  entries.map fun entry => (field (some entry) "source", field (some entry) "target")

/-- A text is its own canonical form. -/
theorem field_of_canonical {v w : Value} {key : Text} {t : Text} (h : v.canonical = w.canonical)
    (hw : field (some w) key = some (.string t)) : field (some v) key = some (.string t) := by
  have hget : (v.get key).map Value.canonical = (w.get key).map Value.canonical := by
    rw [← Value.canonical_get, ← Value.canonical_get, h]
  replace hw : w.get key = some (.string t) := hw
  show v.get key = _
  rw [hw] at hget
  cases hv : v.get key with
  | none =>
    rw [hv] at hget
    cases hget
  | some u =>
    rw [hv] at hget
    cases u with
    | string s => exact hget
    | null | bool | number | array | object => simp [Value.canonical] at hget

/-- A text has no parts. -/
theorem every_text {p : Value → Prop} {t : Text} (h : p (.string t)) :
    Value.Every p (.string t) := by
  intro u hu
  cases hu
  exact h

/-- The parts of a table as a value. -/
theorem every_mappingEntries {p : Value → Prop} {table : List (Text × Text)}
    (hself : p (.array (mappingEntries table)))
    (hentry : ∀ e ∈ table, p (.object [("source", .string e.1), ("target", .string e.2)])
      ∧ p (.string e.1) ∧ p (.string e.2)) :
    Value.Every p (.array (mappingEntries table)) := by
  rw [Value.every_array]
  refine ⟨hself, ?_⟩
  intro v hv
  obtain ⟨e, he, rfl⟩ := List.mem_map.mp hv
  obtain ⟨hobject, hsource, htarget⟩ := hentry e he
  rw [Value.every_object]
  refine ⟨hobject, ?_⟩
  intro f hf
  rw [List.mem_cons, List.mem_singleton] at hf
  rcases hf with rfl | rfl
  · exact every_text hsource
  · exact every_text htarget

theorem mappingEntries_wellFormed {table : List (Text × Text)}
    (h : ∀ e ∈ table, e.1.isUtf8 = true ∧ e.2.isUtf8 = true) :
    (Value.array (mappingEntries table)).WellFormed := by
  apply every_mappingEntries (p := Value.PartOk) trivial
  intro e he
  refine ⟨⟨?_, ?_⟩, h e he⟩
  · intro f hf
    rw [List.mem_cons, List.mem_singleton] at hf
    rcases hf with rfl | rfl
    · show Text.isUtf8 "source" = true
      decide
    · show Text.isUtf8 "target" = true
      decide
  · show List.Nodup [("source" : Text), ("target" : Text)]
    decide

theorem mappingEntries_safeNumbers (table : List (Text × Text)) :
    (Value.array (mappingEntries table)).SafeNumbers := by
  apply every_mappingEntries
  · exact fun n hn => (by cases hn)
  · exact fun e _ => ⟨fun n hn => (by cases hn), fun n hn => (by cases hn),
      fun n hn => (by cases hn)⟩

/-- **What is accepted as a mapping** lists the pairs of the pack, in their order. -/
theorem validateMapping_eq_ok {actual : Value} {expected : List (Text × Text)} {code : String}
    (hactual : actual.WellFormed) (hsafe : actual.SafeNumbers)
    (hexpected : ∀ e ∈ expected, e.1.isUtf8 = true ∧ e.2.isUtf8 = true)
    (h : validateMapping (some actual) expected code = .ok ()) :
    ∃ entries, actual = .array entries
      ∧ tableOf entries = expected.map fun e => (some (.string e.1), some (.string e.2)) := by
  unfold validateMapping at h
  split at h
  · next entries heq =>
    cases heq
    simp only [bind_eq_ok, require_eq_ok, exists_const] at h
    obtain ⟨-, _, -, hsame, -, -⟩ := h
    have hcanonical := same_eq hactual (mappingEntries_wellFormed hexpected) hsafe
      (mappingEntries_safeNumbers expected) hsame
    rw [Value.canonical, Value.canonical, Value.array.injEq, Value.canonicalValues_eq,
      Value.canonicalValues_eq] at hcanonical
    refine ⟨entries, rfl, ?_⟩
    rw [mappingEntries, List.map_map] at hcanonical
    clear hsame hactual hsafe hexpected
    -- entry by entry, with the same canonical form
    induction entries generalizing expected with
    | nil =>
      cases expected with
      | nil => rfl
      | cons e expected => cases hcanonical
    | cons entry entries ih =>
      cases expected with
      | nil => cases hcanonical
      | cons e expected =>
        rw [List.map_cons, List.map_cons, List.cons.injEq] at hcanonical
        rw [tableOf, List.map_cons, List.map_cons, ← tableOf, ih hcanonical.2]
        congr 2
        · exact field_of_canonical hcanonical.1 rfl
        · exact field_of_canonical hcanonical.1 rfl
  · cases h

/-- **The image of a source under a mapping.** -/
def Maps (mapping source target : Option Value) : Prop :=
  ∃ entries, mapping = some (.array entries)
    ∧ (source, target) ∈ tableOf entries
    ∧ ∀ other, (source, other) ∈ tableOf entries → other = target

/-- What `lookup` finds is the image of the source, and a pair of the table. -/
theorem lookup_eq_ok {mapping source target : Option Value} {table : List (Text × Text)}
    {entries : List Value} (hmapping : mapping = some (.array entries))
    (htable : tableOf entries = table.map fun e => (some (.string e.1), some (.string e.2)))
    (hnodup : (table.map Prod.fst).Nodup) (h : lookup mapping source = .ok target) :
    Maps mapping source target
      ∧ ∃ e ∈ table, source = some (.string e.1) ∧ target = some (.string e.2) := by
  subst hmapping
  dsimp only [lookup] at h
  split at h
  case h_2 => cases h
  case h_1 entry hfind =>
    cases h
    have hfound := List.find?_some hfind
    have hsource : field (some entry) "source" = source := strictEqual_eq_true hfound
    have hmem : (source, field (some entry) "target") ∈ tableOf entries :=
      List.mem_map.mpr ⟨entry, List.mem_of_find?_eq_some hfind, by rw [hsource]⟩
    have hpair := hmem
    rw [htable, List.mem_map] at hpair
    obtain ⟨e, he, heq⟩ := hpair
    rw [Prod.mk.injEq] at heq
    refine ⟨⟨entries, rfl, hmem, ?_⟩, e, he, heq.1.symm, heq.2.symm⟩
    -- the sources of the table are distinct
    intro other hother
    rw [htable, List.mem_map] at hother
    obtain ⟨e', he', heq'⟩ := hother
    rw [Prod.mk.injEq] at heq'
    have hkey : e'.1 = e.1 := by
      have htext := heq'.1.trans heq.1.symm
      rw [Option.some.injEq, Value.string.injEq] at htext
      exact htext
    rw [← heq'.2, ← heq.2, List.inj_on_of_nodup_map hnodup he' he hkey]

/-- Pairs of a table that confuses nothing agree on both sides. -/
theorem mapped_iff {table : List (Text × Text)} (hsources : (table.map Prod.fst).Nodup)
    (htargets : (table.map Prod.snd).Nodup) {source target : Option Value}
    (h : ∃ e ∈ table, source = some (.string e.1) ∧ target = some (.string e.2)) {a b : Text}
    (hab : (a, b) ∈ table) : target = some (.string b) ↔ source = some (.string a) := by
  obtain ⟨e, he, rfl, rfl⟩ := h
  rw [Option.some.injEq, Option.some.injEq, Value.string.injEq, Value.string.injEq]
  constructor
  · exact fun hb => congrArg Prod.fst (List.inj_on_of_nodup_map htargets he hab hb)
  · exact fun ha => congrArg Prod.snd (List.inj_on_of_nodup_map hsources he hab ha)

/-! ### The law -/

section Law

variable [EcmaScript] [Crypto] {readFile : Text → Except GateError (List UInt8)}

/-- The tables of an accepted profile are those of the pack. -/
theorem validateProfile_eq_ok {profile : ParsedJson} {count : Nat}
    (h : validateProfile readFile profile.value = .ok count) :
    ∀ key table, (key, table) ∈ [(("coordination_mapping" : Text), coordinationMapping),
        ("action_mapping", actionMapping), ("run_state_mapping", runMapping)] →
      ∃ entries, field (some profile.value) key = some (.array entries)
        ∧ tableOf entries = table.map fun e => (some (.string e.1), some (.string e.2)) := by
  simp only [validateProfile, bind_eq_ok, exists_unit_eq_ok, require_eq_ok, exists_const] at h
  obtain ⟨hcanonical, -, hkeys, -, -, -, -, -, -, -, hcoordination, haction, hrun, -⟩ := h
  have hadmitted := assertCanonicalValue_eq_ok _ hcanonical
  have hwell := profile.wellFormed hadmitted
  have hhas := exactShape_eq_ok.mp hkeys
  have htable : ∀ {key : Text} {table : List (Text × Text)} {code : String},
      key ∈ profileFields → (∀ e ∈ table, e.1.isUtf8 = true ∧ e.2.isUtf8 = true) →
      validateMapping (field (some profile.value) key) table code = .ok () →
      ∃ entries, field (some profile.value) key = some (.array entries)
        ∧ tableOf entries = table.map fun e => (some (.string e.1), some (.string e.2)) := by
    intro key table code hkey hutf8 hvalid
    obtain ⟨value, hvalue⟩ := hhas.field hkey
    rw [hvalue] at hvalid ⊢
    obtain ⟨entries, rfl, htable⟩ := validateMapping_eq_ok (hwell.field hvalue)
      (hadmitted.field hvalue).safeNumbers hutf8 hvalid
    exact ⟨entries, rfl, htable⟩
  intro key table hkey
  simp only [List.mem_cons, List.not_mem_nil, or_false, Prod.mk.injEq] at hkey
  rcases hkey with ⟨rfl, rfl⟩ | ⟨rfl, rfl⟩ | ⟨rfl, rfl⟩
  · exact htable (by decide) (by decide) hcoordination
  · exact htable (by decide) (by decide) haction
  · exact htable (by decide) (by decide) hrun

/-- What is promised of a snapshot that is accepted. -/
structure IndependentlyCaptured (snapshot profile : Value)
    (receiptTime assessmentStartTime : Int) (projection : HostFacts) : Prop where
  captured : ∃ t : Nat, IsInteger (field (some snapshot) "captured_at_logical_time") t
    ∧ receiptTime ≤ t ∧ t < assessmentStartTime
  idrOutput : field (some snapshot) "idr_output_used" = some (.bool false)
  shadowResult : field (some snapshot) "shadow_result_used" = some (.bool false)
  coordination : Maps (field (some profile) "coordination_mapping")
    (sourceFacts (some snapshot)).coordination projection.coordination
  action : Maps (field (some profile) "action_mapping") (sourceFacts (some snapshot)).action
    projection.action
  run : Maps (field (some profile) "run_state_mapping") (sourceFacts (some snapshot)).run
    projection.run
  sourceRules : ConsistencyRules sourceWords (sourceFacts (some snapshot))
  targetRules : ConsistencyRules targetWords projection

/-- The time of the capture is a number and the two flags are booleans. -/
def CaptureTyped (snapshot : Value) : Prop :=
  (∃ n, field (some snapshot) "captured_at_logical_time" = some (.number n))
    ∧ (∃ b, field (some snapshot) "idr_output_used" = some (.bool b))
    ∧ ∃ b, field (some snapshot) "shadow_result_used" = some (.bool b)

/-- **When an accepted snapshot was captured before the assessment, and without it**: exactly when
its time is a number and its flags are booleans. -/
theorem validateSnapshot_independent_iff (profile snapshot : ParsedJson)
    (receiptTime assessmentStartTime : Int) {count : Nat} {projection : HostFacts}
    (hprofile : validateProfile readFile profile.value = .ok count)
    (h : validateSnapshot snapshot.value profile.value receiptTime assessmentStartTime
      = .ok projection) :
    IndependentlyCaptured snapshot.value profile.value receiptTime assessmentStartTime projection
      ↔ CaptureTyped snapshot.value := by
  constructor
  · intro hcaptured
    obtain ⟨t, ht, -⟩ := hcaptured.captured
    exact ⟨⟨_, ht⟩, ⟨_, hcaptured.idrOutput⟩, ⟨_, hcaptured.shadowResult⟩⟩
  rintro ⟨⟨n, hn⟩, ⟨idr, hidr⟩, ⟨shadow, hshadow⟩⟩
  have htables := validateProfile_eq_ok hprofile
  simp only [validateSnapshot, projectSource, bind_eq_ok, exists_unit_eq_ok, require_eq_ok,
    rejectIf_eq_ok, exists_const, Except.ok.injEq] at h
  obtain ⟨hcanonical, -, -, -, -, -, -, -, -, -, hflags, projected,
    ⟨coordination, hcoordination, action, haction, run, hrun, hrules, rfl⟩, early, hearly,
    hnotEarly, late, hlate, hnotLate, -, -, rfl⟩ := h
  have hadmitted := assertCanonicalValue_eq_ok _ hcanonical
  -- a number in a canonical value is an integer
  obtain ⟨t, rfl, -⟩ := (hadmitted.field hn).self n rfl
  rw [hn, ← numberValue_natCast, isLess_integers] at hearly
  rw [hn, ← numberValue_natCast, isGreaterOrEqual_integers] at hlate
  cases hearly
  cases hlate
  rw [hidr, hshadow, not_or] at hflags
  have hflag : ∀ b, ¬ truthy (some (.bool b)) = true → b = false := by decide
  obtain ⟨entries, hentries, htable⟩ :=
    htables "coordination_mapping" coordinationMapping (by decide)
  obtain ⟨hmaps, hpair⟩ := lookup_eq_ok hentries htable (by decide) hcoordination
  obtain ⟨entries', hentries', htable'⟩ := htables "action_mapping" actionMapping (by decide)
  obtain ⟨hmaps', hpair'⟩ := lookup_eq_ok hentries' htable' (by decide) haction
  obtain ⟨entries'', hentries'', htable''⟩ := htables "run_state_mapping" runMapping (by decide)
  obtain ⟨hmaps'', hpair''⟩ := lookup_eq_ok hentries'' htable'' (by decide) hrun
  have hsourceRules := validateConsistency_eq_ok.mp hrules
  exact {
    captured := ⟨t, hn, not_lt.mp (mt decide_eq_true hnotEarly),
      not_le.mp (mt decide_eq_true hnotLate)⟩
    idrOutput := by rw [hidr, hflag idr hflags.1]
    shadowResult := by rw [hshadow, hflag shadow hflags.2]
    coordination := hmaps
    action := hmaps'
    run := hmaps''
    sourceRules := hsourceRules
    targetRules := hsourceRules.map
      (mapped_iff (by decide) (by decide) hpair (by decide))
      (mapped_iff (by decide) (by decide) hpair' (by decide))
      (mapped_iff (by decide) (by decide) hpair' (by decide))
      (mapped_iff (by decide) (by decide) hpair'' (by decide))
      (mapped_iff (by decide) (by decide) hpair' (by decide))
      (mapped_iff (by decide) (by decide) hpair'' (by decide)) }

end Law

/-! ### The fixtures -/

namespace Sample

def gateCheck (check : Text × Nat) : Value := .object [
  ("check", .string check.1),
  ("status", .string (if check.2 = 0 then "SATISFIED" else "UNSATISFIED")),
  ("evidence_refs", keyList (if check.2 = 0 then ["spec:host-projection-mapping-v1"] else []))]

/-- The fixture of a profile. -/
def profile : ParsedJson where
  value := .object [
    ("schema_id", .string "idr.aegis.host-projection-mapping-profile"),
    ("schema_version", .number (.posInt 1)),
    ("mapping_ref", .string "mapping:aegis-host-projection:synthetic-v1"),
    ("target_projection_schema", .object [
      ("schema_id", .string "idr.aegis.structured-observation"),
      ("schema_version", .number (.posInt 1)), ("schema_path", .string targetSchemaPath),
      ("schema_digest",
        .string "sha256:9fc11018249cc4053d4ddfa75e4eda6ae1f6638a592c115a05450249b2382b47"),
      ("projection_definition", .string "HostProjectionFactsV1"),
      ("required_fields", keyList ["coordination_mode", "action_posture", "next_run_state"])]),
    ("source_review_pin", .object [
      ("repository", .string "Aegis Life"),
      ("commit_sha", .string "381d14fb1dccfeae691286a39579535ef59f7b4e"),
      ("tree_sha", .string "da76b01653bb194e4f192e5768b32a38fd3b2173"),
      ("review_document", .string "docs/integrations/IDR-AEGIS-SOURCE-DATA-FLOW-REVIEW.md"),
      ("review_scope", .string "tracked_source_and_documentation_only")]),
    ("lifecycle", .object [
      ("status", .string "SPECIFICATION_ONLY"),
      ("created_at_logical_time", .number (.posInt 300)),
      ("valid_from_logical_time", .number (.posInt 300)),
      ("valid_until_logical_time", .number (.posInt 3000))]),
    ("owner", .object [
      ("owner_kind", .string "aegis_host_decision_runtime"),
      ("owner_ref", .string "component:aegis-host-decision-runtime"),
      ("trust_state", .string "NOT_IMPLEMENTED"),
      ("reason_code", .string "NO_INDEPENDENT_PRODUCT_HOST_SNAPSHOT")]),
    ("source_snapshot_contract", .object [
      ("schema_id", .string "idr.aegis.host-decision-snapshot"),
      ("schema_version", .number (.posInt 1)), ("schema_path", .string snapshotSchemaPath),
      ("schema_digest",
        .string "sha256:9843a34870195b452276011891cd7a31391ad8e32e1e2c3c68e78d46fb9a20af"),
      ("status", .string "SPECIFIED_NOT_IMPLEMENTED"),
      ("required_fields", keyList snapshotFields), ("digest_domain", .string snapshotDomain),
      ("capture_order", .string "after_receipt_before_idr_assessment"),
      ("invalid_snapshot", .string "REJECT_PROJECTION")]),
    ("coordination_mapping", .array (mappingEntries coordinationMapping)),
    ("action_mapping", .array (mappingEntries actionMapping)),
    ("run_state_mapping", .array (mappingEntries runMapping)),
    ("consistency_rules", keyList consistencyRules),
    ("independence_policy", .object [
      ("capture_order", .string "source_snapshot_before_idr_assessment"),
      ("mapping_mode", .string "pure_exact_lookup"), ("network_access", .string "forbidden"),
      ("database_access", .string "forbidden"), ("model_call", .string "forbidden"),
      ("unknown_value", .string "REJECT_PROJECTION"),
      ("prohibited_inputs", keyList prohibitedInputs)]),
    ("implementation_gate", .object [
      ("decision", .string "BLOCKED"), ("assessed_at_logical_time", .number (.posInt 300)),
      ("checks", .array (gateChecks.zipIdx.map gateCheck)),
      ("decision_reason", .string "HOST_PROJECTION_SOURCE_NOT_IMPLEMENTED_OR_APPROVED"),
      ("gate_digest",
        .string "sha256:fe252a741b0c45664bb72cb1cf34c9092f8cc4039ea12fbfb5a784817e548019")]),
    ("profile_digest",
      .string "sha256:826ade217c501b3ee9aa4caf795e78098d4d274e680f88a7103fc599253180ba")]
  parsed := by decide +kernel

/-- The fixture of a snapshot, with the time of the capture and the digest. -/
def snapshot (captured : Value) (digest : Text) : Value :=
  .object [
    ("schema_id", .string "idr.aegis.host-decision-snapshot"),
    ("schema_version", .number (.posInt 1)),
    ("snapshot_ref", .string "snapshot:aegis-host-decision:synthetic-001"),
    ("receipt_digest",
      .string "sha256:141cf4746aee4897b91d0bc02cdf366f839ac9287c179e06753a2786570488c1"),
    ("receipt_source_binding_digest",
      .string "sha256:aaaaaaaaaaaaaaaaaaaaaaaaaaaaaaaaaaaaaaaaaaaaaaaaaaaaaaaaaaaaaaaa"),
    ("captured_at_logical_time", captured),
    ("owner_ref", .string "component:aegis-host-decision-runtime"),
    ("owner_version", .string "version:synthetic-host-owner-v1"),
    ("policy_ref", .string "policy:synthetic-host-projection-v1"),
    ("host_coordination_strategy", .string "response_then_authorization_gate_then_action"),
    ("host_action_state", .string "action_waiting_authorization"),
    ("host_run_phase", .string "waiting_action_authorization"), ("idr_output_used", .bool false),
    ("shadow_result_used", .bool false), ("snapshot_digest", .string digest)]

/-- The fixture of a snapshot, as it is. -/
def golden : ParsedJson where
  value := snapshot (.number (.posInt 120))
    "sha256:a85cca539d9fbe4cac14b44896555952cc3d0b6cfddc5414556b10559263454b"
  parsed := by decide +kernel

/-- A snapshot whose time is a text. -/
def capturedLater : ParsedJson where
  value := snapshot (.string "later")
    "sha256:cc633be2fd20948c8c78b8524780f467d1d9620ec61ef9f83ef4ba9afd412ac0"
  parsed := by decide +kernel

/-- A repository whose files have the digests that the profile binds. -/
def readFile (path : Text) : Except GateError (List UInt8) := .ok path.bytes

/-- SHA-256 of the files and of the preimages of the fixtures. -/
@[reducible]
def crypto : Crypto := Idr.Sample.domainCrypto [
  (targetSchemaPath, 0x9fc11018249cc4053d4ddfa75e4eda6ae1f6638a592c115a05450249b2382b47),
  (snapshotSchemaPath, 0x9843a34870195b452276011891cd7a31391ad8e32e1e2c3c68e78d46fb9a20af),
  (gateDomain, 0xfe252a741b0c45664bb72cb1cf34c9092f8cc4039ea12fbfb5a784817e548019),
  (profileDomain, 0x826ade217c501b3ee9aa4caf795e78098d4d274e680f88a7103fc599253180ba),
  (snapshotDomain ++ "\x00\x7b\"captured_at_logical_time\":\"later\"",
    0xcc633be2fd20948c8c78b8524780f467d1d9620ec61ef9f83ef4ba9afd412ac0),
  (snapshotDomain, 0xa85cca539d9fbe4cac14b44896555952cc3d0b6cfddc5414556b10559263454b)]

/-- What the fixture is mapped to. -/
def projection : HostFacts where
  coordination := some (.string "respond_then_confirm_then_act")
  action := some (.string "waiting_authorization")
  run := some (.string "waiting_authorization")

theorem all_accepted :
    @validateProfile Idr.Sample.plainHost crypto readFile profile.value = .ok 1
    ∧ @validateSnapshot Idr.Sample.plainHost crypto golden.value profile.value 100 150
      = .ok projection
    ∧ @validateSnapshot Idr.Sample.plainHost crypto capturedLater.value profile.value 100 150
      = .ok projection := by
  decide +kernel

end Sample

/-- The fixtures as they are. -/
theorem validateSnapshot_independent_golden :
    IndependentlyCaptured Sample.golden.value Sample.profile.value 100 150 Sample.projection := by
  apply (@validateSnapshot_independent_iff Idr.Sample.plainHost Sample.crypto Sample.readFile
    Sample.profile Sample.golden 100 150 1 Sample.projection Sample.all_accepted.1
    Sample.all_accepted.2.1).mpr
  exact ⟨⟨_, rfl⟩, ⟨_, rfl⟩, ⟨_, rfl⟩⟩

/-- **A time that is no number is neither early nor late**: the fixture captured `"later"`, sealed
again, is accepted. -/
theorem snapshot_later_accepted :
    @validateProfile Idr.Sample.plainHost Sample.crypto Sample.readFile Sample.profile.value = .ok 1
      ∧ @validateSnapshot Idr.Sample.plainHost Sample.crypto Sample.capturedLater.value
        Sample.profile.value 100 150 = .ok Sample.projection
      ∧ ¬ IndependentlyCaptured Sample.capturedLater.value Sample.profile.value 100 150
        Sample.projection := by
  refine ⟨Sample.all_accepted.1, Sample.all_accepted.2.2, ?_⟩
  intro hcaptured
  obtain ⟨t, ht, -⟩ := hcaptured.captured
  cases ht

end HostProjection

end Idr
