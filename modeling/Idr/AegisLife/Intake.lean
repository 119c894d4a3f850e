/-
Idr/AegisLife/Intake.lean

The pack that takes a representative corpus in.

A bundle has candidates, each with a replay envelope, and labels for them.  The
verifier checks an envelope (`assertReplayEnvelope`) and the bundle around it
(`validateBundle`); what an envelope has to be is `EnvelopeOk`.

The schema of the pack describes the same format.  The two agree on every leaf
but three: the identifiers of the input are matched with a pattern, which takes
the text of whatever is there, so that a list of one identifier passes.
-/
import Idr.AegisLife.Facts
import Idr.AegisLife.JsonSchema

namespace Idr

namespace Intake

/-! ### Constants -/

def maxCases : Nat := 1000

def candidateDomain : Text := "idr:aegis:representative-candidate:v1"

def bundleDomain : Text := "idr:aegis:representative-intake-bundle:v1"

def divergenceClassifications : List Text := ["host_defect", "idr_defect", "mapping_defect",
  "policy_difference", "insufficient_evidence"]

def authorityFields : List Text := ["action", "action_contract", "authorization", "credential",
  "credentials", "dispatch", "dispatch_allowed", "dispatch_nonce", "execution_permit",
  "provider_payload", "production_state", "production_state_mutation"]

def prohibitedDataFields : List Text := ["api_key", "content", "conversation",
  "conversation_text", "embedding", "graph_memory", "human_model", "message_text", "password",
  "personality", "prompt", "psychological_profile", "raw_text", "secret", "token", "vector"]

def bundleKeys : List Text := ["schema_id", "schema_version", "intake_id", "purpose",
  "source_classification", "source_system_ref", "source_export_digest", "exported_at_ms",
  "approval", "retention", "redaction", "candidates", "label_set", "bundle_digest"]

def approvalFlags : List Text := ["allows_representative_export", "allows_raw_conversation",
  "allows_credentials", "allows_human_model", "allows_personality_inference"]

def approvalKeys : List Text :=
  (["status", "review_ref", "valid_from_ms", "valid_until_ms"] : List Text) ++ approvalFlags

def retentionKeys : List Text := ["policy_ref", "delete_after_ms", "deletion_receipt_required",
  "raw_source_retained"]

def redactionKeys : List Text := ["profile_id", "status", "review_ref", "allowlisted_paths",
  "findings"]

def candidateKeys : List Text := ["candidate_id", "lineage_digest", "captured_at_ms",
  "replay_envelope", "candidate_digest"]

def labelSetKeys : List Text := ["schema_version", "intake_id", "review_ref", "reviewed_at_ms",
  "labels"]

/-! ### Helper functions -/

/-- The pattern `^[-A-Za-z0-9_.:/]{1,512}$`. -/
def isToken : Text → Bool := matchesClass (fun b => isTokenByte b || isOneOf "/" b) 1 512

/-- `exactShape`. -/
def shape (value : Option Value) (allowed required : List Text) : Except GateError Unit :=
  exactShape "INVALID_SHAPE" value allowed required

/-- `assertToken`. -/
def assertToken : Option Value → Except GateError Unit := assertPattern isToken "INVALID_TOKEN"

/-- `assertInteger` with `positive`. -/
def assertPositive : Option Value → Except GateError Unit := assertInteger 1 "INVALID_INTEGER"

/-- A property that is checked where it is there. -/
def whenPresent (check : Option Value → Except GateError Unit) (value : Option Value) :
    Except GateError Unit :=
  if value = none then .ok () else check value

mutual

/-- `assertTokenTree`. -/
def assertTokenTree : Value → Except GateError Unit
  | .string s => assertToken (some (.string s))
  | .array values => assertTokenValues values
  | .object fields => assertTokenFields fields
  | _ => .ok ()

def assertTokenValues : List Value → Except GateError Unit
  | [] => .ok ()
  | value :: values => do
    assertTokenTree value
    assertTokenValues values

def assertTokenFields : List (Text × Value) → Except GateError Unit
  | [] => .ok ()
  | (_, value) :: fields => do
    assertTokenTree value
    assertTokenFields fields

end

/-- The name of a property that no envelope has. -/
def checkName (key : Text) : Except GateError Unit := do
  rejectIf (key ∈ authorityFields) (deny "AUTHORITY_FIELD_INJECTION")
  rejectIf (key ∈ prohibitedDataFields) (deny "PROHIBITED_DATA_FIELD")

/-- `scanProhibitedFields`. -/
def scanProhibitedFields : Value → Except GateError Unit := scanNames checkName

/-! ### The replay envelope -/

/-- One of the roles, with those before it. -/
def assertRole (seen : List Value) (role : Value) : Except GateError (List Value) := do
  assertEnum (some role) semanticRoles "INVALID_ENUM"
  rejectIf (role ∈ seen) (deny "INVALID_SEMANTIC_ROLES")
  .ok (seen ++ [role])

/-- The roles of an input, which may not repeat. -/
def assertRoles (roles primary : Option Value) : Except GateError Unit :=
  match roles with
  | some (.array entries) => do
    rejectIf (entries = []) (deny "INVALID_SEMANTIC_ROLES")
    let seen ← entries.foldlM assertRole []
    require (primary.any (seen.contains ·) = true) (deny "INVALID_SEMANTIC_ROLES")
  | _ => .error (deny "INVALID_SEMANTIC_ROLES")

/-- The input of an assessment. -/
def assertInput (input : Option Value) : Except GateError Unit := do
  shape input inputKeys inputKeys
  requirePattern isUuid (field input "event_id") "INVALID_UUID"
  requirePattern isUuid (field input "run_id") "INVALID_UUID"
  requirePattern isUuid (field input "turn_id") "INVALID_UUID"
  assertEnum (field input "source_actor") sourceActors "INVALID_ENUM"
  assertToken (field input "actor_ref")
  assertEnum (field input "primary_semantic_role") semanticRoles "INVALID_ENUM"
  assertRoles (field input "semantic_roles") (field input "primary_semantic_role")
  assertToken (field input "content_ref")
  assertDigest (field input "content_digest")
  assertToken (field input "correlation_ref")
  assertPositive (field input "logical_time")
  require (field input "schema_version" = some (.number (.posInt 1)))
    (deny "UNSUPPORTED_REPLAY_SCHEMA")

/-- `assertReplayEnvelope`. -/
def assertReplayEnvelope (value : Value) : Except GateError Unit := do
  scanProhibitedFields value
  assertTokenTree value
  let envelope := some value
  shape envelope ["observation_ref", "assessment_request", "host_projection"]
    ["observation_ref", "assessment_request"]
  assertToken (field envelope "observation_ref")
  let request := field envelope "assessment_request"
  let parts : List Text := ["input", "fast_path_facts", "decision_facts", "coordination_facts"]
  shape request parts parts
  assertInput (field request "input")
  assertFastPathFacts (field request "fast_path_facts")
  assertDecisionFacts (field request "decision_facts")
  assertCoordinationFacts (field request "coordination_facts")
  whenPresent assertHostProjection (field envelope "host_projection")
  rejectIf (∃ path ∈ collectLeaves "" value, path ∉ replayLeaves) (deny "ALLOWLIST_DRIFT")

/-! ### The bundle -/

/-- `assertExpectedOutcome`. -/
def assertExpectedOutcome (value : Option Value) : Except GateError Unit :=
  match field value "status" with
  | some (.string status) =>
    if status = "assessed" ∨ status = "blocked" then shape value ["status"] ["status"]
    else if status = "rejected" then do
      shape value ["status", "reason_code"] ["status", "reason_code"]
      assertToken (field value "reason_code")
    else .error (deny "INVALID_LABEL")
  | _ => .error (deny "INVALID_LABEL")

/-- `assertDivergenceReview`. -/
def assertDivergenceReview (value : Option Value) : Except GateError Unit := do
  shape value ["classification", "review_ref"] ["classification", "review_ref"]
  assertEnum (field value "classification") divergenceClassifications "INVALID_ENUM"
  assertToken (field value "review_ref")

/-- The approval of a bundle that was exported and is verified at these times. -/
def assertApproval (approval : Option Value) (exportedAt verificationTime : Nat) :
    Except GateError Unit := do
  shape approval approvalKeys approvalKeys
  assertToken (field approval "review_ref")
  assertPositive (field approval "valid_from_ms")
  assertPositive (field approval "valid_until_ms")
  approvalFlags.forM fun key => assertBoolean (field approval key)
  let validFrom := number (field approval "valid_from_ms")
  let validUntil := number (field approval "valid_until_ms")
  rejectIf (validUntil ≤ validFrom) (deny "INVALID_TIME_ORDER")
  require (hasText (field approval "status") "approved" = true
      ∧ field approval "allows_representative_export" = some (.bool true)
      ∧ field approval "allows_raw_conversation" = some (.bool false)
      ∧ field approval "allows_credentials" = some (.bool false)
      ∧ field approval "allows_human_model" = some (.bool false)
      ∧ field approval "allows_personality_inference" = some (.bool false))
    (deny "APPROVAL_NOT_VALID")
  rejectIf (exportedAt < validFrom ∨ validUntil ≤ exportedAt ∨ verificationTime < validFrom
      ∨ validUntil ≤ verificationTime)
    (deny "APPROVAL_EXPIRED")

/-- The retention of a bundle. -/
def assertRetention (retention : Option Value) (exportedAt verificationTime : Nat) :
    Except GateError Unit := do
  shape retention retentionKeys retentionKeys
  assertToken (field retention "policy_ref")
  assertPositive (field retention "delete_after_ms")
  assertBoolean (field retention "deletion_receipt_required")
  assertBoolean (field retention "raw_source_retained")
  let deleteAfter := number (field retention "delete_after_ms")
  rejectIf (deleteAfter ≤ exportedAt) (deny "INVALID_TIME_ORDER")
  rejectIf (deleteAfter ≤ verificationTime) (deny "RETENTION_EXPIRED")
  require (field retention "deletion_receipt_required" = some (.bool true)
      ∧ field retention "raw_source_retained" = some (.bool false))
    (deny "RETENTION_POLICY_VIOLATION")

/-- The texts of a list of texts. -/
def textsOf : List Value → Option (List Text)
  | [] => some []
  | .string s :: values => (textsOf values).map (s :: ·)
  | _ :: _ => none

/-- Sorting takes the text of each value, where there are two to compare. -/
def compareTexts (values : List Value) : Except GateError Unit :=
  if values.length < 2 then .ok ()
  else values.forM fun value => do
    let _ ← valueText value
    .ok ()

/-- The paths that a redaction allows, sorted, are the leaves of an envelope.  What is no text is no
leaf, wherever it is sorted to. -/
def assertPaths (paths : Option Value) : Except GateError Unit :=
  match paths with
  | some (.array values) => do
    compareTexts values
    require ((textsOf values).any (fun texts => sortKeys texts = replayLeaves) = true)
      (deny "ALLOWLIST_DRIFT")
  | _ => .error (deny "ALLOWLIST_DRIFT")

/-- The redaction of a bundle. -/
def assertRedaction (redaction : Option Value) : Except GateError Unit := do
  shape redaction redactionKeys redactionKeys
  assertToken (field redaction "profile_id")
  assertToken (field redaction "review_ref")
  assertInteger 0 "INVALID_INTEGER" (field redaction "findings")
  require (hasText (field redaction "status") "passed" = true
      ∧ field redaction "findings" = some (.number (.posInt 0)))
    (deny "REDACTION_NOT_PASSED")
  assertPaths (field redaction "allowlisted_paths")

section Hash

variable [Crypto]

/-- A candidate, with those before it. -/
def assertCandidate (exportedAt : Nat) (before : List Value) (candidate : Value) :
    Except GateError (List Value) := do
  let value := some candidate
  shape value candidateKeys candidateKeys
  assertToken (field value "candidate_id")
  assertDigest (field value "lineage_digest")
  assertPositive (field value "captured_at_ms")
  assertDigest (field value "candidate_digest")
  rejectIf (exportedAt < number (field value "captured_at_ms")) (deny "INVALID_TIME_ORDER")
  rejectIf (∃ other ∈ before, field (some other) "candidate_id" = field value "candidate_id")
    (deny "DUPLICATE_CANDIDATE_ID")
  rejectIf (∃ other ∈ before, field (some other) "lineage_digest" = field value "lineage_digest")
    (deny "DUPLICATE_LINEAGE")
  ((field value "replay_envelope").map assertReplayEnvelope).getD (.error .typeError)
  require (hasText (field value "candidate_digest")
      (domainDigest candidateDomain candidate "candidate_digest") = true)
    (deny "CANDIDATE_DIGEST_MISMATCH")
  .ok (before ++ [candidate])

/-- A label for one of the candidates, with the identifiers that have one. -/
def assertLabel (candidates : List Value) (labeled : List (Option Value)) (label : Value) :
    Except GateError (List (Option Value)) := do
  let value := some label
  shape value ["candidate_id", "candidate_digest", "expected_outcome", "divergence_review"]
    ["candidate_id", "candidate_digest", "expected_outcome"]
  assertToken (field value "candidate_id")
  assertDigest (field value "candidate_digest")
  assertExpectedOutcome (field value "expected_outcome")
  whenPresent assertDivergenceReview (field value "divergence_review")
  rejectIf (field value "candidate_id" ∈ labeled) (deny "LABEL_COVERAGE_MISMATCH")
  let candidate ← okOr (candidates.find? fun candidate =>
    field (some candidate) "candidate_id" = field value "candidate_id")
    (deny "LABEL_COVERAGE_MISMATCH")
  require (field (some candidate) "candidate_digest" = field value "candidate_digest")
    (deny "LABEL_DIGEST_MISMATCH")
  .ok (labeled ++ [field value "candidate_id"])

/-- The labels of a bundle. -/
def assertLabelSet (labelSet intakeId : Option Value) (candidates : List Value)
    (exportedAt verificationTime : Nat) : Except GateError Unit := do
  shape labelSet labelSetKeys labelSetKeys
  require (field labelSet "schema_version" = some (.number (.posInt 1))
      ∧ strictEqual (field labelSet "intake_id") intakeId = true)
    (deny "LABEL_COVERAGE_MISMATCH")
  assertToken (field labelSet "review_ref")
  assertPositive (field labelSet "reviewed_at_ms")
  rejectIf (number (field labelSet "reviewed_at_ms") < exportedAt
      ∨ verificationTime < number (field labelSet "reviewed_at_ms"))
    (deny "INVALID_TIME_ORDER")
  match field labelSet "labels" with
  | some (.array labels) => do
    let labeled ← labels.foldlM (assertLabel candidates) []
    require (labeled.length = candidates.length
        ∧ ∀ candidate ∈ candidates, field (some candidate) "candidate_id" ∈ labeled)
      (deny "LABEL_COVERAGE_MISMATCH")
  | _ => .error (deny "LABEL_COVERAGE_MISMATCH")

/-- The summary of a bundle. -/
structure BundleSummary where
  candidateCount : Nat
  candidateDigests : List (Option Value)
  bundleDigest : Option Value
  deriving DecidableEq

/-- `validateBundle`. -/
def validateBundle (bundle : Value) (verificationTimeMs : Nat) :
    Except GateError BundleSummary := do
  let value := some bundle
  shape value bundleKeys bundleKeys
  require (hasText (field value "schema_id") "idr.aegis.representative-corpus-intake.v1" = true)
    (deny "UNSUPPORTED_SCHEMA")
  require (field value "schema_version" = some (.number (.posInt 1))) (deny "UNSUPPORTED_SCHEMA")
  assertToken (field value "intake_id")
  require (hasText (field value "purpose") "offline_shadow_evaluation" = true)
    (deny "INVALID_PURPOSE")
  assertEnum (field value "source_classification") ["synthetic_control", "redacted_export"]
    "INVALID_ENUM"
  assertToken (field value "source_system_ref")
  assertDigest (field value "source_export_digest")
  assertPositive (field value "exported_at_ms")
  assertPositive (some (.number (.posInt verificationTimeMs)))
  let exportedAt := number (field value "exported_at_ms")
  rejectIf (verificationTimeMs < exportedAt) (deny "INVALID_TIME_ORDER")
  assertApproval (field value "approval") exportedAt verificationTimeMs
  assertRetention (field value "retention") exportedAt verificationTimeMs
  assertRedaction (field value "redaction")
  match field value "candidates" with
  | some (.array entries) => do
    rejectIf (entries = []) (deny "LABEL_COVERAGE_MISMATCH")
    rejectIf (maxCases < entries.length) (deny "CORPUS_LIMIT_EXCEEDED")
    let candidates ← entries.foldlM (assertCandidate exportedAt) []
    assertLabelSet (field value "label_set") (field value "intake_id") candidates exportedAt
      verificationTimeMs
    assertDigest (field value "bundle_digest")
    require (hasText (field value "bundle_digest")
        (domainDigest bundleDomain bundle "bundle_digest") = true)
      (deny "BUNDLE_DIGEST_MISMATCH")
    .ok {
      candidateCount := candidates.length
      candidateDigests := candidates.map fun candidate => field (some candidate) "candidate_digest"
      bundleDigest := field value "bundle_digest" }
  | _ => .error (deny "LABEL_COVERAGE_MISMATCH")

end Hash

/-! ### What passes -/

section Helpers

theorem assertTokenTree_eq_ok (v : Value) :
    assertTokenTree v = .ok () ↔ v.Every fun u => ∀ s, u = .string s → isToken s = true := by
  have hvalues : ∀ {values : List Value}, assertTokenValues values = .ok () ↔
      ∀ v ∈ values, assertTokenTree v = .ok () := by
    intro values
    induction values with
    | nil => exact ⟨fun _ v hv => (by cases hv), fun _ => rfl⟩
    | cons v values ih =>
      rw [List.forall_mem_cons, ← ih]
      simp only [assertTokenValues, bind_eq_ok, exists_unit_eq_ok]
  have hfields : ∀ {fields : List (Text × Value)}, assertTokenFields fields = .ok () ↔
      ∀ f ∈ fields, assertTokenTree f.2 = .ok () := by
    intro fields
    induction fields with
    | nil => exact ⟨fun _ f hf => (by cases hf), fun _ => rfl⟩
    | cons f fields ih =>
      rw [List.forall_mem_cons, ← ih]
      simp only [assertTokenFields, bind_eq_ok, exists_unit_eq_ok]
  induction v using Value.induction with
  | harray values ih =>
    rw [Value.every_array, assertTokenTree, hvalues, forall₂_congr ih]
    exact ⟨fun h => ⟨fun s hs => (by cases hs), h⟩, fun h => h.2⟩
  | hobject fields ih =>
    rw [Value.every_object, assertTokenTree, hfields, forall₂_congr ih]
    exact ⟨fun h => ⟨fun s hs => (by cases hs), h⟩, fun h => h.2⟩
  | hstring t =>
    rw [assertTokenTree, assertToken, assertPattern_eq_ok]
    constructor
    · rintro ⟨_, ⟨⟩, ht⟩ u hu
      cases hu
      rintro _ ⟨⟩
      exact ht
    · exact fun h => ⟨t, rfl, h.self t rfl⟩
  | _ =>
    constructor
    · intro _ u hu
      cases hu
      exact fun s hs => (by cases hs)
    · exact fun _ => rfl

/-- What a pattern is matched with has that text. -/
theorem requirePattern_eq_ok {matched : Text → Bool} {value : Option Value} {code : String} :
    requirePattern matched value code = .ok () ↔ regexTest matched value = .ok true := by
  simp only [requirePattern, bind_eq_ok, require_eq_ok]
  constructor
  · rintro ⟨_, h, rfl⟩
    exact h
  · exact fun h => ⟨true, h, rfl⟩

theorem assertRole_eq_ok {seen out : List Value} {role : Value} :
    assertRole seen role = .ok out ↔
      (∃ s ∈ semanticRoles, role = .string s) ∧ role ∉ seen ∧ out = seen ++ [role] := by
  simp only [assertRole, bind_eq_ok, exists_unit_eq_ok, assertEnum_eq_ok, rejectIf_eq_ok,
    exists_const, Except.ok.injEq, Option.some.injEq, eq_comm (a := out)]

/-- The roles that are seen, in order. -/
theorem foldlM_roles {entries seen out : List Value} :
    entries.foldlM assertRole seen = .ok out ↔
      (∀ v ∈ entries, ∃ s ∈ semanticRoles, v = .string s) ∧ (∀ v ∈ entries, v ∉ seen)
        ∧ entries.Nodup ∧ out = seen ++ entries := by
  induction entries generalizing seen with
  | nil =>
    rw [List.foldlM_nil, pure_eq_ok, List.append_nil]
    exact ⟨fun h => ⟨fun v hv => (by cases hv), fun v hv => (by cases hv), .nil, h.symm⟩,
      fun h => h.2.2.2.symm⟩
  | cons v entries ih =>
    simp only [List.foldlM_cons, bind_eq_ok, assertRole_eq_ok, List.forall_mem_cons,
      List.nodup_cons]
    constructor
    · rintro ⟨_, ⟨hv, hseen, rfl⟩, hrest⟩
      obtain ⟨hall, hfresh, hnodup, rfl⟩ := ih.mp hrest
      simp only [List.mem_append, List.mem_singleton, not_or] at hfresh
      exact ⟨⟨hv, hall⟩, ⟨hseen, fun u hu => (hfresh u hu).1⟩,
        ⟨fun hmem => (hfresh v hmem).2 rfl, hnodup⟩, List.append_assoc ..⟩
    · rintro ⟨⟨hv, hall⟩, ⟨hseen, hfresh⟩, ⟨hnot, hnodup⟩, rfl⟩
      refine ⟨_, ⟨hv, hseen, rfl⟩, ih.mpr ⟨hall, ?_, hnodup, by rw [List.append_assoc]; rfl⟩⟩
      intro u hu
      rw [List.mem_append, List.mem_singleton, not_or]
      exact ⟨hfresh u hu, fun heq => hnot (heq ▸ hu)⟩

theorem whenPresent_eq_ok {check : Option Value → Except GateError Unit} {value : Option Value} :
    whenPresent check value = .ok () ↔ (value ≠ none → check value = .ok ()) := by
  unfold whenPresent
  split
  · next h => exact ⟨fun _ hne => absurd h hne, fun _ => rfl⟩
  · next h => exact ⟨fun hok _ => hok, fun hok => hok h⟩

theorem assertRoles_eq_ok {roles primary : Option Value} :
    assertRoles roles primary = .ok () ↔ RolesOk roles primary := by
  unfold assertRoles
  split
  · next entries =>
    simp only [bind_eq_ok, rejectIf_eq_ok, exists_const, foldlM_roles, require_eq_ok,
      List.nil_append]
    constructor
    · rintro ⟨hne, _, ⟨hall, -, hnodup, rfl⟩, hprimary⟩
      obtain ⟨texts, rfl, htexts⟩ := exists_texts hall
      obtain ⟨p, rfl, hp⟩ := (Option.any_eq_true _ _).mp hprimary
      rw [List.contains_iff_mem, List.mem_map] at hp
      obtain ⟨t, ht, rfl⟩ := hp
      refine ⟨texts, rfl, fun hnil => hne (by rw [hnil]; rfl), hnodup.of_map, htexts, t, ht, rfl⟩
    · rintro ⟨texts, heq, hne, hnodup, hall, t, ht, rfl⟩
      cases heq
      refine ⟨fun hnil => hne (List.map_eq_nil_iff.mp hnil), _, ⟨?_, ?_, ?_, rfl⟩, ?_⟩
      · intro v hv
        obtain ⟨s, hs, rfl⟩ := List.mem_map.mp hv
        exact ⟨s, hall s hs, rfl⟩
      · exact fun v _ => List.not_mem_nil
      · exact hnodup.map string_injective
      · exact List.contains_iff_mem.mpr (List.mem_map_of_mem ht)
  · next hne =>
    constructor
    · intro h
      cases h
    · rintro ⟨texts, rfl, -⟩
      exact absurd rfl (hne _)

end Helpers

def identifiers : List Text := ["event_id", "run_id", "turn_id"]

def requestKeys : List Text := ["input", "fast_path_facts", "decision_facts",
  "coordination_facts"]

def envelopeKeys : List Text := ["observation_ref", "assessment_request", "host_projection"]

/-- **An input that passes.** -/
structure InputOk (input : Option Value) : Prop where
  keys : HasKeys input inputKeys
  ids : ∀ key ∈ identifiers, regexTest isUuid (field input key) = .ok true
  sourceActor : ∃ s ∈ sourceActors, field input "source_actor" = some (.string s)
  tokens : ∀ key ∈ (["actor_ref", "content_ref", "correlation_ref"] : List Text),
    ∃ s, field input key = some (.string s) ∧ isToken s = true
  roles : RolesOk (field input "semantic_roles") (field input "primary_semantic_role")
  digest : ∃ s, field input "content_digest" = some (.string s) ∧ isDigest s = true
  time : ∃ n, IsInteger (field input "logical_time") n ∧ 1 ≤ n ∧ n ≤ idrMaxSafeWireIntegerV1
  version : field input "schema_version" = some (.number (.posInt 1))

theorem assertInput_eq_ok {input : Option Value} : assertInput input = .ok () ↔ InputOk input := by
  simp only [assertInput, shape, assertToken, assertDigest, assertPositive, bind_eq_ok,
    exists_unit_eq_ok, exactShape_eq_ok, requirePattern_eq_ok, assertEnum_eq_ok,
    assertPattern_eq_ok, assertRoles_eq_ok, assertInteger_eq_ok, require_eq_ok]
  constructor
  · rintro ⟨hkeys, hevent, hrun, hturn, hactor, href, -, hroles, hcontent, hdigest, hcorrelation,
      htime, hversion⟩
    refine ⟨hkeys, ?_, hactor, ?_, hroles, hdigest, htime, hversion⟩
    · intro key hkey
      simp only [identifiers, List.mem_cons, List.not_mem_nil, or_false] at hkey
      rcases hkey with rfl | rfl | rfl
      exacts [hevent, hrun, hturn]
    · intro key hkey
      simp only [List.mem_cons, List.not_mem_nil, or_false] at hkey
      rcases hkey with rfl | rfl | rfl
      exacts [href, hcontent, hcorrelation]
  · intro h
    have hprimary : ∃ s ∈ semanticRoles,
        field input "primary_semantic_role" = some (.string s) := by
      obtain ⟨texts, -, -, -, hall, t, ht, hp⟩ := h.roles
      exact ⟨t, hall t ht, hp⟩
    exact ⟨h.keys, h.ids _ (by decide), h.ids _ (by decide), h.ids _ (by decide), h.sourceActor,
      h.tokens _ (by decide), hprimary, h.roles, h.tokens _ (by decide), h.digest,
      h.tokens _ (by decide), h.time, h.version⟩

/-- **An envelope that passes.** -/
structure EnvelopeOk (value : Value) : Prop where
  names : value.Every fun u => ∀ fields, u = .object fields →
    ∀ f ∈ fields, f.1 ∉ authorityFields ∧ f.1 ∉ prohibitedDataFields
  tokens : value.Every fun u => ∀ s, u = .string s → isToken s = true
  keys : shape (some value) envelopeKeys ["observation_ref", "assessment_request"] = .ok ()
  reference : ∃ s, field (some value) "observation_ref" = some (.string s) ∧ isToken s = true
  request : HasKeys (field (some value) "assessment_request") requestKeys
  input : InputOk (field (field (some value) "assessment_request") "input")
  fastPath : FactsOk fastPathKeys fastPathBooleans [("impact_level", impactLevels)]
    (field (field (some value) "assessment_request") "fast_path_facts")
  decision : FactsOk decisionKeys decisionBooleans [("impact_level", impactLevels)]
    (field (field (some value) "assessment_request") "decision_facts")
  coordination : FactsOk coordinationKeys coordinationKeys []
    (field (field (some value) "assessment_request") "coordination_facts")
  projection : field (some value) "host_projection" ≠ none →
    FactsOk hostProjectionKeys [] [("coordination_mode", coordinationModes),
      ("action_posture", actionPostures), ("next_run_state", runStates)]
      (field (some value) "host_projection")
  leaves : ∀ path ∈ collectLeaves "" value, path ∈ replayLeaves

theorem assertReplayEnvelope_eq_ok {value : Value} :
    assertReplayEnvelope value = .ok () ↔ EnvelopeOk value := by
  have hname : ∀ key, checkName key = .ok () ↔
      key ∉ authorityFields ∧ key ∉ prohibitedDataFields := by
    intro key
    simp only [checkName, bind_eq_ok, rejectIf_eq_ok, exists_const]
  simp only [assertReplayEnvelope, scanProhibitedFields, scanNames_eq_ok, hname,
    assertTokenTree_eq_ok, assertToken, bind_eq_ok, exists_unit_eq_ok, assertPattern_eq_ok,
    assertInput_eq_ok, assertFastPathFacts, assertDecisionFacts, assertCoordinationFacts,
    assertFacts_eq_ok, whenPresent_eq_ok, assertHostProjection, rejectIf_eq_ok, not_exists, not_and,
    not_not]
  constructor
  · rintro ⟨hnames, htokens, hkeys, href, hrequest, hinput, hfast, hdecision, hcoordination,
      hprojection, hleaves⟩
    exact ⟨hnames, htokens, hkeys, href, exactShape_eq_ok.mp hrequest, hinput, hfast, hdecision,
      hcoordination, hprojection, hleaves⟩
  · intro h
    exact ⟨h.names, h.tokens, h.keys, h.reference, exactShape_eq_ok.mpr h.request, h.input,
      h.fastPath, h.decision, h.coordination, h.projection, h.leaves⟩

/-! ### The schema of the pack -/

section Schemas

open Schema

/-- An object whose properties are all required. -/
def closed (properties : List (Text × Schema)) : Schema :=
  .object properties (properties.map Prod.fst)

def tokenSchema : Schema := .text isToken

def digestSchema : Schema := .text isDigest

def uuidSchema : Schema := .text isUuid

/-- A time. -/
def positiveSchema : Schema := .integer 1

def inputSchema : Schema := closed [
  ("event_id", uuidSchema),
  ("run_id", uuidSchema),
  ("turn_id", uuidSchema),
  ("source_actor", .enum sourceActors),
  ("actor_ref", tokenSchema),
  ("primary_semantic_role", .enum semanticRoles),
  ("semantic_roles", .array (.enum semanticRoles) 1 (some 16) true),
  ("content_ref", tokenSchema),
  ("content_digest", digestSchema),
  ("correlation_ref", tokenSchema),
  ("logical_time", positiveSchema),
  ("schema_version", .const (.number (.posInt 1)))]

/-- An object of facts, in the order of its properties. -/
def factsSchema (keys : List Text) (enums : List (Text × List Text)) : Schema :=
  closed (keys.map fun key =>
    match enums.lookup key with
    | some texts => (key, .enum texts)
    | none => (key, .boolean))

def fastPathSchema : Schema := factsSchema fastPathKeys [("impact_level", impactLevels)]

def decisionSchema : Schema := factsSchema decisionKeys [("impact_level", impactLevels)]

def coordinationSchema : Schema := factsSchema coordinationKeys []

def hostProjectionSchema : Schema := factsSchema hostProjectionKeys [
  ("coordination_mode", coordinationModes), ("action_posture", actionPostures),
  ("next_run_state", runStates)]

def requestSchema : Schema := closed [
  ("input", inputSchema),
  ("fast_path_facts", fastPathSchema),
  ("decision_facts", decisionSchema),
  ("coordination_facts", coordinationSchema)]

def replayEnvelopeSchema : Schema := .object [
  ("observation_ref", tokenSchema),
  ("assessment_request", requestSchema),
  ("host_projection", hostProjectionSchema)] ["observation_ref", "assessment_request"]

def statusSchema (status : Text) : Schema := closed [("status", .const (.string status))]

def rejectedSchema : Schema := closed [
  ("status", .const (.string "rejected")),
  ("reason_code", tokenSchema)]

def expectedOutcomeSchema : Schema := .oneOf [statusSchema "assessed", statusSchema "blocked",
  rejectedSchema]

def divergenceReviewSchema : Schema := closed [
  ("classification", .enum divergenceClassifications),
  ("review_ref", tokenSchema)]

def approvalSchema : Schema := closed [
  ("status", .enum ["pending", "approved", "rejected"]),
  ("review_ref", tokenSchema),
  ("valid_from_ms", positiveSchema),
  ("valid_until_ms", positiveSchema),
  ("allows_representative_export", .boolean),
  ("allows_raw_conversation", .boolean),
  ("allows_credentials", .boolean),
  ("allows_human_model", .boolean),
  ("allows_personality_inference", .boolean)]

def retentionSchema : Schema := closed [
  ("policy_ref", tokenSchema),
  ("delete_after_ms", positiveSchema),
  ("deletion_receipt_required", .boolean),
  ("raw_source_retained", .boolean)]

def redactionSchema : Schema := closed [
  ("profile_id", tokenSchema),
  ("status", .enum ["pending", "passed", "failed"]),
  ("review_ref", tokenSchema),
  ("allowlisted_paths", .array tokenSchema 1 none true),
  ("findings", .integer 0)]

def candidateSchema : Schema := closed [
  ("candidate_id", tokenSchema),
  ("lineage_digest", digestSchema),
  ("captured_at_ms", positiveSchema),
  ("replay_envelope", replayEnvelopeSchema),
  ("candidate_digest", digestSchema)]

def labelSchema : Schema := .object [
  ("candidate_id", tokenSchema),
  ("candidate_digest", digestSchema),
  ("expected_outcome", expectedOutcomeSchema),
  ("divergence_review", divergenceReviewSchema)]
  ["candidate_id", "candidate_digest", "expected_outcome"]

def labelSetSchema : Schema := closed [
  ("schema_version", .const (.number (.posInt 1))),
  ("intake_id", tokenSchema),
  ("review_ref", tokenSchema),
  ("reviewed_at_ms", positiveSchema),
  ("labels", .array labelSchema 1 (some 1000) false)]

/-- `idr-aegis-representative-intake-v1.schema.json`. -/
def bundleSchema : Schema := closed [
  ("schema_id", .const (.string "idr.aegis.representative-corpus-intake.v1")),
  ("schema_version", .const (.number (.posInt 1))),
  ("intake_id", tokenSchema),
  ("purpose", .const (.string "offline_shadow_evaluation")),
  ("source_classification", .enum ["synthetic_control", "redacted_export"]),
  ("source_system_ref", tokenSchema),
  ("source_export_digest", digestSchema),
  ("exported_at_ms", positiveSchema),
  ("approval", approvalSchema),
  ("retention", retentionSchema),
  ("redaction", redactionSchema),
  ("candidates", .array candidateSchema 1 (some 1000) false),
  ("label_set", labelSetSchema),
  ("bundle_digest", digestSchema)]

end Schemas

/-! ### What passes is valid -/

section Valid

open Schema

theorem admits_token {value : Option Value} (h : assertToken value = .ok ()) :
    tokenSchema.Admits value := by
  obtain ⟨s, rfl, hs⟩ := assertPattern_eq_ok.mp h
  exact admits_text hs

theorem admits_digest {value : Option Value} (h : assertDigest value = .ok ()) :
    digestSchema.Admits value := by
  obtain ⟨s, rfl, hs⟩ := assertPattern_eq_ok.mp h
  exact admits_text hs

theorem admits_positive {value : Option Value} (h : assertPositive value = .ok ()) :
    positiveSchema.Admits value := by
  obtain ⟨n, rfl, hmin, hmax⟩ := assertInteger_eq_ok.mp h
  exact admits_integer hmin hmax

theorem admits_member {value : Option Value} {texts : List Text}
    (h : ∃ s ∈ texts, value = some (.string s)) : (Schema.enum texts).Admits value := by
  obtain ⟨s, hs, rfl⟩ := h
  exact admits_enum hs

theorem admits_flag {value : Option Value} (h : ∃ b, value = some (.bool b)) :
    Schema.boolean.Admits value := by
  obtain ⟨b, rfl⟩ := h
  exact admits_boolean

theorem admits_same {value : Option Value} {c : Value} (h : value = some c) :
    (Schema.const c).Admits value := by
  subst h
  exact admits_const

/-- Facts that pass are valid, where each property is a boolean or in an enumeration. -/
theorem facts_admits {keys booleans : List Text} {enums : List (Text × List Text)}
    {facts : Option Value} (h : FactsOk keys booleans enums facts)
    (hkinds : ∀ key ∈ keys, (∃ texts, enums.lookup key = some texts ∧ (key, texts) ∈ enums)
      ∨ (enums.lookup key = none ∧ key ∈ booleans)) :
    (factsSchema keys enums).Admits facts := by
  have hnames : (keys.map fun key =>
      match enums.lookup key with
      | some texts => (key, Schema.enum texts)
      | none => (key, Schema.boolean)).map Prod.fst = keys := by
    rw [List.map_map]
    conv_rhs => rw [← List.map_id keys]
    apply List.map_congr_left
    intro key _
    show Prod.fst (match enums.lookup key with
      | some texts => (key, Schema.enum texts)
      | none => (key, Schema.boolean)) = key
    split <;> rfl
  apply admits_hasKeys
  · rw [hnames]
    exact h.keys
  · intro p hp
    obtain ⟨key, hkey, rfl⟩ := List.mem_map.mp hp
    rcases hkinds key hkey with ⟨texts, hlookup, hmem⟩ | ⟨hlookup, hmem⟩
    · rw [hlookup]
      exact admits_member (h.enums _ hmem)
    · rw [hlookup]
      exact admits_flag (h.booleans key hmem)

/-- The identifiers of the input of an envelope are texts. -/
def IdentifiersAreTexts (envelope : Option Value) : Prop :=
  ∀ key ∈ identifiers, ∃ s,
    field (field (field envelope "assessment_request") "input") key = some (.string s)

theorem roles_admits {roles primary : Option Value} (h : RolesOk roles primary) :
    (Schema.array (.enum semanticRoles) 1 (some 16) true).Admits roles := by
  obtain ⟨entries, hentries, hlength⟩ := h.length_le
  obtain ⟨texts, rfl, hne, hnodup, hall, -⟩ := h
  cases hentries
  apply admits_array
  · rw [List.length_map]
    exact List.length_pos_of_ne_nil hne
  · rintro n ⟨⟩
    omega
  · intro _
    rw [List.map_map]
    exact hnodup.map string_injective
  · intro v hv
    obtain ⟨t, ht, rfl⟩ := List.mem_map.mp hv
    exact admits_enum (hall t ht) _ rfl

/-- An input that passes is valid exactly when its identifiers are texts. -/
theorem InputOk.admits_iff {input : Option Value} (h : InputOk input) :
    inputSchema.Admits input ↔ ∀ key ∈ identifiers, ∃ s, field input key = some (.string s) := by
  constructor
  · intro hadmits key hkey
    obtain ⟨fields, rfl, -⟩ := id h.keys
    have hid : (key, uuidSchema) ∈ [(("event_id" : Text), uuidSchema), ("run_id", uuidSchema),
        ("turn_id", uuidSchema)] := by
      simp only [identifiers, List.mem_cons, List.not_mem_nil, or_false] at hkey
      rcases hkey with rfl | rfl | rfl <;> simp
    have hproperty : uuidSchema.Admits (field (some (.object fields)) key) :=
      admits_of_object (hadmits _ rfl) (List.mem_append_left _ hid)
    have hmem : key ∈ inputKeys := by
      simp only [identifiers, List.mem_cons, List.not_mem_nil, or_false] at hkey
      rcases hkey with rfl | rfl | rfl <;> decide
    obtain ⟨v, hv⟩ := h.keys.field hmem
    obtain ⟨s, rfl, -⟩ := text_of_valid (hproperty v hv)
    exact ⟨s, hv⟩
  · intro htexts
    have huuid : ∀ key ∈ identifiers, uuidSchema.Admits (field input key) := by
      intro key hkey
      obtain ⟨s, hs⟩ := htexts key hkey
      have hmatch := h.ids key hkey
      rw [hs] at hmatch ⊢
      exact admits_text (Except.ok.inj hmatch)
    have htoken : ∀ key ∈ (["actor_ref", "content_ref", "correlation_ref"] : List Text),
        tokenSchema.Admits (field input key) :=
      fun key hkey => admits_token (assertPattern_eq_ok.mpr (h.tokens key hkey))
    have hprimary : ∃ s ∈ semanticRoles,
        field input "primary_semantic_role" = some (.string s) := by
      obtain ⟨texts, -, -, -, hall, t, ht, hp⟩ := h.roles
      exact ⟨t, hall t ht, hp⟩
    apply admits_hasKeys h.keys
    simp only [List.forall_mem_cons]
    exact ⟨huuid _ (by decide), huuid _ (by decide), huuid _ (by decide),
      admits_member h.sourceActor, htoken _ (by decide), admits_member hprimary,
      roles_admits h.roles, htoken _ (by decide), admits_digest (assertPattern_eq_ok.mpr h.digest),
      htoken _ (by decide), admits_positive (assertInteger_eq_ok.mpr h.time),
      admits_same h.version, fun _ hp => (by cases hp)⟩

theorem EnvelopeOk.admits_iff {envelope : Value} (h : EnvelopeOk envelope) :
    replayEnvelopeSchema.valid envelope = true ↔ IdentifiersAreTexts (some envelope) := by
  rw [IdentifiersAreTexts, ← h.input.admits_iff]
  have hshape := h.keys
  cases envelope with
  | null | bool | number | string | array => cases hshape
  | object fields =>
    simp only [shape, exactShape, bind_eq_ok, rejectIf_eq_ok, exists_const, not_exists, not_and,
      not_not] at hshape
    constructor
    · intro hvalid
      have hrequest : requestSchema.Admits
          (field (some (.object fields)) "assessment_request") :=
        admits_of_object hvalid (by simp)
      obtain ⟨requestFields, heq, -⟩ := h.request
      have hinput := admits_of_object (hrequest _ heq)
        (show (("input" : Text), inputSchema) ∈ _ by simp)
      rw [heq]
      exact hinput
    · intro hinput
      have hrequest : requestSchema.Admits
          (field (some (.object fields)) "assessment_request") := by
        apply admits_hasKeys h.request
        simp only [List.forall_mem_cons]
        exact ⟨hinput, facts_admits h.fastPath (by decide), facts_admits h.decision (by decide),
          facts_admits h.coordination (by decide), fun _ hp => (by cases hp)⟩
      apply valid_object_iff.mpr
      refine ⟨hshape.1, hshape.2, ?_⟩
      simp only [List.forall_mem_cons]
      refine ⟨admits_token (assertPattern_eq_ok.mpr h.reference), hrequest, ?_,
        fun _ hp => (by cases hp)⟩
      -- the projection is not required
      intro v hv
      have hfacts := h.projection (by rw [hv]; exact Option.some_ne_none v)
      exact facts_admits hfacts (by decide) v hv

theorem approval_admits {approval : Option Value} {exportedAt verificationTime : Nat}
    (h : assertApproval approval exportedAt verificationTime = .ok ()) :
    approvalSchema.Admits approval := by
  simp only [assertApproval, shape, bind_eq_ok, exists_unit_eq_ok, exactShape_eq_ok, forM_eq_ok,
    assertBoolean_eq_ok, require_eq_ok, rejectIf_eq_ok, exists_const] at h
  obtain ⟨hkeys, hreview, hfrom, huntil, hflags, -, hstatus, -⟩ := h
  apply admits_hasKeys hkeys
  simp only [List.forall_mem_cons]
  exact ⟨admits_member ⟨"approved", by decide, hasText_iff.mp hstatus.1⟩, admits_token hreview,
    admits_positive hfrom, admits_positive huntil, admits_flag (hflags _ (by decide)),
    admits_flag (hflags _ (by decide)), admits_flag (hflags _ (by decide)),
    admits_flag (hflags _ (by decide)), admits_flag (hflags _ (by decide)),
    fun _ hp => (by cases hp)⟩

theorem retention_admits {retention : Option Value} {exportedAt verificationTime : Nat}
    (h : assertRetention retention exportedAt verificationTime = .ok ()) :
    retentionSchema.Admits retention := by
  simp only [assertRetention, shape, bind_eq_ok, exists_unit_eq_ok, exactShape_eq_ok,
    assertBoolean_eq_ok, require_eq_ok, rejectIf_eq_ok, exists_const] at h
  obtain ⟨hkeys, hpolicy, hdelete, hreceipt, hraw, -⟩ := h
  apply admits_hasKeys hkeys
  simp only [List.forall_mem_cons]
  exact ⟨admits_token hpolicy, admits_positive hdelete, admits_flag hreceipt, admits_flag hraw,
    fun _ hp => (by cases hp)⟩

/-- The texts of a list of texts. -/
theorem textsOf_eq_some {values : List Value} {texts : List Text}
    (h : textsOf values = some texts) :
    values = texts.map .string := by
  induction values generalizing texts with
  | nil =>
    cases h
    rfl
  | cons v values ih =>
    cases v with
    | string s =>
      rw [textsOf, Option.map_eq_some_iff] at h
      obtain ⟨rest, hrest, rfl⟩ := h
      rw [ih hrest, List.map_cons]
    | null | bool | number | array | object => simp [textsOf] at h

theorem redaction_admits {redaction : Option Value} (h : assertRedaction redaction = .ok ()) :
    redactionSchema.Admits redaction := by
  simp only [assertRedaction, shape, bind_eq_ok, exists_unit_eq_ok, exactShape_eq_ok,
    require_eq_ok, exists_const] at h
  obtain ⟨hkeys, hprofile, hreview, hfindings, hstatus, hpaths⟩ := h
  have hlist : (Schema.array tokenSchema 1 none true).Admits
      (field redaction "allowlisted_paths") := by
    unfold assertPaths at hpaths
    split at hpaths
    · next values heq =>
      rw [heq]
      simp only [bind_eq_ok, require_eq_ok] at hpaths
      obtain ⟨-, -, htexts⟩ := hpaths
      obtain ⟨texts, htexts, hsorted⟩ := (Option.any_eq_true _ _).mp htexts
      rw [textsOf_eq_some htexts]
      -- what is sorted into the leaves is a permutation of them
      have hperm : texts.Perm replayLeaves := by
        rw [← of_decide_eq_true hsorted]
        exact (List.perm_insertionSort _ _).symm
      apply admits_array
      · rw [List.length_map, hperm.length_eq]
        decide
      · exact fun n hn => (by cases hn)
      · intro _
        rw [List.map_map]
        exact (hperm.nodup_iff.mpr (by decide)).map string_injective
      · intro v hv
        obtain ⟨t, ht, rfl⟩ := List.mem_map.mp hv
        have hall : ∀ t ∈ replayLeaves, isToken t = true := by decide
        exact admits_text (hall t (hperm.mem_iff.mp ht)) _ rfl
    · cases hpaths
  obtain ⟨n, hn, hmin, hmax⟩ := assertInteger_eq_ok.mp hfindings
  apply admits_hasKeys hkeys
  simp only [List.forall_mem_cons]
  refine ⟨admits_token hprofile, admits_member ⟨"passed", by decide, hasText_iff.mp hstatus.1⟩,
    admits_token hreview, hlist, ?_, fun _ hp => (by cases hp)⟩
  rw [hn]
  exact admits_integer hmin hmax

/-- A value is valid against a schema with a status only if it has that status. -/
theorem status_of_valid {properties : List (Text × Schema)} {status s : Text} {v : Value}
    (hp : (("status" : Text), Schema.const (.string status)) ∈ properties)
    (hs : field (some v) "status" = some (.string s)) (h : (closed properties).valid v = true) :
    s = status := by
  have hconst := admits_of_object h hp _ hs
  rw [valid, decide_eq_true_eq, Value.canonical, Value.canonical, Value.string.injEq] at hconst
  exact hconst

/-- **An outcome matches one alternative**, since the alternatives have different statuses. -/
theorem expectedOutcome_admits {value : Option Value} (h : assertExpectedOutcome value = .ok ()) :
    expectedOutcomeSchema.Admits value := by
  rintro v rfl
  unfold assertExpectedOutcome at h
  rw [expectedOutcomeSchema, valid, decide_eq_true_eq, validCount, validCount, validCount,
    validCount]
  split at h
  case h_2 => cases h
  case h_1 s hs =>
    have hstatus : ∀ status, s ≠ status → (statusSchema status).valid v = false := by
      intro status hne
      rw [← Bool.not_eq_true]
      exact mt (status_of_valid (List.mem_singleton_self _) hs) hne
    have hrejected : s ≠ "rejected" → rejectedSchema.valid v = false := by
      intro hne
      rw [← Bool.not_eq_true]
      exact mt (status_of_valid (List.mem_cons_self ..) hs) hne
    split at h
    · next heq =>
      have hkeys : HasKeys (some v) ["status"] := exactShape_eq_ok.mp h
      have haccept : (statusSchema s).valid v = true := by
        refine admits_hasKeys hkeys ?_ v rfl
        simp only [List.forall_mem_cons]
        exact ⟨admits_same hs, fun _ hp => (by cases hp)⟩
      rcases heq with rfl | rfl
      · rw [haccept, hstatus "blocked" (by decide), hrejected (by decide)]
        rfl
      · rw [haccept, hstatus "assessed" (by decide), hrejected (by decide)]
        rfl
    · split at h
      · next heq =>
        subst heq
        simp only [shape, bind_eq_ok, exists_unit_eq_ok, exactShape_eq_ok] at h
        have haccept : rejectedSchema.valid v = true := by
          refine admits_hasKeys h.1 ?_ v rfl
          simp only [List.forall_mem_cons]
          exact ⟨admits_same hs, admits_token h.2, fun _ hp => (by cases hp)⟩
        rw [haccept, hstatus "assessed" (by decide), hstatus "blocked" (by decide)]
        rfl
      · cases h

theorem divergenceReview_admits {value : Option Value}
    (h : assertDivergenceReview value = .ok ()) : divergenceReviewSchema.Admits value := by
  simp only [assertDivergenceReview, shape, bind_eq_ok, exists_unit_eq_ok, exactShape_eq_ok,
    assertEnum_eq_ok] at h
  obtain ⟨hkeys, hclassification, hreview⟩ := h
  apply admits_hasKeys hkeys
  simp only [List.forall_mem_cons]
  exact ⟨admits_member hclassification, admits_token hreview, fun _ hp => (by cases hp)⟩

theorem label_admits {candidates : List Value} {labeled labeled' : List (Option Value)}
    {label : Value} (h : assertLabel candidates labeled label = .ok labeled') :
    labelSchema.valid label = true ∧ labeled'.length = labeled.length + 1 := by
  simp only [assertLabel, shape, bind_eq_ok, exists_unit_eq_ok, whenPresent_eq_ok,
    rejectIf_eq_ok, okOr_eq_ok, require_eq_ok, exists_const, Except.ok.injEq] at h
  obtain ⟨hkeys, hid, hdigest, houtcome, hreview, -, _, -, -, rfl⟩ := h
  refine ⟨?_, by rw [List.length_append, List.length_singleton]⟩
  cases label with
  | null | bool | number | string | array => cases hkeys
  | object fields =>
    simp only [exactShape, bind_eq_ok, rejectIf_eq_ok, exists_const, not_exists, not_and,
      not_not] at hkeys
    apply valid_object_iff.mpr
    refine ⟨hkeys.1, hkeys.2, ?_⟩
    simp only [List.forall_mem_cons]
    refine ⟨admits_token hid, admits_digest hdigest, expectedOutcome_admits houtcome, ?_,
      fun _ hp => (by cases hp)⟩
    intro v hv
    have hok := hreview (by rw [hv]; exact Option.some_ne_none v)
    exact divergenceReview_admits hok v hv

/-- The labels that pass are valid, and there are as many as identifiers with a label. -/
theorem foldlM_labels {candidates labels : List Value} {labeled out : List (Option Value)}
    (h : labels.foldlM (assertLabel candidates) labeled = .ok out) :
    (∀ label ∈ labels, labelSchema.valid label = true)
      ∧ out.length = labeled.length + labels.length := by
  induction labels generalizing labeled with
  | nil =>
    rw [List.foldlM_nil, pure_eq_ok] at h
    subst h
    exact ⟨fun _ hl => (by cases hl), rfl⟩
  | cons label labels ih =>
    rw [List.foldlM_cons, bind_eq_ok] at h
    obtain ⟨labeled', hlabel, hrest⟩ := h
    obtain ⟨hvalid, hlength⟩ := label_admits hlabel
    obtain ⟨hall, hout⟩ := ih hrest
    refine ⟨List.forall_mem_cons.mpr ⟨hvalid, hall⟩, ?_⟩
    rw [hout, hlength, List.length_cons]
    omega

theorem labelSet_admits {labelSet intakeId : Option Value} {candidates : List Value}
    {exportedAt verificationTime : Nat} (hintake : tokenSchema.Admits intakeId)
    (hmin : 1 ≤ candidates.length) (hmax : candidates.length ≤ 1000)
    (h : assertLabelSet labelSet intakeId candidates exportedAt verificationTime = .ok ()) :
    labelSetSchema.Admits labelSet := by
  simp only [assertLabelSet, shape, bind_eq_ok, exists_unit_eq_ok, exactShape_eq_ok,
    require_eq_ok, rejectIf_eq_ok, exists_const] at h
  obtain ⟨hkeys, hversion, hreview, htime, -, hlabels⟩ := h
  have hlist : (Schema.array labelSchema 1 (some 1000) false).Admits
      (field labelSet "labels") := by
    split at hlabels
    · next labels heq =>
      rw [heq]
      simp only [bind_eq_ok, require_eq_ok] at hlabels
      obtain ⟨labeled, hfold, hcount, -⟩ := hlabels
      obtain ⟨hvalid, hlength⟩ := foldlM_labels hfold
      rw [List.length_nil, Nat.zero_add, hcount] at hlength
      apply admits_array
      · omega
      · rintro n ⟨⟩
        omega
      · exact fun hfalse => (by cases hfalse)
      · exact hvalid
    · cases hlabels
  apply admits_hasKeys hkeys
  simp only [List.forall_mem_cons]
  refine ⟨admits_same hversion.1, ?_, admits_token hreview, admits_positive htime, hlist,
    fun _ hp => (by cases hp)⟩
  rw [strictEqual_eq_true hversion.2]
  exact hintake

section Bundle

variable [Crypto]

/-- A candidate that passes is valid exactly when the identifiers of its envelope are texts. -/
theorem candidate_valid_iff {exportedAt : Nat} {before after : List Value} {candidate : Value}
    (h : assertCandidate exportedAt before candidate = .ok after) :
    (candidateSchema.valid candidate = true
        ↔ IdentifiersAreTexts (field (some candidate) "replay_envelope"))
      ∧ after.length = before.length + 1 := by
  simp only [assertCandidate, shape, bind_eq_ok, exists_unit_eq_ok, exactShape_eq_ok,
    require_eq_ok, rejectIf_eq_ok, exists_const, Except.ok.injEq] at h
  obtain ⟨hkeys, hid, hlineage, hcaptured, hdigest, -, -, -, henvelope, -, rfl⟩ := h
  refine ⟨?_, by rw [List.length_append, List.length_singleton]⟩
  obtain ⟨envelope, hfield⟩ := hkeys.field (show ("replay_envelope" : Text) ∈ _ by decide)
  rw [hfield, Option.map_some, Option.getD_some] at henvelope
  have hiff := (assertReplayEnvelope_eq_ok.mp henvelope).admits_iff
  rw [hfield, ← hiff]
  constructor
  · intro hvalid
    exact admits_of_object hvalid
      (show (("replay_envelope" : Text), replayEnvelopeSchema) ∈ _ by simp) _ hfield
  · intro hvalid
    have hreplay : replayEnvelopeSchema.Admits (field (some candidate) "replay_envelope") := by
      rw [hfield]
      rintro v ⟨⟩
      exact hvalid
    refine admits_hasKeys hkeys ?_ candidate rfl
    simp only [List.forall_mem_cons]
    exact ⟨admits_token hid, admits_digest hlineage, admits_positive hcaptured, hreplay,
      admits_digest hdigest, fun _ hp => (by cases hp)⟩

theorem foldlM_candidates {exportedAt : Nat} {entries before after : List Value}
    (h : entries.foldlM (assertCandidate exportedAt) before = .ok after) :
    (∀ candidate ∈ entries, candidateSchema.valid candidate = true
        ↔ IdentifiersAreTexts (field (some candidate) "replay_envelope"))
      ∧ after.length = before.length + entries.length := by
  induction entries generalizing before with
  | nil =>
    rw [List.foldlM_nil, pure_eq_ok] at h
    subst h
    exact ⟨fun _ hc => (by cases hc), rfl⟩
  | cons candidate entries ih =>
    rw [List.foldlM_cons, bind_eq_ok] at h
    obtain ⟨before', hcandidate, hrest⟩ := h
    obtain ⟨hvalid, hlength⟩ := candidate_valid_iff hcandidate
    obtain ⟨hall, hafter⟩ := ih hrest
    refine ⟨List.forall_mem_cons.mpr ⟨hvalid, hall⟩, ?_⟩
    rw [hafter, hlength, List.length_cons]
    omega

/-- **When a bundle that is accepted is valid**: exactly when the identifiers of every envelope are
texts. -/
theorem validateBundle_valid_iff {bundle : Value} {verificationTimeMs : Nat}
    {summary : BundleSummary} (h : validateBundle bundle verificationTimeMs = .ok summary) :
    bundleSchema.valid bundle = true ↔
      ∀ candidates, field (some bundle) "candidates" = some (.array candidates) →
        ∀ candidate ∈ candidates,
          IdentifiersAreTexts (field (some candidate) "replay_envelope") := by
  simp only [validateBundle, shape, bind_eq_ok, exists_unit_eq_ok, exactShape_eq_ok,
    require_eq_ok, rejectIf_eq_ok, assertEnum_eq_ok, exists_const] at h
  obtain ⟨hkeys, hschema, hversion, hintake, hpurpose, hclass, hsystem, hexport, hexported, -, -,
    happroval, hretention, hredaction, hcandidates⟩ := h
  split at hcandidates
  case h_2 => cases hcandidates
  case h_1 entries hentries =>
    simp only [bind_eq_ok, exists_unit_eq_ok, require_eq_ok, rejectIf_eq_ok, exists_const,
      Except.ok.injEq] at hcandidates
    obtain ⟨hne, hmax, candidates, hfold, hlabels, hdigest, -, -⟩ := hcandidates
    obtain ⟨hiff, hlength⟩ := foldlM_candidates hfold
    rw [List.length_nil, Nat.zero_add] at hlength
    have hmin : 1 ≤ entries.length := List.length_pos_of_ne_nil hne
    replace hmax : entries.length ≤ 1000 := not_lt.mp hmax
    constructor
    · intro hvalid candidates' hfield candidate hcandidate
      rw [hentries] at hfield
      cases hfield
      have harray := admits_of_object hvalid
        (show (("candidates" : Text), Schema.array candidateSchema 1 (some 1000) false) ∈ _ by simp)
        _ hentries
      exact (hiff candidate hcandidate).mp (valid_of_array harray candidate hcandidate)
    · intro htexts
      have hlist : (Schema.array candidateSchema 1 (some 1000) false).Admits
          (field (some bundle) "candidates") := by
        rw [hentries]
        apply admits_array hmin
        · rintro n ⟨⟩
          exact hmax
        · exact fun hfalse => (by cases hfalse)
        · exact fun candidate hcandidate =>
            (hiff candidate hcandidate).mpr (htexts entries hentries candidate hcandidate)
      refine admits_hasKeys hkeys ?_ bundle rfl
      simp only [List.forall_mem_cons]
      exact ⟨admits_same (hasText_iff.mp hschema), admits_same hversion, admits_token hintake,
        admits_same (hasText_iff.mp hpurpose), admits_member hclass, admits_token hsystem,
        admits_digest hexport, admits_positive hexported, approval_admits happroval,
        retention_admits hretention, redaction_admits hredaction, hlist,
        labelSet_admits (admits_token hintake) (hlength ▸ hmin) (hlength ▸ hmax) hlabels,
        admits_digest hdigest, fun _ hp => (by cases hp)⟩

end Bundle

end Valid

/-! ### The fixture -/

namespace Sample

/-- The envelope of the fixture, with the identifier of its event. -/
def envelope (eventId : Value) : Value :=
  .object [
    ("observation_ref", .string "shadow-observation:supplier-001"),
    ("assessment_request", .object [
      ("input", .object [
        ("event_id", eventId), ("run_id", .string "11111111-1111-4111-8111-111111111111"),
        ("turn_id", .string "22222222-2222-4222-8222-222222222222"),
        ("source_actor", .string "user"), ("actor_ref", .string "user:user-001"),
        ("primary_semantic_role", .string "intent"),
        ("semantic_roles", .array [.string "intent", .string "command"]),
        ("content_ref", .string "content:supplier-comparison-request"),
        ("content_digest",
          .string "sha256:4ab7f9b60d9fa79c1888d4d4bd2db34c97331e58a2fb40883af5c1a707f77a62"),
        ("correlation_ref", .string "correlation:supplier-run-001"),
        ("logical_time", .number (.posInt 100)), ("schema_version", .number (.posInt 1))]),
      ("fast_path_facts", .object [
        ("deterministic_command_match", .bool false),
        ("required_parameters_complete", .bool true), ("ambiguity_present", .bool true),
        ("authority_context_valid", .bool true), ("policy_allows_request", .bool true),
        ("impact_level", .string "high"), ("reversible", .bool true),
        ("depends_on_human_model", .bool false)]),
      ("decision_facts", .object [
        ("multiple_viable_options", .bool true), ("material_tradeoffs", .bool true),
        ("evidence_conflict", .bool false), ("impact_level", .string "high"),
        ("irreversible_result", .bool false), ("affects_long_term_goal", .bool true),
        ("host_user_interest_conflict", .bool false), ("simple_lookup", .bool false),
        ("unique_legal_operation", .bool false), ("user_choice_already_explicit", .bool false)]),
      ("coordination_facts", .object [
        ("response_planned", .bool true), ("action_planned", .bool true),
        ("explicit_confirmation_requested", .bool true), ("authorization_required", .bool true),
        ("action_is_read_only", .bool false), ("long_running", .bool false),
        ("stream_progress", .bool false), ("safe_to_parallelize", .bool false)])]),
    ("host_projection", .object [
      ("coordination_mode", .string "respond_then_confirm_then_act"),
      ("action_posture", .string "waiting_authorization"),
      ("next_run_state", .string "waiting_authorization")])]

/-- The fixture, with the identifier of the event and the digests.  Its paths are sorted here. -/
def bundle (eventId : Value) (candidateDigest bundleDigest : Text) : Value :=
  .object [
    ("schema_id", .string "idr.aegis.representative-corpus-intake.v1"),
    ("schema_version", .number (.posInt 1)),
    ("intake_id", .string "intake:synthetic-control:v1"),
    ("purpose", .string "offline_shadow_evaluation"),
    ("source_classification", .string "synthetic_control"),
    ("source_system_ref", .string "aegis:synthetic-control-fixture"),
    ("source_export_digest",
      .string "sha256:940be5f1621ce7fd84bdc4eb4c1e7685255ce6b1931bae79c4662327a1c75110"),
    ("exported_at_ms", .number (.posInt 1000000)),
    ("approval", .object [
      ("status", .string "approved"),
      ("review_ref", .string "privacy-approval:synthetic-control:v1"),
      ("valid_from_ms", .number (.posInt 900000)), ("valid_until_ms", .number (.posInt 1500000)),
      ("allows_representative_export", .bool true), ("allows_raw_conversation", .bool false),
      ("allows_credentials", .bool false), ("allows_human_model", .bool false),
      ("allows_personality_inference", .bool false)]),
    ("retention", .object [
      ("policy_ref", .string "retention:offline-shadow:v1"),
      ("delete_after_ms", .number (.posInt 2000000)), ("deletion_receipt_required", .bool true),
      ("raw_source_retained", .bool false)]),
    ("redaction", .object [
      ("profile_id", .string "idr-aegis-structured-facts-only-v1"), ("status", .string "passed"),
      ("review_ref", .string "redaction-review:synthetic-control:v1"),
      ("allowlisted_paths", keyList replayLeaves), ("findings", .number (.posInt 0))]),
    ("candidates", .array [.object [
      ("candidate_id", .string "candidate:synthetic-control:001"),
      ("lineage_digest",
        .string "sha256:5d4ce6ed4f532d41daecc1f84f29a0cdfb042f027593424db1d4262943ba26fd"),
      ("captured_at_ms", .number (.posInt 950000)), ("replay_envelope", envelope eventId),
      ("candidate_digest", .string candidateDigest)]]),
    ("label_set", .object [
      ("schema_version", .number (.posInt 1)),
      ("intake_id", .string "intake:synthetic-control:v1"),
      ("review_ref", .string "human-review:synthetic-control:v1"),
      ("reviewed_at_ms", .number (.posInt 1100000)),
      ("labels", .array [.object [
        ("candidate_id", .string "candidate:synthetic-control:001"),
        ("candidate_digest", .string candidateDigest),
        ("expected_outcome", .object [
          ("status", .string "assessed")])]])]),
    ("bundle_digest", .string bundleDigest)]

def eventId : Value := .string "2d8ec8e1-43c8-4c19-a4b4-e2d0af50d5eb"

/-- SHA-256 of the two preimages of a bundle. -/
@[reducible]
def crypto (candidateDigest bundleDigest : Nat) : Crypto :=
  Idr.Sample.domainCrypto [(candidateDomain, candidateDigest), (bundleDomain, bundleDigest)]

/-- The fixture. -/
def golden : Value := bundle eventId
  "sha256:cb046a87e6c1f404218e95e7ec369d1531005619a7f6527a9cbc13c907f458bb"
  "sha256:ae292d0f4217b81f777f4c2caf7abf73c4936cafa74d852fdca01f460cf4118c"

/-- The fixture with a list of one identifier in the place of the identifier of the event. -/
def listed : Value := bundle (.array [eventId])
  "sha256:388349ad47c46e5381ee0f99a378f1cf9fdd2b42f10bb0d772d8ee455e7d2442"
  "sha256:46b6e0207d20dadda624aab74559fd4e3de71a0a8b4de7ce72948b22967d44f0"

def goldenSummary : BundleSummary where
  candidateCount := 1
  candidateDigests := [some (.string
    "sha256:cb046a87e6c1f404218e95e7ec369d1531005619a7f6527a9cbc13c907f458bb")]
  bundleDigest := some (.string
    "sha256:ae292d0f4217b81f777f4c2caf7abf73c4936cafa74d852fdca01f460cf4118c")

def listedSummary : BundleSummary where
  candidateCount := 1
  candidateDigests := [some (.string
    "sha256:388349ad47c46e5381ee0f99a378f1cf9fdd2b42f10bb0d772d8ee455e7d2442")]
  bundleDigest := some (.string
    "sha256:46b6e0207d20dadda624aab74559fd4e3de71a0a8b4de7ce72948b22967d44f0")

theorem both_accepted :
    @validateBundle
      (crypto 0xcb046a87e6c1f404218e95e7ec369d1531005619a7f6527a9cbc13c907f458bb
        0xae292d0f4217b81f777f4c2caf7abf73c4936cafa74d852fdca01f460cf4118c)
      golden 1200000 = .ok goldenSummary
    ∧ @validateBundle
      (crypto 0x388349ad47c46e5381ee0f99a378f1cf9fdd2b42f10bb0d772d8ee455e7d2442
        0x46b6e0207d20dadda624aab74559fd4e3de71a0a8b4de7ce72948b22967d44f0)
      listed 1200000 = .ok listedSummary
    ∧ @assertCanonicalValue Idr.Sample.plainHost listed = .ok ()
    ∧ bundleSchema.valid listed = false := by
  decide +kernel

end Sample

/-- The sample, which is the fixture with its paths in order, is valid. -/
theorem validateBundle_valid_golden : bundleSchema.valid Sample.golden = true := by
  apply (@validateBundle_valid_iff (Sample.crypto _ _) _ _ _ Sample.both_accepted.1).mpr
  rintro _ ⟨⟩ candidate hcandidate
  rw [List.mem_singleton] at hcandidate
  subst hcandidate
  intro key hkey
  simp only [identifiers, List.mem_cons, List.not_mem_nil, or_false] at hkey
  rcases hkey with rfl | rfl | rfl
  all_goals exact ⟨_, rfl⟩

/-- **A list of one identifier is accepted as an identifier**, and the schema does not allow it. -/
theorem bundle_listed_accepted :
    @validateBundle
        (Sample.crypto 0x388349ad47c46e5381ee0f99a378f1cf9fdd2b42f10bb0d772d8ee455e7d2442
          0x46b6e0207d20dadda624aab74559fd4e3de71a0a8b4de7ce72948b22967d44f0)
        Sample.listed 1200000 = .ok Sample.listedSummary
      ∧ @assertCanonicalValue Idr.Sample.plainHost Sample.listed = .ok ()
      ∧ bundleSchema.valid Sample.listed = false :=
  Sample.both_accepted.2

end Intake

end Idr
