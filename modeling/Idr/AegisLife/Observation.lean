/-
Idr/AegisLife/Observation.lean

The pack that projects structured observations.

An observation carries a receipt and five assertions, each with facts of one
family.  What is accepted is projected to a replay envelope: fields of the
receipt and the facts, moved under other names and without the rest.

The pack that takes a corpus in checks envelopes with other patterns, other
lists of forbidden names and its own list of leaves.  Leaf by leaf, what one
pack lets out the other lets in (`validateObservation_projection`).  And since
the canonical text of an observation determines it, so does its digest.
-/
import Idr.AegisLife.Intake
import Idr.Protocol.Determines

namespace Idr

namespace Observation

/-! ### Constants -/

def receiptDomain : Text := "idr:aegis:structured-observation-receipt:v1"

def assertionDomain (name : Text) : Text := "idr:aegis:structured-observation-assertion:v1:" ++ name

def observationDomain : Text := "idr:aegis:structured-observation:v1"

def projectionDomain : Text := "idr:aegis:structured-observation-projection:v1"

def zeroDigest : Text := "sha256:" ++ ⟨List.replicate 64 48⟩

def derivationClasses : List Text := ["deterministic", "governed_model", "human_reviewed", "mixed"]

def lifecycleStates : List Text := ["draft", "sealed", "superseded", "revoked", "expired"]

/-- The kind of producer that each family is bound to. -/
def familyBindings : List (Text × Text) := [
  ("semantic_roles", "semantic_classifier"),
  ("fast_path_facts", "command_policy_classifier"),
  ("decision_facts", "decision_context_classifier"),
  ("coordination_facts", "coordination_planner"),
  ("host_projection", "aegis_host_decision_runtime")]

def authorityFields : List Text := ["action", "action_contract", "authority_context",
  "authorization", "credential", "credentials", "dispatch", "dispatch_nonce", "execution_permit",
  "provider_payload", "production_state"]

def prohibitedFields : List Text := ["api_key", "content", "conversation", "conversation_text",
  "embedding", "error_text", "goal_text", "graph_memory", "human_model", "message",
  "message_text", "output_text", "password", "personality", "prompt", "psychological_profile",
  "raw_text", "secret", "token", "vector"]

def lifecycleKeys : List Text := ["status", "valid_from_logical_time", "valid_until_logical_time",
  "supersedes_observation_digest", "revocation_ref"]

def receiptKeys : List Text := ["event_id", "run_id", "turn_id", "input_receipt_id",
  "source_actor", "actor_ref", "content_ref", "content_digest", "correlation_ref",
  "logical_time", "schema_version", "receipt_digest"]

def producerKeys : List Text := ["producer_ref", "producer_kind", "producer_version",
  "policy_ref", "derivation_class", "idr_output_used"]

def assertionKeys : List Text := ["schema_version", "family", "producer",
  "source_receipt_digest", "produced_at_logical_time", "facts", "assertion_digest"]

def observationKeys : List Text := ["schema_id", "schema_version", "observation_ref",
  "source_system_ref", "lifecycle", "receipt", "assertions", "observation_digest"]

/-! ### Helper functions -/

/-- The pattern `^[A-Za-z0-9_.:-]{1,512}$`. -/
def isRef : Text → Bool := matchesClass isTokenByte 1 512

/-- `exactShape`. -/
def shape (value : Option Value) (keys : List Text) : Except GateError Unit :=
  exactShape "INVALID_SHAPE" value keys keys

/-- `scanForbidden`. -/
def scanForbidden : Value → Except GateError Unit :=
  scanNames fun key => do
    rejectIf (key ∈ authorityFields) (deny "AUTHORITY_FIELD_INJECTION")
    rejectIf (key ∈ prohibitedFields) (deny "PROHIBITED_DATA_FIELD")

/-- `assertRef`. -/
def assertRef : Option Value → Except GateError Unit := assertPattern isRef "INVALID_REFERENCE"

/-- `assertVersion`. -/
def assertVersion : Option Value → Except GateError Unit :=
  assertPattern (matchesClass isTokenByte 1 128) "INVALID_VERSION"

/-- `assertUuid`. -/
def assertUuid : Option Value → Except GateError Unit := assertPattern isUuid "INVALID_UUID"

/-- `assertPositiveInteger`. -/
def assertPositiveInteger : Option Value → Except GateError Unit :=
  assertInteger 1 "INVALID_LOGICAL_TIME"

/-! ### The parts of an observation -/

/-- `validateLifecycle`. -/
def validateLifecycle (lifecycle : Option Value) : Except GateError Unit := do
  shape lifecycle lifecycleKeys
  assertEnum (field lifecycle "status") lifecycleStates "INVALID_LIFECYCLE_STATE"
  assertPositiveInteger (field lifecycle "valid_from_logical_time")
  assertPositiveInteger (field lifecycle "valid_until_logical_time")
  rejectIf (number (field lifecycle "valid_until_logical_time")
    ≤ number (field lifecycle "valid_from_logical_time")) (deny "INVALID_VALIDITY_WINDOW")
  let supersedes := field lifecycle "supersedes_observation_digest"
  let revocation := field lifecycle "revocation_ref"
  if supersedes = some .null then .ok () else assertDigest supersedes
  if revocation = some .null then .ok () else assertRef revocation
  require (hasText (field lifecycle "status") "sealed" = true) (deny "OBSERVATION_NOT_SEALED")
  rejectIf (supersedes ≠ some .null ∨ revocation ≠ some .null)
    (deny "SEALED_STATE_CONTRADICTION")

/-- Whether a time is outside of the validity of an observation. -/
def outside (lifecycle time : Option Value) : Prop :=
  number time < number (field lifecycle "valid_from_logical_time")
    ∨ number (field lifecycle "valid_until_logical_time") ≤ number time

instance (lifecycle time : Option Value) : Decidable (outside lifecycle time) :=
  inferInstanceAs (Decidable (_ ∨ _))

section Hash

variable [Crypto]

/-- `validateReceipt`. -/
def validateReceipt (receipt lifecycle : Option Value) : Except GateError Unit := do
  shape receipt receiptKeys
  let ids : List Text := ["event_id", "run_id", "turn_id", "input_receipt_id"]
  ids.forM fun key => assertUuid (field receipt key)
  require ((ids.map (field receipt)).Nodup) (deny "IDENTITY_COLLISION")
  assertEnum (field receipt "source_actor") sourceActors "INVALID_ENUM"
  assertRef (field receipt "actor_ref")
  assertRef (field receipt "content_ref")
  assertDigest (field receipt "content_digest")
  assertRef (field receipt "correlation_ref")
  assertPositiveInteger (field receipt "logical_time")
  require (field receipt "schema_version" = some (.number (.posInt 1)))
    (deny "UNSUPPORTED_SCHEMA_VERSION")
  assertDigest (field receipt "receipt_digest")
  rejectIf (outside lifecycle (field receipt "logical_time")) (deny "RECEIPT_OUTSIDE_VALIDITY")
  require (receipt.any (fun value => hasText (field receipt "receipt_digest")
      (domainDigest receiptDomain value "receipt_digest")) = true)
    (deny "RECEIPT_DIGEST_MISMATCH")

/-- `validateProducer`. -/
def validateProducer (producer : Option Value) (expectedKind : Text) : Except GateError Unit := do
  shape producer producerKeys
  assertRef (field producer "producer_ref")
  require (hasText (field producer "producer_kind") expectedKind = true)
    (deny "PRODUCER_KIND_MISMATCH")
  assertVersion (field producer "producer_version")
  assertRef (field producer "policy_ref")
  assertEnum (field producer "derivation_class") derivationClasses "INVALID_DERIVATION_CLASS"
  assertBoolean (field producer "idr_output_used")
  rejectIf (field producer "idr_output_used" = some (.bool true))
    (deny "IDR_CIRCULAR_DERIVATION")

/-- `validateSemanticRoleFacts`. -/
def validateSemanticRoleFacts (facts : Option Value) : Except GateError Unit := do
  shape facts ["primary_semantic_role", "semantic_roles"]
  assertEnum (field facts "primary_semantic_role") semanticRoles "INVALID_ENUM"
  match field facts "semantic_roles" with
  | some (.array roles) => do
    rejectIf (roles = [] ∨ 16 < roles.length) (deny "INVALID_SEMANTIC_ROLES")
    roles.forM fun role => assertEnum (some role) semanticRoles "INVALID_ENUM"
    require (roles.Nodup) (deny "INVALID_SEMANTIC_ROLES")
    require ((field facts "primary_semantic_role").any (roles.contains ·) = true)
      (deny "PRIMARY_ROLE_OMITTED")
  | _ => .error (deny "INVALID_SEMANTIC_ROLES")

/-- `FACT_VALIDATORS`. -/
def factValidators : List (Text × (Option Value → Except GateError Unit)) := [
  ("semantic_roles", validateSemanticRoleFacts),
  ("fast_path_facts", assertFastPathFacts),
  ("decision_facts", assertDecisionFacts),
  ("coordination_facts", assertCoordinationFacts),
  ("host_projection", assertHostProjection)]

/-- `validateAssertion`, of a family with its kind of producer. -/
def validateAssertion (family : Text × Text) (assertion receipt lifecycle : Option Value) :
    Except GateError Unit := do
  shape assertion assertionKeys
  require (field assertion "schema_version" = some (.number (.posInt 1)))
    (deny "UNSUPPORTED_SCHEMA_VERSION")
  require (hasText (field assertion "family") family.1 = true) (deny "ASSERTION_FAMILY_MISMATCH")
  validateProducer (field assertion "producer") family.2
  assertDigest (field assertion "source_receipt_digest")
  require (strictEqual (field assertion "source_receipt_digest")
      (field receipt "receipt_digest") = true)
    (deny "ASSERTION_RECEIPT_MISMATCH")
  assertPositiveInteger (field assertion "produced_at_logical_time")
  rejectIf (number (field assertion "produced_at_logical_time")
    < number (field receipt "logical_time")) (deny "ASSERTION_PRECEDES_RECEIPT")
  rejectIf (outside lifecycle (field assertion "produced_at_logical_time"))
    (deny "ASSERTION_OUTSIDE_VALIDITY")
  ((factValidators.lookup family.1).getD fun _ => .error .typeError) (field assertion "facts")
  assertDigest (field assertion "assertion_digest")
  require (assertion.any (fun value => hasText (field assertion "assertion_digest")
      (domainDigest (assertionDomain family.1) value "assertion_digest")) = true)
    (deny "ASSERTION_DIGEST_MISMATCH")

/-! ### The projection -/

/-- An object with those of the properties that are there. -/
def record (entries : List (Text × Option Value)) : Value :=
  .object (entries.filterMap fun e => e.2.map (e.1, ·))

/-- The facts of a family. -/
def factsOf (observation : Value) (family : Text) : Option Value :=
  field (field (field (some observation) "assertions") family) "facts"

/-- The input of the assessment request. -/
def inputEntries (observation : Value) : List (Text × Option Value) :=
  let receipt := field (some observation) "receipt"
  let semantic := factsOf observation "semantic_roles"
  [("event_id", field receipt "event_id"),
    ("run_id", field receipt "run_id"),
    ("turn_id", field receipt "turn_id"),
    ("source_actor", field receipt "source_actor"),
    ("actor_ref", field receipt "actor_ref"),
    ("primary_semantic_role", field semantic "primary_semantic_role"),
    ("semantic_roles", field semantic "semantic_roles"),
    ("content_ref", field receipt "content_ref"),
    ("content_digest", field receipt "content_digest"),
    ("correlation_ref", field receipt "correlation_ref"),
    ("logical_time", field receipt "logical_time"),
    ("schema_version", field receipt "schema_version")]

/-- The assessment request. -/
def requestEntries (observation : Value) : List (Text × Option Value) := [
  ("input", some (record (inputEntries observation))),
  ("fast_path_facts", factsOf observation "fast_path_facts"),
  ("decision_facts", factsOf observation "decision_facts"),
  ("coordination_facts", factsOf observation "coordination_facts")]

def projectionEntries (observation : Value) : List (Text × Option Value) := [
  ("observation_ref", field (some observation) "observation_ref"),
  ("assessment_request", some (record (requestEntries observation))),
  ("host_projection", factsOf observation "host_projection")]

/-- `projectObservation`. -/
def projectObservation (observation : Value) : Value := record (projectionEntries observation)

/-- What `validateObservation` returns. -/
structure ObservationResult where
  receiptDigest : Option Value
  assertionDigests : List (Text × Option Value)
  observationDigest : Option Value
  projectionDigest : Text
  projectedLeafCount : Nat
  projection : Value
  deriving DecidableEq

/-- The digest of a projection. -/
def projectionDigest (projection : Value) : Text :=
  domainDigest projectionDomain
    (.object [("projection", projection), ("projection_digest", .string zeroDigest)])
    "projection_digest"

/-- The properties of an object. -/
def entriesOf (value : Option Value) : List (Text × Value) :=
  match value with
  | some (.object fields) => fields
  | _ => []

/-- `validateObservation`.  The leaves are compared as texts of lists, which are equal only when the
lists are. -/
def validateObservation [EcmaScript] (observation projectionLogicalTime : Value) :
    Except GateError ObservationResult := do
  assertCanonicalValue observation
  scanForbidden observation
  let value := some observation
  shape value observationKeys
  require (hasText (field value "schema_id") "idr.aegis.structured-observation.v1" = true)
    (deny "SCHEMA_ID_MISMATCH")
  require (field value "schema_version" = some (.number (.posInt 1)))
    (deny "UNSUPPORTED_SCHEMA_VERSION")
  assertRef (field value "observation_ref")
  assertRef (field value "source_system_ref")
  let lifecycle := field value "lifecycle"
  let receipt := field value "receipt"
  let assertions := field value "assertions"
  validateLifecycle lifecycle
  validateReceipt receipt lifecycle
  shape assertions (familyBindings.map Prod.fst)
  familyBindings.forM fun family =>
    validateAssertion family (field assertions family.1) receipt lifecycle
  assertDigest (field value "observation_digest")
  require (hasText (field value "observation_digest")
      (domainDigest observationDomain observation "observation_digest") = true)
    (deny "OBSERVATION_DIGEST_MISMATCH")
  assertPositiveInteger (some projectionLogicalTime)
  rejectIf (outside lifecycle (some projectionLogicalTime)) (deny "OBSERVATION_NOT_CURRENT")
  let projection := projectObservation observation
  let leaves := sortKeys (collectLeaves "" projection)
  require (leaves = replayLeaves) (deny "PROJECTION_ALLOWLIST_MISMATCH")
  .ok {
    receiptDigest := field receipt "receipt_digest"
    assertionDigests := (entriesOf assertions).map fun entry =>
      (entry.1, field (some entry.2) "assertion_digest")
    observationDigest := field value "observation_digest"
    projectionDigest := projectionDigest projection
    projectedLeafCount := leaves.length
    projection }

end Hash

/-! ### What is accepted -/

theorem validateSemanticRoleFacts_eq_ok {facts : Option Value}
    (h : validateSemanticRoleFacts facts = .ok ()) :
    RolesOk (field facts "semantic_roles") (field facts "primary_semantic_role") := by
  simp only [validateSemanticRoleFacts, bind_eq_ok, exists_unit_eq_ok] at h
  obtain ⟨-, -, h⟩ := h
  split at h
  case h_2 => cases h
  case h_1 roles hroles =>
    simp only [bind_eq_ok, rejectIf_eq_ok, require_eq_ok, forM_eq_ok, assertEnum_eq_ok,
      exists_const, Option.some.injEq] at h
    obtain ⟨hlength, hall, hnodup, hprimary⟩ := h
    obtain ⟨texts, rfl, htexts⟩ := exists_texts hall
    obtain ⟨p, hp, hmem⟩ := (Option.any_eq_true _ _).mp hprimary
    rw [List.contains_iff_mem, List.mem_map] at hmem
    obtain ⟨t, ht, rfl⟩ := hmem
    refine ⟨texts, hroles, ?_, hnodup.of_map, htexts, t, ht, hp⟩
    exact fun hnil => hlength (.inl (by rw [hnil]; rfl))

section Receipt

variable [Crypto]

/-- What an accepted receipt gives to a projection. -/
structure ReceiptOk (receipt : Option Value) : Prop where
  ids : ∀ key ∈ Intake.identifiers, ∃ s, field receipt key = some (.string s) ∧ isUuid s = true
  sourceActor : ∃ s ∈ sourceActors, field receipt "source_actor" = some (.string s)
  refs : ∀ key ∈ (["actor_ref", "content_ref", "correlation_ref"] : List Text),
    ∃ s, field receipt key = some (.string s) ∧ isRef s = true
  digest : ∃ s, field receipt "content_digest" = some (.string s) ∧ isDigest s = true
  time : ∃ n, IsInteger (field receipt "logical_time") n ∧ 1 ≤ n ∧ n ≤ idrMaxSafeWireIntegerV1
  version : field receipt "schema_version" = some (.number (.posInt 1))

theorem validateReceipt_eq_ok {receipt lifecycle : Option Value}
    (h : validateReceipt receipt lifecycle = .ok ()) : ReceiptOk receipt := by
  simp only [validateReceipt, bind_eq_ok, exists_unit_eq_ok, forM_eq_ok, assertUuid, assertRef,
    assertDigest, assertPositiveInteger, assertPattern_eq_ok, assertEnum_eq_ok,
    assertInteger_eq_ok, require_eq_ok, exists_const] at h
  obtain ⟨-, hids, -, hactor, href, hcontent, hdigest, hcorrelation, htime, hversion, -⟩ := h
  refine ⟨?_, hactor, ?_, hdigest, htime, hversion⟩
  · intro key hkey
    exact hids key (List.mem_append_left [("input_receipt_id" : Text)] hkey)
  · intro key hkey
    simp only [List.mem_cons, List.not_mem_nil, or_false] at hkey
    rcases hkey with rfl | rfl | rfl
    exacts [href, hcontent, hcorrelation]

/-- The facts of an accepted assertion are those of its family. -/
theorem validateAssertion_eq_ok {family : Text × Text} {assertion receipt lifecycle : Option Value}
    (h : validateAssertion family assertion receipt lifecycle = .ok ())
    {validate : Option Value → Except GateError Unit}
    (hfamily : factValidators.lookup family.1 = some validate) :
    validate (field assertion "facts") = .ok () := by
  simp only [validateAssertion, bind_eq_ok, exists_unit_eq_ok, require_eq_ok, rejectIf_eq_ok,
    exists_const, hfamily, Option.getD_some] at h
  exact h.2.2.2.2.2.2.2.2.2.1

/-- **What an accepted observation gives to its projection.** -/
structure ObservationOk (observation : Value) : Prop where
  reference : ∃ s, field (some observation) "observation_ref" = some (.string s) ∧ isRef s = true
  receipt : ReceiptOk (field (some observation) "receipt")
  roles : RolesOk (field (factsOf observation "semantic_roles") "semantic_roles")
    (field (factsOf observation "semantic_roles") "primary_semantic_role")
  fastPath : FactsOk fastPathKeys fastPathBooleans [("impact_level", impactLevels)]
    (factsOf observation "fast_path_facts")
  decision : FactsOk decisionKeys decisionBooleans [("impact_level", impactLevels)]
    (factsOf observation "decision_facts")
  coordination : FactsOk coordinationKeys coordinationKeys []
    (factsOf observation "coordination_facts")
  projection : FactsOk hostProjectionKeys [] [("coordination_mode", coordinationModes),
    ("action_posture", actionPostures), ("next_run_state", runStates)]
    (factsOf observation "host_projection")

variable [EcmaScript]

/-- What `validateObservation` establishes and returns. -/
theorem validateObservation_eq_ok {observation time : Value} {result : ObservationResult}
    (h : validateObservation observation time = .ok result) :
    ObservationOk observation
      ∧ assertCanonicalValue observation = .ok ()
      ∧ HasKeys (some observation) observationKeys
      ∧ sortKeys (collectLeaves "" (projectObservation observation)) = replayLeaves
      ∧ result.projection = projectObservation observation
      ∧ result.projectionDigest = projectionDigest (projectObservation observation)
      ∧ result.observationDigest
        = some (.string (domainDigest observationDomain observation "observation_digest")) := by
  simp only [validateObservation, bind_eq_ok, exists_unit_eq_ok, require_eq_ok, rejectIf_eq_ok,
    forM_eq_ok, exists_const, Except.ok.injEq] at h
  obtain ⟨hcanonical, -, hkeys, -, -, href, -, -, hreceipt, -, hassertions, -, hdigest, -, -,
    hleaves, rfl⟩ := h
  have hfacts : ∀ family ∈ familyBindings, ∀ validate,
      factValidators.lookup family.1 = some validate →
      validate (factsOf observation family.1) = .ok () :=
    fun family hfamily validate hvalidate =>
      validateAssertion_eq_ok (hassertions family hfamily) hvalidate
  refine ⟨?_, hcanonical, exactShape_eq_ok.mp hkeys, hleaves, rfl, rfl, hasText_iff.mp hdigest⟩
  exact {
    reference := assertPattern_eq_ok.mp href
    receipt := validateReceipt_eq_ok hreceipt
    roles := validateSemanticRoleFacts_eq_ok (hfacts ("semantic_roles", "semantic_classifier")
      (by decide) _ rfl)
    fastPath := assertFacts_eq_ok.mp (hfacts ("fast_path_facts", "command_policy_classifier")
      (by decide) _ rfl)
    decision := assertFacts_eq_ok.mp (hfacts ("decision_facts", "decision_context_classifier")
      (by decide) _ rfl)
    coordination := assertFacts_eq_ok.mp (hfacts ("coordination_facts", "coordination_planner")
      (by decide) _ rfl)
    projection := assertFacts_eq_ok.mp (hfacts ("host_projection", "aegis_host_decision_runtime")
      (by decide) _ rfl) }

end Receipt

/-- An object with the allowed properties has the required ones among them. -/
theorem exactShape_of_hasKeys {code : String} {value : Option Value} {keys required : List Text}
    (h : HasKeys value keys) (hsub : ∀ key ∈ required, key ∈ keys) :
    exactShape code value keys required = .ok () := by
  obtain ⟨fields, rfl, hkeys⟩ := h
  simp only [exactShape, bind_eq_ok, rejectIf_eq_ok, exists_const, not_exists, not_and, not_not]
  constructor
  · exact fun f hf => (hkeys f.1).mp (List.mem_map_of_mem hf)
  · exact fun key hkey => (hkeys key).mpr (hsub key hkey)

/-! ### Records -/

section Records

variable {entries : List (Text × Option Value)}

/-- The entries of a record that are there. -/
theorem mem_record {f : Text × Value} :
    f ∈ entries.filterMap (fun e => e.2.map (e.1, ·)) ↔ (f.1, some f.2) ∈ entries := by
  rw [List.mem_filterMap]
  constructor
  · rintro ⟨⟨key, value⟩, he, hf⟩
    obtain ⟨v, rfl, rfl⟩ := Option.map_eq_some_iff.mp hf
    exact he
  · exact fun h => ⟨_, h, rfl⟩

theorem field_record (hnodup : (entries.map Prod.fst).Nodup) {key : Text} {value : Option Value}
    (h : (key, value) ∈ entries) : field (some (record entries)) key = value := by
  show List.lookup key (entries.filterMap fun e => e.2.map (e.1, ·)) = value
  induction entries with
  | nil => cases h
  | cons e entries ih =>
    obtain ⟨k, o⟩ := e
    obtain ⟨hfresh, hrest⟩ := List.nodup_cons.mp hnodup
    rcases List.mem_cons.mp h with heq | hmem
    · cases heq
      cases value with
      | some v => exact List.lookup_cons_self
      | none =>
        -- the key is not in the rest
        rw [List.filterMap_cons_none rfl, List.lookup_eq_none_iff]
        intro f hf
        rw [bne_iff_ne]
        rintro rfl
        exact hfresh (List.mem_map.mpr ⟨_, mem_record.mp hf, rfl⟩)
    · have hne : (key == k) = false := by
        rw [beq_eq_false_iff_ne]
        rintro rfl
        exact hfresh (List.mem_map.mpr ⟨_, hmem, rfl⟩)
      cases o with
      | none =>
        rw [List.filterMap_cons_none rfl]
        exact ih hrest hmem
      | some v =>
        have hcons : List.filterMap (fun e => e.2.map (e.1, ·)) ((k, some v) :: entries)
            = (k, v) :: entries.filterMap fun e => e.2.map (e.1, ·) := rfl
        rw [hcons, List.lookup_cons, hne]
        exact ih hrest hmem

theorem hasKeys_record (hall : ∀ e ∈ entries, ∃ v, e.2 = some v) :
    HasKeys (some (record entries)) (entries.map Prod.fst) := by
  refine ⟨_, rfl, ?_⟩
  intro key
  rw [List.mem_map, List.mem_map]
  constructor
  · rintro ⟨f, hf, rfl⟩
    exact ⟨_, mem_record.mp hf, rfl⟩
  · rintro ⟨⟨k, o⟩, he, rfl⟩
    obtain ⟨v, rfl⟩ := hall _ he
    exact ⟨(k, v), mem_record.mpr he, rfl⟩

/-- Every part of a property that may be there. -/
def EveryIn (p : Value → Prop) (value : Option Value) : Prop := ∀ v, value = some v → v.Every p

theorem EveryIn.field {p : Value → Prop} {value : Option Value} (h : EveryIn p value) (key : Text) :
    EveryIn p (field value key) := by
  intro v hv
  obtain ⟨w, rfl, hw⟩ := Option.bind_eq_some_iff.mp hv
  exact (h w rfl).field hw

theorem every_record {p : Value → Prop} (hself : p (record entries))
    (hall : ∀ e ∈ entries, EveryIn p e.2) : (record entries).Every p := by
  rw [record, Value.every_object]
  exact ⟨hself, fun f hf => hall _ (mem_record.mp hf) f.2 rfl⟩

/-- An entry with its value in canonical form. -/
def canonicalEntry (e : Text × Option Value) : Text × Option Value := (e.1, e.2.map Value.canonical)

/-- The entries determine a record, up to the order of fields. -/
theorem canonical_record {entries' : List (Text × Option Value)}
    (h : entries.map canonicalEntry = entries'.map canonicalEntry) :
    (record entries).canonical = (record entries').canonical := by
  have hfields : ∀ entries : List (Text × Option Value),
      (entries.filterMap fun e => e.2.map (e.1, ·)).map Value.canonicalField
        = (entries.map canonicalEntry).filterMap fun e => e.2.map (e.1, ·) := by
    intro entries
    rw [List.map_filterMap, List.filterMap_map]
    apply List.filterMap_congr
    intro e _
    show Option.map _ (Option.map _ e.2) = Option.map _ (Option.map _ e.2)
    rw [Option.map_map, Option.map_map]
    rfl
  rw [record, record, Value.canonical, Value.canonical, Value.canonicalFields_eq,
    Value.canonicalFields_eq, hfields, hfields, h]

end Records

/-! ### The projection is an envelope -/

/-- The name of a property that an envelope may have. -/
def AdmissibleName (key : Text) : Prop :=
  key ∉ Intake.authorityFields ∧ key ∉ Intake.prohibitedDataFields

instance (key : Text) : Decidable (AdmissibleName key) := inferInstanceAs (Decidable (_ ∧ _))

/-- A part that an envelope may have. -/
def Admissible (u : Value) : Prop :=
  (∀ fields, u = .object fields → ∀ f ∈ fields, AdmissibleName f.1)
  ∧ ∀ s, u = .string s → Intake.isToken s = true

theorem admissible_string {s : Text} (h : Intake.isToken s = true) :
    (Value.string s).Every Admissible := by
  refine every_leaf (fun _ h => (by cases h)) (fun _ h => (by cases h)) ⟨?_, ?_⟩
  · intro fields hfields
    cases hfields
  · rintro _ ⟨⟩
    exact h

theorem admissible_scalar {v : Value} (h : (∃ b, v = .bool b) ∨ ∃ n, v = .number n) :
    v.Every Admissible := by
  rcases h with ⟨b, rfl⟩ | ⟨n, rfl⟩
  all_goals
    refine every_leaf (fun _ h => (by cases h)) (fun _ h => (by cases h)) ⟨?_, ?_⟩
    · intro fields hfields
      cases hfields
    · intro s hs
      cases hs

theorem isToken_of_bytes {s : Text} (hmin : 1 ≤ byteLen s) (hmax : byteLen s ≤ 512)
    (hall : ∀ b ∈ s.bytes, isTokenByte b = true) : Intake.isToken s = true := by
  simp only [Intake.isToken, matchesClass, Bool.and_eq_true, decide_eq_true_eq, List.all_eq_true]
  exact ⟨⟨hmin, hmax⟩, fun b hb => by rw [hall b hb, Bool.true_or]⟩

theorem isToken_of_isRef {s : Text} (h : isRef s = true) : Intake.isToken s = true := by
  simp only [isRef, matchesClass, Bool.and_eq_true, decide_eq_true_eq, List.all_eq_true] at h
  exact isToken_of_bytes h.1.1 h.1.2 h.2

theorem isTokenByte_hex {b : UInt8} (h : isLowerHexByte b = true) : isTokenByte b = true := by
  simp only [isLowerHexByte, isTokenByte, isLowerLetter, isDigitByte, Bool.or_eq_true,
    Bool.and_eq_true, decide_eq_true_eq] at h ⊢
  omega

/-- A byte of a text of such bytes. -/
theorem isTokenByte_oneOf {s : Text} {b : UInt8} (h : isOneOf s b = true)
    (hall : s.bytes.all isTokenByte = true) : isTokenByte b = true :=
  List.all_eq_true.mp hall b (List.contains_iff_mem.mp h)

theorem isToken_of_isUuid {s : Text} (h : isUuid s = true) : Intake.isToken s = true := by
  simp only [isUuid, Bool.and_eq_true, decide_eq_true_eq, List.all_eq_true] at h
  obtain ⟨hlength, hall⟩ := h
  apply isToken_of_bytes (by omega) (by omega)
  intro b hb
  obtain ⟨i, hi, rfl⟩ := List.mem_iff_getElem.mp hb
  have hbyte := hall (s.bytes[i], i)
    (List.mk_mem_zipIdx_iff_getElem?.mpr (List.getElem?_eq_getElem hi))
  split at hbyte
  · exact isTokenByte_oneOf hbyte (by decide)
  · split at hbyte
    · exact isTokenByte_oneOf hbyte (by decide)
    · split at hbyte
      · exact isTokenByte_oneOf hbyte (by decide)
      · exact isTokenByte_hex hbyte

theorem isToken_of_isDigest {s : Text} (h : isDigest s = true) : Intake.isToken s = true := by
  simp only [isDigest, matchesClass, Bool.and_eq_true, decide_eq_true_eq, List.all_eq_true] at h
  obtain ⟨hstart, ⟨hmin, hmax⟩, hall⟩ := h
  obtain ⟨rest, hrest⟩ := List.isPrefixOf_iff_prefix.mp hstart
  have hdrop : s.bytes.drop 7 = rest := by
    rw [← hrest]
    rfl
  rw [hdrop] at hall hmin hmax
  have hlength : byteLen s = 7 + byteLen ⟨rest⟩ := by
    rw [byteLen, ← hrest, List.length_append]
    rfl
  apply isToken_of_bytes (by omega) (by omega)
  rw [← hrest]
  intro b hb
  rcases List.mem_append.mp hb with hb | hb
  · have hprefix : ("sha256:" : Text).bytes.all isTokenByte = true := by decide
    exact List.all_eq_true.mp hprefix b hb
  · exact isTokenByte_hex (hall b hb)

theorem roles_admissible {roles primary : Option Value} (h : RolesOk roles primary) :
    EveryIn Admissible roles := by
  intro v hv
  obtain ⟨texts, rfl, -, -, hall, -⟩ := h
  cases hv
  rw [Value.every_array]
  refine ⟨⟨fun fields hfields => (by cases hfields), fun s hs => (by cases hs)⟩, ?_⟩
  intro v hv
  obtain ⟨t, ht, rfl⟩ := List.mem_map.mp hv
  have htoken : ∀ t ∈ semanticRoles, Intake.isToken t = true := by decide
  exact admissible_string (htoken t (hall t ht))

/-- With distinct names a property is what its field says. -/
theorem field_of_mem {fields : List (Text × Value)} (hnodup : (fields.map Prod.fst).Nodup)
    {f : Text × Value} (hf : f ∈ fields) : field (some (.object fields)) f.1 = some f.2 := by
  show fields.lookup f.1 = some f.2
  induction fields with
  | nil => cases hf
  | cons g fields ih =>
    obtain ⟨hfresh, hrest⟩ := List.nodup_cons.mp hnodup
    rcases List.mem_cons.mp hf with rfl | hmem
    · exact List.lookup_cons_self
    · have hne : (f.1 == g.1) = false := by
        rw [beq_eq_false_iff_ne]
        exact fun heq => hfresh (heq ▸ List.mem_map_of_mem hmem)
      rw [List.lookup_cons, hne]
      exact ih hrest hmem

/-- Facts of known kinds have admissible parts only. -/
theorem facts_admissible {keys booleans : List Text} {enums : List (Text × List Text)}
    {facts : Option Value} (h : FactsOk keys booleans enums facts)
    (hkinds : ∀ key ∈ keys, key ∈ booleans ∨ key ∈ enums.map Prod.fst)
    (hnames : ∀ key ∈ keys, AdmissibleName key)
    (htokens : ∀ e ∈ enums, ∀ s ∈ e.2, Intake.isToken s = true)
    (hparsed : EveryIn ParsedPart facts) : EveryIn Admissible facts := by
  obtain ⟨fields, rfl, hkeys⟩ := h.keys
  have hnodup : (fields.map Prod.fst).Nodup := (hparsed _ rfl).self.2
  rintro _ ⟨⟩
  rw [Value.every_object]
  constructor
  · refine ⟨?_, fun s hs => (by cases hs)⟩
    rintro _ ⟨⟩ f hf
    exact hnames f.1 ((hkeys f.1).mp (List.mem_map_of_mem hf))
  · intro f hf
    have hfield := field_of_mem hnodup hf
    obtain ⟨key, w⟩ := f
    rcases hkinds key ((hkeys key).mp (List.mem_map_of_mem hf)) with hboolean | henum
    · obtain ⟨b, hb⟩ := h.booleans _ hboolean
      rw [hfield] at hb
      cases hb
      exact admissible_scalar (.inl ⟨b, rfl⟩)
    · obtain ⟨e, he, hkey⟩ := List.mem_map.mp henum
      obtain ⟨s, hs, hvalue⟩ := h.enums e he
      rw [hkey, hfield] at hvalue
      cases hvalue
      exact admissible_string (htokens e he s hs)

section Projection

variable {observation : Value}

/-- A property of a projection, by its entry. -/
theorem field_projection {key : Text} {value : Option Value}
    (h : (key, value) ∈ projectionEntries observation) :
    field (some (projectObservation observation)) key = value := by
  apply field_record ?_ h
  show Intake.envelopeKeys.Nodup
  decide

theorem field_request {key : Text} {value : Option Value}
    (h : (key, value) ∈ requestEntries observation) :
    field (some (record (requestEntries observation))) key = value := by
  apply field_record ?_ h
  show Intake.requestKeys.Nodup
  decide

theorem field_input {key : Text} {value : Option Value}
    (h : (key, value) ∈ inputEntries observation) :
    field (some (record (inputEntries observation))) key = value := by
  apply field_record ?_ h
  show inputKeys.Nodup
  decide

/-- Every record of a projection has admissible names. -/
theorem record_admissible {entries : List (Text × Option Value)} (keys : List Text)
    (hkeys : entries.map Prod.fst = keys) (hnames : ∀ key ∈ keys, AdmissibleName key)
    (hall : ∀ e ∈ entries, EveryIn Admissible e.2) : (record entries).Every Admissible := by
  apply every_record ?_ hall
  refine ⟨?_, fun s hs => (by cases hs)⟩
  rintro _ ⟨⟩ f hf
  exact hnames f.1 (hkeys ▸ List.mem_map.mpr ⟨_, mem_record.mp hf, rfl⟩)

/-- What holds of every part of an observation holds of every part of its projection. -/
theorem projection_every {p : Value → Prop} (hobject : ∀ fields, p (.object fields))
    (hall : observation.Every p) : (projectObservation observation).Every p := by
  have hself : EveryIn p (some observation) := by
    rintro _ ⟨⟩
    exact hall
  have hfacts : ∀ family, EveryIn p (factsOf observation family) :=
    fun family => ((hself.field "assertions").field family).field "facts"
  have hinput : (record (inputEntries observation)).Every p := by
    apply every_record (hobject _)
    simp only [inputEntries, List.forall_mem_cons]
    have hreceipt : ∀ key, EveryIn p (field (field (some observation) "receipt") key) :=
      fun key => (hself.field "receipt").field key
    have hroles : ∀ key, EveryIn p (field (factsOf observation "semantic_roles") key) :=
      fun key => (hfacts "semantic_roles").field key
    exact ⟨hreceipt _, hreceipt _, hreceipt _, hreceipt _, hreceipt _, hroles _, hroles _,
      hreceipt _, hreceipt _, hreceipt _, hreceipt _, hreceipt _, fun e he => (by cases he)⟩
  have hrequest : (record (requestEntries observation)).Every p := by
    apply every_record (hobject _)
    simp only [requestEntries, List.forall_mem_cons]
    refine ⟨?_, hfacts _, hfacts _, hfacts _, fun e he => (by cases he)⟩
    rintro _ ⟨⟩
    exact hinput
  apply every_record (hobject _)
  simp only [projectionEntries, List.forall_mem_cons]
  refine ⟨hself.field _, ?_, hfacts _, fun e he => (by cases he)⟩
  rintro _ ⟨⟩
  exact hrequest

/-- What an input has from the receipt, under the same name. -/
def movedKeys : List Text := ["event_id", "run_id", "turn_id", "source_actor", "actor_ref",
  "content_ref", "content_digest", "correlation_ref", "logical_time", "schema_version"]

theorem field_moved (observation : Value) {key : Text} (hkey : key ∈ movedKeys) :
    field (some (record (inputEntries observation))) key
      = field (field (some observation) "receipt") key := by
  apply field_input
  simp only [movedKeys, List.mem_cons, List.not_mem_nil, or_false] at hkey
  rcases hkey with rfl | rfl | rfl | rfl | rfl | rfl | rfl | rfl | rfl | rfl <;>
    simp [inputEntries]

variable (h : ObservationOk observation)

include h

/-- **The input of a projection passes.** -/
theorem ObservationOk.inputOk : Intake.InputOk (some (record (inputEntries observation))) := by
  obtain ⟨roles, hrolesField, -, -, -, p, -, hprimary⟩ := h.roles
  have hreceipt := h.receipt
  have hall : ∀ e ∈ inputEntries observation, ∃ v, e.2 = some v := by
    have hid : ∀ key ∈ Intake.identifiers,
        ∃ v, field (field (some observation) "receipt") key = some v := by
      intro key hkey
      obtain ⟨s, hs, -⟩ := hreceipt.ids key hkey
      exact ⟨_, hs⟩
    have href : ∀ key ∈ (["actor_ref", "content_ref", "correlation_ref"] : List Text),
        ∃ v, field (field (some observation) "receipt") key = some v := by
      intro key hkey
      obtain ⟨s, hs, -⟩ := hreceipt.refs key hkey
      exact ⟨_, hs⟩
    obtain ⟨actor, -, hactor⟩ := hreceipt.sourceActor
    obtain ⟨digest, hdigest, -⟩ := hreceipt.digest
    obtain ⟨time, htime, -⟩ := hreceipt.time
    simp only [inputEntries, List.forall_mem_cons]
    exact ⟨hid _ (by decide), hid _ (by decide), hid _ (by decide), ⟨_, hactor⟩,
      href _ (by decide), ⟨_, hprimary⟩, ⟨_, hrolesField⟩, href _ (by decide), ⟨_, hdigest⟩,
      href _ (by decide), ⟨_, htime⟩, ⟨_, hreceipt.version⟩, fun e he => (by cases he)⟩
  have hactor := field_moved observation (show ("source_actor" : Text) ∈ movedKeys by decide)
  have hdigest := field_moved observation (show ("content_digest" : Text) ∈ movedKeys by decide)
  have htime := field_moved observation (show ("logical_time" : Text) ∈ movedKeys by decide)
  have hversion := field_moved observation (show ("schema_version" : Text) ∈ movedKeys by decide)
  refine {
    keys := hasKeys_record hall
    ids := ?_
    sourceActor := hactor ▸ hreceipt.sourceActor
    tokens := ?_
    roles := ?_
    digest := hdigest ▸ hreceipt.digest
    time := htime ▸ hreceipt.time
    version := hversion ▸ hreceipt.version }
  · intro key hkey
    have hmoved : ∀ key ∈ Intake.identifiers, key ∈ movedKeys := by decide
    obtain ⟨s, hs, hid⟩ := hreceipt.ids key hkey
    rw [field_moved observation (hmoved key hkey), hs]
    exact congrArg Except.ok hid
  · intro key hkey
    have hmoved : ∀ key ∈ (["actor_ref", "content_ref", "correlation_ref"] : List Text),
        key ∈ movedKeys := by decide
    obtain ⟨s, hs, href⟩ := hreceipt.refs key hkey
    rw [field_moved observation (hmoved key hkey)]
    exact ⟨s, hs, isToken_of_isRef href⟩
  · have hrolesEntry : field (some (record (inputEntries observation))) "semantic_roles"
        = field (factsOf observation "semantic_roles") "semantic_roles" :=
      field_input (by simp [inputEntries])
    have hprimaryEntry : field (some (record (inputEntries observation))) "primary_semantic_role"
        = field (factsOf observation "semantic_roles") "primary_semantic_role" :=
      field_input (by simp [inputEntries])
    rw [hrolesEntry, hprimaryEntry]
    exact h.roles

/-- Every part of a projection is admissible. -/
theorem ObservationOk.admissible (hparsed : observation.Every ParsedPart) :
    (projectObservation observation).Every Admissible := by
  have hself : EveryIn ParsedPart (some observation) := by
    rintro _ ⟨⟩
    exact hparsed
  have hfacts : ∀ family, EveryIn ParsedPart (factsOf observation family) :=
    fun family => ((hself.field "assertions").field family).field "facts"
  have hinput : (record (inputEntries observation)).Every Admissible := by
    apply record_admissible inputKeys rfl (by decide)
    have hreceipt := h.receipt
    obtain ⟨p, -, -, -, hroles, t, ht, hprimary⟩ := h.roles
    have hid : ∀ key ∈ Intake.identifiers, ∀ v,
        field (field (some observation) "receipt") key = some v → v.Every Admissible := by
      intro key hkey v hv
      obtain ⟨s, hs, hid⟩ := hreceipt.ids key hkey
      cases hs.symm.trans hv
      exact admissible_string (isToken_of_isUuid hid)
    have href : ∀ key ∈ (["actor_ref", "content_ref", "correlation_ref"] : List Text), ∀ v,
        field (field (some observation) "receipt") key = some v → v.Every Admissible := by
      intro key hkey v hv
      obtain ⟨s, hs, href⟩ := hreceipt.refs key hkey
      cases hs.symm.trans hv
      exact admissible_string (isToken_of_isRef href)
    have hmember : ∀ texts : List Text, (∀ t ∈ texts, Intake.isToken t = true) →
        ∀ value : Option Value, (∃ t ∈ texts, value = some (.string t)) →
        ∀ v, value = some v → v.Every Admissible := by
      rintro texts htexts _ ⟨t, ht, rfl⟩ v ⟨⟩
      exact admissible_string (htexts t ht)
    have hdigest : ∀ v, field (field (some observation) "receipt") "content_digest" = some v →
        v.Every Admissible := by
      intro v hv
      obtain ⟨s, hs, hdigest⟩ := hreceipt.digest
      cases hs.symm.trans hv
      exact admissible_string (isToken_of_isDigest hdigest)
    have htime : ∀ v, field (field (some observation) "receipt") "logical_time" = some v →
        v.Every Admissible := by
      intro v hv
      obtain ⟨n, hn, -⟩ := hreceipt.time
      cases hn.symm.trans hv
      exact admissible_scalar (.inr ⟨_, rfl⟩)
    have hversion : ∀ v, field (field (some observation) "receipt") "schema_version" = some v →
        v.Every Admissible := by
      intro v hv
      cases hreceipt.version.symm.trans hv
      exact admissible_scalar (.inr ⟨_, rfl⟩)
    simp only [inputEntries, List.forall_mem_cons]
    exact ⟨hid _ (by decide), hid _ (by decide), hid _ (by decide),
      hmember sourceActors (by decide) _ hreceipt.sourceActor, href _ (by decide),
      hmember semanticRoles (by decide) _ ⟨t, hroles t ht, hprimary⟩,
      roles_admissible h.roles, href _ (by decide), hdigest, href _ (by decide),
      htime, hversion, fun e he => (by cases he)⟩
  have hrequest : (record (requestEntries observation)).Every Admissible := by
    apply record_admissible Intake.requestKeys rfl (by decide)
    simp only [requestEntries, List.forall_mem_cons]
    refine ⟨?_, ?_, ?_, ?_, fun e he => (by cases he)⟩
    · rintro _ ⟨⟩
      exact hinput
    · exact facts_admissible h.fastPath (by decide) (by decide) (by decide) (hfacts _)
    · exact facts_admissible h.decision (by decide) (by decide) (by decide) (hfacts _)
    · exact facts_admissible h.coordination (by decide) (by decide) (by decide) (hfacts _)
  apply record_admissible Intake.envelopeKeys rfl (by decide)
  simp only [projectionEntries, List.forall_mem_cons]
  refine ⟨?_, ?_, ?_, fun e he => (by cases he)⟩
  · intro v hv
    obtain ⟨s, hs, href⟩ := h.reference
    cases hs.symm.trans hv
    exact admissible_string (isToken_of_isRef href)
  · rintro _ ⟨⟩
    exact hrequest
  · exact facts_admissible h.projection (by decide) (by decide) (by decide) (hfacts _)

/-- **The projection passes as an envelope.** -/
theorem ObservationOk.envelopeOk (hparsed : observation.Every ParsedPart)
    (hleaves : sortKeys (collectLeaves "" (projectObservation observation)) = replayLeaves) :
    Intake.EnvelopeOk (projectObservation observation) := by
  have hadmissible := h.admissible hparsed
  obtain ⟨reference, href, hrefToken⟩ := h.reference
  obtain ⟨fast, hfast, -⟩ := h.fastPath.keys
  obtain ⟨decision, hdecision, -⟩ := h.decision.keys
  obtain ⟨coordination, hcoordination, -⟩ := h.coordination.keys
  obtain ⟨projection, hprojection, -⟩ := h.projection.keys
  have hkeys : HasKeys (some (projectObservation observation)) Intake.envelopeKeys := by
    apply hasKeys_record
    simp only [projectionEntries, List.forall_mem_cons]
    exact ⟨⟨_, href⟩, ⟨_, rfl⟩, ⟨_, hprojection⟩, fun e he => (by cases he)⟩
  have hreference : field (some (projectObservation observation)) "observation_ref"
      = field (some observation) "observation_ref" :=
    field_projection (by simp [projectionEntries])
  have hrequest : field (some (projectObservation observation)) "assessment_request"
      = some (record (requestEntries observation)) :=
    field_projection (by simp [projectionEntries])
  have hhost : field (some (projectObservation observation)) "host_projection"
      = factsOf observation "host_projection" :=
    field_projection (by simp [projectionEntries])
  have hinputEntry : field (some (record (requestEntries observation))) "input"
      = some (record (inputEntries observation)) :=
    field_request (by simp [requestEntries])
  have hfastEntry : field (some (record (requestEntries observation))) "fast_path_facts"
      = factsOf observation "fast_path_facts" :=
    field_request (by simp [requestEntries])
  have hdecisionEntry : field (some (record (requestEntries observation))) "decision_facts"
      = factsOf observation "decision_facts" :=
    field_request (by simp [requestEntries])
  have hcoordinationEntry : field (some (record (requestEntries observation))) "coordination_facts"
      = factsOf observation "coordination_facts" :=
    field_request (by simp [requestEntries])
  refine {
    names := fun u hu => (hadmissible u hu).1
    tokens := fun u hu => (hadmissible u hu).2
    keys := exactShape_of_hasKeys hkeys (by decide)
    reference := ⟨reference, hreference.trans href, isToken_of_isRef hrefToken⟩
    request := ?_
    input := by rw [hrequest, hinputEntry]; exact h.inputOk
    fastPath := by rw [hrequest, hfastEntry]; exact h.fastPath
    decision := by rw [hrequest, hdecisionEntry]; exact h.decision
    coordination := by rw [hrequest, hcoordinationEntry]; exact h.coordination
    projection := fun _ => by rw [hhost]; exact h.projection
    leaves := ?_ }
  · rw [hrequest]
    apply hasKeys_record
    simp only [requestEntries, List.forall_mem_cons]
    exact ⟨⟨_, rfl⟩, ⟨_, hfast⟩, ⟨_, hdecision⟩, ⟨_, hcoordination⟩, fun e he => (by cases he)⟩
  · intro path hpath
    rw [← hleaves]
    exact (List.mem_insertionSort _).mpr hpath

end Projection

/-! ### What a digest is taken of -/

section Canonical

theorem sortFields_sorted {α : Type} (fields : List (Text × α)) :
    sortFields (sortFields fields) = sortFields fields := by
  have hsorted : (sortFields fields).Pairwise fun a b => (utf16Le a.1 b.1 : Prop) :=
    (sortFields_pairwise fields).imp fun h => utf16Le_iff.mpr h
  exact hsorted.insertionSort_eq

/-- What is written of an object, by what is written of its fields. -/
theorem canonicalText_object (fields : List (Text × Value)) :
    canonicalText (.object fields) = 123 :: joinChars ((sortFields fields).map fun f =>
      Language.entry typescript (typescript.chars f.1) (canonicalText f.2)) ++ [125] := by
  show 123 :: joinChars (((typescript.textFields fields).insertionSort _).map _) ++ [125] = _
  rw [Language.textFields_eq, Language.insertionSort_map,
    Language.sortedFields_eq typescript_sorts, List.map_map]
  rfl

/-- **What is written does not depend on the order of fields.** -/
theorem canonicalText_canonical (v : Value) (h : v.Every AdmittedNumber) :
    canonicalText v.canonical = canonicalText v := by
  induction v using Value.induction with
  | hnumber n =>
    obtain ⟨k, rfl, -⟩ := h.self n rfl
    rfl
  | harray values ih =>
    have hall := (Value.every_array.mp h).2
    rw [Value.canonical, Value.canonicalValues_eq]
    show 91 :: joinChars (typescript.textValues _) ++ [93]
      = 91 :: joinChars (typescript.textValues _) ++ [93]
    rw [Language.textValues_eq, Language.textValues_eq, List.map_map]
    have htexts : values.map (typescript.text ∘ Value.canonical) = values.map typescript.text :=
      List.map_congr_left fun v hv => ih v hv (hall v hv)
    rw [htexts]
  | hobject fields ih =>
    have hall := (Value.every_object.mp h).2
    have hsort : sortFields (fields.map Value.canonicalField)
        = (sortFields fields).map Value.canonicalField := sortFields_map Value.canonical fields
    rw [Value.canonical, Value.canonicalFields_eq, canonicalText_object, canonicalText_object,
      sortFields_sorted, hsort, List.map_map]
    have htexts : ∀ f ∈ sortFields fields,
        canonicalText (Value.canonicalField f).2 = canonicalText f.2 := fun f hf =>
      ih f ((sortFields_perm_self fields).mem_iff.mp hf)
        (hall f ((sortFields_perm_self fields).mem_iff.mp hf))
    congr 3
    apply List.map_congr_left
    intro f hf
    show Language.entry typescript _ (canonicalText (Value.canonicalField f).2) = _
    rw [htexts f hf]
    rfl
  | hnull | hbool | hstring => rfl

variable {v w : Value} {key : Text}

/-- A part without one property has the other ones. -/
theorem field_without {key' : Text} (hne : key' ≠ key) :
    field (some (without v key)) key' = field (some v) key' := by
  cases v with
  | object fields =>
    show List.lookup key' (fields.filter fun f => f.1 ≠ key) = List.lookup key' fields
    induction fields with
    | nil => rfl
    | cons f fields ih =>
      obtain ⟨k, u⟩ := f
      by_cases hk : k = key
      · have hskip : (key' == k) = false := beq_eq_false_iff_ne.mpr fun heq => hne (heq.trans hk)
        rw [List.filter_cons_of_neg (by simp [hk]), ih, List.lookup_cons, hskip]
      · rw [List.filter_cons_of_pos (by simp [hk]), List.lookup_cons, List.lookup_cons, ih]
  | null | bool | number | string | array => rfl

theorem without_every {p : Value → Prop} (h : v.Every p)
    (hself : p v → p (without v key)) : (without v key).Every p := by
  cases v with
  | object fields =>
    have hall := (Value.every_object.mp h).2
    show (Value.object (fields.filter fun f => f.1 ≠ key)).Every p
    rw [Value.every_object]
    exact ⟨hself h.self, fun f hf => hall f (List.mem_filter.mp hf).1⟩
  | null | bool | number | string | array => exact h

theorem without_wellFormed (h : v.WellFormed) : (without v key).WellFormed := by
  apply without_every h
  intro hself
  cases v with
  | object fields =>
    obtain ⟨hutf8, hnodup⟩ := hself
    refine ⟨fun f hf => hutf8 f (List.mem_filter.mp hf).1, ?_⟩
    exact hnodup.sublist (List.filter_sublist.map Prod.fst)
  | null | bool | number | string | array => exact hself

/-- Properties of the same value are the same. -/
theorem canonical_field {value value' : Option Value}
    (h : value.map Value.canonical = value'.map Value.canonical) (key : Text) :
    (field value key).map Value.canonical = (field value' key).map Value.canonical := by
  have hfield : ∀ value : Option Value,
      (field value key).map Value.canonical = field (value.map Value.canonical) key := by
    intro value
    cases value with
    | none => rfl
    | some v => exact (Value.canonical_get v key).symm
  rw [hfield, hfield, h]

/-- **The projection is determined by what the digest is taken of.** -/
theorem projection_determined {observation observation' : Value}
    (h : (without observation "observation_digest").canonical
      = (without observation' "observation_digest").canonical) :
    (projectObservation observation).canonical = (projectObservation observation').canonical := by
  have htop : ∀ key : Text, key ≠ "observation_digest" →
      (field (some observation) key).map Value.canonical
        = (field (some observation') key).map Value.canonical := by
    intro key hne
    rw [← field_without hne, ← field_without (v := observation') hne]
    apply canonical_field
    exact congrArg some h
  have hreceipt : ∀ key, (field (field (some observation) "receipt") key).map Value.canonical
      = (field (field (some observation') "receipt") key).map Value.canonical :=
    fun key => canonical_field (htop "receipt" (by decide)) key
  have hfacts : ∀ family, (factsOf observation family).map Value.canonical
      = (factsOf observation' family).map Value.canonical := fun family =>
    canonical_field (canonical_field (htop "assertions" (by decide)) family) "facts"
  have hroles : ∀ key,
      (field (factsOf observation "semantic_roles") key).map Value.canonical
        = (field (factsOf observation' "semantic_roles") key).map Value.canonical :=
    fun key => canonical_field (hfacts "semantic_roles") key
  have hinput : (record (inputEntries observation)).canonical
      = (record (inputEntries observation')).canonical := by
    apply canonical_record
    simp only [inputEntries, List.map_cons, canonicalEntry, hreceipt, hroles]
  have hrequest : (record (requestEntries observation)).canonical
      = (record (requestEntries observation')).canonical := by
    apply canonical_record
    simp only [requestEntries, List.map_cons, canonicalEntry, hfacts, Option.map_some, hinput]
  apply canonical_record
  simp only [projectionEntries, List.map_cons, canonicalEntry, hfacts, Option.map_some, hrequest,
    htop "observation_ref" (by decide)]

section Digest

variable [Crypto]

/-- The bytes that the digest of an observation is taken of. -/
def observationPreimage (observation : Value) : List UInt8 :=
  observationDomain.bytes ++ [0]
    ++ bufferFrom (canonicalText (without observation "observation_digest"))

/-- Digests of the same text are of the same bytes, where SHA-256 does not collide on them. -/
theorem preimage_eq {observation observation' : Value}
    (h : domainDigest observationDomain observation "observation_digest"
      = domainDigest observationDomain observation' "observation_digest")
    (hfree : Crypto.sha256 (observationPreimage observation)
        = Crypto.sha256 (observationPreimage observation') →
      observationPreimage observation = observationPreimage observation') :
    bufferFrom (canonicalText (without observation "observation_digest"))
      = bufferFrom (canonicalText (without observation' "observation_digest")) := by
  have hbytes := List.append_cancel_left (congrArg Text.bytes h)
  have hhash : Crypto.sha256 (observationPreimage observation)
      = Crypto.sha256 (observationPreimage observation') :=
    Vector.toList_inj.mp (encodeHex_injective (congrArg Text.mk hbytes))
  exact List.append_cancel_left (hfree hhash)

/-- **Projections that are the same have the same digest.** -/
theorem projectionDigest_eq {projection projection' : Value}
    (hsafe : projection.Every AdmittedNumber) (hsafe' : projection'.Every AdmittedNumber)
    (h : projection.canonical = projection'.canonical) :
    projectionDigest projection = projectionDigest projection' := by
  have hwithout : ∀ p : Value, without
      (.object [("projection", p), ("projection_digest", .string zeroDigest)]) "projection_digest"
        = .object [("projection", p)] := fun _ => rfl
  have htext : canonicalText (.object [("projection", projection)])
      = canonicalText (.object [("projection", projection')]) := by
    rw [canonicalText_object, canonicalText_object]
    show 123 :: joinChars [Language.entry typescript _ (canonicalText projection)] ++ [125]
      = 123 :: joinChars [Language.entry typescript _ (canonicalText projection')] ++ [125]
    rw [← canonicalText_canonical _ hsafe, ← canonicalText_canonical _ hsafe', h]
  rw [projectionDigest, projectionDigest, domainDigest, domainDigest, hwithout, hwithout, htext]

variable [EcmaScript]

/-- **What is projected is admitted, and the digest determines it.**  The projection of an accepted
observation passes as a replay envelope; and of two accepted observations with the same digest the
projections are the same, up to the order of fields, and have the same digest, where SHA-256 does
not collide. -/
theorem validateObservation_projection (observation : ParsedJson) (time : Value)
    (result : ObservationResult) (h : validateObservation observation.value time = .ok result) :
    Intake.assertReplayEnvelope result.projection = .ok () ∧
    ∀ (observation' : ParsedJson) (time' : Value) (result' : ObservationResult),
      validateObservation observation'.value time' = .ok result' →
      result.observationDigest = result'.observationDigest →
      (Crypto.sha256 (observationPreimage observation.value)
          = Crypto.sha256 (observationPreimage observation'.value) →
        observationPreimage observation.value = observationPreimage observation'.value) →
      result.projection.canonical = result'.projection.canonical ∧
        result.projectionDigest = result'.projectionDigest := by
  obtain ⟨hok, hcanonical, -, hleaves, hprojection, hdigest, hobservation⟩ :=
    validateObservation_eq_ok h
  constructor
  · rw [hprojection, Intake.assertReplayEnvelope_eq_ok]
    exact hok.envelopeOk observation.parsed hleaves
  · intro observation' time' result' h' hsame hfree
    obtain ⟨-, hcanonical', -, -, hprojection', hdigest', hobservation'⟩ :=
      validateObservation_eq_ok h'
    have hadmitted := assertCanonicalValue_eq_ok _ hcanonical
    have hadmitted' := assertCanonicalValue_eq_ok _ hcanonical'
    rw [hobservation, hobservation', Option.some.injEq, Value.string.injEq] at hsame
    have hwell : ∀ json : ParsedJson, json.value.Every AdmittedNumber →
        (without json.value "observation_digest").WellFormed :=
      fun json hjson => without_wellFormed (json.wellFormed hjson)
    have hobject : ∀ fields, AdmittedNumber (.object fields) :=
      fun fields n hn => (by cases hn)
    have hsafe : ∀ v : Value, v.Every AdmittedNumber →
        (without v "observation_digest").SafeNumbers := by
      intro v hv
      refine (without_every hv ?_).safeNumbers
      intro hself
      cases v with
      | object fields => exact hobject _
      | null | bool | number | string | array => exact hself
    have hvalues := bufferFrom_injective (hwell _ hadmitted) (hwell _ hadmitted')
      (hsafe _ hadmitted) (hsafe _ hadmitted') (preimage_eq hsame hfree)
    have hsameProjection := projection_determined hvalues
    rw [hprojection, hprojection', hdigest, hdigest']
    exact ⟨hsameProjection, projectionDigest_eq (projection_every hobject hadmitted)
      (projection_every hobject hadmitted') hsameProjection⟩

end Digest

end Canonical

namespace Sample

/-- An assertion of the fixture. -/
def assertion (family producerRef producerKind policyRef derivationClass : Text) (time : Nat)
    (facts : List (Text × Value)) (assertionDigest : Text) : Text × Value :=
  (family, .object [
    ("schema_version", .number (.posInt 1)), ("family", .string family),
    ("producer", .object [
      ("producer_ref", .string producerRef), ("producer_kind", .string producerKind),
      ("producer_version", .string "v1.0.0"), ("policy_ref", .string policyRef),
      ("derivation_class", .string derivationClass), ("idr_output_used", .bool false)]),
    ("source_receipt_digest",
      .string "sha256:141cf4746aee4897b91d0bc02cdf366f839ac9287c179e06753a2786570488c1"),
    ("produced_at_logical_time", .number (.posInt time)), ("facts", .object facts),
    ("assertion_digest", .string assertionDigest)])

/-- The properties of the fixture. -/
def goldenFields : List (Text × Value) := [
  ("schema_id", .string "idr.aegis.structured-observation.v1"),
  ("schema_version", .number (.posInt 1)),
  ("observation_ref", .string "aegis:observation:synthetic:001"),
  ("source_system_ref", .string "aegis:synthetic:structured-source:v1"),
  ("lifecycle", .object [
    ("status", .string "sealed"), ("valid_from_logical_time", .number (.posInt 90)),
    ("valid_until_logical_time", .number (.posInt 200)),
    ("supersedes_observation_digest", .null), ("revocation_ref", .null)]),
  ("receipt", .object [
    ("event_id", .string "10000000-0000-4000-8000-000000000001"),
    ("run_id", .string "20000000-0000-4000-8000-000000000002"),
    ("turn_id", .string "30000000-0000-4000-8000-000000000003"),
    ("input_receipt_id", .string "40000000-0000-4000-8000-000000000004"),
    ("source_actor", .string "user"), ("actor_ref", .string "actor:pseudonymous:001"),
    ("content_ref", .string "content:digest-bound:001"),
    ("content_digest",
      .string "sha256:3333333333333333333333333333333333333333333333333333333333333333"),
    ("correlation_ref", .string "correlation:synthetic:001"),
    ("logical_time", .number (.posInt 100)), ("schema_version", .number (.posInt 1)),
    ("receipt_digest",
      .string "sha256:141cf4746aee4897b91d0bc02cdf366f839ac9287c179e06753a2786570488c1")]),
  ("assertions", .object [
    assertion "semantic_roles" "aegis:producer:semantic:synthetic" "semantic_classifier"
      "policy:semantic-role:v1" "deterministic" 101 [
        ("primary_semantic_role", .string "intent"),
        ("semantic_roles", .array [.string "intent", .string "command"])]
      "sha256:d8ecdc66e44aea0cc598fc6499a052b1428c15546558b48c119abe74b3fde80b",
    assertion "fast_path_facts" "aegis:producer:fast-path:synthetic" "command_policy_classifier"
      "policy:fast-path:v1" "deterministic" 102 [
        ("deterministic_command_match", .bool false),
        ("required_parameters_complete", .bool true), ("ambiguity_present", .bool true),
        ("authority_context_valid", .bool true), ("policy_allows_request", .bool true),
        ("impact_level", .string "high"), ("reversible", .bool true),
        ("depends_on_human_model", .bool false)]
      "sha256:3ebf7670dac218735f31cb1ad8d58331754243fe8fd49ead60f228d475ea2539",
    assertion "decision_facts" "aegis:producer:decision:synthetic" "decision_context_classifier"
      "policy:decision-context:v1" "human_reviewed" 103 [
        ("multiple_viable_options", .bool true), ("material_tradeoffs", .bool true),
        ("evidence_conflict", .bool false), ("impact_level", .string "high"),
        ("irreversible_result", .bool false), ("affects_long_term_goal", .bool true),
        ("host_user_interest_conflict", .bool false), ("simple_lookup", .bool false),
        ("unique_legal_operation", .bool false), ("user_choice_already_explicit", .bool false)]
      "sha256:6bbedc2c09164b8bfc3a9e56535ea786a1beb34cedc3c0932084318ecc2ca2e4",
    assertion "coordination_facts" "aegis:producer:coordination:synthetic" "coordination_planner"
      "policy:coordination:v1" "deterministic" 104 [
        ("response_planned", .bool true), ("action_planned", .bool true),
        ("explicit_confirmation_requested", .bool true), ("authorization_required", .bool true),
        ("action_is_read_only", .bool false), ("long_running", .bool false),
        ("stream_progress", .bool false), ("safe_to_parallelize", .bool false)]
      "sha256:96bb08615b96f1198082b1d842babdca1ac176f940e8a4b258381b5ccfab0f9c",
    assertion "host_projection" "aegis:producer:host-decision:synthetic"
      "aegis_host_decision_runtime" "policy:host-decision:v1" "deterministic" 105 [
        ("coordination_mode", .string "respond_then_confirm_then_act"),
        ("action_posture", .string "waiting_authorization"),
        ("next_run_state", .string "waiting_authorization")]
      "sha256:b70c4fc88ffc59a2a4804b9fc2c0910d2607ca6261a9504d1b48dce2b466d56e"]),
  ("observation_digest",
    .string "sha256:883fad2e6de0d47b0eabc35c7d41ed8fe60fb05fe61b7b16e07d8310b9c7927b")]

/-- The fixture. -/
def golden : ParsedJson where
  value := .object goldenFields
  parsed := by decide +kernel

/-- The fixture with its properties in another order. -/
def turned : ParsedJson where
  value := .object goldenFields.reverse
  parsed := by decide +kernel

/-- SHA-256 of the preimages of the fixture. -/
@[reducible]
def crypto : Crypto := Idr.Sample.domainCrypto [
  (receiptDomain, 0x141cf4746aee4897b91d0bc02cdf366f839ac9287c179e06753a2786570488c1),
  (assertionDomain "semantic_roles",
    0xd8ecdc66e44aea0cc598fc6499a052b1428c15546558b48c119abe74b3fde80b),
  (assertionDomain "fast_path_facts",
    0x3ebf7670dac218735f31cb1ad8d58331754243fe8fd49ead60f228d475ea2539),
  (assertionDomain "decision_facts",
    0x6bbedc2c09164b8bfc3a9e56535ea786a1beb34cedc3c0932084318ecc2ca2e4),
  (assertionDomain "coordination_facts",
    0x96bb08615b96f1198082b1d842babdca1ac176f940e8a4b258381b5ccfab0f9c),
  (assertionDomain "host_projection",
    0xb70c4fc88ffc59a2a4804b9fc2c0910d2607ca6261a9504d1b48dce2b466d56e),
  (observationDomain, 0x883fad2e6de0d47b0eabc35c7d41ed8fe60fb05fe61b7b16e07d8310b9c7927b),
  (projectionDomain, 0x522cb852eca9994bd2ae3aeca111da434b20b08fea69377af24c26db8b7ab8a4)]

/-- What is returned for the fixture at a time. -/
def accepted (json : ParsedJson) : Except GateError ObservationResult :=
  @validateObservation crypto Idr.Sample.plainHost json.value (.number (.posInt 150))

def acceptedResult (json : ParsedJson) : ObservationResult where
  receiptDigest := field (field (some json.value) "receipt") "receipt_digest"
  assertionDigests := (entriesOf (field (some json.value) "assertions")).map fun entry =>
    (entry.1, field (some entry.2) "assertion_digest")
  observationDigest := field (some json.value) "observation_digest"
  projectionDigest := "sha256:522cb852eca9994bd2ae3aeca111da434b20b08fea69377af24c26db8b7ab8a4"
  projectedLeafCount := 42
  projection := projectObservation json.value

theorem both_accepted :
    accepted golden = .ok (acceptedResult golden) ∧ accepted turned = .ok (acceptedResult turned)
      ∧ (∀ json ∈ [golden.value, turned.value],
        @assertCanonicalValue Idr.Sample.plainHost (without json "observation_digest") = .ok ())
      ∧ (without golden.value "observation_digest").canonical
        = (without turned.value "observation_digest").canonical
      ∧ (acceptedResult golden).observationDigest = (acceptedResult turned).observationDigest := by
  decide +kernel

theorem turned_preimage : observationPreimage golden.value = observationPreimage turned.value := by
  obtain ⟨-, -, hadmitted, hcanonical, -⟩ := both_accepted
  have hall : ∀ json ∈ [golden.value, turned.value],
      (without json "observation_digest").Every AdmittedNumber :=
    fun json hjson => @assertCanonicalValue_eq_ok Idr.Sample.plainHost _ (hadmitted json hjson)
  rw [List.forall_mem_cons, List.forall_mem_singleton] at hall
  rw [observationPreimage, observationPreimage, ← canonicalText_canonical _ hall.1,
    ← canonicalText_canonical _ hall.2, hcanonical]

end Sample

/-- The fixture is projected to an envelope, in any order of its properties to the same one. -/
theorem validateObservation_projection_golden :
    Intake.assertReplayEnvelope (projectObservation Sample.golden.value) = .ok () ∧
      (projectObservation Sample.golden.value).canonical
        = (projectObservation Sample.turned.value).canonical := by
  obtain ⟨hgolden, hturned, -, -, hdigest⟩ := Sample.both_accepted
  obtain ⟨hadmitted, hsame⟩ := @validateObservation_projection Sample.crypto
    Idr.Sample.plainHost Sample.golden (.number (.posInt 150)) _ hgolden
  exact ⟨hadmitted, (hsame Sample.turned (.number (.posInt 150)) _ hturned hdigest
    fun _ => Sample.turned_preimage).1⟩

end Observation

end Idr
