/-
Idr/AegisLife/ExportApproval.lean

The pack that verifies the approval of a source export.

Three validators take an approval, the evidence of the current time and a
request, and each checks a part of the law (`ExportAllowed`).  All fields but
one are compared after their type was tested, or with something of a known type.
The exception is `revocation_state.registry_revision`, which is compared with
`<` as it comes: where it is no number, the comparison is one of texts or of
what is not a number, and a rollback passes.

What the bindings of a contract are expected to be is read from other packs, and
is a parameter.
-/
import Idr.AegisLife.EcmaScript

namespace Idr

namespace ExportApproval

/-! ### Constants -/

def approvalDomain : Text := "idr:aegis:representative-export-approval:v1"

def timeDomain : Text := "idr:aegis:trusted-current-time-evidence:v1"

def requestDomain : Text := "idr:aegis:representative-export-verification-request:v1"

def approvalKeys : List Text := ["schema_id", "schema_version", "approval_id", "assurance",
  "source_pin", "exporter_ref", "purpose", "allowed_source_classes", "allowed_tenant_refs",
  "allowed_actor_refs", "contract_bindings", "data_policy", "limits", "lifecycle",
  "revocation_binding", "issuer", "approval_digest"]

def timeKeys : List Text := ["schema_id", "schema_version", "assurance", "clock_source_ref",
  "clock_profile_version", "clock_epoch", "sequence", "purpose", "nonce", "attested_time_ms",
  "uncertainty_ms", "signature_algorithm", "signature", "time_evidence_digest"]

def requestKeys : List Text := ["schema_id", "schema_version", "request_id", "request_nonce",
  "source_class", "source_pin", "exporter_ref", "purpose", "tenant_ref", "actor_ref",
  "contract_bindings", "requested_candidate_count", "approval_id", "approval_digest",
  "time_evidence_digest", "revocation_state", "lawful_basis", "requested_uses", "request_digest"]

def contractKeys : List Text := ["structured_observation_schema_digest",
  "ingress_source_contract_digest", "producer_registry_digest", "host_mapping_profile_digest",
  "representative_intake_schema_digest"]

def policyKeys : List Text := ["allows_raw_content", "allows_credentials", "allows_human_model",
  "allows_personality_inference", "allows_model_training", "allows_secondary_use",
  "allows_onward_transfer"]

def useKeys : List Text := ["raw_content", "credentials", "human_model", "personality_inference",
  "model_training", "secondary_use", "onward_transfer"]

/-- The clock that the pack knows: its epoch, its least sequence and the nonces that were used. -/
def clockEpoch : Nat := 1

def minimumSequence : Nat := 42

def usedNonces : List Text := ["clock-nonce-synthetic-used"]

/-! ### Helper functions -/

/-- The pattern `^[a-z0-9._:-]{16,128}$`. -/
def isNonce : Text → Bool :=
  matchesClass (fun b => isLowerLetter b || isDigitByte b || isOneOf "._:-" b) 16 128

/-- `exact`. -/
def exactKeys (value : Option Value) (keys : List Text) : Except GateError Unit :=
  match value with
  | some (.object fields) =>
    rejectIf (same (keyList (sortKeys (fields.map Prod.fst))) (keyList (sortKeys keys)) = false)
      (deny "UNKNOWN_FIELD")
  | _ => .error (deny "INVALID_OBJECT")

/-- `token`. -/
def token (value : Option Value) : Bool :=
  match value with
  | some (.string s) => isPackToken s
  | _ => false

/-- The values of the properties of an object. -/
def objectValues (value : Option Value) : List Value :=
  match value with
  | some (.object fields) => fields.map Prod.snd
  | _ => []

/-- `safePositive`. -/
def safePositive (value : Option Value) : Bool := (natural value).any (0 < ·)

/-- `validateSourcePin`. -/
def validateSourcePin (pin : Option Value) : Except GateError Unit := do
  exactKeys pin ["repository", "commit_sha", "tree_sha"]
  require (hasText (field pin "repository") "Aegis Life" = true) (deny "SOURCE_PIN_MISMATCH")
  requirePattern isGitSha (field pin "commit_sha") "SOURCE_PIN_MISMATCH"
  requirePattern isGitSha (field pin "tree_sha") "SOURCE_PIN_MISMATCH"
  require (hasText (field pin "commit_sha") "381d14fb1dccfeae691286a39579535ef59f7b4e" = true
      ∧ hasText (field pin "tree_sha") "da76b01653bb194e4f192e5768b32a38fd3b2173" = true)
    (deny "SOURCE_PIN_MISMATCH")

/-- An entry of a scope.  No token has a `*`, so that the last check only finds `all`. -/
def validateScopeEntry (entry : Value) : Except GateError Unit := do
  require (token (some entry) = true)
    (deny (if entry = .string "*" ∨ entry = .string "all" then "WILDCARD_SCOPE_FORBIDDEN"
      else "INVALID_SCOPE"))
  rejectIf (entry = .string "all") (deny "WILDCARD_SCOPE_FORBIDDEN")

/-- `validateScopeList`. -/
def validateScopeList (list : Option Value) : Except GateError Unit :=
  match list with
  | some (.array entries) => do
    rejectIf (entries = [] ∨ distinctEntries entries = false) (deny "INVALID_SCOPE")
    entries.forM validateScopeEntry
  | _ => .error (deny "INVALID_SCOPE")

/-- `validateBindings`, against the bindings that are expected. -/
def validateBindings (expected : Value) (bindings : Option Value) : Except GateError Unit := do
  exactKeys bindings contractKeys
  (objectValues bindings).forM fun value =>
    requirePattern isDigest (some value) "CONTRACT_BINDING_MISMATCH"
  require (bindings.any (same · expected) = true) (deny "CONTRACT_BINDING_MISMATCH")

/-- `validateForbiddenFlags`. -/
def validateForbiddenFlags (value : Option Value) (keys : List Text) : Except GateError Unit := do
  exactKeys value keys
  rejectIf ((objectValues value).any (fun entry => entry ≠ .bool false) = true)
    (deny "PROHIBITED_USE")

/-! ### Validators -/

section Validators

variable [EcmaScript] [Crypto]

/-- The limits, the lifecycle, the revocation and the issuer of an approval. -/
def validateTerms (approval : Option Value) : Except GateError Unit := do
  let limits := field approval "limits"
  let lifecycle := field approval "lifecycle"
  let revocation := field approval "revocation_binding"
  let issuer := field approval "issuer"
  exactKeys limits ["max_candidates_per_request"]
  require (safePositive (field limits "max_candidates_per_request") = true
      ∧ (natural (field limits "max_candidates_per_request")).any (· ≤ 10000) = true)
    (deny "INVALID_VOLUME_LIMIT")
  exactKeys lifecycle ["status", "valid_from_ms", "valid_until_ms", "supersedes_approval_id"]
  require (hasText (field lifecycle "status") "ACTIVE" = true) (deny "APPROVAL_NOT_ACTIVE")
  require (safePositive (field lifecycle "valid_from_ms") = true
      ∧ safePositive (field lifecycle "valid_until_ms") = true
      ∧ (natural (field lifecycle "valid_from_ms")).getD 0
        < (natural (field lifecycle "valid_until_ms")).getD 0)
    (deny "INVALID_APPROVAL_INTERVAL")
  require (field lifecycle "supersedes_approval_id" = some .null
      ∨ token (field lifecycle "supersedes_approval_id") = true)
    (deny "INVALID_SUPERSESSION")
  exactKeys revocation ["registry_ref", "minimum_registry_revision", "failure_policy"]
  require (token (field revocation "registry_ref") = true
      ∧ safePositive (field revocation "minimum_registry_revision") = true
      ∧ hasText (field revocation "failure_policy")
        "DENY_ON_UNAVAILABLE_UNKNOWN_STALE_OR_ROLLBACK" = true)
    (deny "REVOCATION_POLICY_MISMATCH")
  exactKeys issuer ["issuer_ref", "key_ref", "signature_algorithm", "signature"]
  require (hasText (field approval "assurance") "SYNTHETIC_ONLY" = true
      ∧ hasText (field issuer "signature_algorithm") "NONE_SYNTHETIC" = true
      ∧ hasText (field issuer "issuer_ref") "idr.synthetic.conformance-issuer.v1" = true
      ∧ token (field issuer "key_ref") = true
      ∧ hasText (field issuer "signature") "not-a-production-signature" = true)
    (deny "ASSURANCE_SIGNATURE_MISMATCH")

/-- `validateApproval`. -/
def validateApproval (expected approval : Value) : Except GateError Unit := do
  assertCanonicalValue approval
  let value := some approval
  exactKeys value approvalKeys
  require (hasText (field value "schema_id") "idr.aegis.representative-export-approval.v1" = true
      ∧ field value "schema_version" = some (.number (.posInt 1))
      ∧ token (field value "approval_id") = true
      ∧ token (field value "exporter_ref") = true
      ∧ hasText (field value "purpose") "idr_offline_representative_evaluation" = true)
    (deny "APPROVAL_SHAPE_MISMATCH")
  validateSourcePin (field value "source_pin")
  validateScopeList (field value "allowed_tenant_refs")
  validateScopeList (field value "allowed_actor_refs")
  require ((field value "allowed_source_classes").any
      (same · (keyList ["synthetic_control"])) = true)
    (deny "SYNTHETIC_APPROVAL_SCOPE_VIOLATION")
  validateBindings expected (field value "contract_bindings")
  validateForbiddenFlags (field value "data_policy") policyKeys
  validateTerms value
  requirePattern isDigest (field value "approval_digest") "APPROVAL_DIGEST_MISMATCH"
  require (hasText (field value "approval_digest")
      (domainDigest approvalDomain approval "approval_digest") = true)
    (deny "APPROVAL_DIGEST_MISMATCH")

/-- `validateTime`. -/
def validateTime (evidence approval : Value) : Except GateError Unit := do
  assertCanonicalValue evidence
  let value := some evidence
  exactKeys value timeKeys
  require (hasText (field value "schema_id") "idr.aegis.trusted-current-time-evidence.v1" = true
      ∧ field value "schema_version" = some (.number (.posInt 1)))
    (deny "TIME_SHAPE_MISMATCH")
  require (hasText (field value "purpose") "aegis_representative_export_verification" = true)
    (deny "TIME_PURPOSE_MISMATCH")
  require (hasText (field value "clock_source_ref") "idr.synthetic.conformance-clock.v1" = true
      ∧ field value "clock_profile_version" = some (.number (.posInt 1))
      ∧ (natural (field value "clock_epoch")).isSome = true
      ∧ (natural (field value "sequence")).isSome = true)
    (deny "CLOCK_SOURCE_UNTRUSTED")
  requirePattern isNonce (field value "nonce") "CLOCK_SOURCE_UNTRUSTED"
  require (hasText (field value "assurance") "SYNTHETIC_ONLY" = true
      ∧ hasText (field value "signature_algorithm") "NONE_SYNTHETIC" = true
      ∧ hasText (field value "signature") "not-a-production-signature" = true)
    (deny "TIME_ASSURANCE_SIGNATURE_MISMATCH")
  rejectIf ((natural (field value "clock_epoch")).any (· < clockEpoch) = true)
    (deny "CLOCK_EPOCH_ROLLBACK")
  rejectIf (natural (field value "clock_epoch") = some clockEpoch
      ∧ (natural (field value "sequence")).any (· < minimumSequence) = true)
    (deny "CLOCK_SEQUENCE_ROLLBACK")
  rejectIf (usedNonces.any (fun nonce => field value "nonce" = some (.string nonce)) = true)
    (deny "CLOCK_NONCE_REPLAY")
  let attested := (natural (field value "attested_time_ms")).getD 0
  let uncertainty := (natural (field value "uncertainty_ms")).getD 0
  require (safePositive (field value "attested_time_ms") = true
      ∧ (natural (field value "uncertainty_ms")).any (· ≤ 60000) = true)
    (deny "TIME_UNCERTAINTY_EXCESSIVE")
  requirePattern isDigest (field value "time_evidence_digest") "TIME_EVIDENCE_DIGEST_MISMATCH"
  require (hasText (field value "time_evidence_digest")
      (domainDigest timeDomain evidence "time_evidence_digest") = true)
    (deny "TIME_EVIDENCE_DIGEST_MISMATCH")
  let lifecycle := field (some approval) "lifecycle"
  let early ← isLess (some (numberValue (attested - uncertainty))) (field lifecycle "valid_from_ms")
  rejectIf (early = true) (deny "TIME_OUTSIDE_APPROVAL")
  let late ← isGreaterOrEqual (some (numberValue (addSafe attested uncertainty)))
    (field lifecycle "valid_until_ms")
  rejectIf (late = true) (deny "TIME_OUTSIDE_APPROVAL")

/-- `list.includes(entry)`, for a list of texts. -/
def includes (list entry : Option Value) : Bool :=
  match list with
  | some (.array entries) => entries.any fun other => strictEqual (some other) entry
  | _ => false

/-- The revocation state, the lawful basis and the uses of a request. -/
def validateRevocation (value revocation : Option Value) (evidence : Value) :
    Except GateError Unit := do
  let state := field value "revocation_state"
  exactKeys state ["registry_ref", "registry_revision", "approval_status",
    "checked_at_time_evidence_digest"]
  require (strictEqual (field state "registry_ref") (field revocation "registry_ref") = true)
    (deny "REVOCATION_REGISTRY_MISMATCH")
  let rollback ← isLess (field state "registry_revision")
    (field revocation "minimum_registry_revision")
  rejectIf (rollback = true) (deny "REVOCATION_REVISION_ROLLBACK")
  require (hasText (field state "approval_status") "NOT_REVOKED" = true)
    (deny "APPROVAL_REVOKED_OR_UNKNOWN")
  require (strictEqual (field state "checked_at_time_evidence_digest")
      (field (some evidence) "time_evidence_digest") = true)
    (deny "REVOCATION_TIME_BINDING_MISMATCH")
  let basis := field value "lawful_basis"
  exactKeys basis ["status", "proof_digest"]
  require (hasText (field basis "status") "NOT_REQUIRED_SYNTHETIC" = true
      ∧ field basis "proof_digest" = some .null)
    (deny "LAWFUL_BASIS_MISMATCH")
  validateForbiddenFlags (field value "requested_uses") useKeys

/-- `validateRequest`. -/
def validateRequest (expected request approval evidence : Value) : Except GateError Unit := do
  assertCanonicalValue request
  let value := some request
  let approved := some approval
  exactKeys value requestKeys
  require (hasText (field value "schema_id")
        "idr.aegis.representative-export-verification-request.v1" = true
      ∧ field value "schema_version" = some (.number (.posInt 1))
      ∧ token (field value "request_id") = true)
    (deny "REQUEST_SHAPE_MISMATCH")
  requirePattern isNonce (field value "request_nonce") "REQUEST_SHAPE_MISMATCH"
  require (strictEqual (field value "purpose") (field approved "purpose") = true)
    (deny "REQUEST_SHAPE_MISMATCH")
  require (hasText (field value "source_class") "synthetic_control" = true)
    (deny "REAL_DATA_NOT_AUTHORIZED")
  validateSourcePin (field value "source_pin")
  require ((field value "source_pin").any (fun pin =>
      (field approved "source_pin").any (same pin ·)) = true)
    (deny "SOURCE_PIN_MISMATCH")
  require (strictEqual (field value "exporter_ref") (field approved "exporter_ref") = true)
    (deny "EXPORTER_SCOPE_MISMATCH")
  require (includes (field approved "allowed_tenant_refs") (field value "tenant_ref") = true)
    (deny "TENANT_OUT_OF_SCOPE")
  require (includes (field approved "allowed_actor_refs") (field value "actor_ref") = true)
    (deny "ACTOR_OUT_OF_SCOPE")
  validateBindings expected (field value "contract_bindings")
  require ((field value "contract_bindings").any (fun bindings =>
      (field approved "contract_bindings").any (same bindings ·)) = true)
    (deny "CONTRACT_BINDING_MISMATCH")
  require (safePositive (field value "requested_candidate_count") = true)
    (deny "VOLUME_LIMIT_EXCEEDED")
  let exceeded ← isLess (field (field approved "limits") "max_candidates_per_request")
    (field value "requested_candidate_count")
  rejectIf (exceeded = true) (deny "VOLUME_LIMIT_EXCEEDED")
  require (strictEqual (field value "approval_id") (field approved "approval_id") = true
      ∧ strictEqual (field value "approval_digest") (field approved "approval_digest") = true)
    (deny "APPROVAL_BINDING_MISMATCH")
  require (strictEqual (field value "time_evidence_digest")
      (field (some evidence) "time_evidence_digest") = true)
    (deny "TIME_BINDING_MISMATCH")
  validateRevocation value (field approved "revocation_binding") evidence
  requirePattern isDigest (field value "request_digest") "REQUEST_DIGEST_MISMATCH"
  require (hasText (field value "request_digest")
      (domainDigest requestDomain request "request_digest") = true)
    (deny "REQUEST_DIGEST_MISMATCH")

/-- The three validators, as the script calls them. -/
def verifyExport (expected approval evidence request : Value) : Except GateError Unit := do
  validateApproval expected approval
  validateTime evidence approval
  validateRequest expected request approval evidence

/-! ### What the helper functions establish -/

section Helpers

omit [EcmaScript] [Crypto]

theorem exactKeys_eq_ok {v : Value} {keys : List Text} (hv : v.WellFormed)
    (hkeys : ∀ key ∈ keys, key.isUtf8 = true) (h : exactKeys (some v) keys = .ok ()) :
    HasKeys (some v) keys := by
  cases v with
  | object fields =>
    rw [exactKeys, rejectIf_eq_ok, Bool.not_eq_false] at h
    have hutf8 := (Value.every_object.mp hv).1.1
    have hsorted : ∀ {list : List Text}, (∀ key ∈ list, key.isUtf8 = true) →
        ∀ key ∈ sortKeys list, key.isUtf8 = true :=
      fun hlist key hkey => hlist key ((List.mem_insertionSort _).mp hkey)
    have heq := same_keyList (hsorted (by simpa using hutf8)) (hsorted hkeys) h
    refine ⟨fields, rfl, ?_⟩
    intro key
    have hmem : key ∈ sortKeys (fields.map Prod.fst) ↔ key ∈ sortKeys keys := by rw [heq]
    rw [sortKeys, sortKeys, List.mem_insertionSort, List.mem_insertionSort] at hmem
    exact hmem
  | null | bool | number | string | array => cases h

/-- `validateForbiddenFlags` is exact: the flags are these, and each is false. -/
theorem validateForbiddenFlags_eq_ok {v : Value} {keys : List Text} (hv : v.WellFormed)
    (hkeys : ∀ key ∈ keys, key.isUtf8 = true)
    (h : validateForbiddenFlags (some v) keys = .ok ()) :
    HasKeys (some v) keys ∧ ∀ key ∈ keys, field (some v) key = some (.bool false) := by
  simp only [validateForbiddenFlags, bind_eq_ok, exists_unit_eq_ok, rejectIf_eq_ok,
    Bool.not_eq_true] at h
  have hhas := exactKeys_eq_ok hv hkeys h.1
  refine ⟨hhas, ?_⟩
  intro key hkey
  obtain ⟨w, hw⟩ := hhas.field hkey
  obtain ⟨fields, hfields, -⟩ := hhas
  cases hfields
  have hfalse := List.any_eq_false.mp h.2 w (List.mem_map.mpr ⟨_, mem_of_field hw, rfl⟩)
  rw [hw, not_not.mp (mt decide_eq_true hfalse)]

/-- A text that a list includes is one of its entries. -/
theorem includes_eq_true {list entry : Option Value} (h : includes list entry = true) :
    ∃ entries, list = some (.array entries) ∧ ∃ e ∈ entries, entry = some e := by
  unfold includes at h
  split at h
  · next entries =>
    obtain ⟨e, he, heq⟩ := List.any_eq_true.mp h
    exact ⟨entries, rfl, e, he, (strictEqual_eq_true heq).symm⟩
  · cases h

end Helpers

/-! ### The law -/

/-- Every flag of an object is false, and there are no others. -/
def NoneAllowed (flags : Option Value) (keys : List Text) : Prop :=
  HasKeys flags keys ∧ ∀ key ∈ keys, field flags key = some (.bool false)

/-- **The law of an export.** -/
structure ExportAllowed (approval evidence request : Option Value) : Prop where
  window : ∃ attested uncertainty validFrom validUntil : Nat,
    IsInteger (field evidence "attested_time_ms") attested
      ∧ IsInteger (field evidence "uncertainty_ms") uncertainty
      ∧ IsInteger (field (field approval "lifecycle") "valid_from_ms") validFrom
      ∧ IsInteger (field (field approval "lifecycle") "valid_until_ms") validUntil
      ∧ (validFrom : Int) ≤ attested - uncertainty ∧ attested + uncertainty < validUntil
  tenant : ∃ tenants, field approval "allowed_tenant_refs" = some (.array tenants)
    ∧ ∃ tenant ∈ tenants, field request "tenant_ref" = some tenant
  actor : ∃ actors, field approval "allowed_actor_refs" = some (.array actors)
    ∧ ∃ actor ∈ actors, field request "actor_ref" = some actor
  volume : ∃ count maximum : Nat,
    IsInteger (field request "requested_candidate_count") count
      ∧ IsInteger (field (field approval "limits") "max_candidates_per_request") maximum
      ∧ 1 ≤ count ∧ count ≤ maximum
  revision : ∃ revision minimum : Nat,
    IsInteger (field (field request "revocation_state") "registry_revision") revision
      ∧ IsInteger (field (field approval "revocation_binding") "minimum_registry_revision") minimum
      ∧ minimum ≤ revision
  policy : NoneAllowed (field approval "data_policy") policyKeys
  uses : NoneAllowed (field request "requested_uses") useKeys
  boundApproval : ∃ value, approval = some value
    ∧ field request "approval_id" = field approval "approval_id"
    ∧ field request "approval_digest"
      = some (.string (domainDigest approvalDomain value "approval_digest"))
  boundTime : ∃ value, evidence = some value
    ∧ field request "time_evidence_digest"
      = some (.string (domainDigest timeDomain value "time_evidence_digest"))
    ∧ field (field request "revocation_state") "checked_at_time_evidence_digest"
      = some (.string (domainDigest timeDomain value "time_evidence_digest"))
  sealedRequest : ∃ value, request = some value
    ∧ field request "request_digest"
      = some (.string (domainDigest requestDomain value "request_digest"))

/-! ### What each validator establishes -/

/-- What an accepted approval fixes. -/
structure Approves (approval : Value) (validFrom validUntil maximum minimum : Nat) : Prop where
  starts : IsInteger (field (field (some approval) "lifecycle") "valid_from_ms") validFrom
  ends : IsInteger (field (field (some approval) "lifecycle") "valid_until_ms") validUntil
  endsSafe : validUntil ≤ idrMaxSafeWireIntegerV1
  volume : IsInteger (field (field (some approval) "limits") "max_candidates_per_request") maximum
  revision : IsInteger (field (field (some approval) "revocation_binding")
    "minimum_registry_revision") minimum
  policy : NoneAllowed (field (some approval) "data_policy") policyKeys
  digest : field (some approval) "approval_digest"
    = some (.string (domainDigest approvalDomain approval "approval_digest"))

theorem validateApproval_eq_ok {expected : Value} {approval : ParsedJson}
    (h : validateApproval expected approval.value = .ok ()) :
    ∃ validFrom validUntil maximum minimum,
      Approves approval.value validFrom validUntil maximum minimum := by
  simp only [validateApproval, bind_eq_ok, exists_unit_eq_ok, require_eq_ok, exists_const] at h
  obtain ⟨hcanonical, hkeys, -, -, -, -, -, -, hflags, hterms, -, hdigest⟩ := h
  have hwell := approval.wellFormed (assertCanonicalValue_eq_ok _ hcanonical)
  have happroval := exactKeys_eq_ok hwell (by decide) hkeys
  obtain ⟨policy, hpolicy⟩ := happroval.field (show ("data_policy" : Text) ∈ _ by decide)
  rw [hpolicy] at hflags
  have hnone := validateForbiddenFlags_eq_ok (hwell.field hpolicy) (by decide) hflags
  rw [← hpolicy] at hnone
  simp only [validateTerms, bind_eq_ok, exists_unit_eq_ok, require_eq_ok, exists_const] at hterms
  obtain ⟨-, hvolume, -, -, hinterval, -, -, hrevocation, -⟩ := hterms
  obtain ⟨maximum, -, hmaximum, -, -⟩ := natural_any hvolume.1
  obtain ⟨validFrom, -, hfrom, -, -⟩ := natural_any hinterval.1
  obtain ⟨validUntil, -, huntil, hsafe, -⟩ := natural_any hinterval.2.1
  obtain ⟨minimum, -, hminimum, -, -⟩ := natural_any hrevocation.2.1
  exact ⟨validFrom, validUntil, maximum, minimum, hfrom, huntil, hsafe, hmaximum, hminimum, hnone,
    hasText_iff.mp hdigest⟩

theorem validateTime_eq_ok {evidence approval : Value} {validFrom validUntil maximum minimum : Nat}
    (happroval : Approves approval validFrom validUntil maximum minimum)
    (h : validateTime evidence approval = .ok ()) :
    (∃ attested uncertainty : Nat,
      IsInteger (field (some evidence) "attested_time_ms") attested
        ∧ IsInteger (field (some evidence) "uncertainty_ms") uncertainty
        ∧ (validFrom : Int) ≤ attested - uncertainty ∧ attested + uncertainty < validUntil)
      ∧ field (some evidence) "time_evidence_digest"
        = some (.string (domainDigest timeDomain evidence "time_evidence_digest")) := by
  simp only [validateTime, bind_eq_ok, exists_unit_eq_ok, require_eq_ok, rejectIf_eq_ok,
    exists_const] at h
  obtain ⟨-, -, -, -, -, -, -, -, -, -, hnumbers, -, hdigest, early, hearly, hnotEarly, late,
    hlate, hnotLate⟩ := h
  obtain ⟨attested, hattested, hfield, -, -⟩ := natural_any hnumbers.1
  obtain ⟨uncertainty, huncertain, hfield', -, -⟩ := natural_any hnumbers.2
  rw [hattested, huncertain, Option.getD_some, Option.getD_some] at hearly hlate
  rw [happroval.starts, ← numberValue_natCast, isLess_integers] at hearly
  rw [happroval.ends, ← numberValue_natCast, isGreaterOrEqual_integers] at hlate
  cases hearly
  cases hlate
  have hstarts : (validFrom : Int) ≤ attested - uncertainty :=
    not_lt.mp (mt decide_eq_true hnotEarly)
  have hends : addSafe attested uncertainty < validUntil := by
    exact_mod_cast not_le.mp (mt decide_eq_true hnotLate)
  rw [← not_le, le_addSafe_iff happroval.endsSafe, not_le] at hends
  exact ⟨⟨attested, uncertainty, hfield, hfield', hstarts, hends⟩, hasText_iff.mp hdigest⟩

/-- The revision of the registry is compared as it comes. -/
def RevisionIsNumber (request : Value) : Prop :=
  ∃ n, field (field (some request) "revocation_state") "registry_revision" = some (.number n)

/-- **When the law holds of an export that is accepted**: exactly when the revision is a number. -/
theorem verifyExport_allowed_iff (expected : Value) (approval evidence request : ParsedJson)
    (h : verifyExport expected approval.value evidence.value request.value = .ok ()) :
    ExportAllowed (some approval.value) (some evidence.value) (some request.value)
      ↔ RevisionIsNumber request.value := by
  constructor
  · -- the law asks for an integer
    intro hallowed
    obtain ⟨revision, -, hrevision, -⟩ := hallowed.revision
    exact ⟨_, hrevision⟩
  intro ⟨n, hn⟩
  simp only [verifyExport, bind_eq_ok, exists_unit_eq_ok] at h
  obtain ⟨happroval, htime, hrequest⟩ := h
  obtain ⟨validFrom, validUntil, maximum, minimum, happroves⟩ := validateApproval_eq_ok happroval
  obtain ⟨hwindow, hevidence⟩ := validateTime_eq_ok happroves htime
  simp only [validateRequest, bind_eq_ok, exists_unit_eq_ok, require_eq_ok, rejectIf_eq_ok,
    exists_const] at hrequest
  obtain ⟨hcanonical, hkeys, -, -, -, -, -, -, -, htenant, hactor, -, -, hcount, exceeded,
    hexceeded, hnotExceeded, hbound, htimeBound, hrevocation, -, hdigest⟩ := hrequest
  have hadmitted := assertCanonicalValue_eq_ok _ hcanonical
  have hwell := request.wellFormed hadmitted
  have hhas := exactKeys_eq_ok hwell (by decide) hkeys
  obtain ⟨count, -, hcount, -, hpositive⟩ := natural_any hcount
  rw [happroves.volume, hcount, ← numberValue_natCast, ← numberValue_natCast,
    isLess_integers] at hexceeded
  cases hexceeded
  simp only [validateRevocation, bind_eq_ok, exists_unit_eq_ok, require_eq_ok, rejectIf_eq_ok,
    exists_const] at hrevocation
  obtain ⟨-, -, rollback, hrollback, hnotRollback, -, hchecked, -, -, huses⟩ := hrevocation
  -- a number in a canonical value is an integer
  obtain ⟨state, hstate⟩ := hhas.field (show ("revocation_state" : Text) ∈ _ by decide)
  have hpart : Value.Every AdmittedNumber (.number n) := by
    rw [hstate] at hn
    exact (hadmitted.field hstate).field hn
  obtain ⟨revision, rfl, -⟩ := hpart.self n rfl
  rw [hn, happroves.revision, ← numberValue_natCast, ← numberValue_natCast,
    isLess_integers] at hrollback
  cases hrollback
  obtain ⟨uses, hfield⟩ := hhas.field (show ("requested_uses" : Text) ∈ _ by decide)
  rw [hfield] at huses
  have hnone := validateForbiddenFlags_eq_ok (hwell.field hfield) (by decide) huses
  rw [← hfield] at hnone
  exact {
    window := by
      obtain ⟨attested, uncertainty, hattested, huncertain, hstarts, hends⟩ := hwindow
      exact ⟨attested, uncertainty, validFrom, validUntil, hattested, huncertain, happroves.starts,
        happroves.ends, hstarts, hends⟩
    tenant := includes_eq_true htenant
    actor := includes_eq_true hactor
    volume := by
      refine ⟨count, maximum, hcount, happroves.volume, of_decide_eq_true hpositive, ?_⟩
      exact_mod_cast not_lt.mp (mt decide_eq_true hnotExceeded)
    revision := by
      refine ⟨revision, minimum, hn, happroves.revision, ?_⟩
      exact_mod_cast not_lt.mp (mt decide_eq_true hnotRollback)
    policy := happroves.policy
    uses := hnone
    boundApproval := by
      refine ⟨approval.value, rfl, strictEqual_eq_true hbound.1, ?_⟩
      rw [strictEqual_eq_true hbound.2, happroves.digest]
    boundTime := by
      refine ⟨evidence.value, rfl, ?_, ?_⟩
      · rw [strictEqual_eq_true htimeBound, hevidence]
      · rw [strictEqual_eq_true hchecked, hevidence]
    sealedRequest := ⟨request.value, rfl, hasText_iff.mp hdigest⟩ }

end Validators

/-! ### The fixtures -/

def Sample.sourcePin : Value :=
  .object [
    ("repository", .string "Aegis Life"),
    ("commit_sha", .string "381d14fb1dccfeae691286a39579535ef59f7b4e"),
    ("tree_sha", .string "da76b01653bb194e4f192e5768b32a38fd3b2173")]

def Sample.bindings : Value :=
  .object [
    ("structured_observation_schema_digest",
      .string "sha256:9fc11018249cc4053d4ddfa75e4eda6ae1f6638a592c115a05450249b2382b47"),
    ("ingress_source_contract_digest",
      .string "sha256:cb79455c5f0610dde99b5489da5761b6d9772189be3bb4a18e933fb5a44c467c"),
    ("producer_registry_digest",
      .string "sha256:b42a50b98f642874ff8afaab43fb3eea7b7a23d1e29b15fba71fbca839e5952a"),
    ("host_mapping_profile_digest",
      .string "sha256:826ade217c501b3ee9aa4caf795e78098d4d274e680f88a7103fc599253180ba"),
    ("representative_intake_schema_digest",
      .string "sha256:473798dffc683d9be807d83591c8c4058b5359a4b2d5d089bf270851778bfb69")]

/-- The fixture of an approval. -/
def Sample.approval : ParsedJson where
  value := .object [
    ("schema_id", .string "idr.aegis.representative-export-approval.v1"),
    ("schema_version", .number (.posInt 1)),
    ("approval_id", .string "approval.synthetic.phase10.v1"),
    ("assurance", .string "SYNTHETIC_ONLY"), ("source_pin", sourcePin),
    ("exporter_ref", .string "aegis.synthetic.conformance-exporter.v1"),
    ("purpose", .string "idr_offline_representative_evaluation"),
    ("allowed_source_classes", .array [.string "synthetic_control"]),
    ("allowed_tenant_refs", .array [.string "tenant.synthetic.alpha"]),
    ("allowed_actor_refs", .array [.string "actor.synthetic.0001"]),
    ("contract_bindings", bindings),
    ("data_policy", .object [
      ("allows_raw_content", .bool false), ("allows_credentials", .bool false),
      ("allows_human_model", .bool false), ("allows_personality_inference", .bool false),
      ("allows_model_training", .bool false), ("allows_secondary_use", .bool false),
      ("allows_onward_transfer", .bool false)]),
    ("limits", .object [
      ("max_candidates_per_request", .number (.posInt 10))]),
    ("lifecycle", .object [
      ("status", .string "ACTIVE"), ("valid_from_ms", .number (.posInt 2000000)),
      ("valid_until_ms", .number (.posInt 3000000)), ("supersedes_approval_id", .null)]),
    ("revocation_binding", .object [
      ("registry_ref", .string "aegis.synthetic.revocation-registry.v1"),
      ("minimum_registry_revision", .number (.posInt 7)),
      ("failure_policy", .string "DENY_ON_UNAVAILABLE_UNKNOWN_STALE_OR_ROLLBACK")]),
    ("issuer", .object [
      ("issuer_ref", .string "idr.synthetic.conformance-issuer.v1"),
      ("key_ref", .string "none.synthetic"), ("signature_algorithm", .string "NONE_SYNTHETIC"),
      ("signature", .string "not-a-production-signature")]),
    ("approval_digest",
      .string "sha256:2c0b866a4975c17291422bb1fa00fa45e7781980b836dd1d3fa0049e0f175513")]
  parsed := by decide +kernel

/-- The fixture of the evidence of time. -/
def Sample.evidence : ParsedJson where
  value := .object [
    ("schema_id", .string "idr.aegis.trusted-current-time-evidence.v1"),
    ("schema_version", .number (.posInt 1)), ("assurance", .string "SYNTHETIC_ONLY"),
    ("clock_source_ref", .string "idr.synthetic.conformance-clock.v1"),
    ("clock_profile_version", .number (.posInt 1)), ("clock_epoch", .number (.posInt 1)),
    ("sequence", .number (.posInt 42)),
    ("purpose", .string "aegis_representative_export_verification"),
    ("nonce", .string "clock-nonce-synthetic-0001"),
    ("attested_time_ms", .number (.posInt 2500000)), ("uncertainty_ms", .number (.posInt 1000)),
    ("signature_algorithm", .string "NONE_SYNTHETIC"),
    ("signature", .string "not-a-production-signature"),
    ("time_evidence_digest",
      .string "sha256:069c007b2545a0d113e5abe344d7fab853ac7c7c90d80dbb4d645cd7389444f8")]
  parsed := by decide +kernel

/-- The fixture of a request, with the revision of the registry and the digest. -/
def Sample.request (revision : Value) (digest : Text) : Value :=
  .object [
    ("schema_id", .string "idr.aegis.representative-export-verification-request.v1"),
    ("schema_version", .number (.posInt 1)),
    ("request_id", .string "request.synthetic.phase10.v1"),
    ("request_nonce", .string "request-nonce-synthetic-0001"),
    ("source_class", .string "synthetic_control"), ("source_pin", sourcePin),
    ("exporter_ref", .string "aegis.synthetic.conformance-exporter.v1"),
    ("purpose", .string "idr_offline_representative_evaluation"),
    ("tenant_ref", .string "tenant.synthetic.alpha"),
    ("actor_ref", .string "actor.synthetic.0001"), ("contract_bindings", bindings),
    ("requested_candidate_count", .number (.posInt 3)),
    ("approval_id", .string "approval.synthetic.phase10.v1"),
    ("approval_digest",
      .string "sha256:2c0b866a4975c17291422bb1fa00fa45e7781980b836dd1d3fa0049e0f175513"),
    ("time_evidence_digest",
      .string "sha256:069c007b2545a0d113e5abe344d7fab853ac7c7c90d80dbb4d645cd7389444f8"),
    ("revocation_state", .object [
      ("registry_ref", .string "aegis.synthetic.revocation-registry.v1"),
      ("registry_revision", revision), ("approval_status", .string "NOT_REVOKED"),
      ("checked_at_time_evidence_digest",
        .string "sha256:069c007b2545a0d113e5abe344d7fab853ac7c7c90d80dbb4d645cd7389444f8")]),
    ("lawful_basis", .object [
      ("status", .string "NOT_REQUIRED_SYNTHETIC"), ("proof_digest", .null)]),
    ("requested_uses", .object [
      ("raw_content", .bool false), ("credentials", .bool false), ("human_model", .bool false),
      ("personality_inference", .bool false), ("model_training", .bool false),
      ("secondary_use", .bool false), ("onward_transfer", .bool false)]),
    ("request_digest", .string digest)]

/-- SHA-256 of the preimages of the fixtures, for the digest of a request. -/
@[reducible]
def Sample.crypto (digest : Nat) : Crypto := Idr.Sample.domainCrypto [
  (approvalDomain, 0x2c0b866a4975c17291422bb1fa00fa45e7781980b836dd1d3fa0049e0f175513),
  (timeDomain, 0x069c007b2545a0d113e5abe344d7fab853ac7c7c90d80dbb4d645cd7389444f8),
  (requestDomain, digest)]

/-- The fixture of a request, as it is. -/
def Sample.golden : ParsedJson where
  value := Sample.request (.number (.posInt 7))
    "sha256:5d0dc2973ceb0ef8b384f5024f180382eb6ec315787a97f7aa430481751aedbe"
  parsed := by decide +kernel

/-- A request whose registry has no revision that is a number. -/
def Sample.unknownRevision : ParsedJson where
  value := Sample.request (.string "unknown")
    "sha256:7b6835e5cffaa65501fde9c4a1e1a0386e5362149dcd219a73a563d7b4d488a6"
  parsed := by decide +kernel

theorem Sample.both_accepted :
    @verifyExport Idr.Sample.plainHost
      (Sample.crypto 0x5d0dc2973ceb0ef8b384f5024f180382eb6ec315787a97f7aa430481751aedbe)
      Sample.bindings Sample.approval.value Sample.evidence.value Sample.golden.value = .ok ()
    ∧ @verifyExport Idr.Sample.plainHost
      (Sample.crypto 0x7b6835e5cffaa65501fde9c4a1e1a0386e5362149dcd219a73a563d7b4d488a6)
      Sample.bindings Sample.approval.value Sample.evidence.value Sample.unknownRevision.value
      = .ok () := by
  decide +kernel

/-- The fixtures as they are. -/
theorem verifyExport_allowed_golden :
    @ExportAllowed
      (Sample.crypto 0x5d0dc2973ceb0ef8b384f5024f180382eb6ec315787a97f7aa430481751aedbe)
      (some Sample.approval.value) (some Sample.evidence.value) (some Sample.golden.value) := by
  apply (@verifyExport_allowed_iff Idr.Sample.plainHost
    (Sample.crypto 0x5d0dc2973ceb0ef8b384f5024f180382eb6ec315787a97f7aa430481751aedbe)
    Sample.bindings Sample.approval Sample.evidence Sample.golden Sample.both_accepted.1).mpr
  exact ⟨_, rfl⟩

/-- **A revision that is no number is not below the least one**: the fixtures with the revision
`"unknown"`, sealed again, are accepted. -/
theorem revision_unknown_accepted :
    @verifyExport Idr.Sample.plainHost
        (Sample.crypto 0x7b6835e5cffaa65501fde9c4a1e1a0386e5362149dcd219a73a563d7b4d488a6)
        Sample.bindings Sample.approval.value Sample.evidence.value Sample.unknownRevision.value
        = .ok ()
      ∧ ¬ @ExportAllowed
        (Sample.crypto 0x7b6835e5cffaa65501fde9c4a1e1a0386e5362149dcd219a73a563d7b4d488a6)
        (some Sample.approval.value) (some Sample.evidence.value)
        (some Sample.unknownRevision.value) := by
  refine ⟨Sample.both_accepted.2, ?_⟩
  intro hallowed
  obtain ⟨revision, -, hrevision, -⟩ := @ExportAllowed.revision (Sample.crypto _) _ _ _ hallowed
  cases hrevision

end ExportApproval

end Idr
