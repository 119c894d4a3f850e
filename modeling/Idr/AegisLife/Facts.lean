/-
Idr/AegisLife/Facts.lean

What the packs of the corpus check of an observation.

Two packs describe the same facts, one as their producer and one as their
consumer, each with its own copy of the enumerations and of the assertions.  The
copies are equal here, so that they are stated once, with the code of an error as
a parameter where the packs differ; `FactsOk` and `RolesOk` say what passes.
-/
import Idr.AegisLife.EcmaScript

namespace Idr

/-! ### Enumerations -/

def sourceActors : List Text := ["user", "host", "agent", "tool", "external_system",
  "human_approver", "scheduler", "policy_engine", "device_environment"]

def semanticRoles : List Text := ["objective", "intent", "command", "fact", "observation",
  "proposal", "authorization", "policy", "result", "feedback", "time_trigger", "security_signal"]

def impactLevels : List Text := ["low", "medium", "high", "critical"]

def coordinationModes : List Text := ["respond_only", "act_then_respond", "respond_then_act",
  "respond_then_confirm_then_act", "parallel", "acknowledge_then_run",
  "stream_progress_then_final"]

def actionPostures : List Text := ["none", "blocked", "planned", "waiting_authorization"]

def runStates : List Text := ["pending", "running", "waiting_input", "waiting_authorization",
  "waiting_dependency", "succeeded", "rejected", "failed", "cancelled", "timed_out",
  "invalidated"]

/-! ### Shapes -/

def inputKeys : List Text := ["event_id", "run_id", "turn_id", "source_actor", "actor_ref",
  "primary_semantic_role", "semantic_roles", "content_ref", "content_digest", "correlation_ref",
  "logical_time", "schema_version"]

def fastPathBooleans : List Text := ["deterministic_command_match",
  "required_parameters_complete", "ambiguity_present", "authority_context_valid",
  "policy_allows_request", "reversible", "depends_on_human_model"]

def fastPathKeys : List Text := ["deterministic_command_match", "required_parameters_complete",
  "ambiguity_present", "authority_context_valid", "policy_allows_request", "impact_level",
  "reversible", "depends_on_human_model"]

def decisionBooleans : List Text := ["multiple_viable_options", "material_tradeoffs",
  "evidence_conflict", "irreversible_result", "affects_long_term_goal",
  "host_user_interest_conflict", "simple_lookup", "unique_legal_operation",
  "user_choice_already_explicit"]

def decisionKeys : List Text := ["multiple_viable_options", "material_tradeoffs",
  "evidence_conflict", "impact_level", "irreversible_result", "affects_long_term_goal",
  "host_user_interest_conflict", "simple_lookup", "unique_legal_operation",
  "user_choice_already_explicit"]

def coordinationKeys : List Text := ["response_planned", "action_planned",
  "explicit_confirmation_requested", "authorization_required", "action_is_read_only",
  "long_running", "stream_progress", "safe_to_parallelize"]

def hostProjectionKeys : List Text := ["coordination_mode", "action_posture", "next_run_state"]

/-- The leaves of a replay envelope, sorted. -/
def replayLeaves : List Text := sortKeys (
  (["observation_ref"] : List Text)
    ++ inputKeys.map (("assessment_request.input." : Text) ++ ·)
    ++ fastPathKeys.map (("assessment_request.fast_path_facts." : Text) ++ ·)
    ++ decisionKeys.map (("assessment_request.decision_facts." : Text) ++ ·)
    ++ coordinationKeys.map (("assessment_request.coordination_facts." : Text) ++ ·)
    ++ hostProjectionKeys.map (("host_projection." : Text) ++ ·))

/-! ### Patterns -/

def isTokenByte (b : UInt8) : Bool :=
  isUpperLetter b || isLowerLetter b || isDigitByte b || isOneOf "_.:-" b

/-- The pattern of a UUID, of the versions 1 to 5 and in lower case. -/
def isUuid (s : Text) : Bool :=
  byteLen s = 36 && s.bytes.zipIdx.all fun e =>
    if e.2 = 8 ∨ e.2 = 13 ∨ e.2 = 18 ∨ e.2 = 23 then isOneOf "-" e.1
    else if e.2 = 14 then isOneOf "12345" e.1
    else if e.2 = 19 then isOneOf "89ab" e.1
    else isLowerHexByte e.1

/-! ### Assertions -/

/-- A text of a pattern: `assertToken`, `assertRef`, `assertVersion` and `assertUuid`. -/
def assertPattern (matched : Text → Bool) (code : String) (value : Option Value) :
    Except GateError Unit :=
  match value with
  | some (.string s) => require (matched s = true) (deny code)
  | _ => .error (deny code)

/-- `assertDigest`. -/
def assertDigest : Option Value → Except GateError Unit := assertPattern isDigest "INVALID_DIGEST"

/-- `assertBoolean`. -/
def assertBoolean (value : Option Value) : Except GateError Unit :=
  match value with
  | some (.bool _) => .ok ()
  | _ => .error (deny "INVALID_BOOLEAN")

/-- `assertEnum`, of a set of texts. -/
def assertEnum (value : Option Value) (allowed : List Text) (code : String) :
    Except GateError Unit :=
  match value with
  | some (.string s) => require (s ∈ allowed) (deny code)
  | _ => .error (deny code)

/-- `assertInteger` and `assertPositiveInteger`: a safe integer from a least one on. -/
def assertInteger (minimum : Nat) (code : String) (value : Option Value) :
    Except GateError Unit :=
  require ((natural value).any (minimum ≤ ·) = true) (deny code)

/-- The number of a field that was asserted to be an integer. -/
def number (value : Option Value) : Nat := (natural value).getD 0

/-- An object of facts: booleans and members of enumerations. -/
def assertFacts (keys booleans : List Text) (enums : List (Text × List Text))
    (facts : Option Value) : Except GateError Unit := do
  exactShape "INVALID_SHAPE" facts keys keys
  booleans.forM fun key => assertBoolean (field facts key)
  enums.forM fun e => assertEnum (field facts e.1) e.2 "INVALID_ENUM"

/-- The facts of the fast path. -/
def assertFastPathFacts : Option Value → Except GateError Unit :=
  assertFacts fastPathKeys fastPathBooleans [("impact_level", impactLevels)]

/-- The facts of the decision. -/
def assertDecisionFacts : Option Value → Except GateError Unit :=
  assertFacts decisionKeys decisionBooleans [("impact_level", impactLevels)]

/-- The facts of the coordination. -/
def assertCoordinationFacts : Option Value → Except GateError Unit :=
  assertFacts coordinationKeys coordinationKeys []

/-- The projection of the host. -/
def assertHostProjection : Option Value → Except GateError Unit :=
  assertFacts hostProjectionKeys [] [("coordination_mode", coordinationModes),
    ("action_posture", actionPostures), ("next_run_state", runStates)]

/-! ### Leaves -/

mutual

/-- `collectLeafPaths` and `collectLeaves`: the paths to what is no object. -/
def collectLeaves (path : Text) : Value → List Text
  | .object fields => collectFieldLeaves path fields
  | _ => [path]

def collectFieldLeaves (path : Text) : List (Text × Value) → List Text
  | [] => []
  | (key, value) :: fields =>
    collectLeaves (if byteLen path = 0 then key else path ++ "." ++ key) value
      ++ collectFieldLeaves path fields

end

/-! ### What passes -/

theorem assertPattern_eq_ok {matched : Text → Bool} {code : String} {value : Option Value} :
    assertPattern matched code value = .ok () ↔
      ∃ s, value = some (.string s) ∧ matched s = true := by
  unfold assertPattern
  split
  · next s =>
    rw [require_eq_ok]
    exact ⟨fun h => ⟨s, rfl, h⟩, fun ⟨_, hs, h⟩ => by cases hs; exact h⟩
  · next hne =>
    exact ⟨fun h => (by cases h), fun ⟨s, hs, _⟩ => absurd hs (hne s)⟩

theorem assertBoolean_eq_ok {value : Option Value} :
    assertBoolean value = .ok () ↔ ∃ b, value = some (.bool b) := by
  unfold assertBoolean
  split
  · next b => exact ⟨fun _ => ⟨b, rfl⟩, fun _ => rfl⟩
  · next hne => exact ⟨fun h => (by cases h), fun ⟨b, hb⟩ => absurd hb (hne b)⟩

theorem assertEnum_eq_ok {value : Option Value} {allowed : List Text} {code : String} :
    assertEnum value allowed code = .ok () ↔ ∃ s ∈ allowed, value = some (.string s) := by
  unfold assertEnum
  split
  · next s =>
    rw [require_eq_ok]
    exact ⟨fun h => ⟨s, h, rfl⟩, fun ⟨_, h, hs⟩ => by cases hs; exact h⟩
  · next hne =>
    exact ⟨fun h => (by cases h), fun ⟨s, _, hs⟩ => absurd hs (hne s)⟩

theorem assertInteger_eq_ok {minimum : Nat} {code : String} {value : Option Value} :
    assertInteger minimum code value = .ok () ↔
      ∃ n, IsInteger value n ∧ minimum ≤ n ∧ n ≤ idrMaxSafeWireIntegerV1 := by
  rw [assertInteger, require_eq_ok]
  constructor
  · intro h
    obtain ⟨n, -, hn, hmax, hmin⟩ := natural_any h
    exact ⟨n, hn, of_decide_eq_true hmin, hmax⟩
  · rintro ⟨n, hn, hmin, hmax⟩
    rw [natural_eq_some.mpr ⟨hn, hmax⟩]
    exact decide_eq_true hmin

/-- **Facts that pass**: an object with these properties, each of them of its kind. -/
structure FactsOk (keys booleans : List Text) (enums : List (Text × List Text))
    (facts : Option Value) : Prop where
  keys : HasKeys facts keys
  booleans : ∀ key ∈ booleans, ∃ b, field facts key = some (.bool b)
  enums : ∀ e ∈ enums, ∃ s ∈ e.2, field facts e.1 = some (.string s)

theorem assertFacts_eq_ok {keys booleans : List Text} {enums : List (Text × List Text)}
    {facts : Option Value} :
    assertFacts keys booleans enums facts = .ok () ↔ FactsOk keys booleans enums facts := by
  simp only [assertFacts, bind_eq_ok, exists_unit_eq_ok, exactShape_eq_ok, forM_eq_ok,
    assertBoolean_eq_ok, assertEnum_eq_ok]
  constructor
  · rintro ⟨hkeys, _, hbooleans, henums⟩
    exact ⟨hkeys, hbooleans, henums⟩
  · intro h
    exact ⟨h.keys, (), h.booleans, h.enums⟩

/-- **Roles that pass**: distinct roles, the primary one among them. -/
def RolesOk (roles primary : Option Value) : Prop :=
  ∃ texts : List Text, roles = some (.array (texts.map .string)) ∧ texts ≠ [] ∧ texts.Nodup
    ∧ (∀ t ∈ texts, t ∈ semanticRoles) ∧ ∃ t ∈ texts, primary = some (.string t)

/-- There are as many roles as the enumeration has, at most. -/
theorem RolesOk.length_le {roles primary : Option Value} (h : RolesOk roles primary) :
    ∃ entries, roles = some (.array entries) ∧ entries.length ≤ 12 := by
  obtain ⟨texts, rfl, -, hnodup, hall, -⟩ := h
  refine ⟨_, rfl, ?_⟩
  rw [List.length_map]
  exact (List.Subperm.length_le (List.subperm_of_subset hnodup hall)).trans (by decide)

/-- Values that are members of an enumeration are texts of it. -/
theorem exists_texts {entries : List Value} {allowed : List Text}
    (h : ∀ v ∈ entries, ∃ s ∈ allowed, v = .string s) :
    ∃ texts : List Text, entries = texts.map .string ∧ ∀ t ∈ texts, t ∈ allowed := by
  induction entries with
  | nil => exact ⟨[], rfl, fun t ht => (by cases ht)⟩
  | cons v entries ih =>
    rw [List.forall_mem_cons] at h
    obtain ⟨⟨s, hs, rfl⟩, hrest⟩ := h
    obtain ⟨texts, rfl, hall⟩ := ih hrest
    exact ⟨s :: texts, rfl, List.forall_mem_cons.mpr ⟨hs, hall⟩⟩

theorem string_injective : Function.Injective Value.string := fun _ _ h => Value.string.inj h

/-! ### Every part -/

/-- **A scan passes** when every name of a property does. -/
theorem scanNames_eq_ok {check : Text → Except GateError Unit} (v : Value) :
    scanNames check v = .ok () ↔
      v.Every fun u => ∀ fields, u = .object fields → ∀ f ∈ fields, check f.1 = .ok () := by
  have helements : ∀ {values : List Value}, scanElements check values = .ok () ↔
      ∀ v ∈ values, scanNames check v = .ok () := by
    intro values
    induction values with
    | nil => exact ⟨fun _ v hv => (by cases hv), fun _ => rfl⟩
    | cons v values ih =>
      rw [List.forall_mem_cons, ← ih]
      simp only [scanElements, bind_eq_ok, exists_unit_eq_ok]
  have hfields : ∀ {fields : List (Text × Value)}, scanFields check fields = .ok () ↔
      ∀ f ∈ fields, check f.1 = .ok () ∧ scanNames check f.2 = .ok () := by
    intro fields
    induction fields with
    | nil => exact ⟨fun _ f hf => (by cases hf), fun _ => rfl⟩
    | cons f fields ih =>
      rw [List.forall_mem_cons, ← ih]
      simp only [scanFields, bind_eq_ok, exists_unit_eq_ok, and_assoc]
  induction v using Value.induction with
  | harray values ih =>
    rw [Value.every_array, scanNames, helements, forall₂_congr ih]
    exact ⟨fun h => ⟨fun fields hf => (by cases hf), h⟩, fun h => h.2⟩
  | hobject fields ih =>
    rw [Value.every_object, scanNames, hfields]
    constructor
    · intro h
      refine ⟨?_, fun f hf => (ih f hf).mp (h f hf).2⟩
      rintro _ ⟨⟩ f hf
      exact (h f hf).1
    · exact fun h f hf => ⟨h.1 fields rfl f hf, (ih f hf).mpr (h.2 f hf)⟩
  | _ =>
    constructor
    · intro _ u hu
      cases hu
      exact fun fields hf => (by cases hf)
    · exact fun _ => rfl

/-- A value without parts has a property of its own. -/
theorem every_leaf {p : Value → Prop} {v : Value} (harray : ∀ values, v ≠ .array values)
    (hobject : ∀ fields, v ≠ .object fields) (h : p v) : v.Every p := by
  intro u hu
  cases hu with
  | refl => exact h
  | element hv => exact absurd rfl (harray _)
  | field hf => exact absurd rfl (hobject _)

end Idr
