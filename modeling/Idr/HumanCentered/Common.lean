/-
Idr/HumanCentered/Common.lean

References, metadata and digests of the human-centered contracts.

A contract is referred to by its kind, its identifier, its revision and the
digest of its record.  The metadata of a contract name the references it
depends on and the revision it replaces; `validate` ties the three together,
so that a contract never depends on its own revision or a later one.

The digests are taken of compact JSON, in the order of the declarations.
How a finite float is written is left to the library that writes it, and
enters as the class `FloatText`.
-/
import Idr.Lib.Except
import Idr.Protocol.Json

namespace Idr

/-! ### Errors -/

/-- `HumanCenteredProtocolError`. -/
inductive HumanCenteredProtocolError
  | emptyIdentifier
  | invalidBasisPoints (value : Nat)
  | invalidText
  | invalidReference
  | invalidContractReference
  | invalidMetadata
  | contractKindMismatch
  | invalidRevisionLineage
  | invalidDependency
  | collectionLimitExceeded
  | payloadLimitExceeded
  | invalidContract
  | invalidTransition
  | digestMismatch
  | proofVerificationFailed
  | revisionOverflow
  | serialization
  deriving DecidableEq

/-- What every `validate` returns. -/
abbrev Validated := Except HumanCenteredProtocolError Unit

def humanCenteredSchemaVersion : Nat := 1

def humanCenteredMaxSafeWireInteger : Nat := 9007199254740991

/-- The largest `u64`. -/
def u64Max : Nat := 2 ^ 64 - 1

/-- `u64::checked_add(1)`. -/
def checkedSucc (n : Nat) : Option Nat := if n < u64Max then some (n + 1) else none

theorem checkedSucc_eq_some {n m : Nat} : checkedSucc n = some m ↔ n < u64Max ∧ n + 1 = m := by
  simp [checkedSucc]

/-! ### Identifiers -/

/-- The check of `from_uuid`. -/
def isHumanCenteredId (value : Uuid) : Bool :=
  !value.isNil && value.isRfc4122 && 1 ≤ value.versionNum && value.versionNum ≤ 8

/-- An identifier of the macro `uuid_id`.  The check is a field: there is no other way to make
one. -/
structure HumanCenteredIdV1 where
  asUuid : Uuid
  valid : isHumanCenteredId asUuid = true
  deriving DecidableEq

abbrev HumanCenteredRunIdV1 := HumanCenteredIdV1
abbrev HumanCenteredTurnIdV1 := HumanCenteredIdV1
abbrev HumanCenteredContractIdV1 := HumanCenteredIdV1
abbrev HumanModelAssertionIdV1 := HumanCenteredIdV1
abbrev HumanCenteredProofIdV1 := HumanCenteredIdV1

def HumanCenteredIdV1.isEmpty (self : HumanCenteredIdV1) : Bool := self.asUuid.isNil

instance : Serialize HumanCenteredIdV1 := ⟨fun self => toValue self.asUuid⟩

/-! ### Small values -/

/-- `HumanCenteredContractKindV1`, in the order the source derives. -/
inductive HumanCenteredContractKindV1
  | intent
  | decision
  | turnCoordination
  | response
  | action
  | executionReceipt
  | outcome
  | humanModelAssertion
  | humanModelUpdateCandidate
  deriving DecidableEq

namespace HumanCenteredContractKindV1

def wireName : HumanCenteredContractKindV1 → Text
  | intent => "intent"
  | decision => "decision"
  | turnCoordination => "turn_coordination"
  | response => "response"
  | action => "action"
  | executionReceipt => "execution_receipt"
  | outcome => "outcome"
  | humanModelAssertion => "human_model_assertion"
  | humanModelUpdateCandidate => "human_model_update_candidate"

/-- The place of a kind in its declaration, which is what `Ord` compares. -/
def index : HumanCenteredContractKindV1 → Nat
  | intent => 0
  | decision => 1
  | turnCoordination => 2
  | response => 3
  | action => 4
  | executionReceipt => 5
  | outcome => 6
  | humanModelAssertion => 7
  | humanModelUpdateCandidate => 8

end HumanCenteredContractKindV1

instance : Serialize HumanCenteredContractKindV1 := ⟨fun self => .string self.wireName⟩

/-- `UnitIntervalBasisPointsV1`: at most 10000. -/
structure UnitIntervalBasisPointsV1 where
  value : Nat
  valid : value ≤ 10000
  deriving DecidableEq

instance : Serialize UnitIntervalBasisPointsV1 := ⟨fun self => toValue self.value⟩

/-- `ImpactLevelV1`. -/
inductive ImpactLevelV1
  | low
  | medium
  | high
  | critical
  deriving DecidableEq

namespace ImpactLevelV1

def rank : ImpactLevelV1 → Nat
  | low => 0
  | medium => 1
  | high => 2
  | critical => 3

def wireName : ImpactLevelV1 → Text
  | low => "low"
  | medium => "medium"
  | high => "high"
  | critical => "critical"

end ImpactLevelV1

instance : Serialize ImpactLevelV1 := ⟨fun self => .string self.wireName⟩

/-! ### Texts -/

/-- `value.trim().is_empty()`. -/
def Text.isBlank (value : Text) : Bool := (trim (scalarValues value)).isEmpty

/-- A reference is never blank: it is checked when it is made. -/
@[simp] theorem ReferenceV1.isBlank_asStr (r : ReferenceV1) : r.asStr.isBlank = false := by
  have h := r.valid
  simp only [isReference, Bool.and_eq_true, Bool.not_eq_true'] at h
  exact h.1.1.1

/-- `validate_required_text`. -/
def validateRequiredText (value : Text) : Validated :=
  rejectIf (value.isBlank = true ∨ byteLen value > 4096
      ∨ (scalarValues value).any isControl = true)
    .invalidText

/-- `validate_text_collection`. -/
def validateTextCollection (values : List Text) : Validated := do
  rejectIf (values.length > 256) .collectionLimitExceeded
  values.forM validateRequiredText

/-- `unique_strings`. -/
def uniqueStrings (values : List Text) : Bool := decide values.Nodup

/-! ### JSON

`serde_json::to_vec` writes without blanks, the fields of a structure in their order. -/

/-- How a finite float is written. -/
class FloatText where
  write : BitVec 64 → List UInt8

section Json

variable [FloatText]

/-- `Number::to_string`. -/
def writeNumber : Number → Writer
  | .float bits => (FloatText.write bits ++ ·)
  | n => (numberBytes n ++ ·)

mutual

def writeValue : Value → Writer
  | .null => ([110, 117, 108, 108] ++ ·)
  | .bool true => ([116, 114, 117, 101] ++ ·)
  | .bool false => ([102, 97, 108, 115, 101] ++ ·)
  | .number n => writeNumber n
  | .string s => writeString s
  | .array values => fun rest => 91 :: joinComma (writeItems values) (93 :: rest)
  | .object fields => fun rest => 123 :: joinComma (writeMembers fields) (125 :: rest)

def writeItems : List Value → List Writer
  | [] => []
  | v :: vs => writeValue v :: writeItems vs

def writeMembers : List (Text × Value) → List Writer
  | [] => []
  | (key, v) :: fields => (fun rest => writeString key (58 :: writeValue v rest)) ::
      writeMembers fields

end

/-- `serde_json::to_vec`.  It does not fail on the types of this crate: the keys of their maps are
strings. -/
def toVec {α : Type} [Serialize α] (value : α) : List UInt8 := writeValue (toValue value) []

/-- `contract_digest`. -/
def contractDigest [Crypto] {α : Type} [Serialize α] (domain : Text) (value : α) : Text :=
  sha256Hex (toVec (domain, value))

/-- The loop of `validate_json_payload`; the first argument is the number of nodes that may still be
visited. -/
def validateJsonPayloadLoop : Nat → List (Value × Nat) → Validated
  | _, [] => .ok ()
  | 0, _ :: _ => .error .payloadLimitExceeded
  | n + 1, (node, depth) :: stack =>
    if depth > 32 then .error .payloadLimitExceeded
    else match node with
      | .array values =>
        validateJsonPayloadLoop n ((values.map fun child => (child, depth + 1)).reverse ++ stack)
      | .object fields =>
        validateJsonPayloadLoop n ((fields.map fun f => (f.2, depth + 1)).reverse ++ stack)
      | _ => validateJsonPayloadLoop n stack

/-- `validate_json_payload`. -/
def validateJsonPayload (value : Value) : Validated := do
  rejectIf ((toVec value).length > 1048576) .payloadLimitExceeded
  validateJsonPayloadLoop 10000 [(value, 1)]

end Json

/-! ### References to contracts -/

/-- `HumanCenteredContractRefV1`. -/
structure HumanCenteredContractRefV1 where
  kind : HumanCenteredContractKindV1
  contractId : HumanCenteredContractIdV1
  revision : Nat
  recordDigest : Text
  deriving DecidableEq

namespace HumanCenteredContractRefV1

def validate (self : HumanCenteredContractRefV1) : Validated :=
  rejectIf (self.contractId.isEmpty = true
      ∨ self.revision = 0
      ∨ self.revision > humanCenteredMaxSafeWireInteger
      ∨ validDigest self.recordDigest = false)
    .invalidContractReference

def new (kind : HumanCenteredContractKindV1) (contractId : HumanCenteredContractIdV1)
    (revision : Nat) (recordDigest : Text) :
    Except HumanCenteredProtocolError HumanCenteredContractRefV1 := do
  let value : HumanCenteredContractRefV1 := { kind, contractId, revision, recordDigest }
  value.validate
  .ok value

/-- The two references are to revisions of one contract. -/
def sameContract (a b : HumanCenteredContractRefV1) : Bool :=
  a.kind = b.kind && a.contractId = b.contractId

/-- The derived `Ord`: kind, identifier, revision, digest, the first difference decides. -/
def compare (a b : HumanCenteredContractRefV1) : Ordering :=
  (Ord.compare a.kind.index b.kind.index).then <|
    (Ord.compare a.contractId.asUuid.toNat b.contractId.asUuid.toNat).then <|
      (Ord.compare a.revision b.revision).then <| compareText a.recordDigest b.recordDigest

theorem new_eq_ok {kind : HumanCenteredContractKindV1} {contractId : HumanCenteredContractIdV1}
    {revision : Nat} {recordDigest : Text} {r : HumanCenteredContractRefV1} :
    new kind contractId revision recordDigest = .ok r ↔
      r = ⟨kind, contractId, revision, recordDigest⟩ ∧ r.validate = .ok () := by
  simp only [new, bind_eq_ok, Except.ok.injEq]
  constructor
  · rintro ⟨⟨⟩, hvalid, rfl⟩
    exact ⟨rfl, hvalid⟩
  · rintro ⟨rfl, hvalid⟩
    exact ⟨(), hvalid, rfl⟩

end HumanCenteredContractRefV1

instance : Serialize HumanCenteredContractRefV1 where
  toValue self := .object [
    ("kind", toValue self.kind),
    ("contract_id", toValue self.contractId),
    ("revision", toValue self.revision),
    ("record_digest", toValue self.recordDigest)]

/-! ### The authority a contract is issued under -/

/-- `AuthorityContextV1`. -/
structure AuthorityContextV1 where
  subjectRef : ReferenceV1
  actorRef : ReferenceV1
  callerRef : ReferenceV1
  tenantRef : ReferenceV1
  scopeRef : ReferenceV1
  purposeRef : ReferenceV1
  operationRef : ReferenceV1
  deriving DecidableEq

/-- `AuthorityContextV1::validate`: each reference is made again. -/
def AuthorityContextV1.validate (self : AuthorityContextV1) : Validated :=
  [self.subjectRef, self.actorRef, self.callerRef, self.tenantRef, self.scopeRef, self.purposeRef,
    self.operationRef].forM fun reference =>
      rejectIf (isReference reference.asStr = false) .invalidReference

instance : Serialize AuthorityContextV1 where
  toValue self := .object [
    ("subject_ref", toValue self.subjectRef),
    ("actor_ref", toValue self.actorRef),
    ("caller_ref", toValue self.callerRef),
    ("tenant_ref", toValue self.tenantRef),
    ("scope_ref", toValue self.scopeRef),
    ("purpose_ref", toValue self.purposeRef),
    ("operation_ref", toValue self.operationRef)]

/-! ### Metadata -/

/-- `HumanCenteredContractMetadataV1`. -/
structure HumanCenteredContractMetadataV1 where
  contractKind : HumanCenteredContractKindV1
  contractId : HumanCenteredContractIdV1
  runId : HumanCenteredRunIdV1
  turnId : HumanCenteredTurnIdV1
  revision : Nat
  predecessorRef : Option HumanCenteredContractRefV1
  authorityContext : AuthorityContextV1
  evidenceRefs : List ReferenceV1
  dependencyRefs : List HumanCenteredContractRefV1
  policyRevisionRef : ReferenceV1
  validUntil : Nat
  schemaVersion : Nat
  deriving DecidableEq

namespace HumanCenteredContractMetadataV1

/-- The revision follows the one that is replaced. -/
def validateLineage (self : HumanCenteredContractMetadataV1) : Validated :=
  match self.predecessorRef with
  | none => rejectIf (self.revision ≠ 1) .invalidRevisionLineage
  | some previous => do
    rejectIf (¬ (previous.kind = self.contractKind ∧ previous.contractId = self.contractId
        ∧ checkedSucc previous.revision = some self.revision))
      .invalidRevisionLineage
    previous.validate

/-- A dependency is not this revision of the contract, nor a later one. -/
def validateDependency (self : HumanCenteredContractMetadataV1)
    (reference : HumanCenteredContractRefV1) : Validated := do
  reference.validate
  rejectIf (reference.contractId = self.contractId ∧ reference.revision ≥ self.revision)
    .invalidDependency

def validate (self : HumanCenteredContractMetadataV1) : Validated := do
  rejectIf (self.contractId.isEmpty = true
      ∨ self.runId.isEmpty = true
      ∨ self.turnId.isEmpty = true
      ∨ self.revision = 0
      ∨ self.revision > humanCenteredMaxSafeWireInteger
      ∨ self.validUntil = 0
      ∨ self.validUntil > humanCenteredMaxSafeWireInteger
      ∨ self.policyRevisionRef.asStr.isBlank = true
      ∨ self.schemaVersion ≠ humanCenteredSchemaVersion)
    .invalidMetadata
  self.authorityContext.validate
  self.validateLineage
  self.dependencyRefs.forM self.validateDependency

end HumanCenteredContractMetadataV1

instance : Serialize HumanCenteredContractMetadataV1 where
  toValue self := .object [
    ("contract_kind", toValue self.contractKind),
    ("contract_id", toValue self.contractId),
    ("run_id", toValue self.runId),
    ("turn_id", toValue self.turnId),
    ("revision", toValue self.revision),
    ("predecessor_ref", toValue self.predecessorRef),
    ("authority_context", toValue self.authorityContext),
    ("evidence_refs", toValue self.evidenceRefs),
    ("dependency_refs", toValue self.dependencyRefs),
    ("policy_revision_ref", toValue self.policyRevisionRef),
    ("valid_until", toValue self.validUntil),
    ("schema_version", toValue self.schemaVersion)]

/-- What valid metadata say of the contract. -/
structure MetadataOk (self : HumanCenteredContractMetadataV1) : Prop where
  revision : self.revision ≠ 0 ∧ self.revision ≤ humanCenteredMaxSafeWireInteger
  initial : self.predecessorRef = none → self.revision = 1
  successor : ∀ previous, self.predecessorRef = some previous →
    previous.kind = self.contractKind ∧ previous.contractId = self.contractId ∧
      self.revision = previous.revision + 1 ∧ previous.validate = .ok ()
  dependencies : ∀ reference ∈ self.dependencyRefs, reference.validate = .ok () ∧
    (reference.contractId = self.contractId → reference.revision < self.revision)

theorem HumanCenteredContractMetadataV1.validate_eq_ok {self : HumanCenteredContractMetadataV1}
    (h : self.validate = .ok ()) : MetadataOk self := by
  simp only [HumanCenteredContractMetadataV1.validate, bind_eq_ok, exists_unit_eq_ok,
    rejectIf_eq_ok, exists_const, not_or, not_not, Nat.not_lt] at h
  obtain ⟨⟨-, -, -, hrevision, hsafe, -⟩, -, hlineage, hdependencies⟩ := h
  refine ⟨⟨hrevision, hsafe⟩, fun hnone => ?_, fun previous hprevious => ?_,
    fun reference hmem => ?_⟩
  · rw [validateLineage, hnone] at hlineage
    simpa using hlineage
  · rw [validateLineage, hprevious] at hlineage
    simp only [bind_eq_ok, rejectIf_eq_ok, not_not] at hlineage
    obtain ⟨-, ⟨hkind, hid, hsucc⟩, hvalid⟩ := hlineage
    exact ⟨hkind, hid, (checkedSucc_eq_some.mp hsucc).2.symm, hvalid⟩
  · have hdependency := forM_eq_ok.mp hdependencies reference hmem
    simp only [validateDependency, bind_eq_ok, exists_unit_eq_ok, rejectIf_eq_ok, not_and,
      Nat.not_le] at hdependency
    exact hdependency

/-! ### A sample context -/

namespace StoreSample

/-- The samples hold no floats. -/
@[reducible]
def floatText : FloatText where
  write _ := []

def runId : HumanCenteredIdV1 := ⟨0x10000000000040008000000000000001, by decide +kernel⟩
def turnId : HumanCenteredIdV1 := ⟨0x10000000000040008000000000000002, by decide +kernel⟩
def firstId : HumanCenteredIdV1 := ⟨0x10000000000040008000000000000003, by decide +kernel⟩
def secondId : HumanCenteredIdV1 := ⟨0x10000000000040008000000000000004, by decide +kernel⟩
def party : ReferenceV1 := ⟨"x:test", by decide +kernel⟩

def context : AuthorityContextV1 := ⟨party, party, party, party, party, party, party⟩

def metadata (kind : HumanCenteredContractKindV1) (contractId : HumanCenteredIdV1)
    (predecessor : Option HumanCenteredContractRefV1)
    (dependencies : List HumanCenteredContractRefV1) : HumanCenteredContractMetadataV1 where
  contractKind := kind
  contractId := contractId
  runId := runId
  turnId := turnId
  revision := (predecessor.map (·.revision + 1)).getD 1
  predecessorRef := predecessor
  authorityContext := context
  evidenceRefs := []
  dependencyRefs := dependencies
  policyRevisionRef := party
  validUntil := 100000
  schemaVersion := 1

end StoreSample

end Idr
