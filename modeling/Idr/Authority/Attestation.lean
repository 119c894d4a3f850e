/-
Idr/Authority/Attestation.lean

Attestations: what a transaction opens before its first write.

An attestation names the transition it is for and carries a MAC under the
key of the orchestrator.  The database recomputes the same MAC under the
same key before it lets the row in, so only the checks that can differ
are made here.  Every row a transaction writes passes the view bridge,
which compares the row's identity columns with the active attestation.
-/
import Idr.Authority.Rows

namespace Idr

/-! ### Errors of the database -/

/-- An exception that a trigger raises. -/
def raise (message : String) : IdrRuntimeErrorV1 := .repository message

/-- A violated unique constraint. -/
def uniqueViolation : IdrRuntimeErrorV1 := .repository "unique violation"

/-- A violated foreign key. -/
def foreignKeyViolation : IdrRuntimeErrorV1 := .repository "foreign key violation"

/-- A violated check. -/
def checkViolation : IdrRuntimeErrorV1 := .repository "check violation"

/-! ### The attested material -/

variable [Crypto]

/-- `OrchestratorAttestationKeyV1::mac`: HMAC-SHA-256. -/
def PostgresIdrOrchestratorV1.mac (self : PostgresIdrOrchestratorV1) (payload : List UInt8) :
    Text :=
  let keyBlock := self.attestationKey ++ List.replicate (64 - self.attestationKey.length) 0
  let innerPad := keyBlock.map fun byte => 0x36 ^^^ byte
  let outerPad := keyBlock.map fun byte => 0x5c ^^^ byte
  let innerDigest := (Crypto.sha256 (innerPad ++ payload)).toList
  sha256Hex (outerPad ++ innerDigest)

omit [Crypto] in
/-- `hex_utf8`. -/
def hexUtf8 (value : Text) : Text := encodeHex value.bytes

omit [Crypto] in
/-- The lines of the material of an attestation, after the first. -/
def AttestationRow.materialLines (row : AttestationRow) : List Text := [
  row.trustDomain.wireName,
  hexUtf8 row.environmentRef.asStr,
  row.purpose.wireName,
  row.attestationId.toString,
  row.commandId.toString,
  row.runId.toString,
  hexUtf8 row.tenantRef,
  ⟨decimalBytes row.preAggregateVersion⟩,
  ⟨decimalBytes row.postAggregateVersion⟩,
  row.commandDigest,
  row.transitionDigest,
  ⟨decimalBytes row.databaseTxid⟩,
  ⟨decimalBytes row.backendPid⟩,
  row.nonce.toString,
  ⟨decimalBytes row.keyVersion⟩]

omit [Crypto] in
/-- `orchestrator_attestation_material_v1`. -/
def orchestratorAttestationMaterialV1 (row : AttestationRow) :
    Except IdrRuntimeErrorV1 (List UInt8) := do
  rejectIf (byteLen row.commandDigest ≠ 64
      ∨ byteLen row.transitionDigest ≠ 64
      ∨ row.postAggregateVersion < row.preAggregateVersion)
    .serialization
  .ok (Text.bytes "IDR-ORCHESTRATOR-ATTESTATION-V1" ++
    row.materialLines.flatMap fun line => 10 :: line.bytes)

/-! ### Opening and verifying -/

/-- The binding of a transaction that the database checks when an attestation is opened. -/
def validAttestationBinding (row : AttestationRow) : Bool :=
  row.preAggregateVersion ≤ row.postAggregateVersion && validDigest row.commandDigest
    && validDigest row.transitionDigest && validDigest row.mac

/-- `open_orchestrator_attestation` and the insert of `idr_open_attested_transition_v8`. -/
def PostgresIdrOrchestratorV1.openAttestation (self : PostgresIdrOrchestratorV1) (db : DatabaseV1)
    (i : TransactInputV1) (purpose : AttestationPurposeV7) (commandId runId : Uuid)
    (tenantRef : Text) (preAggregateVersion postAggregateVersion : Nat)
    (commandDigest transitionDigest : Text) :
    Except IdrRuntimeErrorV1 (AttestationRow × DatabaseV1) := do
  let claimed : AttestationRow := {
    attestationId := i.attestationId
    trustDomain := self.trustDomain
    environmentRef := self.environmentRef
    purpose
    commandId
    runId
    tenantRef
    preAggregateVersion
    postAggregateVersion
    commandDigest
    transitionDigest
    databaseTxid := i.databaseTxid
    backendPid := i.backendPid
    nonce := i.attestationNonce
    keyVersion := self.attestationKeyVersion
    mac := "" }
  let material ← orchestratorAttestationMaterialV1 claimed
  let attestation := { claimed with mac := self.mac material }
  require (validAttestationBinding attestation = true)
    (raise "IDR Orchestrator attestation transaction binding is invalid")
  let attestations ← insertRow (fun row => row.attestationId = attestation.attestationId
      || row.nonce = attestation.nonce
      || (row.purpose = attestation.purpose && row.commandId = attestation.commandId
        && row.transitionDigest = attestation.transitionDigest))
    uniqueViolation attestation db.attestations
  .ok (attestation, { db with attestations })

/-- `verify_attestation_row`. -/
def PostgresIdrOrchestratorV1.verifyAttestationRow (self : PostgresIdrOrchestratorV1)
    (row : AttestationRow) : Except IdrRuntimeErrorV1 Uuid := do
  rejectIf (row.trustDomain ≠ self.trustDomain
      ∨ row.environmentRef ≠ self.environmentRef
      ∨ row.keyVersion ≠ self.attestationKeyVersion
      ∨ row.postAggregateVersion < row.preAggregateVersion)
    .integrityViolation
  let material ← orchestratorAttestationMaterialV1 row
  rejectIf (self.mac material ≠ row.mac) .integrityViolation
  .ok row.attestationId

/-- `command_receipt_mac`. -/
def PostgresIdrOrchestratorV1.commandReceiptMac (self : PostgresIdrOrchestratorV1)
    (receipt : IdrCommandReceiptV1) : Except IdrRuntimeErrorV1 Text := do
  rejectIf (receipt.idempotentReplay = true) .integrityViolation
  let receiptDigest ← fromProtocol (canonicalDigestV1 "idr-command-receipt-v1" receipt)
  .ok (self.mac receiptDigest.bytes)

/-! ### The view bridge -/

omit [Crypto] in
/-- `idr_attested_authority_view_bridge_v7`: the identity columns of a row are the attested ones.
An attestation for the tenant `*` admits every tenant, one for the zero run every run. -/
def bridgeAdmits (attestation : AttestationRow) (trustDomain : TrustDomainV1)
    (environmentRef : ReferenceV1) (tenantRef : Text) (runId : Uuid) :
    Except IdrRuntimeErrorV1 Unit := do
  rejectIf (trustDomain ≠ attestation.trustDomain)
    (raise "Authority row trust domain is not attested")
  rejectIf (environmentRef ≠ attestation.environmentRef)
    (raise "Authority row environment is not attested")
  rejectIf (attestation.tenantRef ≠ ("*" : Text) ∧ tenantRef ≠ attestation.tenantRef)
    (raise "Authority row tenant is not attested")
  rejectIf (attestation.runId ≠ 0 ∧ runId ≠ attestation.runId)
    (raise "Authority row Run is not attested")

/-! ### What an opened attestation is -/

/-- **An opened attestation** binds the transition it is opened for, and its MAC verifies. -/
theorem openAttestation_eq_ok {o : PostgresIdrOrchestratorV1} {db db' : DatabaseV1}
    {i : TransactInputV1} {purpose : AttestationPurposeV7} {commandId runId : Uuid}
    {tenantRef commandDigest transitionDigest : Text} {pre post : Nat} {row : AttestationRow}
    (h : o.openAttestation db i purpose commandId runId tenantRef pre post commandDigest
      transitionDigest = .ok (row, db')) :
    db' = { db with attestations := db.attestations ++ [row] } ∧
      row.attestationId = i.attestationId ∧ row.trustDomain = o.trustDomain ∧
      row.environmentRef = o.environmentRef ∧ row.purpose = purpose ∧
      row.commandId = commandId ∧ row.runId = runId ∧ row.tenantRef = tenantRef ∧
      row.commandDigest = commandDigest ∧ o.verifyAttestationRow row = .ok i.attestationId := by
  simp only [PostgresIdrOrchestratorV1.openAttestation, bind_eq_ok, require_eq_ok, exists_const,
    insertRow_eq_ok, Except.ok.injEq, Prod.mk.injEq] at h
  obtain ⟨material, hmaterial, hbinding, attestations, ⟨-, rfl⟩, rfl, rfl⟩ := h
  refine ⟨rfl, rfl, rfl, rfl, rfl, rfl, rfl, rfl, rfl, ?_⟩
  have hversions : pre ≤ post := by
    simp only [validAttestationBinding, Bool.and_eq_true, decide_eq_true_eq] at hbinding
    exact hbinding.1.1.1
  simp only [PostgresIdrOrchestratorV1.verifyAttestationRow, bind_eq_ok, rejectIf_eq_ok,
    exists_const, not_or, not_not, Nat.not_lt, and_true]
  -- the MAC is no part of the material
  exact ⟨⟨trivial, trivial, trivial, hversions⟩, material, hmaterial, rfl⟩

end Idr
