/-
Idr/TrustChain/HumanModel.lean

From a candidate to an assertion about a person.

Three commands lead to an assertion.  A candidate is recorded with its
payload (`CandidateProposed`), a decision is made on the bound candidate
(`PromotionDecided`), and the assertion is issued from the bound decision
and the bound candidate (`AssertionPromoted`).  What the last command
writes is the payload of the candidate with six keys set
(`Materialized`); what it relies on are the copies that the first two have
left in the projection.
-/
import Idr.Protocol.Map
import Idr.TrustChain.Records

namespace Idr

/-! ### The payload of an assertion -/

/-- The keys that a promotion sets. -/
def materializedKeys : List Text :=
  ["source_candidate_digest", "lifecycle_state", "maximum_impact_basis_points",
    "promotion_decision_record_id", "promotion_decision_revision",
    "promotion_decision_record_digest"]

/-- **The payload of an assertion** is that of its candidate, with the keys of the promotion. -/
structure Materialized (payload source : Value)
    (candidateRef decisionRef : AuthoritativeRecordRefV1)
    (lifecycleState : Text) : Prop where
  object : ∃ fields, payload = .object fields
  others : ∀ key, key ∉ materializedKeys → payload.get key = source.get key
  sourceCandidateDigest : payload.get "source_candidate_digest" =
    some (.string candidateRef.recordDigest)
  lifecycleState : payload.get "lifecycle_state" = some (.string lifecycleState)
  /-- The impact is at most 10000, and the one of the candidate. -/
  impact : ∃ impact ≤ 10000,
    payload.get "maximum_impact_basis_points" = some (.number (.posInt impact)) ∧
      source.get "maximum_impact_basis_points" = some (.number (.posInt impact))
  promotionDecisionRecordId : payload.get "promotion_decision_record_id" =
    some (toValue decisionRef.recordId)
  promotionDecisionRevision : payload.get "promotion_decision_revision" =
    some (toValue decisionRef.revision)
  promotionDecisionRecordDigest : payload.get "promotion_decision_record_digest" =
    some (.string decisionRef.recordDigest)

/-- A number that is read as a `u64` is that number. -/
theorem Value.asU64_eq_some {v : Value} {n : Nat} (h : v.asU64 = some n) :
    v = .number (.posInt n) := by
  cases v with
  | number m =>
    cases m with
    | posInt m => rw [Option.some.inj (show some m = some n from h)]
    | negInt m => cases h
    | float m => cases h
  | null | bool | string | array | object => cases h

theorem materializeAssertion_materialized {payload : Value} {fields : List (Text × Value)}
    {promotion : HumanModelPromotionProjectionV1} {lifecycleState : Text} {impact : Nat}
    (hfields : payload.asObject = some fields)
    (himpact : maximumImpactBasisPoints payload = .ok impact) :
    Materialized (.object (materializeAssertion fields promotion lifecycleState impact)) payload
      promotion.sourceCandidateRef promotion.decisionRef lifecycleState := by
  obtain rfl : payload = .object fields := by
    cases payload with
    | object found => rw [Option.some.inj (show some found = some fields from hfields)]
    | null | bool | number | string | array => cases hfields
  simp only [maximumImpactBasisPoints, okOr_eq_ok, Option.filter_eq_some_iff, decide_eq_true_eq,
    Option.bind_eq_some_iff] at himpact
  obtain ⟨⟨v, hv, hnumber⟩, hle⟩ := himpact
  obtain rfl := Value.asU64_eq_some hnumber
  -- what each key selects, the last insertion first
  have hget :
      ∀ key, (Value.object (materializeAssertion fields promotion lifecycleState impact)).get
      key = if key = "promotion_decision_record_digest" then
          some (.string promotion.decisionRef.recordDigest)
        else if key = "promotion_decision_revision" then
          some (toValue promotion.decisionRef.revision)
        else if key = "promotion_decision_record_id" then
          some (toValue promotion.decisionRef.recordId)
        else if key = "maximum_impact_basis_points" then some (.number (.posInt impact))
        else if key = "lifecycle_state" then some (.string lifecycleState)
        else if key = "source_candidate_digest" then
          some (.string promotion.sourceCandidateRef.recordDigest)
        else (Value.object fields).get key := by
    intro key
    simp only [Value.get, materializeAssertion, lookup_insertField]
    rfl
  constructor
  case object => exact ⟨_, rfl⟩
  case others =>
    intro key hkey
    simp only [materializedKeys, List.mem_cons, List.not_mem_nil, or_false, not_or] at hkey
    obtain ⟨hdigest, hstate, himpact, hid, hrevision, hdecision⟩ := hkey
    rw [hget, if_neg hdecision, if_neg hrevision, if_neg hid, if_neg himpact, if_neg hstate,
      if_neg hdigest]
  case impact =>
    refine ⟨impact, hle, ?_, hv⟩
    rw [hget]
    rfl
  all_goals
    rw [hget]
    rfl

/-! ### Evidence -/

/-- The payload names two different evidence references. -/
def DistinctEvidence (payload : Value) : Prop :=
  ∃ evidence a b, payload.get "evidence_refs" = some (.array evidence) ∧
    Value.string a ∈ evidence ∧ Value.string b ∈ evidence ∧ a ≠ b

/-- **Two counted references are two different ones.** -/
theorem evidenceRefs_distinct {payload : Value} {roots : List Text}
    (h : evidenceRefs payload = .ok roots) (htwo : 2 ≤ roots.length) :
    DistinctEvidence payload := by
  simp only [evidenceRefs, requiredPayloadArray, bind_eq_ok, okOr_eq_ok, Option.bind_eq_some_iff,
    Except.ok.injEq] at h
  obtain ⟨evidence, ⟨v, hv, harray⟩, names, hnames, rfl⟩ := h
  obtain rfl : v = .array evidence := by
    cases v with
    | array found => rw [Option.some.inj (show some found = some evidence from harray)]
    | null | bool | number | string | object => cases harray
  have hmem : ∀ a ∈ sortedSet compareText names, Value.string a ∈ evidence := by
    intro a ha
    obtain ⟨reference, hreference, ha⟩ := mem_of_mapM_eq_ok hnames (mem_of_mem_sortedSet ha)
    simp only [evidenceRef, okOr_eq_ok, Option.filter_eq_some_iff] at ha
    cases reference with
    | string s =>
      obtain rfl := Option.some.inj ha.1
      exact hreference
    | null | bool | number | array | object => cases ha.1
  have hsorted := sortedSet_compareText_pairwise names
  rcases hroots : sortedSet compareText names with _ | ⟨a, _ | ⟨b, rest⟩⟩ <;>
    rw [hroots] at htwo hmem hsorted
  · exact absurd htwo (Nat.not_succ_le_zero 1)
  · exact absurd htwo (Nat.not_succ_le_self 1)
  · refine ⟨evidence, a, b, hv, hmem a (by simp), hmem b (by simp), ?_⟩
    rintro rfl
    exact lt_irrefl _ ((List.pairwise_cons.mp hsorted).1 a (by simp))

/-! ### The three commands -/

section Commands

variable [Crypto] {fresh : FreshIdsV1} {p : IdrRunProjectionV1} {command : IdrCommandEnvelopeV1}
  {now : Nat} {proofs : List VerifiedProductionProofV1} {r : ArmResultV1}

/-- A candidate that is bound from the record, on the outcome of the run. -/
structure CandidateProposed (p : IdrRunProjectionV1) (record : AuthoritativeRecordV1)
    (x : HumanModelCandidateProjectionV1) : Prop where
  candidateRef : x.candidateRef = record.recordRef
  materializedPayload : x.materializedPayload = record.payload
  outcome : p.outcomeBinding = some x.outcomeRef
  valid : validateHumanModelCandidate record.payload = .ok ()

/-- A promotion that is bound from the record, on the bound candidate. -/
structure PromotionDecided (p : IdrRunProjectionV1) (proofs : List VerifiedProductionProofV1)
    (record : AuthoritativeRecordV1) (x : HumanModelPromotionProjectionV1)
    (source : HumanModelCandidateProjectionV1) : Prop where
  decisionRef : x.decisionRef = record.recordRef
  bound : p.humanModelCandidate = some source
  sourceCandidateRef : source.candidateRef = x.sourceCandidateRef
  outcomeRef : source.outcomeRef = x.outcomeRef
  candidateDigest : record.payload.get "candidate_digest" =
    some (.string x.sourceCandidateRef.recordDigest)
  outcome : record.payload.get "outcome" = some (.string x.outcome)
  evidence : x.outcome = "promote_provisional" → DistinctEvidence source.materializedPayload
  promotionProof : ∃ proof ∈ proofs, proof.proofKind = .humanModelPromotion
  userConfirmation : x.outcome = "promote_user_confirmed" →
    ∃ proof ∈ proofs, proof.proofKind = .humanModelUserConfirmation
  outcomeObservation : x.outcome = "promote_outcome_supported" →
    ∃ proof ∈ proofs, proof.proofKind = .outcomeObservation

/-- An assertion that is issued from the bound promotion and the bound candidate. -/
structure AssertionPromoted (p : IdrRunProjectionV1) (now : Nat)
    (proofs : List VerifiedProductionProofV1) (decisionRef : AuthoritativeRecordRefV1)
    (record : AuthoritativeRecordV1) (promotion : HumanModelPromotionProjectionV1)
    (source : HumanModelCandidateProjectionV1) (lifecycleState : Text) : Prop where
  boundPromotion : p.humanModelPromotion = some promotion
  boundDecision : promotion.decisionRef = decisionRef
  bound : p.humanModelCandidate = some source
  sourceCandidateRef : source.candidateRef = promotion.sourceCandidateRef
  promoted : promotedLifecycleState promotion.outcome = some lifecycleState
  materialized : Materialized record.payload source.materializedPayload
    promotion.sourceCandidateRef promotion.decisionRef lifecycleState
  current : p.records decisionRef.candidateKind = some decisionRef
  valid : decisionRef ∉ p.invalidatedRecords
  issuedNow : now < record.recordRef.validUntil
  until_proofs : ∀ proof ∈ proofs, record.recordRef.validUntil ≤ proof.expiresAt
  until_decision : record.recordRef.validUntil ≤ promotion.decisionRef.validUntil
  until_candidate : record.recordRef.validUntil ≤ promotion.sourceCandidateRef.validUntil

theorem evaluateProposeHumanModelCandidate_proposed {candidate : CandidateSubmissionV1}
    (h : evaluateProposeHumanModelCandidate fresh p command now proofs candidate = .ok r) :
    ∃ record x, r.authoritativeRecord = some record ∧ r.projection.humanModelCandidate = some x ∧
      CandidateProposed p record x := by
  simp only [evaluateProposeHumanModelCandidate, bind_eq_ok, exists_unit_eq_ok, okOr_eq_ok,
    Except.ok.injEq] at h
  obtain ⟨outcomeRef, houtcome, -, -, hvalid, revision, -, record, hrecord, rfl⟩ := h
  obtain ⟨-, -, -, -, -, -, -, -, -, hpayload, -⟩ := issueRecord_eq_ok hrecord
  exact ⟨record, _, rfl, rfl, rfl, hpayload.symm, houtcome, hpayload ▸ hvalid⟩

omit [Crypto] in
/-- A kind of proof that was found is that of a proof. -/
theorem mem_foundProofKinds {kind : ProductionProofKindV1} (h : kind ∈ foundProofKinds proofs) :
    ∃ proof ∈ proofs, proof.proofKind = kind := by
  rw [foundProofKinds, List.mem_toFinset, List.mem_filter] at h
  exact List.mem_map.mp h.1

theorem evaluateRecordHumanModelPromotion_decided {decision : CandidateSubmissionV1}
    {sourceRef : AuthoritativeRecordRefV1}
    (h : evaluateRecordHumanModelPromotion fresh p command now proofs decision sourceRef = .ok r)
    (hproofs : foundProofKinds proofs =
      (IdrCommandV1.recordHumanModelPromotion decision sourceRef).requiredProofKinds) :
    ∃ record x source, r.authoritativeRecord = some record ∧
      r.projection.humanModelPromotion = some x ∧ PromotionDecided p proofs record x source := by
  simp only [evaluateRecordHumanModelPromotion, bind_eq_ok, exists_unit_eq_ok, okOr_eq_ok,
    rejectIf_eq_ok, exists_const, Option.filter_eq_some_iff, decide_eq_true_eq,
    Except.ok.injEq] at h
  obtain ⟨-, -, source, ⟨hsource, hcandidate⟩, outcome, hvalid, -, revision, -, record, hrecord,
    rfl⟩ := h
  obtain ⟨-, -, -, -, -, -, -, -, -, hpayload, -⟩ := issueRecord_eq_ok hrecord
  simp only [validateHumanModelPromotion, bind_eq_ok, rejectIf_eq_ok, require_eq_ok, exists_const,
    not_not, Except.ok.injEq] at hvalid
  obtain ⟨digest, hdigest, rfl, found, houtcome, roots, hroots, -, hallowed, rfl⟩ := hvalid
  have houtcome := requiredPayloadString_eq_ok houtcome
  -- the outcome that the proofs depend on is the one that is bound
  have hkinds : ∀ kind ∈ (IdrCommandV1.recordHumanModelPromotion decision
      sourceRef).requiredProofKinds, ∃ proof ∈ proofs, proof.proofKind = kind := by
    rw [← hproofs]
    exact fun kind hkind => mem_foundProofKinds hkind
  simp only [IdrCommandV1.requiredProofKinds, houtcome, Option.bind_some, Value.asStr,
    Option.bind_eq_bind, Option.pure_def, Option.some.injEq] at hkinds
  refine ⟨record, _, source, rfl, rfl, {
    decisionRef := rfl
    bound := hsource
    sourceCandidateRef := hcandidate
    outcomeRef := rfl
    candidateDigest := by rw [hpayload]; exact requiredPayloadString_eq_ok hdigest
    outcome := by rw [hpayload]; exact houtcome
    evidence := ?_
    promotionProof := hkinds _ (by simp)
    userConfirmation := fun (heq : found = _) => hkinds _ (by simp [heq])
    outcomeObservation := fun (heq : found = _) => hkinds _ (by simp [heq]) }⟩
  intro hprovisional
  refine evidenceRefs_distinct hroots ?_
  -- of the outcomes that are allowed, this one has two evidence references
  rw [show found = _ from hprovisional] at hallowed
  rcases hallowed with h | h | h | ⟨-, h⟩ | h | h
  case inr.inr.inr.inl => exact h
  all_goals exact absurd h (by decide)

theorem evaluatePromoteHumanModelAssertion_promoted {assertion : CandidateSubmissionV1}
    {decisionRef : AuthoritativeRecordRefV1}
    (h : evaluatePromoteHumanModelAssertion fresh p command now proofs assertion decisionRef =
      .ok r) :
    ∃ record promotion source lifecycleState, r.authoritativeRecord = some record ∧
      AssertionPromoted p now proofs decisionRef record promotion source lifecycleState := by
  simp only [evaluatePromoteHumanModelAssertion, bind_eq_ok, exists_unit_eq_ok, okOr_eq_ok,
    rejectIf_eq_ok, exists_const, Option.filter_eq_some_iff, decide_eq_true_eq,
    Except.ok.injEq] at h
  obtain ⟨hcurrent, -, promotion, ⟨hpromotion, hdecision, -⟩, source, ⟨hsource, hcandidate⟩, -,
    lifecycleState, hlifecycle, impact, himpact, fields, hfields, validUntil, hmin, revision, -,
    record, hrecord, rfl⟩ := h
  obtain ⟨-, -, -, -, -, -, huntil, hnow, hpayload, -⟩ := issueInternalRecord_eq_ok hrecord
  obtain ⟨hroot, -, -, -, hvalid⟩ := requireExactCurrentRecordAt_eq_ok.mp hcurrent
  refine ⟨record, promotion, source, lifecycleState, rfl, {
    boundPromotion := hpromotion
    boundDecision := hdecision
    bound := hsource
    sourceCandidateRef := hcandidate
    promoted := hlifecycle
    materialized := by rw [hpayload]; exact materializeAssertion_materialized hfields himpact
    current := hroot
    valid := hvalid
    issuedNow := by rw [huntil]; exact hnow
    until_proofs := ?_
    until_decision := by rw [huntil]; exact min?_le hmin (by simp)
    until_candidate := by rw [huntil]; exact min?_le hmin (by simp) }⟩
  intro proof hproof
  rw [huntil]
  exact min?_le hmin (List.mem_append_left _ (List.mem_map_of_mem hproof))

/-! ### What is bound -/

/-- **The candidate that is bound after a command** is the one before, or it is newly proposed. -/
theorem evaluateCommand_candidate (h : evaluateCommand fresh p command now proofs = .ok r)
    (hchecked : Checked p command) :
    r.projection.humanModelCandidate = p.humanModelCandidate ∨
      ∃ record x, r.authoritativeRecord = some record ∧
        r.projection.humanModelCandidate = some x ∧ CandidateProposed p record x := by
  have harm := evaluateCommand_arm h hchecked
  have hcandidate : r.projection.humanModelCandidate = r.projection.bindings.candidate := rfl
  rw [hcandidate]
  generalize hbindings : r.projection.bindings = b at harm
  generalize r.projection.invalidatedRecords = invalidated at harm
  generalize hissued : r.authoritativeRecord = issued at harm
  cases harm with
  | proposed hc =>
    right
    cases hcommand : command.command <;> rw [hcommand] at hc <;> first | (cases hc; done) | skip
    simp only [evaluateCommand, hcommand] at h
    obtain ⟨record, x, hrecord, hx, hproposed⟩ := evaluateProposeHumanModelCandidate_proposed h
    refine ⟨record, x, hissued.symm.trans hrecord, ?_, hproposed⟩
    rw [← hbindings]
    exact hx
  | quiet | recorded | decided | responded | acted | admitted | observed | promoted | asserted
  | corrected | invalidated => exact .inl rfl

/-- **The promotion that is bound after a command** is the one before, or it is newly decided. -/
theorem evaluateCommand_promotion (h : evaluateCommand fresh p command now proofs = .ok r)
    (hchecked : Checked p command)
    (hproofs : foundProofKinds proofs = command.command.requiredProofKinds) :
    r.projection.humanModelPromotion = p.humanModelPromotion ∨
      ∃ record x source, r.authoritativeRecord = some record ∧
        r.projection.humanModelPromotion = some x ∧
        PromotionDecided p proofs record x source := by
  have harm := evaluateCommand_arm h hchecked
  have hpromotion : r.projection.humanModelPromotion = r.projection.bindings.promotion := rfl
  rw [hpromotion]
  generalize hbindings : r.projection.bindings = b at harm
  generalize r.projection.invalidatedRecords = invalidated at harm
  generalize hissued : r.authoritativeRecord = issued at harm
  cases harm with
  | promoted hc =>
    right
    cases hcommand : command.command <;> rw [hcommand] at hc <;> first | (cases hc; done) | skip
    simp only [evaluateCommand, hcommand] at h
    rw [hcommand] at hproofs
    obtain ⟨record, x, source, hrecord, hx, hdecided⟩ :=
      evaluateRecordHumanModelPromotion_decided h hproofs
    refine ⟨record, x, source, hissued.symm.trans hrecord, ?_, hdecided⟩
    rw [← hbindings]
    exact hx
  | quiet | recorded | decided | responded | acted | admitted | observed | proposed | asserted
  | corrected | invalidated => exact .inl rfl

end Commands

end Idr
