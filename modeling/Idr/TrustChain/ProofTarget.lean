/-
Idr/TrustChain/ProofTarget.lean

What the target of a proof determines.

A proof for a command is about the digest of its unsigned envelope.  The
bytes that are hashed determine every field of the envelope and of the
command in it, JSON payloads up to the order of their fields
(`unsigned_determined`).
-/
import Idr.Protocol.Determines
import Idr.TrustChain.Command

namespace Idr

/-! ### Record references -/

instance : Determined AuthoritativeRecordRefV1 where
  determined {a b} h := by
    have hfields := canonical_object_eq h rfl rfl rfl
    simp only [List.map_cons, Value.canonicalField, List.cons.injEq, Prod.mk.injEq,
      true_and] at hfields
    obtain ⟨hid, hrevision, hkind, hdomain, henvironment, hfrom, huntil, hdigest, -⟩ := hfields
    cases a
    rw [AuthoritativeRecordRefV1.mk.injEq]
    exact ⟨determined hid, determined hrevision, determined hkind, determined hdomain,
      determined henvironment, determined hfrom, determined huntil, determined hdigest⟩

theorem ReconciliationResolutionV1.wireName_injective (a b : ReconciliationResolutionV1)
    (h : a.wireName = b.wireName) : a = b := by
  cases a <;> cases b <;> first | rfl | exact absurd h (by decide)

instance : Determined ReconciliationResolutionV1 where
  determined h := determined_of_name ReconciliationResolutionV1.wireName_injective h

/-! ### Commands -/

namespace IdrCommandV1

/-- The command with its payload in canonical form. -/
def canonical : IdrCommandV1 → IdrCommandV1
  | startRun input => startRun input.canonical
  | recordContext context => recordContext context.canonical
  | recordIntent intent => recordIntent intent.canonical
  | recordDecision decision => recordDecision decision.canonical
  | recordTurn turn => recordTurn turn.canonical
  | recordResponse response => recordResponse response.canonical
  | recordAction action => recordAction action.canonical
  | commitExecutionReceipt receipt reservationId permitId providerRef dispatchNonce attempt =>
    commitExecutionReceipt receipt.canonical reservationId permitId providerRef dispatchNonce
      attempt
  | recordOutcome outcome => recordOutcome outcome.canonical
  | proposeHumanModelCandidate candidate => proposeHumanModelCandidate candidate.canonical
  | recordHumanModelPromotion decision sourceCandidateRef =>
    recordHumanModelPromotion decision.canonical sourceCandidateRef
  | promoteHumanModelAssertion assertion promotionDecisionRef =>
    promoteHumanModelAssertion assertion.canonical promotionDecisionRef
  | correctHumanModelAssertion assertionRef correction =>
    correctHumanModelAssertion assertionRef correction.canonical
  | command => command

/-- The tags of the commands, in the order of the constructors. -/
def tags : List Text := [
  "start_run", "record_context", "record_intent", "record_decision", "record_turn",
  "record_response", "consume_response_send", "record_action", "admit_action",
  "reserve_execution", "recover_permit", "deliver_permit", "start_dispatch",
  "commit_execution_receipt", "reconcile_execution", "expire_execution_lease",
  "invalidate_record", "record_outcome", "propose_human_model_candidate",
  "record_human_model_promotion", "promote_human_model_assertion",
  "correct_human_model_assertion", "cancel_run"]

theorem tags_nodup : tags.Nodup := by decide +kernel

/-- A command is written under the tag of its constructor. -/
theorem toValue_tagged (c : IdrCommandV1) : ∃ tag fields, toValue c = taggedCommand tag fields ∧
    tags[c.ctorIdx]? = some tag := by
  cases c <;> exact ⟨_, _, rfl, rfl⟩

theorem ctorIdx_determined {a b : IdrCommandV1}
    (h : (toValue a).canonical = (toValue b).canonical) : a.ctorIdx = b.ctorIdx := by
  obtain ⟨tag, fields, ha, htag⟩ := a.toValue_tagged
  obtain ⟨tag', fields', hb, htag'⟩ := b.toValue_tagged
  have hfields := canonical_object_eq h ha hb rfl
  simp only [List.map_cons, Value.canonicalField, List.cons.injEq, Prod.mk.injEq,
    true_and] at hfields
  obtain rfl : tag = tag' := Value.string.inj hfields.1
  obtain ⟨hlt, htag⟩ := List.getElem?_eq_some_iff.mp htag
  obtain ⟨hlt', htag'⟩ := List.getElem?_eq_some_iff.mp htag'
  exact (List.Nodup.getElem_inj_iff tags_nodup).mp (htag.trans htag'.symm)

/-- What a command carries, given that the tags agree. -/
theorem payload_determined {tag tag' : Text} {fields fields' : List (Text × Value)}
    (h : (taggedCommand tag fields).canonical = (taggedCommand tag' fields').canonical)
    (hkeys : fields.map Prod.fst = fields'.map Prod.fst) :
    fields.map Value.canonicalField = fields'.map Value.canonicalField := by
  have hfields := canonical_object_eq h rfl rfl rfl
  simp only [List.map_cons, Value.canonicalField, List.cons.injEq, Prod.mk.injEq,
    true_and] at hfields
  exact canonical_object_eq hfields.2.1 rfl rfl hkeys

/-- **The serialized form of a command determines it**, up to the order of fields in its payload:
the tag determines the constructor, and then each field of the payload is determined by its key. -/
theorem determined {a b : IdrCommandV1} (h : (toValue a).canonical = (toValue b).canonical) :
    a.canonical = b.canonical := by
  have hidx := ctorIdx_determined h
  cases a <;> cases b <;> first | (cases hidx; done) | skip
  all_goals
    have hfields := payload_determined h rfl
    simp only [List.map_cons, List.map_nil, Value.canonicalField, List.cons.injEq, Prod.mk.injEq,
      true_and, and_true] at hfields
  case startRun.startRun => exact congrArg startRun (CandidateSubmissionV1.determined hfields)
  case recordContext.recordContext =>
    exact congrArg recordContext (CandidateSubmissionV1.determined hfields)
  case recordIntent.recordIntent =>
    exact congrArg recordIntent (CandidateSubmissionV1.determined hfields)
  case recordDecision.recordDecision =>
    exact congrArg recordDecision (CandidateSubmissionV1.determined hfields)
  case recordTurn.recordTurn => exact congrArg recordTurn (CandidateSubmissionV1.determined hfields)
  case recordResponse.recordResponse =>
    exact congrArg recordResponse (CandidateSubmissionV1.determined hfields)
  case consumeResponseSend.consumeResponseSend =>
    obtain ⟨h1, h2, h3, h4, h5⟩ := hfields
    simp only [canonical, consumeResponseSend.injEq]
    exact ⟨Idr.determined h1, Idr.determined h2, Idr.determined h3, Idr.determined h4,
      Idr.determined h5⟩
  case recordAction.recordAction =>
    exact congrArg recordAction (CandidateSubmissionV1.determined hfields)
  case admitAction.admitAction =>
    obtain ⟨h1, h2, h3, h4, h5⟩ := hfields
    simp only [canonical, admitAction.injEq]
    exact ⟨Idr.determined h1, Idr.determined h2, Idr.determined h3, Idr.determined h4,
      Idr.determined h5⟩
  case reserveExecution.reserveExecution =>
    obtain ⟨h1, h2, h3, h4, h5, h6, h7, h8, h9⟩ := hfields
    simp only [canonical, reserveExecution.injEq]
    exact ⟨Idr.determined h1, Idr.determined h2, Idr.determined h3, Idr.determined h4,
      Idr.determined h5, Idr.determined h6, Idr.determined h7, Idr.determined h8,
      Idr.determined h9⟩
  case recoverPermit.recoverPermit => exact congrArg recoverPermit (Idr.determined hfields)
  case deliverPermit.deliverPermit =>
    obtain ⟨h1, h2⟩ := hfields
    simp only [canonical, deliverPermit.injEq]
    exact ⟨Idr.determined h1, Idr.determined h2⟩
  case startDispatch.startDispatch =>
    obtain ⟨h1, h2⟩ := hfields
    simp only [canonical, startDispatch.injEq]
    exact ⟨Idr.determined h1, Idr.determined h2⟩
  case commitExecutionReceipt.commitExecutionReceipt =>
    obtain ⟨h1, h2, h3, h4, h5, h6⟩ := hfields
    simp only [canonical, commitExecutionReceipt.injEq]
    exact ⟨CandidateSubmissionV1.determined h1, Idr.determined h2, Idr.determined h3,
      Idr.determined h4, Idr.determined h5, Idr.determined h6⟩
  case reconcileExecution.reconcileExecution =>
    obtain ⟨h1, h2⟩ := hfields
    simp only [canonical, reconcileExecution.injEq]
    exact ⟨Idr.determined h1, Idr.determined h2⟩
  case expireExecutionLease.expireExecutionLease =>
    exact congrArg expireExecutionLease (Idr.determined hfields)
  case invalidateRecord.invalidateRecord =>
    obtain ⟨h1, h2⟩ := hfields
    simp only [canonical, invalidateRecord.injEq]
    exact ⟨Idr.determined h1, Idr.determined h2⟩
  case recordOutcome.recordOutcome =>
    exact congrArg recordOutcome (CandidateSubmissionV1.determined hfields)
  case proposeHumanModelCandidate.proposeHumanModelCandidate =>
    exact congrArg proposeHumanModelCandidate (CandidateSubmissionV1.determined hfields)
  case recordHumanModelPromotion.recordHumanModelPromotion =>
    obtain ⟨h1, h2⟩ := hfields
    simp only [canonical, recordHumanModelPromotion.injEq]
    exact ⟨CandidateSubmissionV1.determined h1, Idr.determined h2⟩
  case promoteHumanModelAssertion.promoteHumanModelAssertion =>
    obtain ⟨h1, h2⟩ := hfields
    simp only [canonical, promoteHumanModelAssertion.injEq]
    exact ⟨CandidateSubmissionV1.determined h1, Idr.determined h2⟩
  case correctHumanModelAssertion.correctHumanModelAssertion =>
    obtain ⟨h1, h2⟩ := hfields
    simp only [canonical, correctHumanModelAssertion.injEq]
    exact ⟨Idr.determined h1, CandidateSubmissionV1.determined h2⟩
  case cancelRun.cancelRun => exact congrArg cancelRun (Idr.determined hfields)

end IdrCommandV1

/-! ### Envelopes -/

namespace IdrCommandEnvelopeV1

/-- The envelope without the proofs attached to it, its payload in canonical form. -/
def bare (self : IdrCommandEnvelopeV1) : IdrCommandEnvelopeV1 :=
  { self with command := self.command.canonical, proofs := [] }

/-- **The unsigned form of an envelope determines everything but its proofs.** -/
theorem unsigned_determined {a b : IdrCommandEnvelopeV1}
    (h : (toValue (Unsigned.mk a)).canonical = (toValue (Unsigned.mk b)).canonical) :
    a.bare = b.bare := by
  have hfields := canonical_object_eq h rfl rfl rfl
  simp only [unsignedCommandFields, List.map_cons, Value.canonicalField, List.cons.injEq,
    Prod.mk.injEq, true_and] at hfields
  obtain ⟨hcommandId, hdomain, henvironment, hrun, hversion, hactor, hcaller, htenant, hscope,
    hpurpose, hpolicy, hcorrelation, hcausation, hcommand, -⟩ := hfields
  rw [bare, bare, IdrCommandEnvelopeV1.mk.injEq]
  exact ⟨determined hcommandId, determined hdomain, determined henvironment, determined hrun,
    determined hversion, determined hactor, determined hcaller, determined htenant,
    determined hscope, determined hpurpose, determined hpolicy, determined hcorrelation,
    determined hcausation, IdrCommandV1.determined hcommand, rfl⟩

end IdrCommandEnvelopeV1

end Idr
