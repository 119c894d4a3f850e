/-
Idr/Authority/ResponseSend.lean

A response is sent at most once for a nonce, and only as approved.

The content, the channel and the audience of a send are compared with the
bound response.  That binding is written by `RecordResponse` from the
payload of the record it issues, and taken away by closures only; so what
is bound is what the recorded response says (`SendHistory.response`).  A
send leaves its nonce in the table of consumptions, which no call removes
from, and whose key is the tenant and the nonce (`SendHistory.consumed`);
and all sends of a run are of one tenant (`SendHistory.tenant`).
-/
import Idr.Authority.CurrentLineage
import Idr.Authority.Promotion

namespace Idr

section Commands

variable [Crypto] {fresh : FreshIdsV1} {p : IdrRunProjectionV1} {command : IdrCommandEnvelopeV1}
  {now : Nat} {proofs : List VerifiedProductionProofV1} {r : ArmResultV1}

/-! ### The binding of a response -/

/-- The binding says what the payload of the recorded response says. -/
structure ResponseRecorded (record : AuthoritativeRecordV1) (b : ResponseBindingProjectionV1) :
    Prop where
  responseRef : b.responseRef = record.recordRef
  renderedContentDigest : record.payload.get "rendered_content_digest" =
    some (.string b.renderedContentDigest)
  channelRef : record.payload.get "channel_ref" = some (.string b.channelRef.asStr)
  audienceRef : record.payload.get "audience_ref" = some (.string b.audienceRef.asStr)

theorem evaluateRecordResponse_recorded {response : CandidateSubmissionV1}
    (h : evaluateRecordResponse fresh p command now proofs response = .ok r) :
    ∃ record b, r.authoritativeRecord = some record ∧ r.projection.responseBinding = some b ∧
      ResponseRecorded record b := by
  simp only [evaluateRecordResponse, bind_eq_ok, exists_unit_eq_ok, Except.ok.injEq] at h
  obtain ⟨-, digest, hdigest, channel, hchannel, audience, haudience, revision, -, record, hrecord,
    rfl⟩ := h
  obtain ⟨-, -, -, -, -, -, -, -, -, hpayload, -⟩ := issueRecord_eq_ok hrecord
  rw [← hpayload] at hdigest hchannel haudience
  exact ⟨record, _, rfl, rfl, rfl, requiredPayloadDigest_eq_ok hdigest,
    requiredPayloadReference_eq_ok hchannel, requiredPayloadReference_eq_ok haudience⟩

/-- **The response that is bound after a command** is the one before, or it is newly recorded. -/
theorem evaluateCommand_response (h : evaluateCommand fresh p command now proofs = .ok r)
    (hchecked : Checked p command) :
    r.projection.responseBinding = p.responseBinding ∨
      ∃ record b, r.authoritativeRecord = some record ∧ r.projection.responseBinding = some b ∧
        ResponseRecorded record b := by
  have harm := evaluateCommand_arm h hchecked
  have hresponse : r.projection.responseBinding = r.projection.bindings.response := rfl
  rw [hresponse]
  generalize hbindings : r.projection.bindings = b at harm
  generalize r.projection.invalidatedRecords = invalidated at harm
  generalize hissued : r.authoritativeRecord = issued at harm
  cases harm with
  | responded hc =>
    right
    cases hcommand : command.command <;> rw [hcommand] at hc <;> first | (cases hc; done) | skip
    simp only [evaluateCommand, hcommand] at h
    obtain ⟨record, x, hrecord, hx, hrecorded⟩ := evaluateRecordResponse_recorded h
    refine ⟨record, x, hissued.symm.trans hrecord, ?_, hrecorded⟩
    rw [← hbindings]
    exact hx
  | quiet | recorded | decided | proposed | acted | admitted | observed | promoted | asserted
  | corrected | invalidated => exact .inl rfl

/-- What a send is compared with. -/
structure SendChecked (p : IdrRunProjectionV1) (now : Nat) (responseRef : AuthoritativeRecordRefV1)
    (bytes : List UInt8) (channelRef audienceRef : ReferenceV1) (b : ResponseBindingProjectionV1) :
    Prop where
  current : CurrentRecord p responseRef
  unexpired : liveAt responseRef now
  bound : p.responseBinding = some b
  ofResponse : b.responseRef = responseRef
  content : b.renderedContentDigest = sha256Hex bytes
  channel : b.channelRef = channelRef
  audience : b.audienceRef = audienceRef

theorem evaluateConsumeResponseSend_checked {responseRef : AuthoritativeRecordRefV1}
    {bytes : List UInt8} {channelRef audienceRef : ReferenceV1} {sendNonce : Text}
    (h : evaluateConsumeResponseSend p now responseRef bytes channelRef audienceRef sendNonce =
      .ok r) : ∃ b, SendChecked p now responseRef bytes channelRef audienceRef b := by
  simp only [evaluateConsumeResponseSend, bind_eq_ok, exists_unit_eq_ok, okOr_eq_ok, rejectIf_eq_ok,
    exists_const, not_or, not_not] at h
  obtain ⟨hcurrent, b, hbound, ⟨href, hcontent, hchannel, haudience⟩, -⟩ := h
  obtain ⟨hroot, -, hfrom, huntil, hvalid⟩ := requireExactCurrentRecordAt_eq_ok.mp hcurrent
  exact ⟨b, ⟨hroot, hvalid⟩, ⟨hfrom, huntil⟩, hbound, href, hcontent, hchannel, haudience⟩

end Commands

section Commit

variable [Crypto] {o : PostgresIdrOrchestratorV1} {i : TransactInputV1} {c : CommitV1}
  {s t : AuthorityStateV1}

/-! ### The history of the sends -/

/-- The call sends a response of the run and the tenant, with the nonce. -/
def SendsResponse (o : PostgresIdrOrchestratorV1) (runId : Uuid) (tenantRef : ReferenceV1)
    (sendNonce : Text) (_ : List TransactInputV1) (s : AuthorityStateV1) (i : TransactInputV1)
    (t : AuthorityStateV1) : Prop :=
  i.command.runId = runId ∧ i.command.tenantRef = tenantRef ∧
    (∃ responseRef bytes channelRef audienceRef, i.command.command =
      .consumeResponseSend responseRef bytes channelRef audienceRef sendNonce) ∧
    ∃ c, Commits o s.db i c t.db

/-- The call records the response. -/
def RecordsResponse (o : PostgresIdrOrchestratorV1) (record : AuthoritativeRecordV1)
    (_ : List TransactInputV1) (s : AuthorityStateV1) (i : TransactInputV1)
    (t : AuthorityStateV1) : Prop :=
  ∃ c, Commits o s.db i c t.db ∧ c.record = some record

/-- **What the tables know of the sends** along the run. -/
structure SendHistory (o : PostgresIdrOrchestratorV1) (s₀ : AuthorityStateV1)
    (is : List TransactInputV1) (s : AuthorityStateV1) : Prop where
  consumed : ∀ runId tenantRef sendNonce,
    Happened (AuthorityStep o) (SendsResponse o runId tenantRef sendNonce) s₀ is →
      ⟨tenantRef.asStr, sendNonce⟩ ∈ s.db.responseSends
  tenant : ∀ runId tenantRef sendNonce,
    Happened (AuthorityStep o) (SendsResponse o runId tenantRef sendNonce) s₀ is →
      ∃ row ∈ s.db.runs, row.runId = runId ∧ row.projection.tenantRef = tenantRef
  response : ∀ row ∈ s.db.runs, ∀ b, row.projection.responseBinding = some b →
    ∃ record, Happened (AuthorityStep o) (RecordsResponse o record) s₀ is ∧
      ResponseRecorded record b

theorem authorityStep_deterministic (s : AuthorityStateV1) (i : TransactInputV1)
    (t r : AuthorityStateV1) (ht : AuthorityStep o s i t) (hr : AuthorityStep o s i r) : t = r :=
  Except.ok.inj (ht.symm.trans hr)

/-- A send is no revocation. -/
theorem not_revokes_send {responseRef : AuthoritativeRecordRefV1} {bytes : List UInt8}
    {channelRef audienceRef : ReferenceV1} {sendNonce : Text} {p : IdrRunProjectionV1}
    (hcommand : i.command.command =
      .consumeResponseSend responseRef bytes channelRef audienceRef sendNonce) :
    ¬ Revokes o s.db i p := by
  rw [Revokes, reverify_quiet (by rw [hcommand]; rfl)]
  intro h
  cases h

/-- **What a commit binds of a response** was bound before, or is of the issued record. -/
theorem Commits.response (hs : RunsOk o s) (hadmits : s.admits i) (h : Commits o s.db i c t.db)
    {b : ResponseBindingProjectionV1} (hb : c.projection.responseBinding = some b) :
    c.loaded.responseBinding = some b ∨
      ∃ record, c.record = some record ∧ ResponseRecorded record b := by
  by_cases hrevokes : Revokes o s.db i c.loaded
  · obtain ⟨closure, q, hw⟩ := h.withdrawn
    obtain ⟨hle, -, -⟩ := hw.closed
    rw [(hw.revoked hrevokes).2.1] at hle
    exact .inl (hle.response b hb)
  · obtain ⟨hcheck, r, hr, hrecord, hle⟩ := h.evaluates hs hadmits hrevokes
    have hb := hle.response b hb
    rcases evaluateCommand_response hr (checkCommand_checked hcheck).advanced with hsame |
      ⟨record, b', hissued, hb', hrecorded⟩
    · exact .inl (hsame.symm.trans hb)
    · obtain rfl := Option.some.inj (hb'.symm.trans hb)
      exact .inr ⟨record, hrecord.trans hissued, hrecorded⟩

section History

variable {s₀ : AuthorityStateV1} {is : List TransactInputV1}

theorem SendHistory.quiet (h : SendHistory o s₀ is s) (hrun : Run (AuthorityStep o) s₀ is s)
    (hstep : AuthorityStep o s i t) (hdb : t.db = s.db) : SendHistory o s₀ (is ++ [i]) t := by
  -- the step commits nothing, so the sends are those before
  have hbefore : ∀ runId tenantRef sendNonce,
      Happened (AuthorityStep o) (SendsResponse o runId tenantRef sendNonce) s₀ (is ++ [i]) →
        Happened (AuthorityStep o) (SendsResponse o runId tenantRef sendNonce) s₀ is := by
    intro runId tenantRef sendNonce hhappened
    rcases hhappened.of_snoc authorityStep_deterministic hrun hstep with hold |
      ⟨-, -, -, hcommits⟩
    · exact hold
    · exact absurd hdb (Commits.ne hcommits)
  constructor
  · rw [hdb]
    exact fun runId tenantRef sendNonce hsent => h.consumed _ _ _ (hbefore _ _ _ hsent)
  · rw [hdb]
    exact fun runId tenantRef sendNonce hsent => h.tenant _ _ _ (hbefore _ _ _ hsent)
  · rw [hdb]
    intro row hrow b hb
    obtain ⟨record, hhappened, hrecorded⟩ := h.response row hrow b hb
    exact ⟨record, hhappened.append [i], hrecorded⟩

theorem SendHistory.commit (hh : SendHistory o s₀ is s) (hs : RunsOk o s) (hadmits : s.admits i)
    (hrun : Run (AuthorityStep o) s₀ is s) (hstep : AuthorityStep o s i t)
    (h : Commits o s.db i c t.db) : SendHistory o s₀ (is ++ [i]) t := by
  have hsent := authorityStep_sends hstep ⟨c, h⟩
  have htenant := (h.frame hs hadmits).1.tenantRef
  obtain ⟨written, hwritten, hwrittenId, hwrittenProjection⟩ := h.writtenRow hs hadmits
  constructor
  · intro runId tenantRef sendNonce hhappened
    rcases hhappened.of_snoc authorityStep_deterministic hrun hstep with hold |
      ⟨-, rfl, ⟨responseRef, bytes, channelRef, audienceRef, hcommand⟩, -⟩
    · -- no send is removed
      have hmem := hh.consumed _ _ _ hold
      generalize t.db.responseSends = rows at hsent
      cases hsent with
      | sent => exact List.mem_append_left _ hmem
      | kept => exact hmem
    · generalize t.db.responseSends = rows at hsent
      cases hsent with
      | sent hcommand' =>
        rw [hcommand] at hcommand'
        cases hcommand'
        exact List.mem_append_right _ (List.mem_singleton_self _)
      | kept hother => exact absurd hcommand (hother _ _ _ _ _)
  · intro runId tenantRef sendNonce hhappened
    rcases hhappened.of_snoc authorityStep_deterministic hrun hstep with hold |
      ⟨rfl, rfl, ⟨responseRef, bytes, channelRef, audienceRef, hcommand⟩, -⟩
    · obtain ⟨row, hrow, rfl, rfl⟩ := hh.tenant _ _ _ hold
      by_cases hid : row.runId = i.command.runId
      · refine ⟨written, hwritten, hwrittenId.trans hid.symm, ?_⟩
        rw [hwrittenProjection, h.loaded_of_row hs hrow hid]
        exact htenant
      · exact ⟨row, h.otherRow hs hadmits hrow hid, rfl, rfl⟩
    · obtain ⟨hcheck, -⟩ := h.evaluates hs hadmits (not_revokes_send hcommand)
      refine ⟨written, hwritten, hwrittenId, ?_⟩
      rw [hwrittenProjection]
      exact htenant.trans (checkCommand_checked hcheck).tenantRef
  · intro row hrow b hb
    -- what was bound before keeps its history
    have hold : ∀ row ∈ s.db.runs, row.projection.responseBinding = some b →
        ∃ record, Happened (AuthorityStep o) (RecordsResponse o record) s₀ (is ++ [i]) ∧
          ResponseRecorded record b := by
      intro row hrow hb
      obtain ⟨record, hhappened, hrecorded⟩ := hh.response row hrow b hb
      exact ⟨record, hhappened.append [i], hrecorded⟩
    rcases h.mem_runs hs hadmits hrow with ⟨hrow, -⟩ | ⟨-, hprojection, -⟩
    · exact hold row hrow hb
    · rw [hprojection] at hb
      rcases h.response hs hadmits hb with hb | ⟨record, hrecord, hrecorded⟩
      · rcases loadRun_eq_ok h.loaded with ⟨old, hrow', hloaded⟩ | ⟨-, -, -, hloaded⟩
        · rw [← hloaded] at hb
          exact hold old (run_eq_some hrow').1 hb
        · rw [hloaded] at hb
          cases hb
      · exact ⟨record, .last hrun hstep ⟨c, h, hrecord⟩, hrecorded⟩

/-- **The history of the sends** of every run of the authority. -/
theorem sendHistory_run (h₀ : AuthorityInit s₀) (hrun : Run (AuthorityStep o) s₀ is s) :
    SendHistory o s₀ is s := by
  refine hrun.history (P := fun is s => SendHistory o s₀ is s) ?_ ?_
  · rw [AuthorityInit] at h₀
    constructor
    · rintro _ _ _ ⟨js, j, ks, u, v, hnil, -⟩
      exact absurd hnil (by simp)
    · rintro _ _ _ ⟨js, j, ks, u, v, hnil, -⟩
      exact absurd hnil (by simp)
    · intro row hrow
      rw [h₀] at hrow
      cases hrow
  · intro js u j v hjs hP hj
    obtain ⟨hadmits, -, hdb | ⟨c, hc⟩⟩ := authorityStep_cases hj
    · exact hP.quiet hjs hj hdb
    · exact hP.commit (runsOk_reachable ⟨s₀, js, h₀, hjs⟩) hadmits hjs hj hc

/-! ### What is sent -/

/-- **An approved send**: its nonce was sent neither in the run nor in the tenant, and what is sent
is what a recorded response, current at that moment, says. -/
structure SendApproved (o : PostgresIdrOrchestratorV1) (s₀ : AuthorityStateV1)
    (is : List TransactInputV1) (i : TransactInputV1) (c : CommitV1)
    (responseRef : AuthoritativeRecordRefV1) (bytes : List UInt8)
    (channelRef audienceRef : ReferenceV1) (sendNonce : Text) (response : AuthoritativeRecordV1) :
    Prop where
  unused : ∀ runId tenantRef, runId = i.command.runId ∨ tenantRef = i.command.tenantRef →
    ¬ Happened (AuthorityStep o) (SendsResponse o runId tenantRef sendNonce) s₀ is
  recorded : Happened (AuthorityStep o) (RecordsResponse o response) s₀ is
  ofResponse : response.recordRef = responseRef
  current : CurrentRecord c.loaded responseRef
  unexpired : liveAt responseRef i.trustedNow
  content : response.payload.get "rendered_content_digest" = some (.string (sha256Hex bytes))
  channel : response.payload.get "channel_ref" = some (.string channelRef.asStr)
  audience : response.payload.get "audience_ref" = some (.string audienceRef.asStr)

/-- **A response is sent at most once for a nonce, and only as approved.** -/
theorem response_sent_as_approved (h₀ : AuthorityInit s₀) (hrun : Run (AuthorityStep o) s₀ is s)
    (hstep : AuthorityStep o s i t) (h : Commits o s.db i c t.db)
    {responseRef : AuthoritativeRecordRefV1} {bytes : List UInt8}
    {channelRef audienceRef : ReferenceV1} {sendNonce : Text}
    (hcommand : i.command.command =
      .consumeResponseSend responseRef bytes channelRef audienceRef sendNonce) :
    ∃ response, SendApproved o s₀ is i c responseRef bytes channelRef audienceRef sendNonce
      response := by
  have hs := runsOk_reachable ⟨s₀, is, h₀, hrun⟩
  have hhistory := sendHistory_run h₀ hrun
  have hadmits := (authorityStep_cases hstep).1
  obtain ⟨hcheck, r, hr, -⟩ := h.evaluates hs hadmits (not_revokes_send hcommand)
  simp only [evaluateCommand, hcommand] at hr
  obtain ⟨b, hsend⟩ := evaluateConsumeResponseSend_checked hr
  -- the run of the command is stored, as it has a response
  obtain ⟨row, hrow, hid, hloaded⟩ := h.loadedRow.resolve_right fun hnone => by
    have hcurrent := hsend.current.1
    rw [hnone] at hcurrent
    cases hcurrent
  obtain ⟨response, hrecorded, hresponse⟩ :=
    hhistory.response row hrow b (by rw [hloaded]; exact hsend.bound)
  have href : response.recordRef = responseRef :=
    hresponse.responseRef.symm.trans hsend.ofResponse
  refine ⟨response, {
    unused := ?_
    recorded := hrecorded
    ofResponse := href
    current := hsend.current
    unexpired := hsend.unexpired
    content := hsend.content ▸ hresponse.renderedContentDigest
    channel := hsend.channel ▸ hresponse.channelRef
    audience := hsend.audience ▸ hresponse.audienceRef }⟩
  intro runId tenantRef hsame hhappened
  have htenant : tenantRef = i.command.tenantRef := by
    rcases hsame with rfl | htenant
    · -- the sends of the run are of its tenant
      obtain ⟨row', hrow', hid', rfl⟩ := hhistory.tenant _ _ _ hhappened
      rw [h.loaded_of_row hs hrow' hid']
      exact (checkCommand_checked hcheck).tenantRef
    · exact htenant
  subst htenant
  have hmem := hhistory.consumed _ _ _ hhappened
  have hsent := authorityStep_sends hstep ⟨c, h⟩
  generalize t.db.responseSends = rows at hsent
  cases hsent with
  | sent hcommand' hnew =>
    rw [hcommand] at hcommand'
    cases hcommand'
    exact hnew _ hmem ⟨rfl, rfl⟩
  | kept hother => exact hother _ _ _ _ _ hcommand

end History

end Commit

/-! ### A sample send -/

namespace Sample

section Calls

variable [Crypto]

omit [Crypto] in
def renderedBytes : List UInt8 := [104, 105]

omit [Crypto] in
def channel : ReferenceV1 := ⟨"channel:test", by decide +kernel⟩

def recordResponse (_ : IdrRunProjectionV1) : IdrCommandV1 :=
  .recordResponse (candidate 5 .response [
    ("rendered_content_digest", .string (sha256Hex renderedBytes)),
    ("channel_ref", .string channel.asStr),
    ("audience_ref", .string audience.asStr)])

omit [Crypto] in
def sendResponse (p : IdrRunProjectionV1) : IdrCommandV1 :=
  .consumeResponseSend (current p .response) renderedBytes channel audience
    (encodeHex (digestBytes 900).toList)

def callsToResponse : List (AuthorityStateV1 → TransactInputV1) := [
  fullyCalled 10 owner startRun,
  fullyCalled 11 owner recordContext,
  fullyCalled 12 owner recordIntent,
  fullyCalled 13 owner recordDecision,
  fullyCalled 14 owner recordTurn,
  fullyCalled 15 owner recordResponse]

def responseSent : AuthorityStateV1 → TransactInputV1 := fullyCalled 16 owner sendResponse

end Calls

/-- The send is taken, and uses its nonce up. -/
def sends (s : AuthorityStateV1) : Bool :=
  let _ := shortCrypto
  isOkAnd (fullOrchestrator.authorityStep s (responseSent s)) fun t =>
    (projection t).responseSendNonces.length = 1 && (projection s).responseSendNonces.length = 0

set_option maxRecDepth 100000 in
def responseRecorded :
    Script (@PostgresIdrOrchestratorV1.authorityStep shortCrypto fullOrchestrator)
      (fun _ _ => True) emptyAuthority sends where
  inputs := @callsToResponse shortCrypto
  leads := by decide +kernel

end Sample

/-- The send of the sample run is approved. -/
theorem response_sent_as_approved_sample : ∃ is s i c responseRef bytes channelRef audienceRef
    sendNonce response,
    Run (@AuthorityStep Sample.shortCrypto Sample.fullOrchestrator) Sample.emptyAuthority is s ∧
    @SendApproved Sample.shortCrypto Sample.fullOrchestrator Sample.emptyAuthority is i c
      responseRef bytes channelRef audienceRef sendNonce response := by
  let crypto := Sample.shortCrypto
  obtain ⟨s, is, hrun, hsends⟩ := Sample.responseRecorded.run
  have hrun := hrun.of_restrict
  obtain ⟨t, ht, hnonces⟩ := isOkAnd_iff.mp hsends
  rw [Bool.and_eq_true, decide_eq_true_eq, decide_eq_true_eq] at hnonces
  have hchange : Sample.projection t ≠ Sample.projection s := by
    intro hsame
    rw [hsame, hnonces.2] at hnonces
    exact absurd hnonces.1 (by decide)
  obtain ⟨hcommand, hid⟩ := Sample.fullyCalled_command 16 Sample.owner Sample.sendResponse s
  obtain ⟨-, c, hc, -⟩ := Sample.commits ⟨_, is, Sample.authorityInit_empty, hrun⟩ ht hid hchange
  obtain ⟨response, hsend⟩ :=
    response_sent_as_approved Sample.authorityInit_empty hrun ht hc hcommand
  exact ⟨is, s, _, c, _, _, _, _, _, response, hrun, hsend⟩

end Idr
