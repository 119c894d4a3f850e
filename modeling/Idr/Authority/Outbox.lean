/-
Idr/Authority/Outbox.lean

The leases of the outbox.

A worker claims undelivered events for some seconds and acknowledges what it
has delivered.  `idr_outbox_events` is a view: an update of it evaluates its
`WHERE` on the rows that its snapshot shows, and a trigger then writes the whole
row to the table below, by its primary key.

A claim first takes the rows with `FOR UPDATE SKIP LOCKED`, which locks them in
the table and looks at them again there, so that it is one step.  `locked` are
the rows that others hold, or that its snapshot does not show as open.  An
acknowledgement takes no lock and looks once.  It is two steps, the check of a
row and the write of it, and others may change the row in between.

The table only keeps the last claim of an event, while a worker believes in
the claim that it was given until it runs out.  The history of what was given
(`grants`) is kept beside the table, and the invariant compares the two: the
claims of one event follow each other in time, and the last of them is the
one in the table until the event is delivered (`OutboxOk`).  What an
acknowledgement was checked under is the claim in the table, or an older one
(`AcknowledgementV1.Ok`).
-/
import Idr.TrustChain.Types
import Idr.Lib.Steps
import Mathlib.Data.List.Sort
import Mathlib.Data.List.Pairwise

namespace Idr

/-! ### Rows -/

/-- The columns `claim_owner`, `claimed_at` and `claim_until`, with the check on the last two. -/
structure OutboxClaimV1 where
  claimOwner : ReferenceV1
  claimedAt : Nat
  claimUntil : Nat
  lease : claimedAt < claimUntil

/-- A row of `idr_outbox_events`, its times in microseconds.  The three columns of a claim are null
together. -/
structure OutboxEventV1 where
  outboxId : Uuid
  trustDomain : TrustDomainV1
  environmentRef : ReferenceV1
  tenantRef : Text
  runId : Uuid
  aggregateVersion : Nat
  eventType : Text
  payload : Value
  createdAt : Nat
  availableAt : Nat
  claim : Option OutboxClaimV1
  deliveredAt : Option Nat
  deliveryAttempts : Nat

/-- `ClaimedOutboxEventV1`. -/
structure ClaimedOutboxEventV1 where
  outboxId : Uuid
  tenantRef : Text
  runId : Uuid
  aggregateVersion : Nat
  eventType : Text
  payload : Value
  deliveryAttempts : Nat

/-- The deployment a store is configured for. -/
structure OutboxStoreV1 where
  trustDomain : TrustDomainV1
  environmentRef : ReferenceV1

namespace OutboxEventV1

/-- What `RETURNING` returns of a row. -/
def claimed (self : OutboxEventV1) : ClaimedOutboxEventV1 where
  outboxId := self.outboxId
  tenantRef := self.tenantRef
  runId := self.runId
  aggregateVersion := self.aggregateVersion
  eventType := self.eventType
  payload := self.payload
  deliveryAttempts := self.deliveryAttempts

/-- `ORDER BY available_at, created_at, outbox_id`. -/
def before (a b : OutboxEventV1) : Prop :=
  a.availableAt < b.availableAt ∨ (a.availableAt = b.availableAt ∧
    (a.createdAt < b.createdAt ∨ (a.createdAt = b.createdAt ∧ a.outboxId.toNat ≤ b.outboxId.toNat)))

instance : DecidableRel before := fun a b => by unfold before; infer_instance

end OutboxEventV1

/-! ### Claims -/

/-- The clock as a claim reads it for a row: in the two conditions, and for the two columns.  The
count is the one of the row that the snapshot shows. -/
structure ClaimReadingsV1 where
  availableAt : Nat
  expiredAt : Nat
  claimedAt : Nat
  leasedAt : Nat
  deliveryAttempts : Nat
  ordered : availableAt ≤ expiredAt ∧ expiredAt ≤ claimedAt ∧ claimedAt ≤ leasedAt

/-- The `WHERE` of a claim, and `SKIP LOCKED`. -/
def OutboxStoreV1.claimable (self : OutboxStoreV1) (locked : List Uuid)
    (readings : ClaimReadingsV1) (row : OutboxEventV1) : Bool :=
  row.deliveredAt = none
    ∧ row.trustDomain = self.trustDomain
    ∧ row.environmentRef = self.environmentRef
    ∧ row.availableAt ≤ readings.availableAt
    ∧ row.claim.all (fun claim => claim.claimUntil ≤ readings.expiredAt) = true
    ∧ row.outboxId ∉ locked

/-- The rows that a claim selects. -/
def OutboxStoreV1.selectEvents (self : OutboxStoreV1) (limit : Nat) (locked : List Uuid)
    (readings : Uuid → ClaimReadingsV1) (rows : List OutboxEventV1) : List OutboxEventV1 :=
  ((rows.filter fun row => self.claimable locked (readings row.outboxId) row).insertionSort
    OutboxEventV1.before).take limit

/-- The end of a lease. -/
def ClaimReadingsV1.claimUntil (self : ClaimReadingsV1) (leaseSeconds : Nat) : Nat :=
  self.leasedAt + leaseSeconds * 1000000

/-- The `SET` of a claim. -/
def OutboxEventV1.claimFor (self : OutboxEventV1) (worker : ReferenceV1)
    (readings : ClaimReadingsV1)
    (leaseSeconds : Nat) (hlease : leaseSeconds ≠ 0) : OutboxEventV1 :=
  { self with
    claim := some {
      claimOwner := worker
      claimedAt := readings.claimedAt
      claimUntil := readings.claimUntil leaseSeconds
      lease := by
        have hordered := readings.ordered
        unfold ClaimReadingsV1.claimUntil
        omega }
    deliveryAttempts := readings.deliveryAttempts + 1 }

/-- `claim_outbox_events_for_test`: the claimed events, and the table after it. -/
def OutboxStoreV1.claimEvents (self : OutboxStoreV1) (worker : ReferenceV1)
    (limit leaseSeconds : Nat) (locked : List Uuid) (readings : Uuid → ClaimReadingsV1)
    (rows : List OutboxEventV1) :
    Except IdrRuntimeErrorV1 (List ClaimedOutboxEventV1 × List OutboxEventV1) :=
  if h : limit = 0 ∨ limit > 500 ∨ leaseSeconds = 0 ∨ leaseSeconds > 3600 then
    .error .bindingMismatch
  else
    have hlease : leaseSeconds ≠ 0 := fun hzero => h (.inr (.inr (.inl hzero)))
    let selected := (self.selectEvents limit locked readings rows).map (·.outboxId)
    let claim := fun row =>
      OutboxEventV1.claimFor row worker (readings row.outboxId) leaseSeconds hlease
    .ok ((rows.filter (·.outboxId ∈ selected)).map fun row => (claim row).claimed,
      rows.map fun row => if row.outboxId ∈ selected then claim row else row)

/-! ### Acknowledgements -/

/-- The clock as an acknowledgement reads it: in the condition, and for the column. -/
structure AcknowledgeReadingsV1 where
  checkedAt : Nat
  deliveredAt : Nat
  ordered : checkedAt ≤ deliveredAt

/-- The `WHERE` of an acknowledgement. -/
def OutboxStoreV1.acknowledgeable (self : OutboxStoreV1) (worker : ReferenceV1) (outboxId : Uuid)
    (readings : AcknowledgeReadingsV1) (row : OutboxEventV1) : Bool :=
  row.outboxId = outboxId
    ∧ row.claim.any (fun claim =>
        claim.claimOwner = worker ∧ claim.claimUntil > readings.checkedAt) = true
    ∧ row.trustDomain = self.trustDomain
    ∧ row.environmentRef = self.environmentRef
    ∧ row.deliveredAt = none

/-- An acknowledgement between its check and its write: the row that was checked (`OLD`), and the
time that is written to it. -/
structure AcknowledgementV1 where
  worker : ReferenceV1
  old : OutboxEventV1
  deliveredAt : Nat

/-- `acknowledge_outbox_event_for_test` up to the trigger: the row of the snapshot that meets the
`WHERE`.  Without one no row is affected. -/
def OutboxStoreV1.checkAcknowledgement (self : OutboxStoreV1) (worker : ReferenceV1)
    (outboxId : Uuid) (readings : AcknowledgeReadingsV1) (rows : List OutboxEventV1) :
    Except IdrRuntimeErrorV1 AcknowledgementV1 := do
  let old ← okOr (rows.find? (self.acknowledgeable worker outboxId readings)) .bindingMismatch
  .ok ⟨worker, old, readings.deliveredAt⟩

namespace AcknowledgementV1

/-- `NEW`: the row that was checked, with the `SET` of an acknowledgement. -/
def new (self : AcknowledgementV1) : OutboxEventV1 :=
  { self.old with
    deliveredAt := some self.deliveredAt
    claim := none }

/-- `idr_attested_authority_view_bridge_v7` and the rest of the transaction: the table after it.
The row is found by its primary key alone. -/
def write (self : AcknowledgementV1) (rows : List OutboxEventV1) :
    Except IdrRuntimeErrorV1 (List OutboxEventV1) := do
  let affected := rows.filter fun row => row.outboxId = self.old.outboxId
  -- the check of the table on `delivered_at`
  rejectIf (affected.isEmpty = false ∧ self.deliveredAt < self.old.createdAt)
    (.repository "idr_outbox_events_check1")
  rejectIf (affected.length ≠ 1) .bindingMismatch
  .ok (rows.map fun row => if row.outboxId = self.old.outboxId then self.new else row)

end AcknowledgementV1

/-! ### The system -/

/-- A claim that was given to a worker. -/
structure OutboxGrantV1 where
  outboxId : Uuid
  worker : ReferenceV1
  claimedAt : Nat
  claimUntil : Nat

/-- The table, the clock, the claims that were given, and the acknowledgements that are checked and
not yet written. -/
structure OutboxStateV1 where
  rows : List OutboxEventV1
  clock : Nat
  grants : List OutboxGrantV1
  pending : List AcknowledgementV1

namespace OutboxStateV1

def empty : OutboxStateV1 := ⟨[], 0, [], []⟩

/-- The worker holds a claim on the event that has not expired at the time. -/
def HoldsAt (self : OutboxStateV1) (now : Nat) (worker : ReferenceV1) (outboxId : Uuid) : Prop :=
  ∃ grant ∈ self.grants, grant.outboxId = outboxId ∧ grant.worker = worker ∧
    grant.claimedAt ≤ now ∧ now < grant.claimUntil

/-- The claim on the event was given to its owner. -/
def Given (self : OutboxStateV1) (outboxId : Uuid) (claim : OutboxClaimV1) : Prop :=
  claim.claimedAt ≤ self.clock ∧ ∃ grant ∈ self.grants, grant.outboxId = outboxId ∧
    grant.worker = claim.claimOwner ∧ grant.claimedAt = claim.claimedAt ∧
      grant.claimUntil = claim.claimUntil

end OutboxStateV1

/-- What a transaction or the clock does. -/
inductive OutboxCallV1
  | claim (store : OutboxStoreV1) (worker : ReferenceV1) (limit leaseSeconds : Nat)
      (locked : List Uuid) (readings : Uuid → ClaimReadingsV1)
  | check (store : OutboxStoreV1) (worker : ReferenceV1) (outboxId : Uuid)
      (readings : AcknowledgeReadingsV1)
  | write (acknowledgement : AcknowledgementV1) (now : Nat)
  | append (event : OutboxEventV1)
  | wait

/-- **One step.** The clock goes forward.  A claim takes effect when it has read the clock for the
last time.  A check sees the table of its snapshot, and reads the clock at some time after that,
while others go on; a checked acknowledgement is written at any later time, or never.  A command
appends events that are unclaimed; a transaction that is refused changes nothing. -/
inductive OutboxStep (s : OutboxStateV1) : OutboxCallV1 → OutboxStateV1 → Prop
  | claim {store worker limit leaseSeconds locked readings claimed rows clock} :
      store.claimEvents worker limit leaseSeconds locked readings s.rows = .ok (claimed, rows) →
      (∀ row ∈ s.rows, (readings row.outboxId).leasedAt ≤ clock) → s.clock ≤ clock →
      OutboxStep s (.claim store worker limit leaseSeconds locked readings) ⟨rows, clock,
        s.grants ++ claimed.map fun event => {
          outboxId := event.outboxId
          worker := worker
          claimedAt := (readings event.outboxId).claimedAt
          claimUntil := (readings event.outboxId).claimUntil leaseSeconds }, s.pending⟩
  | check {store worker outboxId readings acknowledgement} :
      store.checkAcknowledgement worker outboxId readings s.rows = .ok acknowledgement →
      s.clock ≤ readings.checkedAt →
      OutboxStep s (.check store worker outboxId readings)
        ⟨s.rows, s.clock, s.grants, s.pending ++ [acknowledgement]⟩
  | write {acknowledgement before after now rows clock} :
      s.pending = before ++ acknowledgement :: after → acknowledgement.write s.rows = .ok rows →
      acknowledgement.deliveredAt ≤ now → s.clock ≤ now → now ≤ clock →
      OutboxStep s (.write acknowledgement now) ⟨rows, clock, s.grants, before ++ after⟩
  | append {event clock} :
      (∀ row ∈ s.rows, row.outboxId ≠ event.outboxId) → event.claim = none →
      event.deliveredAt = none → event.createdAt ≤ event.availableAt →
      event.availableAt ≤ clock → s.clock ≤ clock →
      OutboxStep s (.append event) ⟨s.rows ++ [event], clock, s.grants, s.pending⟩
  | wait {clock} : s.clock ≤ clock → OutboxStep s .wait ⟨s.rows, clock, s.grants, s.pending⟩
  | refused {call} : OutboxStep s call s

/-! ### The invariant -/

/-- What is known of an acknowledgement that was checked: it was checked under a claim of its
worker, and the claim in the table is still that one, or came after it. -/
structure AcknowledgementV1.Ok (acknowledgement : AcknowledgementV1)
    (s : OutboxStateV1) : Prop where
  available : acknowledgement.old.availableAt ≤ s.clock
  checked : ∃ claim, acknowledgement.old.claim = some claim ∧
    claim.claimOwner = acknowledgement.worker ∧ s.Given acknowledgement.old.outboxId claim
  follows : ∃ row ∈ s.rows, row.outboxId = acknowledgement.old.outboxId ∧
    (row.deliveredAt = none → row.claim = acknowledgement.old.claim ∨
      ∃ claim last, acknowledgement.old.claim = some claim ∧ row.claim = some last ∧
        claim.claimUntil ≤ last.claimedAt)

/-- The table, the history and the acknowledgements on their way agree. -/
structure OutboxOk (s : OutboxStateV1) : Prop where
  distinct : (s.rows.map (·.outboxId)).Nodup
  available : ∀ row ∈ s.rows, row.availableAt ≤ s.clock
  delivered : ∀ row ∈ s.rows, row.deliveredAt.isSome = true → row.claim = none
  -- the claim of a row was given, and every claim that was given is that one or older
  given : ∀ row ∈ s.rows, ∀ claim, row.claim = some claim → s.Given row.outboxId claim
  kept : ∀ grant ∈ s.grants, grant.claimedAt ≤ s.clock ∧
    ∃ row ∈ s.rows, row.outboxId = grant.outboxId ∧ (row.deliveredAt = none →
      ∃ claim, row.claim = some claim ∧ grant.claimUntil ≤ claim.claimUntil)
  -- the claims of one event follow each other
  apart : s.grants.Pairwise fun earlier later => earlier.outboxId = later.outboxId →
    earlier.claimUntil ≤ later.claimedAt
  pending : ∀ acknowledgement ∈ s.pending, acknowledgement.Ok s

section Invariant

variable {s t : OutboxStateV1} {store : OutboxStoreV1} {worker : ReferenceV1}
variable {row row' : OutboxEventV1} {outboxId : Uuid} {acknowledgement : AcknowledgementV1}

/-- Rows with one identifier are one row. -/
theorem OutboxOk.eq_of_id (h : OutboxOk s) (hrow : row ∈ s.rows) (hrow' : row' ∈ s.rows)
    (hid : row.outboxId = row'.outboxId) : row = row' :=
  List.inj_on_of_nodup_map h.distinct hrow hrow' hid

/-- An update that keeps the identifiers. -/
theorem map_outboxId {f : OutboxEventV1 → OutboxEventV1}
    (hf : ∀ row, (f row).outboxId = row.outboxId)
    (rows : List OutboxEventV1) : (rows.map f).map (·.outboxId) = rows.map (·.outboxId) := by
  rw [List.map_map]
  exact List.map_congr_left fun row _ => hf row

/-- A claim that was given stays given. -/
theorem OutboxStateV1.Given.mono {claim : OutboxClaimV1} (h : s.Given outboxId claim)
    (hclock : s.clock ≤ t.clock) (hgrants : s.grants ⊆ t.grants) : t.Given outboxId claim := by
  obtain ⟨htime, grant, hgrant, hsame⟩ := h
  exact ⟨htime.trans hclock, grant, hgrants hgrant, hsame⟩

/-- A step delivers a row, keeps its claim, or gives it a claim after the one that it had. -/
def OutboxEventV1.MovesTo (row row' : OutboxEventV1) : Prop :=
  row'.outboxId = row.outboxId ∧ (row'.deliveredAt = none → row.deliveredAt = none ∧
    (row'.claim = row.claim ∨ ∃ last, row'.claim = some last ∧
      ∀ claim, row.claim = some claim → claim.claimUntil ≤ last.claimedAt))

theorem OutboxEventV1.MovesTo.refl (row : OutboxEventV1) : row.MovesTo row :=
  ⟨rfl, fun hnone => ⟨hnone, .inl rfl⟩⟩

/-- A claim that was given before is still no later than the one in the table. -/
theorem OutboxOk.kept_of_moves (h : OutboxOk s) (hclock : s.clock ≤ t.clock)
    (hmoves : ∀ row ∈ s.rows, ∃ row' ∈ t.rows, row.MovesTo row') {grant : OutboxGrantV1}
    (hgrant : grant ∈ s.grants) : grant.claimedAt ≤ t.clock ∧
      ∃ row ∈ t.rows, row.outboxId = grant.outboxId ∧ (row.deliveredAt = none →
        ∃ claim, row.claim = some claim ∧ grant.claimUntil ≤ claim.claimUntil) := by
  obtain ⟨htime, row, hrow, hid, hopen⟩ := h.kept grant hgrant
  obtain ⟨row', hrow', hid', hmoved⟩ := hmoves row hrow
  refine ⟨htime.trans hclock, row', hrow', hid'.trans hid, fun hnone => ?_⟩
  obtain ⟨hundelivered, hsame | ⟨last, hlast, hafter⟩⟩ := hmoved hnone
  · rw [hsame]
    exact hopen hundelivered
  · obtain ⟨claim, hclaim, hle⟩ := hopen hundelivered
    have hlease := last.lease
    have hbefore := hafter claim hclaim
    exact ⟨last, hlast, by omega⟩

/-- What is known of a checked acknowledgement stays known. -/
theorem AcknowledgementV1.Ok.of_moves (h : acknowledgement.Ok s) (hclock : s.clock ≤ t.clock)
    (hgrants : s.grants ⊆ t.grants) (hmoves : ∀ row ∈ s.rows, ∃ row' ∈ t.rows, row.MovesTo row') :
    acknowledgement.Ok t := by
  obtain ⟨claim, hold, howner, hgiven⟩ := h.checked
  obtain ⟨row, hrow, hid, hopen⟩ := h.follows
  obtain ⟨row', hrow', hid', hmoved⟩ := hmoves row hrow
  refine ⟨h.available.trans hclock, ⟨claim, hold, howner, hgiven.mono hclock hgrants⟩,
    row', hrow', hid'.trans hid, fun hnone => ?_⟩
  obtain ⟨hundelivered, hsame | ⟨last, hlast, hafter⟩⟩ := hmoved hnone
  · rw [hsame]
    exact hopen hundelivered
  · -- a claim that came after the one in the table came after the one that was checked
    refine Or.inr ⟨claim, last, hold, hlast, ?_⟩
    rcases hopen hundelivered with hsame | ⟨claim', between, hclaim', hbetween, hle⟩
    · exact hafter claim (hsame.trans hold)
    · obtain rfl := Option.some.inj (hclaim'.symm.trans hold)
      have hlease := between.lease
      have hbefore := hafter between hbetween
      omega

section Claim

variable {limit leaseSeconds : Nat} {locked : List Uuid} {readings : Uuid → ClaimReadingsV1}
variable {rows : List OutboxEventV1} {events : List ClaimedOutboxEventV1}

theorem mem_selectEvents (h : row ∈ store.selectEvents limit locked readings s.rows) :
    row ∈ s.rows ∧ store.claimable locked (readings row.outboxId) row = true := by
  have hsorted := List.mem_of_mem_take h
  have hfilter := (List.mem_insertionSort _).mp hsorted
  obtain ⟨hmem, hclaimable⟩ := List.mem_filter.mp hfilter
  exact ⟨hmem, hclaimable⟩

/-- **What a claim does.** The rows that it selects are claimed for the worker, the others are kept,
and the claimed rows are returned. -/
theorem claimEvents_eq_ok
    (h : store.claimEvents worker limit leaseSeconds locked readings s.rows = .ok (events, rows)) :
    ∃ hlease : leaseSeconds ≠ 0, ∃ selected : List Uuid,
      selected = (store.selectEvents limit locked readings s.rows).map (·.outboxId) ∧
      events = (s.rows.filter (·.outboxId ∈ selected)).map
        (fun row => (row.claimFor worker (readings row.outboxId) leaseSeconds hlease).claimed) ∧
      rows = s.rows.map fun row => if row.outboxId ∈ selected then
        row.claimFor worker (readings row.outboxId) leaseSeconds hlease else row := by
  unfold OutboxStoreV1.claimEvents at h
  split at h
  case isTrue => cases h
  case isFalse hguard =>
    obtain ⟨rfl, rfl⟩ := Prod.mk.inj (Except.ok.inj h)
    exact ⟨fun hzero => hguard (.inr (.inr (.inl hzero))), _, rfl, rfl, rfl⟩

/-- A selected row is undelivered, and its last claim has expired. -/
theorem OutboxOk.claimable_of_selected (h : OutboxOk s) (hrow : row ∈ s.rows)
    (hselected : row.outboxId ∈ (store.selectEvents limit locked readings s.rows).map
      (·.outboxId)) :
    row.deliveredAt = none ∧ ∀ claim, row.claim = some claim →
      claim.claimUntil ≤ (readings row.outboxId).expiredAt := by
  obtain ⟨row', hmem, hid⟩ := List.mem_map.mp hselected
  obtain ⟨hmem', hclaimable⟩ := mem_selectEvents hmem
  obtain rfl := h.eq_of_id hmem' hrow hid
  simp only [OutboxStoreV1.claimable, decide_eq_true_eq] at hclaimable
  obtain ⟨hdelivered, -, -, -, hexpired, -⟩ := hclaimable
  refine ⟨hdelivered, fun claim hclaim => ?_⟩
  rw [hclaim, Option.all_some, decide_eq_true_eq] at hexpired
  exact hexpired

/-- A claim keeps the invariant. -/
theorem OutboxOk.claimEvents {clock : Nat} (h : OutboxOk s)
    (hclaim : store.claimEvents worker limit leaseSeconds locked readings s.rows =
      .ok (events, rows))
    (hreadings : ∀ row ∈ s.rows, (readings row.outboxId).leasedAt ≤ clock)
    (hclock : s.clock ≤ clock) :
    OutboxOk ⟨rows, clock, s.grants ++ events.map fun event => {
      outboxId := event.outboxId
      worker := worker
      claimedAt := (readings event.outboxId).claimedAt
      claimUntil := (readings event.outboxId).claimUntil leaseSeconds }, s.pending⟩ := by
  obtain ⟨hlease, selected, hselected, rfl, rfl⟩ := claimEvents_eq_ok hclaim
  rw [List.map_map]
  -- each row keeps its identifier, and the claimed ones are those that were selected
  have hids : ∀ row : OutboxEventV1, (if row.outboxId ∈ selected then
      row.claimFor worker (readings row.outboxId) leaseSeconds hlease else row).outboxId =
        row.outboxId := by
    intro row
    split <;> rfl
  have hexpired : ∀ row ∈ s.rows, row.outboxId ∈ selected → row.deliveredAt = none ∧
      ∀ claim, row.claim = some claim → claim.claimUntil ≤ (readings row.outboxId).expiredAt := by
    intro row hrow hmem
    rw [hselected] at hmem
    exact h.claimable_of_selected hrow hmem
  have htimes : ∀ row ∈ s.rows, (readings row.outboxId).claimedAt ≤ clock := by
    intro row hrow
    exact (readings row.outboxId).ordered.2.2.trans (hreadings row hrow)
  have hmoves : ∀ row ∈ s.rows, ∃ row' ∈ s.rows.map fun row => if row.outboxId ∈ selected then
      row.claimFor worker (readings row.outboxId) leaseSeconds hlease else row,
        row.MovesTo row' := by
    intro row hrow
    refine ⟨_, List.mem_map_of_mem hrow, ?_⟩
    by_cases hmem : row.outboxId ∈ selected
    · rw [if_pos hmem]
      -- the claim that it takes the place of has expired
      obtain ⟨hundelivered, hold⟩ := hexpired row hrow hmem
      refine ⟨rfl, fun _ => ⟨hundelivered, Or.inr ⟨_, rfl, fun claim hclaim => ?_⟩⟩⟩
      exact (hold claim hclaim).trans (readings row.outboxId).ordered.2.1
    · rw [if_neg hmem]
      exact .refl row
  constructor
  · show ((s.rows.map _).map _).Nodup
    rw [map_outboxId hids]
    exact h.distinct
  · intro _ hmoved
    obtain ⟨row, hrow, rfl⟩ := List.mem_map.mp hmoved
    have havailable := (h.available row hrow).trans hclock
    split <;> exact havailable
  · intro _ hmoved hdelivered
    obtain ⟨row, hrow, rfl⟩ := List.mem_map.mp hmoved
    by_cases hmem : row.outboxId ∈ selected
    · rw [if_pos hmem] at hdelivered
      have hnone : row.deliveredAt = none := (hexpired row hrow hmem).1
      rw [OutboxEventV1.claimFor, hnone] at hdelivered
      cases hdelivered
    · rw [if_neg hmem] at hdelivered ⊢
      exact h.delivered row hrow hdelivered
  · intro _ hmoved claim hclaim
    obtain ⟨row, hrow, rfl⟩ := List.mem_map.mp hmoved
    rw [hids row]
    by_cases hmem : row.outboxId ∈ selected
    · rw [if_pos hmem] at hclaim
      obtain rfl := Option.some.inj hclaim
      refine ⟨htimes row hrow, _, List.mem_append_right _ (List.mem_map.mpr ⟨row, ?_, rfl⟩), ?_⟩
      · exact List.mem_filter.mpr ⟨hrow, decide_eq_true hmem⟩
      · exact ⟨rfl, rfl, rfl, rfl⟩
    · rw [if_neg hmem] at hclaim
      exact (h.given row hrow claim hclaim).mono hclock (List.subset_append_left _ _)
  · intro grant hgrant
    rcases List.mem_append.mp hgrant with hgrant | hgrant
    · exact h.kept_of_moves hclock hmoves hgrant
    · obtain ⟨row, hrow, rfl⟩ := List.mem_map.mp hgrant
      obtain ⟨hrow, hmem⟩ := List.mem_filter.mp hrow
      refine ⟨htimes row hrow, _, List.mem_map_of_mem hrow, hids row, fun _ => ?_⟩
      rw [if_pos (of_decide_eq_true hmem)]
      exact ⟨_, rfl, Nat.le_refl _⟩
  · refine List.pairwise_append.mpr ⟨h.apart, ?_, ?_⟩
    · -- one claim gives an event once
      rw [List.pairwise_map]
      have hdistinct : (s.rows.filter (·.outboxId ∈ selected)).Pairwise fun a b =>
          a.outboxId ≠ b.outboxId :=
        (List.pairwise_map.mp h.distinct).sublist List.filter_sublist
      exact hdistinct.imp fun hne hid => absurd hid hne
    · intro earlier hearlier later hlater hid
      obtain ⟨row, hrow, rfl⟩ := List.mem_map.mp hlater
      obtain ⟨hrow, hmem⟩ := List.mem_filter.mp hrow
      obtain ⟨-, row', hrow', hid', hopen⟩ := h.kept earlier hearlier
      obtain rfl := h.eq_of_id hrow' hrow (hid'.trans hid)
      obtain ⟨hundelivered, hold⟩ := hexpired row' hrow (of_decide_eq_true hmem)
      obtain ⟨claim, hclaim, hle⟩ := hopen hundelivered
      have hbefore := hold claim hclaim
      have hordered := (readings row'.outboxId).ordered
      show earlier.claimUntil ≤ (readings row'.outboxId).claimedAt
      omega
  · intro acknowledgement hpending
    exact (h.pending _ hpending).of_moves hclock (List.subset_append_left _ _) hmoves

end Claim

section Acknowledge

variable {readings : AcknowledgeReadingsV1} {rows : List OutboxEventV1}

/-- **What a check does.** It finds a row that the worker holds. -/
theorem checkAcknowledgement_eq_ok
    (h : store.checkAcknowledgement worker outboxId readings rows = .ok acknowledgement) :
    ∃ row ∈ rows, store.acknowledgeable worker outboxId readings row = true ∧
      acknowledgement = ⟨worker, row, readings.deliveredAt⟩ := by
  obtain ⟨row, hfound, hpending⟩ := bind_eq_ok.mp h
  rw [okOr_eq_ok] at hfound
  obtain rfl := Except.ok.inj hpending
  exact ⟨row, List.mem_of_find?_eq_some hfound, List.find?_some hfound, rfl⟩

/-- **What a write does.** It replaces the row with the identifier, whatever became of it. -/
theorem AcknowledgementV1.write_eq_ok (h : acknowledgement.write s.rows = .ok rows) :
    (∃ row ∈ s.rows, row.outboxId = acknowledgement.old.outboxId) ∧
      rows = s.rows.map fun row =>
        if row.outboxId = acknowledgement.old.outboxId then acknowledgement.new else row := by
  simp only [AcknowledgementV1.write, bind_eq_ok, rejectIf_eq_ok, exists_const, not_not, ne_eq,
    Except.ok.injEq] at h
  obtain ⟨-, hone, rfl⟩ := h
  obtain ⟨row, hrow⟩ := List.length_eq_one_iff.mp hone
  have hmem : row ∈ s.rows.filter fun row => row.outboxId = acknowledgement.old.outboxId := by
    rw [hrow]
    exact List.mem_singleton_self row
  obtain ⟨hin, hid⟩ := List.mem_filter.mp hmem
  exact ⟨⟨row, hin, of_decide_eq_true hid⟩, rfl⟩

/-- A checked acknowledgement was checked under the claim in the table. -/
theorem OutboxOk.checkAcknowledgement (h : OutboxOk s)
    (hcheck : store.checkAcknowledgement worker outboxId readings s.rows = .ok acknowledgement) :
    acknowledgement.Ok s := by
  obtain ⟨row, hrow, hheld, rfl⟩ := checkAcknowledgement_eq_ok hcheck
  simp only [OutboxStoreV1.acknowledgeable, decide_eq_true_eq] at hheld
  obtain ⟨-, hclaim, -⟩ := hheld
  obtain ⟨claim, hsome, howner⟩ := (Option.any_eq_true _ _).mp hclaim
  refine ⟨h.available row hrow, ⟨claim, hsome, (of_decide_eq_true howner).1, ?_⟩,
    row, hrow, rfl, fun _ => .inl rfl⟩
  exact h.given row hrow claim hsome

/-- A write keeps the invariant: the event is delivered, and its claims are over. -/
theorem OutboxOk.write {clock : Nat} {pending : List AcknowledgementV1} (h : OutboxOk s)
    (hpending : acknowledgement ∈ s.pending) (hsub : pending ⊆ s.pending)
    (hwrite : acknowledgement.write s.rows = .ok rows) (hclock : s.clock ≤ clock) :
    OutboxOk ⟨rows, clock, s.grants, pending⟩ := by
  obtain ⟨-, rfl⟩ := acknowledgement.write_eq_ok hwrite
  have hids : ∀ row : OutboxEventV1, (if row.outboxId = acknowledgement.old.outboxId then
      acknowledgement.new else row).outboxId = row.outboxId := by
    intro row
    split
    case isTrue hid => exact hid.symm
    case isFalse => rfl
  have hmoves : ∀ row ∈ s.rows, ∃ row' ∈ s.rows.map fun row =>
      if row.outboxId = acknowledgement.old.outboxId then acknowledgement.new else row,
        row.MovesTo row' := by
    intro row hrow
    refine ⟨_, List.mem_map_of_mem hrow, hids row, fun hnone => ?_⟩
    split at hnone
    case isTrue => cases hnone
    case isFalse hother =>
      rw [if_neg hother]
      exact ⟨hnone, .inl rfl⟩
  constructor
  · show ((s.rows.map _).map _).Nodup
    rw [map_outboxId hids]
    exact h.distinct
  · intro _ hmoved
    obtain ⟨row, hrow, rfl⟩ := List.mem_map.mp hmoved
    split
    case isTrue => exact (h.pending _ hpending).available.trans hclock
    case isFalse => exact (h.available row hrow).trans hclock
  · intro _ hmoved hdelivered
    obtain ⟨row, hrow, rfl⟩ := List.mem_map.mp hmoved
    split
    case isTrue => rfl
    case isFalse hother =>
      rw [if_neg hother] at hdelivered
      exact h.delivered row hrow hdelivered
  · intro _ hmoved claim hclaim
    obtain ⟨row, hrow, rfl⟩ := List.mem_map.mp hmoved
    rw [hids row]
    split at hclaim
    case isTrue => cases hclaim
    case isFalse =>
      exact (h.given row hrow claim hclaim).mono hclock fun _ => id
  · exact fun grant hgrant => h.kept_of_moves hclock hmoves hgrant
  · exact h.apart
  · intro other hother
    exact (h.pending other (hsub hother)).of_moves hclock (fun _ => id) hmoves

end Acknowledge

/-- **Every step keeps the invariant.** -/
theorem OutboxOk.step {call : OutboxCallV1} (h : OutboxOk s) (hstep : OutboxStep s call t) :
    OutboxOk t := by
  cases hstep with
  | claim hclaim hreadings hclock => exact h.claimEvents hclaim hreadings hclock
  | check hcheck _ =>
    refine ⟨h.distinct, h.available, h.delivered, h.given, h.kept, h.apart, ?_⟩
    intro other hother
    have hok : other.Ok s := by
      rcases List.mem_append.mp hother with hother | hother
      · exact h.pending other hother
      · obtain rfl := List.mem_singleton.mp hother
        exact h.checkAcknowledgement hcheck
    exact ⟨hok.available, hok.checked, hok.follows⟩
  | @write acknowledgement before after now rows clock hpending hwrite _ hnow hclock =>
    refine h.write (hpending ▸ List.mem_append_cons_self) ?_ hwrite (hnow.trans hclock)
    rw [hpending]
    exact List.append_subset.mpr ⟨List.subset_append_left _ _,
      fun other hother => List.mem_append_right _ (List.mem_cons_of_mem _ hother)⟩
  | @append event clock hnew hclaim hundelivered hcreated havailable hclock =>
    have hmoves : ∀ row ∈ s.rows, ∃ row' ∈ s.rows ++ [event], row.MovesTo row' :=
      fun row hrow => ⟨row, List.mem_append_left _ hrow, .refl row⟩
    refine ⟨?_, ?_, ?_, ?_, fun grant => h.kept_of_moves hclock hmoves, h.apart,
      fun other hother => (h.pending other hother).of_moves hclock (fun _ => id) hmoves⟩
    · show ((s.rows ++ [event]).map _).Nodup
      rw [List.map_append, List.nodup_append]
      refine ⟨h.distinct, List.nodup_singleton _, ?_⟩
      rintro _ hid _ hid' rfl
      obtain ⟨row, hrow, hrowId⟩ := List.mem_map.mp hid
      rw [List.map_singleton, List.mem_singleton] at hid'
      exact hnew row hrow (hrowId.trans hid')
    · intro row hrow
      rcases List.mem_append.mp hrow with hrow | hrow
      · exact (h.available row hrow).trans hclock
      · obtain rfl := List.mem_singleton.mp hrow
        exact havailable
    · intro row hrow hdelivered
      rcases List.mem_append.mp hrow with hrow | hrow
      · exact h.delivered row hrow hdelivered
      · obtain rfl := List.mem_singleton.mp hrow
        exact hclaim
    · intro row hrow claim hrowClaim
      rcases List.mem_append.mp hrow with hrow | hrow
      · exact (h.given row hrow claim hrowClaim).mono hclock fun _ => id
      · obtain rfl := List.mem_singleton.mp hrow
        rw [hclaim] at hrowClaim
        cases hrowClaim
  | @wait clock hclock =>
    have hmoves : ∀ row ∈ s.rows, ∃ row' ∈ s.rows, row.MovesTo row' :=
      fun row hrow => ⟨row, hrow, .refl row⟩
    refine ⟨h.distinct, fun row hrow => (h.available row hrow).trans hclock, h.delivered,
      fun row hrow claim hclaim => (h.given row hrow claim hclaim).mono hclock fun _ => id,
      ?_, h.apart, ?_⟩
    · exact fun grant => h.kept_of_moves (t := ⟨s.rows, clock, _, _⟩) hclock hmoves
    · exact fun other hother =>
        (h.pending other hother).of_moves hclock (fun _ => id) hmoves
  | refused => exact h

theorem outboxOk_empty : OutboxOk .empty where
  distinct := List.nodup_nil
  available _ hrow := absurd hrow List.not_mem_nil
  delivered _ hrow := absurd hrow List.not_mem_nil
  given _ hrow := absurd hrow List.not_mem_nil
  kept _ hgrant := absurd hgrant List.not_mem_nil
  apart := .nil
  pending _ hpending := absurd hpending List.not_mem_nil

theorem OutboxOk.of_reachable (h : Reachable (· = .empty) OutboxStep s) : OutboxOk s := by
  refine h.invariant ?_ fun s call t hs hstep => hs.step hstep
  rintro _ rfl
  exact outboxOk_empty

/-! ### Exclusion -/

/-- **At no time do two workers hold an event.** -/
theorem OutboxOk.exclusive (h : OutboxOk s) {now : Nat} {worker' : ReferenceV1}
    (hholds : s.HoldsAt now worker outboxId) (hholds' : s.HoldsAt now worker' outboxId) :
    worker = worker' := by
  obtain ⟨grant, hgrant, hid, rfl, hfrom, huntil⟩ := hholds
  obtain ⟨grant', hgrant', hid', rfl, hfrom', huntil'⟩ := hholds'
  have hsame : grant = grant' := by
    by_contra hne
    -- two different claims of one event do not overlap
    let Apart (a b : OutboxGrantV1) : Prop := a.outboxId = b.outboxId →
      a.claimUntil ≤ b.claimedAt ∨ b.claimUntil ≤ a.claimedAt
    have hapart : s.grants.Pairwise Apart := h.apart.imp fun hle hid => Or.inl (hle hid)
    have hsymm : Std.Symm Apart := ⟨fun _ _ hab hid => (hab hid.symm).symm⟩
    rcases hapart.forall hgrant hgrant' hne (hid.trans hid'.symm) with hle | hle <;> omega
  rw [hsame]

/-! ### Late acknowledgements -/

/-- The worker holds the event, by the claim that the acknowledgement was checked under, and that is
the claim in the table. -/
def WrittenUnderLease (s : OutboxStateV1) (acknowledgement : AcknowledgementV1)
    (now : Nat) : Prop :=
  s.HoldsAt now acknowledgement.worker acknowledgement.old.outboxId ∧
    ∃ row ∈ s.rows, row.outboxId = acknowledgement.old.outboxId ∧
      row.claim = acknowledgement.old.claim

/-- The lease that was checked is over, or the event was delivered after the check. -/
def WritesLate (s : OutboxStateV1) (acknowledgement : AcknowledgementV1) (now : Nat) : Prop :=
  (∃ claim, acknowledgement.old.claim = some claim ∧ claim.claimUntil ≤ now) ∨
    ∃ row ∈ s.rows, row.outboxId = acknowledgement.old.outboxId ∧ row.deliveredAt.isSome = true

/-- **A write is made under its lease exactly when it is not late.** -/
theorem OutboxOk.writtenUnderLease_iff (h : OutboxOk s) (hpending : acknowledgement ∈ s.pending)
    {now : Nat} (hnow : s.clock ≤ now) :
    WrittenUnderLease s acknowledgement now ↔ ¬ WritesLate s acknowledgement now := by
  obtain ⟨-, ⟨claim, hold, howner, hgiven⟩, row, hrow, hid, hfollows⟩ := h.pending _ hpending
  constructor
  · rintro ⟨⟨grant, hgrant, hgrantId, -, -, huntil⟩, row', hrow', hid', hclaim'⟩ hlate
    obtain rfl := h.eq_of_id hrow' hrow (hid'.trans hid.symm)
    have hclaim : row'.claim = some claim := hclaim'.trans hold
    have hundelivered : row'.deliveredAt = none := by
      rcases hdelivered : row'.deliveredAt with _ | deliveredAt
      · rfl
      · have hnone := h.delivered row' hrow (by rw [hdelivered]; rfl)
        rw [hclaim] at hnone
        cases hnone
    rcases hlate with ⟨claim', hsame, hover⟩ | ⟨other, hother, hotherId, hdelivered⟩
    · obtain rfl := Option.some.inj (hsame.symm.trans hold)
      -- no claim of the event lasts longer than the one in the table
      obtain ⟨-, last, hlast, hlastId, hopen⟩ := h.kept grant hgrant
      obtain rfl := h.eq_of_id hlast hrow (hlastId.trans (hgrantId.trans hid.symm))
      obtain ⟨claim, hsome, hle⟩ := hopen hundelivered
      obtain rfl := Option.some.inj (hsome.symm.trans hclaim)
      omega
    · obtain rfl := h.eq_of_id hother hrow (hotherId.trans hid.symm)
      rw [hundelivered] at hdelivered
      cases hdelivered
  · intro htimely
    have hrunning : now < claim.claimUntil := by
      by_contra hover
      exact htimely (.inl ⟨claim, hold, Nat.not_lt.mp hover⟩)
    have hundelivered : row.deliveredAt = none := by
      rcases hdelivered : row.deliveredAt with _ | deliveredAt
      · rfl
      · exact absurd (.inr ⟨row, hrow, hid, by rw [hdelivered]; rfl⟩) htimely
    obtain ⟨htime, grant, hgrant, hgrantId, hworker, hfrom, huntil⟩ := hgiven
    refine ⟨⟨grant, hgrant, hgrantId, hworker.trans howner, by omega, by omega⟩, row, hrow, hid, ?_⟩
    rcases hfollows hundelivered with hsame | ⟨claim', last, hsame, hlast, hafter⟩
    · exact hsame
    · -- a claim after the one that was checked starts when that is over
      obtain rfl := Option.some.inj (hsame.symm.trans hold)
      obtain ⟨hlastTime, -⟩ := h.given row hrow last hlast
      omega

/-! ### Delivered events -/

/-- The event is delivered, and no claim of it was given beyond those in the list. -/
def DeliveredWith (outboxId : Uuid) (grants : List OutboxGrantV1) (s : OutboxStateV1) : Prop :=
  (∃ row ∈ s.rows, row.outboxId = outboxId ∧ row.deliveredAt.isSome = true) ∧
    s.grants.filter (·.outboxId = outboxId) = grants

/-- A delivered event stays delivered, and is not claimed. -/
theorem DeliveredWith.step {grants : List OutboxGrantV1} {call : OutboxCallV1} (hok : OutboxOk s)
    (h : DeliveredWith outboxId grants s) (hstep : OutboxStep s call t) :
    DeliveredWith outboxId grants t := by
  obtain ⟨⟨row, hrow, hid, hdelivered⟩, hgrants⟩ := h
  cases hstep with
  | claim hclaim _ _ =>
    obtain ⟨hlease, selected, hselected, rfl, rfl⟩ := claimEvents_eq_ok hclaim
    -- the row is seen as it is in the table
    have hnot : outboxId ∉ selected := by
      intro hmem
      rw [← hid, hselected] at hmem
      rw [(hok.claimable_of_selected hrow hmem).1] at hdelivered
      cases hdelivered
    constructor
    · refine ⟨_, List.mem_map_of_mem hrow, ?_⟩
      rw [if_neg (hid ▸ hnot)]
      exact ⟨hid, hdelivered⟩
    · show (s.grants ++ _).filter _ = grants
      rw [List.filter_append, hgrants, List.append_right_eq_self, List.filter_eq_nil_iff]
      intro grant hgrant hsame
      obtain ⟨event, hevent, rfl⟩ := List.mem_map.mp hgrant
      obtain ⟨claimed, hclaimed, rfl⟩ := List.mem_map.mp hevent
      have hmem := of_decide_eq_true (List.mem_filter.mp hclaimed).2
      exact hnot (of_decide_eq_true hsame ▸ hmem)
  | check => exact ⟨⟨row, hrow, hid, hdelivered⟩, hgrants⟩
  | write _ hwrite _ _ _ =>
    obtain ⟨-, rfl⟩ := AcknowledgementV1.write_eq_ok hwrite
    refine ⟨⟨_, List.mem_map_of_mem hrow, ?_⟩, hgrants⟩
    split
    case isTrue hsame => exact ⟨hsame.symm.trans hid, rfl⟩
    case isFalse => exact ⟨hid, hdelivered⟩
  | append => exact ⟨⟨row, List.mem_append_left _ hrow, hid, hdelivered⟩, hgrants⟩
  | wait => exact ⟨⟨row, hrow, hid, hdelivered⟩, hgrants⟩
  | refused => exact ⟨⟨row, hrow, hid, hdelivered⟩, hgrants⟩

/-! ### Expired events -/

/-- Every reading of the clock at one time, and the count of the row as it is. -/
def readingsAt (now : Nat) (rows : List OutboxEventV1) : Uuid → ClaimReadingsV1 := fun outboxId =>
  ⟨now, now, now, now, ((rows.find? (·.outboxId = outboxId)).map (·.deliveryAttempts)).getD 0,
    Nat.le_refl _, Nat.le_refl _, Nat.le_refl _⟩

/-- The rows that a claim could select now, if none was locked. -/
def openEvents (store : OutboxStoreV1) (s : OutboxStateV1) : List OutboxEventV1 :=
  s.rows.filter fun row => store.claimable [] (readingsAt s.clock s.rows row.outboxId) row

/-- A claim of 500 events for a second, with no row locked, at the time of the state. -/
def claimNow (store : OutboxStoreV1) (worker : ReferenceV1) (s : OutboxStateV1) : OutboxCallV1 :=
  .claim store worker 500 1 [] (readingsAt s.clock s.rows)

/-- What is open after a claim was open before it, and was not selected. -/
theorem openEvents_claimed {selected : List Uuid} {leaseSeconds : Nat} (hlease : leaseSeconds ≠ 0)
    (grants : List OutboxGrantV1) (pending : List AcknowledgementV1) :
    openEvents store ⟨s.rows.map fun row => if row.outboxId ∈ selected then
        row.claimFor worker (readingsAt s.clock s.rows row.outboxId) leaseSeconds hlease else row,
      s.clock, grants, pending⟩ = (openEvents store s).filter (·.outboxId ∉ selected) := by
  set readings := readingsAt s.clock s.rows with hreadings
  set update : OutboxEventV1 → OutboxEventV1 := fun row => if row.outboxId ∈ selected then
    row.claimFor worker (readings row.outboxId) leaseSeconds hlease else row with hupdate
  -- the counts make no difference
  show (s.rows.map update).filter (fun row => store.claimable [] (readings row.outboxId) row) = _
  rw [openEvents, List.filter_map, List.filter_filter]
  have hcongr : ∀ row ∈ s.rows,
      store.claimable [] (readings (update row).outboxId) (update row) =
        (decide (row.outboxId ∉ selected) &&
          store.claimable [] (readings row.outboxId) row) := by
    intro row _
    by_cases hother : row.outboxId ∈ selected
    · have hclaimed : update row =
          row.claimFor worker (readings row.outboxId) leaseSeconds hlease := if_pos hother
      rw [hclaimed, decide_eq_false (not_not.mpr hother), Bool.false_and]
      refine decide_eq_false fun hall => ?_
      -- the new lease has not expired
      have hexpired := hall.2.2.2.2.1
      rw [OutboxEventV1.claimFor, Option.all_some, decide_eq_true_eq] at hexpired
      have huntil : s.clock + leaseSeconds * 1000000 ≤ s.clock := hexpired
      omega
    · have hsame : update row = row := if_neg hother
      rw [hsame, decide_eq_true hother, Bool.true_and]
  show List.map update (List.filter (fun row =>
    store.claimable [] (readings (update row).outboxId) (update row)) s.rows) = _
  rw [List.filter_congr hcongr]
  refine (List.map_congr_left fun row hmem => ?_).trans (List.map_id _)
  have hother := (List.mem_filter.mp hmem).2
  rw [Bool.and_eq_true, decide_eq_true_eq] at hother
  exact if_neg hother.1

/-- **A claim takes the event, or other open events in its place.** -/
theorem claimNow_step (worker : ReferenceV1) (hrow : row ∈ openEvents store s) :
    ∃ t, OutboxStep s (claimNow store worker s) t ∧
      (t.HoldsAt t.clock worker row.outboxId ∨
        (row ∈ openEvents store t ∧
          (openEvents store t).length < (openEvents store s).length)) := by
  have hguard : ¬ (500 = 0 ∨ 500 > 500 ∨ 1 = 0 ∨ 1 > 3600) := by decide
  have hlease : (1 : Nat) ≠ 0 := Nat.one_ne_zero
  set selected := (store.selectEvents 500 [] (readingsAt s.clock s.rows) s.rows).map (·.outboxId)
    with hselected
  have hclaim : store.claimEvents worker 500 1 [] (readingsAt s.clock s.rows) s.rows =
      .ok ((s.rows.filter (·.outboxId ∈ selected)).map fun row =>
          (row.claimFor worker (readingsAt s.clock s.rows row.outboxId) 1 hlease).claimed,
        s.rows.map fun row => if row.outboxId ∈ selected then
          row.claimFor worker (readingsAt s.clock s.rows row.outboxId) 1 hlease else row) := by
    rw [OutboxStoreV1.claimEvents, dif_neg hguard]
  refine ⟨⟨_, s.clock, _, _⟩, .claim hclaim (fun _ _ => Nat.le_refl _) (Nat.le_refl _), ?_⟩
  obtain ⟨hmem, -⟩ := List.mem_filter.mp hrow
  by_cases hmine : row.outboxId ∈ selected
  · refine Or.inl ⟨_, List.mem_append_right _ (List.mem_map_of_mem (List.mem_map_of_mem
      (List.mem_filter.mpr ⟨hmem, decide_eq_true hmine⟩))), rfl, rfl, Nat.le_refl _, ?_⟩
    exact Nat.lt_add_of_pos_right (by decide)
  · right
    rw [openEvents_claimed hlease]
    refine ⟨List.mem_filter.mpr ⟨hrow, decide_eq_true hmine⟩, ?_⟩
    refine lt_of_le_of_ne (List.length_filter_le _ _) fun hlength => ?_
    -- something was selected, for the event itself is open
    have hall := List.length_filter_eq_length_iff.mp hlength
    have hne : store.selectEvents 500 [] (readingsAt s.clock s.rows) s.rows ≠ [] := by
      intro hnil
      rw [OutboxStoreV1.selectEvents, List.take_eq_nil_iff] at hnil
      have hempty := hnil.resolve_left (by decide)
      have hsorted : row ∈ (openEvents store s).insertionSort OutboxEventV1.before :=
        (List.mem_insertionSort _).mpr hrow
      rw [openEvents, hempty] at hsorted
      cases hsorted
    obtain ⟨taken, htaken⟩ := List.exists_mem_of_ne_nil _ hne
    have htakenOpen : taken ∈ openEvents store s := by
      obtain ⟨hin, hclaimable⟩ := mem_selectEvents htaken
      exact List.mem_filter.mpr ⟨hin, hclaimable⟩
    exact of_decide_eq_true (hall taken htakenOpen) (List.mem_map_of_mem htaken)

/-- **An open event can be claimed**, after those that come before it. -/
theorem reclaimable (store : OutboxStoreV1) (worker : ReferenceV1) (n : Nat) :
    ∀ {s : OutboxStateV1}, row ∈ openEvents store s → (openEvents store s).length ≤ n →
      ∃ calls t, Run OutboxStep s calls t ∧ t.HoldsAt t.clock worker row.outboxId := by
  induction n with
  | zero =>
    intro s hrow hlength
    rw [List.eq_nil_of_length_eq_zero (Nat.le_zero.mp hlength)] at hrow
    cases hrow
  | succ n ih =>
    intro s hrow hlength
    obtain ⟨t, hstep, hholds | ⟨hopen, hfewer⟩⟩ := claimNow_step worker hrow
    · exact ⟨_, t, .cons hstep (.nil t), hholds⟩
    · obtain ⟨calls, r, hrun, hholds⟩ := ih hopen (by omega)
      exact ⟨_, r, .cons hstep hrun, hholds⟩

/-- **Outbox leases are exclusive**, but for late acknowledgements.  In every state that the
transactions lead to, no two workers hold one event at one time; an acknowledgement that is written
delivers the event, under the lease of its worker exactly when it is not late; a delivered event is
not claimed again; and an undelivered one whose claim has expired can be. -/
theorem outbox_leases_exclusive_iff (h : Reachable (· = .empty) OutboxStep s) :
    (∀ now outboxId worker worker', s.HoldsAt now worker outboxId →
      s.HoldsAt now worker' outboxId → worker = worker') ∧
    (∀ acknowledgement now t, acknowledgement ∈ s.pending → s.clock ≤ now →
      acknowledgement.write s.rows = .ok t →
        (∃ row ∈ t, row.outboxId = acknowledgement.old.outboxId ∧
          row.deliveredAt.isSome = true) ∧
        (WrittenUnderLease s acknowledgement now ↔ ¬ WritesLate s acknowledgement now)) ∧
    (∀ row ∈ s.rows, row.deliveredAt.isSome = true → ∀ calls t, Run OutboxStep s calls t →
      t.grants.filter (·.outboxId = row.outboxId) =
        s.grants.filter (·.outboxId = row.outboxId)) ∧
    (∀ row ∈ s.rows, row.deliveredAt = none →
      (∀ claim, row.claim = some claim → claim.claimUntil ≤ s.clock) → ∀ worker,
        ∃ calls t, Run OutboxStep s calls t ∧ t.HoldsAt t.clock worker row.outboxId) := by
  have hok := OutboxOk.of_reachable h
  refine ⟨fun now outboxId worker worker' => hok.exclusive, ?_, ?_, ?_⟩
  · intro acknowledgement now rows hpending hnow hwrite
    refine ⟨?_, hok.writtenUnderLease_iff hpending hnow⟩
    obtain ⟨⟨row, hrow, hid⟩, rfl⟩ := acknowledgement.write_eq_ok hwrite
    refine ⟨_, List.mem_map_of_mem hrow, ?_⟩
    rw [if_pos hid]
    exact ⟨rfl, rfl⟩
  · intro row hrow hdelivered calls t hrun
    have hboth : OutboxOk t ∧ DeliveredWith row.outboxId
        (s.grants.filter (·.outboxId = row.outboxId)) t := by
      refine hrun.preserves (P := fun t => OutboxOk t ∧ DeliveredWith row.outboxId _ t) ?_
        ⟨hok, ⟨row, hrow, rfl, hdelivered⟩, rfl⟩
      exact fun u call v hu hstep => ⟨hu.1.step hstep, hu.2.step hu.1 hstep⟩
    exact hboth.2.2
  · intro row hrow hdelivered hexpired worker
    refine reclaimable ⟨row.trustDomain, row.environmentRef⟩ worker _
      (List.mem_filter.mpr ⟨hrow, ?_⟩) (Nat.le_refl _)
    refine decide_eq_true ⟨hdelivered, rfl, rfl, hok.available row hrow, ?_, List.not_mem_nil⟩
    rcases hclaim : row.claim with _ | claim
    · rfl
    · exact decide_eq_true (hexpired claim hclaim)

end Invariant

/-! ### A sample run

An event is appended and claimed at 20 for a second, and its acknowledgement is checked at 30.  The
second runs out, and another worker claims the event before the acknowledgement is written. -/

namespace OutboxSample

def worker : ReferenceV1 := ⟨"worker:first", by decide +kernel⟩
def other : ReferenceV1 := ⟨"worker:second", by decide +kernel⟩
def store : OutboxStoreV1 := ⟨.shadow, worker⟩

def event : OutboxEventV1 where
  outboxId := 1
  trustDomain := .shadow
  environmentRef := worker
  tenantRef := "tenant:sample"
  runId := 2
  aggregateVersion := 1
  eventType := "sample"
  payload := .null
  createdAt := 10
  availableAt := 10
  claim := none
  deliveredAt := none
  deliveryAttempts := 0

def readings (now : Nat) : Uuid → ClaimReadingsV1 := readingsAt now [event]

def held : OutboxEventV1 := event.claimFor worker (readings 20 1) 1 Nat.one_ne_zero
def acknowledgement : AcknowledgementV1 := ⟨worker, held, 31⟩

/-- The acknowledgement is checked. -/
def checked : OutboxStateV1 where
  rows := [held]
  clock := 20
  grants := [⟨1, worker, 20, 1000020⟩]
  pending := [acknowledgement]

/-- The other worker has claimed the event. -/
def taken : OutboxStateV1 where
  rows := [held.claimFor other (readings 1000020 1) 1 Nat.one_ne_zero]
  clock := 1000020
  grants := [⟨1, worker, 20, 1000020⟩, ⟨1, other, 1000020, 2000020⟩]
  pending := [acknowledgement]

theorem checked_reachable : Reachable (· = .empty) OutboxStep checked := by
  have happend : OutboxStep .empty (.append event) ⟨[event], 20, [], []⟩ :=
    .append (fun _ h => absurd h List.not_mem_nil) rfl rfl (Nat.le_refl _) (by decide) (by decide)
  have hclaimed : store.claimEvents worker 1 1 [] (readings 20) [event] =
      .ok ([held.claimed], [held]) := rfl
  have hclaim : OutboxStep ⟨[event], 20, [], []⟩ (.claim store worker 1 1 [] (readings 20))
      ⟨[held], 20, checked.grants, []⟩ :=
    OutboxStep.claim (s := ⟨[event], 20, [], []⟩) hclaimed (fun _ _ => Nat.le_refl _)
      (Nat.le_refl 20)
  have hcheck : OutboxStep ⟨[held], 20, checked.grants, []⟩
      (.check store worker 1 ⟨30, 31, by decide⟩) checked :=
    OutboxStep.check (s := ⟨[held], 20, checked.grants, []⟩) rfl (by decide)
  exact ⟨.empty, _, rfl, .cons happend (.cons hclaim (.cons hcheck (.nil _)))⟩

theorem taken_reachable : Reachable (· = .empty) OutboxStep taken := by
  have hclaimed : store.claimEvents other 1 1 [] (readings 1000020) checked.rows =
      .ok (taken.rows.map (·.claimed), taken.rows) := rfl
  have hclaim : OutboxStep checked (.claim store other 1 1 [] (readings 1000020)) taken :=
    OutboxStep.claim hclaimed (fun _ _ => Nat.le_refl _) (by decide)
  exact checked_reachable.snoc hclaim

/-- The acknowledgement is written at 1000030. -/
theorem written_step {rows : List OutboxEventV1}
    (hwrite : acknowledgement.write taken.rows = .ok rows) :
    OutboxStep taken (.write acknowledgement 1000030) ⟨rows, 1000030, taken.grants, [] ++ []⟩ :=
  .write rfl hwrite (by decide) (by decide) (Nat.le_refl _)

end OutboxSample

/-- The sample acknowledgement is written under its lease at 40. -/
theorem outbox_leases_exclusive_sample :
    WrittenUnderLease OutboxSample.checked OutboxSample.acknowledgement 40 := by
  obtain ⟨-, hwritten, -, -⟩ := outbox_leases_exclusive_iff OutboxSample.checked_reachable
  refine (hwritten OutboxSample.acknowledgement 40 _ List.mem_cons_self (by decide) rfl).2.mpr ?_
  rintro (⟨claim, hclaim, hover⟩ | ⟨row, hrow, -, hdelivered⟩)
  · obtain rfl := Option.some.inj hclaim
    exact absurd hover (by decide)
  · obtain rfl := List.mem_singleton.mp hrow
    cases hdelivered

/-- **An acknowledgement is written after its lease.** The other worker holds the event by then, its
claim is overwritten, and the event is marked as delivered. -/
theorem outbox_acknowledged_late : Reachable (· = .empty) OutboxStep OutboxSample.taken ∧
    OutboxSample.acknowledgement ∈ OutboxSample.taken.pending ∧
    ¬ OutboxSample.taken.HoldsAt 1000030 OutboxSample.worker 1 ∧
    OutboxSample.taken.HoldsAt 1000030 OutboxSample.other 1 ∧
    OutboxSample.acknowledgement.write OutboxSample.taken.rows =
      .ok [OutboxSample.acknowledgement.new] ∧
    ∃ t, OutboxStep OutboxSample.taken (.write OutboxSample.acknowledgement 1000030) t ∧
      ∀ row ∈ t.rows, row.outboxId = 1 ∧ row.deliveredAt = some 31 ∧ row.claim = none := by
  have hwrite : OutboxSample.acknowledgement.write OutboxSample.taken.rows =
      .ok [OutboxSample.acknowledgement.new] := rfl
  refine ⟨OutboxSample.taken_reachable, List.mem_cons_self, ?_, ?_, hwrite, _,
    OutboxSample.written_step hwrite, ?_⟩
  · rintro ⟨grant, hgrant, -, hworker, -, huntil⟩
    rcases List.mem_cons.mp hgrant with rfl | hgrant
    · exact absurd huntil (by decide)
    · obtain rfl := List.mem_singleton.mp hgrant
      exact absurd hworker (by decide)
  · exact ⟨_, List.mem_cons_of_mem _ List.mem_cons_self, rfl, rfl, by decide, by decide⟩
  · intro row hrow
    obtain rfl := List.mem_singleton.mp hrow
    exact ⟨rfl, rfl, rfl⟩

end Idr
