/-
Idr/FileStore/Accepted.lean

What `validateSnapshot` says of a snapshot it accepts.

The references of the records are a list of their own: the record at each
place has the reference at that place, and no two are of one revision of one
contract.  The current pointers are, in some order, the latest references
(`latestOf`), and the replayed history has the same pointers and the same
invalidated references.  All loops of the check go through the records in
order, so that each of them is extended by one record on its own.
-/
import Mathlib.Data.List.Induction
import Idr.FileStore.Invalidate

namespace Idr

/-! ### References of one contract -/

namespace HumanCenteredContractRefV1

variable {a b c : HumanCenteredContractRefV1}

theorem sameContract_iff : a.sameContract b = true ↔
    a.kind = b.kind ∧ a.contractId = b.contractId := by
  rw [sameContract, Bool.and_eq_true, decide_eq_true_eq, decide_eq_true_eq]

@[simp] theorem sameContract_self (a : HumanCenteredContractRefV1) : a.sameContract a = true :=
  sameContract_iff.mpr ⟨rfl, rfl⟩

theorem sameContract_comm (a b : HumanCenteredContractRefV1) :
    a.sameContract b = b.sameContract a := by
  rw [Bool.eq_iff_iff, sameContract_iff, sameContract_iff, eq_comm, eq_comm (a := a.contractId)]

theorem sameContract_trans (h : a.sameContract b = true) (h' : b.sameContract c = true) :
    a.sameContract c = true := by
  rw [sameContract_iff] at h h' ⊢
  exact ⟨h.1.trans h'.1, h.2.trans h'.2⟩

/-- Two references of one contract are of the same contracts. -/
theorem sameContract_congr (h : a.sameContract b = true) (c : HumanCenteredContractRefV1) :
    a.sameContract c = b.sameContract c := by
  rw [Bool.eq_iff_iff]
  constructor
  · exact sameContract_trans (by rwa [sameContract_comm])
  · exact sameContract_trans h

/-- The two references are to one revision of one contract. -/
def Clash (a b : HumanCenteredContractRefV1) : Prop :=
  a.sameContract b = true ∧ a.revision = b.revision

end HumanCenteredContractRefV1

open HumanCenteredContractRefV1

theorem previousPointer_some {refs : List HumanCenteredContractRefV1}
    {a b : HumanCenteredContractRefV1} (h : previousPointer refs a = some b) :
    b ∈ refs ∧ b.sameContract a = true :=
  ⟨List.mem_of_find?_eq_some h,
    List.find?_some (p := fun c : HumanCenteredContractRefV1 => c.sameContract a) h⟩

/-- No two references are of one contract. -/
def OnePerContract (refs : List HumanCenteredContractRefV1) : Prop :=
  refs.Pairwise fun a b => a.sameContract b = false

namespace OnePerContract

variable {refs refs' : List HumanCenteredContractRefV1} {a b : HumanCenteredContractRefV1}

theorem nodup (h : OnePerContract refs) : refs.Nodup :=
  List.Pairwise.imp (fun hab heq => by simp [heq] at hab) h

theorem eq_of_sameContract (h : OnePerContract refs) (ha : a ∈ refs) (hb : b ∈ refs)
    (hsame : a.sameContract b = true) : a = b := by
  induction refs with
  | nil => cases ha
  | cons c refs ih =>
    obtain ⟨hhead, htail⟩ := List.pairwise_cons.mp h
    rw [List.mem_cons] at ha hb
    rcases ha with rfl | ha <;> rcases hb with rfl | hb
    · rfl
    · rw [hhead b hb] at hsame
      cases hsame
    · rw [sameContract_comm, hhead a ha] at hsame
      cases hsame
    · exact ih htail ha hb

theorem perm (h : OnePerContract refs) (hperm : refs.Perm refs') : OnePerContract refs' :=
  hperm.pairwise h fun hab => by rwa [sameContract_comm]

/-- **Looking for a contract** finds the reference of it. -/
theorem previousPointer_eq_some (h : OnePerContract refs) :
    previousPointer refs a = some b ↔ b ∈ refs ∧ b.sameContract a = true := by
  constructor
  · exact previousPointer_some
  · rintro ⟨hmem, hsame⟩
    rcases hfind : previousPointer refs a with _ | c
    · have hnone := List.find?_eq_none.mp hfind b hmem
      exact absurd hsame hnone
    · obtain ⟨hmemc, hc⟩ := previousPointer_some hfind
      have hcb : c.sameContract b = true :=
        sameContract_trans hc (by rwa [sameContract_comm])
      rw [h.eq_of_sameContract hmemc hmem hcb]

end OnePerContract

theorem previousPointer_eq_none {refs : List HumanCenteredContractRefV1}
    {a : HumanCenteredContractRefV1} :
    previousPointer refs a = none ↔ ∀ b ∈ refs, b.sameContract a = false := by
  rw [previousPointer, List.find?_eq_none]
  refine forall₂_congr fun b _ => ?_
  rw [Bool.not_eq_true]

/-! ### The latest references -/

/-- The latest revision of every contract, in the order in which the contracts first appear. -/
def latestOf (refs : List HumanCenteredContractRefV1) : List HumanCenteredContractRefV1 :=
  refs.foldl noteLatest []

/-- What the fold over the references keeps. -/
structure LatestOk (refs latest : List HumanCenteredContractRefV1) : Prop where
  one : OnePerContract latest
  mem : ∀ l ∈ latest, l ∈ refs
  bound : ∀ r ∈ refs, ∃ l ∈ latest, l.sameContract r = true ∧ r.revision ≤ l.revision

theorem mem_noteLatest_of_none {latest : List HumanCenteredContractRefV1}
    {reference r : HumanCenteredContractRefV1} (h : previousPointer latest reference = none) :
    r ∈ noteLatest latest reference ↔
    r = reference ∨ r ∈ latest ∧ r.sameContract reference = false := by
  rw [noteLatest, h]
  dsimp only
  rw [List.mem_append, List.mem_singleton, or_comm]
  refine or_congr_right ⟨fun hr => ⟨hr, previousPointer_eq_none.mp h r hr⟩, And.left⟩

theorem mem_noteLatest_of_some {latest : List HumanCenteredContractRefV1}
    {reference other r : HumanCenteredContractRefV1}
    (h : previousPointer latest reference = some other)
    (hlt : other.revision < reference.revision) :
    r ∈ noteLatest latest reference ↔
    r = reference ∨ r ∈ latest ∧ r.sameContract reference = false := by
  rw [noteLatest, h]
  dsimp only
  rw [if_neg (Nat.not_le.mpr hlt), List.mem_map]
  constructor
  · rintro ⟨x, hx, rfl⟩
    split
    · exact .inl rfl
    · exact .inr ⟨hx, Bool.eq_false_iff.mpr ‹_›⟩
  · rintro (rfl | ⟨hr, hother⟩)
    · obtain ⟨hmem, hsame⟩ := previousPointer_some h
      exact ⟨other, hmem, if_pos hsame⟩
    · exact ⟨r, hr, if_neg (by rw [hother]; exact Bool.false_ne_true)⟩

/-- **One more reference**: it takes the place of the lower revision of its contract. -/
theorem mem_noteLatest {latest : List HumanCenteredContractRefV1}
    {reference r : HumanCenteredContractRefV1}
    (hlower : ∀ other ∈ latest, other.sameContract reference = true →
      other.revision < reference.revision) :
    r ∈ noteLatest latest reference ↔
    r = reference ∨ r ∈ latest ∧ r.sameContract reference = false := by
  rcases hfind : previousPointer latest reference with _ | other
  · exact mem_noteLatest_of_none hfind
  · obtain ⟨hmem, hsame⟩ := previousPointer_some hfind
    exact mem_noteLatest_of_some hfind (hlower other hmem hsame)

theorem OnePerContract.noteLatest {latest : List HumanCenteredContractRefV1}
    (h : OnePerContract latest) (reference : HumanCenteredContractRefV1) :
    OnePerContract (noteLatest latest reference) := by
  rw [Idr.noteLatest]
  rcases hfind : previousPointer latest reference with _ | other
  · refine List.pairwise_append.mpr ⟨h, List.pairwise_singleton _ _, ?_⟩
    intro a ha b hb
    obtain rfl := List.mem_singleton.mp hb
    exact previousPointer_eq_none.mp hfind a ha
  · dsimp only
    split
    · exact h
    · -- the reference takes the place of one of the same contract
      refine List.pairwise_map.mpr (List.Pairwise.imp ?_ h)
      intro a b hab
      split
      case isTrue ha =>
        split
        case isTrue hb =>
          rw [sameContract_trans ha (by rwa [sameContract_comm])] at hab
          cases hab
        case isFalse => rwa [← sameContract_congr ha]
      case isFalse =>
        split
        case isTrue hb => rwa [sameContract_comm, ← sameContract_congr hb, sameContract_comm]
        case isFalse => exact hab

theorem LatestOk.noteLatest {refs latest : List HumanCenteredContractRefV1}
    (h : LatestOk refs latest) (reference : HumanCenteredContractRefV1) :
    LatestOk (refs ++ [reference]) (noteLatest latest reference) := by
  refine ⟨h.one.noteLatest reference, ?_, ?_⟩
  · intro l hl
    rw [Idr.noteLatest] at hl
    rw [List.mem_append, List.mem_singleton]
    split at hl
    · rcases List.mem_append.mp hl with hl | hl
      · exact .inl (h.mem l hl)
      · exact .inr (List.mem_singleton.mp hl)
    · split at hl
      · exact .inl (h.mem l hl)
      · obtain ⟨x, hx, rfl⟩ := List.mem_map.mp hl
        split
        · exact .inr rfl
        · exact .inl (h.mem x hx)
  · -- what bounded a revision before is still there, or gave way to a higher one
    have hkept : ∀ l ∈ latest, ∃ l' ∈ Idr.noteLatest latest reference,
        l'.sameContract l = true ∧ l.revision ≤ l'.revision := by
      intro l hl
      rw [Idr.noteLatest]
      split
      · exact ⟨l, List.mem_append_left _ hl, sameContract_self l, Nat.le_refl _⟩
      case h_2 other hfind =>
        split
        · exact ⟨l, hl, sameContract_self l, Nat.le_refl _⟩
        case isFalse hlt =>
          by_cases hsame : l.sameContract reference = true
          · obtain ⟨hmem, hother⟩ := previousPointer_some hfind
            have heq : l = other := h.one.eq_of_sameContract hl hmem
              (sameContract_trans hsame (by rwa [sameContract_comm]))
            subst heq
            exact ⟨reference, List.mem_map.mpr ⟨l, hl, if_pos hsame⟩, by rwa [sameContract_comm],
              Nat.le_of_lt (Nat.not_le.mp hlt)⟩
          · exact ⟨l, List.mem_map.mpr ⟨l, hl, if_neg hsame⟩, sameContract_self l, Nat.le_refl _⟩
    have hnew : ∃ l ∈ Idr.noteLatest latest reference,
        l.sameContract reference = true ∧ reference.revision ≤ l.revision := by
      rw [Idr.noteLatest]
      split
      · exact ⟨reference, List.mem_append_right _ (List.mem_singleton_self _), sameContract_self _,
          Nat.le_refl _⟩
      case h_2 other hfind =>
        obtain ⟨hmem, hother⟩ := previousPointer_some hfind
        split
        case isTrue hle => exact ⟨other, hmem, hother, hle⟩
        case isFalse =>
          exact ⟨reference, List.mem_map.mpr ⟨other, hmem, if_pos hother⟩, sameContract_self _,
            Nat.le_refl _⟩
    intro r hr
    rcases List.mem_append.mp hr with hr | hr
    · obtain ⟨l, hl, hsame, hle⟩ := h.bound r hr
      obtain ⟨l', hl', hsame', hle'⟩ := hkept l hl
      exact ⟨l', hl', sameContract_trans hsame' hsame, Nat.le_trans hle hle'⟩
    · obtain rfl := List.mem_singleton.mp hr
      exact hnew

theorem latestOf_append (refs : List HumanCenteredContractRefV1)
    (reference : HumanCenteredContractRefV1) :
    latestOf (refs ++ [reference]) = noteLatest (latestOf refs) reference := by
  rw [latestOf, List.foldl_append]
  rfl

/-- The latest references are of different contracts, and bound the others. -/
theorem latestOk_latestOf (refs : List HumanCenteredContractRefV1) :
    LatestOk refs (latestOf refs) := by
  induction refs using List.reverseRecOn with
  | nil =>
    refine ⟨List.Pairwise.nil, ?_, ?_⟩
    · intro l hl
      cases hl
    · intro r hr
      cases hr
  | append_singleton refs reference ih =>
    rw [latestOf_append]
    exact ih.noteLatest reference

section Accepted

variable [Crypto] [FloatText]
variable {records more : List HumanCenteredContractSnapshotV1}
variable {record : HumanCenteredContractSnapshotV1}
variable {refs : List HumanCenteredContractRefV1} {r : HumanCenteredContractRefV1}

/-! ### The references of the records -/

/-- The references of the records, in their order. -/
def RefsOf (records : List HumanCenteredContractSnapshotV1)
    (refs : List HumanCenteredContractRefV1) : Prop :=
  List.Forall₂ (fun record r => record.recordRef = .ok r) records refs

theorem RefsOf.append {refs' : List HumanCenteredContractRefV1} (h : RefsOf records refs)
    (h' : RefsOf more refs') : RefsOf (records ++ more) (refs ++ refs') :=
  List.rel_append h h'

theorem RefsOf.concat (h : RefsOf records refs) (hrecord : record.recordRef = .ok r) :
    RefsOf (records ++ [record]) (refs ++ [r]) :=
  h.append (.cons hrecord .nil)

theorem RefsOf.mem_iff (h : RefsOf records refs) :
    r ∈ refs ↔ ∃ record ∈ records, record.recordRef = .ok r := by
  induction h with
  | nil =>
    constructor
    · intro hr
      cases hr
    · rintro ⟨record, hmem, -⟩
      cases hmem
  | @cons x a xs as hx _ ih =>
    rw [List.mem_cons, ih]
    constructor
    · rintro (rfl | ⟨record, hmem, href⟩)
      · exact ⟨x, List.mem_cons_self, hx⟩
      · exact ⟨record, List.mem_cons_of_mem _ hmem, href⟩
    · rintro ⟨record, hmem, href⟩
      rcases List.mem_cons.mp hmem with rfl | hmem
      · rw [hx] at href
        exact .inl (Except.ok.inj href).symm
      · exact .inr ⟨record, hmem, href⟩

theorem RefsOf.any_isAt (h : RefsOf records refs) :
    records.any (·.isAt r) = true ↔ r ∈ refs := by
  rw [List.any_eq_true, h.mem_iff]
  exact exists_congr fun record => and_congr_right fun _ =>
    HumanCenteredContractSnapshotV1.isAt_iff

theorem findRecord_some (h : findRecord records r = some record) :
    record ∈ records ∧ record.recordRef = .ok r :=
  ⟨List.mem_of_find?_eq_some h, HumanCenteredContractSnapshotV1.isAt_iff.mp
    (List.find?_some (p := fun c : HumanCenteredContractSnapshotV1 => c.isAt r) h)⟩

theorem RefsOf.findRecord_isSome (h : RefsOf records refs) :
    (findRecord records r).isSome = true ↔ r ∈ refs := by
  rw [findRecord, List.find?_isSome, h.mem_iff]
  exact exists_congr fun record => and_congr_right fun _ =>
    HumanCenteredContractSnapshotV1.isAt_iff

/-- What was found is found when there are more records. -/
theorem findRecord_append (h : findRecord records r = some record)
    (more : List HumanCenteredContractSnapshotV1) :
    findRecord (records ++ more) r = some record := by
  rw [findRecord, List.find?_append]
  rw [findRecord] at h
  rw [h]
  rfl

/-- A reference that is not on record leads to the record that is added for it. -/
theorem RefsOf.findRecord_concat (h : RefsOf records refs) (hnew : r ∉ refs)
    (hrecord : record.recordRef = .ok r) : findRecord (records ++ [record]) r = some record := by
  have hnone : records.find? (·.isAt r) = none := by
    have hnot : ¬ (findRecord records r).isSome = true := fun hsome =>
      hnew (h.findRecord_isSome.mp hsome)
    rw [findRecord, Option.not_isSome_iff_eq_none] at hnot
    exact hnot
  rw [findRecord, List.find?_append, hnone, Option.none_or]
  exact List.find?_cons_of_pos (HumanCenteredContractSnapshotV1.isAt_iff.mpr hrecord)

/-! ### The loops over the records -/

/-- **The first loop** collects the references, none of which clash. -/
theorem collectRefs_eq_ok {seen out : List HumanCenteredContractRefV1} :
    collectRefs seen records = .ok out ↔ ∃ refs, RefsOf records refs ∧ out = seen ++ refs ∧
      refs.Pairwise (fun a b => ¬ Clash a b) ∧ ∀ s ∈ seen, ∀ r ∈ refs, ¬ Clash s r := by
  induction records generalizing seen with
  | nil =>
    constructor
    · intro h
      obtain rfl := Except.ok.inj h
      refine ⟨[], .nil, (List.append_nil _).symm, .nil, ?_⟩
      intro s _ r hr
      cases hr
    · rintro ⟨refs, hrefs, rfl, -⟩
      obtain rfl := List.forall₂_nil_left_iff.mp hrefs
      rw [List.append_nil]
      rfl
  | cons record records ih =>
    have hfree : ∀ reference : HumanCenteredContractRefV1,
        ¬ (reference ∈ seen ∨ seen.any (fun other => other.sameContract reference
          && other.revision = reference.revision) = true) ↔ ∀ s ∈ seen, ¬ Clash s reference := by
      intro reference
      rw [not_or, List.any_eq_true]
      constructor
      · rintro ⟨-, hany⟩ s hs hclash
        exact hany ⟨s, hs, by simpa [Clash] using hclash⟩
      · intro hclash
        refine ⟨fun hmem => hclash reference hmem ⟨sameContract_self _, rfl⟩, ?_⟩
        rintro ⟨s, hs, hany⟩
        exact hclash s hs (by simpa [Clash] using hany)
    simp only [collectRefs, bind_eq_ok, exists_unit_eq_ok, liftProtocol_eq_ok, rejectIf_eq_ok,
      exists_const, ih, hfree]
    constructor
    · rintro ⟨-, reference, href, hnew, refs, hrefs, rfl, hpairwise, hclash⟩
      refine ⟨reference :: refs, .cons href hrefs, by rw [List.append_assoc, List.singleton_append],
        List.pairwise_cons.mpr ⟨?_, hpairwise⟩, ?_⟩
      · exact fun r hr => hclash reference (List.mem_append_right _ (List.mem_singleton_self _))
          r hr
      · intro s hs r hr
        rcases List.mem_cons.mp hr with rfl | hr
        · exact hnew s hs
        · exact hclash s (List.mem_append_left _ hs) r hr
    · rintro ⟨refs, hall, rfl, hpairwise, hclash⟩
      obtain ⟨reference, refs, href, hrefs, rfl⟩ := List.forall₂_cons_left_iff.mp hall
      obtain ⟨hhead, htail⟩ := List.pairwise_cons.mp hpairwise
      refine ⟨(HumanCenteredContractSnapshotV1.recordRef_eq_ok.mp href).1, reference, href,
        fun s hs => hclash s hs reference List.mem_cons_self, refs, hrefs,
        by rw [List.append_assoc, List.singleton_append], htail, ?_⟩
      intro s hs r hr
      rcases List.mem_append.mp hs with hs | hs
      · exact hclash s hs r (List.mem_cons_of_mem _ hr)
      · obtain rfl := List.mem_singleton.mp hs
        exact hhead r hr

variable {reservations reservations' : List ExecutionReservationRecordV1}
variable {prior : List HumanCenteredContractSnapshotV1}
variable {before latest out : List HumanCenteredContractRefV1}

theorem checkRecords_append (h : RefsOf records refs) :
    checkRecords reservations prior before latest (records ++ more)
      = checkRecords reservations prior before latest records >>= fun latest' =>
        checkRecords reservations (prior ++ records) (before ++ refs) latest' more := by
  induction h generalizing prior before latest with
  | nil =>
    rw [List.append_nil, List.append_nil]
    rfl
  | @cons record reference records refs hrecord _ ih =>
    simp only [List.cons_append, checkRecords, hrecord, ih, bind_assoc, List.append_assoc,
      List.nil_append, liftProtocol, Except.mapError]
    rfl

/-- **The second loop**, at one record: what it rests on is before it, and it agrees with it. -/
theorem checkRecords_cons_eq_ok :
    checkRecords reservations prior before latest (record :: more) = .ok out ↔
      ∃ reference, record.recordRef = .ok reference ∧
        (∀ predecessor, record.metadata.predecessorRef = some predecessor →
          predecessor.kind = reference.kind ∧ predecessor ∈ before) ∧
        (∀ dependency ∈ record.metadata.dependencyRefs, dependency ∈ before) ∧
        crossObjectConsistent record prior reservations = true ∧
        checkRecords reservations (prior ++ [record]) (before ++ [reference])
          (noteLatest latest reference) more = .ok out := by
  simp only [checkRecords, bind_eq_ok, liftProtocol_eq_ok, rejectIf_eq_ok, exists_const]
  refine exists_congr fun reference => and_congr_right fun _ => and_congr ?_ (and_congr ?_ ?_)
  · rcases record.metadata.predecessorRef with _ | predecessor
    · simp
    · simp [not_or]
  · simp
  · rw [Bool.not_eq_false]

theorem checkRecords_latest (h : RefsOf records refs)
    (hcheck : checkRecords reservations prior before latest records = .ok out) :
    out = refs.foldl noteLatest latest := by
  induction h generalizing prior before latest with
  | nil => exact (Except.ok.inj hcheck).symm
  | @cons record reference records refs hrecord _ ih =>
    obtain ⟨reference', href, -, -, -, hrest⟩ := checkRecords_cons_eq_ok.mp hcheck
    rw [hrecord] at href
    obtain rfl := Except.ok.inj href
    exact ih hrest

/-- Other reservations are as good when every record still agrees with them. -/
theorem checkRecords_congr (hcross : ∀ record ∈ records, ∀ prior,
      crossObjectConsistent record prior reservations = true →
        crossObjectConsistent record prior reservations' = true)
    (h : checkRecords reservations prior before latest records = .ok out) :
    checkRecords reservations' prior before latest records = .ok out := by
  induction records generalizing prior before latest with
  | nil => exact h
  | cons record records ih =>
    obtain ⟨hhead, htail⟩ := List.forall_mem_cons.mp hcross
    obtain ⟨reference, href, hpredecessor, hdependencies, hconsistent, hrest⟩ :=
      checkRecords_cons_eq_ok.mp h
    exact checkRecords_cons_eq_ok.mpr
      ⟨reference, href, hpredecessor, hdependencies, hhead prior hconsistent, ih htail hrest⟩

/-! ### The loop over the pointers -/

omit [Crypto] [FloatText] in
theorem checkPointers_eq_ok {ids pointers : List HumanCenteredContractRefV1} :
    checkPointers refs latest ids pointers = .ok () ↔
      (∀ p ∈ pointers, p.validate = .ok () ∧ p ∈ refs ∧ previousPointer latest p = some p) ∧
      OnePerContract pointers ∧ (∀ i ∈ ids, ∀ p ∈ pointers, i.sameContract p = false) ∧
      ids.length + pointers.length = latest.length := by
  induction pointers generalizing ids with
  | nil =>
    rw [checkPointers, rejectIf_eq_ok, not_not]
    constructor
    · intro hlength
      refine ⟨?_, .nil, ?_, hlength⟩
      · intro p hp
        cases hp
      · intro i _ p hp
        cases hp
    · rintro ⟨-, -, -, hlength⟩
      exact hlength
  | cons pointer pointers ih =>
    simp only [checkPointers, bind_eq_ok, exists_unit_eq_ok, liftProtocol_eq_ok, rejectIf_eq_ok,
      exists_const, ih, not_or, not_not]
    constructor
    · rintro ⟨hvalid, ⟨hmem, hids, hlatest⟩, hall, hone, hold, hlength⟩
      refine ⟨List.forall_mem_cons.mpr ⟨⟨hvalid, hmem, hlatest⟩, hall⟩,
        List.pairwise_cons.mpr ⟨?_, hone⟩, ?_, ?_⟩
      · exact hold pointer (List.mem_append_right _ (List.mem_singleton_self _))
      · intro i hi p hp
        rcases List.mem_cons.mp hp with rfl | hp
        · rw [Bool.eq_false_iff]
          intro hsame
          exact hids (List.any_eq_true.mpr ⟨i, hi, hsame⟩)
        · exact hold i (List.mem_append_left _ hi) p hp
      · rw [List.length_append, List.length_singleton] at hlength
        rw [List.length_cons]
        omega
    · rintro ⟨hall, hone, hold, hlength⟩
      obtain ⟨⟨hvalid, hmem, hlatest⟩, hall⟩ := List.forall_mem_cons.mp hall
      obtain ⟨hhead, hone⟩ := List.pairwise_cons.mp hone
      refine ⟨hvalid, ⟨hmem, ?_, hlatest⟩, hall, hone, ?_, ?_⟩
      · intro hany
        obtain ⟨i, hi, hsame⟩ := List.any_eq_true.mp hany
        rw [hold i hi pointer List.mem_cons_self] at hsame
        cases hsame
      · intro i hi p hp
        rcases List.mem_append.mp hi with hi | hi
        · exact hold i hi p (List.mem_cons_of_mem _ hp)
        · obtain rfl := List.mem_singleton.mp hi
          exact hhead p hp
      · rw [List.length_cons] at hlength
        rw [List.length_append, List.length_singleton]
        omega

omit [Crypto] [FloatText] in
/-- **The third loop**: the pointers are the latest references, in some order. -/
theorem checkPointers_iff_perm (h : LatestOk refs latest)
    {pointers : List HumanCenteredContractRefV1} :
    checkPointers refs latest [] pointers = .ok () ↔
      (∀ p ∈ pointers, p.validate = .ok ()) ∧ pointers.Perm latest := by
  rw [checkPointers_eq_ok]
  constructor
  · rintro ⟨hall, hone, -, hlength⟩
    refine ⟨fun p hp => (hall p hp).1, List.Subperm.perm_of_length_le ?_ ?_⟩
    · apply List.subperm_of_subset hone.nodup
      intro p hp
      exact (previousPointer_some (hall p hp).2.2).1
    · rw [List.length_nil] at hlength
      omega
  · rintro ⟨hvalid, hperm⟩
    refine ⟨fun p hp => ⟨hvalid p hp, h.mem p (hperm.subset hp), ?_⟩, h.one.perm hperm.symm, ?_, ?_⟩
    · exact h.one.previousPointer_eq_some.mpr ⟨hperm.subset hp, sameContract_self p⟩
    · intro i hi
      cases hi
    · rw [hperm.length_eq, List.length_nil, Nat.zero_add]

/-! ### The replay -/

theorem replayHistory_concat (records : List HumanCenteredContractSnapshotV1)
    (record : HumanCenteredContractSnapshotV1) :
    replayHistory (records ++ [record]) = replayHistory records >>= (replayRecord · record) := by
  unfold replayHistory
  rw [List.foldlM_append]
  simp only [List.foldlM_cons, List.foldlM_nil, bind_pure]

theorem replayRecord_records {replayed result : HumanCenteredStoreSnapshotV1}
    (h : replayRecord replayed record = .ok result) :
    result.records = replayed.records ++ [record] := by
  obtain ⟨reference, -, h⟩ := bind_eq_ok.mp h
  obtain ⟨withdrawn, hwithdrawn, h⟩ := bind_eq_ok.mp h
  obtain rfl := Except.ok.inj h
  dsimp only
  congr 1
  -- the records are the same after the dependents are invalidated
  rw [replayPrevious] at hwithdrawn
  split at hwithdrawn
  · obtain ⟨-, -, hsame⟩ := bind_eq_ok.mp hwithdrawn
    rw [Except.ok.inj hsame]
  · obtain ⟨-, -, hwithdrawn⟩ := bind_eq_ok.mp hwithdrawn
    obtain ⟨previous, -, hwithdrawn⟩ := bind_eq_ok.mp hwithdrawn
    obtain ⟨-, -, hwithdrawn⟩ := bind_eq_ok.mp hwithdrawn
    obtain ⟨inv, -, rfl⟩ := invalidateDependents_eq_ok.mp hwithdrawn
    rfl

theorem replayHistory_records {replayed : HumanCenteredStoreSnapshotV1}
    (h : replayHistory records = .ok replayed) : replayed.records = records := by
  apply foldlM_induction (P := fun before replayed => replayed.records = before) h rfl
  intro before record a a' _ hbefore hstep
  rw [replayRecord_records hstep, hbefore]

/-! ### What is accepted -/

/-- What `validateSnapshot` establishes, with the references of the records. -/
structure Accepted (snapshot : HumanCenteredStoreSnapshotV1)
    (refs : List HumanCenteredContractRefV1) : Prop where
  sealed : checkSeal snapshot = .ok ()
  refsOf : RefsOf snapshot.records refs
  distinct : refs.Pairwise fun a b => ¬ Clash a b
  records : checkRecords snapshot.executionReservations [] [] [] snapshot.records
    = .ok (latestOf refs)
  pointers : ∀ p ∈ snapshot.currentPointers, p.validate = .ok ()
  latest : snapshot.currentPointers.Perm (latestOf refs)
  invalidated : ∀ r ∈ snapshot.invalidatedRefs, r.validate = .ok () ∧ r ∈ refs
  replayed : ∃ replayed, replayHistory snapshot.records = .ok replayed ∧
    replayed.currentPointers = snapshot.currentPointers ∧
    replayed.invalidatedRefs = snapshot.invalidatedRefs
  reservations : checkReservations snapshot.records [] snapshot.executionReservations = .ok ()

theorem validateSnapshot_eq_ok {snapshot : HumanCenteredStoreSnapshotV1} :
    validateSnapshot snapshot = .ok () ↔ ∃ refs, Accepted snapshot refs := by
  simp only [validateSnapshot, bind_eq_ok, exists_unit_eq_ok, rejectIf_eq_ok, exists_const, not_or,
    not_not, forM_eq_ok, liftProtocol_eq_ok, collectRefs_eq_ok, List.nil_append]
  constructor
  · rintro ⟨hseal, refs, ⟨_, hrefs, rfl, hdistinct, -⟩, latest, hrecords, hpointers, hinvalidated,
      replayed, hreplay, hsame, hreservations⟩
    have hlatest := checkRecords_latest hrefs hrecords
    subst hlatest
    obtain ⟨hvalid, hperm⟩ := (checkPointers_iff_perm (latestOk_latestOf refs)).mp hpointers
    exact ⟨refs, hseal, hrefs, hdistinct, hrecords, hvalid, hperm, hinvalidated,
      ⟨replayed, hreplay, hsame⟩, hreservations⟩
  · rintro ⟨refs, h⟩
    obtain ⟨replayed, hreplay, hsame⟩ := h.replayed
    refine ⟨h.sealed, refs, ⟨refs, h.refsOf, rfl, h.distinct, ?_⟩, latestOf refs, h.records,
      (checkPointers_iff_perm (latestOk_latestOf refs)).mpr ⟨h.pointers, h.latest⟩, h.invalidated,
      replayed, hreplay, hsame, h.reservations⟩
    intro s hs
    cases hs

namespace Accepted

variable {snapshot : HumanCenteredStoreSnapshotV1}

/-- The pointers are of different contracts. -/
theorem one (h : Accepted snapshot refs) : OnePerContract snapshot.currentPointers :=
  (latestOk_latestOf refs).one.perm h.latest.symm

theorem mem_refs_of_pointer (h : Accepted snapshot refs) (hr : r ∈ snapshot.currentPointers) :
    r ∈ refs :=
  (latestOk_latestOf refs).mem r (h.latest.subset hr)

/-- Every reference has a pointer of its contract, to its revision or a later one. -/
theorem exists_pointer (h : Accepted snapshot refs) (hr : r ∈ refs) :
    ∃ p ∈ snapshot.currentPointers, p.sameContract r = true ∧ r.revision ≤ p.revision := by
  obtain ⟨l, hl, hbound⟩ := (latestOk_latestOf refs).bound r hr
  exact ⟨l, h.latest.symm.subset hl, hbound⟩

/-- Every pointer leads to a record. -/
theorem pointer_recorded (h : Accepted snapshot refs) (hr : r ∈ snapshot.currentPointers) :
    (findRecord snapshot.records r).isSome = true :=
  h.refsOf.findRecord_isSome.mpr (h.mem_refs_of_pointer hr)

/-- The invalidation of dependents does not fail on an accepted snapshot. -/
theorem invalidateDependents_total (h : Accepted snapshot refs)
    (stale : HumanCenteredContractRefV1) :
    ∃ result, invalidateDependents snapshot stale = .ok result := by
  obtain ⟨inv, hinv⟩ := invalidateLoop_total
    (fun p hp => h.pointer_recorded hp) (snapshot.currentPointers.length + 1) [stale] []
    snapshot.invalidatedRefs
  exact ⟨_, invalidateDependents_eq_ok.mpr ⟨inv, hinv, rfl⟩⟩

end Accepted

end Accepted

end Idr
