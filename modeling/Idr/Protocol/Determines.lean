/-
Idr/Protocol/Determines.lean

What the serialized form of a type determines.

Two values that serialize to the same JSON value, up to the order of fields,
are equal: `Determined` says so of a type.  A type with a JSON payload is
determined up to the order of fields inside the payload, so its values are
compared in canonical form.

The fields of a structure are written under fixed keys, and sorting by key
moves two lists with the same keys in the same way (`sortFields_injective`);
so an object of known keys is determined field by field
(`canonical_object_eq`).
-/
import Idr.Protocol.Canonical
import Idr.Protocol.Production

namespace Idr

/-! ### Objects with the same keys -/

/-- Sorting by key is injective on the lists with given keys. -/
theorem sortFields_injective {α : Type} {fields fields' : List (Text × α)}
    (hkeys : fields.map Prod.fst = fields'.map Prod.fst)
    (h : sortFields fields = sortFields fields') : fields = fields' := by
  -- both lists are images of the list of pairs
  let pairs : List (Text × (α × α)) :=
    List.zipWith (fun field field' => (field.1, (field.2, field'.2))) fields fields'
  have hpairs : fields = pairs.map (fun p => (p.1, p.2.1)) ∧
      fields' = pairs.map (fun p => (p.1, p.2.2)) := by
    clear h
    induction fields generalizing fields' with
    | nil =>
      cases fields' with
      | nil => exact ⟨rfl, rfl⟩
      | cons => cases hkeys
    | cons field fields ih =>
      cases fields' with
      | nil => cases hkeys
      | cons field' fields' =>
        obtain ⟨hkey, hkeys⟩ := List.cons.inj hkeys
        obtain ⟨hfst, hsnd⟩ := ih hkeys
        refine ⟨List.cons_eq_cons.mpr ⟨rfl, hfst⟩, List.cons_eq_cons.mpr ⟨?_, hsnd⟩⟩
        exact Prod.ext hkey.symm rfl
  rw [hpairs.1, hpairs.2, sortFields_map Prod.fst, sortFields_map Prod.snd] at h
  have hall : ∀ p ∈ sortFields pairs, p.2.1 = p.2.2 := by
    intro p hp
    have heq := List.map_inj_left.mp h p hp
    exact (Prod.mk.inj heq).2
  rw [hpairs.1, hpairs.2]
  apply List.map_congr_left
  intro p hp
  rw [hall p ((List.perm_insertionSort _ pairs).mem_iff.mpr hp)]

/-- **An object of known keys is determined field by field.** -/
theorem canonical_object_eq {v w : Value} {fields fields' : List (Text × Value)}
    (h : v.canonical = w.canonical) (hv : v = .object fields) (hw : w = .object fields')
    (hkeys : fields.map Prod.fst = fields'.map Prod.fst) :
    fields.map Value.canonicalField = fields'.map Value.canonicalField := by
  rw [hv, hw, Value.canonical, Value.canonical, Value.object.injEq, Value.canonicalFields_eq,
    Value.canonicalFields_eq] at h
  refine sortFields_injective ?_ h
  rw [List.map_map, List.map_map]
  exact hkeys

/-! ### Determined types -/

/-- The serialized form determines the value. -/
class Determined (α : Type) [Serialize α] : Prop where
  determined : ∀ {a b : α}, (toValue a).canonical = (toValue b).canonical → a = b

export Determined (determined)

instance : Determined Nat where
  determined h := Number.posInt.inj (Value.number.inj h)

instance : Determined UInt8 where
  determined h := UInt8.toNat_inj.mp (Number.posInt.inj (Value.number.inj h))

instance : Determined Text where
  determined h := Value.string.inj h

instance : Determined Uuid where
  determined h := Uuid.toString_injective (Value.string.inj h)

instance : Determined ReferenceV1 where
  determined {a b} h := by
    have htext : a.asStr = b.asStr := Value.string.inj h
    cases a
    cases b
    cases htext
    rfl

instance {α : Type} [Serialize α] [Determined α] : Determined (List α) where
  determined {as bs} h := by
    have hvalues : (as.map toValue).map Value.canonical = (bs.map toValue).map Value.canonical := by
      have hall := Value.array.inj h
      rw [Value.canonicalValues_eq, Value.canonicalValues_eq] at hall
      exact hall
    rw [List.map_map, List.map_map] at hvalues
    exact List.map_injective_iff.mpr (fun a b => determined) hvalues

/-- A type that serializes to a name. -/
theorem determined_of_name {α : Type} {name : α → Text} (hinj : ∀ a b, name a = name b → a = b)
    {a b : α} (h : (Value.string (name a)).canonical = (Value.string (name b)).canonical) : a = b :=
  hinj a b (Value.string.inj h)

theorem TrustDomainV1.wireName_injective (a b : TrustDomainV1) (h : a.wireName = b.wireName) :
    a = b := by
  cases a <;> cases b <;> first | rfl | exact absurd h (by decide)

theorem CandidateKindV1.wireName_injective (a b : CandidateKindV1) (h : a.wireName = b.wireName) :
    a = b := by
  cases a <;> cases b <;> first | rfl | exact absurd h (by decide)

instance : Determined TrustDomainV1 where
  determined h := determined_of_name TrustDomainV1.wireName_injective h

instance : Determined CandidateKindV1 where
  determined h := determined_of_name CandidateKindV1.wireName_injective h

instance : Determined WireCompatibilityV1 where
  determined {a b} h := by
    have hfields := canonical_object_eq h rfl rfl rfl
    simp only [List.map_cons, Value.canonicalField, List.cons.injEq, Prod.mk.injEq,
      true_and] at hfields
    obtain ⟨hschema, hreader, hflags, -⟩ := hfields
    obtain ⟨schema, reader, flags⟩ := a
    rw [WireCompatibilityV1.mk.injEq]
    exact ⟨determined hschema, determined hreader, determined hflags⟩

/-! ### Candidates -/

/-- The submission with its payload in canonical form. -/
def CandidateSubmissionV1.canonical (self : CandidateSubmissionV1) : CandidateSubmissionV1 :=
  { self with payload := self.payload.canonical }

theorem CandidateSubmissionV1.determined {a b : CandidateSubmissionV1}
    (h : (toValue a).canonical = (toValue b).canonical) : a.canonical = b.canonical := by
  have hfields := canonical_object_eq h rfl rfl rfl
  simp only [List.map_cons, Value.canonicalField, List.cons.injEq, Prod.mk.injEq,
    true_and] at hfields
  obtain ⟨hcompatibility, hid, hkind, hrun, hturn, hsubject, htenant, hscope, hpurpose, hpolicy,
    hfrom, huntil, hpayload, -⟩ := hfields
  rw [canonical, canonical, CandidateSubmissionV1.mk.injEq]
  exact ⟨Idr.determined hcompatibility, Idr.determined hid, Idr.determined hkind,
    Idr.determined hrun, Idr.determined hturn, Idr.determined hsubject, Idr.determined htenant,
    Idr.determined hscope, Idr.determined hpurpose, Idr.determined hpolicy, Idr.determined hfrom,
    Idr.determined huntil, hpayload⟩

/-! ### Digests -/

theorem encodeHex_injective {as bs : List UInt8} (h : encodeHex as = encodeHex bs) : as = bs := by
  have hbytes := congrArg Text.bytes h
  simp only [encodeHex] at hbytes
  clear h
  induction as generalizing bs with
  | nil =>
    cases bs with
    | nil => rfl
    | cons => cases hbytes
  | cons a as ih =>
    cases bs with
    | nil => cases hbytes
    | cons b bs =>
      simp only [List.flatMap_cons, List.cons_append, List.nil_append, List.cons.injEq] at hbytes
      obtain ⟨hhigh, hlow, hrest⟩ := hbytes
      have ha := a.toNat_lt
      have hb := b.toNat_lt
      have hdiv := hexDigit_injective (by omega) (by omega) hhigh
      have hmod := hexDigit_injective (by omega) (by omega) hlow
      have heq : a = b := UInt8.toNat_inj.mp (by omega)
      rw [heq, ih hrest]

variable [Crypto]

/-- SHA-256 does not collide on the bytes that the digests of two values are taken of. -/
def CollisionFree {α β : Type} [Serialize α] [Serialize β] (domain domain' : Text) (a : α) (b : β) :
    Prop :=
  ∀ bytes bytes', canonicalJsonBytesV1 (domain, a) = .ok bytes →
    canonicalJsonBytesV1 (domain', b) = .ok bytes' →
      Crypto.sha256 bytes = Crypto.sha256 bytes' → bytes = bytes'

/-- Different digests are not a collision. -/
theorem CollisionFree.of_digest_ne {α β : Type} [Serialize α] [Serialize β] {domain domain' : Text}
    {a : α} {b : β} (h : canonicalDigestV1 domain a ≠ canonicalDigestV1 domain' b) :
    CollisionFree domain domain' a b := by
  intro bytes bytes' ha hb hhash
  apply absurd _ h
  rw [canonicalDigestV1, canonicalDigestV1, ha, hb]
  show Except.ok (sha256Hex bytes) = Except.ok (sha256Hex bytes')
  rw [sha256Hex, sha256Hex, hhash]

/-- **A digest determines the serialized form** of what it is taken of. -/
theorem canonicalDigestV1_determined {α β : Type} [Serialize α] [Serialize β]
    {domain domain' digest : Text} {a : α} {b : β} (ha : canonicalDigestV1 domain a = .ok digest)
    (hb : canonicalDigestV1 domain' b = .ok digest) (hfree : CollisionFree domain domain' a b) :
    (toValue a).canonical = (toValue b).canonical := by
  simp only [canonicalDigestV1, bind_eq_ok, Except.ok.injEq] at ha hb
  obtain ⟨bytes, hbytes, rfl⟩ := ha
  obtain ⟨bytes', hbytes', heq⟩ := hb
  have hhash : Crypto.sha256 bytes = Crypto.sha256 bytes' :=
    Vector.toList_inj.mp (encodeHex_injective heq.symm)
  obtain rfl := hfree _ _ hbytes hbytes' hhash
  have hpair := canonicalJsonBytesV1_injective hbytes hbytes'
  have hvalues := Value.array.inj hpair
  simp only [Value.canonicalValues_eq, List.map_cons, List.cons.injEq] at hvalues
  exact hvalues.2.1

end Idr
