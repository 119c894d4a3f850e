/-
Idr/Protocol/Utf.lean

UTF-8 texts and their order by UTF-16 code units.

A `String` of the source is UTF-8: `Text.isUtf8` says that decoding and
encoding it again gives it back.  The canonical encoding orders keys by
their UTF-16 code units, which is neither the order of the bytes nor that of
the scalar values: a character outside the basic plane starts with a
surrogate, and surrogates come before the private use area.  On UTF-8 texts
the code units determine the text (`utf16Units_injective`), so the order is
antisymmetric and sorting by it is strict on distinct keys.
-/
import Idr.Protocol.Json
import Mathlib.Data.List.Lex

namespace Idr

/-! ### The lexicographic order -/

theorem compareNats_cons (m n : Nat) (ms ns : List Nat) :
    compareNats (m :: ms) (n :: ns) =
      if m = n then compareNats ms ns else if m < n then .lt else .gt := by
  rw [compareNats]
  by_cases heq : m = n
  · rw [if_pos heq, if_pos (by rw [heq, Nat.beq_refl])]
  · rw [if_neg heq, if_neg fun h => heq (Nat.eq_of_beq_eq_true h)]
    simp only [Nat.ble_eq, Nat.le_iff_lt_or_eq, heq, or_false]

theorem compareNats_eq_lt {ms : List Nat} : ∀ {ns : List Nat}, compareNats ms ns = .lt ↔
    ms < ns := by
  induction ms with
  | nil =>
    intro ns
    cases ns with
    | nil => exact ⟨fun h => (by cases h), fun h => absurd h (List.not_lt_nil _)⟩
    | cons n ns => exact ⟨fun _ => List.nil_lt_cons n ns, fun _ => rfl⟩
  | cons m ms ih =>
    intro ns
    cases ns with
    | nil => exact ⟨fun h => (by cases h), fun h => absurd h (List.not_lt_nil _)⟩
    | cons n ns =>
      rw [compareNats_cons, List.cons_lt_cons_iff]
      by_cases heq : m = n
      · simp [heq, ih]
      · simp [heq]

theorem compareNats_eq_gt {ms : List Nat} : ∀ {ns : List Nat}, compareNats ms ns = .gt ↔
    ns < ms := by
  induction ms with
  | nil =>
    intro ns
    cases ns with
    | nil => exact ⟨fun h => (by cases h), fun h => absurd h (List.not_lt_nil _)⟩
    | cons n ns => exact ⟨fun h => (by cases h), fun h => absurd h (List.not_lt_nil _)⟩
  | cons m ms ih =>
    intro ns
    cases ns with
    | nil => exact ⟨fun _ => List.nil_lt_cons m ms, fun _ => rfl⟩
    | cons n ns =>
      rw [compareNats_cons, List.cons_lt_cons_iff]
      by_cases heq : m = n
      · simp [heq, ih]
      · rcases Nat.lt_or_gt_of_ne heq with hlt | hgt
        · simp [heq, Ne.symm heq, hlt, Nat.lt_asymm hlt]
        · simp [heq, Ne.symm heq, hgt, Nat.lt_asymm hgt]

/-- The order of keys is that of their code units. -/
theorem utf16Le_iff {s t : Text} : utf16Le s t = true ↔ utf16Units s ≤ utf16Units t := by
  rw [utf16Le, bne_iff_ne, ne_eq, compareNats_eq_gt, not_lt]

/-! ### UTF-8 -/

/-- A Unicode scalar value: a code point that is not a surrogate. -/
def isScalar (c : Nat) : Bool := c < 0xD800 || (0xE000 ≤ c && c < 0x110000)

/-- The UTF-8 bytes of a scalar value. -/
def encodeScalar (c : Nat) : List UInt8 :=
  if c < 0x80 then [UInt8.ofNat c]
  else if c < 0x800 then [UInt8.ofNat (0xC0 + c / 64), UInt8.ofNat (0x80 + c % 64)]
  else if c < 0x10000 then
    [UInt8.ofNat (0xE0 + c / 4096), UInt8.ofNat (0x80 + c / 64 % 64), UInt8.ofNat (0x80 + c % 64)]
  else
    [UInt8.ofNat (0xF0 + c / 262144), UInt8.ofNat (0x80 + c / 4096 % 64),
      UInt8.ofNat (0x80 + c / 64 % 64), UInt8.ofNat (0x80 + c % 64)]

/-- The bytes are the UTF-8 encoding of scalar values. -/
def Text.isUtf8 (s : Text) : Bool :=
  (scalarValues s).all isScalar && (scalarValues s).flatMap encodeScalar == s.bytes

/-- A UTF-8 text is determined by its scalar values. -/
theorem Text.eq_of_scalarValues {s t : Text} (hs : s.isUtf8 = true) (ht : t.isUtf8 = true)
    (h : scalarValues s = scalarValues t) : s = t := by
  rw [isUtf8, Bool.and_eq_true, beq_iff_eq] at hs ht
  cases s
  cases t
  exact congrArg Text.mk (hs.2.symm.trans ((congrArg (List.flatMap encodeScalar) h).trans ht.2))

/-! ### UTF-16 -/

/-- The code units of one scalar value. -/
def scalarUnits (c : Nat) : List Nat :=
  if c < 0x10000 then [c]
  else [0xD800 + (c - 0x10000) / 0x400, 0xDC00 + (c - 0x10000) % 0x400]

theorem utf16Units_eq (s : Text) : utf16Units s = (scalarValues s).flatMap scalarUnits := rfl

/-- The units of a scalar value in front of others can be cancelled. -/
theorem scalarUnits_injective {c d : Nat} {us vs : List Nat} (hc : isScalar c = true)
    (hd : isScalar d = true) (h : scalarUnits c ++ us = scalarUnits d ++ vs) : c = d ∧ us = vs := by
  simp only [isScalar, Bool.or_eq_true, Bool.and_eq_true, decide_eq_true_eq] at hc hd
  rw [scalarUnits, scalarUnits] at h
  -- a first unit among the surrogates tells a pair from a single unit
  split at h <;> split at h <;>
    simp only [List.cons_append, List.nil_append, List.cons.injEq] at h
  · exact h
  · omega
  · omega
  · exact ⟨by omega, h.2.2⟩

/-- **The code units determine the text.** -/
theorem utf16Units_injective {s t : Text} (hs : s.isUtf8 = true) (ht : t.isUtf8 = true)
    (h : utf16Units s = utf16Units t) : s = t := by
  apply Text.eq_of_scalarValues hs ht
  rw [Text.isUtf8, Bool.and_eq_true, List.all_eq_true] at hs ht
  obtain ⟨hcs, -⟩ := hs
  obtain ⟨hds, -⟩ := ht
  rw [utf16Units_eq, utf16Units_eq] at h
  generalize scalarValues s = cs at hcs h
  generalize scalarValues t = ds at hds h
  have hne : ∀ c us, scalarUnits c ++ us ≠ [] := by
    intro c us
    rw [scalarUnits]
    split <;> exact List.cons_ne_nil _ _
  induction cs generalizing ds with
  | nil =>
    cases ds with
    | nil => rfl
    | cons d ds => exact absurd h.symm (hne d _)
  | cons c cs ih =>
    cases ds with
    | nil => exact absurd h (hne c _)
    | cons d ds =>
      rw [List.flatMap_cons, List.flatMap_cons] at h
      rw [List.forall_mem_cons] at hcs hds
      obtain ⟨rfl, hrest⟩ := scalarUnits_injective hcs.1 hds.1 h
      rw [ih hcs.2 ds hds.2 hrest]

end Idr
