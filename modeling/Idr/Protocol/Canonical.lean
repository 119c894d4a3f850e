/-
Idr/Protocol/Canonical.lean

What the canonical encoding determines.

An encoding determines its value, up to the order of the fields of its
objects: `Value.canonical` is the value with its fields in the order in
which they are written, and two values with the same encoding have the same
canonical value (`canonicalJsonBytesV1_injective`).  The proof is the usual
one for a code that is read from the left: an encoded value in front of
something that does not continue a number can be cancelled
(`cancelsValue`).

Digests hash encodings, so what two equal digests say of the values they
are taken of is read off here (`canonical_get`).
-/
import Idr.Protocol.Json

namespace Idr

/-! ### Canonical values -/

/-- The number as it is written: the sign of a `negInt` is always written. -/
def Number.canonical : Number → Number
  | .negInt z => .negInt (-z.natAbs)
  | n => n

namespace Value

mutual

/-- The value with the fields of its objects in the order in which they are written. -/
def canonical : Value → Value
  | .null => .null
  | .bool b => .bool b
  | .number n => .number n.canonical
  | .string s => .string s
  | .array values => .array (canonicalValues values)
  | .object fields => .object (sortFields (canonicalFields fields))

def canonicalValues : List Value → List Value
  | [] => []
  | v :: vs => v.canonical :: canonicalValues vs

def canonicalFields : List (Text × Value) → List (Text × Value)
  | [] => []
  | (key, v) :: fields => (key, v.canonical) :: canonicalFields fields

end

theorem canonicalValues_eq (values : List Value) :
    canonicalValues values = values.map canonical := by
  induction values with
  | nil => rfl
  | cons v vs ih => rw [canonicalValues, ih, List.map_cons]

/-- A field of a canonical object. -/
def canonicalField (field : Text × Value) : Text × Value := (field.1, field.2.canonical)

theorem canonicalFields_eq (fields : List (Text × Value)) :
    canonicalFields fields = fields.map canonicalField := by
  induction fields with
  | nil => rfl
  | cons field fields ih =>
    obtain ⟨key, v⟩ := field
    rw [canonicalFields, ih, List.map_cons]
    rfl

end Value

/-- Sorting looks at the keys only. -/
theorem sortFields_map {α β : Type} (f : α → β) (fields : List (Text × α)) :
    sortFields (fields.map fun field => (field.1, f field.2)) =
      (sortFields fields).map fun field => (field.1, f field.2) :=
  (List.map_insertionSort (r := fun a b : Text × α => utf16Le a.1 b.1)
    (s := fun a b : Text × β => utf16Le a.1 b.1) _ fields fun _ _ _ _ => Iff.rfl).symm

/-! ### Strings -/

/-- The bytes that are escaped. -/
def unplainBytes : List UInt8 := (List.range 32).map UInt8.ofNat ++ [34, 92]

theorem mem_unplainBytes {b : UInt8} (h : plainByte b.toNat = false) : b ∈ unplainBytes := by
  have hcases : b.toNat < 32 ∨ b.toNat = 34 ∨ b.toNat = 92 := by
    rcases Nat.lt_or_ge b.toNat 32 with hlt | hge
    · exact .inl hlt
    · right
      by_contra hne
      rw [not_or] at hne
      have htrue : plainByte b.toNat = true := by
        simp only [plainByte, Bool.and_eq_true, Nat.ble_eq, Bool.not_eq_true',
          ← Bool.not_eq_true, Nat.beq_eq]
        exact ⟨⟨hge, hne.1⟩, hne.2⟩
      rw [htrue] at h
      cases h
  rw [unplainBytes, List.mem_append]
  rcases hcases with hlt | heq | heq
  · exact .inl (List.mem_map.mpr ⟨b.toNat, List.mem_range.mpr hlt, UInt8.ofNat_toNat⟩)
  · exact .inr (by rw [show b = 34 from UInt8.toNat_inj.mp heq]; simp)
  · exact .inr (by rw [show b = 92 from UInt8.toNat_inj.mp heq]; simp)

/-- Read the byte that an escape in front of a string stands for. -/
def readEscape : List UInt8 → Option (UInt8 × List UInt8)
  | 92 :: 34 :: rest => some (34, rest)
  | 92 :: 92 :: rest => some (92, rest)
  | 92 :: 98 :: rest => some (8, rest)
  | 92 :: 102 :: rest => some (12, rest)
  | 92 :: 110 :: rest => some (10, rest)
  | 92 :: 114 :: rest => some (13, rest)
  | 92 :: 116 :: rest => some (9, rest)
  | 92 :: 117 :: 48 :: 48 :: high :: low :: rest =>
    match decodeNibble high, decodeNibble low with
    | some high, some low => some (UInt8.ofNat (high * 16 + low), rest)
    | _, _ => none
  | _ => none

theorem readEscape_escapeByte {b : UInt8} (h : plainByte b.toNat = false) (rest : List UInt8) :
    readEscape (escapeByte b ++ rest) = some (b, rest) := by
  have hall : ∀ b ∈ unplainBytes, readEscape (escapeByte b ++ rest) = some (b, rest) := by
    simp only [unplainBytes, List.range, List.range.loop, List.map_cons, List.map_nil,
      List.cons_append, List.nil_append, List.forall_mem_cons]
    refine ⟨rfl, rfl, rfl, rfl, rfl, rfl, rfl, rfl, rfl, rfl, rfl, rfl, rfl, rfl, rfl, rfl,
      rfl, rfl, rfl, rfl, rfl, rfl, rfl, rfl, rfl, rfl, rfl, rfl, rfl, rfl, rfl, rfl, rfl, rfl, ?_⟩
    exact fun b hb => (by cases hb)
  exact hall b (mem_unplainBytes h)

/-- An escape starts with a backslash. -/
theorem escapeByte_head (b : UInt8) (rest : List UInt8) :
    ∃ rest', escapeByte b ++ rest = 92 :: rest' := by
  unfold escapeByte
  split <;> exact ⟨_, rfl⟩

theorem plainByte_quote : plainByte (34 : UInt8).toNat = false := rfl

theorem plainByte_backslash : plainByte (92 : UInt8).toNat = false := rfl

/-- **A written string can be cancelled.** -/
theorem writeEscaped_injective (as : List UInt8) :
    ∀ (bs rest rest' : List UInt8),
      writeEscaped as (34 :: rest) = writeEscaped bs (34 :: rest') → as = bs ∧ rest = rest' := by
  -- the first byte tells an end, a plain byte and an escape apart
  have hend : ∀ (b : UInt8) (bs rest rest' : List UInt8),
      34 :: rest ≠ writeEscaped (b :: bs) (34 :: rest') := by
    intro b bs rest rest' h
    rw [writeEscaped] at h
    rcases hb : plainByte b.toNat with _ | _ <;> rw [hb] at h
    · obtain ⟨tail, htail⟩ := escapeByte_head b (writeEscaped bs (34 :: rest'))
      rw [cond_false, htail] at h
      exact absurd (List.cons.inj h).1 (by decide)
    · rw [cond_true] at h
      have hquote : (34 : UInt8) = b := (List.cons.inj h).1
      rw [← hquote, plainByte_quote] at hb
      cases hb
  induction as with
  | nil =>
    intro bs rest rest' h
    cases bs with
    | nil => exact ⟨rfl, (List.cons.inj h).2⟩
    | cons b bs => exact absurd h (hend b bs rest rest')
  | cons a as ih =>
    intro bs rest rest' h
    cases bs with
    | nil => exact absurd h.symm (hend a as rest' rest)
    | cons b bs =>
      rw [writeEscaped, writeEscaped] at h
      rcases ha : plainByte a.toNat with _ | _ <;> rcases hb : plainByte b.toNat with _ | _ <;>
        rw [ha, hb] at h <;> simp only [cond_true, cond_false] at h
      · have hread := readEscape_escapeByte ha (writeEscaped as (34 :: rest))
        rw [h, readEscape_escapeByte hb] at hread
        simp only [Option.some.injEq, Prod.mk.injEq] at hread
        obtain ⟨has, hrest⟩ := ih bs rest rest' hread.2.symm
        exact ⟨by rw [hread.1, has], hrest⟩
      · obtain ⟨tail, htail⟩ := escapeByte_head a (writeEscaped as (34 :: rest))
        rw [htail] at h
        rw [← (List.cons.inj h).1, plainByte_backslash] at hb
        cases hb
      · obtain ⟨tail, htail⟩ := escapeByte_head b (writeEscaped bs (34 :: rest'))
        rw [htail] at h
        rw [(List.cons.inj h).1, plainByte_backslash] at ha
        cases ha
      · obtain ⟨hab, h⟩ := List.cons.inj h
        obtain ⟨has, hrest⟩ := ih bs rest rest' h
        exact ⟨by rw [hab, has], hrest⟩

theorem writeString_injective {s t : Text} {rest rest' : List UInt8}
    (h : writeString s rest = writeString t rest') : s = t ∧ rest = rest' := by
  obtain ⟨hbytes, hrest⟩ := writeEscaped_injective _ _ _ _ (List.cons.inj h).2
  cases s
  cases t
  exact ⟨congrArg Text.mk hbytes, hrest⟩

/-! ### Numbers -/

/-- The byte is a decimal digit. -/
def isDigitByte (b : UInt8) : Bool := 48 ≤ b.toNat && b.toNat ≤ 57

/-- What follows does not continue a number. -/
def Delimited (rest : List UInt8) : Prop := ∀ b ∈ rest.head?, isDigitByte b = false

theorem toNat_ofNat_digit {c : Char} (h : c.isDigit = true) :
    (UInt8.ofNat c.toNat).toNat = c.toNat := by
  have hle : c.toNat ≤ 57 := by
    simp only [Char.isDigit, Bool.and_eq_true, decide_eq_true_eq] at h
    exact h.2
  rw [UInt8.toNat_ofNat']
  exact Nat.mod_eq_of_lt (by omega)

theorem isDigitByte_of_mem {n : Nat} {b : UInt8} (h : b ∈ decimalBytes n) :
    isDigitByte b = true := by
  obtain ⟨c, hc, rfl⟩ := List.mem_map.mp h
  have hdigit := Nat.isDigit_of_mem_toDigits (by decide) (by decide) hc
  rw [isDigitByte, toNat_ofNat_digit hdigit]
  simp only [Char.isDigit, Bool.and_eq_true, decide_eq_true_eq] at hdigit
  simp only [Bool.and_eq_true, decide_eq_true_eq]
  exact hdigit

/-- The digits, read as characters again. -/
theorem map_decimalBytes (n : Nat) :
    (decimalBytes n).map (fun b => Char.ofNat b.toNat) = Nat.toDigits 10 n := by
  rw [decimalBytes, List.map_map]
  apply List.map_congr_left (g := id) (fun c hc => ?_) |>.trans (List.map_id _)
  show Char.ofNat (UInt8.ofNat c.toNat).toNat = c
  rw [toNat_ofNat_digit (Nat.isDigit_of_mem_toDigits (by decide) (by decide) hc), Char.ofNat_toNat]

theorem decimalBytes_injective {m n : Nat} (h : decimalBytes m = decimalBytes n) : m = n := by
  have hdigits : Nat.toDigits 10 m = Nat.toDigits 10 n := by
    rw [← map_decimalBytes m, h, map_decimalBytes n]
  rw [← Nat.ofDigitChars_ten_toDigits (n := m), hdigits, Nat.ofDigitChars_ten_toDigits]

/-- A number in front of something that does not continue it can be cancelled. -/
theorem decimalBytes_append_injective {m n : Nat} {rest rest' : List UInt8}
    (hrest : Delimited rest) (hrest' : Delimited rest')
    (h : decimalBytes m ++ rest = decimalBytes n ++ rest') : m = n ∧ rest = rest' := by
  have htake : ∀ (k : Nat) (tail : List UInt8), Delimited tail →
      (decimalBytes k ++ tail).takeWhile isDigitByte = decimalBytes k := by
    intro k tail htail
    rw [List.takeWhile_append_of_pos fun b hb => isDigitByte_of_mem hb]
    cases tail with
    | nil => simp
    | cons b tail => simp [htail b (by simp)]
  have hbytes : decimalBytes m = decimalBytes n := by
    rw [← htake m rest hrest, h, htake n rest' hrest']
  refine ⟨decimalBytes_injective hbytes, ?_⟩
  rw [hbytes] at h
  exact List.append_cancel_left h

theorem numberBytes_injective {m n : Number} {rest rest' : List UInt8}
    (hm : validateCanonicalNumber m = .ok ()) (hn : validateCanonicalNumber n = .ok ())
    (hrest : Delimited rest) (hrest' : Delimited rest')
    (h : numberBytes m ++ rest = numberBytes n ++ rest') :
    m.canonical = n.canonical ∧ rest = rest' := by
  -- the sign tells the two kinds apart: no number starts with a minus
  have hsign : ∀ (k : Nat) (tail tail' : List UInt8), Delimited tail →
      decimalBytes k ++ tail ≠ 45 :: tail' := by
    intro k tail tail' htail heq
    rcases hbytes : decimalBytes k with _ | ⟨b, bs⟩ <;> rw [hbytes] at heq
    · have hne : decimalBytes k ≠ [] := by
        simp [decimalBytes, Nat.toDigits_ne_nil]
      exact hne hbytes
    · have hdigit : isDigitByte b = true := isDigitByte_of_mem (by rw [hbytes]; simp)
      rw [(List.cons.inj heq).1] at hdigit
      exact absurd hdigit (by decide)
  rcases m with m | m | m <;> rcases n with n | n | n
  · obtain ⟨rfl, hrest⟩ := decimalBytes_append_injective hrest hrest' h
    exact ⟨rfl, hrest⟩
  · exact absurd h (hsign _ _ _ hrest)
  · cases hn
  · exact absurd h.symm (hsign _ _ _ hrest')
  · obtain ⟨habs, hrest⟩ := decimalBytes_append_injective hrest hrest' (List.cons.inj h).2
    exact ⟨by rw [Number.canonical, Number.canonical, habs], hrest⟩
  · cases hn
  all_goals cases hm

/-! ### Lists -/

section Lists

variable {α β : Type} {writes : α → Writer → Prop} {canon : α → β}

/-- What is written for an item can be cancelled, whatever item it is compared with. -/
def CancelsItem (writes : α → Writer → Prop) (canon : α → β) (a : α) : Prop :=
  ∀ b f g rest rest', writes a f → writes b g → Delimited rest → Delimited rest' →
    f rest = g rest' → canon a = canon b ∧ rest = rest'

/-- Items separated by commas can be cancelled up to the bracket that closes them. -/
theorem joinComma_injective (close : UInt8) (hcomma : close ≠ 44)
    (hclose : isDigitByte close = false)
    (hhead : ∀ a f rest rest', writes a f → f rest ≠ close :: rest') :
    ∀ {as : List α} {fs : List Writer}, List.Forall₂ writes as fs →
      (∀ a ∈ as, CancelsItem writes canon a) →
      ∀ {bs : List α} {gs : List Writer} {rest rest' : List UInt8}, List.Forall₂ writes bs gs →
        joinComma fs (close :: rest) = joinComma gs (close :: rest') →
        as.map canon = bs.map canon ∧ rest = rest' := by
  have hdelimited : ∀ {b : UInt8} {rest : List UInt8}, isDigitByte b = false →
      Delimited (b :: rest) := by
    intro b rest hb b' hb'
    cases hb'
    exact hb
  have hnonempty : ∀ {b : α} {g : Writer} {gs : List Writer} {rest rest'},
      writes b g → joinComma (g :: gs) rest ≠ close :: rest' := by
    intro b g gs rest rest' hb
    cases gs with
    | nil => exact hhead b g _ _ hb
    | cons g' gs => exact hhead b g _ _ hb
  intro as fs has
  induction has with
  | nil =>
    intro _ bs gs rest rest' hbs h
    cases hbs with
    | nil => exact ⟨rfl, (List.cons.inj h).2⟩
    | cons hb hbs => exact absurd h.symm (hnonempty hb)
  | @cons a f as fs ha has ih =>
    intro hcancels bs gs rest rest' hbs h
    cases hbs with
    | nil => exact absurd h (hnonempty ha)
    | @cons b g bs gs hb hbs =>
      have hitem := hcancels a (by simp) b f g
      cases has with
      | nil =>
        cases hbs with
        | nil =>
          obtain ⟨hab, hrest⟩ := hitem _ _ ha hb (hdelimited hclose) (hdelimited hclose) h
          exact ⟨by simp [hab], (List.cons.inj hrest).2⟩
        | cons hb' hbs =>
          obtain ⟨-, hrest⟩ := hitem _ _ ha hb (hdelimited hclose) (hdelimited (by decide)) h
          exact absurd (List.cons.inj hrest).1 hcomma
      | cons ha' has =>
        cases hbs with
        | nil =>
          obtain ⟨-, hrest⟩ := hitem _ _ ha hb (hdelimited (by decide)) (hdelimited hclose) h
          exact absurd (List.cons.inj hrest).1.symm hcomma
        | cons hb' hbs =>
          obtain ⟨hab, hrest⟩ := hitem _ _ ha hb (hdelimited (by decide)) (hdelimited (by decide)) h
          obtain ⟨hall, hrest⟩ := ih (fun a ha => hcancels a (by simp [ha])) (.cons hb' hbs)
            (List.cons.inj hrest).2
          exact ⟨by rw [List.map_cons, hab, hall]; rfl, hrest⟩

end Lists

/-! ### Values -/

/-- The value is written so. -/
def WrittenValue (v : Value) (f : Writer) : Prop := writeCanonicalValue v = .ok f

/-- The field is written so. -/
def WrittenField (field : Text × Value) (f : Writer) : Prop :=
  ∃ g, WrittenValue field.2 g ∧ f = fun rest => writeString field.1 (58 :: g rest)

theorem forall₂_of_writeValues {values : List Value} :
    ∀ {parts : List Writer}, writeValues values = .ok parts →
      List.Forall₂ WrittenValue values parts := by
  induction values with
  | nil =>
    intro parts h
    cases h
    exact .nil
  | cons v vs ih =>
    intro parts h
    simp only [writeValues, bind_eq_ok, Except.ok.injEq] at h
    obtain ⟨part, hpart, parts, hparts, rfl⟩ := h
    exact .cons hpart (ih hparts)

theorem writeFields_eq (fields : List (Text × Value)) :
    writeFields fields = fields.map fun field => (field.1, writeCanonicalValue field.2) := by
  induction fields with
  | nil => rfl
  | cons field fields ih =>
    obtain ⟨key, v⟩ := field
    rw [writeFields, ih, List.map_cons]

theorem forall₂_of_sequenceFields {fields : List (Text × Value)} :
    ∀ {parts : List Writer},
      sequenceFields (fields.map fun field => (field.1, writeCanonicalValue field.2)) = .ok parts →
        List.Forall₂ WrittenField fields parts := by
  induction fields with
  | nil =>
    intro parts h
    cases h
    exact .nil
  | cons field fields ih =>
    intro parts h
    simp only [List.map_cons, sequenceFields, bind_eq_ok, Except.ok.injEq] at h
    obtain ⟨g, hg, parts, hparts, rfl⟩ := h
    exact .cons ⟨g, hg, rfl⟩ (ih hparts)

/-- How a value is written, by its kind. -/
theorem WrittenValue.cases {v : Value} {f : Writer} (h : WrittenValue v f) :
    match v with
    | .null => f = ([110, 117, 108, 108] ++ ·)
    | .bool true => f = ([116, 114, 117, 101] ++ ·)
    | .bool false => f = ([102, 97, 108, 115, 101] ++ ·)
    | .number n => validateCanonicalNumber n = .ok () ∧ f = (numberBytes n ++ ·)
    | .string s => f = writeString s
    | .array values => ∃ parts, List.Forall₂ WrittenValue values parts ∧
        f = fun rest => 91 :: joinComma parts (93 :: rest)
    | .object fields => ∃ parts, List.Forall₂ WrittenField (sortFields fields) parts ∧
        f = fun rest => 123 :: joinComma parts (125 :: rest) := by
  unfold WrittenValue at h
  cases v with
  | null => exact (Except.ok.inj h).symm
  | bool b => cases b <;> exact (Except.ok.inj h).symm
  | string s => exact (Except.ok.inj h).symm
  | number n =>
    simp only [writeCanonicalValue, bind_eq_ok, exists_unit_eq_ok, Except.ok.injEq] at h
    exact ⟨h.1, h.2.symm⟩
  | array values =>
    simp only [writeCanonicalValue, bind_eq_ok, Except.ok.injEq] at h
    obtain ⟨parts, hparts, rfl⟩ := h
    exact ⟨parts, forall₂_of_writeValues hparts, rfl⟩
  | object fields =>
    simp only [writeCanonicalValue, bind_eq_ok, Except.ok.injEq] at h
    obtain ⟨parts, hparts, rfl⟩ := h
    rw [writeFields_eq, sortFields_map] at hparts
    exact ⟨parts, forall₂_of_sequenceFields hparts, rfl⟩

/-- What kind of value starts with a byte. -/
def leadKind (b : UInt8) : Nat :=
  if b = 110 then 0 else if b = 116 then 1 else if b = 102 then 2
  else if b = 34 then 3 else if b = 91 then 4 else if b = 123 then 5
  else if b = 45 ∨ isDigitByte b = true then 6 else 7

/-- The kind of a value. -/
def Value.leadKind : Value → Nat
  | .null => 0
  | .bool true => 1
  | .bool false => 2
  | .string _ => 3
  | .array _ => 4
  | .object _ => 5
  | .number _ => 6

/-- The first byte of a number. -/
theorem numberBytes_head {n : Number} (h : validateCanonicalNumber n = .ok ()) :
    ∃ b bs, numberBytes n = b :: bs ∧ leadKind b = 6 := by
  have hdigit : ∀ b : UInt8, isDigitByte b = true → leadKind b = 6 := by
    intro b hb
    have hne : ∀ c : UInt8, isDigitByte c = false → b ≠ c := by
      rintro c hc rfl
      rw [hb] at hc
      cases hc
    simp [leadKind, hb, hne 110 rfl, hne 116 rfl, hne 102 rfl, hne 34 rfl, hne 91 rfl, hne 123 rfl]
  cases n with
  | posInt n =>
    rcases hbytes : decimalBytes n with _ | ⟨b, bs⟩
    · exact absurd hbytes (by simp [decimalBytes, Nat.toDigits_ne_nil])
    · exact ⟨b, bs, hbytes, hdigit b (isDigitByte_of_mem (by rw [hbytes]; simp))⟩
  | negInt z => exact ⟨45, _, rfl, rfl⟩
  | float bits => cases h

/-- The first byte of a written value is one of its kind. -/
theorem WrittenValue.head {v : Value} {f : Writer} (h : WrittenValue v f) (rest : List UInt8) :
    ∃ b bs, f rest = b :: bs ∧ leadKind b = v.leadKind := by
  have hcases := h.cases
  cases v with
  | null => exact ⟨_, _, congrFun hcases rest, rfl⟩
  | bool b => cases b <;> exact ⟨_, _, congrFun hcases rest, rfl⟩
  | string s => exact ⟨_, _, congrFun hcases rest, rfl⟩
  | number n =>
    obtain ⟨hvalid, rfl⟩ := hcases
    obtain ⟨b, bs, hbytes, hlead⟩ := numberBytes_head hvalid
    exact ⟨b, bs ++ rest, by rw [hbytes]; rfl, hlead⟩
  | array values =>
    obtain ⟨parts, -, rfl⟩ := hcases
    exact ⟨_, _, rfl, rfl⟩
  | object fields =>
    obtain ⟨parts, -, rfl⟩ := hcases
    exact ⟨_, _, rfl, rfl⟩

/-- Values that are written alike are of one kind. -/
theorem WrittenValue.leadKind_eq {v w : Value} {f g : Writer} {rest rest' : List UInt8}
    (hv : WrittenValue v f) (hw : WrittenValue w g) (h : f rest = g rest') :
    v.leadKind = w.leadKind := by
  obtain ⟨b, bs, hb, hlead⟩ := hv.head rest
  obtain ⟨c, cs, hc, hlead'⟩ := hw.head rest'
  rw [hb, hc] at h
  rw [← hlead, ← hlead', (List.cons.inj h).1]

/-- No value starts with a closing bracket. -/
theorem WrittenValue.ne_close {v : Value} {f : Writer} {rest rest' : List UInt8}
    (hv : WrittenValue v f) : f rest ≠ 93 :: rest' := by
  intro h
  obtain ⟨b, bs, hb, hlead⟩ := hv.head rest
  rw [hb] at h
  rw [(List.cons.inj h).1] at hlead
  cases v with
  | bool b => cases b <;> exact absurd (show (7 : Nat) = _ from hlead) (by decide)
  | _ => cases (show (7 : Nat) = _ from hlead)

/-- A field can be cancelled when its value can. -/
theorem cancelsField {field : Text × Value}
    (h : CancelsItem WrittenValue Value.canonical field.2) :
    CancelsItem WrittenField Value.canonicalField field := by
  rintro field' f g rest rest' ⟨f, hf, rfl⟩ ⟨g, hg, rfl⟩ hrest hrest' heq
  obtain ⟨hkey, heq⟩ := writeString_injective heq
  obtain ⟨hvalue, hrest⟩ := h field'.2 f g rest rest' hf hg hrest hrest' (List.cons.inj heq).2
  exact ⟨by rw [Value.canonicalField, Value.canonicalField, hkey, hvalue], hrest⟩

mutual

/-- **A written value can be cancelled**, up to the order of fields. -/
theorem cancelsValue (v : Value) : CancelsItem WrittenValue Value.canonical v := by
  intro w f g rest rest' hv hw hrest hrest' h
  have hkind := hv.leadKind_eq hw h
  have hfv := hv.cases
  have hgw := hw.cases
  cases v with
  | null =>
    cases w with
    | null =>
      rw [hfv, hgw] at h
      exact ⟨rfl, List.append_cancel_left h⟩
    | bool b => cases b <;> cases hkind
    | _ => cases hkind
  | bool a =>
    cases w with
    | bool b =>
      cases a <;> cases b <;> try cases hkind
      all_goals
        rw [hfv, hgw] at h
        exact ⟨rfl, List.append_cancel_left h⟩
    | _ => cases a <;> cases hkind
  | number m =>
    cases w with
    | number n =>
      obtain ⟨hm, rfl⟩ := hfv
      obtain ⟨hn, rfl⟩ := hgw
      obtain ⟨hmn, hrest⟩ := numberBytes_injective hm hn hrest hrest' h
      exact ⟨by rw [Value.canonical, Value.canonical, hmn], hrest⟩
    | bool b => cases b <;> cases hkind
    | _ => cases hkind
  | string s =>
    cases w with
    | string t =>
      rw [hfv, hgw] at h
      obtain ⟨rfl, hrest⟩ := writeString_injective h
      exact ⟨rfl, hrest⟩
    | bool b => cases b <;> cases hkind
    | _ => cases hkind
  | array values =>
    cases w with
    | array values' =>
      obtain ⟨parts, hparts, rfl⟩ := hfv
      obtain ⟨parts', hparts', rfl⟩ := hgw
      obtain ⟨hvalues, hrest⟩ := joinComma_injective 93 (by decide) (by decide)
        (fun _ _ _ _ ha => ha.ne_close) hparts (cancelsValues values) hparts' (List.cons.inj h).2
      refine ⟨?_, hrest⟩
      rw [Value.canonical, Value.canonical, Value.canonicalValues_eq, Value.canonicalValues_eq,
        hvalues]
    | bool b => cases b <;> cases hkind
    | _ => cases hkind
  | object fields =>
    cases w with
    | object fields' =>
      obtain ⟨parts, hparts, rfl⟩ := hfv
      obtain ⟨parts', hparts', rfl⟩ := hgw
      have hcancels : ∀ field ∈ sortFields fields,
          CancelsItem WrittenField Value.canonicalField field := fun field hfield =>
        cancelsField (cancelsFields fields field ((List.mem_insertionSort _).mp hfield))
      obtain ⟨hfields, hrest⟩ := joinComma_injective 125 (by decide) (by decide)
        (by
          rintro field f rest rest' ⟨g, -, rfl⟩ heq
          exact absurd (List.cons.inj heq).1 (by decide))
        hparts hcancels hparts' (List.cons.inj h).2
      refine ⟨?_, hrest⟩
      rw [Value.canonical, Value.canonical, Value.canonicalFields_eq, Value.canonicalFields_eq]
      exact congrArg Value.object ((sortFields_map _ fields).trans
        (hfields.trans (sortFields_map _ fields').symm))
    | bool b => cases b <;> cases hkind
    | _ => cases hkind

theorem cancelsValues (values : List Value) :
    ∀ v ∈ values, CancelsItem WrittenValue Value.canonical v := by
  cases values with
  | nil => exact fun v hv => (by cases hv)
  | cons v values =>
    rw [List.forall_mem_cons]
    exact ⟨cancelsValue v, cancelsValues values⟩

theorem cancelsFields (fields : List (Text × Value)) :
    ∀ field ∈ fields, CancelsItem WrittenValue Value.canonical field.2 := by
  cases fields with
  | nil => exact fun field hfield => (by cases hfield)
  | cons field fields =>
    rw [List.forall_mem_cons]
    exact ⟨cancelsValue field.2, cancelsFields fields⟩

end

/-- **The canonical encoding is injective**, up to the order of fields. -/
theorem canonicalJsonBytesV1_injective {α β : Type} [Serialize α] [Serialize β] {a : α} {b : β}
    {bytes : List UInt8} (ha : canonicalJsonBytesV1 a = .ok bytes)
    (hb : canonicalJsonBytesV1 b = .ok bytes) :
    (toValue a).canonical = (toValue b).canonical := by
  simp only [canonicalJsonBytesV1, bind_eq_ok, Except.ok.injEq] at ha hb
  obtain ⟨f, hf, rfl⟩ := ha
  obtain ⟨g, hg, heq⟩ := hb
  have hnil : Delimited [] := fun b hb => (by cases hb)
  exact (cancelsValue _ _ f g [] [] hf hg hnil hnil heq.symm).1

/-! ### Fields -/

/-- Sorting keeps what a key selects: the order is reflexive, so the sort is stable. -/
theorem lookup_sortFields {α : Type} (key : Text) (fields : List (Text × α)) :
    (sortFields fields).lookup key = fields.lookup key := by
  have hrefl : ∀ t : Text, utf16Le t t = true := by
    intro t
    have heq : ∀ ns : List Nat, compareNats ns ns = .eq := by
      intro ns
      induction ns with
      | nil => rfl
      | cons n ns ih => rw [compareNats, if_pos (Nat.beq_refl n), ih]
    rw [utf16Le, heq]
    rfl
  have hinsert : ∀ (k : Text) (a : α) (sorted : List (Text × α)),
      (sorted.orderedInsert (fun a b => utf16Le a.1 b.1) (k, a)).lookup key =
        ((k, a) :: sorted).lookup key := by
    intro k a sorted
    induction sorted with
    | nil => rfl
    | cons field sorted ih =>
      obtain ⟨k', b⟩ := field
      rw [List.orderedInsert_cons]
      split
      · rfl
      · rename_i hle
        rw [List.lookup_cons, ih, List.lookup_cons, List.lookup_cons, List.lookup_cons]
        rcases hk : key == k with _ | _
        · simp
        · -- the inserted field has the key, so the one it passed has another
          have hne : (key == k') = false := by
            rw [beq_eq_false_iff_ne]
            rintro rfl
            rw [eq_of_beq hk] at hle
            exact hle (hrefl _)
          simp [hne]
  induction fields with
  | nil => rfl
  | cons field fields ih =>
    obtain ⟨k, a⟩ := field
    rw [sortFields, List.insertionSort_cons, hinsert, List.lookup_cons, List.lookup_cons]
    rw [sortFields] at ih
    rw [ih]

/-- What a canonical object has under a key. -/
theorem Value.canonical_get (v : Value) (key : Text) :
    v.canonical.get key = (v.get key).map Value.canonical := by
  cases v with
  | object fields =>
    rw [Value.canonical, Value.get, Value.get, lookup_sortFields, Value.canonicalFields_eq]
    induction fields with
    | nil => rfl
    | cons field fields ih =>
      obtain ⟨k, v⟩ := field
      rw [List.map_cons, Value.canonicalField, List.lookup_cons, List.lookup_cons, ih]
      rcases hkey : key == k with _ | _ <;> simp
  | _ => rfl

/-! ### Identifiers -/

theorem hexDigit_injective {m n : Nat} (hm : m < 16) (hn : n < 16) (h : hexDigit m = hexDigit n) :
    m = n := by
  have hall : ∀ m < 16, ∀ n < 16, hexDigit m = hexDigit n → m = n := by decide
  exact hall m hm n hn h

/-- **An identifier is determined by its string form.** -/
theorem Uuid.toString_injective {u v : Uuid} (h : u.toString = v.toString) : u = v := by
  have hdigits : ∀ lo len, (List.range' lo len).map (fun i => hexDigit (nibble u i)) =
      (List.range' lo len).map (fun i => hexDigit (nibble v i)) →
      ∀ i, lo ≤ i → i < lo + len → nibble u i = nibble v i := by
    intro lo len heq i hlo hlen
    have hi := List.map_inj_left.mp heq i (List.mem_range'_1.mpr ⟨hlo, hlen⟩)
    exact hexDigit_injective (Nat.mod_lt _ (by decide)) (Nat.mod_lt _ (by decide)) hi
  have hnibble : ∀ i < 32, nibble u i = nibble v i := by
    have hbytes : u.toString.bytes = v.toString.bytes := congrArg Text.bytes h
    simp only [Uuid.toString, List.append_assoc, List.cons_append] at hbytes
    -- the parts have fixed lengths, so they can be compared one by one
    obtain ⟨h₁, hbytes⟩ := List.append_inj hbytes (by simp)
    obtain ⟨h₂, hbytes⟩ := List.append_inj (List.cons.inj hbytes).2 (by simp)
    obtain ⟨h₃, hbytes⟩ := List.append_inj (List.cons.inj hbytes).2 (by simp)
    obtain ⟨h₄, hbytes⟩ := List.append_inj (List.cons.inj hbytes).2 (by simp)
    have h₅ := (List.cons.inj hbytes).2
    intro i hi
    rcases Nat.lt_or_ge i 8 with hlt | hge
    · exact hdigits 0 8 h₁ i (Nat.zero_le i) hlt
    rcases Nat.lt_or_ge i 12 with hlt | hge
    · exact hdigits 8 4 h₂ i (by omega) (by omega)
    rcases Nat.lt_or_ge i 16 with hlt | hge
    · exact hdigits 12 4 h₃ i (by omega) (by omega)
    rcases Nat.lt_or_ge i 20 with hlt | hge
    · exact hdigits 16 4 h₄ i (by omega) (by omega)
    · exact hdigits 20 12 h₅ i (by omega) (by omega)
  have hdiv : ∀ k ≤ 32, u.toNat / 16 ^ (32 - k) = v.toNat / 16 ^ (32 - k) := by
    intro k
    induction k with
    | zero =>
      intro _
      have hpow : 16 ^ (32 - 0) = 2 ^ 128 := by decide
      rw [hpow, Nat.div_eq_of_lt u.isLt, Nat.div_eq_of_lt v.isLt]
    | succ k ih =>
      intro hk
      -- one digit more
      have hstep : ∀ w : Uuid, w.toNat / 16 ^ (32 - (k + 1)) =
          16 * (w.toNat / 16 ^ (32 - k)) + nibble w k := by
        intro w
        have hpow : 16 ^ (32 - k) = 16 ^ (32 - (k + 1)) * 16 := by
          rw [← Nat.pow_succ]
          congr 1
          omega
        rw [hpow, ← Nat.div_div_eq_div_mul, nibble, show 31 - k = 32 - (k + 1) by omega]
        exact (Nat.div_add_mod _ _).symm
      rw [hstep, hstep, ih (by omega), hnibble k (by omega)]
  have hall := hdiv 32 (Nat.le_refl 32)
  rw [Nat.sub_self, Nat.pow_zero, Nat.div_one, Nat.div_one] at hall
  exact BitVec.eq_of_toNat_eq hall

end Idr
