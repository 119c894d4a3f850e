/-
Idr/Protocol/RoundTrip.lean

The canonical encoding, read back.

A reader of JSON texts gives back the canonical value of what was written
(`parseTree_canonical`): strings byte by byte, with the escapes of the
encoder among those of the grammar, integers without a leading zero, and
objects with their members in the written order.  With the members collected
into maps this is the value itself, so the encoding is injective, and the
order of keys in the text is the order of the canonical value.
-/
import Idr.Protocol.Parse
import Idr.Protocol.Tree

namespace Idr

/-! ### Strings -/

theorem readString_letter {e c : UInt8} (he : e ≠ 117) (hc : letterEscape e = some c)
    (rest : List UInt8) :
    readString (92 :: e :: rest) = (readString rest).map (prependBytes [c]) := by
  rw [readString.eq_def]
  dsimp only
  rw [if_neg (by decide), if_pos rfl, if_neg he, hc]

theorem readString_hex {h₁ h₂ h₃ h₄ : UInt8} {unit : Nat}
    (hunit : Uuid.parseDigits [h₁, h₂, h₃, h₄] 0 = some unit) (hscalar : isScalar unit = true)
    (rest : List UInt8) :
    readString (92 :: 117 :: h₁ :: h₂ :: h₃ :: h₄ :: rest) =
      (readString rest).map (prependBytes (encodeScalar unit)) := by
  rw [readString.eq_def]
  dsimp only
  rw [if_neg (by decide), if_pos rfl, if_pos rfl, hunit]
  dsimp only
  rw [if_pos hscalar]

theorem readString_escapeByte {b : UInt8} (h : plainByte b.toNat = false) (rest : List UInt8) :
    readString (escapeByte b ++ rest) = (readString rest).map (prependBytes [b]) := by
  have hletter : ∀ e c : UInt8, b.toNat = c.toNat → e ≠ 117 → letterEscape e = some c →
      readString (92 :: e :: rest) = (readString rest).map (prependBytes [b]) := by
    intro e c hb he hc
    rw [UInt8.toNat_inj.mp hb]
    exact readString_letter he hc rest
  rw [escapeByte]
  split
  case h_1 heq => exact hletter 34 34 heq (by decide) rfl
  case h_2 heq => exact hletter 92 92 heq (by decide) rfl
  case h_3 heq => exact hletter 98 8 heq (by decide) rfl
  case h_4 heq => exact hletter 102 12 heq (by decide) rfl
  case h_5 heq => exact hletter 110 10 heq (by decide) rfl
  case h_6 heq => exact hletter 114 13 heq (by decide) rfl
  case h_7 heq => exact hletter 116 9 heq (by decide) rfl
  case h_8 hquote hbackslash _ _ _ _ _ =>
    -- the other control characters
    have hlt : b.toNat < 32 := by
      by_contra hge
      have hplain : plainByte b.toNat = true := by
        simp only [plainByte, Bool.and_eq_true, Nat.ble_eq, Bool.not_eq_true',
          ← Bool.not_eq_true, Nat.beq_eq]
        exact ⟨⟨Nat.not_lt.mp hge, hquote⟩, hbackslash⟩
      rw [h] at hplain
      cases hplain
    have hdigits : ∀ n < 32, Uuid.parseDigits [48, 48, hexDigit (n / 16), hexDigit (n % 16)] 0 =
        some n := by decide
    have hscalar : ∀ n < 32, isScalar n = true ∧ encodeScalar n = [UInt8.ofNat n] := by decide
    obtain ⟨hscalar, hencode⟩ := hscalar b.toNat hlt
    rw [UInt8.ofNat_toNat] at hencode
    rw [← hencode]
    exact readString_hex (hdigits b.toNat hlt) hscalar rest

/-- **A written string is read back.** -/
theorem readString_writeEscaped (s rest : List UInt8) :
    readString (writeEscaped s (34 :: rest)) = some (s, rest) := by
  induction s with
  | nil =>
    rw [writeEscaped, readString.eq_def]
    dsimp only
    rw [if_pos rfl]
  | cons b s ih =>
    rw [writeEscaped]
    rcases hb : plainByte b.toNat with _ | _
    · rw [cond_false, readString_escapeByte hb, ih]
      rfl
    · have hplain := hb
      simp only [plainByte, Bool.and_eq_true, Nat.ble_eq, Bool.not_eq_true', ← Bool.not_eq_true,
        Nat.beq_eq] at hplain
      have hquote : b ≠ 34 := fun h => hplain.1.2 (by rw [h]; rfl)
      have hbackslash : b ≠ 92 := fun h => hplain.2 (by rw [h]; rfl)
      rw [cond_true, readString.eq_def]
      dsimp only
      rw [if_neg hquote, if_neg hbackslash, if_neg (Nat.not_lt.mpr hplain.1.1), ih]
      rfl

/-! ### Numbers -/

/-- What may stand behind a value in an encoding. -/
def Follows (rest : List UInt8) : Prop := ∀ b ∈ rest.head?, b = 44 ∨ b = 93 ∨ b = 125

theorem Follows.delimited {rest : List UInt8} (h : Follows rest) : Delimited rest := by
  intro b hb
  rcases h b hb with rfl | rfl | rfl <;> rfl

theorem readDigits_decimalBytes {n : Nat} {rest : List UInt8} (hrest : Delimited rest) :
    readDigits (decimalBytes n ++ rest) = (decimalBytes n, rest) := by
  have hdigits : ∀ b ∈ decimalBytes n, isDigitByte b = true := fun b hb => isDigitByte_of_mem hb
  rw [readDigits, List.takeWhile_append_of_pos hdigits, List.dropWhile_append_of_pos hdigits]
  cases rest with
  | nil => simp
  | cons b rest =>
    have hb := hrest b rfl
    rw [List.takeWhile_cons_of_neg (by rw [hb]; decide), List.append_nil,
      List.dropWhile_cons_of_neg (by rw [hb]; decide)]

theorem digitsValue_decimalBytes (n : Nat) : digitsValue (decimalBytes n) = n := by
  rw [digitsValue, map_decimalBytes, Nat.ofDigitChars_ten_toDigits]

/-- Only zero is written with a leading zero. -/
theorem decimalBytes_head {n : Nat} (h : (decimalBytes n).head? = some 48) :
    decimalBytes n = [48] := by
  have hdigit : ∀ d < 10, UInt8.ofNat (Nat.digitChar d).toNat = 48 → d = 0 := by decide
  induction n using Nat.strongRecOn with
  | ind n ih =>
    rcases Nat.lt_or_ge n 10 with hlt | hge
    · rw [decimalBytes, Nat.toDigits_of_lt_base hlt] at h ⊢
      rw [hdigit n hlt (Option.some.inj h)]
      rfl
    · -- the leading digit is that of the quotient, which is not zero
      have hsplit : decimalBytes n =
          decimalBytes (n / 10) ++ [UInt8.ofNat (Nat.digitChar (n % 10)).toNat] := by
        rw [decimalBytes, Nat.toDigits_of_base_le (by decide) hge, List.map_append]
        rfl
      have hne : decimalBytes (n / 10) ≠ [] := by simp [decimalBytes, Nat.toDigits_ne_nil]
      rw [hsplit, List.head?_append_of_ne_nil _ hne] at h
      have hzero := digitsValue_decimalBytes (n / 10)
      rw [ih (n / 10) (by omega) h, show digitsValue [48] = 0 from rfl] at hzero
      omega

theorem Number.canonical_eq {n : Number} (h : n.InRange) : n.canonical = n := by
  cases n with
  | negInt z =>
    obtain ⟨-, hneg⟩ := h
    rw [Number.canonical]
    congr 1
    omega
  | _ => rfl

section Reader

variable {readFloat : List UInt8 → BitVec 64}

/-- **A written number is read back.** -/
theorem parseNumber_numberBytes {n : Number} {rest : List UInt8} (hsafe : n.IsSafeInteger)
    (hrange : n.InRange) (hrest : Follows rest) :
    parseNumber readFloat (numberBytes n ++ rest) = some (n, rest) := by
  have hfraction : readFraction rest = some (false, rest) := by
    cases rest with
    | nil => rfl
    | cons b rest =>
      have hb : b ≠ 46 := by rcases hrest b rfl with rfl | rfl | rfl <;> decide
      rw [readFraction, if_neg hb]
  have hexponent : readExponent rest = some (false, rest) := by
    cases rest with
    | nil => rfl
    | cons b rest =>
      have hb : ¬ (b = 101 ∨ b = 69) := by rcases hrest b rfl with rfl | rfl | rfl <;> decide
      rw [readExponent, if_neg hb]
  -- once the sign is off, the digits are those of a natural number
  have hdigits : ∀ (negative : Bool) (k : Nat) (bs : List UInt8),
      readSign bs = (negative, decimalBytes k ++ rest) →
        ∃ literal, parseNumber readFloat bs =
          some (Number.ofInteger readFloat negative k literal, rest) := by
    intro negative k bs hsign
    have hne : decimalBytes k ≠ [] := by simp [decimalBytes, Nat.toDigits_ne_nil]
    have hzero : ¬ (decimalBytes k = [] ∨
        ((decimalBytes k).head? = some 48 ∧ decimalBytes k ≠ [48])) := by
      rintro (h | ⟨h, h'⟩)
      · exact hne h
      · exact h' (decimalBytes_head h)
    rw [parseNumber, hsign]
    dsimp only
    rw [readDigits_decimalBytes hrest.delimited]
    dsimp only
    rw [if_neg hzero, hfraction, Option.bind_eq_bind, Option.bind_some]
    dsimp only
    rw [hexponent, Option.bind_some]
    exact ⟨_, by rw [digitsValue_decimalBytes]; rfl⟩
  cases n with
  | posInt n =>
    have hsign : readSign (decimalBytes n ++ rest) = (false, decimalBytes n ++ rest) := by
      rcases hbytes : decimalBytes n with _ | ⟨b, bs⟩
      · exact absurd hbytes (by simp [decimalBytes, Nat.toDigits_ne_nil])
      · have hdigit : isDigitByte b = true := isDigitByte_of_mem (by rw [hbytes]; simp)
        have hb : b ≠ 45 := by
          rintro rfl
          exact absurd hdigit (by decide)
        rw [List.cons_append, readSign, if_neg hb]
    obtain ⟨literal, hparse⟩ := hdigits false n _ hsign
    have hlt : n < 2 ^ 64 := hrange
    rw [numberBytes, hparse, Number.ofInteger, if_neg (by decide), if_pos hlt]
  | negInt z =>
    obtain ⟨hlow, hneg⟩ := hrange
    obtain ⟨literal, hparse⟩ := hdigits true z.natAbs (45 :: decimalBytes z.natAbs ++ rest) (by
      rw [List.cons_append, readSign, if_pos rfl])
    rw [numberBytes, hparse, Number.ofInteger, if_pos rfl, if_pos ⟨by omega, by omega⟩]
    congr 3
    omega
  | float bits =>
    obtain ⟨z, hz, -⟩ := hsafe
    cases hz

/-! ### Values -/

/-- With enough fuel the reader reads this. -/
def Reads {α : Type} (read : Nat → List UInt8 → Option α) (bs : List UInt8) (result : α) : Prop :=
  ∃ N, ∀ n, N ≤ n → read n bs = some result

variable (readFloat) in
/-- The value is read back wherever it is written. -/
def ReadBack (v : Value) : Prop :=
  ∀ f rest, WrittenValue v f → Follows rest →
    Reads (parseValue readFloat) (f rest) (v.canonical, rest)

theorem follows_cons {b : UInt8} {rest : List UInt8} (hb : b = 44 ∨ b = 93 ∨ b = 125) :
    Follows (b :: rest) := by
  intro c hc
  cases hc
  exact hb

theorem skipSpace_cons {b : UInt8} {rest : List UInt8} (hb : isJsonSpace b = false) :
    skipSpace (b :: rest) = b :: rest := by
  rw [skipSpace, List.dropWhile_cons_of_neg (by rw [hb]; decide)]

theorem expect_self {b : UInt8} {rest : List UInt8} (hb : isJsonSpace b = false) :
    expect b (b :: rest) = some rest := by
  rw [expect, skipSpace_cons hb]
  exact if_pos rfl

theorem expect_ne {b c : UInt8} {rest : List UInt8} (hb : isJsonSpace b = false) (hne : b ≠ c) :
    expect c (b :: rest) = none := by
  rw [expect, skipSpace_cons hb]
  exact if_neg hne

/-- How the first byte of a value is neither white space nor a closing bracket. -/
theorem leadKind_lt {b : UInt8} (h : leadKind b < 7) :
    isJsonSpace b = false ∧ b ≠ 93 ∧ b ≠ 125 := by
  have hne : ∀ c : UInt8, leadKind c = 7 → b ≠ c := by
    rintro c hc rfl
    omega
  refine ⟨?_, hne 93 rfl, hne 125 rfl⟩
  simp [isJsonSpace, hne 32 rfl, hne 9 rfl, hne 10 rfl, hne 13 rfl]

theorem Value.leadKind_lt (v : Value) : v.leadKind < 7 := by
  cases v with
  | bool b => cases b <;> exact Nat.lt_of_sub_eq_succ rfl
  | _ => exact Nat.lt_of_sub_eq_succ rfl

/-- The elements of an array are read back up to its closing bracket. -/
theorem parseElements_written {values : List Value} {parts : List Writer} (rest : List UInt8)
    (hparts : List.Forall₂ WrittenValue values parts) :
    (∀ v ∈ values, ReadBack readFloat v) → values ≠ [] →
      Reads (parseElements readFloat) (joinComma parts (93 :: rest))
        (values.map Value.canonical, rest) := by
  induction hparts with
  | nil => exact fun _ hne => absurd rfl hne
  | @cons v f values parts hv hparts ih =>
    intro hall _
    rw [List.forall_mem_cons] at hall
    cases hparts with
    | nil =>
      obtain ⟨N, hN⟩ := hall.1 f (93 :: rest) hv (follows_cons (by decide))
      refine ⟨N + 1, fun n hn => ?_⟩
      obtain ⟨m, rfl⟩ : ∃ m, n = m + 1 := ⟨n - 1, by omega⟩
      rw [joinComma, parseElements, hN m (by omega), Option.bind_eq_bind, Option.bind_some]
      dsimp only
      rw [expect_ne (by decide) (by decide), expect_self (by decide)]
      rfl
    | @cons w g values parts hw hparts =>
      obtain ⟨N, hN⟩ := hall.1 f (44 :: joinComma (g :: parts) (93 :: rest)) hv
        (follows_cons (by decide))
      obtain ⟨M, hM⟩ := ih hall.2 (List.cons_ne_nil _ _)
      refine ⟨max N M + 1, fun n hn => ?_⟩
      obtain ⟨m, rfl⟩ : ∃ m, n = m + 1 := ⟨n - 1, by omega⟩
      rw [show joinComma (f :: g :: parts) (93 :: rest) =
        f (44 :: joinComma (g :: parts) (93 :: rest)) from rfl]
      rw [parseElements, hN m (by omega), Option.bind_eq_bind, Option.bind_some]
      dsimp only
      rw [expect_self (by decide)]
      dsimp only
      rw [hM m (by omega)]
      rfl

/-- The members of an object are read back up to its closing bracket. -/
theorem parseMembers_written {fields : List (Text × Value)} {parts : List Writer}
    (rest : List UInt8) (hparts : List.Forall₂ WrittenField fields parts) :
    (∀ field ∈ fields, ReadBack readFloat field.2) → fields ≠ [] →
      Reads (parseMembers readFloat) (joinComma parts (125 :: rest))
        (fields.map Value.canonicalField, rest) := by
  -- one member, whatever follows it
  have hmember : ∀ {field : Text × Value} {f : Writer} (tail : List UInt8), WrittenField field f →
      ReadBack readFloat field.2 → Follows tail → ∃ N, ∀ n, N ≤ n →
        parseMembers readFloat (n + 1) (f tail) =
          (expect 44 tail).elim
            ((expect 125 tail).map fun rest => ([Value.canonicalField field], rest))
            fun rest => (parseMembers readFloat n rest).map fun r =>
              (Value.canonicalField field :: r.1, r.2) := by
    rintro ⟨key, v⟩ _ tail ⟨g, hg, rfl⟩ hv htail
    obtain ⟨N, hN⟩ := hv g tail hg htail
    refine ⟨N, fun n hn => ?_⟩
    rw [parseMembers]
    dsimp only
    rw [writeString, expect_self (by decide)]
    simp only [Option.bind_eq_bind, Option.bind_some]
    rw [readString_writeEscaped]
    simp only [Option.bind_some]
    rw [expect_self (by decide)]
    simp only [Option.bind_some]
    rw [hN n hn]
    simp only [Option.bind_some]
    rcases expect 44 tail with _ | rest <;> rfl
  induction hparts with
  | nil => exact fun _ hne => absurd rfl hne
  | @cons field f fields parts hfield hparts ih =>
    intro hall _
    rw [List.forall_mem_cons] at hall
    cases hparts with
    | nil =>
      obtain ⟨N, hN⟩ := hmember (125 :: rest) hfield hall.1 (follows_cons (by decide))
      refine ⟨N + 1, fun n hn => ?_⟩
      obtain ⟨m, rfl⟩ : ∃ m, n = m + 1 := ⟨n - 1, by omega⟩
      rw [joinComma, hN m (by omega), expect_ne (by decide) (by decide), expect_self (by decide)]
      rfl
    | @cons field' g fields parts hfield' hparts =>
      obtain ⟨N, hN⟩ := hmember (44 :: joinComma (g :: parts) (125 :: rest)) hfield hall.1
        (follows_cons (by decide))
      obtain ⟨M, hM⟩ := ih hall.2 (List.cons_ne_nil _ _)
      refine ⟨max N M + 1, fun n hn => ?_⟩
      obtain ⟨m, rfl⟩ : ∃ m, n = m + 1 := ⟨n - 1, by omega⟩
      rw [show joinComma (f :: g :: parts) (125 :: rest) =
        f (44 :: joinComma (g :: parts) (125 :: rest)) from rfl]
      rw [hN m (by omega), expect_self (by decide), Option.elim_some, hM m (by omega)]
      rfl

/-- **Every well-formed value is read back**, its fields in the written order. -/
theorem readBack (v : Value) (hv : v.WellFormed) : ReadBack readFloat v := by
  -- what a value is read from starts with a byte that tells its kind
  have hfuel : ∀ {v : Value} {bs rest : List UInt8}, (∀ n, parseValue readFloat (n + 1) bs =
      some (v, rest)) → Reads (parseValue readFloat) bs (v, rest) := by
    intro v bs rest h
    refine ⟨1, fun n hn => ?_⟩
    obtain ⟨m, rfl⟩ : ∃ m, n = m + 1 := ⟨n - 1, by omega⟩
    exact h m
  induction v using Value.induction with
  | hnull =>
    intro f rest hf _
    rw [hf.cases]
    exact hfuel fun n => rfl
  | hbool b =>
    intro f rest hf _
    cases b <;> rw [hf.cases] <;> exact hfuel fun n => rfl
  | hnumber n =>
    intro f rest hf hrest
    obtain ⟨hsafe, rfl⟩ := hf.cases
    obtain ⟨b, bs, hbytes, hlead⟩ := numberBytes_head hsafe
    have hnumber : parseNumber readFloat (numberBytes n ++ rest) = some (n, rest) :=
      parseNumber_numberBytes (validateCanonicalNumber_eq_ok.mp hsafe) hv.self hrest
    have hspace : isJsonSpace b = false := (leadKind_lt (by rw [hlead]; decide)).1
    have hfirst : b = 45 ∨ isDigitByte b = true := by
      by_contra hnot
      rw [leadKind] at hlead
      rw [if_neg hnot] at hlead
      repeat (first | cases hlead | split at hlead)
    apply hfuel
    intro m
    rw [hbytes, List.cons_append] at hnumber
    show parseValue readFloat (m + 1) (numberBytes n ++ rest) = _
    rw [hbytes, List.cons_append, parseValue, skipSpace_cons hspace]
    dsimp only
    rw [if_pos hfirst, hnumber, Value.canonical, Number.canonical_eq hv.self]
    rfl
  | hstring s =>
    intro f rest hf _
    rw [hf.cases]
    apply hfuel
    intro n
    rw [writeString, parseValue, skipSpace_cons (by decide)]
    dsimp only
    rw [if_neg (by decide), if_pos rfl, readString_writeEscaped]
    rfl
  | harray values ih =>
    intro f rest hf _
    obtain ⟨parts, hparts, rfl⟩ := hf.cases
    have hall := (Value.every_array.mp hv).2
    rw [Value.canonical, Value.canonicalValues_eq]
    cases hparts with
    | nil => exact hfuel fun n => rfl
    | @cons v g values parts hg hparts =>
      obtain ⟨N, hN⟩ := parseElements_written rest (.cons hg hparts)
        (fun v hv => ih v hv (hall v hv)) (List.cons_ne_nil _ _)
      refine ⟨N + 1, fun n hn => ?_⟩
      obtain ⟨m, rfl⟩ : ∃ m, n = m + 1 := ⟨n - 1, by omega⟩
      have hopen : expect 93 (joinComma (g :: parts) (93 :: rest)) = none := by
        have hhead : ∃ tail, joinComma (g :: parts) (93 :: rest) = g tail := by
          cases parts <;> exact ⟨_, rfl⟩
        obtain ⟨tail, htail⟩ := hhead
        obtain ⟨b, bs, hb, hlead⟩ := hg.head tail
        obtain ⟨hspace, hclose, -⟩ := leadKind_lt (by rw [hlead]; exact v.leadKind_lt)
        rw [htail, hb]
        exact expect_ne hspace hclose
      rw [parseValue, skipSpace_cons (by decide)]
      dsimp only
      rw [if_neg (by decide), if_neg (by decide), if_pos rfl, hopen]
      dsimp only
      rw [hN m (by omega)]
      rfl
  | hobject fields ih =>
    intro f rest hf _
    obtain ⟨parts, hparts, rfl⟩ := hf.cases
    have hall := (Value.every_object.mp hv).2
    have hback : ∀ field ∈ sortFields fields, ReadBack readFloat field.2 := fun field hfield =>
      ih field ((List.mem_insertionSort _).mp hfield)
        (hall field ((List.mem_insertionSort _).mp hfield))
    have hcanonical : (Value.object fields).canonical =
        .object ((sortFields fields).map Value.canonicalField) := by
      rw [Value.canonical, Value.canonicalFields_eq]
      exact congrArg Value.object (sortFields_map Value.canonical fields)
    rw [hcanonical]
    generalize sortFields fields = sorted at hparts hback
    cases hparts with
    | nil => exact hfuel fun n => rfl
    | @cons field g sorted parts hg hparts =>
      obtain ⟨N, hN⟩ := parseMembers_written rest (.cons hg hparts) hback
        (List.cons_ne_nil _ _)
      refine ⟨N + 1, fun n hn => ?_⟩
      obtain ⟨m, rfl⟩ : ∃ m, n = m + 1 := ⟨n - 1, by omega⟩
      have hopen : expect 125 (joinComma (g :: parts) (125 :: rest)) = none := by
        have hhead : ∃ tail, joinComma (g :: parts) (125 :: rest) = g tail := by
          cases parts <;> exact ⟨_, rfl⟩
        obtain ⟨tail, htail⟩ := hhead
        obtain ⟨value, hvalue, rfl⟩ := hg
        rw [htail]
        exact expect_ne (by decide) (by decide)
      rw [parseValue, skipSpace_cons (by decide)]
      dsimp only
      rw [if_neg (by decide), if_neg (by decide), if_neg (by decide), if_pos rfl, hopen]
      dsimp only
      rw [hN m (by omega)]
      rfl

/-- **The tree of the encoding is the canonical value.** -/
theorem parseTree_canonical {v : Value} {bytes : List UInt8} (hv : v.WellFormed)
    (h : canonicalJsonBytesV1 v = .ok bytes) : parseTree readFloat bytes = some v.canonical := by
  simp only [canonicalJsonBytesV1, bind_eq_ok, Except.ok.injEq] at h
  obtain ⟨f, hf, rfl⟩ := h
  have hback : ReadBack readFloat v := readBack v hv
  obtain ⟨N, hN⟩ := hback f [] hf (fun b hb => (by cases hb))
  have hread := hN (max N (2 * (f []).length + 1)) (Nat.le_max_left _ _)
  rw [parseValue_stable (Nat.le_max_right _ _)] at hread
  rw [parseTree, hread]
  rfl

end Reader

/-! ### The canonical encoding -/

/-- Read a text, and put the members of every object into a map. -/
def parseJson (readFloat : List UInt8 → BitVec 64) (bytes : List UInt8) : Option Value :=
  (parseTree readFloat bytes).map Value.collect

theorem parseJson_canonical {readFloat : List UInt8 → BitVec 64} (v : JsonValue)
    {bytes : List UInt8} (h : canonicalJsonBytesV1 v = .ok bytes) :
    parseJson readFloat bytes = some v.value := by
  have htree : parseTree readFloat bytes = some v.value.canonical :=
    parseTree_canonical v.wellFormed h
  rw [parseJson, htree, Option.map_some, Value.collect_canonical v.wellFormed v.mapOrdered]

theorem canonicalJsonBytesV1_isOk {v : Value} :
    (∃ bytes, canonicalJsonBytesV1 v = .ok bytes) ↔ v.SafeNumbers := by
  rw [← writes_iff]
  simp only [canonicalJsonBytesV1, bind_eq_ok, Except.ok.injEq]
  constructor
  · rintro ⟨bytes, f, hf, -⟩
    exact ⟨f, hf⟩
  · rintro ⟨f, hf⟩
    exact ⟨f [], f, hf, rfl⟩

/-- **The canonical encoding is a canonical injective encoding.** -/
theorem canonical_encoding (readFloat : List UInt8 → BitVec 64) (v : JsonValue) :
    ((∃ bytes, canonicalJsonBytesV1 v = .ok bytes) ↔ v.value.SafeNumbers) ∧
    (∀ tree, Reordered v.value tree → tree.collect = v.value ∧
      canonicalJsonBytesV1 tree = canonicalJsonBytesV1 v) ∧
    (∀ (w : JsonValue) (bytes bytes' : List UInt8), canonicalJsonBytesV1 v = .ok bytes →
      canonicalJsonBytesV1 w = .ok bytes' → v.value ≠ w.value → bytes ≠ bytes') ∧
    (∀ bytes, canonicalJsonBytesV1 v = .ok bytes → parseJson readFloat bytes = some v.value) ∧
    (∀ bytes, canonicalJsonBytesV1 v = .ok bytes →
      ∃ tree, parseTree readFloat bytes = some tree ∧ tree.KeysIncreasing) := by
  refine ⟨canonicalJsonBytesV1_isOk, ?_, ?_, fun bytes => parseJson_canonical v, ?_⟩
  · intro tree h
    constructor
    · rw [← Value.collect_reordered h v.wellFormed, Value.collect_self v.mapOrdered]
    · show (writeCanonicalValue tree).bind _ = (writeCanonicalValue v.value).bind _
      rw [h.writes v.wellFormed]
  · intro w bytes bytes' hv hw hne heq
    have hread : parseJson readFloat bytes = some v.value := parseJson_canonical v hv
    rw [heq, parseJson_canonical w hw] at hread
    exact hne (Option.some.inj hread).symm
  · intro bytes h
    exact ⟨_, parseTree_canonical v.wellFormed h, keysIncreasing_canonical v.wellFormed⟩

/-- A character of the private use area and one that UTF-16 writes with surrogates: the byte order
of the map and the order of the encoding differ. -/
def Sample.surrogates : JsonValue where
  value := .object [(⟨[0xEE, 0x80, 0x80]⟩, .number (.posInt 2)), ("😀", .number (.posInt 1))]
  wellFormed := by
    rw [Value.WellFormed, Value.every_object]
    refine ⟨⟨by decide, by decide⟩, ?_⟩
    simp only [List.forall_mem_cons, Value.every_number]
    exact ⟨by show 2 < 2 ^ 64; decide, by show 1 < 2 ^ 64; decide, fun field h => (by cases h)⟩
  mapOrdered := by
    rw [Value.MapOrdered, Value.every_object]
    refine ⟨?_, ?_⟩
    · intro fields h
      cases h
      exact .cons (fun b hb => by rw [List.mem_singleton.mp hb]; rfl) (List.pairwise_singleton _ _)
    · simp only [List.forall_mem_cons, Value.every_number]
      exact ⟨fun fields h => (by cases h), fun fields h => (by cases h),
        fun field h => (by cases h)⟩

theorem canonical_encoding_surrogates :
    canonicalJsonBytesV1 Sample.surrogates =
      .ok (Text.bytes "\x7b\"😀\":1,\"" ++ [0xEE, 0x80, 0x80] ++ Text.bytes "\":2\x7d") ∧
    parseJson (fun _ => 0) (Text.bytes "\x7b\"😀\":1,\"" ++ [0xEE, 0x80, 0x80] ++
      Text.bytes "\":2\x7d") = some Sample.surrogates.value :=
  ⟨rfl, (canonical_encoding _ Sample.surrogates).2.2.2.1 _ rfl⟩

end Idr
