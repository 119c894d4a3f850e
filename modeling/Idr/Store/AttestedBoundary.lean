/-
Idr/Store/AttestedBoundary.lean

The attested boundary of the database: `idr_attestation_material_v7` and
`idr_hmac_sha256_v7` of migration 0007.

The orchestrator and the database compute the material of an attestation
and its MAC separately, one in Rust and one in SQL.  Both are translated
here as they stand: the material as one chain of concatenations, the MAC
with its loops over single bytes.  The two sides agree byte for byte, and
the material determines what it was built from, since no part of it but the
separators is a line feed (`attestation_agrees`).
-/
import Idr.Authority.Attestation
import Idr.Protocol.Determines

namespace Idr

/-! ### Text forms of the database -/

/-- `bigint::text` and `integer::text`, which is also how Rust displays an integer. -/
def intBytes (z : Int) : List UInt8 :=
  if z < 0 then 45 :: decimalBytes z.natAbs else decimalBytes z.natAbs

/-- The byte of a `uuid` at a position. -/
def uuidByte (u : Uuid) (i : Nat) : Nat := u.toNat / 256 ^ (15 - i) % 256

/-- `uuid::text`: two digits for each byte, and hyphens before the bytes 4, 6, 8 and 10. -/
def uuidText (u : Uuid) : Text :=
  ⟨(List.range 16).flatMap fun i =>
    (if i = 4 ∨ i = 6 ∨ i = 8 ∨ i = 10 then [45] else []) ++
      [hexDigit (uuidByte u i / 16), hexDigit (uuidByte u i % 16)]⟩

/-- `chr`, on an ASCII code. -/
def chr (code : UInt8) : Text := ⟨[code]⟩

theorem uuidByte_high (u : Uuid) (i : Nat) (hi : i < 16) :
    uuidByte u i / 16 = Uuid.nibble u (2 * i) := by
  have hexp : 31 - 2 * i = 2 * (15 - i) + 1 := by omega
  have hpow : 16 ^ (31 - 2 * i) = 256 ^ (15 - i) * 16 := by
    rw [hexp, Nat.pow_succ, Nat.pow_mul]
  rw [uuidByte, Uuid.nibble, hpow, ← Nat.div_div_eq_div_mul]
  omega

theorem uuidByte_low (u : Uuid) (i : Nat) (hi : i < 16) :
    uuidByte u i % 16 = Uuid.nibble u (2 * i + 1) := by
  have hexp : 31 - (2 * i + 1) = 2 * (15 - i) := by omega
  have hpow : 16 ^ (31 - (2 * i + 1)) = 256 ^ (15 - i) := by
    rw [hexp, Nat.pow_mul]
  rw [uuidByte, Uuid.nibble, hpow]
  omega

/-- **Both sides write identifiers alike.** -/
theorem uuidText_eq (u : Uuid) : uuidText u = u.toString := by
  have hdigits : uuidText u = ⟨(List.range 16).flatMap fun i =>
      (if i = 4 ∨ i = 6 ∨ i = 8 ∨ i = 10 then [45] else []) ++
        [hexDigit (Uuid.nibble u (2 * i)), hexDigit (Uuid.nibble u (2 * i + 1))]⟩ := by
    rw [uuidText, Text.mk.injEq]
    apply List.flatMap_congr
    intro i hi
    have hlt := List.mem_range.mp hi
    rw [uuidByte_high u i hlt, uuidByte_low u i hlt]
  rw [hdigits]
  rfl

/-! ### The material -/

/-- The arguments of the two functions that build the material. -/
structure AttestationMaterialV7 where
  trustDomain : Text
  environmentRef : Text
  purpose : Text
  attestationId : Uuid
  commandId : Uuid
  runId : Uuid
  tenantRef : Text
  preAggregateVersion : Nat
  postAggregateVersion : Nat
  commandDigest : Text
  transitionDigest : Text
  databaseTxid : Int
  backendPid : Int
  nonce : Uuid
  keyVersion : Int
  deriving DecidableEq

namespace AttestationMaterialV7

/-- The first line of the material. -/
def label : Text := "IDR-ORCHESTRATOR-ATTESTATION-V1"

/-- What the format string of `orchestrator_attestation_material_v1` is filled with. -/
def lines (self : AttestationMaterialV7) : List Text := [
  self.trustDomain,
  hexUtf8 self.environmentRef,
  self.purpose,
  self.attestationId.toString,
  self.commandId.toString,
  self.runId.toString,
  hexUtf8 self.tenantRef,
  ⟨decimalBytes self.preAggregateVersion⟩,
  ⟨decimalBytes self.postAggregateVersion⟩,
  self.commandDigest,
  self.transitionDigest,
  ⟨intBytes self.databaseTxid⟩,
  ⟨intBytes self.backendPid⟩,
  self.nonce.toString,
  ⟨intBytes self.keyVersion⟩]

/-- The arguments that `orchestrator_attestation_material_v1` refuses. -/
def Refused (self : AttestationMaterialV7) : Prop :=
  byteLen self.commandDigest ≠ 64 ∨ byteLen self.transitionDigest ≠ 64
    ∨ self.postAggregateVersion < self.preAggregateVersion

instance (self : AttestationMaterialV7) : Decidable self.Refused := by
  unfold Refused
  infer_instance

/-- `orchestrator_attestation_material_v1`. -/
def orchestratorMaterial (self : AttestationMaterialV7) :
    Except IdrRuntimeErrorV1 (List UInt8) := do
  rejectIf self.Refused .serialization
  .ok (label.bytes ++ self.lines.flatMap fun line => 10 :: line.bytes)

/-- `idr_attestation_material_v7`. -/
def idrAttestationMaterialV7 (self : AttestationMaterialV7) : List UInt8 :=
  Text.bytes <|
    label ++ chr 10
      ++ self.trustDomain ++ chr 10
      ++ encodeHex self.environmentRef.bytes ++ chr 10
      ++ self.purpose ++ chr 10
      ++ uuidText self.attestationId ++ chr 10
      ++ uuidText self.commandId ++ chr 10
      ++ uuidText self.runId ++ chr 10
      ++ encodeHex self.tenantRef.bytes ++ chr 10
      ++ ⟨intBytes self.preAggregateVersion⟩ ++ chr 10
      ++ ⟨intBytes self.postAggregateVersion⟩ ++ chr 10
      ++ self.commandDigest ++ chr 10
      ++ self.transitionDigest ++ chr 10
      ++ ⟨intBytes self.databaseTxid⟩ ++ chr 10
      ++ ⟨intBytes self.backendPid⟩ ++ chr 10
      ++ uuidText self.nonce ++ chr 10
      ++ ⟨intBytes self.keyVersion⟩

theorem intBytes_natCast (n : Nat) : intBytes (n : Int) = decimalBytes n := by
  rw [intBytes, if_neg (by omega), Int.natAbs_natCast]

theorem append_bytes (s t : Text) : (s ++ t).bytes = s.bytes ++ t.bytes := rfl

/-- One line more of the material. -/
theorem append_line (bytes : List UInt8) (line : Text) (lines : List Text) :
    (bytes ++ (line :: lines).flatMap fun line => 10 :: line.bytes) =
      bytes ++ [10] ++ line.bytes ++ lines.flatMap fun line => 10 :: line.bytes := by
  rw [List.flatMap_cons, List.append_assoc, List.append_assoc]
  rfl

/-- **Both sides build the same bytes.** -/
theorem idrAttestationMaterialV7_eq (self : AttestationMaterialV7) :
    self.idrAttestationMaterialV7 =
      label.bytes ++ self.lines.flatMap fun line => 10 :: line.bytes := by
  rw [lines]
  simp only [append_line, List.flatMap_nil, List.append_nil]
  show Text.bytes _ = _
  simp only [append_bytes, chr, uuidText_eq, hexUtf8]
  rw [intBytes_natCast self.preAggregateVersion, intBytes_natCast self.postAggregateVersion]

/-! ### What the material determines -/

/-- A text without a line feed. -/
def SingleLine (text : Text) : Prop := 10 ∉ text.bytes

theorem singleLine_encodeHex (bytes : List UInt8) : SingleLine (encodeHex bytes) := by
  have hall : ∀ n < 16, (10 : UInt8) ≠ hexDigit n := by decide
  intro hmem
  obtain ⟨byte, -, hdigit⟩ := List.mem_flatMap.mp hmem
  have hlt := byte.toNat_lt
  rcases List.mem_cons.mp hdigit with heq | hdigit
  · exact hall _ (by omega) heq
  · exact hall _ (by omega) (List.mem_singleton.mp hdigit)

theorem singleLine_toString (u : Uuid) : SingleLine u.toString := by
  have hall : ∀ n < 16, (10 : UInt8) ≠ hexDigit n := by decide
  intro hmem
  rw [← uuidText_eq] at hmem
  obtain ⟨i, -, hdigit⟩ := List.mem_flatMap.mp hmem
  rcases List.mem_append.mp hdigit with hhyphen | hdigit
  · split at hhyphen
    · exact absurd (List.mem_singleton.mp hhyphen) (by decide)
    · cases hhyphen
  · have hbyte : uuidByte u i < 256 := Nat.mod_lt _ (by decide)
    rcases List.mem_cons.mp hdigit with heq | hdigit
    · exact hall _ (by omega) heq
    · exact hall _ (by omega) (List.mem_singleton.mp hdigit)

theorem singleLine_decimalBytes (n : Nat) : SingleLine ⟨decimalBytes n⟩ := by
  intro hmem
  exact absurd (isDigitByte_of_mem hmem) (by decide)

theorem singleLine_intBytes (z : Int) : SingleLine ⟨intBytes z⟩ := by
  intro hmem
  change 10 ∈ intBytes z at hmem
  unfold intBytes at hmem
  split at hmem
  · rcases List.mem_cons.mp hmem with heq | hmem
    · exact absurd heq (by decide)
    · exact singleLine_decimalBytes _ hmem
  · exact singleLine_decimalBytes _ hmem

theorem intBytes_injective {y z : Int} (h : intBytes y = intBytes z) : y = z := by
  have hsign : ∀ {n : Nat} {rest : List UInt8}, decimalBytes n = 45 :: rest → False := by
    intro n rest heq
    have hmem : (45 : UInt8) ∈ decimalBytes n := heq ▸ List.mem_cons_self
    exact absurd (isDigitByte_of_mem hmem) (by decide)
  unfold intBytes at h
  split at h <;> split at h
  · have habs := decimalBytes_injective (List.cons.inj h).2
    omega
  · exact (hsign h.symm).elim
  · exact (hsign h).elim
  · have habs := decimalBytes_injective h
    omega

/-- A line ends at the first line feed. -/
theorem line_injective {as bs rest rest' : List UInt8} (ha : 10 ∉ as) (hb : 10 ∉ bs)
    (hrest : rest = [] ∨ rest.head? = some 10) (hrest' : rest' = [] ∨ rest'.head? = some 10)
    (h : as ++ rest = bs ++ rest') : as = bs ∧ rest = rest' := by
  have htake : ∀ {cs tail : List UInt8}, 10 ∉ cs → (tail = [] ∨ tail.head? = some 10) →
      (cs ++ tail).takeWhile (· != 10) = cs := by
    intro cs tail hcs htail
    have hpos : ∀ c ∈ cs, (c != 10) = true := by
      intro c hc
      rw [bne_iff_ne]
      rintro rfl
      exact hcs hc
    rw [List.takeWhile_append_of_pos hpos]
    rcases tail with _ | ⟨c, tail⟩
    · rw [List.takeWhile_nil, List.append_nil]
    · rcases htail with htail | htail
      · cases htail
      · cases htail
        rw [List.takeWhile_cons_of_neg (by decide), List.append_nil]
  have heq : as = bs := by
    rw [← htake ha hrest, h, htake hb hrest']
  subst heq
  exact ⟨rfl, List.append_cancel_left h⟩

/-- Lines are read back from their concatenation. -/
theorem lines_injective {as bs : List Text} (ha : ∀ a ∈ as, SingleLine a)
    (hb : ∀ b ∈ bs, SingleLine b)
    (h : (as.flatMap fun line => 10 :: line.bytes) = bs.flatMap fun line => 10 :: line.bytes) :
    as = bs := by
  have hhead : ∀ cs : List Text, (cs.flatMap fun line => 10 :: line.bytes) = [] ∨
      (cs.flatMap fun line => 10 :: line.bytes).head? = some 10 := by
    intro cs
    cases cs with
    | nil => exact .inl rfl
    | cons c cs => exact .inr rfl
  induction as generalizing bs with
  | nil =>
    cases bs with
    | nil => rfl
    | cons b bs => cases h
  | cons a as ih =>
    cases bs with
    | nil => cases h
    | cons b bs =>
      rw [List.flatMap_cons, List.flatMap_cons, List.cons_append, List.cons_append,
        List.cons.injEq] at h
      obtain ⟨hline, hrest⟩ := line_injective (ha a List.mem_cons_self) (hb b List.mem_cons_self)
        (hhead as) (hhead bs) h.2
      obtain ⟨as'⟩ := a
      obtain ⟨bs'⟩ := b
      obtain rfl : as' = bs' := hline
      rw [ih (fun a ha' => ha a (List.mem_cons_of_mem _ ha'))
        (fun b hb' => hb b (List.mem_cons_of_mem _ hb')) hrest]

/-- A hexadecimal digit, in either case. -/
def isHexByte (b : UInt8) : Bool := (Uuid.parseNibble b).isSome

/-- Arguments as they are meant: domain and purpose are single lines, and digests hexadecimal. -/
structure Attestable (args : AttestationMaterialV7) : Prop where
  trustDomain : SingleLine args.trustDomain
  purpose : SingleLine args.purpose
  commandDigest : args.commandDigest.bytes.all isHexByte = true
  transitionDigest : args.transitionDigest.bytes.all isHexByte = true

theorem singleLine_of_hex {text : Text} (h : text.bytes.all isHexByte = true) :
    SingleLine text := by
  intro hmem
  exact absurd (List.all_eq_true.mp h _ hmem) (by decide)

theorem Attestable.lines {args : AttestationMaterialV7} (h : args.Attestable) :
    ∀ line ∈ args.lines, SingleLine line := by
  intro line hline
  simp only [AttestationMaterialV7.lines, List.mem_cons, List.not_mem_nil, or_false] at hline
  rcases hline with rfl | rfl | rfl | rfl | rfl | rfl | rfl | rfl | rfl | rfl | rfl | rfl | rfl |
    rfl | rfl
  · exact h.trustDomain
  · exact singleLine_encodeHex _
  · exact h.purpose
  · exact singleLine_toString _
  · exact singleLine_toString _
  · exact singleLine_toString _
  · exact singleLine_encodeHex _
  · exact singleLine_decimalBytes _
  · exact singleLine_decimalBytes _
  · exact singleLine_of_hex h.commandDigest
  · exact singleLine_of_hex h.transitionDigest
  · exact singleLine_intBytes _
  · exact singleLine_intBytes _
  · exact singleLine_toString _
  · exact singleLine_intBytes _

theorem hexUtf8_injective {s t : Text} (h : hexUtf8 s = hexUtf8 t) : s = t := by
  obtain ⟨as⟩ := s
  obtain ⟨bs⟩ := t
  exact congrArg Text.mk (encodeHex_injective h)

/-- **The material determines its arguments.** -/
theorem idrAttestationMaterialV7_injective {a b : AttestationMaterialV7} (ha : a.Attestable)
    (hb : b.Attestable) (h : a.idrAttestationMaterialV7 = b.idrAttestationMaterialV7) : a = b := by
  rw [idrAttestationMaterialV7_eq, idrAttestationMaterialV7_eq] at h
  have hlines := lines_injective ha.lines hb.lines (List.append_cancel_left h)
  simp only [lines, List.cons.injEq, Text.mk.injEq, and_true] at hlines
  obtain ⟨hdomain, henvironment, hpurpose, hattestation, hcommand, hrun, htenant, hpre, hpost,
    hcommandDigest, htransitionDigest, htxid, hpid, hnonce, hkey⟩ := hlines
  cases a
  rw [AttestationMaterialV7.mk.injEq]
  exact ⟨hdomain, hexUtf8_injective henvironment, hpurpose, Uuid.toString_injective hattestation,
    Uuid.toString_injective hcommand, Uuid.toString_injective hrun, hexUtf8_injective htenant,
    decimalBytes_injective hpre, decimalBytes_injective hpost, hcommandDigest, htransitionDigest,
    intBytes_injective htxid, intBytes_injective hpid, Uuid.toString_injective hnonce,
    intBytes_injective hkey⟩

end AttestationMaterialV7

/-- The arguments that an attestation row stands for. -/
def AttestationRow.material (row : AttestationRow) : AttestationMaterialV7 where
  trustDomain := row.trustDomain.wireName
  environmentRef := row.environmentRef.asStr
  purpose := row.purpose.wireName
  attestationId := row.attestationId
  commandId := row.commandId
  runId := row.runId
  tenantRef := row.tenantRef
  preAggregateVersion := row.preAggregateVersion
  postAggregateVersion := row.postAggregateVersion
  commandDigest := row.commandDigest
  transitionDigest := row.transitionDigest
  databaseTxid := row.databaseTxid
  backendPid := row.backendPid
  nonce := row.nonce
  keyVersion := row.keyVersion

/-- The material of an attestation row is that of its arguments. -/
theorem orchestratorAttestationMaterialV1_eq (row : AttestationRow) :
    orchestratorAttestationMaterialV1 row = row.material.orchestratorMaterial := by
  have hlines : row.materialLines = row.material.lines := by
    simp only [AttestationRow.materialLines, AttestationMaterialV7.lines, AttestationRow.material,
      AttestationMaterialV7.intBytes_natCast]
  rw [orchestratorAttestationMaterialV1, AttestationMaterialV7.orchestratorMaterial, hlines]
  rfl

/-- The arguments of a row are as they are meant when its digests are hexadecimal. -/
theorem AttestationRow.attestable {row : AttestationRow}
    (hcommand : row.commandDigest.bytes.all AttestationMaterialV7.isHexByte = true)
    (htransition : row.transitionDigest.bytes.all AttestationMaterialV7.isHexByte = true) :
    row.material.Attestable where
  trustDomain := by
    show 10 ∉ row.trustDomain.wireName.bytes
    cases row.trustDomain <;> decide
  purpose := by
    show 10 ∉ row.purpose.wireName.bytes
    cases row.purpose <;> decide
  commandDigest := hcommand
  transitionDigest := htransition

/-! ### The MAC -/

/-- `get_byte`. -/
def getByte (bytes : List UInt8) (index : Nat) : Option UInt8 := bytes[index]?

/-- `set_byte`. -/
def setByte (bytes : List UInt8) (index : Nat) (byte : UInt8) : Option (List UInt8) :=
  if index < bytes.length then some (bytes.set index byte) else none

/-- The first loop of `idr_hmac_sha256_v7`: the key is copied into the block. -/
def copyKey (normalizedKey : List UInt8) : Option (List UInt8) :=
  (List.range normalizedKey.length).foldlM
    (fun keyBlock index => do
      let byte ← getByte normalizedKey index
      setByte keyBlock index byte)
    (List.replicate 64 0)

/-- A pad is combined with the key at one position. -/
def padByte (keyBlock pad : List UInt8) (index : Nat) : Option (List UInt8) := do
  let byte ← getByte pad index
  let key ← getByte keyBlock index
  setByte pad index (byte ^^^ key)

/-- The second loop of `idr_hmac_sha256_v7`: both pads are combined with the key. -/
def padKey (keyBlock : List UInt8) : Option (List UInt8 × List UInt8) :=
  (List.range 64).foldlM
    (fun pads index => do
      let innerPad ← padByte keyBlock pads.1 index
      let outerPad ← padByte keyBlock pads.2 index
      some (innerPad, outerPad))
    (List.replicate 64 0x36, List.replicate 64 0x5c)

/-- `idr_hmac_sha256_v7`. -/
def idrHmacSha256V7 [Crypto] (keyBytes payload : List UInt8) : Option (List UInt8) := do
  let normalizedKey := if keyBytes.length > 64 then (Crypto.sha256 keyBytes).toList else keyBytes
  let keyBlock ← copyKey normalizedKey
  let (innerPad, outerPad) ← padKey keyBlock
  some (Crypto.sha256 (outerPad ++ (Crypto.sha256 (innerPad ++ payload)).toList)).toList

/-! The loops write a list from its front: after `n` turns, the first `n` bytes are the new ones. -/

/-- The list with its first `n` entries taken from another. -/
def overwritten (n : Nat) (new old : List UInt8) : List UInt8 := new.take n ++ old.drop n

theorem overwritten_getElem {n : Nat} {new old : List UInt8} (hnew : n < new.length) :
    (overwritten n new old)[n]? = old[n]? := by
  rw [overwritten, List.getElem?_append_right (by simp), List.length_take,
    Nat.min_eq_left (Nat.le_of_lt hnew), Nat.sub_self, List.getElem?_drop, Nat.add_zero]

/-- One turn writes the next byte. -/
theorem setByte_overwritten {n : Nat} {new old : List UInt8} {byte : UInt8}
    (hbyte : new[n]? = some byte) (hlength : new.length ≤ old.length) :
    setByte (overwritten n new old) n byte = some (overwritten (n + 1) new old) := by
  obtain ⟨hlt, hget⟩ := List.getElem?_eq_some_iff.mp hbyte
  have hinside : n < (overwritten n new old).length := by
    rw [overwritten, List.length_append, List.length_take, List.length_drop]
    omega
  rw [setByte, if_pos hinside, Option.some.injEq, overwritten, overwritten,
    List.set_append_right _ _ (by simp), List.length_take, Nat.min_eq_left (Nat.le_of_lt hlt),
    Nat.sub_self, List.take_succ_eq_append_getElem hlt, hget, List.append_assoc,
    List.drop_eq_getElem_cons (by omega)]
  rfl

/-- The key block is the key, padded with zeros. -/
theorem copyKey_eq {key : List UInt8} (hkey : key.length ≤ 64) :
    copyKey key = some (key ++ List.replicate (64 - key.length) 0) := by
  have hturns : ∀ n ≤ key.length, (List.range n).foldlM
      (fun keyBlock index => do
        let byte ← getByte key index
        setByte keyBlock index byte)
      (List.replicate 64 0) = some (overwritten n key (List.replicate 64 0)) := by
    intro n
    induction n with
    | zero =>
      intro _
      rfl
    | succ n ih =>
      intro hn
      have hbyte : key[n]? = some key[n] := List.getElem?_eq_getElem hn
      have hlength : key.length ≤ (List.replicate 64 (0 : UInt8)).length := by simpa using hkey
      have hwritten := setByte_overwritten hbyte hlength
      rw [List.range_succ, List.foldlM_append, ih (Nat.le_of_lt hn)]
      simp only [List.foldlM_cons, List.foldlM_nil, Option.bind_eq_bind, Option.bind_some, getByte,
        hbyte, hwritten]
      rfl
  rw [copyKey, hturns key.length (Nat.le_refl _), overwritten, List.take_length,
    List.drop_replicate]

/-- The pads are combined with the whole block. -/
theorem padKey_eq {keyBlock : List UInt8} (hblock : keyBlock.length = 64) :
    padKey keyBlock = some (keyBlock.map (0x36 ^^^ ·), keyBlock.map (0x5c ^^^ ·)) := by
  -- one turn, for either pad
  have hturn : ∀ (start : UInt8) (n : Nat), n < 64 →
      padByte keyBlock (overwritten n (keyBlock.map (start ^^^ ·)) (List.replicate 64 start)) n =
        some (overwritten (n + 1) (keyBlock.map (start ^^^ ·)) (List.replicate 64 start)) := by
    intro start n hn
    have hkey : keyBlock[n]? = some keyBlock[n] := List.getElem?_eq_getElem (by omega)
    have hnew : (keyBlock.map (start ^^^ ·))[n]? = some (start ^^^ keyBlock[n]) := by
      rw [List.getElem?_map, hkey]
      rfl
    have hold : (overwritten n (keyBlock.map (start ^^^ ·)) (List.replicate 64 start))[n]? =
        some start := by
      rw [overwritten_getElem (by simpa [hblock] using hn),
        List.getElem?_replicate, if_pos hn]
    show (getByte _ n).bind _ = _
    rw [getByte, hold]
    show (getByte keyBlock n).bind _ = _
    rw [getByte, hkey]
    exact setByte_overwritten hnew (by simp [hblock])
  have hturns : ∀ n ≤ 64, (List.range n).foldlM
      (fun pads index => do
        let innerPad ← padByte keyBlock pads.1 index
        let outerPad ← padByte keyBlock pads.2 index
        some (innerPad, outerPad))
      (List.replicate 64 0x36, List.replicate 64 0x5c) =
        some (overwritten n (keyBlock.map (0x36 ^^^ ·)) (List.replicate 64 0x36),
          overwritten n (keyBlock.map (0x5c ^^^ ·)) (List.replicate 64 0x5c)) := by
    intro n
    induction n with
    | zero =>
      intro _
      rfl
    | succ n ih =>
      intro hn
      rw [List.range_succ, List.foldlM_append, ih (by omega)]
      simp only [List.foldlM_cons, List.foldlM_nil, Option.bind_eq_bind, Option.bind_some,
        hturn _ n hn]
      rfl
  have hall : ∀ start : UInt8,
      overwritten 64 (keyBlock.map (start ^^^ ·)) (List.replicate 64 start) =
        keyBlock.map (start ^^^ ·) := by
    intro start
    rw [overwritten, List.take_of_length_le (by simp [hblock]), List.drop_of_length_le (by simp),
      List.append_nil]
  rw [padKey, hturns 64 (Nat.le_refl _), hall, hall]

section

variable [Crypto]

/-- **Both sides compute the same MAC**, the orchestrator in hexadecimal form. -/
theorem idrHmacSha256V7_eq (o : PostgresIdrOrchestratorV1) (payload : List UInt8)
    (hkey : o.attestationKey.length = 32) :
    (idrHmacSha256V7 o.attestationKey payload).map encodeHex = some (o.mac payload) := by
  have hblock : (o.attestationKey ++ List.replicate (64 - o.attestationKey.length) 0).length =
      64 := by
    rw [List.length_append, List.length_replicate, hkey]
  rw [idrHmacSha256V7, if_neg (by omega), copyKey_eq (by omega)]
  show ((padKey _).bind _).map encodeHex = _
  rw [padKey_eq hblock]
  rfl

/-- **Rust and SQL agree on attestations.**  The orchestrator builds exactly the bytes that the
database builds, where it does not refuse the arguments; these bytes determine the arguments, for
domains and purposes of one line and hexadecimal digests; and both sides compute the same MAC. -/
theorem attestation_agrees :
    (∀ args : AttestationMaterialV7, args.orchestratorMaterial =
      if args.Refused then .error .serialization else .ok args.idrAttestationMaterialV7) ∧
    (∀ args args' : AttestationMaterialV7, args.Attestable → args'.Attestable →
      args.idrAttestationMaterialV7 = args'.idrAttestationMaterialV7 → args = args') ∧
    (∀ (o : PostgresIdrOrchestratorV1) (payload : List UInt8), o.attestationKey.length = 32 →
      (idrHmacSha256V7 o.attestationKey payload).map encodeHex = some (o.mac payload)) := by
  refine ⟨?_, ?_, ?_⟩
  · intro args
    rw [AttestationMaterialV7.orchestratorMaterial, args.idrAttestationMaterialV7_eq, rejectIf]
    split <;> rfl
  · intro args args' h h' heq
    exact AttestationMaterialV7.idrAttestationMaterialV7_injective h h' heq
  · exact idrHmacSha256V7_eq

end

namespace Sample

def attestedRef : ReferenceV1 := ⟨"environment:test", by decide +kernel⟩

def attestedDigest : Text := "0123456789abcdef0123456789abcdef0123456789abcdef0123456789abcdef"

def attestation (nonce : Uuid) : AttestationRow where
  attestationId := 1
  trustDomain := .shadow
  environmentRef := attestedRef
  purpose := .commandTransition
  commandId := 2
  runId := 3
  tenantRef := "tenant:test"
  preAggregateVersion := 0
  postAggregateVersion := 1
  commandDigest := attestedDigest
  transitionDigest := attestedDigest
  databaseTxid := 4
  backendPid := 5
  nonce := nonce
  keyVersion := 1
  mac := attestedDigest

def attestingOrchestrator : PostgresIdrOrchestratorV1 where
  trustDomain := .shadow
  environmentRef := attestedRef
  audienceRef := attestedRef
  expectedIssuers := []
  attestationKey := List.replicate 32 7
  attestationKeyVersion := 1

theorem attestedDigest_hex :
    attestedDigest.bytes.all AttestationMaterialV7.isHexByte = true := by
  decide +kernel

theorem attestation_attestable (nonce : Uuid) : (attestation nonce).material.Attestable :=
  AttestationRow.attestable attestedDigest_hex attestedDigest_hex

end Sample

/-- Two sample attestations, which differ in their nonce: the orchestrator builds the material of
the database, the two materials differ, and both sides compute the same MAC. -/
theorem attestation_agrees_sample : let _ := Sample.crypto
    orchestratorAttestationMaterialV1 (Sample.attestation 6) =
      .ok (Sample.attestation 6).material.idrAttestationMaterialV7 ∧
    (Sample.attestation 6).material.idrAttestationMaterialV7 ≠
      (Sample.attestation 7).material.idrAttestationMaterialV7 ∧
    (idrHmacSha256V7 Sample.attestingOrchestrator.attestationKey
        (Sample.attestation 6).material.idrAttestationMaterialV7).map encodeHex =
      some (Sample.attestingOrchestrator.mac
        (Sample.attestation 6).material.idrAttestationMaterialV7) := by
  intro crypto
  obtain ⟨hmaterial, hinjective, hmac⟩ := attestation_agrees
  refine ⟨?_, ?_, hmac _ _ (by decide)⟩
  · rw [orchestratorAttestationMaterialV1_eq, hmaterial, if_neg (by decide)]
  · intro hsame
    have heq := hinjective _ _ (Sample.attestation_attestable 6) (Sample.attestation_attestable 7)
      hsame
    exact absurd (congrArg AttestationMaterialV7.nonce heq) (by decide)

end Idr
