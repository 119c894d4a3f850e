/-
Idr/Protocol/Agreement.lean

Where the three signing encoders agree.

Within its limits each foreign encoder gives the text of the value
(`Language.encode_eq_ok`), and the texts of the two languages are the bytes
of `canonical_json_bytes_v1` (`written_python`, `text_typescript`): they
quote alike, and their key orders are all the order of the code units.

They do not agree on the limits.  `validate` applies them to the assertion;
the foreign encoders apply the same numbers to the pair that is signed, in
which the assertion is two levels down and has 24 nodes beside it.  So claims
are accepted and signed here that the other languages refuse to encode:
exactly those with an assertion of more than 30 levels or 9976 nodes
(`encodersAgree_iff`).
-/
import Idr.Protocol.Languages
import Idr.Protocol.RoundTrip
import Idr.Protocol.Production

namespace Idr

/-! ### Within the limits -/

namespace Language

variable (L : Language)

mutual

/-- The text of a value with safe integers. -/
def text : Value → List Nat
  | .null => [110, 117, 108, 108]
  | .bool true => [116, 114, 117, 101]
  | .bool false => [102, 97, 108, 115, 101]
  | .string s => L.quote (L.chars s)
  | .number n => decimalChars (n.toInt.getD 0)
  | .array values => 91 :: joinChars (textValues values) ++ [93]
  | .object fields =>
    let entries := (textFields fields).insertionSort (fun a b => L.keyLe a b)
    123 :: joinChars (entries.map fun e => L.entry e.1 e.2) ++ [125]

def textValues : List Value → List (List Nat)
  | [] => []
  | v :: vs => text v :: textValues vs

def textFields : List (Text × Value) → List (List Nat × List Nat)
  | [] => []
  | (key, v) :: fields => (L.chars key, text v) :: textFields fields

end

theorem textValues_eq (values : List Value) : L.textValues values = values.map L.text := by
  induction values with
  | nil => rfl
  | cons v vs ih => rw [textValues, ih, List.map_cons]

theorem textFields_eq (fields : List (Text × Value)) :
    L.textFields fields = fields.map fun field => (L.chars field.1, L.text field.2) := by
  induction fields with
  | nil => rfl
  | cons field fields ih =>
    obtain ⟨key, v⟩ := field
    rw [textFields, ih, List.map_cons]

theorem encodeFields_eq (fields : List (Text × Value)) (depth : Nat) :
    L.encodeFields fields depth =
      fields.map fun field => (L.chars field.1, L.encode field.2 depth) := by
  induction fields with
  | nil => rw [encodeFields]; rfl
  | cons field fields ih =>
    obtain ⟨key, v⟩ := field
    rw [encodeFields, ih, List.map_cons]

/-- Fields in the order in which the language writes them. -/
def sortedFields (fields : List (Text × Value)) : List (Text × Value) :=
  fields.insertionSort fun a b => L.keyLe (L.chars a.1, a.2) (L.chars b.1, b.2)

/-- Sorting looks at the keys only. -/
theorem insertionSort_map {β : Type} (f : Value → β) (fields : List (Text × Value)) :
    (fields.map fun field => (L.chars field.1, f field.2)).insertionSort (fun a b => L.keyLe a b) =
      (L.sortedFields fields).map fun field => (L.chars field.1, f field.2) :=
  (List.map_insertionSort (r := fun a b : Text × Value => L.keyLe (L.chars a.1, a.2)
    (L.chars b.1, b.2))
    (s := fun a b : List Nat × β => L.keyLe a b) _ fields fun _ _ _ _ => Iff.rfl).symm

theorem sortedFields_perm (fields : List (Text × Value)) : (L.sortedFields fields).Perm fields :=
  List.perm_insertionSort _ fields

/-- The language takes safe integers for what they are. -/
def TakesIntegers : Prop :=
  ∀ (n : Number) (z : Int), n.IsSafeInteger → n.toInt = some z → L.integer n = .ok z

/-- What the encoder gives for a value, and when. -/
def EncodesWithin (v : Value) : Prop :=
  ∀ depth nodes out nodes', L.encode v depth nodes = .ok (out, nodes') ↔
    depth + v.height ≤ 33 ∧ nodes + v.nodes ≤ 10000 ∧ out = L.text v ∧ nodes' = nodes + v.nodes

variable {L}

theorem encodeValues_eq_ok {values : List Value} (h : ∀ v ∈ values, L.EncodesWithin v)
    (depth : Nat) : ∀ nodes outs nodes', nodes ≤ 10000 →
      (L.encodeValues values depth nodes = .ok (outs, nodes') ↔
        (∀ v ∈ values, depth + v.height ≤ 33) ∧ nodes + (values.map Value.nodes).sum ≤ 10000 ∧
          outs = values.map L.text ∧ nodes' = nodes + (values.map Value.nodes).sum) := by
  induction values with
  | nil =>
    intro nodes outs nodes' hle
    rw [encodeValues]
    simp only [Except.ok.injEq, Prod.mk.injEq, List.map_nil, List.sum_nil, Nat.add_zero]
    constructor
    · rintro ⟨rfl, rfl⟩
      exact ⟨fun v hv => (by cases hv), hle, rfl, rfl⟩
    · rintro ⟨-, -, rfl, rfl⟩
      exact ⟨rfl, rfl⟩
  | cons v vs ih =>
    intro nodes outs nodes' hle
    rw [List.forall_mem_cons] at h
    rw [encodeValues, List.forall_mem_cons, List.map_cons, List.map_cons, List.sum_cons]
    simp only [bind_eq_ok, Prod.exists, Except.ok.injEq, Prod.mk.injEq]
    constructor
    · rintro ⟨part, nodes₁, hpart, parts, nodes₂, hparts, rfl, rfl⟩
      obtain ⟨hdepth, hnodes, rfl, rfl⟩ := (h.1 _ _ _ _).mp hpart
      obtain ⟨hdepths, hsum, rfl, rfl⟩ := (ih h.2 _ _ _ hnodes).mp hparts
      exact ⟨⟨hdepth, hdepths⟩, by omega, rfl, by omega⟩
    · rintro ⟨⟨hdepth, hdepths⟩, hsum, rfl, rfl⟩
      have hnodes : nodes + v.nodes ≤ 10000 := by omega
      exact ⟨_, _, (h.1 _ _ _ _).mpr ⟨hdepth, hnodes, rfl, rfl⟩, _, _,
        (ih h.2 _ _ _ hnodes).mpr ⟨hdepths, by omega, rfl, rfl⟩, rfl, by omega⟩

theorem encodeEntries_eq_ok {fields : List (Text × Value)}
    (h : ∀ field ∈ fields, L.EncodesWithin field.2) (depth : Nat) :
    ∀ nodes outs nodes', nodes ≤ 10000 →
      (L.encodeEntries (fields.map fun field => (L.chars field.1, L.encode field.2 depth)) nodes =
          .ok (outs, nodes') ↔
        (∀ field ∈ fields, depth + field.2.height ≤ 33) ∧
          nodes + (fields.map fun field => field.2.nodes).sum ≤ 10000 ∧
          outs = (fields.map fun field => L.entry (L.chars field.1) (L.text field.2)) ∧
          nodes' = nodes + (fields.map fun field => field.2.nodes).sum) := by
  induction fields with
  | nil =>
    intro nodes outs nodes' hle
    rw [List.map_nil, encodeEntries]
    simp only [Except.ok.injEq, Prod.mk.injEq, List.map_nil, List.sum_nil, Nat.add_zero]
    constructor
    · rintro ⟨rfl, rfl⟩
      exact ⟨fun v hv => (by cases hv), hle, rfl, rfl⟩
    · rintro ⟨-, -, rfl, rfl⟩
      exact ⟨rfl, rfl⟩
  | cons field fields ih =>
    intro nodes outs nodes' hle
    rw [List.forall_mem_cons] at h
    rw [List.map_cons, encodeEntries, List.forall_mem_cons, List.map_cons, List.map_cons,
      List.sum_cons]
    simp only [bind_eq_ok, Prod.exists, Except.ok.injEq, Prod.mk.injEq]
    constructor
    · rintro ⟨part, nodes₁, hpart, parts, nodes₂, hparts, rfl, rfl⟩
      obtain ⟨hdepth, hnodes, rfl, rfl⟩ := (h.1 _ _ _ _).mp hpart
      obtain ⟨hdepths, hsum, rfl, rfl⟩ := (ih h.2 _ _ _ hnodes).mp hparts
      exact ⟨⟨hdepth, hdepths⟩, by omega, rfl, by omega⟩
    · rintro ⟨⟨hdepth, hdepths⟩, hsum, rfl, rfl⟩
      have hnodes : nodes + field.2.nodes ≤ 10000 := by omega
      exact ⟨_, _, (h.1 _ _ _ _).mpr ⟨hdepth, hnodes, rfl, rfl⟩, _, _,
        (ih h.2 _ _ _ hnodes).mpr ⟨hdepths, by omega, rfl, rfl⟩, rfl, by omega⟩

/-- **Within its limits an encoder gives the text of the value**, and it fails beyond them. -/
theorem encode_eq_ok (hL : L.TakesIntegers) (v : Value) (hsafe : v.SafeNumbers) :
    L.EncodesWithin v := by
  -- a value without parts is one node on one level
  have hleaf :
      ∀ {v : Value} {out : List Nat} {depth nodes : Nat} {result : Except Text (List Nat × Nat)},
      v.height = 1 → v.nodes = 1 → out = L.text v → result = .ok (out, nodes + 1) →
      ∀ out' nodes', ((if depth > 32 ∨ nodes + 1 > 10000 then
          .error "canonical JSON resource limit" else result) = .ok (out', nodes') ↔
        depth + v.height ≤ 33 ∧ nodes + v.nodes ≤ 10000 ∧ out' = L.text v ∧
          nodes' = nodes + v.nodes) := by
    intro v out depth nodes result hheight hnodes htext hresult out' nodes'
    rw [hheight, hnodes, ← htext, hresult]
    split
    · rename_i hlimit
      refine ⟨fun h => (by cases h), ?_⟩
      rintro ⟨hdepth, hcount, -⟩
      omega
    · rename_i hlimit
      simp only [Except.ok.injEq, Prod.mk.injEq]
      constructor
      · rintro ⟨rfl, rfl⟩
        exact ⟨by omega, by omega, rfl, rfl⟩
      · rintro ⟨-, -, rfl, rfl⟩
        exact ⟨rfl, rfl⟩
  induction v using Value.induction with
  | hnull =>
    intro depth nodes
    unfold encode
    exact hleaf rfl rfl rfl rfl
  | hbool b =>
    intro depth nodes
    unfold encode
    cases b <;> exact hleaf rfl rfl rfl rfl
  | hstring s =>
    intro depth nodes
    unfold encode
    exact hleaf rfl rfl rfl rfl
  | hnumber n =>
    intro depth nodes
    obtain ⟨z, hz, hbounds⟩ := Value.every_number.mp hsafe n rfl
    unfold encode
    refine hleaf rfl rfl rfl ?_
    dsimp only
    rw [hL n z ⟨z, hz, hbounds⟩ hz, text, hz]
    rfl
  | harray values ih =>
    have hall := (Value.every_array.mp hsafe).2
    intro depth nodes out nodes'
    unfold encode
    split
    · rename_i hlimit
      refine ⟨fun h => (by cases h), ?_⟩
      rintro ⟨hdepth, hcount, -⟩
      have hheight := (Value.array values).height_pos
      have hnodes := (Value.array values).nodes_pos
      omega
    · rename_i hlimit
      have hvalues := encodeValues_eq_ok (fun v hv => ih v hv (hall v hv)) (depth + 1) (nodes + 1)
      have hheight : depth + (Value.array values).height ≤ 33 ↔
          ∀ v ∈ values, depth + 1 + v.height ≤ 33 := by
        have hbound := Value.height_array values (32 - depth)
        constructor
        · intro h v hv
          have hle := hbound.mp (by omega) v hv
          omega
        · intro h
          have hle := hbound.mpr fun v hv => by
            have hle := h v hv
            omega
          omega
      rw [hheight, Value.nodes, Value.nodesValues_eq, text, textValues_eq]
      simp only [bind_eq_ok, Prod.exists, Except.ok.injEq, Prod.mk.injEq]
      constructor
      · rintro ⟨parts, nodes₁, hparts, rfl, rfl⟩
        obtain ⟨hdepth, hsum, rfl, rfl⟩ := (hvalues _ _ (by omega)).mp hparts
        exact ⟨hdepth, by omega, rfl, by omega⟩
      · rintro ⟨hdepth, hsum, rfl, rfl⟩
        exact ⟨_, _, (hvalues _ _ (by omega)).mpr ⟨hdepth, by omega, rfl, rfl⟩, rfl, by omega⟩
  | hobject fields ih =>
    have hall := (Value.every_object.mp hsafe).2
    intro depth nodes out nodes'
    unfold encode
    split
    · rename_i hlimit
      refine ⟨fun h => (by cases h), ?_⟩
      rintro ⟨hdepth, hcount, -⟩
      have hheight := (Value.object fields).height_pos
      have hnodes := (Value.object fields).nodes_pos
      omega
    · rename_i hlimit
      have hperm := L.sortedFields_perm fields
      have hwithin : ∀ field ∈ L.sortedFields fields, L.EncodesWithin field.2 := fun field hfield =>
        ih field (hperm.mem_iff.mp hfield) (hall field (hperm.mem_iff.mp hfield))
      have hentries := encodeEntries_eq_ok hwithin (depth + 1) (nodes + 1)
      have hsum : ((L.sortedFields fields).map fun field => field.2.nodes).sum =
          (fields.map fun field => field.2.nodes).sum := (hperm.map _).sum_nat
      have hheight : depth + (Value.object fields).height ≤ 33 ↔
          ∀ field ∈ L.sortedFields fields, depth + 1 + field.2.height ≤ 33 := by
        have hbound := Value.height_object fields (32 - depth)
        constructor
        · intro h field hfield
          have hle := hbound.mp (by omega) field (hperm.mem_iff.mp hfield)
          omega
        · intro h
          have hle := hbound.mpr fun field hfield => by
            have hle := h field (hperm.mem_iff.mpr hfield)
            omega
          omega
      rw [hheight, Value.nodes, Value.nodesFields_eq, text, textFields_eq, insertionSort_map,
        List.map_map]
      dsimp only
      rw [encodeFields_eq, insertionSort_map L (fun v => L.encode v (depth + 1))]
      simp only [bind_eq_ok, Prod.exists, Except.ok.injEq, Prod.mk.injEq]
      rw [hsum] at hentries
      constructor
      · rintro ⟨parts, nodes₁, hparts, rfl, rfl⟩
        obtain ⟨hdepth, hsum, rfl, rfl⟩ := (hentries _ _ (by omega)).mp hparts
        exact ⟨hdepth, by omega, rfl, by omega⟩
      · rintro ⟨hdepth, hsum, rfl, rfl⟩
        exact ⟨_, _, (hentries _ _ (by omega)).mpr ⟨hdepth, by omega, rfl, rfl⟩, rfl, by omega⟩

end Language

/-! ### Key orders -/

/-- The high and the low byte of numbers compare as the numbers do. -/
theorem compareNats_bytes (us : List Nat) : ∀ vs : List Nat,
    compareNats (us.flatMap fun u => [u / 256, u % 256]) (vs.flatMap fun u => [u / 256, u % 256]) =
      compareNats us vs := by
  induction us with
  | nil =>
    intro vs
    cases vs <;> rfl
  | cons u us ih =>
    intro vs
    cases vs with
    | nil => rfl
    | cons v vs =>
      simp only [List.flatMap_cons, List.cons_append, List.nil_append, compareNats_cons, ih]
      split_ifs <;> first | rfl | (exfalso; omega)

namespace Language

/-- The language sorts keys by their code units. -/
def SortsByUnits (L : Language) : Prop :=
  ∀ s t : Text, compareNats (L.sortKey (L.chars s)) (L.sortKey (L.chars t)) =
    compareNats (utf16Units s) (utf16Units t)

theorem sortedFields_eq {L : Language} (hL : L.SortsByUnits) (fields : List (Text × Value)) :
    L.sortedFields fields = sortFields fields := by
  have hmap := List.map_insertionSort (r := fun a b : Text × Value =>
      (L.keyLe (L.chars a.1, a.2) (L.chars b.1, b.2) : Prop))
    (s := fun a b : Text × Value => (utf16Le a.1 b.1 : Prop)) id fields
    (fun a _ b _ => by rw [keyLe, utf16Le, hL]; rfl)
  rw [List.map_id, List.map_id] at hmap
  exact hmap

end Language

theorem typescript_sorts : typescript.SortsByUnits := fun _ _ => rfl

theorem python_sorts : python.SortsByUnits := fun _ _ => compareNats_bytes _ _

theorem requireSafe_eq_ok (message : Text) {n : Number} {z : Int} (hsafe : n.IsSafeInteger)
    (hz : n.toInt = some z) : requireSafe message z = .ok z := by
  obtain ⟨z', hz', hlow, hhigh⟩ := hsafe
  rw [hz] at hz'
  cases hz'
  have hmax : idrMaxSafeWireIntegerV1 = 2 ^ 53 - 1 := by decide
  rw [requireSafe, if_pos (by rw [hmax]; omega)]

theorem typescript_integers : typescript.TakesIntegers := by
  intro n z hsafe hz
  have hok := requireSafe_eq_ok "only safe integers are allowed" hsafe hz
  cases n with
  | float bits => cases hz
  | _ => cases hz; exact hok

theorem python_integers : python.TakesIntegers := by
  intro n z hsafe hz
  have hok := requireSafe_eq_ok "integer outside safe wire range" hsafe hz
  cases n with
  | float bits => cases hz
  | _ => cases hz; exact hok

/-! ### Python writes the bytes -/

theorem writeEscaped_eq (bs rest : List UInt8) :
    writeEscaped bs rest = writeEscaped bs [] ++ rest := by
  induction bs with
  | nil => rfl
  | cons b bs ih =>
    rw [writeEscaped, writeEscaped, ih]
    cases plainByte b.toNat
    · rw [cond_false, cond_false, List.append_assoc]
    · rw [cond_true, cond_true, List.cons_append]

theorem writeEscaped_append (as bs rest : List UInt8) :
    writeEscaped (as ++ bs) rest = writeEscaped as (writeEscaped bs rest) := by
  induction as with
  | nil => rfl
  | cons a as ih => rw [List.cons_append, writeEscaped, writeEscaped, ih]

/-- Bytes beyond ASCII are written as they are. -/
theorem writeEscaped_high {bs : List UInt8} (h : ∀ b ∈ bs, 128 ≤ b.toNat) (rest : List UInt8) :
    writeEscaped bs rest = bs ++ rest := by
  induction bs with
  | nil => rfl
  | cons b bs ih =>
    rw [List.forall_mem_cons] at h
    have hplain : plainByte b.toNat = true := by
      simp only [plainByte, Bool.and_eq_true, Nat.ble_eq, Bool.not_eq_true', ← Bool.not_eq_true,
        Nat.beq_eq]
      omega
    rw [writeEscaped, hplain, cond_true, ih h.2, List.cons_append]

theorem encodeScalar_high {c : Nat} (hc : isScalar c = true) (hlow : ¬ c < 128) :
    ∀ b ∈ encodeScalar c, 128 ≤ b.toNat := by
  simp only [isScalar, Bool.or_eq_true, Bool.and_eq_true, decide_eq_true_eq] at hc
  rw [encodeScalar, if_neg hlow]
  split
  · simp only [List.forall_mem_cons, UInt8.toNat_ofNat']
    exact ⟨by omega, by omega, fun b hb => (by cases hb)⟩
  split
  · simp only [List.forall_mem_cons, UInt8.toNat_ofNat']
    exact ⟨by omega, by omega, by omega, fun b hb => (by cases hb)⟩
  · simp only [List.forall_mem_cons, UInt8.toNat_ofNat']
    exact ⟨by omega, by omega, by omega, by omega, fun b hb => (by cases hb)⟩

/-- A quoted character is the escape of its bytes. -/
theorem quoteChar_bytes {c : Nat} (hc : isScalar c = true) :
    (quoteChar c).flatMap encodeScalar = writeEscaped (encodeScalar c) [] := by
  by_cases hlow : c < 128
  · have hall : ∀ c < 128,
        (quoteChar c).flatMap encodeScalar = writeEscaped (encodeScalar c) [] := by decide +kernel
    exact hall c hlow
  · have hquote : quoteChar c = [c] := by
      unfold quoteChar
      repeat rw [if_neg (by omega)]
    rw [hquote, writeEscaped_high (encodeScalar_high hc hlow)]
    simp

theorem jsonDumps_bytes {s : Text} (hs : s.isUtf8 = true) (rest : List UInt8) :
    (jsonDumps (scalarValues s)).flatMap encodeScalar ++ rest = writeString s rest := by
  rw [Text.isUtf8, Bool.and_eq_true, beq_iff_eq, List.all_eq_true] at hs
  obtain ⟨hscalar, hbytes⟩ := hs
  have hquoted : ((scalarValues s).flatMap quoteChar).flatMap encodeScalar =
      writeEscaped s.bytes [] := by
    rw [← hbytes]
    generalize scalarValues s = cs at hscalar
    clear hbytes
    induction cs with
    | nil => rfl
    | cons c cs ih =>
      rw [List.forall_mem_cons] at hscalar
      rw [List.flatMap_cons, List.flatMap_append, quoteChar_bytes hscalar.1, ih hscalar.2,
        List.flatMap_cons, writeEscaped_append]
      exact (writeEscaped_eq (encodeScalar c) (writeEscaped (cs.flatMap encodeScalar) [])).symm
  rw [jsonDumps, writeString, writeEscaped_eq, List.flatMap_append, List.flatMap_cons, hquoted]
  simp [encodeScalar]

theorem decimalChars_bytes {n : Number} {z : Int} (hz : n.toInt = some z) (hrange : n.InRange) :
    (decimalChars z).flatMap encodeScalar = numberBytes n := by
  have hdigits : ∀ k : Nat, ((Nat.toDigits 10 k).map Char.toNat).flatMap encodeScalar =
      decimalBytes k := by
    intro k
    rw [decimalBytes, List.flatMap_map, ← List.flatMap_pure_eq_map]
    apply List.flatMap_congr
    intro c hc
    have hdigit := Nat.isDigit_of_mem_toDigits (by decide) (by decide) hc
    simp only [Char.isDigit, Bool.and_eq_true, decide_eq_true_eq] at hdigit
    have hlt : c.toNat < 128 := by
      have hle : c.toNat ≤ 57 := hdigit.2
      omega
    rw [encodeScalar, if_pos hlt]
    rfl
  cases n with
  | posInt n =>
    cases hz
    rw [decimalChars, if_neg (by omega), List.nil_append, hdigits, numberBytes]
    rfl
  | negInt z =>
    cases hz
    rw [decimalChars, if_pos hrange.2, List.flatMap_append, hdigits, numberBytes]
    rfl
  | float bits => cases hz

/-- The text is what the part writes. -/
def WritesText (text : List Nat) (part : Writer) : Prop :=
  ∀ rest, text.flatMap encodeScalar ++ rest = part rest

/-- Relate the images of a list, item by item. -/
theorem forall₂_map_of_mem {α β γ : Type} {r : α → β → Prop} {s : γ → β → Prop} {g : α → γ}
    {as : List α} {bs : List β} (h : List.Forall₂ r as bs) :
    (∀ a ∈ as, ∀ b, r a b → s (g a) b) → List.Forall₂ s (as.map g) bs := by
  induction h with
  | nil => exact fun _ => .nil
  | cons hab _ ih =>
    intro hall
    rw [List.forall_mem_cons] at hall
    exact .cons (hall.1 _ hab) (ih hall.2)

/-- Joined texts are the bytes of the joined parts. -/
theorem joinChars_bytes {texts : List (List Nat)} {parts : List Writer}
    (h : List.Forall₂ WritesText texts parts) (rest : List UInt8) :
    (joinChars texts).flatMap encodeScalar ++ rest = joinComma parts rest := by
  induction h with
  | nil => rfl
  | @cons text part texts parts hpart hparts ih =>
    cases hparts with
    | nil => exact hpart rest
    | @cons text' part' texts parts hpart' hparts =>
      rw [joinChars, List.flatMap_append, List.flatMap_cons, List.append_assoc, List.append_assoc,
        ih, hpart]
      · rfl
      · exact List.cons_ne_nil _ _

/-- **The Python text is what is written.** -/
theorem written_python (v : Value) (hv : v.WellFormed) :
    ∀ f, WrittenValue v f → ∀ rest, (python.text v).flatMap encodeScalar ++ rest = f rest := by
  induction v using Value.induction with
  | hnull =>
    intro f hf rest
    rw [hf.cases]
    rfl
  | hbool b =>
    intro f hf rest
    cases b <;> rw [hf.cases] <;> rfl
  | hstring s =>
    intro f hf rest
    rw [hf.cases]
    exact jsonDumps_bytes hv.self rest
  | hnumber n =>
    intro f hf rest
    obtain ⟨hok, rfl⟩ := hf.cases
    obtain ⟨z, hz, -⟩ := validateCanonicalNumber_eq_ok.mp hok
    rw [Language.text, hz, Option.getD_some, decimalChars_bytes hz hv.self]
  | harray values ih =>
    intro f hf rest
    obtain ⟨parts, hparts, rfl⟩ := hf.cases
    have hall := (Value.every_array.mp hv).2
    have htexts : List.Forall₂ WritesText (values.map python.text) parts :=
      forall₂_map_of_mem hparts fun v hmem f hf => ih v hmem (hall v hmem) f hf
    rw [Language.text, Language.textValues_eq, List.cons_append, List.flatMap_cons,
      List.flatMap_append, List.append_assoc, List.append_assoc]
    exact congrArg (List.cons 91) (joinChars_bytes htexts (93 :: rest))
  | hobject fields ih =>
    intro f hf rest
    obtain ⟨parts, hparts, rfl⟩ := hf.cases
    obtain ⟨⟨hutf8, -⟩, hall⟩ := Value.every_object.mp hv
    have htexts : List.Forall₂ WritesText ((sortFields fields).map fun field =>
        python.entry (python.chars field.1) (python.text field.2)) parts := by
      apply forall₂_map_of_mem hparts
      rintro field hmem _ ⟨g, hg, rfl⟩ rest
      have hmem := (sortFields_perm_self fields).mem_iff.mp hmem
      have hvalue := ih field hmem (hall field hmem) g hg rest
      show _ = writeString field.1 (58 :: g rest)
      rw [← hvalue]
      have hkey := jsonDumps_bytes (hutf8 field hmem)
        (58 :: ((python.text field.2).flatMap encodeScalar ++ rest))
      rw [← hkey, Language.entry, List.flatMap_append, List.flatMap_cons, List.append_assoc,
        List.append_assoc]
      rfl
    rw [Language.text]
    dsimp only
    rw [Language.textFields_eq, Language.insertionSort_map, Language.sortedFields_eq python_sorts,
      List.map_map, List.cons_append, List.flatMap_cons, List.flatMap_append, List.append_assoc,
      List.append_assoc]
    exact congrArg (List.cons 123) (joinChars_bytes htexts (125 :: rest))

/-! ### TypeScript writes the same text in code units -/

theorem codePoints_pair {u v c : Nat} (h : surrogatePair u v = some c) (rest : List Nat) :
    codePoints (u :: v :: rest) = c :: codePoints rest := by
  rw [codePoints, h]

theorem codePoints_single {u v : Nat} (h : surrogatePair u v = none) (rest : List Nat) :
    codePoints (u :: v :: rest) = u :: codePoints (v :: rest) := by
  rw [codePoints, h]

/-- The code points of the units of scalar values are the values. -/
theorem codePoints_units {cs : List Nat} (h : ∀ c ∈ cs, isScalar c = true) :
    codePoints (cs.flatMap scalarUnits) = cs := by
  induction cs with
  | nil => rfl
  | cons c cs ih =>
    rw [List.forall_mem_cons] at h
    have hc := h.1
    simp only [isScalar, Bool.or_eq_true, Bool.and_eq_true, decide_eq_true_eq] at hc
    rw [List.flatMap_cons, scalarUnits]
    split
    · -- a single unit is not the first of a pair
      have hsingle : ∀ v, surrogatePair c v = none := by
        intro v
        rw [surrogatePair, if_neg (by omega)]
      rw [List.cons_append, List.nil_append]
      rcases hrest : cs.flatMap scalarUnits with _ | ⟨v, rest⟩
      · rw [hrest] at ih
        rw [← ih h.2]
        rfl
      · rw [hrest] at ih
        rw [codePoints_single (hsingle v), ih h.2]
    · rename_i hpair
      have hboth : surrogatePair (0xD800 + (c - 0x10000) / 0x400) (0xDC00 + (c - 0x10000) % 0x400) =
          some c := by
        rw [surrogatePair, if_pos (by omega), Option.some_inj]
        omega
      rw [List.cons_append, List.cons_append, List.nil_append, codePoints_pair hboth, ih h.2]

/-- What is sent is the encoding of the scalar values. -/
theorem bufferFrom_units {cs : List Nat} (h : ∀ c ∈ cs, isScalar c = true) :
    bufferFrom (cs.flatMap scalarUnits) = cs.flatMap encodeScalar := by
  rw [bufferFrom, codePoints_units h]
  apply List.flatMap_congr
  intro c hc
  rw [if_pos (h c hc)]

theorem jsonStringify_units {s : Text} (hs : s.isUtf8 = true) :
    jsonStringify (utf16Units s) = (jsonDumps (scalarValues s)).flatMap scalarUnits := by
  rw [Text.isUtf8, Bool.and_eq_true, List.all_eq_true] at hs
  obtain ⟨hscalar, -⟩ := hs
  have hquoted : (scalarValues s).flatMap quoteCodePoint =
      ((scalarValues s).flatMap quoteChar).flatMap scalarUnits := by
    rw [List.flatMap_assoc]
    apply List.flatMap_congr
    intro c hc
    have hne := hscalar c hc
    simp only [isScalar, Bool.or_eq_true, Bool.and_eq_true, decide_eq_true_eq] at hne
    rw [quoteCodePoint, if_neg (by omega)]
  rw [jsonStringify, utf16Units_eq, codePoints_units hscalar, hquoted, jsonDumps,
    List.flatMap_append, List.flatMap_cons]
  rfl

theorem decimalChars_low (z : Int) : ∀ c ∈ decimalChars z, c < 128 := by
  intro c hc
  rw [decimalChars, List.mem_append] at hc
  rcases hc with hc | hc
  · split at hc
    · rw [List.mem_singleton.mp hc]
      decide
    · cases hc
  · obtain ⟨d, hd, rfl⟩ := List.mem_map.mp hc
    have hdigit := Nat.isDigit_of_mem_toDigits (by decide) (by decide) hd
    simp only [Char.isDigit, Bool.and_eq_true, decide_eq_true_eq] at hdigit
    have hle : d.toNat ≤ 57 := hdigit.2
    omega

theorem flatMap_units_low {cs : List Nat} (h : ∀ c ∈ cs, c < 128) :
    cs.flatMap scalarUnits = cs := by
  rw [List.flatMap_congr (g := fun c => [c])]
  · simp
  · intro c hc
    have hlow := h c hc
    rw [scalarUnits, if_pos (by omega)]

theorem joinChars_units (texts : List (List Nat)) :
    (joinChars texts).flatMap scalarUnits = joinChars (texts.map (List.flatMap scalarUnits)) := by
  induction texts with
  | nil => rfl
  | cons text texts ih =>
    cases texts with
    | nil => rfl
    | cons text' texts =>
      rw [joinChars, List.flatMap_append, List.flatMap_cons, ih]
      · rfl
      · exact List.cons_ne_nil _ _

/-- **The TypeScript text is the Python text**, in code units. -/
theorem text_typescript (v : Value) (hv : v.WellFormed) :
    typescript.text v = (python.text v).flatMap scalarUnits := by
  induction v using Value.induction with
  | hnull => rfl
  | hbool b => cases b <;> rfl
  | hstring s => exact jsonStringify_units hv.self
  | hnumber n => exact (flatMap_units_low (decimalChars_low _)).symm
  | harray values ih =>
    have hall := (Value.every_array.mp hv).2
    have htexts : values.map typescript.text =
        (values.map python.text).map (List.flatMap scalarUnits) := by
      rw [List.map_map]
      exact List.map_congr_left fun v hmem => ih v hmem (hall v hmem)
    rw [Language.text, Language.text, Language.textValues_eq, Language.textValues_eq, htexts,
      ← joinChars_units, List.flatMap_append, List.flatMap_cons]
    rfl
  | hobject fields ih =>
    obtain ⟨⟨hutf8, -⟩, hall⟩ := Value.every_object.mp hv
    have hentries : (sortFields fields).map (fun field =>
          typescript.entry (typescript.chars field.1) (typescript.text field.2)) =
        ((sortFields fields).map fun field =>
          python.entry (python.chars field.1) (python.text field.2)).map
            (List.flatMap scalarUnits) := by
      rw [List.map_map]
      apply List.map_congr_left
      intro field hmem
      have hmem := (sortFields_perm_self fields).mem_iff.mp hmem
      show typescript.entry _ _ = (python.entry _ _).flatMap scalarUnits
      rw [ih field hmem (hall field hmem), Language.entry, Language.entry, List.flatMap_append,
        List.flatMap_cons]
      exact congrArg (· ++ 58 :: (python.text field.2).flatMap scalarUnits)
        (jsonStringify_units (hutf8 field hmem))
    rw [Language.text, Language.text, Language.textFields_eq, Language.insertionSort_map,
      Language.sortedFields_eq typescript_sorts, Language.textFields_eq, Language.insertionSort_map,
      Language.sortedFields_eq python_sorts, List.map_map, List.map_map, List.flatMap_append,
      List.flatMap_cons, joinChars_units]
    exact congrArg (fun texts => 123 :: joinChars texts ++ [125]) hentries

/-! ### The text has scalar values only -/

theorem isScalar_low {c : Nat} (h : c < 128) : isScalar c = true := by
  simp only [isScalar, Bool.or_eq_true, decide_eq_true_eq]
  exact .inl (by omega)

theorem quoteChar_scalar {c : Nat} (hc : isScalar c = true) :
    ∀ d ∈ quoteChar c, isScalar d = true := by
  by_cases hlow : c < 128
  · have hall : ∀ c < 128, ∀ d ∈ quoteChar c, isScalar d = true := by decide +kernel
    exact hall c hlow
  · have hquote : quoteChar c = [c] := by
      unfold quoteChar
      repeat rw [if_neg (by omega)]
    rw [hquote]
    intro d hd
    rw [List.mem_singleton.mp hd]
    exact hc

theorem jsonDumps_scalar {s : Text} (hs : s.isUtf8 = true) :
    ∀ c ∈ jsonDumps (scalarValues s), isScalar c = true := by
  rw [Text.isUtf8, Bool.and_eq_true, List.all_eq_true] at hs
  rw [jsonDumps]
  simp only [List.cons_append, List.forall_mem_cons, List.forall_mem_append, List.mem_flatMap]
  refine ⟨rfl, ?_, rfl, fun c hc => (by cases hc)⟩
  rintro d ⟨c, hc, hd⟩
  exact quoteChar_scalar (hs.1 c hc) d hd

theorem joinChars_scalar {texts : List (List Nat)}
    (h : ∀ text ∈ texts, ∀ c ∈ text, isScalar c = true) :
    ∀ c ∈ joinChars texts, isScalar c = true := by
  induction texts with
  | nil => exact fun c hc => (by cases hc)
  | cons text texts ih =>
    rw [List.forall_mem_cons] at h
    cases texts with
    | nil => exact h.1
    | cons text' texts =>
      rw [joinChars]
      · simp only [List.forall_mem_append, List.forall_mem_cons]
        exact ⟨h.1, rfl, ih h.2⟩
      · exact List.cons_ne_nil _ _

theorem text_scalar (v : Value) (hv : v.WellFormed) : ∀ c ∈ python.text v, isScalar c = true := by
  have hbracket : ∀ (b e : Nat) (texts : List (List Nat)), isScalar b = true → isScalar e = true →
      (∀ text ∈ texts, ∀ c ∈ text, isScalar c = true) →
        ∀ c ∈ b :: joinChars texts ++ [e], isScalar c = true := by
    intro b e texts hb he h
    simp only [List.cons_append, List.forall_mem_cons, List.forall_mem_append]
    exact ⟨hb, joinChars_scalar h, he, fun c hc => (by cases hc)⟩
  induction v using Value.induction with
  | hnull => decide
  | hbool b => cases b <;> decide
  | hstring s => exact jsonDumps_scalar hv.self
  | hnumber n => exact fun c hc => isScalar_low (decimalChars_low _ c hc)
  | harray values ih =>
    have hall := (Value.every_array.mp hv).2
    rw [Language.text, Language.textValues_eq]
    apply hbracket _ _ _ rfl rfl
    intro text htext
    obtain ⟨v, hmem, rfl⟩ := List.mem_map.mp htext
    exact ih v hmem (hall v hmem)
  | hobject fields ih =>
    obtain ⟨⟨hutf8, -⟩, hall⟩ := Value.every_object.mp hv
    rw [Language.text, Language.textFields_eq, Language.insertionSort_map,
      Language.sortedFields_eq python_sorts, List.map_map]
    apply hbracket _ _ _ rfl rfl
    intro text htext
    obtain ⟨field, hmem, rfl⟩ := List.mem_map.mp htext
    have hmem := (sortFields_perm_self fields).mem_iff.mp hmem
    show ∀ c ∈ python.entry _ _, isScalar c = true
    rw [Language.entry]
    simp only [List.forall_mem_append, List.forall_mem_cons]
    exact ⟨jsonDumps_scalar (hutf8 field hmem), rfl, ih field hmem (hall field hmem)⟩

/-! ### The signed pair -/

/-- The pair that is signed: a domain string and the claims. -/
def signedPair (claims : Value) : Value := .array [.string "idr-production-proof-v1", claims]

/-- The three encoders give the same bytes, where the other languages have the claims as `wire`. -/
def EncodersAgree (claims : ProductionProofClaimsV1) (wire : Value) : Prop :=
  ∃ bytes, claims.canonicalSigningBytes = .ok bytes ∧
    tsCanonicalJsonV1 (signedPair wire) = .ok bytes ∧
    pyCanonicalJsonV1 (signedPair wire) = .ok bytes

/-- **What the generated encoders give**: the bytes of the encoding, within their limits. -/
theorem canonicalJson_eq_ok {v : Value} (hv : v.WellFormed) (hsafe : v.SafeNumbers)
    (bytes : List UInt8) :
    (tsCanonicalJsonV1 v = .ok bytes ↔
      v.height ≤ 32 ∧ v.nodes ≤ 10000 ∧ bytes = (python.text v).flatMap encodeScalar) ∧
    (pyCanonicalJsonV1 v = .ok bytes ↔
      v.height ≤ 32 ∧ v.nodes ≤ 10000 ∧ bytes = (python.text v).flatMap encodeScalar) := by
  have hencode : ∀ {L : Language} {text : List Nat}, L.TakesIntegers →
      (L.canonicalJson v = .ok text ↔ v.height ≤ 32 ∧ v.nodes ≤ 10000 ∧ text = L.text v) := by
    intro L text hL
    have hwithin := Language.encode_eq_ok hL v hsafe
    simp only [Language.canonicalJson, bind_eq_ok, Prod.exists, Except.ok.injEq]
    constructor
    · rintro ⟨text', nodes, hencode, rfl⟩
      obtain ⟨hheight, hnodes, rfl, -⟩ := (hwithin _ _ _ _).mp hencode
      exact ⟨by omega, by omega, rfl⟩
    · rintro ⟨hheight, hnodes, rfl⟩
      exact ⟨_, _, (hwithin _ _ _ _).mpr ⟨by omega, by omega, rfl, rfl⟩, rfl⟩
  constructor
  · simp only [tsCanonicalJsonV1, bind_eq_ok, Except.ok.injEq, hencode typescript_integers]
    constructor
    · rintro ⟨text, ⟨hheight, hnodes, rfl⟩, rfl⟩
      rw [text_typescript v hv, bufferFrom_units (text_scalar v hv)]
      exact ⟨hheight, hnodes, rfl⟩
    · rintro ⟨hheight, hnodes, rfl⟩
      refine ⟨_, ⟨hheight, hnodes, rfl⟩, ?_⟩
      rw [text_typescript v hv, bufferFrom_units (text_scalar v hv)]
  · simp only [pyCanonicalJsonV1, bind_eq_ok, Except.ok.injEq, hencode python_integers]
    constructor
    · rintro ⟨text, ⟨hheight, hnodes, rfl⟩, rfl⟩
      exact ⟨hheight, hnodes, rfl⟩
    · rintro ⟨hheight, hnodes, rfl⟩
      exact ⟨_, ⟨hheight, hnodes, rfl⟩, rfl⟩

section Claims

variable {claims : ProductionProofClaimsV1}

theorem safeNumbers_string (s : Text) : (Value.string s).SafeNumbers :=
  safeNumbers_leaf (fun u hu => by cases hu; rfl) (by simp)

theorem safeNumbers_nat {n : Nat} (h : n ≤ 2 ^ 53 - 1) : (toValue n).SafeNumbers := by
  show (Value.number (.posInt n)).SafeNumbers
  rw [Value.SafeNumbers, Value.every_number]
  intro m hm
  cases hm
  exact ⟨n, rfl, by omega, by omega⟩

/-- What accepted claims are, beside their assertion. -/
theorem ProductionProofClaimsV1.validate_shape (hok : claims.validate = .ok ()) :
    claims.compatibility.criticalFeatureFlags = [] ∧ (toValue claims).SafeNumbers := by
  simp only [validate, WireCompatibilityV1.validate, bind_eq_ok, rejectIf_eq_ok, not_or,
    validateJsonLimits_eq_ok, ne_eq, Decidable.not_not, Nat.not_lt, gt_iff_lt, Nat.not_le] at hok
  obtain ⟨-, ⟨-, ⟨hschema, hreader, -⟩, hflags⟩, -, ⟨-, -, -, hissued, hexpires, hbound, -⟩, -, -,
    hassertion⟩ := hok
  have hmax : idrMaxAuthorityEpochSecondsV1 < 2 ^ 53 := by decide
  have hversion : idrWireSchemaVersionV1 = 1 := rfl
  refine ⟨hflags, ?_⟩
  have hcompatibility : (toValue claims.compatibility).SafeNumbers := by
    rw [Value.SafeNumbers]
    refine Value.every_object.mpr ⟨fun n hn => (by cases hn), ?_⟩
    simp only [List.forall_mem_cons]
    refine ⟨safeNumbers_nat (by omega), safeNumbers_nat (by omega), ?_, fun field h => (by cases h)⟩
    rw [hflags]
    exact Value.every_array.mpr ⟨fun n hn => (by cases hn), fun v hv => (by cases hv)⟩
  rw [Value.SafeNumbers]
  refine Value.every_object.mpr ⟨fun n hn => (by cases hn), ?_⟩
  simp only [List.forall_mem_cons]
  exact ⟨hcompatibility, safeNumbers_string _, safeNumbers_string _, safeNumbers_string _,
    safeNumbers_string _, safeNumbers_string _, safeNumbers_string _, safeNumbers_string _,
    safeNumbers_string _, safeNumbers_string _, safeNumbers_string _, safeNumbers_string _,
    safeNumbers_string _, safeNumbers_nat (by omega), safeNumbers_nat (by omega),
    safeNumbers_nat (by omega), safeNumbers_string _, safeNumbers_string _, hassertion,
    fun field h => (by cases h)⟩

theorem WireCompatibilityV1.size {compatibility : WireCompatibilityV1}
    (hflags : compatibility.criticalFeatureFlags = []) :
    (toValue compatibility).height = 2 ∧ (toValue compatibility).nodes = 4 := by
  obtain ⟨schema, reader, flags⟩ := compatibility
  cases hflags
  exact ⟨rfl, rfl⟩

theorem ProductionProofClaimsV1.height_eq
    (hflags : claims.compatibility.criticalFeatureFlags = []) :
    (toValue claims).height = 1 + max 2 claims.assertion.height := by
  obtain ⟨hlevel, -⟩ := WireCompatibilityV1.size hflags
  clear hflags
  simp only [toValue] at hlevel ⊢
  simp only [Value.height, Value.heightFields] at hlevel ⊢
  rw [hlevel]
  have hpos := claims.assertion.height_pos
  generalize claims.assertion.height = k at hpos ⊢
  clear hlevel
  omega

theorem ProductionProofClaimsV1.nodes_eq
    (hflags : claims.compatibility.criticalFeatureFlags = []) :
    (toValue claims).nodes = 22 + claims.assertion.nodes := by
  obtain ⟨-, hcount⟩ := WireCompatibilityV1.size hflags
  clear hflags
  simp only [toValue] at hcount ⊢
  simp only [Value.nodes, Value.nodesFields] at hcount ⊢
  rw [hcount]
  generalize claims.assertion.nodes = k
  clear hcount
  omega

/-- In the pair, the assertion is two levels down and has 24 nodes beside it. -/
theorem signedPair_size (hflags : claims.compatibility.criticalFeatureFlags = []) :
    ((signedPair (toValue claims)).height ≤ 32 ↔ claims.assertion.height ≤ 30) ∧
      ((signedPair (toValue claims)).nodes ≤ 10000 ↔ claims.assertion.nodes ≤ 9976) := by
  have hpair : ∀ v : Value, (signedPair v).height = 1 + max 1 (max v.height 0) ∧
      (signedPair v).nodes = 1 + (1 + (v.nodes + 0)) := fun v => ⟨rfl, rfl⟩
  rw [(hpair _).1, (hpair _).2, claims.height_eq hflags, claims.nodes_eq hflags]
  generalize claims.assertion.height = h
  generalize claims.assertion.nodes = k
  clear hpair hflags
  exact ⟨by omega, by omega⟩

/-- **Where the three signing encoders agree.** -/
theorem encodersAgree_iff {wire : Value} (hclaims : (toValue claims).WellFormed)
    (hok : claims.validate = .ok ()) (hwire : Reordered (toValue claims) wire) :
    EncodersAgree claims wire ↔ claims.assertion.height ≤ 30 ∧ claims.assertion.nodes ≤ 9976 := by
  obtain ⟨hflags, hsafe⟩ := claims.validate_shape hok
  obtain ⟨hheight, hnodes⟩ := signedPair_size hflags
  have hpair : Reordered (signedPair (toValue claims)) (signedPair wire) :=
    Reordered.element [.string "idr-production-proof-v1"] [] hwire
  have hwellFormed : (signedPair (toValue claims)).WellFormed := by
    rw [signedPair, Value.WellFormed, Value.every_array]
    simp only [List.forall_mem_cons]
    refine ⟨trivial, ?_, hclaims, fun v hv => (by cases hv)⟩
    intro u hu
    cases hu
    show Text.isUtf8 _ = true
    decide +kernel
  have hsafePair : (signedPair (toValue claims)).SafeNumbers := by
    rw [signedPair, Value.SafeNumbers, Value.every_array]
    simp only [List.forall_mem_cons]
    exact ⟨fun n hn => (by cases hn), safeNumbers_string _, hsafe, fun v hv => (by cases hv)⟩
  have hsafeWire := (hpair.safeNumbers hwellFormed).mpr hsafePair
  have hwellFormedWire := hpair.wellFormed hwellFormed
  -- the encoding here is that of the text there
  have hbytes : claims.canonicalSigningBytes =
      .ok ((python.text (signedPair wire)).flatMap encodeScalar) := by
    obtain ⟨f, hf⟩ := (writes_iff _).mpr hsafePair
    have hwritten : WrittenValue (signedPair wire) f := by
      rw [WrittenValue, ← hpair.writes hwellFormed]
      exact hf
    have htext : (python.text (signedPair wire)).flatMap encodeScalar = f [] :=
      (List.append_nil _).symm.trans (written_python _ hwellFormedWire f hwritten [])
    rw [ProductionProofClaimsV1.canonicalSigningBytes, canonicalJsonBytesV1, bind_eq_ok]
    exact ⟨f, hf, congrArg Except.ok htext.symm⟩
  obtain ⟨htypescript, hpython⟩ := canonicalJson_eq_ok hwellFormedWire hsafeWire
    ((python.text (signedPair wire)).flatMap encodeScalar)
  have hlimits : EncodersAgree claims wire ↔
      (signedPair wire).height ≤ 32 ∧ (signedPair wire).nodes ≤ 10000 := by
    constructor
    · rintro ⟨bytes, hrust, hts, -⟩
      rw [hbytes, Except.ok.injEq] at hrust
      rw [← hrust, htypescript] at hts
      exact ⟨hts.1, hts.2.1⟩
    · rintro ⟨hh, hn⟩
      exact ⟨_, hbytes, htypescript.mpr ⟨hh, hn, rfl⟩, hpython.mpr ⟨hh, hn, rfl⟩⟩
  rw [hlimits, ← hpair.height_eq, ← hpair.nodes_eq, hheight, hnodes]

end Claims

/-! ### Two claims -/

namespace Sample

/-- Claims with a given assertion. -/
def signedClaims (assertion : Value) : ProductionProofClaimsV1 where
  compatibility := .v1
  proofId := 1
  trustDomain := .shadow
  environmentRef := ⟨"environment:idr:shadow:local", by decide +kernel⟩
  proofKind := .providerReceipt
  issuerRef := ⟨"issuer:receipt", by decide +kernel⟩
  subjectRef := ⟨"subject:signed", by decide +kernel⟩
  subjectDigest := ⟨List.replicate 64 97⟩
  audienceRef := ⟨"audience:idr:shadow:local", by decide +kernel⟩
  tenantRef := ⟨"tenant:signed", by decide +kernel⟩
  scopeRef := ⟨"scope:signed", by decide +kernel⟩
  purposeRef := ⟨"purpose:signed", by decide +kernel⟩
  policyRevisionRef := ⟨"policy:signed:v1", by decide +kernel⟩
  issuedAt := 1800000000
  notBefore := 1800000000
  expiresAt := 1800000300
  nonce := ⟨List.replicate 64 98⟩
  principalDigest := ⟨List.replicate 64 99⟩
  assertion := assertion

/-- An array in an array, so many levels deep. -/
def nested : Nat → Value
  | 0 => .null
  | depth + 1 => .array [nested depth]

/-- The keys of an object. -/
def keys : Value → List Text
  | .object fields => fields.map Prod.fst
  | _ => []

theorem nested_wellFormed (depth : Nat) : (nested depth).WellFormed := by
  induction depth with
  | zero =>
    intro u hu
    cases hu
    trivial
  | succ depth ih =>
    rw [nested, Value.WellFormed, Value.every_array]
    simp only [List.forall_mem_cons]
    exact ⟨trivial, ih, fun v hv => (by cases hv)⟩

theorem signedClaims_wellFormed {assertion : Value} (h : assertion.WellFormed) :
    (toValue (signedClaims assertion)).WellFormed := by
  have hstring : ∀ {s : Text}, s.isUtf8 = true → (Value.string s).WellFormed := by
    intro s hs u hu
    cases hu
    exact hs
  have hnat : ∀ {n : Nat}, n < 2 ^ 64 → (toValue n).WellFormed := by
    intro n hn u hu
    cases hu
    exact hn
  have hcompatibility : (toValue WireCompatibilityV1.v1).WellFormed := by
    rw [Value.WellFormed]
    refine Value.every_object.mpr ⟨⟨by decide +kernel, by decide +kernel⟩, ?_⟩
    simp only [List.forall_mem_cons]
    refine ⟨hnat (by decide), hnat (by decide), ?_, fun field hfield => (by cases hfield)⟩
    exact Value.every_array.mpr ⟨trivial, fun v hv => (by cases hv)⟩
  -- the keys do not depend on the assertion
  have hkeys : keys (toValue (signedClaims assertion)) = keys (toValue (signedClaims .null)) := rfl
  have hutf8 : ∀ key ∈ keys (toValue (signedClaims .null)), key.isUtf8 = true := by decide +kernel
  have hnodup : (keys (toValue (signedClaims .null))).Nodup := by decide +kernel
  rw [← hkeys] at hutf8 hnodup
  rw [Value.WellFormed]
  refine Value.every_object.mpr ⟨⟨?_, hnodup⟩, ?_⟩
  · exact fun field hfield => hutf8 field.1 (List.mem_map_of_mem hfield)
  · simp only [List.forall_mem_cons, signedClaims]
    exact ⟨hcompatibility, hstring (by decide +kernel), hstring (by decide +kernel),
      hstring (by decide +kernel), hstring (by decide +kernel), hstring (by decide +kernel),
      hstring (by decide +kernel), hstring (by decide +kernel), hstring (by decide +kernel),
      hstring (by decide +kernel), hstring (by decide +kernel), hstring (by decide +kernel),
      hstring (by decide +kernel), hnat (by decide), hnat (by decide), hnat (by decide),
      hstring (by decide +kernel), hstring (by decide +kernel), h,
      fun field hfield => (by cases hfield)⟩

end Sample

/-- An assertion of 30 levels is signed alike everywhere. -/
theorem encodersAgree_iff_thirty :
    EncodersAgree (Sample.signedClaims (Sample.nested 29))
      (toValue (Sample.signedClaims (Sample.nested 29))) :=
  (encodersAgree_iff (Sample.signedClaims_wellFormed (Sample.nested_wellFormed 29))
    (by decide +kernel) (Reordered.refl _)).mpr ⟨by decide, by decide⟩

/-- One of 31 levels is accepted here, and no other language encodes what is to be signed. -/
theorem encoders_disagree_thirty_one :
    (toValue (Sample.signedClaims (Sample.nested 30))).WellFormed ∧
      (Sample.signedClaims (Sample.nested 30)).validate = .ok () ∧
      tsCanonicalJsonV1 (signedPair (toValue (Sample.signedClaims (Sample.nested 30)))) =
        .error "canonical JSON resource limit" ∧
      pyCanonicalJsonV1 (signedPair (toValue (Sample.signedClaims (Sample.nested 30)))) =
        .error "canonical JSON resource limit" ∧
      ¬ EncodersAgree (Sample.signedClaims (Sample.nested 30))
        (toValue (Sample.signedClaims (Sample.nested 30))) := by
  have hfails : pyCanonicalJsonV1 (signedPair (toValue (Sample.signedClaims (Sample.nested 30)))) =
      .error "canonical JSON resource limit" := by decide +kernel
  refine ⟨Sample.signedClaims_wellFormed (Sample.nested_wellFormed 30), by decide +kernel,
    by decide +kernel, hfails, ?_⟩
  rintro ⟨bytes, -, -, hpython⟩
  rw [hfails] at hpython
  cases hpython

end Idr
