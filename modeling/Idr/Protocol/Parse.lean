/-
Idr/Protocol/Parse.lean

A reader of JSON texts.

The grammar is the whole of RFC 8259: white space between tokens, numbers
with fraction and exponent, all escapes of strings and surrogate pairs.
There is no limit on the nesting: the fuel of `parseValue` is taken from the
length of the text, and more fuel reads nothing else
(`parseValue_stable`).  Integers are read exactly; what a reader makes of a
number with a fraction or an exponent is its own business, and enters as
`readFloat`.

The result is the tree of the text: an object is the list of its members as
they stand, repeated keys included.  `Value.collect` then puts the members
of each object into a map, in the order in which they stand.
-/
import Idr.Protocol.Utf
import Idr.Protocol.Canonical

namespace Idr

/-! ### Tokens -/

/-- Insignificant white space. -/
def isJsonSpace (b : UInt8) : Bool := b = 32 || b = 9 || b = 10 || b = 13

def skipSpace (bs : List UInt8) : List UInt8 := bs.dropWhile isJsonSpace

/-- Skip white space and one structural byte. -/
def expect (b : UInt8) (bs : List UInt8) : Option (List UInt8) :=
  match skipSpace bs with
  | [] => none
  | c :: rest => if c = b then some rest else none

/-- The byte that a one-letter escape stands for. -/
def letterEscape (b : UInt8) : Option UInt8 :=
  if b = 34 ∨ b = 92 ∨ b = 47 then some b
  else if b = 98 then some 8
  else if b = 102 then some 12
  else if b = 110 then some 10
  else if b = 114 then some 13
  else if b = 116 then some 9
  else none

/-- The scalar value of a surrogate pair. -/
def surrogatePair (high low : Nat) : Option Nat :=
  if 0xD800 ≤ high ∧ high < 0xDC00 ∧ 0xDC00 ≤ low ∧ low < 0xE000 then
    some (0x10000 + (high - 0xD800) * 0x400 + (low - 0xDC00))
  else none

/-- Put the bytes of one character in front of the rest of a string. -/
def prependBytes (bs : List UInt8) (result : List UInt8 × List UInt8) : List UInt8 × List UInt8 :=
  (bs ++ result.1, result.2)

/-- Read a string up to its closing quote: its bytes and what follows. -/
def readString : List UInt8 → Option (List UInt8 × List UInt8)
  | [] => none
  | b :: rest =>
    if b = 34 then some ([], rest)
    else if b = 92 then
      match rest with
      | [] => none
      | e :: rest =>
        if e = 117 then
          match rest with
          | h₁ :: h₂ :: h₃ :: h₄ :: rest =>
            match Uuid.parseDigits [h₁, h₂, h₃, h₄] 0 with
            | none => none
            | some unit =>
              if isScalar unit then (readString rest).map (prependBytes (encodeScalar unit))
              else
                -- a surrogate is the first of a pair of escapes
                match rest with
                | b₁ :: b₂ :: l₁ :: l₂ :: l₃ :: l₄ :: rest =>
                  if b₁ = 92 ∧ b₂ = 117 then
                    match (Uuid.parseDigits [l₁, l₂, l₃, l₄] 0).bind (surrogatePair unit) with
                    | none => none
                    | some c => (readString rest).map (prependBytes (encodeScalar c))
                  else none
                | _ => none
          | _ => none
        else
          match letterEscape e with
          | none => none
          | some c => (readString rest).map (prependBytes [c])
    else if b.toNat < 32 then none
    else (readString rest).map (prependBytes [b])

/-! ### Numbers -/

/-- The digits in front, and what follows. -/
def readDigits (bs : List UInt8) : List UInt8 × List UInt8 :=
  (bs.takeWhile isDigitByte, bs.dropWhile isDigitByte)

def digitsValue (digits : List UInt8) : Nat :=
  Nat.ofDigitChars 10 (digits.map fun b => Char.ofNat b.toNat) 0

/-- `[ minus ]`. -/
def readSign : List UInt8 → Bool × List UInt8
  | [] => (false, [])
  | b :: rest => if b = 45 then (true, rest) else (false, b :: rest)

/-- `[ frac ]`: whether there is one, and what follows. -/
def readFraction (bs : List UInt8) : Option (Bool × List UInt8) :=
  match bs with
  | [] => some (false, [])
  | b :: rest =>
    if b = 46 then
      let (digits, rest) := readDigits rest
      if digits = [] then none else some (true, rest)
    else some (false, b :: rest)

/-- `[ minus / plus ]`. -/
def skipSign : List UInt8 → List UInt8
  | [] => []
  | b :: rest => if b = 43 ∨ b = 45 then rest else b :: rest

/-- `[ exp ]`: whether there is one, and what follows. -/
def readExponent (bs : List UInt8) : Option (Bool × List UInt8) :=
  match bs with
  | [] => some (false, [])
  | b :: rest =>
    if b = 101 ∨ b = 69 then
      let (digits, rest) := readDigits (skipSign rest)
      if digits = [] then none else some (true, rest)
    else some (false, b :: rest)

section Reader

variable (readFloat : List UInt8 → BitVec 64)

/-- The number of an integer literal, where it has an exact representation. -/
def Number.ofInteger (negative : Bool) (n : Nat) (literal : List UInt8) : Number :=
  if negative then
    if 0 < n ∧ n ≤ 2 ^ 63 then .negInt (-n) else .float (readFloat literal)
  else if n < 2 ^ 64 then .posInt n else .float (readFloat literal)

/-- `[ minus ] int [ frac ] [ exp ]`. -/
def parseNumber (bs : List UInt8) : Option (Number × List UInt8) :=
  let (negative, unsigned) := readSign bs
  let (digits, rest) := readDigits unsigned
  -- no digit at all, or a leading zero
  if digits = [] ∨ (digits.head? = some 48 ∧ digits ≠ [48]) then none
  else do
    let (fraction, rest) ← readFraction rest
    let (exponent, rest) ← readExponent rest
    let literal := bs.take (bs.length - rest.length)
    if fraction || exponent then some (.float (readFloat literal), rest)
    else some (Number.ofInteger readFloat negative (digitsValue digits) literal, rest)

/-! ### Values -/

/-- `null`, `true` or `false`. -/
def parseLiteral (bs : List UInt8) : Option (Value × List UInt8) :=
  if [110, 117, 108, 108].isPrefixOf bs then some (.null, bs.drop 4)
  else if [116, 114, 117, 101].isPrefixOf bs then some (.bool true, bs.drop 4)
  else if [102, 97, 108, 115, 101].isPrefixOf bs then some (.bool false, bs.drop 5)
  else none

mutual

def parseValue : Nat → List UInt8 → Option (Value × List UInt8)
  | 0, _ => none
  | n + 1, bs =>
    match skipSpace bs with
    | [] => none
    | b :: rest =>
      if b = 45 ∨ isDigitByte b = true then
        (parseNumber readFloat (b :: rest)).map fun r => (.number r.1, r.2)
      else if b = 34 then (readString rest).map fun r => (.string ⟨r.1⟩, r.2)
      else if b = 91 then
        match expect 93 rest with
        | some rest => some (.array [], rest)
        | none => (parseElements n rest).map fun r => (.array r.1, r.2)
      else if b = 123 then
        match expect 125 rest with
        | some rest => some (.object [], rest)
        | none => (parseMembers n rest).map fun r => (.object r.1, r.2)
      else parseLiteral (b :: rest)

/-- The elements of an array that is not empty, and its closing bracket. -/
def parseElements : Nat → List UInt8 → Option (List Value × List UInt8)
  | 0, _ => none
  | n + 1, bs => do
    let (v, rest) ← parseValue n bs
    match expect 44 rest with
    | some rest => (parseElements n rest).map fun r => (v :: r.1, r.2)
    | none => (expect 93 rest).map fun rest => ([v], rest)

/-- The members of an object that is not empty, and its closing bracket. -/
def parseMembers : Nat → List UInt8 → Option (List (Text × Value) × List UInt8)
  | 0, _ => none
  | n + 1, bs => do
    let rest ← expect 34 bs
    let (key, rest) ← readString rest
    let rest ← expect 58 rest
    let (v, rest) ← parseValue n rest
    match expect 44 rest with
    | some rest => (parseMembers n rest).map fun r => ((⟨key⟩, v) :: r.1, r.2)
    | none => (expect 125 rest).map fun rest => ([(⟨key⟩, v)], rest)

end

/-- The tree of a text: one value with nothing but white space around it. -/
def parseTree (bs : List UInt8) : Option Value := do
  let (v, rest) ← parseValue readFloat (2 * bs.length + 1) bs
  if skipSpace rest = [] then some v else none

end Reader

/-! ### Every reader consumes what it reads -/

theorem skipSpace_length (bs : List UInt8) : (skipSpace bs).length ≤ bs.length :=
  (List.dropWhile_sublist _).length_le

theorem expect_length {b : UInt8} {bs rest : List UInt8} (h : expect b bs = some rest) :
    rest.length < bs.length := by
  have hle := skipSpace_length bs
  rw [expect] at h
  split at h
  · cases h
  · rename_i c tail heq
    split at h
    · cases h
      rw [heq, List.length_cons] at hle
      exact hle
    · cases h

theorem readString_length {bs : List UInt8} :
    ∀ {s rest : List UInt8}, readString bs = some (s, rest) → rest.length < bs.length := by
  have hprepend : ∀ {p : List UInt8} {tail s rest : List UInt8},
      (readString tail).map (prependBytes p) = some (s, rest) →
        ∃ s', readString tail = some (s', rest) := by
    intro p tail s rest h
    rw [Option.map_eq_some_iff] at h
    obtain ⟨⟨s', rest'⟩, hread, heq⟩ := h
    obtain ⟨-, rfl⟩ := Prod.mk.inj heq
    exact ⟨s', hread⟩
  fun_induction readString bs <;> intro s rest h
  -- the text ends too early, or has a byte that may not stand there
  all_goals try
    cases h
    done
  case case2 =>
    cases h
    exact Nat.lt_succ_self _
  -- one character and the rest of the string
  all_goals
    rename_i ih
    obtain ⟨s', hread⟩ := hprepend h
    have hlt := ih hread
    simp only [List.length_cons]
    omega

theorem readFraction_length {bs rest : List UInt8} {present : Bool}
    (h : readFraction bs = some (present, rest)) : rest.length ≤ bs.length := by
  unfold readFraction at h
  split at h
  · cases h
    exact Nat.le_refl _
  · rename_i b tail
    split at h
    · dsimp only at h
      split at h
      · cases h
      · cases h
        exact Nat.le_succ_of_le (List.dropWhile_sublist _).length_le
    · cases h
      exact Nat.le_refl _

theorem readExponent_length {bs rest : List UInt8} {present : Bool}
    (h : readExponent bs = some (present, rest)) : rest.length ≤ bs.length := by
  unfold readExponent at h
  split at h
  · cases h
    exact Nat.le_refl _
  · rename_i b tail
    split at h
    · dsimp only at h
      split at h
      · cases h
      · cases h
        have hsign : (skipSign tail).length ≤ tail.length := by
          cases tail with
          | nil => exact Nat.le_refl _
          | cons s tail =>
            rw [skipSign]
            split <;> simp
        have hdigits := (List.dropWhile_sublist isDigitByte (l := skipSign tail)).length_le
        exact Nat.le_succ_of_le (Nat.le_trans hdigits hsign)
    · cases h
      exact Nat.le_refl _

theorem parseNumber_length {readFloat : List UInt8 → BitVec 64} {bs rest : List UInt8} {n : Number}
    (h : parseNumber readFloat bs = some (n, rest)) : rest.length < bs.length := by
  unfold parseNumber at h
  dsimp only at h
  split at h
  · cases h
  · rename_i hdigits
    rw [not_or] at hdigits
    have hsign : (readSign bs).2.length ≤ bs.length := by
      cases bs with
      | nil => exact Nat.le_refl _
      | cons b bs =>
        rw [readSign]
        split <;> simp
    have hsplit : (readSign bs).2.length =
        (readDigits (readSign bs).2).1.length + (readDigits (readSign bs).2).2.length := by
      rw [← List.length_append, readDigits, List.takeWhile_append_dropWhile]
    have hpos := List.length_pos_of_ne_nil hdigits.1
    simp only [Option.bind_eq_bind, Option.bind_eq_some_iff] at h
    obtain ⟨⟨fraction, rest₁⟩, hfraction, ⟨exponent, rest₂⟩, hexponent, h⟩ := h
    have hrest : rest₂ = rest := by
      split at h <;> exact (Prod.mk.inj (Option.some.inj h)).2
    have hle := readFraction_length hfraction
    have hle' := readExponent_length hexponent
    dsimp only at hle'
    rw [← hrest]
    omega

theorem parseLiteral_length {bs rest : List UInt8} {v : Value}
    (h : parseLiteral bs = some (v, rest)) : rest.length < bs.length := by
  have hdrop : ∀ (word : List UInt8) (k : Nat), word.isPrefixOf bs = true → 0 < k →
      k ≤ word.length → (bs.drop k).length < bs.length := by
    intro word k hword hk hle
    have hlength := (List.isPrefixOf_iff_prefix.mp hword).length_le
    rw [List.length_drop]
    omega
  unfold parseLiteral at h
  split at h
  · rename_i hword
    cases h
    exact hdrop _ _ hword (by decide) (by decide)
  · split at h
    · rename_i hword
      cases h
      exact hdrop _ _ hword (by decide) (by decide)
    · split at h
      · rename_i hword
        cases h
        exact hdrop _ _ hword (by decide) (by decide)
      · cases h

/-! ### The nesting is not limited -/

section Fuel

variable {readFloat : List UInt8 → BitVec 64}

/-- What the three readers of a level consume. -/
theorem parse_length (n : Nat) :
    (∀ bs v rest, parseValue readFloat n bs = some (v, rest) → rest.length < bs.length) ∧
    (∀ bs vs rest, parseElements readFloat n bs = some (vs, rest) → rest.length < bs.length) ∧
    (∀ bs fs rest, parseMembers readFloat n bs = some (fs, rest) → rest.length < bs.length) := by
  induction n with
  | zero =>
    refine ⟨?_, ?_, ?_⟩ <;> intro bs r rest h <;> cases h
  | succ n ih =>
    obtain ⟨ihValue, ihElements, ihMembers⟩ := ih
    refine ⟨?_, ?_, ?_⟩
    · intro bs v rest h
      have hspace := skipSpace_length bs
      rw [parseValue] at h
      split at h
      · cases h
      · rename_i b tail heq
        rw [heq] at hspace
        apply Nat.lt_of_lt_of_le _ hspace
        split at h
        · obtain ⟨⟨k, r⟩, hread, heq⟩ := Option.map_eq_some_iff.mp h
          obtain ⟨-, rfl⟩ := Prod.mk.inj heq
          exact parseNumber_length hread
        split at h
        · obtain ⟨⟨k, r⟩, hread, heq⟩ := Option.map_eq_some_iff.mp h
          obtain ⟨-, rfl⟩ := Prod.mk.inj heq
          exact Nat.lt_succ_of_lt (readString_length hread)
        split at h
        · split at h
          · rename_i hclose
            cases h
            exact Nat.lt_succ_of_lt (expect_length hclose)
          · obtain ⟨⟨k, r⟩, hread, heq⟩ := Option.map_eq_some_iff.mp h
            obtain ⟨-, rfl⟩ := Prod.mk.inj heq
            exact Nat.lt_succ_of_lt (ihElements _ _ _ hread)
        split at h
        · split at h
          · rename_i hclose
            cases h
            exact Nat.lt_succ_of_lt (expect_length hclose)
          · obtain ⟨⟨k, r⟩, hread, heq⟩ := Option.map_eq_some_iff.mp h
            obtain ⟨-, rfl⟩ := Prod.mk.inj heq
            exact Nat.lt_succ_of_lt (ihMembers _ _ _ hread)
        · exact parseLiteral_length h
    · intro bs vs rest h
      rw [parseElements] at h
      simp only [Option.bind_eq_bind, Option.bind_eq_some_iff] at h
      obtain ⟨⟨v, rest₁⟩, hvalue, h⟩ := h
      have hlt := ihValue _ _ _ hvalue
      dsimp only at h
      split at h
      · rename_i hcomma
        obtain ⟨⟨k, r⟩, hread, heq⟩ := Option.map_eq_some_iff.mp h
        obtain ⟨-, rfl⟩ := Prod.mk.inj heq
        exact Nat.lt_trans (ihElements _ _ _ hread) (Nat.lt_trans (expect_length hcomma) hlt)
      · obtain ⟨r, hread, heq⟩ := Option.map_eq_some_iff.mp h
        obtain ⟨-, rfl⟩ := Prod.mk.inj heq
        exact Nat.lt_trans (expect_length hread) hlt
    · intro bs fs rest h
      rw [parseMembers] at h
      simp only [Option.bind_eq_bind, Option.bind_eq_some_iff] at h
      obtain ⟨rest₁, hquote, ⟨key, rest₂⟩, hkey, rest₃, hcolon, ⟨v, rest₄⟩, hvalue, h⟩ := h
      have hlt : rest₄.length < bs.length :=
        Nat.lt_trans (ihValue _ _ _ hvalue) (Nat.lt_trans (expect_length hcolon)
          (Nat.lt_trans (readString_length hkey) (expect_length hquote)))
      dsimp only at h
      split at h
      · rename_i hcomma
        obtain ⟨⟨k, r⟩, hread, heq⟩ := Option.map_eq_some_iff.mp h
        obtain ⟨-, rfl⟩ := Prod.mk.inj heq
        exact Nat.lt_trans (ihMembers _ _ _ hread) (Nat.lt_trans (expect_length hcomma) hlt)
      · obtain ⟨r, hread, heq⟩ := Option.map_eq_some_iff.mp h
        obtain ⟨-, rfl⟩ := Prod.mk.inj heq
        exact Nat.lt_trans (expect_length hread) hlt

/-- One more unit of fuel makes no difference where there is enough of it. -/
theorem parse_stable_succ (n : Nat) :
    (∀ bs : List UInt8, 2 * bs.length + 1 ≤ n →
      parseValue readFloat (n + 1) bs = parseValue readFloat n bs) ∧
    (∀ bs : List UInt8, 2 * bs.length + 2 ≤ n →
      parseElements readFloat (n + 1) bs = parseElements readFloat n bs) ∧
    (∀ bs : List UInt8, 2 * bs.length + 2 ≤ n →
      parseMembers readFloat (n + 1) bs = parseMembers readFloat n bs) := by
  induction n with
  | zero => refine ⟨?_, ?_, ?_⟩ <;> intro bs h <;> omega
  | succ n ih =>
    obtain ⟨ihValue, ihElements, ihMembers⟩ := ih
    refine ⟨?_, ?_, ?_⟩
    · intro bs hn
      have hspace := skipSpace_length bs
      rw [parseValue, parseValue]
      split
      · rfl
      · rename_i b tail heq
        rw [heq, List.length_cons] at hspace
        rw [ihElements tail (by omega), ihMembers tail (by omega)]
    · intro bs hn
      rw [parseElements, parseElements, ihValue bs (by omega)]
      simp only [Option.bind_eq_bind]
      apply Option.bind_congr
      rintro ⟨v, rest⟩ hvalue
      have hlt := (parse_length n).1 _ _ _ hvalue
      dsimp only
      split
      · rename_i tail hcomma
        have hlt' := expect_length hcomma
        rw [ihElements tail (by omega)]
      · rfl
    · intro bs hn
      rw [parseMembers, parseMembers]
      simp only [Option.bind_eq_bind]
      apply Option.bind_congr
      intro rest₁ hquote
      apply Option.bind_congr
      rintro ⟨key, rest₂⟩ hkey
      apply Option.bind_congr
      intro rest₃ hcolon
      have hlt₁ := expect_length hquote
      have hlt₂ := readString_length hkey
      have hlt₃ := expect_length hcolon
      dsimp only at hcolon hlt₃ ⊢
      rw [ihValue rest₃ (by omega)]
      apply Option.bind_congr
      rintro ⟨v, rest₄⟩ hvalue
      have hlt₄ := (parse_length n).1 _ _ _ hvalue
      dsimp only
      split
      · rename_i tail hcomma
        have hlt₅ := expect_length hcomma
        rw [ihMembers tail (by omega)]
      · rfl

/-- **The fuel is no limit**: any amount above that of `parseTree` reads the same. -/
theorem parseValue_stable {bs : List UInt8} {n : Nat} (h : 2 * bs.length + 1 ≤ n) :
    parseValue readFloat n bs = parseValue readFloat (2 * bs.length + 1) bs := by
  induction n, h using Nat.le_induction with
  | base => rfl
  | succ n hn ih => rw [(parse_stable_succ n).1 bs hn, ih]

end Fuel

example : parseTree (fun _ => 0) (Text.bytes " [ -12, \"\\u00e9\\ud83d\\ude00\" ] ") =
    some (.array [.number (.negInt (-12)), .string "é😀"]) := by decide

end Idr
