/-
Idr/Lib/PrefixCode.lean

Codes whose words can be read off the front of a list.

No word of such a code is the start of another one, so that what follows a
word cannot blur it: `ReadOff P code` says that two lists which start with
words of the code, and are equal, have the same word in front and the same
rest.  A message that is laid out as words of such codes, one after the
other, is therefore read back word by word.

The codes here are those of one length (`ReadOff.of_length`), numbers in a
fixed number of bytes (`readOff_toBeBytes`), and words behind their own
length (`ReadOff.of_prefix`).

Nothing here names the program.
-/
import Mathlib.Logic.Function.Basic
import Mathlib.Algebra.Group.Nat.Defs

namespace Idr

universe u v

variable {α : Type u} {β : Type v}

/-- The words of the code for the values in `P` are read off the front of any list. -/
def ReadOff (P : α → Prop) (code : α → List β) : Prop :=
  ∀ ⦃a b : α⦄, P a → P b → ∀ ⦃x y : List β⦄, code a ++ x = code b ++ y → a = b ∧ x = y

namespace ReadOff

variable {P : α → Prop} {code : α → List β}

/-- A code whose words have one length. -/
theorem of_length {n : Nat} (hlength : ∀ a, P a → (code a).length = n)
    (hinj : ∀ a b, P a → P b → code a = code b → a = b) : ReadOff P code := by
  intro a b ha hb x y heq
  have hsame : (code a).length = (code b).length := (hlength a ha).trans (hlength b hb).symm
  obtain ⟨hword, hrest⟩ := List.append_inj heq hsame
  exact ⟨hinj a b ha hb hword, hrest⟩

/-- A word behind its length, where the code of the length can be read off. -/
theorem of_prefix {size : Nat → List β} {Q : Nat → Prop} {word : α → List β}
    (hsize : ReadOff Q size)
    (hQ : ∀ a, P a → Q (word a).length) (hinj : Function.Injective word) :
    ReadOff P fun a => size (word a).length ++ word a := by
  intro a b ha hb x y heq
  rw [List.append_assoc, List.append_assoc] at heq
  obtain ⟨hlength, hrest⟩ := hsize (hQ a ha) (hQ b hb) heq
  obtain ⟨hword, hrest⟩ := List.append_inj hrest hlength
  exact ⟨hinj hword, hrest⟩

end ReadOff

/-! ### Numbers -/

/-- A number in `width` bytes, the most significant first. -/
@[grind =]
def toBeBytes : Nat → Nat → List UInt8
  | 0, _ => []
  | width + 1, n => toBeBytes width (n / 256) ++ [UInt8.ofNat n]

@[simp] theorem length_toBeBytes {width : Nat} : ∀ {n : Nat}, (toBeBytes width n).length =
    width := by
  induction width with
  | zero => intro n; rfl
  | succ width ih =>
    intro n
    rw [toBeBytes, List.length_append, ih]
    rfl

/-- The bytes determine a number that fits. -/
theorem toBeBytes_inj {width : Nat} : ∀ {m n : Nat}, m < 256 ^ width → n < 256 ^ width →
    toBeBytes width m = toBeBytes width n → m = n := by
  induction width with
  | zero =>
    intro m n hm hn _
    rw [Nat.pow_zero] at hm hn
    omega
  | succ width ih =>
    intro m n hm hn heq
    rw [toBeBytes, toBeBytes] at heq
    obtain ⟨hhigh, hlow⟩ := List.append_inj heq (by simp)
    have hquot : m / 256 = n / 256 := by
      rw [Nat.pow_succ] at hm hn
      apply ih _ _ hhigh
      · exact (Nat.div_lt_iff_lt_mul (by decide)).mpr hm
      · exact (Nat.div_lt_iff_lt_mul (by decide)).mpr hn
    have hrem : m % 256 = n % 256 := by
      have hbyte := congrArg UInt8.toNat (List.cons.inj hlow).1
      simpa using hbyte
    omega

theorem readOff_toBeBytes (width : Nat) : ReadOff (fun n => n < 256 ^ width) (toBeBytes width) :=
  ReadOff.of_length (fun _ _ => length_toBeBytes) fun _ _ => toBeBytes_inj

end Idr
