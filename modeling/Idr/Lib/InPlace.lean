/-
Idr/Lib/InPlace.lean

Lists changed in place.

`modifyFirst` changes the first element with a property, `modifyLast` the
last element, and `dedupAdjacent` drops an element that is equal to the one
before it.  The first two change one element and leave the others, which is
what `List.Forall₂` says of them: a relation that holds between an element
and itself, and between the changed element and its image, holds element by
element.

Nothing here names the program.
-/
import Mathlib.Data.List.Forall2

namespace Idr

universe u v

variable {α : Type u} {β : Type v}

/-! ### The first element with a property -/

@[grind =]
def modifyFirst (p : α → Bool) (f : α → α) : List α → List α
  | [] => []
  | a :: as => if p a = true then f a :: as else a :: modifyFirst p f as

theorem forall₂_modifyFirst {R : α → α → Prop} {p : α → Bool} {f : α → α} {as : List α}
    (hrefl : ∀ a ∈ as, R a a) (hf : ∀ a, as.find? p = some a → R a (f a)) :
    List.Forall₂ R as (modifyFirst p f as) := by
  induction as with
  | nil => exact .nil
  | cons a as ih =>
    have hself := hrefl a List.mem_cons_self
    have htail := fun x hx => hrefl x (List.mem_cons_of_mem a hx)
    unfold modifyFirst
    split
    case isTrue hp =>
      exact .cons (hf a (by rw [List.find?_cons_of_pos hp]))
        (List.forall₂_same.mpr htail)
    case isFalse hp =>
      refine .cons hself (ih htail fun x hx => hf x ?_)
      rw [List.find?_cons_of_neg hp, hx]

theorem mem_modifyFirst {p : α → Bool} {f : α → α} {as : List α} {b : α}
    (h : b ∈ modifyFirst p f as) : b ∈ as ∨ ∃ a, as.find? p = some a ∧ b = f a := by
  induction as with
  | nil => cases h
  | cons a as ih =>
    unfold modifyFirst at h
    split at h
    case isTrue hp =>
      rcases List.mem_cons.mp h with rfl | h
      · exact .inr ⟨a, List.find?_cons_of_pos hp, rfl⟩
      · exact .inl (List.mem_cons_of_mem _ h)
    case isFalse hp =>
      rcases List.mem_cons.mp h with rfl | h
      · exact .inl List.mem_cons_self
      · rcases ih h with hold | ⟨x, hx, heq⟩
        · exact .inl (List.mem_cons_of_mem _ hold)
        · exact .inr ⟨x, by rwa [List.find?_cons_of_neg hp], heq⟩

theorem mem_modifyFirst_of_find? {p : α → Bool} {f : α → α} {as : List α} {a : α}
    (h : as.find? p = some a) : f a ∈ modifyFirst p f as := by
  induction as with
  | nil => cases h
  | cons x as ih =>
    unfold modifyFirst
    split
    case isTrue hp =>
      rw [List.find?_cons_of_pos hp] at h
      rw [Option.some.inj h]
      exact List.mem_cons_self
    case isFalse hp =>
      rw [List.find?_cons_of_neg hp] at h
      exact List.mem_cons_of_mem _ (ih h)

theorem map_modifyFirst {p : α → Bool} {f : α → α} {g : α → β} {as : List α}
    (hf : ∀ a ∈ as, p a = true → g (f a) = g a) : (modifyFirst p f as).map g = as.map g := by
  induction as with
  | nil => rfl
  | cons a as ih =>
    unfold modifyFirst
    split
    case isTrue hp => rw [List.map_cons, List.map_cons, hf a List.mem_cons_self hp]
    case isFalse =>
      rw [List.map_cons, List.map_cons, ih fun x hx => hf x (List.mem_cons_of_mem a hx)]

/-- The first element of related lists with a property is related, if the relation keeps the
property. -/
theorem find?_forall₂ {R : α → α → Prop} {p : α → Bool} {as bs : List α} {a : α}
    (h : List.Forall₂ R as bs) (hp : ∀ a b, R a b → p b = p a) (ha : as.find? p = some a) :
    ∃ b, bs.find? p = some b ∧ R a b := by
  induction h with
  | nil => cases ha
  | @cons x y xs ys hxy _ ih =>
    by_cases hx : p x = true
    · rw [List.find?_cons_of_pos hx] at ha
      obtain rfl := Option.some.inj ha
      exact ⟨y, List.find?_cons_of_pos (by rw [hp x y hxy]; exact hx), hxy⟩
    · rw [List.find?_cons_of_neg hx] at ha
      obtain ⟨b, hb, hab⟩ := ih ha
      exact ⟨b, by rwa [List.find?_cons_of_neg (by rw [hp x y hxy]; exact hx)], hab⟩

/-- When only the last element has the property, it is the one that is changed. -/
theorem modifyFirst_concat {p : α → Bool} {f : α → α} {as : List α} {a : α}
    (hinit : ∀ x ∈ as, p x = false) :
    modifyFirst p f (as ++ [a]) = as ++ [if p a = true then f a else a] := by
  induction as with
  | nil =>
    show (if p a = true then [f a] else [a]) = _
    split <;> rfl
  | cons x as ih =>
    obtain ⟨hx, hrest⟩ := List.forall_mem_cons.mp hinit
    rw [List.cons_append, modifyFirst, if_neg (by rw [hx]; exact Bool.false_ne_true), ih hrest,
      List.cons_append]

/-! ### The last element -/

@[grind =]
def modifyLast (f : α → α) : List α → List α
  | [] => []
  | [a] => [f a]
  | a :: b :: as => a :: modifyLast f (b :: as)

theorem modifyLast_concat (f : α → α) (as : List α) (a : α) :
    modifyLast f (as ++ [a]) = as ++ [f a] := by
  induction as with
  | nil => rfl
  | cons b as ih =>
    rcases as with _ | ⟨c, as⟩
    · rfl
    · show b :: modifyLast f (c :: as ++ [a]) = _
      rw [ih]
      rfl

/-- A list is empty, or it ends. -/
theorem modifyLast_cases (f : α → α) (as : List α) :
    as = [] ∧ modifyLast f as = [] ∨
      ∃ init a, as = init ++ [a] ∧ as.getLast? = some a ∧ modifyLast f as = init ++ [f a] := by
  rcases List.eq_nil_or_concat as with rfl | ⟨init, a, rfl⟩
  · exact .inl ⟨rfl, rfl⟩
  · rw [List.concat_eq_append]
    exact .inr ⟨init, a, rfl, List.getLast?_concat .., modifyLast_concat f init a⟩

theorem forall₂_modifyLast {R : α → α → Prop} {f : α → α} {as : List α}
    (hrefl : ∀ a ∈ as, R a a) (hf : ∀ a, as.getLast? = some a → R a (f a)) :
    List.Forall₂ R as (modifyLast f as) := by
  rcases modifyLast_cases f as with ⟨rfl, hmodify⟩ | ⟨init, a, rfl, hlast, hmodify⟩ <;> rw [hmodify]
  · exact .nil
  · refine List.rel_append (List.forall₂_same.mpr fun x hx => hrefl x ?_) (.cons (hf a hlast) .nil)
    exact List.mem_append_left _ hx

theorem mem_modifyLast {f : α → α} {as : List α} {b : α} (h : b ∈ modifyLast f as) :
    b ∈ as ∨ ∃ a, as.getLast? = some a ∧ b = f a := by
  rcases modifyLast_cases f as with ⟨rfl, hmodify⟩ | ⟨init, a, rfl, hlast, hmodify⟩ <;>
    rw [hmodify] at h
  · cases h
  · rcases List.mem_append.mp h with h | h
    · exact .inl (List.mem_append_left _ h)
    · exact .inr ⟨a, hlast, List.mem_singleton.mp h⟩

theorem map_modifyLast {f : α → α} {g : α → β} {as : List α} (hf : ∀ a ∈ as, g (f a) = g a) :
    (modifyLast f as).map g = as.map g := by
  rcases modifyLast_cases f as with ⟨rfl, hmodify⟩ | ⟨init, a, rfl, -, hmodify⟩ <;> rw [hmodify]
  · rw [List.map_append, List.map_append, List.map_singleton, List.map_singleton,
      hf a (List.mem_append_right _ (List.mem_singleton_self a))]

theorem getLast?_modifyLast (f : α → α) (as : List α) :
    (modifyLast f as).getLast? = as.getLast?.map f := by
  rcases modifyLast_cases f as with ⟨rfl, hmodify⟩ | ⟨init, a, rfl, hlast, hmodify⟩ <;> rw [hmodify]
  · rfl
  · rw [hlast, List.getLast?_concat]
    rfl

theorem dropLast_modifyLast (f : α → α) (as : List α) :
    (modifyLast f as).dropLast = as.dropLast := by
  rcases modifyLast_cases f as with ⟨rfl, hmodify⟩ | ⟨init, a, rfl, -, hmodify⟩ <;> rw [hmodify]
  rw [List.dropLast_concat, List.dropLast_concat]

/-! ### Growth

A list grows when its elements change one by one and others are added at its end. -/

/-- The elements of `as` have become the first elements of `bs`, each related to what it was. -/
def Grows (R : α → α → Prop) (as bs : List α) : Prop :=
  ∃ kept more, bs = kept ++ more ∧ List.Forall₂ R as kept

theorem Grows.of_forall₂ {R : α → α → Prop} {as bs : List α} (h : List.Forall₂ R as bs) :
    Grows R as bs :=
  ⟨bs, [], (List.append_nil bs).symm, h⟩

theorem Grows.refl {R : α → α → Prop} (hrefl : ∀ a, R a a) (as : List α) : Grows R as as :=
  .of_forall₂ (List.forall₂_same.mpr fun a _ => hrefl a)

theorem Grows.append {R : α → α → Prop} {as bs : List α} (h : Grows R as bs) (cs : List α) :
    Grows R as (bs ++ cs) := by
  obtain ⟨kept, more, rfl, hkept⟩ := h
  exact ⟨kept, more ++ cs, List.append_assoc .., hkept⟩

theorem Grows.trans {R : α → α → Prop} (htrans : ∀ a b c, R a b → R b c → R a c)
    {as bs cs : List α} (h : Grows R as bs) (h' : Grows R bs cs) : Grows R as cs := by
  obtain ⟨kept, more, rfl, hkept⟩ := h
  obtain ⟨kept', more', rfl, hkept'⟩ := h'
  -- what was kept first is a first part of what was kept then
  have hfirst : ∃ first rest, kept' = first ++ rest ∧ List.Forall₂ R as first := by
    induction hkept generalizing kept' with
    | nil => exact ⟨[], kept', rfl, .nil⟩
    | cons hab _ ih =>
      obtain ⟨c, tail, hbc, htail, rfl⟩ := List.forall₂_cons_left_iff.mp hkept'
      obtain ⟨first, rest, rfl, hfirst⟩ := ih tail htail
      exact ⟨c :: first, rest, rfl, .cons (htrans _ _ _ hab hbc) hfirst⟩
  obtain ⟨first, rest, rfl, hfirst⟩ := hfirst
  exact ⟨first, rest ++ more', List.append_assoc .., hfirst⟩

theorem Grows.exists_mem {R : α → α → Prop} {as bs : List α} (h : Grows R as bs) {a : α}
    (ha : a ∈ as) : ∃ b ∈ bs, R a b := by
  obtain ⟨kept, more, rfl, hkept⟩ := h
  induction hkept with
  | nil => cases ha
  | @cons x y xs ys hxy _ ih =>
    rcases List.mem_cons.mp ha with rfl | ha
    · exact ⟨y, List.mem_append_left _ List.mem_cons_self, hxy⟩
    · obtain ⟨b, hb, hab⟩ := ih ha
      exact ⟨b, List.mem_cons_of_mem _ hb, hab⟩

/-! ### Adjacent duplicates -/

@[grind =]
def dedupAdjacent [DecidableEq α] : List α → List α
  | [] => []
  | [a] => [a]
  | a :: b :: as => if a = b then dedupAdjacent (b :: as) else a :: dedupAdjacent (b :: as)

theorem mem_dedupAdjacent [DecidableEq α] {x : α} {as : List α} :
    x ∈ dedupAdjacent as ↔ x ∈ as := by
  induction as with
  | nil => exact Iff.rfl
  | cons a as ih =>
    rcases as with _ | ⟨b, as⟩
    · exact Iff.rfl
    · unfold dedupAdjacent
      split
      case isTrue heq =>
        rw [ih, heq, List.mem_cons (l := b :: as)]
        exact ⟨.inr, fun h => h.elim (fun hx => List.mem_cons.mpr (.inl hx)) id⟩
      case isFalse => rw [List.mem_cons, ih, List.mem_cons (l := b :: as)]

end Idr
