/-
Idr/Lib/Except.lean

Guards and inversion rules for computations in `Except`.

A validator of the source is a sequence of guards, each of which either
returns early with its error or lets the computation go on.  Here such a
guard is `rejectIf c e` (return `e` when `c` holds) or `require c e`
(return `e` unless `c` holds), and what a successful sequence establishes
is read off with the rules below: one `bind` lemma, one lemma per guard.
Nothing here names the program; the rules are about `Except` alone.
-/
import Mathlib.Tactic.Common

namespace Idr

universe u v

variable {ε : Type u} {α β : Type v}

/-! ### Guards -/

/-- Fail with `e` when `c` holds. -/
@[grind =]
def rejectIf (c : Prop) [Decidable c] (e : ε) : Except ε Unit :=
  if c then .error e else .ok ()

/-- Fail with `e` unless `c` holds. -/
@[grind =]
def require (c : Prop) [Decidable c] (e : ε) : Except ε Unit :=
  if c then .ok () else .error e

/-- The value of an option, or the error `e`. -/
@[grind =]
def okOr (x : Option α) (e : ε) : Except ε α :=
  match x with
  | some a => .ok a
  | none => .error e

/-- `Result::is_ok_and`. -/
@[grind =]
def isOkAnd (x : Except ε α) (p : α → Bool) : Bool :=
  match x with
  | .ok a => p a
  | .error _ => false

@[simp] theorem rejectIf_eq_ok {c : Prop} [Decidable c] {e : ε} {u : Unit} :
    rejectIf c e = .ok u ↔ ¬ c := by
  unfold rejectIf
  split <;> simp [*]

@[simp] theorem require_eq_ok {c : Prop} [Decidable c] {e : ε} {u : Unit} :
    require c e = .ok u ↔ c := by
  unfold require
  split <;> simp [*]

@[simp] theorem okOr_eq_ok {x : Option α} {e : ε} {a : α} :
    okOr x e = .ok a ↔ x = some a := by
  cases x <;> simp [okOr]

theorem isOkAnd_iff {x : Except ε α} {p : α → Bool} :
    isOkAnd x p = true ↔ ∃ a, x = .ok a ∧ p a = true := by
  cases x <;> simp [isOkAnd]

/-! ### Sequencing -/

@[simp] theorem bind_eq_ok {x : Except ε α} {f : α → Except ε β} {b : β} :
    (x >>= f) = .ok b ↔ ∃ a, x = .ok a ∧ f a = .ok b := by
  cases x <;> simp [bind, Except.bind]

@[simp] theorem pure_eq_ok {a b : α} : (pure a : Except ε α) = .ok b ↔ a = b := by
  simp [pure, Except.pure]

@[simp] theorem throw_ne_ok {e : ε} {a : α} : (throw e : Except ε α) ≠ .ok a := by
  simp [throw, throwThe, MonadExceptOf.throw]

@[simp] theorem exists_unit_eq_ok {x : Except ε Unit} {p : Prop} :
    (∃ u, x = .ok u ∧ p) ↔ x = .ok () ∧ p :=
  ⟨fun ⟨(), h⟩ => h, fun h => ⟨(), h⟩⟩

@[simp] theorem mapError_eq_ok {ε' : Type u} {x : Except ε α} {f : ε → ε'} {a : α} :
    x.mapError f = .ok a ↔ x = .ok a := by
  cases x <;> simp [Except.mapError]

/-- Every element of a successful `mapM` comes from an element of the list. -/
theorem mem_of_mapM_eq_ok {γ : Type v} {f : γ → Except ε α} {xs : List γ} {ys : List α}
    (h : xs.mapM f = .ok ys) {y : α} (hy : y ∈ ys) : ∃ x ∈ xs, f x = .ok y := by
  induction xs generalizing ys with
  | nil =>
    simp only [List.mapM_nil, pure_eq_ok] at h
    subst h
    cases hy
  | cons x xs ih =>
    simp only [List.mapM_cons, bind_eq_ok, pure_eq_ok] at h
    obtain ⟨a, ha, as, has, rfl⟩ := h
    rcases List.mem_cons.mp hy with rfl | hy
    · exact ⟨x, List.mem_cons_self, ha⟩
    · obtain ⟨x', hx', hf⟩ := ih has hy
      exact ⟨x', List.mem_cons_of_mem _ hx', hf⟩

/-- A successful `mapM` relates each element to its result. -/
theorem forall₂_of_mapM_eq_ok {γ : Type v} {f : γ → Except ε α} {xs : List γ} {ys : List α}
    {R : γ → α → Prop} (h : xs.mapM f = .ok ys) (hf : ∀ x ∈ xs, ∀ y, f x = .ok y → R x y) :
    List.Forall₂ R xs ys := by
  induction xs generalizing ys with
  | nil =>
    simp only [List.mapM_nil, pure_eq_ok] at h
    subst h
    exact .nil
  | cons x xs ih =>
    simp only [List.mapM_cons, bind_eq_ok, pure_eq_ok] at h
    obtain ⟨a, ha, as, has, rfl⟩ := h
    refine .cons (hf x List.mem_cons_self a ha) (ih has ?_)
    exact fun x' hx' => hf x' (List.mem_cons_of_mem _ hx')

/-- A `mapM` that reads back what `g` has written: it succeeds at the written forms of good
results. -/
theorem mapM_eq_ok_map {γ : Type v} {f : γ → Except ε α} {g : α → γ} {P : α → Prop}
    (hf : ∀ x y, f x = .ok y ↔ x = g y ∧ P y) {xs : List γ} : ∀ {ys : List α},
      xs.mapM f = .ok ys ↔ xs = ys.map g ∧ ∀ y ∈ ys, P y := by
  induction xs with
  | nil =>
    intro ys
    rw [List.mapM_nil, pure_eq_ok]
    constructor
    · rintro rfl
      exact ⟨rfl, fun y hy => absurd hy List.not_mem_nil⟩
    · rintro ⟨hnil, -⟩
      exact (List.map_eq_nil_iff.mp hnil.symm).symm
  | cons x xs ih =>
    intro ys
    simp only [List.mapM_cons, bind_eq_ok, pure_eq_ok, hf, ih]
    constructor
    · rintro ⟨y, ⟨rfl, hy⟩, ys, ⟨rfl, hys⟩, rfl⟩
      exact ⟨rfl, List.forall_mem_cons.mpr ⟨hy, hys⟩⟩
    · rintro ⟨hcons, hall⟩
      cases ys with
      | nil => cases hcons
      | cons y ys =>
        rw [List.map_cons, List.cons.injEq] at hcons
        rw [List.forall_mem_cons] at hall
        exact ⟨y, ⟨hcons.1, hall.1⟩, ys, ⟨hcons.2, hall.2⟩, rfl⟩

/-- Each element on the left of related lists is related to one on the right. -/
theorem exists_mem_of_forall₂ {γ : Type v} {R : γ → α → Prop} {xs : List γ} {ys : List α}
    (h : List.Forall₂ R xs ys) {x : γ} (hx : x ∈ xs) : ∃ y ∈ ys, R x y := by
  induction h with
  | nil => cases hx
  | cons hxy _ ih =>
    rcases List.mem_cons.mp hx with rfl | hx
    · exact ⟨_, List.mem_cons_self, hxy⟩
    · obtain ⟨y, hy, hrel⟩ := ih hx
      exact ⟨y, List.mem_cons_of_mem _ hy, hrel⟩

theorem exists_of_mapM_eq_ok {γ : Type v} {f : γ → Except ε α} {xs : List γ} {ys : List α}
    (h : xs.mapM f = .ok ys) {x : γ} (hx : x ∈ xs) : ∃ y, f x = .ok y := by
  induction xs generalizing ys with
  | nil => cases hx
  | cons x' xs ih =>
    simp only [List.mapM_cons, bind_eq_ok, pure_eq_ok] at h
    obtain ⟨a, ha, as, has, -⟩ := h
    rcases List.mem_cons.mp hx with rfl | hx
    · exact ⟨a, ha⟩
    · exact ih has hx

/-- A successful `forM` succeeds at every element. -/
theorem forM_eq_ok {γ : Type v} {f : γ → Except ε PUnit} {xs : List γ} {u : PUnit} :
    xs.forM f = .ok u ↔ ∀ x ∈ xs, f x = .ok () := by
  induction xs with
  | nil => exact ⟨fun _ x hx => (by cases hx), fun _ => rfl⟩
  | cons x xs ih =>
    show (f x >>= fun _ => xs.forM f) = .ok u ↔ _
    rw [List.forall_mem_cons, ← ih, bind_eq_ok]
    exact ⟨fun ⟨_, hx, hxs⟩ => ⟨hx, hxs⟩, fun ⟨hx, hxs⟩ => ⟨_, hx, hxs⟩⟩

/-- A `forM` whose steps fail in one way only fails when one of them does. -/
theorem forM_eq_error {γ : Type v} {f : γ → Except ε PUnit} {xs : List γ} {e : ε}
    (h : ∀ x ∈ xs, f x = .ok () ∨ f x = .error e) :
    xs.forM f = .error e ↔ ∃ x ∈ xs, f x = .error e := by
  induction xs with
  | nil => exact ⟨fun hnil => (by cases hnil), fun ⟨x, hx, _⟩ => (by cases hx)⟩
  | cons x xs ih =>
    obtain ⟨hx, hxs⟩ := List.forall_mem_cons.mp h
    simp only [List.mem_cons, exists_eq_or_imp, ← ih hxs]
    show (f x >>= fun _ => xs.forM f) = .error e ↔ _
    rcases hx with hx | hx <;> rw [hx]
    · exact ⟨.inr, fun hor => hor.resolve_left (by simp)⟩
    · exact ⟨fun _ => .inl rfl, fun _ => rfl⟩

/-- Induction over a successful `foldlM`: what holds of the elements folded so far. -/
theorem foldlM_induction {γ : Type v} {f : β → γ → Except ε β} {P : List γ → β → Prop}
    {xs : List γ} {b c : β} (h : xs.foldlM f b = .ok c) (hnil : P [] b)
    (hstep : ∀ before x a a', x ∈ xs → P before a → f a x = .ok a' → P (before ++ [x]) a') :
    P xs c := by
  suffices hgen : ∀ before b, P before b → xs.foldlM f b = .ok c → P (before ++ xs) c from
    hgen [] b hnil h
  clear h hnil
  induction xs with
  | nil =>
    intro before b hb h
    simp only [List.foldlM_nil, pure_eq_ok] at h
    rwa [← h, List.append_nil]
  | cons x xs ih =>
    intro before b hb h
    simp only [List.foldlM_cons, bind_eq_ok] at h
    obtain ⟨a, ha, h⟩ := h
    rw [List.append_cons]
    refine ih (fun before x' a a' hx' => hstep before x' a a' (List.mem_cons_of_mem _ hx')) _ a ?_ h
    exact hstep before x b a List.mem_cons_self hb ha

/-! ### Errors

Where an error comes from: a guard gives its own, a sequence one of its parts. -/

theorem rejectIf_eq_error {c : Prop} [Decidable c] {e e' : ε} :
    rejectIf c e = .error e' ↔ c ∧ e = e' := by
  unfold rejectIf
  split <;> simp [*]

theorem require_eq_error {c : Prop} [Decidable c] {e e' : ε} :
    require c e = .error e' ↔ ¬ c ∧ e = e' := by
  unfold require
  split <;> simp [*]

theorem okOr_eq_error {x : Option α} {e e' : ε} : okOr x e = .error e' ↔ x = none ∧ e = e' := by
  cases x <;> simp [okOr]

theorem bind_eq_error {x : Except ε α} {f : α → Except ε β} {e : ε} :
    (x >>= f) = .error e ↔ x = .error e ∨ ∃ a, x = .ok a ∧ f a = .error e := by
  cases x <;> simp [bind, Except.bind]

theorem mapError_eq_error {ε' : Type u} {x : Except ε α} {f : ε → ε'} {e : ε'} :
    x.mapError f = .error e ↔ ∃ e', x = .error e' ∧ f e' = e := by
  cases x <;> simp [Except.mapError]

/-- A `forM` that fails fails at one of the elements. -/
theorem exists_of_forM_eq_error {γ : Type v} {f : γ → Except ε PUnit} {xs : List γ} {e : ε}
    (h : xs.forM f = .error e) : ∃ x ∈ xs, f x = .error e := by
  induction xs with
  | nil => cases h
  | cons x xs ih =>
    rcases bind_eq_error.mp h with hx | ⟨_, -, hxs⟩
    · exact ⟨x, List.mem_cons_self, hx⟩
    · obtain ⟨x', hmem, hx'⟩ := ih hxs
      exact ⟨x', List.mem_cons_of_mem _ hmem, hx'⟩

/-- The error is `e`, where there is one. -/
def FailsOnly (e : ε) (x : Except ε α) : Prop := ∀ e', x = .error e' → e' = e

theorem failsOnly_of_ok {e : ε} {x : Except ε α} {a : α} (h : x = .ok a) : FailsOnly e x := by
  intro e' he
  rw [h] at he
  cases he

theorem failsOnly_rejectIf {c : Prop} [Decidable c] {e : ε} : FailsOnly e (rejectIf c e) :=
  fun _ h => (rejectIf_eq_error.mp h).2.symm

theorem FailsOnly.bind {e : ε} {x : Except ε α} {f : α → Except ε β} (hx : FailsOnly e x)
    (hf : ∀ a, x = .ok a → FailsOnly e (f a)) : FailsOnly e (x >>= f) := by
  intro e' h
  rcases bind_eq_error.mp h with h | ⟨a, ha, h⟩
  · exact hx e' h
  · exact hf a ha e' h

/-- What fails with `e` only, and does not succeed, fails with `e`. -/
theorem FailsOnly.eq_error {e : ε} {x : Except ε α} (h : FailsOnly e x) (hx : ∀ a, x ≠ .ok a) :
    x = .error e := by
  rcases x with e' | a
  · exact congrArg _ (h e' rfl)
  · exact absurd rfl (hx a)

/-! ### Properties of results -/

/-- Every successful result has the property. -/
def Ensures (x : Except ε α) (P : α → Prop) : Prop := ∀ a, x = .ok a → P a

@[simp] theorem ensures_ok {a : α} {P : α → Prop} : Ensures (.ok a : Except ε α) P ↔ P a := by
  simp [Ensures]

@[simp] theorem ensures_error {e : ε} {P : α → Prop} : Ensures (.error e) P := by
  simp [Ensures]

theorem ensures_bind {x : Except ε α} {f : α → Except ε β} {P : β → Prop}
    (h : ∀ a, x = .ok a → Ensures (f a) P) : Ensures (x >>= f) P := by
  intro b hb
  obtain ⟨a, ha, hb⟩ := bind_eq_ok.mp hb
  exact h a ha b hb

theorem ensures_ite {c : Prop} [Decidable c] {x y : Except ε α} {P : α → Prop}
    (hx : c → Ensures x P) (hy : ¬ c → Ensures y P) : Ensures (if c then x else y) P := by
  split
  · exact hx ‹_›
  · exact hy ‹_›

end Idr
