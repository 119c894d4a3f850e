/-
Idr/Lib/Steps.lean

Labelled transition systems, their runs and the rules for invariants.

A system is a relation `step : σ → ι → σ → Prop` between states, with the
input that was taken on the step.  A run is a list of inputs; `Run step s
is t` says that the inputs `is` lead from `s` to `t`.  The rules are the
usual ones: what one step preserves, a run preserves (`Run.preserves`),
possibly under a condition that every step of the run meets
(`Restrict`), or relative to an invariant that is already known
(`Reachable.invariant_with`).  A simulation carries runs over to a second
system (`Simulates.run`).

Nothing here names the program.
-/
import Mathlib.Tactic.Common

namespace Idr

universe u v w

variable {σ : Type u} {ι : Type v} {τ : Type w}

/-! ### Runs -/

/-- **Runs.** `Run step s is t`: the inputs `is`, taken in order, lead from `s` to `t`. -/
inductive Run (step : σ → ι → σ → Prop) : σ → List ι → σ → Prop
  | nil (s) : Run step s [] s
  | cons {s i t is r} : step s i t → Run step t is r → Run step s (i :: is) r

/-- A state is reachable from the initial states when some run leads to it. -/
def Reachable (init : σ → Prop) (step : σ → ι → σ → Prop) (t : σ) : Prop :=
  ∃ s is, init s ∧ Run step s is t

/-- The steps of a system that meet a condition on the state before and the input. -/
def Restrict (step : σ → ι → σ → Prop) (allowed : σ → ι → Prop) (s : σ) (i : ι) (t : σ) : Prop :=
  allowed s i ∧ step s i t

variable {init : σ → Prop} {step : σ → ι → σ → Prop} {allowed : σ → ι → Prop}

theorem Run.append {s t r : σ} {is js : List ι} (h : Run step s is t) (h' : Run step t js r) :
    Run step s (is ++ js) r := by
  induction h with
  | nil s => exact h'
  | cons hs _ ih => exact .cons hs (ih h')

theorem Run.snoc {s t r : σ} {is : List ι} {i : ι} (h : Run step s is t) (hi : step t i r) :
    Run step s (is ++ [i]) r :=
  h.append (.cons hi (.nil r))

theorem Run.mono {step' : σ → ι → σ → Prop} (hle : ∀ s i t, step s i t → step' s i t)
    {s t : σ} {is : List ι} (h : Run step s is t) : Run step' s is t := by
  induction h with
  | nil s => exact .nil s
  | cons hs _ ih => exact .cons (hle _ _ _ hs) ih

theorem Run.of_restrict {s t : σ} {is : List ι} (h : Run (Restrict step allowed) s is t) :
    Run step s is t :=
  h.mono fun _ _ _ hs => hs.2

/-- The inputs of a restricted run are allowed. -/
theorem Run.forall_mem {A : ι → Prop} {s t : σ} {is : List ι}
    (h : Run (Restrict step fun _ i => A i) s is t) : ∀ i ∈ is, A i := by
  induction h with
  | nil s =>
    intro i hi
    cases hi
  | cons hi _ ih => exact List.forall_mem_cons.mpr ⟨hi.1, ih⟩

theorem Reachable.of_init {s : σ} (h : init s) : Reachable init step s :=
  ⟨s, [], h, .nil s⟩

theorem Reachable.snoc {t r : σ} {i : ι} (h : Reachable init step t) (hi : step t i r) :
    Reachable init step r := by
  obtain ⟨s, is, h0, hr⟩ := h
  exact ⟨s, is ++ [i], h0, hr.snoc hi⟩

theorem Reachable.run {t r : σ} {is : List ι} (h : Reachable init step t) (hr : Run step t is r) :
    Reachable init step r := by
  obtain ⟨s, js, h0, hs⟩ := h
  exact ⟨s, js ++ is, h0, hs.append hr⟩

theorem Reachable.of_restrict {t : σ} (h : Reachable init (Restrict step allowed) t) :
    Reachable init step t := by
  obtain ⟨s, is, h0, hr⟩ := h
  exact ⟨s, is, h0, hr.of_restrict⟩

/-- A condition that always holds is no restriction. -/
theorem Reachable.restrict_true {t : σ} (h : Reachable init step t) :
    Reachable init (Restrict step fun _ _ => True) t := by
  obtain ⟨s, is, hinit, hrun⟩ := h
  exact ⟨s, is, hinit, hrun.mono fun _ _ _ hstep => ⟨trivial, hstep⟩⟩

theorem Reachable.restrict_mono {allowed' : σ → ι → Prop} {t : σ}
    (h : Reachable init (Restrict step allowed) t) (hle : ∀ s i, allowed s i → allowed' s i) :
    Reachable init (Restrict step allowed') t := by
  obtain ⟨s, is, hinit, hrun⟩ := h
  exact ⟨s, is, hinit, hrun.mono fun s i t hstep => ⟨hle s i hstep.1, hstep.2⟩⟩

/-! ### Invariants -/

/-- **What a step preserves, a run preserves.** -/
theorem Run.preserves {P : σ → Prop} (hstep : ∀ s i t, P s → step s i t → P t)
    {s t : σ} {is : List ι} (h : Run step s is t) (hs : P s) : P t := by
  induction h with
  | nil s => exact hs
  | cons hi _ ih => exact ih (hstep _ _ _ hs hi)

/-- **The invariant rule.** -/
theorem Reachable.invariant {P : σ → Prop} (hinit : ∀ s, init s → P s)
    (hstep : ∀ s i t, P s → step s i t → P t) {t : σ} (h : Reachable init step t) : P t := by
  obtain ⟨s, is, h0, hr⟩ := h
  exact hr.preserves hstep (hinit s h0)

/-- An inductive invariant may use the reachability of the state before the step, and with it
every invariant that is already known. -/
theorem Reachable.invariant_with {P : σ → Prop} (hinit : ∀ s, init s → P s)
    (hstep : ∀ s i t, Reachable init step s → P s → step s i t → P t)
    {t : σ} (h : Reachable init step t) : P t := by
  have hboth : Reachable init step t ∧ P t := by
    refine Reachable.invariant (P := fun s => Reachable init step s ∧ P s) ?_ ?_ h
    · exact fun s h0 => ⟨.of_init h0, hinit s h0⟩
    · exact fun s i r hs hi => ⟨hs.1.snoc hi, hstep s i r hs.1 hs.2 hi⟩
  exact hboth.2

/-! ### Histories -/

/-- **The invariant rule with the history.** What holds of a state together with the inputs that led
to it. -/
theorem Run.history {P : List ι → σ → Prop} {s t : σ} {is : List ι} (h : Run step s is t)
    (hnil : P [] s)
    (hstep : ∀ js u i v, Run step s js u → P js u → step u i v → P (js ++ [i]) v) : P is t := by
  -- the induction is on the rest of the run, for every prefix already taken
  have hsuffix : ∀ {u r : σ} {ks : List ι}, Run step u ks r → ∀ js, Run step s js u → P js u →
      P (js ++ ks) r := by
    intro u r ks hrest
    induction hrest with
    | nil u =>
      intro js _ hu
      rwa [List.append_nil]
    | cons hi _ ih =>
      intro js hjs hu
      rw [List.append_cons]
      exact ih (js ++ [_]) (hjs.snoc hi) (hstep _ _ _ _ hjs hu hi)
  exact hsuffix h [] (.nil s) hnil

/-- Somewhere along the run a step was taken for which `E` holds.  What `E` says of a step may
depend on the inputs before it. -/
def Happened (step : σ → ι → σ → Prop) (E : List ι → σ → ι → σ → Prop) (s : σ) (is : List ι) :
    Prop :=
  ∃ js i ks u v, is = js ++ i :: ks ∧ Run step s js u ∧ step u i v ∧ E js u i v

theorem Happened.last {E : List ι → σ → ι → σ → Prop} {s u v : σ} {js : List ι} {i : ι}
    (hrun : Run step s js u) (hi : step u i v) (he : E js u i v) :
    Happened step E s (js ++ [i]) :=
  ⟨js, i, [], u, v, rfl, hrun, hi, he⟩

theorem Happened.append {E : List ι → σ → ι → σ → Prop} {s : σ} {is : List ι}
    (h : Happened step E s is) (js : List ι) : Happened step E s (is ++ js) := by
  obtain ⟨ks, i, ls, u, v, rfl, hrun, hi, he⟩ := h
  exact ⟨ks, i, ls ++ js, u, v, by simp, hrun, hi, he⟩

theorem Happened.mono {E F : List ι → σ → ι → σ → Prop} {s : σ} {is : List ι}
    (hle : ∀ js u i v, E js u i v → F js u i v) (h : Happened step E s is) :
    Happened step F s is := by
  obtain ⟨ks, i, ls, u, v, rfl, hrun, hi, he⟩ := h
  exact ⟨ks, i, ls, u, v, rfl, hrun, hi, hle _ _ _ _ he⟩

/-- In a deterministic system the inputs determine the run. -/
theorem Run.deterministic (hdet : ∀ s i t r, step s i t → step s i r → t = r) {s t r : σ}
    {is : List ι} (h : Run step s is t) (h' : Run step s is r) : t = r := by
  induction h with
  | nil s =>
    cases h' with
    | nil => rfl
  | cons hi _ ih =>
    cases h' with
    | cons hi' hrest =>
      obtain rfl := hdet _ _ _ _ hi hi'
      exact ih hrest

/-- What happened along a run happened before its last step or on it. -/
theorem Happened.of_snoc (hdet : ∀ s i t r, step s i t → step s i r → t = r)
    {E : List ι → σ → ι → σ → Prop} {s u v : σ} {is : List ι} {i : ι}
    (h : Happened step E s (is ++ [i])) (hrun : Run step s is u) (hi : step u i v) :
    Happened step E s is ∨ E is u i v := by
  obtain ⟨js, j, ks, u', v', heq, hrun', hj, he⟩ := h
  rcases List.eq_nil_or_concat ks with rfl | ⟨ls, l, rfl⟩
  · obtain ⟨rfl, hlast⟩ := List.append_inj' heq rfl
    obtain rfl := (List.cons.inj hlast).1
    obtain rfl := hrun.deterministic hdet hrun'
    obtain rfl := hdet _ _ _ _ hi hj
    exact .inr he
  · rw [List.concat_eq_append, ← List.cons_append, ← List.append_assoc] at heq
    obtain ⟨rfl, -⟩ := List.append_inj' heq rfl
    exact .inl ⟨js, j, ls, u', v', rfl, hrun', hj, he⟩

/-! ### Executable systems -/

/-- Run a step function over a script, whose inputs may depend on the state they are taken in, and
stop at the first input that is refused or not allowed. -/
@[grind =]
def runScript {ε : Type w} (f : σ → ι → Except ε σ) (allowed : σ → ι → Prop)
    [∀ s i, Decidable (allowed s i)] : σ → List (σ → ι) → Option σ
  | s, [] => some s
  | s, i :: is =>
    if allowed s (i s) then
      match f s (i s) with
      | .ok t => runScript f allowed t is
      | .error _ => none
    else none

theorem run_of_runScript {ε : Type w} {f : σ → ι → Except ε σ} [∀ s i, Decidable (allowed s i)]
    {s t : σ} {script : List (σ → ι)} (h : runScript f allowed s script = some t) :
    ∃ is, Run (Restrict (fun s i t => f s i = .ok t) allowed) s is t := by
  induction script generalizing s with
  | nil =>
    simp only [runScript, Option.some.injEq] at h
    subst h
    exact ⟨[], .nil s⟩
  | cons i script ih =>
    simp only [runScript] at h
    split at h
    case isTrue hallowed =>
      rcases e : f s (i s) with err | r
      · simp [e] at h
      · rw [e] at h
        obtain ⟨is, hrun⟩ := ih h
        exact ⟨i s :: is, .cons ⟨hallowed, e⟩ hrun⟩
    case isFalse => cases h

/-- The last input of a script is taken in the state its other inputs lead to. -/
theorem runScript_append {ε : Type w} {f : σ → ι → Except ε σ} [∀ s i, Decidable (allowed s i)]
    {s t : σ} {script : List (σ → ι)} {i : σ → ι}
    (h : runScript f allowed s (script ++ [i]) = some t) :
    ∃ u, runScript f allowed s script = some u ∧ allowed u (i u) ∧ f u (i u) = .ok t := by
  induction script generalizing s with
  | nil =>
    simp only [List.nil_append, runScript] at h
    split at h
    case isTrue hallowed =>
      rcases e : f s (i s) with err | r <;> rw [e] at h
      · cases h
      · exact ⟨s, rfl, hallowed, e.trans (congrArg _ (Option.some.inj h))⟩
    case isFalse => cases h
  | cons j script ih =>
    simp only [List.cons_append, runScript] at h ⊢
    split at h
    case isTrue hallowed =>
      rcases e : f s (j s) with err | r
      · simp [e] at h
      · simp only [e] at h
        simp only [if_pos hallowed]
        exact ih h
    case isFalse => cases h

/-- A script that runs to its end, and leads to a state with the property. -/
structure Script {ε : Type w} (f : σ → ι → Except ε σ) (allowed : σ → ι → Prop)
    [∀ s i, Decidable (allowed s i)] (s₀ : σ) (property : σ → Bool) where
  inputs : List (σ → ι)
  leads : (runScript f allowed s₀ inputs).any property = true

namespace Script

variable {ε : Type w} {f : σ → ι → Except ε σ} [∀ s i, Decidable (allowed s i)] {s₀ : σ}
  {property : σ → Bool}

/-- The state that a script leads to. -/
theorem leads_to (self : Script f allowed s₀ property) :
    ∃ s, runScript f allowed s₀ self.inputs = some s ∧ property s = true :=
  (Option.any_eq_true _ _).mp self.leads

/-- **A script is a run** to a state with the property. -/
theorem run (self : Script f allowed s₀ property) :
    ∃ s is, Run (Restrict (fun s i t => f s i = .ok t) allowed) s₀ is s ∧ property s = true := by
  obtain ⟨s, hs, hproperty⟩ := self.leads_to
  obtain ⟨is, hrun⟩ := run_of_runScript hs
  exact ⟨s, is, hrun, hproperty⟩

end Script

/-! ### Simulation -/

/-- **Forward simulation.** Every step of the concrete system is matched by an abstract step
under the same input, or leaves the abstract state where it is. -/
structure Simulates (R : σ → τ → Prop) (step : σ → ι → σ → Prop)
    (astep : τ → ι → τ → Prop) : Prop where
  step : ∀ {s i s' a}, R s a → step s i s' → ∃ a', R s' a' ∧ (a' = a ∨ astep a i a')

theorem Simulates.run {R : σ → τ → Prop} {astep : τ → ι → τ → Prop}
    (hsim : Simulates R step astep) {s t : σ} {is : List ι} (h : Run step s is t)
    {a : τ} (ha : R s a) : ∃ a' js, R t a' ∧ js.Sublist is ∧ Run astep a js a' := by
  induction h generalizing a with
  | nil s => exact ⟨a, [], ha, .slnil, .nil a⟩
  | cons hi _ ih =>
    obtain ⟨b, hb, hab⟩ := hsim.step ha hi
    obtain ⟨c, js, hc, hsub, hrun⟩ := ih hb
    rcases hab with rfl | hab
    · exact ⟨c, js, hc, hsub.cons _, hrun⟩
    · exact ⟨c, _ :: js, hc, hsub.cons_cons _, .cons hab hrun⟩

end Idr
