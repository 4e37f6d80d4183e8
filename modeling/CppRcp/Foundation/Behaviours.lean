import CppRcp.Foundation.Runs

/-!
# Infinite runs

A step function fed with a sequence of inputs passes through a sequence of
states.  The first rule below lets a specification follow such a run step by
step; the others say what fairness brings about.
-/

namespace CppRcp.Foundation

open Filter

variable {σ τ α ω : Type}

def states (step : σ → α → σ × ω) (s : σ) (inputs : ℕ → α) : ℕ → σ
  | 0 => s
  | n + 1 => (step (states step s inputs n) (inputs n)).1

section States

variable (step : σ → α → σ × ω) (s : σ) (inputs : ℕ → α)

theorem states_succ (n : ℕ) :
    states step s inputs (n + 1) =
      (step (states step s inputs n) (inputs n)).1 := rfl

end States

theorem exists_following {step : σ → α → σ × ω} {R : σ → τ → Prop}
    {M : σ → α → τ → τ → Prop}
    (hStep : ∀ s a t, R s t → ∃ t', R (step s a).1 t' ∧ M s a t t') {s : σ}
    {t : τ} (h : R s t) (inputs : ℕ → α) :
    ∃ spec : ℕ → τ, spec 0 = t ∧
      ∀ n, R (states step s inputs n) (spec n) ∧
        M (states step s inputs n) (inputs n) (spec n) (spec (n + 1)) := by
  choose! next hRelated hMatched using hStep
  let spec : ℕ → τ := fun n =>
    n.rec t fun n t => next (states step s inputs n) (inputs n) t
  have hAll (n : ℕ) : R (states step s inputs n) (spec n) := by
    induction n with
    | zero => exact h
    | succ n ih => exact hRelated _ _ _ ih
  exact ⟨spec, rfl, fun n => ⟨hAll n, hMatched _ _ _ (hAll n)⟩⟩

/-! ## Fairness -/

/-- An action that stays enabled from some point on is taken again and
again. -/
def WeaklyFair (enabled taken : ℕ → Prop) : Prop :=
  (∀ᶠ n in atTop, enabled n) → ∃ᶠ n in atTop, taken n

def StronglyFair (enabled taken : ℕ → Prop) : Prop :=
  (∃ᶠ n in atTop, enabled n) → ∃ᶠ n in atTop, taken n

section Fairness

variable {P enabled taken : ℕ → Prop}

theorem WeaklyFair.exists_taken (hFair : WeaklyFair enabled taken) {start : ℕ}
    (hEnabled : ∀ n ≥ start, P n → enabled n)
    (hLasts : ∀ n ≥ start, P n → ¬ taken n → P (n + 1)) (h : P start) :
    ∃ n ≥ start, P n ∧ taken n := by
  by_contra hNever
  push Not at hNever
  have hAll : ∀ n ≥ start, P n := by
    intro n hn
    induction n, hn using Nat.le_induction with
    | base => exact h
    | succ n hn ih => exact hLasts n hn ih (hNever n hn ih)
  obtain ⟨n, hn, hTaken⟩ := frequently_atTop.mp
    (hFair (eventually_atTop.mpr ⟨start, fun n hn => hEnabled n hn (hAll n hn)⟩))
    start
  exact hNever n hn (hAll n hn) hTaken

theorem weaklyFair_of_frequently_not (h : ∃ᶠ n in atTop, ¬ enabled n) :
    WeaklyFair enabled taken :=
  fun hEnabled => absurd hEnabled (not_eventually.mpr h)

theorem frequently_of_leads {Q : ℕ → Prop} {start : ℕ}
    (h : ∀ n ≥ start, ∃ m ≥ n, Q m) : ∃ᶠ n in atTop, Q n := by
  refine frequently_atTop.mpr fun n => ?_
  obtain ⟨m, hm, hQ⟩ := h (max n start) (le_max_right n start)
  exact ⟨m, (le_max_left n start).trans hm, hQ⟩

end Fairness

end CppRcp.Foundation
