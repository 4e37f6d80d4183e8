import CppRcp.Foundation.Runs

/-!
# Threads over a shared state

Any number of threads run the same code over one shared state, and an input
makes one of them take one atomic step.  What every thread may rely on is a
property of the shared state together with its own stage.  A step has to keep
it for the thread that takes it and for every other one.  A component that
keeps a list of the calls made on it adds calls at the end or takes some of
them further, each as a relation allows, and what that relation does not leave
holds of a call from then on.
-/

namespace CppRcp.Foundation

structure Pool (σ τ : Type) where
  shared : σ
  stages : Nat → τ

namespace Pool

variable {σ τ α : Type}

/-- The step of thread `input.1`. -/
def step (threadStep : σ → τ → α → σ × τ) (pool : Pool σ τ)
    (input : Nat × α) : Pool σ τ × Unit :=
  let next := threadStep pool.shared (pool.stages input.1) input.2
  ({ shared := next.1
     stages := Function.update pool.stages input.1 next.2 }, ())

/-- The steps of thread `id` that change its stage. -/
def moves [DecidableEq τ] (threadStep : σ → τ → α → σ × τ) (id : Nat) :
    Pool σ τ → List (Nat × α) → Nat
  | _, [] => 0
  | pool, input :: inputs =>
      let next := (pool.step threadStep input).1
      (if next.stages id = pool.stages id then 0 else 1) +
        moves threadStep id next inputs

def Relies (Local : σ → τ → Prop) (pool : Pool σ τ) : Prop :=
  ∀ id, Local pool.shared (pool.stages id)

section Rules

variable {threadStep : σ → τ → α → σ × τ} {Local : σ → τ → Prop}
  {Allowed : σ → τ → α → Prop}

/-- A step keeps `Local` for its own thread and for the others. -/
structure Keeps (threadStep : σ → τ → α → σ × τ) (Local : σ → τ → Prop)
    (Allowed : σ → τ → α → Prop) : Prop where
  own : ∀ shared stage input, Local shared stage →
    Allowed shared stage input →
      Local (threadStep shared stage input).1 (threadStep shared stage input).2
  other : ∀ shared stage input bystander, Local shared stage →
    Allowed shared stage input → Local shared bystander →
      Local (threadStep shared stage input).1 bystander

/-- The thread of the input may take it. -/
def Allows (Allowed : σ → τ → α → Prop) (pool : Pool σ τ)
    (input : Nat × α) : Prop :=
  Allowed pool.shared (pool.stages input.1) input.2

theorem relies_step (hKeeps : Keeps threadStep Local Allowed)
    (pool : Pool σ τ) (input : Nat × α) (h : pool.Relies Local)
    (hAllowed : pool.Allows Allowed input) :
    (pool.step threadStep input).1.Relies Local := by
  intro id
  have hOwn := h input.1
  by_cases hId : id = input.1
  · subst hId
    simp only [step, Function.update_self]
    exact hKeeps.own _ _ _ hOwn hAllowed
  · simp only [step, Function.update_of_ne hId]
    exact hKeeps.other _ _ _ _ hOwn hAllowed (h id)

theorem relies_run (hKeeps : Keeps threadStep Local Allowed)
    {pool : Pool σ τ} {inputs : List (Nat × α)} (h : pool.Relies Local)
    (hAllowed : Along (step threadStep) (Allows Allowed) pool inputs) :
    (run (step threadStep) pool inputs).1.Relies Local :=
  invariant_run_along (relies_step hKeeps) h hAllowed

theorem moves_add_rank_le [DecidableEq τ]
    (hKeeps : Keeps threadStep Local Allowed) {rank : τ → Nat}
    (hFalls : ∀ shared stage input, Local shared stage →
      Allowed shared stage input →
        (threadStep shared stage input).2 ≠ stage →
          rank (threadStep shared stage input).2 < rank stage)
    {pool : Pool σ τ} {inputs : List (Nat × α)} (h : pool.Relies Local)
    (hAllowed : Along (step threadStep) (Allows Allowed) pool inputs)
    (id : Nat) :
    moves threadStep id pool inputs +
        rank ((run (step threadStep) pool inputs).1.stages id) ≤
      rank (pool.stages id) := by
  induction inputs generalizing pool with
  | nil => simp [moves]
  | cons input inputs ih =>
      have hNext := relies_step hKeeps pool input h hAllowed.1
      have hRest := ih hNext hAllowed.2
      rw [run_cons, moves]
      dsimp only
      split
      · next hSame =>
          rw [hSame] at hRest
          omega
      · next hMoved =>
          have hOwn : id = input.1 := by
            by_contra hOther
            exact hMoved (Function.update_of_ne hOther ..)
          subst hOwn
          have hStage : (pool.step threadStep input).1.stages input.1 =
              (threadStep pool.shared (pool.stages input.1) input.2).2 :=
            Function.update_self ..
          rw [hStage] at hMoved hRest
          have hLess := hFalls _ _ _ (h input.1) hAllowed.1 hMoved
          omega

end Rules

end Pool

/-! ## Calls in progress -/

variable {σ α ω γ : Type} {R : γ → γ → Prop}

/-- Each call of `before` is in `after` too, and may have gone on. -/
def Goes (R : γ → γ → Prop) (before after : List γ) : Prop :=
  ∀ (i : Nat) (old : γ), before[i]? = some old →
    ∃ new, after[i]? = some new ∧ R old new

theorem goes_append (hRefl : ∀ call, R call call) (calls more : List γ) :
    Goes R calls (calls ++ more) := by
  intro i old hOld
  obtain ⟨hi, -⟩ := List.getElem?_eq_some_iff.mp hOld
  exact ⟨old, by rw [List.getElem?_append_left hi, hOld], hRefl old⟩

theorem goes_self (hRefl : ∀ call, R call call) (calls : List γ) :
    Goes R calls calls :=
  fun _ old hOld => ⟨old, hOld, hRefl old⟩

theorem goes_set (hRefl : ∀ call, R call call) {calls : List γ} {i : Nat}
    {old new : γ} (hCall : calls[i]? = some old) (hNext : R old new) :
    Goes R calls (calls.set i new) := by
  intro j call hOther
  by_cases hSame : i = j
  · subst hSame
    obtain rfl : old = call := Option.some.inj (hCall.symm.trans hOther)
    obtain ⟨hi, -⟩ := List.getElem?_eq_some_iff.mp hCall
    exact ⟨new, List.getElem?_set_self hi, hNext⟩
  · exact ⟨call, by rw [List.getElem?_set_ne hSame, hOther], hRefl call⟩

/-- The call is there, and `P` holds of it. -/
def CallIs (calls : List γ) (i : Nat) (P : γ → Prop) : Prop :=
  ∃ call, calls[i]? = some call ∧ P call

theorem callIs_set {calls : List γ} {i : Nat} {old new : γ} {P : γ → Prop}
    (hCall : calls[i]? = some old) (hNew : P new) :
    CallIs (calls.set i new) i P := by
  obtain ⟨hi, -⟩ := List.getElem?_eq_some_iff.mp hCall
  exact ⟨new, List.getElem?_set_self hi, hNew⟩

theorem CallIs.unique {calls : List γ} {i : Nat} {call : γ} {P : γ → Prop}
    (h : CallIs calls i P) (hCall : calls[i]? = some call) : P call := by
  obtain ⟨found, hFound, hP⟩ := h
  obtain rfl : found = call := Option.some.inj (hFound.symm.trans hCall)
  exact hP

theorem callIs_run {step : σ → α → σ × ω} {calls : σ → List γ}
    {P : γ → Prop} {i : Nat}
    (hStep : ∀ s a, Goes R (calls s) (calls (step s a).1))
    (hClosed : ∀ old new, R old new → P old → P new) {s : σ} (as : List α)
    (h : CallIs (calls s) i P) : CallIs (calls (run step s as).1) i P := by
  refine invariant_run (I := fun s => CallIs (calls s) i P)
    (fun s a hCall => ?_) as h
  obtain ⟨call, hOld, hP⟩ := hCall
  obtain ⟨next, hNext, hGoes⟩ := hStep s a i call hOld
  exact ⟨next, hNext, hClosed call next hGoes hP⟩

end CppRcp.Foundation
