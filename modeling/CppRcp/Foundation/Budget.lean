import CppRcp.Foundation.Runs

/-!
# Spending against a potential

Each step of a run may spend one unit.  When what a step spends and the
potential it leaves are covered by the potential before it, so is all that the
run spends.  Inputs in order of time split at any time.
-/

namespace CppRcp.Foundation

variable {σ α ω : Type}

section Spending

variable {K : Type} [Field K] [LinearOrder K] [IsStrictOrderedRing K]
  {step : σ → α → σ × ω} {P : σ → α → Prop} {potential : σ → K}
  {spends : ω → Bool}

theorem countP_add_potential_le
    (hStep : ∀ s a, P s a →
      (if spends (step s a).2 then 1 else 0) + potential (step s a).1 ≤
        potential s)
    {s : σ} {as : List α} (hAlong : Along step P s as) :
    ((run step s as).2.countP spends : K) + potential (run step s as).1 ≤
      potential s := by
  induction as generalizing s with
  | nil => simp
  | cons a as ih =>
      have hFirst := hStep s a hAlong.1
      have hRest := ih hAlong.2
      rw [run_cons, List.countP_cons]
      dsimp only
      push_cast
      linarith

theorem countP_run_eq_zero (s : σ) {as : List α}
    (h : ∀ a ∈ as, ∀ s, spends (step s a).2 = false) :
    (run step s as).2.countP spends = 0 := by
  induction as generalizing s with
  | nil => rfl
  | cons a as ih =>
      obtain ⟨hFirst, hRest⟩ := List.forall_mem_cons.mp h
      rw [run_cons, List.countP_cons, ih _ hRest]
      simp [hFirst s]

end Spending

/-! ## Gains -/

section Total

variable {M : Type} [AddCommMonoid M]

def total (step : σ → α → σ × ω) (f : σ → α → M) : σ → List α → M
  | _, [] => 0
  | s, a :: as => f s a + total step f (step s a).1 as

theorem total_add (step : σ → α → σ × ω) (f g : σ → α → M) (s : σ)
    (as : List α) :
    total step (fun s a => f s a + g s a) s as =
      total step f s as + total step g s as := by
  induction as generalizing s with
  | nil => simp [total]
  | cons a as ih => simp [total, ih, add_add_add_comm]

variable [PartialOrder M] [IsOrderedAddMonoid M]

theorem total_add_potential_le {step : σ → α → σ × ω} {P : σ → α → Prop}
    {spends gains : σ → α → M} (potential : σ → M)
    (hStep : ∀ s a, P s a →
      spends s a + potential (step s a).1 ≤ potential s + gains s a)
    {s : σ} {as : List α} (hAlong : Along step P s as) :
    total step spends s as + potential (run step s as).1 ≤
      potential s + total step gains s as := by
  induction as generalizing s with
  | nil => simp [total]
  | cons a as ih =>
      have hFirst := hStep s a hAlong.1
      have hRest := ih hAlong.2
      rw [run_cons]
      calc total step spends s (a :: as) +
              potential (run step (step s a).1 as).1
          = spends s a + (total step spends (step s a).1 as +
              potential (run step (step s a).1 as).1) := by
            rw [total, add_assoc]
        _ ≤ spends s a + (potential (step s a).1 +
              total step gains (step s a).1 as) := by gcongr
        _ = spends s a + potential (step s a).1 +
              total step gains (step s a).1 as := by rw [add_assoc]
        _ ≤ potential s + gains s a +
              total step gains (step s a).1 as := by gcongr
        _ = potential s + total step gains s (a :: as) := by
            rw [total, add_assoc]

end Total

/-- Where `p` never comes back, the list is a part with `p` and a part
without. -/
theorem exists_append_of_pairwise {p : α → Prop} {as : List α}
    (h : as.Pairwise fun a b => p b → p a) :
    ∃ before after, as = before ++ after ∧ (∀ a ∈ before, p a) ∧
      ∀ a ∈ after, ¬ p a := by
  induction as with
  | nil => exact ⟨[], [], rfl, by simp, by simp⟩
  | cons a as ih =>
      obtain ⟨hFirst, hRest⟩ := List.pairwise_cons.mp h
      by_cases ha : p a
      · obtain ⟨before, after, rfl, hBefore, hAfter⟩ := ih hRest
        refine ⟨a :: before, after, rfl, ?_, hAfter⟩
        exact List.forall_mem_cons.mpr ⟨ha, hBefore⟩
      · refine ⟨[], a :: as, rfl, by simp, ?_⟩
        exact List.forall_mem_cons.mpr ⟨ha, fun b hb hp => ha (hFirst b hb hp)⟩

end CppRcp.Foundation
