import Mathlib.Data.Nat.ModEq
import Mathlib.Tactic

/-!
# Phases of a period

A phase is a residue modulo a period.  The distance back to a phase is computed
without going below zero, and any period's worth of consecutive numbers holds
each phase once.
-/

namespace CppRcp.Foundation

theorem sub_mod_eq_iff {period d : Nat} (hd : d < period) (t phase : Nat) :
    (t % period + period - phase % period) % period = d ↔
      t ≡ phase + d [MOD period] := by
  have hPeriod : 0 < period := Nat.zero_lt_of_lt hd
  have hPhase := Nat.mod_lt phase hPeriod
  have hBack : phase + (t % period + period - phase % period) ≡
      t [MOD period] := by
    calc phase + (t % period + period - phase % period)
        ≡ phase % period + (t % period + period - phase % period)
            [MOD period] := ((Nat.mod_modEq phase period).symm.add_right _)
      _ = t % period + period := by omega
      _ ≡ t % period [MOD period] := by simp [Nat.ModEq]
      _ ≡ t [MOD period] := Nat.mod_modEq t period
  constructor
  · rintro rfl
    exact hBack.symm.trans ((Nat.mod_modEq _ _).symm.add_left phase)
  · intro hAt
    have hSame := (hBack.trans hAt).add_left_cancel' phase
    rw [← Nat.mod_eq_of_lt hd]
    exact hSame

theorem existsUnique_phase {period : Nat} (hPeriod : 0 < period)
    (start phase : Nat) :
    ∃! t, (start ≤ t ∧ t < start + period) ∧ t ≡ phase [MOD period] := by
  have hStep : ∀ t, start ≤ t → t < start + period →
      (t ≡ phase [MOD period] ↔
        t = start + (phase % period + period - start % period) % period) := by
    intro t hFrom hTo
    have hNear : t - start < period := by omega
    have hBack := sub_mod_eq_iff hNear phase start
    rw [Nat.add_sub_cancel' hFrom] at hBack
    rw [Nat.ModEq.comm, ← hBack]
    generalize (phase % period + period - start % period) % period = offset
    omega
  have hOffset : (phase % period + period - start % period) % period <
      period := Nat.mod_lt _ hPeriod
  refine ⟨_, ⟨⟨Nat.le_add_right _ _, Nat.add_lt_add_left hOffset start⟩,
    (hStep _ (Nat.le_add_right _ _) (Nat.add_lt_add_left hOffset start)).mpr
      rfl⟩, ?_⟩
  rintro t ⟨⟨hFrom, hTo⟩, hPhase⟩
  exact (hStep t hFrom hTo).mp hPhase

end CppRcp.Foundation
