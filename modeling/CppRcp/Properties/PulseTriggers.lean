import CppRcp.Foundation.Phases
import CppRcp.Peripherals.Signals

/-!
# The triggers of a pulse

Over one period of ticks, wherever it begins, the delayed cycle starts once and
reaches the middle of its pulse once.
-/

namespace CppRcp.Pwm

open CppRcp.Foundation

def Fires (event : UInt8) (period activeDuration : UInt16) (skew : UInt8)
    (rawTick : UInt32) : Prop :=
  triggerEventsAtTick period activeDuration skew rawTick &&& event ≠ 0

def InWindow (start : UInt32) (period : UInt16) (tick : UInt32) : Prop :=
  start.toNat ≤ tick.toNat ∧ tick.toNat < start.toNat + period.toNat

section Phase

variable {period : UInt16} (hPeriod : 0 < period) (skew : UInt8)
  (rawTick : UInt32)

include hPeriod

private theorem toNat_period : 0 < period.toNat := UInt16.lt_iff_toNat_lt.mp
    hPeriod

private theorem toNat_phase :
    (rawTick % period.toUInt32 + period.toUInt32).toNat =
        rawTick.toNat % period.toNat + period.toNat ∧
      (skew.toUInt32 % period.toUInt32).toNat ≤
        (rawTick % period.toUInt32 + period.toUInt32).toNat := by
  have hMod := Nat.mod_lt rawTick.toNat (toNat_period hPeriod)
  have hSkew := Nat.mod_lt skew.toNat (toNat_period hPeriod)
  have hBound := period.toNat_lt
  have hSum : (rawTick % period.toUInt32 + period.toUInt32).toNat =
      rawTick.toNat % period.toNat + period.toNat := by
    simp only [UInt32.toNat_add, UInt32.toNat_mod, UInt16.toNat_toUInt32]
    exact Nat.mod_eq_of_lt (by omega)
  refine ⟨hSum, ?_⟩
  rw [hSum, UInt32.toNat_mod, UInt8.toNat_toUInt32, UInt16.toNat_toUInt32]
  omega

private theorem toNat_delayedTick :
    (delayedTick period skew rawTick).toNat =
      (rawTick.toNat % period.toNat + period.toNat -
        skew.toNat % period.toNat) % period.toNat := by
  obtain ⟨hSum, hLe⟩ := toNat_phase hPeriod skew rawTick
  rw [delayedTick, UInt32.toNat_mod, UInt32.toNat_sub_of_le _ _ hLe, hSum,
    UInt32.toNat_mod, UInt8.toNat_toUInt32, UInt16.toNat_toUInt32]

private theorem delayedTick_eq_iff {d : UInt32} (hd : d.toNat < period.toNat) :
    delayedTick period skew rawTick = d ↔
      rawTick.toNat ≡ skew.toNat + d.toNat [MOD period.toNat] := by
  rw [← UInt32.toNat_inj, toNat_delayedTick hPeriod,
    sub_mod_eq_iff hd]

variable (activeDuration : UInt16)

private theorem fires_cycleStart_iff :
    Fires pwmOutTriggerEventCycleStart period activeDuration skew rawTick ↔
      rawTick.toNat ≡ skew.toNat [MOD period.toNat] := by
  have hAt : delayedTick period skew rawTick = 0 ↔ _ :=
    delayedTick_eq_iff hPeriod skew rawTick (toNat_period hPeriod)
  refine Iff.trans ?_ hAt
  rw [Fires, triggerEventsAtTick, if_neg (UInt16.pos_iff_ne_zero.mp hPeriod)]
  by_cases hStart : delayedTick period skew rawTick = 0
  · simp only [hStart, if_true]
    split <;> decide
  · simp only [hStart, if_false]
    split <;> decide

private theorem fires_midPulse_iff (hActive : activeDuration ≤ period) :
    Fires pwmOutTriggerEventMidPulse period activeDuration skew rawTick ↔
      rawTick.toNat ≡ skew.toNat + activeDuration.toNat / 2
        [MOD period.toNat] := by
  have hLe : activeDuration.toNat ≤ period.toNat := hActive
  have hPos := toNat_period hPeriod
  have hMiddle : (activeDuration / 2).toUInt32.toNat =
      activeDuration.toNat / 2 := by
    rw [UInt16.toNat_toUInt32, UInt16.toNat_div]
    rfl
  have hWithin : (activeDuration / 2).toUInt32.toNat < period.toNat := by
    omega
  have hAt := delayedTick_eq_iff hPeriod skew rawTick hWithin
  rw [hMiddle] at hAt
  refine Iff.trans ?_ hAt
  rw [Fires, triggerEventsAtTick, if_neg (UInt16.pos_iff_ne_zero.mp hPeriod)]
  by_cases hMid : delayedTick period skew rawTick =
      (activeDuration / 2).toUInt32
  · simp only [hMid, if_true]
    split <;> decide
  · simp only [hMid, if_false]
    split <;> decide

private theorem existsUnique_tick {start : UInt32}
    (hWindow : start.toNat + period.toNat ≤ 2 ^ 32) {phase : Nat}
    {P : UInt32 → Prop}
    (hPhase : ∀ tick, P tick ↔ tick.toNat ≡ phase [MOD period.toNat]) :
    ∃! tick, InWindow start period tick ∧ P tick := by
  obtain ⟨t, ⟨⟨hFrom, hTo⟩, hAt⟩, hUnique⟩ :=
    existsUnique_phase (toNat_period hPeriod) start.toNat phase
  have hTick : (UInt32.ofNat t).toNat = t :=
    UInt32.toNat_ofNat_of_lt' (by change t < 2 ^ 32; omega)
  refine ⟨UInt32.ofNat t, ⟨?_, ?_⟩, ?_⟩
  · rw [InWindow, hTick]
    exact ⟨hFrom, hTo⟩
  · rw [hPhase, hTick]
    exact hAt
  · rintro tick ⟨hIn, hFires⟩
    have hSame := hUnique tick.toNat ⟨hIn, (hPhase tick).mp hFires⟩
    rw [← hSame, UInt32.ofNat_toNat]

end Phase

/-- The triggers of a pulse over the ticks from `start` on. -/
structure PulseLaws (period activeDuration : UInt16) (skew : UInt8)
    (start : UInt32) : Prop where
  cycleStart : ∃! tick, InWindow start period tick ∧
    Fires pwmOutTriggerEventCycleStart period activeDuration skew tick
  midPulse : ∃! tick, InWindow start period tick ∧
    Fires pwmOutTriggerEventMidPulse period activeDuration skew tick
  cycleStartPhase : ∀ tick,
    Fires pwmOutTriggerEventCycleStart period activeDuration skew tick ↔
      tick.toNat ≡ skew.toNat [MOD period.toNat]
  midPulsePhase : ∀ tick,
    Fires pwmOutTriggerEventMidPulse period activeDuration skew tick ↔
      tick.toNat ≡ skew.toNat + activeDuration.toNat / 2 [MOD period.toNat]
  noUnderflow : ∀ tick : UInt32,
    (tick % period.toUInt32 + period.toUInt32).toNat =
        tick.toNat % period.toNat + period.toNat ∧
      (skew.toUInt32 % period.toUInt32).toNat ≤
        (tick % period.toUInt32 + period.toUInt32).toNat

theorem pulse_triggers {period activeDuration : UInt16} (skew : UInt8)
    {start : UInt32} (hPeriod : 0 < period) (hActive : activeDuration ≤ period)
    (hWindow : start.toNat + period.toNat ≤ 2 ^ 32) :
    PulseLaws period activeDuration skew start where
  cycleStart := existsUnique_tick hPeriod hWindow fun tick =>
    fires_cycleStart_iff hPeriod skew tick activeDuration
  midPulse := existsUnique_tick hPeriod hWindow fun tick =>
    fires_midPulse_iff hPeriod skew tick activeDuration hActive
  cycleStartPhase tick := fires_cycleStart_iff hPeriod skew tick activeDuration
  midPulsePhase tick :=
    fires_midPulse_iff hPeriod skew tick activeDuration hActive
  noUnderflow tick := toNat_phase hPeriod skew tick

theorem pulse_triggers_last :
    (0 < (10 : UInt16) ∧ (7 : UInt16) ≤ 10 ∧
      (4294967286 : UInt32).toNat + (10 : UInt16).toNat ≤ 2 ^ 32) ∧
    PulseLaws 10 7 200 4294967286 :=
  ⟨by decide, pulse_triggers 200 (by decide) (by decide) (by decide)⟩

end CppRcp.Pwm
