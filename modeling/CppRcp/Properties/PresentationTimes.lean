import CppRcp.Admission.Conditions

/-!
# Presentation times

A presentation time is sent as the low 32 bits of a 48-bit instant, and the
receiver takes the instant nearest to its own clock.  Distances are those of
the 48-bit clock, which rolls over.  The instant is right modulo the clock, but
near a rollover it is not brought back into the range of the clock.

Admission and the gate read the same difference of the presentation time and
the clock, modulo the period of the clock.  More than half a period is taken
for a time that has passed, which is admitted whatever the horizon, and whose
gate is open at once.
-/

namespace CppRcp.Request

/-- From `reference` to `instant` on the clock, the shorter way round. -/
def signedDistance (reference instant : Nat) : Int :=
  ((instant : Int) - reference).bmod timedPresentationTimeModulus

/-- What an instant reconstructed from `wireTs` near `reference` is to be,
apart from its range. -/
structure NearestInstant (wireTs : UInt32) (reference instant : Nat) :
    Prop where
  congruent : instant % 2 ^ 32 = wireTs.toNat
  nearest : ∀ other < timedPresentationTimeModulus,
    other % 2 ^ 32 = wireTs.toNat →
      (signedDistance reference instant).natAbs ≤
        (signedDistance reference other).natAbs
  opens : ∀ d : Nat, d < signedDistance reference instant + 2 ^ 47 →
    (timedDue instant ((reference + d) % timedPresentationTimeModulus) ↔
      signedDistance reference instant ≤ d)

/-- The nearest instant, given as a time of the clock. -/
structure ExtendsTo (wireTs : UInt32) (reference instant : Nat) :
    Prop where
  inRange : instant < timedPresentationTimeModulus
  nearestInstant : NearestInstant wireTs reference instant

section Extend

variable {wireTs : UInt32} {reference instant : Nat} {offset : Int}

/-! ## The offset of the instant -/

private theorem exists_offset (wireTs : UInt32) (h : reference < 2 ^ 48) :
    ∃ offset : Int, -2 ^ 31 ≤ offset ∧ offset ≤ 2 ^ 31 ∧
      (reference + offset) % 2 ^ 32 = wireTs.toNat ∧
      (extendTimestamp wireTs reference : Int) =
        (reference + offset) % 2 ^ 64 := by
  have hWire := wireTs.toNat_lt
  unfold extendTimestamp
  dsimp only
  split_ifs with hAhead hBehind
  · refine ⟨reference / 2 ^ 32 * 2 ^ 32 + wireTs.toNat - 2 ^ 32 - reference, ?_⟩
    omega
  · refine ⟨reference / 2 ^ 32 * 2 ^ 32 + wireTs.toNat + 2 ^ 32 - reference, ?_⟩
    omega
  · refine ⟨reference / 2 ^ 32 * 2 ^ 32 + wireTs.toNat - reference, ?_⟩
    omega

private theorem signedDistance_eq (hLow : -2 ^ 31 ≤ offset)
    (hHigh : offset ≤ 2 ^ 31)
    (hInstant : (instant : Int) = (reference + offset) % 2 ^ 64) :
    signedDistance reference instant = offset := by
  unfold signedDistance timedPresentationTimeModulus
  rw [Int.bmod_eq_iff (by decide)]
  omega

private theorem natAbs_offset_le {other : Nat} (hLow : -2 ^ 31 ≤ offset)
    (hHigh : offset ≤ 2 ^ 31)
    (hSame : (reference + offset) % 2 ^ 32 = (other : Int) % 2 ^ 32) :
    offset.natAbs ≤ (signedDistance reference other).natAbs := by
  have hCongr : signedDistance reference other % 2 ^ 32 =
      ((other : Int) - reference) % 2 ^ 32 := by
    have hBmod := Int.bmod_emod (x := (other : Int) - reference)
      (m := timedPresentationTimeModulus)
    unfold signedDistance
    unfold timedPresentationTimeModulus at hBmod ⊢
    omega
  omega

/-! ## The gate -/

private theorem timedForwardDelta_eq (d : Nat)
    (hInstant : (instant : Int) = (reference + offset) % 2 ^ 64) :
    (timedForwardDelta instant
      ((reference + d) % timedPresentationTimeModulus) : Int) =
        (offset - d) % 2 ^ 48 := by
  unfold timedForwardDelta timedPresentationTimeModulus
  omega

/-- The gate opens at the instant, and stays open for half a turn of the
clock. -/
theorem timedDue_iff {d : Nat} (hHigh : offset ≤ 2 ^ 31)
    (hInstant : (instant : Int) = (reference + offset) % 2 ^ 64)
    (hHorizon : d < offset + 2 ^ 47) :
    timedDue instant ((reference + d) % timedPresentationTimeModulus) ↔
      offset ≤ d := by
  have hDelta := timedForwardDelta_eq d hInstant
  unfold timedDue timedInThePast
  generalize timedForwardDelta instant
    ((reference + d) % timedPresentationTimeModulus) = delta at hDelta
  rw [Bool.or_eq_true, decide_eq_true_iff, decide_eq_true_iff]
  unfold timedPresentationTimeModulus
  omega

/-! ## The instant -/

private theorem nearestInstant_extendTimestamp (wireTs : UInt32)
    (h : reference < 2 ^ 48) :
    NearestInstant wireTs reference (extendTimestamp wireTs reference) := by
  obtain ⟨offset, hLow, hHigh, hWire, hInstant⟩ := exists_offset wireTs h
  have hDistance := signedDistance_eq hLow hHigh hInstant
  constructor
  case congruent => omega
  case nearest =>
    intro other _ hOther
    rw [hDistance]
    exact natAbs_offset_le hLow hHigh (by omega)
  case opens =>
    intro d hHorizon
    rw [hDistance] at hHorizon ⊢
    exact timedDue_iff hHigh hInstant hHorizon

private theorem extendTimestamp_lt_iff (wireTs : UInt32)
    (h : reference < 2 ^ 48) :
    extendTimestamp wireTs reference < timedPresentationTimeModulus ↔
      wireTs.toNat ≤ reference + 2 ^ 31 ∧
        reference ≤ wireTs.toNat + (2 ^ 48 - 2 ^ 31) := by
  have hWire := wireTs.toNat_lt
  unfold extendTimestamp timedPresentationTimeModulus
  dsimp only
  split_ifs <;> omega

end Extend

/-- The instant lacks nothing but the reduction to the range of the clock, and
that only when the nearest instant is before its start or past its end. -/
theorem extendsTo_extendTimestamp_iff (wireTs : UInt32) (reference : Nat)
    (h : reference < 2 ^ 48) :
    (ExtendsTo wireTs reference (extendTimestamp wireTs reference) ↔
      wireTs.toNat ≤ reference + 2 ^ 31 ∧
        reference ≤ wireTs.toNat + (2 ^ 48 - 2 ^ 31)) ∧
    NearestInstant wireTs reference (extendTimestamp wireTs reference) := by
  have hNearest := nearestInstant_extendTimestamp wireTs h
  refine ⟨?_, hNearest⟩
  rw [← extendTimestamp_lt_iff wireTs h]
  constructor
  · intro hExtends
    exact hExtends.inRange
  · intro hRange
    exact ⟨hRange, hNearest⟩

theorem extendsTo_extendTimestamp_period :
    ExtendsTo 0 (2 ^ 32 - 100) (extendTimestamp 0 (2 ^ 32 - 100)) :=
  (extendsTo_extendTimestamp_iff 0 (2 ^ 32 - 100) (by decide)).1.mpr
    (by decide)

/-- The clock has just started, and a time of just before is meant. -/
theorem extendTimestamp_before_start :
    ¬ ExtendsTo 0xFFFFFFFF 0 (extendTimestamp 0xFFFFFFFF 0) := by
  intro hExtends
  exact absurd hExtends.inRange (by decide)

/-! ## Timed requests -/

/-- The clock stays within half a period of the presentation time, from
`now` to `now + d`. -/
def StaysWithinHalfPeriod (presentationTime now d : Nat) : Prop :=
  ∀ e ≤ d, (signedDistance presentationTime (now + e)).natAbs < 2 ^ 47

section TimedGate

variable {p now d horizon : Nat} {gptpLocked : Bool}

/-! ## Distances -/

private theorem timedForwardDelta_cast (p now : Nat) :
    (timedForwardDelta p now : Int) = ((p : Int) - now) % 2 ^ 48 := by
  unfold timedForwardDelta timedPresentationTimeModulus
  omega

private theorem signedDistance_add_emod (p now e : Nat) :
    signedDistance p (now + e) % 2 ^ 48 =
      (signedDistance p now + e) % 2 ^ 48 := by
  have hThere := Int.bmod_emod (x := ((now + e : Nat) : Int) - p)
    (m := timedPresentationTimeModulus)
  have hHere := Int.bmod_emod (x := (now : Int) - p)
    (m := timedPresentationTimeModulus)
  unfold signedDistance
  unfold timedPresentationTimeModulus at hThere hHere ⊢
  omega

private theorem timedForwardDelta_signedDistance (p now : Nat) :
    (timedForwardDelta p now : Int) = -signedDistance p now % 2 ^ 48 := by
  have hHere := Int.bmod_emod (x := (now : Int) - p)
    (m := timedPresentationTimeModulus)
  have hDelta := timedForwardDelta_cast p now
  unfold signedDistance
  unfold timedPresentationTimeModulus at hHere ⊢
  omega

theorem StaysWithinHalfPeriod.mono {e : Nat}
    (hStays : StaysWithinHalfPeriod p now d) (hLe : e ≤ d) :
    StaysWithinHalfPeriod p now e := by
  intro f hf
  exact hStays f (hf.trans hLe)

theorem StaysWithinHalfPeriod.start (hStays : StaysWithinHalfPeriod p now d) :
    (signedDistance p now).natAbs < 2 ^ 47 := by
  have hStart := hStays 0 (Nat.zero_le d)
  rwa [Nat.add_zero] at hStart

private theorem StaysWithinHalfPeriod.add_lt
    (hStays : StaysWithinHalfPeriod p now d) :
    signedDistance p now + d < 2 ^ 47 := by
  have hStart := hStays.start
  by_contra hLate
  obtain ⟨e, he⟩ : ∃ e : Nat, (e : Int) = 2 ^ 47 - signedDistance p now :=
    ⟨(2 ^ 47 - signedDistance p now).toNat, by omega⟩
  have hHalf := hStays e (by omega)
  have hEmod := signedDistance_add_emod p now e
  omega

/-! ## Admission and the gate -/

private theorem timedAdmit_eq_accept_iff :
    timedAdmit gptpLocked p now horizon = .accept ↔
      gptpLocked ∧ (2 ^ 47 < timedForwardDelta p now ∨
        timedForwardDelta p now ≤ horizon) := by
  have hHalf : timedPresentationTimeModulus / 2 = 2 ^ 47 := by decide
  unfold timedAdmit timedTooFar timedInThePast
  rw [hHalf]
  cases gptpLocked
  case false => simp
  case true =>
    by_cases hPast : 2 ^ 47 < timedForwardDelta p now
    · simp only [hPast, decide_true, if_true]
      simp
    · simp only [hPast, decide_false]
      simp

private theorem timedDue_add_iff (hStays : StaysWithinHalfPeriod p now d) :
    timedDue p (now + d) ↔ 0 ≤ signedDistance p now + d := by
  have hStart := hStays.start
  have hEnd := hStays.add_lt
  have hDelta := timedForwardDelta_signedDistance p (now + d)
  have hEmod := signedDistance_add_emod p now d
  have hHalf : timedPresentationTimeModulus / 2 = 2 ^ 47 := by decide
  unfold timedDue timedInThePast
  rw [hHalf, Bool.or_eq_true, decide_eq_true_iff, decide_eq_true_iff]
  omega

private theorem timedDue_mono {e : Nat} (hStays : StaysWithinHalfPeriod p now d)
    (hLe : e ≤ d) (hDue : timedDue p (now + e)) : timedDue p (now + d) := by
  rw [timedDue_add_iff (hStays.mono hLe)] at hDue
  rw [timedDue_add_iff hStays]
  omega

end TimedGate

/-- What is admitted as ahead is due from the difference on; what is admitted
as passed is due from the start. -/
theorem timedDue_of_timedAdmit (gptpLocked : Bool) (p now d horizon : Nat)
    (hAdmit : timedAdmit gptpLocked p now horizon = .accept)
    (hStays : StaysWithinHalfPeriod p now d) :
    (((p : Int) - now) % 2 ^ 48 ≤ horizon ∧
        (timedDue p (now + d) ↔ ((p : Int) - now) % 2 ^ 48 ≤ d) ∨
      2 ^ 47 < ((p : Int) - now) % 2 ^ 48 ∧ timedDue p (now + d)) ∧
    ∀ e ≤ d, timedDue p (now + e) → timedDue p (now + d) := by
  obtain ⟨-, hRange⟩ := timedAdmit_eq_accept_iff.mp hAdmit
  have hDelta := timedForwardDelta_signedDistance p now
  have hStart := hStays.start
  constructor
  · rw [timedDue_add_iff hStays, ← timedForwardDelta_cast]
    omega
  · intro e hLe hDue
    exact timedDue_mono hStays hLe hDue

theorem timedDue_of_timedAdmit_rollover :
    timedDue 2 (2 ^ 48 - 3 + 6) = true :=
  (timedDue_of_timedAdmit true 2 (2 ^ 48 - 3) 6 10 (by decide)
    (by unfold StaysWithinHalfPeriod; decide)).2 5 (by decide) (by decide)

/-- A time just passed is admitted with no horizon at all, and is due. -/
theorem timedDue_just_passed :
    ¬ ∀ (gptpLocked : Bool) (p now d horizon : Nat), p < 2 ^ 48 →
      now < 2 ^ 48 → horizon < 2 ^ 47 →
      timedAdmit gptpLocked p now horizon = .accept →
      StaysWithinHalfPeriod p now d →
      (timedDue p (now + d) ↔ ((p : Int) - now) % 2 ^ 48 ≤ d) := by
  intro hAll
  have hIff := hAll true 0 1 0 0 (by decide) (by decide) (by decide)
    (by decide) (by unfold StaysWithinHalfPeriod; decide)
  revert hIff
  decide

end CppRcp.Request
