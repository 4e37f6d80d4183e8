import CppRcp.Foundation.Runs
import CppRcp.Foundation.TrailingRuns
import CppRcp.Peripherals.Signals

/-!
# What a debounced pin shows

A pin is sampled with a fixed debounce length.  Its settled value is that of
the most recent run of samples as long as that, and a change is reported at the
sample that completes such a run against the value settled before.
-/

namespace CppRcp.Gpio

open CppRcp.Foundation

/-- The value of the most recent run, or false while there is none. -/
structure SettlesTo (n : Nat) (history : List Bool) (value : Bool) : Prop where
  latest : ∀ latest, LastRun n latest history → value = latest
  none : (∀ latest, ¬ LastRun n latest history) → value = false

/-- The latest sample completes a run against the value settled before. -/
def Changes (n : Nat) (before history : List Bool) : Prop :=
  ∃ value settled, ReachesRun n value history ∧ LastRun n settled before ∧
    settled ≠ value

namespace GpioDebounceState

def step (n : UInt8) (s : GpioDebounceState) (rawValue : Bool) :
    GpioDebounceState × Bool × Bool :=
  s.debounceSample rawValue n

private theorem toNat_pos {n : UInt8} (hn : 0 < n) : 0 < n.toNat :=
  UInt8.lt_iff_toNat_lt.mp hn

/-! ## One sample -/

def counted (s : GpioDebounceState) (value : Bool) : Nat :=
  if s.hasCandidate && s.candidateValue == value then
    s.consecutiveCount.toNat
  else 0

def settled? (s : GpioDebounceState) : Option Bool :=
  if s.hasSettled then some s.settledValue else none

private theorem candidate_count (s : GpioDebounceState) (rawValue : Bool) :
    (s.count rawValue).hasCandidate = true ∧
      (s.count rawValue).candidateValue = rawValue := by
  unfold count
  split
  · exact ⟨rfl, rfl⟩
  · next hSame =>
      have hBoth : s.hasCandidate = true ∧ s.candidateValue = rawValue := by
        simpa using hSame
      split <;> exact hBoth

@[simp] theorem settled?_count (s : GpioDebounceState) (rawValue : Bool) :
    (s.count rawValue).settled? = s.settled? := by
  unfold count
  split
  · rfl
  · split <;> rfl

private theorem counted_of_candidate {s : GpioDebounceState} {value : Bool}
    (h : s.hasCandidate = true ∧ s.candidateValue = value) :
    s.counted value = s.consecutiveCount.toNat := by
  simp [counted, h.1, h.2]

private theorem counted_of_other {s : GpioDebounceState} {value : Bool}
    (h : ¬ (s.hasCandidate = true ∧ s.candidateValue = value)) :
    s.counted value = 0 := by
  rw [counted, if_neg (by simpa using h)]

private theorem counted_count (s : GpioDebounceState) (rawValue value : Bool) :
    (s.count rawValue).counted value =
      if rawValue = value then min 255 (s.counted value + 1) else 0 := by
  have hCandidate := s.candidate_count rawValue
  split
  · next hSame =>
      subst hSame
      rw [counted_of_candidate hCandidate]
      by_cases hKept : s.hasCandidate = true ∧ s.candidateValue = rawValue
      · rw [counted_of_candidate hKept, count, if_neg (by simp [hKept])]
        have hBound := s.consecutiveCount.toNat_lt
        split
        · next hRoom =>
            have hLess : s.consecutiveCount.toNat < 255 := hRoom
            have hNext : (s.consecutiveCount + 1).toNat =
                s.consecutiveCount.toNat + 1 := by
              rw [UInt8.toNat_add]
              exact Nat.mod_eq_of_lt (by change _ + 1 < _; omega)
            rw [hNext]
            omega
        · next hFull =>
            have hMost : 255 ≤ s.consecutiveCount.toNat :=
              UInt8.le_iff_toNat_le.mp (UInt8.not_lt.mp hFull)
            omega
      · have hReset : (!s.hasCandidate || s.candidateValue != rawValue) =
            true := by
          by_contra hNot
          exact hKept (by simpa using hNot)
        rw [counted_of_other hKept, count, if_pos hReset]
        rfl
  · next hOther =>
      exact counted_of_other fun h => hOther (hCandidate.2.symm.trans h.2)

private theorem debounceSample_spec (s : GpioDebounceState) (rawValue : Bool)
    {n : UInt8} (hn : n ≠ 0) :
    let after := s.debounceSample rawValue n
    let ready := n.toNat ≤ (s.count rawValue).counted rawValue
    (∀ value, after.1.counted value = (s.count rawValue).counted value) ∧
      after.1.settled? = (if ready then some rawValue else s.settled?) ∧
      after.2.1 = after.1.settled?.getD false ∧
      (after.2.2 = true ↔ ready ∧ s.settled? = some !rawValue) := by
  have hCandidate := s.candidate_count rawValue
  have hCounted := counted_of_candidate hCandidate
  have hSettled := s.settled?_count rawValue
  simp only [debounceSample, if_neg hn, hCounted]
  rw [← hSettled]
  generalize s.count rawValue = counting at *
  obtain ⟨hHas, rfl⟩ := hCandidate
  obtain ⟨hasSettled, settledValue, hasCandidate, candidateValue, count⟩ :=
    counting
  simp only [UInt8.le_iff_toNat_le, settled?, counted]
  by_cases hReady : n.toNat ≤ count.toNat
  · cases hasSettled <;> cases settledValue <;> cases candidateValue <;>
      simp_all
  · simp [hReady]
    cases hasSettled <;> simp

/-- The state knows the run the history ends with, as far as the counter
goes, and the most recent run of the debounce length. -/
structure Tracks (n : UInt8) (history : List Bool) (s : GpioDebounceState) :
    Prop where
  counts : ∀ value, s.counted value = min 255 (trailing value history)
  settles : ∀ value, s.settled? = some value ↔ LastRun n.toNat value history

section Sample

variable {n : UInt8} {history : List Bool} {s : GpioDebounceState}

private theorem Tracks.counted_count (h : Tracks n history s)
    (rawValue value : Bool) :
    (s.count rawValue).counted value =
      min 255 (trailing value (history ++ [rawValue])) := by
  rw [GpioDebounceState.counted_count, trailing_snoc, h.counts]
  split
  · omega
  · rfl

private theorem Tracks.ready_iff (h : Tracks n history s) (rawValue : Bool) :
    n.toNat ≤ (s.count rawValue).counted rawValue ↔
      n.toNat ≤ trailing rawValue (history ++ [rawValue]) := by
  have hBound := n.toNat_lt
  rw [h.counted_count]
  omega

theorem Tracks.step (h : Tracks n history s) (hn : 0 < n)
    (rawValue : Bool) :
    Tracks n (history ++ [rawValue]) (s.step n rawValue).1 := by
  obtain ⟨hCounts, hSettled, -, -⟩ :=
    s.debounceSample_spec rawValue (UInt8.pos_iff_ne_zero.mp hn)
  refine ⟨fun value => ?_, fun value => ?_⟩
  · exact (hCounts value).trans (h.counted_count rawValue value)
  · have hReady := h.ready_iff rawValue
    change (s.debounceSample rawValue n).1.settled? = _ ↔ _
    rw [hSettled, lastRun_snoc (toNat_pos hn)]
    by_cases hEnds : n.toNat ≤ trailing rawValue (history ++ [rawValue])
    · rw [if_pos (hReady.mpr hEnds), if_pos hEnds, Option.some_inj]
      exact eq_comm
    · rw [if_neg (fun hNow => hEnds (hReady.mp hNow)), if_neg hEnds]
      exact h.settles value

private theorem Tracks.settlesTo (h : Tracks n history s) :
    SettlesTo n.toNat history (s.settled?.getD false) where
  latest latest hLatest := by
    rw [(h.settles latest).mpr hLatest, Option.getD_some]
  none hNone := by
    cases hSettled : s.settled? with
    | none => rfl
    | some value => exact absurd ((h.settles value).mp hSettled) (hNone value)

private theorem Tracks.changes (h : Tracks n history s) (hn : 0 < n)
    (rawValue : Bool) :
    (s.step n rawValue).2.2 = true ↔
      Changes n.toNat history (history ++ [rawValue]) := by
  obtain ⟨-, -, -, hChanged⟩ :=
    s.debounceSample_spec rawValue (UInt8.pos_iff_ne_zero.mp hn)
  have hPos := toNat_pos hn
  refine hChanged.trans ?_
  rw [h.ready_iff]
  constructor
  · rintro ⟨hEnds, hSettled⟩
    have hBefore := (h.settles _).mp hSettled
    refine ⟨rawValue, !rawValue, reachesRun_iff.mpr ?_, hBefore, by simp⟩
    by_contra hLonger
    rw [trailing_snoc, if_pos rfl] at hEnds hLonger
    have hSame : LastRun n.toNat rawValue history :=
      .of_endsRun (endsRun_iff.mpr (by omega))
    simpa using hBefore.unique hPos hSame
  · rintro ⟨value, settled, ⟨hEnds, -⟩, hBefore, hNe⟩
    obtain rfl := endsRun_snoc hPos hEnds
    refine ⟨endsRun_iff.mp hEnds, ?_⟩
    rw [h.settles]
    rwa [show (!value) = settled by cases value <;> cases settled <;> simp_all]

end Sample

/-! ## Runs -/

private theorem tracks_init {n : UInt8} (hn : 0 < n) :
    Tracks n [] debounceStateInit where
  counts _ := rfl
  settles value := by
    have hNone : ¬ LastRun n.toNat value [] := lastRun_nil (toNat_pos hn)
    simp [debounceStateInit, settled?, hNone]

theorem tracks_run {n : UInt8} (hn : 0 < n) (samples : List Bool) :
    Tracks n samples (run (step n) debounceStateInit samples).1 := by
  induction samples using List.reverseRecOn with
  | nil => exact tracks_init hn
  | append_singleton samples rawValue ih =>
      rw [run_append]
      exact ih.step hn rawValue

/-- The answer to every sample of a run. -/
theorem debounced_run {n : UInt8} (hn : 0 < n) (samples : List Bool) {i : Nat}
    (hi : i < samples.length) :
    ∃ value changed,
      (run (step n) debounceStateInit samples).2[i]? = some (value, changed) ∧
        SettlesTo n.toNat (samples.take (i + 1)) value ∧
        (changed = true ↔
          Changes n.toNat (samples.take i) (samples.take (i + 1))) := by
  have hTracks := tracks_run hn (samples.take i)
  have hTake : samples.take (i + 1) = samples.take i ++ [samples[i]] := by
    rw [List.take_add_one, List.getElem?_eq_getElem hi, Option.toList_some]
  obtain ⟨-, -, hValue, -⟩ := debounceSample_spec
    (run (step n) debounceStateInit (samples.take i)).1 samples[i]
      (UInt8.pos_iff_ne_zero.mp hn)
  refine ⟨_, _, by rw [getElem?_run, List.getElem?_eq_getElem hi]; rfl, ?_, ?_⟩
  · rw [hTake]
    change SettlesTo _ _ (debounceSample _ _ _).2.1
    rw [hValue]
    exact (hTracks.step hn samples[i]).settlesTo
  · rw [hTake]
    exact hTracks.changes hn samples[i]

theorem debounced_run_glitch :
    0 < (3 : UInt8) ∧ 6 < [true, true, true, false, false, true, false].length ∧
    ∃ value changed,
      (run (step 3) debounceStateInit
        [true, true, true, false, false, true, false]).2[6]? =
          some (value, changed) ∧
        SettlesTo 3 [true, true, true, false, false, true, false] value ∧
        (changed = true ↔
          Changes 3 [true, true, true, false, false, true]
            [true, true, true, false, false, true, false]) :=
  ⟨by decide, by decide,
    debounced_run (n := 3) (i := 6) (by decide)
      [true, true, true, false, false, true, false] (by decide)⟩

end GpioDebounceState

end CppRcp.Gpio
