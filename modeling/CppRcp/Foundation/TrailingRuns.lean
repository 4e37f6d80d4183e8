import Mathlib.Data.List.DropRight
import Mathlib.Tactic

/-!
# Runs at the end of a history

A history is a list of samples, the latest last.  How many equal samples it
ends with is counted sample by sample, and so is the value of the most recent
run of a given length.
-/

namespace CppRcp.Foundation

variable {α : Type}

/-- The last `n` samples are all `value`. -/
def EndsRun (n : Nat) (value : α) (history : List α) : Prop :=
  List.replicate n value <:+ history

/-- The latest sample of the history is the `n`th of a run of `value`. -/
def ReachesRun (n : Nat) (value : α) (history : List α) : Prop :=
  EndsRun n value history ∧ ¬ EndsRun (n + 1) value history

/-- The most recent run of at least `n` equal samples is one of `value`. -/
def LastRun (n : Nat) (value : α) (history : List α) : Prop :=
  ∃ before after, history = before ++ after ∧ EndsRun n value before ∧
    ∀ k, 0 < k → k ≤ after.length →
      ∀ other, ¬ EndsRun n other (before ++ after.take k)

theorem LastRun.of_endsRun {n : Nat} {value : α} {history : List α}
    (h : EndsRun n value history) : LastRun n value history := by
  refine ⟨history, [], by simp, h, fun k hk hLe => ?_⟩
  simp at hLe
  omega

variable [DecidableEq α]

/-- How many times in a row the history ends with `value`. -/
def trailing (value : α) (history : List α) : Nat :=
  (history.rtakeWhile fun sample => sample = value).length

@[simp] theorem trailing_nil (value : α) : trailing value [] = 0 := rfl

theorem trailing_snoc (value sample : α) (history : List α) :
    trailing value (history ++ [sample]) =
      if sample = value then trailing value history + 1 else 0 := by
  unfold trailing
  rw [List.rtakeWhile_concat]
  split <;> simp_all

theorem endsRun_iff {n : Nat} {value : α} {history : List α} :
    EndsRun n value history ↔ n ≤ trailing value history := by
  induction history using List.reverseRecOn generalizing n with
  | nil => simp [EndsRun]
  | append_singleton history sample ih =>
      rw [trailing_snoc]
      cases n with
      | zero => simp [EndsRun]
      | succ n =>
          have hSuffix : EndsRun (n + 1) value (history ++ [sample]) ↔
              value = sample ∧ EndsRun n value history := by
            rw [EndsRun, List.replicate_succ', EndsRun]
            constructor
            · rintro ⟨before, hBefore⟩
              rw [← List.append_assoc] at hBefore
              obtain ⟨hHistory, hSample⟩ := List.append_inj' hBefore rfl
              exact ⟨List.singleton_inj.mp hSample, before, hHistory⟩
            · rintro ⟨rfl, before, rfl⟩
              exact ⟨before, by simp⟩
          rw [hSuffix, ih]
          split <;> simp_all [eq_comm]

theorem reachesRun_iff {n : Nat} {value : α} {history : List α} :
    ReachesRun n value history ↔ trailing value history = n := by
  rw [ReachesRun, endsRun_iff, endsRun_iff]
  omega

theorem endsRun_snoc {n : Nat} {value sample : α} {history : List α}
    (hn : 0 < n) (h : EndsRun n value (history ++ [sample])) :
    value = sample := by
  rw [endsRun_iff, trailing_snoc] at h
  split at h
  · next hSame => exact hSame.symm
  · omega

theorem lastRun_nil {n : Nat} {value : α} (hn : 0 < n) :
    ¬ LastRun n value ([] : List α) := by
  rintro ⟨before, after, hEmpty, hEnds, -⟩
  obtain ⟨rfl, rfl⟩ := List.append_eq_nil_iff.mp hEmpty.symm
  rw [endsRun_iff, trailing_nil] at hEnds
  omega

theorem lastRun_snoc {n : Nat} {value sample : α} {history : List α}
    (hn : 0 < n) :
    LastRun n value (history ++ [sample]) ↔
      if n ≤ trailing sample (history ++ [sample]) then value = sample
      else LastRun n value history := by
  split
  · next hEnds =>
      rw [← endsRun_iff] at hEnds
      constructor
      · rintro ⟨before, after, hSplit, hBefore, hNone⟩
        cases after using List.reverseRecOn with
        | nil =>
            rw [List.append_nil] at hSplit
            rw [← hSplit] at hBefore
            exact endsRun_snoc hn hBefore
        | append_singleton after last =>
            refine absurd hEnds ?_
            have hAll := hNone (after ++ [last]).length (by simp) le_rfl sample
            rwa [List.take_length, ← hSplit] at hAll
      · rintro rfl
        exact .of_endsRun hEnds
  · next hShort =>
      have hNot : ∀ other, ¬ EndsRun n other (history ++ [sample]) := by
        intro other hOther
        obtain rfl := endsRun_snoc hn hOther
        exact hShort (endsRun_iff.mp hOther)
      constructor
      · rintro ⟨before, after, hSplit, hBefore, hNone⟩
        cases after using List.reverseRecOn with
        | nil =>
            rw [List.append_nil] at hSplit
            rw [← hSplit] at hBefore
            exact absurd hBefore (hNot value)
        | append_singleton after last =>
            rw [← List.append_assoc] at hSplit
            obtain ⟨rfl, -⟩ := List.append_inj' hSplit rfl
            refine ⟨before, after, rfl, hBefore, fun k hk hLe other => ?_⟩
            have hAt := hNone k hk (by simp; omega) other
            rwa [List.take_append_of_le_length hLe] at hAt
      · rintro ⟨before, after, rfl, hBefore, hNone⟩
        refine ⟨before, after ++ [sample], by simp, hBefore,
          fun k hk hLe other => ?_⟩
        rcases Nat.lt_or_ge after.length k with hLong | hWithin
        · have hAll : k = (after ++ [sample]).length := by
            simp at hLe ⊢
            omega
          rw [hAll, List.take_length, ← List.append_assoc]
          exact hNot other
        · rw [List.take_append_of_le_length hWithin]
          exact hNone k hk hWithin other

theorem LastRun.unique {n : Nat} {value other : α} {history : List α}
    (hn : 0 < n) (h : LastRun n value history)
    (hOther : LastRun n other history) : value = other := by
  induction history using List.reverseRecOn with
  | nil => exact absurd h (lastRun_nil hn)
  | append_singleton history sample ih =>
      rw [lastRun_snoc hn] at h hOther
      split at h
      · next hEnds =>
          rw [if_pos hEnds] at hOther
          exact h.trans hOther.symm
      · next hShort =>
          rw [if_neg hShort] at hOther
          exact ih h hOther

end CppRcp.Foundation
