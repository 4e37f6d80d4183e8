import CppRcp.Foundation.Runs
import CppRcp.Streams.Guards

/-!
# Runs of the sequence guard

With `rx_enforce_seq` on, the guard accepts a number exactly when it lies 1 to
127 places ahead of the last accepted one on the circle of octets.  The
accepted numbers of a whole run are therefore a chain of such steps, and a
chain comes back to a number only after a full turn of 256 places, which two
steps cannot make.
-/

namespace CppRcp.E2e

open CppRcp.Foundation CppRcp.Regmap

/-- A received number and the configuration it is checked under. -/
abbrev SeqInput := RequestStreamConfig × UInt8

def seqStep (guard : RxSequenceGuard) (input : SeqInput) :
    RxSequenceGuard × SeqResult :=
  guard.evaluate input.1 input.2

/-- `rx_enforce_seq` is on throughout. -/
def Enforced (inputs : List SeqInput) : Prop :=
  ∀ input ∈ inputs, input.1.rxEnforceSeq = true

/-- The guard after a list of received numbers. -/
def guardAfter (inputs : List SeqInput) : RxSequenceGuard :=
  (run seqStep {} inputs).1

/-- The numbers accepted along a run, in order. -/
def accepted (inputs : List SeqInput) : List UInt8 :=
  (inputs.zip (run seqStep {} inputs).2).filterMap fun step =>
    if step.2.accept then some step.1.2 else none

/-- A number 1 to 127 places ahead of another. -/
def Ahead (last seq : UInt8) : Prop :=
  1 ≤ (seq - last).toNat ∧ (seq - last).toNat ≤ 127

def RxSequenceGuard.tracked (guard : RxSequenceGuard) : Option UInt8 :=
  if guard.hasLast then some guard.lastSeq else none

/-! ## One step -/

section Step

variable (guard : RxSequenceGuard) {input : SeqInput}

private theorem seqStep_cases (hEnforce : input.1.rxEnforceSeq = true) :
    (guard.tracked = none ∧ (seqStep guard input).2.accept = true ∧
        (seqStep guard input).2.discontinuity = false ∧
        (seqStep guard input).1.tracked = some input.2) ∨
    (∃ last, guard.tracked = some last ∧ Ahead last input.2 ∧
        (seqStep guard input).2.accept = true ∧
        ((seqStep guard input).2.discontinuity = true ↔
          input.2 - last ≠ 1) ∧
        (seqStep guard input).1.tracked = some input.2) ∨
    (∃ last, guard.tracked = some last ∧ ¬ Ahead last input.2 ∧
        (seqStep guard input).2.accept = false ∧
        (seqStep guard input).1 = guard) := by
  unfold seqStep RxSequenceGuard.evaluate RxSequenceGuard.tracked
  by_cases hFirst : guard.hasLast = false
  · left
    simp [hFirst]
  · right
    rw [Bool.not_eq_false] at hFirst
    have hAhead : Ahead guard.lastSeq input.2 ↔
        (decide (1 ≤ input.2 - guard.lastSeq) &&
          decide (input.2 - guard.lastSeq ≤ 127)) = true := by
      rw [Bool.and_eq_true, decide_eq_true_iff, decide_eq_true_iff,
        UInt8.le_iff_toNat_le, UInt8.le_iff_toNat_le]
      rfl
    by_cases h : Ahead guard.lastSeq input.2
    · left
      refine ⟨guard.lastSeq, by simp [hFirst], h, ?_⟩
      simp [hFirst, hEnforce, hAhead.mp h]
    · right
      refine ⟨guard.lastSeq, by simp [hFirst], h, ?_⟩
      have hBehind := Bool.eq_false_iff.mpr (fun hOn => h (hAhead.mpr hOn))
      simp [hFirst, hEnforce, hBehind]

end Step

/-! ## Whole runs -/

private theorem guardAfter_snoc (inputs : List SeqInput) (input : SeqInput) :
    guardAfter (inputs ++ [input]) =
      (seqStep (guardAfter inputs) input).1 := by
  unfold guardAfter
  rw [run_append]
  rfl

private theorem accepted_snoc (inputs : List SeqInput) (input : SeqInput) :
    accepted (inputs ++ [input]) = accepted inputs ++
      if (seqStep (guardAfter inputs) input).2.accept then [input.2]
      else [] := by
  unfold accepted
  rw [run_append, List.zip_append (length_run ..).symm, List.filterMap_append]
  congr 1
  change List.filterMap _ [(input, (seqStep (guardAfter inputs) input).2)] = _
  cases h : (seqStep (guardAfter inputs) input).2.accept <;> simp [h]

private theorem tracked_guardAfter {inputs : List SeqInput}
    (h : Enforced inputs) :
    (guardAfter inputs).tracked = (accepted inputs).getLast? := by
  induction inputs using List.reverseRecOn with
  | nil => rfl
  | append_singleton inputs input ih =>
      have hInput : input.1.rxEnforceSeq = true := h input (by simp)
      have hBefore := ih (fun earlier hMem => h earlier (by simp [hMem]))
      rw [guardAfter_snoc, accepted_snoc]
      obtain ⟨-, hAccept, -, hNext⟩ | ⟨last, -, -, hAccept, -, hNext⟩ |
          ⟨last, -, -, hAccept, hSame⟩ :=
        seqStep_cases (guardAfter inputs) hInput
      · simp [hAccept, hNext]
      · simp [hAccept, hNext]
      · simp [hAccept, hSame, hBefore]

private theorem isChain_accepted {inputs : List SeqInput}
    (h : Enforced inputs) :
    (accepted inputs).IsChain Ahead := by
  induction inputs using List.reverseRecOn with
  | nil => exact List.isChain_nil
  | append_singleton inputs input ih =>
      have hInput : input.1.rxEnforceSeq = true := h input (by simp)
      have hEarlier : Enforced inputs :=
        fun earlier hMem => h earlier (by simp [hMem])
      have hTracked := tracked_guardAfter hEarlier
      rw [accepted_snoc]
      obtain ⟨hNone, hAccept, -⟩ | ⟨last, hLast, hAhead, hAccept, -⟩ |
          ⟨last, -, -, hAccept, -⟩ :=
        seqStep_cases (guardAfter inputs) hInput
      · rw [hNone] at hTracked
        rw [List.getLast?_eq_none_iff.mp hTracked.symm, hAccept]
        exact List.isChain_singleton _
      · rw [hAccept, if_pos rfl, List.isChain_append]
        refine ⟨ih hEarlier, List.isChain_singleton _, ?_⟩
        intro earlier hMem seq hSeq
        rw [← hTracked, hLast, Option.mem_some_iff] at hMem
        rw [List.head?_cons, Option.mem_some_iff] at hSeq
        rw [← hMem, ← hSeq]
        exact hAhead
      · rw [hAccept, if_neg Bool.false_ne_true, List.append_nil]
        exact ih hEarlier

private theorem toNat_distance (first middle last : UInt8) :
    (last - first).toNat =
      ((middle - first).toNat + (last - middle).toNat) % 256 := by
  have hFirst := first.toNat_lt
  have hMiddle := middle.toNat_lt
  have hLast := last.toNat_lt
  rw [UInt8.toNat_sub, UInt8.toNat_sub, UInt8.toNat_sub]
  omega

private theorem distance_of_isChain {numbers : List UInt8}
    (h : numbers.IsChain Ahead) (i count : Nat)
    (hEnd : i + count < numbers.length) :
    ∃ total, count ≤ total ∧ total ≤ 127 * count ∧
      (numbers[i + count] - numbers[i]).toNat = total % 256 := by
  induction count with
  | zero => exact ⟨0, by simp⟩
  | succ count ih =>
      obtain ⟨total, hLow, hHigh, hTotal⟩ := ih (by omega)
      obtain ⟨hOne, hLast⟩ := List.isChain_iff_getElem.mp h (i + count) hEnd
      refine ⟨total +
        (numbers[i + count + 1] - numbers[i + count]).toNat, by omega,
        by omega, ?_⟩
      rw [toNat_distance numbers[i] numbers[i + count], hTotal]
      change (total % 256 +
        (numbers[i + count + 1] - numbers[i + count]).toNat) % 256 = _
      omega

private theorem three_le_of_repeat {numbers : List UInt8}
    (h : numbers.IsChain Ahead) {i j : Nat} (hLt : i < j)
    (hEnd : j < numbers.length) (hSame : numbers[i] = numbers[j]) :
    i + 3 ≤ j := by
  obtain ⟨count, rfl⟩ := Nat.exists_eq_add_of_lt hLt
  obtain ⟨total, hLow, hHigh, hTotal⟩ :=
    distance_of_isChain h i (count + 1) hEnd
  change (numbers[i + count + 1] - numbers[i]).toNat = _ at hTotal
  rw [hSame, UInt8.sub_self] at hTotal
  change 0 = total % 256 at hTotal
  omega

/-- The laws of a run with `rx_enforce_seq` on: accepted numbers are a chain
of steps ahead and repeat only with two others in between; a rejected number
leaves the guard alone; and an accepted one is flagged exactly when it is not
the successor of the one accepted before. -/
theorem guard_run {inputs : List SeqInput} (h : Enforced inputs) :
    (accepted inputs).IsChain Ahead ∧
    (∀ i j, (hEnd : j < (accepted inputs).length) → (hLt : i < j) →
      (accepted inputs)[i] = (accepted inputs)[j] → i + 3 ≤ j) ∧
    ∀ before input after, inputs = before ++ input :: after →
      ((seqStep (guardAfter before) input).2.accept = false →
        (seqStep (guardAfter before) input).1 = guardAfter before) ∧
      ((seqStep (guardAfter before) input).2.accept = true →
        ((seqStep (guardAfter before) input).2.discontinuity = true ↔
          ∃ last, (accepted before).getLast? = some last ∧
            input.2 - last ≠ 1)) := by
  refine ⟨isChain_accepted h, ?_, ?_⟩
  · intro i j hEnd hLt hSame
    exact three_le_of_repeat (isChain_accepted h) hLt hEnd hSame
  · rintro before input after rfl
    have hInput : input.1.rxEnforceSeq = true := h input (by simp)
    have hBefore : Enforced before :=
      fun earlier hMem => h earlier (by simp [hMem])
    rw [← tracked_guardAfter hBefore]
    obtain ⟨hNone, hAccept, hFlag, -⟩ | ⟨last, hLast, -, hAccept, hFlag, -⟩ |
        ⟨last, -, -, hAccept, hSame⟩ :=
      seqStep_cases (guardAfter before) hInput
    · simp [hNone, hAccept, hFlag]
    · simp [hLast, hAccept, hFlag]
    · simp [hAccept, hSame]

theorem guard_run_wrapping :
    (accepted [({ rxEnforceSeq := true }, 254), ({ rxEnforceSeq := true }, 255),
      ({ rxEnforceSeq := true }, 254), ({ rxEnforceSeq := true }, 2)]).IsChain
        Ahead :=
  (guard_run (by unfold Enforced; decide)).1

end CppRcp.E2e
