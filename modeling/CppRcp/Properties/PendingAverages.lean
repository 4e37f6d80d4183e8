import CppRcp.Peripherals.PendingBuffer

/-!
# Averages waiting for a response

Measurement cycles and responses come in any order, each under a configuration
of its own.  The collected values are the accepted averages in their order, up
to those still pending.
-/

namespace CppRcp.Adc.Buffered

open CppRcp.Foundation

inductive AdcCall
  | executeMeasurementCycle (cfg : AdcFunctionalConfig)
      (takeSample : Nat → AdcSample)
  | collectResponse (cfg : AdcFunctionalConfig)

inductive AdcReturn
  | executed (failure : Option ErrorCode)
  | collected (result : Except ErrorCode (List UInt16 × Nat))

def AdcReturn.failed : AdcReturn → Bool
  | .executed failure => failure.isSome
  | .collected (.error _) => true
  | .collected (.ok _) => false

def AdcEndpoint.step (adc : AdcEndpoint) : AdcCall → AdcEndpoint × AdcReturn
  | .executeMeasurementCycle cfg takeSample =>
      let (adc, failure) := adc.executeMeasurementCycle cfg takeSample
      (adc, .executed failure)
  | .collectResponse cfg =>
      let (adc, result) := adc.collectResponse cfg
      (adc, .collected result)

def acceptedAverages : AdcCall × AdcReturn → List AdcSample
  | (.executeMeasurementCycle cfg takeSample, .executed none) =>
      [averageInterval
        ((List.range cfg.adcSamplesPerAvgInterval.toNat).map takeSample)]
  | _ => []

def collectedValues : AdcReturn → List UInt16
  | .collected (.ok (values, _)) => values
  | _ => []

def AdcEndpoint.taken (adc : AdcEndpoint) : AdcCall → List AdcSample
  | .collectResponse cfg =>
      if adc.pending.size < cfg.adcCombineAvgValues.toNat then []
      else adc.pending.values.take cfg.adcCombineAvgValues.toNat
  | _ => []

/-! ## One call -/

section Call

variable (adc : AdcEndpoint)

private theorem AdcEndpoint.executeMeasurementCycle_cases
    (cfg : AdcFunctionalConfig) (takeSample : Nat → AdcSample) :
    ((adc.executeMeasurementCycle cfg takeSample).2 = none ∧
      (adc.executeMeasurementCycle cfg takeSample).1.pending.values =
        adc.pending.values ++ [averageInterval
          ((List.range cfg.adcSamplesPerAvgInterval.toNat).map
            takeSample)]) ∨
    ((adc.executeMeasurementCycle cfg takeSample).2 =
        some (.adc .pendingValuesFull) ∧
      (adc.executeMeasurementCycle cfg takeSample).1.pending.values =
        adc.pending.values) := by
  have hQueue := adc.executeMeasurementCycle_toQueue cfg takeSample
  unfold Adc.AdcEndpoint.executeMeasurementCycle at hQueue
  split at hQueue
  · obtain ⟨hValues, hFull⟩ := Prod.ext_iff.mp hQueue
    exact .inr ⟨hFull.symm,
      (congrArg Adc.AdcEndpoint.pending hValues).symm⟩
  · obtain ⟨hValues, hDone⟩ := Prod.ext_iff.mp hQueue
    exact .inl ⟨hDone.symm,
      (congrArg Adc.AdcEndpoint.pending hValues).symm⟩

private theorem AdcEndpoint.collectResponse_cases (cfg : AdcFunctionalConfig) :
    ((adc.collectResponse cfg).2 =
        .ok ((adc.taken (.collectResponse cfg)).map AdcSample.value,
          captureMomentTimestamp (adc.taken (.collectResponse cfg))) ∧
      adc.taken (.collectResponse cfg) ++
        (adc.collectResponse cfg).1.pending.values = adc.pending.values) ∨
    ((adc.collectResponse cfg).2 = .error (.adc .responseNotReady) ∧
      adc.taken (.collectResponse cfg) = [] ∧
      (adc.collectResponse cfg).1.pending.values = adc.pending.values) := by
  have hQueue := adc.collectResponse_toQueue cfg
  have hLength : adc.toQueue.pending.length = adc.pending.size :=
    adc.pending.length_values
  unfold Adc.AdcEndpoint.collectResponse at hQueue
  rw [hLength] at hQueue
  have hTaken : adc.taken (.collectResponse cfg) =
      if adc.pending.size < cfg.adcCombineAvgValues.toNat then []
      else adc.pending.values.take cfg.adcCombineAvgValues.toNat := rfl
  rw [hTaken]
  split at hQueue
  · next hShort =>
      obtain ⟨hValues, hResult⟩ := Prod.ext_iff.mp hQueue
      rw [if_pos hShort]
      exact .inr ⟨hResult.symm, rfl,
        (congrArg Adc.AdcEndpoint.pending hValues).symm⟩
  · next hReady =>
      obtain ⟨hValues, hResult⟩ := Prod.ext_iff.mp hQueue
      have hDropped : (adc.collectResponse cfg).1.pending.values =
          adc.pending.values.drop cfg.adcCombineAvgValues.toNat :=
        (congrArg Adc.AdcEndpoint.pending hValues).symm
      rw [if_neg hReady, hDropped, List.take_append_drop]
      exact .inl ⟨hResult.symm, rfl⟩

end Call

private theorem AdcEndpoint.balanced :
    Balanced AdcEndpoint.step (fun adc => adc.pending.values)
      (fun adc call => acceptedAverages (call, (adc.step call).2))
      AdcEndpoint.taken := by
  intro adc call
  cases call with
  | executeMeasurementCycle cfg takeSample =>
      rcases adc.executeMeasurementCycle_cases cfg takeSample with
        ⟨hDone, hValues⟩ | ⟨hFull, hValues⟩
      · simp [step, taken, acceptedAverages, hDone, hValues]
      · simp [step, taken, acceptedAverages, hFull, hValues]
  | collectResponse cfg =>
      rcases adc.collectResponse_cases cfg with
        ⟨-, hValues⟩ | ⟨-, hNone, hValues⟩
      · simpa [step, acceptedAverages] using hValues
      · simp [step, acceptedAverages, hNone, hValues]

private theorem collectedValues_step (adc : AdcEndpoint) (call : AdcCall) :
    collectedValues (adc.step call).2 =
      (adc.taken call).map AdcSample.value := by
  cases call with
  | executeMeasurementCycle cfg takeSample => rfl
  | collectResponse cfg =>
      rcases adc.collectResponse_cases cfg with
        ⟨hResult, -⟩ | ⟨hResult, hNone, -⟩
      · simp [AdcEndpoint.step, hResult, collectedValues]
      · simp [AdcEndpoint.step, hResult, collectedValues, hNone]

private theorem timestamp_step {adc : AdcEndpoint} {call : AdcCall}
    {values : List UInt16} {timestamp : Nat}
    (h : (adc.step call).2 = .collected (.ok (values, timestamp)))
    {value : UInt16} (hValue : value ∈ values.head?) :
    (adc.taken call)[0]? = some ⟨value, timestamp⟩ := by
  cases call with
  | executeMeasurementCycle cfg takeSample => cases h
  | collectResponse cfg =>
      have hOk : (adc.collectResponse cfg).2 = .ok (values, timestamp) :=
        AdcReturn.collected.inj h
      rcases adc.collectResponse_cases cfg with ⟨hResult, -⟩ | ⟨hResult, -⟩
      · rw [hResult] at hOk
        obtain ⟨rfl, rfl⟩ := Prod.mk.inj (Except.ok.inj hOk)
        cases hTaken : adc.taken (.collectResponse cfg) with
        | nil => simp [hTaken] at hValue
        | cons front rest =>
            obtain rfl : front.value = value := by simpa [hTaken] using hValue
            rfl
      · rw [hResult] at hOk
        cases hOk

private theorem values_step_of_failed {adc : AdcEndpoint} {call : AdcCall}
    (h : (adc.step call).2.failed = true) :
    (adc.step call).1.pending.values = adc.pending.values := by
  cases call with
  | executeMeasurementCycle cfg takeSample =>
      rcases adc.executeMeasurementCycle_cases cfg takeSample with
        ⟨hDone, -⟩ | ⟨-, hValues⟩
      · simp [AdcEndpoint.step, hDone, AdcReturn.failed] at h
      · exact hValues
  | collectResponse cfg =>
      rcases adc.collectResponse_cases cfg with
        ⟨hResult, -⟩ | ⟨-, -, hValues⟩
      · simp [AdcEndpoint.step, hResult, AdcReturn.failed] at h
      · exact hValues

/-! ## Runs -/

/-- The averages accepted by a run of an endpoint. -/
def accepted (calls : List AdcCall) : List AdcSample :=
  (calls.zip (run AdcEndpoint.step {} calls).2).flatMap acceptedAverages

def collected (calls : List AdcCall) : List UInt16 :=
  (run AdcEndpoint.step {} calls).2.flatMap collectedValues

/-- The endpoint that a run leaves. -/
abbrev after (calls : List AdcCall) : AdcEndpoint :=
  (run AdcEndpoint.step {} calls).1

/-- What holds of the values of a run. -/
structure PendingLaws (calls : List AdcCall) : Prop where
  ordered : collected calls <+: (accepted calls).map AdcSample.value
  counted : (collected calls).length + (after calls).pendingCount =
    (accepted calls).length
  bounded : (after calls).pendingCount ≤ adcMaxCombineValues
  unchanged : ∀ i, (h : i < calls.length) →
    ((after (calls.take i)).step calls[i]).2.failed = true →
      (after (calls.take (i + 1))).pending.values =
        (after (calls.take i)).pending.values
  captured : ∀ i, (h : i < calls.length) → ∀ values timestamp,
    ((after (calls.take i)).step calls[i]).2 =
        .collected (.ok (values, timestamp)) →
      ∀ value ∈ values.head?,
        (accepted calls)[(collected (calls.take i)).length]? =
          some ⟨value, timestamp⟩

private theorem accepted_eq_gather (calls : List AdcCall) :
    accepted calls = gather AdcEndpoint.step
      (fun adc call => acceptedAverages (call, (adc.step call).2)) {}
        calls :=
  (gather_zip AdcEndpoint.step acceptedAverages {} calls).symm

private theorem collected_eq_gather (calls : List AdcCall) :
    collected calls =
      (gather AdcEndpoint.step AdcEndpoint.taken {} calls).map
        AdcSample.value := by
  rw [collected, ← gather_output, map_gather]
  exact congrArg (fun f => gather AdcEndpoint.step f {} calls)
    (funext₂ collectedValues_step)

theorem pendingLaws_run (calls : List AdcCall) : PendingLaws calls where
  ordered := by
    rw [accepted_eq_gather, collected_eq_gather]
    exact (AdcEndpoint.balanced.taken_prefix rfl calls).map AdcSample.value
  counted := by
    have hLength := AdcEndpoint.balanced.length_run (s := {}) rfl calls
    rw [AdcPendingBuffer.length_values] at hLength
    rw [accepted_eq_gather, collected_eq_gather, List.length_map]
    exact hLength
  bounded := (after calls).pending.size_le
  unchanged i h hFailed := by
    have hSucc : after (calls.take (i + 1)) =
        ((after (calls.take i)).step calls[i]).1 :=
      run_take_succ _ _ _ _ h
    rw [hSucc]
    exact values_step_of_failed hFailed
  captured i h values timestamp hResult value hValue := by
    have hTaken := timestamp_step hResult hValue
    have hAt := AdcEndpoint.balanced.getElem?_accepted rfl h hTaken
    rw [accepted_eq_gather, collected_eq_gather, List.length_map]
    exact hAt

end CppRcp.Adc.Buffered
