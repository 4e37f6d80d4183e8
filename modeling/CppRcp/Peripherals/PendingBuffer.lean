import CppRcp.Foundation.Fifo
import CppRcp.Peripherals.Endpoints

/-!
# The pending averages of an ADC endpoint

`adc.hpp`: the averages wait in an array of fixed capacity, of which the first
`size` places are in use.  A response takes the values at the front, and the
remainder is moved down over them, one place after another.
-/

namespace CppRcp.Adc

open CppRcp.Foundation

instance : Inhabited AdcSample := ⟨{}⟩

structure AdcPendingBuffer where
  data : Table AdcSample adcMaxCombineValues
  size : Nat
  size_le : size ≤ adcMaxCombineValues

namespace AdcPendingBuffer

def empty : AdcPendingBuffer where
  data := Table.replicate adcMaxCombineValues default
  size := 0
  size_le := Nat.zero_le _

def pushBack (buffer : AdcPendingBuffer) (v : AdcSample) :
    AdcPendingBuffer × Bool :=
  if h : adcMaxCombineValues ≤ buffer.size then (buffer, false)
  else
    (⟨buffer.data.set buffer.size v, buffer.size + 1,
      Nat.succ_le_of_lt (Nat.lt_of_not_le h)⟩, true)

def get (buffer : AdcPendingBuffer) (i : Nat) : AdcSample := buffer.data.get i

def popFrontN (buffer : AdcPendingBuffer) (n : Nat) : AdcPendingBuffer :=
  let n := min n buffer.size
  ⟨buffer.data.moveDown n (buffer.size - n), buffer.size - n,
    (Nat.sub_le _ _).trans buffer.size_le⟩

def values (buffer : AdcPendingBuffer) : List AdcSample :=
  (List.range buffer.size).map buffer.get

@[simp] theorem length_values (buffer : AdcPendingBuffer) :
    buffer.values.length = buffer.size := by
  simp [values]

private theorem map_range_get (buffer : AdcPendingBuffer) {n : Nat}
    (h : n ≤ buffer.size) :
    (List.range n).map buffer.get = buffer.values.take n := by
  rw [values, ← List.map_take, List.take_range, Nat.min_eq_left h]

private theorem pushBack_of_full {buffer : AdcPendingBuffer}
    (h : adcMaxCombineValues ≤ buffer.size) (v : AdcSample) :
    buffer.pushBack v = (buffer, false) := by
  rw [pushBack, dif_pos h]

private theorem pushBack_of_room {buffer : AdcPendingBuffer}
    (h : buffer.size < adcMaxCombineValues) (v : AdcSample) :
    (buffer.pushBack v).2 = true ∧
      (buffer.pushBack v).1.values = buffer.values ++ [v] := by
  rw [pushBack, dif_neg (Nat.not_le.mpr h)]
  refine ⟨rfl, ?_⟩
  have hKept : ∀ i ∈ List.range buffer.size,
      (buffer.data.set buffer.size v).get i = buffer.data.get i := by
    intro i hi
    exact Table.get_set_ne (Nat.ne_of_gt (List.mem_range.mp hi))
  have hLast : (buffer.data.set buffer.size v).get buffer.size = v :=
    Table.get_set_self h
  simp only [values, get, List.range_succ, List.map_append, List.map_cons,
    List.map_nil, hLast]
  exact congrArg (· ++ [v]) (List.map_congr_left hKept)

private theorem values_popFrontN (buffer : AdcPendingBuffer) (n : Nat) :
    (buffer.popFrontN n).values = buffer.values.drop n := by
  apply List.ext_getElem
  · simp [popFrontN]
    omega
  · intro i hi _
    have hIn : i < buffer.size - min n buffer.size := by
      simpa [popFrontN] using hi
    have hRoom : buffer.size - min n buffer.size ≤ adcMaxCombineValues :=
      (Nat.sub_le _ _).trans buffer.size_le
    have hMoved := Table.get_moveDown buffer.data (min n buffer.size) hRoom i
    rw [if_pos hIn] at hMoved
    simp only [values, popFrontN, get, List.getElem_map, List.getElem_range,
      List.getElem_drop, hMoved]
    congr 1
    omega

end AdcPendingBuffer

/-! ## Responses -/

/-- `collect_response_values`: the values it writes and how many. -/
def collectResponseValues (avgValues : List AdcSample) (valueCount : Nat) :
    List UInt16 × Nat :=
  let n := min avgValues.length valueCount
  ((avgValues.take n).map AdcSample.value, n)

def cadenceResponseReady (pendingValueCount : Nat) (combineAvgValues : UInt8) :
    Bool :=
  decide (combineAvgValues.toNat ≤ pendingValueCount)

def captureMomentTimestamp : List AdcSample → Nat
  | [] => 0
  | front :: _ => front.timestamp

namespace Buffered

structure AdcEndpoint where
  pending : AdcPendingBuffer := .empty

namespace AdcEndpoint

/-- The endpoint asks `takeSample` once for each sample of the interval. -/
def executeMeasurementCycle (adc : AdcEndpoint) (cfg : AdcFunctionalConfig)
    (takeSample : Nat → AdcSample) : AdcEndpoint × Option ErrorCode :=
  let samples :=
    (List.range cfg.adcSamplesPerAvgInterval.toNat).map takeSample
  match adc.pending.pushBack (averageInterval samples) with
  | (pending, true) => (⟨pending⟩, none)
  | (pending, false) => (⟨pending⟩, some (.adc .pendingValuesFull))

def responseReady (adc : AdcEndpoint) (cfg : AdcFunctionalConfig) : Bool :=
  cadenceResponseReady adc.pending.size cfg.adcCombineAvgValues

def collectResponse (adc : AdcEndpoint) (cfg : AdcFunctionalConfig) :
    AdcEndpoint × Except ErrorCode (List UInt16 × Nat) :=
  if !adc.responseReady cfg then (adc, .error (.adc .responseNotReady))
  else
    let n := cfg.adcCombineAvgValues.toNat
    let front := (List.range n).map adc.pending.get
    (⟨adc.pending.popFrontN n⟩,
      .ok ((collectResponseValues front n).1, captureMomentTimestamp front))

def pendingCount (adc : AdcEndpoint) : Nat := adc.pending.size

/-! ## The array holds a queue -/

def toQueue (adc : AdcEndpoint) : Adc.AdcEndpoint := ⟨adc.pending.values⟩

theorem executeMeasurementCycle_toQueue (adc : AdcEndpoint)
    (cfg : AdcFunctionalConfig) (takeSample : Nat → AdcSample) :
    adc.toQueue.executeMeasurementCycle
        ((List.range cfg.adcSamplesPerAvgInterval.toNat).map takeSample) =
      ((adc.executeMeasurementCycle cfg takeSample).1.toQueue,
        (adc.executeMeasurementCycle cfg takeSample).2) := by
  unfold Adc.AdcEndpoint.executeMeasurementCycle executeMeasurementCycle
  rcases Nat.lt_or_ge adc.pending.size adcMaxCombineValues with hRoom | hFull
  · obtain ⟨hPushed, hValues⟩ := AdcPendingBuffer.pushBack_of_room hRoom
      (averageInterval
        ((List.range cfg.adcSamplesPerAvgInterval.toNat).map takeSample))
    rw [if_neg (by simpa [toQueue] using hRoom)]
    dsimp only
    split
    · next pending hPush =>
        rw [hPush] at hValues
        simp only [toQueue, hValues]
    · next pending hPush =>
        rw [hPush] at hPushed
        cases hPushed
  · rw [if_pos (by simpa [toQueue] using hFull)]
    simp only [AdcPendingBuffer.pushBack_of_full hFull]

theorem collectResponse_toQueue (adc : AdcEndpoint)
    (cfg : AdcFunctionalConfig) :
    adc.toQueue.collectResponse cfg.adcCombineAvgValues.toNat =
      ((adc.collectResponse cfg).1.toQueue, (adc.collectResponse cfg).2) := by
  unfold Adc.AdcEndpoint.collectResponse collectResponse
  rcases Nat.lt_or_ge adc.pending.size cfg.adcCombineAvgValues.toNat
    with hShort | hReady
  · rw [if_pos (by simpa [toQueue] using hShort), if_pos (by
      simpa [responseReady, cadenceResponseReady] using hShort)]
  · rw [if_neg (by simpa [toQueue] using hReady), if_neg (by
      simpa [responseReady, cadenceResponseReady] using hReady)]
    have hFront := adc.pending.map_range_get hReady
    have hLength : (adc.pending.values.take
        cfg.adcCombineAvgValues.toNat).length =
          cfg.adcCombineAvgValues.toNat := by
      simp [hReady]
    simp only [hFront, toQueue, AdcPendingBuffer.values_popFrontN,
      collectResponseValues, hLength, min_self, List.take_take]
    rfl

end AdcEndpoint

end Buffered

end CppRcp.Adc
