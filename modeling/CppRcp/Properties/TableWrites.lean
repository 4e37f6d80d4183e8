import CppRcp.Streams.StreamTable

/-!
# What a table write changes

A write to the request-stream table should change the fields it covers.  As
every row is rendered and read back, a field that the write does not touch is
kept exactly when its rendering loses nothing of it.
-/

namespace CppRcp.Regmap

open CppRcp.Foundation

namespace RequestStreamCfg

/-! ## Fields -/

inductive StreamField
  | streamId | maxRequestSize | wdTimeoutInterval | secureChannelIndex
  | enforceE2e | enforceSeq | seqSafestateEnable | wdEnable
  | wdSafestateEnable | ovrflwSafestateEnable | safestateSequencer
  | safeSequencerState | ackStreamIndex | respStreamIndex
  | queueSize | wdInfoEnable | safetyMeasure
  deriving DecidableEq, Repr

namespace StreamField

def offset : StreamField → Nat
  | .streamId => 0x00
  | .maxRequestSize => 0x08
  | .wdTimeoutInterval => 0x0A
  | .secureChannelIndex => 0x0C
  | .enforceE2e | .enforceSeq | .seqSafestateEnable | .wdEnable
  | .wdSafestateEnable | .ovrflwSafestateEnable => 0x0D
  | .safestateSequencer => 0x0E
  | .safeSequencerState => 0x0F
  | .ackStreamIndex => 0x10
  | .respStreamIndex => 0x11
  | .queueSize | .wdInfoEnable | .safetyMeasure => 0x12

def width : StreamField → Nat
  | .streamId => 8
  | .maxRequestSize | .wdTimeoutInterval => 2
  | .queueSize | .wdInfoEnable | .safetyMeasure => 0
  | _ => 1

private theorem offset_add_width_le (f : StreamField) :
    f.offset + f.width ≤ rowLen := by
  cases f <;> decide

def Agrees (a b : RequestStreamConfig) : StreamField → Prop
  | .streamId => a.streamId = b.streamId
  | .maxRequestSize => a.rxStreamMaxRequestSize = b.rxStreamMaxRequestSize
  | .wdTimeoutInterval => a.rxWdTimeoutInterval = b.rxWdTimeoutInterval
  | .secureChannelIndex => a.rxSecureChannelIndex = b.rxSecureChannelIndex
  | .enforceE2e => a.rxEnforceE2e = b.rxEnforceE2e
  | .enforceSeq => a.rxEnforceSeq = b.rxEnforceSeq
  | .seqSafestateEnable => a.rxSeqSafestateEnable = b.rxSeqSafestateEnable
  | .wdEnable => a.rxWdEnable = b.rxWdEnable
  | .wdSafestateEnable => a.rxWdSafestateEnable = b.rxWdSafestateEnable
  | .ovrflwSafestateEnable =>
      a.rxOvrflwSafestateEnable = b.rxOvrflwSafestateEnable
  | .safestateSequencer => a.rxSafestateSequencer = b.rxSafestateSequencer
  | .safeSequencerState => a.rxSafeSequencerState = b.rxSafeSequencerState
  | .ackStreamIndex => a.rxAckStreamIndex = b.rxAckStreamIndex
  | .respStreamIndex => a.rxRespStreamIndex = b.rxRespStreamIndex
  | .queueSize => a.queueSize = b.queueSize
  | .wdInfoEnable => a.rxWdInfoEnable = b.rxWdInfoEnable
  | .safetyMeasure => a.rxSafetyMeasure = b.rxSafetyMeasure

/-- The rendering of the row loses nothing of the field. -/
def Exact (msPerTick : UInt32) (row : RequestStreamConfig) :
    StreamField → Prop
  | .maxRequestSize => row.rxStreamMaxRequestSize ≤ 0xFFFF
  | .wdTimeoutInterval =>
      msPerTick ≠ 0 →
        msPerTick.toNat ∣ row.rxWdTimeoutInterval.toNat ∧
          row.rxWdTimeoutInterval.toNat / msPerTick.toNat ≤ 0xFFFF
  | .enforceSeq => row.rxEnforceSeq → row.rxSeqSafestateEnable
  | .seqSafestateEnable => row.rxSeqSafestateEnable → row.rxEnforceSeq
  | .wdEnable => row.rxWdEnable → row.rxWdSafestateEnable
  | .wdSafestateEnable => row.rxWdSafestateEnable → row.rxWdEnable
  | .safestateSequencer => row.rxSafestateSequencer.toNat ≤ 0xFF
  | _ => True

end StreamField

/-- The write covers an octet of the field in the given row. -/
def Covers (start : UInt16) (data : Octets) (i : Nat) (f : StreamField) :
    Prop :=
  Overlaps start.toNat data.length (i * rowLen + f.offset) f.width

/-- A property of every field that the write does not cover. -/
def OnUncovered (table : List RequestStreamConfig) (start : UInt16)
    (data : Octets) (P : Nat → RequestStreamConfig → StreamField → Prop) :
    Prop :=
  ∀ i row, table[i]? = some row → ∀ f, ¬ Covers start data i f → P i row f

/-- The row keeps the value of the field. -/
def KeptIn (after : List RequestStreamConfig) (i : Nat)
    (row : RequestStreamConfig) (f : StreamField) : Prop :=
  ∃ row', after[i]? = some row' ∧ f.Agrees row row'

/-! ## Rendering and reading one field back -/

theorem saturate_eq_iff {limit value : Nat} :
    saturate limit value = value ↔ value ≤ limit := by
  unfold saturate
  split <;> omega

theorem saturate_le (limit value : Nat) : saturate limit value ≤ limit := by
  unfold saturate
  split <;> omega

private theorem flag_flagsOctet (row : RequestStreamConfig) (blocked : Bool) :
    flag (flagsOctet row blocked) 0 = row.rxEnforceE2e ∧
      flag (flagsOctet row blocked) 1 =
        (row.rxEnforceSeq && row.rxSeqSafestateEnable) ∧
      flag (flagsOctet row blocked) 2 =
        (row.rxWdEnable && row.rxWdSafestateEnable) ∧
      flag (flagsOctet row blocked) 3 = row.rxOvrflwSafestateEnable := by
  unfold flagsOctet
  generalize row.rxEnforceE2e = a
  generalize (row.rxEnforceSeq && row.rxSeqSafestateEnable) = b
  generalize (row.rxWdEnable && row.rxWdSafestateEnable) = c
  generalize row.rxOvrflwSafestateEnable = d
  revert a b c d blocked
  decide

theorem toNat_ticks {interval msPerTick : UInt32} (h : msPerTick ≠ 0) :
    ((wdTimeoutMsToTicks interval msPerTick).getD 0).toNat =
      if interval.toNat / msPerTick.toNat ≤ 0xFFFF then
        interval.toNat / msPerTick.toNat
      else 0 := by
  simp only [wdTimeoutMsToTicks, h, if_false, UInt32.toNat_div]
  by_cases hFits : interval.toNat / msPerTick.toNat ≤ 0xFFFF
  · rw [if_neg (by omega), if_pos hFits, Option.getD_some]
    exact UInt16.toNat_ofNat_of_lt' (Nat.lt_succ_of_le hFits)
  · rw [if_pos (by omega), if_neg hFits]
    rfl

private theorem ticksToMs_eq_iff {interval msPerTick : UInt32} {ticks : UInt16}
    (h : msPerTick ≠ 0)
    (hFits : ticks.toNat * msPerTick.toNat ≤ interval.toNat) :
    (wdTimeoutTicksToMs ticks msPerTick).getD interval = interval ↔
      ticks.toNat * msPerTick.toNat = interval.toNat := by
  have hInterval := interval.toNat_lt
  unfold wdTimeoutTicksToMs
  rw [if_neg h, if_neg (by omega), Option.getD_some, ← UInt32.toNat_inj,
    UInt32.toNat_ofNat_of_lt' (hFits.trans_lt hInterval)]

private theorem wdTimeout_readBack_iff (interval msPerTick : UInt32) :
    (wdTimeoutTicksToMs ((wdTimeoutMsToTicks interval msPerTick).getD 0)
        msPerTick).getD interval = interval ↔
      (msPerTick ≠ 0 → msPerTick.toNat ∣ interval.toNat ∧
        interval.toNat / msPerTick.toNat ≤ 0xFFFF) := by
  by_cases hZero : msPerTick = 0
  · simp [wdTimeoutTicksToMs, hZero]
  · have hTicks := @toNat_ticks interval msPerTick hZero
    have hLe := Nat.div_mul_le_self interval.toNat msPerTick.toNat
    rw [ticksToMs_eq_iff hZero, hTicks]
    · split
      · next hFits =>
          simp only [hFits, and_true, hZero, ne_eq, not_false_eq_true,
            true_implies]
          exact (Nat.dvd_iff_div_mul_eq _ _).symm
      · next hLarge =>
          simp only [hLarge, and_false, hZero, ne_eq, not_false_eq_true,
            true_implies, iff_false, Nat.zero_mul]
          intro hNil
          rw [← hNil, Nat.zero_div] at hLarge
          exact hLarge (Nat.zero_le _)
    · rw [hTicks]
      split <;> omega

theorem field_of_putBe {octets : Octets} {offset width value : Nat}
    (h : slice octets offset width = putBe width value)
    (hFits : value < 256 ^ width) : field octets offset width = value :=
  (congrArg getBe h).trans (getBe_putBe_of_lt hFits)

theorem ofNat_field_octet {octets : Octets} {offset : Nat} {octet : UInt8}
    (h : slice octets offset 1 = [octet]) :
    UInt8.ofNat (field octets offset 1) = octet := by
  unfold field
  rw [h, getBe_cons]
  simp

section Field

variable {msPerTick : UInt32} {row : RequestStreamConfig} {octets : Octets}

private theorem ofNat_field_flags
    (h : slice octets 0x0D 1 = slice (renderRow msPerTick false row) 0x0D 1) :
    UInt8.ofNat (field octets 0x0D 1) = flagsOctet row false :=
  ofNat_field_octet h

/-- Where the image of a row is as it was rendered, a field is read back
unchanged exactly when its rendering is exact. -/
theorem agrees_parseRow_iff (f : StreamField)
    (h : slice octets f.offset f.width =
      slice (renderRow msPerTick false row) f.offset f.width) :
    f.Agrees row (parseRow msPerTick octets row) ↔ f.Exact msPerTick row := by
  have hFlags := flag_flagsOctet row false
  cases f with
  | streamId =>
      have hField : field octets 0x00 8 = row.streamId.toNat :=
        field_of_putBe h row.streamId.toNat_lt
      simp [StreamField.Agrees, StreamField.Exact, parseRow, hField]
  | maxRequestSize =>
      have hField : field octets 0x08 2 =
          saturate 0xFFFF row.rxStreamMaxRequestSize :=
        field_of_putBe h (Nat.lt_succ_of_le (saturate_le _ _))
      simp only [StreamField.Agrees, StreamField.Exact, parseRow, hField]
      exact eq_comm.trans saturate_eq_iff
  | wdTimeoutInterval =>
      have hField : field octets 0x0A 2 =
          ((wdTimeoutMsToTicks row.rxWdTimeoutInterval
            msPerTick).getD 0).toNat :=
        field_of_putBe h (UInt16.toNat_lt _)
      simp only [StreamField.Agrees, StreamField.Exact, parseRow, hField,
        UInt16.ofNat_toNat]
      exact eq_comm.trans (wdTimeout_readBack_iff _ _)
  | secureChannelIndex =>
      have hField : UInt8.ofNat (field octets 0x0C 1) =
          row.rxSecureChannelIndex := ofNat_field_octet h
      simp [StreamField.Agrees, StreamField.Exact, parseRow, hField]
  | enforceE2e =>
      simp [StreamField.Agrees, StreamField.Exact, parseRow,
        ofNat_field_flags h, hFlags]
  | enforceSeq =>
      simp [StreamField.Agrees, StreamField.Exact, parseRow,
        ofNat_field_flags h, hFlags]
  | seqSafestateEnable =>
      simp [StreamField.Agrees, StreamField.Exact, parseRow,
        ofNat_field_flags h, hFlags]
  | wdEnable =>
      simp [StreamField.Agrees, StreamField.Exact, parseRow,
        ofNat_field_flags h, hFlags]
  | wdSafestateEnable =>
      simp [StreamField.Agrees, StreamField.Exact, parseRow,
        ofNat_field_flags h, hFlags]
  | ovrflwSafestateEnable =>
      simp [StreamField.Agrees, StreamField.Exact, parseRow,
        ofNat_field_flags h, hFlags]
  | safestateSequencer =>
      have hSlice : slice octets 0x0E 1 =
          [UInt8.ofNat (saturate 0xFF row.rxSafestateSequencer.toNat)] := h
      have hField : field octets 0x0E 1 =
          saturate 0xFF row.rxSafestateSequencer.toNat :=
        field_of_putBe (hSlice.trans (by simp [putBe]))
          (Nat.lt_succ_of_le (saturate_le _ _))
      have hFits : saturate 0xFF row.rxSafestateSequencer.toNat < 2 ^ 16 :=
        (saturate_le _ _).trans_lt (by decide)
      simp only [StreamField.Agrees, StreamField.Exact, parseRow, hField]
      rw [← UInt16.toNat_inj, UInt16.toNat_ofNat_of_lt' hFits]
      exact eq_comm.trans saturate_eq_iff
  | safeSequencerState =>
      have hField : UInt8.ofNat (field octets 0x0F 1) =
          row.rxSafeSequencerState := ofNat_field_octet h
      simp [StreamField.Agrees, StreamField.Exact, parseRow, hField]
  | ackStreamIndex =>
      have hField : UInt8.ofNat (field octets 0x10 1) =
          row.rxAckStreamIndex := ofNat_field_octet h
      simp [StreamField.Agrees, StreamField.Exact, parseRow, hField]
  | respStreamIndex =>
      have hField : UInt8.ofNat (field octets 0x11 1) =
          row.rxRespStreamIndex := ofNat_field_octet h
      simp [StreamField.Agrees, StreamField.Exact, parseRow, hField]
  | queueSize => simp [StreamField.Agrees, StreamField.Exact, parseRow]
  | wdInfoEnable => simp [StreamField.Agrees, StreamField.Exact, parseRow]
  | safetyMeasure => simp [StreamField.Agrees, StreamField.Exact, parseRow]

end Field

/-! ## One write -/

section Write

variable {table : List RequestStreamConfig} {start : UInt16} {data : Octets}
  {msPerTick : UInt32}

private theorem length_renderRow (blocked : Bool) (row : RequestStreamConfig) :
    (renderRow msPerTick blocked row).length = rowLen := by
  simp [renderRow, rowLen]

theorem length_rendered (blocked : Option (List Bool)) :
    ∀ image ∈ table.mapIdx fun i row =>
        renderRow msPerTick (blocked.any fun streams => streams.getD i false)
          row,
      image.length = rowLen := by
  intro image hMem
  obtain ⟨i, hi, rfl⟩ := List.mem_mapIdx.mp hMem
  exact length_renderRow _ _

theorem length_render (blocked : Option (List Bool)) :
    (render table msPerTick blocked).length = table.length * rowLen := by
  unfold render
  rw [length_flatten_rows (length_rendered blocked), List.length_mapIdx]

theorem slice_render {i : Nat} {row : RequestStreamConfig}
    (hRow : table[i]? = some row) :
    slice (render table msPerTick none) (i * rowLen) rowLen =
      renderRow msPerTick false row := by
  apply slice_flatten (length_rendered none)
  rw [List.getElem?_mapIdx, hRow]
  rfl

private theorem slice_written (hRange : start.toNat + data.length ≤
      table.length * rowLen) {i : Nat} {row : RequestStreamConfig}
    (hRow : table[i]? = some row) {f : StreamField}
    (hApart : ¬ Covers start data i f) :
    slice (slice (patch (render table msPerTick none) start.toNat data)
        (i * rowLen) rowLen) f.offset f.width =
      slice (renderRow msPerTick false row) f.offset f.width := by
  rw [slice_slice _ _ _ _ _ f.offset_add_width_le,
    slice_patch (by rw [length_render]; exact hRange) hApart,
    ← slice_slice _ _ _ _ _ f.offset_add_width_le, slice_render hRow]

/-- An accepted write keeps the fields it does not cover exactly when their
renderings are exact. -/
theorem applyReconfig_kept_iff (table : List RequestStreamConfig)
    (start : UInt16) (data : Octets) (msPerTick : UInt32)
    (hAccepted : (applyReconfig table start data msPerTick).2 = none) :
    OnUncovered table start data
        (KeptIn (applyReconfig table start data msPerTick).1) ↔
      OnUncovered table start data
        fun _ row f => f.Exact msPerTick row := by
  unfold applyReconfig at hAccepted ⊢
  split at hAccepted
  · cases hAccepted
  · split at hAccepted
    · cases hAccepted
    · split at hAccepted
      · cases hAccepted
      · next hData hCount hRange =>
          rw [if_neg hData, if_neg hCount, if_neg hRange]
          apply forall₃_congr
          intro i row hRow
          apply forall₂_congr
          intro f hApart
          have hField := agrees_parseRow_iff f
            (@slice_written _ _ _ msPerTick (not_lt.mp hRange) _ _ hRow _
              hApart)
          refine Iff.trans ?_ hField
          simp [KeptIn, List.getElem?_mapIdx, hRow]

theorem applyReconfig_rejected {e : ReconfigErrc}
    (h : (applyReconfig table start data msPerTick).2 = some e) :
    (applyReconfig table start data msPerTick).1 = table := by
  unfold applyReconfig at h ⊢
  grind

end Write

/-- A write to the first of two rows; the second blocks on a sequence error,
but does not enter the safe state. -/
def blockingTable : List RequestStreamConfig :=
  [{}, { rxEnforceSeq := true }]

theorem applyReconfig_blockingTable :
    (OnUncovered blockingTable 0 [1]
        (KeptIn (applyReconfig blockingTable 0 [1] 0).1) ↔
      OnUncovered blockingTable 0 [1] fun _ row f => f.Exact 0 row) :=
  applyReconfig_kept_iff blockingTable 0 [1] 0 (by decide)

/-- The write turns the sequence check of the second row off. -/
theorem blockingTable_not_kept :
    (applyReconfig blockingTable 0 [1] 0).2 = none ∧
      ¬ OnUncovered blockingTable 0 [1]
        (KeptIn (applyReconfig blockingTable 0 [1] 0).1) := by
  refine ⟨by decide, ?_⟩
  intro hKept
  have hApart : ¬ Covers 0 [1] 1 .enforceSeq := by
    unfold Covers
    decide
  obtain ⟨row', hRow', hAgrees⟩ := hKept 1 _ rfl .enforceSeq hApart
  have hOff : row'.rxEnforceSeq = false := by
    have hResult : (applyReconfig blockingTable 0 [1] 0).1[1]?.map
        RequestStreamConfig.rxEnforceSeq = some false := by decide
    rw [hRow'] at hResult
    exact Option.some_inj.mp hResult
  exact absurd (hAgrees.trans hOff) (by decide)

end RequestStreamCfg

end CppRcp.Regmap
