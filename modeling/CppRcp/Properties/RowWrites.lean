import CppRcp.Streams.MappedTables
import CppRcp.Properties.TableWrites

/-!
# What a write to the endpoint map or the response queue table changes

Such a write should change the rows it covers.  The other rows are read back
from their images, so they are kept exactly when no field of theirs is wider
than its place in the image.
-/

namespace CppRcp.Regmap

open CppRcp.Foundation
open RequestStreamCfg (field saturate field_of_putBe ofNat_field_octet
  saturate_eq_iff saturate_le)

/-- An accepted write keeps the rows outside it exactly when their images are
exact. -/
theorem applyRowReconfig_kept_iff {ρ ε : Type} {codec : RowCodec UInt8 ρ}
    {shortWrite outOfRange : ε} {table : List ρ} {start : UInt16}
    {data : Octets}
    (hAccepted : (applyRowReconfig codec shortWrite outOfRange table start
      data).2 = none) :
    codec.KeepsUncovered start.toNat data.length table
        (applyRowReconfig codec shortWrite outOfRange table start data).1 ↔
      codec.UncoveredExact start.toNat data.length table := by
  unfold applyRowReconfig at hAccepted ⊢
  by_cases hData : data.length = 0
  · simp [hData] at hAccepted
  by_cases hCount : tableMaxEntries < table.length
  · simp [hData, hCount] at hAccepted
  by_cases hRange : table.length * codec.rowLen < start.toNat + data.length
  · simp [hData, hCount, hRange] at hAccepted
  simp only [hData, hCount, hRange, if_false]
  exact RowCodec.keepsUncovered_write_iff (not_lt.mp hRange)

theorem applyRowReconfig_rejected {ρ ε : Type} {codec : RowCodec UInt8 ρ}
    {shortWrite outOfRange e : ε} {table : List ρ} {start : UInt16}
    {data : Octets}
    (h : (applyRowReconfig codec shortWrite outOfRange table start
      data).2 = some e) :
    (applyRowReconfig codec shortWrite outOfRange table start data).1 =
      table := by
  unfold applyRowReconfig at h ⊢
  grind

/-! ## The endpoint map -/

namespace EpIdMap

/-- The fields of the row fit their places in its image. -/
def Fits (row : EpIdMappingEntry) : Prop :=
  row.epId.toNat ≤ 0xFF ∧ row.byteBusId.toNat ≤ 0x7FF

instance (row : EpIdMappingEntry) : Decidable (Fits row) :=
  inferInstanceAs (Decidable (_ ∧ _))

theorem bbidCtrl_eq (row : EpIdMappingEntry) :
    ((row.byteBusId.toNat &&& 0x7FF) <<< 5 ||| weight row.crcRequired 0x10) =
      row.byteBusId.toNat % 0x800 * 32 + weight row.crcRequired 0x10 := by
  have hWeight : weight row.crcRequired 0x10 < 2 ^ 5 := by
    cases row.crcRequired <;> simp [weight]
  rw [← Nat.shiftLeft_add_eq_or_of_lt hWeight, Nat.shiftLeft_eq,
    show (0x7FF : Nat) = 2 ^ 11 - 1 by simp, Nat.and_two_pow_sub_one_eq_mod]

private theorem field_bbidCtrl (row : EpIdMappingEntry) :
    field (renderRow row) 2 2 =
      row.byteBusId.toNat % 0x800 * 32 + weight row.crcRequired 0x10 := by
  rw [← bbidCtrl_eq]
  apply field_of_putBe
  · simp [renderRow, slice]
  · have hWeight : weight row.crcRequired 0x10 ≤ 16 := by
      cases row.crcRequired <;> simp [weight]
    rw [bbidCtrl_eq]
    omega

private theorem parseRow_renderRow (row : EpIdMappingEntry) :
    parseRow (renderRow row) =
      { row with
        epId := UInt16.ofNat (row.epId.toNat % 0x100)
        byteBusId := UInt16.ofNat (row.byteBusId.toNat % 0x800) } := by
  have hStream : UInt8.ofNat (field (renderRow row) 0 1) =
      row.requestStreamIndex :=
    ofNat_field_octet (by simp [renderRow, slice])
  have hEpId : field (renderRow row) 1 1 = row.epId.toNat % 0x100 := by
    simp [field, renderRow, slice, getBe_cons]
  have hBus : field (renderRow row) 2 2 >>> 5 &&& 0x7FF =
      row.byteBusId.toNat % 0x800 := by
    rw [field_bbidCtrl, show (0x7FF : Nat) = 2 ^ 11 - 1 by simp,
      Nat.and_two_pow_sub_one_eq_mod, Nat.shiftRight_eq_div_pow]
    cases row.crcRequired <;> simp only [weight] <;> grind
  have hCrc : (field (renderRow row) 2 2).testBit 4 = row.crcRequired := by
    rw [field_bbidCtrl, Nat.testBit_eq_decide_div_mod_eq]
    cases row.crcRequired <;> simp only [weight] <;> grind
  simp only [parseRow, hStream, hEpId, hBus, hCrc]

private theorem parseRow_renderRow_eq_iff (row : EpIdMappingEntry) :
    parseRow (renderRow row) = row ↔ Fits row := by
  have hEpId := row.epId.toNat_lt
  have hBus := row.byteBusId.toNat_lt
  rw [parseRow_renderRow]
  unfold Fits
  constructor
  · intro h
    have hEpIdEq := congrArg (fun r => r.epId.toNat) h
    have hBusEq := congrArg (fun r => r.byteBusId.toNat) h
    simp only [UInt16.toNat_ofNat'] at hEpIdEq hBusEq
    omega
  · rintro ⟨hEpIdLe, hBusLe⟩
    rw [Nat.mod_eq_of_lt (by omega), Nat.mod_eq_of_lt (by omega)]
    simp

end EpIdMap

/-! ## The response queue table -/

namespace ResponseQueueCfg

def Fits (row : ResponseQueueConfig) : Prop := row.flushTimeUs.toNat ≤ 0xFFFF

instance (row : ResponseQueueConfig) : Decidable (Fits row) :=
  inferInstanceAs (Decidable (_ ≤ _))

private theorem parseRow_renderRow (row : ResponseQueueConfig) :
    parseRow (renderRow row) =
      { row with
        flushTimeUs :=
          UInt32.ofNat (saturate 0xFFFF row.flushTimeUs.toNat) } := by
  have hUid : field (renderRow row) 0 2 = row.streamUid.toNat :=
    field_of_putBe (by simp [renderRow, slice, putBe]) row.streamUid.toNat_lt
  have hSize : field (renderRow row) 2 2 = row.maxAvtpduSize.toNat :=
    field_of_putBe (by simp [renderRow, slice, putBe])
      row.maxAvtpduSize.toNat_lt
  have hQueue : field (renderRow row) 4 2 = row.queueSize.toNat :=
    field_of_putBe (by simp [renderRow, slice, putBe]) row.queueSize.toNat_lt
  have hCount : field (renderRow row) 6 2 = row.flushOnCount.toNat :=
    field_of_putBe (by simp [renderRow, slice, putBe])
      row.flushOnCount.toNat_lt
  have hTime : field (renderRow row) 8 2 =
      saturate 0xFFFF row.flushTimeUs.toNat :=
    field_of_putBe (by simp [renderRow, slice, putBe])
      (Nat.lt_succ_of_le (saturate_le _ _))
  simp [parseRow, hUid, hSize, hQueue, hCount, hTime]

private theorem parseRow_renderRow_eq_iff (row : ResponseQueueConfig) :
    parseRow (renderRow row) = row ↔ Fits row := by
  have hLe := saturate_le 0xFFFF row.flushTimeUs.toNat
  have hToNat : (UInt32.ofNat (saturate 0xFFFF row.flushTimeUs.toNat)).toNat =
      saturate 0xFFFF row.flushTimeUs.toNat :=
    UInt32.toNat_ofNat_of_lt' (hLe.trans_lt (by decide))
  rw [parseRow_renderRow]
  constructor
  · intro h
    have hTime := congrArg (fun r => r.flushTimeUs.toNat) h
    exact saturate_eq_iff.mp (hToNat.symm.trans hTime)
  · intro hFits
    rw [saturate_eq_iff.mpr hFits]
    simp

end ResponseQueueCfg

/-! ## Both tables -/

/-- An accepted write to either table keeps every row outside it exactly when
no such row has a field wider than its place in the image. -/
theorem mapped_tables_kept_iff (map : List EpIdMappingEntry)
    (queues : List ResponseQueueConfig) (start : UInt16) (data : Octets) :
    ((EpIdMap.applyReconfig map start data).2 = none →
      (EpIdMap.codec.KeepsUncovered start.toNat data.length map
          (EpIdMap.applyReconfig map start data).1 ↔
        ∀ i row, map[i]? = some row →
          ¬ EpIdMap.codec.Covers start.toNat data.length i →
          EpIdMap.Fits row)) ∧
    ((ResponseQueueCfg.applyReconfig queues start data).2 = none →
      (ResponseQueueCfg.codec.KeepsUncovered start.toNat data.length queues
          (ResponseQueueCfg.applyReconfig queues start data).1 ↔
        ∀ i row, queues[i]? = some row →
          ¬ ResponseQueueCfg.codec.Covers start.toNat data.length i →
          ResponseQueueCfg.Fits row)) := by
  constructor
  · intro hAccepted
    refine (applyRowReconfig_kept_iff hAccepted).trans ?_
    apply forall₄_congr
    intro i row _ _
    exact EpIdMap.parseRow_renderRow_eq_iff row
  · intro hAccepted
    refine (applyRowReconfig_kept_iff hAccepted).trans ?_
    apply forall₄_congr
    intro i row _ _
    exact ResponseQueueCfg.parseRow_renderRow_eq_iff row

def wideBusMap : List EpIdMappingEntry :=
  [{ requestStreamIndex := 1 },
    { requestStreamIndex := 1, epId := 2, byteBusId := 0x0801 }]

def slowFlushQueues : List ResponseQueueConfig :=
  [{ streamUid := 1 }, { streamUid := 2, flushTimeUs := 100000 }]

theorem mapped_tables_kept_wide :
    (EpIdMap.codec.KeepsUncovered 0 1 wideBusMap
        (EpIdMap.applyReconfig wideBusMap 0 [1]).1 ↔
      ∀ i row, wideBusMap[i]? = some row →
        ¬ EpIdMap.codec.Covers 0 1 i → EpIdMap.Fits row) ∧
    (ResponseQueueCfg.codec.KeepsUncovered 0 1 slowFlushQueues
        (ResponseQueueCfg.applyReconfig slowFlushQueues 0 [0]).1 ↔
      ∀ i row, slowFlushQueues[i]? = some row →
        ¬ ResponseQueueCfg.codec.Covers 0 1 i → ResponseQueueCfg.Fits row) :=
  ⟨(mapped_tables_kept_iff wideBusMap [] 0 [1]).1 (by decide),
    (mapped_tables_kept_iff [] slowFlushQueues 0 [0]).2 (by decide)⟩

/-- A write to the first octet of the first row changes the second row. -/
theorem mapped_tables_not_kept :
    ((EpIdMap.applyReconfig wideBusMap 0 [1]).2 = none ∧
      ¬ EpIdMap.codec.KeepsUncovered 0 1 wideBusMap
        (EpIdMap.applyReconfig wideBusMap 0 [1]).1) ∧
    (ResponseQueueCfg.applyReconfig slowFlushQueues 0 [0]).2 = none ∧
      ¬ ResponseQueueCfg.codec.KeepsUncovered 0 1 slowFlushQueues
        (ResponseQueueCfg.applyReconfig slowFlushQueues 0 [0]).1 := by
  refine ⟨⟨by decide, fun hKept => ?_⟩, by decide, fun hKept => ?_⟩
  · exact absurd (hKept 1 _ rfl (by decide)) (by decide)
  · exact absurd (hKept 1 _ rfl (by decide)) (by decide)

end CppRcp.Regmap
