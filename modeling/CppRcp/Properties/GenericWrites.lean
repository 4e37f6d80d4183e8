import CppRcp.Foundation.RowBlock
import CppRcp.Streams.GenericTable
import Mathlib.Order.Interval.Finset.Nat

/-!
# Writes to the generic endpoint table

A write changes exactly the fields that it covers as a whole, and in each row
whatever its place.  Endpoint types stay, and endpoint 0 stays in use.
-/

namespace CppRcp.Regmap.EpGenericCfg

open CppRcp.Foundation

/-- Every octet of the field is among those written. -/
def Covers (start length place width : Nat) : Prop :=
  Finset.Ico place (place + width) ⊆ Finset.Ico start (start + length)

instance (start length place width : Nat) :
    Decidable (Covers start length place width) :=
  inferInstanceAs (Decidable ((_ : Finset Nat) ⊆ _))

/-- What the write holds for a field at `place`. -/
def incoming (start : Nat) (data : Octets) (place width : Nat) : Nat :=
  getBe (slice data (place - start) width)

/-- Row `i` before and after a write of `data` at `start`. -/
structure WrittenRow (start : Nat) (data : Octets) (i : Nat)
    (row later : EndpointGenericConfig) : Prop where
  epType : later.epType = row.epType
  epUsed : later.epUsed =
    if Covers start data.length (i * rowLen + 1) 1 then
      i = 0 || (incoming start data (i * rowLen + 1) 1).testBit 0
    else row.epUsed
  epDelayTime : later.epDelayTime =
    if Covers start data.length (i * rowLen + 1) 1 then
      usByReg.getD (incoming start data (i * rowLen + 1) 1 / 16 % 4) 0
    else row.epDelayTime
  epReqStorageSize : later.epReqStorageSize.toNat =
    if Covers start data.length (i * rowLen + 2) 2 then
      incoming start data (i * rowLen + 2) 2 * 4
    else row.epReqStorageSize.toNat
  epDescription : later.epDescription.toNat =
    if Covers start data.length (i * rowLen + 4) 4 then
      incoming start data (i * rowLen + 4) 4
    else row.epDescription.toNat
  epTxBufferSize : later.epTxBufferSize.toNat =
    if Covers start data.length (i * rowLen + 8) 2 then
      incoming start data (i * rowLen + 8) 2
    else row.epTxBufferSize.toNat
  epRxBufferSize : later.epRxBufferSize.toNat =
    if Covers start data.length (i * rowLen + 10) 2 then
      incoming start data (i * rowLen + 10) 2
    else row.epRxBufferSize.toNat
  epReqCrcEnable : later.epReqCrcEnable = row.epReqCrcEnable
  epAckCrcEnable : later.epAckCrcEnable = row.epAckCrcEnable
  epResponseCrcEnable : later.epResponseCrcEnable = row.epResponseCrcEnable

/-! ## One field -/

section Field

variable {table : List EndpointGenericConfig} {start : Nat} {data : Octets}
  {i : Nat} {row : EndpointGenericConfig} {field : RowField}

private theorem covers_iff {length place width : Nat} (hWidth : 0 < width) :
    Covers start length place width ↔
      start ≤ place ∧ place + width ≤ start + length :=
  Finset.Ico_subset_Ico_iff (by omega)

/-- What a write does to one field of row `i`. -/
def storeField (start : Nat) (data : Octets) (i : Nat) (field : RowField)
    (row : EndpointGenericConfig) : EndpointGenericConfig :=
  let place := i * rowLen + field.offset
  if start ≤ place ∧ place + field.width ≤ start + data.length then
    field.store i (slice data (place - start) field.width) row
  else row

def InTable (start : Nat) (data : Octets)
    (table : List EndpointGenericConfig) : Prop :=
  start + data.length ≤ table.length * rowLen

def storeRow (start : Nat) (data : Octets) (i : Nat)
    (row : EndpointGenericConfig) : EndpointGenericConfig :=
  fields.foldl (fun row field => storeField start data i field row) row

theorem InTable.modify {f : EndpointGenericConfig → EndpointGenericConfig}
    (hRange : InTable start data table) :
    InTable start data (table.modify i f) := by
  unfold InTable
  rwa [List.length_modify]

private theorem width_of_mem_fields (hField : field ∈ fields) :
    0 < field.width ∧ field.offset + field.width ≤ rowLen := by
  simp only [fields, List.mem_cons, List.not_mem_nil, or_false] at hField
  rcases hField with rfl | rfl | rfl | rfl | rfl <;> decide

private theorem applyField_eq (hField : field ∈ fields)
    (hRange : InTable start data table) :
    applyField start data i table field =
      some (table.modify i (storeField start data i field)) := by
  obtain ⟨hWidth, -⟩ := width_of_mem_fields hField
  unfold InTable at hRange
  unfold applyField storeField
  dsimp only
  split
  · next hCovered =>
      have hOctets : i * rowLen + field.offset - start + field.width ≤
          data.length := by omega
      have hRow : i < table.length := by
        apply Nat.lt_of_mul_lt_mul_right (a := rowLen)
        omega
      simp [read, hOctets, hRow, List.modify_eq_set_getElem?]
  · exact congrArg some (List.modify_id i table).symm

private theorem applyRow_eq (hRange : InTable start data table) :
    applyRow start data table i =
      some (table.modify i (storeRow start data i)) := by
  have hFields : ∀ rows, InTable start data rows → ∀ field ∈ fields,
      applyField start data i rows field =
          some (rows.modify i (storeField start data i field)) ∧
        InTable start data
          (rows.modify i (storeField start data i field)) := by
    intro rows hRange field hField
    exact ⟨applyField_eq hField hRange, hRange.modify⟩
  exact (foldlM_eq_some hRange hFields).trans
    (congrArg some (foldl_modify_same i (storeField start data i) fields))

/-! ## All rows -/

private theorem mem_touchedRows_of_covers {length offset width : Nat}
    (hCovered : start ≤ i * rowLen + offset ∧
      i * rowLen + offset + width ≤ start + length)
    (hWidth : 0 < width ∧ offset + width ≤ rowLen) :
    i ∈ touchedRows start length := by
  unfold touchedRows
  rw [List.mem_range'_1]
  have hFirst : start / rowLen ≤ i := by
    apply Nat.le_of_lt_succ
    apply Nat.div_lt_of_lt_mul
    rw [Nat.mul_succ, Nat.mul_comm]
    omega
  have hLast : i ≤ (start + length - 1) / rowLen := by
    rw [Nat.le_div_iff_mul_le (by decide)]
    omega
  omega

private theorem storeRow_of_not_touched
    (hSkipped : i ∉ touchedRows start data.length)
    (row : EndpointGenericConfig) : storeRow start data i row = row := by
  unfold storeRow
  apply List.foldlRecOn (motive := fun later => later = row)
  · rfl
  · rintro _ rfl field hField
    apply if_neg
    intro hCovered
    exact hSkipped
      (mem_touchedRows_of_covers hCovered (width_of_mem_fields hField))

private theorem foldlM_applyRow
    (hRange : InTable start data table) :
    (touchedRows start data.length).foldlM (applyRow start data) table =
      some (table.mapIdx (storeRow start data)) := by
  have hRows : ∀ rows, InTable start data rows →
      ∀ i ∈ touchedRows start data.length,
        applyRow start data rows i =
            some (rows.modify i (storeRow start data i)) ∧
          InTable start data (rows.modify i (storeRow start data i)) := by
    intro rows hRange i _
    exact ⟨applyRow_eq hRange, hRange.modify⟩
  exact (foldlM_eq_some hRange hRows).trans
    (congrArg some (foldl_modify_eq_mapIdx (storeRow start data)
      List.nodup_range' fun i hi row => storeRow_of_not_touched hi row))

/-! ## The fields of a written row -/

private theorem incoming_lt (place width : Nat) :
    incoming start data place width < 256 ^ width := by
  have hLength : (slice data (place - start) width).length ≤ width :=
    List.length_take_le _ _
  exact (getBe_lt _).trans_le (Nat.pow_le_pow_right (by decide) hLength)

private theorem storeField_eq (hWidth : 0 < field.width) :
    storeField start data i field row =
      if Covers start data.length (i * rowLen + field.offset) field.width then
        field.store i
          (slice data (i * rowLen + field.offset - start) field.width) row
      else row :=
  if_congr (covers_iff hWidth).symm rfl rfl

private theorem storeField_octet1 :
    storeField start data i octet1 row =
      { row with
        epUsed :=
          if Covers start data.length (i * rowLen + 1) 1 then
            if i = 0 then true
            else flag (UInt8.ofNat (incoming start data (i * rowLen + 1) 1)) 0
          else row.epUsed
        epDelayTime :=
          if Covers start data.length (i * rowLen + 1) 1 then
            epDelayTimeRegToUs
              (UInt8.ofNat (incoming start data (i * rowLen + 1) 1) >>> 4 &&&
                0x3)
          else row.epDelayTime } := by
  rw [storeField_eq (by decide)]
  change (if Covers start data.length (i * rowLen + 1) 1 then _ else _) = _
  by_cases hCovers : Covers start data.length (i * rowLen + 1) 1
  · simp only [if_pos hCovers]
    rfl
  · simp only [if_neg hCovers]

private theorem storeField_reqStorageSize :
    storeField start data i reqStorageSize row =
      { row with
        epReqStorageSize :=
          if Covers start data.length (i * rowLen + 2) 2 then
            epReqStorageSizeWordsToOctets
              (UInt16.ofNat (incoming start data (i * rowLen + 2) 2))
          else row.epReqStorageSize } := by
  rw [storeField_eq (by decide)]
  change (if Covers start data.length (i * rowLen + 2) 2 then _ else _) = _
  split_ifs <;> rfl

private theorem storeField_description :
    storeField start data i description row =
      { row with
        epDescription :=
          if Covers start data.length (i * rowLen + 4) 4 then
            UInt32.ofNat (incoming start data (i * rowLen + 4) 4)
          else row.epDescription } := by
  rw [storeField_eq (by decide)]
  change (if Covers start data.length (i * rowLen + 4) 4 then _ else _) = _
  split_ifs <;> rfl

private theorem storeField_txBufferSize :
    storeField start data i txBufferSize row =
      { row with
        epTxBufferSize :=
          if Covers start data.length (i * rowLen + 8) 2 then
            UInt16.ofNat (incoming start data (i * rowLen + 8) 2)
          else row.epTxBufferSize } := by
  rw [storeField_eq (by decide)]
  change (if Covers start data.length (i * rowLen + 8) 2 then _ else _) = _
  split_ifs <;> rfl

private theorem storeField_rxBufferSize :
    storeField start data i rxBufferSize row =
      { row with
        epRxBufferSize :=
          if Covers start data.length (i * rowLen + 10) 2 then
            UInt16.ofNat (incoming start data (i * rowLen + 10) 2)
          else row.epRxBufferSize } := by
  rw [storeField_eq (by decide)]
  change (if Covers start data.length (i * rowLen + 10) 2 then _ else _) = _
  split_ifs <;> rfl

private theorem storeRow_eq (start : Nat) (data : Octets) (i : Nat)
    (row : EndpointGenericConfig) :
    storeRow start data i row =
      { row with
        epUsed :=
          if Covers start data.length (i * rowLen + 1) 1 then
            if i = 0 then true
            else flag (UInt8.ofNat (incoming start data (i * rowLen + 1) 1)) 0
          else row.epUsed
        epDelayTime :=
          if Covers start data.length (i * rowLen + 1) 1 then
            epDelayTimeRegToUs
              (UInt8.ofNat (incoming start data (i * rowLen + 1) 1) >>> 4 &&&
                0x3)
          else row.epDelayTime
        epReqStorageSize :=
          if Covers start data.length (i * rowLen + 2) 2 then
            epReqStorageSizeWordsToOctets
              (UInt16.ofNat (incoming start data (i * rowLen + 2) 2))
          else row.epReqStorageSize
        epDescription :=
          if Covers start data.length (i * rowLen + 4) 4 then
            UInt32.ofNat (incoming start data (i * rowLen + 4) 4)
          else row.epDescription
        epTxBufferSize :=
          if Covers start data.length (i * rowLen + 8) 2 then
            UInt16.ofNat (incoming start data (i * rowLen + 8) 2)
          else row.epTxBufferSize
        epRxBufferSize :=
          if Covers start data.length (i * rowLen + 10) 2 then
            UInt16.ofNat (incoming start data (i * rowLen + 10) 2)
          else row.epRxBufferSize } := by
  unfold storeRow fields
  simp only [List.foldl_cons, List.foldl_nil, storeField_octet1,
    storeField_reqStorageSize, storeField_description,
    storeField_txBufferSize, storeField_rxBufferSize]

private theorem flag_zero_ofNat (value : Nat) :
    flag (UInt8.ofNat value) 0 = value.testBit 0 := by
  simp [flag, Nat.testBit_zero]

private theorem epDelayTimeRegToUs_ofNat {value : Nat} (hValue : value < 256) :
    epDelayTimeRegToUs (UInt8.ofNat value >>> 4 &&& 0x3) =
      usByReg.getD (value / 16 % 4) 0 := by
  have hReg : (UInt8.ofNat value >>> 4 &&& 0x3 &&& 0x3).toNat =
      value / 16 % 4 := by
    simp [Nat.shiftRight_eq_div_pow, Nat.mod_eq_of_lt hValue,
      Nat.and_two_pow_sub_one_eq_mod _ 2, UInt8.and_assoc]
  rw [epDelayTimeRegToUs, hReg]

private theorem toNat_epReqStorageSize (words : UInt16) :
    (epReqStorageSizeWordsToOctets words).toNat = words.toNat * 4 := by
  have hWords := words.toNat_lt
  simp [epReqStorageSizeWordsToOctets]
  omega

private theorem writtenRow_storeRow (start : Nat) (data : Octets) (i : Nat)
    (row : EndpointGenericConfig) :
    WrittenRow start data i row (storeRow start data i row) := by
  have hOctet := @incoming_lt start data (i * rowLen + 1) 1
  have hWords := @incoming_lt start data (i * rowLen + 2) 2
  have hText := @incoming_lt start data (i * rowLen + 4) 4
  have hTx := @incoming_lt start data (i * rowLen + 8) 2
  have hRx := @incoming_lt start data (i * rowLen + 10) 2
  rw [storeRow_eq]
  constructor
  case epUsed => simp [flag_zero_ofNat]
  case epDelayTime => rw [epDelayTimeRegToUs_ofNat hOctet]
  case epReqStorageSize =>
    rw [apply_ite UInt32.toNat, toNat_epReqStorageSize,
      UInt16.toNat_ofNat_of_lt' hWords]
  case epDescription =>
    rw [apply_ite UInt32.toNat, UInt32.toNat_ofNat_of_lt' hText]
  case epTxBufferSize =>
    rw [apply_ite UInt16.toNat, UInt16.toNat_ofNat_of_lt' hTx]
  case epRxBufferSize =>
    rw [apply_ite UInt16.toNat, UInt16.toNat_ofNat_of_lt' hRx]
  all_goals rfl

end Field

/-! ## Every write -/

/-- What a write of `data` at `start` did to `table`. -/
structure Written (table : List EndpointGenericConfig) (start : Nat)
    (data : Octets) (after : List EndpointGenericConfig)
    (error : Option ReconfigErrc) : Prop where
  accepted : error = none ↔
    data ≠ [] ∧ start + data.length ≤ table.length * rowLen
  rejected : error ≠ none → after = table
  length : after.length = table.length
  rows : error = none → ∀ i row, table[i]? = some row →
    ∃ later, after[i]? = some later ∧ WrittenRow start data i row later
  firstUsed : ∀ row, table[0]? = some row → row.epUsed →
    ∃ later, after[0]? = some later ∧ later.epUsed

private theorem WrittenRow.epUsed_first {start : Nat} {data : Octets}
    {row later : EndpointGenericConfig}
    (h : WrittenRow start data 0 row later) (hUsed : row.epUsed) :
    later.epUsed := by
  rw [h.epUsed]
  split
  · rfl
  · exact hUsed

private theorem Written.of_rejected {table : List EndpointGenericConfig}
    {start : Nat} {data : Octets} (e : ReconfigErrc)
    (h : ¬ (data ≠ [] ∧ start + data.length ≤ table.length * rowLen)) :
    Written table start data table (some e) where
  accepted := by simpa using h
  rejected := fun _ => rfl
  length := rfl
  rows := fun hNone => nomatch hNone
  firstUsed := fun row hRow hUsed => ⟨row, hRow, hUsed⟩

private theorem Written.of_accepted {table : List EndpointGenericConfig}
    {start : Nat} {data : Octets} (hData : data ≠ [])
    (hRange : start + data.length ≤ table.length * rowLen) :
    Written table start data (table.mapIdx (storeRow start data)) none := by
  have hRows : ∀ i row, table[i]? = some row →
      ∃ later, (table.mapIdx (storeRow start data))[i]? = some later ∧
        WrittenRow start data i row later := by
    intro i row hRow
    refine ⟨storeRow start data i row, ?_, writtenRow_storeRow ..⟩
    rw [List.getElem?_mapIdx, hRow, Option.map_some]
  exact {
    accepted := by simpa using ⟨hData, hRange⟩
    rejected := fun hSome => absurd rfl hSome
    length := List.length_mapIdx
    rows := fun _ => hRows
    firstUsed := by
      intro row hRow hUsed
      obtain ⟨later, hLater, hWritten⟩ := hRows 0 row hRow
      exact ⟨later, hLater, hWritten.epUsed_first hUsed⟩ }

/-- No octet and no row is read that is not there, and the write does to the
table what `Written` says. -/
theorem applyReconfig_written (table : List EndpointGenericConfig)
    (start : UInt16) (data : Octets) :
    ∃ after error, applyReconfig table start data = some (after, error) ∧
      Written table start.toNat data after error := by
  by_cases hData : data = []
  · subst hData
    exact ⟨table, some .shortWrite, rfl, .of_rejected _ (by simp)⟩
  by_cases hRange : start.toNat + data.length ≤ table.length * rowLen
  · refine ⟨_, none, ?_, .of_accepted hData hRange⟩
    have hLoop := @foldlM_applyRow table start.toNat data hRange
    simp [applyReconfig, hData, hRange, hLoop]
  · refine ⟨table, some .outOfRange, ?_, .of_rejected _ (by simp [hRange])⟩
    simp [applyReconfig, hData, hRange]

end CppRcp.Regmap.EpGenericCfg
