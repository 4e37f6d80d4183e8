import CppRcp.Properties.RowWrites

/-!
# Reading a table after a write

The block of a table after an accepted write is the block before it with the
octets written put in, except for the bits of a row that no field holds.  These
read as 0.
-/

namespace CppRcp.Regmap

open CppRcp.Foundation
open RequestStreamCfg (field saturate saturate_eq_iff)

/-- Keeps the bits that the mask has at the place of the octet. -/
def masked (mask : Nat → UInt8) (place : Nat) (octet : UInt8) : UInt8 :=
  octet &&& mask place

/-- The table after an accepted write reads as the block before it, patched, as
far as the mask goes; a rejected write keeps the table. -/
def ReadsWritten {ρ ε : Type} (block : List ρ → Octets) (rowLen : Nat)
    (mask : Nat → UInt8) (table : List ρ) (start : UInt16) (data : Octets)
    (result : List ρ × Option ε) : Prop :=
  (result.2 = none →
    block result.1 =
      mapPlaces (masked mask) rowLen (patch (block table) start.toNat data)) ∧
  ∀ e, result.2 = some e → result.1 = table

/-- The place of every octet has a field. -/
def wholeMask : Nat → UInt8 := fun _ => 0xFF

private theorem and_mask_whole (octet : UInt8) : octet &&& 0xFF = octet := by
  apply UInt8.toNat_inj.mp
  rw [UInt8.toNat_and, show (0xFF : UInt8).toNat = 2 ^ 8 - 1 by simp,
    Nat.and_two_pow_sub_one_eq_mod, Nat.mod_eq_of_lt octet.toNat_lt]

private theorem mapIdx_masked_whole {mask : Nat → UInt8} {octets : Octets}
    (h : ∀ i < octets.length, mask i = 0xFF) :
    octets.mapIdx (masked mask) = octets := by
  apply List.ext_getElem
  · simp
  · intro i _ hi
    simp [masked, h i hi, and_mask_whole]

private theorem applyRowReconfig_reads {ρ ε : Type} {codec : RowCodec UInt8 ρ}
    {shortWrite outOfRange : ε} {mask : Nat → UInt8}
    (hKeep : ∀ image, image.length = codec.rowLen →
      codec.render (codec.parse image) = image.mapIdx (masked mask))
    (table : List ρ) (start : UInt16) (data : Octets) :
    ReadsWritten codec.block codec.rowLen mask table start data
      (applyRowReconfig codec shortWrite outOfRange table start data) := by
  constructor
  · intro hAccepted
    unfold applyRowReconfig at hAccepted ⊢
    by_cases hData : data.length = 0
    · simp [hData] at hAccepted
    by_cases hCount : tableMaxEntries < table.length
    · simp [hData, hCount] at hAccepted
    by_cases hRange : table.length * codec.rowLen < start.toNat + data.length
    · simp [hData, hCount, hRange] at hAccepted
    simp only [hData, hCount, hRange, if_false]
    exact RowCodec.block_write hKeep (not_lt.mp hRange)
  · intro e hRejected
    exact applyRowReconfig_rejected hRejected

/-! ## Fields put back -/

section Field

variable {octets : Octets} {offset width : Nat}

private theorem field_lt (octets : Octets) (offset width : Nat) :
    field octets offset width < 256 ^ width := by
  have hLength : (slice octets offset width).length ≤ width := by
    unfold slice
    exact List.length_take_le _ _
  exact (getBe_lt _).trans_le (Nat.pow_le_pow_right (by decide) hLength)

theorem putBe_field (h : offset + width ≤ octets.length) :
    putBe width (field octets offset width) = slice octets offset width := by
  have hPut := putBe_getBe (slice octets offset width)
  rwa [length_slice h] at hPut

private theorem octet_field (h : offset + 1 ≤ octets.length) :
    [UInt8.ofNat (field octets offset 1)] = slice octets offset 1 := by
  rw [← putBe_field h]
  simp [putBe]

private theorem putBe_field_word (h : offset + 2 ≤ octets.length) :
    putBe 2 (UInt16.ofNat (field octets offset 2)).toNat =
      slice octets offset 2 := by
  rw [UInt16.toNat_ofNat_of_lt' (field_lt octets offset 2), putBe_field h]

end Field

/-! ## The rows -/

private theorem HwPinMap.renderRow_parseRow {image : Octets}
    (h : image.length = rowLen) :
    renderRow (parseRow image) = image.mapIdx (masked wholeMask) := by
  unfold rowLen at h
  calc renderRow (parseRow image)
      = slice image 0 1 ++ slice image 1 1 ++ slice image 2 1 := by
        rw [← octet_field (by omega), ← octet_field (by omega),
          ← octet_field (by omega)]
        rfl
    _ = image := by
        rw [slice_append, slice_append, slice_all h.le]
    _ = image.mapIdx (masked wholeMask) :=
        (mapIdx_masked_whole fun _ _ => rfl).symm

private theorem ResponseQueueCfg.renderRow_parseRow {image : Octets}
    (h : image.length = rowLen) :
    renderRow (parseRow image) = image.mapIdx (masked wholeMask) := by
  unfold rowLen at h
  have hTime : saturate 0xFFFF (UInt32.ofNat (field image 8 2)).toNat =
      field image 8 2 := by
    have hLt := field_lt image 8 2
    rw [UInt32.toNat_ofNat_of_lt' (hLt.trans (by decide)), saturate_eq_iff]
    omega
  calc renderRow (parseRow image)
      = slice image 0 2 ++ slice image 2 2 ++ slice image 4 2 ++
          slice image 6 2 ++ slice image 8 2 := by
        simp only [renderRow, parseRow, hTime]
        rw [putBe_field_word (by omega), putBe_field_word (by omega),
          putBe_field_word (by omega), putBe_field_word (by omega),
          putBe_field (by omega)]
    _ = image := by
        rw [slice_append, slice_append, slice_append, slice_append,
          slice_all h.le]
    _ = image.mapIdx (masked wholeMask) :=
        (mapIdx_masked_whole fun _ _ => rfl).symm

/-- The low four bits of the last octet have no field. -/
def EpIdMap.mask (place : Nat) : UInt8 := if place = 3 then 0xF0 else 0xFF

private theorem and_highHalf (octet : UInt8) :
    octet &&& 0xF0 = UInt8.ofNat (octet.toNat / 16 * 16) := by
  have hTable : ∀ n < 256, n &&& 0xF0 = n / 16 * 16 := by
    set_option maxRecDepth 2000 in decide
  apply UInt8.toNat_inj.mp
  rw [UInt8.toNat_and, UInt8.toNat_ofNat', ← hTable _ octet.toNat_lt,
    Nat.mod_eq_of_lt (Nat.and_lt_two_pow _ (by decide))]
  simp

namespace EpIdMap

private theorem putBe_highHalf (first last : UInt8) :
    putBe 2 ((first.toNat * 256 + last.toNat) / 16 * 16) =
      [first, last &&& 0xF0] := by
  have hLast := last.toNat_lt
  have hFirst : (first.toNat * 256 + last.toNat) / 16 * 16 / 256 =
      first.toNat := by
    omega
  have hRest : (first.toNat * 256 + last.toNat) / 16 * 16 =
      first.toNat * 256 ^ 1 + last.toNat / 16 * 16 := by
    omega
  rw [and_highHalf, putBe, pow_one, hFirst, hRest, putBe_add]
  simp [putBe]

private theorem bbidCtrl_parsed {word : Nat} (h : word < 2 ^ 16) :
    (UInt16.ofNat (word >>> 5 &&& 0x7FF)).toNat % 0x800 * 32 +
        weight (word.testBit 4) 0x10 =
      word / 16 * 16 := by
  have hBus : word >>> 5 &&& 0x7FF = word / 32 := by
    rw [show (0x7FF : Nat) = 2 ^ 11 - 1 by simp,
      Nat.and_two_pow_sub_one_eq_mod, Nat.shiftRight_eq_div_pow]
    omega
  have hCrc : weight (word.testBit 4) 0x10 = word / 16 % 2 * 16 := by
    rw [Nat.testBit_eq_decide_div_mod_eq]
    rcases Nat.mod_two_eq_zero_or_one (word / 16) with hBit | hBit
    · simp [hBit, weight]
    · simp [hBit, weight]
  rw [hBus, hCrc, UInt16.toNat_ofNat']
  omega

private theorem renderRow_parseRow {image : Octets}
    (h : image.length = rowLen) :
    renderRow (parseRow image) = image.mapIdx (masked mask) := by
  unfold rowLen at h
  have hWord : (slice image 2 2).length = 2 := length_slice (by omega)
  obtain ⟨first, last, hPair⟩ := List.length_eq_two.mp hWord
  have hField : field image 2 2 = first.toNat * 256 + last.toNat := by
    simp [field, hPair, getBe_cons]
  have hEpId : UInt8.ofNat (UInt16.ofNat (field image 1 1)).toNat =
      UInt8.ofNat (field image 1 1) := by
    have hLt := field_lt image 1 1
    rw [UInt16.toNat_ofNat_of_lt' (hLt.trans (by decide))]
  have hSplit : image = slice image 0 2 ++ [first, last] := by
    rw [← hPair, slice_append, slice_all h.le]
  have hFront : (slice image 0 2).length = 2 := length_slice (by omega)
  calc renderRow (parseRow image)
      = slice image 0 1 ++ slice image 1 1 ++ [first, last &&& 0xF0] := by
        unfold renderRow
        rw [bbidCtrl_eq]
        simp only [parseRow, hEpId]
        rw [bbidCtrl_parsed (field_lt image 2 2), hField, putBe_highHalf,
          ← octet_field (by omega), ← octet_field (by omega)]
        rfl
    _ = slice image 0 2 ++ [first, last &&& 0xF0] := by
        rw [slice_append]
    _ = (slice image 0 2 ++ [first, last]).mapIdx (masked mask) := by
        rw [List.mapIdx_append, mapIdx_masked_whole, hFront]
        · simp [masked, mask, and_mask_whole]
        · intro i hi
          rw [hFront] at hi
          exact if_neg (by omega)
    _ = image.mapIdx (masked mask) := by rw [← hSplit]

end EpIdMap

namespace RequestStreamCfg

/-- The high half of the octet of the settings, and the last six octets of a
row, have no field. -/
def mask (place : Nat) : UInt8 :=
  if place = 0x0D then 0x0F else if place < 0x12 then 0xFF else 0

private theorem ticks_readBack {msPerTick : UInt32}
    (h : 1 ≤ msPerTick.toNat ∧ msPerTick.toNat ≤ 65537) (ticks : UInt16)
    (interval : UInt32) :
    (wdTimeoutMsToTicks ((wdTimeoutTicksToMs ticks msPerTick).getD interval)
      msPerTick).getD 0 = ticks := by
  have hTicks := ticks.toNat_lt
  have hNonzero : msPerTick ≠ 0 := by
    rintro rfl
    simp at h
  have hProduct : ticks.toNat * msPerTick.toNat ≤ 65535 * 65537 :=
    Nat.mul_le_mul (by omega) h.2
  have hMs : (wdTimeoutTicksToMs ticks msPerTick).getD interval =
      UInt32.ofNat (ticks.toNat * msPerTick.toNat) := by
    unfold wdTimeoutTicksToMs
    rw [if_neg hNonzero, if_neg (by omega), Option.getD_some]
  have hQuotient : ticks.toNat * msPerTick.toNat / msPerTick.toNat =
      ticks.toNat := Nat.mul_div_cancel _ (by omega)
  apply UInt16.toNat_inj.mp
  rw [hMs, toNat_ticks hNonzero,
    UInt32.toNat_ofNat_of_lt' (hProduct.trans_lt (by decide)), hQuotient,
    if_pos (by omega)]

private theorem flagsOctet_parsed {msPerTick : UInt32} {image : Octets}
    {row : RequestStreamConfig} {blocked : Bool} {bits : UInt8}
    (h : UInt8.ofNat (field image 0x0D 1) = bits) :
    flagsOctet (parseRow msPerTick image row) blocked =
      UInt8.ofNat ((bits &&& 0x0F).toNat + weight blocked 0x80) := by
  have hTable : ∀ n < 256, weight (n.testBit 0) 1 + weight (n.testBit 1) 2 +
      weight (n.testBit 2) 4 + weight (n.testBit 3) 8 = n &&& 0x0F := by
    set_option maxRecDepth 4000 in decide
  simp only [flagsOctet, parseRow, h, Bool.and_self, flag,
    hTable _ bits.toNat_lt]
  simp

private theorem renderRow_parseRow {msPerTick : UInt32}
    (h : 1 ≤ msPerTick.toNat ∧ msPerTick.toNat ≤ 65537) {image : Octets}
    (hImage : image.length = rowLen) (blocked : Bool)
    (row : RequestStreamConfig) :
    renderRow msPerTick blocked (parseRow msPerTick image row) =
      slice image 0 13 ++
        [UInt8.ofNat ((UInt8.ofNat (field image 0x0D 1) &&& 0x0F).toNat +
          weight blocked 0x80)] ++
        slice image 14 4 ++ List.replicate 6 0 := by
  unfold rowLen at hImage
  have hSize : saturate 0xFFFF (field image 0x08 2) = field image 0x08 2 := by
    have hLt := field_lt image 0x08 2
    rw [saturate_eq_iff]
    omega
  have hSequencer : UInt8.ofNat (saturate 0xFF
      (UInt16.ofNat (field image 0x0E 1)).toNat) =
        UInt8.ofNat (field image 0x0E 1) := by
    have hLt := field_lt image 0x0E 1
    rw [UInt16.toNat_ofNat_of_lt' (hLt.trans (by decide)),
      saturate_eq_iff.mpr (by omega)]
  have hId : putBe 8 (UInt64.ofNat (field image 0x00 8)).toNat =
      slice image 0 8 := by
    rw [UInt64.toNat_ofNat_of_lt' (field_lt image 0x00 8),
      putBe_field (by omega)]
  have hBack : slice image 14 1 ++ slice image 15 1 ++ slice image 16 1 ++
      slice image 17 1 = slice image 14 4 := by
    rw [slice_append, slice_append, slice_append]
  have hFront : slice image 0 8 ++ slice image 8 2 ++ slice image 10 2 ++
      slice image 12 1 = slice image 0 13 := by
    rw [slice_append, slice_append, slice_append]
  unfold renderRow
  rw [flagsOctet_parsed rfl, ← hBack, ← hFront]
  simp only [parseRow]
  rw [hId, hSize, putBe_field (by omega), ticks_readBack h,
    putBe_field_word (by omega), hSequencer, ← octet_field (by omega),
    ← octet_field (by omega), ← octet_field (by omega),
    ← octet_field (by omega), ← octet_field (by omega)]
  simp

private theorem mapIdx_mask {front back last : Octets} (settings : UInt8)
    (hFront : front.length = 13) (hBack : back.length = 4)
    (hLast : last.length = 6) :
    (front ++ [settings] ++ back ++ last).mapIdx (masked mask) =
      front ++ [settings &&& 0x0F] ++ back ++ List.replicate 6 0 := by
  have hKeepFront : front.mapIdx (masked mask) = front := by
    apply mapIdx_masked_whole
    intro i hi
    rw [mask, if_neg (by omega), if_pos (by omega)]
  have hKeepBack : back.mapIdx (fun i => masked mask (i + 14)) = back := by
    apply mapIdx_masked_whole
    intro i hi
    rw [mask, if_neg (by omega), if_pos (by omega)]
  have hClear : last.mapIdx (fun i => masked mask (i + 18)) =
      List.replicate 6 0 := by
    rw [← hLast, List.mapIdx_eq_replicate_iff]
    intro i hi
    simp [masked, mask]
  simp only [List.mapIdx_append, hKeepFront, List.length_append, hFront, hBack,
    List.length_singleton, hKeepBack, hClear]
  rfl

private theorem mapIdx_mask_image {image : Octets}
    (hImage : image.length = rowLen) :
    image.mapIdx (masked mask) =
      slice image 0 13 ++ [UInt8.ofNat (field image 0x0D 1) &&& 0x0F] ++
        slice image 14 4 ++ List.replicate 6 0 := by
  unfold rowLen at hImage
  have hSplit : image = slice image 0 13 ++
      [UInt8.ofNat (field image 0x0D 1)] ++ slice image 14 4 ++
        slice image 18 6 := by
    rw [octet_field (by omega), slice_append, slice_append, slice_append,
      slice_all hImage.le]
  have hMasked := mapIdx_mask (UInt8.ofNat (field image 0x0D 1))
    (length_slice (by omega : 0 + 13 ≤ image.length))
    (length_slice (by omega : 14 + 4 ≤ image.length))
    (length_slice (by omega : 18 + 6 ≤ image.length))
  rwa [← hSplit] at hMasked

private theorem renderRow_parseRow_open {msPerTick : UInt32}
    (h : 1 ≤ msPerTick.toNat ∧ msPerTick.toNat ≤ 65537) {image : Octets}
    (hImage : image.length = rowLen) (row : RequestStreamConfig) :
    renderRow msPerTick false (parseRow msPerTick image row) =
      image.mapIdx (masked mask) := by
  rw [renderRow_parseRow h hImage, mapIdx_mask_image hImage, weight,
    if_neg Bool.false_ne_true, Nat.add_zero, UInt8.ofNat_toNat]

private theorem and_flagsOctet (row : RequestStreamConfig) (blocked : Bool) :
    flagsOctet row blocked &&& 0x0F = flagsOctet row false &&& 0x0F := by
  unfold flagsOctet
  generalize row.rxEnforceE2e = a
  generalize (row.rxEnforceSeq && row.rxSeqSafestateEnable) = b
  generalize (row.rxWdEnable && row.rxWdSafestateEnable) = c
  generalize row.rxOvrflwSafestateEnable = d
  revert a b c d blocked
  decide

private theorem masked_renderRow (msPerTick : UInt32) (blocked : Bool)
    (row : RequestStreamConfig) :
    (renderRow msPerTick blocked row).mapIdx (masked mask) =
      (renderRow msPerTick false row).mapIdx (masked mask) := by
  have hParts : ∀ b, renderRow msPerTick b row =
      (putBe 8 row.streamId.toNat ++
        putBe 2 (saturate 0xFFFF row.rxStreamMaxRequestSize) ++
        putBe 2 ((wdTimeoutMsToTicks row.rxWdTimeoutInterval
          msPerTick).getD 0).toNat ++ [row.rxSecureChannelIndex]) ++
        [flagsOctet row b] ++
        [UInt8.ofNat (saturate 0xFF row.rxSafestateSequencer.toNat),
          row.rxSafeSequencerState, row.rxAckStreamIndex,
          row.rxRespStreamIndex] ++ List.replicate 6 0 := by
    intro b
    simp [renderRow]
  rw [hParts, hParts, mapIdx_mask _ (by simp) (by simp) (by simp),
    mapIdx_mask _ (by simp) (by simp) (by simp), and_flagsOctet]

/-! ## The block -/

section Block

variable {table : List RequestStreamConfig} {msPerTick : UInt32}

private theorem slice_render_blocked (blocked : Option (List Bool)) {i : Nat}
    {row : RequestStreamConfig} (hRow : table[i]? = some row) :
    slice (render table msPerTick blocked) (i * rowLen) rowLen =
      renderRow msPerTick (blocked.any fun streams => streams.getD i false)
        row := by
  apply slice_flatten (length_rendered blocked)
  rw [List.getElem?_mapIdx, hRow]
  rfl

private theorem masked_render (blocked : Option (List Bool)) :
    mapPlaces (masked mask) rowLen (render table msPerTick blocked) =
      mapPlaces (masked mask) rowLen (render table msPerTick none) := by
  apply eq_of_rows table.length rowLen
  · rw [length_mapPlaces, length_render]
  · rw [length_mapPlaces, length_render]
  · intro i hi
    have hRow : table[i]? = some table[i] := List.getElem?_eq_getElem hi
    rw [slice_mapPlaces, slice_mapPlaces, slice_render_blocked blocked hRow,
      slice_render hRow, masked_renderRow]

def parse (table : List RequestStreamConfig) (msPerTick : UInt32)
    (block : Octets) : List RequestStreamConfig :=
  table.mapIdx fun i row =>
    parseRow msPerTick (slice block (i * rowLen) rowLen) row

private theorem render_parse
    (h : 1 ≤ msPerTick.toNat ∧ msPerTick.toNat ≤ 65537) {block : Octets}
    (hBlock : block.length = table.length * rowLen) :
    render (parse table msPerTick block) msPerTick none =
      mapPlaces (masked mask) rowLen block := by
  apply eq_of_rows table.length rowLen
  · rw [length_render, parse, List.length_mapIdx]
  · rw [length_mapPlaces, hBlock]
  · intro i hi
    have hRow : (parse table msPerTick block)[i]? =
        some (parseRow msPerTick (slice block (i * rowLen) rowLen)
          table[i]) := by
      simp [parse, hi]
    have hImage : (slice block (i * rowLen) rowLen).length = rowLen := by
      apply length_slice
      rw [hBlock, ← Nat.succ_mul]
      exact Nat.mul_le_mul_right _ hi
    rw [slice_render hRow, slice_mapPlaces, renderRow_parseRow_open h hImage]

private theorem applyReconfig_eq {start : UInt16} {data : Octets}
    (hAccepted : (applyReconfig table start data msPerTick).2 = none) :
    start.toNat + data.length ≤ table.length * rowLen ∧
      (applyReconfig table start data msPerTick).1 =
        parse table msPerTick
          (patch (render table msPerTick none) start.toNat data) := by
  unfold applyReconfig at hAccepted ⊢
  by_cases hData : data.length = 0
  · simp [hData] at hAccepted
  by_cases hCount : tableMaxEntries < table.length
  · simp [hData, hCount] at hAccepted
  by_cases hRange : table.length * rowLen < start.toNat + data.length
  · simp [hData, hCount, hRange] at hAccepted
  simp only [hData, hCount, hRange, if_false]
  exact ⟨not_lt.mp hRange, rfl⟩

private theorem applyReconfig_reads
    (h : 1 ≤ msPerTick.toNat ∧ msPerTick.toNat ≤ 65537) (start : UInt16)
    (data : Octets) :
    ReadsWritten (fun rows => render rows msPerTick none) rowLen mask table
      start data (applyReconfig table start data msPerTick) := by
  constructor
  · intro hAccepted
    obtain ⟨hRange, hAfter⟩ := applyReconfig_eq hAccepted
    rw [hAfter]
    apply render_parse h
    rw [length_patch (by rw [length_render]; exact hRange), length_render]
  · intro e hRejected
    exact applyReconfig_rejected hRejected

private theorem mapPlaces_masked_twice (block : Octets) :
    mapPlaces (masked mask) rowLen (mapPlaces (masked mask) rowLen block) =
      mapPlaces (masked mask) rowLen block := by
  have hTwice : ∀ a b : UInt8, a &&& b &&& b = a &&& b := by
    intro a b
    rw [UInt8.and_assoc, UInt8.and_self]
  simp [mapPlaces, List.mapIdx_mapIdx, masked, Function.comp_def, hTwice]

private theorem applyReconfig_reads_blocked
    (h : 1 ≤ msPerTick.toNat ∧ msPerTick.toNat ≤ 65537) {start : UInt16}
    {data : Octets} (blocked : Option (List Bool))
    (hAccepted : (applyReconfig table start data msPerTick).2 = none) :
    mapPlaces (masked mask) rowLen
        (render (applyReconfig table start data msPerTick).1 msPerTick
          blocked) =
      mapPlaces (masked mask) rowLen
        (patch (render table msPerTick blocked) start.toNat data) := by
  have hRange := (applyReconfig_eq hAccepted).1
  have hBefore : ∀ blocked, start.toNat + data.length ≤
      (render table msPerTick blocked).length := by
    intro blocked
    rwa [length_render]
  have hAfter : render (applyReconfig table start data msPerTick).1
      msPerTick none =
      mapPlaces (masked mask) rowLen
        (patch (render table msPerTick none) start.toNat data) :=
    (applyReconfig_reads h start data).1 hAccepted
  rw [masked_render, hAfter, mapPlaces_masked_twice]
  exact mapPlaces_patch_congr (hBefore none) (hBefore blocked)
    (masked_render blocked).symm

end Block

end RequestStreamCfg

/-! ## All tables -/

/-- Every table reads as it was written, and a rejected write changes none.
The tables need not have been read from a block themselves. -/
theorem tables_read_written (pins : List HwPinMapEntry)
    (map : List EpIdMappingEntry) (queues : List ResponseQueueConfig)
    (streams : List RequestStreamConfig) (start : UInt16) (data : Octets)
    {msPerTick : UInt32}
    (h : 1 ≤ msPerTick.toNat ∧ msPerTick.toNat ≤ 65537)
    (blocked : Option (List Bool)) :
    ReadsWritten HwPinMap.render HwPinMap.rowLen wholeMask pins start data
        (HwPinMap.applyReconfig pins start data) ∧
    ReadsWritten EpIdMap.render EpIdMap.rowLen EpIdMap.mask map start data
        (EpIdMap.applyReconfig map start data) ∧
    ReadsWritten ResponseQueueCfg.render ResponseQueueCfg.rowLen wholeMask
        queues start data (ResponseQueueCfg.applyReconfig queues start data) ∧
    ReadsWritten (fun rows => RequestStreamCfg.render rows msPerTick none)
        RequestStreamCfg.rowLen RequestStreamCfg.mask streams start data
        (RequestStreamCfg.applyReconfig streams start data msPerTick) ∧
    ((RequestStreamCfg.applyReconfig streams start data msPerTick).2 = none →
      mapPlaces (masked RequestStreamCfg.mask) RequestStreamCfg.rowLen
          (RequestStreamCfg.render
            (RequestStreamCfg.applyReconfig streams start data msPerTick).1
            msPerTick blocked) =
        mapPlaces (masked RequestStreamCfg.mask) RequestStreamCfg.rowLen
          (patch (RequestStreamCfg.render streams msPerTick blocked)
            start.toNat data)) := by
  constructor
  · exact applyRowReconfig_reads (fun _ => HwPinMap.renderRow_parseRow) pins
      start data
  constructor
  · exact applyRowReconfig_reads (fun _ => EpIdMap.renderRow_parseRow) map
      start data
  constructor
  · exact applyRowReconfig_reads (fun _ => ResponseQueueCfg.renderRow_parseRow)
      queues start data
  constructor
  · exact RequestStreamCfg.applyReconfig_reads h start data
  · exact RequestStreamCfg.applyReconfig_reads_blocked h blocked

theorem tables_read_written_blockingTable :
    ReadsWritten
        (fun rows => RequestStreamCfg.render rows 65537 none)
        RequestStreamCfg.rowLen RequestStreamCfg.mask
        RequestStreamCfg.blockingTable 13 (List.replicate 30 0xFF)
        (RequestStreamCfg.applyReconfig RequestStreamCfg.blockingTable 13
          (List.replicate 30 0xFF) 65537) ∧
      (RequestStreamCfg.applyReconfig RequestStreamCfg.blockingTable 13
        (List.replicate 30 0xFF) 65537).2 = none := by
  have hTicks : 1 ≤ (65537 : UInt32).toNat ∧ (65537 : UInt32).toNat ≤ 65537 :=
    by decide
  have hReads := tables_read_written [{}] [{}] [{}]
    RequestStreamCfg.blockingTable 13 (List.replicate 30 0xFF) hTicks
    (some [false, true])
  exact ⟨hReads.2.2.2.1, by decide⟩

end CppRcp.Regmap
