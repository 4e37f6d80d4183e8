import CppRcp.Properties.Unwrapping

/-!
# Unwrapping what was wrapped

For a header in range, `unwrap` finds the parts `wrap` put together and
returns the plain encoding of the header and the whole payload.
-/

namespace CppRcp.E2e

open CppRcp.Foundation CppRcp.Acf

/-- A header and payload `wrap` can represent: the pad octets are in the
payload, and the length with the checksum's quadlet fits its nine bits. -/
structure InRange (info : AcfMessageInfo) (payload : Octets) : Prop where
  type : info.acfMsgType = acfMsgTypeAbb ∧ info.mtv = false ∨
    info.acfMsgType = acfMsgTypeGbb
  pad_le : info.pad.toNat ≤ 3
  pad_le_payload : info.pad.toNat ≤ payload.length
  given_lt : info.acfMsgLength.toNat < acfMaxQuadlets
  filled_lt : info.acfMsgLength = 0 →
    (headerLen info.acfMsgType + (payload.length - info.pad.toNat) + 3) / 4 <
      acfMaxQuadlets

namespace InRange

variable {info : AcfMessageInfo} {payload : Octets} (h : InRange info payload)

include h

theorem known : info.acfMsgType = acfMsgTypeAbb ∨
    info.acfMsgType = acfMsgTypeGbb :=
  h.type.imp_left And.left

private theorem filled_bounds :
    let filled := info.autoFilled (payload.length - info.pad.toNat)
    0 < filled.acfMsgLength.toNat ∧
      filled.acfMsgLength.toNat < acfMaxQuadlets := by
  intro filled
  have hGiven := h.given_lt
  by_cases hZero : info.acfMsgLength = 0
  · have hFilled : filled.acfMsgLength = computeAcfMsgLength info.acfMsgType
        (payload.length - info.pad.toNat) := by
      simp [filled, AcfMessageInfo.autoFilled, hZero]
    have hLt := h.filled_lt hZero
    have hHead := le_headerLen info.acfMsgType
    unfold acfCommonHeaderLen at hHead
    unfold acfMaxQuadlets at hLt ⊢
    rw [hFilled, computeAcfMsgLength, UInt16.toNat_ofNat',
      Nat.mod_eq_of_lt (by omega)]
    omega
  · have hFilled : filled.acfMsgLength = info.acfMsgLength := by
      simp [filled, AcfMessageInfo.autoFilled, hZero]
    have hPos : info.acfMsgLength.toNat ≠ 0 := fun hNat =>
      hZero (UInt16.toNat_inj.mp hNat)
    rw [hFilled]
    omega

private theorem toNat_adjusted :
    let realLen := payload.length - info.pad.toNat
    (adjustedInfo info realLen).acfMsgLength.toNat =
      (info.autoFilled realLen).acfMsgLength.toNat + 1 := by
  intro realLen
  have hLt : (info.autoFilled realLen).acfMsgLength.toNat < 511 :=
    h.filled_bounds.2
  unfold adjustedInfo
  rw [UInt16.toNat_add]
  change ((info.autoFilled realLen).acfMsgLength.toNat + 1) % 65536 = _
  exact Nat.mod_eq_of_lt (by omega)

theorem emittedInfo_adjustedInfo :
    let realLen := payload.length - info.pad.toNat
    emittedInfo (adjustedInfo info realLen) realLen =
      adjustedInfo info realLen := by
  intro realLen
  obtain ⟨-, hLt⟩ := h.filled_bounds
  have hLast : ¬ (info.autoFilled realLen).acfMsgLength = 0xFFFF := by
    intro hLast
    rw [hLast] at hLt
    exact absurd hLt (by decide)
  have hMtv : (adjustedInfo info realLen).mtv =
      if info.acfMsgType = acfMsgTypeAbb then false else info.mtv := by
    have hSame : (adjustedInfo info realLen).mtv = info.mtv := by
      unfold adjustedInfo AcfMessageInfo.autoFilled
      split <;> rfl
    rw [hSame]
    split
    · rename_i hAbb
      obtain ⟨-, hMtv⟩ | hGbb := h.type
      · exact hMtv
      · rw [hAbb] at hGbb
        exact absurd hGbb (by decide)
    · rfl
  rw [E2e.emittedInfo_adjustedInfo h.known, if_neg hLast, ← hMtv]

end InRange

/-! ## The parts of the wrapped frame -/

theorem clearReserved_headerOctets (info : AcfMessageInfo)
    (messageTimestamp : Nat) (rest : Octets) :
    clearReserved (headerOctets info messageTimestamp ++ rest) =
      headerOctets info messageTimestamp ++ rest := by
  have hMtv := info.mtv.toNat_le
  have hHs := info.hs.toNat_le
  have hCs := info.cs.toNat_le
  have hAck := info.evtAck.toNat_le
  have hClear : clearReserved (encodeAcfMessageInfo info) =
      encodeAcfMessageInfo info := by
    simp only [clearReserved, encodeAcfMessageInfo, List.modify_succ_cons,
      List.modify_zero_cons, List.cons.injEq, true_and, and_true, weight_eq]
    constructor <;> apply UInt8.toNat_inj.mp
    · rw [toNat_clearOctet2, toNat_ofNat_of_lt (by omega)]
      omega
    · rw [toNat_clearOctet4, toNat_ofNat_of_lt (by omega)]
      omega
  have hLong : ∀ tail : Octets, clearReserved
      (encodeAcfMessageInfo info ++ tail) =
        encodeAcfMessageInfo info ++ tail := by
    intro tail
    rw [clearReserved_append _ (by simp [acfCommonHeaderLen]), hClear]
  unfold headerOctets
  split
  · rw [List.append_assoc, hLong]
  · exact hLong rest

private theorem getBe_headerOctets {info : AcfMessageInfo}
    (messageTimestamp : UInt64)
    (rest : Octets) (hType : info.acfMsgType = acfMsgTypeGbb) :
    getBe (((headerOctets info messageTimestamp.toNat ++ rest).drop
      acfCommonHeaderLen).take 8) = messageTimestamp.toNat := by
  have hDrop : (headerOctets info messageTimestamp.toNat ++ rest).drop
      acfCommonHeaderLen = putBe 8 messageTimestamp.toNat ++ rest := by
    unfold headerOctets
    rw [if_pos hType, List.append_assoc]
    rfl
  rw [hDrop, List.take_left' (length_putBe ..)]
  exact getBe_putBe_of_lt messageTimestamp.toNat_lt

section Wrapped

variable (framing : Framing) {info : AcfMessageInfo}
  (messageTimestamp : Option UInt64) {payload : Octets}
  (h : InRange info payload)

include h

private theorem wrap_inRange :
    let realLen := payload.length - info.pad.toNat
    let header := headerOctets (adjustedInfo info realLen)
      (messageTimestamp.getD 0).toNat
    framing.wrap info messageTimestamp payload =
      header ++ payload.take realLen ++
        putBe 4 (crc32 (framing.crcPrefix ++ header ++
          payload.take realLen)).toNat ++
        payload.drop realLen := by
  intro realLen header
  rw [framing.wrap_eq info messageTimestamp h.pad_le_payload,
    h.emittedInfo_adjustedInfo]

theorem decode_wrap :
    decodeAcfMessageInfo (framing.wrap info messageTimestamp payload) =
      (adjustedInfo info
        (payload.length - info.pad.toNat)).truncated := by
  rw [wrap_inRange framing messageTimestamp h, List.append_assoc,
    List.append_assoc, decode_headerOctets]

private theorem truncated_type :
    (adjustedInfo info
      (payload.length - info.pad.toNat)).truncated.acfMsgType =
        info.acfMsgType := by
  have hType := acfMsgType_adjustedInfo info
    (payload.length - info.pad.toNat)
  obtain hAbb | hGbb := h.known
  · simp only [AcfMessageInfo.truncated, hType, hAbb]
    rfl
  · simp only [AcfMessageInfo.truncated, hType, hGbb]
    rfl

private theorem truncated_pad :
    (adjustedInfo info
      (payload.length - info.pad.toNat)).truncated.pad = info.pad := by
  have hPad : (adjustedInfo info
      (payload.length - info.pad.toNat)).pad = info.pad := by
    unfold adjustedInfo AcfMessageInfo.autoFilled
    split <;> rfl
  have hLe := h.pad_le
  simp only [AcfMessageInfo.truncated, hPad]
  rw [Nat.mod_eq_of_lt (by omega), UInt8.ofNat_toNat]

theorem length_wrap :
    (framing.wrap info messageTimestamp payload).length =
      headerLen info.acfMsgType + payload.length + crcLengthAdjustOctets := by
  have hPad := h.pad_le_payload
  rw [wrap_inRange framing messageTimestamp h]
  simp only [List.length_append, length_headerOctets, length_putBe,
    List.length_take, List.length_drop, acfMsgType_adjustedInfo,
    crcLengthAdjustOctets]
  omega

theorem sized_wrap : Sized (framing.wrap info messageTimestamp payload) := by
  have hPad := h.pad_le_payload
  have hHead := le_headerLen info.acfMsgType
  unfold Sized
  rw [decode_wrap framing messageTimestamp h, truncated_type h,
    truncated_pad h, length_wrap framing messageTimestamp h]
  omega

theorem realEnd_wrap :
    realEnd (framing.wrap info messageTimestamp payload) =
      trailerOffset info payload := by
  have hPad := h.pad_le_payload
  unfold realEnd trailerOffset
  rw [decode_wrap framing messageTimestamp h, truncated_pad h,
    length_wrap framing messageTimestamp h]
  omega

theorem take_realEnd_wrap :
    let realLen := payload.length - info.pad.toNat
    (framing.wrap info messageTimestamp payload).take
        (trailerOffset info payload) =
      headerOctets (adjustedInfo info realLen)
        (messageTimestamp.getD 0).toNat ++ payload.take realLen := by
  intro realLen
  rw [take_wrap framing info messageTimestamp h.pad_le_payload,
    h.emittedInfo_adjustedInfo]

private theorem restamped_eq :
    let realLen := payload.length - info.pad.toNat
    let received := (adjustedInfo info realLen).truncated
    ({ received with
        acfMsgLength :=
          received.acfMsgLength - crcLengthAdjustQuadlets } :
      AcfMessageInfo) = (info.autoFilled realLen).truncated := by
  intro realLen received
  have hAdjusted : (adjustedInfo info realLen).acfMsgLength.toNat =
      (info.autoFilled realLen).acfMsgLength.toNat + 1 := h.toNat_adjusted
  have hLt : (info.autoFilled realLen).acfMsgLength.toNat < 511 :=
    h.filled_bounds.2
  have hKept : received.acfMsgLength.toNat =
      (info.autoFilled realLen).acfMsgLength.toNat + 1 := by
    change (UInt16.ofNat
      ((adjustedInfo info realLen).acfMsgLength.toNat % 512)).toNat = _
    rw [hAdjusted, UInt16.toNat_ofNat', Nat.mod_eq_of_lt (by omega)]
    exact Nat.mod_eq_of_lt (by omega)
  have hBack : received.acfMsgLength - crcLengthAdjustQuadlets =
      UInt16.ofNat ((info.autoFilled realLen).acfMsgLength.toNat % 512) := by
    have hOne : crcLengthAdjustQuadlets.toNat = 1 := rfl
    apply UInt16.toNat_inj.mp
    rw [UInt16.toNat_sub_of_le, hKept, hOne, Nat.add_sub_cancel,
      UInt16.toNat_ofNat']
    · omega
    · rw [UInt16.le_iff_toNat_le, hKept, hOne]
      omega
  rw [hBack]
  rfl

private theorem acfMsgType_truncated_filled :
    (info.autoFilled
      (payload.length - info.pad.toNat)).truncated.acfMsgType =
        info.acfMsgType :=
  truncated_type h

private theorem headerOctets_truncated (messageTimestamp : Nat) :
    let filled := info.autoFilled (payload.length - info.pad.toNat)
    headerOctets filled.truncated messageTimestamp =
      headerOctets filled messageTimestamp := by
  intro filled
  have hType : filled.truncated.acfMsgType = filled.acfMsgType :=
    (acfMsgType_truncated_filled h).trans (acfMsgType_autoFilled ..).symm
  unfold headerOctets
  rw [hType, encodeAcfMessageInfo_truncated]

theorem encodeAcf_filled (messageTimestamp : Nat) :
    let filled := info.autoFilled (payload.length - info.pad.toNat)
    encodeAcf filled messageTimestamp payload =
      headerOctets filled messageTimestamp ++ payload := by
  intro filled
  have hNe : ¬ filled.acfMsgLength = 0 := by
    intro hZero
    have hPos := h.filled_bounds.1
    rw [show info.autoFilled (payload.length - info.pad.toNat) = filled from
      rfl, hZero] at hPos
    exact absurd hPos (by decide)
  have hMtv : filled.mtv = info.mtv := by
    unfold filled AcfMessageInfo.autoFilled
    split <;> rfl
  have hType : filled.acfMsgType = info.acfMsgType :=
    acfMsgType_autoFilled ..
  have hEmitted : emittedInfo filled payload.length = filled := by
    unfold emittedInfo
    split
    · rw [AcfMessageInfo.autoFilled, if_neg hNe]
    · rename_i hGbb
      obtain ⟨hAbb, hOff⟩ | hGbb' := h.type
      · have hSame : ({ filled with
            acfMsgType := acfMsgTypeAbb, mtv := false } : AcfMessageInfo) =
            filled := by
          rw [← hAbb, ← hOff, ← hMtv, ← hType]
        rw [hSame, AcfMessageInfo.autoFilled, if_neg hNe]
      · exact absurd (hType.trans hGbb') hGbb
  rw [encodeAcf_eq, hEmitted]

/-- The timestamp `unwrap` reads matters for GBB messages only, and there it
is the one that was wrapped. -/
theorem headerOctets_received (header : AcfMessageInfo)
    (hType : header.acfMsgType = info.acfMsgType) :
    headerOctets header
        (getBe (((framing.wrap info messageTimestamp payload).drop
          acfCommonHeaderLen).take 8)) =
      headerOctets header (messageTimestamp.getD 0).toNat := by
  by_cases hGbb : info.acfMsgType = acfMsgTypeGbb
  · rw [wrap_inRange framing messageTimestamp h, List.append_assoc,
      List.append_assoc, getBe_headerOctets _ _
        ((acfMsgType_adjustedInfo info _).trans hGbb)]
  · have hNe : ¬ header.acfMsgType = acfMsgTypeGbb := by
      rw [hType]
      exact hGbb
    unfold headerOctets
    rw [if_neg hNe, if_neg hNe]

/-- `unwrap` undoes `wrap`. -/
theorem unwrap_wrap :
    framing.unwrap (framing.wrap info messageTimestamp payload) =
      ⟨none, encodeAcf
        (info.autoFilled (payload.length - info.pad.toNat))
        (messageTimestamp.getD 0).toNat payload⟩ := by
  have hFrame := wrap_inRange framing messageTimestamp h
  have hTake := take_realEnd_wrap framing messageTimestamp h
  have hTrailer := trailerAt_wrap framing info messageTimestamp
    h.pad_le_payload
  have hBody := length_wrap_body info messageTimestamp h.pad_le_payload
  dsimp only at hFrame hTake hTrailer hBody
  rw [h.emittedInfo_adjustedInfo] at hBody
  set realLen := payload.length - info.pad.toNat
  set header := headerOctets (adjustedInfo info realLen)
    (messageTimestamp.getD 0).toNat
  have hHeader : header.length = headerLen info.acfMsgType := by
    rw [length_headerOctets, acfMsgType_adjustedInfo]
  -- the pad octets follow the trailer
  have hPad : (framing.wrap info messageTimestamp payload).drop
      (trailerOffset info payload + crcLengthAdjustOctets) =
        payload.drop realLen := by
    rw [hFrame]
    apply List.drop_left'
    rw [List.length_append, length_putBe, hBody]
    rfl
  rw [framing.unwrap_of_sized (sized_wrap framing messageTimestamp h),
    realEnd_wrap framing messageTimestamp h, hTake, hTrailer,
    clearReserved_headerOctets, ← List.append_assoc, if_pos rfl,
    decode_wrap framing messageTimestamp h, restamped_eq h,
    headerOctets_received framing messageTimestamp h _
      (acfMsgType_truncated_filled h), truncated_type h,
    headerOctets_truncated h, encodeAcf_filled h,
    List.drop_left' hHeader, hPad, List.append_assoc, List.take_append_drop]

end Wrapped

theorem unwrap_wrap_padded :
    let framing := Framing.framed true 0x00 false 0 none
    framing.unwrap (framing.wrap { byteBusId := 3, pad := 1 } none
      [7, 8, 0]) =
        ⟨none, encodeAcf { byteBusId := 3, pad := 1, acfMsgLength := 3 } 0
          [7, 8, 0]⟩ :=
  unwrap_wrap _ _
    ⟨.inl ⟨rfl, rfl⟩, by decide, by decide, by decide, by decide⟩

end CppRcp.E2e
