import CppRcp.Wire.AcfMessages
import CppRcp.Wire.Avtp
import CppRcp.Wire.Reserved

/-!
# Headers through the codecs

Decoding an encoded header returns it, and encoding a decoded header returns
its octets, where the reserved bits are clear.  The encoders do not write
everything that they are given: an ABB message has no valid timestamp, a length
of zero is filled in, and the reserved fields of TSCF are read only.
-/

namespace CppRcp.Acf

open CppRcp.Foundation CppRcp.E2e

/-! ## Messages -/

/-- Every field is within its width on the wire. -/
structure AcfMessageInfo.InWidths (info : AcfMessageInfo) : Prop where
  acfMsgType : info.acfMsgType.toNat < 128
  acfMsgLength : info.acfMsgLength.toNat < 512
  pad : info.pad.toNat < 4
  byteBusId : info.byteBusId.toNat < 2048
  evtOp : info.evtOp.toNat < 8
  readSizeOrSegmentNum : info.readSizeOrSegmentNum.toNat < 4096

private theorem AcfMessageInfo.InWidths.truncated_eq {info : AcfMessageInfo}
    (h : info.InWidths) : info.truncated = info := by
  unfold AcfMessageInfo.truncated
  rw [Nat.mod_eq_of_lt h.acfMsgType, Nat.mod_eq_of_lt h.acfMsgLength,
    Nat.mod_eq_of_lt h.pad, Nat.mod_eq_of_lt h.byteBusId,
    Nat.mod_eq_of_lt h.evtOp, Nat.mod_eq_of_lt h.readSizeOrSegmentNum]
  simp only [UInt8.ofNat_toNat, UInt16.ofNat_toNat]

/-- The length field is written as it is: it is given, or the computed one is
zero in nine bits. -/
def LengthKept (info : AcfMessageInfo) (msgType : UInt8) (payload : Octets) :
    Prop :=
  info.acfMsgLength = 0 →
    (computeAcfMsgLength msgType payload.length).toNat % 512 = 0

namespace AcfMessage

variable (message : AcfMessage)

private theorem length_kept_iff (h : message.info.truncated = message.info) :
    UInt16.ofNat (message.msgLength.toNat % 512) = message.info.acfMsgLength ↔
      LengthKept message.info message.msgType message.payload := by
  have hLength := congrArg AcfMessageInfo.acfMsgLength h
  unfold msgLength LengthKept
  by_cases hZero : message.info.acfMsgLength = 0
  · rw [if_pos hZero, hZero]
    constructor
    · intro hEq _
      have hNat := congrArg UInt16.toNat hEq
      rw [UInt16.toNat_ofNat'] at hNat
      change _ = 0 at hNat
      omega
    · intro hMod
      rw [hMod rfl]
      rfl
  · rw [if_neg hZero]
    exact iff_of_true hLength fun hEq => absurd hEq hZero

/-- A message's header is written as it is given exactly if it is of the type
of the message and nothing in it is replaced. -/
theorem kept_iff (h : message.info.truncated = message.info) :
    message.header.truncated = message.info ↔
      message.info.acfMsgType = message.msgType ∧
        message.info.mtv = message.header.mtv ∧
          LengthKept message.info message.msgType message.payload := by
  rw [← message.length_kept_iff h]
  have hType : UInt8.ofNat (message.msgType.toNat % 128) =
      message.msgType := by
    cases message with
    | abb info payload => rfl
    | gbb info messageTimestamp payload => rfl
  constructor
  · intro hEq
    refine ⟨?_, (congrArg AcfMessageInfo.mtv hEq).symm,
      congrArg AcfMessageInfo.acfMsgLength hEq⟩
    rw [← hType]
    exact (congrArg AcfMessageInfo.acfMsgType hEq).symm
  · rintro ⟨hInfoType, hMtv, hLength⟩
    have hHeader : message.header =
        { message.info with
          acfMsgType := message.msgType
          mtv := message.header.mtv
          acfMsgLength := message.msgLength } := rfl
    rw [← hInfoType, ← hMtv] at hHeader
    calc message.header.truncated
        = { message.info.truncated with
            acfMsgLength := UInt16.ofNat (message.msgLength.toNat % 512) } := by
          rw [hHeader]
          rfl
      _ = message.info := by rw [h, hLength]

/-- The header octets of a message are those of a received one exactly if the
received header is kept. -/
theorem encode_take_iff {octets : Octets}
    (hInfo : message.info = decodeAcfMessageInfo octets)
    (hLength : acfCommonHeaderLen ≤ octets.length)
    (hReserved : ReservedClear (octets.take acfCommonHeaderLen)) :
    message.encode.take acfCommonHeaderLen =
        octets.take acfCommonHeaderLen ↔
      message.header.truncated = message.info := by
  have hEncoded : message.encode.take acfCommonHeaderLen =
      encodeAcfMessageInfo message.header := by
    rw [encode_eq]
    rfl
  have hOctets : octets.take acfCommonHeaderLen =
      encodeAcfMessageInfo message.info := by
    rw [hInfo, encode_decodeAcfMessageInfo hLength,
      (clearReserved_eq_iff _).mpr hReserved]
  rw [hEncoded, hOctets, encodeAcfMessageInfo_inj, hInfo,
    truncated_decodeAcfMessageInfo]

end AcfMessage

variable {info : AcfMessageInfo} {payload octets : Octets}

private theorem decodeAcfAbb_encodeAcfAbb_iff (h : info.InWidths) :
    decodeAcfAbb (encodeAcfAbb info payload) = .ok (info, payload) ↔
      info.acfMsgType = acfMsgTypeAbb ∧ info.mtv = false ∧
        LengthKept info acfMsgTypeAbb payload := by
  have hDecoded := AcfMessage.decodeAcfAbb_encode info payload
  have hKept := AcfMessage.kept_iff (.abb info payload) h.truncated_eq
  rw [AcfMessage.encode] at hDecoded
  rw [hDecoded, Except.ok.injEq, Prod.mk.injEq, and_iff_left rfl]
  exact hKept

private theorem decodeAcfGbb_encodeAcfGbb_iff (messageTimestamp : UInt64)
    (h : info.InWidths) :
    decodeAcfGbb (encodeAcfGbb info messageTimestamp.toNat payload) =
        .ok (info, messageTimestamp.toNat, payload) ↔
      info.acfMsgType = acfMsgTypeGbb ∧
        LengthKept info acfMsgTypeGbb payload := by
  have hDecoded :=
    AcfMessage.decodeAcfGbb_encode info messageTimestamp payload
  have hKept := AcfMessage.kept_iff (.gbb info messageTimestamp payload)
    h.truncated_eq
  rw [AcfMessage.encode] at hDecoded
  rw [hDecoded, Except.ok.injEq, Prod.mk.injEq, and_iff_left rfl]
  exact hKept.trans (and_congr_right fun _ => and_iff_right rfl)

private theorem encodeAcfAbb_decoded_iff
    (hReserved : ReservedClear (octets.take acfCommonHeaderLen))
    (h : decodeAcfAbb octets = .ok (info, payload)) :
    (encodeAcfAbb info payload).take acfCommonHeaderLen =
        octets.take acfCommonHeaderLen ↔
      info.mtv = false ∧ LengthKept info acfMsgTypeAbb payload := by
  obtain ⟨hInfo, hLength, hType, -⟩ := decodeAcfAbb_ok h
  have hTruncated : info.truncated = info := by
    rw [hInfo, truncated_decodeAcfMessageInfo]
  have hKept := AcfMessage.kept_iff (.abb info payload) hTruncated
  have hOctets := AcfMessage.encode_take_iff (.abb info payload) hInfo
    hLength hReserved
  exact (hOctets.trans hKept).trans (and_iff_right hType)

private theorem encodeAcfGbb_decoded_iff {messageTimestamp : Nat}
    (hReserved : ReservedClear (octets.take acfCommonHeaderLen))
    (h : decodeAcfGbb octets = .ok (info, messageTimestamp, payload)) :
    (encodeAcfGbb info messageTimestamp payload).take acfGbbMessageInfoLen =
        octets.take acfGbbMessageInfoLen ↔
      LengthKept info acfMsgTypeGbb payload := by
  obtain ⟨hInfo, hLength, hType, hStamp, -⟩ := decodeAcfGbb_ok h
  have hTruncated : info.truncated = info := by
    rw [hInfo, truncated_decodeAcfMessageInfo]
  unfold acfGbbMessageInfoLen at hLength
  have hStampOctets : putBe 8 messageTimestamp =
      (octets.drop acfCommonHeaderLen).take 8 := by
    rw [hStamp]
    exact putBe_take (by
      rw [List.length_drop]
      unfold acfCommonHeaderLen
      omega)
  have hStampLt : messageTimestamp < 2 ^ 64 := by
    have hLt := getBe_lt ((octets.drop acfCommonHeaderLen).take 8)
    have hEight : ((octets.drop acfCommonHeaderLen).take 8).length = 8 := by
      rw [← hStampOctets, length_putBe]
    rw [hEight, ← hStamp] at hLt
    exact hLt
  have hNat : (UInt64.ofNat messageTimestamp).toNat = messageTimestamp := by
    rw [UInt64.toNat_ofNat', Nat.mod_eq_of_lt hStampLt]
  let message := AcfMessage.gbb info (UInt64.ofNat messageTimestamp) payload
  have hEncode : encodeAcfGbb info messageTimestamp payload =
      message.encode := by
    rw [AcfMessage.encode, hNat]
  have hKept := message.kept_iff hTruncated
  have hOctets := message.encode_take_iff hInfo
    (by unfold acfCommonHeaderLen; omega) hReserved
  have hTail : (message.encode.drop acfCommonHeaderLen).take 8 =
      (octets.drop acfCommonHeaderLen).take 8 := by
    rw [← hStampOctets, ← hEncode]
    rfl
  have hSplit : acfGbbMessageInfoLen = acfCommonHeaderLen + 8 := rfl
  rw [hEncode, hSplit, List.take_add, List.take_add, hTail,
    List.append_left_inj]
  refine (hOctets.trans hKept).trans ((and_iff_right hType).trans ?_)
  exact and_iff_right rfl

end CppRcp.Acf

namespace CppRcp.Avtp

open CppRcp.Foundation CppRcp.Acf CppRcp.E2e

/-! ## AVTPDUs -/

private theorem take_four {octets : Octets} (h : 4 ≤ octets.length) :
    octets.take 4 = [octetAt octets 0, octetAt octets 1, octetAt octets 2,
      octetAt octets 3] := by
  match octets, h with
  | _ :: _ :: _ :: _ :: _, _ => rfl

private theorem ofNat_eq_octet {value : Nat} {octet : UInt8}
    (h : value = octet.toNat) : UInt8.ofNat value = octet := by
  rw [h, UInt8.ofNat_toNat]

private theorem getBe_field_lt (octets : Octets) (start width : Nat) :
    getBe ((octets.drop start).take width) < 256 ^ width := by
  have hLt := getBe_lt ((octets.drop start).take width)
  have hLength := List.length_take_le width (octets.drop start)
  exact hLt.trans_le (Nat.pow_le_pow_right (by decide) hLength)

private theorem toNat_ofNat_eight (octets : Octets) (start : Nat) :
    (UInt64.ofNat (getBe ((octets.drop start).take 8))).toNat =
      getBe ((octets.drop start).take 8) := by
  rw [UInt64.toNat_ofNat']
  exact Nat.mod_eq_of_lt (getBe_field_lt octets start 8)

private theorem toNat_ofNat_four (octets : Octets) (start : Nat) :
    (UInt32.ofNat (getBe ((octets.drop start).take 4))).toNat =
      getBe ((octets.drop start).take 4) := by
  rw [UInt32.toNat_ofNat']
  exact Nat.mod_eq_of_lt (getBe_field_lt octets start 4)

private theorem toNat_ofNat_two (octets : Octets) (start : Nat) :
    (UInt16.ofNat (getBe ((octets.drop start).take 2))).toNat =
      getBe ((octets.drop start).take 2) := by
  rw [UInt16.toNat_ofNat']
  exact Nat.mod_eq_of_lt (getBe_field_lt octets start 2)

theorem putBe_field {octets : Octets} (start : Nat) {width : Nat}
    (h : start + width ≤ octets.length) :
    putBe width (getBe ((octets.drop start).take width)) =
      (octets.drop start).take width :=
  putBe_take (by rw [List.length_drop]; omega)

private theorem zeros_field {octets : Octets} (start : Nat) {width : Nat}
    (hLength : start + width ≤ octets.length)
    (h : ∀ index, start ≤ index → index < start + width →
      octetAt octets index = 0) :
    (octets.drop start).take width = List.replicate width 0 := by
  apply List.ext_getElem (by simp; omega)
  intro i hi hi'
  have hIndex : start + i < octets.length := by
    rw [List.length_replicate] at hi'
    omega
  have hOctet := h (start + i) (by omega)
    (by rw [List.length_replicate] at hi'; omega)
  simpa [octetAt, List.getD_eq_getElem?_getD, hIndex] using hOctet

private theorem bit_of_flag {octet : UInt8} {bit : Nat}
    (h : flag octet bit = false) : octet.toNat / 2 ^ bit % 2 = 0 := by
  have hWeight := weight_flag octet bit 1
  rw [h] at hWeight
  simpa [weight] using hWeight.symm

private theorem checks_ok {α : Type} {p q r : Prop} [Decidable p] [Decidable q]
    [Decidable r] {e e' e'' : ErrorCode} {x a : α}
    (h : (if p then .error e else if q then .error e' else
      if r then .error e'' else .ok x) = Except.ok a) :
    ¬ p ∧ ¬ q ∧ ¬ r ∧ a = x := by
  by_cases hp : p
  · rw [if_pos hp] at h
    cases h
  · rw [if_neg hp] at h
    by_cases hq : q
    · rw [if_pos hq] at h
      cases h
    · rw [if_neg hq] at h
      by_cases hr : r
      · rw [if_pos hr] at h
        cases h
      · rw [if_neg hr] at h
        exact ⟨hp, hq, hr, (Except.ok.inj h).symm⟩

structure NtscfHeader.InWidths (header : NtscfHeader) : Prop where
  version : header.version.toNat < 8
  controlDataLength : header.controlDataLength.toNat < 2048

/-- The bit between the version and the length carries nothing. -/
def NtscfReservedClear (octets : Octets) : Prop :=
  flag (octetAt octets 1) 3 = false

private theorem decodeNtscfHeader_encodeNtscfHeader {header : NtscfHeader}
    (h : header.InWidths) (rest : Octets) :
    decodeNtscfHeader (encodeNtscfHeader header ++ rest) = .ok header := by
  rw [decode_encodeNtscfHeader, Nat.mod_eq_of_lt h.version,
    Nat.mod_eq_of_lt h.controlDataLength, UInt8.ofNat_toNat,
    UInt16.ofNat_toNat]

private theorem decodeNtscfHeader_ok {octets : Octets} {header : NtscfHeader}
    (h : decodeNtscfHeader octets = .ok header) :
    octetAt octets 0 = subtypeNtscf ∧ ntscfHeaderLen ≤ octets.length ∧
      header =
        { sv := flag (octetAt octets 1) 7
          version := UInt8.ofNat ((octetAt octets 1).toNat / 16 % 8)
          controlDataLength := UInt16.ofNat
            ((octetAt octets 1).toNat % 8 * 256 + (octetAt octets 2).toNat)
          sequenceNum := octetAt octets 3
          streamId := UInt64.ofNat (getBe ((octets.drop 4).take 8)) } := by
  obtain ⟨-, hType, hLength, hHeader⟩ := checks_ok h
  exact ⟨not_not.mp hType, Nat.not_lt.mp hLength, hHeader⟩

private theorem encodeNtscfHeader_decodeNtscfHeader {octets : Octets}
    {header : NtscfHeader} (hReserved : NtscfReservedClear octets)
    (h : decodeNtscfHeader octets = .ok header) :
    encodeNtscfHeader header = octets.take ntscfHeaderLen := by
  obtain ⟨hType, hLength, rfl⟩ := decodeNtscfHeader_ok h
  unfold ntscfHeaderLen at hLength
  have h1 := (octetAt octets 1).toNat_lt
  have h2 := (octetAt octets 2).toNat_lt
  have hClear := bit_of_flag hReserved
  have hId := putBe_field 4 (by omega : 4 + 8 ≤ octets.length)
  have hSplit : ntscfHeaderLen = 4 + 8 := rfl
  rw [hSplit, List.take_add, take_four (by omega), encodeNtscfHeader]
  simp only [toNat_ofNat_eight, hId, UInt8.toNat_ofNat',
    UInt16.toNat_ofNat', weight_flag, List.append_left_inj]
  simp only [List.cons.injEq, and_true]
  refine ⟨hType.symm, ?_, ?_⟩
  · apply ofNat_eq_octet
    omega
  · apply ofNat_eq_octet
    omega

structure TscfHeader.InWidths (header : TscfHeader) : Prop where
  version : header.version.toNat < 8

/-- Two bits before the flag of the timestamp, seven before that of its
uncertainty, and six octets carry nothing. -/
structure TscfReservedClear (octets : Octets) : Prop where
  flags : flag (octetAt octets 1) 1 = false ∧ flag (octetAt octets 1) 2 = false
  uncertain : ∀ bit < 8, 1 ≤ bit → flag (octetAt octets 3) bit = false
  word : ∀ index, 16 ≤ index → index < 20 → octetAt octets index = 0
  half : ∀ index, 22 ≤ index → index < 24 → octetAt octets index = 0

private theorem decodeTscfHeader_encodeTscfHeader_iff {header : TscfHeader}
    (h : header.InWidths) (rest : Octets) :
    decodeTscfHeader (encodeTscfHeader header ++ rest) = .ok header ↔
      header.reserved0 = 0 ∧ header.reserved1 = 0 := by
  rw [decode_encodeTscfHeader, Nat.mod_eq_of_lt h.version, UInt8.ofNat_toNat,
    Except.ok.injEq]
  constructor
  · intro hEq
    exact ⟨(congrArg TscfHeader.reserved0 hEq).symm,
      (congrArg TscfHeader.reserved1 hEq).symm⟩
  · rintro ⟨hWord, hHalf⟩
    rw [← hWord, ← hHalf]

private theorem encodeTscfHeader_decodeTscfHeader {octets : Octets}
    {header : TscfHeader} (hReserved : TscfReservedClear octets)
    (h : decodeTscfHeader octets = .ok header) :
    encodeTscfHeader header = octets.take tscfHeaderLen := by
  obtain ⟨-, hType, hLength, rfl⟩ := checks_ok h
  unfold tscfHeaderLen at hLength
  have h1 := (octetAt octets 1).toNat_lt
  have h3 := (octetAt octets 3).toNat_lt
  have hOne := bit_of_flag hReserved.flags.1
  have hTwo := bit_of_flag hReserved.flags.2
  have hUncertain : (octetAt octets 3).toNat < 2 := by
    have hBits := fun bit hBit hPos =>
      bit_of_flag (hReserved.uncertain bit hBit hPos)
    have b1 := hBits 1 (by decide) (by decide)
    have b2 := hBits 2 (by decide) (by decide)
    have b3 := hBits 3 (by decide) (by decide)
    have b4 := hBits 4 (by decide) (by decide)
    have b5 := hBits 5 (by decide) (by decide)
    have b6 := hBits 6 (by decide) (by decide)
    have b7 := hBits 7 (by decide) (by decide)
    omega
  have hWord := zeros_field 16 (by omega : 16 + 4 ≤ octets.length)
    hReserved.word
  have hHalf := zeros_field 22 (by omega : 22 + 2 ≤ octets.length)
    hReserved.half
  have hSplit : octets.take tscfHeaderLen =
      octets.take 4 ++ ((octets.drop 4).take 8 ++ ((octets.drop 12).take 4 ++
        ((octets.drop 16).take 4 ++ ((octets.drop 20).take 2 ++
          (octets.drop 22).take 2)))) := by
    have hLen : tscfHeaderLen = 4 + (8 + (4 + (4 + (2 + 2)))) := rfl
    simp only [hLen, List.take_add, List.drop_drop]
  rw [hSplit, @take_four octets (by omega), encodeTscfHeader, hWord, hHalf]
  simp only [toNat_ofNat_eight, toNat_ofNat_four, toNat_ofNat_two,
    UInt8.toNat_ofNat', putBe_field 4 (by omega : 4 + 8 ≤ octets.length),
    putBe_field 12 (by omega : 12 + 4 ≤ octets.length),
    putBe_field 20 (by omega : 20 + 2 ≤ octets.length), weight_flag]
  refine congrArg₂ HAppend.hAppend ?_ rfl
  simp only [List.cons.injEq, and_true, true_and]
  refine ⟨(not_not.mp hType).symm, ?_, ?_⟩
  · apply ofNat_eq_octet
    omega
  · apply ofNat_eq_octet
    omega

/-! ## The four headers -/

/-- What the four header codecs keep. -/
theorem headers_returned :
    (∀ info payload, info.InWidths →
      (decodeAcfAbb (encodeAcfAbb info payload) = .ok (info, payload) ↔
        info.acfMsgType = acfMsgTypeAbb ∧ info.mtv = false ∧
          LengthKept info acfMsgTypeAbb payload)) ∧
    (∀ info payload, ∀ messageTimestamp : UInt64, info.InWidths →
      (decodeAcfGbb (encodeAcfGbb info messageTimestamp.toNat payload) =
          .ok (info, messageTimestamp.toNat, payload) ↔
        info.acfMsgType = acfMsgTypeGbb ∧
          LengthKept info acfMsgTypeGbb payload)) ∧
    (∀ header rest, NtscfHeader.InWidths header →
      decodeNtscfHeader (encodeNtscfHeader header ++ rest) = .ok header) ∧
    (∀ header rest, TscfHeader.InWidths header →
      (decodeTscfHeader (encodeTscfHeader header ++ rest) = .ok header ↔
        header.reserved0 = 0 ∧ header.reserved1 = 0)) ∧
    (∀ octets info payload,
      ReservedClear (octets.take acfCommonHeaderLen) →
        decodeAcfAbb octets = .ok (info, payload) →
          ((encodeAcfAbb info payload).take acfCommonHeaderLen =
              octets.take acfCommonHeaderLen ↔
            info.mtv = false ∧ LengthKept info acfMsgTypeAbb payload)) ∧
    (∀ octets info messageTimestamp payload,
      ReservedClear (octets.take acfCommonHeaderLen) →
        decodeAcfGbb octets = .ok (info, messageTimestamp, payload) →
          ((encodeAcfGbb info messageTimestamp payload).take
              acfGbbMessageInfoLen = octets.take acfGbbMessageInfoLen ↔
            LengthKept info acfMsgTypeGbb payload)) ∧
    (∀ octets header, NtscfReservedClear octets →
      decodeNtscfHeader octets = .ok header →
        encodeNtscfHeader header = octets.take ntscfHeaderLen) ∧
    (∀ octets header, TscfReservedClear octets →
      decodeTscfHeader octets = .ok header →
        encodeTscfHeader header = octets.take tscfHeaderLen) :=
  ⟨fun _ _ h => decodeAcfAbb_encodeAcfAbb_iff h,
    fun _ _ messageTimestamp h =>
      decodeAcfGbb_encodeAcfGbb_iff messageTimestamp h,
    fun _ rest h => decodeNtscfHeader_encodeNtscfHeader h rest,
    fun _ rest h => decodeTscfHeader_encodeTscfHeader_iff h rest,
    fun _ _ _ hReserved h => encodeAcfAbb_decoded_iff hReserved h,
    fun _ _ _ _ hReserved h => encodeAcfGbb_decoded_iff hReserved h,
    fun _ _ hReserved h => encodeNtscfHeader_decodeNtscfHeader hReserved h,
    fun _ _ hReserved h => encodeTscfHeader_decodeTscfHeader hReserved h⟩

theorem headers_returned_applied :
    decodeAcfAbb (encodeAcfAbb { acfMsgLength := 2, byteBusId := 0x7FF } []) =
        .ok ({ acfMsgLength := 2, byteBusId := 0x7FF }, []) ∧
      (encodeAcfGbb { acfMsgType := acfMsgTypeGbb, acfMsgLength := 4 } 5
          []).take acfGbbMessageInfoLen =
        [26, 4, 0, 0, 0, 0, 0, 0, 0, 0, 0, 0, 0, 0, 0, 5] ∧
      encodeNtscfHeader { version := 2, controlDataLength := 0x7FF } =
        [0x82, 0xA7, 0xFF, 0, 0, 0, 0, 0, 0, 0, 0, 0] := by
  refine ⟨?_, ?_, ?_⟩
  · refine (headers_returned.1 _ [] ?_).mpr ?_
    · constructor <;> decide
    · exact ⟨rfl, rfl, fun h => absurd h (by decide)⟩
  · refine (headers_returned.2.2.2.2.2.1
      [26, 4, 0, 0, 0, 0, 0, 0, 0, 0, 0, 0, 0, 0, 0, 5] _ _ _ ?_ rfl).mpr ?_
    · rintro index bit (⟨rfl, hBit⟩ | ⟨rfl, hBit⟩) <;>
        rcases hBit with rfl | rfl <;> decide
    · exact fun h => absurd h (by decide)
  · exact headers_returned.2.2.2.2.2.2.1
      [0x82, 0xA7, 0xFF, 0, 0, 0, 0, 0, 0, 0, 0, 0] _ rfl rfl

/-- A length of zero comes back filled in, a timestamp that is marked in an ABB
message comes back unmarked, and a reserved field of TSCF comes back as zero. -/
theorem headers_not_returned :
    (({} : AcfMessageInfo).InWidths ∧
      decodeAcfAbb (encodeAcfAbb {} []) ≠ .ok ({}, [])) ∧
    (({ acfMsgLength := 2, mtv := true } : AcfMessageInfo).InWidths ∧
      decodeAcfAbb (encodeAcfAbb { acfMsgLength := 2, mtv := true } []) ≠
        .ok ({ acfMsgLength := 2, mtv := true }, [])) ∧
    decodeTscfHeader (encodeTscfHeader { reserved0 := 1 }) ≠
      .ok { reserved0 := 1 } ∧
    (decodeAcfAbb [28, 0, 0, 0, 0, 0, 0, 0] = .ok ({}, []) ∧
      encodeAcfAbb {} [] ≠ [28, 0, 0, 0, 0, 0, 0, 0]) := by
  have hLength : decodeAcfAbb (encodeAcfAbb {} []) =
      .ok ({ acfMsgLength := 2 }, []) := rfl
  have hMark :
      decodeAcfAbb (encodeAcfAbb { acfMsgLength := 2, mtv := true } []) =
        .ok ({ acfMsgLength := 2 }, []) := rfl
  have hReserved :
      decodeTscfHeader (encodeTscfHeader { reserved0 := 1 }) = .ok {} := rfl
  refine ⟨⟨?_, ?_⟩, ⟨?_, ?_⟩, ?_, rfl, by decide⟩
  · constructor <;> decide
  · rw [hLength]
    simp
  · constructor <;> decide
  · rw [hMark]
    simp
  · rw [hReserved]
    simp

end CppRcp.Avtp
