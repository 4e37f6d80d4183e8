import CppRcp.Peripherals.FragmentMessages
import CppRcp.Properties.PlannedSegments

/-!
# Fragmented responses are joined again

A CAN, UART or ISELED response that is sent in fragments: decoding the
messages one by one and feeding them to a fresh reassembler returns what was
encoded, for every fragment size that has a plan.  A response that takes one
fragment is the message of the encoder that does not fragment.
-/

namespace CppRcp

open CppRcp.Foundation CppRcp.Acf CppRcp.Endpoint CppRcp.Fragment

namespace Endpoint

/-! ## One message -/

section Message

variable {info : AcfMessageInfo} {timed : Bool} {timestamp : UInt64}
  {payload : Octets} {shortFrame badMsgType : ErrorCode}

theorem receiveResponse_encode :
    receiveResponse shortFrame badMsgType
        (responseMessage info timed timestamp payload).encode =
      .ok ⟨(responseMessage info timed timestamp payload).header.truncated,
        payload, timed, if timed then timestamp.toNat else 0⟩ := by
  have hType :=
    (responseMessage info timed timestamp payload).peekAcfMsgType_encode []
  have hLength := (responseMessage info timed timestamp payload).length_encode
  have hEight := le_headerLen
    (responseMessage info timed timestamp payload).msgType
  unfold acfCommonHeaderLen at hEight
  rw [List.append_nil] at hType
  unfold receiveResponse
  rw [if_neg (by omega), hType]
  cases timed with
  | false =>
      rw [if_neg (by simp [responseMessage, AcfMessage.msgType,
        acfMsgTypeAbb, acfMsgTypeGbb])]
      simp only [responseMessage, Bool.false_eq_true, if_false,
        AcfMessage.decodeAcfAbb_encode]
  | true =>
      rw [if_pos (by simp [responseMessage, AcfMessage.msgType])]
      simp only [responseMessage, if_true, AcfMessage.decodeAcfGbb_encode,
        AcfMessage.header, AcfMessageInfo.truncated, AcfMessage.info]

def sentFragment (info : AcfMessageInfo) (timed : Bool) (timestamp : UInt64)
    (payload : Octets) (segment : Segment) : ReceivedFragment :=
  { ms := segment.ms
    segmentNum := if segment.ms then segment.segmentNum else 0
    payload := segment.slice payload
    timed := timed
    timestamp := if timed then timestamp.toNat else 0
    transactionNum := info.transactionNum }

private theorem receiveResponse_fragment {segment : Segment}
    (hNumber : segment.segmentNum.toNat < 4096)
    (hBus : info.byteBusId.toNat < 2048) :
    ∃ response,
      receiveResponse shortFrame badMsgType
          (fragmentMessage info timed timestamp payload segment).encode =
        .ok response ∧
      response.info = decodeAcfMessageInfo
        (fragmentMessage info timed timestamp payload segment).encode ∧
      response.info.byteBusId = info.byteBusId ∧
      response.info.evtOp.toNat = info.evtOp.toNat % 8 ∧
      response.fragment =
        sentFragment info timed timestamp payload segment := by
  have hDecoded := (fragmentMessage info timed timestamp payload
    segment).decode_encode []
  rw [List.append_nil] at hDecoded
  have hBusOf : UInt16.ofNat (info.byteBusId.toNat % 2048) =
      info.byteBusId := by
    rw [Nat.mod_eq_of_lt hBus, UInt16.ofNat_toNat]
  have hNumberOf : UInt16.ofNat
      ((if segment.ms then segment.segmentNum else 0).toNat % 4096) =
        if segment.ms then segment.segmentNum else 0 := by
    cases segment.ms with
    | false => rfl
    | true => rw [if_pos rfl, Nat.mod_eq_of_lt hNumber, UInt16.ofNat_toNat]
  have hEvt : (UInt8.ofNat (info.evtOp.toNat % 8)).toNat =
      info.evtOp.toNat % 8 := toNat_ofNat_of_lt (by omega)
  refine ⟨_, receiveResponse_encode, hDecoded.symm, ?_⟩
  cases timed <;>
    simp [responseMessage, AcfMessage.header, AcfMessageInfo.truncated,
      AcfMessage.info, ReceivedResponse.fragment, sentFragment, hBusOf,
      hNumberOf, hEvt]

end Message

/-! ## All messages of a response -/

theorem mapM_ok {ε α β : Type} {decode : α → Except ε β} {f : α → β}
    {inputs : List α} (h : ∀ input ∈ inputs, decode input = .ok (f input)) :
    inputs.mapM decode = .ok (inputs.map f) := by
  induction inputs with
  | nil => rfl
  | cons input inputs ih =>
      obtain ⟨hFirst, hRest⟩ := List.forall_mem_cons.mp h
      rw [List.mapM_cons, hFirst, ih hRest]
      rfl

section Response

variable {payload : Octets} {len ceiling limit : Nat}
  {segments : List Segment}

private theorem slice_take {segment : Segment}
    (h : segment.offset + segment.len ≤ len) :
    segment.slice (payload.take len) = segment.slice payload := by
  unfold Segment.slice
  rw [List.drop_take, List.take_take, Nat.min_eq_left (by omega)]

structure SentBy (info : AcfMessageInfo) (timed : Bool) (timestamp : UInt64)
    (joined : Octets) (ceiling : Nat) (frames : List Octets)
    (segments : List Segment) : Prop where
  tiles : TilesPayload joined.length ceiling segments
  length : segments.length = planCount joined.length ceiling
  few : segments.length ≤ 4097
  frames : frames = segments.map fun segment =>
    (fragmentMessage info timed timestamp joined segment).encode

private theorem exists_sentBy (info : AcfMessageInfo) (timed : Bool)
    (timestamp : UInt64) (hLen : len ≤ payload.length)
    (hCount : planCount len ceiling ≠ 0) :
    ∃ segments, SentBy info timed timestamp (payload.take len) ceiling
      (encodeFragments info timed timestamp payload len ceiling
        (planCount len ceiling)) segments := by
  obtain ⟨segments, hPlan, hLength, hFew, hTiles⟩ := exists_plan_of_count hCount
  have hTake : (payload.take len).length = len := by simp [hLen]
  refine ⟨segments, ?_, ?_, hFew, ?_⟩
  · rwa [hTake]
  · rwa [hTake]
  · unfold encodeFragments
    rw [if_neg hCount, hPlan]
    apply List.map_congr_left
    intro segment hSegment
    obtain ⟨i, hi⟩ := List.mem_iff_getElem?.mp hSegment
    unfold fragmentMessage
    rw [slice_take (hTiles.end_le hi)]

variable {info : AcfMessageInfo} {timed : Bool} {timestamp : UInt64}
  {joined : Octets} {frames : List Octets}

private theorem SentBy.number_lt
    (h : SentBy info timed timestamp joined ceiling frames
      segments) {segment : Segment} (hSegment : segment ∈ segments) :
    segment.segmentNum.toNat < 4096 := by
  obtain ⟨i, hi⟩ := List.mem_iff_getElem?.mp hSegment
  have hFew := h.few
  rw [h.tiles.number i segment hi]
  split <;> omega

private theorem SentBy.fed_sentFragment
    (h : SentBy info timed timestamp joined ceiling frames segments)
    {segment : Segment} (hSegment : segment ∈ segments) :
    (sentFragment info timed timestamp joined segment).fed =
      segment.fed joined := by
  obtain ⟨i, hi⟩ := List.mem_iff_getElem?.mp hSegment
  have hNumber := h.tiles.number i segment hi
  have hMs := h.tiles.ms i segment hi
  unfold sentFragment ReceivedFragment.fed Segment.fed
  by_cases hMore : i + 1 < segments.length
  · simp [hMs, hMore]
  · have hZero : segment.segmentNum = 0 :=
      UInt16.toNat_inj.mp (by rw [hNumber, if_neg hMore]; rfl)
    simp [hMs, hMore, hZero]

private theorem SentBy.run_fed
    (h : SentBy info timed timestamp joined ceiling frames segments)
    (hFits : joined.length ≤ min limit defaultReassemblyCapacity) :
    let fed := (segments.map
      (sentFragment info timed timestamp joined)).map ReceivedFragment.fed
    (run Reassembler.feedOne { maxTotalLen := limit } fed).1.buf = joined ∧
      (run Reassembler.feedOne { maxTotalLen := limit } fed).2 =
        List.replicate (frames.length - 1) .continue ++ [.complete] := by
  have hFed : (segments.map
      (sentFragment info timed timestamp joined)).map ReceivedFragment.fed =
        segments.map (Segment.fed joined) := by
    rw [List.map_map]
    exact List.map_congr_left fun _ hSegment => h.fed_sentFragment hSegment
  have hLength : frames.length = segments.length := by
    rw [h.frames, List.length_map]
  rw [hFed, hLength]
  exact @run_segments joined ceiling segments { maxTotalLen := limit } h.tiles
    hFits

private theorem SentBy.frames_single
    (h : SentBy info timed timestamp joined ceiling frames segments)
    (hOne : planCount joined.length ceiling = 1) (hMs : info.ms = false)
    (hNumber : info.readSizeOrSegmentNum = 0) :
    frames = [(responseMessage info timed timestamp joined).encode] := by
  obtain ⟨segment, hSegments⟩ :=
    List.length_eq_one_iff.mp (h.length.trans hOne)
  have hFirst : segments[0]? = some segment := by simp [hSegments]
  have hOffset := h.tiles.offset 0 segment hFirst
  have hTotal := h.tiles.total
  have hFlag := h.tiles.ms 0 segment hFirst
  have hLen : segment.len = joined.length := by
    simpa [lengthBefore, hSegments] using hTotal
  have hZero : segment.offset = 0 := by simpa [lengthBefore] using hOffset
  have hUnset : segment.ms = false := by simpa [hSegments] using hFlag
  have hSlice : segment.slice joined = joined := by
    simp [Segment.slice, hZero, hLen]
  have hInfo : { info with ms := false, readSizeOrSegmentNum := 0 } = info := by
    rw [← hMs, ← hNumber]
  rw [h.frames, hSegments, List.map_singleton, fragmentMessage, hSlice,
    hUnset, if_neg (by simp), hInfo]

end Response

end Endpoint

/-! ## The frame behind the fragments -/

namespace Can

private theorem getBe_writePrefix (format : FrameFormat)
    (arbitrationId : UInt32) (xlHeader : Option XlHeader) (rest : Octets) :
    getBe ((writePrefix format arbitrationId xlHeader ++ rest).take 4) =
      format.toNat * 2 ^ 29 + arbitrationId.toNat % 2 ^ 29 := by
  have hFormat : format.toNat < 8 := by cases format <;> decide
  have hTake : (writePrefix format arbitrationId xlHeader ++ rest).take 4 =
      putBe 4 (format.toNat * 2 ^ 29 + arbitrationId.toNat % 2 ^ 29) := rfl
  rw [hTake, getBe_putBe_of_lt (by omega)]

private theorem readFrameFormat_writePrefix (format : FrameFormat)
    (arbitrationId : UInt32) (xlHeader : Option XlHeader) (rest : Octets) :
    readFrameFormat (writePrefix format arbitrationId xlHeader ++ rest) =
      some format := by
  have hTop : (format.toNat * 2 ^ 29 + arbitrationId.toNat % 2 ^ 29) /
      2 ^ 29 % 8 = format.toNat := by
    have hFormat : format.toNat < 8 := by cases format <;> decide
    omega
  unfold readFrameFormat
  rw [getBe_writePrefix, hTop]
  cases format <;> rfl

private theorem arbitrationId_lt {format : FrameFormat} {arbitrationId : UInt32}
    (h : arbitrationIdValid format arbitrationId = true) :
    arbitrationId.toNat < 2 ^ 29 := by
  cases format <;> simp [arbitrationIdValid] at h <;> omega

private theorem readPrefix_writePrefix {format : FrameFormat}
    {arbitrationId : UInt32} {xlHeader : Option XlHeader}
    (hId : arbitrationIdValid format arbitrationId = true)
    (hHeader : frameFormatIsXl format = xlHeader.isSome) (rest : Octets) :
    readPrefix (writePrefix format arbitrationId xlHeader ++ rest) format =
      (arbitrationId, xlHeader) := by
  have hLt := arbitrationId_lt hId
  have hValue : UInt32.ofNat ((format.toNat * 2 ^ 29 +
      arbitrationId.toNat % 2 ^ 29) % 2 ^ 29) = arbitrationId := by
    rw [Nat.add_comm, Nat.add_mul_mod_self_right, Nat.mod_mod,
      Nat.mod_eq_of_lt hLt, UInt32.ofNat_toNat]
  unfold readPrefix
  rw [getBe_writePrefix, hValue]
  cases xlHeader with
  | none => simp [hHeader]
  | some header =>
      have hXl : frameFormatIsXl format = true := hHeader
      have hAf : getBe (((writePrefix format arbitrationId (some header) ++
          rest).drop 6).take 4) = header.af.toNat := by
        have hField : ((writePrefix format arbitrationId (some header) ++
            rest).drop 6).take 4 = putBe 4 header.af.toNat := by
          simp only [writePrefix, hXl, if_true]
          rfl
        have hWidth := header.af.toNat_lt
        rw [hField, getBe_putBe_of_lt (by omega)]
      rw [hAf, UInt32.ofNat_toNat]
      simp only [writePrefix, hXl, if_true]
      rfl

theorem decodeReassembled_buildPayload {format : FrameFormat}
    {arbitrationId : UInt32} {xlHeader : Option XlHeader} {rxData : Octets}
    (h : encodePreconditionsOk format arbitrationId xlHeader rxData.length =
      true) :
    decodeReassembledFrameResponse
        (buildPayload format arbitrationId xlHeader rxData) =
      .ok ⟨format, arbitrationId, xlHeader, rxData⟩ := by
  simp only [encodePreconditionsOk, Bool.and_eq_true, decide_eq_true_eq] at h
  obtain ⟨⟨hId, -⟩, hHeader⟩ := h
  have hPrefix := length_writePrefix format arbitrationId xlHeader
  have hFour : arbitrationPrefixLen ≤ prefixLenFor format := by
    unfold prefixLenFor
    split <;> simp
  have hLength : (buildPayload format arbitrationId xlHeader rxData).length =
      prefixLenFor format + rxData.length := by
    rw [buildPayload, List.length_append, hPrefix]
  have hData : (buildPayload format arbitrationId xlHeader rxData).drop
      (prefixLenFor format) = rxData := List.drop_left' hPrefix
  have hFormat : readFrameFormat
      (buildPayload format arbitrationId xlHeader rxData) = some format :=
    readFrameFormat_writePrefix format arbitrationId xlHeader rxData
  have hRead : readPrefix (buildPayload format arbitrationId xlHeader rxData)
      format = (arbitrationId, xlHeader) :=
    readPrefix_writePrefix hId hHeader rxData
  unfold decodeReassembledFrameResponse
  rw [if_neg (by omega), hFormat]
  dsimp only
  rw [if_neg (by omega), hRead, hData]
  dsimp only
  rw [if_neg (by simp [hId])]

end Can

/-! ## The responses -/

namespace Endpoint

/-- What all messages of a response share. -/
structure ResponseAddress where
  byteBusId : UInt16
  transactionNum : UInt8
  timed : Bool
  timestamp : UInt64
  deriving DecidableEq, Repr

inductive Content
  | frame (frame : Can.ReceivedFrame)
  | octets (rxData : Octets)
  deriving DecidableEq, Repr

/-- The arguments of a fragmented response encoder. -/
inductive FragmentedResponse
  | can (format : Can.FrameFormat) (arbitrationId : UInt32)
      (xlHeader : Option Can.XlHeader) (rxData : Octets)
  | uart (rxData : Octets)
  | iseled (rxData : Octets) (readSize : UInt16)
  deriving DecidableEq, Repr

namespace FragmentedResponse

def encodeFragmented (address : ResponseAddress) (maxFragmentPayload : Nat) :
    FragmentedResponse → List Octets
  | can format arbitrationId xlHeader rxData =>
      Can.encodeFrameResponseFragmented address.byteBusId format arbitrationId
        xlHeader rxData address.transactionNum address.timed
        address.timestamp maxFragmentPayload
  | uart rxData =>
      Uart.encodeReadResponseFragmented address.byteBusId rxData
        address.transactionNum address.timed address.timestamp
        maxFragmentPayload
  | iseled rxData readSize =>
      Iseled.encodeResponseFragmented address.byteBusId rxData readSize
        address.transactionNum address.timed address.timestamp
        maxFragmentPayload

/-- The encoder that does not fragment; ISELED data are cut off at the read
size. -/
def encodeWhole (address : ResponseAddress) : FragmentedResponse → Octets
  | can format arbitrationId xlHeader rxData =>
      Can.encodeFrameResponse address.byteBusId format arbitrationId xlHeader
        rxData address.transactionNum address.timed address.timestamp
  | uart rxData =>
      Uart.encodeReadResponse address.byteBusId rxData address.transactionNum
        address.timed address.timestamp
  | iseled rxData readSize =>
      Iseled.encodeResponse address.byteBusId (rxData.take readSize.toNat)
        address.transactionNum address.timed address.timestamp

def fragmentCount (maxFragmentPayload : Nat) : FragmentedResponse → Nat
  | can format arbitrationId xlHeader rxData =>
      Can.frameResponseFragmentCount format arbitrationId xlHeader
        rxData.length maxFragmentPayload
  | uart rxData =>
      Uart.readResponseFragmentCount rxData.length maxFragmentPayload
  | iseled rxData readSize =>
      Iseled.responseFragmentCount rxData.length readSize maxFragmentPayload

/-- What a receiver does with one message.  For ISELED it takes the flag and
the number of the fragment from the ACF header itself. -/
def decodeFragment (response : FragmentedResponse) (expectedBusId : UInt16)
    (octets : Octets) : Except ErrorCode ReceivedFragment :=
  match response with
  | can _ _ _ _ => Can.decodeFrameResponseFragment octets expectedBusId
  | uart _ => Uart.decodeReadResponseFragment octets expectedBusId
  | iseled _ _ =>
      match Iseled.decodeResponse octets expectedBusId with
      | .error e => .error e
      | .ok decoded =>
          .ok
            { ms := (decodeAcfMessageInfo octets).ms
              segmentNum := (decodeAcfMessageInfo octets).readSizeOrSegmentNum
              payload := decoded.rxData
              timed := decoded.timed
              timestamp := decoded.timestamp
              transactionNum := decoded.transactionNum }

def decodeJoined (response : FragmentedResponse) (joined : Octets) :
    Except ErrorCode Content :=
  match response with
  | can _ _ _ _ => (Can.decodeReassembledFrameResponse joined).map .frame
  | uart _ | iseled _ _ => .ok (.octets joined)

def content : FragmentedResponse → Content
  | can format arbitrationId xlHeader rxData =>
      .frame ⟨format, arbitrationId, xlHeader, rxData⟩
  | uart rxData => .octets rxData
  | iseled rxData readSize => .octets (rxData.take readSize.toNat)

/-- The octets that the fragments carry together. -/
def joined : FragmentedResponse → Octets
  | can format arbitrationId xlHeader rxData =>
      Can.buildPayload format arbitrationId xlHeader rxData
  | uart rxData => rxData
  | iseled rxData readSize => rxData.take readSize.toNat

/-- A valid CAN frame, or no more data than a read can ask for. -/
def WithinLimits : FragmentedResponse → Prop
  | can format arbitrationId xlHeader rxData =>
      Can.encodePreconditionsOk format arbitrationId xlHeader
        rxData.length = true
  | uart rxData => rxData.length ≤ Uart.maxReadSize
  | iseled rxData readSize =>
      Iseled.cappedLen rxData.length readSize ≤ Iseled.maxReadSize

/-- The header that all messages of the response have, but for the fields of
the fragment. -/
def info (address : ResponseAddress) : FragmentedResponse → AcfMessageInfo
  | can _ _ _ _ =>
      Can.frameResponseInfo address.byteBusId address.transactionNum
  | uart _ =>
      Uart.readResponseInfo address.byteBusId address.transactionNum
  | iseled _ _ =>
      Iseled.responseInfo address.byteBusId address.transactionNum

/-- The messages are decoded, and their fragments fed in order to a fresh
reassembler; all but the last continue, and what is joined then is decoded. -/
structure JoinedAgain (response : FragmentedResponse)
    (address : ResponseAddress) (maxFragmentPayload limit : Nat)
    (fragments : List ReceivedFragment) : Prop where
  decoded : (response.encodeFragmented address maxFragmentPayload).mapM
    (response.decodeFragment address.byteBusId) = .ok fragments
  header : ∀ fragment ∈ fragments, fragment.timed = address.timed ∧
    fragment.timestamp =
      (if address.timed then address.timestamp.toNat else 0) ∧
    fragment.transactionNum = address.transactionNum
  results : (run Reassembler.feedOne { maxTotalLen := limit }
      (fragments.map ReceivedFragment.fed)).2 =
    List.replicate (fragments.length - 1) .continue ++ [.complete]
  content : response.decodeJoined (run Reassembler.feedOne
      { maxTotalLen := limit } (fragments.map ReceivedFragment.fed)).1.buf =
    .ok response.content

variable {response : FragmentedResponse} {address : ResponseAddress}
  {maxFragmentPayload : Nat}

private theorem length_joined_le (h : response.WithinLimits) :
    response.joined.length ≤ defaultReassemblyCapacity := by
  unfold defaultReassemblyCapacity
  cases response with
  | can format arbitrationId xlHeader rxData =>
      simp only [WithinLimits, Can.encodePreconditionsOk, Bool.and_eq_true,
        decide_eq_true_eq] at h
      have hData : Can.frameFormatMaxDataLen format ≤ 2048 := by
        cases format <;> simp [Can.frameFormatMaxDataLen]
      have hPrefix : Can.prefixLenFor format ≤ 10 := by
        cases format <;> decide
      simp only [joined, Can.buildPayload, List.length_append,
        Can.length_writePrefix]
      omega
  | uart rxData =>
      simp only [WithinLimits, Uart.maxReadSize] at h
      exact h.trans (by omega)
  | iseled rxData readSize =>
      simp only [WithinLimits, Iseled.cappedLen, Iseled.maxReadSize] at h
      simp only [joined, List.length_take]
      omega

private theorem planCount_joined
    (hCount : response.fragmentCount maxFragmentPayload ≠ 0) :
    response.fragmentCount maxFragmentPayload =
      planCount response.joined.length maxFragmentPayload := by
  cases response with
  | can format arbitrationId xlHeader rxData =>
      simp only [fragmentCount, Can.frameResponseFragmentCount] at hCount ⊢
      simp only [joined, Can.buildPayload, List.length_append,
        Can.length_writePrefix]
      split at hCount
      · next hOk =>
          rw [if_pos hOk]
          split at hCount
          · exact absurd rfl hCount
          · next hFew => exact if_neg hFew
      · exact absurd rfl hCount
  | uart rxData => rfl
  | iseled rxData readSize =>
      simp only [fragmentCount, Iseled.responseFragmentCount,
        Iseled.cappedLen, joined, List.length_take, Nat.min_comm]

private theorem exists_sentBy_fragmented
    (hCount : response.fragmentCount maxFragmentPayload ≠ 0) :
    ∃ segments, SentBy (response.info address) address.timed
      address.timestamp response.joined maxFragmentPayload
      (response.encodeFragmented address maxFragmentPayload) segments := by
  have hPlan := planCount_joined hCount
  have hNonzero := hCount
  rw [hPlan] at hNonzero
  cases response with
  | can format arbitrationId xlHeader rxData =>
      have hSent := exists_sentBy
        (Can.frameResponseInfo address.byteBusId address.transactionNum)
        address.timed address.timestamp
        (le_refl (Can.buildPayload format arbitrationId xlHeader
          rxData).length) hNonzero
      have hCounted : Can.frameResponseFragmentCount format arbitrationId
          xlHeader rxData.length maxFragmentPayload =
            planCount (Can.buildPayload format arbitrationId xlHeader
              rxData).length maxFragmentPayload := hPlan
      rw [List.take_length, ← hCounted] at hSent
      exact hSent
  | uart rxData =>
      have hSent := exists_sentBy
        (Uart.readResponseInfo address.byteBusId address.transactionNum)
        address.timed address.timestamp (le_refl rxData.length) hNonzero
      rw [List.take_length] at hSent
      exact hSent
  | iseled rxData readSize =>
      have hTake : rxData.take (Iseled.cappedLen rxData.length readSize) =
          rxData.take readSize.toNat := by
        simp [Iseled.cappedLen, List.take_eq_take_iff, Nat.min_comm]
      have hSent := exists_sentBy
        (Iseled.responseInfo address.byteBusId address.transactionNum)
        address.timed address.timestamp
        (Nat.min_le_left rxData.length readSize.toNat) hCount
      change ∃ segments, SentBy _ _ _ (rxData.take
        (Iseled.cappedLen rxData.length readSize)) _ _ segments at hSent
      rw [hTake] at hSent
      exact hSent

private theorem info_transactionNum (response : FragmentedResponse)
    (address : ResponseAddress) :
    (response.info address).transactionNum = address.transactionNum := by
  cases response <;> rfl

theorem decodeFragment_encode (hBus : address.byteBusId.toNat < 2048)
    {segment : Segment} (hNumber : segment.segmentNum.toNat < 4096) :
    response.decodeFragment address.byteBusId
        (fragmentMessage (response.info address) address.timed
          address.timestamp response.joined segment).encode =
      .ok (sentFragment (response.info address) address.timed
        address.timestamp response.joined segment) := by
  have hBusOf : (response.info address).byteBusId = address.byteBusId := by
    cases response <;> rfl
  have hEvtOf : (response.info address).evtOp.toNat % 8 = 0 := by
    cases response <;> rfl
  cases response with
  | can format arbitrationId xlHeader rxData =>
      obtain ⟨received, hReceived, -, hSame, hEvt, hFragment⟩ :=
        receiveResponse_fragment hNumber (hBusOf ▸ hBus)
      simp only [decodeFragment, Can.decodeFrameResponseFragment]
      rw [hReceived]
      simp [hSame, hBusOf, evtRow2IsPlain, hEvt, hEvtOf, hFragment]
  | uart rxData =>
      obtain ⟨received, hReceived, -, hSame, -, hFragment⟩ :=
        receiveResponse_fragment hNumber (hBusOf ▸ hBus)
      simp only [decodeFragment, Uart.decodeReadResponseFragment]
      rw [hReceived]
      simp [hSame, hBusOf, hFragment]
  | iseled rxData readSize =>
      obtain ⟨received, hReceived, hInfo, hSame, -, hFragment⟩ :=
        receiveResponse_fragment hNumber (hBusOf ▸ hBus)
      simp only [decodeFragment, Iseled.decodeResponse]
      rw [hReceived, ← hInfo, ← hFragment]
      simp [hSame, hBusOf, ReceivedResponse.fragment]

private theorem decodeJoined_joined (h : response.WithinLimits) :
    response.decodeJoined response.joined = .ok response.content := by
  cases response with
  | can format arbitrationId xlHeader rxData =>
      have hFrame := Can.decodeReassembled_buildPayload h
      simp only [decodeJoined, joined, hFrame]
      rfl
  | uart rxData => rfl
  | iseled rxData readSize => rfl

theorem encodeFragmented_single
    (hOne : response.fragmentCount maxFragmentPayload = 1) :
    response.encodeFragmented address maxFragmentPayload =
      [response.encodeWhole address] := by
  have hCount : response.fragmentCount maxFragmentPayload ≠ 0 := by
    rw [hOne]
    simp
  obtain ⟨segments, hSent⟩ :=
    @exists_sentBy_fragmented response address _ hCount
  have hSingle := hSent.frames_single ((planCount_joined hCount).symm.trans hOne)
    (by cases response <;> rfl) (by cases response <;> rfl)
  rw [hSingle]
  cases response with
  | can format arbitrationId xlHeader rxData =>
      simp only [fragmentCount, Can.frameResponseFragmentCount] at hCount
      split at hCount
      · next hOk => simp only [encodeWhole, Can.encodeFrameResponse, hOk,
          if_true, info, joined]
      · exact absurd rfl hCount
  | uart rxData => rfl
  | iseled rxData readSize => rfl

end FragmentedResponse

/-- Every CAN, UART or ISELED response within the endpoint's limits, on every
bus and for every fragment size that has a plan: its messages are decoded and
joined to what was to be sent, by every fresh reassembler that it fits, and in
one fragment it is the message of the encoder that does not fragment. -/
theorem fragmentedResponse_joined (response : FragmentedResponse)
    (address : ResponseAddress) (maxFragmentPayload limit : Nat)
    (hBus : address.byteBusId.toNat < 2048)
    (hLimits : response.WithinLimits)
    (hCount : response.fragmentCount maxFragmentPayload ≠ 0)
    (hFits : response.joined.length ≤ limit) :
    (∃ fragments, response.JoinedAgain address maxFragmentPayload limit
        fragments) ∧
      (response.fragmentCount maxFragmentPayload = 1 →
        response.encodeFragmented address maxFragmentPayload =
          [response.encodeWhole address]) := by
  refine ⟨?_, FragmentedResponse.encodeFragmented_single⟩
  obtain ⟨segments, hSent⟩ :=
    @FragmentedResponse.exists_sentBy_fragmented response address _ hCount
  have hCapacity := FragmentedResponse.length_joined_le hLimits
  obtain ⟨hBuf, hResults⟩ :=
    hSent.run_fed (le_min hFits hCapacity)
  have hDecoded : ∀ segment ∈ segments,
      response.decodeFragment address.byteBusId
          (fragmentMessage (response.info address) address.timed
            address.timestamp response.joined segment).encode =
        .ok (sentFragment (response.info address) address.timed
          address.timestamp response.joined segment) :=
    fun segment hSegment => FragmentedResponse.decodeFragment_encode hBus
      (hSent.number_lt hSegment)
  refine ⟨segments.map (sentFragment (response.info address) address.timed
    address.timestamp response.joined), ?_, ?_, ?_, ?_⟩
  · rw [hSent.frames, List.mapM_map]
    exact mapM_ok hDecoded
  · intro fragment hFragment
    obtain ⟨segment, -, rfl⟩ := List.mem_map.mp hFragment
    exact ⟨rfl, rfl, response.info_transactionNum address⟩
  · rw [hResults, hSent.frames]
    simp only [List.length_map]
  · rw [hBuf]
    exact FragmentedResponse.decodeJoined_joined hLimits

/-- A CAN XL frame in fragments of three octets, joined by a reassembler of
the default capacity. -/
theorem fragmentedResponse_joined_xl :
    let response : FragmentedResponse :=
      .can .xlNewPl 5 (some { vcid := 1 }) [1, 2, 3]
    let address : ResponseAddress := ⟨3, 9, true, 77⟩
    (∃ fragments, response.JoinedAgain address 3 4096 fragments) ∧
      (response.fragmentCount 3 = 1 →
        response.encodeFragmented address 3 =
          [response.encodeWhole address]) :=
  fragmentedResponse_joined (.can .xlNewPl 5 (some { vcid := 1 }) [1, 2, 3])
    ⟨3, 9, true, 77⟩ 3 4096 (by decide) (by change _ = true; decide)
    (by decide) (by decide)

end Endpoint

end CppRcp
