import CppRcp.Peripherals.Decoders
import CppRcp.Properties.FragmentedResponses

/-!
# CAN frames through the codecs

Decoding an encoded request or response returns the frame.  The other way
round, the decoders check the format, the identifier and the prefix, but not
the length of the data: a decoded frame is encoded to the same payload exactly
if its data is within the limit of its format.
-/

namespace CppRcp

open CppRcp.Foundation CppRcp.Acf CppRcp.Endpoint

namespace Endpoint

def payloadOf (octets : Octets) : Octets :=
  if peekAcfMsgType octets = acfMsgTypeGbb then
    octets.drop acfGbbMessageInfoLen
  else octets.drop acfCommonHeaderLen

/-- The encoding succeeded, with the payload of the given message. -/
def Reencodes (encoded octets : Octets) : Prop :=
  encoded ≠ [] ∧ payloadOf encoded = payloadOf octets

/-- The bus id as 11 bits, to which the encoders cut it. -/
def wireBusId (byteBusId : UInt16) : UInt16 :=
  UInt16.ofNat (byteBusId.toNat % 2048)

/-- The message of a request with `evt` 0. -/
def plainRequest (byteBusId : UInt16) (write : Bool) (transactionNum : UInt8)
    (payload : Octets) : AcfMessage :=
  .abb
    { byteBusId := byteBusId
      op := write
      transactionNum := transactionNum } payload

theorem payloadOf_encode (message : AcfMessage) :
    payloadOf message.encode = message.payload := by
  have hType := message.peekAcfMsgType_encode []
  rw [List.append_nil] at hType
  unfold payloadOf
  rw [hType]
  cases message with
  | abb info payload =>
      rw [AcfMessage.msgType, if_neg (by decide)]
      rfl
  | gbb info timestamp payload =>
      rw [AcfMessage.msgType, if_pos rfl]
      rfl

theorem encode_ne_nil (message : AcfMessage) : message.encode ≠ [] := by
  have hLength := message.length_encode
  have hEight := le_headerLen message.msgType
  unfold acfCommonHeaderLen at hEight
  intro hNil
  rw [hNil, List.length_nil] at hLength
  omega

section Receive

variable {shortFrame badMsgType : ErrorCode} {octets : Octets}

theorem receiveRequest_encode (shortFrame badMsgType : ErrorCode)
    (byteBusId : UInt16) (write : Bool) (transactionNum : UInt8)
    (payload : Octets) :
    ∃ info,
      receiveRequest shortFrame badMsgType
          (plainRequest byteBusId write transactionNum payload).encode =
        .ok (info, payload) ∧
      info.byteBusId = wireBusId byteBusId ∧ info.op = write ∧
      info.evtOp = 0 ∧ info.transactionNum = transactionNum := by
  refine ⟨(plainRequest byteBusId write transactionNum
    payload).header.truncated, ?_, rfl, rfl, rfl, rfl⟩
  unfold receiveRequest plainRequest
  rw [AcfMessage.decodeAcfAbb_encode]
  rfl

theorem receiveRequest_ok {info : AcfMessageInfo} {payload : Octets}
    (h : receiveRequest shortFrame badMsgType octets = .ok (info, payload)) :
    payload = payloadOf octets := by
  unfold receiveRequest at h
  cases hAbb : decodeAcfAbb octets with
  | error e =>
      rw [hAbb] at h
      cases h
  | ok received =>
      rw [hAbb] at h
      obtain rfl : received = (info, payload) := Except.ok.inj h
      obtain ⟨rfl, -, hType, rfl⟩ := decodeAcfAbb_ok hAbb
      rw [acfMsgType_decodeAcfMessageInfo] at hType
      unfold payloadOf
      rw [hType, if_neg (by decide)]

private theorem receiveResponse_ok {response : ReceivedResponse}
    (h : receiveResponse shortFrame badMsgType octets = .ok response) :
    response.payload = payloadOf octets := by
  unfold receiveResponse at h
  dsimp only at h
  split at h
  · cases h
  · split at h
    · rename_i hType
      split at h
      · cases h
      · rename_i hGbb
        obtain rfl := Except.ok.inj h
        obtain ⟨-, -, -, -, rfl⟩ := decodeAcfGbb_ok hGbb
        unfold payloadOf
        rw [if_pos hType]
    · rename_i hType
      split at h
      · cases h
      · rename_i hAbb
        obtain rfl := Except.ok.inj h
        obtain ⟨-, -, -, rfl⟩ := decodeAcfAbb_ok hAbb
        unfold payloadOf
        rw [if_neg hType]

end Receive

end Endpoint

/-! ## CAN -/

namespace Can

namespace ReceivedFrame

def encodeRequest (frame : ReceivedFrame) (byteBusId : UInt16)
    (transactionNum : UInt8) : Octets :=
  encodeFrameRequest byteBusId frame.format frame.arbitrationId
    frame.xlHeader frame.rxData transactionNum

def encodeResponse (frame : ReceivedFrame) (byteBusId : UInt16)
    (transactionNum : UInt8) (timed : Bool) (timestamp : UInt64) : Octets :=
  encodeFrameResponse byteBusId frame.format frame.arbitrationId
    frame.xlHeader frame.rxData transactionNum timed timestamp

def payload (frame : ReceivedFrame) : Octets :=
  buildPayload frame.format frame.arbitrationId frame.xlHeader frame.rxData

/-- The data is within the limit of the format. -/
def WithinLimit (frame : ReceivedFrame) : Prop :=
  frame.rxData.length ≤ frameFormatMaxDataLen frame.format

/-- What the decoders check of a frame. -/
structure Valid (frame : ReceivedFrame) : Prop where
  arbitrationId : arbitrationIdValid frame.format frame.arbitrationId = true
  xlHeader : frameFormatIsXl frame.format = frame.xlHeader.isSome

end ReceivedFrame

variable {frame : ReceivedFrame}

private theorem encodePreconditionsOk_iff :
    encodePreconditionsOk frame.format frame.arbitrationId frame.xlHeader
        frame.rxData.length = true ↔
      frame.Valid ∧ frame.WithinLimit := by
  unfold encodePreconditionsOk ReceivedFrame.WithinLimit
  rw [Bool.and_eq_true, Bool.and_eq_true, decide_eq_true_iff,
    decide_eq_true_iff]
  constructor
  · rintro ⟨⟨hId, hLimit⟩, hHeader⟩
    exact ⟨⟨hId, hHeader⟩, hLimit⟩
  · rintro ⟨⟨hId, hHeader⟩, hLimit⟩
    exact ⟨⟨hId, hLimit⟩, hHeader⟩

private theorem encodeRequest_eq (byteBusId : UInt16) (transactionNum : UInt8) :
    frame.encodeRequest byteBusId transactionNum =
      if encodePreconditionsOk frame.format frame.arbitrationId
          frame.xlHeader frame.rxData.length then
        (plainRequest byteBusId true transactionNum frame.payload).encode
      else [] := rfl

private theorem encodeResponse_eq (byteBusId : UInt16) (transactionNum : UInt8)
    (timed : Bool) (timestamp : UInt64) :
    frame.encodeResponse byteBusId transactionNum timed timestamp =
      if encodePreconditionsOk frame.format frame.arbitrationId
          frame.xlHeader frame.rxData.length then
        (responseMessage (frameResponseInfo byteBusId transactionNum) timed
          timestamp frame.payload).encode
      else [] := rfl

/-! ## Decoding an encoding -/

private theorem decode_encodeRequest {byteBusId : UInt16}
    {transactionNum : UInt8}
    (h : frame.encodeRequest byteBusId transactionNum ≠ []) :
    decodeFrameRequest (frame.encodeRequest byteBusId transactionNum)
        (wireBusId byteBusId) =
      .ok ⟨frame, transactionNum⟩ := by
  rw [encodeRequest_eq] at h ⊢
  split at h
  · rename_i hOk
    rw [if_pos hOk]
    obtain ⟨info, hReceive, hBus, hOp, hEvt, hTransaction⟩ :=
      receiveRequest_encode (.can .shortFrame) (.can .badMsgType) byteBusId
        true transactionNum frame.payload
    unfold decodeFrameRequest
    rw [hReceive]
    dsimp only
    rw [hBus, if_neg (not_not_intro rfl), hOp, if_neg (by decide), hEvt,
      if_neg (by decide), hTransaction, ReceivedFrame.payload,
      decodeReassembled_buildPayload hOk]
    rfl
  · exact absurd rfl h

private theorem decode_encodeResponse {byteBusId : UInt16}
    {transactionNum : UInt8} {timed : Bool} {timestamp : UInt64}
    (h : frame.encodeResponse byteBusId transactionNum timed timestamp ≠ []) :
    decodeFrameResponse
        (frame.encodeResponse byteBusId transactionNum timed timestamp)
        (wireBusId byteBusId) =
      .ok ⟨frame, timed, if timed then timestamp.toNat else 0,
        transactionNum⟩ := by
  rw [encodeResponse_eq] at h ⊢
  split at h
  · rename_i hOk
    have hBus : (responseMessage (frameResponseInfo byteBusId transactionNum)
        timed timestamp frame.payload).header.truncated.byteBusId =
          wireBusId byteBusId := by
      cases timed <;> rfl
    have hEvt : (responseMessage (frameResponseInfo byteBusId transactionNum)
        timed timestamp frame.payload).header.truncated.evtOp = 0 := by
      cases timed <;> rfl
    have hTransaction : (responseMessage
        (frameResponseInfo byteBusId transactionNum) timed timestamp
          frame.payload).header.truncated.transactionNum = transactionNum := by
      cases timed <;> rfl
    rw [if_pos hOk]
    unfold decodeFrameResponse
    rw [receiveResponse_encode]
    dsimp only
    rw [hBus, if_neg (not_not_intro rfl), hEvt, if_neg (by decide),
      hTransaction, ReceivedFrame.payload, decodeReassembled_buildPayload hOk]
    rfl
  · exact absurd rfl h

/-! ## Encoding a decoded frame -/

private theorem toNat_readFrameFormat {payload : Octets} {format : FrameFormat}
    (h : readFrameFormat payload = some format) :
    getBe (payload.take 4) / 2 ^ 29 % 8 = format.toNat := by
  unfold readFrameFormat at h
  split at h <;> first | (obtain rfl := Option.some.inj h; assumption) | cases h

private theorem writePrefix_readPrefix {payload : Octets} {format : FrameFormat}
    (hFormat : readFrameFormat payload = some format)
    (hLength : prefixLenFor format ≤ payload.length) :
    writePrefix format (readPrefix payload format).1
        (readPrefix payload format).2 =
      payload.take (prefixLenFor format) := by
  have hTop := toNat_readFrameFormat hFormat
  have hFour : 4 ≤ payload.length := by
    unfold prefixLenFor arbitrationPrefixLen at hLength
    split at hLength <;> omega
  have hWord : getBe (payload.take 4) < 2 ^ 32 := by
    have hLt := getBe_lt (payload.take 4)
    rwa [List.length_take_of_le hFour] at hLt
  have hId : (UInt32.ofNat (getBe (payload.take 4) % 2 ^ 29)).toNat =
      getBe (payload.take 4) % 2 ^ 29 := by
    apply UInt32.toNat_ofNat_of_lt'
    change _ < 4294967296
    omega
  have hQuadlet : format.toNat * 2 ^ 29 +
      getBe (payload.take 4) % 2 ^ 29 % 2 ^ 29 = getBe (payload.take 4) := by
    omega
  unfold writePrefix readPrefix prefixLenFor
  dsimp only
  rw [hId, hQuadlet, putBe_take hFour]
  unfold prefixLenFor at hLength
  cases hXl : frameFormatIsXl format with
  | false => simp [arbitrationPrefixLen]
  | true =>
      rw [hXl, if_pos rfl] at hLength
      change 10 ≤ payload.length at hLength
      have hAf : getBe ((payload.drop 6).take 4) < 2 ^ 32 := by
        have hLt := getBe_lt ((payload.drop 6).take 4)
        rwa [List.length_take_of_le (by rw [List.length_drop]; omega)] at hLt
      have hHeader : (payload.drop 4).take 6 =
          octetAt payload 4 :: octetAt payload 5 ::
            (payload.drop 6).take 4 := by
        rw [drop_eq_octetAt_cons (by omega), drop_eq_octetAt_cons (by omega)]
        rfl
      simp only [if_true]
      rw [UInt32.toNat_ofNat_of_lt' hAf,
        putBe_take (by rw [List.length_drop]; omega), ← hHeader]
      exact (List.take_add ..).symm

private theorem decodeReassembled_ok {payload : Octets}
    (h : decodeReassembledFrameResponse payload = .ok frame) :
    frame.Valid ∧ frame.payload = payload := by
  unfold decodeReassembledFrameResponse at h
  split at h
  · cases h
  · split at h
    · cases h
    · rename_i format hFormat
      split at h
      · cases h
      · rename_i hLength
        dsimp only at h
        split at h
        · cases h
        · rename_i hId
          obtain rfl := Except.ok.inj h
          have hPrefix := writePrefix_readPrefix hFormat (not_lt.mp hLength)
          refine ⟨⟨by simpa using hId, ?_⟩, ?_⟩
          · dsimp only
            unfold readPrefix
            cases frameFormatIsXl format <;> rfl
          · unfold ReceivedFrame.payload buildPayload
            dsimp only
            rw [hPrefix, List.take_append_drop]

private theorem decodeFrameRequest_ok {octets : Octets} {expectedBusId : UInt16}
    {request : DecodedRequest}
    (h : decodeFrameRequest octets expectedBusId = .ok request) :
    request.frame.Valid ∧ request.frame.payload = payloadOf octets := by
  unfold decodeFrameRequest at h
  split at h
  · cases h
  · rename_i info payload hReceive
    obtain rfl := receiveRequest_ok hReceive
    split_ifs at h
    cases hFrame : decodeReassembledFrameResponse (payloadOf octets) with
    | error e =>
        rw [hFrame] at h
        cases h
    | ok frame =>
        rw [hFrame] at h
        obtain rfl := Except.ok.inj h
        exact decodeReassembled_ok hFrame

private theorem decodeFrameResponse_ok {octets : Octets}
    {expectedBusId : UInt16} {response : DecodedResponse}
    (h : decodeFrameResponse octets expectedBusId = .ok response) :
    response.frame.Valid ∧ response.frame.payload = payloadOf octets := by
  unfold decodeFrameResponse at h
  split at h
  · cases h
  · rename_i received hReceive
    have hPayload := receiveResponse_ok hReceive
    split_ifs at h
    cases hFrame : decodeReassembledFrameResponse received.payload with
    | error e =>
        rw [hFrame] at h
        cases h
    | ok frame =>
        rw [hFrame] at h
        obtain rfl := Except.ok.inj h
        rw [← hPayload]
        exact decodeReassembled_ok hFrame

theorem reencodes_iff {octets : Octets} {message : AcfMessage}
    (hValid : frame.Valid) (hPayload : message.payload = payloadOf octets) :
    Reencodes
        (if encodePreconditionsOk frame.format frame.arbitrationId
            frame.xlHeader frame.rxData.length then message.encode
          else []) octets ↔
      frame.WithinLimit := by
  split
  · rename_i hOk
    have hLimit := (encodePreconditionsOk_iff.mp hOk).2
    refine iff_of_true ⟨encode_ne_nil message, ?_⟩ hLimit
    rw [payloadOf_encode, hPayload]
  · rename_i hBad
    refine iff_of_false (fun h => h.1 rfl) fun hLimit => hBad ?_
    exact encodePreconditionsOk_iff.mpr ⟨hValid, hLimit⟩

/-- Decoding what an encoder accepts returns the frame.  What a decoder accepts
has an identifier of its format and an XL header exactly in an XL format, and
is encoded to the same payload exactly if its data is within the limit. -/
theorem frame_codecs :
    (∀ (frame : ReceivedFrame) byteBusId transactionNum,
      frame.encodeRequest byteBusId transactionNum ≠ [] →
        decodeFrameRequest (frame.encodeRequest byteBusId transactionNum)
            (wireBusId byteBusId) =
          .ok ⟨frame, transactionNum⟩) ∧
    (∀ (frame : ReceivedFrame) byteBusId transactionNum timed
        (timestamp : UInt64),
      frame.encodeResponse byteBusId transactionNum timed timestamp ≠ [] →
        decodeFrameResponse
            (frame.encodeResponse byteBusId transactionNum timed timestamp)
            (wireBusId byteBusId) =
          .ok ⟨frame, timed, if timed then timestamp.toNat else 0,
            transactionNum⟩) ∧
    (∀ octets byteBusId request,
      decodeFrameRequest octets byteBusId = .ok request →
        request.frame.Valid ∧
          (Reencodes (request.frame.encodeRequest byteBusId
              request.transactionNum) octets ↔
            request.frame.WithinLimit)) ∧
    ∀ octets byteBusId response,
      decodeFrameResponse octets byteBusId = .ok response →
        response.frame.Valid ∧
          (Reencodes (response.frame.encodeResponse byteBusId
              response.transactionNum response.timed
              (UInt64.ofNat response.timestamp)) octets ↔
            response.frame.WithinLimit) := by
  refine ⟨fun _ _ _ => decode_encodeRequest,
    fun _ _ _ _ _ => decode_encodeResponse, ?_, ?_⟩
  · intro octets byteBusId request h
    obtain ⟨hValid, hPayload⟩ := decodeFrameRequest_ok h
    refine ⟨hValid, ?_⟩
    rw [encodeRequest_eq]
    exact reencodes_iff hValid hPayload
  · intro octets byteBusId response h
    obtain ⟨hValid, hPayload⟩ := decodeFrameResponse_ok h
    refine ⟨hValid, ?_⟩
    rw [encodeResponse_eq]
    apply reencodes_iff hValid
    cases response.timed <;> exact hPayload

def classicalFrame (rxData : Octets) : ReceivedFrame where
  format := .cbff
  arbitrationId := 1
  xlHeader := none
  rxData := rxData

def oversizedRequest : Octets :=
  [28, 6, 0, 1, 0, 7, 128, 0, 0, 0, 0, 1, 1, 2, 3, 4, 5, 6, 7, 8, 9]

def oversizedResponse : Octets :=
  [28, 6, 0, 1, 0, 7, 64, 0, 0, 0, 0, 1, 1, 2, 3, 4, 5, 6, 7, 8, 9]

theorem frame_codecs_classical :
    decodeFrameRequest ((classicalFrame [1, 2]).encodeRequest 5 7) 5 =
        .ok ⟨classicalFrame [1, 2], 7⟩ ∧
      decodeFrameResponse
          ((classicalFrame [1, 2]).encodeResponse 5 7 true 9) 5 =
        .ok ⟨classicalFrame [1, 2], true, 9, 7⟩ ∧
      (Reencodes ((classicalFrame [1, 2, 3, 4, 5, 6, 7, 8, 9]).encodeRequest
          1 7) oversizedRequest ↔
        (classicalFrame [1, 2, 3, 4, 5, 6, 7, 8, 9]).WithinLimit) ∧
      (Reencodes ((classicalFrame [1, 2, 3, 4, 5, 6, 7, 8, 9]).encodeResponse
          1 7 false 0) oversizedResponse ↔
        (classicalFrame [1, 2, 3, 4, 5, 6, 7, 8, 9]).WithinLimit) :=
  ⟨frame_codecs.1 (classicalFrame [1, 2]) 5 7 (by decide),
    frame_codecs.2.1 (classicalFrame [1, 2]) 5 7 true 9 (by decide),
    (frame_codecs.2.2.1 oversizedRequest 1
      ⟨classicalFrame [1, 2, 3, 4, 5, 6, 7, 8, 9], 7⟩ (by decide)).2,
    (frame_codecs.2.2.2 oversizedResponse 1
      ⟨classicalFrame [1, 2, 3, 4, 5, 6, 7, 8, 9], false, 0, 7⟩
      (by decide)).2⟩

/-- Both decoders take more data than a classical frame has, which no encoder
takes back; and a request to bus 2049 is decoded for bus 1 only. -/
theorem oversized_frame_accepted :
    decodeFrameRequest oversizedRequest 1 =
        .ok ⟨classicalFrame [1, 2, 3, 4, 5, 6, 7, 8, 9], 7⟩ ∧
      decodeFrameResponse oversizedResponse 1 =
        .ok ⟨classicalFrame [1, 2, 3, 4, 5, 6, 7, 8, 9], false, 0, 7⟩ ∧
      ¬ (classicalFrame [1, 2, 3, 4, 5, 6, 7, 8, 9]).WithinLimit ∧
      (classicalFrame [1, 2, 3, 4, 5, 6, 7, 8, 9]).encodeRequest 1 7 = [] ∧
      (classicalFrame [1, 2, 3, 4, 5, 6, 7, 8, 9]).encodeResponse 1 7 false
        0 = [] ∧
      (classicalFrame [1, 2]).encodeRequest 2049 7 ≠ [] ∧
      decodeFrameRequest ((classicalFrame [1, 2]).encodeRequest 2049 7) 2049 =
        .error (.can .wrongBus) := by
  unfold ReceivedFrame.WithinLimit
  decide

end Can

end CppRcp
