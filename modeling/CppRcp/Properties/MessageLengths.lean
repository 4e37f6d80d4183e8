import CppRcp.Peripherals.Messages

/-!
# The lengths that the endpoint encoders declare

The length field has nine bits and counts quadlets.  The encoders of ABB and
GBB messages cut the computed length to that width without a check, so that an
endpoint encoder declares its message's length exactly if it lays out no more
than `kAcfAbbMaxPayload` or `kAcfGbbMaxPayload` octets.  Some encoders refuse
anything longer; the others bound their input higher, or not at all.
-/

namespace CppRcp

open CppRcp.Foundation CppRcp.Acf CppRcp.Endpoint

/-! ## One message -/

namespace Acf

/-- The octets declare their length in quadlets, rounded up, and are one
message that carries the payload. -/
structure SentWhole (octets payload : Octets) : Prop where
  length : (decodeAcfMessageInfo octets).acfMsgLength.toNat =
    (octets.length + 3) / 4
  single : ∃ entry, decodeAcfMessages octets = .ok [entry] ∧
    entry.payload = payload

namespace AcfMessage

variable {message : AcfMessage}

private theorem le_maxPayload_iff :
    message.payload.length ≤ message.maxPayload ↔
      headerLen message.msgType + message.payload.length ≤ 2044 := by
  cases message with
  | abb info payload =>
      change payload.length ≤ 2036 ↔ 8 + payload.length ≤ 2044
      omega
  | gbb info messageTimestamp payload =>
      change payload.length ≤ 2028 ↔ 16 + payload.length ≤ 2044
      omega

private theorem decoded_msgLength (hUnset : message.info.acfMsgLength = 0) :
    (decodeAcfMessageInfo message.encode).acfMsgLength.toNat =
      (message.encode.length + 3) / 4 % 65536 % 512 := by
  have hDecoded := message.decode_encode []
  rw [List.append_nil] at hDecoded
  rw [hDecoded, length_encode]
  simp only [AcfMessageInfo.truncated, header, msgLength, hUnset, if_true,
    computeAcfMsgLength, UInt16.toNat_ofNat']
  omega

/-- A computed length is the encoding's own, rounded up, exactly if the
payload is within the limit. -/
theorem decoded_msgLength_iff (hUnset : message.info.acfMsgLength = 0) :
    (decodeAcfMessageInfo message.encode).acfMsgLength.toNat =
        (message.encode.length + 3) / 4 ↔
      message.payload.length ≤ message.maxPayload := by
  rw [decoded_msgLength hUnset, le_maxPayload_iff, length_encode]
  omega

private theorem messageAt_encode (hUnset : message.info.acfMsgLength = 0)
    (hLimit : message.payload.length ≤ message.maxPayload) :
    messageAt message.encode = .ok (message.onWire, message.encode.length) := by
  have hDeclared := (decoded_msgLength_iff hUnset).mpr hLimit
  have hEntry := message.entryOf_encode []
  have hType := message.peekAcfMsgType_encode []
  have hLength := message.length_encode
  rw [List.append_nil] at hEntry hType
  have hKnown : ¬ (message.msgType ≠ acfMsgTypeGbb ∧
      message.msgType ≠ acfMsgTypeAbb) := by
    cases message <;> simp [msgType]
  unfold messageAt
  simp only [hType, hDeclared]
  rw [if_neg hKnown, if_neg (by omega)]
  -- a length that was rounded up stands for the rest of the buffer
  split
  · rw [hEntry]
  · next hFits =>
      have hExact : (message.encode.length + 3) / 4 * 4 =
          message.encode.length := by omega
      rw [hExact, hEntry]

private theorem decodeAcfMessages_encode
    (hUnset : message.info.acfMsgLength = 0)
    (hLimit : message.payload.length ≤ message.maxPayload) :
    decodeAcfMessages message.encode = .ok [message.onWire] := by
  have hLength := message.length_encode
  have hEight := le_headerLen message.msgType
  unfold acfCommonHeaderLen at hEight
  have hSome : message.encode ≠ [] :=
    List.length_pos_iff.mp (by omega)
  have hAt := messageAt_encode hUnset hLimit
  obtain ⟨fuel, hFuel⟩ := Nat.exists_eq_succ_of_ne_zero
    (show message.encode.length ≠ 0 by omega)
  rw [decodeAcfMessages, if_neg hSome, hAt]
  dsimp only
  rw [hFuel, messagesFrom, if_neg hSome, hAt]
  dsimp only
  rw [List.drop_length]
  cases fuel <;> rfl

private theorem sentWhole_iff (hUnset : message.info.acfMsgLength = 0) :
    SentWhole message.encode message.payload ↔
      message.payload.length ≤ message.maxPayload := by
  constructor
  · intro hWhole
    exact (decoded_msgLength_iff hUnset).mp hWhole.length
  · intro hLimit
    exact ⟨(decoded_msgLength_iff hUnset).mpr hLimit,
      message.onWire, decodeAcfMessages_encode hUnset hLimit, rfl⟩

end AcfMessage

end Acf

/-! ## The encoders -/

namespace Endpoint

inductive RequestCall
  | canFrame (format : Can.FrameFormat) (arbitrationId : UInt32)
      (xlHeader : Option Can.XlHeader) (txData : Octets)
  | mdioRead (addr : Mdio.MdioAddr) (wordCount : Nat)
  | mdioWrite (addr : Mdio.MdioAddr) (words : List UInt16)
  | mdioMmsRead (addr : Mdio.MdioMmsAddr) (wordCount : Nat)
  | mdioMmsWrite (addr : Mdio.MdioMmsAddr) (words : List UInt32)
  | spiTransfer (channel : UInt8) (txData : Octets) (readSize : UInt16)
  | i2cTransfer (direction : I2c.I2cDir) (txData : Octets) (readSize : UInt16)
  | uartWrite (txData : Octets)
  | uartRead (readSize : UInt16)
  | linCommand (txData : Octets)
  | iseledCommand (txData : Octets)
  | iseledRead (txData : Octets) (readSize : UInt16)
  | spiReconfig (startAddress : UInt16) (data : Octets)
  | i2cReconfig (startAddress : UInt16) (data : Octets)
  | uartReconfig (startAddress : UInt16) (data : Octets)
  | linReconfig (startAddress : UInt16) (data : Octets)
  | iseledReconfig (startAddress : UInt16) (data : Octets)
  | mdioReconfig (startAddress : UInt16) (data : Octets)
  deriving DecidableEq, Repr

inductive ResponseCall
  | canFrame (format : Can.FrameFormat) (arbitrationId : UInt32)
      (xlHeader : Option Can.XlHeader) (rxData : Octets)
  | mdioRead (words : List UInt16)
  | mdioWrite (acceptedWords : List UInt16)
  | mdioMmsRead (mms : UInt8) (words : List UInt32)
  | mdioMmsWrite (mms : UInt8) (acceptedWords : List UInt32)
  | spi (channel : UInt8) (rxData : Octets)
  | i2c (direction : I2c.I2cDir) (rxData : Octets)
  | uartWrite (acceptedData : Octets)
  | uartRead (rxData : Octets)
  | lin (rxData : Octets)
  | iseled (rxData : Octets)
  deriving DecidableEq, Repr

/-- A call of an endpoint encoder. -/
inductive EncoderCall
  | request (byteBusId : UInt16) (transactionNum : UInt8)
      (call : RequestCall)
  | response (byteBusId : UInt16) (transactionNum : UInt8) (timed : Bool)
      (timestamp : UInt64) (call : ResponseCall)
  deriving DecidableEq, Repr

def RequestCall.encode (byteBusId : UInt16) (transactionNum : UInt8) :
    RequestCall → Octets
  | canFrame format arbitrationId xlHeader txData =>
      Can.encodeFrameRequest byteBusId format arbitrationId xlHeader txData
        transactionNum
  | mdioRead addr wordCount =>
      Mdio.encodeReadRequest byteBusId addr wordCount transactionNum
  | mdioWrite addr words =>
      Mdio.encodeWriteRequest byteBusId addr words transactionNum
  | mdioMmsRead addr wordCount =>
      Mdio.encodeMmsReadRequest byteBusId addr wordCount transactionNum
  | mdioMmsWrite addr words =>
      Mdio.encodeMmsWriteRequest byteBusId addr words transactionNum
  | spiTransfer channel txData readSize =>
      Spi.encodeTransferRequest byteBusId channel txData readSize
        transactionNum
  | i2cTransfer direction txData readSize =>
      I2c.encodeTransferRequest byteBusId direction txData readSize
        transactionNum
  | uartWrite txData =>
      Uart.encodeWriteRequest byteBusId txData transactionNum
  | uartRead readSize =>
      Uart.encodeReadRequest byteBusId readSize transactionNum
  | linCommand txData =>
      Lin.encodeCommandRequest byteBusId txData transactionNum
  | iseledCommand txData =>
      Iseled.encodeCommandRequest byteBusId txData transactionNum
  | iseledRead txData readSize =>
      Iseled.encodeReadRequest byteBusId txData readSize transactionNum
  | spiReconfig startAddress data =>
      Spi.encodeReconfigRequest byteBusId startAddress data transactionNum
  | i2cReconfig startAddress data =>
      I2c.encodeReconfigRequest byteBusId startAddress data transactionNum
  | uartReconfig startAddress data =>
      Uart.encodeReconfigRequest byteBusId startAddress data transactionNum
  | linReconfig startAddress data =>
      Lin.encodeReconfigRequest byteBusId startAddress data transactionNum
  | iseledReconfig startAddress data =>
      Iseled.encodeReconfigRequest byteBusId startAddress data transactionNum
  | mdioReconfig startAddress data =>
      Mdio.encodeReconfigRequest byteBusId startAddress data transactionNum

def ResponseCall.encode (byteBusId : UInt16) (transactionNum : UInt8)
    (timed : Bool) (timestamp : UInt64) : ResponseCall → Octets
  | canFrame format arbitrationId xlHeader rxData =>
      Can.encodeFrameResponse byteBusId format arbitrationId xlHeader rxData
        transactionNum timed timestamp
  | mdioRead words =>
      Mdio.encodeReadResponse byteBusId words transactionNum timed timestamp
  | mdioWrite acceptedWords =>
      Mdio.encodeWriteResponse byteBusId acceptedWords transactionNum timed
        timestamp
  | mdioMmsRead mms words =>
      Mdio.encodeMmsReadResponse byteBusId mms words transactionNum timed
        timestamp
  | mdioMmsWrite mms acceptedWords =>
      Mdio.encodeMmsWriteResponse byteBusId mms acceptedWords transactionNum
        timed timestamp
  | spi channel rxData =>
      Spi.encodeResponse byteBusId channel rxData transactionNum timed
        timestamp
  | i2c direction rxData =>
      I2c.encodeResponse byteBusId direction rxData transactionNum timed
        timestamp
  | uartWrite acceptedData =>
      Uart.encodeWriteResponse byteBusId acceptedData transactionNum timed
        timestamp
  | uartRead rxData =>
      Uart.encodeReadResponse byteBusId rxData transactionNum timed timestamp
  | lin rxData =>
      Lin.encodeResponse byteBusId rxData transactionNum timed timestamp
  | iseled rxData =>
      Iseled.encodeResponse byteBusId rxData transactionNum timed timestamp

def EncoderCall.encode : EncoderCall → Octets
  | request byteBusId transactionNum call =>
      call.encode byteBusId transactionNum
  | response byteBusId transactionNum timed timestamp call =>
      call.encode byteBusId transactionNum timed timestamp

/-! ## What the encoders are given -/

/-- The payload that the message is to carry. -/
def RequestCall.payload : RequestCall → Octets
  | canFrame format arbitrationId xlHeader txData =>
      Can.buildPayload format arbitrationId xlHeader txData
  | mdioRead addr wordCount =>
      (Mdio.modeForWordCount wordCount).toOctet :: Mdio.putAddrPrefix addr ++
        putBe 2 wordCount
  | mdioWrite addr words =>
      (Mdio.modeForWordCount words.length).toOctet ::
        Mdio.putAddrPrefix addr ++ Mdio.packWords words
  | mdioMmsRead addr wordCount =>
      (Mdio.mmsModeForWordCount wordCount).toOctet ::
        Mdio.putMmsAddrPrefix addr ++ putBe 2 wordCount
  | mdioMmsWrite addr words =>
      (Mdio.mmsModeForWordCount words.length).toOctet ::
        Mdio.putMmsAddrPrefix addr ++ Mdio.mmsPackWords addr.mms words
  | spiTransfer _ txData _ | i2cTransfer _ txData _ | uartWrite txData
  | linCommand txData | iseledCommand txData | iseledRead txData _ => txData
  | uartRead _ => []
  | spiReconfig startAddress data | i2cReconfig startAddress data
  | uartReconfig startAddress data | linReconfig startAddress data
  | iseledReconfig startAddress data | mdioReconfig startAddress data =>
      putBe 2 startAddress.toNat ++ data

def ResponseCall.payload : ResponseCall → Octets
  | canFrame format arbitrationId xlHeader rxData =>
      Can.buildPayload format arbitrationId xlHeader rxData
  | mdioRead words | mdioWrite words => Mdio.packWords words
  | mdioMmsRead mms words | mdioMmsWrite mms words =>
      Mdio.mmsPackWords mms words
  | spi _ rxData | i2c _ rxData | uartWrite rxData | uartRead rxData
  | lin rxData | iseled rxData => rxData

def EncoderCall.payload : EncoderCall → Octets
  | request _ _ call => call.payload
  | response _ _ _ _ call => call.payload

/-- The arguments pass the encoder's own checks. -/
def RequestCall.accepted : RequestCall → Bool
  | canFrame format arbitrationId xlHeader txData =>
      Can.encodePreconditionsOk format arbitrationId xlHeader txData.length
  | mdioRead addr wordCount =>
      Mdio.addrValid addr && decide (wordCount ≠ 0) &&
        decide (wordCount ≤ Mdio.maxBurstWords)
  | mdioWrite addr words =>
      Mdio.addrValid addr && decide (words.length ≠ 0) &&
        decide (words.length ≤ Mdio.maxBurstWords)
  | mdioMmsRead addr wordCount =>
      Mdio.mmsAddrValid addr && decide (wordCount ≠ 0) &&
        decide (wordCount ≤ Mdio.maxBurstWords)
  | mdioMmsWrite addr words =>
      Mdio.mmsAddrValid addr && decide (words.length ≠ 0) &&
        decide (words.length ≤ Mdio.maxBurstWords)
  | spiTransfer _ txData _ => decide (txData.length ≤ acfAbbMaxPayload)
  | i2cTransfer direction txData readSize =>
      decide (readSize.toNat ≤ I2c.maxReadSize) &&
        decide (direction = .write → readSize = 0) &&
        decide (txData.length ≤ acfAbbMaxPayload)
  | iseledRead txData readSize =>
      decide (readSize.toNat ≤ Iseled.maxReadSize) &&
        decide (txData.length ≤ acfAbbMaxPayload)
  | uartWrite _ | uartRead _ | linCommand _ | iseledCommand _ => true
  | spiReconfig _ data | i2cReconfig _ data | uartReconfig _ data
  | iseledReconfig _ data | mdioReconfig _ data =>
      decide (data ≠ []) &&
        decide (reconfigAddrLen + data.length ≤ acfAbbMaxPayload)
  | linReconfig _ data => decide (data ≠ [])

def ResponseCall.accepted : ResponseCall → Bool
  | canFrame format arbitrationId xlHeader rxData =>
      Can.encodePreconditionsOk format arbitrationId xlHeader rxData.length
  | mdioRead words | mdioWrite words =>
      decide (words.length ≤ Mdio.maxBurstWords)
  | mdioMmsRead _ words | mdioMmsWrite _ words =>
      decide (words.length ≤ Mdio.maxBurstWords)
  | i2c direction rxData =>
      decide (direction = .write → rxData = [])
  | spi _ _ | uartWrite _ | uartRead _ | lin _ | iseled _ => true

def EncoderCall.accepted : EncoderCall → Bool
  | request _ _ call => call.accepted
  | response _ _ _ _ call => call.accepted

/-- How long the payload is, from the lengths of the arguments. -/
def RequestCall.payloadLen : RequestCall → Nat
  | canFrame format _ _ txData => Can.prefixLenFor format + txData.length
  | mdioRead _ _ => 8
  | mdioWrite _ words => 6 + 2 * words.length
  | mdioMmsRead _ _ => 6
  | mdioMmsWrite addr words =>
      4 + Mdio.mmsWordWidth addr.mms * words.length
  | spiTransfer _ txData _ | i2cTransfer _ txData _ | uartWrite txData
  | linCommand txData | iseledCommand txData | iseledRead txData _ =>
      txData.length
  | uartRead _ => 0
  | spiReconfig _ data | i2cReconfig _ data | uartReconfig _ data
  | linReconfig _ data | iseledReconfig _ data | mdioReconfig _ data =>
      reconfigAddrLen + data.length

def ResponseCall.payloadLen : ResponseCall → Nat
  | canFrame format _ _ rxData => Can.prefixLenFor format + rxData.length
  | mdioRead words | mdioWrite words => 2 * words.length
  | mdioMmsRead mms words | mdioMmsWrite mms words =>
      Mdio.mmsWordWidth mms * words.length
  | spi _ rxData | i2c _ rxData | uartWrite rxData | uartRead rxData
  | lin rxData | iseled rxData => rxData.length

def EncoderCall.payloadLen : EncoderCall → Nat
  | request _ _ call => call.payloadLen
  | response _ _ _ _ call => call.payloadLen

/-- What a message of the call's type can hold. -/
def EncoderCall.limit : EncoderCall → Nat
  | request _ _ _ => acfAbbMaxPayload
  | response _ _ timed _ _ =>
      if timed then acfGbbMaxPayload else acfAbbMaxPayload

/-- The call is refused, or sent whole under its own length. -/
def EncoderCall.Represented (call : EncoderCall) : Prop :=
  call.encode = [] ∨ SentWhole call.encode call.payload

private theorem RequestCall.length_payload (call : RequestCall) :
    call.payload.length = call.payloadLen := by
  cases call <;>
    simp [payload, payloadLen, Can.buildPayload, Can.length_writePrefix,
      Mdio.putAddrPrefix, Mdio.putMmsAddrPrefix, Mdio.length_packWords,
      Mdio.length_mmsPackWords, reconfigAddrLen] <;>
    omega

private theorem ResponseCall.length_payload (call : ResponseCall) :
    call.payload.length = call.payloadLen := by
  cases call <;>
    simp [payload, payloadLen, Can.buildPayload, Can.length_writePrefix,
      Mdio.length_packWords, Mdio.length_mmsPackWords]

/-! ## What is sent -/

private theorem ite_refused {refused : Prop} [Decidable refused]
    {accepted : Bool} {octets : Octets} (h : accepted = true ↔ ¬refused) :
    (if refused then [] else octets) = if accepted then octets else [] := by
  cases accepted <;> simp_all

theorem RequestCall.encode_eq (call : RequestCall) (byteBusId : UInt16)
    (transactionNum : UInt8) :
    ∃ info, call.encode byteBusId transactionNum =
        (if call.accepted then (AcfMessage.abb info call.payload).encode
          else []) ∧
      info.acfMsgLength = 0 := by
  cases call
  case canFrame | uartWrite | uartRead | linCommand | iseledCommand =>
    exact ⟨_, rfl, rfl⟩
  all_goals
    apply Exists.intro
    apply And.intro
    · simp only [encode, Mdio.encodeReadRequest, Mdio.encodeWriteRequest,
        Mdio.encodeMmsReadRequest, Mdio.encodeMmsWriteRequest,
        Spi.encodeTransferRequest, I2c.encodeTransferRequest,
        Iseled.encodeReadRequest, Spi.encodeReconfigRequest,
        I2c.encodeReconfigRequest, Uart.encodeReconfigRequest,
        Lin.encodeReconfigRequest, Iseled.encodeReconfigRequest,
        Mdio.encodeReconfigRequest, encodeBoundedReconfig, ← ite_or]
      apply ite_refused
      simp [accepted, and_assoc, imp_iff_not_or]
    · rfl

theorem ResponseCall.encode_eq (call : ResponseCall) (byteBusId : UInt16)
    (transactionNum : UInt8) (timed : Bool) (timestamp : UInt64) :
    ∃ info, call.encode byteBusId transactionNum timed timestamp =
        (if call.accepted then
          (responseMessage info timed timestamp call.payload).encode
          else []) ∧
      info.acfMsgLength = 0 := by
  cases call
  case canFrame | spi | uartWrite | uartRead | lin | iseled =>
    exact ⟨_, rfl, rfl⟩
  all_goals
    apply Exists.intro
    apply And.intro
    · simp only [encode, Mdio.encodeReadResponse, Mdio.encodeWriteResponse,
        Mdio.encodeMmsReadResponse, Mdio.encodeMmsWriteResponse,
        I2c.encodeResponse]
      apply ite_refused
      simp [accepted, imp_iff_not_or]
    · rfl

theorem EncoderCall.encode_eq (call : EncoderCall) :
    ∃ message : AcfMessage,
      call.encode = (if call.accepted then message.encode else []) ∧
        message.info.acfMsgLength = 0 ∧ message.payload = call.payload ∧
          message.maxPayload = call.limit := by
  cases call with
  | request byteBusId transactionNum call =>
      obtain ⟨info, hEncode, hUnset⟩ :=
        call.encode_eq byteBusId transactionNum
      exact ⟨.abb info call.payload, hEncode, hUnset, rfl, rfl⟩
  | response byteBusId transactionNum timed timestamp call =>
      obtain ⟨info, hEncode, hUnset⟩ :=
        call.encode_eq byteBusId transactionNum timed timestamp
      refine ⟨responseMessage info timed timestamp call.payload, hEncode, ?_⟩
      cases timed with
      | false => exact ⟨hUnset, rfl, rfl⟩
      | true => exact ⟨hUnset, rfl, rfl⟩

private theorem EncoderCall.length_payload (call : EncoderCall) :
    call.payload.length = call.payloadLen := by
  cases call with
  | request byteBusId transactionNum call => exact call.length_payload
  | response byteBusId transactionNum timed timestamp call =>
      exact call.length_payload

private theorem EncoderCall.represented_of_refused {call : EncoderCall}
    (h : call.accepted = false) : call.Represented := by
  obtain ⟨message, hEncode, -⟩ := call.encode_eq
  exact .inl (by simp [hEncode, h])

private theorem EncoderCall.represented_of_accepted {call : EncoderCall}
    (h : call.accepted = true) :
    call.Represented ↔ call.payloadLen ≤ call.limit := by
  obtain ⟨message, hEncode, hUnset, hPayload, hLimit⟩ := call.encode_eq
  rw [if_pos h] at hEncode
  have hLength := message.length_encode
  have hEight := le_headerLen message.msgType
  unfold acfCommonHeaderLen at hEight
  have hSome : message.encode ≠ [] := List.length_pos_iff.mp (by omega)
  unfold Represented
  rw [hEncode, or_iff_right hSome, ← hPayload,
    AcfMessage.sentWhole_iff hUnset, hLimit, hPayload, call.length_payload]

/-- Every call of an endpoint encoder: it is refused or sent whole exactly if
the encoder's checks refuse it, or it fits one message. -/
theorem encoders_represent_iff (call : EncoderCall) :
    call.Represented ↔
      (call.accepted = true → call.payloadLen ≤ call.limit) := by
  cases hAccepted : call.accepted with
  | false =>
      simp [EncoderCall.represented_of_refused hAccepted]
  | true =>
      simp [EncoderCall.represented_of_accepted hAccepted]

private theorem not_represented_of_longest {data : Octets}
    (hLength : data.length = 2048) :
    ¬ (EncoderCall.request 1 0
      (.canFrame .xlNewPl 0 (some {}) data)).Represented := by
  have hAccepted : (EncoderCall.request 1 0
      (.canFrame .xlNewPl 0 (some {}) data)).accepted = true := by
    simp [EncoderCall.accepted, RequestCall.accepted, hLength,
      Can.encodePreconditionsOk, Can.arbitrationIdValid,
      Can.frameFormatMaxDataLen, Can.frameFormatIsXl]
  rw [EncoderCall.represented_of_accepted hAccepted]
  change ¬ 10 + data.length ≤ 2036
  omega

/-- A CAN XL frame of the greatest length is sent under a length of five
quadlets. -/
theorem xlFrame_not_represented :
    ¬ ∀ call : EncoderCall, call.Represented :=
  fun hAll => not_represented_of_longest
    (@List.length_replicate UInt8 2048 0) (hAll _)

end Endpoint

end CppRcp
