import CppRcp.Peripherals.Messages
import CppRcp.Wire.Reassembling

/-!
# Responses in fragments

The fragmented response encoders of CAN, UART and ISELED: a plan cuts the
payload into segments, and each is sent as a message of its own.  The decoders
take one message at a time and pass on what a reassembler is fed; only a CAN
frame has a structure of its own once it is joined again.
-/

namespace CppRcp

open CppRcp.Foundation CppRcp.Acf CppRcp.Fragment

namespace Endpoint

/-- The message of one segment: all share the header but for the flag and the
number of the segment. -/
def fragmentMessage (info : AcfMessageInfo) (timed : Bool)
    (timestamp : UInt64) (payload : Octets) (segment : Segment) :
    AcfMessage :=
  responseMessage
    { info with
      ms := segment.ms
      readSizeOrSegmentNum := if segment.ms then segment.segmentNum else 0 }
    timed timestamp (segment.slice payload)

/-- The messages of the first `len` octets of a payload, cut into `count`
segments. -/
def encodeFragments (info : AcfMessageInfo) (timed : Bool)
    (timestamp : UInt64) (payload : Octets)
    (len maxFragmentPayload count : Nat) : List Octets :=
  if count = 0 then []
  else
    match plan len maxFragmentPayload count with
    | .error _ => []
    | .ok segments =>
        segments.map fun segment =>
          (fragmentMessage info timed timestamp payload segment).encode

structure ReceivedResponse where
  info : AcfMessageInfo
  payload : Octets
  timed : Bool
  timestamp : Nat
  deriving DecidableEq, Repr

/-- The message type is peeked at, as a response may be timed or not; the two
errors are those of the endpoint kind. -/
def receiveResponse (shortFrame badMsgType : ErrorCode) (octets : Octets) :
    Except ErrorCode ReceivedResponse :=
  let reportAs := fun e : ErrorCode =>
    if e = .avtp .shortBuffer then shortFrame else badMsgType
  if octets.length < 1 then .error shortFrame
  else if peekAcfMsgType octets = acfMsgTypeGbb then
    match decodeAcfGbb octets with
    | .error e => .error (reportAs e)
    | .ok (info, ts, payload) =>
        .ok ⟨info, payload, info.mtv, if info.mtv then ts else 0⟩
  else
    match decodeAcfAbb octets with
    | .error e => .error (reportAs e)
    | .ok (info, payload) => .ok ⟨info, payload, false, 0⟩

structure ReceivedFragment where
  ms : Bool
  segmentNum : UInt16
  payload : Octets
  timed : Bool
  timestamp : Nat
  transactionNum : UInt8
  deriving DecidableEq, Repr

def ReceivedResponse.fragment (response : ReceivedResponse) :
    ReceivedFragment :=
  { ms := response.info.ms
    segmentNum := response.info.readSizeOrSegmentNum
    payload := response.payload
    timed := response.timed
    timestamp := response.timestamp
    transactionNum := response.info.transactionNum }

def ReceivedFragment.fed (fragment : ReceivedFragment) : Fed :=
  ⟨fragment.ms, fragment.segmentNum, fragment.payload⟩

end Endpoint

open CppRcp.Endpoint

/-! ## CAN -/

namespace Can

def maxFragmentSegments : Nat := 256

def frameResponseFragmentCount (frameFormat : FrameFormat)
    (arbitrationId : UInt32) (xlHeader : Option XlHeader)
    (rxLen maxFragmentPayload : Nat) : Nat :=
  if encodePreconditionsOk frameFormat arbitrationId xlHeader rxLen then
    let count :=
      planCount (prefixLenFor frameFormat + rxLen) maxFragmentPayload
    if maxFragmentSegments < count then 0 else count
  else 0

def encodeFrameResponseFragmented (byteBusId : UInt16)
    (frameFormat : FrameFormat) (arbitrationId : UInt32)
    (xlHeader : Option XlHeader) (rxData : Octets) (transactionNum : UInt8)
    (timed : Bool) (timestamp : UInt64) (maxFragmentPayload : Nat) :
    List Octets :=
  let combined := buildPayload frameFormat arbitrationId xlHeader rxData
  encodeFragments (frameResponseInfo byteBusId transactionNum) timed timestamp
    combined combined.length maxFragmentPayload
    (frameResponseFragmentCount frameFormat arbitrationId xlHeader
      rxData.length maxFragmentPayload)

def decodeFrameResponseFragment (octets : Octets) (expectedBusId : UInt16) :
    Except ErrorCode ReceivedFragment :=
  match receiveResponse (.can .shortFrame) (.can .badMsgType) octets with
  | .error e => .error e
  | .ok response =>
      if response.info.byteBusId ≠ expectedBusId then .error (.can .wrongBus)
      else if evtRow2IsPlain response.info.evtOp = false then
        .error (.can .badEvt)
      else .ok response.fragment

/-- The format in the top three bits of the leading quadlet; `none` where it
is not `frame_format_valid`. -/
def readFrameFormat (octets : Octets) : Option FrameFormat :=
  match getBe (octets.take 4) / 2 ^ 29 % 8 with
  | 0 => some .cbff
  | 1 => some .ceff
  | 2 => some .fbff
  | 3 => some .feff
  | 4 => some .xlClassicalPl
  | 5 => some .xlNewPl
  | _ => none

def readPrefix (octets : Octets) (format : FrameFormat) :
    UInt32 × Option XlHeader :=
  (UInt32.ofNat (getBe (octets.take 4) % 2 ^ 29),
    if frameFormatIsXl format then
      some
        { sdt := octetAt octets 4
          vcid := octetAt octets 5
          af := UInt32.ofNat (getBe ((octets.drop 6).take 4)) }
    else none)

structure ReceivedFrame where
  format : FrameFormat
  arbitrationId : UInt32
  xlHeader : Option XlHeader
  rxData : Octets
  deriving DecidableEq, Repr

def decodeReassembledFrameResponse (reassembled : Octets) :
    Except ErrorCode ReceivedFrame :=
  if reassembled.length < arbitrationPrefixLen then .error (.can .shortFrame)
  else
    match readFrameFormat reassembled with
    | none => .error (.can .badFrameFormat)
    | some format =>
        if reassembled.length < prefixLenFor format then
          .error (.can .shortFrame)
        else
          let (arbitrationId, xlHeader) := readPrefix reassembled format
          if arbitrationIdValid format arbitrationId = false then
            .error (.can .badArbitrationId)
          else
            .ok ⟨format, arbitrationId, xlHeader,
              reassembled.drop (prefixLenFor format)⟩

end Can

/-! ## UART -/

namespace Uart

def readResponseFragmentCount (rxLen maxFragmentPayload : Nat) : Nat :=
  planCount rxLen maxFragmentPayload

def encodeReadResponseFragmented (byteBusId : UInt16) (rxData : Octets)
    (transactionNum : UInt8) (timed : Bool) (timestamp : UInt64)
    (maxFragmentPayload : Nat) : List Octets :=
  encodeFragments (readResponseInfo byteBusId transactionNum) timed timestamp
    rxData rxData.length maxFragmentPayload
    (readResponseFragmentCount rxData.length maxFragmentPayload)

def decodeReadResponseFragment (octets : Octets) (expectedBusId : UInt16) :
    Except ErrorCode ReceivedFragment :=
  match receiveResponse (.uart .shortFrame) (.uart .badMsgType) octets with
  | .error e => .error e
  | .ok response =>
      if response.info.byteBusId ≠ expectedBusId then .error (.uart .wrongBus)
      else .ok response.fragment

end Uart

/-! ## ISELED -/

namespace Iseled

def cappedLen (availableLen : Nat) (readSize : UInt16) : Nat :=
  min availableLen readSize.toNat

def responseFragmentCount (availableLen : Nat) (readSize : UInt16)
    (maxFragmentPayload : Nat) : Nat :=
  planCount (cappedLen availableLen readSize) maxFragmentPayload

def encodeResponseFragmented (byteBusId : UInt16) (rxData : Octets)
    (readSize : UInt16) (transactionNum : UInt8) (timed : Bool)
    (timestamp : UInt64) (maxFragmentPayload : Nat) : List Octets :=
  encodeFragments (responseInfo byteBusId transactionNum) timed timestamp
    rxData (cappedLen rxData.length readSize) maxFragmentPayload
    (responseFragmentCount rxData.length readSize maxFragmentPayload)

structure DecodedResponse where
  rxData : Octets
  timed : Bool
  timestamp : Nat
  transactionNum : UInt8
  deriving DecidableEq, Repr

/-- Unlike the decoders above, this one does not pass on the flag and the
number of a fragment. -/
def decodeResponse (octets : Octets) (expectedBusId : UInt16) :
    Except ErrorCode DecodedResponse :=
  match receiveResponse (.iseled .shortFrame) (.iseled .badMsgType)
      octets with
  | .error e => .error e
  | .ok response =>
      if response.info.byteBusId ≠ expectedBusId then
        .error (.iseled .wrongBus)
      else
        .ok ⟨response.payload, response.timed, response.timestamp,
          response.info.transactionNum⟩

end Iseled

end CppRcp
