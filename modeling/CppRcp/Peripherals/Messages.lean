import CppRcp.Peripherals.Endpoints
import CppRcp.Wire.AcfMessages

/-!
# The messages of the endpoints

The request and response encoders of the endpoint headers.  Each lays out a
payload and gives it to the encoder of ABB messages, or of GBB messages where
a response is timed; an input that an encoder refuses has the empty encoding.
The length field is always left to be computed.
-/

namespace CppRcp

open CppRcp.Foundation CppRcp.Acf

namespace Endpoint

def reconfigAddrLen : Nat := 2

/-- The configuration request of all endpoint kinds: `evt[2:0]` is 111b, and
the payload a start address and the octets to write from there on. -/
def reconfigRequest (byteBusId : UInt16) (startAddress : UInt16)
    (data : Octets) (transactionNum : UInt8) : AcfMessage :=
  .abb
    { byteBusId := byteBusId
      op := true
      evtOp := 7
      transactionNum := transactionNum }
    (putBe 2 startAddress.toNat ++ data)

/-- `encode_reconfig_request`, as five of the headers have it. -/
def encodeBoundedReconfig (byteBusId : UInt16) (startAddress : UInt16)
    (data : Octets) (transactionNum : UInt8) : Octets :=
  if data = [] then []
  else if acfAbbMaxPayload < reconfigAddrLen + data.length then []
  else (reconfigRequest byteBusId startAddress data transactionNum).encode

/-- What every response encoder ends with: a timed response is a GBB message,
any other an ABB message. -/
def responseMessage (info : AcfMessageInfo) (timed : Bool)
    (timestamp : UInt64) (payload : Octets) : AcfMessage :=
  if timed then .gbb { info with mtv := true } timestamp payload
  else .abb info payload

end Endpoint

open CppRcp.Endpoint

/-! ## SPI -/

namespace Spi

def encodeReconfigRequest := encodeBoundedReconfig

def encodeTransferRequest (byteBusId : UInt16) (channel : UInt8)
    (txData : Octets) (readSize : UInt16) (transactionNum : UInt8) : Octets :=
  if acfAbbMaxPayload < txData.length then []
  else
    encodeAcfAbb
      { byteBusId := byteBusId
        op := false
        evtOp := UInt8.ofNat (channel.toNat % 8)
        readSizeOrSegmentNum := readSize
        transactionNum := transactionNum } txData

def encodeResponse (byteBusId : UInt16) (channel : UInt8) (rxData : Octets)
    (transactionNum : UInt8) (timed : Bool) (timestamp : UInt64) : Octets :=
  (responseMessage
    { byteBusId := byteBusId
      op := false
      rsp := true
      evtOp := UInt8.ofNat (channel.toNat % 8)
      transactionNum := transactionNum } timed timestamp rxData).encode

end Spi

/-! ## I2C and LIN -/

namespace I2c

def encodeReconfigRequest := encodeBoundedReconfig

inductive I2cDir
  | write | read
  deriving DecidableEq, Repr

/-- `op` is set in what is sent for a write. -/
def dirToWriteOp (direction : I2cDir) : Bool := decide (direction = .write)

def maxReadSize : Nat := 0x0FFF

def encodeTransferRequest (byteBusId : UInt16) (direction : I2cDir)
    (txData : Octets) (readSize : UInt16) (transactionNum : UInt8) : Octets :=
  if maxReadSize < readSize.toNat then []
  else if direction = .write ∧ readSize ≠ 0 then []
  else if acfAbbMaxPayload < txData.length then []
  else
    encodeAcfAbb
      { byteBusId := byteBusId
        op := dirToWriteOp direction
        transactionNum := transactionNum
        readSizeOrSegmentNum := if direction = .read then readSize else 0 }
      txData

def encodeResponse (byteBusId : UInt16) (direction : I2cDir)
    (rxData : Octets) (transactionNum : UInt8) (timed : Bool)
    (timestamp : UInt64) : Octets :=
  if direction = .write ∧ rxData ≠ [] then []
  else
    (responseMessage
      { byteBusId := byteBusId
        op := dirToWriteOp direction
        rsp := true
        transactionNum := transactionNum } timed timestamp rxData).encode

end I2c

namespace Lin

def encodeReconfigRequest (byteBusId : UInt16) (startAddress : UInt16)
    (data : Octets) (transactionNum : UInt8) : Octets :=
  if data = [] then []
  else (reconfigRequest byteBusId startAddress data transactionNum).encode

def encodeCommandRequest (byteBusId : UInt16) (txData : Octets)
    (transactionNum : UInt8) : Octets :=
  encodeAcfAbb
    { byteBusId := byteBusId
      op := false
      transactionNum := transactionNum } txData

def encodeResponse (byteBusId : UInt16) (rxData : Octets)
    (transactionNum : UInt8) (timed : Bool) (timestamp : UInt64) : Octets :=
  (responseMessage
    { byteBusId := byteBusId
      op := false
      rsp := true
      transactionNum := transactionNum } timed timestamp rxData).encode

end Lin

/-! ## UART -/

namespace Uart

def encodeReconfigRequest := encodeBoundedReconfig

def encodeWriteRequest (byteBusId : UInt16) (txData : Octets)
    (transactionNum : UInt8) : Octets :=
  encodeAcfAbb
    { byteBusId := byteBusId
      op := true
      transactionNum := transactionNum } txData

def encodeWriteResponse (byteBusId : UInt16) (acceptedData : Octets)
    (transactionNum : UInt8) (timed : Bool) (timestamp : UInt64) : Octets :=
  (responseMessage
    { byteBusId := byteBusId
      op := true
      rsp := true
      transactionNum := transactionNum } timed timestamp acceptedData).encode

def encodeReadRequest (byteBusId : UInt16) (readSize : UInt16)
    (transactionNum : UInt8) : Octets :=
  encodeAcfAbb
    { byteBusId := byteBusId
      op := false
      transactionNum := transactionNum
      readSizeOrSegmentNum := readSize } []

def readResponseInfo (byteBusId : UInt16) (transactionNum : UInt8) :
    AcfMessageInfo :=
  { byteBusId := byteBusId
    op := false
    rsp := true
    transactionNum := transactionNum }

def encodeReadResponse (byteBusId : UInt16) (rxData : Octets)
    (transactionNum : UInt8) (timed : Bool) (timestamp : UInt64) : Octets :=
  (responseMessage (readResponseInfo byteBusId transactionNum) timed timestamp
    rxData).encode

end Uart

/-! ## ISELED -/

namespace Iseled

def encodeReconfigRequest := encodeBoundedReconfig

def encodeCommandRequest (byteBusId : UInt16) (txData : Octets)
    (transactionNum : UInt8) : Octets :=
  encodeAcfAbb
    { byteBusId := byteBusId
      op := true
      transactionNum := transactionNum } txData

def maxReadSize : Nat := 0x0FFF

def encodeReadRequest (byteBusId : UInt16) (txData : Octets)
    (readSize : UInt16) (transactionNum : UInt8) : Octets :=
  if maxReadSize < readSize.toNat then []
  else if acfAbbMaxPayload < txData.length then []
  else
    encodeAcfAbb
      { byteBusId := byteBusId
        op := false
        transactionNum := transactionNum
        readSizeOrSegmentNum := readSize } txData

def responseInfo (byteBusId : UInt16) (transactionNum : UInt8) :
    AcfMessageInfo :=
  { byteBusId := byteBusId
    op := false
    rsp := true
    transactionNum := transactionNum }

def encodeResponse (byteBusId : UInt16) (rxData : Octets)
    (transactionNum : UInt8) (timed : Bool) (timestamp : UInt64) : Octets :=
  (responseMessage (responseInfo byteBusId transactionNum) timed timestamp
    rxData).encode

end Iseled

/-! ## CAN -/

namespace Can

structure XlHeader where
  sdt : UInt8 := 0
  vcid : UInt8 := 0
  af : UInt32 := 0
  deriving DecidableEq, Repr

def arbitrationPrefixLen : Nat := 4
def xlHeaderLen : Nat := 6

def FrameFormat.toNat : FrameFormat → Nat
  | .cbff => 0
  | .ceff => 1
  | .fbff => 2
  | .feff => 3
  | .xlClassicalPl => 4
  | .xlNewPl => 5

def prefixLenFor (format : FrameFormat) : Nat :=
  if frameFormatIsXl format then arbitrationPrefixLen + xlHeaderLen
  else arbitrationPrefixLen

def writePrefix (format : FrameFormat) (arbitrationId : UInt32)
    (xlHeader : Option XlHeader) : Octets :=
  putBe 4 (format.toNat * 2 ^ 29 + arbitrationId.toNat % 2 ^ 29) ++
    if frameFormatIsXl format then
      match xlHeader with
      | some header => header.sdt :: header.vcid :: putBe 4 header.af.toNat
      | none => List.replicate xlHeaderLen 0
    else []

theorem length_writePrefix (format : FrameFormat) (arbitrationId : UInt32)
    (xlHeader : Option XlHeader) :
    (writePrefix format arbitrationId xlHeader).length =
      prefixLenFor format := by
  unfold writePrefix prefixLenFor
  rw [List.length_append, length_putBe]
  cases frameFormatIsXl : frameFormatIsXl format with
  | false => simp [arbitrationPrefixLen]
  | true =>
      cases xlHeader <;> simp [arbitrationPrefixLen, xlHeaderLen]

/-- A `FrameFormat` of the model is always `frame_format_valid`. -/
def encodePreconditionsOk (frameFormat : FrameFormat) (arbitrationId : UInt32)
    (xlHeader : Option XlHeader) (dataLen : Nat) : Bool :=
  arbitrationIdValid frameFormat arbitrationId &&
    decide (dataLen ≤ frameFormatMaxDataLen frameFormat) &&
    decide (frameFormatIsXl frameFormat = xlHeader.isSome)

def buildPayload (frameFormat : FrameFormat) (arbitrationId : UInt32)
    (xlHeader : Option XlHeader) (data : Octets) : Octets :=
  writePrefix frameFormat arbitrationId xlHeader ++ data

def encodeFrameRequest (byteBusId : UInt16) (frameFormat : FrameFormat)
    (arbitrationId : UInt32) (xlHeader : Option XlHeader) (txData : Octets)
    (transactionNum : UInt8) : Octets :=
  if encodePreconditionsOk frameFormat arbitrationId xlHeader
      txData.length then
    encodeAcfAbb
      { byteBusId := byteBusId
        op := true
        transactionNum := transactionNum }
      (buildPayload frameFormat arbitrationId xlHeader txData)
  else []

def frameResponseInfo (byteBusId : UInt16) (transactionNum : UInt8) :
    AcfMessageInfo :=
  { byteBusId := byteBusId
    op := false
    rsp := true
    transactionNum := transactionNum }

def encodeFrameResponse (byteBusId : UInt16) (frameFormat : FrameFormat)
    (arbitrationId : UInt32) (xlHeader : Option XlHeader) (rxData : Octets)
    (transactionNum : UInt8) (timed : Bool) (timestamp : UInt64) : Octets :=
  if encodePreconditionsOk frameFormat arbitrationId xlHeader
      rxData.length then
    (responseMessage (frameResponseInfo byteBusId transactionNum) timed
      timestamp
      (buildPayload frameFormat arbitrationId xlHeader rxData)).encode
  else []

end Can

/-! ## MDIO -/

namespace Mdio

inductive MdioClause
  | clause22 | clause45
  deriving DecidableEq, Repr

structure MdioAddr where
  clause : MdioClause := .clause22
  prtad : UInt8 := 0
  devad : UInt8 := 0
  regad : UInt16 := 0
  deriving DecidableEq, Repr

def prtadMax : Nat := 0x1F
def devadMax : Nat := 0x1F
def clause22RegadMax : Nat := 0x1F

def addrValid (addr : MdioAddr) : Bool :=
  decide (addr.prtad.toNat ≤ prtadMax) &&
    match addr.clause with
    | .clause22 =>
        decide (addr.devad = 0) && decide (addr.regad.toNat ≤ clause22RegadMax)
    | .clause45 => decide (addr.devad.toNat ≤ devadMax)

structure MdioMmsAddr where
  mms : UInt8 := 0
  addr : UInt16 := 0
  deriving DecidableEq, Repr

def mmsMax : Nat := 0x0F

def mmsAddrValid (addr : MdioMmsAddr) : Bool :=
  decide (addr.mms.toNat ≤ mmsMax)

def mmsUses32bitWords (mms : UInt8) : Bool :=
  decide (mms = 0) || decide (mms = 1)

def mmsWordWidth (mms : UInt8) : Nat := if mmsUses32bitWords mms then 4 else 2

def MdioMode.toOctet : MdioMode → UInt8
  | .mmdSingleWord => 0
  | .mmdMultiWord => 1
  | .mmsSingleWord => 2
  | .mmsMultiWord => 3

def modeForWordCount (wordCount : Nat) : MdioMode :=
  if 1 < wordCount then .mmdMultiWord else .mmdSingleWord

def mmsModeForWordCount (wordCount : Nat) : MdioMode :=
  if 1 < wordCount then .mmsMultiWord else .mmsSingleWord

def maxBurstWords : Nat := 512

def putAddrPrefix (addr : MdioAddr) : Octets :=
  (match addr.clause with
    | .clause22 => 0
    | .clause45 => 1) :: addr.prtad :: addr.devad :: putBe 2 addr.regad.toNat

def putMmsAddrPrefix (addr : MdioMmsAddr) : Octets :=
  addr.mms :: putBe 2 addr.addr.toNat

def packWords (words : List UInt16) : Octets :=
  words.flatMap fun word => putBe 2 word.toNat

def mmsPackWords (mms : UInt8) (words : List UInt32) : Octets :=
  words.flatMap fun word => putBe (mmsWordWidth mms) word.toNat

def encodeReconfigRequest := encodeBoundedReconfig

def encodeReadRequest (byteBusId : UInt16) (addr : MdioAddr)
    (wordCount : Nat) (transactionNum : UInt8) : Octets :=
  if addrValid addr = false then []
  else if wordCount = 0 ∨ maxBurstWords < wordCount then []
  else
    encodeAcfAbb
      { byteBusId := byteBusId
        op := false
        transactionNum := transactionNum }
      ((modeForWordCount wordCount).toOctet :: putAddrPrefix addr ++
        putBe 2 wordCount)

def encodeReadResponse (byteBusId : UInt16) (words : List UInt16)
    (transactionNum : UInt8) (timed : Bool) (timestamp : UInt64) : Octets :=
  if maxBurstWords < words.length then []
  else
    (responseMessage
      { byteBusId := byteBusId
        op := false
        rsp := true
        transactionNum := transactionNum } timed timestamp
      (packWords words)).encode

def encodeWriteRequest (byteBusId : UInt16) (addr : MdioAddr)
    (words : List UInt16) (transactionNum : UInt8) : Octets :=
  if addrValid addr = false then []
  else if words.length = 0 ∨ maxBurstWords < words.length then []
  else
    encodeAcfAbb
      { byteBusId := byteBusId
        op := true
        transactionNum := transactionNum }
      ((modeForWordCount words.length).toOctet :: putAddrPrefix addr ++
        packWords words)

def encodeWriteResponse (byteBusId : UInt16) (acceptedWords : List UInt16)
    (transactionNum : UInt8) (timed : Bool) (timestamp : UInt64) : Octets :=
  if maxBurstWords < acceptedWords.length then []
  else
    (responseMessage
      { byteBusId := byteBusId
        op := true
        rsp := true
        transactionNum := transactionNum } timed timestamp
      (packWords acceptedWords)).encode

def encodeMmsReadRequest (byteBusId : UInt16) (addr : MdioMmsAddr)
    (wordCount : Nat) (transactionNum : UInt8) : Octets :=
  if mmsAddrValid addr = false then []
  else if wordCount = 0 ∨ maxBurstWords < wordCount then []
  else
    encodeAcfAbb
      { byteBusId := byteBusId
        op := false
        transactionNum := transactionNum }
      ((mmsModeForWordCount wordCount).toOctet :: putMmsAddrPrefix addr ++
        putBe 2 wordCount)

def encodeMmsReadResponse (byteBusId : UInt16) (mms : UInt8)
    (words : List UInt32) (transactionNum : UInt8) (timed : Bool)
    (timestamp : UInt64) : Octets :=
  if maxBurstWords < words.length then []
  else
    (responseMessage
      { byteBusId := byteBusId
        op := false
        rsp := true
        transactionNum := transactionNum } timed timestamp
      (mmsPackWords mms words)).encode

def encodeMmsWriteRequest (byteBusId : UInt16) (addr : MdioMmsAddr)
    (words : List UInt32) (transactionNum : UInt8) : Octets :=
  if mmsAddrValid addr = false then []
  else if words.length = 0 ∨ maxBurstWords < words.length then []
  else
    encodeAcfAbb
      { byteBusId := byteBusId
        op := true
        transactionNum := transactionNum }
      ((mmsModeForWordCount words.length).toOctet :: putMmsAddrPrefix addr ++
        mmsPackWords addr.mms words)

def encodeMmsWriteResponse (byteBusId : UInt16) (mms : UInt8)
    (acceptedWords : List UInt32) (transactionNum : UInt8) (timed : Bool)
    (timestamp : UInt64) : Octets :=
  if maxBurstWords < acceptedWords.length then []
  else
    (responseMessage
      { byteBusId := byteBusId
        op := true
        rsp := true
        transactionNum := transactionNum } timed timestamp
      (mmsPackWords mms acceptedWords)).encode

theorem length_packWords (words : List UInt16) :
    (packWords words).length = 2 * words.length := by
  simp [packWords, List.length_flatMap, Nat.mul_comm]

theorem length_mmsPackWords (mms : UInt8) (words : List UInt32) :
    (mmsPackWords mms words).length = mmsWordWidth mms * words.length := by
  simp [mmsPackWords, List.length_flatMap, Nat.mul_comm]

end Mdio

end CppRcp
