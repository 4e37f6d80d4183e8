import CppRcp.Peripherals.FragmentMessages

/-!
# The decoders of the CAN and MDIO endpoints

A decoder opens an ACF message and checks in turn its type, the bus, the
direction, the `evt` field and the payload.  A CAN payload has the layout of a
reassembled frame.  The MDIO requests come in two families, MMD and MMS, which
the leading mode octet tells apart.
-/

namespace CppRcp

open CppRcp.Foundation CppRcp.Acf CppRcp.Endpoint

namespace Endpoint

/-- A request is an ABB message; the two errors are those of the endpoint
kind. -/
def receiveRequest (shortFrame badMsgType : ErrorCode) (octets : Octets) :
    Except ErrorCode (AcfMessageInfo × Octets) :=
  (decodeAcfAbb octets).mapError fun e =>
    if e = .avtp .shortBuffer then shortFrame else badMsgType

end Endpoint

/-! ## CAN -/

namespace Can

structure DecodedRequest where
  frame : ReceivedFrame
  transactionNum : UInt8
  deriving DecidableEq, Repr

def decodeFrameRequest (octets : Octets) (expectedBusId : UInt16) :
    Except ErrorCode DecodedRequest :=
  match receiveRequest (.can .shortFrame) (.can .badMsgType) octets with
  | .error e => .error e
  | .ok (info, payload) =>
      if info.byteBusId ≠ expectedBusId then .error (.can .wrongBus)
      else if info.op = false then .error (.can .wrongOp)
      else if evtRow2IsPlain info.evtOp = false then .error (.can .badEvt)
      else
        (decodeReassembledFrameResponse payload).map fun frame =>
          ⟨frame, info.transactionNum⟩

structure DecodedResponse where
  frame : ReceivedFrame
  timed : Bool
  timestamp : Nat
  transactionNum : UInt8
  deriving DecidableEq, Repr

/-- Unlike for a request, the direction is not checked. -/
def decodeFrameResponse (octets : Octets) (expectedBusId : UInt16) :
    Except ErrorCode DecodedResponse :=
  match receiveResponse (.can .shortFrame) (.can .badMsgType) octets with
  | .error e => .error e
  | .ok response =>
      if response.info.byteBusId ≠ expectedBusId then .error (.can .wrongBus)
      else if evtRow2IsPlain response.info.evtOp = false then
        .error (.can .badEvt)
      else
        (decodeReassembledFrameResponse response.payload).map fun frame =>
          ⟨frame, response.timed, response.timestamp,
            response.info.transactionNum⟩

end Can

/-! ## MDIO -/

namespace Mdio

def kModeOctetLen : Nat := 1
def kAddrPrefixLen : Nat := 5
def kReadRequestPayloadLen : Nat := kModeOctetLen + kAddrPrefixLen + 2
def kWriteRequestMinPayloadLen : Nat := kModeOctetLen + kAddrPrefixLen
def kMmsAddrPrefixLen : Nat := 3
def kMmsReadRequestPayloadLen : Nat := kModeOctetLen + kMmsAddrPrefixLen + 2
def kMmsWriteRequestMinPayloadLen : Nat := kModeOctetLen + kMmsAddrPrefixLen

def MdioMode.ofOctet (octet : UInt8) : MdioMode :=
  match octet.toNat % 4 with
  | 0 => .mmdSingleWord
  | 1 => .mmdMultiWord
  | 2 => .mmsSingleWord
  | _ => .mmsMultiWord

def modeIsUnsupportedMms (mode : MdioMode) : Bool :=
  mode = .mmsSingleWord || mode = .mmsMultiWord

/-- `none` where the clause octet is neither clause, which no address with
`addr_valid` has. -/
def getAddrPrefix (octets : Octets) : Option MdioAddr :=
  let addr := fun clause =>
    { clause := clause
      prtad := octetAt octets 1
      devad := octetAt octets 2
      regad := UInt16.ofNat (be16 (octets.drop 3)) : MdioAddr }
  match (octetAt octets 0).toNat with
  | 0 => some (addr .clause22)
  | 1 => some (addr .clause45)
  | _ => none

def getMmsAddrPrefix (octets : Octets) : MdioMmsAddr where
  mms := octetAt octets 0
  addr := UInt16.ofNat (be16 (octets.drop 1))

def wordCountOf (byteLen : Nat) : Option Nat :=
  if byteLen % 2 ≠ 0 then none else some (byteLen / 2)

def mmsWordCountOf (mms : UInt8) (byteLen : Nat) : Option Nat :=
  if byteLen % mmsWordWidth mms ≠ 0 then none
  else some (byteLen / mmsWordWidth mms)

def unpackWordAt (data : Octets) (wordIndex : Nat) : UInt16 :=
  UInt16.ofNat (getBe ((data.drop (2 * wordIndex)).take 2))

def mmsUnpackWordAt (mms : UInt8) (data : Octets) (wordIndex : Nat) : UInt32 :=
  UInt32.ofNat (getBe ((data.drop (mmsWordWidth mms * wordIndex)).take
    (mmsWordWidth mms)))

/-- The checks that the four decoders begin with; returns the transaction
number and the payload. -/
def openRequest (write : Bool) (minPayloadLen : Nat) (octets : Octets)
    (expectedBusId : UInt16) : Except ErrorCode (UInt8 × Octets) :=
  match receiveRequest (.mdio .shortFrame) (.mdio .badMsgType) octets with
  | .error e => .error e
  | .ok (info, payload) =>
      if info.byteBusId ≠ expectedBusId then .error (.mdio .wrongBus)
      else if info.op ≠ write then .error (.mdio .wrongOp)
      else if evtRow2IsPlain info.evtOp = false then .error (.mdio .badEvt)
      else if payload.length < minPayloadLen then .error (.mdio .shortFrame)
      else .ok (info.transactionNum, payload)

def openMmd (payload : Octets) : Except ErrorCode MdioAddr :=
  if modeIsUnsupportedMms (MdioMode.ofOctet (octetAt payload 0)) then
    .error (.mdio .unsupportedMms)
  else
    match getAddrPrefix (payload.drop kModeOctetLen) with
    | none => .error (.mdio .badAddr)
    | some addr =>
        if addrValid addr = false then .error (.mdio .badAddr) else .ok addr

def openMms (payload : Octets) : Except ErrorCode MdioMmsAddr :=
  if modeIsUnsupportedMms (MdioMode.ofOctet (octetAt payload 0)) = false then
    .error (.mdio .wrongMdioMode)
  else
    let addr := getMmsAddrPrefix (payload.drop kModeOctetLen)
    if mmsAddrValid addr = false then .error (.mdio .badMmsAddr) else .ok addr

def checkWordCount (wordCount : Nat) : Except ErrorCode Nat :=
  if wordCount = 0 ∨ maxBurstWords < wordCount then
    .error (.mdio .badWordCount)
  else .ok wordCount

structure DecodedRead (ρ : Type) where
  addr : ρ
  wordCount : Nat
  transactionNum : UInt8
  deriving DecidableEq, Repr

structure DecodedWrite (ρ : Type) where
  addr : ρ
  wordsData : Octets
  wordCount : Nat
  transactionNum : UInt8
  deriving DecidableEq, Repr

def decodeReadRequest (octets : Octets) (expectedBusId : UInt16) :
    Except ErrorCode (DecodedRead MdioAddr) := do
  let (transactionNum, payload) ←
    openRequest false kReadRequestPayloadLen octets expectedBusId
  let addr ← openMmd payload
  let wordCount ← checkWordCount
    (be16 (payload.drop (kModeOctetLen + kAddrPrefixLen)))
  return ⟨addr, wordCount, transactionNum⟩

def decodeWriteRequest (octets : Octets) (expectedBusId : UInt16) :
    Except ErrorCode (DecodedWrite MdioAddr) := do
  let (transactionNum, payload) ←
    openRequest true kWriteRequestMinPayloadLen octets expectedBusId
  let addr ← openMmd payload
  let wordsData := payload.drop kWriteRequestMinPayloadLen
  match wordCountOf wordsData.length with
  | none => throw (.mdio .badWordCount)
  | some count =>
      let wordCount ← checkWordCount count
      return ⟨addr, wordsData, wordCount, transactionNum⟩

def decodeMmsReadRequest (octets : Octets) (expectedBusId : UInt16) :
    Except ErrorCode (DecodedRead MdioMmsAddr) := do
  let (transactionNum, payload) ←
    openRequest false kMmsReadRequestPayloadLen octets expectedBusId
  let addr ← openMms payload
  let wordCount ← checkWordCount
    (be16 (payload.drop (kModeOctetLen + kMmsAddrPrefixLen)))
  return ⟨addr, wordCount, transactionNum⟩

def decodeMmsWriteRequest (octets : Octets) (expectedBusId : UInt16) :
    Except ErrorCode (DecodedWrite MdioMmsAddr) := do
  let (transactionNum, payload) ←
    openRequest true kMmsWriteRequestMinPayloadLen octets expectedBusId
  let addr ← openMms payload
  let wordsData := payload.drop kMmsWriteRequestMinPayloadLen
  match mmsWordCountOf addr.mms wordsData.length with
  | none => throw (.mdio .badWordCount)
  | some count =>
      let wordCount ← checkWordCount count
      return ⟨addr, wordsData, wordCount, transactionNum⟩

end Mdio

end CppRcp
