import CppRcp.Wire.AcfMessages
import CppRcp.Wire.Avtp
import CppRcp.Wire.Planning
import CppRcp.Wire.Reassembling

/-!
# Discovery responses

`discovery.hpp`: a response carries the leading registers of the general map,
in one frame or cut into fragments.  Every frame is an NTSCF header and one
ABB message, and both decoders peel them off in the same way.
-/

namespace CppRcp.Discovery

open CppRcp.Foundation CppRcp.Acf CppRcp.Avtp CppRcp.E2e CppRcp.Fragment

inductive DiscoveryErrc
  | shortFrame | tscfHeadedRequestDropped | badMsgType | wrongBus | wrongOp
  deriving DecidableEq, Repr

def kDiscoveryByteBusId : UInt16 := 0

def kDiscoveryGeneralSliceLen : Nat := 14

/-- The registers of `regmap::GeneralMap` that a device is recognised by. -/
structure GeneralMap where
  magic : UInt32 := 0x52435030
  svrVersion : UInt32 := 0
  vendorId : UInt16 := 0
  deviceId : UInt16 := 0
  svrEpCount : UInt16 := 0
  deriving DecidableEq, Repr

/-! ## Encoding -/

def generalSlice (map : GeneralMap) : Octets :=
  putBe 4 map.magic.toNat ++ putBe 4 map.svrVersion.toNat ++
    putBe 2 map.vendorId.toNat ++ putBe 2 map.deviceId.toNat ++
    putBe 2 map.svrEpCount.toNat

/-- Octets beyond the slice are zeros. -/
def buildGeneralSlicePayload (map : GeneralMap) (readSize : UInt8) : Octets :=
  let copyLen := min readSize.toNat kDiscoveryGeneralSliceLen
  (generalSlice map).take copyLen ++
    List.replicate (readSize.toNat - copyLen) 0

def makeDiscoveryResponse (readSize transactionNum : UInt8) :
    AcfMessageInfo where
  byteBusId := kDiscoveryByteBusId
  op := false
  rsp := true
  readSizeOrSegmentNum := readSize.toUInt16
  transactionNum

def encodeResponseFrame (serverStreamId : StreamId) (sequenceNum : UInt8)
    (info : AcfMessageInfo) (payload : Octets) : Octets :=
  let acfMsg := encodeAcfAbb info payload
  encodeNtscfHeader
    { streamId := serverStreamId
      sequenceNum
      controlDataLength := UInt16.ofNat acfMsg.length } ++ acfMsg

def encodeDiscoveryResponse (map : GeneralMap) (serverStreamId : StreamId)
    (sequenceNum transactionNum readSize : UInt8) : Octets :=
  encodeResponseFrame serverStreamId sequenceNum
    (makeDiscoveryResponse readSize transactionNum)
    (buildGeneralSlicePayload map readSize)

def discoveryResponseFragmentCount (readSize : UInt8)
    (maxFragmentPayload : Nat) : Nat :=
  planCount readSize.toNat maxFragmentPayload

/-- The last fragment carries the read size where the others carry their
number. -/
def fragmentInfo (readSize transactionNum : UInt8) (segment : Segment) :
    AcfMessageInfo where
  byteBusId := kDiscoveryByteBusId
  op := false
  rsp := true
  transactionNum
  ms := segment.ms
  readSizeOrSegmentNum :=
    if segment.ms then segment.segmentNum else readSize.toUInt16

def encodeDiscoveryResponseFragmented (map : GeneralMap)
    (serverStreamId : StreamId)
    (sequenceNum transactionNum readSize : UInt8)
    (maxFragmentPayload : Nat) : List Octets :=
  let count := discoveryResponseFragmentCount readSize maxFragmentPayload
  if count = 0 then []
  else
    match plan readSize.toNat maxFragmentPayload count with
    | .error _ => []
    | .ok segments =>
        let payload := buildGeneralSlicePayload map readSize
        segments.map fun segment =>
          encodeResponseFrame serverStreamId sequenceNum
            (fragmentInfo readSize transactionNum segment)
            (segment.slice payload)

/-! ## Decoding -/

def shouldDropDiscovery (avtpSubtype : UInt8) : Bool :=
  avtpSubtype != subtypeNtscf

def decodeCommonFrame (octets : Octets) :
    Except DiscoveryErrc (NtscfHeader × AcfMessageInfo × Octets) :=
  if octets.length < 1 then .error .shortFrame
  else if shouldDropDiscovery (octetAt octets 0) then
    .error .tscfHeadedRequestDropped
  else
    match decodeNtscfHeader octets with
    | .error e =>
        .error
          (if e = .avtp .shortBuffer then .shortFrame
            else .tscfHeadedRequestDropped)
    | .ok header =>
        if octets.length < ntscfHeaderLen then .error .shortFrame
        else
          match decodeAcfAbb (octets.drop ntscfHeaderLen) with
          | .error e =>
              .error
                (if e = .avtp .shortBuffer then .shortFrame else .badMsgType)
          | .ok (info, payload) =>
              if info.byteBusId ≠ kDiscoveryByteBusId then .error .wrongBus
              else if info.op then .error .wrongOp
              else .ok (header, info, payload)

structure DiscoveryResult where
  valid : Bool := false
  serverStreamId : StreamId := 0
  magic : UInt32 := 0
  svrVersion : UInt32 := 0
  vendorId : UInt16 := 0
  deviceId : UInt16 := 0
  svrEpCount : UInt16 := 0
  deriving DecidableEq, Repr

def decodeDiscoveryReassembledResponse (reassembled : Octets)
    (serverStreamId : StreamId) : Except DiscoveryErrc DiscoveryResult :=
  if reassembled.length < kDiscoveryGeneralSliceLen then .error .shortFrame
  else
    .ok
      { valid := true
        serverStreamId
        magic := UInt32.ofNat (getBe (reassembled.take 4))
        svrVersion := UInt32.ofNat (getBe ((reassembled.drop 4).take 4))
        vendorId := UInt16.ofNat (getBe ((reassembled.drop 8).take 2))
        deviceId := UInt16.ofNat (getBe ((reassembled.drop 10).take 2))
        svrEpCount := UInt16.ofNat (getBe ((reassembled.drop 12).take 2)) }

/-- The payload is read as that of a joined response is. -/
def decodeDiscoveryResponse (octets : Octets) :
    Except DiscoveryErrc DiscoveryResult :=
  match decodeCommonFrame octets with
  | .error e => .error e
  | .ok (header, _, payload) =>
      decodeDiscoveryReassembledResponse payload header.streamId

structure ResponseFragment where
  serverStreamId : StreamId
  ms : Bool
  segmentNum : UInt8
  payload : Octets
  deriving DecidableEq, Repr

def decodeDiscoveryResponseFragment (octets : Octets) :
    Except DiscoveryErrc ResponseFragment :=
  match decodeCommonFrame octets with
  | .error e => .error e
  | .ok (header, info, payload) =>
      .ok ⟨header.streamId, info.ms, info.readSizeOrSegmentNum.toUInt8, payload⟩

/-- What the reassembler is fed. -/
def ResponseFragment.fed (fragment : ResponseFragment) : Fed :=
  ⟨fragment.ms, fragment.segmentNum.toUInt16, fragment.payload⟩

end CppRcp.Discovery
