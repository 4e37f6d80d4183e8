import CppRcp.Wire.Protection
import CppRcp.Wire.Request

/-!
# Padded write requests

A message is sent in whole quadlets: pad octets follow the payload, and the
header says how many.  A write request is sent as one plain message, as one
protected message, or as segments of which each is padded and the last one
carries the checksum.
-/

namespace CppRcp.Acf

open CppRcp.Foundation

def padLen (unpaddedLen : Nat) : UInt8 :=
  UInt8.ofNat ((4 - unpaddedLen % 4) % 4)

@[simp] theorem toNat_padLen (unpaddedLen : Nat) :
    (padLen unpaddedLen).toNat = (4 - unpaddedLen % 4) % 4 := by
  unfold padLen
  rw [UInt8.toNat_ofNat']
  omega

theorem headerLen_aligned (acfMsgType : UInt8) :
    headerLen acfMsgType % 4 = 0 := by
  unfold headerLen
  split <;> rfl

/-- A payload, or a part of one, with the octets that pad it. -/
structure PaddedPayload where
  data : Octets
  padding : Octets
  fills : padding.length = (padLen data.length).toNat
  deriving DecidableEq, Repr

namespace PaddedPayload

variable (payload : PaddedPayload)

/-- The octets that are sent. -/
def octets : Octets := payload.data ++ payload.padding

def pad : UInt8 := padLen payload.data.length

theorem toNat_pad : payload.pad.toNat = payload.padding.length :=
  payload.fills.symm

theorem pad_lt : payload.pad.toNat < 4 := by
  unfold pad
  rw [toNat_padLen]
  omega

theorem length_octets :
    payload.octets.length = payload.data.length + payload.pad.toNat := by
  rw [octets, List.length_append, toNat_pad]

theorem octets_aligned : payload.octets.length % 4 = 0 := by
  rw [length_octets, pad, toNat_padLen]
  omega

theorem take_octets :
    payload.octets.take (payload.octets.length - payload.pad.toNat) =
      payload.data := by
  rw [length_octets, Nat.add_sub_cancel, octets, List.take_left]

theorem computeAcfMsgLength_octets (acfMsgType : UInt8) :
    computeAcfMsgLength acfMsgType payload.octets.length =
      computeAcfMsgLength acfMsgType payload.data.length := by
  have hHeader := headerLen_aligned acfMsgType
  unfold computeAcfMsgLength
  rw [length_octets, pad, toNat_padLen]
  congr 1
  omega

end PaddedPayload

def maxPayloadOf (acfMsgType : UInt8) : Nat :=
  if acfMsgType = acfMsgTypeGbb then acfGbbMaxPayload else acfAbbMaxPayload

theorem headerLen_add_maxPayloadOf (acfMsgType : UInt8) :
    headerLen acfMsgType + maxPayloadOf acfMsgType = acfMaxQuadlets * 4 := by
  unfold headerLen maxPayloadOf
  split <;> rfl

end CppRcp.Acf

namespace CppRcp.E2e

open CppRcp.Foundation CppRcp.Acf CppRcp.Request

/-- A standard write request, without its payload: the fields of its header
fit their widths, and it is neither conditional nor a fragment. -/
structure WriteRequest where
  info : AcfMessageInfo
  messageTimestamp : UInt64
  type : info.acfMsgType = acfMsgTypeAbb ∧ info.mtv = false ∨
    info.acfMsgType = acfMsgTypeGbb ∧ (info.mtv = false →
      requestTypeOf (octetAt (putBe 8 messageTimestamp.toNat) 0) = none)
  fits : info.truncated = info
  write : info.op = true
  request : info.rsp = false
  whole : info.ms = false

namespace WriteRequest

variable (request : WriteRequest)

/-- The request as one plain message. -/
def message (pad : UInt8) (octets : Octets) : Octets :=
  encodeAcf { request.info with pad := pad, acfMsgLength := 0 }
    request.messageTimestamp.toNat octets

def plain (payload : PaddedPayload) : Octets :=
  request.message payload.pad payload.octets

def wrapped (streamId : StreamId) (payload : PaddedPayload) : Octets :=
  (Framing.framed true 0x00 false streamId none).wrap
    { request.info with pad := payload.pad, acfMsgLength := 0 }
    (some request.messageTimestamp) payload.octets

def segment (part : PaddedPayload) (number : Nat) : Octets :=
  encodeAcf
    { request.info with
      ms := true
      readSizeOrSegmentNum := UInt16.ofNat number
      pad := part.pad
      acfMsgLength := 0 }
    request.messageTimestamp.toNat part.octets

def lastHeader (part : PaddedPayload) : AcfMessageInfo :=
  { request.info with
    pad := part.pad
    acfMsgLength :=
      computeAcfMsgLength request.info.acfMsgType part.data.length +
        crcLengthAdjustQuadlets }

def lastSegment (part : PaddedPayload) (crc : UInt32) : Octets :=
  headerOctets (request.lastHeader part) request.messageTimestamp.toNat ++
    part.data ++ putBe 4 crc.toNat ++ part.padding

def segments (parts : List PaddedPayload) : List Octets :=
  parts.zipIdx.map fun part => request.segment part.1 part.2

/-- The payload a list of segments and a last one carry together. -/
def joined (parts : List PaddedPayload) (last : PaddedPayload) : Octets :=
  (parts.map PaddedPayload.data).flatten ++ last.data

/-- The checksum covers the header of the first segment and the whole
payload. -/
def joinedCrc (streamId : StreamId) (parts : List PaddedPayload)
    (last : PaddedPayload) : UInt32 :=
  computeFragmentedCrc streamId
    (((request.segments parts).headD []).take
      (headerLen request.info.acfMsgType))
    (joined parts last)

/-- The request in segments. -/
def fragments (streamId : StreamId) (parts : List PaddedPayload)
    (last : PaddedPayload) : List Octets :=
  request.segments parts ++
    [request.lastSegment last (request.joinedCrc streamId parts last)]

end WriteRequest

end CppRcp.E2e
