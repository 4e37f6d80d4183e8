import CppRcp.Wire.Checksum
import CppRcp.Wire.Header

/-!
# Wrapping and unwrapping protected messages

`wrap` and `unwrap` of `e2e.hpp` for every framing: a protected message is the
header, the payload without its pad octets, the checksum and the pad octets.
The server's `unwrapFramed` is `unwrap` under its own NTSCF framing.
-/

namespace CppRcp.Acf

open CppRcp.Foundation

/-- The length field an encoder fills in when it is left at zero. -/
def AcfMessageInfo.autoFilled (info : AcfMessageInfo) (payloadLen : Nat) :
    AcfMessageInfo :=
  if info.acfMsgLength = 0 then
    { info with
      acfMsgLength := computeAcfMsgLength info.acfMsgType payloadLen }
  else info

private theorem encodeAcfAbb_eq (info : AcfMessageInfo) (payload : Octets) :
    encodeAcfAbb info payload =
      encodeAcfMessageInfo
        (({ info with acfMsgType := acfMsgTypeAbb, mtv := false } :
          AcfMessageInfo).autoFilled payload.length) ++ payload := rfl

private theorem encodeAcfGbb_eq (info : AcfMessageInfo) (messageTimestamp : Nat)
    (payload : Octets) :
    encodeAcfGbb info messageTimestamp payload =
      encodeAcfMessageInfo
        (({ info with acfMsgType := acfMsgTypeGbb } :
          AcfMessageInfo).autoFilled payload.length) ++
        putBe 8 messageTimestamp ++ payload := rfl

/-- The encoder of a message's own type. -/
def encodeAcf (info : AcfMessageInfo) (messageTimestamp : Nat)
    (payload : Octets) : Octets :=
  if info.acfMsgType = acfMsgTypeGbb then
    encodeAcfGbb info messageTimestamp payload
  else encodeAcfAbb info payload

end CppRcp.Acf

namespace CppRcp.E2e

open CppRcp.Foundation CppRcp.Acf

def subtypeTscf : UInt8 := 0x05

/-- What the outer header contributes to the checksum. -/
structure Framing where
  avtpSubtype : UInt8
  headerOctet1 : UInt8
  tu : Bool
  streamId : StreamId
  avtpTimestamp : Option UInt32
  deriving DecidableEq, Repr

namespace Framing

/-- The forcing rule of the `_framed` functions: NTSCF has neither a `tu` bit
nor a timestamp. -/
def framed (isNtscfFramed : Bool) (headerOctet1 : UInt8) (tu : Bool)
    (streamId : StreamId) (avtpTimestamp : Option UInt32) : Framing where
  avtpSubtype := if isNtscfFramed then subtypeNtscf else subtypeTscf
  headerOctet1 := headerOctet1
  tu := if isNtscfFramed then false else tu
  streamId := streamId
  avtpTimestamp := if isNtscfFramed then none else avtpTimestamp

/-- The octets of `coverage_buffer` before the message header. -/
def crcPrefix (framing : Framing) : Octets :=
  [framing.avtpSubtype, framing.headerOctet1,
    if framing.tu then 0x01 else 0x00] ++
    putBe 8 framing.streamId.toNat ++
    putBe 4 (framing.avtpTimestamp.getD 0).toNat

def coverageBuffer (framing : Framing) (info : AcfMessageInfo)
    (messageTimestamp : Nat) (payload : Octets) : Octets :=
  framing.crcPrefix ++ headerOctets info messageTimestamp ++ payload

def computeCrc (framing : Framing) (info : AcfMessageInfo)
    (messageTimestamp : Nat) (payload : Octets) : UInt32 :=
  crc32 (framing.coverageBuffer info messageTimestamp payload)

/-- `wrap`: the checksum stands before the pad octets, and the header counts
one more quadlet. -/
def wrap (framing : Framing) (info : AcfMessageInfo)
    (messageTimestamp : Option UInt64) (payload : Octets) : Octets :=
  let padOctets := info.pad.toNat
  if payload.length < padOctets then []
  else
    let realLen := payload.length - padOctets
    let realPayload := payload.take realLen
    let timestamp := (messageTimestamp.getD 0).toNat
    let info := info.autoFilled realPayload.length
    let info :=
      { info with
        acfMsgLength := info.acfMsgLength + crcLengthAdjustQuadlets }
    let crc := framing.computeCrc info timestamp realPayload
    encodeAcf info timestamp realPayload ++ putBe 4 crc.toNat ++
      payload.drop realLen

/-- `unwrap`: the frame is returned whatever the checksum says, its header
encoded again with one quadlet less. -/
def unwrap (framing : Framing) (frame : Octets) : UnwrapResult :=
  if frame.length < acfCommonHeaderLen then ⟨some (.e2e .shortFrame), []⟩
  else
    let info := decodeAcfMessageInfo frame
    let headLen := headerLen info.acfMsgType
    let padOctets := info.pad.toNat
    if frame.length < headLen + crcLengthAdjustOctets + padOctets then
      ⟨some (.e2e .shortFrame), []⟩
    else
      let realLen := frame.length - crcLengthAdjustOctets - padOctets
      let messageTimestamp := getBe ((frame.drop acfCommonHeaderLen).take 8)
      let realPayload := (frame.take realLen).drop headLen
      let restamped :=
        { info with
          acfMsgLength := info.acfMsgLength - crcLengthAdjustQuadlets }
      ⟨if trailerAt frame realLen =
            framing.computeCrc info messageTimestamp realPayload then none
        else some (.e2e .crcError),
        headerOctets restamped messageTimestamp ++ realPayload ++
          frame.drop (realLen + crcLengthAdjustOctets)⟩

end Framing

theorem unwrapFramed_eq (streamId : StreamId) (frame : Octets) :
    unwrapFramed streamId frame =
      (Framing.framed true 0x00 false streamId none).unwrap frame := rfl

/-! ## The parts of a protected message -/

theorem length_headerOctets (info : AcfMessageInfo) (messageTimestamp : Nat) :
    (headerOctets info messageTimestamp).length =
      headerLen info.acfMsgType := by
  unfold headerOctets headerLen
  split <;> simp [acfGbbMessageInfoLen, acfCommonHeaderLen]

theorem decode_headerOctets (info : AcfMessageInfo) (messageTimestamp : Nat)
    (rest : Octets) :
    decodeAcfMessageInfo (headerOctets info messageTimestamp ++ rest) =
      info.truncated := by
  unfold headerOctets
  split
  · rw [List.append_assoc, decode_encodeAcfMessageInfo]
  · rw [decode_encodeAcfMessageInfo]

@[simp] theorem acfMsgType_autoFilled (info : AcfMessageInfo)
    (payloadLen : Nat) :
    (info.autoFilled payloadLen).acfMsgType = info.acfMsgType := by
  unfold AcfMessageInfo.autoFilled
  split <;> rfl

/-- The header `encodeAcf` writes: type and `mtv` as the encoder sets them,
the length filled in. -/
def emittedInfo (info : AcfMessageInfo) (payloadLen : Nat) : AcfMessageInfo :=
  if info.acfMsgType = acfMsgTypeGbb then info.autoFilled payloadLen
  else ({ info with acfMsgType := acfMsgTypeAbb, mtv := false } :
    AcfMessageInfo).autoFilled payloadLen

theorem encodeAcf_eq (info : AcfMessageInfo) (messageTimestamp : Nat)
    (payload : Octets) :
    encodeAcf info messageTimestamp payload =
      headerOctets (emittedInfo info payload.length) messageTimestamp ++
        payload := by
  unfold encodeAcf emittedInfo headerOctets
  by_cases h : info.acfMsgType = acfMsgTypeGbb
  · have hSame : ({ info with acfMsgType := acfMsgTypeGbb } :
        AcfMessageInfo) = info := by
      rw [← h]
    simp only [h, if_pos, encodeAcfGbb_eq, hSame, acfMsgType_autoFilled]
  · have hAbb : ¬ acfMsgTypeAbb = acfMsgTypeGbb := by decide
    simp only [if_neg h, encodeAcfAbb_eq, acfMsgType_autoFilled, if_neg hAbb]

private theorem getBe_trailer (crc : UInt32) : getBe (putBe 4 crc.toNat) =
    crc.toNat :=
  getBe_putBe_of_lt crc.toNat_lt

theorem trailerAt_append (body pad : Octets) (crc : UInt32) :
    trailerAt (body ++ putBe 4 crc.toNat ++ pad) body.length = crc := by
  unfold trailerAt
  rw [List.append_assoc, List.drop_left, List.take_left' (length_putBe ..),
    getBe_trailer, UInt32.ofNat_toNat]

end CppRcp.E2e
