import CppRcp.Wire.Acf

/-!
# End-to-end protection

The CRC-32 of `e2e.hpp`, the octets it covers, and `unwrap`, which checks and
removes the trailer of a protected message.  The server receives every
protected message under an NTSCF header, so its coverage prefix is fixed but
for the stream id.
-/

namespace CppRcp.E2e

open CppRcp.Foundation CppRcp.Acf

/-- `StreamId::to_u64`, by which streams are told apart. -/
abbrev StreamId := UInt64

/-! ## The checksum -/

def reflect32 (value : UInt32) : UInt32 :=
  ((List.range 32).foldl
    (fun (acc : UInt32 × UInt32) _ =>
      ((acc.1 <<< 1) ||| (acc.2 &&& 1), acc.2 >>> 1)) (0, value)).1

def crc32PolyNormal : UInt32 := 0xF4ACFB13

def crc32ReflectedPoly : UInt32 := 0xC8DF352F

example : reflect32 crc32PolyNormal = crc32ReflectedPoly := by
  decide

def crc32Shift (crc : UInt32) : UInt32 :=
  if crc &&& 1 ≠ 0 then (crc >>> 1) ^^^ crc32ReflectedPoly else crc >>> 1

def crc32Update (crc : UInt32) (octet : UInt8) : UInt32 :=
  let crc := crc ^^^ octet.toUInt32
  crc32Shift (crc32Shift (crc32Shift (crc32Shift
    (crc32Shift (crc32Shift (crc32Shift (crc32Shift crc)))))))

def crc32 (data : Octets) : UInt32 :=
  data.foldl crc32Update 0xFFFFFFFF ^^^ 0xFFFFFFFF

def crcLengthAdjustOctets : Nat := 4
def crcLengthAdjustQuadlets : UInt16 := 1

def subtypeNtscf : UInt8 := 0x82

/-- The octets every checksum starts with under NTSCF framing: the subtype,
the second header octet, the `tu` octet, the stream id and no timestamp. -/
def coveragePrefix (streamId : StreamId) : Octets :=
  [subtypeNtscf, 0x00, 0x00] ++ putBe 8 streamId.toNat ++ putBe 4 0

/-- The header octets `coverage_buffer` encodes for a message. -/
def headerOctets (info : AcfMessageInfo) (messageTimestamp : Nat) : Octets :=
  if info.acfMsgType = acfMsgTypeGbb then
    encodeAcfMessageInfo info ++ putBe 8 messageTimestamp
  else encodeAcfMessageInfo info

def computeCrc (streamId : StreamId) (info : AcfMessageInfo)
    (messageTimestamp : Nat) (payload : Octets) : UInt32 :=
  crc32 (coveragePrefix streamId ++ headerOctets info messageTimestamp ++
    payload)

/-- The checksum of a reassembled message covers the header of its first
fragment. -/
def computeFragmentedCrc (streamId : StreamId)
    (firstFragmentHeader reassembledPayload : Octets) : UInt32 :=
  crc32 (coveragePrefix streamId ++ firstFragmentHeader ++ reassembledPayload)

/-! ## Unwrapping -/

structure UnwrapResult where
  ec : Option ErrorCode
  acfFrame : Octets
  deriving DecidableEq, Repr

def trailerAt (frame : Octets) (offset : Nat) : UInt32 :=
  UInt32.ofNat (getBe ((frame.drop offset).take 4))

/-- `unwrap_framed` as the server calls it. -/
def unwrapFramed (streamId : StreamId) (frame : Octets) : UnwrapResult :=
  if frame.length < acfCommonHeaderLen then ⟨some (.e2e .shortFrame), []⟩
  else
    let info := decodeAcfMessageInfo frame
    let headLen := headerLen info.acfMsgType
    let padOctets := info.pad.toNat
    if frame.length < headLen + crcLengthAdjustOctets + padOctets then
      ⟨some (.e2e .shortFrame), []⟩
    else
      let realLen := frame.length - crcLengthAdjustOctets - padOctets
      let messageTimestamp := getBe ((frame.drop acfCommonHeaderLen).take 8)
      let realPayload := (frame.take realLen).drop headLen
      let restamped :=
        { info with
          acfMsgLength := info.acfMsgLength - crcLengthAdjustQuadlets }
      ⟨if trailerAt frame realLen =
            computeCrc streamId info messageTimestamp realPayload then none
        else some (.e2e .crcError),
        headerOctets restamped messageTimestamp ++ realPayload ++
          frame.drop (realLen + crcLengthAdjustOctets)⟩

end CppRcp.E2e
