import CppRcp.Foundation.Patch
import CppRcp.Wire.Frames

/-!
# Frames over Ethernet

`l2.hpp` puts an AVTPDU directly behind the two addresses and the EtherType of
an Ethernet frame.  Three decoders read one: into a single message, into all
its messages, or only as far as the ACF octets, for a server that splits them
itself.
-/

namespace CppRcp.L2

open CppRcp.Foundation CppRcp.Acf CppRcp.Avtp CppRcp.E2e CppRcp.Transport

def kMacLen : Nat := 6

def kEtherType : UInt16 := 0x22F0

def kEthHeaderLen : Nat := 2 * kMacLen + 2

structure MacAddress where
  octets : Octets
  length_octets : octets.length = kMacLen
  deriving DecidableEq, Repr

inductive L2Errc
  | badEthertype
  deriving DecidableEq, Repr

/-- An `error_code` of this header's own category, or of another one. -/
inductive L2Error
  | l2 (e : L2Errc)
  | rcp (e : ErrorCode)
  deriving DecidableEq, Repr

/-! ## The Ethernet header -/

structure EthHeader where
  dst : MacAddress
  src : MacAddress
  ethertype : UInt16
  deriving DecidableEq, Repr

def encodeEthHeader (dst src : MacAddress) : Octets :=
  dst.octets ++ (src.octets ++ putBe 2 kEtherType.toNat)

def macAt (octets : Octets) (start : Nat)
    (h : start + kMacLen ≤ octets.length) : MacAddress :=
  ⟨slice octets start kMacLen, length_slice h⟩

private theorem src_fits {octets : Octets}
    (h : ¬ octets.length < kEthHeaderLen) :
    kMacLen + kMacLen ≤ octets.length := by
  unfold kEthHeaderLen at h
  omega

private theorem dst_fits {octets : Octets}
    (h : ¬ octets.length < kEthHeaderLen) :
    0 + kMacLen ≤ octets.length :=
  (Nat.add_le_add_right (Nat.zero_le _) _).trans (src_fits h)

def decodeEthHeader (octets : Octets) : Except ErrorCode EthHeader :=
  if h : octets.length < kEthHeaderLen then .error (.avtp .shortBuffer)
  else
    .ok
      { dst := macAt octets 0 (dst_fits h)
        src := macAt octets kMacLen (src_fits h)
        ethertype := UInt16.ofNat (getBe (slice octets (2 * kMacLen) 2)) }

/-! ## The decoders -/

structure AvtpFrameHeader extends Envelope where
  acfOffset : Nat := 0
  deriving DecidableEq, Repr

def decodeAvtpFrameHeader (octets : Octets) :
    Except ErrorCode AvtpFrameHeader :=
  if octets.length < 1 then .error (.avtp .shortBuffer)
  else if octetAt octets 0 = Avtp.subtypeTscf then
    match decodeTscfHeader octets with
    | .error e => .error e
    | .ok header =>
        if header.controlDataLength.toNat ≠ octets.length - tscfHeaderLen then
          .error (.avtp .lengthMismatch)
        else
          .ok
            { useTscf := true
              streamId := header.streamId
              sequenceNum := UInt16.ofNat header.sequenceNum.toNat
              timestampValid := header.timestampValid
              avtpTimestamp := header.avtpTimestamp
              acfOffset := tscfHeaderLen }
  else
    match decodeNtscfHeader octets with
    | .error e => .error e
    | .ok header =>
        if header.controlDataLength.toNat ≠ octets.length - ntscfHeaderLen then
          .error (.avtp .lengthMismatch)
        else
          .ok
            { streamId := header.streamId
              sequenceNum := UInt16.ofNat header.sequenceNum.toNat
              acfOffset := ntscfHeaderLen }

/-- What the three decoders do with the Ethernet header before they hand what
follows it to the decoder of an AVTPDU. -/
def decodeL2 {α : Type} (decodeAvtpdu : Octets → Except ErrorCode α)
    (octets : Octets) : Except L2Error (EthHeader × α) :=
  match decodeEthHeader octets with
  | .error e => .error (.rcp e)
  | .ok header =>
      if header.ethertype ≠ kEtherType then .error (.l2 .badEthertype)
      else
        match decodeAvtpdu (octets.drop kEthHeaderLen) with
        | .error e => .error (.rcp e)
        | .ok decoded => .ok (header, decoded)

def encodeL2Frame (dst src : MacAddress) (frame : Frame) : Octets :=
  encodeEthHeader dst src ++ encodeFrame frame

def decodeL2Frame : Octets → Except L2Error (EthHeader × Frame) :=
  decodeL2 decodeFrame

def encodeL2MultiFrame (dst src : MacAddress) (frame : MultiFrame) : Octets :=
  encodeEthHeader dst src ++ encodeMultiFrame frame

def decodeL2MultiFrame : Octets → Except L2Error (EthHeader × MultiFrame) :=
  decodeL2 decodeMultiFrame

def decodeL2FrameHeader :
    Octets → Except L2Error (EthHeader × AvtpFrameHeader) :=
  decodeL2 decodeAvtpFrameHeader

/-- The ACF octets that `Server::serve` hands over with the header of the
frame: what stands behind the offset, to the end of the buffer. -/
def acfRegion (octets : Octets) (header : AvtpFrameHeader) : Octets :=
  octets.drop (kEthHeaderLen + header.acfOffset)

/-- What a turn of `Server::serve` hands to the frame handler: the sender, the
stream, the sequence number and the ACF octets.  Copies of its own frames and
what is not decoded are passed over. -/
def frameHandlerInput (outgoing : Bool) (octets : Octets) :
    Option (MacAddress × StreamId × UInt16 × Octets) :=
  if octets.length = 0 then none
  else if outgoing then none
  else
    match decodeL2FrameHeader octets with
    | .error _ => none
    | .ok (ethHeader, header) =>
        some (ethHeader.src, header.streamId, header.sequenceNum,
          acfRegion octets header)

/-! ## Headers -/

@[simp] theorem length_encodeEthHeader (dst src : MacAddress) :
    (encodeEthHeader dst src).length = kEthHeaderLen := by
  simp [encodeEthHeader, dst.length_octets, src.length_octets, kEthHeaderLen,
    kMacLen]

/-- The header that is read behind two addresses. -/
def ethHeader (dst src : MacAddress) : EthHeader := ⟨dst, src, kEtherType⟩

private theorem decode_encodeEthHeader (dst src : MacAddress) (rest : Octets) :
    decodeEthHeader (encodeEthHeader dst src ++ rest) =
      .ok (ethHeader dst src) := by
  have hDst := dst.length_octets
  have hSrc := src.length_octets
  have hDstRead : slice (encodeEthHeader dst src ++ rest) 0 kMacLen =
      dst.octets := by
    rw [slice, encodeEthHeader, List.drop_zero, List.append_assoc,
      List.take_left' hDst]
  have hSrcRead : slice (encodeEthHeader dst src ++ rest) kMacLen kMacLen =
      src.octets := by
    rw [slice, encodeEthHeader, List.append_assoc, List.drop_left' hDst,
      List.append_assoc, List.take_left' hSrc]
  have hTypeRead : slice (encodeEthHeader dst src ++ rest) (2 * kMacLen) 2 =
      putBe 2 kEtherType.toNat := by
    rw [slice, encodeEthHeader, ← List.append_assoc, List.append_assoc,
      List.drop_left' (by simp [hDst, hSrc]; omega),
      List.take_left' (length_putBe 2 _)]
  unfold decodeEthHeader
  rw [dif_neg (by simp)]
  simp only [macAt, hDstRead, hSrcRead, hTypeRead]
  rfl

theorem decodeL2_encodeEthHeader {α : Type}
    (decodeAvtpdu : Octets → Except ErrorCode α) (dst src : MacAddress)
    (avtpdu : Octets) :
    decodeL2 decodeAvtpdu (encodeEthHeader dst src ++ avtpdu) =
      match decodeAvtpdu avtpdu with
      | .error e => .error (.rcp e)
      | .ok decoded => .ok (ethHeader dst src, decoded) := by
  unfold decodeL2
  rw [decode_encodeEthHeader, List.drop_left' (length_encodeEthHeader dst src)]
  exact if_neg (not_not.mpr rfl)

theorem decodeEnvelope_eq (octets : Octets) :
    decodeEnvelope octets =
      (decodeAvtpFrameHeader octets).map fun header =>
        (header.toEnvelope, octets.drop header.acfOffset) := by
  unfold decodeEnvelope decodeAvtpFrameHeader
  simp only [List.length_drop]
  split
  · rfl
  · split
    · cases decodeTscfHeader octets with
      | error e => rfl
      | ok header => simp only; split <;> rfl
    · cases decodeNtscfHeader octets with
      | error e => rfl
      | ok header => simp only; split <;> rfl

end CppRcp.L2
