import CppRcp.Wire.E2e
import CppRcp.Wire.Header

/-!
# AVTPDU headers

The NTSCF and the TSCF header of `avtp.hpp`.  Both count the octets that
follow them: NTSCF in eleven bits, TSCF in sixteen.  Encoding cuts the count
to that width.
-/

namespace CppRcp.Avtp

open CppRcp.Foundation CppRcp.Acf CppRcp.E2e

def subtypeTscf : UInt8 := 0x05

def ntscfHeaderLen : Nat := 12
def tscfHeaderLen : Nat := 24

structure NtscfHeader where
  sv : Bool := true
  version : UInt8 := 0
  streamId : StreamId := 0
  sequenceNum : UInt8 := 0
  controlDataLength : UInt16 := 0
  deriving DecidableEq, Repr

/-- The reserved fields are read only: the encoder writes zeros. -/
structure TscfHeader where
  sv : Bool := true
  version : UInt8 := 0
  mr : Bool := false
  streamId : StreamId := 0
  sequenceNum : UInt8 := 0
  controlDataLength : UInt16 := 0
  timestampValid : Bool := false
  avtpTimestamp : UInt32 := 0
  tu : Bool := false
  reserved0 : UInt32 := 0
  reserved1 : UInt16 := 0
  deriving DecidableEq, Repr

def encodeNtscfHeader (header : NtscfHeader) : Octets :=
  let dataLen := header.controlDataLength.toNat % 2048
  [subtypeNtscf,
    UInt8.ofNat (weight header.sv 128 + header.version.toNat % 8 * 16 +
      dataLen / 256),
    UInt8.ofNat (dataLen % 256),
    header.sequenceNum] ++
  putBe 8 header.streamId.toNat

def decodeNtscfHeader (octets : Octets) : Except ErrorCode NtscfHeader :=
  let octet := fun index => octetAt octets index
  if octets.length < 1 then .error (.avtp .shortBuffer)
  else if octet 0 ≠ subtypeNtscf then .error (.avtp .badSubtype)
  else if octets.length < ntscfHeaderLen then .error (.avtp .shortBuffer)
  else
    .ok
      { sv := flag (octet 1) 7
        version := UInt8.ofNat ((octet 1).toNat / 16 % 8)
        controlDataLength :=
          UInt16.ofNat ((octet 1).toNat % 8 * 256 + (octet 2).toNat)
        sequenceNum := octet 3
        streamId := UInt64.ofNat (getBe ((octets.drop 4).take 8)) }

def encodeTscfHeader (header : TscfHeader) : Octets :=
  [subtypeTscf,
    UInt8.ofNat (weight header.sv 128 + header.version.toNat % 8 * 16 +
      weight header.mr 8 + weight header.timestampValid 1),
    header.sequenceNum,
    UInt8.ofNat (weight header.tu 1)] ++
  (putBe 8 header.streamId.toNat ++ (putBe 4 header.avtpTimestamp.toNat ++
    (putBe 4 0 ++ (putBe 2 header.controlDataLength.toNat ++ putBe 2 0))))

def decodeTscfHeader (octets : Octets) : Except ErrorCode TscfHeader :=
  let octet := fun index => octetAt octets index
  if octets.length < 1 then .error (.avtp .shortBuffer)
  else if octet 0 ≠ subtypeTscf then .error (.avtp .badSubtype)
  else if octets.length < tscfHeaderLen then .error (.avtp .shortBuffer)
  else
    .ok
      { sv := flag (octet 1) 7
        version := UInt8.ofNat ((octet 1).toNat / 16 % 8)
        mr := flag (octet 1) 3
        timestampValid := flag (octet 1) 0
        sequenceNum := octet 2
        tu := flag (octet 3) 0
        streamId := UInt64.ofNat (getBe ((octets.drop 4).take 8))
        avtpTimestamp := UInt32.ofNat (getBe ((octets.drop 12).take 4))
        reserved0 := UInt32.ofNat (getBe ((octets.drop 16).take 4))
        controlDataLength := UInt16.ofNat (getBe ((octets.drop 20).take 2))
        reserved1 := UInt16.ofNat (getBe ((octets.drop 22).take 2)) }

/-! ## Lengths -/

@[simp] theorem length_encodeNtscfHeader (header : NtscfHeader) :
    (encodeNtscfHeader header).length = ntscfHeaderLen := by
  simp [encodeNtscfHeader, ntscfHeaderLen]

@[simp] theorem length_encodeTscfHeader (header : TscfHeader) :
    (encodeTscfHeader header).length = tscfHeaderLen := by
  simp [encodeTscfHeader, tscfHeaderLen]

/-! ## Round trips -/

theorem decode_encodeNtscfHeader (header : NtscfHeader) (rest : Octets) :
    decodeNtscfHeader (encodeNtscfHeader header ++ rest) =
      .ok { header with
        version := UInt8.ofNat (header.version.toNat % 8)
        controlDataLength :=
          UInt16.ofNat (header.controlDataLength.toNat % 2048) } := by
  have hSv := header.sv.toNat_le
  have hStream := header.streamId.toNat_lt
  have hLength : (encodeNtscfHeader header ++ rest).length =
      ntscfHeaderLen + rest.length := by
    rw [List.length_append, length_encodeNtscfHeader]
  have hSubtype : octetAt (encodeNtscfHeader header ++ rest) 0 =
      subtypeNtscf := rfl
  have hId : ((encodeNtscfHeader header ++ rest).drop 4).take 8 =
      putBe 8 header.streamId.toNat := rfl
  have hFlags : octetAt (encodeNtscfHeader header ++ rest) 1 =
      UInt8.ofNat (header.sv.toNat * 128 + header.version.toNat % 8 * 16 +
        header.controlDataLength.toNat % 2048 / 256) := by
    rw [← weight_eq]
    rfl
  have hLow : octetAt (encodeNtscfHeader header ++ rest) 2 =
      UInt8.ofNat (header.controlDataLength.toNat % 2048 % 256) := rfl
  have hSequence : octetAt (encodeNtscfHeader header ++ rest) 3 =
      header.sequenceNum := rfl
  unfold decodeNtscfHeader
  simp only [hSubtype, hId, hFlags, hLow, hSequence]
  unfold ntscfHeaderLen at hLength ⊢
  rw [if_neg (by omega), if_neg (by simp), if_neg (by omega),
    getBe_putBe_of_lt (by omega), UInt64.ofNat_toNat,
    toNat_ofNat_of_lt (by omega), toNat_ofNat_of_lt (by omega)]
  congr 2
  case e_sv => exact flag_ofNat (by omega) (by omega)
  case e_version => congr 1; omega
  case e_controlDataLength => congr 1; omega

theorem decode_encodeTscfHeader (header : TscfHeader) (rest : Octets) :
    decodeTscfHeader (encodeTscfHeader header ++ rest) =
      .ok { header with
        version := UInt8.ofNat (header.version.toNat % 8)
        reserved0 := 0
        reserved1 := 0 } := by
  have hSv := header.sv.toNat_le
  have hMr := header.mr.toNat_le
  have hValid := header.timestampValid.toNat_le
  have hTu := header.tu.toNat_le
  have hStream := header.streamId.toNat_lt
  have hTimestamp := header.avtpTimestamp.toNat_lt
  have hCount := header.controlDataLength.toNat_lt
  have hLength : (encodeTscfHeader header ++ rest).length =
      tscfHeaderLen + rest.length := by
    rw [List.length_append, length_encodeTscfHeader]
  have hSubtype : octetAt (encodeTscfHeader header ++ rest) 0 =
      subtypeTscf := rfl
  have hFlags : octetAt (encodeTscfHeader header ++ rest) 1 =
      UInt8.ofNat (header.sv.toNat * 128 + header.version.toNat % 8 * 16 +
        header.mr.toNat * 8 + header.timestampValid.toNat * 1) := by
    rw [← weight_eq, ← weight_eq, ← weight_eq]
    rfl
  have hSequence : octetAt (encodeTscfHeader header ++ rest) 2 =
      header.sequenceNum := rfl
  have hUncertain : octetAt (encodeTscfHeader header ++ rest) 3 =
      UInt8.ofNat (header.tu.toNat * 1) := by
    rw [← weight_eq]
    rfl
  have hId : ((encodeTscfHeader header ++ rest).drop 4).take 8 =
      putBe 8 header.streamId.toNat := rfl
  have hStamp : ((encodeTscfHeader header ++ rest).drop 12).take 4 =
      putBe 4 header.avtpTimestamp.toNat := rfl
  have hReserved0 : ((encodeTscfHeader header ++ rest).drop 16).take 4 =
      putBe 4 0 := rfl
  have hData : ((encodeTscfHeader header ++ rest).drop 20).take 2 =
      putBe 2 header.controlDataLength.toNat := rfl
  have hReserved1 : ((encodeTscfHeader header ++ rest).drop 22).take 2 =
      putBe 2 0 := rfl
  unfold decodeTscfHeader
  simp only [hSubtype, hFlags, hSequence, hUncertain, hId, hStamp, hReserved0,
    hData, hReserved1]
  unfold tscfHeaderLen at hLength ⊢
  rw [if_neg (by omega), if_neg (by simp), if_neg (by omega),
    getBe_putBe_of_lt (by omega), getBe_putBe_of_lt (by omega),
    getBe_putBe_of_lt (by omega), UInt64.ofNat_toNat, UInt32.ofNat_toNat,
    UInt16.ofNat_toNat, toNat_ofNat_of_lt (by omega)]
  congr 2
  case e_sv => exact flag_ofNat (by omega) (by omega)
  case e_version => congr 1; omega
  case e_mr => exact flag_ofNat (by omega) (by omega)
  case e_timestampValid => exact flag_ofNat (by omega) (by omega)
  case e_tu => exact flag_ofNat (by omega) (by omega)

end CppRcp.Avtp
