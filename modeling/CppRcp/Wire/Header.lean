import CppRcp.Wire.Acf

/-!
# What the ACF header codec keeps

Encoding a header cuts every field to its width on the wire, and decoding
reads those fields back.
-/

namespace CppRcp.Acf

open CppRcp.Foundation

def AcfMessageInfo.truncated (info : AcfMessageInfo) : AcfMessageInfo :=
  { info with
    acfMsgType := UInt8.ofNat (info.acfMsgType.toNat % 128)
    acfMsgLength := UInt16.ofNat (info.acfMsgLength.toNat % 512)
    pad := UInt8.ofNat (info.pad.toNat % 4)
    byteBusId := UInt16.ofNat (info.byteBusId.toNat % 2048)
    evtOp := UInt8.ofNat (info.evtOp.toNat % 8)
    readSizeOrSegmentNum :=
      UInt16.ofNat (info.readSizeOrSegmentNum.toNat % 4096) }

theorem weight_eq (on : Bool) (value : Nat) :
    weight on value = on.toNat * value := by
  cases on <;> simp [weight]

theorem toNat_ofNat_of_lt {value : Nat} (h : value < 256) :
    (UInt8.ofNat value).toNat = value := by
  rw [UInt8.toNat_ofNat', Nat.mod_eq_of_lt h]

theorem flag_ofNat {value bit : Nat} {on : Bool} (h : value < 256)
    (hBit : value / 2 ^ bit % 2 = on.toNat) :
    flag (UInt8.ofNat value) bit = on := by
  rw [flag, Nat.testBit_eq_decide_div_mod_eq, toNat_ofNat_of_lt h, hBit]
  cases on <;> rfl

theorem decode_encodeAcfMessageInfo (info : AcfMessageInfo) (rest : Octets) :
    decodeAcfMessageInfo (encodeAcfMessageInfo info ++ rest) =
      info.truncated := by
  have hMtv := info.mtv.toNat_le
  have hAck := info.evtAck.toNat_le
  have hHs := info.hs.toNat_le
  have hCs := info.cs.toNat_le
  have hOp := info.op.toNat_le
  have hRsp := info.rsp.toNat_le
  have hErr := info.err.toNat_le
  have hMs := info.ms.toNat_le
  simp only [decodeAcfMessageInfo, encodeAcfMessageInfo, List.cons_append,
    List.nil_append, octetAt, List.getD_cons_zero, List.getD_cons_succ,
    AcfMessageInfo.truncated, AcfMessageInfo.mk.injEq, weight_eq]
  refine ⟨?_, ?_, ?_, ?_, ?_, ?_, ?_, ?_, ?_, trivial, ?_, ?_, ?_, ?_, ?_⟩
  case refine_4 => exact flag_ofNat (by omega) (by omega)
  case refine_6 => exact flag_ofNat (by omega) (by omega)
  case refine_8 => exact flag_ofNat (by omega) (by omega)
  case refine_9 => exact flag_ofNat (by omega) (by omega)
  case refine_10 => exact flag_ofNat (by omega) (by omega)
  case refine_11 => exact flag_ofNat (by omega) (by omega)
  case refine_12 => exact flag_ofNat (by omega) (by omega)
  case refine_13 => exact flag_ofNat (by omega) (by omega)
  all_goals
    rw [toNat_ofNat_of_lt (by omega)]
    try rw [toNat_ofNat_of_lt (by omega)]
    congr 1
    omega

theorem truncated_decodeAcfMessageInfo (octets : Octets) :
    (decodeAcfMessageInfo octets).truncated = decodeAcfMessageInfo octets := by
  have h0 := (octetAt octets 0).toNat_lt
  have h1 := (octetAt octets 1).toNat_lt
  have h2 := (octetAt octets 2).toNat_lt
  have h3 := (octetAt octets 3).toNat_lt
  have h4 := (octetAt octets 4).toNat_lt
  have h6 := (octetAt octets 6).toNat_lt
  have h7 := (octetAt octets 7).toNat_lt
  simp only [AcfMessageInfo.truncated, decodeAcfMessageInfo,
    AcfMessageInfo.mk.injEq, UInt8.toNat_ofNat', UInt16.toNat_ofNat',
    true_and]
  refine ⟨?_, ?_, ?_, ?_, ?_, ?_⟩ <;> congr 1 <;> omega

theorem encodeAcfMessageInfo_truncated (info : AcfMessageInfo) :
    encodeAcfMessageInfo info.truncated = encodeAcfMessageInfo info := by
  simp [encodeAcfMessageInfo, AcfMessageInfo.truncated, Nat.mod_mod_of_dvd]

theorem encodeAcfMessageInfo_inj {info info' : AcfMessageInfo} :
    encodeAcfMessageInfo info = encodeAcfMessageInfo info' ↔
      info.truncated = info'.truncated := by
  constructor
  · intro h
    rw [← decode_encodeAcfMessageInfo info [],
      ← decode_encodeAcfMessageInfo info' [], h]
  · intro h
    rw [← encodeAcfMessageInfo_truncated, h, encodeAcfMessageInfo_truncated]

/-! ## Reserved bits -/

def clearOctet2 (octet : UInt8) : UInt8 :=
  UInt8.ofNat (octet.toNat / 32 * 32 + octet.toNat % 8)

def clearOctet4 (octet : UInt8) : UInt8 :=
  UInt8.ofNat (octet.toNat / 16 * 16 + octet.toNat % 4)

/-- A message with the reserved bits of its header at zero. -/
def clearReserved (octets : Octets) : Octets :=
  (octets.modify 2 clearOctet2).modify 4 clearOctet4

@[simp] theorem length_clearReserved (octets : Octets) :
    (clearReserved octets).length = octets.length := by
  simp [clearReserved]

theorem weight_flag (octet : UInt8) (bit value : Nat) :
    weight (flag octet bit) value = octet.toNat / 2 ^ bit % 2 * value := by
  rw [weight_eq, flag, Nat.toNat_testBit]

theorem exists_octets_of_le {frame : Octets}
    (h : acfCommonHeaderLen ≤ frame.length) :
    ∃ o0 o1 o2 o3 o4 o5 o6 o7 rest,
      frame = o0 :: o1 :: o2 :: o3 :: o4 :: o5 :: o6 :: o7 :: rest := by
  match frame, h with
  | o0 :: o1 :: o2 :: o3 :: o4 :: o5 :: o6 :: o7 :: rest, _ =>
      exact ⟨o0, o1, o2, o3, o4, o5, o6, o7, rest, rfl⟩

theorem encode_decodeAcfMessageInfo {frame : Octets}
    (h : acfCommonHeaderLen ≤ frame.length) :
    encodeAcfMessageInfo (decodeAcfMessageInfo frame) =
      clearReserved (frame.take acfCommonHeaderLen) := by
  obtain ⟨o0, o1, o2, o3, o4, o5, o6, o7, rest, rfl⟩ :=
    exists_octets_of_le h
  have h0 := o0.toNat_lt
  have h1 := o1.toNat_lt
  have h2 := o2.toNat_lt
  have h3 := o3.toNat_lt
  have h4 := o4.toNat_lt
  have h6 := o6.toNat_lt
  have h7 := o7.toNat_lt
  change _ = [o0, o1, clearOctet2 o2, o3, clearOctet4 o4, o5, o6, o7]
  simp only [encodeAcfMessageInfo, decodeAcfMessageInfo, octetAt,
    List.getD_cons_zero, List.getD_cons_succ, weight_flag, List.cons.injEq,
    UInt8.toNat_ofNat', UInt16.toNat_ofNat', clearOctet2, clearOctet4,
    and_true, true_and]
  refine ⟨?_, ?_, ?_, ?_, ?_, ?_, ?_⟩ <;>
    apply UInt8.toNat_inj.mp <;> rw [UInt8.toNat_ofNat'] <;>
    try rw [UInt8.toNat_ofNat']
  case refine_6 =>
    -- the four flags and the field below them, one at a time
    have hFlags : o6.toNat / 2 ^ 7 % 2 * 128 + o6.toNat / 2 ^ 6 % 2 * 64 +
        o6.toNat / 2 ^ 5 % 2 * 32 + o6.toNat / 2 ^ 4 % 2 * 16 =
          o6.toNat / 16 * 16 := by
      clear h0 h1 h2 h3 h4 h7
      omega
    have hField : (o6.toNat % 16 * 256 + o7.toNat) % 2 ^ 16 % 4096 / 256 =
        o6.toNat % 16 := by omega
    rw [hFlags, hField]
    omega
  all_goals omega

end CppRcp.Acf
