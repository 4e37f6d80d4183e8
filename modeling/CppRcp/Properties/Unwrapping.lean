import CppRcp.Wire.Reserved
import CppRcp.Properties.Wrapping

/-!
# What unwrapping checks

`unwrap` decodes the header of a frame and computes the checksum over the
header it encodes again.  Only the reserved bits of the header are lost on the
way, so the checksum it asks for is that of the received octets with these
bits at zero.
-/

namespace CppRcp.E2e

open CppRcp.Foundation CppRcp.Acf

/-! ## The layout of a received frame -/

/-- The frame holds its header, a checksum and its pad octets. -/
def Sized (frame : Octets) : Prop :=
  acfCommonHeaderLen ≤ frame.length ∧
    headerLen (decodeAcfMessageInfo frame).acfMsgType +
      crcLengthAdjustOctets + (decodeAcfMessageInfo frame).pad.toNat ≤
        frame.length

instance (frame : Octets) : Decidable (Sized frame) :=
  inferInstanceAs (Decidable (_ ∧ _))

/-- The offset of the trailer of a received frame. -/
def realEnd (frame : Octets) : Nat :=
  frame.length - crcLengthAdjustOctets - (decodeAcfMessageInfo frame).pad.toNat

private theorem headerLen_le_realEnd {frame : Octets} (hSized : Sized frame) :
    headerLen (decodeAcfMessageInfo frame).acfMsgType ≤ realEnd frame := by
  have h := hSized.2
  unfold realEnd
  omega

private theorem realEnd_le (frame : Octets) :
    realEnd frame ≤ frame.length := by
  unfold realEnd
  omega

theorem clearReserved_append {front : Octets} (back : Octets)
    (h : acfCommonHeaderLen ≤ front.length) :
    clearReserved (front ++ back) = clearReserved front ++ back := by
  obtain ⟨o0, o1, o2, o3, o4, o5, o6, o7, rest, rfl⟩ :=
    exists_octets_of_le h
  rfl

/-- The header octets `unwrap` computes with are the received ones, their
reserved bits at zero. -/
theorem headerOctets_decode {frame : Octets} (hSized : Sized frame) :
    headerOctets (decodeAcfMessageInfo frame)
        (getBe ((frame.drop acfCommonHeaderLen).take 8)) =
      clearReserved (frame.take
        (headerLen (decodeAcfMessageInfo frame).acfMsgType)) := by
  have hLength := hSized.2
  unfold headerOctets
  split
  · rename_i h
    have hHead : headerLen (decodeAcfMessageInfo frame).acfMsgType = 16 := by
      rw [h]
      rfl
    have hStamp : ((frame.drop acfCommonHeaderLen).take 8).length = 8 := by
      rw [List.length_take, List.length_drop]
      unfold acfCommonHeaderLen
      omega
    have hPut := putBe_getBe ((frame.drop acfCommonHeaderLen).take 8)
    rw [hStamp] at hPut
    have hTake : frame.take 16 = frame.take acfCommonHeaderLen ++
        (frame.drop acfCommonHeaderLen).take 8 :=
      @List.take_add _ frame acfCommonHeaderLen 8
    rw [hHead, hTake, hPut, encode_decodeAcfMessageInfo hSized.1,
      clearReserved_append _ (by
        rw [List.length_take]
        exact le_min le_rfl hSized.1)]
  · rename_i h
    rw [encode_decodeAcfMessageInfo hSized.1, headerLen, if_neg h]

namespace Framing

variable (framing : Framing)

private theorem unwrap_of_not_sized {frame : Octets} (h : ¬ Sized frame) :
    framing.unwrap frame = ⟨some (.e2e .shortFrame), []⟩ := by
  unfold unwrap
  unfold Sized at h
  by_cases hHead : frame.length < acfCommonHeaderLen
  · rw [if_pos hHead]
  · have hShort : frame.length <
        headerLen (decodeAcfMessageInfo frame).acfMsgType +
          crcLengthAdjustOctets + (decodeAcfMessageInfo frame).pad.toNat := by
      by_contra hLong
      exact h ⟨by omega, by omega⟩
    rw [if_neg hHead]
    exact if_pos hShort

/-- What `unwrap` does with a frame long enough: the checksum asked for is
that of the received octets, their reserved bits at zero. -/
theorem unwrap_of_sized {frame : Octets} (hSized : Sized frame) :
    let info := decodeAcfMessageInfo frame
    framing.unwrap frame =
      ⟨if trailerAt frame (realEnd frame) = crc32 (framing.crcPrefix ++
            clearReserved (frame.take (realEnd frame))) then none
        else some (.e2e .crcError),
        headerOctets
            { info with
              acfMsgLength := info.acfMsgLength - crcLengthAdjustQuadlets }
            (getBe ((frame.drop acfCommonHeaderLen).take 8)) ++
          (frame.take (realEnd frame)).drop (headerLen info.acfMsgType) ++
          frame.drop (realEnd frame + crcLengthAdjustOctets)⟩ := by
  intro info
  have hShort : ¬ frame.length < headerLen info.acfMsgType +
      crcLengthAdjustOctets + info.pad.toNat :=
    Nat.not_lt.mpr hSized.2
  have hHead : ¬ frame.length < acfCommonHeaderLen :=
    Nat.not_lt.mpr hSized.1
  have hCovered : headerOctets info
        (getBe ((frame.drop acfCommonHeaderLen).take 8)) ++
        (frame.take (realEnd frame)).drop (headerLen info.acfMsgType) =
      clearReserved (frame.take (realEnd frame)) := by
    have hLe := headerLen_le_realEnd hSized
    have hSplit : (frame.take (realEnd frame)).take
        (headerLen info.acfMsgType) = frame.take (headerLen info.acfMsgType) := by
      rw [List.take_take, Nat.min_eq_left hLe]
    rw [headerOctets_decode hSized, ← hSplit, ← clearReserved_append,
      List.take_append_drop]
    rw [hSplit, List.length_take]
    exact le_min (le_headerLen _) hSized.1
  unfold unwrap
  rw [if_neg hHead]
  simp only [computeCrc, coverageBuffer]
  rw [if_neg hShort, ← hCovered, ← List.append_assoc]
  rfl

private theorem unwrap_ec_eq_none_iff (frame : Octets) :
    (framing.unwrap frame).ec = none ↔ Sized frame ∧
      trailerAt frame (realEnd frame) = crc32 (framing.crcPrefix ++
        clearReserved (frame.take (realEnd frame))) := by
  by_cases hSized : Sized frame
  · rw [framing.unwrap_of_sized hSized]
    simp [hSized]
  · rw [framing.unwrap_of_not_sized hSized]
    simp [hSized]

end Framing

/-! ## Success and the received octets -/

/-- The message type is one of the two. -/
def KnownType (frame : Octets) : Prop :=
  (decodeAcfMessageInfo frame).acfMsgType = acfMsgTypeAbb ∨
    (decodeAcfMessageInfo frame).acfMsgType = acfMsgTypeGbb

/-- The trailer of a frame is not a given checksum of its covered octets. -/
def Framing.TrailerAvoids (framing : Framing) (frame covered : Octets) :
    Prop :=
  trailerAt frame (realEnd frame) ≠ crc32 (framing.crcPrefix ++ covered)

/-- Where the reserved bits are not all zero, the checksums of the octets as
received and with these bits at zero differ. -/
theorem crc32_clearReserved_iff (front octets : Octets) :
    crc32 (front ++ clearReserved octets) = crc32 (front ++ octets) ↔
      clearReserved octets = octets := by
  apply crc32_inj_of_window 2 (length_clearReserved octets)
  intro index hIndex
  rw [octetAt_clearReserved, if_neg (by omega), if_neg (by omega)]

private theorem reservedClear_take {frame : Octets} {count : Nat}
    (h : acfCommonHeaderLen ≤ count) :
    ReservedClear (frame.take count) ↔ ReservedClear frame := by
  unfold acfCommonHeaderLen at h
  have hSame : ∀ index, index < 8 →
      octetAt (frame.take count) index = octetAt frame index := by
    intro index hIndex
    exact octetAt_take (by omega)
  unfold ReservedClear
  apply forall_congr'
  intro index
  apply forall_congr'
  intro bit
  apply imp_congr_right
  intro hReserved
  rw [hSame index (by unfold ReservedBit at hReserved; omega)]

/-- `unwrap` succeeds just on the frames of a known type whose trailer covers
the received octets, except where reserved bits are set or the type is
another one and the trailer happens to match one of the checksums. -/
theorem Framing.unwrap_as_received_iff (framing : Framing) (frame : Octets) :
    ((framing.unwrap frame).ec = none ↔
        Sized frame ∧ KnownType frame ∧
          framing.TrailerCovers frame (realEnd frame)) ↔
      (Sized frame → KnownType frame → ReservedClear frame ∨
        framing.TrailerAvoids frame (frame.take (realEnd frame)) ∧
          framing.TrailerAvoids frame
            (clearReserved (frame.take (realEnd frame)))) ∧
      (Sized frame → ¬ KnownType frame → framing.TrailerAvoids frame
        (clearReserved (frame.take (realEnd frame)))) := by
  rw [framing.unwrap_ec_eq_none_iff]
  by_cases hSized : Sized frame
  · have hHead : acfCommonHeaderLen ≤ realEnd frame :=
      (le_headerLen _).trans (headerLen_le_realEnd hSized)
    have hClear := clearReserved_eq_iff (frame.take (realEnd frame))
    rw [reservedClear_take hHead] at hClear
    have hCrc := crc32_clearReserved_iff framing.crcPrefix
      (frame.take (realEnd frame))
    unfold TrailerCovers TrailerAvoids
    by_cases hKnown : KnownType frame
    · simp only [hSized, hKnown, true_and, forall_const, not_true_eq_false,
        false_implies, and_true]
      by_cases hReserved : ReservedClear frame
      · have hSame := hCrc.mpr (hClear.mpr hReserved)
        simp [hReserved, hSame]
      · have hNe : ¬ crc32 (framing.crcPrefix ++
            clearReserved (frame.take (realEnd frame))) =
            crc32 (framing.crcPrefix ++ frame.take (realEnd frame)) :=
          fun h => hReserved (hClear.mp (hCrc.mp h))
        simp only [hReserved, false_or]
        constructor
        · intro h
          constructor
          · intro hRead
            exact hNe ((h.mpr hRead).symm.trans hRead)
          · intro hRead
            exact hNe (hRead.symm.trans (h.mp hRead))
        · rintro ⟨hRead, hCleared⟩
          exact iff_of_false hCleared hRead
    · simp [hSized, hKnown]
  · simp [hSized]

/-! ## Single flipped bits -/

def flipBit (frame : Octets) (index bit : Nat) : Octets :=
  frame.modify index (fun octet => octet ^^^ UInt8.ofNat (2 ^ bit))

/-- Two frames of one length whose headers announce the same parts. -/
def SameLayout (frame frame' : Octets) : Prop :=
  headerLen (decodeAcfMessageInfo frame).acfMsgType =
      headerLen (decodeAcfMessageInfo frame').acfMsgType ∧
    (decodeAcfMessageInfo frame).pad = (decodeAcfMessageInfo frame').pad

namespace SameLayout

variable {frame frame' : Octets} (h : SameLayout frame frame')
  (hLength : frame'.length = frame.length)

include h hLength

theorem realEnd_eq : realEnd frame' = realEnd frame := by
  unfold realEnd
  rw [hLength, h.2]

theorem sized (hSized : Sized frame) : Sized frame' := by
  unfold Sized
  rw [hLength, ← h.1, ← h.2]
  exact hSized

end SameLayout

@[simp] theorem length_flipBit (frame : Octets) (index bit : Nat) :
    (flipBit frame index bit).length = frame.length := by
  simp [flipBit]

private theorem flag_xor_two_pow (octet : UInt8) {bit place : Nat}
    (hBit : bit < 8) :
    flag (octet ^^^ UInt8.ofNat (2 ^ bit)) place =
      (flag octet place ^^ decide (bit = place)) := by
  have hPower : 2 ^ bit < 256 := by
    calc 2 ^ bit < 2 ^ 8 := Nat.pow_lt_pow_right (by decide) hBit
      _ = 256 := by decide
  unfold flag
  rw [UInt8.toNat_xor, Nat.testBit_xor, toNat_ofNat_of_lt hPower,
    Nat.testBit_two_pow]

private theorem octetAt_flipBit_of_ne (frame : Octets) {index bit i : Nat}
    (h : i ≠ index) :
    octetAt (flipBit frame index bit) i = octetAt frame i := by
  unfold flipBit octetAt
  simp [List.getD_eq_getElem?_getD, h.symm]

private theorem octetAt_flipBit_self {frame : Octets} {index bit : Nat}
    (h : index < frame.length) :
    octetAt (flipBit frame index bit) index =
      octetAt frame index ^^^ UInt8.ofNat (2 ^ bit) := by
  unfold flipBit octetAt
  simp [List.getD_eq_getElem?_getD, h]

/-- A flipped bit survives the clearing of the reserved bits unless it is one
of them. -/
theorem clearReserved_flipBit_eq_iff {octets : Octets} {index bit : Nat}
    (hIndex : index < octets.length) (hBit : bit < 8) :
    clearReserved (flipBit octets index bit) = clearReserved octets ↔
      ReservedBit index bit := by
  constructor
  · intro h
    by_contra hReserved
    have hFlag := congrArg (fun octets => flag (octetAt octets index) bit) h
    simp only [flag_clearReserved _ _ hBit, octetAt_flipBit_self hIndex,
      flag_xor_two_pow _ hBit] at hFlag
    simp [hReserved] at hFlag
  · intro hReserved
    apply octets_ext (by simp)
    intro i place hPlace
    rw [flag_clearReserved _ _ hPlace, flag_clearReserved _ _ hPlace]
    by_cases hOctet : i = index
    · subst hOctet
      rw [octetAt_flipBit_self hIndex, flag_xor_two_pow _ hBit]
      by_cases hSame : bit = place
      · subst hSame
        simp [hReserved]
      · simp [hSame]
    · rw [octetAt_flipBit_of_ne _ hOctet]

private theorem Framing.unwrap_flipBit_iff (framing : Framing) {frame : Octets}
    {index bit : Nat} (hOk : (framing.unwrap frame).ec = none)
    (hIndex : index < realEnd frame) (hBit : bit < 8)
    (hLayout : SameLayout frame (flipBit frame index bit)) :
    (framing.unwrap (flipBit frame index bit)).ec ≠ none ↔
      ¬ ReservedBit index bit := by
  obtain ⟨hSized, hTrailer⟩ := (framing.unwrap_ec_eq_none_iff frame).mp hOk
  have hEnd := hLayout.realEnd_eq (length_flipBit frame index bit)
  have hSized' := hLayout.sized (length_flipBit frame index bit) hSized
  have hLe := realEnd_le frame
  have hTake : (flipBit frame index bit).take (realEnd frame) =
      flipBit (frame.take (realEnd frame)) index bit :=
    List.take_modify ..
  have hSame : trailerAt (flipBit frame index bit) (realEnd frame) =
      trailerAt frame (realEnd frame) := by
    unfold trailerAt
    rw [flipBit, List.drop_modify_of_lt _ _ _ _ hIndex]
  rw [not_iff_not, framing.unwrap_ec_eq_none_iff, hEnd, hSame, hTrailer,
    hTake, eq_comm, crc32_inj_of_window index,
    clearReserved_flipBit_eq_iff _ hBit]
  · simp [hSized']
  · rw [List.length_take]
    omega
  · simp
  · intro i hi
    rw [octetAt_clearReserved, octetAt_clearReserved,
      octetAt_flipBit_of_ne _ (by omega), length_flipBit]

/-- Success against the received octets, and what a flipped bit does to a
frame that was unwrapped: it is detected exactly outside the reserved bits. -/
theorem Framing.unwrap_received_iff (framing : Framing) (frame : Octets) :
    (((framing.unwrap frame).ec = none ↔
        Sized frame ∧ KnownType frame ∧
          framing.TrailerCovers frame (realEnd frame)) ↔
      (Sized frame → KnownType frame → ReservedClear frame ∨
        framing.TrailerAvoids frame (frame.take (realEnd frame)) ∧
          framing.TrailerAvoids frame
            (clearReserved (frame.take (realEnd frame)))) ∧
      (Sized frame → ¬ KnownType frame → framing.TrailerAvoids frame
        (clearReserved (frame.take (realEnd frame))))) ∧
    ∀ index bit, (framing.unwrap frame).ec = none → index < realEnd frame →
      bit < 8 → SameLayout frame (flipBit frame index bit) →
        ((framing.unwrap (flipBit frame index bit)).ec ≠ none ↔
          ¬ ReservedBit index bit) := by
  constructor
  · exact framing.unwrap_as_received_iff frame
  · intro index bit hOk hIndex hBit hLayout
    exact framing.unwrap_flipBit_iff hOk hIndex hBit hLayout

def reservedFlipped : Octets :=
  flipBit ((Framing.framed true 0x00 false 0 none).wrap {} none [7]) 2 3

set_option maxRecDepth 10000 in
theorem unwrap_reservedFlipped :
    ((Framing.framed true 0x00 false 0 none).unwrap reservedFlipped).ec =
        none ∧
      ¬ (Framing.framed true 0x00 false 0 none).TrailerCovers
        reservedFlipped (realEnd reservedFlipped) := by
  unfold Framing.TrailerCovers
  decide

end CppRcp.E2e
