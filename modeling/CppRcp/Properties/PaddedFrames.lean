import CppRcp.Properties.FrameRoundTrips
import CppRcp.Wire.Ethernet

/-!
# Padded Ethernet frames

The count in the header of an AVTPDU must be the number of octets behind the
header, up to the end of the buffer.  An encoded frame meets this, so that a
server is handed exactly its ACF octets.  A frame that was padded on the link,
as every frame below 60 octets is, does not: whatever was appended, no decoder
accepts it.
-/

namespace CppRcp.L2

open CppRcp.Foundation CppRcp.Acf CppRcp.Avtp CppRcp.Transport

/-! ## The count of the ACF octets -/

def controlDataLength (avtpdu : Octets) : Nat :=
  if octetAt avtpdu 0 = subtypeTscf then getBe ((avtpdu.drop 20).take 2)
  else (octetAt avtpdu 1).toNat % 8 * 256 + (octetAt avtpdu 2).toNat

private theorem getBe_two_lt (octets : Octets) : getBe (octets.take 2) <
    65536 := by
  have hBound := getBe_lt (octets.take 2)
  have hLength : (octets.take 2).length ≤ 2 := List.length_take_le 2 octets
  have hPow : 256 ^ (octets.take 2).length ≤ 256 ^ 2 :=
    Nat.pow_le_pow_right (by omega) hLength
  omega

private theorem count_of_decodeTscfHeader {octets : Octets}
    {header : TscfHeader} (h : decodeTscfHeader octets = .ok header) :
    header.controlDataLength.toNat = getBe ((octets.drop 20).take 2) := by
  have hBound := getBe_two_lt (octets.drop 20)
  simp only [decodeTscfHeader] at h
  split at h
  · cases h
  · split at h
    · cases h
    · split at h
      · cases h
      · injection h with hHeader
        rw [← hHeader, UInt16.toNat_ofNat']
        omega

private theorem count_of_decodeNtscfHeader {octets : Octets}
    {header : NtscfHeader} (h : decodeNtscfHeader octets = .ok header) :
    header.controlDataLength.toNat =
      (octetAt octets 1).toNat % 8 * 256 + (octetAt octets 2).toNat := by
  have hLow := (octetAt octets 2).toNat_lt
  simp only [decodeNtscfHeader] at h
  split at h
  · cases h
  · split at h
    · cases h
    · split at h
      · cases h
      · injection h with hHeader
        rw [← hHeader, UInt16.toNat_ofNat']
        omega

private theorem eq_of_lengthCheck {count length : Nat}
    {header accepted : AvtpFrameHeader}
    (h : (if count ≠ length then .error (.avtp .lengthMismatch)
      else .ok header : Except ErrorCode AvtpFrameHeader) = .ok accepted) :
    length = count ∧ header = accepted := by
  split at h
  · cases h
  · next hCount =>
      injection h with hHeader
      exact ⟨(not_not.mp hCount).symm, hHeader⟩

private theorem length_acf_of_decode {avtpdu : Octets}
    {header : AvtpFrameHeader} (h : decodeAvtpFrameHeader avtpdu = .ok header) :
    (avtpdu.drop header.acfOffset).length = controlDataLength avtpdu := by
  unfold decodeAvtpFrameHeader at h
  unfold controlDataLength
  rw [List.length_drop]
  split at h
  · cases h
  · split at h
    · next hTscf =>
        rw [if_pos hTscf]
        cases hDecoded : decodeTscfHeader avtpdu with
        | error e => simp [hDecoded] at h
        | ok tscf =>
            rw [hDecoded] at h
            obtain ⟨hLength, rfl⟩ := eq_of_lengthCheck h
            exact hLength.trans (count_of_decodeTscfHeader hDecoded)
    · next hNtscf =>
        rw [if_neg hNtscf]
        cases hDecoded : decodeNtscfHeader avtpdu with
        | error e => simp [hDecoded] at h
        | ok ntscf =>
            rw [hDecoded] at h
            obtain ⟨hLength, rfl⟩ := eq_of_lengthCheck h
            exact hLength.trans (count_of_decodeNtscfHeader hDecoded)

/-! ## Refused frames -/

def lengthMismatch : L2Error := .rcp (.avtp .lengthMismatch)

/-- All three decoders find that the length disagrees with the buffer. -/
structure Mismatched (octets : Octets) : Prop where
  frame : decodeL2Frame octets = .error lengthMismatch
  multiFrame : decodeL2MultiFrame octets = .error lengthMismatch
  frameHeader : decodeL2FrameHeader octets = .error lengthMismatch

private theorem decodeAvtpFrameHeader_error {octets : Octets} {e : ErrorCode}
    (h : decodeEnvelope octets = .error e) :
    decodeAvtpFrameHeader octets = .error e := by
  rw [decodeEnvelope_eq] at h
  cases hHeader : decodeAvtpFrameHeader octets with
  | error e' =>
      rw [hHeader] at h
      injection h with hError
      rw [hError]
  | ok header =>
      rw [hHeader] at h
      cases h

private theorem mismatched_of_decodeEnvelope {avtpdu : Octets}
    (h : decodeEnvelope avtpdu = .error (.avtp .lengthMismatch))
    (dst src : MacAddress) : Mismatched (encodeEthHeader dst src ++ avtpdu) := by
  have hFrame : decodeFrame avtpdu = .error (.avtp .lengthMismatch) := by
    unfold decodeFrame
    rw [h]
  have hMultiFrame :
      decodeMultiFrame avtpdu = .error (.avtp .lengthMismatch) := by
    unfold decodeMultiFrame
    rw [h]
  refine ⟨?_, ?_, ?_⟩
  · rw [decodeL2Frame, decodeL2_encodeEthHeader, hFrame]
    rfl
  · rw [decodeL2MultiFrame, decodeL2_encodeEthHeader, hMultiFrame]
    rfl
  · rw [decodeL2FrameHeader, decodeL2_encodeEthHeader,
      decodeAvtpFrameHeader_error h]
    rfl

private theorem mismatched_of_padded (dst src : MacAddress)
    (envelope : Envelope)
    (acfBytes : Octets) {padding : Octets} (h : padding ≠ []) :
    Mismatched (encodeEthHeader dst src ++
      encodeEnvelope envelope acfBytes ++ padding) := by
  rw [List.append_assoc]
  apply mismatched_of_decodeEnvelope
  rw [decodeEnvelope_encodeEnvelope_append, if_neg fun hEmpty => h hEmpty.2]

/-! ## Accepted frames -/

/-- The fields of the envelope are read, and what is handed over are the ACF
octets, as many as the header declares. -/
def HeaderRead (dst src : MacAddress) (envelope : Envelope)
    (acfBytes octets : Octets) : Prop :=
  ∃ header, decodeL2FrameHeader octets = .ok (ethHeader dst src, header) ∧
    header.toEnvelope = envelope.onWire ∧
    acfRegion octets header = acfBytes ∧
    (acfRegion octets header).length =
      controlDataLength (octets.drop kEthHeaderLen)

private theorem headerRead_iff (dst src : MacAddress) (envelope : Envelope)
    (acfBytes : Octets) :
    HeaderRead dst src envelope acfBytes
        (encodeEthHeader dst src ++ encodeEnvelope envelope acfBytes) ↔
      acfBytes.length ≤ maxDataLen envelope.useTscf := by
  have hEnvelope := decodeEnvelope_encodeEnvelope envelope acfBytes
  have hDrop : (encodeEthHeader dst src ++
      encodeEnvelope envelope acfBytes).drop kEthHeaderLen =
        encodeEnvelope envelope acfBytes :=
    List.drop_left' (length_encodeEthHeader dst src)
  constructor
  · rintro ⟨header, hDecoded, -⟩
    by_contra hLong
    rw [if_neg hLong] at hEnvelope
    have hRefused := mismatched_of_decodeEnvelope hEnvelope dst src
    rw [hRefused.frameHeader] at hDecoded
    cases hDecoded
  · intro hCounted
    rw [if_pos hCounted, decodeEnvelope_eq] at hEnvelope
    cases hHeader :
        decodeAvtpFrameHeader (encodeEnvelope envelope acfBytes) with
    | error e =>
        rw [hHeader] at hEnvelope
        cases hEnvelope
    | ok header =>
        have hLength := length_acf_of_decode hHeader
        rw [hHeader] at hEnvelope
        injection hEnvelope with hRead
        obtain ⟨hFields, hRegion⟩ := Prod.mk.inj hRead
        refine ⟨header, ?_, hFields, ?_, ?_⟩
        · rw [decodeL2FrameHeader, decodeL2_encodeEthHeader, hHeader]
        · rw [acfRegion, ← List.drop_drop, hDrop, hRegion]
        · rw [acfRegion, ← List.drop_drop, hDrop, hLength]

private theorem frameHandlerInput_encoded (dst src : MacAddress)
    (envelope : Envelope) (acfBytes padding : Octets)
    (hCounted : acfBytes.length ≤ maxDataLen envelope.useTscf) :
    frameHandlerInput false (encodeEthHeader dst src ++
        encodeEnvelope envelope acfBytes ++ padding) =
      if padding = [] then
        some (src, envelope.streamId, envelope.onWire.sequenceNum, acfBytes)
      else none := by
  have hSome : (encodeEthHeader dst src ++ encodeEnvelope envelope acfBytes ++
      padding).length ≠ 0 := by
    simp [kEthHeaderLen]
  unfold frameHandlerInput
  rw [if_neg hSome, if_neg Bool.false_ne_true]
  split_ifs with hPadding
  · obtain ⟨header, hDecoded, hFields, hRegion, -⟩ :=
      (headerRead_iff dst src envelope acfBytes).mpr hCounted
    rw [hPadding, List.append_nil, hDecoded]
    simp only [hFields, hRegion]
    rfl
  · have hRefused := mismatched_of_padded dst src envelope acfBytes hPadding
    rw [hRefused.frameHeader]

/-! ## Frames and their padding -/

private theorem decodeL2Frame_encode {frame : Frame} (h : frame.InRange)
    (dst src : MacAddress) :
    decodeL2Frame (encodeL2Frame dst src frame) =
      .ok (ethHeader dst src, frame.filled) := by
  rw [decodeL2Frame, encodeL2Frame, decodeL2_encodeEthHeader, h.decode_encode]

private theorem decodeL2MultiFrame_encode_iff {frame : MultiFrame}
    (h : frame.InRange) (dst src : MacAddress) :
    decodeL2MultiFrame (encodeL2MultiFrame dst src frame) =
        .ok (ethHeader dst src, frame.filled) ↔
      totalLen frame.messages ≤ maxDataLen frame.useTscf := by
  rw [← h.decode_iff, decodeL2MultiFrame, encodeL2MultiFrame,
    decodeL2_encodeEthHeader]
  cases decodeMultiFrame (encodeMultiFrame frame) <;> simp

/-- An encoded frame is accepted as far as its octets can be counted, and its
ACF octets are those that its header declares.  With anything behind it, every
decoder refuses it, and the server hands nothing over. -/
theorem l2Frames_delimited (dst src : MacAddress) (frame : Frame)
    (multiFrame : MultiFrame) (padding : Octets) :
    ((HeaderRead dst src frame.toEnvelope
          (encodeEntry frame.info frame.messageTimestamp frame.payload)
          (encodeL2Frame dst src frame) ↔
        frame.entry.size ≤ maxDataLen frame.useTscf) ∧
      (frame.InRange → decodeL2Frame (encodeL2Frame dst src frame) =
        .ok (ethHeader dst src, frame.filled)) ∧
      (padding ≠ [] → Mismatched (encodeL2Frame dst src frame ++ padding))) ∧
    ((HeaderRead dst src multiFrame.toEnvelope
          (multiFrame.messages.flatMap fun entry =>
            encodeEntry entry.info entry.messageTimestamp entry.payload)
          (encodeL2MultiFrame dst src multiFrame) ↔
        totalLen multiFrame.messages ≤ maxDataLen multiFrame.useTscf) ∧
      (multiFrame.InRange →
        (decodeL2MultiFrame (encodeL2MultiFrame dst src multiFrame) =
            .ok (ethHeader dst src, multiFrame.filled) ↔
          totalLen multiFrame.messages ≤ maxDataLen multiFrame.useTscf)) ∧
      (padding ≠ [] →
        Mismatched (encodeL2MultiFrame dst src multiFrame ++ padding)) ∧
      (totalLen multiFrame.messages ≤ maxDataLen multiFrame.useTscf →
        frameHandlerInput false (encodeL2MultiFrame dst src multiFrame ++
            padding) =
          if padding = [] then
            some (src, multiFrame.streamId,
              multiFrame.toEnvelope.onWire.sequenceNum,
              multiFrame.messages.flatMap fun entry =>
                encodeEntry entry.info entry.messageTimestamp entry.payload)
          else none)) := by
  have hFrame := headerRead_iff dst src frame.toEnvelope
    (encodeEntry frame.info frame.messageTimestamp frame.payload)
  have hMultiFrame := headerRead_iff dst src multiFrame.toEnvelope
    (multiFrame.messages.flatMap fun entry =>
      encodeEntry entry.info entry.messageTimestamp entry.payload)
  have hLength := length_encodeEntry frame.entry
  simp only [Frame.entry] at hLength
  rw [hLength] at hFrame
  rw [length_flatMap_encodeEntry] at hMultiFrame
  refine ⟨⟨hFrame, ?_, ?_⟩, hMultiFrame, ?_, ?_, ?_⟩
  · intro hRange
    exact decodeL2Frame_encode hRange dst src
  · exact mismatched_of_padded dst src frame.toEnvelope _
  · intro hRange
    exact decodeL2MultiFrame_encode_iff hRange dst src
  · exact mismatched_of_padded dst src multiFrame.toEnvelope _
  · intro hCounted
    rw [← length_flatMap_encodeEntry] at hCounted
    exact frameHandlerInput_encoded dst src multiFrame.toEnvelope _ padding
      hCounted

def noAddress : MacAddress := ⟨List.replicate kMacLen 0, List.length_replicate⟩

def shortFrame : Frame := { info := { op := true } }

private theorem inRange_shortFrame : shortFrame.InRange where
  envelope := ⟨by decide, fun _ => ⟨rfl, rfl⟩⟩
  message := inRange_emptyWrite

theorem l2Frames_delimited_short :
    (HeaderRead noAddress noAddress {} (encodeEntry { op := true } 0 [])
        (encodeL2Frame noAddress noAddress shortFrame) ∧
      decodeL2Frame (encodeL2Frame noAddress noAddress shortFrame) =
        .ok (ethHeader noAddress noAddress, shortFrame.filled) ∧
      Mismatched (encodeL2Frame noAddress noAddress shortFrame ++
        List.replicate 26 0)) ∧
    decodeL2MultiFrame (encodeL2MultiFrame noAddress noAddress
        (commandFrame 2)) =
      .ok (ethHeader noAddress noAddress, (commandFrame 2).filled) ∧
    Mismatched (encodeL2MultiFrame noAddress noAddress (commandFrame 2) ++
      List.replicate 18 0) :=
  have hShort := l2Frames_delimited noAddress noAddress shortFrame
    (commandFrame 2) (List.replicate 26 0)
  have hTwo := l2Frames_delimited noAddress noAddress shortFrame
    (commandFrame 2) (List.replicate 18 0)
  ⟨⟨hShort.1.1.mpr (by decide), hShort.1.2.1 inRange_shortFrame,
      hShort.1.2.2 (by decide)⟩,
    (hTwo.2.2.1 (inRange_commandFrame (by omega))).mpr (by decide),
    hTwo.2.2.2.1 (by decide)⟩

/-- Padded to 60 octets, the short frame is not returned. -/
theorem shortFrame_padded_refused :
    ¬ ∀ (dst src : MacAddress) (frame : Frame) (count : Nat),
      frame.InRange →
      (encodeL2Frame dst src frame ++ List.replicate count 0).length = 60 →
      decodeL2Frame (encodeL2Frame dst src frame ++
          List.replicate count 0) =
        decodeL2Frame (encodeL2Frame dst src frame) := by
  intro hAll
  have hSame := hAll noAddress noAddress shortFrame 26 inRange_shortFrame rfl
  have hPadding : List.replicate 26 (0 : UInt8) ≠ [] := by simp
  have hRefused := mismatched_of_padded noAddress noAddress
    shortFrame.toEnvelope (encodeEntry { op := true } 0 []) hPadding
  rw [decodeL2Frame_encode inRange_shortFrame] at hSame
  have hFrame := hRefused.frame
  cases hSame.symm.trans hFrame

end CppRcp.L2
