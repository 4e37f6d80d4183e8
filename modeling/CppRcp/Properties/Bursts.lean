import CppRcp.Properties.RoundTrip

/-!
# Corrupted frames

Which error patterns `unwrap` reports on a frame `wrap` produced: every
pattern within 32 consecutive bits of the octets the checksum covers, counted
in the order the checksum takes them, and every pattern within the trailer.
-/

namespace CppRcp.E2e

open CppRcp.Foundation CppRcp.Acf

/-- A frame with the bits of an error pattern inverted. -/
def corrupt (frame error : Octets) : Octets :=
  List.zipWith (fun octet pattern => octet ^^^ pattern) frame error

/-- The bits of a pattern lie in a region. -/
def Within (region : Nat → Nat → Prop) (error : Octets) : Prop :=
  ∀ index < error.length, ∀ bit < 8,
    flag (octetAt error index) bit = true → region index bit

instance (region : Nat → Nat → Prop) [∀ index bit, Decidable (region index bit)]
    (error : Octets) : Decidable (Within region error) :=
  inferInstanceAs (Decidable (∀ index < error.length, ∀ bit < 8, _ → _))

/-- 32 consecutive bits, when `place` gives the order within an octet. -/
def Burst (place : Nat → Nat) (start index bit : Nat) : Prop :=
  start ≤ 8 * index + place bit ∧ 8 * index + place bit < start + 32

instance (place : Nat → Nat) (start index bit : Nat) :
    Decidable (Burst place start index bit) :=
  inferInstanceAs (Decidable (_ ∧ _))

/-- The checksum takes the bits of an octet from the least significant one;
the wire carries them from the most significant one. -/
def crcOrder (bit : Nat) : Nat := bit

def wireOrder (bit : Nat) : Nat := 7 - bit

/-- The bits the checksum covers and `unwrap` decodes, without the message
type, the length and the pad field. -/
def CoveredBit (offset index bit : Nat) : Prop :=
  2 ≤ index ∧ index < offset ∧ ¬ (index = 2 ∧ 6 ≤ bit) ∧
    ¬ ReservedBit index bit

instance (offset index bit : Nat) : Decidable (CoveredBit offset index bit) :=
  inferInstanceAs (Decidable (_ ∧ _ ∧ _ ∧ _))

def TrailerBit (offset index _bit : Nat) : Prop :=
  offset ≤ index ∧ index < offset + crcLengthAdjustOctets

instance (offset index bit : Nat) : Decidable (TrailerBit offset index bit) :=
  inferInstanceAs (Decidable (_ ∧ _))

/-! ## Inverted bits -/

private theorem Within.flag_eq_false {region : Nat → Nat → Prop}
    {error : Octets}
    (h : Within region error) {index bit : Nat} (hBit : bit < 8)
    (hOut : ¬ region index bit) : flag (octetAt error index) bit = false := by
  by_cases hIn : index < error.length
  · by_contra hFlag
    exact hOut (h index hIn bit hBit (by simpa using hFlag))
  · rw [octetAt_of_le (by omega)]
    simp [flag]

private theorem length_corrupt {frame error : Octets}
    (h : error.length = frame.length) :
    (corrupt frame error).length = frame.length := by
  unfold corrupt
  rw [List.length_zipWith, h, Nat.min_self]

private theorem flag_corrupt {frame error : Octets}
    (h : error.length = frame.length) (index bit : Nat) :
    flag (octetAt (corrupt frame error) index) bit =
      (flag (octetAt frame index) bit ^^ flag (octetAt error index) bit) := by
  by_cases hIn : index < frame.length
  · have hError : index < error.length := by omega
    simp [octetAt, corrupt, List.getD_eq_getElem?_getD, hIn, hError, flag,
      UInt8.toNat_xor, Nat.testBit_xor]
  · rw [octetAt_of_le (by rw [length_corrupt h]; omega),
      octetAt_of_le (by omega), octetAt_of_le (by omega)]
    simp [flag]

private theorem octetAt_corrupt {frame error : Octets}
    (h : error.length = frame.length) {index : Nat}
    (hClear : ∀ bit < 8, flag (octetAt error index) bit = false) :
    octetAt (corrupt frame error) index = octetAt frame index := by
  apply octetBits_injective
  apply List.map_congr_left
  intro bit hBit
  rw [flag_corrupt h, hClear bit (List.mem_range.mp hBit), Bool.xor_false]

private theorem sameLayout_of {frame frame' : Octets}
    (hType : octetAt frame 0 = octetAt frame' 0)
    (hPad : ∀ bit, 6 ≤ bit → bit < 8 →
      flag (octetAt frame 2) bit = flag (octetAt frame' 2) bit) :
    SameLayout frame frame' := by
  have hField : ∀ octet : UInt8, octet.toNat / 64 % 4 =
      (flag octet 7).toNat * 2 + (flag octet 6).toNat := by
    intro octet
    have hLt := octet.toNat_lt
    unfold flag
    rw [Nat.toNat_testBit, Nat.toNat_testBit]
    omega
  constructor
  · simp only [decodeAcfMessageInfo, hType]
  · simp only [decodeAcfMessageInfo]
    rw [hField, hField, hPad 6 (by decide) (by decide),
      hPad 7 (by decide) (by decide)]

private theorem octets_ext_octetAt {left right : Octets}
    (hLength : left.length = right.length)
    (h : ∀ index < left.length, octetAt left index = octetAt right index) :
    left = right := by
  apply List.ext_getElem hLength
  intro i hi hi'
  have hOctet := h i hi
  simpa [octetAt, List.getD_eq_getElem?_getD, hi, hi'] using hOctet

private theorem take_corrupt {frame error : Octets}
    (h : error.length = frame.length) {count : Nat}
    (hClear : ∀ index < count, ∀ bit < 8,
      flag (octetAt error index) bit = false) :
    (corrupt frame error).take count = frame.take count := by
  apply octets_ext_octetAt
  · simp [length_corrupt h]
  · intro index hIndex
    have hCount : index < count := by
      rw [List.length_take] at hIndex
      omega
    rw [octetAt_take hCount, octetAt_take hCount,
      octetAt_corrupt h (hClear index hCount)]

private theorem drop_corrupt {frame error : Octets}
    (h : error.length = frame.length) {count : Nat}
    (hClear : ∀ index, count ≤ index → ∀ bit < 8,
      flag (octetAt error index) bit = false) :
    (corrupt frame error).drop count = frame.drop count := by
  apply octets_ext_octetAt
  · simp [length_corrupt h]
  · intro index _
    rw [octetAt_drop, octetAt_drop,
      octetAt_corrupt h (hClear _ (Nat.le_add_right count index))]

private theorem corrupt_ne {frame error : Octets}
    (h : error.length = frame.length) (hNonzero : ∃ octet ∈ error, octet ≠ 0) :
    corrupt frame error ≠ frame := by
  intro hSame
  obtain ⟨octet, hMem, hNe⟩ := hNonzero
  obtain ⟨index, hIndex, rfl⟩ := List.getElem_of_mem hMem
  apply hNe
  apply octetBits_injective
  apply List.map_congr_left
  intro bit _
  have hFlag := flag_corrupt h index bit
  rw [hSame] at hFlag
  have hOctet : octetAt error index = error[index] := by
    simp [octetAt, List.getD_eq_getElem?_getD, hIndex]
  rw [← hOctet]
  cases hBit : flag (octetAt error index) bit
  · simp [flag]
  · rw [hBit, Bool.xor_true] at hFlag
    simp at hFlag

/-! ## Detection -/

private theorem trailerAt_inj {frame frame' : Octets} {offset : Nat}
    (hFrame : offset + 4 ≤ frame.length)
    (hFrame' : offset + 4 ≤ frame'.length)
    (h : trailerAt frame offset = trailerAt frame' offset) :
    (frame.drop offset).take 4 = (frame'.drop offset).take 4 := by
  have hLength : ((frame.drop offset).take 4).length = 4 := by
    rw [List.length_take, List.length_drop]
    omega
  have hLength' : ((frame'.drop offset).take 4).length = 4 := by
    rw [List.length_take, List.length_drop]
    omega
  have hLt := getBe_lt ((frame.drop offset).take 4)
  have hLt' := getBe_lt ((frame'.drop offset).take 4)
  have hPut := putBe_getBe ((frame.drop offset).take 4)
  have hPut' := putBe_getBe ((frame'.drop offset).take 4)
  have hWidth : 256 ^ 4 = 2 ^ 32 := by norm_num
  rw [hLength] at hLt hPut
  rw [hLength'] at hLt' hPut'
  rw [hWidth] at hLt hLt'
  have hNat := congrArg UInt32.toNat h
  unfold trailerAt at hNat
  rw [UInt32.toNat_ofNat', UInt32.toNat_ofNat', Nat.mod_eq_of_lt hLt,
    Nat.mod_eq_of_lt hLt'] at hNat
  rw [← hPut, hNat, hPut']

section Detection

variable (framing : Framing) {info : AcfMessageInfo}
  (messageTimestamp : Option UInt64) {payload error : Octets}
  (h : InRange info payload)
  (hLength : error.length =
    (framing.wrap info messageTimestamp payload).length)

include h hLength

private theorem unwrap_corrupt
    (hLayout : SameLayout (framing.wrap info messageTimestamp payload)
      (corrupt (framing.wrap info messageTimestamp payload) error)) :
    let frame := framing.wrap info messageTimestamp payload
    let offset := trailerOffset info payload
    (framing.unwrap (corrupt frame error)).ec =
      if trailerAt (corrupt frame error) offset =
          crc32 (framing.crcPrefix ++
            clearReserved ((corrupt frame error).take offset)) then none
      else some (.e2e .crcError) := by
  intro frame offset
  have hSame := length_corrupt hLength
  have hSized := hLayout.sized hSame
    (sized_wrap framing messageTimestamp h)
  have hEnd := hLayout.realEnd_eq hSame
  rw [realEnd_wrap framing messageTimestamp h] at hEnd
  rw [framing.unwrap_of_sized hSized, hEnd]

omit hLength in
private theorem trailerAt_wrap_inRange :
    let frame := framing.wrap info messageTimestamp payload
    let offset := trailerOffset info payload
    trailerAt frame offset =
        crc32 (framing.crcPrefix ++ frame.take offset) ∧
      ReservedClear (frame.take offset) := by
  intro frame offset
  have hTake := take_realEnd_wrap framing messageTimestamp h
  have hTrailer := trailerAt_wrap framing info messageTimestamp
    h.pad_le_payload
  dsimp only at hTake hTrailer
  constructor
  · rw [hTrailer, hTake, List.append_assoc]
  · rw [← clearReserved_eq_iff, hTake, clearReserved_headerOctets]

private theorem unwrap_of_covered_burst {start : Nat}
    (hNonzero : ∃ octet ∈ error, octet ≠ 0)
    (hCovered : Within (CoveredBit (trailerOffset info payload)) error)
    (hBurst : Within (Burst crcOrder start) error) :
    (framing.unwrap (corrupt
      (framing.wrap info messageTimestamp payload) error)).ec =
        some (.e2e .crcError) := by
  have hNe := corrupt_ne hLength hNonzero
  obtain ⟨hTrailer, hReserved⟩ := trailerAt_wrap_inRange framing
    messageTimestamp h
  have hLayout : SameLayout (framing.wrap info messageTimestamp payload)
      (corrupt (framing.wrap info messageTimestamp payload) error) := by
    apply sameLayout_of
    · symm
      apply octetAt_corrupt hLength
      intro bit hBit
      exact hCovered.flag_eq_false hBit (by simp [CoveredBit])
    · intro bit hPad hBit
      rw [flag_corrupt hLength, hCovered.flag_eq_false hBit
        (by simp [CoveredBit, hPad]), Bool.xor_false]
  rw [unwrap_corrupt framing messageTimestamp h hLength hLayout]
  apply if_neg
  set frame := framing.wrap info messageTimestamp payload
  set offset := trailerOffset info payload
  have hDrop : (corrupt frame error).drop offset = frame.drop offset := by
    apply drop_corrupt hLength
    intro index hIndex bit hBit
    exact hCovered.flag_eq_false hBit (fun hBit => by
      unfold CoveredBit at hBit
      omega)
  have hClear : clearReserved ((corrupt frame error).take offset) =
      (corrupt frame error).take offset := by
    rw [clearReserved_eq_iff]
    intro index bit hBit
    have hBits : bit < 8 := by
      unfold ReservedBit at hBit
      omega
    have hReceived := hReserved index bit hBit
    by_cases hIndex : index < offset
    · rw [octetAt_take hIndex] at hReceived ⊢
      rw [flag_corrupt hLength, hReceived, hCovered.flag_eq_false hBits
        (fun hOpen => hOpen.2.2.2 hBit), Bool.xor_false]
    · rw [octetAt_of_le (by rw [List.length_take]; omega)]
      simp [flag]
  have hKept : trailerAt (corrupt frame error) offset =
      trailerAt frame offset := by
    unfold trailerAt
    rw [hDrop]
  rw [hKept, hTrailer, hClear, @crc32_inj_of_burst _ _ _ start]
  · intro hTake
    apply hNe
    rw [← List.take_append_drop offset (corrupt frame error), hDrop, ← hTake,
      List.take_append_drop]
  · simp [length_corrupt hLength]
  · intro index bit hBit hOut
    by_cases hIndex : index < offset
    · rw [octetAt_take hIndex, octetAt_take hIndex,
        flag_corrupt hLength, hBurst.flag_eq_false hBit, Bool.xor_false]
      unfold Burst crcOrder
      omega
    · rw [octetAt_of_le (by rw [List.length_take]; omega),
        octetAt_of_le (by rw [List.length_take]; omega)]

private theorem unwrap_of_trailer_error
    (hNonzero : ∃ octet ∈ error, octet ≠ 0)
    (hTrailerBits : Within (TrailerBit (trailerOffset info payload)) error) :
    (framing.unwrap (corrupt
      (framing.wrap info messageTimestamp payload) error)).ec =
        some (.e2e .crcError) := by
  have hNe := corrupt_ne hLength hNonzero
  obtain ⟨hTrailer, hReserved⟩ := trailerAt_wrap_inRange framing
    messageTimestamp h
  have hHead := le_headerLen info.acfMsgType
  have hOffset : headerLen info.acfMsgType ≤ trailerOffset info payload :=
    Nat.le_add_right ..
  unfold acfCommonHeaderLen at hHead
  have hFront : ∀ index < trailerOffset info payload, ∀ bit < 8,
      flag (octetAt error index) bit = false := by
    intro index hIndex bit hBit
    exact hTrailerBits.flag_eq_false hBit
      (fun hOpen => absurd hOpen.1 (Nat.not_le.mpr hIndex))
  have hLayout : SameLayout (framing.wrap info messageTimestamp payload)
      (corrupt (framing.wrap info messageTimestamp payload) error) := by
    apply sameLayout_of
    · exact (octetAt_corrupt hLength (hFront 0 (by omega))).symm
    · intro bit _ _
      rw [octetAt_corrupt hLength (hFront 2 (by omega))]
  rw [unwrap_corrupt framing messageTimestamp h hLength hLayout]
  apply if_neg
  have hLong := length_wrap framing messageTimestamp h
  have hPad := h.pad_le_payload
  set frame := framing.wrap info messageTimestamp payload
  set offset := trailerOffset info payload
  rw [take_corrupt hLength hFront, (clearReserved_eq_iff _).mpr hReserved,
    ← hTrailer]
  intro hSame
  apply hNe
  have hTake := take_corrupt hLength hFront
  have hField : ((corrupt frame error).drop offset).take 4 =
      (frame.drop offset).take 4 := by
    have hRoom : offset + 4 ≤ frame.length := by
      unfold crcLengthAdjustOctets at hLong
      unfold offset trailerOffset
      omega
    exact trailerAt_inj (by rw [length_corrupt hLength]; exact hRoom) hRoom
      hSame
  have hRest : ((corrupt frame error).drop offset).drop 4 =
      (frame.drop offset).drop 4 := by
    rw [List.drop_drop, List.drop_drop]
    apply drop_corrupt hLength
    intro index hIndex bit hBit
    exact hTrailerBits.flag_eq_false hBit
      (fun hOpen => absurd hOpen.2 (Nat.not_lt.mpr hIndex))
  rw [← List.take_append_drop offset (corrupt frame error), hTake,
    ← List.take_append_drop 4 (List.drop offset (corrupt frame error)),
    hField, hRest, List.take_append_drop, List.take_append_drop]

/-- A pattern within 32 bits of the checksum's order in the covered octets, or
anywhere in the trailer, is reported. -/
theorem unwrap_of_error
    (hNonzero : ∃ octet ∈ error, octet ≠ 0)
    (hConfined :
      Within (CoveredBit (trailerOffset info payload)) error ∧
          (∃ start, Within (Burst crcOrder start) error) ∨
        Within (TrailerBit (trailerOffset info payload)) error) :
    (framing.unwrap (corrupt
      (framing.wrap info messageTimestamp payload) error)).ec =
        some (.e2e .crcError) := by
  obtain ⟨hCovered, start, hBurst⟩ | hTrailer := hConfined
  · exact unwrap_of_covered_burst framing messageTimestamp h hLength hNonzero
      hCovered hBurst
  · exact unwrap_of_trailer_error framing messageTimestamp h hLength hNonzero
      hTrailer

end Detection

/-! ## Patterns outside the law -/

/-- A protected ABB message of five zero octets; its trailer starts at octet
13. -/
def plainFrame : Octets :=
  (Framing.framed true 0x00 false 0 none).wrap {} none [0, 0, 0, 0, 0]

def wireBurst : Octets :=
  List.replicate 8 0 ++ [115, 149, 195, 75, 128, 0, 0, 0, 0]

def straddlingBurst : Octets :=
  List.replicate 12 0 ++ [186, 193, 55, 67, 0]

def singleError : Octets :=
  List.replicate 8 0 ++ [1, 0, 0, 0, 0, 0, 0, 0, 0]

set_option maxRecDepth 10000 in
/-- Two patterns go unnoticed, and where one is noticed `unwrap` still returns
the corrupted payload. -/
theorem unwrap_bursts :
    let framing := Framing.framed true 0x00 false 0 none
    (Within (CoveredBit 13) wireBurst ∧
      Within (Burst wireOrder 65) wireBurst ∧
      (framing.unwrap (corrupt plainFrame wireBurst)).ec = none) ∧
    (Within (fun index bit => CoveredBit 13 index bit ∨
        TrailerBit 13 index bit) straddlingBurst ∧
      Within (Burst crcOrder 97) straddlingBurst ∧
      (framing.unwrap (corrupt plainFrame straddlingBurst)).ec = none) ∧
    (Within (CoveredBit 13) singleError ∧
      (framing.unwrap (corrupt plainFrame singleError)).ec =
        some (.e2e .crcError) ∧
      (framing.unwrap (corrupt plainFrame singleError)).acfFrame.drop 8 =
        [1, 0, 0, 0, 0]) := by
  decide

/-- The law at one frame: a GBB message with a pad octet, and an error from
its header into its timestamp. -/
theorem unwrap_of_error_timed :
    let framing := Framing.framed false 0x81 true 7 (some 9)
    let info : AcfMessageInfo :=
      { acfMsgType := acfMsgTypeGbb, mtv := true, pad := 1 }
    let frame := framing.wrap info (some 5) [7, 8, 0]
    (framing.unwrap (corrupt frame
      (List.replicate 6 0 ++ [1, 255, 255, 127] ++
        List.replicate 13 0))).ec = some (.e2e .crcError) :=
  unwrap_of_error _ _
    ⟨.inr rfl, by decide, by decide, by decide, by decide⟩ (by decide)
    ⟨1, by decide, by decide⟩ (.inl ⟨by decide, 48, by decide⟩)

end CppRcp.E2e
