import CppRcp.Bringup.DiscoveryResponse
import CppRcp.Properties.FragmentedResponses

/-!
# Discovery responses are read back

A discovery response, cut into fragments of any size, decoded frame by frame
and joined by a reassembler, is the response that was cut, and the registers
in it are read back as long as it has room for them.
-/

namespace CppRcp.Discovery

open CppRcp.Foundation CppRcp.Acf CppRcp.Avtp CppRcp.E2e CppRcp.Endpoint
open CppRcp.Fragment

/-! ## The payload -/

private theorem length_buildGeneralSlicePayload (map : GeneralMap)
    (readSize : UInt8) :
    (buildGeneralSlicePayload map readSize).length = readSize.toNat := by
  simp [buildGeneralSlicePayload, generalSlice, kDiscoveryGeneralSliceLen]

/-- What a client learns of a server. -/
def recognized (map : GeneralMap) (serverStreamId : StreamId) :
    DiscoveryResult where
  valid := true
  serverStreamId
  magic := map.magic
  svrVersion := map.svrVersion
  vendorId := map.vendorId
  deviceId := map.deviceId
  svrEpCount := map.svrEpCount

private theorem decodeReassembled_generalSlice (map : GeneralMap)
    (serverStreamId : StreamId) (reserved : Octets) :
    decodeDiscoveryReassembledResponse (generalSlice map ++ reserved)
        serverStreamId = .ok (recognized map serverStreamId) := by
  have hMagic : (generalSlice map ++ reserved).take 4 =
      putBe 4 map.magic.toNat := rfl
  have hVersion : ((generalSlice map ++ reserved).drop 4).take 4 =
      putBe 4 map.svrVersion.toNat := rfl
  have hVendor : ((generalSlice map ++ reserved).drop 8).take 2 =
      putBe 2 map.vendorId.toNat := rfl
  have hDevice : ((generalSlice map ++ reserved).drop 10).take 2 =
      putBe 2 map.deviceId.toNat := rfl
  have hCount : ((generalSlice map ++ reserved).drop 12).take 2 =
      putBe 2 map.svrEpCount.toNat := rfl
  have hLong : ¬ (generalSlice map ++ reserved).length <
      kDiscoveryGeneralSliceLen := by
    simp [generalSlice, kDiscoveryGeneralSliceLen]
    omega
  unfold decodeDiscoveryReassembledResponse recognized
  rw [if_neg hLong, hMagic, hVersion, hVendor, hDevice, hCount,
    getBe_putBe_of_lt map.magic.toNat_lt,
    getBe_putBe_of_lt map.svrVersion.toNat_lt,
    getBe_putBe_of_lt map.vendorId.toNat_lt,
    getBe_putBe_of_lt map.deviceId.toNat_lt,
    getBe_putBe_of_lt map.svrEpCount.toNat_lt]
  simp

private theorem decodeReassembled_payload {map : GeneralMap} {readSize : UInt8}
    (serverStreamId : StreamId)
    (hRoom : kDiscoveryGeneralSliceLen ≤ readSize.toNat) :
    decodeDiscoveryReassembledResponse (buildGeneralSlicePayload map readSize)
        serverStreamId = .ok (recognized map serverStreamId) := by
  have hWhole : (generalSlice map).take kDiscoveryGeneralSliceLen =
      generalSlice map :=
    List.take_of_length_le (by simp [generalSlice, kDiscoveryGeneralSliceLen])
  unfold buildGeneralSlicePayload
  dsimp only
  rw [Nat.min_eq_right hRoom, hWhole]
  exact decodeReassembled_generalSlice map serverStreamId _

/-! ## One frame -/

section Frame

variable {serverStreamId : StreamId} {sequenceNum : UInt8}
  {info : AcfMessageInfo} {payload : Octets}

private theorem decodeCommonFrame_encode
    (hBus : info.byteBusId = kDiscoveryByteBusId) (hRead : info.op = false) :
    ∃ header : NtscfHeader, header.streamId = serverStreamId ∧
      decodeCommonFrame
          (encodeResponseFrame serverStreamId sequenceNum info payload) =
        .ok (header, (AcfMessage.header (.abb info payload)).truncated,
          payload) := by
  obtain ⟨header, hStream, hHeader⟩ : ∃ header : NtscfHeader,
      header.streamId = serverStreamId ∧
        decodeNtscfHeader (encodeResponseFrame serverStreamId sequenceNum info
          payload) = .ok header :=
    ⟨_, rfl, decode_encodeNtscfHeader _ _⟩
  have hMessage := AcfMessage.decodeAcfAbb_encode info payload
  have hBusOnWire :
      (AcfMessage.header (.abb info payload)).truncated.byteBusId =
        kDiscoveryByteBusId := by
    simp [AcfMessageInfo.truncated, AcfMessage.header, AcfMessage.info, hBus,
      kDiscoveryByteBusId]
  have hOpOnWire : (AcfMessage.header (.abb info payload)).truncated.op =
      false := hRead
  have hLength :
      (encodeResponseFrame serverStreamId sequenceNum info payload).length =
        ntscfHeaderLen + (encodeAcfAbb info payload).length := by
    simp [encodeResponseFrame]
  have hSubtype : shouldDropDiscovery (octetAt (encodeResponseFrame
      serverStreamId sequenceNum info payload) 0) = false := rfl
  have hRest : (encodeResponseFrame serverStreamId sequenceNum info
      payload).drop ntscfHeaderLen =
        AcfMessage.encode (.abb info payload) :=
    List.drop_left' (length_encodeNtscfHeader _)
  unfold ntscfHeaderLen at hLength hRest
  refine ⟨header, hStream, ?_⟩
  unfold decodeCommonFrame ntscfHeaderLen
  rw [if_neg (by omega), hSubtype, if_neg (by simp), hHeader]
  dsimp only
  rw [if_neg (by omega), hRest, hMessage]
  dsimp only
  rw [if_neg (by simp [hBusOnWire]), hOpOnWire]
  rfl

theorem decodeFragment_encode (hBus : info.byteBusId = kDiscoveryByteBusId)
    (hRead : info.op = false) :
    decodeDiscoveryResponseFragment
        (encodeResponseFrame serverStreamId sequenceNum info payload) =
      .ok
        ⟨serverStreamId, info.ms,
          (UInt16.ofNat (info.readSizeOrSegmentNum.toNat % 4096)).toUInt8,
          payload⟩ := by
  obtain ⟨header, hStream, hDecoded⟩ :=
    @decodeCommonFrame_encode serverStreamId sequenceNum info payload hBus
      hRead
  unfold decodeDiscoveryResponseFragment
  rw [hDecoded, ← hStream]
  rfl

private theorem decodeResponse_encode {map : GeneralMap}
    {transactionNum readSize : UInt8}
    (hRoom : kDiscoveryGeneralSliceLen ≤ readSize.toNat) :
    decodeDiscoveryResponse
        (encodeDiscoveryResponse map serverStreamId sequenceNum transactionNum
          readSize) = .ok (recognized map serverStreamId) := by
  obtain ⟨header, hStream, hDecoded⟩ :=
    @decodeCommonFrame_encode serverStreamId sequenceNum
      (makeDiscoveryResponse readSize transactionNum)
      (buildGeneralSlicePayload map readSize) rfl rfl
  unfold decodeDiscoveryResponse encodeDiscoveryResponse
  rw [hDecoded]
  dsimp only
  rw [hStream]
  exact decodeReassembled_payload serverStreamId hRoom

end Frame

/-! ## All fragments -/

private theorem planCount_le (readSize : UInt8) {ceiling : Nat}
    (hPos : 0 < ceiling) :
    planCount readSize.toNat ceiling ≤ 255 := by
  have hSize := readSize.toNat_lt
  by_cases hFits : readSize.toNat ≤ ceiling
  · rw [planCount_of_le hFits hPos]
    decide
  · have hCount : planCount readSize.toNat ceiling ≠ 0 :=
      planCount_ne_zero hPos (by unfold defaultReassemblyCapacity; omega)
    obtain ⟨-, -, hBelow, -⟩ :=
      planCount_spec (Nat.lt_of_not_le hFits) hCount
    have hMul : planCount readSize.toNat ceiling - 1 ≤
        (planCount readSize.toNat ceiling - 1) * ceiling :=
      Nat.le_mul_of_pos_right _ hPos
    omega

private theorem feedOne_last_number (reasm : Reassembler)
    (number number' : UInt16) (payload : Octets) :
    reasm.feedOne ⟨false, number, payload⟩ =
      reasm.feedOne ⟨false, number', payload⟩ := by
  simp [Reassembler.feedOne, Reassembler.feed]

section Fragments

variable {map : GeneralMap} {serverStreamId : StreamId}
  {sequenceNum transactionNum readSize : UInt8} {ceiling : Nat}

def sentFragment (map : GeneralMap) (serverStreamId : StreamId)
    (readSize : UInt8) (segment : Segment) : ResponseFragment where
  serverStreamId
  ms := segment.ms
  segmentNum :=
    if segment.ms then segment.segmentNum.toUInt8 else readSize
  payload := segment.slice (buildGeneralSlicePayload map readSize)

private theorem decodeFragment_segment (segment : Segment) :
    decodeDiscoveryResponseFragment
        (encodeResponseFrame serverStreamId sequenceNum
          (fragmentInfo readSize transactionNum segment)
          (segment.slice (buildGeneralSlicePayload map readSize))) =
      .ok (sentFragment map serverStreamId readSize segment) := by
  rw [decodeFragment_encode rfl rfl]
  unfold sentFragment fragmentInfo
  cases hMs : segment.ms with
  | false =>
      simp only [Bool.false_eq_true, if_false]
      congr 2
      apply UInt8.toNat_inj.mp
      simp
  | true =>
      simp only [if_true]
      congr 2
      apply UInt8.toNat_inj.mp
      simp

private theorem feedOne_sentFragment {segment : Segment}
    (hNumber : segment.segmentNum.toNat < 255) (reasm : Reassembler) :
    reasm.feedOne (sentFragment map serverStreamId readSize segment).fed =
      reasm.feedOne
        (segment.fed (buildGeneralSlicePayload map readSize)) := by
  unfold sentFragment ResponseFragment.fed Segment.fed
  cases hMs : segment.ms with
  | false => exact feedOne_last_number reasm _ _ _
  | true =>
      have hSame : segment.segmentNum.toUInt8.toUInt16 = segment.segmentNum := by
        apply UInt16.toNat_inj.mp
        simp
        omega
      simp only [if_true, hSame]

theorem encodeFragmented_single {maxFragmentPayload : Nat}
    (hFits : readSize.toNat ≤ maxFragmentPayload)
    (hPos : 0 < maxFragmentPayload) :
    encodeDiscoveryResponseFragmented map serverStreamId sequenceNum
        transactionNum readSize maxFragmentPayload =
      [encodeDiscoveryResponse map serverStreamId sequenceNum transactionNum
        readSize] := by
  have hOne : planCount readSize.toNat maxFragmentPayload = 1 :=
    planCount_of_le hFits hPos
  have hSlice : (Segment.mk 0 readSize.toNat false 0).slice
      (buildGeneralSlicePayload map readSize) =
        buildGeneralSlicePayload map readSize := by
    rw [Segment.slice, List.drop_zero, List.take_of_length_le]
    exact (length_buildGeneralSlicePayload map readSize).le
  unfold encodeDiscoveryResponseFragmented discoveryResponseFragmentCount
  simp only [hOne, plan, one_ne_zero, if_false, ne_eq, not_true_eq_false,
    if_true, List.map_singleton, hSlice]
  rfl

private theorem mapM_decodeFragment {maxFragmentPayload : Nat}
    {segments : List Segment}
    (hSome : planCount readSize.toNat maxFragmentPayload ≠ 0)
    (hPlan : plan readSize.toNat maxFragmentPayload
      (planCount readSize.toNat maxFragmentPayload) = .ok segments) :
    (encodeDiscoveryResponseFragmented map serverStreamId sequenceNum
        transactionNum readSize maxFragmentPayload).mapM
        decodeDiscoveryResponseFragment =
      .ok (segments.map (sentFragment map serverStreamId readSize)) := by
  have hFrames : encodeDiscoveryResponseFragmented map serverStreamId
      sequenceNum transactionNum readSize maxFragmentPayload =
        segments.map fun segment =>
          encodeResponseFrame serverStreamId sequenceNum
            (fragmentInfo readSize transactionNum segment)
            (segment.slice (buildGeneralSlicePayload map readSize)) := by
    unfold encodeDiscoveryResponseFragmented discoveryResponseFragmentCount
    rw [if_neg hSome, hPlan]
  rw [hFrames, List.mapM_map]
  exact mapM_ok fun segment _ => decodeFragment_segment segment

private theorem run_sentFragments {segments : List Segment}
    {reasm : Reassembler}
    (hNumber : ∀ segment ∈ segments, segment.segmentNum.toNat < 255) :
    run Reassembler.feedOne reasm
        ((segments.map (sentFragment map serverStreamId readSize)).map
          ResponseFragment.fed) =
      run Reassembler.feedOne reasm
        (segments.map
          (Segment.fed (buildGeneralSlicePayload map readSize))) := by
  rw [List.map_map]
  exact run_map_congr _ (fun segment hSegment reasm =>
    feedOne_sentFragment (hNumber segment hSegment) reasm) _

end Fragments

/-- Encoded in fragments of any size, decoded one by one and fed in order to
a reassembler with room for it, a discovery response is joined again, and
tells the registers of the server and its stream, as it does in one frame. -/
theorem discovery_response_round_trip (map : GeneralMap)
    (serverStreamId : StreamId) (sequenceNum transactionNum readSize : UInt8)
    (maxFragmentPayload : Nat) (reasm : Reassembler)
    (hRoom : kDiscoveryGeneralSliceLen ≤ readSize.toNat)
    (hPos : 0 < maxFragmentPayload)
    (hFits : readSize.toNat ≤ reasm.maxTotalLen) :
    decodeDiscoveryResponse
        (encodeDiscoveryResponse map serverStreamId sequenceNum transactionNum
          readSize) = .ok (recognized map serverStreamId) ∧
    ∃ fragments,
      (encodeDiscoveryResponseFragmented map serverStreamId sequenceNum
          transactionNum readSize maxFragmentPayload).mapM
          decodeDiscoveryResponseFragment = .ok fragments ∧
        fragments.length =
          discoveryResponseFragmentCount readSize maxFragmentPayload ∧
        (∀ fragment ∈ fragments, fragment.serverStreamId = serverStreamId) ∧
        (run Reassembler.feedOne reasm.reset
            (fragments.map ResponseFragment.fed)).2 =
          List.replicate (fragments.length - 1) .continue ++ [.complete] ∧
        (run Reassembler.feedOne reasm.reset
            (fragments.map ResponseFragment.fed)).1.buf =
          buildGeneralSlicePayload map readSize ∧
        decodeDiscoveryReassembledResponse
            (run Reassembler.feedOne reasm.reset
              (fragments.map ResponseFragment.fed)).1.buf serverStreamId =
          .ok (recognized map serverStreamId) := by
  refine ⟨decodeResponse_encode hRoom, ?_⟩
  have hSize := readSize.toNat_lt
  have hLength := length_buildGeneralSlicePayload map readSize
  have hShort : (buildGeneralSlicePayload map readSize).length ≤
      min reasm.maxTotalLen defaultReassemblyCapacity := by
    unfold defaultReassemblyCapacity
    omega
  obtain ⟨segments, hPlan, hCount, hTiles, hOutputs, hBuf⟩ :=
    plan_joined (buildGeneralSlicePayload map readSize) maxFragmentPayload
      reasm hPos hShort
  rw [hLength] at hPlan hCount hTiles
  have hFew := planCount_le readSize hPos
  have hNumber : ∀ segment ∈ segments, segment.segmentNum.toNat < 255 := by
    intro segment hSegment
    obtain ⟨i, hi⟩ := List.mem_iff_getElem?.mp hSegment
    rw [hTiles.number i segment hi]
    split <;> omega
  have hNonempty : planCount readSize.toNat maxFragmentPayload ≠ 0 := by
    rw [← hCount]
    exact List.length_pos_iff.mpr hTiles.nonempty |>.ne'
  have hDecoded := @mapM_decodeFragment map serverStreamId sequenceNum
    transactionNum readSize maxFragmentPayload segments hNonempty hPlan
  have hFed := @run_sentFragments map serverStreamId readSize segments
    reasm.reset hNumber
  refine ⟨_, hDecoded, by rw [List.length_map, hCount]; rfl, ?_, ?_, ?_, ?_⟩
  · simp [sentFragment]
  · rw [hFed, hOutputs, List.length_map]
  · rw [hFed, hBuf]
  · rw [hFed, hBuf]
    exact decodeReassembled_payload serverStreamId hRoom

theorem discovery_response_in_four :
    ∃ fragments,
      (encodeDiscoveryResponseFragmented { vendorId := 0x1234 } 7 0 42 20
          6).mapM decodeDiscoveryResponseFragment = .ok fragments ∧
        fragments.length = 4 ∧
        decodeDiscoveryReassembledResponse
            (run Reassembler.feedOne (Reassembler.reset { maxTotalLen := 20 })
              (fragments.map ResponseFragment.fed)).1.buf 7 =
          .ok (recognized { vendorId := 0x1234 } 7) := by
  obtain ⟨-, fragments, hDecoded, hLength, -, -, -, hResult⟩ :=
    discovery_response_round_trip { vendorId := 0x1234 } 7 0 42 20 6
      { maxTotalLen := 20 } (by decide) (by decide) (by decide)
  exact ⟨fragments, hDecoded, hLength.trans (by decide), hResult⟩

end CppRcp.Discovery
