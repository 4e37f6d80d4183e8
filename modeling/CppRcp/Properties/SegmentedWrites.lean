import CppRcp.Properties.PaddedWrites
import CppRcp.Properties.RoutedResponses

/-!
# A write request in segments

Segments in order are collected without their pad octets, and the last one is
dispatched with the joined payload under its own header.
-/

namespace CppRcp.Mock

open CppRcp.Foundation CppRcp.Acf CppRcp.E2e CppRcp.Regmap CppRcp.Fragment
open CppRcp.Server

/-! ## Fragments that go through -/

private theorem decodeAcfFrame_of_headed {message : Octets} (h : Headed message)
    {isGbb : Bool} (hGbb : isGbb =
      decide ((decodeAcfMessageInfo message).acfMsgType = acfMsgTypeGbb)) :
    ∃ ts, ((decodeAcfMessageInfo message).acfMsgType = acfMsgTypeGbb →
        ts = getBe ((message.drop acfCommonHeaderLen).take 8)) ∧
      decodeAcfFrame message isGbb =
        .ok (decodeAcfMessageInfo message, ts, payloadOf message) := by
  unfold decodeAcfFrame
  rw [hGbb]
  rcases h.known with hType | hType
  · refine ⟨0, ?_, ?_⟩
    · rw [hType]
      intro hNever
      exact absurd hNever (by decide)
    · simp [decodeAcfAbb_of_headed h hType, hType, acfMsgTypeAbb,
        acfMsgTypeGbb]
  · exact ⟨_, fun _ => rfl, by simp [decodeAcfGbb_of_headed h hType, hType]⟩

private theorem getBe_stamp {info : AcfMessageInfo} {messageTimestamp : Nat}
    (hLt : messageTimestamp < 256 ^ 8) (rest : Octets)
    (hType : info.acfMsgType = acfMsgTypeGbb) :
    getBe (((headerOctets info messageTimestamp ++ rest).drop
      acfCommonHeaderLen).take 8) = messageTimestamp := by
  have hDrop : (headerOctets info messageTimestamp ++ rest).drop
      acfCommonHeaderLen = putBe 8 messageTimestamp ++ rest := by
    unfold headerOctets
    rw [if_pos hType, List.append_assoc]
    rfl
  rw [hDrop, List.take_left' (length_putBe ..), getBe_putBe_of_lt hLt]

private theorem headed_unwrapped {fragment : Octets} (hSized : Sized fragment)
    (hKnown : KnownType fragment) (streamId : StreamId) :
    let rest := (unwrapFramed streamId fragment).acfFrame
    (unwrapFramed streamId fragment).ec ≠ some (.e2e .shortFrame) ∧
      Headed rest ∧
      (decodeAcfMessageInfo rest).acfMsgType =
        (decodeAcfMessageInfo fragment).acfMsgType ∧
      ((decodeAcfMessageInfo fragment).acfMsgType = acfMsgTypeGbb →
        getBe ((rest.drop acfCommonHeaderLen).take 8) =
          getBe ((fragment.drop acfCommonHeaderLen).take 8)) := by
  intro rest
  have hStamp : getBe ((fragment.drop acfCommonHeaderLen).take 8) <
      256 ^ 8 := by
    refine (getBe_lt _).trans_le (Nat.pow_le_pow_right (by decide) ?_)
    rw [List.length_take]
    exact Nat.min_le_left _ _
  have hUnwrap := Framing.unwrap_of_sized
    (Framing.framed true 0x00 false streamId none) hSized
  rw [← unwrapFramed_eq] at hUnwrap
  have hRest : rest = _ := congrArg UnwrapResult.acfFrame hUnwrap
  dsimp only at hRest
  rw [List.append_assoc] at hRest
  have hType : (decodeAcfMessageInfo rest).acfMsgType =
      (decodeAcfMessageInfo fragment).acfMsgType := by
    rw [hRest, decode_headerOctets, truncated_restamped,
      truncated_decodeAcfMessageInfo]
  refine ⟨?_, ⟨?_, ?_⟩, hType, ?_⟩
  · rw [hUnwrap]
    dsimp only
    split <;> simp
  · rw [hType]
    exact hKnown
  · rw [hType, hRest, List.length_append, length_headerOctets]
    exact Nat.le_add_right _ _
  · intro hGbb
    rw [hRest]
    exact getBe_stamp hStamp _ hGbb

namespace Server

section Turns

variable {server : Server} {slot : Nat} {fragment : Octets}

private theorem feedIntermediate_continues (h : Headed fragment)
    {again : Reassembler}
    (hFeed : (server.fragReassemblers.get slot).feed true
      (decodeAcfMessageInfo fragment).readSizeOrSegmentNum
      (segmentPayload fragment) = (again, .continue)) :
    server.feedIntermediate slot fragment =
      ({ server with
          fragReassemblers := server.fragReassemblers.set slot again
          fragFirstHeaders :=
            if (server.fragReassemblers.get slot).collecting then
              server.fragFirstHeaders
            else server.fragFirstHeaders.set slot (rawHeader fragment) },
        ⟨some (.dispatch .fragmentPending), {}, []⟩) := by
  obtain ⟨ts, -, hDecode⟩ := decodeAcfFrame_of_headed h rfl
  have hPayload : trimWirePad (payloadOf fragment)
      (decodeAcfMessageInfo fragment).pad = segmentPayload fragment := rfl
  unfold feedIntermediate
  simp only [hDecode, hPayload, hFeed, setReassembler]
  cases hCollecting : (server.fragReassemblers.get slot).collecting with
  | true => rfl
  | false => rfl

private theorem feedFinal_completes {streamId : StreamId}
    (hSized : Sized fragment) (hKnown : KnownType fragment)
    (hFits : (server.fragReassemblers.get slot).fits
      (lastPayload fragment).length = true)
    (hCrc : lastTrailer fragment = computeFragmentedCrc streamId
      (server.fragFirstHeaders.get slot)
      ((server.fragReassemblers.get slot).buf ++ lastPayload fragment)) :
    ∃ header ts,
      header.resized = (decodeAcfMessageInfo fragment).resized ∧
      ((decodeAcfMessageInfo fragment).acfMsgType = acfMsgTypeGbb →
        ts = getBe ((fragment.drop acfCommonHeaderLen).take 8)) ∧
      server.feedFinal streamId slot fragment =
        let type := (decodeAcfMessageInfo fragment).acfMsgType
        let later := server.resetReassembler slot
        let joined :=
          (server.fragReassemblers.get slot).buf ++ lastPayload fragment
        if maxPayloadOf type < joined.length then
          (later, setErrorResponse header (.regmap .requestRejected))
        else later.dispatchReassembled streamId header ts
          (decide (type = acfMsgTypeGbb)) joined := by
  obtain ⟨hShort, hHeaded, hType, hStamp⟩ :=
    headed_unwrapped hSized hKnown streamId
  have hGbb : decide ((decodeAcfMessageInfo fragment).acfMsgType =
      acfMsgTypeGbb) = decide ((decodeAcfMessageInfo
        (unwrapFramed streamId fragment).acfFrame).acfMsgType =
          acfMsgTypeGbb) := by
    rw [hType]
  obtain ⟨ts, hTs, hDecode⟩ := decodeAcfFrame_of_headed hHeaded hGbb
  obtain ⟨hHeader, hPayload⟩ := decode_unwrapped hShort hDecode
  refine ⟨_, ts, hHeader, ?_, ?_⟩
  · intro hIsGbb
    rw [hTs (hType.trans hIsGbb), hStamp hIsGbb]
  · have hLong : ¬ fragment.length < crcLengthAdjustOctets +
        (decodeAcfMessageInfo fragment).pad.toNat := by
      have hHead := hSized.2
      omega
    have hFeed := @Reassembler.feedOne_last
      (server.fragReassemblers.get slot) ⟨false, 0, lastPayload fragment⟩ rfl
      hFits
    have hTrailer : trailerAt fragment (fragment.length -
        crcLengthAdjustOctets - (decodeAcfMessageInfo fragment).pad.toNat) =
          lastTrailer fragment := rfl
    unfold Reassembler.feedOne at hFeed
    unfold feedFinal
    simp only [if_neg hLong, if_neg hShort, hDecode, hPayload, hFeed, hTrailer,
      hCrc, ne_eq]
    simp only [setReassembler, not_true_eq_false, if_false, maxPayloadOf,
      decide_eq_true_eq, resetReassembler]
    rfl

end Turns

section Entry

variable {server : Server} {streamId : StreamId} {fragment : Octets}
  (hFault : server.streamFaultTracker.isFaulted streamId = false)
  (hLong : acfCommonHeaderLen ≤ fragment.length)
  (hCrc : server.regs.reqCrcEnabled
    (decodeAcfMessageInfo fragment).byteBusId = true)

include hFault hLong hCrc

theorem dispatchE2eFragment_eq :
    server.dispatchE2eFragment streamId fragment =
      let kicked := server.rxWatchdogKick streamId 0
      let slot := slotOf (server.streamIndex streamId)
      if server.streamIndex streamId = 0 then
        kicked.dispatchE2eCore streamId 0 fragment true
      else if (decodeAcfMessageInfo fragment).ms then
        kicked.feedIntermediate slot fragment
      else if (server.fragReassemblers.get slot).collecting then
        kicked.feedFinal streamId slot fragment
      else kicked.dispatchE2eCore streamId 0 fragment true := by
  have hKickRegs := regs_rxWatchdogKick server streamId 0
  have hFaults := streamFaultTracker_rxWatchdogKick server streamId 0
  have hReassemblers := fragReassemblers_rxWatchdogKick server streamId 0
  have hIndex := streamIndex_rxWatchdogKick server streamId streamId 0
  unfold dispatchE2eFragment dispatchE2eFragmentCore
  generalize server.rxWatchdogKick streamId 0 = kicked at *
  dsimp only
  rw [hFaults, hFault, if_neg Bool.false_ne_true]
  unfold dispatchFragmentUnfaulted
  rw [if_neg (Nat.not_lt.mpr hLong)]
  simp only [hKickRegs, hCrc, hIndex, hReassemblers, Bool.not_true,
    Bool.false_eq_true, if_false]
  cases (server.fragReassemblers.get
    (slotOf (server.streamIndex streamId))).collecting with
  | true => rfl
  | false => rfl

end Entry

end Server

/-! ## The segments of a write -/

section Segments

variable (request : WriteRequest)

private theorem segment_eq (part : PaddedPayload) (number : Nat) :
    request.segment part number =
      headerOctets
        { request.info with
          ms := true
          readSizeOrSegmentNum := UInt16.ofNat number
          pad := part.pad
          acfMsgLength :=
            computeAcfMsgLength request.info.acfMsgType part.octets.length }
        request.messageTimestamp.toNat ++ part.octets :=
  @WriteRequest.encodeAcf_filled_in request
    { request.info with
      ms := true
      readSizeOrSegmentNum := UInt16.ofNat number
      pad := part.pad
      acfMsgLength := 0 } rfl rfl rfl part.octets

private theorem ofNat_pad (part : PaddedPayload) :
    UInt8.ofNat (part.pad.toNat % 4) = part.pad := by
  rw [Nat.mod_eq_of_lt part.pad_lt, UInt8.ofNat_toNat]

private theorem decode_segment (part : PaddedPayload) {number : Nat}
    (hNumber : number < 4096) :
    decodeAcfMessageInfo (request.segment part number) =
      { request.info with
        ms := true
        readSizeOrSegmentNum := UInt16.ofNat number
        pad := part.pad
        acfMsgLength := UInt16.ofNat
          ((computeAcfMsgLength request.info.acfMsgType
            part.octets.length).toNat % 512) } := by
  have hKept : (UInt16.ofNat number).toNat % 4096 = number := by
    rw [UInt16.toNat_ofNat']
    omega
  rw [segment_eq, decode_headerOctets, request.truncated_stamped, ofNat_pad,
    hKept]

private theorem headed_segment (part : PaddedPayload) {number : Nat}
    (hNumber : number < 4096) : Headed (request.segment part number) := by
  have hDecode := decode_segment request part hNumber
  constructor
  · rw [hDecode]
    exact request.known
  · rw [hDecode, segment_eq, List.length_append, length_headerOctets]
    exact Nat.le_add_right _ _

private theorem segmentPayload_segment (part : PaddedPayload) {number : Nat}
    (hNumber : number < 4096) :
    segmentPayload (request.segment part number) = part.data := by
  have hDrop : (request.segment part number).drop
      (headerLen request.info.acfMsgType) = part.octets := by
    rw [segment_eq]
    exact List.drop_left' (length_headerOctets _ _)
  unfold segmentPayload
  rw [decode_segment request part hNumber]
  dsimp only
  rw [hDrop, trimWirePad_octets]

variable (last : PaddedPayload) (crc : UInt32)

private theorem decode_lastSegment :
    decodeAcfMessageInfo (request.lastSegment last crc) =
      { request.info with
        pad := last.pad
        acfMsgLength := UInt16.ofNat
          ((computeAcfMsgLength request.info.acfMsgType last.data.length +
            crcLengthAdjustQuadlets).toNat % 512) } := by
  have hRead := congrArg AcfMessageInfo.readSizeOrSegmentNum request.fits
  have hTruncated := request.truncated_stamped request.info.ms
    request.info.readSizeOrSegmentNum
    (computeAcfMsgLength request.info.acfMsgType last.data.length +
      crcLengthAdjustQuadlets) last.pad
  simp only [AcfMessageInfo.truncated] at hRead
  rw [hRead, ofNat_pad] at hTruncated
  unfold WriteRequest.lastSegment
  rw [List.append_assoc, List.append_assoc, decode_headerOctets]
  exact hTruncated

private theorem length_lastSegment :
    (request.lastSegment last crc).length =
      headerLen request.info.acfMsgType + last.data.length +
        crcLengthAdjustOctets + last.pad.toNat := by
  unfold WriteRequest.lastSegment
  rw [List.length_append, List.length_append, List.length_append,
    length_headerOctets, length_putBe, last.toNat_pad]
  rfl

private theorem sized_lastSegment : Sized (request.lastSegment last crc) := by
  have hHead := le_headerLen request.info.acfMsgType
  unfold Sized
  rw [decode_lastSegment, length_lastSegment]
  dsimp only
  omega

private theorem realEnd_lastSegment :
    (request.lastSegment last crc).length - crcLengthAdjustOctets -
        (decodeAcfMessageInfo (request.lastSegment last crc)).pad.toNat =
      (headerOctets (request.lastHeader last)
        request.messageTimestamp.toNat ++ last.data).length := by
  rw [decode_lastSegment, length_lastSegment, List.length_append,
    length_headerOctets]
  dsimp only [WriteRequest.lastHeader]
  omega

private theorem lastPayload_lastSegment :
    lastPayload (request.lastSegment last crc) = last.data := by
  have hType : (decodeAcfMessageInfo
      (request.lastSegment last crc)).acfMsgType =
        (request.lastHeader last).acfMsgType := by
    rw [decode_lastSegment]
    rfl
  unfold lastPayload
  rw [realEnd_lastSegment, hType]
  unfold WriteRequest.lastSegment
  rw [List.append_assoc _ _ last.padding, List.take_left,
    List.drop_left' (length_headerOctets _ _)]

private theorem lastTrailer_lastSegment :
    lastTrailer (request.lastSegment last crc) = crc := by
  unfold lastTrailer
  rw [realEnd_lastSegment]
  exact trailerAt_append _ _ crc

end Segments

/-! ## Collecting them -/

/-- The server has collected the first parts of the request in a slot, and is
otherwise as it was. -/
structure HoldsParts (start server : Server) (slot : Nat) (request : WriteRequest)
    (parts : List PaddedPayload) : Prop where
  buses : SameBuses start server
  regs : server.regs = start.regs
  faults : server.streamFaultTracker = start.streamFaultTracker
  collecting : (server.fragReassemblers.get slot).collecting = !parts.isEmpty
  next : (server.fragReassemblers.get slot).nextSegmentNum =
    UInt16.ofNat parts.length
  buf : (server.fragReassemblers.get slot).buf =
    (parts.map PaddedPayload.data).flatten
  capacity : (server.fragReassemblers.get slot).capacity =
    (start.fragReassemblers.get slot).capacity
  header : ∀ first, parts.head? = some first →
    server.fragFirstHeaders.get slot = rawHeader (request.segment first 0)

theorem holdsParts_nil {server : Server} {slot : Nat} (request : WriteRequest)
    (hIdle : (server.fragReassemblers.get slot).collecting = false ∧
      (server.fragReassemblers.get slot).buf = []) :
    HoldsParts server server slot request [] where
  buses := .refl server
  regs := rfl
  faults := rfl
  collecting := hIdle.1
  next := by
    simp [Reassembler.nextSegmentNum, hIdle.1]
  buf := hIdle.2
  capacity := rfl
  header := by simp

theorem HoldsParts.kick {start server : Server} {slot : Nat}
    {request : WriteRequest} {parts : List PaddedPayload}
    (h : HoldsParts start server slot request parts) (streamId : StreamId) :
    HoldsParts start (server.rxWatchdogKick streamId 0) slot request parts := by
  have hBuses := Server.sameBuses_rxWatchdogKick server streamId 0
  have hRegs := Server.regs_rxWatchdogKick server streamId 0
  have hFaults := Server.streamFaultTracker_rxWatchdogKick server streamId 0
  have hReassemblers :=
    Server.fragReassemblers_rxWatchdogKick server streamId 0
  have hHeaders := fragFirstHeaders_rxWatchdogKick server streamId 0
  generalize server.rxWatchdogKick streamId 0 = kicked at *
  constructor
  case buses => exact h.buses.trans hBuses
  case regs => rw [hRegs, h.regs]
  case faults => rw [hFaults, h.faults]
  case header => rw [hHeaders]; exact h.header
  all_goals rw [hReassemblers]
  case collecting => exact h.collecting
  case next => exact h.next
  case buf => exact h.buf
  case capacity => exact h.capacity

theorem HoldsParts.fits {start server : Server} {slot : Nat}
    {request : WriteRequest} {parts : List PaddedPayload}
    (h : HoldsParts start server slot request parts) (part : PaddedPayload)
    (hRoom : ((parts.map PaddedPayload.data).flatten ++ part.data).length ≤
      (start.fragReassemblers.get slot).capacity) :
    (server.fragReassemblers.get slot).fits part.data.length = true := by
  rw [Reassembler.fits_iff, h.capacity, h.buf]
  rw [List.length_append] at hRoom
  omega

theorem HoldsParts.snoc {start server : Server} {slot : Nat}
    {request : WriteRequest} {parts : List PaddedPayload}
    (h : HoldsParts start server slot request parts)
    (hSlot : slot < tableMaxEntries) (part : PaddedPayload)
    (hNumber : parts.length < 4096)
    (hRoom : ((parts.map PaddedPayload.data).flatten ++ part.data).length ≤
      (start.fragReassemblers.get slot).capacity) :
    let result :=
      server.feedIntermediate slot (request.segment part parts.length)
    HoldsParts start result.1 slot request (parts ++ [part]) ∧
      result.2 = ⟨some (.dispatch .fragmentPending), {}, []⟩ := by
  have hDecode := decode_segment request part hNumber
  have hPayload := segmentPayload_segment request part hNumber
  have hFeed := @Reassembler.feedOne_intermediate
    (server.fragReassemblers.get slot)
    ⟨true, UInt16.ofNat parts.length, part.data⟩ rfl h.next.symm
    (h.fits part hRoom)
  dsimp only [Reassembler.feedOne] at hFeed
  have hRead : (decodeAcfMessageInfo
      (request.segment part parts.length)).readSizeOrSegmentNum =
        UInt16.ofNat parts.length := by
    rw [hDecode]
  rw [← hPayload, ← hRead] at hFeed
  rw [Server.feedIntermediate_continues (headed_segment request part hNumber)
    hFeed]
  refine ⟨?_, rfl⟩
  constructor
  case buses => exact ⟨h.buses.lifecycle, h.buses.peripherals, h.buses.admissions⟩
  case regs => exact h.regs
  case faults => exact h.faults
  case header =>
    intro first hFirst
    cases parts with
    | nil =>
        have hIdle : (server.fragReassemblers.get slot).collecting = false :=
          h.collecting
        cases hFirst
        simp only [hIdle, Bool.false_eq_true, if_false, List.length_nil]
        exact Table.get_set_self hSlot
    | cons head rest =>
        have hMore : (server.fragReassemblers.get slot).collecting = true :=
          h.collecting
        simp only [hMore, if_true]
        exact h.header first hFirst
  all_goals
    dsimp only
    rw [Table.get_set_self hSlot]
  case collecting => simp
  case next =>
    simp [Reassembler.nextSegmentNum, hRead]
  case buf =>
    simp only [hPayload, h.buf]
    simp
  case capacity => exact h.capacity

def pendingReply : Reply := ⟨some (.dispatch .fragmentPending), {}, []⟩

/-- The messages of parts that follow `count` others. -/
def segmentsFrom (request : WriteRequest) (parts : List PaddedPayload)
    (count : Nat) : List Octets :=
  (parts.zipIdx count).map fun part => request.segment part.1 part.2

section Collecting

variable {start : Server} {streamId : StreamId} {request : WriteRequest}
  (hProtects : Protects start streamId request)
  (hIndex : start.streamIndex streamId ≠ 0)

include hProtects hIndex

theorem HoldsParts.dispatch {server : Server} {parts : List PaddedPayload}
    (h : HoldsParts start server (Server.slotOf (start.streamIndex streamId))
      request parts) (part : PaddedPayload) (hNumber : parts.length < 4096)
    (hRoom : ((parts.map PaddedPayload.data).flatten ++ part.data).length ≤
      (start.fragReassemblers.get
        (Server.slotOf (start.streamIndex streamId))).capacity) :
    let result :=
      server.dispatchE2eFragment streamId (request.segment part parts.length)
    HoldsParts start result.1 (Server.slotOf (start.streamIndex streamId)) request
        (parts ++ [part]) ∧ result.2 = pendingReply := by
  have hDecode := decode_segment request part hNumber
  have hStream : server.streamIndex streamId = start.streamIndex streamId := by
    rw [Server.streamIndex, Server.streamIndex, h.regs]
  have hSlot := Server.slotOf_streamIndex_lt start streamId
  rw [Server.dispatchE2eFragment_eq (by rw [h.faults]; exact hProtects.unfaulted)
    (headed_segment request part hNumber).eight_le
    (by rw [h.regs, hDecode]; exact hProtects.crc), hStream, hDecode]
  dsimp only
  rw [if_neg hIndex, if_pos rfl]
  exact (h.kick streamId).snoc hSlot part hNumber hRoom

theorem HoldsParts.run {server : Server} {done : List PaddedPayload}
    (parts : List PaddedPayload)
    (h : HoldsParts start server (Server.slotOf (start.streamIndex streamId))
      request done)
    (hFew : (done ++ parts).length ≤ 4096)
    (hRoom : ((done ++ parts).map PaddedPayload.data).flatten.length ≤
      (start.fragReassemblers.get
        (Server.slotOf (start.streamIndex streamId))).capacity) :
    let result := Foundation.run
      (fun server fragment => server.dispatchE2eFragment streamId fragment)
      server (segmentsFrom request parts done.length)
    HoldsParts start result.1 (Server.slotOf (start.streamIndex streamId)) request
        (done ++ parts) ∧
      result.2 = List.replicate parts.length pendingReply := by
  induction parts generalizing done server with
  | nil => simpa [segmentsFrom] using h
  | cons part parts ih =>
      have hShort : done.length < 4096 := by
        simp only [List.length_append, List.length_cons] at hFew
        omega
      have hNext : ((done.map PaddedPayload.data).flatten ++
          part.data).length ≤ (start.fragReassemblers.get
            (Server.slotOf (start.streamIndex streamId))).capacity := by
        simp only [List.map_append, List.map_cons, List.flatten_append,
          List.flatten_cons, List.length_append] at hRoom ⊢
        omega
      obtain ⟨hHolds, hReply⟩ :=
        h.dispatch hProtects hIndex part hShort hNext
      obtain ⟨hRest, hReplies⟩ := @ih _ (done ++ [part]) hHolds
        (by simpa using hFew) (by simpa using hRoom)
      have hSegments : segmentsFrom request (part :: parts) done.length =
          request.segment part done.length ::
            segmentsFrom request parts (done ++ [part]).length := by
        simp [segmentsFrom, List.zipIdx_cons]
      intro result
      simp only [result, hSegments, run_cons, hReply, hReplies]
      refine ⟨?_, rfl⟩
      simpa using hRest

end Collecting

/-! ## The last one -/

private theorem setErrorResponse_of_resized {a b : AcfMessageInfo}
    (h : a.resized = b.resized) (ec : ErrorCode) :
    setErrorResponse a ec = setErrorResponse b ec := by
  have hReply : ∀ header : AcfMessageInfo,
      setErrorResponse header.resized ec = setErrorResponse header ec :=
    fun _ => rfl
  rw [← hReply a, h, hReply]

theorem maybeFragmentResponse_of_le {server : Server} {streamIndex : UInt8}
    {reply : Reply} (h : reply.payload.length ≤
      server.responseCeiling streamIndex reply.response) :
    server.maybeFragmentResponse streamIndex reply = (server, reply) := by
  unfold Server.maybeFragmentResponse
  simp [h]

private theorem dispatchReassembled_eq (server : Server) (streamId : StreamId)
    {request : WriteRequest} {header : AcfMessageInfo} {ts : Nat}
    (hHeader : header.resized = request.info.resized)
    (hStamp : request.info.acfMsgType = acfMsgTypeGbb →
      ts = request.messageTimestamp.toNat) (payload : Octets) :
    server.dispatchReassembled streamId header ts
        (decide (request.info.acfMsgType = acfMsgTypeGbb)) payload =
      let out := server.decodeAndDispatch streamId (request.message 0 payload)
      if out.2.ec.isNone then
        out.1.maybeFragmentResponse (server.streamIndex streamId) out.2
      else out := by
  have hMessage : (if decide (request.info.acfMsgType = acfMsgTypeGbb) = true
      then encodeAcfGbb header.resized ts payload
      else encodeAcfAbb header.resized payload) =
        request.message 0 payload := by
    rw [hHeader]
    unfold WriteRequest.message encodeAcf
    by_cases hGbb : request.info.acfMsgType = acfMsgTypeGbb
    · simp only [hGbb, decide_true, if_true, hStamp hGbb]
      rfl
    · simp only [hGbb, decide_false, Bool.false_eq_true, if_false]
      rfl
  unfold AcfMessageInfo.resized at hMessage
  unfold Server.dispatchReassembled
  simp only [hMessage]

private theorem rawHeader_first (request : WriteRequest) (first : PaddedPayload)
    (rest : List PaddedPayload) :
    ((request.segments (first :: rest)).headD []).take
        (headerLen request.info.acfMsgType) =
      rawHeader (request.segment first 0) := by
  have hHead : (request.segments (first :: rest)).headD [] =
      request.segment first 0 := by
    simp [WriteRequest.segments, List.zipIdx_cons]
  unfold rawHeader
  rw [hHead, decode_segment request first (by decide)]

section Last

variable {start server : Server} {bus : Bus} {streamId : StreamId}
  {request : WriteRequest} {parts : List PaddedPayload}
  (hProtects : Protects start streamId request)
  (hIndex : start.streamIndex streamId ≠ 0)
  (h : HoldsParts start server (Server.slotOf (start.streamIndex streamId))
    request parts) (hSome : parts ≠ []) (last : PaddedPayload)
  (hRoom : (WriteRequest.joined parts last).length ≤
    (start.fragReassemblers.get
      (Server.slotOf (start.streamIndex streamId))).capacity)

include hProtects hIndex h hSome in
private theorem HoldsParts.dispatch_last (crc : UInt32) :
    server.dispatchE2eFragment streamId (request.lastSegment last crc) =
      (server.rxWatchdogKick streamId 0).feedFinal streamId
        (Server.slotOf (start.streamIndex streamId))
        (request.lastSegment last crc) := by
  have hStream : server.streamIndex streamId = start.streamIndex streamId := by
    rw [Server.streamIndex, Server.streamIndex, h.regs]
  have hCollecting : (server.fragReassemblers.get (Server.slotOf
      (start.streamIndex streamId))).collecting = true := by
    rw [h.collecting]
    cases parts with
    | nil => exact absurd rfl hSome
    | cons first rest => rfl
  have hDecode := decode_lastSegment request last crc
  rw [Server.dispatchE2eFragment_eq
    (by rw [h.faults]; exact hProtects.unfaulted)
    (sized_lastSegment request last crc).1
    (by rw [h.regs, hDecode]; exact hProtects.crc), hStream, hDecode]
  dsimp only
  rw [if_neg hIndex, request.whole, if_neg Bool.false_ne_true,
    if_pos hCollecting]

include hProtects hIndex h hSome hRoom

theorem HoldsParts.complete :
    let joined := WriteRequest.joined parts last
    let result := server.dispatchE2eFragment streamId
      (request.lastSegment last (request.joinedCrc streamId parts last))
    ∃ later, SameBuses start later ∧ later.regs = start.regs ∧
      (maxPayloadOf request.info.acfMsgType < joined.length →
        result = (later,
          setErrorResponse request.info (.regmap .requestRejected))) ∧
      (joined.length ≤ maxPayloadOf request.info.acfMsgType →
        result =
          let out := later.decodeAndDispatch streamId
            (request.message 0 joined)
          if out.2.ec.isNone then
            out.1.maybeFragmentResponse (later.streamIndex streamId) out.2
          else out) := by
  intro joined result
  have hKicked := h.kick streamId
  have hFeeds : result = (server.rxWatchdogKick streamId 0).feedFinal streamId
      (Server.slotOf (start.streamIndex streamId))
      (request.lastSegment last (request.joinedCrc streamId parts last)) :=
    h.dispatch_last hProtects hIndex hSome last _
  generalize server.rxWatchdogKick streamId 0 = kicked at hKicked hFeeds
  have hPayload := lastPayload_lastSegment request last
    (request.joinedCrc streamId parts last)
  have hDecode := decode_lastSegment request last
    (request.joinedCrc streamId parts last)
  have hType : (decodeAcfMessageInfo (request.lastSegment last
      (request.joinedCrc streamId parts last))).acfMsgType =
        request.info.acfMsgType := by
    rw [hDecode]
  have hJoined : (kicked.fragReassemblers.get (Server.slotOf
      (start.streamIndex streamId))).buf ++ last.data = joined := by
    rw [hKicked.buf]
    rfl
  have hHeader : kicked.fragFirstHeaders.get (Server.slotOf
      (start.streamIndex streamId)) =
        ((request.segments parts).headD []).take
          (headerLen request.info.acfMsgType) := by
    cases parts with
    | nil => exact absurd rfl hSome
    | cons first rest =>
        rw [rawHeader_first]
        exact hKicked.header first rfl
  obtain ⟨header, ts, hSame, hStamp, hResult⟩ := @Server.feedFinal_completes
    kicked (Server.slotOf (start.streamIndex streamId)) _ streamId
    (sized_lastSegment request last (request.joinedCrc streamId parts last))
    (by rw [KnownType, hType]; exact request.known)
    (by rw [hPayload]; exact hKicked.fits last hRoom)
    (by rw [lastTrailer_lastSegment, hPayload, hJoined, hHeader]; rfl)
  have hResized : header.resized = request.info.resized := by
    rw [hSame, hDecode]
    rfl
  have hTs : request.info.acfMsgType = acfMsgTypeGbb →
      ts = request.messageTimestamp.toNat := by
    intro hGbb
    rw [hStamp (hType.trans hGbb)]
    unfold WriteRequest.lastSegment
    rw [List.append_assoc, List.append_assoc]
    exact getBe_stamp request.messageTimestamp.toNat_lt _ hGbb
  rw [hPayload, hJoined, hType] at hResult
  refine ⟨kicked.resetReassembler (Server.slotOf
    (start.streamIndex streamId)), ⟨hKicked.buses.lifecycle,
      hKicked.buses.peripherals, hKicked.buses.admissions⟩, hKicked.regs, ?_,
    ?_⟩
  · intro hLong
    rw [hFeeds, hResult]
    dsimp only
    rw [if_pos hLong, setErrorResponse_of_resized hResized]
  · intro hFits
    rw [hFeeds, hResult]
    dsimp only
    rw [if_neg (Nat.not_lt.mpr hFits),
      dispatchReassembled_eq _ streamId hResized hTs]

end Last

end CppRcp.Mock
