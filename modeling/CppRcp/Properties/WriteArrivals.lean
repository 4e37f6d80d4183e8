import CppRcp.Properties.SegmentedWrites

/-!
# The ways a write request arrives

A standard write request arrives as one plain message, as one protected
message at either protected entry, or in segments.  Its endpoint executes it
with the payload and its pad octets in the first three cases, and with the
payload alone in the last.
-/

namespace CppRcp.Mock

open CppRcp.Foundation CppRcp.Acf CppRcp.E2e CppRcp.Regmap CppRcp.Fragment
open CppRcp.Server

inductive Way
  | plain
  | wrapped (sequenceNum : UInt8)
  | unsplit
  | fragments (parts : List PaddedPayload) (last : PaddedPayload)

/-- The parts are segments of the payload, and the stream has a slot that is
free and has room for them. -/
structure Segmented (server : Server) (streamId : StreamId)
    (request : WriteRequest) (payload : PaddedPayload)
    (parts : List PaddedPayload) (last : PaddedPayload) : Prop where
  protects : Protects server streamId request
  configured : server.streamIndex streamId ≠ 0
  idle : (server.fragReassemblers.get
      (Server.slotOf (server.streamIndex streamId))).collecting = false ∧
    (server.fragReassemblers.get
      (Server.slotOf (server.streamIndex streamId))).buf = []
  some : parts ≠ []
  few : parts.length ≤ maxIntermediateSegments
  joined : WriteRequest.joined parts last = payload.data
  room : payload.data.length ≤ (server.fragReassemblers.get
    (Server.slotOf (server.streamIndex streamId))).capacity

def FrameMemberResult.reply (result : FrameMemberResult) : Reply :=
  ⟨result.result, result.response, result.responsePayload⟩

namespace Way

def arrive (server : Server) (streamId : StreamId) (request : WriteRequest)
    (payload : PaddedPayload) : Way → Server × List Reply
  | plain =>
      let out := server.dispatchFrame streamId (request.plain payload)
      (out.1, out.2.map FrameMemberResult.reply)
  | wrapped sequenceNum =>
      let out := server.dispatchE2e streamId sequenceNum
        (request.wrapped streamId payload)
      (out.1, [out.2])
  | unsplit =>
      let out := server.dispatchE2eFragment streamId
        (request.wrapped streamId payload)
      (out.1, [out.2])
  | fragments parts last =>
      run (fun server fragment => server.dispatchE2eFragment streamId fragment)
        server (request.fragments streamId parts last)

/-- The request can be carried this way: it fits its messages and what the
dispatch joins them to, and the server takes such messages. -/
def Carries (server : Server) (streamId : StreamId) (request : WriteRequest)
    (payload : PaddedPayload) : Way → Prop
  | plain => payload.data.length ≤ maxPayloadOf request.info.acfMsgType
  | wrapped sequenceNum =>
      Protects server streamId request ∧
        (server.seqGateAdmits streamId sequenceNum).2 = true ∧
        payload.data.length + crcLengthAdjustOctets ≤
          maxPayloadOf request.info.acfMsgType
  | unsplit =>
      Protects server streamId request ∧
        (server.seqGateAdmits streamId 0).2 = true ∧
        (server.fragReassemblers.get
          (Server.slotOf (server.streamIndex streamId))).collecting = false ∧
        payload.data.length + crcLengthAdjustOctets ≤
          maxPayloadOf request.info.acfMsgType
  | fragments parts last =>
      Segmented server streamId request payload parts last ∧
        payload.data.length ≤ maxPayloadOf request.info.acfMsgType

/-- The payload that the endpoint's handler is given. -/
def handed (payload : PaddedPayload) : Way → Octets
  | plain | wrapped _ | unsplit => payload.octets
  | fragments _ _ => payload.data

/-- The messages that are answered with `fragment_pending`. -/
def pending : Way → Nat
  | plain | wrapped _ | unsplit => 0
  | fragments parts _ => parts.length

/-- The response comes back as it is.  The dispatch of segments cuts up one
that is too long for a message of the response stream. -/
def ReturnsWhole (server : Server) (streamId : StreamId) (response : Reply) :
    Way → Prop
  | plain | wrapped _ | unsplit => True
  | fragments _ _ => response.payload.length ≤
      server.responseCeiling (server.streamIndex streamId) response.response

end Way

/-- The endpoint executes the request with the octets, and the last reply is
its response. -/
structure ExecutedWith (server : Server) (bus : Bus) (streamId : StreamId)
    (request : WriteRequest) (payload : PaddedPayload) (way : Way) (octets : Octets) :
    Prop where
  endpoints : SameBuses (server.executed bus request.info octets).1
    (way.arrive server streamId request payload).1
  replies : ∃ reply,
    (way.arrive server streamId request payload).2 =
        List.replicate way.pending pendingReply ++ [reply] ∧
      (way.ReturnsWhole server streamId
          (server.answer bus streamId request.info octets) →
        reply = server.answer bus streamId request.info octets)

section Ways

variable {server : Server} {bus : Bus} {request : WriteRequest}
  (hServer : Operational server bus)
  (hBus : Bus.ofId request.info.byteBusId = some bus) {streamId : StreamId}
  {payload : PaddedPayload}

include hServer hBus

private theorem executedWith_plain
    (hFits : payload.data.length ≤ maxPayloadOf request.info.acfMsgType) :
    ExecutedWith server bus streamId request payload .plain payload.octets := by
  have hFrame := dispatchFrame_plain hServer hBus streamId payload hFits
  constructor
  · simp only [Way.arrive, hFrame]
    exact .refl _
  · refine ⟨server.answer bus streamId request.info payload.octets, ?_,
      fun _ => rfl⟩
    simp only [Way.arrive, hFrame]
    rfl

private theorem executedWith_wrapped {sequenceNum : UInt8}
    (hCarries : (Way.wrapped sequenceNum).Carries server streamId request
      payload) :
    ExecutedWith server bus streamId request payload (.wrapped sequenceNum)
      payload.octets := by
  obtain ⟨hProtects, hGate, hFits⟩ := hCarries
  obtain ⟨hBuses, hReply⟩ :=
    dispatchE2eCore_wrapped hServer hBus hProtects hFits hGate
  exact ⟨hBuses, _, rfl, fun _ => hReply⟩

private theorem executedWith_unsplit
    (hCarries : Way.unsplit.Carries server streamId request payload) :
    ExecutedWith server bus streamId request payload .unsplit
      payload.octets := by
  obtain ⟨hProtects, hGate, hIdle, hFits⟩ := hCarries
  have hKick := Server.sameBuses_rxWatchdogKick server streamId 0
  have hKickRegs := Server.regs_rxWatchdogKick server streamId 0
  have hFaults := Server.streamFaultTracker_rxWatchdogKick server streamId 0
  have hAdmits := Server.seqGateAdmits_congr
    (Server.seqTrackers_rxWatchdogKick server streamId 0) hKickRegs streamId 0
  have hEntry : server.dispatchE2eFragment streamId
      (request.wrapped streamId payload) =
        (server.rxWatchdogKick streamId 0).dispatchE2eCore streamId 0
          (request.wrapped streamId payload) true := by
    rw [Server.dispatchE2eFragment_eq hProtects.unfaulted
      (request.eight_le_wrapped streamId payload hFits)
      (by rw [request.byteBusId_wrapped streamId payload hFits]
          exact hProtects.crc)]
    dsimp only
    rw [request.ms_wrapped streamId payload hFits, hIdle]
    simp
  generalize server.rxWatchdogKick streamId 0 = kicked at *
  obtain ⟨hBuses, hReply⟩ := dispatchE2eCore_wrapped
    (hServer.of_sameBuses hKick) hBus
    ⟨by rw [hKickRegs]; exact hProtects.crc,
      by rw [hFaults]; exact hProtects.unfaulted⟩ hFits (hAdmits.trans hGate)
  constructor
  · simp only [Way.arrive, hEntry]
    exact (sameBuses_executed hKick _ _ _).trans hBuses
  · refine ⟨_, rfl, fun _ => ?_⟩
    rw [hEntry, hReply]
    exact answer_of_sameBuses hKick _ _ _ hKickRegs streamId

end Ways

section Segments

variable {server : Server} {request : WriteRequest} {streamId : StreamId}
  {payload last : PaddedPayload} {parts : List PaddedPayload}

private theorem arrive_fragments
    (h : Segmented server streamId request payload parts last) :
    ∃ later, SameBuses server later ∧ later.regs = server.regs ∧
      ∃ result : Server × Reply,
        (Way.fragments parts last).arrive server streamId request payload =
            (result.1,
              List.replicate parts.length pendingReply ++ [result.2]) ∧
          (maxPayloadOf request.info.acfMsgType < payload.data.length →
            result = (later,
              setErrorResponse request.info (.regmap .requestRejected))) ∧
          (payload.data.length ≤ maxPayloadOf request.info.acfMsgType →
            result =
              let out := later.decodeAndDispatch streamId
                (request.message 0 payload.data)
              if out.2.ec.isNone then
                out.1.maybeFragmentResponse (later.streamIndex streamId) out.2
              else out) := by
  have hRoom : (WriteRequest.joined parts last).length ≤
      (server.fragReassemblers.get
        (Server.slotOf (server.streamIndex streamId))).capacity := by
    rw [h.joined]
    exact h.room
  have hPartsRoom : ((([] : List PaddedPayload) ++ parts).map
      PaddedPayload.data).flatten.length ≤ (server.fragReassemblers.get
        (Server.slotOf (server.streamIndex streamId))).capacity := by
    refine le_trans ?_ hRoom
    rw [WriteRequest.joined, List.length_append, List.nil_append]
    exact Nat.le_add_right _ _
  obtain ⟨hHolds, hReplies⟩ := (holdsParts_nil request h.idle).run h.protects
    h.configured parts h.few hPartsRoom
  rw [List.nil_append] at hHolds
  obtain ⟨later, hBuses, hRegs, hLong, hFits⟩ :=
    hHolds.complete h.protects h.configured h.some last hRoom
  rw [h.joined] at hLong hFits
  refine ⟨later, hBuses, hRegs, _, ?_, hLong, hFits⟩
  simp only [Way.arrive, WriteRequest.fragments, run_append, run_cons, run_nil]
  exact Prod.ext rfl (congrArg (· ++ [_]) hReplies)

private theorem arrive_fragments_refused
    (h : Segmented server streamId request payload parts last)
    (hLong : maxPayloadOf request.info.acfMsgType < payload.data.length) :
    let arrived :=
      (Way.fragments parts last).arrive server streamId request payload
    SameBuses server arrived.1 ∧
      arrived.2 = List.replicate parts.length pendingReply ++
        [setErrorResponse request.info (.regmap .requestRejected)] := by
  obtain ⟨later, hBuses, -, result, hArrive, hRefused, -⟩ := arrive_fragments h
  intro arrived
  simp only [arrived, hArrive, hRefused hLong, and_true]
  exact hBuses

private theorem executedWith_fragments {bus : Bus}
    (hServer : Operational server bus)
    (hBus : Bus.ofId request.info.byteBusId = some bus)
    (h : Segmented server streamId request payload parts last)
    (hFits : payload.data.length ≤ maxPayloadOf request.info.acfMsgType) :
    ExecutedWith server bus streamId request payload (.fragments parts last)
      payload.data := by
  obtain ⟨later, hBuses, hRegs, result, hArrive, -, hResult⟩ :=
    arrive_fragments h
  have hStream : later.streamIndex streamId = server.streamIndex streamId := by
    rw [Server.streamIndex, Server.streamIndex, hRegs]
  have hSame := sameBuses_executed hBuses bus request.info payload.data
  have hAnswer := answer_of_sameBuses hBuses bus request.info payload.data
    hRegs streamId
  have hResult := hResult hFits
  rw [decodeAndDispatch_message (hServer.of_sameBuses hBuses) hBus, hAnswer,
    hStream] at hResult
  dsimp only at hResult
  constructor
  · rw [hArrive, hResult]
    dsimp only
    split
    · exact hSame.trans (Server.sameBuses_maybeFragmentResponse _ _ _)
    · exact hSame
  · refine ⟨result.2, by rw [hArrive]; rfl, fun hWhole => ?_⟩
    have hCeiling : (server.answer bus streamId request.info
        payload.data).payload.length ≤
        (later.executed bus request.info payload.data).1.responseCeiling
          (server.streamIndex streamId)
          (server.answer bus streamId request.info
            payload.data).response := by
      have hSameRegs :
          (later.executed bus request.info payload.data).1.regs =
            server.regs := hRegs
      rw [Server.responseCeiling_congr hSameRegs]
      exact hWhole
    rw [hResult, maybeFragmentResponse_of_le hCeiling, ite_self]

end Segments

/-! ## All ways -/

/-- Whichever way a standard write arrives at an operational endpoint, it is
executed once: with the payload and its pad octets from one message, with the
payload alone from segments.  So the ways agree wherever they hand over the
same octets.  A payload too long for one message can be joined, but is
refused. -/
theorem write_executed {server : Server} {bus : Bus}
    (hServer : Operational server bus) {request : WriteRequest}
    (hBus : Bus.ofId request.info.byteBusId = some bus) (streamId : StreamId)
    (payload : PaddedPayload) :
    (∀ way : Way, way.Carries server streamId request payload →
      ExecutedWith server bus streamId request payload way
        (way.handed payload)) ∧
    (∀ a b : Way, a.Carries server streamId request payload →
      b.Carries server streamId request payload →
      a.handed payload = b.handed payload →
      let response :=
        server.answer bus streamId request.info (a.handed payload)
      SameBuses (a.arrive server streamId request payload).1
          (b.arrive server streamId request payload).1 ∧
        (a.ReturnsWhole server streamId response →
          b.ReturnsWhole server streamId response →
          (a.arrive server streamId request payload).2.getLast? =
            (b.arrive server streamId request payload).2.getLast?)) ∧
    ∀ parts last, Segmented server streamId request payload parts last →
      maxPayloadOf request.info.acfMsgType < payload.data.length →
      let arrived :=
        (Way.fragments parts last).arrive server streamId request payload
      SameBuses server arrived.1 ∧
        arrived.2 = List.replicate parts.length pendingReply ++
          [setErrorResponse request.info (.regmap .requestRejected)] := by
  have hWays : ∀ way : Way, way.Carries server streamId request payload →
      ExecutedWith server bus streamId request payload way
        (way.handed payload) := by
    intro way hCarries
    cases way with
    | plain => exact executedWith_plain hServer hBus hCarries
    | wrapped sequenceNum => exact executedWith_wrapped hServer hBus hCarries
    | unsplit => exact executedWith_unsplit hServer hBus hCarries
    | fragments parts last =>
        exact executedWith_fragments hServer hBus hCarries.1 hCarries.2
  refine ⟨hWays, ?_, fun parts last h hLong =>
    arrive_fragments_refused h hLong⟩
  intro a b hA hB hHanded response
  have hFirst := hWays a hA
  have hSecond := hWays b hB
  rw [← hHanded] at hSecond
  refine ⟨hFirst.endpoints.symm.trans hSecond.endpoints, ?_⟩
  intro hWholeA hWholeB
  obtain ⟨replyA, hArriveA, hReplyA⟩ := hFirst.replies
  obtain ⟨replyB, hArriveB, hReplyB⟩ := hSecond.replies
  rw [hArriveA, hArriveB, hReplyA hWholeA, hReplyB hWholeB]
  simp

private theorem paddedStreams_le :
    [({ streamId := 1, rxRespStreamIndex := 1 } :
      Regmap.RequestStreamConfig)].length ≤ Regmap.tableMaxEntries := by
  decide

/-- A server whose SPI bus takes protected requests of stream 1; its device
answers with eight octets, and a message of the response stream has room for
five. -/
def paddedServer : Server :=
  { lifecycle := .rcpConfigured
    peripherals := { spiPoci := [[1, 2, 3, 4, 5, 6, 7, 8]] }
    regs := { makeInitialRegisterMap with
      requestStreams := [{ streamId := 1, rxRespStreamIndex := 1 }]
      requestStreams_le := paddedStreams_le
      responseStreams := [{ maxAvtpduSize := 4 }]
      genericConfigs :=
        [{ epReqCrcEnable := true }, { epReqCrcEnable := true }] } }

def transferRequest : WriteRequest where
  info := { byteBusId := 2, transactionNum := 7, op := true }
  messageTimestamp := 0
  type := Or.inl ⟨rfl, rfl⟩
  fits := by decide
  write := rfl
  request := rfl
  whole := rfl

def threeOctets : PaddedPayload := ⟨[9, 8, 7], [0], rfl⟩

def oneOctet (octet : UInt8) : PaddedPayload := ⟨[octet], [0, 0, 0], rfl⟩

def twoOctets : PaddedPayload := ⟨[8, 7], [0, 0], rfl⟩

private theorem segmented_threeOctets :
    Segmented paddedServer 1 transferRequest threeOctets [oneOctet 9]
      twoOctets where
  protects := ⟨by decide, by decide⟩
  configured := by decide
  idle := ⟨by decide, by decide⟩
  some := by simp
  few := by decide
  joined := by decide
  room := by decide

theorem write_executed_segmented :
    Operational paddedServer .spi ∧
      ExecutedWith paddedServer .spi 1 transferRequest threeOctets
        (.fragments [oneOctet 9] twoOctets) [9, 8, 7] := by
  have hServer : Operational paddedServer .spi := by decide
  exact ⟨hServer, (write_executed hServer (by decide) 1 threeOctets).1 _
    ⟨segmented_threeOctets, by decide⟩⟩

set_option maxRecDepth 10000 in
/-- The device is sent the pad octet of a plain and of a protected message,
and not of segments.  The response is cut up for segments alone. -/
theorem threeOctets_ways_differ :
    paddedServer.Reachable ∧ Operational paddedServer .spi ∧
      Way.plain.Carries paddedServer 1 transferRequest threeOctets ∧
      (Way.wrapped 0).Carries paddedServer 1 transferRequest threeOctets ∧
      Segmented paddedServer 1 transferRequest threeOctets [oneOctet 9]
        twoOctets ∧
      let sent := fun way : Way =>
        ((way.arrive paddedServer 1 transferRequest
          threeOctets).1.peripherals.spi.lastPicoOut.getD 0 [])
      let codes := fun way : Way =>
        ((way.arrive paddedServer 1 transferRequest threeOctets).2.map
          fun reply => reply.ec)
      sent .plain = [9, 8, 7, 0] ∧ sent (.wrapped 0) = [9, 8, 7, 0] ∧
        sent (.fragments [oneOctet 9] twoOctets) = [9, 8, 7] ∧
        codes .plain = [none] ∧
        codes (.fragments [oneOctet 9] twoOctets) =
          [some (.dispatch .fragmentPending),
            some (.dispatch .responseFragmented)] := by
  refine ⟨⟨[.registers paddedServer.regs,
      .peripherals paddedServer.peripherals, .lifecycle .rcpConfigured], rfl⟩,
    by decide, ?_, ⟨segmented_threeOctets.protects, ?_, ?_⟩,
    segmented_threeOctets, ?_⟩
  · show threeOctets.data.length ≤ _
    decide
  · decide
  · decide
  · decide

end CppRcp.Mock
