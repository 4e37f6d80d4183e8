import CppRcp.Mock.Dispatch

/-!
# Protected and fragmented requests

`mock.hpp` from `dispatch_e2e` to `maybe_fragment_response`: the sequence gate
and the watchdog kick, the dispatch of a protected message, the reassembly of
a fragmented one, and the fragmentation of an oversized response.
-/

namespace CppRcp.Mock

open CppRcp.Foundation CppRcp.Acf CppRcp.E2e CppRcp.Regmap CppRcp.Server
open CppRcp.Fragment CppRcp.Respqueue

/-- `set_error_response_from_frame`, with the error code of the dispatch. -/
def errorReplyFromFrame (frame : Octets) (ec : ErrorCode)
    (code : WireErrorCode) : Reply :=
  if frame.length < acfCommonHeaderLen then ⟨some ec, {}, []⟩
  else errorReply (decodeAcfMessageInfo frame) ec code

def decodeAcfFrame (frame : Octets) (isGbb : Bool) :
    Except ErrorCode (AcfMessageInfo × Nat × Octets) :=
  if isGbb then decodeAcfGbb frame
  else
    match decodeAcfAbb frame with
    | .error e => .error e
    | .ok (info, payload) => .ok (info, 0, payload)

def trimWirePad (payload : Octets) (pad : UInt8) : Octets :=
  if payload.length < pad.toNat then []
  else payload.take (payload.length - pad.toNat)

namespace Server

def slotOf (streamIndex : UInt8) : Nat := streamIndex.toNat - 1

def rxWatchdogKick (server : Server) (streamId : StreamId) (nowMs : Nat) :
    Server :=
  let streamIndex := server.streamIndex streamId
  if streamIndex = 0 then server
  else
    { server with
      rxWatchdogs := server.rxWatchdogs.modify (slotOf streamIndex) fun w =>
        w.kick nowMs }

def seqGateAdmits (server : Server) (streamId : StreamId)
    (sequenceNum : UInt8) : Server × Bool :=
  let streamIndex := server.streamIndex streamId
  if streamIndex = 0 then (server, true)
  else
    let slot := slotOf streamIndex
    let (guard, result) := (server.seqTrackers.get slot).evaluate
      (server.regs.requestStream streamIndex) sequenceNum
    ({ server with
        seqTrackers := server.seqTrackers.set slot guard
        streamStatus := server.streamStatus.modify slot fun status =>
          status.noteSeq result.enterSafeState },
      result.accept)

def recordCrcError (server : Server) (streamId : StreamId) : Server :=
  let streamIndex := server.streamIndex streamId
  if streamIndex = 0 then
    { server with
      streamFaultTracker :=
        (server.streamFaultTracker.onCrcError streamId false).1 }
  else
    let rxEnforceE2e := (server.regs.requestStream streamIndex).rxEnforceE2e
    { server with
      streamFaultTracker :=
        (server.streamFaultTracker.onCrcError streamId rxEnforceE2e).1
      streamStatus := server.streamStatus.modify (slotOf streamIndex)
        fun status => status.noteCrcError rxEnforceE2e }

/-! ## Whole messages -/

/-- The part of `dispatch_e2e_core` behind the stream's fault latch. -/
def dispatchE2eUnfaulted (server : Server) (streamId : StreamId)
    (sequenceNum : UInt8) (frame : Octets) (applySeqGate : Bool) :
    Server × Reply :=
  if frame.length < acfCommonHeaderLen then
    (server, ⟨some (.regmap .invalidParameter), {}, []⟩)
  else
    let peek := decodeAcfMessageInfo frame
    if !server.regs.reqCrcEnabled peek.byteBusId then
      server.decodeAndDispatch streamId frame
    else
      let gate :=
        if applySeqGate then server.seqGateAdmits streamId sequenceNum
        else (server, true)
      let server := gate.1
      if !gate.2 then (server, ⟨some (.dispatch .seqError), {}, []⟩)
      else
        let uw := unwrapFramed streamId frame
        match uw.ec with
        | none => server.decodeAndDispatch streamId uw.acfFrame
        | some ec =>
            (server.recordCrcError streamId,
              if ec = .e2e .crcError then errorReply peek ec .pociFailure
              else ⟨some ec, {}, []⟩)

def dispatchE2eCore (server : Server) (streamId : StreamId)
    (sequenceNum : UInt8) (frame : Octets) (applySeqGate : Bool) :
    Server × Reply :=
  let server := server.rxWatchdogKick streamId 0
  if server.streamFaultTracker.isFaulted streamId then
    (server,
      errorReplyFromFrame frame (.dispatch .streamFaulted) .pociFailure)
  else server.dispatchE2eUnfaulted streamId sequenceNum frame applySeqGate

def dispatchE2e (server : Server) (streamId : StreamId) (sequenceNum : UInt8)
    (frame : Octets) : Server × Reply :=
  server.dispatchE2eCore streamId sequenceNum frame true

/-! ## Oversized responses -/

/-- `resp_queue_for_stream_index`, as the index of the queue. -/
def respQueueForStreamIndex (server : Server) (streamIndex : UInt8) :
    Option Nat :=
  if streamIndex = 0 ∨
      server.regs.requestStreams.length < streamIndex.toNat then none
  else
    let respStreamIndex :=
      (server.regs.requestStream streamIndex).rxRespStreamIndex
    if respStreamIndex = 0 ∨
        server.regs.responseStreams.length < respStreamIndex.toNat ∨
        tableMaxEntries < respStreamIndex.toNat then none
    else some (respStreamIndex.toNat - 1)

def responseCeiling (server : Server) (streamIndex : UInt8)
    (response : AcfMessageInfo) : Nat :=
  let isGbb := decide (response.acfMsgType = acfMsgTypeGbb)
  let ceiling := if isGbb then acfGbbMaxPayload else acfAbbMaxPayload
  let respStreamIndex :=
    if streamIndex ≠ 0 ∧
        streamIndex.toNat ≤ server.regs.requestStreams.length then
      (server.regs.requestStream streamIndex).rxRespStreamIndex
    else 0
  if respStreamIndex ≠ 0 ∧
      respStreamIndex.toNat ≤ server.regs.responseStreams.length then
    let cfg := server.regs.responseStreams.getD (respStreamIndex.toNat - 1)
      default
    if cfg.maxAvtpduSize ≠ 0 then
      let configured := maxFragmentPayload (cfg.maxAvtpduSize.toNat * 4)
        (headerLen response.acfMsgType)
      if configured ≠ 0 ∧ configured < ceiling then configured else ceiling
    else ceiling
  else ceiling

def encodeResponseFragment (response : AcfMessageInfo) (payload : Octets)
    (segment : Segment) : Octets :=
  let frag := { response with
    ms := segment.ms
    readSizeOrSegmentNum :=
      if segment.ms then segment.segmentNum else response.readSizeOrSegmentNum
    pad := 0
    acfMsgLength := 0 }
  if response.acfMsgType = acfMsgTypeGbb then
    encodeAcfGbb frag 0 (segment.slice payload)
  else encodeAcfAbb frag (segment.slice payload)

def pushAll (queue : RespQueue) : List Octets → RespQueue × Bool
  | [] => (queue, true)
  | frame :: frames =>
      match queue.push frame with
      | (queue, true) => pushAll queue frames
      | (queue, false) => (queue, false)

def maybeFragmentResponse (server : Server) (streamIndex : UInt8)
    (reply : Reply) : Server × Reply :=
  if !reply.response.rsp then (server, reply)
  else
    let ceiling := server.responseCeiling streamIndex reply.response
    let size := reply.payload.length
    if size ≤ ceiling then (server, reply)
    else
      let segCount := planCount size ceiling
      let rejected :=
        setErrorResponse reply.response (.regmap .requestRejected)
      match server.respQueueForStreamIndex streamIndex with
      | none => (server, rejected)
      | some slot =>
          if segCount = 0 ∨ maxEntries < segCount then (server, rejected)
          else
            match plan size ceiling segCount with
            | .error _ => (server, rejected)
            | .ok segments =>
                let pushed := pushAll (server.respQueues.get slot)
                  (segments.map
                    (encodeResponseFragment reply.response reply.payload))
                let server := { server with
                  respQueues := server.respQueues.set slot pushed.1 }
                if pushed.2 then
                  (server, ⟨some (.dispatch .responseFragmented), {}, []⟩)
                else (server, rejected)

/-! ## Fragments -/

def fragmentRejected : Reply := ⟨some (.dispatch .fragmentRejected), {}, []⟩

def setReassembler (server : Server) (slot : Nat) (reasm : Reassembler) :
    Server :=
  { server with fragReassemblers := server.fragReassemblers.set slot reasm }

def resetReassembler (server : Server) (slot : Nat) : Server :=
  server.setReassembler slot (server.fragReassemblers.get slot).reset

/-- An intermediate fragment: `ms` is set. -/
def feedIntermediate (server : Server) (slot : Nat) (fragment : Octets) :
    Server × Reply :=
  let peek := decodeAcfMessageInfo fragment
  match decodeAcfFrame fragment (decide (peek.acfMsgType = acfMsgTypeGbb)) with
  | .error _ => (server, fragmentRejected)
  | .ok (header, _, payload) =>
      let reasm := server.fragReassemblers.get slot
      let server :=
        if reasm.collecting then server
        else
          { server with
            fragFirstHeaders := server.fragFirstHeaders.set slot
              (fragment.take (headerLen peek.acfMsgType)) }
      match reasm.feed true peek.readSizeOrSegmentNum
          (trimWirePad payload header.pad) with
      | (reasm, .continue) =>
          (server.setReassembler slot reasm,
            ⟨some (.dispatch .fragmentPending), {}, []⟩)
      | (reasm, _) => (server.setReassembler slot reasm.reset, fragmentRejected)

/-- A complete reassembled request: dispatch it under the header of its last
fragment, and fragment the response if it is oversized. -/
def dispatchReassembled (server : Server) (streamId : StreamId)
    (finalHeader : AcfMessageInfo) (messageTimestamp : Nat) (isGbb : Bool)
    (reassembled : Octets) : Server × Reply :=
  let header := { finalHeader with pad := 0, acfMsgLength := 0 }
  let encoded :=
    if isGbb then encodeAcfGbb header messageTimestamp reassembled
    else encodeAcfAbb header reassembled
  let streamIndex := server.streamIndex streamId
  match server.decodeAndDispatch streamId encoded with
  | (server, reply) =>
      if reply.ec.isNone then server.maybeFragmentResponse streamIndex reply
      else (server, reply)

def feedFinal (server : Server) (streamId : StreamId) (slot : Nat)
    (fragment : Octets) : Server × Reply :=
  let peek := decodeAcfMessageInfo fragment
  let isGbb := decide (peek.acfMsgType = acfMsgTypeGbb)
  if fragment.length < crcLengthAdjustOctets + peek.pad.toNat then
    (server.resetReassembler slot, fragmentRejected)
  else
    let got := trailerAt fragment
      (fragment.length - crcLengthAdjustOctets - peek.pad.toNat)
    let uw := unwrapFramed streamId fragment
    if uw.ec = some (.e2e .shortFrame) then
      (server.resetReassembler slot, ⟨uw.ec, {}, []⟩)
    else
      match decodeAcfFrame uw.acfFrame isGbb with
      | .error _ => (server.resetReassembler slot, fragmentRejected)
      | .ok (finalHeader, messageTimestamp, payload) =>
          match (server.fragReassemblers.get slot).feed false 0
              (trimWirePad payload finalHeader.pad) with
          | (reasm, .complete) =>
              let server := server.setReassembler slot reasm.reset
              let reassembled := reasm.buf
              if got ≠ computeFragmentedCrc streamId
                  (server.fragFirstHeaders.get slot) reassembled then
                (server.recordCrcError streamId,
                  errorReply finalHeader (.e2e .crcError) .pociFailure)
              else if (if isGbb then acfGbbMaxPayload else acfAbbMaxPayload) <
                  reassembled.length then
                (server,
                  setErrorResponse finalHeader (.regmap .requestRejected))
              else
                server.dispatchReassembled streamId finalHeader
                  messageTimestamp isGbb reassembled
          | (reasm, _) =>
              (server.setReassembler slot reasm.reset, fragmentRejected)

/-- The part of `dispatch_e2e_fragment_core` behind the stream's fault
latch. -/
def dispatchFragmentUnfaulted (server : Server) (streamId : StreamId)
    (sequenceNum : UInt8) (fragment : Octets) (applySeqGate : Bool) :
    Server × Reply :=
  if fragment.length < acfCommonHeaderLen then
    (server, ⟨some (.regmap .invalidParameter), {}, []⟩)
  else
    let peek := decodeAcfMessageInfo fragment
    if !server.regs.reqCrcEnabled peek.byteBusId then
      server.decodeAndDispatch streamId fragment
    else
      let streamIndex := server.streamIndex streamId
      if streamIndex = 0 then
        server.dispatchE2eCore streamId sequenceNum fragment applySeqGate
      else if peek.ms then
        server.feedIntermediate (slotOf streamIndex) fragment
      else if !(server.fragReassemblers.get (slotOf streamIndex)).collecting then
        server.dispatchE2eCore streamId sequenceNum fragment applySeqGate
      else server.feedFinal streamId (slotOf streamIndex) fragment

def dispatchE2eFragmentCore (server : Server) (streamId : StreamId)
    (sequenceNum : UInt8) (fragment : Octets) (applySeqGate : Bool) :
    Server × Reply :=
  let server := server.rxWatchdogKick streamId 0
  if server.streamFaultTracker.isFaulted streamId then
    (server,
      errorReplyFromFrame fragment (.dispatch .streamFaulted) .pociFailure)
  else
    server.dispatchFragmentUnfaulted streamId sequenceNum fragment applySeqGate

def dispatchE2eFragment (server : Server) (streamId : StreamId)
    (fragment : Octets) : Server × Reply :=
  server.dispatchE2eFragmentCore streamId 0 fragment true

end Server

end CppRcp.Mock
