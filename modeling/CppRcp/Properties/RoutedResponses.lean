import CppRcp.Mock.ResponseRouting
import CppRcp.Properties.StreamFaults

/-!
# Responses keep to the row of their stream

No entry lets an acknowledge through that the row of its stream withholds.  Any
other response keeps to the row too, if one of the ten hosted endpoints or its
admission built it.  The responses built around these keep to no row: endpoint
0 answers every read, and what is refused before it reaches an endpoint, or
too long for its way back, is reported.
-/

namespace CppRcp.Mock

open CppRcp.Foundation CppRcp.Acf CppRcp.Request CppRcp.E2e CppRcp.Regmap
open CppRcp.Fragment

/-! ## What is answered past the row -/

/-- The message is for none of the hosted buses: for endpoint 0, or for no
bus that there is. -/
def Unhosted (message : Octets) : Prop :=
  Bus.ofId (decodeAcfMessageInfo message).byteBusId = none

/-- A protected message that is refused before it reaches an endpoint, or
whose bus is not hosted. -/
inductive RefusedMessage (server : Server) (streamId : StreamId)
    (message : Octets) : Prop
  | unhosted (h : Unhosted message)
  | faulted (h : server.streamFaultTracker.isFaulted streamId = true)
  | corrupt
      (hCrc : server.regs.reqCrcEnabled
        (decodeAcfMessageInfo message).byteBusId = true)
      (h : (unwrapFramed streamId message).ec = some (.e2e .crcError))

def joinedPayload (server : Server) (arrival : Arrival) : Octets :=
  (server.fragReassemblers.get (arrival.slot server)).buf ++
    lastPayload arrival.fragment

def maxJoinedPayload (arrival : Arrival) : Nat :=
  if decide (arrival.header.acfMsgType = acfMsgTypeGbb) then acfGbbMaxPayload
  else acfAbbMaxPayload

/-- A joined message as it is encoded again for its dispatch. -/
def JoinedMessage.encode (message : JoinedMessage) : Octets :=
  if message.isGbb then
    encodeAcfGbb message.header.resized message.messageTimestamp
      message.payload
  else encodeAcfAbb message.header.resized message.payload

def LongAcknowledge (server : Server) (streamId : StreamId)
    (message : JoinedMessage) : Prop :=
  let reply := (server.decodeAndDispatch streamId message.encode).2
  Acknowledges reply.response ∧
    server.responseCeiling (server.streamIndex streamId) reply.response <
      reply.payload.length

inductive RefusedFragment (server : Server) (arrival : Arrival) : Prop
  | message (h : RefusedMessage server arrival.streamId arrival.fragment)
  | corrupt (hProtected : arrival.Protected server)
      (hLast : arrival.header.ms = false)
      (h : lastTrailer arrival.fragment ≠
        computeFragmentedCrc arrival.streamId
          (server.fragFirstHeaders.get (arrival.slot server))
          (joinedPayload server arrival))
  | tooLong (hProtected : arrival.Protected server)
      (hLast : arrival.header.ms = false)
      (h : maxJoinedPayload arrival < (joinedPayload server arrival).length)
  | longAcknowledge (message : JoinedMessage)
      (hCompletes : Completes arrival
        (server.fragFirstHeaders.get (arrival.slot server))
        (server.fragReassemblers.get (arrival.slot server)).buf message)
      (h : LongAcknowledge (server.resetReassembler (arrival.slot server))
        arrival.streamId message)

def RefusedChained (state : FrameLoop) (input : Octets × Nat) : Prop :=
  ∃ request, decodeChainedMember input.1 = .ok request ∧
    (input.2 = 0 ∨ state.chainAborted = true ∨
      (request.cs = true ∧ state.prevErrored = true))

/-! ## Whole messages -/

namespace Server

variable {server : Server} {streamId : StreamId}

theorem byteBusId_unwrapped {frame : Octets}
    (h : (unwrapFramed streamId frame).ec = none) :
    (decodeAcfMessageInfo (unwrapFramed streamId frame).acfFrame).byteBusId =
      (decodeAcfMessageInfo frame).byteBusId := by
  have hLong := unwrapFramed_long (by rw [h]; simp)
  have hEight := le_headerLen (decodeAcfMessageInfo frame).acfMsgType
  unfold unwrapFramed
  rw [if_neg (by omega)]
  dsimp only
  rw [if_neg (Nat.not_lt.mpr hLong)]
  dsimp only
  rw [List.append_assoc, decode_headerOctets, truncated_restamped,
    truncated_decodeAcfMessageInfo]

private theorem routedBy_unwrapped
    (hConfigured : server.streamIndex streamId ≠ 0) {frame : Octets}
    (hCrc : server.regs.reqCrcEnabled
      (decodeAcfMessageInfo frame).byteBusId = true) :
    let uw := unwrapFramed streamId frame
    let result : Server × Reply :=
      match uw.ec with
      | none => server.decodeAndDispatch streamId uw.acfFrame
      | some ec =>
          (server.recordCrcError streamId,
            if ec = .e2e .crcError then
              errorReply (decodeAcfMessageInfo frame) ec .pociFailure
            else ⟨some ec, {}, []⟩)
    RoutedBy (server.rowOf streamId) (RefusedMessage server streamId frame)
      result.2.response result.2.payload := by
  dsimp only
  split
  · next hUnwrap =>
      refine (routedBy_decodeAndDispatch hConfigured _).mono fun hNone => ?_
      rw [byteBusId_unwrapped hUnwrap] at hNone
      exact .unhosted hNone
  · next ec hUnwrap =>
      dsimp only
      split
      · next hCorrupt =>
          exact routedBy_errorReply _ _ _ fun _ =>
            .corrupt hCrc (hCorrupt ▸ hUnwrap)
      · exact .silent _ _ ⟨rfl, rfl⟩

theorem RefusedMessage.congr {a b : Server} {frame : Octets}
    (hRegs : b.regs = a.regs)
    (hFaults : b.streamFaultTracker = a.streamFaultTracker)
    (h : RefusedMessage b streamId frame) :
    RefusedMessage a streamId frame := by
  cases h with
  | unhosted hUnhosted => exact .unhosted hUnhosted
  | faulted hFaulted => exact .faulted (hFaults ▸ hFaulted)
  | corrupt hCrc hCorrupt => exact .corrupt (hRegs ▸ hCrc) hCorrupt

private theorem routedBy_dispatchE2eUnfaulted
    (hConfigured : server.streamIndex streamId ≠ 0) (sequenceNum : UInt8)
    (frame : Octets) (applySeqGate : Bool) :
    RoutedBy (server.rowOf streamId) (RefusedMessage server streamId frame)
      (server.dispatchE2eUnfaulted streamId sequenceNum frame
        applySeqGate).2.response
      (server.dispatchE2eUnfaulted streamId sequenceNum frame
        applySeqGate).2.payload := by
  unfold dispatchE2eUnfaulted
  dsimp only
  split
  · exact .silent _ _ ⟨rfl, rfl⟩
  · split
    · exact (routedBy_decodeAndDispatch hConfigured frame).mono .unhosted
    · next hCrc =>
        generalize hGate : (if applySeqGate = true then
          server.seqGateAdmits streamId sequenceNum else (server, true)) = gate
        have hRegs : gate.1.regs = server.regs := by
          rw [← hGate]
          split
          · exact regs_seqGateAdmits _ _ _
          · rfl
        have hFaults :
            gate.1.streamFaultTracker = server.streamFaultTracker := by
          rw [← hGate]
          split
          · exact streamFaultTracker_seqGateAdmits _ _ _
          · rfl
        split
        · exact .silent _ _ ⟨rfl, rfl⟩
        · rw [← rowOf_congr hRegs]
          refine (routedBy_unwrapped ?_ ?_).mono (RefusedMessage.congr hRegs
            hFaults)
          · rwa [streamIndex, hRegs]
          · rw [hRegs]
            simpa using hCrc

private theorem routedBy_errorReplyFromFrame {row : RequestStreamConfig}
    {exempt : Prop} (frame : Octets) (ec : ErrorCode) (code : WireErrorCode)
    (h : exempt) :
    RoutedBy row exempt (errorReplyFromFrame frame ec code).response
      (errorReplyFromFrame frame ec code).payload := by
  unfold errorReplyFromFrame
  split
  · exact .silent _ _ ⟨rfl, rfl⟩
  · exact routedBy_errorReply _ _ _ fun _ => h

private theorem routedBy_dispatchE2eCore
    (hConfigured : server.streamIndex streamId ≠ 0) (sequenceNum : UInt8)
    (frame : Octets) (applySeqGate : Bool) :
    RoutedBy (server.rowOf streamId) (RefusedMessage server streamId frame)
      (server.dispatchE2eCore streamId sequenceNum frame
        applySeqGate).2.response
      (server.dispatchE2eCore streamId sequenceNum frame
        applySeqGate).2.payload := by
  have hRegs := regs_rxWatchdogKick server streamId 0
  unfold dispatchE2eCore
  dsimp only
  split
  · next hFaulted =>
      refine routedBy_errorReplyFromFrame _ _ _ (.faulted ?_)
      rwa [streamFaultTracker_rxWatchdogKick] at hFaulted
  · rw [← rowOf_congr hRegs]
    refine (routedBy_dispatchE2eUnfaulted ?_ _ _ _).mono
      (RefusedMessage.congr hRegs (streamFaultTracker_rxWatchdogKick _ _ _))
    rwa [streamIndex_rxWatchdogKick]

/-! ## Fragments -/

private theorem routedBy_maybeFragmentResponse {row : RequestStreamConfig}
    {exempt : Prop} {streamIndex : UInt8} {reply : Reply}
    (h : RoutedBy row exempt reply.response reply.payload)
    (hLong : Acknowledges reply.response →
      server.responseCeiling streamIndex reply.response <
        reply.payload.length → exempt) :
    RoutedBy row exempt
      (server.maybeFragmentResponse streamIndex reply).2.response
      (server.maybeFragmentResponse streamIndex reply).2.payload := by
  unfold maybeFragmentResponse
  split
  · exact h
  · next hRsp =>
      dsimp only
      split
      · exact h
      · next hCeiling =>
          have hRejected : RoutedBy row exempt
              (setErrorResponse reply.response
                (.regmap .requestRejected)).response
              (setErrorResponse reply.response
                (.regmap .requestRejected)).payload := by
            refine routedBy_setErrorResponse _ _ fun hRow => ?_
            by_contra hNot
            rcases h.other hRow hNot with hAck | ⟨hSilent, -⟩
            · exact hNot (hLong hAck (Nat.lt_of_not_le hCeiling))
            · simp [hSilent] at hRsp
          split
          · exact hRejected
          · split
            · exact hRejected
            · split
              · exact hRejected
              · split
                · exact .silent _ _ ⟨rfl, rfl⟩
                · exact hRejected

private theorem byteBusId_joined {arrival : Arrival}
    {firstHeader collected : Octets} {message : JoinedMessage}
    (h : Completes arrival firstHeader collected message) :
    (decodeAcfMessageInfo message.encode).byteBusId =
      arrival.header.byteBusId := by
  have hWidth : message.header.resized.truncated.byteBusId =
      arrival.header.byteBusId := by
    have hTruncated := congrArg AcfMessageInfo.byteBusId
      (truncated_decodeAcfMessageInfo arrival.fragment)
    rw [h.header]
    exact hTruncated
  rw [← hWidth]
  unfold JoinedMessage.encode
  split
  · unfold encodeAcfGbb
    dsimp only
    rw [List.append_assoc, decode_encodeAcfMessageInfo]
    split <;> rfl
  · unfold encodeAcfAbb
    dsimp only
    rw [decode_encodeAcfMessageInfo]
    split <;> rfl

private theorem dispatch_joined (message : JoinedMessage) (streamId : StreamId)
    (server : Server) :
    message.dispatch streamId server =
      let result := server.decodeAndDispatch streamId message.encode
      if result.2.ec.isNone then
        result.1.maybeFragmentResponse (server.streamIndex streamId) result.2
      else result :=
  rfl

theorem responseCeiling_congr {a b : Server} (hRegs : b.regs = a.regs)
    (streamIndex : UInt8) (response : AcfMessageInfo) :
    b.responseCeiling streamIndex response =
      a.responseCeiling streamIndex response := by
  unfold responseCeiling
  rw [hRegs]

private theorem routedBy_joined (server : Server)
    (hConfigured : server.streamIndex streamId ≠ 0)
    {arrival : Arrival} {firstHeader collected : Octets}
    {message : JoinedMessage}
    (h : Completes arrival firstHeader collected message) :
    RoutedBy (server.rowOf streamId)
      (Unhosted arrival.fragment ∨ LongAcknowledge server streamId message)
      (message.dispatch streamId server).2.response
      (message.dispatch streamId server).2.payload := by
  have hReply : RoutedBy (server.rowOf streamId)
      (Unhosted arrival.fragment ∨ LongAcknowledge server streamId message)
      (server.decodeAndDispatch streamId message.encode).2.response
      (server.decodeAndDispatch streamId message.encode).2.payload := by
    refine (routedBy_decodeAndDispatch hConfigured _).mono fun hNone => .inl ?_
    rwa [byteBusId_joined h] at hNone
  have hRegs := (quiet_decodeAndDispatch server streamId message.encode).regs
  rw [dispatch_joined]
  dsimp only
  split
  · refine routedBy_maybeFragmentResponse hReply fun hAck hLong => .inr ?_
    rw [responseCeiling_congr hRegs] at hLong
    exact ⟨hAck, hLong⟩
  · exact hReply

private theorem routedBy_feedIntermediate {row : RequestStreamConfig}
    {exempt : Prop} (slot : Nat) (fragment : Octets) :
    RoutedBy row exempt (server.feedIntermediate slot fragment).2.response
      (server.feedIntermediate slot fragment).2.payload := by
  unfold feedIntermediate
  dsimp only
  split
  · exact .silent _ _ ⟨rfl, rfl⟩
  · split <;> exact .silent _ _ ⟨rfl, rfl⟩

private theorem routedBy_feedFinal {arrival : Arrival}
    (hProtected : arrival.Protected server)
    (hLast : arrival.header.ms = false) :
    RoutedBy (server.rowOf arrival.streamId) (RefusedFragment server arrival)
      (server.feedFinal arrival.streamId (arrival.slot server)
        arrival.fragment).2.response
      (server.feedFinal arrival.streamId (arrival.slot server)
        arrival.fragment).2.payload := by
  unfold feedFinal
  dsimp only
  split
  · exact .silent _ _ ⟨rfl, rfl⟩
  · split
    · exact .silent _ _ ⟨rfl, rfl⟩
    · next hLong =>
        split
        · exact .silent _ _ ⟨rfl, rfl⟩
        · next finalHeader messageTimestamp payload hDecode =>
            obtain ⟨hHeader, hPayload⟩ := decode_unwrapped hLong hDecode
            rw [hPayload]
            split
            · next reasm hFeed =>
                have hJoined : reasm.buf = joinedPayload server arrival :=
                  buf_of_feed_complete hFeed
                split
                · next hCrc =>
                    refine routedBy_errorReply _ _ _ fun _ => ?_
                    exact .corrupt hProtected hLast (hJoined ▸ hCrc)
                · next hCrc =>
                    change RoutedBy _ _
                      (if maxJoinedPayload arrival < reasm.buf.length then _
                        else _ : Server × Reply).2.response
                      (if maxJoinedPayload arrival < reasm.buf.length then _
                        else _ : Server × Reply).2.payload
                    split
                    · next hTooLong =>
                        refine routedBy_setErrorResponse _ _ fun _ => ?_
                        exact .tooLong hProtected hLast (hJoined ▸ hTooLong)
                    · let message : JoinedMessage :=
                        ⟨finalHeader, messageTimestamp,
                          decide (arrival.header.acfMsgType = acfMsgTypeGbb),
                          reasm.buf⟩
                      have hCompletes : Completes arrival
                          (server.fragFirstHeaders.get (arrival.slot server))
                          (server.fragReassemblers.get
                            (arrival.slot server)).buf message :=
                        ⟨hLast, rfl, hHeader, hJoined, not_not.mp hCrc⟩
                      have hReset : server.setReassembler
                          (arrival.slot server) reasm.reset =
                            server.resetReassembler (arrival.slot server) := by
                        rw [resetReassembler, reset_of_feed hFeed]
                      rw [hReset]
                      refine (routedBy_joined
                        (server.resetReassembler (arrival.slot server))
                        hProtected.2 hCompletes).mono ?_
                      rintro (hUnhosted | hAck)
                      · exact .message (.unhosted hUnhosted)
                      · exact .longAcknowledge message hCompletes hAck
            · exact .silent _ _ ⟨rfl, rfl⟩

private theorem routedBy_dispatchFragmentUnfaulted {arrival : Arrival}
    (hConfigured : server.streamIndex arrival.streamId ≠ 0) :
    RoutedBy (server.rowOf arrival.streamId) (RefusedFragment server arrival)
      (server.dispatchFragmentUnfaulted arrival.streamId arrival.sequenceNum
        arrival.fragment arrival.applySeqGate).2.response
      (server.dispatchFragmentUnfaulted arrival.streamId arrival.sequenceNum
        arrival.fragment arrival.applySeqGate).2.payload := by
  have hWhole := (routedBy_dispatchE2eCore hConfigured arrival.sequenceNum
    arrival.fragment arrival.applySeqGate).mono
      (@RefusedFragment.message server arrival)
  unfold dispatchFragmentUnfaulted
  dsimp only
  by_cases hLen : arrival.fragment.length < acfCommonHeaderLen
  · rw [if_pos hLen]
    exact .silent _ _ ⟨rfl, rfl⟩
  · rw [if_neg hLen]
    cases hCrc : server.regs.reqCrcEnabled
        (decodeAcfMessageInfo arrival.fragment).byteBusId with
    | false =>
        refine (routedBy_decodeAndDispatch hConfigured _).mono fun hNone => ?_
        exact .message (.unhosted hNone)
    | true =>
        have hProtected : arrival.Protected server := ⟨hCrc, hConfigured⟩
        rw [if_neg (by decide), if_neg hConfigured]
        cases hMs : (decodeAcfMessageInfo arrival.fragment).ms with
        | true => exact routedBy_feedIntermediate _ _
        | false =>
            rw [if_neg (by decide)]
            split
            · exact hWhole
            · exact routedBy_feedFinal hProtected hMs

end Server

theorem Arrival.routedBy_dispatch {server : Server} (arrival : Arrival)
    (hConfigured : server.streamIndex arrival.streamId ≠ 0) :
    RoutedBy (server.rowOf arrival.streamId)
      (RefusedFragment (server.rxWatchdogKick arrival.streamId 0) arrival)
      (arrival.dispatch server).2.response
      (arrival.dispatch server).2.payload := by
  have hRegs := Server.regs_rxWatchdogKick server arrival.streamId 0
  rw [← Server.rowOf_congr hRegs]
  unfold Arrival.dispatch Server.dispatchE2eFragmentCore
  dsimp only
  split
  · next hFaulted =>
      exact Server.routedBy_errorReplyFromFrame _ _ _
        (.message (.faulted hFaulted))
  · refine Server.routedBy_dispatchFragmentUnfaulted ?_
    rwa [Server.streamIndex_rxWatchdogKick]

/-! ## Frames -/

private theorem routedBy_stepMember {dispatchMember : DispatchMember}
    {row : RequestStreamConfig} {exempt : Prop} (state : FrameLoop)
    (input : Octets × Nat)
    (h : RoutedBy row exempt (dispatchMember state.server input.1).2.response
      (dispatchMember state.server input.1).2.payload) :
    let result := (stepMember dispatchMember state input).2
    RoutedBy row (RefusedChained state input ∨ exempt) result.response
      result.responsePayload := by
  have hRefused (ec : ErrorCode) {peek : AcfMessageInfo}
      {code : WireErrorCode} (hChained : RefusedChained state input) :
      RoutedBy row (RefusedChained state input ∨ exempt)
        (errorReply peek ec code).response (errorReply peek ec code).payload :=
    routedBy_errorReply _ _ _ fun _ => .inl hChained
  generalize hOut : stepMember dispatchMember state input = out
  have hTurn := turn_stepMember dispatchMember state input
  rw [hOut] at hTurn
  cases hTurn with
  | undecodable hPeek => exact .silent _ _ ⟨rfl, rfl⟩
  | anchor hPeek hAnchor => exact h.mono .inr
  | orphan hPeek hChained hFirst =>
      exact hRefused (.dispatch .chainError) ⟨_, hChained, .inl hFirst⟩
  | aborted hPeek hChained hLater hAbort =>
      exact hRefused (.dispatch .chainAborted) ⟨_, hChained, .inr hAbort⟩
  | follower hPeek hChained hLater hLatch hContinue => exact h.mono .inr

def RoutedMembers (dispatchMember : DispatchMember) (server : Server)
    (row : RequestStreamConfig) (frame : Octets)
    (exempt : Server → Octets → Prop) (results : List FrameMemberResult) :
    Prop :=
  ∀ index result, results[index]? = some result →
    ∃ member, (frameMembers frame)[index]? = some member ∧
      let state := loopBefore dispatchMember server (frameMembers frame) index
      RoutedBy row
        (RefusedChained state (member, index) ∨ exempt state.server member)
        result.response result.responsePayload

private theorem routedMembers_dispatchFrameImpl
    {dispatchMember : DispatchMember}
    {row : RequestStreamConfig} {exempt : Server → Octets → Prop}
    {server : Server}
    (hMember : ∀ later member, later.regs = server.regs →
      (dispatchMember later member).1.regs = server.regs ∧
        RoutedBy row (exempt later member)
          (dispatchMember later member).2.response
          (dispatchMember later member).2.payload)
    (frame : Octets) :
    RoutedMembers dispatchMember server row frame exempt
      (dispatchFrameImpl dispatchMember server frame).2 := by
  intro index result hResult
  rw [dispatchFrameImpl_getElem?] at hResult
  obtain ⟨member, hGet, rfl⟩ := Option.map_eq_some_iff.mp hResult
  have hRegs := @loopBefore_invariant dispatchMember
    (fun later => later.regs = server.regs) server
    (fun later member hLater => (hMember later member hLater).1)
    (fun later bus ep hLater => hLater) (frameMembers frame) index rfl
  exact ⟨member, hGet,
    routedBy_stepMember _ (member, index) (hMember _ member hRegs).2⟩

/-! ## Every entry -/

/-- On a configured stream no entry lets an acknowledge through that the row
withholds, and no other response from a hosted endpoint or its admission.
Endpoint 0 answers whatever the row says. -/
theorem responses_routed (server : Server) (streamId : StreamId)
    (hConfigured : server.streamIndex streamId ≠ 0) :
    (∀ req payload,
      let reply := (server.dispatch streamId req payload).2
      RoutedBy (server.rowOf streamId) (Bus.ofId req.byteBusId = none)
        reply.response reply.payload) ∧
    (∀ sequenceNum message,
      let reply := (server.dispatchE2e streamId sequenceNum message).2
      RoutedBy (server.rowOf streamId) (RefusedMessage server streamId message)
        reply.response reply.payload) ∧
    (∀ fragment,
      let reply := (server.dispatchE2eFragment streamId fragment).2
      RoutedBy (server.rowOf streamId)
        (RefusedFragment (server.rxWatchdogKick streamId 0)
          { streamId, fragment })
        reply.response reply.payload) ∧
    (∀ frame,
      RoutedMembers
        (fun server member => server.decodeAndDispatch streamId member) server
        (server.rowOf streamId) frame (fun _ member => Unhosted member)
        (server.dispatchFrame streamId frame).2) ∧
    (∀ sequenceNum frame,
      let gate := server.seqGateAdmits streamId sequenceNum
      let results := (server.dispatchFrameE2e streamId sequenceNum frame).2
      if gate.2 then
        RoutedMembers
          (fun server member => server.dispatchE2eFragmentCore streamId
            sequenceNum member false) gate.1
          (server.rowOf streamId) frame
          (fun server member =>
            RefusedFragment (server.rxWatchdogKick streamId 0)
              { streamId, sequenceNum, fragment := member,
                applySeqGate := false })
          results
      else ∀ result ∈ results, Silent result.response result.responsePayload) ∧
    ∀ req payload, req.byteBusId = 0 →
      let response := (server.dispatch streamId req payload).2.response
      response.rsp = true ∧ ¬ Acknowledges response := by
  refine ⟨Server.routedBy_dispatch hConfigured,
    fun sequenceNum message =>
      Server.routedBy_dispatchE2eCore hConfigured sequenceNum message true,
    fun fragment => Arrival.routedBy_dispatch { streamId, fragment }
      hConfigured, ?_, ?_, ?_⟩
  · intro frame
    refine routedMembers_dispatchFrameImpl (fun later member hRegs => ?_) frame
    refine ⟨(Server.quiet_decodeAndDispatch later streamId
      member).regs.trans hRegs, ?_⟩
    rw [← Server.rowOf_congr hRegs]
    exact Server.routedBy_decodeAndDispatch
      (by rwa [Server.streamIndex, hRegs]) member
  · intro sequenceNum frame
    have hGate := Server.regs_seqGateAdmits server streamId sequenceNum
    unfold Server.dispatchFrameE2e
    cases hAdmits : server.seqGateAdmits streamId sequenceNum with
    | mk gated admits =>
        rw [hAdmits] at hGate
        dsimp only at hGate ⊢
        cases admits with
        | false =>
            intro result hMem
            split at hMem
            · cases hMem
            · rw [List.eq_of_mem_replicate hMem]
              exact ⟨rfl, rfl⟩
        | true =>
            rw [if_pos rfl]
            split
            · intro index result hResult
              cases hResult
            · refine routedMembers_dispatchFrameImpl
                (fun later member hRegs => ?_) frame
              refine ⟨(Server.faultEffect_dispatchE2eFragmentCore later streamId
                sequenceNum member false).regs.trans hRegs, ?_⟩
              rw [← Server.rowOf_congr (hRegs.trans hGate)]
              refine Arrival.routedBy_dispatch
                { streamId, sequenceNum, fragment := member,
                  applySeqGate := false } ?_
              rwa [Server.streamIndex, hRegs, hGate]
  · intro req payload hZero
    unfold Server.dispatch
    rw [if_pos hZero]
    unfold Server.dispatchEp0
    split
    · refine ⟨rfl, fun hAck => ?_⟩
      have hKind := hAck.2
      simp [setErrorResponse, errorReply, responseKindOf_makeResponse] at hKind
    · refine ⟨rfl, fun hAck => ?_⟩
      have hKind := hAck.2
      simp [responseKindOf_makeResponse] at hKind

def withholdingServer : Server :=
  { lifecycle := .rcpConfigured
    regs := { requestStreams := [{ streamId := 7, rxRespStreamIndex := 0 }] } }

theorem responses_routed_withheld :
    let reply := (withholdingServer.dispatch 7 { byteBusId := 1 } []).2
    Acknowledges reply.response ∨ Silent reply.response reply.payload :=
  ((responses_routed withholdingServer 7 (by decide)).1 { byteBusId := 1 }
    []).other rfl (by decide)

/-- A read of endpoint 0 is answered, though the row withholds responses. -/
theorem responses_not_routed :
    withholdingServer.streamIndex 7 ≠ 0 ∧
      (withholdingServer.rowOf 7).rxRespStreamIndex = 0 ∧
      ¬ RoutedBy (withholdingServer.rowOf 7) False
        (withholdingServer.dispatch 7 {} []).2.response
        (withholdingServer.dispatch 7 {} []).2.payload := by
  refine ⟨by decide, rfl, fun h => ?_⟩
  have hOther := h.other rfl id
  revert hOther
  decide

end CppRcp.Mock
