import CppRcp.Mock.Tagging
import CppRcp.Properties.RoutedResponses

/-!
# Every response names its request

A client finds the call that a response is for by the bus and the transaction
number it carries.  Whichever entry a message comes through, and wherever on
its way it is answered, what comes back carries the numbers of that message: of
the last fragment where the request was sent in several, and of the member at
the same place where it was sent in a frame.
-/

namespace CppRcp.Mock

open CppRcp.Foundation CppRcp.Acf CppRcp.Request CppRcp.E2e CppRcp.Regmap
open CppRcp.Server CppRcp.Fragment

/-- A response carries the bus and the transaction number of its request. -/
def Names (req response : AcfMessageInfo) : Prop :=
  response.rsp = true →
    response.byteBusId = req.byteBusId ∧
      response.transactionNum = req.transactionNum

section Names

variable {req other response : AcfMessageInfo}

@[simp] theorem names_nothing : Names req {} := by
  simp [Names]

@[simp] theorem names_makeResponse (kind : ResponseKind) :
    Names req (makeResponse req kind) := by
  simp [Names, makeResponse]

@[simp] theorem names_errorReply (ec : ErrorCode) (code : WireErrorCode) :
    Names req (errorReply req ec code).response := by
  simp [errorReply]

@[simp] theorem names_setErrorResponse (ec : ErrorCode) :
    Names req (setErrorResponse req ec).response := by
  simp [setErrorResponse]

theorem Names.congr (h : Names req response)
    (hBus : req.byteBusId = other.byteBusId)
    (hNum : req.transactionNum = other.transactionNum) :
    Names other response := by
  intro hRsp
  simpa [hBus, hNum] using h hRsp

end Names

/-! ## One message -/

section Message

variable {req : AcfMessageInfo}

@[simp] theorem names_classify (outcome : AdmitResult) :
    Names req (classify outcome req).response := by
  unfold classify
  split
  · split_ifs <;> simp
  · split_ifs <;> simp
  · simp
  · split
    · simp
    · split_ifs
      · simp
      · simp [Names, makeAcknowledgeRejectedResponse, makeResponse]
      · simp

private theorem names_applyCancellation (admission : Endpoint)
    (requestType : RequestTypeOpcode) (frame : Octets) :
    Names req (applyCancellation admission requestType frame req).2.1 := by
  unfold applyCancellation applyClearSingle
  split
  · simp
  · simp
  · split
    · simp
    · dsimp only
      split <;> simp
  · simp

private theorem names_admitAndClassify {admission admission' : Endpoint}
    {frame : Octets} {reply : Reply}
    (h : admitAndClassify admission frame req = (admission', some reply)) :
    Names req reply.response := by
  unfold admitAndClassify at h
  dsimp only at h
  split at h
  · cases h
  · split at h
    · split at h
      · cases h
        simp
      · cases h
        exact names_applyCancellation _ _ _
    · cases h
      simp

private theorem names_replyOf (answer : Answer) :
    Names req (replyOf req answer).response := by
  cases answer <;> simp [replyOf]

private theorem names_suppress {regs : RegisterMap} {streamId : StreamId}
    {reply : Reply} (h : Names req reply.response) :
    Names req (suppressResponsePerStreamCfg regs streamId reply).response := by
  unfold suppressResponsePerStreamCfg
  dsimp only
  split_ifs <;> first | exact h | simp

namespace Server

private theorem names_dispatchInner (server : Server) (bus : Bus)
    (payload : Octets) :
    Names req (server.dispatchInner bus req payload).2.response := by
  unfold dispatchInner
  split
  · simp
  · split
    · next hAdmit => exact names_admitAndClassify hAdmit
    · exact names_replyOf _

private theorem names_dispatch (server : Server) (streamId : StreamId)
    (payload : Octets) :
    Names req (server.dispatch streamId req payload).2.response := by
  unfold dispatch dispatchEp0
  split
  · split <;> simp
  · split
    · simp
    · exact names_suppress (names_dispatchInner _ _ _)

private theorem names_admitConditional (server : Server) (streamId : StreamId)
    (frame : Octets) :
    Names (decodeAcfMessageInfo frame)
      (server.admitConditional streamId frame).2.response := by
  unfold admitConditional
  dsimp only
  split
  · simp
  · next bus _ =>
      split
      · exact names_suppress (by simp)
      · refine names_suppress ?_
        cases hAdmit : admitAndClassify (server.admission bus) frame
            (decodeAcfMessageInfo frame) with
        | mk admission reply =>
            cases reply with
            | none => simp
            | some reply => exact names_admitAndClassify hAdmit

private theorem names_decodeAndDispatch (server : Server) (streamId : StreamId)
    (frame : Octets) :
    Names (decodeAcfMessageInfo frame)
      (server.decodeAndDispatch streamId frame).2.response := by
  unfold decodeAndDispatch
  split
  · simp
  · split
    · exact names_admitConditional server streamId frame
    · split
      · split
        · simp
        · next hDecode =>
            rw [← (decodeAcfGbb_ok hDecode).1]
            exact names_dispatch _ _ _
      · split
        · simp
        · next hDecode =>
            rw [← (decodeAcfAbb_ok hDecode).1]
            exact names_dispatch _ _ _

end Server

end Message

/-! ## Protected messages -/

private theorem names_errorReplyFromFrame (frame : Octets) (ec : ErrorCode)
    (code : WireErrorCode) :
    Names (decodeAcfMessageInfo frame)
      (errorReplyFromFrame frame ec code).response := by
  unfold errorReplyFromFrame
  split <;> simp

namespace Server

variable {streamId : StreamId}

private theorem transactionNum_unwrapped {frame : Octets}
    (h : (unwrapFramed streamId frame).ec = none) :
    (decodeAcfMessageInfo
        (unwrapFramed streamId frame).acfFrame).transactionNum =
      (decodeAcfMessageInfo frame).transactionNum := by
  have hLong := unwrapFramed_long (by rw [h]; simp)
  have hEight := le_headerLen (decodeAcfMessageInfo frame).acfMsgType
  unfold unwrapFramed
  rw [if_neg (by omega)]
  dsimp only
  rw [if_neg (Nat.not_lt.mpr hLong)]
  dsimp only
  rw [List.append_assoc, decode_headerOctets, truncated_restamped,
    truncated_decodeAcfMessageInfo]

private theorem names_dispatchE2eUnfaulted (server : Server)
    (sequenceNum : UInt8) (frame : Octets) (applySeqGate : Bool) :
    Names (decodeAcfMessageInfo frame)
      (server.dispatchE2eUnfaulted streamId sequenceNum frame
        applySeqGate).2.response := by
  unfold dispatchE2eUnfaulted
  dsimp only
  split
  · simp
  · split
    · exact names_decodeAndDispatch server streamId frame
    · generalize (if applySeqGate = true then
        server.seqGateAdmits streamId sequenceNum else (server, true)) = gate
      split
      · simp
      · split
        · next hUnwrap =>
            exact (names_decodeAndDispatch _ streamId _).congr
              (byteBusId_unwrapped hUnwrap) (transactionNum_unwrapped hUnwrap)
        · dsimp only
          split <;> simp

private theorem names_dispatchE2eCore (server : Server) (sequenceNum : UInt8)
    (frame : Octets) (applySeqGate : Bool) :
    Names (decodeAcfMessageInfo frame)
      (server.dispatchE2eCore streamId sequenceNum frame
        applySeqGate).2.response := by
  unfold dispatchE2eCore
  dsimp only
  split
  · exact names_errorReplyFromFrame _ _ _
  · exact names_dispatchE2eUnfaulted _ _ _ _

/-! ## Fragments -/

private theorem names_maybeFragmentResponse {req : AcfMessageInfo}
    (server : Server)
    (streamIndex : UInt8) {reply : Reply} (h : Names req reply.response) :
    Names req
      (server.maybeFragmentResponse streamIndex reply).2.response := by
  have hRejected (hRsp : reply.response.rsp = true) (ec : ErrorCode) :
      Names req (setErrorResponse reply.response ec).response := by
    obtain ⟨hBus, hNum⟩ := h hRsp
    exact (names_setErrorResponse ec).congr hBus hNum
  unfold maybeFragmentResponse
  split
  · exact h
  · next hRsp =>
      have hRejected := hRejected (by simpa using hRsp)
      dsimp only
      split
      · exact h
      · split
        · exact hRejected _
        · split
          · exact hRejected _
          · split
            · exact hRejected _
            · split
              · simp
              · exact hRejected _

private theorem names_dispatchReassembled (server : Server)
    (finalHeader : AcfMessageInfo) (messageTimestamp : Nat) (isGbb : Bool)
    (reassembled : Octets)
    (hWidth : finalHeader.truncated = finalHeader) :
    Names finalHeader
      (server.dispatchReassembled streamId finalHeader messageTimestamp isGbb
        reassembled).2.response := by
  let encoded :=
    if isGbb then
      encodeAcfGbb { finalHeader with pad := 0, acfMsgLength := 0 }
        messageTimestamp reassembled
    else
      encodeAcfAbb { finalHeader with pad := 0, acfMsgLength := 0 } reassembled
  have hHeader :
      (decodeAcfMessageInfo encoded).byteBusId = finalHeader.byteBusId ∧
        (decodeAcfMessageInfo encoded).transactionNum =
          finalHeader.transactionNum := by
    have hBus := congrArg AcfMessageInfo.byteBusId hWidth
    simp only [AcfMessageInfo.truncated] at hBus
    simp only [encoded, encodeAcfGbb, encodeAcfAbb]
    split <;>
      simp [List.append_assoc, decode_encodeAcfMessageInfo,
        AcfMessageInfo.truncated, hBus]
  have hReply := (names_decodeAndDispatch server streamId encoded).congr
    hHeader.1 hHeader.2
  unfold dispatchReassembled
  dsimp only
  change Names finalHeader
    (if (server.decodeAndDispatch streamId encoded).2.ec.isNone then _
      else _ : Server × Reply).2.response
  split
  · exact names_maybeFragmentResponse _ _ hReply
  · exact hReply

private theorem names_feedIntermediate {req : AcfMessageInfo} (server : Server)
    (slot : Nat) (fragment : Octets) :
    Names req (server.feedIntermediate slot fragment).2.response := by
  unfold feedIntermediate
  dsimp only
  split
  · simp [fragmentRejected]
  · split <;> simp [fragmentRejected]

private theorem names_feedFinal (server : Server) (slot : Nat)
    (fragment : Octets) :
    Names (decodeAcfMessageInfo fragment)
      (server.feedFinal streamId slot fragment).2.response := by
  unfold feedFinal
  dsimp only
  split
  · simp [fragmentRejected]
  · split
    · simp
    · next hLong =>
        split
        · simp [fragmentRejected]
        · next finalHeader messageTimestamp payload hDecode =>
            obtain ⟨hHeader, -⟩ := decode_unwrapped hLong hDecode
            have hBus := congrArg AcfMessageInfo.byteBusId hHeader
            have hNum := congrArg AcfMessageInfo.transactionNum hHeader
            have hWidth : finalHeader.truncated = finalHeader := by
              rw [(decodeAcfFrame_ok hDecode).1]
              exact truncated_decodeAcfMessageInfo _
            suffices h : Names finalHeader _ from h.congr hBus hNum
            split
            · split
              · simp
              · split_ifs <;>
                  first
                  | simp
                  | exact names_dispatchReassembled _ _ _ _ _ hWidth
            · simp [fragmentRejected]

private theorem names_dispatchFragmentUnfaulted (server : Server)
    (sequenceNum : UInt8) (fragment : Octets) (applySeqGate : Bool) :
    Names (decodeAcfMessageInfo fragment)
      (server.dispatchFragmentUnfaulted streamId sequenceNum fragment
        applySeqGate).2.response := by
  unfold dispatchFragmentUnfaulted
  dsimp only
  split
  · simp
  · split
    · exact names_decodeAndDispatch _ _ _
    · split
      · exact names_dispatchE2eCore _ _ _ _
      · split
        · exact names_feedIntermediate _ _ _
        · split
          · exact names_dispatchE2eCore _ _ _ _
          · exact names_feedFinal _ _ _

private theorem names_dispatchE2eFragmentCore (server : Server)
    (streamId : StreamId) (sequenceNum : UInt8) (fragment : Octets)
    (applySeqGate : Bool) :
    Names (decodeAcfMessageInfo fragment)
      (server.dispatchE2eFragmentCore streamId sequenceNum fragment
        applySeqGate).2.response := by
  unfold dispatchE2eFragmentCore
  dsimp only
  split
  · exact names_errorReplyFromFrame _ _ _
  · exact names_dispatchFragmentUnfaulted _ _ _ _

end Server

/-! ## Frames -/

/-- Each result of a frame names the member at its place. -/
def NamedMembers (frame : Octets) (results : List FrameMemberResult) : Prop :=
  ∀ (index : Nat) (result : FrameMemberResult),
    results[index]? = some result → result.response.rsp = true →
      ∃ member, (frameMembers frame)[index]? = some member ∧
        Names (decodeAcfMessageInfo member) result.response

private theorem names_stepMember {dispatchMember : DispatchMember}
    (hMember : ∀ server member, Names (decodeAcfMessageInfo member)
      (dispatchMember server member).2.response)
    (state : FrameLoop) (input : Octets × Nat) :
    Names (decodeAcfMessageInfo input.1)
      (stepMember dispatchMember state input).2.response := by
  have hTurn := turn_stepMember dispatchMember state input
  generalize stepMember dispatchMember state input = result at hTurn
  cases hTurn with
  | undecodable hPeek => simp
  | anchor hPeek hAnchor => exact hMember _ _
  | orphan hPeek hChained hFirst =>
      simp [refuseChained, peekMember_eq_some hPeek]
  | aborted hPeek hChained hLater hAbort =>
      simp [refuseChained, peekMember_eq_some hPeek]
  | follower hPeek hChained hLater hLatch hContinue => exact hMember _ _

private theorem namedMembers_dispatchFrameImpl {dispatchMember : DispatchMember}
    (hMember : ∀ server member, Names (decodeAcfMessageInfo member)
      (dispatchMember server member).2.response)
    (server : Server) (frame : Octets) :
    NamedMembers frame (dispatchFrameImpl dispatchMember server frame).2 := by
  intro index result hResult _
  rw [dispatchFrameImpl_getElem?] at hResult
  obtain ⟨member, hGet, rfl⟩ := Option.map_eq_some_iff.mp hResult
  exact ⟨member, hGet, names_stepMember hMember _ (member, index)⟩

theorem namedMembers_dispatchFrame (server : Server) (streamId : StreamId)
    (frame : Octets) :
    NamedMembers frame (server.dispatchFrame streamId frame).2 :=
  namedMembers_dispatchFrameImpl
    (fun server member => server.names_decodeAndDispatch streamId member)
    server frame

theorem namedMembers_dispatchFrameE2e (server : Server) (streamId : StreamId)
    (sequenceNum : UInt8) (frame : Octets) :
    NamedMembers frame
      (server.dispatchFrameE2e streamId sequenceNum frame).2 := by
  unfold Server.dispatchFrameE2e
  dsimp only
  split
  · intro index result hResult
    simp at hResult
  · split
    · -- the results of a frame out of sequence are no responses
      intro index result hResult hRsp
      have hMem := List.mem_of_getElem? hResult
      rw [List.eq_of_mem_replicate hMem] at hRsp
      simp [Server.seqErrorResult] at hRsp
    · exact namedMembers_dispatchFrameImpl
        (fun server member => server.names_dispatchE2eFragmentCore streamId
          sequenceNum member false) _ frame

/-- Through every entry, in every state of the server. -/
theorem responses_name_requests (server : Server) (streamId : StreamId) :
    (∀ req payload,
      Names req (server.dispatch streamId req payload).2.response) ∧
    (∀ sequenceNum message, Names (decodeAcfMessageInfo message)
      (server.dispatchE2e streamId sequenceNum message).2.response) ∧
    (∀ fragment, Names (decodeAcfMessageInfo fragment)
      (server.dispatchE2eFragment streamId fragment).2.response) ∧
    (∀ frame,
      NamedMembers frame (server.dispatchFrame streamId frame).2) ∧
    ∀ sequenceNum frame, NamedMembers frame
      (server.dispatchFrameE2e streamId sequenceNum frame).2 :=
  ⟨fun _ _ => server.names_dispatch streamId _,
    fun sequenceNum message =>
      server.names_dispatchE2eCore sequenceNum message true,
    fun fragment =>
      server.names_dispatchE2eFragmentCore streamId 0 fragment true,
    namedMembers_dispatchFrame server streamId,
    namedMembers_dispatchFrameE2e server streamId⟩

end CppRcp.Mock
