import CppRcp.Host.Network
import CppRcp.Properties.FrameResults
import CppRcp.Properties.FrameRoundTrips
import CppRcp.Properties.NamedResponses

/-!
# A request and its reply on the wire

A frame whose message is in range has one member, its handler one result, and
its reply one message.  What a client decodes from the reply is that result,
under the bus and the transaction number of the request.
-/

namespace CppRcp.Udp

open CppRcp.Foundation CppRcp.Acf CppRcp.Avtp CppRcp.E2e CppRcp.Transport
open CppRcp.Host CppRcp.Mock

/-! ## A request on the wire -/

/-- The message is one member of its frame: its length field is its length.
Its bus is one that the header has room for. -/
structure Sound (entry : AcfEntry) : Prop where
  exact : (messageOf entry).Exact
  timestamp : entry.messageTimestamp < 2 ^ 64
  bus : entry.info.byteBusId.toNat < 2048

section Entry

variable {entry : AcfEntry}

private theorem info_messageOf (entry : AcfEntry) :
    (messageOf entry).info = entry.info := by
  unfold messageOf
  split <;> rfl

theorem numbers_onWire (h : entry.info.byteBusId.toNat < 2048) :
    (messageOf entry).header.truncated.byteBusId = entry.info.byteBusId ∧
      (messageOf entry).header.truncated.transactionNum =
        entry.info.transactionNum := by
  have hBus : entry.info.byteBusId.toNat % 2048 =
      entry.info.byteBusId.toNat := Nat.mod_eq_of_lt h
  simp [AcfMessageInfo.truncated, AcfMessage.header, info_messageOf, hBus]

private theorem Sound.names_iff (h : Sound entry) (response : AcfMessageInfo) :
    Names (decodeAcfMessageInfo (messageOf entry).encode) response ↔
      Names entry.info response := by
  have hDecoded := (messageOf entry).decode_encode []
  rw [List.append_nil] at hDecoded
  simp [hDecoded, Names, numbers_onWire h.bus]

theorem Sound.frameOf (h : Sound entry) :
    Mock.frameOf [messageOf entry] =
      encodeEntry entry.info entry.messageTimestamp entry.payload := by
  simp [Mock.frameOf, encode_messageOf entry h.timestamp]

theorem Sound.length_le (h : Sound entry) :
    0 < (messageOf entry).encode.length ∧
      (messageOf entry).encode.length ≤ 2044 := by
  have hExact := h.exact
  have hHeader := le_headerLen (messageOf entry).msgType
  have hLength := (messageOf entry).length_encode
  unfold AcfMessage.Exact at hExact
  unfold acfCommonHeaderLen at hHeader
  omega

end Entry

/-! ## What the server makes of it -/

def received (request : Frame) : MultiFrame :=
  { request.toEnvelope.onWire with
    messages := [(messageOf request.entry).onWire] }

section Served

variable {request : Frame}

theorem Sound.encodeFrame (h : Sound request.entry) :
    Transport.encodeFrame request =
      encodeEnvelope request.toEnvelope (messageOf request.entry).encode := by
  rw [encode_messageOf request.entry h.timestamp]
  rfl

theorem Sound.decodeMultiFrame (h : Sound request.entry) :
    Transport.decodeMultiFrame (Transport.encodeFrame request) =
      .ok (received request) := by
  obtain ⟨hSome, hShort⟩ := h.length_le
  have hMax : 2044 ≤ maxDataLen request.useTscf := by
    unfold maxDataLen
    split <;> omega
  have hMessages :
      decodeAcfMessages (Mock.frameOf [messageOf request.entry]) =
        .ok ([messageOf request.entry].map AcfMessage.onWire) :=
    decodeAcfMessages_frameOf (by simpa using h.exact)
  rw [h.frameOf, ← encode_messageOf _ h.timestamp] at hMessages
  rw [h.encodeFrame, Transport.decodeMultiFrame, decodeEnvelope_encodeEnvelope,
    if_pos (by omega)]
  dsimp only
  rw [if_neg (by omega), hMessages]
  rfl

theorem Sound.drop_encodeFrame (h : Sound request.entry) :
    (Transport.encodeFrame request).drop
        (if request.useTscf then tscfHeaderLen else ntscfHeaderLen) =
      (messageOf request.entry).encode := by
  rw [h.encodeFrame, encodeEnvelope]
  split <;> exact List.drop_left' (by simp)

theorem Sound.frameMembers (h : Sound request.entry) :
    Mock.frameMembers (messageOf request.entry).encode =
      [(messageOf request.entry).encode] := by
  have hAll : Mock.frameMembers (Mock.frameOf [messageOf request.entry]) = _ :=
    frameMembers_frameOf (by simpa using h.exact) (by simp [maxFrameMembers])
  simpa [Mock.frameOf] using hAll

private theorem Sound.names_result (h : Sound request.entry)
    {results : List FrameMemberResult} (hCount : results.length = 1)
    (hNamed : NamedMembers (messageOf request.entry).encode results) :
    ∃ result, results.map frameResponse = [result] ∧
      Names request.info result.info := by
  obtain ⟨result, rfl⟩ := List.length_eq_one_iff.mp hCount
  refine ⟨frameResponse result, rfl, fun hRsp => ?_⟩
  obtain ⟨member, hMember, hNames⟩ := hNamed 0 result rfl hRsp
  rw [h.frameMembers] at hMember
  obtain rfl : (messageOf request.entry).encode = member := by
    simpa using hMember
  exact (h.names_iff result.response).mp hNames hRsp

theorem Sound.handlerResults (h : Sound request.entry) (handling : Handling)
    (server : Server) :
    ∃ result,
      Transport.handlerResults (handling.handler server) (received request)
        (Transport.encodeFrame request) = [result] ∧
      Names request.info result.info := by
  have hMember : ∀ member ∈ [(messageOf request.entry).encode],
      IsMember member := by
    simpa using isMember_encode h.exact
  have hFlat : [(messageOf request.entry).encode].flatten =
      (messageOf request.entry).encode := by simp
  have hDrop := h.drop_encodeFrame
  unfold Transport.handlerResults
  change (Transport.encodeFrame request).drop
    (if (received request).useTscf then _ else _) = _ at hDrop
  dsimp only
  rw [hDrop]
  cases handling with
  | acknowledge =>
      have hInfo := (messageOf request.entry).decode_encode []
      rw [List.append_nil] at hInfo
      refine ⟨_, rfl, (h.names_iff _).mp ?_⟩
      rw [hInfo]
      exact names_makeResponse _
  | dispatchFrame =>
      refine h.names_result ?_ (namedMembers_dispatchFrame _ _ _)
      have hReports := (dispatchFrameImpl_results_iff
        (fun server member => server.decodeAndDispatch
          (received request).streamId member) server hMember).mpr
        (by simp [maxFrameMembers])
      rw [hFlat] at hReports
      exact hReports.count
  | dispatchFrameE2e =>
      refine h.names_result ?_ (namedMembers_dispatchFrameE2e _ _ _ _)
      have hReports := (reportsFrameE2e_iff server (received request).streamId
        (UInt8.ofNat (received request).sequenceNum.toNat) hMember).mpr
        (.inl (by simp [maxFrameMembers]))
      unfold ReportsFrameE2e at hReports
      rw [hFlat] at hReports
      exact hReports.count

end Served

/-! ## The reply on the wire -/

theorem decodeFrame_reply (envelope : Envelope) (entry : AcfEntry)
    (hTimestamp : entry.messageTimestamp < 2 ^ 64) :
    decodeFrame (encodeMultiFrame ⟨envelope, [entry]⟩) =
      if entry.size ≤ maxDataLen envelope.useTscf then
        .ok (answerFrame envelope entry)
      else .error (.avtp .lengthMismatch) := by
  have hOnly := decodeFrame_encodeMultiFrame envelope entry [] hTimestamp
  simpa [totalLen, answerFrame] using hOnly

def Answered (handling : Handling) (server : Server)
    (request response : Frame) : Prop :=
  ∃ result, handlerResults (handling.handler server) (received request)
      (encodeFrame request) = [result] ∧
    result.info.rsp = true ∧
    response.info =
      (messageOf ⟨result.info, 0, result.payload⟩).onWire.info ∧
    response.payload = result.payload

theorem answered_of_serve {request response : Frame} {streamId : StreamId}
    {seq : UInt16} {handling : Handling} {server : Server} {reply : Octets}
    (h : Sound request.entry)
    (hServe : serve streamId seq (handling.handler server)
      (encodeFrame request) = some reply)
    (hDecode : decodeFrame reply = .ok response) :
    Answered handling server request response ∧
      response.info.byteBusId = request.info.byteBusId ∧
      response.info.transactionNum = request.info.transactionNum := by
  obtain ⟨result, hResult, hNames⟩ := h.handlerResults handling server
  rw [serve, h.decodeMultiFrame] at hServe
  dsimp only at hServe
  rw [hResult] at hServe
  cases hRsp : result.info.rsp with
  | false => simp [replyMessages, hRsp] at hServe
  | true =>
      have hReply : replyMessages [result] =
          [⟨result.info, 0, result.payload⟩] := by
        simp [replyMessages, hRsp]
      rw [hReply, if_neg (by simp)] at hServe
      obtain rfl := Option.some.inj hServe
      rw [decodeFrame_reply _ _ (by simp)] at hDecode
      split at hDecode
      · obtain rfl := Except.ok.inj hDecode
        obtain ⟨hBus, hNum⟩ := hNames hRsp
        have hNumbers := @numbers_onWire ⟨result.info, 0, result.payload⟩
          (by rw [hBus]; exact h.bus)
        exact ⟨⟨result, hResult, hRsp, rfl, rfl⟩, hNumbers.1.trans hBus,
          hNumbers.2.trans hNum⟩
      · cases hDecode

end CppRcp.Udp
