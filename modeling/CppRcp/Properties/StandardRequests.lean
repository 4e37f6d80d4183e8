import CppRcp.Mock.Splitting
import CppRcp.Properties.ClearRequests

/-!
# A frame of one standard request

A frame that is one message is handed to `dispatch` as it decodes, unless the
message is conditional.  Admission then runs the request at once, or puts it
into the queue of its bus; its store stays as it is.
-/

namespace CppRcp.Mock

open CppRcp.Foundation CppRcp.Acf CppRcp.Request CppRcp.E2e CppRcp.Regmap
open CppRcp.Server

/-! ## Members by their headers -/

theorem memberLen_eq (octets : Octets) :
    memberLen octets =
      let header := decodeAcfMessageInfo octets
      if octets.length < 2 then none
      else if header.acfMsgType ≠ acfMsgTypeAbb ∧
          header.acfMsgType ≠ acfMsgTypeGbb then none
      else if octets.length < headerLen header.acfMsgType then none
      else if header.acfMsgLength.toNat * 4 < headerLen header.acfMsgType then
        none
      else if octets.length < header.acfMsgLength.toNat * 4 then none
      else some (header.acfMsgLength.toNat * 4) := by
  have hZero := (octetAt octets 0).toNat_lt
  have hOne := (octetAt octets 1).toNat_lt
  have hLength : (decodeAcfMessageInfo octets).acfMsgLength.toNat =
      (octetAt octets 0).toNat % 2 * 256 + (octetAt octets 1).toNat := by
    simp only [decodeAcfMessageInfo]
    rw [UInt16.toNat_ofNat_of_lt' (by unfold UInt16.size; omega)]
  unfold memberLen
  simp only [hLength]
  rfl

theorem isMember_iff {message : Octets} :
    IsMember message ↔
      ((decodeAcfMessageInfo message).acfMsgType = acfMsgTypeAbb ∨
        (decodeAcfMessageInfo message).acfMsgType = acfMsgTypeGbb) ∧
      headerLen (decodeAcfMessageInfo message).acfMsgType ≤ message.length ∧
      (decodeAcfMessageInfo message).acfMsgLength.toNat * 4 =
        message.length := by
  have hHeader := le_headerLen (decodeAcfMessageInfo message).acfMsgType
  simp only [acfCommonHeaderLen] at hHeader
  unfold IsMember
  rw [memberLen_eq]
  dsimp only
  constructor
  · intro h
    split_ifs at h with hShort hType hLen hSmall hLong
    have hSize := Option.some_inj.mp h
    exact ⟨by tauto, not_lt.mp hLen, hSize⟩
  · rintro ⟨hType, hLen, hSize⟩
    rw [if_neg (by omega), if_neg (by tauto), if_neg (by omega),
      if_neg (by omega), if_neg (by omega), hSize]

private theorem IsMember.ne_nil {message : Octets} (h : IsMember message) :
    message ≠ [] := by
  rintro rfl
  have hTwo := h.two_le
  simp at hTwo

def payloadOf (message : Octets) : Octets :=
  message.drop (headerLen (decodeAcfMessageInfo message).acfMsgType)

private theorem peekAcfMsgType_eq (message : Octets) :
    peekAcfMsgType message = (decodeAcfMessageInfo message).acfMsgType := rfl

structure Headed (message : Octets) : Prop where
  known : (decodeAcfMessageInfo message).acfMsgType = acfMsgTypeAbb ∨
    (decodeAcfMessageInfo message).acfMsgType = acfMsgTypeGbb
  holds : headerLen (decodeAcfMessageInfo message).acfMsgType ≤ message.length

private theorem IsMember.headed {message : Octets} (h : IsMember message) :
    Headed message :=
  ⟨(isMember_iff.mp h).1, (isMember_iff.mp h).2.1⟩

theorem Headed.eight_le {message : Octets} (h : Headed message) :
    acfCommonHeaderLen ≤ message.length :=
  (le_headerLen _).trans h.holds

private theorem Headed.ne_nil {message : Octets} (h : Headed message) :
    message ≠ [] := by
  rintro rfl
  exact absurd h.eight_le (by decide)

theorem decodeAcfAbb_of_headed {message : Octets} (h : Headed message)
    (hType : (decodeAcfMessageInfo message).acfMsgType = acfMsgTypeAbb) :
    decodeAcfAbb message =
      .ok (decodeAcfMessageInfo message, payloadOf message) := by
  have hEight := h.eight_le
  have hHeader : headerLen acfMsgTypeAbb = acfCommonHeaderLen := by decide
  simp only [acfCommonHeaderLen] at hEight
  unfold decodeAcfAbb payloadOf
  rw [if_neg (by omega), peekAcfMsgType_eq, hType, if_neg (by simp),
    if_neg (by simp only [acfCommonHeaderLen]; omega), hHeader]

theorem decodeAcfGbb_of_headed {message : Octets} (h : Headed message)
    (hType : (decodeAcfMessageInfo message).acfMsgType = acfMsgTypeGbb) :
    decodeAcfGbb message =
      .ok (decodeAcfMessageInfo message,
        getBe ((message.drop acfCommonHeaderLen).take 8),
        payloadOf message) := by
  have hEight := h.eight_le
  have hHeader : headerLen acfMsgTypeGbb = acfGbbMessageInfoLen := by decide
  have hLen := h.holds
  simp only [acfCommonHeaderLen] at hEight
  rw [hType, hHeader] at hLen
  unfold decodeAcfGbb payloadOf
  rw [if_neg (by omega), peekAcfMsgType_eq, hType, if_neg (by simp),
    if_neg (by omega), hHeader]

private theorem peekMember_of_isMember {message : Octets}
    (h : IsMember message) :
    peekMember message = some (decodeAcfMessageInfo message) := by
  unfold peekMember
  rw [if_neg h.ne_nil, peekAcfMsgType_eq]
  rcases (isMember_iff.mp h).1 with hType | hType
  · simp [hType, decodeAcfAbb_of_headed h.headed hType]
  · simp [hType, decodeAcfGbb_of_headed h.headed hType, acfMsgTypeAbb,
      acfMsgTypeGbb]

namespace Server

theorem decodeAndDispatch_eq_dispatch (server : Server) (streamId : StreamId)
    {message : Octets} (h : Headed message)
    (hStandard : Endpoint.peekRequestType message = none) :
    server.decodeAndDispatch streamId message =
      server.dispatch streamId (decodeAcfMessageInfo message)
        (payloadOf message) := by
  unfold decodeAndDispatch
  rw [if_neg h.ne_nil, hStandard, peekAcfMsgType_eq]
  rcases h.known with hType | hType
  · simp [hType, decodeAcfAbb_of_headed h hType, acfMsgTypeAbb, acfMsgTypeGbb]
  · simp [hType, decodeAcfGbb_of_headed h hType]

def resultOf (message : Octets) (reply : Reply) : FrameMemberResult :=
  ⟨reply.ec, (decodeAcfMessageInfo message).byteBusId, reply.response,
    reply.payload⟩

private theorem frameMembers_singleton {message : Octets}
    (h : IsMember message) :
    frameMembers message = [message] := by
  have hAll := @frameMembers_of_le [message] (by simpa)
    (by simp [maxFrameMembers])
  simpa using hAll

theorem dispatchFrame_eq_dispatch (server : Server) (streamId : StreamId)
    {message : Octets} (h : IsMember message)
    (hStandard : Endpoint.peekRequestType message = none) :
    server.dispatchFrame streamId message =
      ((server.dispatch streamId (decodeAcfMessageInfo message)
          (payloadOf message)).1,
        [resultOf message (server.dispatch streamId
          (decodeAcfMessageInfo message) (payloadOf message)).2]) := by
  have hStores : LeavesStores server
      (server.decodeAndDispatch streamId message).1 :=
    (decodeAndDispatch_standard hStandard).1
  have hAnchor : ∃ e, decodeChainedMember message = .error e := by
    cases hDecode : decodeChainedMember message with
    | error e => exact ⟨e, rfl⟩
    | ok request =>
        have hType := decodeChainedMember_type hDecode
        rw [hStandard] at hType
        cases hType
  obtain ⟨e, hChained⟩ := hAnchor
  unfold dispatchFrame dispatchFrameImpl
  rw [frameMembers_singleton h]
  simp only [List.zipIdx_singleton, run_cons, run_nil, stepMember,
    peekMember_of_isMember h, hChained, dispatchAt, Nat.zero_add,
    tagStored_of_leavesStores hStores]
  rw [decodeAndDispatch_eq_dispatch server streamId h.headed hStandard]
  rfl

/-! ## What admission makes of it -/

/-- Admission takes the request: it is no response, and admission is not
suspended. -/
def Admits (ep : Endpoint) (req : AcfMessageInfo) : Prop :=
  ep.admissionSuspended = false ∧ req.rsp = false

theorem decode_encodeAcfAbb (req : AcfMessageInfo) (payload : Octets) :
    decodeAcfMessageInfo (encodeAcfAbb req payload) =
      { req.truncated with
        acfMsgType := acfMsgTypeAbb
        acfMsgLength :=
          UInt16.ofNat ((if req.acfMsgLength = 0 then
            computeAcfMsgLength acfMsgTypeAbb payload.length
            else req.acfMsgLength).toNat % 512)
        mtv := false } := by
  unfold encodeAcfAbb
  dsimp only
  rw [decode_encodeAcfMessageInfo]
  split <;> rfl

theorem admitWithAck_standard {ep : Endpoint} {req : AcfMessageInfo}
    (h : Admits ep req) (payload : Octets) :
    ep.admitWithAck (encodeAcfAbb req payload) 0 false 0 0 =
      ((ep.submit (encodeAcfAbb req payload)).1,
        { outcome :=
            if (ep.submit (encodeAcfAbb req payload)).2.1 then .executeNow
            else .queued
          ack := (ep.submit (encodeAcfAbb req payload)).2.2 }) := by
  have hRequest : headerIsRequest
      (decodeAcfMessageInfo (encodeAcfAbb req payload)) = true := by
    rw [decode_encodeAcfAbb]
    simp [headerIsRequest, AcfMessageInfo.truncated, h.2]
  unfold Endpoint.admitWithAck
  rw [h.1, peekRequestType_encodeAcfAbb, hRequest]
  simp only [Bool.not_true, Bool.and_false, Bool.false_eq_true, if_false]
  generalize ep.submit (encodeAcfAbb req payload) = submitted
  obtain ⟨ep', now, ack⟩ := submitted
  cases now <;> rfl

end Server

end CppRcp.Mock
