import CppRcp.Mock.FrameEffects
import CppRcp.Mock.Splitting

/-!
# Malformed clear requests

The server recognises clear-all and clear-non-safestate by their opcode alone
and never runs their decoders.  A request the decoder would reject is carried
out all the same, unless something in front of the cancellation stops it.
-/

namespace CppRcp.Mock

open CppRcp.Foundation CppRcp.Acf CppRcp.Request CppRcp.E2e CppRcp.Server

def RejectedClear (frame : Octets) : Prop :=
  (peekGbbRequestType frame = some RequestTypeOpcode.clearAll.toOctet ∧
      ∃ e, decodeClearAll frame = .error e) ∨
    (peekGbbRequestType frame =
        some RequestTypeOpcode.clearNonSafestate.toOctet ∧
      ∃ e, decodeClearNonSafestate frame = .error e)

def LeavesStores (server server' : Server) : Prop :=
  ∀ bus, SameStore (server.admission bus) (server'.admission bus)

/-- The frame is too short, does not repurpose its timestamp, names no hosted
bus, or is stopped by the lifecycle, the bus or its response bit. -/
def ClearIsBlocked (server : Server) (frame : Octets) : Prop :=
  let header := decodeAcfMessageInfo frame
  frame.length < acfGbbMessageInfoLen ∨ header.mtv = true ∨
    match Bus.ofId header.byteBusId with
    | none => True
    | some bus =>
        server.operationalRequestsAllowed = false ∨
          (server.admission bus).admissionSuspended = true ∨
          header.rsp = true

/-! ## The opcode -/

theorem LeavesStores.refl (server : Server) : LeavesStores server server :=
  fun bus => .refl (server.admission bus)

private theorem leavesStores_setAdmission {server : Server} {bus : Bus}
    {ep : Endpoint} (h : SameStore (server.admission bus) ep) :
    LeavesStores server (server.setAdmission bus ep) := by
  intro other
  by_cases hBus : bus = other
  · subst hBus
    rw [Server.admission_setAdmission_self]
    exact h
  · rw [Server.admission_setAdmission_ne _ _ hBus]
    exact .refl _

private theorem peekGbbRequestType_eq_some {frame : Octets} {octet : UInt8}
    (h : peekGbbRequestType frame = some octet) :
    (decodeAcfMessageInfo frame).acfMsgType = acfMsgTypeGbb ∧
      octetAt frame acfCommonHeaderLen = octet := by
  unfold peekGbbRequestType at h
  split at h
  · cases h
  · split at h
    · cases h
    · next hType =>
        have hOctet : octetAt frame acfCommonHeaderLen = octet := by
          simpa using h
        exact ⟨not_not.mp hType, hOctet⟩

private theorem peekRequestType_of_octet {frame : Octets}
    {type : RequestTypeOpcode}
    (h : peekGbbRequestType frame = some type.toOctet) :
    Endpoint.peekRequestType frame =
      if frame.length < acfGbbMessageInfoLen ∨
          (decodeAcfMessageInfo frame).mtv = true then none
      else some type := by
  obtain ⟨hType, hOctet⟩ := peekGbbRequestType_eq_some h
  unfold Endpoint.peekRequestType
  by_cases hLen : frame.length < acfGbbMessageInfoLen
  · simp [hLen]
  · cases hMtv : (decodeAcfMessageInfo frame).mtv with
    | true => simp [hMtv]
    | false => simp [hLen, hMtv, hType, hOctet, requestTypeOf_toOctet]

theorem RejectedClear.type {frame : Octets} (h : RejectedClear frame) :
    ∃ type, peekGbbRequestType frame = some type.toOctet ∧
      categoryOf (some type) = .cancellation := by
  rcases h with ⟨hType, -⟩ | ⟨hType, -⟩
  · exact ⟨.clearAll, hType, rfl⟩
  · exact ⟨.clearNonSafestate, hType, rfl⟩

/-! ## One message -/

namespace Server

theorem decodeAndDispatch_standard {server : Server} {streamId : StreamId}
    {frame : Octets} (h : Endpoint.peekRequestType frame = none) :
    LeavesStores server (server.decodeAndDispatch streamId frame).1 ∧
      NotCancelled (server.decodeAndDispatch streamId frame).2.ec := by
  have hEffect := decodeAndDispatch_effect server streamId frame
  revert hEffect
  generalize server.decodeAndDispatch streamId frame = result
  obtain ⟨server', reply⟩ := result
  intro hEffect
  cases hEffect with
  | untouched hReply => exact ⟨.refl _, hReply⟩
  | executed peripherals hBus hStore hReply =>
      exact ⟨leavesStores_setAdmission hStore, hReply⟩
  | admitted hBus hType hEffect hReply => simp [h] at hType
  | cancelled hBus hType hCategory hReply => simp [h] at hType

private theorem decodeAndDispatch_conditional {server : Server}
    {streamId : StreamId} {frame : Octets} {type : RequestTypeOpcode}
    (h : Endpoint.peekRequestType frame = some type) :
    server.decodeAndDispatch streamId frame =
      server.admitConditional streamId frame := by
  have hNil : frame ≠ [] := by
    rintro rfl
    cases h
  unfold decodeAndDispatch
  rw [if_neg hNil, if_pos (by simp [h])]

private theorem admitConditional_blocked {server : Server} (streamId : StreamId)
    {frame : Octets}
    (h : match Bus.ofId (decodeAcfMessageInfo frame).byteBusId with
      | none => True
      | some bus =>
          server.operationalRequestsAllowed = false ∨
            (server.admission bus).admissionSuspended = true ∨
            (decodeAcfMessageInfo frame).rsp = true)
    (hLen : acfCommonHeaderLen ≤ frame.length) :
    (server.admitConditional streamId frame).1 = server ∧
      NotCancelled (server.admitConditional streamId frame).2.ec := by
  unfold admitConditional
  dsimp only
  split
  · simp [NotCancelled, setErrorResponse, errorReply]
  · next bus hBus =>
      rw [hBus] at h
      cases hAllowed : server.operationalRequestsAllowed with
      | false =>
          simp only [Bool.not_false, if_true]
          refine ⟨trivial, ?_⟩
          rw [reportsAdmission_suppress]
          simp [NotCancelled, setErrorResponse, errorReply]
      | true =>
          simp only [Bool.not_true, Bool.false_eq_true, if_false]
          have hAdmit : ((server.admission bus).admitWithAck frame 0 false 0
              0).1 = server.admission bus ∧
              ((server.admission bus).admitWithAck frame 0 false 0
                0).2.outcome ≠ .cancellation := by
            unfold Endpoint.admitWithAck
            cases hSuspended : (server.admission bus).admissionSuspended with
            | true => simp
            | false =>
                have hRsp : (decodeAcfMessageInfo frame).rsp = true := by
                  simpa [hAllowed, hSuspended] using h
                simp [hLen, headerIsRequest, hRsp]
          obtain ⟨hSame, hNot⟩ := admitAndClassify_spec
            (decodeAcfMessageInfo frame) hAdmit.2
          rw [hSame, hAdmit.1, setAdmission_admission]
          refine ⟨rfl, ?_⟩
          rw [reportsAdmission_suppress]
          cases hReply : (admitAndClassify (server.admission bus) frame
              (decodeAcfMessageInfo frame)).2 with
          | none => simp [NotCancelled]
          | some reply => exact hNot reply hReply

private theorem admitConditional_cancels {server : Server} {streamId : StreamId}
    {frame : Octets} {type : RequestTypeOpcode} {bus : Bus}
    (hType : Endpoint.peekRequestType frame = some type)
    (hCategory : categoryOf (some type) = .cancellation)
    (hBus : Bus.ofId (decodeAcfMessageInfo frame).byteBusId = some bus)
    (hAllowed : server.operationalRequestsAllowed = true)
    (hSuspended : (server.admission bus).admissionSuspended = false)
    (hRsp : (decodeAcfMessageInfo frame).rsp = false) :
    (server.admitConditional streamId frame).2.ec =
      some (.dispatch .cancelled) := by
  unfold admitConditional
  simp only [hBus, hAllowed, Bool.not_true, Bool.false_eq_true, if_false]
  rw [reportsAdmission_suppress]
  unfold admitAndClassify Endpoint.admitWithAck
  simp [hSuspended, headerIsRequest, hRsp, hType, hCategory]

private theorem decodeAndDispatch_rejectedClear (server : Server)
    (streamId : StreamId) {frame : Octets} (h : RejectedClear frame) :
    (ClearIsBlocked server frame →
      LeavesStores server (server.decodeAndDispatch streamId frame).1 ∧
        NotCancelled (server.decodeAndDispatch streamId frame).2.ec) ∧
      (¬ClearIsBlocked server frame →
        (server.decodeAndDispatch streamId frame).2.ec =
          some (.dispatch .cancelled)) := by
  obtain ⟨type, hOctet, hCategory⟩ := h.type
  have hPeek := peekRequestType_of_octet hOctet
  by_cases hStandard : frame.length < acfGbbMessageInfoLen ∨
      (decodeAcfMessageInfo frame).mtv = true
  · rw [if_pos hStandard] at hPeek
    constructor
    · intro hBlocked
      exact decodeAndDispatch_standard hPeek
    · intro hNot
      rcases hStandard with hShort | hMtv
      · exact absurd (Or.inl hShort) hNot
      · exact absurd (Or.inr (Or.inl hMtv)) hNot
  · rw [if_neg hStandard] at hPeek
    rw [decodeAndDispatch_conditional hPeek]
    rw [not_or] at hStandard
    constructor
    · intro hBlocked
      have hBus := (hBlocked.resolve_left hStandard.1).resolve_left hStandard.2
      have hLen : acfCommonHeaderLen ≤ frame.length := by
        have hLong := hStandard.1
        simp only [acfGbbMessageInfoLen, acfCommonHeaderLen] at hLong ⊢
        omega
      obtain ⟨hSame, hReply⟩ := admitConditional_blocked
        streamId hBus hLen
      rw [hSame]
      exact ⟨.refl server, hReply⟩
    · intro hNot
      simp only [ClearIsBlocked, hStandard.1, hStandard.2, Bool.false_eq_true,
        false_or] at hNot
      split at hNot
      · exact absurd trivial hNot
      · next bus hBus =>
          simp only [not_or, Bool.not_eq_true, Bool.not_eq_false] at hNot
          obtain ⟨hAllowed, hSuspended, hRsp⟩ := hNot
          exact admitConditional_cancels hPeek hCategory hBus hAllowed
            hSuspended hRsp

/-! ## A frame of one message -/

private theorem decodeChainedMember_of_rejectedClear {frame : Octets}
    (h : RejectedClear frame) :
    ∃ e, decodeChainedMember frame = .error e := by
  obtain ⟨type, hOctet, hCategory⟩ := h.type
  cases hDecode : decodeChainedMember frame with
  | error e => exact ⟨e, rfl⟩
  | ok request =>
      have hType := decodeChainedMember_type hDecode
      rw [peekRequestType_of_octet hOctet] at hType
      split at hType
      · cases hType
      · cases hType
        cases hCategory

private theorem dispatchFrame_rejectedClear {server : Server}
    {streamId : StreamId}
    {frame : Octets} (h : RejectedClear frame) (hMember : IsMember frame) :
    server.dispatchFrame streamId frame =
      (tagStored server (server.decodeAndDispatch streamId frame).1
          (Bus.ofId (decodeAcfMessageInfo frame).byteBusId) 1 0,
        [⟨(server.decodeAndDispatch streamId frame).2.ec,
          (decodeAcfMessageInfo frame).byteBusId,
          (server.decodeAndDispatch streamId frame).2.response,
          (server.decodeAndDispatch streamId frame).2.payload⟩]) := by
  obtain ⟨e, hChained⟩ := decodeChainedMember_of_rejectedClear h
  obtain ⟨type, hOctet, -⟩ := h.type
  have hType : peekAcfMsgType frame = acfMsgTypeGbb :=
    (peekGbbRequestType_eq_some hOctet).1
  have hLen : acfGbbMessageInfoLen ≤ frame.length := by
    obtain ⟨-, hHeader, -⟩ := memberLen_eq_some hMember
    rwa [hType] at hHeader
  have hMembers : frameMembers frame = [frame] := by
    have hAll := @frameMembers_of_le [frame] (by simpa)
      (by simp [maxFrameMembers])
    simpa using hAll
  unfold dispatchFrame dispatchFrameImpl
  rw [hMembers]
  simp only [List.zipIdx_singleton, run_cons, run_nil, stepMember,
    peekMember_of_gbb hType hLen, hChained, dispatchAt, Nat.zero_add]

theorem tagStored_of_leavesStores {before after : Server}
    (h : LeavesStores before after) (bus : Option Bus) (group position : Nat) :
    tagStored before after bus group position = after := by
  unfold tagStored
  split
  · rfl
  · next bus =>
      rw [(h bus).pendingCount, if_neg (Nat.lt_irrefl _)]

end Server

/-- Dispatching a clear request that its decoder rejects, by itself or as the
one member of a frame, leaves all stores alone and reports no cancellation
exactly if it is blocked. -/
theorem rejectedClear_ignored_iff (server : Server) (streamId : StreamId)
    (frame : Octets) (h : RejectedClear frame) :
    ((LeavesStores server (server.decodeAndDispatch streamId frame).1 ∧
        NotCancelled (server.decodeAndDispatch streamId frame).2.ec) ↔
      ClearIsBlocked server frame) ∧
    (IsMember frame →
      ((LeavesStores server (server.dispatchFrame streamId frame).1 ∧
          ∀ result ∈ (server.dispatchFrame streamId frame).2,
            NotCancelled result.result) ↔
        ClearIsBlocked server frame)) := by
  obtain ⟨hBlocked, hApplied⟩ :=
    Server.decodeAndDispatch_rejectedClear server streamId h
  constructor
  · constructor
    · rintro ⟨-, hReply⟩
      by_contra hNot
      exact hReply (hApplied hNot)
    · exact hBlocked
  · intro hMember
    rw [Server.dispatchFrame_rejectedClear h hMember]
    constructor
    · rintro ⟨-, hResults⟩
      by_contra hNot
      exact hResults _ (List.mem_singleton.mpr rfl) (hApplied hNot)
    · intro hBlock
      obtain ⟨hStores, hReply⟩ := hBlocked hBlock
      rw [Server.tagStored_of_leavesStores hStores]
      refine ⟨hStores, ?_⟩
      intro result hResult
      rw [List.mem_singleton.mp hResult]
      exact hReply

def reservedClearAll : Octets :=
  encodeAcfGbb { acfMsgType := acfMsgTypeGbb, byteBusId := 1 }
    (encodeRequestType .clearAll [0, 0, 0, 0, 0, 0, 1]) []

private theorem rejectedClear_reservedClearAll : RejectedClear
    reservedClearAll := by
  refine Or.inl ⟨by decide, .request .reservedFieldNonzero, ?_⟩
  decide

theorem rejectedClear_ignored_unconfigured :
    RejectedClear reservedClearAll ∧
      LeavesStores {} (Server.dispatchFrame {} 1 reservedClearAll).1 ∧
      ∀ result ∈ (Server.dispatchFrame {} 1 reservedClearAll).2,
        NotCancelled result.result := by
  refine ⟨rejectedClear_reservedClearAll, ?_⟩
  refine ((rejectedClear_ignored_iff {} 1 reservedClearAll
    rejectedClear_reservedClearAll).2 (by decide)).mpr ?_
  exact Or.inr (Or.inr (Or.inl rfl))

def timedRequest : Octets :=
  encodeAcfGbb { acfMsgType := acfMsgTypeGbb, byteBusId := 1 }
    (encodeRequestType .timed [0, 0, 0, 0, 0, 0, 0]) []

def storingServer : Server :=
  (run Server.step {} [.lifecycle .rcpConfigured,
    .dispatchFrame 1 timedRequest]).1

/-- It loses that request to the malformed clear-all request, and reports it
as cancelled. -/
theorem rejectedClear_ignored_of_stored :
    Server.Reachable storingServer ∧ RejectedClear reservedClearAll ∧
      (storingServer.admission .gpio).pendingCount = 1 ∧
      ((storingServer.dispatchFrame 1 reservedClearAll).1.admission
        .gpio).pendingCount = 0 ∧
      ((storingServer.dispatchFrame 1 reservedClearAll).2.map
        fun result => result.result) = [some (.dispatch .cancelled)] ∧
      ¬LeavesStores storingServer
        (storingServer.dispatchFrame 1 reservedClearAll).1 := by
  have hBefore : (storingServer.admission .gpio).pendingCount = 1 := by
    decide
  have hAfter : ((storingServer.dispatchFrame 1 reservedClearAll).1.admission
      .gpio).pendingCount = 0 := by decide
  refine ⟨⟨_, rfl⟩, rejectedClear_reservedClearAll, hBefore, hAfter,
    by decide, ?_⟩
  intro hStores
  have hCount := (hStores .gpio).pendingCount
  rw [hBefore, hAfter] at hCount
  cases hCount

end CppRcp.Mock
