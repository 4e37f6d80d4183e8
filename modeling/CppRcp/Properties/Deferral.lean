import CppRcp.Mock.StoreEffects
import CppRcp.Properties.StandardRequests

/-!
# A request that was queued and dispatched later

While an endpoint is disabled its standard requests are put into a queue, from
which they are taken after it is enabled, to be dispatched again.  What is
queued is not the message received but an ABB message made of its header and
payload.  That is the same request for an ABB message; a GBB message with a
timestamp loses eight octets but not the length in its header, and is not a
message any more.
-/

namespace CppRcp.Mock

open CppRcp.Foundation CppRcp.Acf CppRcp.E2e CppRcp.Regmap CppRcp.Server

/-- Takes requests out of the queue, and returns the one after `count`
others. -/
def takeBack : Nat → Endpoint → Endpoint × Option Octets
  | 0, ep => ep.drainOne
  | count + 1, ep => takeBack count ep.drainOne.1

private theorem takeBack_eq (before after : List Octets) (ep : Endpoint)
    (hEnable : ep.epEnable = true) :
    takeBack before.length { ep with queue := before ++ after } =
      ({ ep with queue := after.tail }, after.head?) := by
  induction before with
  | nil =>
      cases after with
      | nil => simp [takeBack, Endpoint.drainOne, hEnable]
      | cons frame after => simp [takeBack, Endpoint.drainOne, hEnable]
  | cons frame before ih =>
      have hDrain : Endpoint.drainOne
          { ep with queue := frame :: before ++ after } =
            ({ ep with queue := before ++ after }, some frame) := by
        simp [Endpoint.drainOne, hEnable]
      rw [List.length_cons, takeBack, hDrain, ih]

private theorem submit_executes {ep : Endpoint} {frame : Octets}
    (h : (ep.submit frame).2.1 = true) : ep.submit frame = (ep, true, []) := by
  unfold Endpoint.submit at h ⊢
  split_ifs at h ⊢ with hNow hFull
  rfl

private theorem submit_queues {ep : Endpoint} {frame : Octets}
    (h : (ep.submit frame).2.1 = false) :
    (ep.submit frame).1 =
      { ep with
        queue := ep.queue ++
          if ep.queue.length < maxQueuedFrames then [frame] else [] } := by
  unfold Endpoint.submit at h ⊢
  split_ifs at h ⊢ with hNow hFull hRoom hRoom
  · omega
  · simp
  · rfl
  · omega

namespace Server

def enableBus (server : Server) (bus : Bus) : Server :=
  server.setAdmission bus ((server.admission bus).setEnable true)

def withoutQueue (server : Server) (bus : Bus) : Server :=
  server.setAdmission bus { server.admission bus with queue := [] }

/-- The only member of the frame was queued: it is reported so, or was put into
the queue and is acknowledged as it asked for. -/
def ReportsQueued (server : Server) (bus : Bus) (streamId : StreamId)
    (frame : Octets) : Prop :=
  ∃ result, (server.dispatchFrame streamId frame).2 = [result] ∧
    (result.result = some (.dispatch .queued) ∨
      result.result = none ∧
        ((server.dispatchFrame streamId frame).1.admission bus).queue ≠
          (server.admission bus).queue)

/-- Dispatch the frame, enable the endpoint, take the frame back and dispatch
what was taken; nothing if the queue did not take the frame. -/
def dispatchDeferred (server : Server) (bus : Bus) (streamId : StreamId)
    (frame : Octets) : Option (Server × List FrameMemberResult) :=
  let enabled := (server.dispatchFrame streamId frame).1.enableBus bus
  let taken := takeBack (server.admission bus).queue.length
    (enabled.admission bus)
  taken.2.map fun queued =>
    (enabled.setAdmission bus taken.1).dispatchFrame streamId queued

/-- The deferred dispatch gives the responses of a direct one, and leaves the
same server but for the requests queued before. -/
def DeferralExact (server : Server) (bus : Bus) (streamId : StreamId)
    (frame : Octets) : Prop :=
  let direct := (server.enableBus bus).dispatchFrame streamId frame
  server.dispatchDeferred bus streamId frame =
    some (direct.1.withoutQueue bus, direct.2)

/-! ## One request at its endpoint -/

@[simp] theorem ec_suppressResponsePerStreamCfg (regs : RegisterMap)
    (streamId : StreamId) (reply : Reply) :
    (suppressResponsePerStreamCfg regs streamId reply).ec = reply.ec := by
  unfold suppressResponsePerStreamCfg
  dsimp only
  split_ifs <;> rfl

theorem dispatch_of_bus (server : Server) (streamId : StreamId)
    {req : AcfMessageInfo} {bus : Bus} (hBus : Bus.ofId req.byteBusId = some bus)
    (payload : Octets) :
    server.dispatch streamId req payload =
      ((server.dispatchInner bus req payload).1,
        suppressResponsePerStreamCfg
          (server.dispatchInner bus req payload).1.regs streamId
          (server.dispatchInner bus req payload).2) := by
  have hNonzero : req.byteBusId ≠ 0 := by
    intro hZero
    rw [hZero] at hBus
    cases hBus
  unfold dispatch
  rw [if_neg hNonzero, hBus]

def executed (server : Server) (bus : Bus) (req : AcfMessageInfo)
    (payload : Octets) : Server × Reply :=
  let out := handlerOf bus server.peripherals req payload
  ({ server with peripherals := out.1 }, replyOf req out.2)

section Inner

variable {server : Server} {bus : Bus} {req : AcfMessageInfo}
  {payload : Octets}

theorem dispatchInner_executes
    (hLive : server.operationalRequestsAllowed = true)
    (hAdmits : Admits (server.admission bus) req)
    (hSubmit : (server.admission bus).submit (encodeAcfAbb req payload) =
      (server.admission bus, true, [])) :
    server.dispatchInner bus req payload = server.executed bus req payload := by
  unfold dispatchInner admitAndClassify executed
  rw [hLive, admitWithAck_standard hAdmits, hSubmit]
  simp [setAdmission_admission]

private theorem dispatchInner_queues
    (hLive : server.operationalRequestsAllowed = true)
    (hAdmits : Admits (server.admission bus) req)
    (hSubmit : ((server.admission bus).submit
      (encodeAcfAbb req payload)).2.1 = false) :
    (server.dispatchInner bus req payload).1 =
      server.setAdmission bus
        ((server.admission bus).submit (encodeAcfAbb req payload)).1 := by
  unfold dispatchInner admitAndClassify
  rw [hLive, admitWithAck_standard hAdmits, hSubmit]
  simp

private theorem replyOf_not_queued {answer : Answer}
    (h : NoDispatchError (failureOf answer)) :
    (replyOf req answer).ec ≠ some (.dispatch .queued) := by
  cases answer with
  | ok response => simp [replyOf]
  | error e =>
      intro hQueued
      have hSame : e = .dispatch .queued := by
        simpa [replyOf, setErrorResponse, errorReply] using hQueued
      have hCode := h e rfl
      rw [hSame] at hCode
      cases hCode

private theorem executed_not_queued :
    (server.executed bus req payload).2.ec ≠ some (.dispatch .queued) :=
  replyOf_not_queued
    (noDispatchError_handlerOf bus server.peripherals req payload)

theorem admitWithAck_suspended {ep : Endpoint} (frame : Octets)
    (h : ep.admissionSuspended = true) :
    ep.admitWithAck frame 0 false 0 0 = (ep, { outcome := .suspended }) := by
  unfold Endpoint.admitWithAck
  simp [h]

private theorem admitWithAck_response {ep : Endpoint}
    (hSuspended : ep.admissionSuspended = false) (hRsp : req.rsp = true)
    (payload : Octets) :
    ep.admitWithAck (encodeAcfAbb req payload) 0 false 0 0 =
      (ep, { outcome := .rejected, error := some .invalidParameter }) := by
  have hRequest : headerIsRequest
      (decodeAcfMessageInfo (encodeAcfAbb req payload)) = false := by
    rw [decode_encodeAcfAbb]
    simp [headerIsRequest, AcfMessageInfo.truncated, hRsp]
  have hLen : acfCommonHeaderLen ≤ (encodeAcfAbb req payload).length := by
    rw [length_encodeAcfAbb]
    exact Nat.le_add_right 8 _
  unfold Endpoint.admitWithAck
  rw [hSuspended, hRequest, decide_eq_true hLen]
  rfl

private theorem dispatchInner_refuses
    (hLive : server.operationalRequestsAllowed = true)
    (hAdmits : ¬ Admits (server.admission bus) req) :
    (server.dispatchInner bus req payload).1 = server ∧
      (server.dispatchInner bus req payload).2.ec ≠
        some (.dispatch .queued) := by
  unfold dispatchInner admitAndClassify
  cases hSuspended : (server.admission bus).admissionSuspended with
  | true =>
      simp [hLive, admitWithAck_suspended _ hSuspended, classify,
        setAdmission_admission]
  | false =>
      have hRsp : req.rsp = true := by
        cases hRsp : req.rsp with
        | true => rfl
        | false => exact absurd ⟨hSuspended, hRsp⟩ hAdmits
      rw [admitWithAck_response hSuspended hRsp]
      cases hAck : req.evtAck <;>
        simp [hLive, hAck, classify, setAdmission_admission,
          admissionRejectResponseShape]

private theorem dispatchInner_not_queued
    (h : ¬ (server.operationalRequestsAllowed = true ∧
      Admits (server.admission bus) req ∧
      ((server.admission bus).submit
        (encodeAcfAbb req payload)).2.1 = false)) :
    (server.dispatchInner bus req payload).2.ec ≠ some (.dispatch .queued) ∧
      ((server.dispatchInner bus req payload).1.admission bus).queue =
        (server.admission bus).queue := by
  cases hLive : server.operationalRequestsAllowed with
  | false => simp [dispatchInner, hLive, setErrorResponse, errorReply]
  | true =>
      by_cases hAdmits : Admits (server.admission bus) req
      · cases hSubmit : ((server.admission bus).submit
            (encodeAcfAbb req payload)).2.1 with
        | false => exact absurd ⟨hLive, hAdmits, hSubmit⟩ h
        | true =>
            rw [dispatchInner_executes hLive hAdmits (submit_executes hSubmit)]
            exact ⟨executed_not_queued, rfl⟩
      · obtain ⟨hServer, hReply⟩ := @dispatchInner_refuses _ _ _ payload hLive
          hAdmits
        rw [hServer]
        exact ⟨hReply, rfl⟩

end Inner

/-! ## The message that is queued -/

private theorem executed_mtv (server : Server) (bus : Bus)
    (req : AcfMessageInfo) (mtv : Bool) (payload : Octets) :
    server.executed bus { req with mtv := mtv } payload =
      server.executed bus req payload := by
  cases bus <;> rfl

def requeued (frame : Octets) : Octets :=
  encodeAcfAbb (decodeAcfMessageInfo frame) (payloadOf frame)

private theorem length_payloadOf {frame : Octets} :
    (payloadOf frame).length = frame.length -
      headerLen (decodeAcfMessageInfo frame).acfMsgType := by
  simp [payloadOf]

private theorem header_requeued {frame : Octets} (h : IsMember frame) :
    decodeAcfMessageInfo (requeued frame) =
      { decodeAcfMessageInfo frame with
        acfMsgType := acfMsgTypeAbb
        mtv := false } := by
  have hTwo := h.two_le
  have hSize := (isMember_iff.mp h).2.2
  have hSet : (decodeAcfMessageInfo frame).acfMsgLength ≠ 0 := by
    intro hZero
    rw [hZero] at hSize
    simp at hSize
    omega
  have hFits := congrArg AcfMessageInfo.acfMsgLength
    (truncated_decodeAcfMessageInfo frame)
  unfold requeued
  rw [decode_encodeAcfAbb, if_neg hSet, truncated_decodeAcfMessageInfo]
  simp only [AcfMessageInfo.truncated] at hFits
  rw [hFits]

private theorem isMember_requeued {frame : Octets} (h : IsMember frame)
    (hType : (decodeAcfMessageInfo frame).acfMsgType = acfMsgTypeAbb) :
    IsMember (requeued frame) ∧ payloadOf (requeued frame) = payloadOf frame := by
  have hHeader : headerLen acfMsgTypeAbb = 8 := by decide
  obtain ⟨-, hLen, hSize⟩ := isMember_iff.mp h
  rw [hType, hHeader] at hLen
  have hLength : (requeued frame).length = frame.length := by
    unfold requeued
    rw [length_encodeAcfAbb, length_payloadOf, hType, hHeader]
    omega
  constructor
  · rw [isMember_iff, header_requeued h, hLength]
    exact ⟨Or.inl rfl, hHeader ▸ hLen, hSize⟩
  · rw [payloadOf, header_requeued h, hHeader]
    unfold requeued encodeAcfAbb
    rw [List.drop_left' (length_encodeAcfMessageInfo _)]

private theorem memberLen_requeued {frame : Octets} (h : IsMember frame)
    (hType : (decodeAcfMessageInfo frame).acfMsgType ≠ acfMsgTypeAbb) :
    memberLen (requeued frame) = none := by
  have hHeader : headerLen acfMsgTypeGbb = 16 := by decide
  have hAbb : headerLen acfMsgTypeAbb = 8 := by decide
  obtain ⟨hEither, hLen, hSize⟩ := isMember_iff.mp h
  have hGbb := hEither.resolve_left hType
  rw [hGbb, hHeader] at hLen
  have hLength : (requeued frame).length = frame.length - 8 := by
    unfold requeued
    rw [length_encodeAcfAbb, length_payloadOf, hGbb, hHeader]
    omega
  rw [memberLen_eq, header_requeued h, hLength]
  dsimp only
  rw [hAbb, hSize, if_neg (by omega), if_neg (by simp), if_neg (by omega),
    if_neg (by omega), if_pos (by omega)]

private theorem requeued_ne_nil (frame : Octets) : requeued frame ≠ [] := by
  intro hNil
  have hLength := congrArg List.length hNil
  simp [requeued] at hLength

private theorem dispatchFrame_of_memberLen_none (server : Server)
    (streamId : StreamId) {frame : Octets} (hSome : frame ≠ [])
    (h : memberLen frame = none) :
    server.dispatchFrame streamId frame = (server, []) := by
  have hNone : frameMembers frame = [] := by
    obtain ⟨octet, rest, rfl⟩ := List.exists_cons_of_ne_nil hSome
    simp [frameMembers, splitFrameMembers, splitFrom, h, memberOctets]
  unfold dispatchFrame dispatchFrameImpl
  rw [hNone]
  rfl

/-! ## The two ways to dispatch a frame -/

structure PutAside (server : Server) (bus : Bus) (frame : Octets) : Prop where
  member : IsMember frame
  target : busOf frame = some bus
  standard : Endpoint.peekRequestType frame = none
  live : server.operationalRequestsAllowed = true
  admits : Admits (server.admission bus) (decodeAcfMessageInfo frame)
  queues : ((server.admission bus).submit (requeued frame)).2.1 = false

/-- The server whose endpoint is enabled with an empty queue. -/
def start (server : Server) (bus : Bus) : Server :=
  (server.enableBus bus).withoutQueue bus

private theorem setAdmission_setAdmission (server : Server) (bus : Bus)
    (a b : Endpoint) :
    (server.setAdmission bus a).setAdmission bus b =
      server.setAdmission bus b := by
  simp [setAdmission, Table.set]

private theorem start_eq (server : Server) (bus : Bus) :
    server.start bus = server.setAdmission bus
      { (server.admission bus).setEnable true with queue := [] } := by
  unfold start withoutQueue enableBus
  rw [admission_setAdmission_self, setAdmission_setAdmission]

section Ways

variable {server : Server} {bus : Bus} {streamId : StreamId} {frame : Octets}

private theorem dispatchFrame_executes (hMember : IsMember frame)
    (hBus : busOf frame = some bus)
    (hStandard : Endpoint.peekRequestType frame = none)
    (hLive : server.operationalRequestsAllowed = true)
    (hAdmits : Admits (server.admission bus) (decodeAcfMessageInfo frame))
    (hEnable : (server.admission bus).epEnable = true) :
    let out := server.executed bus (decodeAcfMessageInfo frame)
      (payloadOf frame)
    server.dispatchFrame streamId frame =
      (out.1, [resultOf frame
        (suppressResponsePerStreamCfg server.regs streamId out.2)]) := by
  have hSubmit : (server.admission bus).submit (requeued frame) =
      (server.admission bus, true, []) := by
    simp [Endpoint.submit, hEnable]
  intro out
  rw [dispatchFrame_eq_dispatch server streamId hMember hStandard,
    dispatch_of_bus server streamId hBus,
    dispatchInner_executes hLive hAdmits hSubmit]
  rfl

private theorem dispatchDeferred_eq (h : PutAside server bus frame) :
    server.dispatchDeferred bus streamId frame =
      if (server.admission bus).queue.length < maxQueuedFrames then
        some ((server.start bus).dispatchFrame streamId (requeued frame))
      else none := by
  have hQueued : (server.dispatchFrame streamId frame).1 =
      server.setAdmission bus
        ((server.admission bus).submit (requeued frame)).1 := by
    rw [dispatchFrame_eq_dispatch server streamId h.member h.standard,
      dispatch_of_bus server streamId h.target]
    exact dispatchInner_queues h.live h.admits h.queues
  have hTaken := takeBack_eq (server.admission bus).queue
    (if (server.admission bus).queue.length < maxQueuedFrames then
      [requeued frame] else [])
    ((server.admission bus).setEnable true) rfl
  unfold dispatchDeferred enableBus
  simp only [hQueued, admission_setAdmission_self, setAdmission_setAdmission,
    submit_queues h.queues]
  simp only [Endpoint.setEnable] at hTaken ⊢
  rw [hTaken]
  split
  · rw [start_eq]
    rfl
  · rfl

private theorem dispatchDirect_eq (h : PutAside server bus frame) :
    let direct := (server.enableBus bus).dispatchFrame streamId frame
    let out := (server.start bus).executed bus (decodeAcfMessageInfo frame)
      (payloadOf frame)
    direct.1.withoutQueue bus = out.1 ∧
      direct.2 = [resultOf frame
        (suppressResponsePerStreamCfg server.regs streamId out.2)] := by
  have hDirect := @dispatchFrame_executes (server.enableBus bus) bus streamId
    frame h.member h.target h.standard h.live
    (by simpa [enableBus, Endpoint.setEnable, Admits] using h.admits)
    (by simp [enableBus, Endpoint.setEnable])
  dsimp only
  rw [hDirect]
  exact ⟨rfl, rfl⟩

private theorem putAside_of_reportsQueued (hMember : IsMember frame)
    (hBus : busOf frame = some bus)
    (hStandard : Endpoint.peekRequestType frame = none)
    (hQueued : server.ReportsQueued bus streamId frame) :
    PutAside server bus frame := by
  obtain ⟨result, hResult, hReports⟩ := hQueued
  rw [dispatchFrame_eq_dispatch server streamId hMember hStandard,
    dispatch_of_bus server streamId hBus] at hResult hReports
  by_contra hNot
  have hInner := @dispatchInner_not_queued server bus
    (decodeAcfMessageInfo frame) (payloadOf frame) fun h =>
      hNot ⟨hMember, hBus, hStandard, h.1, h.2.1, h.2.2⟩
  rcases hReports with hReported | ⟨-, hChanged⟩
  · rw [← List.singleton_inj.mp hResult] at hReported
    simp only [resultOf, ec_suppressResponsePerStreamCfg] at hReported
    exact hInner.1 hReported
  · exact hChanged hInner.2

private theorem deferralExact_of_abb (h : PutAside server bus frame)
    (hType : (decodeAcfMessageInfo frame).acfMsgType = acfMsgTypeAbb)
    (hRoom : (server.admission bus).queue.length < maxQueuedFrames) :
    server.DeferralExact bus streamId frame := by
  obtain ⟨hServer, hResults⟩ := @dispatchDirect_eq server bus streamId frame h
  obtain ⟨hMember, hPayload⟩ := isMember_requeued h.member hType
  have hHeader : decodeAcfMessageInfo (requeued frame) =
      { decodeAcfMessageInfo frame with mtv := false } := by
    rw [header_requeued h.member, ← hType]
  have hTaken := @dispatchFrame_executes (server.start bus) bus streamId
    (requeued frame) hMember (by simpa [busOf, hHeader] using h.target)
    (peekRequestType_encodeAcfAbb _ _) h.live
    (by simpa [start_eq, Endpoint.setEnable, Admits, hHeader] using h.admits)
    (by simp [start_eq, Endpoint.setEnable])
  unfold DeferralExact
  dsimp only at hTaken ⊢
  rw [dispatchDeferred_eq h, if_pos hRoom, hTaken, hServer, hResults, hPayload,
    hHeader, executed_mtv]
  simp [resultOf, hHeader, start_eq, setAdmission]

private theorem not_deferralExact_of_gbb (h : PutAside server bus frame)
    (hType : (decodeAcfMessageInfo frame).acfMsgType ≠ acfMsgTypeAbb) :
    ¬ server.DeferralExact bus streamId frame := by
  obtain ⟨-, hResults⟩ := @dispatchDirect_eq server bus streamId frame h
  have hNone : ((server.start bus).dispatchFrame streamId
      (requeued frame)).2 = [] := by
    rw [dispatchFrame_of_memberLen_none _ _ (requeued_ne_nil frame)
      (memberLen_requeued h.member hType)]
  intro hExact
  unfold DeferralExact at hExact
  dsimp only at hExact
  rw [dispatchDeferred_eq h] at hExact
  split at hExact
  · have hSame := congrArg Prod.snd (Option.some_inj.mp hExact)
    rw [hNone, hResults] at hSame
    exact List.cons_ne_nil _ _ hSame.symm
  · cases hExact

private theorem not_deferralExact_of_full (h : PutAside server bus frame)
    (hFull : ¬ (server.admission bus).queue.length < maxQueuedFrames) :
    ¬ server.DeferralExact bus streamId frame := by
  intro hExact
  unfold DeferralExact at hExact
  rw [dispatchDeferred_eq h, if_neg hFull] at hExact
  cases hExact

end Ways

/-! ## Which requests are deferred exactly -/

/-- A standard request that was put aside is served as a direct one if and only
if it is an ABB message and the queue has room for it. -/
theorem deferralExact_iff (server : Server) (bus : Bus) (streamId : StreamId)
    (frame : Octets) (hMember : IsMember frame)
    (hBus : busOf frame = some bus)
    (hStandard : Endpoint.peekRequestType frame = none)
    (hQueued : server.ReportsQueued bus streamId frame) :
    server.DeferralExact bus streamId frame ↔
      (decodeAcfMessageInfo frame).acfMsgType = acfMsgTypeAbb ∧
        (server.admission bus).queue.length < maxQueuedFrames := by
  have hAside := putAside_of_reportsQueued hMember hBus hStandard hQueued
  constructor
  · intro hExact
    refine ⟨?_, ?_⟩
    · by_contra hType
      exact not_deferralExact_of_gbb hAside hType hExact
    · by_contra hFull
      exact not_deferralExact_of_full hAside hFull hExact
  · rintro ⟨hType, hRoom⟩
    exact deferralExact_of_abb hAside hType hRoom

def disabledServer : Server :=
  (run step {} [.lifecycle .rcpConfigured,
    .endpoint .gpio (.setEnable false)]).1

def pinWrite : Octets :=
  encodeAcfAbb { byteBusId := 1, transactionNum := 5, op := true }
    [255, 255, 255, 255]

theorem deferralExact_pinWrite :
    IsMember pinWrite ∧ disabledServer.ReportsQueued .gpio 1 pinWrite ∧
      disabledServer.DeferralExact .gpio 1 pinWrite := by
  have hMember : IsMember pinWrite := by decide
  have hQueued : disabledServer.ReportsQueued .gpio 1 pinWrite :=
    ⟨⟨some (.dispatch .queued), 1, {}, []⟩, by decide, Or.inl rfl⟩
  exact ⟨hMember, hQueued, (deferralExact_iff disabledServer .gpio 1 pinWrite
    hMember (by decide) (by decide) hQueued).mpr
      (by decide)⟩

def timestampedWrite : Octets :=
  encodeAcfGbb { byteBusId := 1, transactionNum := 5, op := true, mtv := true }
    1000 [255, 255, 255, 255]

/-- It is reported as queued, and dispatched later without any response. -/
theorem timestampedWrite_not_deferred :
    disabledServer.Reachable ∧ IsMember timestampedWrite ∧
      (decodeAcfMessageInfo timestampedWrite).mtv = true ∧
      disabledServer.ReportsQueued .gpio 1 timestampedWrite ∧
      (disabledServer.dispatchDeferred .gpio 1 timestampedWrite).map Prod.snd =
        some [] ∧
      ((disabledServer.enableBus .gpio).dispatchFrame 1
        timestampedWrite).2.length = 1 ∧
      ¬ disabledServer.DeferralExact .gpio 1 timestampedWrite := by
  have hMember : IsMember timestampedWrite := by decide
  have hQueued : disabledServer.ReportsQueued .gpio 1 timestampedWrite :=
    ⟨⟨some (.dispatch .queued), 1, {}, []⟩, by decide, Or.inl rfl⟩
  have hAside := putAside_of_reportsQueued hMember (by decide)
    (by decide) hQueued
  exact ⟨⟨_, rfl⟩, hMember, by decide, hQueued, by decide,
    by decide, not_deferralExact_of_gbb hAside (by decide)⟩

end Server

end CppRcp.Mock
