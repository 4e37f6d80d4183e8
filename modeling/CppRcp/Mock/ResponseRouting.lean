import CppRcp.Mock.Reassembly

/-!
# Which responses a stream lets through

The row of a request stream says where its acknowledges and its other
responses go, an index of 0 meaning that none is to be sent.  Most of the
replies a dispatch builds pass through `suppress_response_per_stream_cfg`;
`RoutedBy` says what the others do to the row's rule.
-/

namespace CppRcp.Mock

open CppRcp.Foundation CppRcp.Acf CppRcp.Request CppRcp.E2e CppRcp.Regmap
open CppRcp.Server CppRcp.Fragment

def Acknowledges (response : AcfMessageInfo) : Prop :=
  response.rsp = true ∧ responseKindOf response = .acknowledge

instance (response : AcfMessageInfo) : Decidable (Acknowledges response) :=
  inferInstanceAs (Decidable (_ ∧ _))

def Silent (response : AcfMessageInfo) (payload : Octets) : Prop :=
  response.rsp = false ∧ payload = []

instance (response : AcfMessageInfo) (payload : Octets) :
    Decidable (Silent response payload) :=
  inferInstanceAs (Decidable (_ ∧ _))

/-- What comes back keeps to the row of its stream, but for an exempt response
that is no acknowledge. -/
structure RoutedBy (row : RequestStreamConfig) (exempt : Prop)
    (response : AcfMessageInfo) (payload : Octets) : Prop where
  acknowledge : row.rxAckStreamIndex = 0 → ¬ Acknowledges response
  other : row.rxRespStreamIndex = 0 → ¬ exempt →
    Acknowledges response ∨ Silent response payload

section Routed

variable {row : RequestStreamConfig} {exempt : Prop}
  {response : AcfMessageInfo} {payload : Octets}

theorem RoutedBy.mono {weaker : Prop}
    (h : RoutedBy row exempt response payload) (hImp : exempt → weaker) :
    RoutedBy row weaker response payload :=
  ⟨h.acknowledge, fun hRow hNot => h.other hRow fun hExempt =>
    hNot (hImp hExempt)⟩

theorem RoutedBy.silent (row : RequestStreamConfig) (exempt : Prop)
    (h : Silent response payload) : RoutedBy row exempt response payload := by
  refine ⟨fun _ hAck => ?_, fun _ _ => .inr h⟩
  exact Bool.false_ne_true (h.1.symm.trans hAck.1)

private theorem RoutedBy.of_other
    (hKind : responseKindOf response ≠ .acknowledge)
    (h : row.rxRespStreamIndex = 0 → exempt) :
    RoutedBy row exempt response payload :=
  ⟨fun _ hAck => hKind hAck.2, fun hRow hNot => absurd (h hRow) hNot⟩

end Routed

/-! ## The kinds of the responses -/

theorem responseKindOf_makeResponse (req : AcfMessageInfo)
    (kind : ResponseKind) : responseKindOf (makeResponse req kind) = kind := by
  cases kind <;> simp [responseKindOf, makeResponse, evtOf,
    evtAcknowledge, weight]

theorem routedBy_errorReply {row : RequestStreamConfig} {exempt : Prop}
    (req : AcfMessageInfo) (ec : ErrorCode) (code : WireErrorCode)
    (h : row.rxRespStreamIndex = 0 → exempt) :
    RoutedBy row exempt (errorReply req ec code).response
      (errorReply req ec code).payload := by
  refine .of_other ?_ h
  simp [errorReply, responseKindOf_makeResponse]

theorem routedBy_setErrorResponse {row : RequestStreamConfig} {exempt : Prop}
    (req : AcfMessageInfo) (ec : ErrorCode)
    (h : row.rxRespStreamIndex = 0 → exempt) :
    RoutedBy row exempt (setErrorResponse req ec).response
      (setErrorResponse req ec).payload :=
  routedBy_errorReply req ec _ h

/-! ## Replies before they are suppressed -/

def Reply.Plain (reply : Reply) : Prop :=
  reply.response.rsp = false → reply.payload = []

private theorem plain_of_rsp {reply : Reply} (h : reply.response.rsp = true) :
    reply.Plain := by
  intro hRsp
  rw [h] at hRsp
  cases hRsp

private theorem plain_errorReply (req : AcfMessageInfo) (ec : ErrorCode)
    (code : WireErrorCode) : (errorReply req ec code).Plain :=
  plain_of_rsp rfl

private theorem plain_nothing (ec : Option ErrorCode) : Reply.Plain
    ⟨ec, {}, []⟩ :=
  fun _ => rfl

private theorem plain_classify (outcome : AdmitResult) (req : AcfMessageInfo) :
    (classify outcome req).Plain := by
  unfold classify
  split
  · split
    · exact plain_of_rsp rfl
    · exact plain_nothing _
  · split
    · exact plain_of_rsp rfl
    · split <;> exact plain_nothing _
  · exact plain_nothing _
  · split
    · exact plain_nothing _
    · split
      · exact plain_errorReply _ _ _
      · split
        · exact plain_of_rsp rfl
        · exact plain_nothing _

private theorem plain_applyCancellation (admission : Endpoint)
    (requestType : RequestTypeOpcode) (frame : Octets) (req : AcfMessageInfo)
    (ec : Option ErrorCode) :
    Reply.Plain ⟨ec,
      (applyCancellation admission requestType frame req).2.1,
      (applyCancellation admission requestType frame req).2.2⟩ := by
  unfold applyCancellation
  split
  · exact plain_nothing _
  · exact plain_nothing _
  · unfold applyClearSingle
    split
    · exact plain_nothing _
    · dsimp only
      split
      · exact plain_of_rsp rfl
      · exact plain_nothing _
      · exact plain_nothing _
  · exact plain_nothing _

private theorem plain_admitAndClassify {admission admission' : Endpoint}
    {frame : Octets} {req : AcfMessageInfo} {reply : Reply}
    (h : admitAndClassify admission frame req = (admission', some reply)) :
    reply.Plain := by
  unfold admitAndClassify at h
  dsimp only at h
  split at h
  · cases h
  · split at h
    · split at h
      · cases h
        exact plain_nothing _
      · cases h
        exact plain_applyCancellation _ _ _ _ _
    · cases h
      exact plain_classify _ _

private theorem plain_replyOf (req : AcfMessageInfo) (answer : Answer) :
    (replyOf req answer).Plain := by
  cases answer with
  | error e => exact plain_errorReply _ _ _
  | ok response => exact plain_of_rsp rfl

/-! ## What is suppressed -/

namespace Server

def rowOf (server : Server) (streamId : StreamId) : RequestStreamConfig :=
  server.regs.requestStream (server.streamIndex streamId)

theorem rowOf_congr {a b : Server} (hRegs : b.regs = a.regs)
    (streamId : StreamId) : b.rowOf streamId = a.rowOf streamId := by
  rw [rowOf, rowOf, streamIndex, streamIndex, hRegs]

variable {server : Server} {streamId : StreamId}

private theorem routedBy_suppress
    (hConfigured : server.streamIndex streamId ≠ 0)
    {reply : Reply} (hPlain : reply.Plain) (exempt : Prop) :
    RoutedBy (server.rowOf streamId) exempt
      (suppressResponsePerStreamCfg server.regs streamId reply).response
      (suppressResponsePerStreamCfg server.regs streamId reply).payload := by
  unfold streamIndex at hConfigured
  unfold suppressResponsePerStreamCfg rowOf streamIndex
  cases hRsp : reply.response.rsp with
  | false => exact .silent _ _ ⟨hRsp, hPlain hRsp⟩
  | true =>
      simp only [Bool.not_true, Bool.false_eq_true, if_false, hConfigured]
      generalize server.regs.requestStream
        (resolveIndex server.regs.requestStreams streamId) = row
      by_cases hKind : responseKindOf reply.response = .acknowledge
      · rw [if_pos hKind]
        by_cases hRow : row.rxAckStreamIndex = 0
        · simp only [hRow, decide_true, if_true]
          exact .silent _ _ ⟨rfl, rfl⟩
        · simp only [hRow, decide_false, Bool.false_eq_true, if_false]
          exact ⟨fun hZero => absurd hZero hRow,
            fun _ _ => .inl ⟨hRsp, hKind⟩⟩
      · rw [if_neg hKind]
        by_cases hRow : row.rxRespStreamIndex = 0
        · simp only [hRow, decide_true, if_true]
          exact .silent _ _ ⟨rfl, rfl⟩
        · simp only [hRow, decide_false, Bool.false_eq_true, if_false]
          exact .of_other hKind fun hZero => absurd hZero hRow

private theorem regs_dispatchInner (server : Server) (bus : Bus)
    (req : AcfMessageInfo) (payload : Octets) :
    (server.dispatchInner bus req payload).1.regs = server.regs := by
  unfold dispatchInner
  split
  · rfl
  · split <;> rfl

private theorem plain_dispatchInner (server : Server) (bus : Bus)
    (req : AcfMessageInfo) (payload : Octets) :
    (server.dispatchInner bus req payload).2.Plain := by
  unfold dispatchInner
  split
  · exact plain_errorReply _ _ _
  · split
    · next hAdmit => exact plain_admitAndClassify hAdmit
    · exact plain_replyOf _ _

theorem routedBy_dispatch (hConfigured : server.streamIndex streamId ≠ 0)
    (req : AcfMessageInfo) (payload : Octets) :
    RoutedBy (server.rowOf streamId) (Bus.ofId req.byteBusId = none)
      (server.dispatch streamId req payload).2.response
      (server.dispatch streamId req payload).2.payload := by
  unfold dispatch
  split
  · next hZero =>
      have hNone : Bus.ofId req.byteBusId = none := by
        rw [hZero]
        rfl
      unfold dispatchEp0
      split
      · exact routedBy_setErrorResponse _ _ fun _ => hNone
      · refine .of_other ?_ fun _ => hNone
        simp [responseKindOf_makeResponse]
  · split
    · next hNone => exact routedBy_setErrorResponse _ _ fun _ => hNone
    · next bus hBus =>
        have hRegs := regs_dispatchInner server bus req payload
        have hInner : (server.dispatchInner bus req payload).1.streamIndex
            streamId ≠ 0 := by
          rwa [streamIndex, hRegs]
        rw [← rowOf_congr hRegs]
        exact routedBy_suppress hInner (plain_dispatchInner _ _ _ _) _

private theorem routedBy_admitConditional
    (hConfigured : server.streamIndex streamId ≠ 0) (frame : Octets) :
    RoutedBy (server.rowOf streamId)
      (Bus.ofId (decodeAcfMessageInfo frame).byteBusId = none)
      (server.admitConditional streamId frame).2.response
      (server.admitConditional streamId frame).2.payload := by
  unfold admitConditional
  dsimp only
  split
  · next hNone => exact routedBy_setErrorResponse _ _ fun _ => hNone
  · next bus _ =>
      split
      · exact routedBy_suppress hConfigured (plain_errorReply _ _ _) _
      · refine routedBy_suppress hConfigured ?_ _
        cases hAdmit : admitAndClassify (server.admission bus) frame
            (decodeAcfMessageInfo frame) with
        | mk admission reply =>
            cases reply with
            | none => exact plain_nothing _
            | some reply => exact plain_admitAndClassify hAdmit

theorem routedBy_decodeAndDispatch
    (hConfigured : server.streamIndex streamId ≠ 0) (frame : Octets) :
    RoutedBy (server.rowOf streamId)
      (Bus.ofId (decodeAcfMessageInfo frame).byteBusId = none)
      (server.decodeAndDispatch streamId frame).2.response
      (server.decodeAndDispatch streamId frame).2.payload := by
  unfold decodeAndDispatch
  split
  · exact .silent _ _ ⟨rfl, rfl⟩
  · split
    · exact routedBy_admitConditional hConfigured frame
    · split
      · split
        · exact .silent _ _ ⟨rfl, rfl⟩
        · next hDecode =>
            rw [(decodeAcfGbb_ok hDecode).1]
            exact routedBy_dispatch hConfigured _ _
      · split
        · exact .silent _ _ ⟨rfl, rfl⟩
        · next hDecode =>
            rw [(decodeAcfAbb_ok hDecode).1]
            exact routedBy_dispatch hConfigured _ _

end Server

end CppRcp.Mock
