import CppRcp.Admission.Effects
import CppRcp.Mock.E2eDispatch
import CppRcp.Peripherals.Errors

/-!
# What dispatching one message does

A message reaches at most the bus it addresses.  It leaves every per-stream
tracker alone, and reports a code of dispatch only to say what admission made
of it.
-/

namespace CppRcp.Mock

open CppRcp.Foundation CppRcp.Acf CppRcp.Request CppRcp.E2e CppRcp.Regmap
open CppRcp.Server

/-! ## Error codes -/

private theorem noDispatchError_handleGpio (p : Peripherals)
    (req : AcfMessageInfo) (payload : Octets) :
    NoDispatchError (failureOf (handleGpio p req payload).2) := by
  have hDecode := Gpio.noDispatchError_decodeGpioPayload payload
  unfold handleGpio
  split
  · exact .none
  · split
    · next hError =>
        rw [hError] at hDecode
        exact hDecode
    · next operand _ =>
        have hWrite := Gpio.noDispatchError_handleWrite p.gpio
          (Endpoint.writeSemanticsOf req.evtOp) operand
        split
        · next hError =>
            rw [hError] at hWrite
            exact hWrite
        · exact .none

private theorem noDispatchError_handleSpi (p : Peripherals)
    (req : AcfMessageInfo) (payload : Octets) :
    NoDispatchError (failureOf (handleSpi p req payload).2) := by
  have hChannel := Spi.noDispatchError_channelOf req.evtOp
  unfold handleSpi
  split
  · next hError =>
      rw [hError] at hChannel
      exact hChannel
  · next channel _ =>
      have hTransfer := Spi.noDispatchError_transfer p.spi channel payload
        (p.spiPoci.getD channel [])
      split
      · next hError =>
          rw [hError] at hTransfer
          exact hTransfer
      · exact .none

private theorem noDispatchError_measureAdc (p : Peripherals)
    (req : AcfMessageInfo) :
    NoDispatchError (failureOf (measureAdc p req).2) := by
  have hCycle := Adc.noDispatchError_executeMeasurementCycle p.adc
    [⟨p.adcSamples.headD Adc.adcNoSignal, 0⟩]
  unfold measureAdc
  dsimp only
  split
  · next hError =>
      rw [hError] at hCycle
      exact hCycle
  · next adc _ =>
      have hCollect := Adc.noDispatchError_collectResponse adc 1
      split
      · next hError =>
          rw [hError] at hCollect
          exact hCollect
      · dsimp only
        split
        · exact .some rfl
        · exact .none

private theorem noDispatchError_handleAdc (p : Peripherals)
    (req : AcfMessageInfo) (payload : Octets) :
    NoDispatchError (failureOf (handleAdc p req payload).2) := by
  have hReconfig := Adc.noDispatchError_applyReconfig p.adcCfg payload
  unfold handleAdc
  split
  · exact .some rfl
  · split
    · next hError =>
        rw [hError] at hReconfig
        exact hReconfig
    · exact .none
  · exact noDispatchError_measureAdc p req

private theorem noDispatchError_of_eq {answer : Answer}
    {failure : Option ErrorCode} (hFailure : NoDispatchError failure)
    (h : ∀ e, answer = .error e → failure = some e) :
    NoDispatchError (failureOf answer) := by
  cases hAnswer : answer with
  | error e => exact .some (hFailure e (h e hAnswer))
  | ok response => exact .none

theorem noDispatchError_handlerOf (bus : Bus) (p : Peripherals)
    (req : AcfMessageInfo) (payload : Octets) :
    NoDispatchError (failureOf (handlerOf bus p req payload).2) := by
  cases bus with
  | gpio => exact noDispatchError_handleGpio p req payload
  | spi => exact noDispatchError_handleSpi p req payload
  | adc => exact noDispatchError_handleAdc p req payload
  | i2c =>
      refine noDispatchError_of_eq (I2c.noDispatchError_handleRequest p.i2c
        req.evtOp payload p.i2cResponse p.i2cAcked) ?_
      intro e h
      simp only [handlerOf, handleI2c] at h
      split at h
      · next hError =>
          cases h
          rw [hError]
      · cases h
  | pwmIn =>
      refine noDispatchError_of_eq (Pwm.noDispatchError_handleRequest p.pwmIn
        req.evtOp) ?_
      intro e h
      simp only [handlerOf, handlePwmIn] at h
      split at h
      · next hError =>
          cases h
          rw [hError]
          rfl
      · cases h
  | lin =>
      refine noDispatchError_of_eq (Lin.noDispatchError_handleRequest p.lin
        req.evtOp payload p.linResponse p.linResponded) ?_
      intro e h
      simp only [handlerOf, handleLin] at h
      split at h
      · next hError =>
          cases h
          rw [hError]
      · cases h
  | can =>
      refine noDispatchError_of_eq (Can.noDispatchError_handleRequest p.can
        req.evtOp { data := payload }) ?_
      intro e h
      simp only [handlerOf, handleCan] at h
      split at h
      · next hError =>
          cases h
          rw [hError]
      · cases h
  | uart =>
      refine noDispatchError_of_eq (Uart.noDispatchError_handleRequest p.uart
        req.evtOp req.op payload req.readSizeOrSegmentNum.toNat 0 0) ?_
      intro e h
      simp only [handlerOf, handleUart] at h
      split at h
      · next hError =>
          cases h
          rw [hError]
          rfl
      · split at h
        · cases h
        · cases h
  | iseled =>
      refine noDispatchError_of_eq (Iseled.noDispatchError_handleRequest
        p.iseled req.evtOp payload) ?_
      intro e h
      simp only [handlerOf, handleIseled] at h
      split at h
      · next hError =>
          cases h
          rw [hError]
      · cases h
  | mdio =>
      refine noDispatchError_of_eq (Mdio.noDispatchError_handleRequest p.mdio
        req.evtOp
        { isWrite := req.op
          mdioPayload :=
            if req.op && decide (2 ≤ payload.length) then
              UInt32.ofNat (be16 payload)
            else 0 }) ?_
      intro e h
      simp only [handlerOf, handleMdio] at h
      split at h
      · next hError =>
          cases h
          rw [hError]
          rfl
      · split at h
        · cases h
        · cases h

def isAdmissionCode : ErrorCode → Bool
  | .dispatch .queued | .dispatch .pending | .dispatch .cancelled
  | .dispatch .suspended => true
  | _ => false

/-- The only codes of the server's own that are reported are those that say
what admission made of a request. -/
def ReportsAdmission (ec : Option ErrorCode) : Prop :=
  ∀ code, ec = some code → code.isDispatch = true → isAdmissionCode code = true

theorem ReportsAdmission.none : ReportsAdmission none := by
  intro code h
  cases h

private theorem ReportsAdmission.of_noDispatch {e : ErrorCode}
    (h : e.isDispatch = false) : ReportsAdmission (some e) := by
  intro code hCode hDispatch
  cases hCode
  rw [h] at hDispatch
  cases hDispatch

private theorem ReportsAdmission.of_admission {e : ErrorCode}
    (h : isAdmissionCode e = true) : ReportsAdmission (some e) := by
  intro code hCode hDispatch
  cases hCode
  exact h

theorem reportsAdmission_suppress {regs : RegisterMap} {streamId : StreamId}
    {reply : Reply} :
    (suppressResponsePerStreamCfg regs streamId reply).ec = reply.ec := by
  unfold suppressResponsePerStreamCfg
  split
  · rfl
  · dsimp only
    split
    · rfl
    · split
      · split <;> rfl
      · split <;> rfl

private theorem reportsAdmission_classify (outcome : AdmitResult)
    (req : AcfMessageInfo) : ReportsAdmission (classify outcome req).ec := by
  unfold classify
  split
  · split
    · exact .none
    · exact .of_admission rfl
  · split
    · exact .none
    · split
      · exact .of_admission rfl
      · exact .of_admission rfl
  · exact .of_admission rfl
  · split
    · exact .of_noDispatch rfl
    · split
      · exact .of_noDispatch rfl
      · split
        · exact .of_noDispatch rfl
        · exact .of_noDispatch rfl

private theorem reportsAdmission_admitAndClassify
    {admission admission' : Endpoint}
    {frame : Octets} {req : AcfMessageInfo} {reply : Reply}
    (h : admitAndClassify admission frame req = (admission', some reply)) :
    ReportsAdmission reply.ec := by
  unfold admitAndClassify at h
  dsimp only at h
  split at h
  · cases h
  · split at h
    · split at h
      · cases h
        exact .of_admission rfl
      · cases h
        exact .of_admission rfl
    · cases h
      exact reportsAdmission_classify _ _

private theorem reportsAdmission_replyOf {req : AcfMessageInfo}
    {answer : Answer} (h : NoDispatchError (failureOf answer)) :
    ReportsAdmission (replyOf req answer).ec := by
  cases answer with
  | error e => exact .of_noDispatch (h e rfl)
  | ok response => exact .none

namespace Server

private theorem reportsAdmission_dispatchInner (server : Server) (bus : Bus)
    (req : AcfMessageInfo) (payload : Octets) :
    ReportsAdmission (server.dispatchInner bus req payload).2.ec := by
  unfold dispatchInner
  split
  · exact .of_noDispatch rfl
  · split
    · next hAdmit => exact reportsAdmission_admitAndClassify hAdmit
    · exact reportsAdmission_replyOf (noDispatchError_handlerOf _ _ _ _)

private theorem reportsAdmission_dispatch (server : Server)
    (streamId : StreamId) (req : AcfMessageInfo) (payload : Octets) :
    ReportsAdmission (server.dispatch streamId req payload).2.ec := by
  unfold dispatch
  split
  · unfold dispatchEp0
    split
    · exact .of_noDispatch rfl
    · exact .none
  · split
    · exact .of_noDispatch rfl
    · dsimp only
      rw [reportsAdmission_suppress]
      exact reportsAdmission_dispatchInner _ _ _ _

private theorem reportsAdmission_admitConditional (server : Server)
    (streamId : StreamId) (frame : Octets) :
    ReportsAdmission (server.admitConditional streamId frame).2.ec := by
  unfold admitConditional
  dsimp only
  split
  · exact .of_noDispatch rfl
  · next bus _ =>
      split
      · rw [reportsAdmission_suppress]
        exact .of_noDispatch rfl
      · rw [reportsAdmission_suppress]
        cases hAdmit : admitAndClassify (server.admission bus) frame
            (decodeAcfMessageInfo frame) with
        | mk admission reply =>
            cases reply with
            | none => exact .none
            | some reply => exact reportsAdmission_admitAndClassify hAdmit

private theorem decodeAcfGbb_error {octets : Octets} {e : ErrorCode}
    (h : decodeAcfGbb octets = .error e) : e.isDispatch = false := by
  unfold decodeAcfGbb at h
  split at h
  · cases h
    rfl
  · split at h
    · cases h
      rfl
    · split at h
      · cases h
        rfl
      · cases h

private theorem decodeAcfAbb_error {octets : Octets} {e : ErrorCode}
    (h : decodeAcfAbb octets = .error e) : e.isDispatch = false := by
  unfold decodeAcfAbb at h
  split at h
  · cases h
    rfl
  · split at h
    · cases h
      rfl
    · split at h
      · cases h
        rfl
      · cases h

theorem reportsAdmission_decodeAndDispatch (server : Server)
    (streamId : StreamId) (frame : Octets) :
    ReportsAdmission (server.decodeAndDispatch streamId frame).2.ec := by
  unfold decodeAndDispatch
  split
  · exact .of_noDispatch rfl
  · split
    · exact reportsAdmission_admitConditional _ _ _
    · split
      · split
        · next hDecode => exact .of_noDispatch (decodeAcfGbb_error hDecode)
        · exact reportsAdmission_dispatch _ _ _ _
      · split
        · next hDecode => exact .of_noDispatch (decodeAcfAbb_error hDecode)
        · exact reportsAdmission_dispatch _ _ _ _

end Server

/-! ## The effect on the buses -/

structure SameStreams (a b : Server) : Prop where
  lifecycle : b.lifecycle = a.lifecycle
  regs : b.regs = a.regs
  gptpTriggerState : b.gptpTriggerState = a.gptpTriggerState
  streamFaultTracker : b.streamFaultTracker = a.streamFaultTracker
  seqTrackers : b.seqTrackers = a.seqTrackers
  rxWatchdogs : b.rxWatchdogs = a.rxWatchdogs
  streamStatus : b.streamStatus = a.streamStatus
  fragReassemblers : b.fragReassemblers = a.fragReassemblers
  fragFirstHeaders : b.fragFirstHeaders = a.fragFirstHeaders
  respQueues : b.respQueues = a.respQueues

theorem SameStreams.refl (server : Server) : SameStreams server server :=
  ⟨rfl, rfl, rfl, rfl, rfl, rfl, rfl, rfl, rfl, rfl⟩

theorem peekRequestType_encodeAcfAbb (info : AcfMessageInfo)
    (payload : Octets) :
    Endpoint.peekRequestType (encodeAcfAbb info payload) = none := by
  unfold Endpoint.peekRequestType
  split
  · rfl
  · have hType : (decodeAcfMessageInfo
        (encodeAcfAbb info payload)).acfMsgType = acfMsgTypeAbb := by
      simp only [encodeAcfAbb]
      rw [decode_encodeAcfMessageInfo]
      split <;> rfl
    exact if_pos (by simp [hType, acfMsgTypeAbb, acfMsgTypeGbb])

def NotCancelled (ec : Option ErrorCode) : Prop :=
  ec ≠ some (.dispatch .cancelled)

private theorem notCancelled_of_noDispatch {e : ErrorCode}
    (h : e.isDispatch = false) : NotCancelled (some e) := by
  intro hCancelled
  cases hCancelled
  cases h

private theorem notCancelled_classify (outcome : AdmitResult)
    (req : AcfMessageInfo) : NotCancelled (classify outcome req).ec := by
  unfold classify
  split
  · split
    · simp [NotCancelled]
    · simp [NotCancelled]
  · split
    · simp [NotCancelled]
    · split <;> simp [NotCancelled]
  · simp [NotCancelled]
  · split
    · simp [NotCancelled]
    · split
      · simp [NotCancelled, errorReply]
      · split <;> simp [NotCancelled]

/-- A request that is not a cancellation is admitted as `admitWithAck` says,
and is not reported as cancelled. -/
theorem admitAndClassify_spec {admission : Endpoint} {frame : Octets}
    (req : AcfMessageInfo)
    (h : (admission.admitWithAck frame 0 false 0 0).2.outcome ≠
      .cancellation) :
    (admitAndClassify admission frame req).1 =
        (admission.admitWithAck frame 0 false 0 0).1 ∧
      ∀ reply, (admitAndClassify admission frame req).2 = some reply →
        NotCancelled reply.ec := by
  unfold admitAndClassify
  dsimp only
  split
  · simp
  · refine ⟨rfl, ?_⟩
    rintro reply ⟨⟩
    exact notCancelled_classify _ _

/-- What dispatching a frame does to the server, and whether it reports a
cancellation. -/
inductive BusEffect (server : Server) (frame : Octets) :
    Server → Reply → Prop
  | untouched {reply : Reply} (hReply : NotCancelled reply.ec) :
      BusEffect server frame server reply
  | executed {bus : Bus} {ep : Endpoint} {reply : Reply}
      (peripherals : Peripherals)
      (hBus : Bus.ofId (decodeAcfMessageInfo frame).byteBusId = some bus)
      (hStore : SameStore (server.admission bus) ep)
      (hReply : NotCancelled reply.ec) :
      BusEffect server frame
        { server.setAdmission bus ep with peripherals := peripherals } reply
  | admitted {bus : Bus} {ep : Endpoint} {result : AdmitResult}
      {reply : Reply}
      (hBus : Bus.ofId (decodeAcfMessageInfo frame).byteBusId = some bus)
      (hType : (Endpoint.peekRequestType frame).isSome = true)
      (hEffect : AdmitEffect (server.admission bus) frame false ep result)
      (hReply : NotCancelled reply.ec) :
      BusEffect server frame (server.setAdmission bus ep) reply
  | cancelled {bus : Bus} {type : RequestTypeOpcode} {reply : Reply}
      (hBus : Bus.ofId (decodeAcfMessageInfo frame).byteBusId = some bus)
      (hType : Endpoint.peekRequestType frame = some type)
      (hCategory : categoryOf (some type) = .cancellation)
      (hReply : reply.ec = some (.dispatch .cancelled)) :
      BusEffect server frame
        (server.setAdmission bus
          (applyCancellation (server.admission bus) type frame
            (decodeAcfMessageInfo frame)).1) reply

theorem BusEffect.sameStreams {server server' : Server} {frame : Octets}
    {reply : Reply} (h : BusEffect server frame server' reply) :
    SameStreams server server' := by
  cases h with
  | untouched hReply => exact .refl server
  | executed peripherals hBus hStore hReply =>
      exact ⟨rfl, rfl, rfl, rfl, rfl, rfl, rfl, rfl, rfl, rfl⟩
  | admitted hBus hType hEffect hReply =>
      exact ⟨rfl, rfl, rfl, rfl, rfl, rfl, rfl, rfl, rfl, rfl⟩
  | cancelled hBus hType hCategory hReply =>
      exact ⟨rfl, rfl, rfl, rfl, rfl, rfl, rfl, rfl, rfl, rfl⟩

namespace Server

theorem sameStreams_dispatch (server : Server) (streamId : StreamId)
    (req : AcfMessageInfo) (payload : Octets) :
    SameStreams server (server.dispatch streamId req payload).1 := by
  unfold dispatch
  split
  · exact .refl server
  · split
    · exact .refl server
    · unfold dispatchInner
      dsimp only
      split
      · exact .refl server
      · split
        · exact ⟨rfl, rfl, rfl, rfl, rfl, rfl, rfl, rfl, rfl, rfl⟩
        · exact ⟨rfl, rfl, rfl, rfl, rfl, rfl, rfl, rfl, rfl, rfl⟩

private theorem notCancelled_replyOf {req : AcfMessageInfo} {answer : Answer}
    (h : NoDispatchError (failureOf answer)) :
    NotCancelled (replyOf req answer).ec := by
  cases answer with
  | error e => exact notCancelled_of_noDispatch (h e rfl)
  | ok response => simp [NotCancelled, replyOf]

private theorem dispatch_effect (server : Server) (streamId : StreamId)
    (frame payload : Octets) :
    BusEffect server frame
      (server.dispatch streamId (decodeAcfMessageInfo frame) payload).1
      (server.dispatch streamId (decodeAcfMessageInfo frame) payload).2 := by
  unfold dispatch
  split
  · refine .untouched ?_
    unfold dispatchEp0
    split <;> simp [NotCancelled, setErrorResponse, errorReply]
  · split
    · exact .untouched (by simp [NotCancelled, setErrorResponse, errorReply])
    · next bus hBus =>
        have hReply {reply : Reply} (h : NotCancelled reply.ec) :
            NotCancelled (suppressResponsePerStreamCfg server.regs streamId
              reply).ec := by
          rwa [reportsAdmission_suppress]
        unfold dispatchInner
        dsimp only
        split
        · exact .untouched
            (hReply (by simp [NotCancelled, setErrorResponse, errorReply]))
        · have hPeek := peekRequestType_encodeAcfAbb
            (decodeAcfMessageInfo frame) payload
          have hStore := admitWithAck_standard
            (server.admission bus) 0 0 0 hPeek
          have hOutcome : ((server.admission bus).admitWithAck
              (encodeAcfAbb (decodeAcfMessageInfo frame) payload) 0 false 0
              0).2.outcome ≠ .cancellation := by
            intro hCancel
            obtain ⟨-, -, type, hType, -⟩ := admitWithAck_cancellation hCancel
            rw [hPeek] at hType
            cases hType
          obtain ⟨hSame, hNot⟩ := admitAndClassify_spec
            (decodeAcfMessageInfo frame) hOutcome
          rw [← hSame] at hStore
          split
          · next reply hAdmit =>
              rw [hAdmit] at hStore hNot
              exact .executed server.peripherals hBus hStore
                (hReply (hNot reply rfl))
          · next hAdmit =>
              rw [hAdmit] at hStore
              exact .executed _ hBus hStore (hReply
                (notCancelled_replyOf (noDispatchError_handlerOf _ _ _ _)))

private theorem admitConditional_busEffect (server : Server)
    (streamId : StreamId)
    {frame : Octets} (hType : (Endpoint.peekRequestType frame).isSome = true) :
    BusEffect server frame (server.admitConditional streamId frame).1
      (server.admitConditional streamId frame).2 := by
  unfold admitConditional
  dsimp only
  split
  · exact .untouched (by simp [NotCancelled, setErrorResponse, errorReply])
  · next bus hBus =>
      split
      · refine .untouched ?_
        rw [reportsAdmission_suppress]
        simp [NotCancelled, setErrorResponse, errorReply]
      · have hEffect := admitWithAck_effect (server.admission bus) frame 0
          false 0 0
        by_cases hOutcome : ((server.admission bus).admitWithAck frame 0 false
            0 0).2.outcome = .cancellation
        · obtain ⟨hSame, -, type, hType, hCategory, hRequest⟩ :=
            admitWithAck_cancellation hOutcome
          unfold admitAndClassify
          simp only [hOutcome, hRequest, hSame, reduceCtorEq, if_false,
            if_true]
          exact .cancelled hBus hType hCategory
            (by rw [reportsAdmission_suppress]; rfl)
        · obtain ⟨hSame, hNot⟩ := admitAndClassify_spec
            (decodeAcfMessageInfo frame) hOutcome
          rw [hSame]
          refine .admitted hBus hType hEffect ?_
          rw [reportsAdmission_suppress]
          cases hReply : (admitAndClassify (server.admission bus) frame
              (decodeAcfMessageInfo frame)).2 with
          | none => simp [NotCancelled]
          | some reply => exact hNot reply hReply

theorem decodeAndDispatch_effect (server : Server) (streamId : StreamId)
    (frame : Octets) :
    BusEffect server frame (server.decodeAndDispatch streamId frame).1
      (server.decodeAndDispatch streamId frame).2 := by
  unfold decodeAndDispatch
  split
  · exact .untouched (by simp [NotCancelled])
  · split
    · next hType => exact admitConditional_busEffect _ _ hType
    · split
      · split
        · next hDecode =>
            exact .untouched
              (notCancelled_of_noDispatch (decodeAcfGbb_error hDecode))
        · next hDecode =>
            rw [(decodeAcfGbb_ok hDecode).1]
            exact dispatch_effect _ _ _ _
      · split
        · next hDecode =>
            exact .untouched
              (notCancelled_of_noDispatch (decodeAcfAbb_error hDecode))
        · next hDecode =>
            rw [(decodeAcfAbb_ok hDecode).1]
            exact dispatch_effect _ _ _ _

end Server

end CppRcp.Mock
