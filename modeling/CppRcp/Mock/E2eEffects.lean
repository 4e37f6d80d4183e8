import CppRcp.Mock.Effects

/-!
# What the protected entries do to the per-stream trackers

Apart from the kick of the watchdog and the sequence check in front, a
protected message or fragment either leaves the trackers alone, or fails the
check of its protection and is recorded as a fault of its stream.
-/

namespace CppRcp.Mock

open CppRcp.Foundation CppRcp.Acf CppRcp.E2e CppRcp.Regmap CppRcp.Fragment

def crcFailed : Option ErrorCode := some (.e2e .crcError)

def seqFailed : Option ErrorCode := some (.dispatch .seqError)

def isRefusal : DispatchErrc → Bool
  | .seqError | .unknownBus | .chainError | .chainAborted => true
  | _ => false

def HandedOver (ec : Option ErrorCode) : Prop :=
  ∀ code, isRefusal code = true → ec ≠ some (.dispatch code)

private theorem HandedOver.of_dispatch {code : DispatchErrc}
    (h : isRefusal code = false) : HandedOver (some (.dispatch code)) := by
  rintro refusal hRefusal ⟨⟩
  rw [h] at hRefusal
  cases hRefusal

private theorem HandedOver.of_not {e : ErrorCode}
    (h : ∀ code, e ≠ .dispatch code) :
    HandedOver (some e) := by
  rintro refusal hRefusal hError
  exact h refusal (Option.some.inj hError)

private theorem ReportsAdmission.ne_crcFailed {ec : Option ErrorCode}
    (h : ReportsAdmission ec) : ec ≠ crcFailed := by
  intro hError
  have hCode := h _ hError rfl
  cases hCode

theorem ReportsAdmission.handedOver {ec : Option ErrorCode}
    (h : ReportsAdmission ec) : HandedOver ec := by
  intro code hRefusal hError
  have hCode := h _ hError rfl
  cases code <;> cases hCode <;> cases hRefusal

/-- A result with the registers and trackers of `server` that reports neither
a failed checksum nor a refusal. -/
structure Quiet (server : Server) (result : Server × Reply) : Prop where
  regs : result.1.regs = server.regs
  seqTrackers : result.1.seqTrackers = server.seqTrackers
  faults : result.1.streamFaultTracker = server.streamFaultTracker
  checked : result.2.ec ≠ crcFailed
  handedOver : HandedOver result.2.ec

theorem Quiet.trans {a : Server} {b c : Server × Reply} (hab : Quiet a b)
    (hbc : Quiet b.1 c) : Quiet a c :=
  ⟨hbc.regs.trans hab.regs, hbc.seqTrackers.trans hab.seqTrackers,
    hbc.faults.trans hab.faults, hbc.checked, hbc.handedOver⟩

theorem Quiet.of_server {a b : Server} {result : Server × Reply}
    (h : Quiet b result) (hRegs : b.regs = a.regs)
    (hTrackers : b.seqTrackers = a.seqTrackers)
    (hFaults : b.streamFaultTracker = a.streamFaultTracker) :
    Quiet a result :=
  ⟨h.regs.trans hRegs, h.seqTrackers.trans hTrackers, h.faults.trans hFaults,
    h.checked, h.handedOver⟩

/-- A result that is quiet or that records a failure; only the latter reports a
failed checksum. -/
inductive CheckEffect (server : Server) (streamId : StreamId)
    (result : Server × Reply) : Prop
  | quiet (h : Quiet server result)
  | recorded (hRegs : result.1.regs = server.regs)
      (hTrackers : result.1.seqTrackers = server.seqTrackers)
      (hFaults : result.1.streamFaultTracker =
        (server.recordCrcError streamId).streamFaultTracker)
      (hReply : HandedOver result.2.ec)

theorem CheckEffect.handedOver {server : Server} {streamId : StreamId}
    {result : Server × Reply} (h : CheckEffect server streamId result) :
    HandedOver result.2.ec := by
  cases h with
  | quiet hQuiet => exact hQuiet.handedOver
  | recorded hRegs hTrackers hFaults hReply => exact hReply

theorem ec_errorReplyFromFrame (frame : Octets) (ec : ErrorCode)
    (code : WireErrorCode) :
    (errorReplyFromFrame frame ec code).ec = some ec := by
  unfold errorReplyFromFrame
  split <;> rfl

namespace Server

/-! ## The watchdog and the fault record -/

@[simp] theorem seqTrackers_rxWatchdogKick (server : Server)
    (streamId : StreamId) (nowMs : Nat) :
    (server.rxWatchdogKick streamId nowMs).seqTrackers =
      server.seqTrackers := by
  unfold rxWatchdogKick
  dsimp only
  split <;> rfl

@[simp] theorem regs_rxWatchdogKick (server : Server) (streamId : StreamId)
    (nowMs : Nat) :
    (server.rxWatchdogKick streamId nowMs).regs = server.regs := by
  unfold rxWatchdogKick
  dsimp only
  split <;> rfl

@[simp] theorem streamFaultTracker_rxWatchdogKick (server : Server)
    (streamId : StreamId) (nowMs : Nat) :
    (server.rxWatchdogKick streamId nowMs).streamFaultTracker =
      server.streamFaultTracker := by
  unfold rxWatchdogKick
  dsimp only
  split <;> rfl

@[simp] theorem fragReassemblers_rxWatchdogKick (server : Server)
    (streamId : StreamId) (nowMs : Nat) :
    (server.rxWatchdogKick streamId nowMs).fragReassemblers =
      server.fragReassemblers := by
  unfold rxWatchdogKick
  dsimp only
  split <;> rfl

@[simp] theorem streamIndex_rxWatchdogKick (server : Server)
    (kicked streamId : StreamId) (nowMs : Nat) :
    (server.rxWatchdogKick kicked nowMs).streamIndex streamId =
      server.streamIndex streamId := by
  simp [streamIndex]

@[simp] theorem seqTrackers_recordCrcError (server : Server)
    (streamId : StreamId) :
    (server.recordCrcError streamId).seqTrackers = server.seqTrackers := by
  unfold recordCrcError
  dsimp only
  split <;> rfl

@[simp] theorem regs_recordCrcError (server : Server) (streamId : StreamId) :
    (server.recordCrcError streamId).regs = server.regs := by
  unfold recordCrcError
  dsimp only
  split <;> rfl

theorem recordCrcError_congr {a b : Server} (hRegs : b.regs = a.regs)
    (hFaults : b.streamFaultTracker = a.streamFaultTracker)
    (streamId : StreamId) :
    (b.recordCrcError streamId).streamFaultTracker =
      (a.recordCrcError streamId).streamFaultTracker := by
  have hIndex : b.streamIndex streamId = a.streamIndex streamId := by
    rw [streamIndex, streamIndex, hRegs]
  unfold recordCrcError
  rw [hIndex, hRegs, hFaults]
  by_cases hZero : a.streamIndex streamId = 0
  · simp [hZero]
  · simp [hZero]

theorem regs_seqGateAdmits (server : Server) (streamId : StreamId)
    (sequenceNum : UInt8) :
    (server.seqGateAdmits streamId sequenceNum).1.regs = server.regs := by
  unfold seqGateAdmits
  dsimp only
  split <;> rfl

theorem streamFaultTracker_seqGateAdmits (server : Server)
    (streamId : StreamId) (sequenceNum : UInt8) :
    (server.seqGateAdmits streamId sequenceNum).1.streamFaultTracker =
      server.streamFaultTracker := by
  unfold seqGateAdmits
  dsimp only
  split <;> rfl

/-! ## Behind the sequence check -/

theorem quiet_decodeAndDispatch (server : Server) (streamId : StreamId)
    (frame : Octets) :
    Quiet server (server.decodeAndDispatch streamId frame) := by
  have hSame := (decodeAndDispatch_effect server streamId frame).sameStreams
  have hReports := reportsAdmission_decodeAndDispatch server streamId frame
  exact ⟨hSame.regs, hSame.seqTrackers, hSame.streamFaultTracker,
    hReports.ne_crcFailed, hReports.handedOver⟩

private theorem quiet_maybeFragmentResponse (server : Server)
    (streamIndex : UInt8) {reply : Reply} (hChecked : reply.ec ≠ crcFailed)
    (hHanded : HandedOver reply.ec) :
    Quiet server (server.maybeFragmentResponse streamIndex reply) := by
  have hRejected : Quiet server (server,
      setErrorResponse reply.response (.regmap .requestRejected)) := by
    refine ⟨rfl, rfl, rfl, ?_, .of_not (by simp)⟩
    simp [setErrorResponse, errorReply, crcFailed]
  unfold maybeFragmentResponse
  split
  · exact ⟨rfl, rfl, rfl, hChecked, hHanded⟩
  · dsimp only
    split
    · exact ⟨rfl, rfl, rfl, hChecked, hHanded⟩
    · split
      · exact hRejected
      · split
        · exact hRejected
        · split
          · exact hRejected
          · split
            · exact ⟨rfl, rfl, rfl, by simp [crcFailed], .of_dispatch rfl⟩
            · exact ⟨rfl, rfl, rfl, hRejected.checked, hRejected.handedOver⟩

private theorem quiet_dispatchReassembled (server : Server)
    (streamId : StreamId)
    (finalHeader : AcfMessageInfo) (messageTimestamp : Nat) (isGbb : Bool)
    (reassembled : Octets) :
    Quiet server (server.dispatchReassembled streamId finalHeader
      messageTimestamp isGbb reassembled) := by
  unfold dispatchReassembled
  dsimp only
  generalize (if isGbb = true then _ else _) = encoded
  have hDispatch := quiet_decodeAndDispatch server streamId encoded
  split
  · exact hDispatch.trans
      (quiet_maybeFragmentResponse _ _ hDispatch.checked hDispatch.handedOver)
  · exact hDispatch

private theorem quiet_fragmentRejected {a b : Server} (hRegs : b.regs = a.regs)
    (hTrackers : b.seqTrackers = a.seqTrackers)
    (hFaults : b.streamFaultTracker = a.streamFaultTracker) :
    Quiet a (b, fragmentRejected) := by
  refine ⟨hRegs, hTrackers, hFaults, ?_, .of_dispatch rfl⟩
  simp [fragmentRejected, crcFailed]

theorem quiet_feedIntermediate (server : Server) (slot : Nat)
    (fragment : Octets) :
    Quiet server (server.feedIntermediate slot fragment) := by
  unfold feedIntermediate
  dsimp only
  split
  · exact quiet_fragmentRejected rfl rfl rfl
  · have hKept : ∀ header : Octets,
        (if (server.fragReassemblers.get slot).collecting = true then server
          else { server with
            fragFirstHeaders := server.fragFirstHeaders.set slot header }).regs
          = server.regs ∧
        (if (server.fragReassemblers.get slot).collecting = true then server
          else { server with
            fragFirstHeaders :=
              server.fragFirstHeaders.set slot header }).seqTrackers
          = server.seqTrackers ∧
        (if (server.fragReassemblers.get slot).collecting = true then server
          else { server with
            fragFirstHeaders :=
              server.fragFirstHeaders.set slot header }).streamFaultTracker
          = server.streamFaultTracker := by
      intro header
      split <;> exact ⟨rfl, rfl, rfl⟩
    obtain ⟨hRegs, hTrackers, hFaults⟩ := hKept
      (fragment.take (headerLen (decodeAcfMessageInfo fragment).acfMsgType))
    split
    · refine ⟨hRegs, hTrackers, hFaults, ?_, .of_dispatch rfl⟩
      simp [crcFailed]
    · exact quiet_fragmentRejected hRegs hTrackers hFaults

theorem checkEffect_feedFinal (server : Server) (streamId : StreamId)
    (slot : Nat) (fragment : Octets) :
    CheckEffect server streamId (server.feedFinal streamId slot fragment) := by
  unfold feedFinal
  dsimp only
  split
  · exact .quiet (quiet_fragmentRejected rfl rfl rfl)
  · split
    · next hShort =>
        refine .quiet ⟨rfl, rfl, rfl, ?_, ?_⟩
        · simp [hShort, crcFailed]
        · rw [hShort]
          exact .of_not (by simp)
    · split
      · exact .quiet (quiet_fragmentRejected rfl rfl rfl)
      · split
        · split
          · next reasm _ _ =>
              refine .recorded ?_ ?_ ?_ ?_
              · rw [regs_recordCrcError]
                rfl
              · rw [seqTrackers_recordCrcError]
                rfl
              · exact recordCrcError_congr (a := server)
                  (b := server.setReassembler slot reasm.reset) rfl rfl streamId
              · exact .of_not (by simp)
          · generalize (if decide ((decodeAcfMessageInfo fragment).acfMsgType =
              acfMsgTypeGbb) = true then acfGbbMaxPayload
              else acfAbbMaxPayload) = bound
            split
            · refine .quiet ⟨rfl, rfl, rfl, ?_, .of_not (by simp)⟩
              simp [setErrorResponse, errorReply, crcFailed]
            · exact .quiet ((quiet_dispatchReassembled _ _ _ _ _ _).of_server
                rfl rfl rfl)
        · exact .quiet (quiet_fragmentRejected rfl rfl rfl)

private theorem unwrapFramed_ec {streamId : StreamId} {frame : Octets}
    {ec : ErrorCode} (h : (unwrapFramed streamId frame).ec = some ec) :
    ec = .e2e .shortFrame ∨ ec = .e2e .crcError := by
  unfold unwrapFramed at h
  split at h
  · cases h
    exact Or.inl rfl
  · dsimp only at h
    split at h
    · cases h
      exact Or.inl rfl
    · dsimp only at h
      split at h
      · cases h
      · cases h
        exact Or.inr rfl

private theorem checkEffect_unwrapped (server : Server) (streamId : StreamId)
    (peek : AcfMessageInfo) (frame : Octets) :
    CheckEffect server streamId
      (match (unwrapFramed streamId frame).ec with
        | none => server.decodeAndDispatch streamId
            (unwrapFramed streamId frame).acfFrame
        | some ec =>
            (server.recordCrcError streamId,
              if ec = .e2e .crcError then errorReply peek ec .pociFailure
              else ⟨some ec, {}, []⟩)) := by
  split
  · exact .quiet (quiet_decodeAndDispatch _ _ _)
  · next ec hUnwrap =>
      refine .recorded (regs_recordCrcError _ _)
        (seqTrackers_recordCrcError _ _) rfl ?_
      rcases unwrapFramed_ec hUnwrap with rfl | rfl
      · exact .of_not (by simp)
      · exact .of_not (by simp)

theorem quiet_shortFrame (server : Server) :
    Quiet server (server, ⟨some (.regmap .invalidParameter), {}, []⟩) := by
  refine ⟨rfl, rfl, rfl, ?_, .of_not (by simp)⟩
  simp [crcFailed]

theorem dispatchE2eUnfaulted_cases (server : Server) (streamId : StreamId)
    (sequenceNum : UInt8) (frame : Octets) (applySeqGate : Bool) :
    let result := server.dispatchE2eUnfaulted streamId sequenceNum frame
      applySeqGate
    let gate :=
      if applySeqGate then server.seqGateAdmits streamId sequenceNum
      else (server, true)
    ((frame.length < acfCommonHeaderLen ∨
        server.regs.reqCrcEnabled (decodeAcfMessageInfo frame).byteBusId =
          false) ∧ Quiet server result) ∨
      (acfCommonHeaderLen ≤ frame.length ∧
        server.regs.reqCrcEnabled (decodeAcfMessageInfo frame).byteBusId =
          true ∧
        ((gate.2 = false ∧ result = (gate.1, ⟨seqFailed, {}, []⟩)) ∨
          (gate.2 = true ∧ CheckEffect gate.1 streamId result))) := by
  unfold dispatchE2eUnfaulted
  dsimp only
  by_cases hLen : frame.length < acfCommonHeaderLen
  · rw [if_pos hLen]
    exact Or.inl ⟨Or.inl hLen, quiet_shortFrame server⟩
  · rw [if_neg hLen]
    cases hCrc : server.regs.reqCrcEnabled
        (decodeAcfMessageInfo frame).byteBusId with
    | false => exact Or.inl ⟨Or.inr rfl, quiet_decodeAndDispatch _ _ _⟩
    | true =>
        refine Or.inr ⟨Nat.not_lt.mp hLen, rfl, ?_⟩
        simp only [Bool.not_true, Bool.false_eq_true, if_false]
        generalize (if applySeqGate = true then
          server.seqGateAdmits streamId sequenceNum else (server, true)) = gate
        obtain ⟨gated, admits⟩ := gate
        cases admits with
        | false => exact Or.inl ⟨rfl, rfl⟩
        | true =>
            refine Or.inr ⟨rfl, ?_⟩
            exact checkEffect_unwrapped gated streamId
              (decodeAcfMessageInfo frame) frame

/-! ## A member of a checked frame -/

private theorem handedOver_dispatchE2eCore (server : Server)
    (streamId : StreamId) (sequenceNum : UInt8) (frame : Octets) :
    HandedOver
      (server.dispatchE2eCore streamId sequenceNum frame false).2.ec := by
  unfold dispatchE2eCore
  dsimp only
  split
  · rw [ec_errorReplyFromFrame]
    exact .of_dispatch rfl
  · rcases dispatchE2eUnfaulted_cases (server.rxWatchdogKick streamId 0)
      streamId sequenceNum frame false with
      ⟨-, hQuiet⟩ | ⟨-, -, ⟨hGate, -⟩ | ⟨-, hCheck⟩⟩
    · exact hQuiet.handedOver
    · cases hGate
    · exact hCheck.handedOver

theorem handedOver_dispatchE2eFragmentCore (server : Server)
    (streamId : StreamId) (sequenceNum : UInt8) (fragment : Octets) :
    HandedOver (server.dispatchE2eFragmentCore streamId sequenceNum fragment
      false).2.ec := by
  unfold dispatchE2eFragmentCore
  dsimp only
  split
  · rw [ec_errorReplyFromFrame]
    exact .of_dispatch rfl
  · unfold dispatchFragmentUnfaulted
    split
    · exact .of_not (by simp)
    · dsimp only
      split
      · exact (quiet_decodeAndDispatch _ _ _).handedOver
      · split
        · exact handedOver_dispatchE2eCore _ _ _ _
        · split
          · exact (quiet_feedIntermediate _ _ _).handedOver
          · split
            · exact handedOver_dispatchE2eCore _ _ _ _
            · exact (checkEffect_feedFinal _ _ _ _).handedOver

end Server

end CppRcp.Mock
