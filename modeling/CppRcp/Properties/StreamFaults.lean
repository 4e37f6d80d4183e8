import CppRcp.Mock.FrameEffects

/-!
# The fault latch of a stream

A failed checksum on a stream that enforces its protection latches a fault, as
long as the tracker knows the stream or has a slot left for it.  From then on
the stream is refused, whatever else happens, until its fault is reset.
-/

namespace CppRcp.E2e.StreamFaultTracker

open CppRcp.E2e

theorem find_update (tracker : StreamFaultTracker) (changed streamId : StreamId)
    (f : Bool → Bool) :
    (tracker.update changed f).find streamId =
      (tracker.find streamId).map fun slot =>
        if streamId = changed then { slot with latched := f slot.latched }
        else slot := by
  unfold find update
  dsimp only
  induction tracker.slots with
  | nil => rfl
  | cons slot slots ih =>
      by_cases hSlot : slot.streamId = streamId
      · subst hSlot
        by_cases hChanged : slot.streamId = changed
        · simp [hChanged]
        · simp [hChanged]
      · by_cases hChanged : slot.streamId = changed
        · subst hChanged
          simpa [hSlot] using ih
        · simpa [hSlot, hChanged] using ih

private theorem isFaulted_update (tracker : StreamFaultTracker)
    (changed streamId : StreamId) (f : Bool → Bool) :
    (tracker.update changed f).isFaulted streamId =
      match tracker.find streamId with
      | none => false
      | some slot =>
          if streamId = changed then f slot.latched else slot.latched := by
  unfold isFaulted
  rw [find_update]
  cases tracker.find streamId with
  | none => rfl
  | some slot =>
      by_cases h : streamId = changed
      · simp [h]
      · simp [h]

private theorem isFaulted_iff {tracker : StreamFaultTracker}
    {streamId : StreamId} :
    tracker.isFaulted streamId = true ↔
      ∃ slot, tracker.find streamId = some slot ∧ slot.latched = true := by
  unfold isFaulted
  cases tracker.find streamId with
  | none => simp
  | some slot => simp

private theorem isFaulted_onCrcError {tracker : StreamFaultTracker}
    {streamId : StreamId} (h : tracker.isFaulted streamId = true)
    (failed : StreamId) (rxEnforceE2e : Bool) :
    (tracker.onCrcError failed rxEnforceE2e).1.isFaulted streamId = true := by
  obtain ⟨slot, hFind, hLatched⟩ := isFaulted_iff.mp h
  unfold onCrcError
  split
  · rw [isFaulted_update, hFind]
    by_cases hFailed : streamId = failed
    · simp [hFailed, recordCrcFailure, hLatched]
    · simp [hFailed, hLatched]
  · split
    · apply isFaulted_iff.mpr
      refine ⟨slot, ?_, hLatched⟩
      unfold find at hFind ⊢
      rw [List.find?_append, hFind]
      rfl
    · exact h

/-- Whether a failed check of a stream can be recorded. -/
def HasRoomFor (tracker : StreamFaultTracker) (streamId : StreamId) : Prop :=
  tracker.find streamId ≠ none ∨ tracker.slots.length < maxStreams

private theorem isFaulted_onCrcError_self {tracker : StreamFaultTracker}
    {streamId : StreamId} (h : tracker.HasRoomFor streamId) :
    (tracker.onCrcError streamId true).1.isFaulted streamId = true := by
  unfold onCrcError
  cases hFind : tracker.find streamId with
  | some slot =>
      dsimp only
      rw [isFaulted_update, hFind]
      simp [recordCrcFailure]
  | none =>
      have hRoom := h.resolve_left (not_not.mpr hFind)
      dsimp only
      rw [dif_pos hRoom]
      apply isFaulted_iff.mpr
      refine ⟨⟨streamId, recordCrcFailure false true⟩, ?_, rfl⟩
      unfold find at hFind ⊢
      rw [List.find?_append, hFind]
      simp

private theorem isFaulted_reset_ne {tracker : StreamFaultTracker}
    {streamId other : StreamId} (h : streamId ≠ other) :
    (tracker.reset other).isFaulted streamId = tracker.isFaulted streamId := by
  unfold reset
  rw [isFaulted_update, isFaulted]
  cases tracker.find streamId with
  | none => rfl
  | some slot => simp [h]

end CppRcp.E2e.StreamFaultTracker

namespace CppRcp.Mock

open CppRcp.Foundation CppRcp.Acf CppRcp.E2e CppRcp.Regmap CppRcp.Server

def IsFaulted (server : Server) (streamId : StreamId) : Prop :=
  server.streamFaultTracker.isFaulted streamId = true

/-- The result of a protected dispatch: it leaves the registers alone, and the
faults too unless it records a failure of its stream. -/
structure FaultEffect (server : Server) (streamId : StreamId)
    (result : Server × Reply) : Prop where
  regs : result.1.regs = server.regs
  faults :
    (result.1.streamFaultTracker = server.streamFaultTracker ∧
        result.2.ec ≠ crcFailed) ∨
      result.1.streamFaultTracker =
        (server.recordCrcError streamId).streamFaultTracker

private theorem Quiet.faultEffect {server : Server} {result : Server × Reply}
    (h : Quiet server result) (streamId : StreamId) :
    FaultEffect server streamId result :=
  ⟨h.regs, Or.inl ⟨h.faults, h.checked⟩⟩

private theorem CheckEffect.faultEffect {server : Server} {streamId : StreamId}
    {result : Server × Reply} (h : CheckEffect server streamId result) :
    FaultEffect server streamId result := by
  cases h with
  | quiet hQuiet => exact hQuiet.faultEffect streamId
  | recorded hRegs hTrackers hFaults hReply => exact ⟨hRegs, Or.inr hFaults⟩

theorem FaultEffect.of_server {a b : Server} {streamId : StreamId}
    {result : Server × Reply} (h : FaultEffect b streamId result)
    (hRegs : b.regs = a.regs)
    (hFaults : b.streamFaultTracker = a.streamFaultTracker) :
    FaultEffect a streamId result := by
  refine ⟨h.regs.trans hRegs, ?_⟩
  rcases h.faults with ⟨hSame, hReply⟩ | hRecorded
  · exact Or.inl ⟨hSame.trans hFaults, hReply⟩
  · exact Or.inr (hRecorded.trans
      (Server.recordCrcError_congr hRegs hFaults streamId))

namespace Server

private theorem streamFaultTracker_recordCrcError (server : Server)
    (streamId : StreamId) :
    ∃ rxEnforceE2e, (server.recordCrcError streamId).streamFaultTracker =
      (server.streamFaultTracker.onCrcError streamId rxEnforceE2e).1 := by
  unfold recordCrcError
  dsimp only
  split
  · exact ⟨_, rfl⟩
  · exact ⟨_, rfl⟩

private theorem faultEffect_refused (server : Server) (streamId : StreamId)
    (frame : Octets) :
    FaultEffect server streamId (server, errorReplyFromFrame frame
      (.dispatch .streamFaulted) .pociFailure) := by
  refine ⟨rfl, Or.inl ⟨rfl, ?_⟩⟩
  unfold errorReplyFromFrame
  split <;> simp [errorReply, crcFailed]

private theorem faultEffect_dispatchE2eUnfaulted (server : Server)
    (streamId : StreamId) (sequenceNum : UInt8) (frame : Octets)
    (applySeqGate : Bool) :
    FaultEffect server streamId
      (server.dispatchE2eUnfaulted streamId sequenceNum frame
        applySeqGate) := by
  have hGate : (if applySeqGate = true then
        server.seqGateAdmits streamId sequenceNum else (server, true)).1.regs =
        server.regs ∧
      (if applySeqGate = true then server.seqGateAdmits streamId sequenceNum
        else (server, true)).1.streamFaultTracker =
        server.streamFaultTracker := by
    split
    · exact ⟨regs_seqGateAdmits _ _ _, streamFaultTracker_seqGateAdmits _ _ _⟩
    · exact ⟨rfl, rfl⟩
  rcases dispatchE2eUnfaulted_cases server streamId sequenceNum frame
    applySeqGate with ⟨-, hQuiet⟩ | ⟨-, -, ⟨-, hResult⟩ | ⟨-, hCheck⟩⟩
  · exact hQuiet.faultEffect streamId
  · rw [hResult]
    exact ⟨hGate.1, Or.inl ⟨hGate.2, by simp [seqFailed, crcFailed]⟩⟩
  · exact hCheck.faultEffect.of_server hGate.1 hGate.2

private theorem faultEffect_dispatchE2eCore (server : Server)
    (streamId : StreamId)
    (sequenceNum : UInt8) (frame : Octets) (applySeqGate : Bool) :
    FaultEffect server streamId
      (server.dispatchE2eCore streamId sequenceNum frame applySeqGate) := by
  unfold dispatchE2eCore
  dsimp only
  have hKicked : ∀ {result}, FaultEffect (server.rxWatchdogKick streamId 0)
      streamId result → FaultEffect server streamId result :=
    fun h => h.of_server (by simp) (by simp)
  split
  · exact hKicked (faultEffect_refused _ _ _)
  · exact hKicked (faultEffect_dispatchE2eUnfaulted _ _ _ _ _)

theorem faultEffect_dispatchE2eFragmentCore (server : Server)
    (streamId : StreamId) (sequenceNum : UInt8) (fragment : Octets)
    (applySeqGate : Bool) :
    FaultEffect server streamId
      (server.dispatchE2eFragmentCore streamId sequenceNum fragment
        applySeqGate) := by
  unfold dispatchE2eFragmentCore
  dsimp only
  have hKicked : ∀ {result}, FaultEffect (server.rxWatchdogKick streamId 0)
      streamId result → FaultEffect server streamId result :=
    fun h => h.of_server (by simp) (by simp)
  split
  · exact hKicked (faultEffect_refused _ _ _)
  · apply hKicked
    unfold dispatchFragmentUnfaulted
    split
    · exact (quiet_shortFrame _).faultEffect streamId
    · dsimp only
      split
      · exact (quiet_decodeAndDispatch _ _ _).faultEffect streamId
      · split
        · exact faultEffect_dispatchE2eCore _ _ _ _ _
        · split
          · exact (quiet_feedIntermediate _ _ _).faultEffect streamId
          · split
            · exact faultEffect_dispatchE2eCore _ _ _ _ _
            · exact (checkEffect_feedFinal _ _ _ _).faultEffect

end Server

/-! ## No operation but a reset clears a fault -/

theorem FaultEffect.isFaulted {server : Server} {streamId : StreamId}
    {result : Server × Reply} (h : FaultEffect server streamId result)
    {faulted : StreamId} (hFaulted : IsFaulted server faulted) :
    IsFaulted result.1 faulted := by
  unfold IsFaulted at hFaulted ⊢
  rcases h.faults with ⟨hSame, -⟩ | hRecorded
  · rwa [hSame]
  · obtain ⟨rxEnforceE2e, hTracker⟩ :=
      Server.streamFaultTracker_recordCrcError server streamId
    rw [hRecorded, hTracker]
    exact StreamFaultTracker.isFaulted_onCrcError hFaulted streamId
      rxEnforceE2e

private theorem isFaulted_of_eq {a b : Server} {streamId : StreamId}
    (h : b.streamFaultTracker = a.streamFaultTracker)
    (hFaulted : IsFaulted a streamId) : IsFaulted b streamId := by
  unfold IsFaulted at hFaulted ⊢
  rwa [h]

private theorem isFaulted_decodeAndDispatch {server : Server}
    {faulted : StreamId}
    (h : IsFaulted server faulted) (streamId : StreamId) (frame : Octets) :
    IsFaulted (server.decodeAndDispatch streamId frame).1 faulted :=
  isFaulted_of_eq (Server.quiet_decodeAndDispatch _ _ _).faults h

private theorem isFaulted_dispatchFrameE2e {server : Server}
    {faulted : StreamId}
    (h : IsFaulted server faulted) (streamId : StreamId) (sequenceNum : UInt8)
    (frame : Octets) :
    IsFaulted (server.dispatchFrameE2e streamId sequenceNum frame).1
      faulted := by
  unfold Server.dispatchFrameE2e
  dsimp only
  split
  · exact h
  · have hGate := Server.streamFaultTracker_seqGateAdmits server streamId
      sequenceNum
    split
    · next hAdmits =>
        rw [hAdmits] at hGate
        exact isFaulted_of_eq hGate h
    · next hAdmits =>
        rw [hAdmits] at hGate
        exact dispatchFrameImpl_invariant
          (P := fun server => IsFaulted server faulted)
          (fun _ member hServer =>
            (Server.faultEffect_dispatchE2eFragmentCore _ _ _ member
              _).isFaulted hServer)
          (fun _ _ _ hServer => hServer) frame (isFaulted_of_eq hGate h)

private theorem isFaulted_step {server : Server} {faulted : StreamId}
    (h : IsFaulted server faulted) {op : Op}
    (hReset : op ≠ .resetStreamFault faulted) :
    IsFaulted (server.step op).1 faulted := by
  cases op with
  | dispatch streamId req payload =>
      exact isFaulted_of_eq
        (Server.sameStreams_dispatch server streamId req
          payload).streamFaultTracker h
  | dispatchE2e streamId sequenceNum frame =>
      exact (Server.faultEffect_dispatchE2eCore _ _ _ _ _).isFaulted h
  | dispatchE2eFragment streamId fragment =>
      exact (Server.faultEffect_dispatchE2eFragmentCore _ _ _ _ _).isFaulted h
  | dispatchFrame streamId frame =>
      exact dispatchFrameImpl_invariant
        (P := fun server => IsFaulted server faulted)
        (fun _ member hServer =>
          isFaulted_decodeAndDispatch hServer streamId member)
        (fun _ _ _ hServer => hServer) frame h
  | dispatchFrameE2e streamId sequenceNum frame =>
      exact isFaulted_dispatchFrameE2e h streamId sequenceNum frame
  | tick bus ctx =>
      exact isFaulted_of_eq (Server.streamFaultTracker_tick _ _ _) h
  | endpoint bus op => exact h
  | notifyTrigger sourceEp signalNr =>
      exact isFaulted_of_eq (Server.streamFaultTracker_notifyTrigger _ _ _) h
  | notifyGptpLockState locked sourceEp =>
      exact isFaulted_of_eq
        (Server.streamFaultTracker_notifyGptpLockState _ _ _) h
  | checkWatchdogOverflow streamId nowMs =>
      exact isFaulted_of_eq
        (Server.streamFaultTracker_checkWatchdogOverflow _ _ _) h
  | lifecycle state => exact h
  | registers regs => exact h
  | peripherals peripherals => exact h
  | resetStreamFault streamId =>
      have hNe : faulted ≠ streamId := by
        rintro rfl
        exact hReset rfl
      exact (StreamFaultTracker.isFaulted_reset_ne hNe).trans h
  | resetReassembler streamId =>
      refine isFaulted_of_eq ?_ h
      simp only [Server.step]
      split <;> rfl
  | respQueue streamId queue =>
      refine isFaulted_of_eq ?_ h
      simp only [Server.step]
      split <;> rfl

/-! ## A failed check latches the fault -/

/-- The stream is configured, and to enforce its protection. -/
def EnforcesE2e (server : Server) (streamId : StreamId) : Prop :=
  server.streamIndex streamId ≠ 0 ∧
    (server.regs.requestStream
      (server.streamIndex streamId)).rxEnforceE2e = true

def CanLatch (server : Server) (streamId : StreamId) : Prop :=
  EnforcesE2e server streamId ∧
    server.streamFaultTracker.HasRoomFor streamId

/-- A protected operation on the stream that reports a failed checksum. -/
def FailsCheck (server : Server) (streamId : StreamId) : Op → Prop
  | .dispatchE2e failed sequenceNum frame =>
      failed = streamId ∧
        (server.dispatchE2e failed sequenceNum frame).2.ec = crcFailed
  | .dispatchE2eFragment failed fragment =>
      failed = streamId ∧
        (server.dispatchE2eFragment failed fragment).2.ec = crcFailed
  | .dispatchFrameE2e failed sequenceNum frame =>
      failed = streamId ∧
        ∃ result ∈ (server.dispatchFrameE2e failed sequenceNum frame).2,
          result.result = crcFailed
  | _ => False

private theorem isFaulted_recordCrcError {server : Server} {streamId : StreamId}
    (h : CanLatch server streamId) :
    IsFaulted (server.recordCrcError streamId) streamId := by
  obtain ⟨⟨hIndex, hEnforced⟩, hRoom⟩ := h
  unfold IsFaulted Server.recordCrcError
  simp only [hIndex, if_false, hEnforced]
  exact StreamFaultTracker.isFaulted_onCrcError_self hRoom

private theorem enforcesE2e_congr {a b : Server} (hRegs : b.regs = a.regs)
    {streamId : StreamId} (h : EnforcesE2e a streamId) :
    EnforcesE2e b streamId := by
  unfold EnforcesE2e Server.streamIndex at h ⊢
  rwa [hRegs]

private theorem hasRoomFor_of_isFaulted {server : Server} {streamId : StreamId}
    (h : IsFaulted server streamId) :
    server.streamFaultTracker.HasRoomFor streamId := by
  obtain ⟨slot, hFind, -⟩ := StreamFaultTracker.isFaulted_iff.mp h
  exact Or.inl (by simp [hFind])

private theorem FaultEffect.canLatch {server : Server} {streamId : StreamId}
    {result : Server × Reply} (h : FaultEffect server streamId result)
    (hLatch : CanLatch server streamId) :
    CanLatch result.1 streamId ∧
      (result.2.ec = crcFailed → IsFaulted result.1 streamId) := by
  have hEnforced := enforcesE2e_congr h.regs hLatch.1
  rcases h.faults with ⟨hSame, hReply⟩ | hRecorded
  · refine ⟨⟨hEnforced, ?_⟩, fun hFailed => absurd hFailed hReply⟩
    rw [hSame]
    exact hLatch.2
  · have hFaulted : IsFaulted result.1 streamId :=
      isFaulted_of_eq hRecorded (isFaulted_recordCrcError hLatch)
    exact ⟨⟨hEnforced, hasRoomFor_of_isFaulted hFaulted⟩, fun _ => hFaulted⟩

private theorem tagStored_invariant {P : Server → Prop}
    (hTag : ∀ server bus ep, P server → P (server.setAdmission bus ep))
    {before after : Server} (h : P after) (bus : Option Bus)
    (group position : Nat) : P (tagStored before after bus group position) := by
  unfold tagStored
  split
  · exact h
  · split
    · exact hTag _ _ _ h
    · exact h

private theorem isFaulted_run_stepMember {streamId : StreamId}
    {sequenceNum : UInt8} (inputs : List (Octets × Nat)) (state : FrameLoop)
    (h : CanLatch state.server streamId) :
    let loop := run (stepMember fun server member =>
      server.dispatchE2eFragmentCore streamId sequenceNum member false) state
      inputs
    (∃ result ∈ loop.2, result.result = crcFailed) →
      IsFaulted loop.1.server streamId := by
  intro loop
  induction inputs generalizing state with
  | nil => simp [loop]
  | cons input inputs ih =>
      rintro ⟨result, hMem, hFailed⟩
      have hEffect := memberEffect_stepMember (fun server member =>
        server.dispatchE2eFragmentCore streamId sequenceNum member false) state
        input
      simp only [loop, run_cons] at hMem ⊢
      cases hEffect with
      | refused hServer hResult hCode =>
          apply ih _ (by rwa [hServer])
          rcases List.mem_cons.mp hMem with rfl | hRest
          · rw [hResult] at hFailed
            cases hFailed
          · exact ⟨result, hRest, hFailed⟩
      | dispatched bus group position hServer hResult =>
          obtain ⟨hNext, hLatched⟩ :=
            (Server.faultEffect_dispatchE2eFragmentCore state.server streamId
              sequenceNum input.1 false).canLatch h
          rcases List.mem_cons.mp hMem with rfl | hRest
          · rw [hResult] at hFailed
            refine invariant_run
              (I := fun state : FrameLoop => IsFaulted state.server streamId)
              ?_ inputs ?_
            · intro state input hState
              cases memberEffect_stepMember (fun server member =>
                server.dispatchE2eFragmentCore streamId sequenceNum member
                  false) state input with
              | refused hServer hResult hCode => rwa [hServer]
              | dispatched bus group position hServer hResult =>
                  rw [hServer]
                  exact tagStored_invariant
                    (P := fun server => IsFaulted server streamId)
                    (fun _ _ _ hServer => hServer)
                    ((Server.faultEffect_dispatchE2eFragmentCore _ _ _ _
                      _).isFaulted hState) _ _ _
            · rw [hServer]
              exact tagStored_invariant
                (P := fun server => IsFaulted server streamId)
                (fun _ _ _ hServer => hServer) (hLatched hFailed) _ _ _
          · apply ih
            · rw [hServer]
              exact tagStored_invariant
                (P := fun server => CanLatch server streamId)
                (fun _ _ _ hServer => hServer) hNext _ _ _
            · exact ⟨result, hRest, hFailed⟩

private theorem isFaulted_of_failsCheck {server : Server} {streamId : StreamId}
    {op : Op} (hLatch : CanLatch server streamId)
    (hFails : FailsCheck server streamId op) :
    IsFaulted (server.step op).1 streamId := by
  cases op with
  | dispatchE2e failed sequenceNum frame =>
      obtain ⟨rfl, hFailed⟩ := hFails
      exact ((Server.faultEffect_dispatchE2eCore _ _ _ _ _).canLatch
        hLatch).2 hFailed
  | dispatchE2eFragment failed fragment =>
      obtain ⟨rfl, hFailed⟩ := hFails
      exact ((Server.faultEffect_dispatchE2eFragmentCore _ _ _ _ _).canLatch
        hLatch).2 hFailed
  | dispatchFrameE2e failed sequenceNum frame =>
      obtain ⟨rfl, result, hMem, hFailed⟩ := hFails
      change IsFaulted (server.dispatchFrameE2e failed sequenceNum frame).1 _
      unfold Server.dispatchFrameE2e at hMem ⊢
      dsimp only at hMem ⊢
      have hRegs := Server.regs_seqGateAdmits server failed sequenceNum
      have hFaults := Server.streamFaultTracker_seqGateAdmits server failed
        sequenceNum
      split at hMem
      · cases hMem
      · next hCount =>
          rw [if_neg hCount]
          cases hGate : server.seqGateAdmits failed sequenceNum with
          | mk gated admits =>
              rw [hGate] at hMem hRegs hFaults
              cases admits with
              | false =>
                  rw [List.eq_of_mem_replicate hMem] at hFailed
                  cases hFailed
              | true =>
                  refine isFaulted_run_stepMember _ ⟨gated, false, false, 0, 0⟩
                    ⟨?_, ?_⟩ ⟨result, hMem, hFailed⟩
                  · exact enforcesE2e_congr hRegs hLatch.1
                  · rw [hFaults]
                    exact hLatch.2
  | _ => exact absurd hFails id

/-! ## A faulted stream is refused -/

structure SameWork (a b : Server) : Prop where
  peripherals : b.peripherals = a.peripherals
  admissions : b.admissions = a.admissions
  fragReassemblers : b.fragReassemblers = a.fragReassemblers
  respQueues : b.respQueues = a.respQueues

theorem SameWork.refl (server : Server) : SameWork server server :=
  ⟨rfl, rfl, rfl, rfl⟩

theorem SameWork.trans {a b c : Server} (hab : SameWork a b)
    (hbc : SameWork b c) : SameWork a c :=
  ⟨hbc.1.trans hab.1, hbc.2.trans hab.2, hbc.3.trans hab.3,
    hbc.4.trans hab.4⟩

/-- What a member of a frame on a refused stream reports: the fault, or that
it was stopped before it was handed over. -/
def RefusedMember (result : FrameMemberResult) : Prop :=
  ∃ code, result.result = some (.dispatch code) ∧
    (code = .streamFaulted ∨ isRefusal code = true)

/-- Every protected dispatch on the stream reports the fault and changes no
endpoint, store or queue. -/
structure RefusesStream (server : Server) (streamId : StreamId) : Prop where
  whole : ∀ sequenceNum frame,
    (server.dispatchE2e streamId sequenceNum frame).2.ec =
        some (.dispatch .streamFaulted) ∧
      SameWork server (server.dispatchE2e streamId sequenceNum frame).1
  fragment : ∀ fragment,
    (server.dispatchE2eFragment streamId fragment).2.ec =
        some (.dispatch .streamFaulted) ∧
      SameWork server (server.dispatchE2eFragment streamId fragment).1
  frame : ∀ sequenceNum frame,
    (∀ result ∈ (server.dispatchFrameE2e streamId sequenceNum frame).2,
        RefusedMember result) ∧
      SameWork server (server.dispatchFrameE2e streamId sequenceNum frame).1

private theorem sameWork_rxWatchdogKick (server : Server) (streamId : StreamId)
    (nowMs : Nat) : SameWork server (server.rxWatchdogKick streamId nowMs) := by
  unfold Server.rxWatchdogKick
  dsimp only
  split <;> exact ⟨rfl, rfl, rfl, rfl⟩

private theorem sameWork_seqGateAdmits (server : Server) (streamId : StreamId)
    (sequenceNum : UInt8) :
    SameWork server (server.seqGateAdmits streamId sequenceNum).1 := by
  unfold Server.seqGateAdmits
  dsimp only
  split <;> exact ⟨rfl, rfl, rfl, rfl⟩

private theorem dispatchE2eCore_faulted {server : Server} {streamId : StreamId}
    (h : IsFaulted server streamId) (sequenceNum : UInt8) (frame : Octets)
    (applySeqGate : Bool) :
    (server.dispatchE2eCore streamId sequenceNum frame applySeqGate).2.ec =
        some (.dispatch .streamFaulted) ∧
      SameWork server
        (server.dispatchE2eCore streamId sequenceNum frame applySeqGate).1 := by
  unfold IsFaulted at h
  unfold Server.dispatchE2eCore
  simp only [Server.streamFaultTracker_rxWatchdogKick, h, if_true]
  exact ⟨ec_errorReplyFromFrame _ _ _, sameWork_rxWatchdogKick _ _ _⟩

private theorem dispatchE2eFragmentCore_faulted {server : Server}
    {streamId : StreamId} (h : IsFaulted server streamId)
    (sequenceNum : UInt8) (fragment : Octets) (applySeqGate : Bool) :
    (server.dispatchE2eFragmentCore streamId sequenceNum fragment
        applySeqGate).2.ec = some (.dispatch .streamFaulted) ∧
      SameWork server (server.dispatchE2eFragmentCore streamId sequenceNum
        fragment applySeqGate).1 := by
  unfold IsFaulted at h
  unfold Server.dispatchE2eFragmentCore
  simp only [Server.streamFaultTracker_rxWatchdogKick, h, if_true]
  exact ⟨ec_errorReplyFromFrame _ _ _, sameWork_rxWatchdogKick _ _ _⟩

private theorem tagStored_of_sameWork {before after : Server}
    (h : SameWork before after) (bus : Option Bus) (group position : Nat) :
    tagStored before after bus group position = after := by
  unfold tagStored
  split
  · rfl
  · next bus =>
      have hSame : after.admission bus = before.admission bus := by
        simp only [Server.admission, h.admissions]
      rw [hSame, if_neg (Nat.lt_irrefl _)]

private theorem stepMember_faulted {streamId : StreamId} (sequenceNum : UInt8)
    {state : FrameLoop} (h : IsFaulted state.server streamId)
    (input : Octets × Nat) :
    let out := stepMember (fun server member =>
      server.dispatchE2eFragmentCore streamId sequenceNum member false) state
      input
    (IsFaulted out.1.server streamId ∧
        SameWork state.server out.1.server) ∧
      RefusedMember out.2 := by
  intro out
  have hEffect := memberEffect_stepMember (fun server member =>
    server.dispatchE2eFragmentCore streamId sequenceNum member false) state
    input
  cases hEffect with
  | refused hServer hResult hCode =>
      rw [hServer]
      exact ⟨⟨h, .refl _⟩, _, hResult, Or.inr hCode⟩
  | dispatched bus group position hServer hResult =>
      obtain ⟨hCode, hWork⟩ :=
        dispatchE2eFragmentCore_faulted h sequenceNum input.1 false
      have hFaulted := (Server.faultEffect_dispatchE2eFragmentCore state.server
        streamId sequenceNum input.1 false).isFaulted h
      rw [tagStored_of_sameWork hWork] at hServer
      rw [hServer]
      exact ⟨⟨hFaulted, hWork⟩, _, hResult.trans hCode, Or.inl rfl⟩

private theorem dispatchFrameE2e_faulted {server : Server} {streamId : StreamId}
    (h : IsFaulted server streamId) (sequenceNum : UInt8) (frame : Octets) :
    (∀ result ∈ (server.dispatchFrameE2e streamId sequenceNum frame).2,
        RefusedMember result) ∧
      SameWork server
        (server.dispatchFrameE2e streamId sequenceNum frame).1 := by
  have hGateWork := sameWork_seqGateAdmits server streamId sequenceNum
  have hGateFaulted := isFaulted_of_eq
    (Server.streamFaultTracker_seqGateAdmits server streamId sequenceNum) h
  unfold Server.dispatchFrameE2e
  dsimp only
  split
  · exact ⟨by simp, .refl server⟩
  · cases hGate : server.seqGateAdmits streamId sequenceNum with
    | mk gated admits =>
        rw [hGate] at hGateWork hGateFaulted
        cases admits with
        | false =>
            refine ⟨?_, hGateWork⟩
            intro result hMem
            rw [List.eq_of_mem_replicate hMem]
            exact ⟨.seqError, rfl, Or.inr rfl⟩
        | true =>
            constructor
            · refine forall_mem_run
                (I := fun state : FrameLoop =>
                  IsFaulted state.server streamId) ?_ _ hGateFaulted
              intro state input hState
              obtain ⟨⟨hNext, -⟩, hResult⟩ :=
                stepMember_faulted sequenceNum hState input
              exact ⟨hNext, hResult⟩
            · refine (@invariant_run _ _ _ (stepMember fun server member =>
                server.dispatchE2eFragmentCore streamId sequenceNum member
                  false)
                (fun state : FrameLoop =>
                  IsFaulted state.server streamId ∧
                    SameWork server state.server) ?_
                ⟨gated, false, false, 0, 0⟩ _ ⟨hGateFaulted, hGateWork⟩).2
              rintro state input ⟨hState, hWork⟩
              obtain ⟨⟨hNext, hStepWork⟩, -⟩ :=
                stepMember_faulted sequenceNum hState input
              exact ⟨hNext, hWork.trans hStepWork⟩

private theorem refusesStream_of_isFaulted {server : Server}
    {streamId : StreamId}
    (h : IsFaulted server streamId) : RefusesStream server streamId where
  whole sequenceNum frame := dispatchE2eCore_faulted h sequenceNum frame true
  fragment fragment := dispatchE2eFragmentCore_faulted h 0 fragment true
  frame sequenceNum frame := dispatchFrameE2e_faulted h sequenceNum frame

/-! ## Every run -/

/-- Once a check has failed on a stream that enforces its protection and that
the tracker knows or has room for, the stream is refused after every further
run that does not reset its fault. -/
theorem streamFault_latches (server : Server) (streamId : StreamId) (op : Op)
    (ops : List Op) (hEnforces : EnforcesE2e server streamId)
    (hRoom : server.streamFaultTracker.HasRoomFor streamId)
    (hFails : FailsCheck server streamId op)
    (hReset : ∀ later ∈ ops, later ≠ .resetStreamFault streamId) :
    RefusesStream (run Server.step (server.step op).1 ops).1 streamId := by
  apply refusesStream_of_isFaulted
  have hFaulted := isFaulted_of_failsCheck ⟨hEnforces, hRoom⟩ hFails
  clear hFails hEnforces hRoom
  revert hFaulted
  generalize (server.step op).1 = start
  intro hFaulted
  induction ops generalizing start with
  | nil => exact hFaulted
  | cons later ops ih =>
      rw [run_cons]
      apply ih
      · intro next hNext
        exact hReset next (List.mem_cons_of_mem _ hNext)
      · exact isFaulted_step hFaulted (hReset later List.mem_cons_self)

def enforcingRegs : RegisterMap :=
  { makeInitialRegisterMap with
    requestStreams := [{ streamId := 1, rxEnforceE2e := true }]
    requestStreams_le := by decide
    genericConfigs := [{ epReqCrcEnable := true }] }

def corruptMessage : Octets := encodeAcfAbb { byteBusId := 1 } [0, 0, 0, 0]

theorem streamFault_latches_once :
    FailsCheck { regs := enforcingRegs } 1 (.dispatchE2e 1 0 corruptMessage) ∧
      RefusesStream (run Server.step
        (Server.step { regs := enforcingRegs }
          (.dispatchE2e 1 0 corruptMessage)).1
        [.dispatchE2e 2 0 corruptMessage]).1 1 := by
  have hFails : FailsCheck { regs := enforcingRegs } 1
      (.dispatchE2e 1 0 corruptMessage) := ⟨rfl, by decide +kernel⟩
  refine ⟨hFails, ?_⟩
  exact streamFault_latches { regs := enforcingRegs } 1
    (.dispatchE2e 1 0 corruptMessage) [.dispatchE2e 2 0 corruptMessage]
    ⟨by decide, rfl⟩ (Or.inr (by decide)) hFails (by simp)

def crowdedServer : Server :=
  (run Server.step {} (.registers enforcingRegs ::
    (List.range 16).map fun i =>
      .dispatchE2e (UInt64.ofNat (i + 2)) 0 corruptMessage)).1

/-- It does not latch the fault of stream 1: the next message is checked, and
fails, as if nothing had happened. -/
theorem streamFault_latches_of_crowded :
    Server.Reachable crowdedServer ∧ EnforcesE2e crowdedServer 1 ∧
      FailsCheck crowdedServer 1 (.dispatchE2e 1 0 corruptMessage) ∧
      ((crowdedServer.step (.dispatchE2e 1 0 corruptMessage)).1.dispatchE2e 1
        1 corruptMessage).2.ec = crcFailed ∧
      ¬RefusesStream
        (crowdedServer.step (.dispatchE2e 1 0 corruptMessage)).1 1 := by
  have hChecked : ((crowdedServer.step
      (.dispatchE2e 1 0 corruptMessage)).1.dispatchE2e 1 1
        corruptMessage).2.ec = crcFailed := by decide +kernel
  refine ⟨⟨_, rfl⟩, ⟨by decide +kernel, by decide +kernel⟩,
    ⟨rfl, by decide +kernel⟩, hChecked, ?_⟩
  intro hRefuses
  have hRefused := (hRefuses.whole 1 corruptMessage).1
  rw [hChecked] at hRefused
  cases hRefused

end CppRcp.Mock
