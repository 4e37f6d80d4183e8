import CppRcp.Mock.E2eEffects
import CppRcp.Mock.Run

/-!
# What the member loop and the other operations do

A turn of the member loop refuses its member, or dispatches it and tags what
it stored.  Every per-stream tracker is left to the dispatch of the member.
-/

namespace CppRcp.Mock

open CppRcp.Foundation CppRcp.Acf CppRcp.E2e CppRcp.Request CppRcp.Regmap
open CppRcp.Server

theorem peekMember_of_gbb {frame : Octets}
    (hType : peekAcfMsgType frame = acfMsgTypeGbb)
    (hLen : acfGbbMessageInfoLen ≤ frame.length) :
    peekMember frame = some (decodeAcfMessageInfo frame) := by
  have hNil : frame ≠ [] := by
    rintro rfl
    simp [acfGbbMessageInfoLen] at hLen
  have hPos : ¬frame.length < 1 := by
    simp only [acfGbbMessageInfoLen] at hLen
    omega
  unfold peekMember decodeAcfGbb
  simp only [hNil, if_false, hType]
  rw [if_neg (by decide), if_pos trivial, if_neg hPos, if_neg (by simp),
    if_neg (Nat.not_lt.mpr hLen)]

theorem peekMember_of_chained {member : Octets} {request : ChainedMember}
    (h : decodeChainedMember member = .ok request) :
    peekMember member = some (decodeAcfMessageInfo member) := by
  obtain ⟨hLen, hType, -⟩ :=
    peekRequestType_eq_some (decodeChainedMember_type h)
  exact peekMember_of_gbb hType hLen

/-- One turn of the member loop: what it does with a member, by the state it
finds and the kind of the member. -/
inductive Turn (dispatchMember : DispatchMember) (state : FrameLoop)
    (input : Octets × Nat) : FrameLoop × FrameMemberResult → Prop
  | undecodable (hPeek : peekMember input.1 = none) :
      Turn dispatchMember state input
        ({ state with prevErrored := true },
          ⟨some (.dispatch .unknownBus), 0, {}, []⟩)
  | anchor {peek : AcfMessageInfo} {e : ErrorCode}
      (hPeek : peekMember input.1 = some peek)
      (hAnchor : decodeChainedMember input.1 = .error e) :
      Turn dispatchMember state input
        (dispatchAt dispatchMember
          { state with chainGroup := input.2 + 1, chainPosition := 0 } peek
          input.1)
  | orphan {peek : AcfMessageInfo} {request : ChainedMember}
      (hPeek : peekMember input.1 = some peek)
      (hChained : decodeChainedMember input.1 = .ok request)
      (hFirst : input.2 = 0) :
      Turn dispatchMember state input
        (refuseChained
          { state with chainPosition := state.chainPosition + 1 } peek
          .chainError .chainError)
  | aborted {peek : AcfMessageInfo} {request : ChainedMember}
      (hPeek : peekMember input.1 = some peek)
      (hChained : decodeChainedMember input.1 = .ok request)
      (hLater : input.2 ≠ 0)
      (hAbort : state.chainAborted = true ∨
        (request.cs = true ∧ state.prevErrored = true)) :
      Turn dispatchMember state input
        (refuseChained
          { state with chainPosition := state.chainPosition + 1 } peek
          .chainAborted .chainAborted)
  | follower {peek : AcfMessageInfo} {request : ChainedMember}
      (hPeek : peekMember input.1 = some peek)
      (hChained : decodeChainedMember input.1 = .ok request)
      (hLater : input.2 ≠ 0)
      (hLatch : state.chainAborted = false)
      (hContinue : request.cs = true → state.prevErrored = false) :
      Turn dispatchMember state input
        (dispatchAt dispatchMember
          { state with chainPosition := state.chainPosition + 1 } peek
          input.1)

theorem turn_stepMember (dispatchMember : DispatchMember)
    (state : FrameLoop) (input : Octets × Nat) :
    Turn dispatchMember state input
      (stepMember dispatchMember state input) := by
  unfold stepMember
  split
  · next hPeek => exact .undecodable hPeek
  · next peek hPeek =>
      split
      · next hAnchor => exact .anchor hPeek hAnchor
      · next request hChained =>
          dsimp only
          by_cases hFirst : input.2 = 0
          · rw [if_pos hFirst]
            exact .orphan hPeek hChained hFirst
          · rw [if_neg hFirst]
            by_cases hAbort : (state.chainAborted ||
                !shouldExecuteChained request.cs state.prevErrored) = true
            · rw [if_pos hAbort]
              refine .aborted hPeek hChained hFirst ?_
              simpa [shouldExecuteChained] using hAbort
            · rw [if_neg hAbort]
              simp only [shouldExecuteChained, Bool.not_or, Bool.not_not,
                Bool.or_eq_true, Bool.and_eq_true, not_or,
                Bool.not_eq_true, not_and] at hAbort
              exact .follower hPeek hChained hFirst hAbort.1 hAbort.2

inductive MemberEffect (dispatchMember : DispatchMember) (state : FrameLoop)
    (member : Octets) : FrameLoop × FrameMemberResult → Prop
  | refused {out : FrameLoop × FrameMemberResult} {code : DispatchErrc}
      (hServer : out.1.server = state.server)
      (hResult : out.2.result = some (.dispatch code))
      (hCode : isRefusal code = true) :
      MemberEffect dispatchMember state member out
  | dispatched {out : FrameLoop × FrameMemberResult} (bus : Option Bus)
      (group position : Nat)
      (hServer : out.1.server = tagStored state.server
        (dispatchMember state.server member).1 bus group position)
      (hResult : out.2.result = (dispatchMember state.server member).2.ec) :
      MemberEffect dispatchMember state member out

private theorem Turn.memberEffect {dispatchMember : DispatchMember}
    {state : FrameLoop} {input : Octets × Nat}
    {out : FrameLoop × FrameMemberResult}
    (h : Turn dispatchMember state input out) :
    MemberEffect dispatchMember state input.1 out := by
  cases h with
  | undecodable hPeek => exact .refused rfl rfl rfl
  | anchor hPeek hAnchor => exact .dispatched _ _ _ rfl rfl
  | orphan hPeek hChained hFirst => exact .refused rfl rfl rfl
  | aborted hPeek hChained hLater hAbort => exact .refused rfl rfl rfl
  | follower hPeek hChained hLater hLatch hContinue =>
      exact .dispatched _ _ _ rfl rfl

theorem memberEffect_stepMember (dispatchMember : DispatchMember)
    (state : FrameLoop) (input : Octets × Nat) :
    MemberEffect dispatchMember state input.1
      (stepMember dispatchMember state input) :=
  (turn_stepMember dispatchMember state input).memberEffect

def loopBefore (dispatchMember : DispatchMember) (server : Server)
    (members : List Octets) (index : Nat) : FrameLoop :=
  (run (stepMember dispatchMember) { server := server }
    (members.zipIdx.take index)).1

theorem loopBefore_succ (dispatchMember : DispatchMember) (server : Server)
    {members : List Octets} {index : Nat} {member : Octets}
    (h : members[index]? = some member) :
    loopBefore dispatchMember server members (index + 1) =
      (stepMember dispatchMember
        (loopBefore dispatchMember server members index)
        (member, index)).1 := by
  obtain ⟨hBound, hGet⟩ := List.getElem?_eq_some_iff.mp h
  have hIndex : index < members.zipIdx.length := by simpa using hBound
  rw [loopBefore, run_take_succ _ _ _ _ hIndex]
  simp [loopBefore, hGet]

theorem dispatchFrameImpl_getElem? (dispatchMember : DispatchMember)
    (server : Server) (frame : Octets) (index : Nat) :
    (dispatchFrameImpl dispatchMember server frame).2[index]? =
      (frameMembers frame)[index]?.map fun member =>
        (stepMember dispatchMember
          (loopBefore dispatchMember server (frameMembers frame) index)
          (member, index)).2 := by
  simp only [dispatchFrameImpl, getElem?_run, List.getElem?_zipIdx,
    Option.map_map, Nat.zero_add]
  rfl

section Invariants

variable {dispatchMember : DispatchMember} {P : Server → Prop} {server : Server}

private theorem run_stepMember_invariant
    (hDispatch : ∀ server member, P server →
      P (dispatchMember server member).1)
    (hTag : ∀ server bus ep, P server → P (server.setAdmission bus ep))
    (inputs : List (Octets × Nat)) (h : P server) :
    P (run (stepMember dispatchMember) { server := server } inputs).1.server := by
  refine @invariant_run _ _ _ (stepMember dispatchMember)
    (fun state : FrameLoop => P state.server) ?_ { server := server } inputs h
  intro state input hState
  cases memberEffect_stepMember dispatchMember state input with
  | refused hServer hResult hCode =>
      rw [hServer]
      exact hState
  | dispatched bus group position hServer hResult =>
      rw [hServer]
      have hNext := hDispatch state.server input.1 hState
      unfold tagStored
      split
      · exact hNext
      · split
        · exact hTag _ _ _ hNext
        · exact hNext

theorem dispatchFrameImpl_invariant
    (hDispatch : ∀ server member, P server →
      P (dispatchMember server member).1)
    (hTag : ∀ server bus ep, P server → P (server.setAdmission bus ep))
    (frame : Octets) (h : P server) :
    P (dispatchFrameImpl dispatchMember server frame).1 :=
  run_stepMember_invariant hDispatch hTag _ h

theorem loopBefore_invariant
    (hDispatch : ∀ server member, P server →
      P (dispatchMember server member).1)
    (hTag : ∀ server bus ep, P server → P (server.setAdmission bus ep))
    (members : List Octets) (index : Nat) (h : P server) :
    P (loopBefore dispatchMember server members index).server :=
  run_stepMember_invariant hDispatch hTag _ h

end Invariants

namespace Server

theorem onEveryBus_invariant {P : Server → Prop} {f : Endpoint → Endpoint}
    (hSet : ∀ server bus, P server →
      P (server.setAdmission bus (f (server.admission bus))))
    {server : Server} (h : P server) : P (server.onEveryBus f) := by
  unfold onEveryBus
  induction allBuses generalizing server with
  | nil => exact h
  | cons bus buses ih => exact ih (hSet server bus h)

theorem purgeMapped_invariant {P : Server → Prop}
    (hPurge : ∀ server bus, P server →
      P (server.setAdmission bus (server.admission bus).watchdogPurge))
    {server : Server} (streamIndex : UInt8) (entries : List EpIdMappingEntry)
    (h : P server) : P (server.purgeMapped streamIndex entries).1 := by
  induction entries generalizing server with
  | nil => exact h
  | cons entry entries ih =>
      unfold purgeMapped
      split
      · refine ih ?_
        unfold watchdogPurge
        split
        · exact h
        · exact hPurge _ _ h
      · exact ih h

theorem streamFaultTracker_checkWatchdogOverflow (server : Server)
    (streamId : StreamId) (nowMs : Nat) :
    (server.checkWatchdogOverflow streamId nowMs).1.streamFaultTracker =
      server.streamFaultTracker := by
  unfold checkWatchdogOverflow
  dsimp only
  split
  · rfl
  · split
    · exact @purgeMapped_invariant
        (fun later => later.streamFaultTracker = server.streamFaultTracker)
        (fun _ _ h => h) _ _ _ rfl
    · rfl

theorem streamFaultTracker_notifyTrigger (server : Server)
    (sourceEp signalNr : UInt8) :
    (server.notifyTrigger sourceEp signalNr).1.streamFaultTracker =
      server.streamFaultTracker := by
  have hKept := @onEveryBus_invariant
    (fun later => later.streamFaultTracker = server.streamFaultTracker)
    (fun ep => (ep.notifyTrigger sourceEp signalNr).1) (fun _ _ h => h)
    server rfl
  exact hKept

theorem streamFaultTracker_notifyGptpLockState (server : Server)
    (locked : Bool) (sourceEp : UInt8) :
    (server.notifyGptpLockState locked sourceEp).1.streamFaultTracker =
      server.streamFaultTracker := by
  unfold notifyGptpLockState
  dsimp only
  split
  · rfl
  · rw [streamFaultTracker_notifyTrigger]

theorem streamFaultTracker_tick (server : Server) (bus : Bus)
    (ctx : Endpoint.TickContext) :
    (server.tick bus ctx).1.streamFaultTracker =
      server.streamFaultTracker := by
  unfold tick
  split <;> rfl

end Server

end CppRcp.Mock
