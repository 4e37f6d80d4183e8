import CppRcp.Mock.FrameEffects

/-!
# Aborting on a predecessor's error

What counts as an error of the predecessor is that it never reached an
admission: it did not decode, it was rejected, or the chain rules stopped it.
A chained member that asks to abort on an error is then stopped itself.
-/

namespace CppRcp.Mock

open CppRcp.Foundation CppRcp.Acf CppRcp.Request CppRcp.E2e CppRcp.Server

def CountsForChain (ec : Option ErrorCode) : Prop :=
  ec = some (.dispatch .unknownBus) ∨ ec = some (.regmap .requestRejected) ∨
    ec = some (.dispatch .chainError) ∨ ec = some (.dispatch .chainAborted)

instance (ec : Option ErrorCode) : Decidable (CountsForChain ec) :=
  inferInstanceAs (Decidable (_ ∨ _ ∨ _ ∨ _))

/-- The result of a request that its endpoint has executed, also with an error
of its own, queued or stored. -/
def wasTaken : Option ErrorCode → Bool
  | none | some (.dispatch .queued) | some (.dispatch .pending) => true
  | some (.avtp _) | some (.acf _) | some (.request _) | some (.regmap _)
  | some (.e2e _) | some (.dispatch _) => false
  | some _ => true

/-- A chained request with `cs` set. -/
def AbortsOnError (member : Octets) : Prop :=
  ∃ request, decodeChainedMember member = .ok request ∧ request.cs = true

def chainAbortResult (member : Octets) : FrameMemberResult :=
  ⟨some (.dispatch .chainAborted), (decodeAcfMessageInfo member).byteBusId,
    makeResponse (decodeAcfMessageInfo member) .errorResponse,
    encodeErrorPayload .chainAborted⟩

private theorem not_countsForChain_of_taken {ec : Option ErrorCode}
    (h : wasTaken ec = true) : ¬CountsForChain ec := by
  rintro (rfl | rfl | rfl | rfl) <;> cases h

/-! ## One turn of the loop -/

private theorem countsAsError_iff {ec : Option ErrorCode} (h : HandedOver ec) :
    countsAsError ec = true ↔ CountsForChain ec := by
  have hError := h .chainError rfl
  have hAborted := h .chainAborted rfl
  simp [countsAsError, CountsForChain, hError, hAborted]

private theorem prevErrored_stepMember {dispatchMember : DispatchMember}
    (hHanded : ∀ server member,
      HandedOver (dispatchMember server member).2.ec)
    (state : FrameLoop) (input : Octets × Nat) :
    (stepMember dispatchMember state input).1.prevErrored = true ↔
      CountsForChain (stepMember dispatchMember state input).2.result := by
  have hTurn := turn_stepMember dispatchMember state input
  revert hTurn
  generalize stepMember dispatchMember state input = out
  intro hTurn
  cases hTurn with
  | undecodable hPeek => simp [CountsForChain]
  | anchor hPeek hAnchor => exact countsAsError_iff (hHanded _ _)
  | orphan hPeek hChained hFirst => simp [refuseChained, CountsForChain]
  | aborted hPeek hChained hLater hAbort =>
      simp [refuseChained, CountsForChain]
  | follower hPeek hChained hLater hLatch hContinue =>
      exact countsAsError_iff (hHanded _ _)

/-- A chained member that aborts on an error is stopped, or it is handed over
with neither an abort before it nor an error of its predecessor. -/
private theorem stepMember_of_abortsOnError (dispatchMember : DispatchMember)
    (state : FrameLoop) (input : Octets × Nat) (hLater : input.2 ≠ 0)
    (hCs : AbortsOnError input.1) :
    ((state.chainAborted = true ∨ state.prevErrored = true) ∧
      (stepMember dispatchMember state input).1.server = state.server ∧
      (stepMember dispatchMember state input).2 = chainAbortResult input.1) ∨
    (state.chainAborted = false ∧ state.prevErrored = false ∧
      (stepMember dispatchMember state input).2.result =
        (dispatchMember state.server input.1).2.ec) := by
  obtain ⟨request, hRequest, hAbort⟩ := hCs
  have hHeader := peekMember_of_chained hRequest
  have hTurn := turn_stepMember dispatchMember state input
  revert hTurn
  generalize stepMember dispatchMember state input = out
  intro hTurn
  cases hTurn with
  | undecodable hPeek => simp [hHeader] at hPeek
  | anchor hPeek hAnchor => simp [hRequest] at hAnchor
  | orphan hPeek hChained hFirst => exact absurd hFirst hLater
  | aborted hPeek hChained hLater hStop =>
      rw [hHeader] at hPeek
      cases hPeek
      exact .inl ⟨hStop.imp_right And.right, rfl, rfl⟩
  | follower hPeek hChained hLater hLatch hContinue =>
      rw [hRequest] at hChained
      cases hChained
      exact .inr ⟨hLatch, hContinue hAbort, rfl⟩

/-! ## Whole frames -/

/-- The member at an index is answered with the abort and leaves the server as
its predecessor left it. -/
structure StoppedAt (dispatchMember : DispatchMember) (server : Server)
    (frame : Octets) (index : Nat) (member : Octets) : Prop where
  result : (dispatchFrameImpl dispatchMember server frame).2[index]? =
    some (chainAbortResult member)
  server : (loopBefore dispatchMember server (frameMembers frame)
      (index + 1)).server =
    (loopBefore dispatchMember server (frameMembers frame) index).server

/-- Whether the loop counts the predecessor as an error shows in its result. -/
private theorem prevErrored_loopBefore {dispatchMember : DispatchMember}
    (hHanded : ∀ server member,
      HandedOver (dispatchMember server member).2.ec)
    {server : Server} {frame : Octets} {index : Nat} {prev : FrameMemberResult}
    (hPrev : (dispatchFrameImpl dispatchMember server frame).2[index]? =
      some prev) :
    (loopBefore dispatchMember server (frameMembers frame)
        (index + 1)).prevErrored = true ↔ CountsForChain prev.result := by
  rw [dispatchFrameImpl_getElem?, Option.map_eq_some_iff] at hPrev
  obtain ⟨before, hBefore, hResult⟩ := hPrev
  rw [loopBefore_succ _ _ hBefore, prevErrored_stepMember hHanded, hResult]

private theorem stoppedAt_of_error {dispatchMember : DispatchMember}
    (hHanded : ∀ server member,
      HandedOver (dispatchMember server member).2.ec)
    {server : Server} {frame member : Octets} {index : Nat}
    {prev : FrameMemberResult}
    (hMember : (frameMembers frame)[index + 1]? = some member)
    (hCs : AbortsOnError member)
    (hPrev : (dispatchFrameImpl dispatchMember server frame).2[index]? =
      some prev)
    (hError : CountsForChain prev.result) :
    StoppedAt dispatchMember server frame (index + 1) member := by
  have hErrored := (prevErrored_loopBefore hHanded hPrev).mpr hError
  rcases stepMember_of_abortsOnError dispatchMember
      (loopBefore dispatchMember server (frameMembers frame) (index + 1))
      (member, index + 1) (Nat.succ_ne_zero index) hCs with
    ⟨-, hServer, hAbort⟩ | ⟨-, hClear, -⟩
  · constructor
    · rw [dispatchFrameImpl_getElem?, hMember, Option.map_some, hAbort]
    · rw [loopBefore_succ _ _ hMember]
      exact hServer
  · simp [hErrored] at hClear

/-- The member at an index follows one that has not errored, and is handed over
unless an earlier member aborted the chain. -/
structure PassedAt (dispatchMember : DispatchMember) (server : Server)
    (frame : Octets) (index : Nat) (member : Octets) : Prop where
  counted : (loopBefore dispatchMember server (frameMembers frame)
    index).prevErrored = false
  handed : (loopBefore dispatchMember server (frameMembers frame)
      index).chainAborted = false →
    (dispatchFrameImpl dispatchMember server frame).2[index]?.map
        FrameMemberResult.result =
      some (dispatchMember (loopBefore dispatchMember server
        (frameMembers frame) index).server member).2.ec

private theorem passedAt_of_taken {dispatchMember : DispatchMember}
    (hHanded : ∀ server member,
      HandedOver (dispatchMember server member).2.ec)
    {server : Server} {frame member : Octets} {index : Nat}
    {prev : FrameMemberResult}
    (hMember : (frameMembers frame)[index + 1]? = some member)
    (hCs : AbortsOnError member)
    (hPrev : (dispatchFrameImpl dispatchMember server frame).2[index]? =
      some prev)
    (hTaken : wasTaken prev.result = true) :
    PassedAt dispatchMember server frame (index + 1) member := by
  have hClear : (loopBefore dispatchMember server (frameMembers frame)
      (index + 1)).prevErrored = false := by
    rw [Bool.eq_false_iff, Ne, prevErrored_loopBefore hHanded hPrev]
    exact not_countsForChain_of_taken hTaken
  refine ⟨hClear, fun hLatch => ?_⟩
  rw [dispatchFrameImpl_getElem?, hMember, Option.map_some, Option.map_some]
  rcases stepMember_of_abortsOnError dispatchMember
      (loopBefore dispatchMember server (frameMembers frame) (index + 1))
      (member, index + 1) (Nat.succ_ne_zero index) hCs with
    ⟨hAborted | hErrored, -⟩ | ⟨-, -, hResult⟩
  · simp [hLatch] at hAborted
  · simp [hClear] at hErrored
  · exact congrArg some hResult

/-- In both frame entries, a chained member that aborts on an error is stopped
if the result before it counts as one, and is not if its predecessor was
executed, queued or stored. -/
theorem chained_stops_after_error (server : Server) (streamId : StreamId)
    (sequenceNum : UInt8) (frame member : Octets) (index : Nat)
    (prev : FrameMemberResult)
    (hMember : (frameMembers frame)[index + 1]? = some member)
    (hCs : AbortsOnError member) :
    ((server.dispatchFrame streamId frame).2[index]? = some prev →
      (CountsForChain prev.result →
        StoppedAt (fun server member =>
          server.decodeAndDispatch streamId member) server frame (index + 1)
          member) ∧
      (wasTaken prev.result = true →
        PassedAt (fun server member =>
          server.decodeAndDispatch streamId member) server frame (index + 1)
          member)) ∧
    ((server.dispatchFrameE2e streamId sequenceNum frame).2[index]? =
        some prev →
      let dispatchMember : DispatchMember := fun server member =>
        server.dispatchE2eFragmentCore streamId sequenceNum member false
      let gated := (server.seqGateAdmits streamId sequenceNum).1
      (CountsForChain prev.result →
        (server.dispatchFrameE2e streamId sequenceNum frame).2[index + 1]? =
            some (chainAbortResult member) ∧
          StoppedAt dispatchMember gated frame (index + 1) member) ∧
      (wasTaken prev.result = true →
        server.dispatchFrameE2e streamId sequenceNum frame =
            dispatchFrameImpl dispatchMember gated frame ∧
          PassedAt dispatchMember gated frame (index + 1) member)) := by
  constructor
  · intro hPrev
    have hHanded : ∀ server member, HandedOver
        (Server.decodeAndDispatch server streamId member).2.ec :=
      fun server member =>
        (Server.reportsAdmission_decodeAndDispatch server streamId
          member).handedOver
    exact ⟨stoppedAt_of_error hHanded hMember hCs hPrev,
      passedAt_of_taken hHanded hMember hCs hPrev⟩
  · intro hPrev dispatchMember gated
    rcases hGate : server.seqGateAdmits streamId sequenceNum with
      ⟨later, admits⟩
    unfold Server.dispatchFrameE2e at hPrev ⊢
    simp only [gated, hGate] at hPrev ⊢
    split at hPrev
    · simp at hPrev
    · next hCount =>
        rw [if_neg hCount]
        cases admits with
        | false =>
            have hSeq := List.eq_of_mem_replicate
              (List.mem_of_getElem? hPrev)
            rw [hSeq]
            simp [CountsForChain, wasTaken, Server.seqErrorResult]
        | true =>
            have hHanded : ∀ server member,
                HandedOver (dispatchMember server member).2.ec :=
              fun server member =>
                Server.handedOver_dispatchE2eFragmentCore server streamId
                  sequenceNum member
            refine ⟨fun hError => ?_, fun hTaken => ⟨rfl, ?_⟩⟩
            · have hStopped :=
                stoppedAt_of_error hHanded hMember hCs hPrev hError
              exact ⟨hStopped.result, hStopped⟩
            · exact passedAt_of_taken hHanded hMember hCs hPrev hTaken

def reservedWrite : Octets :=
  encodeAcfAbb { byteBusId := 1, evtOp := 4, op := true } [0, 0, 0, 0]

def abortingMember : Octets :=
  encodeAcfGbb { acfMsgType := acfMsgTypeGbb, byteBusId := 1, cs := true }
    (encodeRequestType .chained [0, 0, 0, 0, 0, 0, 0]) []

private theorem abortsOnError_abortingMember : AbortsOnError abortingMember :=
    by
  cases h : decodeChainedMember abortingMember with
  | error e =>
      have hOk : (decodeChainedMember abortingMember).isOk = true := by
        decide
      rw [h] at hOk
      cases hOk
  | ok request =>
      refine ⟨request, h, ?_⟩
      rw [(decodeChainedMember_ok h).2.1]
      decide

/-- A server that is not configured rejects the first member, and stops the
second. -/
theorem chained_stops_unconfigured :
    (Server.dispatchFrame {} 0 (reservedWrite ++ abortingMember)).2[1]? =
      some (chainAbortResult abortingMember) := by
  have hStopped := ((chained_stops_after_error {} 0 0
    (reservedWrite ++ abortingMember) abortingMember 0
    ⟨some (.regmap .requestRejected), 1,
      makeResponse (decodeAcfMessageInfo reservedWrite) .errorResponse,
      encodeErrorPayload .requestRejected⟩
    (by decide) abortsOnError_abortingMember).1
    (by decide)).1 (by decide)
  exact hStopped.result

/-- A configured server whose handler fails on the first member stores the
second one. -/
theorem chained_stops_of_handler_error :
    let server := (run Server.step {} [.lifecycle .rcpConfigured]).1
    let out := server.dispatchFrame 0 (reservedWrite ++ abortingMember)
    server.Reachable ∧ AbortsOnError abortingMember ∧
      (out.2[0]?.map fun result => (result.result, result.response.err)) =
        some (some (.endpoint .reservedWriteSemantics), true) ∧
      (out.2[1]?.map fun result => result.result) =
        some (some (.dispatch .pending)) ∧
      (out.1.admission .gpio).pendingCount = 1 ∧
      ¬StoppedAt (fun server member => server.decodeAndDispatch 0 member)
        server (reservedWrite ++ abortingMember) 1 abortingMember := by
  intro server out
  have hStored : (out.2[1]?.map fun result => result.result) =
      some (some (.dispatch .pending)) := by decide
  refine ⟨⟨_, rfl⟩, abortsOnError_abortingMember, by decide, hStored,
    by decide, ?_⟩
  intro hStopped
  have hResult : out.2[1]? = some (chainAbortResult abortingMember) :=
    hStopped.result
  rw [hResult] at hStored
  cases hStored

end CppRcp.Mock
