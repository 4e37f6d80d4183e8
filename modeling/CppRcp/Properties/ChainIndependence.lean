import CppRcp.Mock.FrameEffects

/-!
# Several chains in one frame

A chain starts with a member that is not chained.  The loop starts a new group
there, but keeps the latch by which an earlier chain was aborted.  The chains
of a frame are independent if clearing the latch at each start would change
neither a result nor the server.
-/

namespace CppRcp.Mock

open CppRcp.Foundation CppRcp.Acf CppRcp.Request CppRcp.E2e CppRcp.Server

def FrameLoop.clearLatch (state : FrameLoop) : FrameLoop :=
  { state with chainAborted := false }

def IsAnchor (member : Octets) : Prop :=
  (peekMember member).isSome = true ∧
    (decodeChainedMember member).isOk = false

/-- From an index on, the frame does what it would do if no earlier chain had
been aborted, all else being equal. -/
structure UnaffectedFrom (dispatchMember : DispatchMember) (server : Server)
    (frame : Octets) (index : Nat) : Prop where
  results : (dispatchFrameImpl dispatchMember server frame).2.drop index =
    (run (stepMember dispatchMember)
      (loopBefore dispatchMember server (frameMembers frame) index).clearLatch
      ((frameMembers frame).zipIdx.drop index)).2
  server : (dispatchFrameImpl dispatchMember server frame).1 =
    (run (stepMember dispatchMember)
      (loopBefore dispatchMember server (frameMembers frame) index).clearLatch
      ((frameMembers frame).zipIdx.drop index)).1.server

def ChainsIndependent (dispatchMember : DispatchMember) (server : Server)
    (frame : Octets) : Prop :=
  ∀ index member, (frameMembers frame)[index]? = some member →
    IsAnchor member → UnaffectedFrom dispatchMember server frame index

/-- The next chained member, if there is one, aborts on the error of its own
predecessor. -/
def NextChainedStops (dispatchMember : DispatchMember) :
    FrameLoop → List (Octets × Nat) → Prop
  | _, [] => True
  | state, input :: inputs =>
      match decodeChainedMember input.1 with
      | .error _ =>
          NextChainedStops dispatchMember
            (stepMember dispatchMember state input).1 inputs
      | .ok request => request.cs = true ∧ state.prevErrored = true

/-- Wherever a chain starts after another was aborted, the next chained member
would be stopped anyway. -/
def LatchHarmless (dispatchMember : DispatchMember) (server : Server)
    (frame : Octets) : Prop :=
  ∀ index member, (frameMembers frame)[index]? = some member →
    IsAnchor member →
    (loopBefore dispatchMember server (frameMembers frame) index).chainAborted
      = true →
    NextChainedStops dispatchMember
      (loopBefore dispatchMember server (frameMembers frame) index).clearLatch
      ((frameMembers frame).zipIdx.drop index)

/-! ## One turn with and without the latch -/

private theorem stepMember_clearLatch_of_anchor
    (dispatchMember : DispatchMember)
    (state : FrameLoop) {input : Octets × Nat} {e : ErrorCode}
    (h : decodeChainedMember input.1 = .error e) :
    stepMember dispatchMember state.clearLatch input =
        ((stepMember dispatchMember state input).1.clearLatch,
          (stepMember dispatchMember state input).2) ∧
      (stepMember dispatchMember state input).1.chainAborted =
        state.chainAborted := by
  unfold stepMember
  rw [h]
  cases peekMember input.1 with
  | none => exact ⟨rfl, rfl⟩
  | some peek => exact ⟨rfl, rfl⟩

private theorem stepMember_latched {dispatchMember : DispatchMember}
    {state : FrameLoop} {input : Octets × Nat} {request : ChainedMember}
    (hChained : decodeChainedMember input.1 = .ok request)
    (hLater : input.2 ≠ 0) (hLatch : state.chainAborted = true) :
    stepMember dispatchMember state input =
      refuseChained { state with chainPosition := state.chainPosition + 1 }
        (decodeAcfMessageInfo input.1) .chainAborted .chainAborted := by
  unfold stepMember
  simp [peekMember_of_chained hChained, hChained, hLater, hLatch]

private theorem stepMember_cleared {dispatchMember : DispatchMember}
    {state : FrameLoop} {input : Octets × Nat} {request : ChainedMember}
    (hChained : decodeChainedMember input.1 = .ok request)
    (hLater : input.2 ≠ 0) :
    stepMember dispatchMember state.clearLatch input =
      if request.cs = true ∧ state.prevErrored = true then
        refuseChained { state with chainPosition := state.chainPosition + 1 }
          (decodeAcfMessageInfo input.1) .chainAborted .chainAborted
      else
        dispatchAt dispatchMember
          { state.clearLatch with chainPosition := state.chainPosition + 1 }
          (decodeAcfMessageInfo input.1) input.1 := by
  unfold stepMember
  simp only [peekMember_of_chained hChained, hChained, hLater, if_false,
    FrameLoop.clearLatch, shouldExecuteChained, Bool.false_or, Bool.not_or,
    Bool.not_not, Bool.and_eq_true]
  split
  · rfl
  · rfl

/-! ## The rest of a frame with and without the latch -/

/-- With the latch set, the rest of a frame goes as without it exactly if the
next chained member is stopped anyway. -/
theorem run_latched_iff {dispatchMember : DispatchMember}
    (hHanded : ∀ server member,
      HandedOver (dispatchMember server member).2.ec)
    (inputs : List (Octets × Nat)) {state : FrameLoop}
    (hLater : ∀ input ∈ inputs, input.2 ≠ 0)
    (hLatch : state.chainAborted = true) :
    ((run (stepMember dispatchMember) state inputs).2 =
          (run (stepMember dispatchMember) state.clearLatch inputs).2 ∧
        (run (stepMember dispatchMember) state inputs).1.server =
          (run (stepMember dispatchMember) state.clearLatch
            inputs).1.server) ↔
      NextChainedStops dispatchMember state.clearLatch inputs := by
  induction inputs generalizing state with
  | nil => simp [NextChainedStops, FrameLoop.clearLatch]
  | cons input inputs ih =>
      have hFirst := hLater input List.mem_cons_self
      have hRest : ∀ input ∈ inputs, input.2 ≠ 0 := fun next hNext =>
        hLater next (List.mem_cons_of_mem input hNext)
      simp only [run_cons, NextChainedStops]
      cases hDecode : decodeChainedMember input.1 with
      | error e =>
          obtain ⟨hCleared, hSame⟩ :=
            stepMember_clearLatch_of_anchor dispatchMember state hDecode
          rw [hCleared]
          simp only [List.cons.injEq, true_and]
          exact ih hRest (hSame.trans hLatch)
      | ok request =>
          dsimp only
          rw [stepMember_latched hDecode hFirst hLatch,
            stepMember_cleared hDecode hFirst]
          by_cases hStops : request.cs = true ∧ state.prevErrored = true
          · rw [if_pos hStops]
            exact iff_of_true ⟨rfl, rfl⟩ hStops
          · rw [if_neg hStops]
            refine iff_of_false ?_ hStops
            rintro ⟨hOutputs, -⟩
            have hResult := congrArg (fun out => out.head?.map
              fun result : FrameMemberResult => result.result) hOutputs
            simp only [List.head?_cons, Option.map_some, refuseChained,
              dispatchAt, Option.some.injEq] at hResult
            exact hHanded _ _ .chainAborted rfl hResult.symm

private theorem zipIdx_drop_ne_zero {members : List Octets} {index : Nat}
    (h : index ≠ 0) :
    ∀ input ∈ members.zipIdx.drop index, input.2 ≠ 0 := by
  intro input hMem
  obtain ⟨i, hi, hGet⟩ := List.mem_iff_getElem.mp hMem
  rw [List.getElem_drop, List.getElem_zipIdx] at hGet
  rw [← hGet]
  simp only
  omega

private theorem unaffectedFrom_iff (dispatchMember : DispatchMember)
    (server : Server) (frame : Octets) {index : Nat}
    (hIndex : index ≤ (frameMembers frame).length) :
    UnaffectedFrom dispatchMember server frame index ↔
      ((run (stepMember dispatchMember)
            (loopBefore dispatchMember server (frameMembers frame) index)
            ((frameMembers frame).zipIdx.drop index)).2 =
          (run (stepMember dispatchMember)
            (loopBefore dispatchMember server (frameMembers frame)
              index).clearLatch
            ((frameMembers frame).zipIdx.drop index)).2 ∧
        (run (stepMember dispatchMember)
            (loopBefore dispatchMember server (frameMembers frame) index)
            ((frameMembers frame).zipIdx.drop index)).1.server =
          (run (stepMember dispatchMember)
            (loopBefore dispatchMember server (frameMembers frame)
              index).clearLatch
            ((frameMembers frame).zipIdx.drop index)).1.server) := by
  have hWhole := run_append (stepMember dispatchMember) { server := server }
    ((frameMembers frame).zipIdx.take index)
    ((frameMembers frame).zipIdx.drop index)
  rw [List.take_append_drop] at hWhole
  have hLength : (run (stepMember dispatchMember) { server := server }
      ((frameMembers frame).zipIdx.take index)).2.length = index := by
    rw [length_run, List.length_take, List.length_zipIdx]
    omega
  have hResults : (dispatchFrameImpl dispatchMember server frame).2.drop index
      = (run (stepMember dispatchMember)
        (loopBefore dispatchMember server (frameMembers frame) index)
        ((frameMembers frame).zipIdx.drop index)).2 := by
    unfold dispatchFrameImpl
    rw [hWhole]
    dsimp only
    rw [List.drop_append_of_le_length (by omega), List.drop_of_length_le
      (by omega), List.nil_append]
    rfl
  have hServer : (dispatchFrameImpl dispatchMember server frame).1 =
      (run (stepMember dispatchMember)
        (loopBefore dispatchMember server (frameMembers frame) index)
        ((frameMembers frame).zipIdx.drop index)).1.server := by
    unfold dispatchFrameImpl
    rw [hWhole]
    rfl
  constructor
  · rintro ⟨hSame, hState⟩
    exact ⟨hResults.symm.trans hSame, hServer.symm.trans hState⟩
  · rintro ⟨hSame, hState⟩
    exact ⟨hResults.trans hSame, hServer.trans hState⟩

private theorem chainsIndependent_iff_latchHarmless
    {dispatchMember : DispatchMember} (hHanded : ∀ server member,
      HandedOver (dispatchMember server member).2.ec)
    (server : Server) (frame : Octets) :
    ChainsIndependent dispatchMember server frame ↔
      LatchHarmless dispatchMember server frame := by
  refine forall_congr' fun index => forall_congr' fun member =>
    forall_congr' fun hMember => forall_congr' fun hAnchor => ?_
  obtain ⟨hBound, -⟩ := List.getElem?_eq_some_iff.mp hMember
  rw [unaffectedFrom_iff _ _ _ hBound.le]
  cases hLatch : (loopBefore dispatchMember server (frameMembers frame)
      index).chainAborted with
  | false =>
      have hSame : (loopBefore dispatchMember server (frameMembers frame)
          index).clearLatch =
          loopBefore dispatchMember server (frameMembers frame) index := by
        unfold FrameLoop.clearLatch
        rw [← hLatch]
      rw [hSame]
      simp
  | true =>
      have hLater : index ≠ 0 := by
        rintro rfl
        cases hLatch
      rw [run_latched_iff hHanded _ (zipIdx_drop_ne_zero hLater) hLatch]
      simp

/-- In both frame entries the chains of a frame are independent exactly if the
latch is harmless; the protected one works on the server as the sequence check
leaves it. -/
theorem chains_independent_iff (server : Server) (streamId : StreamId)
    (sequenceNum : UInt8) (frame : Octets) :
    (ChainsIndependent
          (fun server member => server.decodeAndDispatch streamId member)
          server frame ↔
        LatchHarmless
          (fun server member => server.decodeAndDispatch streamId member)
          server frame) ∧
      (ChainsIndependent
          (fun server member => server.dispatchE2eFragmentCore streamId
            sequenceNum member false)
          (server.seqGateAdmits streamId sequenceNum).1 frame ↔
        LatchHarmless
          (fun server member => server.dispatchE2eFragmentCore streamId
            sequenceNum member false)
          (server.seqGateAdmits streamId sequenceNum).1 frame) := by
  constructor
  · exact chainsIndependent_iff_latchHarmless
      (fun server member =>
        (Server.reportsAdmission_decodeAndDispatch server streamId
          member).handedOver) server frame
  · exact chainsIndependent_iff_latchHarmless
      (fun server member => Server.handedOver_dispatchE2eFragmentCore server
        streamId sequenceNum member)
      (server.seqGateAdmits streamId sequenceNum).1 frame

def rejectedStart : Octets := encodeAcfAbb { byteBusId := 1, rsp := true } []

def readStart : Octets := encodeAcfAbb { byteBusId := 1 } []

def chainedTo1 (cs : Bool) : Octets :=
  encodeAcfGbb { acfMsgType := acfMsgTypeGbb, byteBusId := 1, cs := cs }
    (encodeRequestType .chained [0, 0, 0, 0, 0, 0, 0]) []

def twoChains : Octets :=
  rejectedStart ++ chainedTo1 true ++ readStart ++ chainedTo1 false

def configuredServer : Server :=
  (run Server.step {} [.lifecycle .rcpConfigured]).1

/-- The first chain is aborted, and the second loses its chained member to it,
which would have been stored. -/
theorem chains_independent_of_twoChains :
    let dispatchMember : DispatchMember := fun server member =>
      server.decodeAndDispatch 0 member
    configuredServer.Reachable ∧
      ((configuredServer.dispatchFrame 0 twoChains).2.map
          fun result => result.result) =
        [some (.regmap .requestRejected), some (.dispatch .chainAborted), none,
          some (.dispatch .chainAborted)] ∧
      ((run (stepMember dispatchMember)
          (loopBefore dispatchMember configuredServer (frameMembers twoChains)
            2).clearLatch ((frameMembers twoChains).zipIdx.drop 2)).2.map
          fun result => result.result) =
        [none, some (.dispatch .pending)] ∧
      ¬ChainsIndependent dispatchMember configuredServer twoChains := by
  intro dispatchMember
  have hResults : ((configuredServer.dispatchFrame 0 twoChains).2.map
      fun result => result.result) =
      [some (.regmap .requestRejected), some (.dispatch .chainAborted), none,
        some (.dispatch .chainAborted)] := by decide
  have hCleared : ((run (stepMember dispatchMember)
      (loopBefore dispatchMember configuredServer (frameMembers twoChains)
        2).clearLatch ((frameMembers twoChains).zipIdx.drop 2)).2.map
      fun result => result.result) =
      [none, some (.dispatch .pending)] := by decide
  refine ⟨⟨_, rfl⟩, hResults, hCleared, ?_⟩
  intro hIndependent
  have hSame := (hIndependent 2 readStart (by decide)
    ⟨by decide, by decide⟩).results
  have hMapped := congrArg (List.map fun result : FrameMemberResult =>
    result.result) hSame
  rw [hCleared, List.map_drop] at hMapped
  change ((configuredServer.dispatchFrame 0 twoChains).2.map
    fun result => result.result).drop 2 = _ at hMapped
  rw [hResults] at hMapped
  cases hMapped

end CppRcp.Mock
