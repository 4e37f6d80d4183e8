import CppRcp.Mock.FrameEffects

/-!
# An unconfigured server leaves its endpoints alone

Until the server is configured every request is refused, by whichever entry it
comes in.  No peripheral, queue or store changes, although the entries still
count what they see on the stream.
-/

namespace CppRcp.Mock

open CppRcp.Foundation CppRcp.Acf CppRcp.E2e CppRcp.Regmap CppRcp.Server
open CppRcp.Fragment

/-- The two servers are in the same lifecycle state, and their peripherals,
queues and stores are the same. -/
structure SameBuses (a b : Server) : Prop where
  lifecycle : b.lifecycle = a.lifecycle
  peripherals : b.peripherals = a.peripherals
  admissions : b.admissions = a.admissions

namespace SameBuses

theorem refl (server : Server) : SameBuses server server := ⟨rfl, rfl, rfl⟩

theorem symm {a b : Server} (h : SameBuses a b) : SameBuses b a :=
  ⟨h.lifecycle.symm, h.peripherals.symm, h.admissions.symm⟩

theorem trans {a b c : Server} (hab : SameBuses a b) (hbc : SameBuses b c) :
    SameBuses a c :=
  ⟨hbc.lifecycle.trans hab.lifecycle, hbc.peripherals.trans hab.peripherals,
    hbc.admissions.trans hab.admissions⟩

theorem of_eq {a b : Server} (h : b = a) : SameBuses a b := by
  rw [h]
  exact refl a

theorem closed {a b : Server} (h : SameBuses a b)
    (hClosed : a.lifecycle ≠ .rcpConfigured) :
    b.lifecycle ≠ .rcpConfigured := by
  rwa [h.lifecycle]

end SameBuses

private theorem tagStored_of_sameBuses {before after : Server}
    (h : SameBuses before after) (bus : Option Bus) (group position : Nat) :
    tagStored before after bus group position = after := by
  unfold tagStored
  split
  · rfl
  · rw [if_neg]
    simp [Server.admission, h.admissions]

namespace Server

/-! ## Behind the gate -/

section Closed

variable {server : Server} (hClosed : server.lifecycle ≠ .rcpConfigured)

include hClosed

private theorem operationalRequestsAllowed_closed :
    server.operationalRequestsAllowed = false := by
  simp [operationalRequestsAllowed, hClosed]

private theorem dispatchInner_closed (bus : Bus) (req : AcfMessageInfo)
    (payload : Octets) : (server.dispatchInner bus req payload).1 = server := by
  simp [dispatchInner, operationalRequestsAllowed_closed hClosed]

private theorem dispatch_closed (streamId : StreamId) (req : AcfMessageInfo)
    (payload : Octets) : (server.dispatch streamId req payload).1 = server := by
  unfold dispatch
  split
  · rfl
  · split
    · rfl
    · exact dispatchInner_closed hClosed _ req payload

private theorem admitConditional_closed (streamId : StreamId) (frame : Octets) :
    (server.admitConditional streamId frame).1 = server := by
  unfold admitConditional
  dsimp only
  split
  · rfl
  · rw [operationalRequestsAllowed_closed hClosed]
    rfl

private theorem decodeAndDispatch_closed (streamId : StreamId)
    (frame : Octets) :
    (server.decodeAndDispatch streamId frame).1 = server := by
  unfold decodeAndDispatch
  split
  · rfl
  · split
    · exact admitConditional_closed hClosed streamId frame
    · split
      · split
        · rfl
        · exact dispatch_closed hClosed streamId _ _
      · split
        · rfl
        · exact dispatch_closed hClosed streamId _ _

end Closed

/-! ## What the entries do around it -/

theorem sameBuses_rxWatchdogKick (server : Server) (streamId : StreamId)
    (nowMs : Nat) : SameBuses server (server.rxWatchdogKick streamId nowMs) := by
  unfold rxWatchdogKick
  dsimp only
  split <;> exact ⟨rfl, rfl, rfl⟩

theorem sameBuses_seqGateAdmits (server : Server) (streamId : StreamId)
    (sequenceNum : UInt8) :
    SameBuses server (server.seqGateAdmits streamId sequenceNum).1 := by
  unfold seqGateAdmits
  dsimp only
  split <;> exact ⟨rfl, rfl, rfl⟩

private theorem sameBuses_recordCrcError (server : Server)
    (streamId : StreamId) :
    SameBuses server (server.recordCrcError streamId) := by
  unfold recordCrcError
  dsimp only
  split <;> exact ⟨rfl, rfl, rfl⟩

theorem sameBuses_maybeFragmentResponse (server : Server)
    (streamIndex : UInt8) (reply : Reply) :
    SameBuses server (server.maybeFragmentResponse streamIndex reply).1 := by
  unfold maybeFragmentResponse
  split
  · exact .refl _
  · dsimp only
    split
    · exact .refl _
    · split
      · exact .refl _
      · split
        · exact .refl _
        · split
          · exact .refl _
          · split <;> exact ⟨rfl, rfl, rfl⟩

private theorem sameBuses_feedIntermediate (server : Server) (slot : Nat)
    (fragment : Octets) :
    SameBuses server (server.feedIntermediate slot fragment).1 := by
  unfold feedIntermediate
  dsimp only
  split
  · exact .refl _
  · split
    · split <;> exact ⟨rfl, rfl, rfl⟩
    · split <;> exact ⟨rfl, rfl, rfl⟩

section Closed

variable {server : Server} (hClosed : server.lifecycle ≠ .rcpConfigured)

include hClosed

private theorem sameBuses_dispatchReassembled (streamId : StreamId)
    (header : AcfMessageInfo) (ts : Nat) (isGbb : Bool) (joined : Octets) :
    SameBuses server
      (server.dispatchReassembled streamId header ts isGbb joined).1 := by
  unfold dispatchReassembled
  dsimp only
  generalize (if isGbb = true then _ else _) = encoded
  have hKept := decodeAndDispatch_closed hClosed streamId encoded
  split
  · exact (SameBuses.of_eq hKept).trans (sameBuses_maybeFragmentResponse _ _ _)
  · exact .of_eq hKept

private theorem sameBuses_feedFinal (streamId : StreamId) (slot : Nat)
    (fragment : Octets) :
    SameBuses server (server.feedFinal streamId slot fragment).1 := by
  unfold feedFinal
  dsimp only
  split
  · exact ⟨rfl, rfl, rfl⟩
  · split
    · exact ⟨rfl, rfl, rfl⟩
    · split
      · exact ⟨rfl, rfl, rfl⟩
      · split
        · next reasm _ =>
            have hReset : SameBuses server
                (server.setReassembler slot reasm.reset) := ⟨rfl, rfl, rfl⟩
            split
            · exact hReset.trans (sameBuses_recordCrcError _ _)
            · generalize (if decide ((decodeAcfMessageInfo
                fragment).acfMsgType = acfMsgTypeGbb) = true then
                  acfGbbMaxPayload else acfAbbMaxPayload) = bound
              split
              · exact hReset
              · exact hReset.trans (sameBuses_dispatchReassembled
                  (hReset.closed hClosed) _ _ _ _ _)
        · exact ⟨rfl, rfl, rfl⟩

private theorem sameBuses_decodeAndDispatch (streamId : StreamId)
    (frame : Octets) :
    SameBuses server (server.decodeAndDispatch streamId frame).1 :=
  .of_eq (decodeAndDispatch_closed hClosed streamId frame)

private theorem sameBuses_dispatchE2eUnfaulted (streamId : StreamId)
    (sequenceNum : UInt8) (frame : Octets) (applySeqGate : Bool) :
    SameBuses server (server.dispatchE2eUnfaulted streamId sequenceNum frame
      applySeqGate).1 := by
  unfold dispatchE2eUnfaulted
  split
  · exact .refl _
  · dsimp only
    split
    · exact sameBuses_decodeAndDispatch hClosed _ _
    · have hGate : SameBuses server (if applySeqGate = true then
          server.seqGateAdmits streamId sequenceNum else (server, true)).1 := by
        split
        · exact sameBuses_seqGateAdmits _ _ _
        · exact .refl _
      revert hGate
      generalize (if applySeqGate = true then
        server.seqGateAdmits streamId sequenceNum else (server, true)) = gate
      intro hGate
      split
      · exact hGate
      · split
        · exact hGate.trans
            (sameBuses_decodeAndDispatch (hGate.closed hClosed) _ _)
        · exact hGate.trans (sameBuses_recordCrcError _ _)

private theorem sameBuses_dispatchE2eCore (streamId : StreamId)
    (sequenceNum : UInt8) (frame : Octets) (applySeqGate : Bool) :
    SameBuses server
      (server.dispatchE2eCore streamId sequenceNum frame applySeqGate).1 := by
  have hKick := sameBuses_rxWatchdogKick server streamId 0
  unfold dispatchE2eCore
  dsimp only
  split
  · exact hKick
  · exact hKick.trans
      (sameBuses_dispatchE2eUnfaulted (hKick.closed hClosed) _ _ _ _)

private theorem sameBuses_dispatchFragmentUnfaulted (streamId : StreamId)
    (sequenceNum : UInt8) (fragment : Octets) (applySeqGate : Bool) :
    SameBuses server (server.dispatchFragmentUnfaulted streamId sequenceNum
      fragment applySeqGate).1 := by
  unfold dispatchFragmentUnfaulted
  split
  · exact .refl _
  · dsimp only
    split
    · exact sameBuses_decodeAndDispatch hClosed _ _
    · split
      · exact sameBuses_dispatchE2eCore hClosed _ _ _ _
      · split
        · exact sameBuses_feedIntermediate _ _ _
        · split
          · exact sameBuses_dispatchE2eCore hClosed _ _ _ _
          · exact sameBuses_feedFinal hClosed _ _ _

private theorem sameBuses_dispatchE2eFragmentCore (streamId : StreamId)
    (sequenceNum : UInt8) (fragment : Octets) (applySeqGate : Bool) :
    SameBuses server (server.dispatchE2eFragmentCore streamId sequenceNum
      fragment applySeqGate).1 := by
  have hKick := sameBuses_rxWatchdogKick server streamId 0
  unfold dispatchE2eFragmentCore
  dsimp only
  split
  · exact hKick
  · exact hKick.trans
      (sameBuses_dispatchFragmentUnfaulted (hKick.closed hClosed) _ _ _ _)

end Closed

/-! ## Frames -/

private theorem sameBuses_dispatchFrameImpl {dispatchMember : DispatchMember}
    (hMember : ∀ server member, server.lifecycle ≠ .rcpConfigured →
      SameBuses server (dispatchMember server member).1)
    {server : Server} (hClosed : server.lifecycle ≠ .rcpConfigured)
    (frame : Octets) :
    SameBuses server (dispatchFrameImpl dispatchMember server frame).1 := by
  refine @invariant_run _ _ _ (stepMember dispatchMember)
    (fun state : FrameLoop => SameBuses server state.server) ?_
    { server := server } _ (.refl server)
  intro state input hState
  have hNext := hMember state.server input.1 (hState.closed hClosed)
  cases memberEffect_stepMember dispatchMember state input with
  | refused hServer hResult hCode =>
      rw [hServer]
      exact hState
  | dispatched bus group position hServer hResult =>
      rw [hServer, tagStored_of_sameBuses hNext]
      exact hState.trans hNext

private theorem sameBuses_dispatchFrame {server : Server}
    (hClosed : server.lifecycle ≠ .rcpConfigured) (streamId : StreamId)
    (frame : Octets) :
    SameBuses server (server.dispatchFrame streamId frame).1 :=
  sameBuses_dispatchFrameImpl
    (fun _ member h => sameBuses_decodeAndDispatch h streamId member) hClosed
    frame

private theorem sameBuses_dispatchFrameE2e {server : Server}
    (hClosed : server.lifecycle ≠ .rcpConfigured) (streamId : StreamId)
    (sequenceNum : UInt8) (frame : Octets) :
    SameBuses server
      (server.dispatchFrameE2e streamId sequenceNum frame).1 := by
  have hGate := sameBuses_seqGateAdmits server streamId sequenceNum
  unfold dispatchFrameE2e
  dsimp only
  split
  · exact .refl _
  · split
    · next hEq =>
        rw [hEq] at hGate
        exact hGate
    · next hEq =>
        rw [hEq] at hGate
        exact hGate.trans (sameBuses_dispatchFrameImpl
          (fun _ member h =>
            sameBuses_dispatchE2eFragmentCore h streamId sequenceNum member
              false) (hGate.closed hClosed) frame)

/-! ## Runs -/

/-- The entries that take a request. -/
def IsDispatch : Op → Prop
  | .dispatch _ _ _ | .dispatchE2e _ _ _ | .dispatchE2eFragment _ _
  | .dispatchFrame _ _ | .dispatchFrameE2e _ _ _ => True
  | _ => False

private theorem sameBuses_step {server : Server}
    (hClosed : server.lifecycle ≠ .rcpConfigured) {op : Op}
    (hDispatch : IsDispatch op) : SameBuses server (server.step op).1 := by
  cases op with
  | dispatch streamId req payload =>
      exact .of_eq (dispatch_closed hClosed streamId req payload)
  | dispatchE2e streamId sequenceNum frame =>
      exact sameBuses_dispatchE2eCore hClosed streamId sequenceNum frame true
  | dispatchE2eFragment streamId fragment =>
      exact sameBuses_dispatchE2eFragmentCore hClosed streamId 0 fragment true
  | dispatchFrame streamId frame =>
      exact sameBuses_dispatchFrame hClosed streamId frame
  | dispatchFrameE2e streamId sequenceNum frame =>
      exact sameBuses_dispatchFrameE2e hClosed streamId sequenceNum frame
  | _ => exact absurd hDispatch id

/-- The state of a run before its operation at an index. -/
def stateAt (server : Server) (ops : List Op) (index : Nat) : Server :=
  (run step server (ops.take index)).1

/-- In every run, a dispatch on a server that is not configured leaves every
peripheral, queue and store as it was, and so does any number of them in a
row. -/
theorem dispatch_unconfigured (server : Server) (ops : List Op)
    {first last : Nat} (hLe : first ≤ last) (hLast : last ≤ ops.length)
    (hClosed : (stateAt server ops first).lifecycle ≠ .rcpConfigured)
    (hDispatch : ∀ index op, first ≤ index → index < last →
      ops[index]? = some op → IsDispatch op) :
    SameBuses (stateAt server ops first) (stateAt server ops last) := by
  induction last, hLe using Nat.le_induction with
  | base => exact .refl _
  | succ last hLe ih =>
      have hIndex : last < ops.length := hLast
      have hBefore := ih (by omega) fun index op hFirst hBound =>
        hDispatch index op hFirst (by omega)
      have hOp := hDispatch last ops[last] hLe (Nat.lt_succ_self _) (by simp)
      have hStep := sameBuses_step (hBefore.closed hClosed) hOp
      unfold stateAt at hBefore hStep ⊢
      rw [run_take_succ _ _ _ _ hIndex]
      exact hBefore.trans hStep

def unconfiguredOps : List Op :=
  [.dispatch 0 { byteBusId := 1, op := true } [0, 0, 0, 1],
    .dispatchFrame 0 (encodeAcfAbb { byteBusId := 1, op := true } [0, 0, 0, 1])]

theorem dispatch_unconfigured_ops :
    SameBuses (stateAt {} unconfiguredOps 0) (stateAt {} unconfiguredOps 2) := by
  apply dispatch_unconfigured {} unconfiguredOps (by decide) (by decide)
    (by decide)
  intro index op _ hLast hOp
  interval_cases index
  · cases hOp
    trivial
  · cases hOp
    trivial

end Server

end CppRcp.Mock
