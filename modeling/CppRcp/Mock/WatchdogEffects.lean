import CppRcp.Mock.FrameEffects

/-!
# What is recorded of the watchdog kicks

A request that is received kicks the watchdog of its stream, always at time 0,
and nothing else but the entry into the safe state changes a watchdog.
-/

namespace CppRcp.Mock

open CppRcp.Foundation CppRcp.Acf CppRcp.E2e CppRcp.Regmap CppRcp.Server
open CppRcp.Fragment

def KickedAtStart (server : Server) : Prop :=
  ∀ slot, (server.rxWatchdogs.get slot).lastKickMs = 0

namespace KickedAtStart

variable {a b : Server}

theorem of_eq (h : KickedAtStart a) (hEq : b.rxWatchdogs = a.rxWatchdogs) :
    KickedAtStart b := by
  unfold KickedAtStart
  rw [hEq]
  exact h

theorem set (h : KickedAtStart a) {index : Nat} {watchdog : RxWatchdog}
    (hWatchdog : watchdog.lastKickMs = 0)
    (hEq : b.rxWatchdogs = a.rxWatchdogs.set index watchdog) :
    KickedAtStart b := by
  intro slot
  rw [hEq]
  by_cases hSlot : index = slot
  · subst hSlot
    by_cases hIndex : index < tableMaxEntries
    · rwa [Table.get_set_self hIndex]
    · rw [Table.set_of_size_le (Nat.le_of_not_lt hIndex)]
      exact h index
  · rw [Table.get_set_ne hSlot]
    exact h slot

end KickedAtStart

namespace Server

variable {server : Server} {streamId : StreamId}

private theorem kickedAtStart_rxWatchdogKick (h : KickedAtStart server) :
    KickedAtStart (server.rxWatchdogKick streamId 0) := by
  unfold rxWatchdogKick
  dsimp only
  split
  · exact h
  · exact h.set rfl rfl

private theorem rxWatchdogs_seqGateAdmits (server : Server)
    (streamId : StreamId) (sequenceNum : UInt8) :
    (server.seqGateAdmits streamId sequenceNum).1.rxWatchdogs =
      server.rxWatchdogs := by
  unfold seqGateAdmits
  dsimp only
  split <;> rfl

private theorem rxWatchdogs_recordCrcError (server : Server)
    (streamId : StreamId) :
    (server.recordCrcError streamId).rxWatchdogs = server.rxWatchdogs := by
  unfold recordCrcError
  dsimp only
  split <;> rfl

private theorem rxWatchdogs_decodeAndDispatch (server : Server)
    (streamId : StreamId) (frame : Octets) :
    (server.decodeAndDispatch streamId frame).1.rxWatchdogs =
      server.rxWatchdogs :=
  (decodeAndDispatch_effect server streamId frame).sameStreams.rxWatchdogs

private theorem rxWatchdogs_maybeFragmentResponse (server : Server)
    (streamIndex : UInt8) (reply : Reply) :
    (server.maybeFragmentResponse streamIndex reply).1.rxWatchdogs =
      server.rxWatchdogs := by
  unfold maybeFragmentResponse
  dsimp only
  repeat' split
  all_goals rfl

private theorem rxWatchdogs_dispatchReassembled (server : Server)
    (streamId : StreamId) (finalHeader : AcfMessageInfo)
    (messageTimestamp : Nat) (isGbb : Bool) (reassembled : Octets) :
    (server.dispatchReassembled streamId finalHeader messageTimestamp isGbb
      reassembled).1.rxWatchdogs = server.rxWatchdogs := by
  unfold dispatchReassembled
  dsimp only
  generalize (if isGbb = true then _ else _) = encoded
  have hDispatch := rxWatchdogs_decodeAndDispatch server streamId encoded
  split
  · rw [rxWatchdogs_maybeFragmentResponse, hDispatch]
  · exact hDispatch

private theorem rxWatchdogs_dispatchE2eUnfaulted (server : Server)
    (streamId : StreamId) (sequenceNum : UInt8) (frame : Octets)
    (applySeqGate : Bool) :
    (server.dispatchE2eUnfaulted streamId sequenceNum frame
      applySeqGate).1.rxWatchdogs = server.rxWatchdogs := by
  have hGate : (if applySeqGate then server.seqGateAdmits streamId sequenceNum
      else (server, true)).1.rxWatchdogs = server.rxWatchdogs := by
    cases applySeqGate with
    | false => rfl
    | true => exact rxWatchdogs_seqGateAdmits server streamId sequenceNum
  unfold dispatchE2eUnfaulted
  dsimp only
  split
  · rfl
  · split
    · exact rxWatchdogs_decodeAndDispatch _ _ _
    · generalize (if applySeqGate = true then
        server.seqGateAdmits streamId sequenceNum else (server, true)) = gate
        at hGate ⊢
      split
      · exact hGate
      · split
        · rw [rxWatchdogs_decodeAndDispatch, hGate]
        · rw [rxWatchdogs_recordCrcError, hGate]

private theorem kickedAtStart_dispatchE2eCore (h : KickedAtStart server)
    (sequenceNum : UInt8) (frame : Octets) (applySeqGate : Bool) :
    KickedAtStart (server.dispatchE2eCore streamId sequenceNum frame
      applySeqGate).1 := by
  have hKick := @kickedAtStart_rxWatchdogKick server streamId h
  unfold dispatchE2eCore
  dsimp only
  split
  · exact hKick
  · exact hKick.of_eq (rxWatchdogs_dispatchE2eUnfaulted _ _ _ _ _)

private theorem rxWatchdogs_feedIntermediate (server : Server) (slot : Nat)
    (fragment : Octets) :
    (server.feedIntermediate slot fragment).1.rxWatchdogs =
      server.rxWatchdogs := by
  unfold feedIntermediate
  dsimp only
  repeat' split
  all_goals rfl

private theorem rxWatchdogs_feedFinal (server : Server) (streamId : StreamId)
    (slot : Nat) (fragment : Octets) :
    (server.feedFinal streamId slot fragment).1.rxWatchdogs =
      server.rxWatchdogs := by
  unfold feedFinal
  dsimp only
  repeat' split
  all_goals
    first
      | rfl
      | rw [rxWatchdogs_recordCrcError]; rfl
      | rw [rxWatchdogs_dispatchReassembled]; rfl

private theorem kickedAtStart_dispatchE2eFragmentCore (h : KickedAtStart server)
    (sequenceNum : UInt8) (fragment : Octets) (applySeqGate : Bool) :
    KickedAtStart (server.dispatchE2eFragmentCore streamId sequenceNum
      fragment applySeqGate).1 := by
  have hKick := @kickedAtStart_rxWatchdogKick server streamId h
  unfold dispatchE2eFragmentCore dispatchFragmentUnfaulted
  dsimp only
  split
  · exact hKick
  · split
    · exact hKick
    · split
      · exact hKick.of_eq (rxWatchdogs_decodeAndDispatch _ _ _)
      · split
        · exact kickedAtStart_dispatchE2eCore hKick _ _ _
        · split
          · exact hKick.of_eq (rxWatchdogs_feedIntermediate _ _ _)
          · split
            · exact kickedAtStart_dispatchE2eCore hKick _ _ _
            · exact hKick.of_eq (rxWatchdogs_feedFinal _ _ _ _)

private theorem rxWatchdogs_purgeMapped (server : Server) (streamIndex : UInt8)
    (entries : List EpIdMappingEntry) :
    (server.purgeMapped streamIndex entries).1.rxWatchdogs =
      server.rxWatchdogs :=
  @purgeMapped_invariant
    (fun later => later.rxWatchdogs = server.rxWatchdogs)
    (fun _ _ h => h) server streamIndex entries rfl

private theorem kickedAtStart_checkWatchdogOverflow (h : KickedAtStart server)
    (streamId : StreamId) (nowMs : Nat) :
    KickedAtStart (server.checkWatchdogOverflow streamId nowMs).1 := by
  unfold checkWatchdogOverflow
  dsimp only
  split
  · exact h
  · split
    · refine h.set ?_ (rxWatchdogs_purgeMapped _ _ _)
      exact h _
    · exact h

private theorem rxWatchdogs_notifyTrigger (server : Server)
    (sourceEp signalNr : UInt8) :
    (server.notifyTrigger sourceEp signalNr).1.rxWatchdogs =
      server.rxWatchdogs := by
  have hKept := @onEveryBus_invariant
    (fun later => later.rxWatchdogs = server.rxWatchdogs)
    (fun ep => (ep.notifyTrigger sourceEp signalNr).1) (fun _ _ h => h)
    server rfl
  exact hKept

private theorem kickedAtStart_step (h : KickedAtStart server) (op : Op) :
    KickedAtStart (server.step op).1 := by
  have hTag : ∀ (later : Server) bus ep, KickedAtStart later →
      KickedAtStart (later.setAdmission bus ep) :=
    fun _ _ _ hLater => hLater.of_eq rfl
  cases op with
  | dispatch streamId req payload =>
      exact h.of_eq (sameStreams_dispatch _ _ _ _).rxWatchdogs
  | dispatchE2e streamId sequenceNum frame =>
      exact kickedAtStart_dispatchE2eCore h _ _ _
  | dispatchE2eFragment streamId fragment =>
      exact kickedAtStart_dispatchE2eFragmentCore h _ _ _
  | dispatchFrame streamId frame =>
      exact @dispatchFrameImpl_invariant _ KickedAtStart server
        (fun _ _ hLater => hLater.of_eq (rxWatchdogs_decodeAndDispatch _ _ _))
        hTag frame h
  | dispatchFrameE2e streamId sequenceNum frame =>
      have hGated : KickedAtStart
          (server.seqGateAdmits streamId sequenceNum).1 :=
        h.of_eq (rxWatchdogs_seqGateAdmits _ _ _)
      simp only [step, dispatchFrameE2e]
      split
      · exact h
      · rcases hGate : server.seqGateAdmits streamId sequenceNum with
          ⟨gated, _ | _⟩
        · rw [hGate] at hGated
          exact hGated
        · rw [hGate] at hGated
          exact @dispatchFrameImpl_invariant _ KickedAtStart gated
            (fun _ _ hLater =>
              kickedAtStart_dispatchE2eFragmentCore hLater _ _ _)
            hTag frame hGated
  | tick bus ctx =>
      refine h.of_eq ?_
      simp only [step, tick]
      split <;> rfl
  | endpoint bus op => exact h.of_eq rfl
  | notifyTrigger sourceEp signalNr =>
      exact h.of_eq (rxWatchdogs_notifyTrigger _ _ _)
  | notifyGptpLockState locked sourceEp =>
      refine h.of_eq ?_
      simp only [step, notifyGptpLockState]
      split
      · rfl
      · exact rxWatchdogs_notifyTrigger _ _ _
  | checkWatchdogOverflow streamId nowMs =>
      exact kickedAtStart_checkWatchdogOverflow h streamId nowMs
  | lifecycle state => exact h.of_eq rfl
  | registers regs => exact h.of_eq rfl
  | peripherals peripherals => exact h.of_eq rfl
  | resetStreamFault streamId => exact h.of_eq rfl
  | resetReassembler streamId =>
      refine h.of_eq ?_
      simp only [step]
      split <;> rfl
  | respQueue streamId queue =>
      refine h.of_eq ?_
      simp only [step]
      split <;> rfl

theorem kickedAtStart_run (ops : List Op) :
    KickedAtStart (run step {} ops).1 := by
  have hFresh : KickedAtStart {} := by
    intro slot
    have hDefault : ({} : Server).rxWatchdogs.get slot = default :=
      Table.get_replicate_default slot
    rw [hDefault]
    rfl
  exact @invariant_run _ _ _ step KickedAtStart
    (fun _ op h => kickedAtStart_step h op) {} ops hFresh

end Server

end CppRcp.Mock
