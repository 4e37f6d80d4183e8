import CppRcp.Mock.Reassembly

/-!
# Sequence numbers and single fragments

A single fragment carries no sequence number, and its entry passes 0 on.  As
long as the fragment is collected, or dispatched without a checksum, the number
is never looked at.  A whole message given to that entry reaches the sequence
check with it, and is refused or moves the tracker of its stream, unless the
tracker already stands at 0 and the stream does not enforce the order.
-/

namespace CppRcp.Mock

open CppRcp.Foundation CppRcp.Acf CppRcp.E2e CppRcp.Regmap CppRcp.Fragment

/-- One call of the fragment entry. -/
structure FragmentCall where
  streamId : StreamId
  fragment : Octets
  deriving DecidableEq, Repr

def fragmentStep (server : Server) (call : FragmentCall) : Server × Reply :=
  server.dispatchE2eFragment call.streamId call.fragment

/-- Nothing about sequence numbers has happened between two states: no
tracker moved, and every later sequence number is judged as before. -/
structure SameSequence (a b : Server) : Prop where
  trackers : b.seqTrackers = a.seqTrackers
  accepts : ∀ streamId sequenceNum,
    (b.seqGateAdmits streamId sequenceNum).2 =
      (a.seqGateAdmits streamId sequenceNum).2

/-- The call does not reach the sequence check with the number 0, or the check
of 0 neither refuses nor moves the tracker. -/
def SequenceNeutral (server : Server) (call : FragmentCall) : Prop :=
  let peek := decodeAcfMessageInfo call.fragment
  let streamIndex := server.streamIndex call.streamId
  let guard := server.seqTrackers.get (Server.slotOf streamIndex)
  server.streamFaultTracker.isFaulted call.streamId = true ∨
    call.fragment.length < acfCommonHeaderLen ∨
    server.regs.reqCrcEnabled peek.byteBusId = false ∨
    streamIndex = 0 ∨
    peek.ms = true ∨
    (server.fragReassemblers.get (Server.slotOf streamIndex)).collecting =
      true ∨
    (guard.hasLast = true ∧ guard.lastSeq = 0 ∧
      (server.regs.requestStream streamIndex).rxEnforceSeq = false)

/-- A result with the trackers of `server`, that does not report a sequence
error. -/
structure SequenceKept (server : Server) (result : Server × Reply) :
    Prop where
  trackers : result.1.seqTrackers = server.seqTrackers
  admitted : result.2.ec ≠ seqFailed

theorem Quiet.kept {server : Server} {result : Server × Reply}
    (h : Quiet server result) : SequenceKept server result :=
  ⟨h.seqTrackers, h.handedOver .seqError rfl⟩

theorem CheckEffect.kept {server : Server} {streamId : StreamId}
    {result : Server × Reply} (h : CheckEffect server streamId result) :
    result.1.regs = server.regs ∧ SequenceKept server result := by
  cases h with
  | quiet hQuiet => exact ⟨hQuiet.regs, hQuiet.kept⟩
  | recorded hRegs hTrackers hFaults hReply =>
      exact ⟨hRegs, hTrackers, hReply .seqError rfl⟩

theorem SequenceKept.of_server {a b : Server} {result : Server × Reply}
    (h : SequenceKept b result) (hTrackers : b.seqTrackers = a.seqTrackers) :
    SequenceKept a result :=
  ⟨h.trackers.trans hTrackers, h.admitted⟩

namespace Server

/-! ## The sequence check -/

theorem seqGateAdmits_congr {a b : Server}
    (hTrackers : b.seqTrackers = a.seqTrackers) (hRegs : b.regs = a.regs)
    (streamId : StreamId) (sequenceNum : UInt8) :
    (b.seqGateAdmits streamId sequenceNum).2 =
      (a.seqGateAdmits streamId sequenceNum).2 := by
  have hIndex : b.streamIndex streamId = a.streamIndex streamId := by
    rw [streamIndex, streamIndex, hRegs]
  unfold seqGateAdmits
  rw [hIndex, hRegs, hTrackers]
  by_cases hZero : a.streamIndex streamId = 0
  · simp [hZero]
  · simp [hZero]

/-- The check of number 0 admits it and leaves the tracker as it is only if
the tracker stands at 0 and the order is not enforced. -/
theorem evaluate_zero_iff (guard : RxSequenceGuard)
    (cfg : RequestStreamConfig) :
    ((guard.evaluate cfg 0).2.accept = true ∧
        (guard.evaluate cfg 0).1 = guard) ↔
      (guard.hasLast = true ∧ guard.lastSeq = 0 ∧ cfg.rxEnforceSeq = false) := by
  obtain ⟨hasLast, lastSeq⟩ := guard
  cases hasLast with
  | false => simp [RxSequenceGuard.evaluate]
  | true =>
      by_cases hZero : lastSeq = 0
      · subst hZero
        cases hEnforce : cfg.rxEnforceSeq with
        | false => simp [RxSequenceGuard.evaluate, hEnforce]
        | true => simp [RxSequenceGuard.evaluate, hEnforce]
      · simp only [RxSequenceGuard.evaluate, hZero, false_and, and_false,
          iff_false, not_and]
        intro hAccept hSame
        simp only [Bool.not_true, Bool.false_eq_true, if_false] at hAccept hSame
        rw [if_pos hAccept] at hSame
        simp only [RxSequenceGuard.mk.injEq, true_and] at hSame
        exact hZero hSame.symm

private theorem seqGateAdmits_keeps_iff (server : Server) (streamId : StreamId)
    (hIndex : server.streamIndex streamId ≠ 0) :
    ((server.seqGateAdmits streamId 0).2 = true ∧
        (server.seqGateAdmits streamId 0).1.seqTrackers = server.seqTrackers) ↔
      ((server.seqTrackers.get (slotOf (server.streamIndex streamId))).hasLast
          = true ∧
        (server.seqTrackers.get (slotOf (server.streamIndex streamId))).lastSeq
          = 0 ∧
        (server.regs.requestStream
          (server.streamIndex streamId)).rxEnforceSeq = false) := by
  rw [← evaluate_zero_iff]
  unfold seqGateAdmits
  simp only [hIndex, if_false]
  have hSlot := slotOf_streamIndex_lt server streamId
  constructor
  · rintro ⟨hAccept, hTrackers⟩
    refine ⟨hAccept, ?_⟩
    have hGet := congrArg
      (fun table => table.get (slotOf (server.streamIndex streamId))) hTrackers
    rwa [Table.get_set_self hSlot] at hGet
  · rintro ⟨hAccept, hSame⟩
    refine ⟨hAccept, ?_⟩
    rw [hSame, Table.set_get]

/-! ## The fragment entry -/

/-- A whole message behind the fault latch keeps the tracker exactly if the
check of its number does. -/
theorem sequenceKept_dispatchE2eCore_iff {server : Server}
    {streamId : StreamId} {frame : Octets}
    (hFault : server.streamFaultTracker.isFaulted streamId = false)
    (hLen : acfCommonHeaderLen ≤ frame.length)
    (hCrc : server.regs.reqCrcEnabled
      (decodeAcfMessageInfo frame).byteBusId = true) :
    (server.dispatchE2eCore streamId 0 frame true).1.regs = server.regs ∧
      (SequenceKept server (server.dispatchE2eCore streamId 0 frame true) ↔
        ((server.seqGateAdmits streamId 0).2 = true ∧
          (server.seqGateAdmits streamId 0).1.seqTrackers =
            server.seqTrackers)) := by
  have hAccept : ((server.rxWatchdogKick streamId 0).seqGateAdmits streamId
      0).2 = (server.seqGateAdmits streamId 0).2 :=
    seqGateAdmits_congr (by simp) (by simp) streamId 0
  have hMoved : ((server.rxWatchdogKick streamId 0).seqGateAdmits streamId
      0).1.seqTrackers = (server.seqGateAdmits streamId 0).1.seqTrackers := by
    unfold seqGateAdmits
    by_cases hZero : server.streamIndex streamId = 0
    · simp [hZero]
    · simp [hZero]
  have hCases := dispatchE2eUnfaulted_cases (server.rxWatchdogKick streamId 0)
    streamId 0 frame true
  simp only [regs_rxWatchdogKick, hCrc, Nat.not_lt.mpr hLen, hLen, if_true,
    Bool.true_eq_false, or_self, false_and, true_and, false_or] at hCases
  unfold dispatchE2eCore
  dsimp only
  rw [streamFaultTracker_rxWatchdogKick, hFault, if_neg Bool.false_ne_true,
    ← hAccept, ← hMoved]
  rcases hCases with ⟨hRefused, hResult⟩ | ⟨hAdmits, hCheck⟩
  · rw [hResult]
    refine ⟨(regs_seqGateAdmits _ _ _).trans (by simp), ?_⟩
    refine iff_of_false ?_ ?_
    · intro hKept
      exact hKept.admitted rfl
    · rw [hRefused]
      simp
  · obtain ⟨hRegs, hKept⟩ := hCheck.kept
    refine ⟨hRegs.trans ((regs_seqGateAdmits _ _ _).trans (by simp)), ?_⟩
    constructor
    · intro hSame
      exact ⟨hAdmits, hKept.trackers.symm.trans hSame.trackers⟩
    · rintro ⟨-, hSame⟩
      exact hKept.of_server hSame

private theorem seqGateAdmits_of_unconfigured {server : Server}
    {streamId : StreamId}
    (h : server.streamIndex streamId = 0) (sequenceNum : UInt8) :
    server.seqGateAdmits streamId sequenceNum = (server, true) := by
  unfold seqGateAdmits
  simp [h]

end Server

private theorem kept_of_neutral {server : Server} {result : Server × Reply}
    {neutral : Prop} (hRegs : result.1.regs = server.regs)
    (hKept : SequenceKept server result) (hNeutral : neutral) :
    result.1.regs = server.regs ∧ (SequenceKept server result ↔ neutral) :=
  ⟨hRegs, iff_of_true hKept hNeutral⟩

/-- Behind the fault latch, a fragment leaves the registers alone, and the
sequence tracking exactly if it is neutral. -/
theorem sequenceKept_unfaulted_iff {server : Server} {call : FragmentCall}
    (hFault : server.streamFaultTracker.isFaulted call.streamId = false) :
    let result := server.dispatchFragmentUnfaulted call.streamId 0
      call.fragment true
    result.1.regs = server.regs ∧
      (SequenceKept server result ↔ SequenceNeutral server call) := by
  unfold Server.dispatchFragmentUnfaulted SequenceNeutral
  by_cases hLen : call.fragment.length < acfCommonHeaderLen
  · rw [if_pos hLen]
    exact kept_of_neutral rfl ⟨rfl, by simp [seqFailed]⟩ (by simp [hLen])
  · rw [if_neg hLen]
    dsimp only
    cases hCrc : server.regs.reqCrcEnabled
        (decodeAcfMessageInfo call.fragment).byteBusId with
    | false =>
        have hQuiet :=
          server.quiet_decodeAndDispatch call.streamId call.fragment
        exact kept_of_neutral hQuiet.regs hQuiet.kept (by simp)
    | true =>
        rw [if_neg (by simp)]
        obtain ⟨hCoreRegs, hCore⟩ := Server.sequenceKept_dispatchE2eCore_iff
          hFault (Nat.not_lt.mp hLen) hCrc
        by_cases hIndex : server.streamIndex call.streamId = 0
        · rw [if_pos hIndex]
          refine kept_of_neutral hCoreRegs (hCore.mpr ?_) (by simp [hIndex])
          rw [Server.seqGateAdmits_of_unconfigured hIndex]
          exact ⟨rfl, rfl⟩
        · rw [if_neg hIndex]
          cases hMs : (decodeAcfMessageInfo call.fragment).ms with
          | true =>
              have hQuiet := server.quiet_feedIntermediate
                (Server.slotOf (server.streamIndex call.streamId))
                call.fragment
              exact kept_of_neutral hQuiet.regs hQuiet.kept (by simp)
          | false =>
              rw [if_neg Bool.false_ne_true]
              cases hCollecting : (server.fragReassemblers.get
                  (Server.slotOf
                    (server.streamIndex call.streamId))).collecting with
              | true =>
                  obtain ⟨hRegs, hKept⟩ := (server.checkEffect_feedFinal
                    call.streamId
                    (Server.slotOf (server.streamIndex call.streamId))
                    call.fragment).kept
                  exact kept_of_neutral hRegs hKept (by simp)
              | false =>
                  refine ⟨hCoreRegs, ?_⟩
                  have hGate :=
                    server.seqGateAdmits_keeps_iff call.streamId hIndex
                  simp only [Bool.not_false, if_true, hCore, hGate, hFault,
                    hLen, hIndex, Bool.false_eq_true, false_or, reduceCtorEq]

private theorem sequenceNeutral_kicked (server : Server) (call : FragmentCall) :
    SequenceNeutral (server.rxWatchdogKick call.streamId 0) call ↔
      SequenceNeutral server call := by
  simp [SequenceNeutral]

/-- A call of the fragment entry leaves the registers alone, and the sequence
tracking exactly if it is neutral. -/
theorem sequenceKept_fragmentStep_iff (server : Server)
    (call : FragmentCall) :
    (fragmentStep server call).1.regs = server.regs ∧
      (SequenceKept server (fragmentStep server call) ↔
        SequenceNeutral server call) := by
  have hTrackers : (server.rxWatchdogKick call.streamId 0).seqTrackers =
      server.seqTrackers := by simp
  rw [← sequenceNeutral_kicked]
  unfold fragmentStep Server.dispatchE2eFragment
    Server.dispatchE2eFragmentCore
  dsimp only
  cases hFault : (server.rxWatchdogKick call.streamId
      0).streamFaultTracker.isFaulted call.streamId with
  | true =>
      rw [if_pos rfl]
      refine kept_of_neutral (by simp) ⟨hTrackers, ?_⟩ (Or.inl hFault)
      unfold errorReplyFromFrame
      split <;> simp [errorReply, seqFailed]
  | false =>
      rw [if_neg Bool.false_ne_true]
      obtain ⟨hRegs, hKept⟩ := sequenceKept_unfaulted_iff hFault
      refine ⟨hRegs.trans (by simp), ?_⟩
      rw [← hKept]
      constructor
      · intro h
        exact h.of_server hTrackers.symm
      · intro h
        exact h.of_server hTrackers

/-! ## Every sequence of calls -/

/-- The state after the first calls of a sequence. -/
def serverAfter (server : Server) (calls : List FragmentCall) (n : Nat) :
    Server :=
  (run fragmentStep server (calls.take n)).1

private theorem regs_serverAfter (server : Server) (calls : List FragmentCall)
    (n : Nat) : (serverAfter server calls n).regs = server.regs := by
  refine invariant_run (I := fun later : Server => later.regs = server.regs) ?_
    (calls.take n) rfl
  intro later call hRegs
  exact (sequenceKept_fragmentStep_iff later call).1.trans hRegs

private theorem seqTrackers_serverAfter {server : Server}
    {calls : List FragmentCall}
    (h : Along fragmentStep SequenceNeutral server calls) (n : Nat) :
    (serverAfter server calls n).seqTrackers = server.seqTrackers := by
  have hPrefix : Along fragmentStep SequenceNeutral server (calls.take n) := by
    rw [← List.take_append_drop n calls, along_append] at h
    exact h.1
  refine invariant_run_along
    (I := fun later : Server => later.seqTrackers = server.seqTrackers) ?_ rfl hPrefix
  intro later call hTrackers hNeutral
  have hKept := (sequenceKept_fragmentStep_iff later call).2.mpr hNeutral
  exact hKept.trackers.trans hTrackers

/-- A sequence of calls reports no sequence error and leaves the sequence
tracking alone throughout, exactly if every call is neutral. -/
theorem fragments_leave_sequence_iff (server : Server)
    (calls : List FragmentCall) :
    ((∀ reply ∈ (run fragmentStep server calls).2,
        reply.ec ≠ some (.dispatch .seqError)) ∧
      ∀ n, SameSequence server (serverAfter server calls n)) ↔
      Along fragmentStep SequenceNeutral server calls := by
  constructor
  · rintro ⟨hReplies, hSame⟩
    rw [along_iff_getElem]
    intro i hi
    apply (sequenceKept_fragmentStep_iff _ _).2.mp
    constructor
    · have hBefore := (hSame i).trackers
      have hAfter := (hSame (i + 1)).trackers
      rw [serverAfter, run_take_succ _ _ _ _ hi] at hAfter
      exact hAfter.trans hBefore.symm
    · apply hReplies
      have hOutput := getElem?_run fragmentStep server calls i
      rw [List.getElem?_eq_getElem hi, Option.map_some] at hOutput
      exact List.mem_of_getElem? hOutput
  · intro hAlong
    constructor
    · intro reply hReply
      obtain ⟨i, hi, hGet⟩ := List.mem_iff_getElem.mp hReply
      have hBound : i < calls.length := by simpa using hi
      have hOutput := getElem?_run fragmentStep server calls i
      rw [List.getElem?_eq_getElem hi, List.getElem?_eq_getElem hBound,
        Option.map_some, hGet, Option.some.injEq] at hOutput
      rw [hOutput]
      have hNeutral := along_iff_getElem.mp hAlong i hBound
      exact ((sequenceKept_fragmentStep_iff _ _).2.mpr hNeutral).admitted
    · intro n
      have hTrackers := seqTrackers_serverAfter hAlong n
      exact ⟨hTrackers, fun streamId sequenceNum =>
        Server.seqGateAdmits_congr hTrackers (regs_serverAfter server calls n)
          streamId sequenceNum⟩

/-- A server whose stream 1 enforces the order of its sequence numbers and
whose bus 1 takes protected requests. -/
def sequencedServer : Server :=
  { regs := { makeInitialRegisterMap with
      requestStreams := [{ streamId := 1, rxEnforceSeq := true }]
      requestStreams_le := by decide
      genericConfigs := [{ epReqCrcEnable := true }] } }

def wholeMessage : FragmentCall :=
  ⟨1, encodeAcfAbb { byteBusId := 1 } [0, 0, 0, 0]⟩

set_option maxRecDepth 10000 in
/-- Given twice to the fragment entry, a whole message first moves the tracker
of its stream and then is refused for its sequence number. -/
theorem fragments_leave_sequence_of_whole :
    let result := run fragmentStep sequencedServer [wholeMessage, wholeMessage]
    (result.2[1]?.map fun reply => reply.ec) =
        some (some (.dispatch .seqError)) ∧
      (serverAfter sequencedServer [wholeMessage] 1).seqTrackers ≠
        sequencedServer.seqTrackers ∧
      ¬((∀ reply ∈ result.2, reply.ec ≠ some (.dispatch .seqError)) ∧
        ∀ n, SameSequence sequencedServer
          (serverAfter sequencedServer [wholeMessage, wholeMessage] n)) := by
  intro result
  have hRefused : (result.2[1]?.map fun reply => reply.ec) =
      some (some (.dispatch .seqError)) := by decide
  refine ⟨hRefused, by decide, ?_⟩
  rintro ⟨hReplies, -⟩
  obtain ⟨reply, hGet, hError⟩ := Option.map_eq_some_iff.mp hRefused
  exact hReplies reply (List.mem_of_getElem? hGet) hError

end CppRcp.Mock
