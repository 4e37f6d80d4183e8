import CppRcp.Properties.JoinedFragments

/-!
# Which fragments are withheld from the endpoints

A fragment that announces more segments is kept from the endpoints if its
endpoint takes protected requests and its stream is configured.  The segments
accepted so far make up what the reassembler of the stream holds, and are
handed over once, with the fragment that completes them.  Any other dispatch
has no reassembler, and takes each fragment for a message of its own.
-/

namespace CppRcp.Mock

open CppRcp.Foundation CppRcp.Acf CppRcp.E2e CppRcp.Regmap CppRcp.Fragment
open CppRcp.Server

/-! ## The segments of a slot -/

instance (server : Server) (arrival : Arrival) :
    Decidable (arrival.Protected server) :=
  inferInstanceAs (Decidable (_ ∧ _))

def Accepted (server : Server) (arrival : Arrival) : Prop :=
  arrival.Protected server ∧ arrival.header.ms = true ∧
    (arrival.dispatch server).2.ec = some (.dispatch .fragmentPending)

instance (server : Server) (arrival : Arrival) :
    Decidable (Accepted server arrival) :=
  inferInstanceAs (Decidable (_ ∧ _ ∧ _))

/-- The segments of a slot after one more arrival; a slot that collects nothing
starts with the first segment it accepts. -/
def collect (slot : Nat) (segments : List Octets)
    (past : Server × Arrival) : List Octets :=
  if Accepted past.1 past.2 ∧ past.2.slot past.1 = slot then
    (if (past.1.fragReassemblers.get slot).collecting then segments else []) ++
      [past.2.fragment]
  else segments

def segmentsAt (slot : Nat) (history : List (Server × Arrival)) :
    List Octets :=
  history.foldl (collect slot) []

private theorem segmentsAt_append (slot : Nat)
    (history : List (Server × Arrival)) (past : Server × Arrival) :
    segmentsAt slot (history ++ [past]) =
      collect slot (segmentsAt slot history) past := by
  simp [segmentsAt]

def InSequence (segments : List Octets) : Prop :=
  ∀ number segment, segments[number]? = some segment →
    (decodeAcfMessageInfo segment).ms = true ∧
      (decodeAcfMessageInfo segment).readSizeOrSegmentNum.toNat = number

theorem InSequence.snoc {segments : List Octets} {fragment : Octets}
    (h : InSequence segments)
    (hMs : (decodeAcfMessageInfo fragment).ms = true)
    (hNumber : (decodeAcfMessageInfo fragment).readSizeOrSegmentNum.toNat =
      segments.length) :
    InSequence (segments ++ [fragment]) := by
  intro number segment hSegment
  rcases Nat.lt_trichotomy number segments.length with hLt | rfl | hGt
  · rw [List.getElem?_append_left hLt] at hSegment
    exact h number segment hSegment
  · rw [List.getElem?_concat_length] at hSegment
    cases hSegment
    exact ⟨hMs, hNumber⟩
  · rw [List.getElem?_eq_none (by simp; omega)] at hSegment
    cases hSegment

def Empty (reasm : Reassembler) : Prop :=
  reasm.collecting = false ∧ reasm.buf = []

structure HoldsAll (reasm : Reassembler) (segments : List Octets) : Prop where
  some : segments ≠ []
  sequence : InSequence segments
  buf : reasm.buf = (segments.map segmentPayload).flatten
  expected : reasm.expectedSegmentNum.toNat = segments.length

def SlotInvariant (server : Server) (history : List (Server × Arrival))
    (slot : Nat) : Prop :=
  Empty (server.fragReassemblers.get slot) ∨
    (server.fragReassemblers.get slot).collecting = true ∧
      HoldsAll (server.fragReassemblers.get slot) (segmentsAt slot history)

/-! ## Runs -/

/-- The states a server passes through while fragments arrive, each recorded
with the state it found.  In between the server does anything, and its host
may change the registers or put an empty reassembler in place of another. -/
inductive Ran (start : Server) : List (Server × Arrival) → Server → Prop
  | start : Ran start [] start
  | fragment {history : List (Server × Arrival)} {server : Server}
      (h : Ran start history server) (arrival : Arrival) :
      Ran start (history ++ [(server, arrival)]) (arrival.dispatch server).1
  | between {history : List (Server × Arrival)} {server later : Server}
      (h : Ran start history server)
      (hBetween : ∀ slot, later.fragReassemblers.get slot =
          server.fragReassemblers.get slot ∨
        Empty (later.fragReassemblers.get slot)) :
      Ran start history later

private theorem Undisturbed.keepsSlots {a b : Server} (h : Undisturbed a b)
    (slot : Nat) :
    b.fragReassemblers.get slot = a.fragReassemblers.get slot ∨
      Empty (b.fragReassemblers.get slot) := by
  rcases h.slots slot with ⟨hReasm, -⟩ | hReset
  · exact Or.inl hReasm
  · right
    rw [hReset]
    exact ⟨rfl, rfl⟩

private theorem Ran.of_received {start server later : Server}
    {history arrived : List (Server × Arrival)} (h : Ran start history server)
    (hReceived : Received server arrived later) :
    Ran start (history ++ arrived) later := by
  induction hReceived with
  | start => simpa using h
  | fragment hReceived arrival ih =>
      rw [← List.append_assoc]
      exact ih.fragment arrival
  | between hReceived hBetween ih => exact ih.between hBetween.keepsSlots

theorem ran_run {start server : Server} {history : List (Server × Arrival)}
    (h : Ran start history server) (ops : List Op) :
    ∃ arrived, Ran start (history ++ arrived)
      (run Server.step server ops).1 := by
  induction ops generalizing server history with
  | nil => exact ⟨[], by simpa using h⟩
  | cons op ops ih =>
      have hStep : ∃ arrived, Ran start (history ++ arrived)
          (server.step op).1 := by
        by_cases hRegs : ∃ regs, op = .registers regs
        · obtain ⟨regs, rfl⟩ := hRegs
          have hRan : Ran start history (server.step (.registers regs)).1 :=
            h.between fun slot => Or.inl rfl
          exact ⟨[], by simpa using hRan⟩
        · obtain ⟨arrived, hArrived⟩ := (Received.start).step op
            fun regs hOp => hRegs ⟨regs, hOp⟩
          exact ⟨_, h.of_received hArrived⟩
      obtain ⟨arrived, hArrived⟩ := hStep
      obtain ⟨more, hMore⟩ := ih hArrived
      exact ⟨arrived ++ more, by rwa [List.append_assoc] at hMore⟩

/-! ## One fragment -/

theorem SegmentTurn.of_kick {a b : Server} {arrival : Arrival}
    {result : Server × Reply} (hRegs : b.regs = a.regs)
    (hEndpoints : SameEndpoints a b)
    (hReassemblers : b.fragReassemblers = a.fragReassemblers)
    (hHeaders : b.fragFirstHeaders = a.fragFirstHeaders)
    (h : SegmentTurn b arrival result) : SegmentTurn a arrival result := by
  have hSlot := arrival.slot_congr hRegs
  cases h with
  | refused hCode hWork hReassembly =>
      exact .refused hCode (hEndpoints.trans hWork)
        ((Undisturbed.of_eq hRegs hReassemblers hHeaders).trans hReassembly)
  | collected hCode hFeed hLater hWork hFed hFirst =>
      rw [hSlot, hReassemblers] at hFeed hFed hFirst
      rw [hHeaders] at hFirst
      exact .collected hCode hFeed (hLater.trans hRegs)
        (hEndpoints.trans hWork) hFed hFirst

theorem FinalTurn.of_kick {a b : Server} {arrival : Arrival}
    {result : Server × Reply} (hRegs : b.regs = a.regs)
    (hEndpoints : SameEndpoints a b)
    (hReassemblers : b.fragReassemblers = a.fragReassemblers)
    (hHeaders : b.fragFirstHeaders = a.fragFirstHeaders)
    (h : FinalTurn b arrival result) : FinalTurn a arrival result := by
  have hSlot := arrival.slot_congr hRegs
  have hKept : Undisturbed a b := .of_eq hRegs hReassemblers hHeaders
  cases h with
  | refused ec hRefusal hCode hWork hReassembly =>
      exact .refused ec hRefusal hCode (hEndpoints.trans hWork)
        (hKept.trans hReassembly)
  | joined message hWork hReassembly hEmptied hCompletes =>
      rw [hSlot, hReassemblers] at hEmptied hCompletes
      rw [hHeaders] at hCompletes
      exact .joined message (hEndpoints.trans hWork) (hKept.trans hReassembly)
        hEmptied hCompletes

def earlyRefusals : List ErrorCode :=
  [.dispatch .streamFaulted, .regmap .invalidParameter]

/-- What becomes of a fragment for an endpoint that takes protected requests,
on a configured stream. -/
inductive ProtectedTurn (server : Server) (arrival : Arrival) :
    Server × Reply → Prop
  | early {result : Server × Reply} (ec : ErrorCode)
      (hRefusal : ec ∈ earlyRefusals)
      (hCode : result.2.ec = some ec)
      (hEndpoints : SameEndpoints server result.1)
      (hReassembly : Undisturbed server result.1) :
      ProtectedTurn server arrival result
  | segment {result : Server × Reply} (hMs : arrival.header.ms = true)
      (hTurn : SegmentTurn server arrival result) :
      ProtectedTurn server arrival result
  | final {result : Server × Reply} (hMs : arrival.header.ms = false)
      (hCollecting : (server.fragReassemblers.get
        (arrival.slot server)).collecting = true)
      (hTurn : FinalTurn server arrival result) :
      ProtectedTurn server arrival result
  | whole {later : Server} (hMs : arrival.header.ms = false)
      (hIdle : (server.fragReassemblers.get
        (arrival.slot server)).collecting = false)
      (hEndpoints : SameEndpoints server later)
      (hReassembly : Undisturbed server later) :
      ProtectedTurn server arrival
        (later.dispatchE2eCore arrival.streamId arrival.sequenceNum
          arrival.fragment arrival.applySeqGate)

private theorem protectedTurn_dispatch {server : Server} {arrival : Arrival}
    (h : arrival.Protected server) :
    ProtectedTurn server arrival (arrival.dispatch server) := by
  obtain ⟨hCrc, hIndex⟩ := h
  have hEndpoints := sameEndpoints_rxWatchdogKick server arrival.streamId 0
  have hKept := Server.undisturbed_rxWatchdogKick server arrival.streamId 0
  have hHeaders := fragFirstHeaders_rxWatchdogKick server arrival.streamId 0
  have hRegs := Server.regs_rxWatchdogKick server arrival.streamId 0
  have hReassemblers :=
    Server.fragReassemblers_rxWatchdogKick server arrival.streamId 0
  unfold Arrival.dispatch Server.dispatchE2eFragmentCore
  dsimp only
  generalize server.rxWatchdogKick arrival.streamId 0 = kicked at *
  have hSlot := arrival.slot_congr hRegs
  split
  · next hFaulted =>
      refine .early (.dispatch .streamFaulted) (by simp [earlyRefusals]) ?_
        hEndpoints hKept
      unfold errorReplyFromFrame
      split <;> rfl
  · unfold Server.dispatchFragmentUnfaulted
    split
    · exact .early (.regmap .invalidParameter) (by simp [earlyRefusals]) rfl
        hEndpoints hKept
    · dsimp only
      rw [hRegs, ← Arrival.header, hCrc, hKept.streamIndex, if_neg hIndex]
      simp only [Bool.not_true, Bool.false_eq_true, if_false]
      have hAt : Server.slotOf (server.streamIndex arrival.streamId) =
          arrival.slot kicked := hSlot.symm
      rw [hAt]
      split
      · next hMs =>
          exact .segment hMs
            ((Server.segmentTurn_feedIntermediate kicked arrival).of_kick hRegs
              hEndpoints hReassemblers hHeaders)
      · next hMs =>
          have hLast := Bool.eq_false_iff.mpr hMs
          split
          · next hIdle =>
              refine .whole hLast ?_ hEndpoints hKept
              rw [← hSlot, ← hReassemblers]
              simpa using hIdle
          · next hCollecting =>
              refine .final hLast ?_
                ((Server.finalTurn_feedFinal hLast).of_kick hRegs hEndpoints
                  hReassemblers hHeaders)
              rw [← hSlot, ← hReassemblers]
              simpa using hCollecting

private theorem undisturbed_of_not_accepted {server : Server}
    {arrival : Arrival} (h : ¬Accepted server arrival) :
    Undisturbed server (arrival.dispatch server).1 := by
  by_cases hProtected : arrival.Protected server
  · have hTurn := protectedTurn_dispatch hProtected
    unfold Accepted at h
    revert hTurn h
    generalize arrival.dispatch server = result
    intro h hTurn
    cases hTurn with
    | early ec hRefusal hCode hEndpoints hReassembly => exact hReassembly
    | segment hMs hTurn =>
        cases hTurn with
        | refused hCode hEndpoints hReassembly => exact hReassembly
        | collected hCode => exact absurd ⟨hProtected, hMs, hCode⟩ h
    | final hMs hCollecting hTurn =>
        cases hTurn with
        | refused ec hRefusal hCode hEndpoints hReassembly => exact hReassembly
        | joined message hEndpoints hReassembly =>
            exact hReassembly.trans
              (Server.undisturbed_dispatchReassembled _ _ _ _ _ _)
    | whole hMs hIdle hEndpoints hReassembly =>
        exact hReassembly.trans (Server.undisturbed_dispatchE2eCore _ _ _ _ _)
  · have hTurn := turn_dispatch server arrival
    revert hTurn
    generalize arrival.dispatch server = result
    intro hTurn
    cases hTurn with
    | withheld hEndpoints hReassembly => exact hReassembly
    | alone hEndpoints hAlone hReassembly => exact hReassembly
    | collected hOther => exact absurd hOther hProtected
    | joined message hOther => exact absurd hOther hProtected

private theorem fed_of_accepted {server : Server} {arrival : Arrival}
    (h : Accepted server arrival) :
    ((server.fragReassemblers.get (arrival.slot server)).feed true
        arrival.header.readSizeOrSegmentNum
        (segmentPayload arrival.fragment)).2 = .continue ∧
      (arrival.dispatch server).1.fragReassemblers =
        server.fragReassemblers.set (arrival.slot server)
          ((server.fragReassemblers.get (arrival.slot server)).feed true
            arrival.header.readSizeOrSegmentNum
            (segmentPayload arrival.fragment)).1 := by
  obtain ⟨hProtected, hMs, hPending⟩ := h
  have hTurn := protectedTurn_dispatch hProtected
  revert hTurn hPending
  generalize arrival.dispatch server = result
  intro hPending hTurn
  cases hTurn with
  | early ec hRefusal hCode =>
      rw [hPending] at hCode
      cases hCode
      simp [earlyRefusals] at hRefusal
  | segment _ hTurn =>
      cases hTurn with
      | refused hCode =>
          rw [hPending] at hCode
          cases hCode
      | collected hCode hFeed hRegs hEndpoints hReassemblers =>
          exact ⟨hFeed, hReassemblers⟩
  | final hLast => exact absurd hMs (Bool.eq_false_iff.mp hLast)
  | whole hLast => exact absurd hMs (Bool.eq_false_iff.mp hLast)

/-! ## What the slots hold -/

private theorem holdsAll_first {reasm : Reassembler} {fragment : Octets}
    (hEmpty : Empty reasm)
    (hMs : (decodeAcfMessageInfo fragment).ms = true)
    (hFeed : (reasm.feed true
      (decodeAcfMessageInfo fragment).readSizeOrSegmentNum
      (segmentPayload fragment)).2 = .continue) :
    HoldsAll (reasm.feed true
      (decodeAcfMessageInfo fragment).readSizeOrSegmentNum
      (segmentPayload fragment)).1 [fragment] := by
  obtain ⟨hZero, -, hBuf, hNext⟩ := feed_first hEmpty.1 hFeed
  have hNothing : InSequence [] := by simp [InSequence]
  refine ⟨by simp, hNothing.snoc hMs (by simp [hZero]), ?_, ?_⟩
  · rw [hBuf, hEmpty.2]
    simp
  · rw [hNext]
    rfl

theorem HoldsAll.next {reasm : Reassembler} {segments : List Octets}
    {fragment : Octets} (h : HoldsAll reasm segments)
    (hCollecting : reasm.collecting = true)
    (hMs : (decodeAcfMessageInfo fragment).ms = true)
    (hFeed : (reasm.feed true
      (decodeAcfMessageInfo fragment).readSizeOrSegmentNum
      (segmentPayload fragment)).2 = .continue) :
    HoldsAll (reasm.feed true
      (decodeAcfMessageInfo fragment).readSizeOrSegmentNum
      (segmentPayload fragment)).1 (segments ++ [fragment]) := by
  obtain ⟨hNumber, -, hBuf, hNext⟩ := feed_next hCollecting hFeed
  have hLength : (decodeAcfMessageInfo fragment).readSizeOrSegmentNum.toNat =
      segments.length := by rw [hNumber, h.expected]
  have hLt := segmentNum_lt fragment
  refine ⟨by simp, h.sequence.snoc hMs hLength, ?_, ?_⟩
  · rw [hBuf, h.buf]
    simp
  · rw [hNext, UInt16.toNat_add, h.expected, List.length_append,
      List.length_singleton, UInt16.toNat_one]
    omega

theorem SlotInvariant.kept {server later : Server}
    {history : List (Server × Arrival)} {slot : Nat}
    (h : SlotInvariant server history slot)
    (hKept : later.fragReassemblers.get slot =
        server.fragReassemblers.get slot ∨
      Empty (later.fragReassemblers.get slot)) :
    SlotInvariant later history slot := by
  rcases hKept with hSame | hEmpty
  · unfold SlotInvariant
    rw [hSame]
    exact h
  · exact Or.inl hEmpty

theorem SlotInvariant.accepted {server : Server} {arrival : Arrival}
    {history : List (Server × Arrival)}
    (h : SlotInvariant server history (arrival.slot server))
    (hAccepted : Accepted server arrival) :
    SlotInvariant (arrival.dispatch server).1 (history ++ [(server, arrival)])
      (arrival.slot server) := by
  obtain ⟨hFeed, hReassemblers⟩ := fed_of_accepted hAccepted
  have hMs : (decodeAcfMessageInfo arrival.fragment).ms = true := hAccepted.2.1
  have hLt : arrival.slot server < tableMaxEntries :=
    Server.slotOf_streamIndex_lt server arrival.streamId
  right
  rw [hReassemblers, Table.get_set_self hLt, segmentsAt_append, collect,
    if_pos ⟨hAccepted, rfl⟩]
  rcases h with hEmpty | ⟨hCollecting, hHolds⟩
  · rw [hEmpty.1, if_neg (by decide), List.nil_append]
    exact ⟨(feed_first hEmpty.1 hFeed).2.1, holdsAll_first hEmpty hMs hFeed⟩
  · rw [if_pos hCollecting]
    exact ⟨(feed_next hCollecting hFeed).2.1,
      hHolds.next hCollecting hMs hFeed⟩

theorem SlotInvariant.dispatch {server : Server}
    {history : List (Server × Arrival)} {slot : Nat}
    (h : SlotInvariant server history slot) (arrival : Arrival) :
    SlotInvariant (arrival.dispatch server).1 (history ++ [(server, arrival)])
      slot := by
  by_cases hHere : Accepted server arrival ∧ arrival.slot server = slot
  · obtain ⟨hAccepted, rfl⟩ := hHere
    exact h.accepted hAccepted
  · have hSegments : segmentsAt slot (history ++ [(server, arrival)]) =
        segmentsAt slot history := by
      rw [segmentsAt_append, collect, if_neg hHere]
    have hKept : (arrival.dispatch server).1.fragReassemblers.get slot =
          server.fragReassemblers.get slot ∨
        Empty ((arrival.dispatch server).1.fragReassemblers.get slot) := by
      by_cases hAccepted : Accepted server arrival
      · left
        rw [(fed_of_accepted hAccepted).2]
        exact Table.get_set_ne fun hSlot => hHere ⟨hAccepted, hSlot⟩
      · exact (undisturbed_of_not_accepted hAccepted).keepsSlots slot
    unfold SlotInvariant
    rw [hSegments]
    exact h.kept hKept

theorem Ran.invariant {start server : Server}
    {history : List (Server × Arrival)} (hStart : Idle start)
    (h : Ran start history server) (slot : Nat) :
    SlotInvariant server history slot := by
  induction h with
  | start => exact Or.inl (hStart slot)
  | fragment h arrival ih => exact ih.dispatch arrival
  | between h hBetween ih => exact ih.kept (hBetween slot)

/-! ## What reaches an endpoint -/

/-- What a fragment hands to an endpoint.  One that announces more segments
hands over nothing.  Any other hands over nothing, itself if no message is
being collected, or the segments its slot has collected and itself; that slot
is empty then. -/
inductive HandsOver (server : Server) (history : List (Server × Arrival))
    (arrival : Arrival) : Server × Reply → Prop
  | nothing {result : Server × Reply} (ec : ErrorCode)
      (hRefusal : ec ∈ .dispatch .fragmentPending ::
        (earlyRefusals ++ finalRefusals))
      (hCode : result.2.ec = some ec)
      (hEndpoints : SameEndpoints server result.1) :
      HandsOver server history arrival result
  | itself {later : Server} (hLast : arrival.header.ms = false)
      (hEmpty : Empty (server.fragReassemblers.get (arrival.slot server)))
      (hEndpoints : SameEndpoints server later) :
      HandsOver server history arrival
        (later.dispatchE2eCore arrival.streamId arrival.sequenceNum
          arrival.fragment arrival.applySeqGate)
  | joined (message : JoinedMessage) {later : Server}
      (hLast : arrival.header.ms = false)
      (hSome : segmentsAt (arrival.slot server) history ≠ [])
      (hSequence : InSequence (segmentsAt (arrival.slot server) history))
      (hPayload : message.payload =
        ((segmentsAt (arrival.slot server) history).map
          segmentPayload).flatten ++ lastPayload arrival.fragment)
      (hHeader : message.header.resized = arrival.header.resized)
      (hEmptied : Empty (later.fragReassemblers.get (arrival.slot server)))
      (hEndpoints : SameEndpoints server later) :
      HandsOver server history arrival
        (message.dispatch arrival.streamId later)

/-- Whatever has happened before, a fragment for an endpoint that takes
protected requests, on a configured stream, is withheld if it announces more
segments, and completes the segments accepted before if it is the last. -/
theorem fragments_withheld {start server : Server}
    {history : List (Server × Arrival)} (hStart : Idle start)
    (hRan : Ran start history server) (arrival : Arrival)
    (hProtected : arrival.Protected server) :
    HandsOver server history arrival (arrival.dispatch server) := by
  have hSlot := hRan.invariant hStart (arrival.slot server)
  have hTurn := protectedTurn_dispatch hProtected
  revert hTurn
  generalize arrival.dispatch server = result
  intro hTurn
  cases hTurn with
  | early ec hRefusal hCode hEndpoints =>
      exact .nothing ec (by simp [hRefusal]) hCode hEndpoints
  | segment hMs hTurn =>
      cases hTurn with
      | refused hCode hEndpoints =>
          exact .nothing _ (by simp [finalRefusals]) hCode hEndpoints
      | collected hCode hFeed hRegs hEndpoints =>
          exact .nothing _ (by simp) hCode hEndpoints
  | whole hMs hIdle hEndpoints =>
      rcases hSlot with hEmpty | ⟨hCollecting, -⟩
      · exact .itself hMs hEmpty hEndpoints
      · rw [hIdle] at hCollecting
        cases hCollecting
  | final hMs hCollecting hTurn =>
      cases hTurn with
      | refused ec hRefusal hCode hEndpoints =>
          exact .nothing ec (by simp [hRefusal]) hCode hEndpoints
      | joined message hEndpoints hReassembly hEmptied hCompletes =>
          rcases hSlot with hEmpty | ⟨-, hHolds⟩
          · rw [hEmpty.1] at hCollecting
            cases hCollecting
          · refine .joined message hMs hHolds.some hHolds.sequence ?_
              hCompletes.header ?_ hEndpoints
            · rw [hCompletes.payload, hHolds.buf]
            · rw [hEmptied]
              exact ⟨rfl, rfl⟩

theorem fragments_withheld_first :
    Idle splicedServer ∧ spliceFirst.Protected splicedServer ∧
      HandsOver splicedServer [] spliceFirst
        (spliceFirst.dispatch splicedServer) := by
  have hIdle : Idle splicedServer := idle_of_fresh rfl
  have hProtected : spliceFirst.Protected splicedServer := by decide
  exact ⟨hIdle, hProtected,
    fragments_withheld hIdle .start spliceFirst hProtected⟩

def pinSegment : Octets :=
  encodeAcfAbb { byteBusId := 1, transactionNum := 3, op := true, ms := true }
    [0, 0, 0, 5]

def plainServer : Server :=
  { splicedServer with regs := makeInitialRegisterMap }

/-- A frame has it executed like a whole request, and so has the dispatch of
fragments while bus 1 takes unprotected requests. -/
theorem pinSegment_executed :
    splicedServer.Reachable ∧ plainServer.Reachable ∧
      (decodeAcfMessageInfo pinSegment).ms = true ∧
      (splicedServer.dispatchFrame 1 pinSegment).2.map
        (fun member => member.result) = [none] ∧
      (splicedServer.dispatchFrame 1
        pinSegment).1.peripherals.gpio.state.values = 5 ∧
      (plainServer.dispatchE2eFragment 1 pinSegment).2.ec = none ∧
      (plainServer.dispatchE2eFragment 1
        pinSegment).1.peripherals.gpio.state.values = 5 := by
  refine ⟨⟨[.registers splicedServer.regs,
      .peripherals splicedServer.peripherals, .lifecycle .rcpConfigured], rfl⟩,
    ⟨[.peripherals splicedServer.peripherals, .lifecycle .rcpConfigured], rfl⟩,
    by decide, by decide, by decide,
    by decide, by decide⟩

end CppRcp.Mock
