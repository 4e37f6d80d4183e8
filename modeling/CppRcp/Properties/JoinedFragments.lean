import CppRcp.Mock.FrameEffects
import CppRcp.Mock.Reassembly

/-!
# Which fragments are joined

Each configured stream has a reassembler of its own, and fragments reach it in
any interleaving with those of other streams and with everything else the
server does.  A joined message consists of fragments of one stream with
consecutive numbers and the last one that completes it.  Its checksum covers
the header of the first fragment, while the dispatch goes by the header of the
last.  The two agree if every fragment of a message carries the header fields
of its first.
-/

namespace CppRcp.Mock

open CppRcp.Foundation CppRcp.Acf CppRcp.E2e CppRcp.Regmap CppRcp.Fragment
open CppRcp.Server

structure SameFields (a b : AcfMessageInfo) : Prop where
  acfMsgType : b.acfMsgType = a.acfMsgType
  byteBusId : b.byteBusId = a.byteBusId
  evtAck : b.evtAck = a.evtAck
  evtOp : b.evtOp = a.evtOp
  op : b.op = a.op
  transactionNum : b.transactionNum = a.transactionNum

theorem SameFields.refl (header : AcfMessageInfo) : SameFields header header :=
  ⟨rfl, rfl, rfl, rfl, rfl, rfl⟩

private theorem SameFields.of_resized {a b c : AcfMessageInfo}
    (h : SameFields a b) (hResized : c.resized = b.resized) :
    SameFields a c := by
  simp only [AcfMessageInfo.resized, AcfMessageInfo.mk.injEq] at hResized
  obtain ⟨hType, -, -, -, hBus, hAck, hEvt, -, -, hTransaction, hOp, -⟩ :=
    hResized
  exact ⟨hType.trans h.1, hBus.trans h.2, hAck.trans h.3, hEvt.trans h.4,
    hOp.trans h.5, hTransaction.trans h.6⟩

/-! ## Receiving fragments -/

/-- The states a server passes through while fragments arrive, each recorded
with the state it found.  In between the server does anything that leaves the
reassembly of each stream alone or abandons it. -/
inductive Received (start : Server) : List (Server × Arrival) → Server → Prop
  | start : Received start [] start
  | fragment {history : List (Server × Arrival)} {server : Server}
      (h : Received start history server) (arrival : Arrival) :
      Received start (history ++ [(server, arrival)])
        (arrival.dispatch server).1
  | between {history : List (Server × Arrival)} {server later : Server}
      (h : Received start history server)
      (hBetween : Undisturbed server later) : Received start history later

/-- No stream is collecting a message. -/
def Idle (server : Server) : Prop :=
  ∀ slot, (server.fragReassemblers.get slot).collecting = false ∧
    (server.fragReassemblers.get slot).buf = []

def receivedOn (streamId : StreamId) (history : List (Server × Arrival)) :
    List Octets :=
  (history.filter fun past => past.2.streamId = streamId).map fun past =>
    past.2.fragment

/-- The fragment is the next segment, or the last, of the message that its
stream is collecting. -/
structure Joins (server : Server) (arrival : Arrival) : Prop where
  protect : arrival.Protected server
  collecting :
    (server.fragReassemblers.get (arrival.slot server)).collecting = true
  number : arrival.header.ms = true →
    arrival.header.readSizeOrSegmentNum =
      (server.fragReassemblers.get (arrival.slot server)).expectedSegmentNum

/-- A fragment that joins a message carries the header fields of its first
fragment, and as the last one also the read size. -/
def Continues (server : Server) (arrival : Arrival) : Prop :=
  Joins server arrival →
    SameFields
        (decodeAcfMessageInfo
          (server.fragFirstHeaders.get (arrival.slot server)))
        arrival.header ∧
      (arrival.header.ms = false →
        arrival.header.readSizeOrSegmentNum =
          (decodeAcfMessageInfo
            (server.fragFirstHeaders.get
              (arrival.slot server))).readSizeOrSegmentNum)

/-- Segments 0, 1, 2 and so on of a message, received in this order on one
stream. -/
structure Consecutive (history : List (Server × Arrival))
    (streamId : StreamId) (segments : List Octets) : Prop where
  received : segments.Sublist (receivedOn streamId history)
  numbered : ∀ number segment, segments[number]? = some segment →
    (decodeAcfMessageInfo segment).ms = true ∧
      (decodeAcfMessageInfo segment).readSizeOrSegmentNum.toNat = number

structure Collected (reasm : Reassembler) (firstHeader first : Octets)
    (rest : List Octets) : Prop where
  buf : reasm.buf = ((first :: rest).map segmentPayload).flatten
  expected : reasm.expectedSegmentNum.toNat = rest.length + 1
  header : firstHeader = rawHeader first

/-- What a reassembler holds: nothing, or the segments collected on its
stream, which agree if all fragments so far continued their messages. -/
def HoldsSegments (reasm : Reassembler) (firstHeader : Octets)
    (history : List (Server × Arrival)) (streamId : StreamId) : Prop :=
  (reasm.collecting = false ∧ reasm.buf = []) ∨
    (reasm.collecting = true ∧
      ∃ first rest, Consecutive history streamId (first :: rest) ∧
        Collected reasm firstHeader first rest ∧
        ((∀ past ∈ history, Continues past.1 past.2) →
          ∀ segment ∈ rest, SameFields (decodeAcfMessageInfo first)
            (decodeAcfMessageInfo segment)))

def StreamInvariant (server : Server) (history : List (Server × Arrival))
    (streamId : StreamId) : Prop :=
  HoldsSegments
    (server.fragReassemblers.get (Server.slotOf (server.streamIndex streamId)))
    (server.fragFirstHeaders.get (Server.slotOf (server.streamIndex streamId)))
    history streamId

def ReassemblyInvariant (server : Server)
    (history : List (Server × Arrival)) : Prop :=
  ∀ streamId, server.streamIndex streamId ≠ 0 →
    StreamInvariant server history streamId

/-! ## The header of a fragment -/

private theorem decodeAcfMessageInfo_rawHeader (fragment : Octets) :
    decodeAcfMessageInfo (rawHeader fragment) =
      decodeAcfMessageInfo fragment := by
  have hLen := le_headerLen (decodeAcfMessageInfo fragment).acfMsgType
  simp only [acfCommonHeaderLen] at hLen
  unfold rawHeader
  revert hLen
  generalize headerLen (decodeAcfMessageInfo fragment).acfMsgType = count
  intro hLen
  have hSame : ∀ index, index < 8 →
      octetAt (fragment.take count) index = octetAt fragment index :=
    fun index hIndex => octetAt_take (by omega)
  simp only [decodeAcfMessageInfo, hSame 0 (by decide), hSame 1 (by decide),
    hSame 2 (by decide), hSame 3 (by decide), hSame 4 (by decide),
    hSame 5 (by decide), hSame 6 (by decide), hSame 7 (by decide)]

theorem segmentNum_lt (octets : Octets) :
    (decodeAcfMessageInfo octets).readSizeOrSegmentNum.toNat < 4096 := by
  have hFields := congrArg AcfMessageInfo.readSizeOrSegmentNum
    (truncated_decodeAcfMessageInfo octets)
  rw [← hFields]
  simp only [AcfMessageInfo.truncated, UInt16.toNat_ofNat']
  omega

/-! ## The reassembler -/

theorem feed_first {reasm : Reassembler} {segmentNum : UInt16}
    {payload : Octets} (hIdle : reasm.collecting = false)
    (h : (reasm.feed true segmentNum payload).2 = .continue) :
    segmentNum = 0 ∧
      (reasm.feed true segmentNum payload).1.collecting = true ∧
      (reasm.feed true segmentNum payload).1.buf = reasm.buf ++ payload ∧
      (reasm.feed true segmentNum payload).1.expectedSegmentNum = 1 := by
  unfold Reassembler.feed at h ⊢
  simp only [hIdle, Bool.not_false, Bool.not_true, Bool.false_eq_true,
    if_true, if_false] at h ⊢
  split at h
  · cases h
  · next hFits =>
      rw [if_neg hFits]
      split at h
      · cases h
      · next hZero =>
          rw [if_neg hZero]
          exact ⟨not_not.mp hZero, rfl, rfl, rfl⟩

theorem feed_next {reasm : Reassembler} {segmentNum : UInt16}
    {payload : Octets} (hCollecting : reasm.collecting = true)
    (h : (reasm.feed true segmentNum payload).2 = .continue) :
    segmentNum = reasm.expectedSegmentNum ∧
      (reasm.feed true segmentNum payload).1.collecting = true ∧
      (reasm.feed true segmentNum payload).1.buf = reasm.buf ++ payload ∧
      (reasm.feed true segmentNum payload).1.expectedSegmentNum =
        reasm.expectedSegmentNum + 1 := by
  unfold Reassembler.feed at h ⊢
  simp only [hCollecting, Bool.not_true, Bool.false_eq_true, if_false,
    if_true, Bool.true_and, decide_eq_true_eq] at h ⊢
  split at h
  · cases h
  · next hNumber =>
      rw [if_neg hNumber]
      split at h
      · cases h
      · next hFits =>
          rw [if_neg hFits]
          exact ⟨not_not.mp hNumber, hCollecting, rfl, rfl⟩

/-! ## Keeping the invariant -/

private theorem receivedOn_append (streamId : StreamId)
    (history : List (Server × Arrival)) (server : Server)
    (arrival : Arrival) :
    receivedOn streamId (history ++ [(server, arrival)]) =
      receivedOn streamId history ++
        if arrival.streamId = streamId then [arrival.fragment] else [] := by
  unfold receivedOn
  rw [List.filter_append, List.map_append]
  congr 1
  by_cases h : arrival.streamId = streamId
  · simp [h]
  · simp [h]

theorem Consecutive.longer {history : List (Server × Arrival)}
    {streamId : StreamId} {segments : List Octets}
    (h : Consecutive history streamId segments) (server : Server)
    (arrival : Arrival) :
    Consecutive (history ++ [(server, arrival)]) streamId segments := by
  refine ⟨?_, h.numbered⟩
  rw [receivedOn_append]
  exact h.received.trans (List.sublist_append_left _ _)

theorem Consecutive.snoc {history : List (Server × Arrival)}
    {segments : List Octets} {arrival : Arrival}
    (h : Consecutive history arrival.streamId segments) (server : Server)
    (hMs : arrival.header.ms = true)
    (hNumber : arrival.header.readSizeOrSegmentNum.toNat = segments.length) :
    Consecutive (history ++ [(server, arrival)]) arrival.streamId
      (segments ++ [arrival.fragment]) := by
  constructor
  · rw [receivedOn_append, if_pos rfl]
    exact h.received.append (.refl _)
  · intro number segment hSegment
    rcases Nat.lt_trichotomy number segments.length with hLt | rfl | hGt
    · rw [List.getElem?_append_left hLt] at hSegment
      exact h.numbered number segment hSegment
    · rw [List.getElem?_concat_length] at hSegment
      cases hSegment
      exact ⟨hMs, hNumber⟩
    · rw [List.getElem?_eq_none (by simp; omega)] at hSegment
      cases hSegment

theorem Consecutive.nil (history : List (Server × Arrival))
    (streamId : StreamId) : Consecutive history streamId [] :=
  ⟨List.nil_sublist _, by simp⟩

theorem HoldsSegments.longer {reasm : Reassembler} {firstHeader : Octets}
    {history : List (Server × Arrival)} {streamId : StreamId}
    (h : HoldsSegments reasm firstHeader history streamId) (past : Server)
    (arrival : Arrival) :
    HoldsSegments reasm firstHeader (history ++ [(past, arrival)])
      streamId := by
  rcases h with hIdle | ⟨hCollecting, first, rest, hSegments, hHeld, hAgree⟩
  · exact Or.inl hIdle
  · refine Or.inr ⟨hCollecting, first, rest, hSegments.longer past arrival,
      hHeld, fun hAll => hAgree fun earlier hEarlier => ?_⟩
    exact hAll earlier (List.mem_append_left _ hEarlier)

theorem StreamInvariant.undisturbed {a b : Server}
    {history : List (Server × Arrival)} {streamId : StreamId}
    (h : StreamInvariant a history streamId) (hab : Undisturbed a b) :
    StreamInvariant b history streamId := by
  unfold StreamInvariant at h ⊢
  rw [hab.streamIndex]
  rcases hab.slots (Server.slotOf (a.streamIndex streamId)) with
    ⟨hReasm, hHeader⟩ | hReset
  · rw [hReasm, hHeader]
    exact h
  · left
    rw [hReset]
    exact ⟨rfl, rfl⟩

theorem HoldsSegments.collect {server : Server} {reasm : Reassembler}
    {firstHeader : Octets} {history : List (Server × Arrival)}
    {arrival : Arrival}
    (h : HoldsSegments reasm firstHeader history arrival.streamId)
    (hMs : arrival.header.ms = true)
    (hFeed : (reasm.feed true arrival.header.readSizeOrSegmentNum
      (segmentPayload arrival.fragment)).2 = .continue)
    (hContinues : reasm.collecting = true →
      arrival.header.readSizeOrSegmentNum = reasm.expectedSegmentNum →
      Continues server arrival →
        SameFields (decodeAcfMessageInfo firstHeader) arrival.header) :
    HoldsSegments
      (reasm.feed true arrival.header.readSizeOrSegmentNum
        (segmentPayload arrival.fragment)).1
      (if reasm.collecting then firstHeader else rawHeader arrival.fragment)
      (history ++ [(server, arrival)]) arrival.streamId := by
  right
  rcases h with ⟨hIdle, hBuf⟩ | ⟨hCollecting, first, rest, hSegments, hHeld,
    hAgree⟩
  · obtain ⟨hZero, hStarted, hFirst, hNext⟩ := feed_first hIdle hFeed
    refine ⟨hStarted, arrival.fragment, [], ?_, ⟨?_, ?_, ?_⟩, by simp⟩
    · exact (Consecutive.nil history arrival.streamId).snoc server hMs
        (by rw [hZero]; rfl)
    · rw [hFirst, hBuf]
      simp
    · rw [hNext]
      rfl
    · exact if_neg (Bool.eq_false_iff.mp hIdle)
  · obtain ⟨hNumber, hStill, hMore, hNext⟩ := feed_next hCollecting hFeed
    have hLast : arrival.header.readSizeOrSegmentNum.toNat =
        rest.length + 1 := by
      rw [hNumber]
      exact hHeld.expected
    refine ⟨hStill, first, rest ++ [arrival.fragment], ?_, ⟨?_, ?_, ?_⟩, ?_⟩
    · exact hSegments.snoc server hMs (by simpa using hLast)
    · rw [hMore, hHeld.buf, ← List.cons_append, List.map_append,
        List.flatten_append]
      simp
    · have hLt := segmentNum_lt arrival.fragment
      change arrival.header.readSizeOrSegmentNum.toNat < 4096 at hLt
      rw [hNext, UInt16.toNat_add, hHeld.expected, List.length_append]
      simp only [UInt16.reduceToNat, List.length_singleton]
      omega
    · rw [if_pos hCollecting]
      exact hHeld.header
    · intro hAll segment hSegment
      rcases List.mem_append.mp hSegment with hOld | hNew
      · exact hAgree (fun past hPast =>
          hAll past (List.mem_append_left _ hPast)) segment hOld
      · have hSame := hContinues hCollecting hNumber
          (hAll (server, arrival) (by simp))
        rw [hHeld.header, decodeAcfMessageInfo_rawHeader] at hSame
        rw [List.mem_singleton.mp hNew]
        exact hSame

private theorem invariant_of_idle {server : Server} (h : Idle server) :
    ReassemblyInvariant server [] :=
  fun _ _ => Or.inl (h _)

theorem ReassemblyInvariant.undisturbed {a b : Server}
    {history : List (Server × Arrival)} (h : ReassemblyInvariant a history)
    (hab : Undisturbed a b) : ReassemblyInvariant b history := by
  intro streamId hIndex
  rw [hab.streamIndex] at hIndex
  exact (h streamId hIndex).undisturbed hab

theorem ReassemblyInvariant.longer {server : Server}
    {history : List (Server × Arrival)}
    (h : ReassemblyInvariant server history) (past : Server)
    (arrival : Arrival) :
    ReassemblyInvariant server (history ++ [(past, arrival)]) :=
  fun streamId hIndex => (h streamId hIndex).longer past arrival

theorem ReassemblyInvariant.dispatch {server : Server}
    {history : List (Server × Arrival)}
    (h : ReassemblyInvariant server history) (arrival : Arrival) :
    ReassemblyInvariant (arrival.dispatch server).1
      (history ++ [(server, arrival)]) := by
  have hTurn := turn_dispatch server arrival
  revert hTurn
  generalize arrival.dispatch server = result
  intro hTurn
  cases hTurn with
  | withheld hEndpoints hReassembly =>
      exact (h.longer server arrival).undisturbed hReassembly
  | alone hEndpoints hAlone hReassembly =>
      exact (h.longer server arrival).undisturbed hReassembly
  | joined message hProtected hCollecting hEndpoints hReassembly hCompletes =>
      refine (h.longer server arrival).undisturbed (hReassembly.trans ?_)
      exact Server.undisturbed_dispatchReassembled _ _ _ _ _ _
  | collected hProtected hMs hFeed hRegs hEndpoints hReassemblers hHeaders =>
      intro streamId hIndex
      have hSame : result.1.streamIndex streamId =
          server.streamIndex streamId := by
        rw [Server.streamIndex, Server.streamIndex, hRegs]
      rw [hSame] at hIndex
      unfold StreamInvariant
      rw [hSame, hReassemblers, hHeaders]
      by_cases hStream : streamId = arrival.streamId
      · subst hStream
        have hLt : arrival.slot server < tableMaxEntries :=
          Server.slotOf_streamIndex_lt server arrival.streamId
        have hFirst : (if (server.fragReassemblers.get
            (arrival.slot server)).collecting = true
            then server.fragFirstHeaders
            else server.fragFirstHeaders.set (arrival.slot server)
              (rawHeader arrival.fragment)).get (arrival.slot server) =
            if (server.fragReassemblers.get
              (arrival.slot server)).collecting = true
            then server.fragFirstHeaders.get (arrival.slot server)
            else rawHeader arrival.fragment := by
          split
          · rfl
          · exact Table.get_set_self hLt
        have hHolds := HoldsSegments.collect (h _ hIndex) hMs hFeed
          fun hCollecting hNumber hContinues =>
            (hContinues ⟨hProtected, hCollecting, fun _ => hNumber⟩).1
        change HoldsSegments ((server.fragReassemblers.set
          (arrival.slot server) _).get (arrival.slot server))
          (Table.get _ (arrival.slot server)) _ _
        rw [Table.get_set_self hLt, hFirst]
        exact hHolds
      · have hSlot : arrival.slot server ≠
            Server.slotOf (server.streamIndex streamId) := by
          intro hSlot
          exact hStream
            (Server.streamId_eq_of_slotOf hIndex hProtected.2 hSlot.symm)
        have hOther := (h streamId hIndex).longer server arrival
        rw [Table.get_set_ne hSlot]
        convert hOther using 1
        split
        · rfl
        · exact Table.get_set_ne hSlot

theorem Received.invariant {start server : Server}
    {history : List (Server × Arrival)} (hStart : Idle start)
    (h : Received start history server) :
    ReassemblyInvariant server history := by
  induction h with
  | start => exact invariant_of_idle hStart
  | fragment h arrival ih => exact ih.dispatch arrival
  | between h hBetween ih => exact ih.undisturbed hBetween

/-! ## What is handed over -/

/-- All fragments of a message and the header it is dispatched under are of
one request, the one whose header the checksum covers. -/
structure OfOneRequest (arrival : Arrival) (first : Octets)
    (rest : List Octets) (message : JoinedMessage) : Prop where
  fragments : ∀ fragment ∈ rest ++ [arrival.fragment],
    SameFields (decodeAcfMessageInfo first) (decodeAcfMessageInfo fragment)
  covered : SameFields (decodeAcfMessageInfo (rawHeader first)) message.header
  readSize : message.header.readSizeOrSegmentNum =
    (decodeAcfMessageInfo (rawHeader first)).readSizeOrSegmentNum

/-- What a fragment hands to an endpoint: nothing, itself, or a message joined
from earlier segments of its stream and itself, of which `Holds` is true. -/
inductive HandOver (server : Server) (history : List (Server × Arrival))
    (arrival : Arrival)
    (Holds : Octets → List Octets → JoinedMessage → Prop) :
    Server × Reply → Prop
  | nothing {result : Server × Reply}
      (hEndpoints : SameEndpoints server result.1) :
      HandOver server history arrival Holds result
  | itself {result : Server × Reply} {later : Server}
      (hEndpoints : SameEndpoints server later)
      (hAlone : result =
          later.decodeAndDispatch arrival.streamId arrival.fragment ∨
        result = later.dispatchE2eCore arrival.streamId arrival.sequenceNum
          arrival.fragment arrival.applySeqGate) :
      HandOver server history arrival Holds result
  | joined {later : Server} (message : JoinedMessage) (first : Octets)
      (rest : List Octets)
      (hEndpoints : SameEndpoints server later)
      (hSegments : Consecutive history arrival.streamId (first :: rest))
      (hCompletes : Completes arrival (rawHeader first)
        ((first :: rest).map segmentPayload).flatten message)
      (hHolds : Holds first rest message) :
      HandOver server history arrival Holds
        (message.dispatch arrival.streamId later)

theorem HandOver.mono {server : Server} {history : List (Server × Arrival)}
    {arrival : Arrival} {P Q : Octets → List Octets → JoinedMessage → Prop}
    {result : Server × Reply} (hPQ : ∀ first rest message,
      P first rest message → Q first rest message)
    (h : HandOver server history arrival P result) :
    HandOver server history arrival Q result := by
  cases h with
  | nothing hEndpoints => exact .nothing hEndpoints
  | itself hEndpoints hAlone => exact .itself hEndpoints hAlone
  | joined message first rest hEndpoints hSegments hCompletes hHolds =>
      exact .joined message first rest hEndpoints hSegments hCompletes
        (hPQ first rest message hHolds)

/-- Whatever has arrived before, a fragment hands over nothing, itself, or a
message that was joined from consecutive segments of its own stream, under the
header of the last fragment, after a check of the first header and the whole
payload. -/
theorem handOver_dispatch {start server : Server}
    {history : List (Server × Arrival)} (hStart : Idle start)
    (hReceived : Received start history server) (arrival : Arrival) :
    HandOver server history arrival
      (fun first rest message =>
        (∀ past ∈ history ++ [(server, arrival)],
          Continues past.1 past.2) → OfOneRequest arrival first rest message)
      (arrival.dispatch server) := by
  have hInvariant := hReceived.invariant hStart
  have hTurn := turn_dispatch server arrival
  revert hTurn
  generalize arrival.dispatch server = result
  intro hTurn
  cases hTurn with
  | withheld hEndpoints hReassembly => exact .nothing hEndpoints
  | collected hProtected hMs hFeed hRegs hEndpoints hReassemblers hHeaders =>
      exact .nothing hEndpoints
  | alone hEndpoints hAlone hReassembly => exact .itself hEndpoints hAlone
  | joined message hProtected hCollecting hEndpoints hReassembly hCompletes =>
      rcases hInvariant arrival.streamId hProtected.2 with
        ⟨hIdle, -⟩ | ⟨-, first, rest, hSegments, hHeld, hAgree⟩
      · exact absurd hCollecting (Bool.eq_false_iff.mp hIdle)
      · have hHeader : server.fragFirstHeaders.get (arrival.slot server) =
            rawHeader first := hHeld.header
        have hBuf : (server.fragReassemblers.get (arrival.slot server)).buf =
            ((first :: rest).map segmentPayload).flatten := hHeld.buf
        rw [hHeader, hBuf] at hCompletes
        refine .joined message first rest hEndpoints hSegments hCompletes
          fun hAll => ?_
        have hJoins : Joins server arrival :=
          ⟨hProtected, hCollecting, by simp [hCompletes.last]⟩
        obtain ⟨hLast, hReadSize⟩ := hAll (server, arrival) (by simp) hJoins
        have hSize := hReadSize hCompletes.last
        rw [hHeader, decodeAcfMessageInfo_rawHeader] at hLast hSize
        constructor
        · intro fragment hFragment
          rcases List.mem_append.mp hFragment with hRest | hNew
          · exact hAgree (fun past hPast =>
              hAll past (List.mem_append_left _ hPast)) fragment hRest
          · rw [List.mem_singleton.mp hNew]
            exact hLast
        · rw [decodeAcfMessageInfo_rawHeader]
          exact hLast.of_resized hCompletes.header
        · rw [decodeAcfMessageInfo_rawHeader, ← hSize]
          have hResized := congrArg AcfMessageInfo.readSizeOrSegmentNum
            hCompletes.header
          exact hResized

/-- If every fragment that joined a message continued it, whatever is handed
over joined is of one request, and its header is the one the checksum
covers. -/
theorem handOver_of_continued {start server : Server}
    {history : List (Server × Arrival)} (hStart : Idle start)
    (hReceived : Received start history server) (arrival : Arrival)
    (hContinues : ∀ past ∈ history ++ [(server, arrival)],
      Continues past.1 past.2) :
    HandOver server history arrival (OfOneRequest arrival)
      (arrival.dispatch server) :=
  (handOver_dispatch hStart hReceived arrival).mono
    fun _ _ _ hHolds => hHolds hContinues

theorem idle_of_fresh {server : Server}
    (h : server.fragReassemblers = .replicate tableMaxEntries default) :
    Idle server := by
  intro slot
  rw [h, Table.get_replicate_default]
  exact ⟨rfl, rfl⟩

def splicedServer : Server :=
  { lifecycle := .rcpConfigured
    peripherals := { gpio := { state := { directions := 15 } } }
    regs := { makeInitialRegisterMap with
      requestStreams := [{ streamId := 1 }]
      requestStreams_le := by decide
      genericConfigs :=
        [{ epReqCrcEnable := true }, { epReqCrcEnable := true }] } }

def spliceFirst : Arrival :=
  { streamId := 1
    fragment :=
      encodeAcfAbb { byteBusId := 2, transactionNum := 1, ms := true } [] }

/-- The last segment of write request 9 to bus 1, with the checksum of the
other request's first header. -/
def spliceLast : Arrival :=
  { streamId := 1
    fragment :=
      encodeAcfAbb { byteBusId := 1, transactionNum := 9, op := true }
        ([0, 0, 0, 5] ++ putBe 4 (computeFragmentedCrc 1
          (rawHeader spliceFirst.fragment) [0, 0, 0, 5]).toNat) }

/-- The last segment of the request that `spliceFirst` begins. -/
def spliceOwn : Arrival :=
  { streamId := 1
    fragment :=
      encodeAcfAbb { byteBusId := 2, transactionNum := 1 }
        (putBe 4 (computeFragmentedCrc 1
          (rawHeader spliceFirst.fragment) []).toNat) }

theorem handOver_of_continued_own :
    (spliceOwn.dispatch (spliceFirst.dispatch splicedServer).1).2.ec = none ∧
      HandOver (spliceFirst.dispatch splicedServer).1
        [(splicedServer, spliceFirst)] spliceOwn (OfOneRequest spliceOwn)
        (spliceOwn.dispatch (spliceFirst.dispatch splicedServer).1) := by
  have hIdle : Idle splicedServer := idle_of_fresh rfl
  have hFirst : Continues splicedServer spliceFirst :=
    fun hJoins => absurd hJoins.collecting (by simp [hIdle _])
  have hHeader : (spliceFirst.dispatch splicedServer).1.fragFirstHeaders.get
      (spliceOwn.slot (spliceFirst.dispatch splicedServer).1) =
        rawHeader spliceFirst.fragment := by decide +kernel
  have hOwn : Continues (spliceFirst.dispatch splicedServer).1 spliceOwn := by
    intro _
    rw [hHeader]
    exact ⟨by constructor <;> decide, fun _ => by decide⟩
  refine ⟨by decide +kernel, handOver_of_continued hIdle
    (Received.start.fragment spliceFirst) spliceOwn ?_⟩
  intro past hPast
  rcases List.mem_append.mp hPast with hBefore | hNow
  · rw [List.mem_singleton.mp hBefore]
    exact hFirst
  · rw [List.mem_singleton.mp hNow]
    exact hOwn

/-- The two segments are joined, and the write of the second request is
executed under a checksum of the first one's header. -/
theorem handOver_dispatch_of_spliced :
    Idle splicedServer ∧
      (spliceFirst.dispatch splicedServer).2.ec =
        some (.dispatch .fragmentPending) ∧
      let result :=
        spliceLast.dispatch (spliceFirst.dispatch splicedServer).1
      result.2.ec = none ∧
        result.1.peripherals.gpio.state.values = 5 ∧
        result.2.response.byteBusId = 1 ∧
        result.2.response.transactionNum = 9 ∧
        (decodeAcfMessageInfo (rawHeader spliceFirst.fragment)).byteBusId = 2 ∧
        ¬SameFields spliceFirst.header spliceLast.header := by
  refine ⟨idle_of_fresh rfl, by decide +kernel, by decide +kernel,
    by decide +kernel, by decide +kernel, by decide +kernel, by decide, ?_⟩
  intro hSame
  exact absurd hSame.transactionNum (by decide)

/-! ## Runs of the server -/

namespace Server

private theorem undisturbed_setAdmission (server : Server) (bus : Bus)
    (ep : Endpoint) : Undisturbed server (server.setAdmission bus ep) :=
  .of_eq rfl rfl rfl

private theorem undisturbed_tagStored (before after : Server) (bus : Option Bus)
    (group position : Nat) :
    Undisturbed after (tagStored before after bus group position) := by
  unfold tagStored
  split
  · exact .refl after
  · split
    · exact undisturbed_setAdmission _ _ _
    · exact .refl after

private theorem undisturbed_dispatchFrame (server : Server)
    (streamId : StreamId) (frame : Octets) :
    Undisturbed server (server.dispatchFrame streamId frame).1 :=
  dispatchFrameImpl_invariant (P := fun later => Undisturbed server later)
    (fun later member h =>
      h.trans (undisturbed_decodeAndDispatch later streamId member))
    (fun later bus ep h => h.trans (undisturbed_setAdmission later bus ep))
    frame (.refl server)

private theorem undisturbed_onEveryBus (server : Server)
    (f : Endpoint → Endpoint) :
    Undisturbed server (server.onEveryBus f) := by
  refine @onEveryBus_invariant (fun later => Undisturbed server later) f ?_
    server (.refl server)
  intro later bus h
  exact h.trans (undisturbed_setAdmission later bus _)

private theorem undisturbed_purgeMapped (server : Server) (streamIndex : UInt8)
    (entries : List EpIdMappingEntry) :
    Undisturbed server (server.purgeMapped streamIndex entries).1 := by
  refine @purgeMapped_invariant (fun later => Undisturbed server later) ?_
    server streamIndex entries (.refl server)
  intro later bus h
  exact h.trans (undisturbed_setAdmission later bus _)

private theorem undisturbed_checkWatchdogOverflow (server : Server)
    (streamId : StreamId) (nowMs : Nat) :
    Undisturbed server (server.checkWatchdogOverflow streamId nowMs).1 := by
  unfold checkWatchdogOverflow
  dsimp only
  split
  · exact .refl server
  · split
    · refine Undisturbed.trans ?_ (undisturbed_purgeMapped _ _ _)
      exact .of_eq rfl rfl rfl
    · exact .of_eq rfl rfl rfl

end Server

theorem Received.members {start : Server} {streamId : StreamId}
    {sequenceNum : UInt8} (inputs : List (Octets × Nat))
    {history : List (Server × Arrival)} {state : FrameLoop}
    (h : Received start history state.server) :
    ∃ arrived, Received start (history ++ arrived)
      (run (stepMember fun server member => server.dispatchE2eFragmentCore
        streamId sequenceNum member false) state inputs).1.server := by
  induction inputs generalizing history state with
  | nil => exact ⟨[], by simpa using h⟩
  | cons input inputs ih =>
      rw [run_cons]
      cases memberEffect_stepMember (fun server member =>
          server.dispatchE2eFragmentCore streamId sequenceNum member false)
          state input with
      | refused hServer hResult hCode =>
          rw [← hServer] at h
          exact ih h
      | dispatched bus group position hServer hResult =>
          have hArrived := h.fragment ⟨streamId, sequenceNum, input.1, false⟩
          have hTagged := hArrived.between
            (Server.undisturbed_tagStored state.server _ bus group position)
          rw [Arrival.dispatch, ← hServer] at hTagged
          obtain ⟨arrived, hRest⟩ := ih hTagged
          exact ⟨_, by rwa [List.append_assoc] at hRest⟩

theorem Received.step {start server : Server}
    {history : List (Server × Arrival)} (h : Received start history server)
    (op : Op) (hRegs : ∀ regs, op ≠ .registers regs) :
    ∃ arrived, Received start (history ++ arrived) (server.step op).1 := by
  have hNone : ∀ later, Undisturbed server later →
      ∃ arrived, Received start (history ++ arrived) later := by
    intro later hLater
    exact ⟨[], by simpa using h.between hLater⟩
  cases op with
  | dispatch streamId req payload =>
      exact hNone _ (Server.sameStreams_dispatch server streamId req
        payload).undisturbed
  | dispatchE2e streamId sequenceNum frame =>
      exact hNone _ (Server.undisturbed_dispatchE2eCore server streamId
        sequenceNum frame true)
  | dispatchE2eFragment streamId fragment =>
      exact ⟨_, h.fragment ⟨streamId, 0, fragment, true⟩⟩
  | dispatchFrame streamId frame =>
      exact hNone _ (Server.undisturbed_dispatchFrame server streamId frame)
  | dispatchFrameE2e streamId sequenceNum frame =>
      have hGate :=
        Server.undisturbed_seqGateAdmits server streamId sequenceNum
      simp only [Server.step, Server.dispatchFrameE2e]
      split
      · exact hNone _ (.refl server)
      · revert hGate
        generalize server.seqGateAdmits streamId sequenceNum = gate
        obtain ⟨gated, admits⟩ := gate
        intro hGate
        cases admits with
        | false => exact hNone _ hGate
        | true => exact Received.members _ (h.between hGate)
  | tick bus ctx =>
      refine hNone _ ?_
      simp only [Server.step, Server.tick]
      split <;> exact Server.undisturbed_setAdmission _ _ _
  | endpoint bus op => exact hNone _ (Server.undisturbed_setAdmission _ _ _)
  | notifyTrigger sourceEp signalNr =>
      refine hNone _ ?_
      simp only [Server.step, Server.notifyTrigger]
      exact Server.undisturbed_onEveryBus server _
  | notifyGptpLockState locked sourceEp =>
      refine hNone _ ?_
      simp only [Server.step, Server.notifyGptpLockState]
      split
      · exact .of_eq rfl rfl rfl
      · simp only [Server.notifyTrigger]
        refine Undisturbed.trans ?_ (Server.undisturbed_onEveryBus _ _)
        exact .of_eq rfl rfl rfl
  | checkWatchdogOverflow streamId nowMs =>
      exact hNone _
        (Server.undisturbed_checkWatchdogOverflow server streamId nowMs)
  | lifecycle state => exact hNone _ (.of_eq rfl rfl rfl)
  | registers regs => exact absurd rfl (hRegs regs)
  | peripherals peripherals => exact hNone _ (.of_eq rfl rfl rfl)
  | resetStreamFault streamId => exact hNone _ (.of_eq rfl rfl rfl)
  | resetReassembler streamId =>
      refine hNone _ ?_
      simp only [Server.step]
      split
      · exact .refl server
      · exact Server.undisturbed_resetReassembler server
          (Server.slotOf_streamIndex_lt server streamId)
  | respQueue streamId queue =>
      refine hNone _ ?_
      simp only [Server.step]
      split
      · exact .refl server
      · exact .of_eq rfl rfl rfl

theorem received_run {start : Server} (ops : List Op)
    (hRegs : ∀ op ∈ ops, ∀ regs, op ≠ .registers regs) :
    ∃ history, Received start history (run Server.step start ops).1 := by
  suffices hFrom : ∀ {server : Server} {history}, Received start history server →
      ∃ arrived, Received start (history ++ arrived)
        (run Server.step server ops).1 from hFrom .start
  induction ops with
  | nil => exact fun h => ⟨[], by simpa using h⟩
  | cons op ops ih =>
      intro server history h
      obtain ⟨arrived, hStep⟩ := h.step op (hRegs op (by simp))
      obtain ⟨more, hRest⟩ :=
        ih (fun later hLater => hRegs later (by simp [hLater])) hStep
      exact ⟨arrived ++ more, by rwa [List.append_assoc] at hRest⟩

end CppRcp.Mock
