import CppRcp.Mock.E2eEffects
import CppRcp.Wire.Protection

/-!
# What a fragment does to the reassembly of its stream

A fragment that is collected adds its segment to the stream's reassembler.  A
last fragment completes the message or gives it up.  Every other fragment
leaves the reassembly alone.
-/

namespace CppRcp.Acf

def AcfMessageInfo.resized (header : AcfMessageInfo) : AcfMessageInfo :=
  { header with pad := 0, acfMsgLength := 0 }

theorem truncated_restamped (info : AcfMessageInfo) (len : UInt16) :
    { info with acfMsgLength := len }.truncated =
      { info.truncated with
        acfMsgLength := UInt16.ofNat (len.toNat % 512) } :=
  rfl

end CppRcp.Acf

namespace CppRcp.Mock

open CppRcp.Foundation CppRcp.Acf CppRcp.E2e CppRcp.Regmap CppRcp.Fragment

def rawHeader (fragment : Octets) : Octets :=
  fragment.take (headerLen (decodeAcfMessageInfo fragment).acfMsgType)

def segmentPayload (fragment : Octets) : Octets :=
  trimWirePad
    (fragment.drop (headerLen (decodeAcfMessageInfo fragment).acfMsgType))
    (decodeAcfMessageInfo fragment).pad

/-- What a last fragment contributes: its payload without checksum and
padding. -/
def lastPayload (fragment : Octets) : Octets :=
  (fragment.take (fragment.length - crcLengthAdjustOctets -
      (decodeAcfMessageInfo fragment).pad.toNat)).drop
    (headerLen (decodeAcfMessageInfo fragment).acfMsgType)

def lastTrailer (fragment : Octets) : UInt32 :=
  trailerAt fragment (fragment.length - crcLengthAdjustOctets -
    (decodeAcfMessageInfo fragment).pad.toNat)

/-! ## Decoding a fragment -/

theorem decodeAcfFrame_ok {octets payload : Octets} {isGbb : Bool}
    {header : AcfMessageInfo} {ts : Nat}
    (h : decodeAcfFrame octets isGbb = .ok (header, ts, payload)) :
    header = decodeAcfMessageInfo octets ∧
      header.acfMsgType =
        (if isGbb = true then acfMsgTypeGbb else acfMsgTypeAbb) ∧
      payload = octets.drop (headerLen header.acfMsgType) := by
  unfold decodeAcfFrame at h
  cases isGbb with
  | true =>
      obtain ⟨hHeader, -, hType, -, hPayload⟩ := decodeAcfGbb_ok h
      exact ⟨hHeader, hType, by rw [hPayload, hType]; rfl⟩
  | false =>
      simp only [Bool.false_eq_true, if_false] at h
      cases hAbb : decodeAcfAbb octets with
      | error e => simp [hAbb] at h
      | ok decoded =>
          obtain ⟨info, rest⟩ := decoded
          obtain ⟨hHeader, -, hType, hPayload⟩ := decodeAcfAbb_ok hAbb
          rw [hAbb] at h
          cases h
          exact ⟨hHeader, hType, by rw [hPayload, hType]; rfl⟩

theorem unwrapFramed_long {streamId : StreamId} {frame : Octets}
    (h : (unwrapFramed streamId frame).ec ≠ some (.e2e .shortFrame)) :
    headerLen (decodeAcfMessageInfo frame).acfMsgType +
        crcLengthAdjustOctets + (decodeAcfMessageInfo frame).pad.toNat ≤
      frame.length := by
  unfold unwrapFramed at h
  split at h
  · exact absurd rfl h
  · dsimp only at h
    split at h
    · exact absurd rfl h
    · next hLong => exact Nat.not_lt.mp hLong

theorem decode_unwrapped {streamId : StreamId} {fragment payload : Octets}
    {isGbb : Bool} {header : AcfMessageInfo} {ts : Nat}
    (hShort : (unwrapFramed streamId fragment).ec ≠ some (.e2e .shortFrame))
    (h : decodeAcfFrame (unwrapFramed streamId fragment).acfFrame isGbb =
      .ok (header, ts, payload)) :
    header.resized = (decodeAcfMessageInfo fragment).resized ∧
      trimWirePad payload header.pad = lastPayload fragment := by
  have hLong := unwrapFramed_long hShort
  obtain ⟨hHeader, -, hPayload⟩ := decodeAcfFrame_ok h
  have hEight := le_headerLen (decodeAcfMessageInfo fragment).acfMsgType
  unfold unwrapFramed at hHeader hPayload
  rw [if_neg (by omega)] at hHeader hPayload
  dsimp only at hHeader hPayload
  rw [if_neg (Nat.not_lt.mpr hLong)] at hHeader hPayload
  dsimp only at hHeader hPayload
  rw [List.append_assoc] at hHeader hPayload
  rw [decode_headerOctets] at hHeader
  rw [truncated_restamped, truncated_decodeAcfMessageInfo] at hHeader
  have hType : header.acfMsgType =
      (decodeAcfMessageInfo fragment).acfMsgType := by rw [hHeader]
  have hPad : header.pad = (decodeAcfMessageInfo fragment).pad := by
    rw [hHeader]
  constructor
  · rw [hHeader]
    rfl
  · rw [hPayload, hType, hPad, List.drop_append_of_le_length
      (by rw [length_headerOctets]), List.drop_of_length_le
      (by rw [length_headerOctets]), List.nil_append]
    unfold trimWirePad lastPayload
    have hRest : (fragment.drop (fragment.length - crcLengthAdjustOctets -
        (decodeAcfMessageInfo fragment).pad.toNat +
          crcLengthAdjustOctets)).length =
        (decodeAcfMessageInfo fragment).pad.toNat := by
      rw [List.length_drop]
      omega
    rw [if_neg (by rw [List.length_append, hRest]; omega),
      List.length_append, hRest, Nat.add_sub_cancel, List.take_left']
    rfl

/-! ## The rows of the streams -/

private theorem requestStream_of_resolveIndex
    {entries : List RequestStreamConfig}
    (hLe : entries.length ≤ tableMaxEntries) {streamId : StreamId}
    (h : resolveIndex entries streamId ≠ 0) :
    ∃ row, entries[Server.slotOf (resolveIndex entries streamId)]? = some row ∧
      row.streamId = streamId := by
  unfold resolveIndex at h ⊢
  split at h
  · exact absurd rfl h
  · next index hIndex =>
      obtain ⟨hLength, hRow, -⟩ := List.findIdx?_eq_some_iff_getElem.mp hIndex
      simp only [tableMaxEntries] at hLe
      refine ⟨entries[index], ?_, by simpa using hRow⟩
      simp only [Server.slotOf, UInt8.toNat_ofNat']
      rw [Nat.mod_eq_of_lt (by omega), Nat.add_sub_cancel,
        List.getElem?_eq_getElem hLength]

namespace Server

theorem streamId_eq_of_slotOf {server : Server} {a b : StreamId}
    (ha : server.streamIndex a ≠ 0) (hb : server.streamIndex b ≠ 0)
    (h : slotOf (server.streamIndex a) = slotOf (server.streamIndex b)) :
    a = b := by
  obtain ⟨rowA, hRowA, rfl⟩ :=
    requestStream_of_resolveIndex server.regs.requestStreams_le ha
  obtain ⟨rowB, hRowB, rfl⟩ :=
    requestStream_of_resolveIndex server.regs.requestStreams_le hb
  simp only [streamIndex] at h
  rw [h, hRowB] at hRowA
  cases hRowA
  rfl

theorem slotOf_streamIndex_lt (server : Server) (streamId : StreamId) :
    slotOf (server.streamIndex streamId) < tableMaxEntries := by
  by_cases hZero : server.streamIndex streamId = 0
  · rw [hZero]
    decide
  · obtain ⟨row, hRow, -⟩ :=
      requestStream_of_resolveIndex server.regs.requestStreams_le hZero
    exact Nat.lt_of_lt_of_le (List.getElem?_eq_some_iff.mp hRow).1
      server.regs.requestStreams_le

end Server

/-! ## Leaving a reassembly alone -/

/-- The streams keep their rows, and each stream's reassembly is as it was or
abandoned. -/
structure Undisturbed (a b : Server) : Prop where
  requestStreams : b.regs.requestStreams = a.regs.requestStreams
  slots : ∀ slot,
    (b.fragReassemblers.get slot = a.fragReassemblers.get slot ∧
        b.fragFirstHeaders.get slot = a.fragFirstHeaders.get slot) ∨
      b.fragReassemblers.get slot = (a.fragReassemblers.get slot).reset

theorem Undisturbed.of_eq {a b : Server} (hRegs : b.regs = a.regs)
    (hReassemblers : b.fragReassemblers = a.fragReassemblers)
    (hHeaders : b.fragFirstHeaders = a.fragFirstHeaders) :
    Undisturbed a b :=
  ⟨by rw [hRegs], fun slot => Or.inl ⟨by rw [hReassemblers], by rw [hHeaders]⟩⟩

theorem Undisturbed.refl (server : Server) : Undisturbed server server :=
  .of_eq rfl rfl rfl

theorem Undisturbed.trans {a b c : Server} (hab : Undisturbed a b)
    (hbc : Undisturbed b c) : Undisturbed a c := by
  refine ⟨hbc.requestStreams.trans hab.requestStreams, fun slot => ?_⟩
  rcases hbc.slots slot with ⟨hReasm, hHeader⟩ | hReset
  · rw [hReasm, hHeader]
    exact hab.slots slot
  · right
    rw [hReset]
    rcases hab.slots slot with ⟨hReasm, -⟩ | hEarlier
    · rw [hReasm]
    · rw [hEarlier]
      rfl

theorem SameStreams.undisturbed {a b : Server} (h : SameStreams a b) :
    Undisturbed a b :=
  .of_eq h.regs h.fragReassemblers h.fragFirstHeaders

theorem Undisturbed.streamIndex {a b : Server} (h : Undisturbed a b)
    (streamId : StreamId) : b.streamIndex streamId = a.streamIndex streamId := by
  rw [Server.streamIndex, Server.streamIndex, h.requestStreams]

namespace Server

private theorem undisturbed_reset {a b : Server} {slot : Nat}
    (hRegs : b.regs = a.regs) (hLt : slot < tableMaxEntries)
    {reasm : Fragment.Reassembler}
    (hReassemblers : b.fragReassemblers = a.fragReassemblers.set slot reasm)
    (hReasm : reasm = (a.fragReassemblers.get slot).reset)
    (hHeaders : ∀ other, other ≠ slot →
      b.fragFirstHeaders.get other = a.fragFirstHeaders.get other) :
    Undisturbed a b := by
  refine ⟨by rw [hRegs], fun other => ?_⟩
  by_cases hSlot : other = slot
  · right
    subst hSlot
    rw [hReassemblers, Table.get_set_self hLt, hReasm]
  · left
    refine ⟨?_, hHeaders other hSlot⟩
    rw [hReassemblers, Table.get_set_ne (Ne.symm hSlot)]

theorem undisturbed_resetReassembler (server : Server) {slot : Nat}
    (hLt : slot < tableMaxEntries) :
    Undisturbed server (server.resetReassembler slot) :=
  undisturbed_reset rfl hLt rfl rfl fun _ _ => rfl

theorem undisturbed_rxWatchdogKick (server : Server) (streamId : StreamId)
    (nowMs : Nat) :
    Undisturbed server (server.rxWatchdogKick streamId nowMs) := by
  unfold rxWatchdogKick
  dsimp only
  split <;> exact .of_eq rfl rfl rfl

private theorem undisturbed_recordCrcError (server : Server)
    (streamId : StreamId) :
    Undisturbed server (server.recordCrcError streamId) := by
  unfold recordCrcError
  dsimp only
  split <;> exact .of_eq rfl rfl rfl

theorem undisturbed_seqGateAdmits (server : Server) (streamId : StreamId)
    (sequenceNum : UInt8) :
    Undisturbed server (server.seqGateAdmits streamId sequenceNum).1 := by
  unfold seqGateAdmits
  dsimp only
  split <;> exact .of_eq rfl rfl rfl

theorem undisturbed_decodeAndDispatch (server : Server) (streamId : StreamId)
    (frame : Octets) :
    Undisturbed server (server.decodeAndDispatch streamId frame).1 :=
  (decodeAndDispatch_effect server streamId frame).sameStreams.undisturbed

private theorem undisturbed_maybeFragmentResponse (server : Server)
    (streamIndex : UInt8) (reply : Reply) :
    Undisturbed server (server.maybeFragmentResponse streamIndex reply).1 := by
  unfold maybeFragmentResponse
  split
  · exact .refl server
  · dsimp only
    split
    · exact .refl server
    · split
      · exact .refl server
      · split
        · exact .refl server
        · split
          · exact .refl server
          · split <;> exact .of_eq rfl rfl rfl

theorem undisturbed_dispatchReassembled (server : Server)
    (streamId : StreamId) (finalHeader : AcfMessageInfo)
    (messageTimestamp : Nat) (isGbb : Bool) (reassembled : Octets) :
    Undisturbed server (server.dispatchReassembled streamId finalHeader
      messageTimestamp isGbb reassembled).1 := by
  unfold dispatchReassembled
  dsimp only
  generalize (if isGbb = true then _ else _) = encoded
  have hDispatch := undisturbed_decodeAndDispatch server streamId encoded
  split
  · exact hDispatch.trans (undisturbed_maybeFragmentResponse _ _ _)
  · exact hDispatch

theorem undisturbed_dispatchE2eCore (server : Server) (streamId : StreamId)
    (sequenceNum : UInt8) (frame : Octets) (applySeqGate : Bool) :
    Undisturbed server (server.dispatchE2eCore streamId sequenceNum frame
      applySeqGate).1 := by
  unfold dispatchE2eCore
  dsimp only
  have hKick := undisturbed_rxWatchdogKick server streamId 0
  split
  · exact hKick
  · refine hKick.trans ?_
    unfold dispatchE2eUnfaulted
    split
    · exact .refl _
    · dsimp only
      split
      · exact undisturbed_decodeAndDispatch _ _ _
      · have hGate : Undisturbed (server.rxWatchdogKick streamId 0)
            (if applySeqGate = true then
              (server.rxWatchdogKick streamId 0).seqGateAdmits streamId
                sequenceNum
            else (server.rxWatchdogKick streamId 0, true)).1 := by
          split
          · exact undisturbed_seqGateAdmits _ _ _
          · exact .refl _
        generalize (if applySeqGate = true then
          (server.rxWatchdogKick streamId 0).seqGateAdmits streamId sequenceNum
          else (server.rxWatchdogKick streamId 0, true)) = gate at hGate ⊢
        split
        · exact hGate
        · refine hGate.trans ?_
          split
          · exact undisturbed_decodeAndDispatch _ _ _
          · exact undisturbed_recordCrcError _ _

/-! ## One fragment -/

end Server

/-- One fragment as it is dispatched, by itself or as a member of a frame. -/
structure Arrival where
  streamId : StreamId
  sequenceNum : UInt8 := 0
  fragment : Octets
  applySeqGate : Bool := true
  deriving DecidableEq, Repr

namespace Arrival

def dispatch (arrival : Arrival) (server : Server) : Server × Reply :=
  server.dispatchE2eFragmentCore arrival.streamId arrival.sequenceNum
    arrival.fragment arrival.applySeqGate

def header (arrival : Arrival) : AcfMessageInfo :=
  decodeAcfMessageInfo arrival.fragment

/-- The reassembler slot of the stream of an arrival. -/
def slot (arrival : Arrival) (server : Server) : Nat :=
  Server.slotOf (server.streamIndex arrival.streamId)

/-- The fragment reaches a reassembler, not an endpoint. -/
def Protected (arrival : Arrival) (server : Server) : Prop :=
  server.regs.reqCrcEnabled arrival.header.byteBusId = true ∧
    server.streamIndex arrival.streamId ≠ 0

theorem slot_congr (arrival : Arrival) {a b : Server}
    (hRegs : b.regs = a.regs) : arrival.slot b = arrival.slot a := by
  rw [slot, slot, Server.streamIndex, Server.streamIndex, hRegs]

end Arrival

structure SameEndpoints (a b : Server) : Prop where
  peripherals : b.peripherals = a.peripherals
  admissions : b.admissions = a.admissions

theorem SameEndpoints.refl (server : Server) : SameEndpoints server server :=
  ⟨rfl, rfl⟩

theorem SameEndpoints.trans {a b c : Server} (hab : SameEndpoints a b)
    (hbc : SameEndpoints b c) : SameEndpoints a c :=
  ⟨hbc.1.trans hab.1, hbc.2.trans hab.2⟩

/-- A message as the last fragment completes it: its header, its time, its
whole payload and the type it is encoded with. -/
structure JoinedMessage where
  header : AcfMessageInfo
  messageTimestamp : Nat
  isGbb : Bool
  payload : Octets
  deriving DecidableEq, Repr

def JoinedMessage.dispatch (message : JoinedMessage) (streamId : StreamId)
    (server : Server) : Server × Reply :=
  server.dispatchReassembled streamId message.header message.messageTimestamp
    message.isGbb message.payload

/-- What a last fragment and the collected ones before it make up, and the
check it has passed. -/
structure Completes (arrival : Arrival) (firstHeader collected : Octets)
    (message : JoinedMessage) : Prop where
  last : arrival.header.ms = false
  isGbb : message.isGbb =
    decide (arrival.header.acfMsgType = acfMsgTypeGbb)
  header : message.header.resized = arrival.header.resized
  payload : message.payload = collected ++ lastPayload arrival.fragment
  verified : lastTrailer arrival.fragment =
    computeFragmentedCrc arrival.streamId firstHeader message.payload

inductive FragmentTurn (server : Server) (arrival : Arrival) :
    Server × Reply → Prop
  | withheld {result : Server × Reply}
      (hEndpoints : SameEndpoints server result.1)
      (hReassembly : Undisturbed server result.1) :
      FragmentTurn server arrival result
  | collected {result : Server × Reply}
      (hProtected : arrival.Protected server)
      (hMs : arrival.header.ms = true)
      (hFeed : ((server.fragReassemblers.get (arrival.slot server)).feed true
        arrival.header.readSizeOrSegmentNum
        (segmentPayload arrival.fragment)).2 = .continue)
      (hRegs : result.1.regs = server.regs)
      (hEndpoints : SameEndpoints server result.1)
      (hReassemblers : result.1.fragReassemblers =
        server.fragReassemblers.set (arrival.slot server)
          ((server.fragReassemblers.get (arrival.slot server)).feed true
            arrival.header.readSizeOrSegmentNum
            (segmentPayload arrival.fragment)).1)
      (hHeaders : result.1.fragFirstHeaders =
        if (server.fragReassemblers.get (arrival.slot server)).collecting then
          server.fragFirstHeaders
        else server.fragFirstHeaders.set (arrival.slot server)
          (rawHeader arrival.fragment)) :
      FragmentTurn server arrival result
  | alone {result : Server × Reply} {later : Server}
      (hEndpoints : SameEndpoints server later)
      (hAlone : result =
          later.decodeAndDispatch arrival.streamId arrival.fragment ∨
        result = later.dispatchE2eCore arrival.streamId arrival.sequenceNum
          arrival.fragment arrival.applySeqGate)
      (hReassembly : Undisturbed server result.1) :
      FragmentTurn server arrival result
  | joined (message : JoinedMessage) {later : Server}
      (hProtected : arrival.Protected server)
      (hCollecting : (server.fragReassemblers.get
        (arrival.slot server)).collecting = true)
      (hEndpoints : SameEndpoints server later)
      (hReassembly : Undisturbed server later)
      (hCompletes : Completes arrival
        (server.fragFirstHeaders.get (arrival.slot server))
        (server.fragReassemblers.get (arrival.slot server)).buf message) :
      FragmentTurn server arrival (message.dispatch arrival.streamId later)

inductive SegmentTurn (server : Server) (arrival : Arrival) :
    Server × Reply → Prop
  | refused {result : Server × Reply}
      (hCode : result.2.ec = some (.dispatch .fragmentRejected))
      (hEndpoints : SameEndpoints server result.1)
      (hReassembly : Undisturbed server result.1) :
      SegmentTurn server arrival result
  | collected {result : Server × Reply}
      (hCode : result.2.ec = some (.dispatch .fragmentPending))
      (hFeed : ((server.fragReassemblers.get (arrival.slot server)).feed true
        arrival.header.readSizeOrSegmentNum
        (segmentPayload arrival.fragment)).2 = .continue)
      (hRegs : result.1.regs = server.regs)
      (hEndpoints : SameEndpoints server result.1)
      (hReassemblers : result.1.fragReassemblers =
        server.fragReassemblers.set (arrival.slot server)
          ((server.fragReassemblers.get (arrival.slot server)).feed true
            arrival.header.readSizeOrSegmentNum
            (segmentPayload arrival.fragment)).1)
      (hHeaders : result.1.fragFirstHeaders =
        if (server.fragReassemblers.get (arrival.slot server)).collecting then
          server.fragFirstHeaders
        else server.fragFirstHeaders.set (arrival.slot server)
          (rawHeader arrival.fragment)) :
      SegmentTurn server arrival result

def finalRefusals : List ErrorCode :=
  [.dispatch .fragmentRejected, .e2e .shortFrame, .e2e .crcError,
    .regmap .requestRejected]

inductive FinalTurn (server : Server) (arrival : Arrival) :
    Server × Reply → Prop
  | refused {result : Server × Reply} (ec : ErrorCode)
      (hRefusal : ec ∈ finalRefusals)
      (hCode : result.2.ec = some ec)
      (hEndpoints : SameEndpoints server result.1)
      (hReassembly : Undisturbed server result.1) :
      FinalTurn server arrival result
  | joined (message : JoinedMessage) {later : Server}
      (hEndpoints : SameEndpoints server later)
      (hReassembly : Undisturbed server later)
      (hEmptied : later.fragReassemblers.get (arrival.slot server) =
        (server.fragReassemblers.get (arrival.slot server)).reset)
      (hCompletes : Completes arrival
        (server.fragFirstHeaders.get (arrival.slot server))
        (server.fragReassemblers.get (arrival.slot server)).buf message) :
      FinalTurn server arrival (message.dispatch arrival.streamId later)

theorem reset_of_feed {reasm again : Fragment.Reassembler} {ms : Bool}
    {segmentNum : UInt16} {payload : Octets} {result : ReasmResult}
    (h : reasm.feed ms segmentNum payload = (again, result)) :
    again.reset = reasm.reset := by
  have hReset : (reasm.feed ms segmentNum payload).1.reset = reasm.reset := by
    unfold Fragment.Reassembler.feed
    split
    · split
      · rfl
      · split
        · rfl
        · split <;> rfl
    · split
      · rfl
      · split
        · rfl
        · split <;> rfl
  rwa [h] at hReset

theorem buf_of_feed_complete {reasm again : Fragment.Reassembler}
    {segmentNum : UInt16} {payload : Octets}
    (h : reasm.feed false segmentNum payload = (again, .complete)) :
    again.buf = reasm.buf ++ payload := by
  unfold Fragment.Reassembler.feed at h
  simp only [Bool.not_false, Bool.false_and, Bool.false_eq_true, if_false,
    if_true] at h
  split at h
  · split at h
    · cases h
    · cases h
      rfl
  · split at h
    · cases h
    · cases h
      rfl

namespace Server

theorem segmentTurn_feedIntermediate (server : Server) (arrival : Arrival) :
    SegmentTurn server arrival
      (server.feedIntermediate (arrival.slot server) arrival.fragment) := by
  have hLt : arrival.slot server < tableMaxEntries :=
    slotOf_streamIndex_lt server arrival.streamId
  unfold feedIntermediate
  dsimp only
  split
  · exact .refused rfl (.refl server) (.refl server)
  · next header ts payload hDecode =>
      obtain ⟨hHeader, hType, hPayload⟩ := decodeAcfFrame_ok hDecode
      have hSegment : trimWirePad payload header.pad =
          segmentPayload arrival.fragment := by
        rw [hPayload, hHeader]
        rfl
      rw [hSegment]
      generalize hBefore : (if (server.fragReassemblers.get
        (arrival.slot server)).collecting = true then server else _) = before
      have hRegs : before.regs = server.regs := by
        rw [← hBefore]
        split <;> rfl
      have hEndpoints : SameEndpoints server before := by
        rw [← hBefore]
        split <;> exact ⟨rfl, rfl⟩
      have hReassemblers :
          before.fragReassemblers = server.fragReassemblers := by
        rw [← hBefore]
        split <;> rfl
      have hHeaders : before.fragFirstHeaders =
          if (server.fragReassemblers.get (arrival.slot server)).collecting
          then server.fragFirstHeaders
          else server.fragFirstHeaders.set (arrival.slot server)
            (rawHeader arrival.fragment) := by
        rw [← hBefore]
        split <;> rfl
      split
      · next reasm hFeed =>
          refine .collected rfl ?_ hRegs ⟨hEndpoints.1, hEndpoints.2⟩ ?_ hHeaders
          · rw [Arrival.header, hFeed]
          · rw [Arrival.header, hFeed, setReassembler, hReassemblers]
      · next reasm result hNot hFeed =>
          refine .refused rfl ⟨hEndpoints.1, hEndpoints.2⟩ ?_
          refine undisturbed_reset hRegs hLt
            (congrArg (Table.set · _ reasm.reset) hReassemblers)
            (reset_of_feed hFeed)
            fun other hOther => ?_
          change before.fragFirstHeaders.get other = _
          rw [hHeaders]
          split
          · rfl
          · exact Table.get_set_ne (Ne.symm hOther)

private theorem turn_feedIntermediate {server : Server} {arrival : Arrival}
    (hProtected : arrival.Protected server) (hMs : arrival.header.ms = true) :
    FragmentTurn server arrival
      (server.feedIntermediate (arrival.slot server) arrival.fragment) := by
  have hTurn := segmentTurn_feedIntermediate server arrival
  revert hTurn
  generalize server.feedIntermediate (arrival.slot server) arrival.fragment =
    result
  intro hTurn
  cases hTurn with
  | refused hCode hEndpoints hReassembly =>
      exact .withheld hEndpoints hReassembly
  | collected hCode hFeed hRegs hEndpoints hReassemblers hHeaders =>
      exact .collected hProtected hMs hFeed hRegs hEndpoints hReassemblers
        hHeaders

theorem finalTurn_feedFinal {server : Server} {arrival : Arrival}
    (hMs : arrival.header.ms = false) :
    FinalTurn server arrival
      (server.feedFinal arrival.streamId (arrival.slot server)
        arrival.fragment) := by
  have hLt : arrival.slot server < tableMaxEntries :=
    slotOf_streamIndex_lt server arrival.streamId
  have hReset : Undisturbed server
      (server.resetReassembler (arrival.slot server)) :=
    undisturbed_resetReassembler server hLt
  unfold feedFinal
  dsimp only
  split
  · exact .refused (.dispatch .fragmentRejected) (by simp [finalRefusals]) rfl
      ⟨rfl, rfl⟩ hReset
  · split
    · next hShort =>
        exact .refused (.e2e .shortFrame) (by simp [finalRefusals]) hShort
          ⟨rfl, rfl⟩ hReset
    · next hLong =>
        split
        · exact .refused (.dispatch .fragmentRejected) (by simp [finalRefusals])
            rfl ⟨rfl, rfl⟩ hReset
        · next finalHeader messageTimestamp payload hDecode =>
            obtain ⟨hHeader, hPayload⟩ := decode_unwrapped hLong hDecode
            rw [hPayload]
            have hAfter : ∀ again result, (server.fragReassemblers.get
                (arrival.slot server)).feed false 0
                  (lastPayload arrival.fragment) = (again, result) →
                Undisturbed server (server.setReassembler
                  (arrival.slot server) again.reset) := by
              intro again result hFeed
              exact undisturbed_reset rfl hLt rfl (reset_of_feed hFeed)
                fun _ _ => rfl
            split
            · next reasm hFeed =>
                have hBuf := buf_of_feed_complete hFeed
                have hLater := hAfter _ _ hFeed
                split
                · refine .refused (.e2e .crcError) (by simp [finalRefusals])
                    rfl ?_ (hLater.trans (undisturbed_recordCrcError _ _))
                  unfold recordCrcError
                  dsimp only
                  split <;> exact ⟨rfl, rfl⟩
                · next hCrc =>
                    generalize hBound : (if decide ((decodeAcfMessageInfo
                      arrival.fragment).acfMsgType = acfMsgTypeGbb) = true
                      then acfGbbMaxPayload else acfAbbMaxPayload) = bound
                    split
                    · exact .refused (.regmap .requestRejected)
                        (by simp [finalRefusals]) rfl ⟨rfl, rfl⟩ hLater
                    · refine .joined ⟨finalHeader, messageTimestamp, _,
                        reasm.buf⟩ ⟨rfl, rfl⟩ hLater ?_
                        ⟨hMs, rfl, hHeader, hBuf, not_not.mp hCrc⟩
                      exact (Table.get_set_self hLt).trans (reset_of_feed hFeed)
            · next reasm result hNot hFeed =>
                exact .refused (.dispatch .fragmentRejected)
                  (by simp [finalRefusals]) rfl ⟨rfl, rfl⟩ (hAfter _ _ hFeed)

private theorem turn_feedFinal {server : Server} {arrival : Arrival}
    (hProtected : arrival.Protected server) (hMs : arrival.header.ms = false)
    (hCollecting : (server.fragReassemblers.get
      (arrival.slot server)).collecting = true) :
    FragmentTurn server arrival
      (server.feedFinal arrival.streamId (arrival.slot server)
        arrival.fragment) := by
  have hTurn := @finalTurn_feedFinal server arrival hMs
  revert hTurn
  generalize server.feedFinal arrival.streamId (arrival.slot server)
    arrival.fragment = result
  intro hTurn
  cases hTurn with
  | refused ec hRefusal hCode hEndpoints hReassembly =>
      exact .withheld hEndpoints hReassembly
  | joined message hEndpoints hReassembly hEmptied hCompletes =>
      exact .joined message hProtected hCollecting hEndpoints hReassembly
        hCompletes

private theorem turn_dispatchFragmentUnfaulted (server : Server)
    (arrival : Arrival) :
    FragmentTurn server arrival
      (server.dispatchFragmentUnfaulted arrival.streamId arrival.sequenceNum
        arrival.fragment arrival.applySeqGate) := by
  unfold dispatchFragmentUnfaulted
  split
  · exact .withheld (.refl server) (.refl server)
  · dsimp only
    split
    · exact .alone (.refl server) (Or.inl rfl)
        (undisturbed_decodeAndDispatch _ _ _)
    · next hCrc =>
        have hEnabled : server.regs.reqCrcEnabled arrival.header.byteBusId =
            true := by simpa [Arrival.header] using hCrc
        split
        · exact .alone (.refl server) (Or.inr rfl)
            (undisturbed_dispatchE2eCore _ _ _ _ _)
        · next hIndex =>
            split
            · next hMs => exact turn_feedIntermediate ⟨hEnabled, hIndex⟩ hMs
            · next hMs =>
                split
                · exact .alone (.refl server) (Or.inr rfl)
                    (undisturbed_dispatchE2eCore _ _ _ _ _)
                · next hCollecting =>
                    exact turn_feedFinal ⟨hEnabled, hIndex⟩
                      (Bool.eq_false_iff.mpr hMs)
                      (by simpa [Arrival.slot] using hCollecting)

end Server

theorem FragmentTurn.of_kick {a b : Server} {arrival : Arrival}
    {result : Server × Reply} (hRegs : b.regs = a.regs)
    (hEndpoints : SameEndpoints a b)
    (hReassemblers : b.fragReassemblers = a.fragReassemblers)
    (hHeaders : b.fragFirstHeaders = a.fragFirstHeaders)
    (h : FragmentTurn b arrival result) : FragmentTurn a arrival result := by
  have hIndex : b.streamIndex arrival.streamId =
      a.streamIndex arrival.streamId := by
    rw [Server.streamIndex, Server.streamIndex, hRegs]
  have hSlot := arrival.slot_congr hRegs
  have hKept : Undisturbed a b := .of_eq hRegs hReassemblers hHeaders
  have hProtect : arrival.Protected b → arrival.Protected a := by
    rintro ⟨hCrc, hConfigured⟩
    exact ⟨hRegs ▸ hCrc, hIndex ▸ hConfigured⟩
  cases h with
  | withheld hWork hReassembly =>
      exact .withheld (hEndpoints.trans hWork) (hKept.trans hReassembly)
  | collected hProtected hMs hFeed hLater hWork hFed hFirst =>
      rw [hSlot, hReassemblers] at hFeed hFed hFirst
      rw [hHeaders] at hFirst
      exact .collected (hProtect hProtected) hMs hFeed (hLater.trans hRegs)
        (hEndpoints.trans hWork) hFed hFirst
  | alone hWork hAlone hReassembly =>
      exact .alone (hEndpoints.trans hWork) hAlone (hKept.trans hReassembly)
  | joined message hProtected hCollecting hWork hReassembly hCompletes =>
      rw [hSlot, hReassemblers] at hCollecting hCompletes
      rw [hHeaders] at hCompletes
      exact .joined message (hProtect hProtected) hCollecting
        (hEndpoints.trans hWork) (hKept.trans hReassembly) hCompletes

theorem sameEndpoints_rxWatchdogKick (server : Server) (streamId : StreamId)
    (nowMs : Nat) :
    SameEndpoints server (server.rxWatchdogKick streamId nowMs) := by
  unfold Server.rxWatchdogKick
  dsimp only
  split <;> exact ⟨rfl, rfl⟩

theorem fragFirstHeaders_rxWatchdogKick (server : Server)
    (streamId : StreamId) (nowMs : Nat) :
    (server.rxWatchdogKick streamId nowMs).fragFirstHeaders =
      server.fragFirstHeaders := by
  unfold Server.rxWatchdogKick
  dsimp only
  split <;> rfl

theorem turn_dispatch (server : Server) (arrival : Arrival) :
    FragmentTurn server arrival (arrival.dispatch server) := by
  have hEndpoints :=
    sameEndpoints_rxWatchdogKick server arrival.streamId 0
  unfold Arrival.dispatch Server.dispatchE2eFragmentCore
  dsimp only
  split
  · exact .withheld hEndpoints (Server.undisturbed_rxWatchdogKick _ _ _)
  · exact (Server.turn_dispatchFragmentUnfaulted _ arrival).of_kick (by simp)
      hEndpoints (by simp) (fragFirstHeaders_rxWatchdogKick _ _ _)

end CppRcp.Mock
