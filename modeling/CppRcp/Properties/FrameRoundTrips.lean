import CppRcp.Properties.FrameWalks
import CppRcp.Wire.Frames

/-!
# Frames are returned by their decoders

A frame whose fields are within their widths is returned by its decoder,
exactly if the header can count the octets of all its messages: 2047 under
NTSCF, 65535 under TSCF.  A longer one is encoded under a count that was cut,
and refused by every decoder.  The replies of a server are put together in the
same way: a decoder of several messages gets all answers under the same
condition, a decoder of one message only an answer that is alone.
-/

namespace CppRcp.Transport

open CppRcp.Foundation CppRcp.Acf CppRcp.Avtp CppRcp.E2e CppRcp.Mock

/-! ## Messages in range -/

/-- A quadlet-aligned ABB or GBB message whose fields are within their widths:
its length field is its own length, or is left to be computed, and an ABB
message has no timestamp. -/
structure InRange (entry : AcfEntry) : Prop where
  msgType : entry.info.acfMsgType = acfMsgTypeAbb ∨
    entry.info.acfMsgType = acfMsgTypeGbb
  fields : entry.info.truncated = entry.info
  untimed : entry.info.acfMsgType = acfMsgTypeAbb →
    entry.info.mtv = false ∧ entry.messageTimestamp = 0
  timestamp : entry.messageTimestamp < 2 ^ 64
  aligned : entry.payload.length % 4 = 0
  length : entry.info.acfMsgLength = 0 ∨
    entry.info.acfMsgLength.toNat * 4 = entry.size
  short : entry.size ≤ acfMaxQuadlets * 4

/-- A message with its length field filled in. -/
def filled (entry : AcfEntry) : AcfEntry :=
  { entry with
    info := { entry.info with
      acfMsgLength := UInt16.ofNat (entry.size / 4) } }

def messageOf (entry : AcfEntry) : AcfMessage :=
  if entry.info.acfMsgType = acfMsgTypeGbb then
    .gbb entry.info (UInt64.ofNat entry.messageTimestamp) entry.payload
  else .abb entry.info entry.payload

private theorem messageOf_gbb {entry : AcfEntry}
    (h : entry.info.acfMsgType = acfMsgTypeGbb) :
    messageOf entry = .gbb entry.info (UInt64.ofNat entry.messageTimestamp)
      entry.payload := if_pos h

private theorem messageOf_abb {entry : AcfEntry}
    (h : entry.info.acfMsgType = acfMsgTypeAbb) :
    messageOf entry = .abb entry.info entry.payload :=
  if_neg (by rw [h]; decide)

theorem encode_messageOf (entry : AcfEntry)
    (h : entry.messageTimestamp < 2 ^ 64) :
    (messageOf entry).encode =
      encodeEntry entry.info entry.messageTimestamp entry.payload := by
  unfold messageOf encodeEntry
  split
  · simp only [AcfMessage.encode, UInt64.toNat_ofNat', Nat.mod_eq_of_lt h]
  · rfl

section Entry

variable {entry : AcfEntry}

private theorem InRange.size_eq (h : InRange entry) :
    entry.size % 4 = 0 ∧ entry.size / 4 < 512 := by
  have hShort := h.short
  have hAligned := h.aligned
  unfold acfMaxQuadlets at hShort
  have hHeader : headerLen entry.info.acfMsgType % 4 = 0 := by
    unfold headerLen
    split <;> rfl
  unfold AcfEntry.size at hShort ⊢
  omega

private theorem InRange.msgLength_eq (h : InRange entry) :
    (messageOf entry).msgLength = UInt16.ofNat (entry.size / 4) := by
  obtain ⟨hAligned, -⟩ := h.size_eq
  have hInfo : (messageOf entry).info = entry.info := by
    unfold messageOf
    split <;> rfl
  have hSize : headerLen (messageOf entry).msgType +
      (messageOf entry).payload.length = entry.size := by
    unfold messageOf AcfEntry.size
    split
    · next hGbb => rw [hGbb]; rfl
    · next hNot => rw [h.msgType.resolve_right hNot]; rfl
  unfold AcfMessage.msgLength computeAcfMsgLength
  rw [hInfo, hSize]
  split
  · congr 1
    omega
  · next hSet =>
      have hGiven := h.length.resolve_left hSet
      rw [← hGiven, Nat.mul_div_cancel _ (by omega), UInt16.ofNat_toNat]

theorem InRange.exact (h : InRange entry) : (messageOf entry).Exact := by
  obtain ⟨hAligned, hShort⟩ := h.size_eq
  unfold AcfMessage.Exact
  rw [h.msgLength_eq, encode_messageOf entry h.timestamp, length_encodeEntry,
    UInt16.toNat_ofNat']
  omega

private theorem InRange.header_eq (h : InRange entry) :
    (messageOf entry).header = (filled entry).info := by
  have hLength := h.msgLength_eq
  unfold AcfMessage.header filled
  rw [hLength]
  rcases h.msgType with hAbb | hGbb
  · obtain ⟨hMtv, -⟩ := h.untimed hAbb
    simp only [messageOf_abb hAbb, AcfMessage.info, AcfMessage.msgType,
      ← hAbb, ← hMtv]
  · simp only [messageOf_gbb hGbb, AcfMessage.info, AcfMessage.msgType,
      ← hGbb]

private theorem InRange.truncated_filled (h : InRange entry) :
    (filled entry).info.truncated = (filled entry).info := by
  obtain ⟨-, hShort⟩ := h.size_eq
  have hCut : UInt16.ofNat ((UInt16.ofNat (entry.size / 4)).toNat % 512) =
      UInt16.ofNat (entry.size / 4) := by
    rw [UInt16.toNat_ofNat']
    congr 1
    omega
  change { entry.info.truncated with
    acfMsgLength :=
      UInt16.ofNat ((UInt16.ofNat (entry.size / 4)).toNat % 512) } = _
  rw [h.fields, hCut]
  rfl

private theorem InRange.onWire_eq (h : InRange entry) :
    (messageOf entry).onWire = filled entry := by
  have hInfo : (messageOf entry).header.truncated = (filled entry).info := by
    rw [h.header_eq, h.truncated_filled]
  unfold AcfMessage.onWire
  rw [hInfo]
  rcases h.msgType with hAbb | hGbb
  · obtain ⟨-, hZero⟩ := h.untimed hAbb
    simp only [messageOf_abb hAbb, AcfMessage.payload, ← hZero]
    rfl
  · simp only [messageOf_gbb hGbb, AcfMessage.payload, UInt64.toNat_ofNat',
      Nat.mod_eq_of_lt h.timestamp]
    rfl

theorem InRange.decoded (h : InRange entry) :
    peekAcfMsgType (messageOf entry).encode = entry.info.acfMsgType ∧
      (entry.info.acfMsgType = acfMsgTypeGbb →
        decodeAcfGbb (messageOf entry).encode =
          .ok ((filled entry).info, entry.messageTimestamp, entry.payload)) ∧
      (entry.info.acfMsgType = acfMsgTypeAbb →
        decodeAcfAbb (messageOf entry).encode =
          .ok ((filled entry).info, entry.payload)) := by
  have hType := (messageOf entry).peekAcfMsgType_encode []
  have hInfo : (messageOf entry).header.truncated = (filled entry).info := by
    rw [h.header_eq, h.truncated_filled]
  rw [List.append_nil] at hType
  refine ⟨?_, ?_, ?_⟩
  · rw [hType]
    rcases h.msgType with hAbb | hGbb
    · rw [messageOf_abb hAbb, hAbb]
      rfl
    · rw [messageOf_gbb hGbb, hGbb]
      rfl
  · intro hGbb
    rw [messageOf_gbb hGbb] at hInfo ⊢
    rw [AcfMessage.decodeAcfGbb_encode, hInfo, UInt64.toNat_ofNat',
      Nat.mod_eq_of_lt h.timestamp]
  · intro hAbb
    rw [messageOf_abb hAbb] at hInfo ⊢
    rw [AcfMessage.decodeAcfAbb_encode, hInfo]

end Entry

private theorem frameOf_messageOf {entries : List AcfEntry}
    (h : ∀ entry ∈ entries, InRange entry) :
    frameOf (entries.map messageOf) =
      entries.flatMap fun entry =>
        encodeEntry entry.info entry.messageTimestamp entry.payload := by
  induction entries with
  | nil => rfl
  | cons entry entries ih =>
      obtain ⟨hFirst, hRest⟩ := List.forall_mem_cons.mp h
      rw [List.map_cons, frameOf_cons, List.flatMap_cons, ih hRest,
        encode_messageOf entry hFirst.timestamp]

private theorem decodeAcfMessages_encodeEntry {entries : List AcfEntry}
    (h : ∀ entry ∈ entries, InRange entry) :
    decodeAcfMessages (entries.flatMap fun entry =>
        encodeEntry entry.info entry.messageTimestamp entry.payload) =
      .ok (entries.map filled) := by
  have hExact : ∀ message ∈ entries.map messageOf, message.Exact := by
    intro message hMessage
    obtain ⟨entry, hEntry, rfl⟩ := List.mem_map.mp hMessage
    exact (h entry hEntry).exact
  rw [← frameOf_messageOf h, decodeAcfMessages_frameOf hExact, List.map_map]
  exact congrArg Except.ok
    (List.map_congr_left fun entry hEntry => (h entry hEntry).onWire_eq)

/-! ## Frames in range -/

/-- The sequence number has eight bits, and NTSCF no timestamp. -/
structure Envelope.InRange (envelope : Envelope) : Prop where
  sequenceNum : envelope.sequenceNum.toNat < 256
  untimed : envelope.useTscf = false →
    envelope.timestampValid = false ∧ envelope.avtpTimestamp = 0

private theorem Envelope.InRange.onWire_eq {envelope : Envelope}
    (h : envelope.InRange) : envelope.onWire = envelope := by
  obtain ⟨useTscf, streamId, sequenceNum, timestampValid, avtpTimestamp⟩ :=
    envelope
  have hSequence : UInt16.ofNat (sequenceNum.toNat % 256) = sequenceNum := by
    rw [Nat.mod_eq_of_lt h.sequenceNum, UInt16.ofNat_toNat]
  unfold Envelope.onWire
  cases useTscf with
  | false =>
      obtain ⟨hInvalid, hZero⟩ := h.untimed rfl
      simp only at hInvalid hZero
      simp [hSequence, hInvalid, hZero]
  | true => simp [hSequence]

structure MultiFrame.InRange (frame : MultiFrame) : Prop where
  envelope : frame.toEnvelope.InRange
  nonempty : frame.messages ≠ []
  messages : ∀ entry ∈ frame.messages, Transport.InRange entry

def MultiFrame.filled (frame : MultiFrame) : MultiFrame :=
  { frame with messages := frame.messages.map Transport.filled }

def Frame.entry (frame : Frame) : AcfEntry :=
  ⟨frame.info, frame.messageTimestamp, frame.payload⟩

structure Frame.InRange (frame : Frame) : Prop where
  envelope : frame.toEnvelope.InRange
  message : Transport.InRange frame.entry

def Frame.filled (frame : Frame) : Frame :=
  { frame with info := (Transport.filled frame.entry).info }

private theorem eight_le_size (entry : AcfEntry) : 8 ≤ entry.size := by
  have hEight := le_headerLen entry.info.acfMsgType
  unfold acfCommonHeaderLen at hEight
  unfold AcfEntry.size
  omega

private theorem eight_le_totalLen {entries : List AcfEntry} (h : entries ≠ []) :
    8 ≤ totalLen entries := by
  obtain ⟨entry, rest, rfl⟩ := List.exists_cons_of_ne_nil h
  have hFirst := eight_le_size entry
  simp only [totalLen, List.map_cons, List.sum_cons]
  omega

theorem MultiFrame.InRange.decode_iff {frame : MultiFrame}
    (h : frame.InRange) :
    decodeMultiFrame (encodeMultiFrame frame) = .ok frame.filled ↔
      totalLen frame.messages ≤ maxDataLen frame.useTscf := by
  have hSome := eight_le_totalLen h.nonempty
  unfold decodeMultiFrame encodeMultiFrame
  rw [decodeEnvelope_encodeEnvelope, length_flatMap_encodeEntry]
  by_cases hCounted : totalLen frame.messages ≤ maxDataLen frame.useTscf
  · rw [if_pos hCounted]
    dsimp only
    rw [if_neg (by rw [length_flatMap_encodeEntry]; omega),
      decodeAcfMessages_encodeEntry h.messages, h.envelope.onWire_eq]
    exact iff_of_true rfl hCounted
  · rw [if_neg hCounted]
    exact iff_of_false (by simp) hCounted

theorem Frame.InRange.decode_encode {frame : Frame} (h : frame.InRange) :
    decodeFrame (encodeFrame frame) = .ok frame.filled := by
  have hShort := h.message.short
  have hPos := eight_le_size frame.entry
  have hLength := length_encodeEntry frame.entry
  have hMax : 2044 ≤ maxDataLen frame.useTscf := by
    unfold maxDataLen
    split <;> omega
  unfold acfMaxQuadlets at hShort
  have hEncode := encode_messageOf frame.entry h.message.timestamp
  obtain ⟨hType, hGbb, hAbb⟩ := h.message.decoded
  change (encodeEntry frame.info frame.messageTimestamp
    frame.payload).length = _ at hLength
  change _ = encodeEntry frame.info frame.messageTimestamp frame.payload
    at hEncode
  rw [hEncode] at hType hGbb hAbb
  unfold decodeFrame encodeFrame
  rw [decodeEnvelope_encodeEnvelope, if_pos (by omega)]
  dsimp only
  rw [if_neg (by omega), hType, h.envelope.onWire_eq]
  rcases h.message.msgType with hIsAbb | hIsGbb
  · rw [if_neg (by rw [hIsAbb]; decide), hAbb hIsAbb]
    obtain ⟨-, hZero⟩ := h.message.untimed hIsAbb
    change frame.messageTimestamp = 0 at hZero
    unfold Frame.filled
    rw [hZero]
    rfl
  · rw [if_pos hIsGbb, hGbb hIsGbb]
    rfl

/-! ## Replies -/

theorem decodeFrame_encodeMultiFrame (envelope : Envelope) (entry : AcfEntry)
    (rest : List AcfEntry) (hTimestamp : entry.messageTimestamp < 2 ^ 64) :
    decodeFrame (encodeMultiFrame ⟨envelope, entry :: rest⟩) =
      if totalLen (entry :: rest) ≤ maxDataLen envelope.useTscf then
        .ok ⟨envelope.onWire, (messageOf entry).onWire.info,
          (messageOf entry).onWire.messageTimestamp,
          entry.payload ++ rest.flatMap fun entry =>
            encodeEntry entry.info entry.messageTimestamp entry.payload⟩
      else .error (.avtp .lengthMismatch) := by
  have hPos : 8 ≤ totalLen (entry :: rest) := eight_le_totalLen (by simp)
  have hLength := length_flatMap_encodeEntry (entry :: rest)
  have hBytes : (entry :: rest).flatMap (fun entry =>
      encodeEntry entry.info entry.messageTimestamp entry.payload) =
        (messageOf entry).encode ++ rest.flatMap fun entry =>
          encodeEntry entry.info entry.messageTimestamp entry.payload := by
    rw [List.flatMap_cons, encode_messageOf entry hTimestamp]
  unfold decodeFrame encodeMultiFrame
  rw [decodeEnvelope_encodeEnvelope, hLength]
  by_cases hCounted : totalLen (entry :: rest) ≤ maxDataLen envelope.useTscf
  · rw [if_pos hCounted, if_pos hCounted]
    dsimp only
    rw [if_neg (by omega), hBytes, (messageOf entry).peekAcfMsgType_encode]
    unfold messageOf
    split
    · simp [AcfMessage.msgType, AcfMessage.decodeAcfGbb_encode_append,
        AcfMessage.onWire]
    · have hNot : acfMsgTypeAbb ≠ acfMsgTypeGbb := by decide
      simp [AcfMessage.msgType, AcfMessage.decodeAcfAbb_encode_append,
        AcfMessage.onWire, hNot]
  · rw [if_neg hCounted, if_neg hCounted]

def answerFrame (envelope : Envelope) (answer : AcfEntry) : Frame :=
  ⟨envelope.onWire, (messageOf answer).onWire.info,
    (messageOf answer).onWire.messageTimestamp, answer.payload⟩

private theorem size_le_totalLen {entry : AcfEntry} {entries : List AcfEntry}
    (h : entry ∈ entries) : entry.size ≤ totalLen entries :=
  List.single_le_sum (by simp) _ (List.mem_map_of_mem h)

section Answers

variable {envelope : Envelope} {answers : List AcfEntry}

/-- A client's decoder gives one of the answers exactly if there is no other,
and the header can count it. -/
theorem decodeFrame_answers_iff
    (hTimestamps : ∀ answer ∈ answers, answer.messageTimestamp < 2 ^ 64)
    (hSome : answers ≠ []) :
    (∃ answer ∈ answers, decodeFrame (encodeMultiFrame ⟨envelope, answers⟩) =
        .ok (answerFrame envelope answer)) ↔
      answers.length = 1 ∧
        totalLen answers ≤ maxDataLen envelope.useTscf := by
  obtain ⟨first, rest, rfl⟩ := List.exists_cons_of_ne_nil hSome
  rw [decodeFrame_encodeMultiFrame envelope first rest
    (hTimestamps first (by simp))]
  constructor
  · rintro ⟨answer, hMem, hDecode⟩
    split at hDecode
    · next hCounted =>
        refine ⟨?_, hCounted⟩
        -- what stands behind the first answer is part of the payload read
        have hPayload := congrArg (fun frame => frame.payload.length)
          (Except.ok.inj hDecode)
        simp only [answerFrame, List.length_append,
          length_flatMap_encodeEntry] at hPayload
        rcases List.mem_cons.mp hMem with rfl | hRest
        · have hNone : rest = [] := by
            by_contra hMore
            have hEight := eight_le_totalLen hMore
            omega
          simp [hNone]
        · have hSize := size_le_totalLen hRest
          have hEight := le_headerLen answer.info.acfMsgType
          unfold AcfEntry.size acfCommonHeaderLen at *
          omega
    · cases hDecode
  · rintro ⟨hOne, hCounted⟩
    have hNone : rest = [] := by simpa using hOne
    subst hNone
    exact ⟨first, by simp, by rw [if_pos hCounted]; simp [answerFrame]⟩

/-- A decoder of several messages gives all answers, if each declares its own
length, exactly if the header can count them. -/
theorem decodeMultiFrame_answers_iff
    (hTimestamps : ∀ answer ∈ answers, answer.messageTimestamp < 2 ^ 64)
    (hSome : answers ≠ [])
    (hExact : ∀ answer ∈ answers, (messageOf answer).Exact) :
    decodeMultiFrame (encodeMultiFrame ⟨envelope, answers⟩) =
        .ok ⟨envelope.onWire,
          answers.map fun answer => (messageOf answer).onWire⟩ ↔
      totalLen answers ≤ maxDataLen envelope.useTscf := by
  have hPos := eight_le_totalLen hSome
  have hLength := length_flatMap_encodeEntry answers
  have hBytes : answers.flatMap (fun entry =>
      encodeEntry entry.info entry.messageTimestamp entry.payload) =
        frameOf (answers.map messageOf) := by
    rw [frameOf, List.map_map, ← List.flatMap_def]
    exact List.flatMap_congr fun answer hAnswer =>
      (encode_messageOf answer (hTimestamps answer hAnswer)).symm
  have hMessages : decodeAcfMessages (frameOf (answers.map messageOf)) =
      .ok (answers.map fun answer => (messageOf answer).onWire) := by
    rw [decodeAcfMessages_frameOf (by simpa using hExact), List.map_map]
    rfl
  unfold decodeMultiFrame encodeMultiFrame
  rw [decodeEnvelope_encodeEnvelope, hLength]
  by_cases hCounted : totalLen answers ≤ maxDataLen envelope.useTscf
  · rw [if_pos hCounted]
    dsimp only
    rw [if_neg (by omega), hBytes, hMessages]
    exact iff_of_true rfl hCounted
  · rw [if_neg hCounted]
    exact iff_of_false (by simp) hCounted

/-- The client's decoder refuses a reply exactly if the header cannot count
its answers. -/
theorem decodeFrame_encodeMultiFrame_iff
    (hTimestamps : ∀ answer ∈ answers, answer.messageTimestamp < 2 ^ 64)
    (hSome : answers ≠ []) :
    (∃ frame, decodeFrame (encodeMultiFrame ⟨envelope, answers⟩) =
        .ok frame) ↔ totalLen answers ≤ maxDataLen envelope.useTscf := by
  obtain ⟨first, rest, rfl⟩ := List.exists_cons_of_ne_nil hSome
  rw [decodeFrame_encodeMultiFrame envelope first rest
    (hTimestamps first (by simp))]
  split
  · next hCounted => exact iff_of_true ⟨_, rfl⟩ hCounted
  · next hLong => exact iff_of_false (by simp) hLong

end Answers

private theorem messageTimestamp_of_mem {results : List FrameResponse}
    {entry : AcfEntry} (h : entry ∈ replyMessages results) :
    entry.messageTimestamp < 2 ^ 64 := by
  obtain ⟨result, -, rfl⟩ := List.mem_map.mp h
  exact Nat.two_pow_pos 64

/-- The header of the reply to a request. -/
def replyHeader (streamId : StreamId) (seq : UInt16) (request : MultiFrame) :
    Envelope :=
  { useTscf := request.useTscf
    streamId := streamId
    sequenceNum := seq + 1
    timestampValid := request.timestampValid
    avtpTimestamp := request.avtpTimestamp }

/-- What can be read from a reply to a request that has these answers. -/
structure ReplyDecodes (header : Envelope) (answers : List AcfEntry)
    (reply : Octets) : Prop where
  accepted : (∃ frame, decodeFrame reply = .ok frame) ↔
    totalLen answers ≤ maxDataLen header.useTscf
  single : (∃ answer ∈ answers,
      decodeFrame reply = .ok (answerFrame header answer)) ↔
    answers.length = 1 ∧ totalLen answers ≤ maxDataLen header.useTscf
  all : (∀ answer ∈ answers, (messageOf answer).Exact) →
    (decodeMultiFrame reply = .ok ⟨header.onWire,
        answers.map fun answer => (messageOf answer).onWire⟩ ↔
      totalLen answers ≤ maxDataLen header.useTscf)

private theorem serve_replyDecodes {streamId : StreamId} {seq : UInt16}
    {handler : Option Handler} {avtpdu reply : Octets} {request : MultiFrame}
    (hRequest : decodeMultiFrame avtpdu = .ok request)
    (hReply : serve streamId seq handler avtpdu = some reply) :
    ReplyDecodes (replyHeader streamId seq request)
      (replyMessages (handlerResults handler request avtpdu)) reply := by
  unfold serve at hReply
  rw [hRequest] at hReply
  dsimp only at hReply
  split at hReply
  · cases hReply
  · next hSome =>
      obtain rfl := Option.some_inj.mp hReply
      exact ⟨decodeFrame_encodeMultiFrame_iff
          (fun _ => messageTimestamp_of_mem) hSome,
        decodeFrame_answers_iff (fun _ => messageTimestamp_of_mem) hSome,
        decodeMultiFrame_answers_iff (fun _ => messageTimestamp_of_mem) hSome⟩

/-- Every frame in range: of several messages it is returned exactly if its
header can count them, and of one message always.  From a reply, a client gets
an answer of the server exactly if it is the only one and the header, of the
request's kind, can count it; a decoder of several messages gets all answers
exactly if the header can count them. -/
theorem frames_returned_iff (multi : MultiFrame) (single : Frame)
    (streamId : StreamId) (seq : UInt16) (handler : Option Handler)
    (avtpdu reply : Octets) (request : MultiFrame) :
    (multi.InRange →
      (decodeMultiFrame (encodeMultiFrame multi) = .ok multi.filled ↔
        totalLen multi.messages ≤ maxDataLen multi.useTscf)) ∧
    (single.InRange →
      decodeFrame (encodeFrame single) = .ok single.filled) ∧
    (decodeMultiFrame avtpdu = .ok request →
      serve streamId seq handler avtpdu = some reply →
      ReplyDecodes (replyHeader streamId seq request)
        (replyMessages (handlerResults handler request avtpdu)) reply) :=
  ⟨MultiFrame.InRange.decode_iff, Frame.InRange.decode_encode,
    serve_replyDecodes⟩

def emptyWrite : AcfEntry := { info := { op := true }, payload := [] }

theorem inRange_emptyWrite : InRange emptyWrite where
  msgType := .inl rfl
  fields := by decide
  untimed := fun _ => ⟨rfl, rfl⟩
  timestamp := by decide
  aligned := rfl
  length := .inl rfl
  short := by decide

def commandFrame (count : Nat) : MultiFrame :=
  { messages := List.replicate count emptyWrite }

theorem inRange_commandFrame {count : Nat} (h : 0 < count) :
    (commandFrame count).InRange where
  envelope := ⟨by simp [commandFrame], fun _ => ⟨rfl, rfl⟩⟩
  nonempty := by simp [commandFrame]; omega
  messages := by
    intro entry hEntry
    rw [List.eq_of_mem_replicate hEntry]
    exact inRange_emptyWrite

/-- A frame of two commands, one that carries a single command, and the
acknowledgements of both commands, of which a client gets neither. -/
theorem frames_returned_two :
    let answers := replyMessages (handlerResults none (commandFrame 2).filled
      (encodeMultiFrame (commandFrame 2)))
    (decodeMultiFrame (encodeMultiFrame (commandFrame 2)) =
        .ok (commandFrame 2).filled ↔ 16 ≤ 2047) ∧
      decodeFrame (encodeFrame { info := { op := true } }) =
        .ok (Frame.filled { info := { op := true } }) ∧
      ReplyDecodes (replyHeader 5 0 (commandFrame 2).filled) answers
        (encodeMultiFrame
          ⟨replyHeader 5 0 (commandFrame 2).filled, answers⟩) :=
  have hReturned := frames_returned_iff (commandFrame 2)
    { info := { op := true } } 5 0 none (encodeMultiFrame (commandFrame 2)) _
    (commandFrame 2).filled
  ⟨hReturned.1 (inRange_commandFrame (by omega)),
    hReturned.2.1 ⟨⟨by decide, fun _ => ⟨rfl, rfl⟩⟩, inRange_emptyWrite⟩,
    hReturned.2.2 (by decide) (by decide)⟩

/-- The header of an NTSCF frame counts 2048 octets as none.  From the reply to
a frame of two commands a client gets neither acknowledgement. -/
theorem fullFrame_not_returned :
    (¬ ∀ frame : MultiFrame, frame.InRange →
      decodeMultiFrame (encodeMultiFrame frame) = .ok frame.filled) ∧
    let header := replyHeader 5 0 (commandFrame 2).filled
    let answers := replyMessages (handlerResults none (commandFrame 2).filled
      (encodeMultiFrame (commandFrame 2)))
    serve 5 0 none (encodeMultiFrame (commandFrame 2)) =
        some (encodeMultiFrame ⟨header, answers⟩) ∧
      answers.length = 2 ∧
      ¬ ∃ answer ∈ answers, decodeFrame
        (encodeMultiFrame ⟨header, answers⟩) =
          .ok (answerFrame header answer) := by
  refine ⟨fun hAll => ?_, by decide, by decide, ?_⟩
  · have hRange := @inRange_commandFrame 256 (by omega)
    have hCounted := hRange.decode_iff.mp (hAll _ hRange)
    simp only [commandFrame, totalLen, List.map_replicate,
      List.sum_replicate_nat] at hCounted
    exact absurd hCounted (by decide)
  · rw [decodeFrame_answers_iff (fun _ => messageTimestamp_of_mem) (by decide)]
    exact fun hOne => absurd hOne.1 (by decide)

end CppRcp.Transport
