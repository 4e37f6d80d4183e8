import CppRcp.Mock.Run
import CppRcp.Wire.Eviction
import CppRcp.Wire.Header
import CppRcp.Wire.Planning

/-!
# The fragments of an oversized response

A response too long for one message is cut into fragments, which are pushed to
the response queue of its stream.  Only the first push can be refused, so that
a response is queued as a whole or not at all, unless one of its own fragments
is evicted to make room for a later one.
-/

namespace CppRcp.Mock

open CppRcp.Foundation CppRcp.Acf CppRcp.Regmap CppRcp.Fragment
open CppRcp.Respqueue

/-! ## Pushing all fragments -/

namespace Server

theorem pushAll_cons {queue : RespQueue} {frame : Octets}
    (h : (queue.push frame).2 = true) (frames : List Octets) :
    pushAll queue (frame :: frames) = pushAll (queue.push frame).1 frames := by
  have hPush : queue.push frame = ((queue.push frame).1, true) :=
    Prod.ext rfl h
  rw [pushAll, hPush]

private theorem pushAll_lost {start : RespQueue} (frames : List Octets)
    {queue : RespQueue} {queued : Nat} (h : Lost start queue queued)
    (hShort : queued + frames.length ≤ maxEntries)
    (hFits : ∀ frame ∈ frames, start.refuses frame.length = false) :
    (pushAll queue frames).2 = true ∧
      Lost start (pushAll queue frames).1 (queued + frames.length) := by
  induction frames generalizing queue queued with
  | nil => exact ⟨rfl, h⟩
  | cons frame frames ih =>
      rw [List.length_cons] at hShort ⊢
      obtain ⟨hAccepted, hLost⟩ := h.push (by omega) (hFits frame (by simp))
      obtain ⟨hAll, hFinal⟩ := ih hLost (by omega)
        fun later hLater => hFits later (by simp [hLater])
      rw [pushAll_cons hAccepted]
      exact ⟨hAll, by rwa [Nat.add_assoc, Nat.add_comm 1] at hFinal⟩

private theorem pushAll_holds {start : RespQueue} (frames : List Octets)
    {queue : RespQueue} {queued : List Octets} {evicted : Nat}
    (h : Holds start queue queued evicted)
    (hLeast : ∀ fewer, fewer < evicted →
      ¬HasRoomFor start.capacityOctets (dropLowest start.entries fewer) queued)
    (hSpared : SparesBatch start queued)
    (hShort : queued.length + frames.length ≤ maxEntries)
    (hFits : ∀ frame ∈ frames, start.refuses frame.length = false) :
    (pushAll queue frames).2 = true ∧
      ((∃ more, Holds start (pushAll queue frames).1 (queued ++ frames) more ∧
          SparesBatch start (queued ++ frames)) ∨
        (Lost start (pushAll queue frames).1 (queued.length + frames.length) ∧
          ¬SparesBatch start (queued ++ frames))) := by
  induction frames generalizing queue queued evicted with
  | nil =>
      rw [List.append_nil]
      exact ⟨rfl, Or.inl ⟨evicted, h, hSpared⟩⟩
  | cons frame frames ih =>
      rw [List.length_cons] at hShort ⊢
      obtain ⟨hAccepted, hPushed⟩ :=
        h.push (by omega) hLeast (hFits frame (by simp))
      have hLater : ∀ later ∈ frames, start.refuses later.length = false :=
        fun later hMem => hFits later (by simp [hMem])
      have hSplit : queued ++ frame :: frames = queued ++ [frame] ++ frames := by
        simp
      rw [pushAll_cons hAccepted, hSplit]
      rcases hPushed with ⟨more, hGrown, hFewest, hNext⟩ | ⟨hLost, hBetween⟩
      · have hStill : SparesBatch start (queued ++ [frame]) := by
          intro between done next hPrefix hRoom hNoRoom
          rcases List.prefix_concat_iff.mp hPrefix with hLast | hEarlier
          · obtain ⟨rfl, hFrame⟩ := List.append_inj' hLast rfl
            cases hFrame
            exact hNext between hRoom hNoRoom
          · exact hSpared between done next hEarlier hRoom hNoRoom
        have hLength : (queued ++ [frame]).length + frames.length =
            queued.length + (frames.length + 1) := by
          rw [List.length_append, List.length_singleton]
          omega
        have hRest := ih hGrown hFewest hStill (by omega) hLater
        rwa [hLength] at hRest
      · obtain ⟨hAll, hFinal⟩ := pushAll_lost frames hLost (by omega) hLater
        rw [Nat.add_assoc, Nat.add_comm 1] at hFinal
        refine ⟨hAll, Or.inr ⟨hFinal, fun hSpares => ?_⟩⟩
        obtain ⟨between, hRoom, hNoRoom, hNot⟩ := hBetween
        exact hNot (hSpares between queued frame
          (List.prefix_append _ _) hRoom hNoRoom)

private theorem pushAll_whole_iff (queue : RespQueue) (frames : List Octets)
    (hShort : frames.length ≤ maxEntries)
    (hFits : ∀ frame ∈ frames, queue.refuses frame.length = false) :
    (pushAll queue frames).2 = true ∧
      ((∃ kept, (pushAll queue frames).1.entries =
          kept ++ numbered queue.nextSequenceNum frames) ↔
        SparesBatch queue frames) := by
  obtain ⟨hAccepted, hResult⟩ := pushAll_holds frames (Holds.start queue)
    (by simp) (sparesBatch_nil queue) (by simpa using hShort) hFits
  rw [List.nil_append] at hResult
  refine ⟨hAccepted, ?_⟩
  rcases hResult with ⟨more, hHolds, hSpares⟩ | ⟨hLost, hNot⟩
  · exact ⟨fun _ => hSpares, fun _ => ⟨_, hHolds.entries⟩⟩
  · refine ⟨?_, fun hSpares => absurd hSpares hNot⟩
    rintro ⟨kept, hEntries⟩
    obtain ⟨index, hIndex, hGone⟩ := hLost.gone
    rw [List.length_nil, Nat.zero_add] at hIndex
    have hLength : index < (numbered queue.nextSequenceNum frames).length := by
      rwa [length_numbered]
    refine absurd ?_ (hGone (numbered queue.nextSequenceNum frames)[index] ?_)
    · simp [numbered]
    · rw [hEntries]
      exact List.mem_append_right _ (List.getElem_mem hLength)

private theorem pushAll_of_refuses {queue : RespQueue} {frame : Octets}
    (h : queue.refuses frame.length = true) (frames : List Octets) :
    pushAll queue (frame :: frames) = (queue, false) := by
  rw [pushAll, RespQueue.push_of_refuses h]

end Server

/-! ## The planned fragments -/

private theorem slice_length {segment : Segment} {payload : Octets}
    (h : segment.offset + segment.len ≤ payload.length) :
    (segment.slice payload).length = segment.len := by
  unfold Segment.slice
  rw [List.length_take, List.length_drop]
  omega

/-- A plan: all segments but the last are full, numbered from 0 on and marked
as followed by more, and together they cover the payload. -/
structure IsPlan (len ceiling : Nat) (segments : List Segment) : Prop where
  length : segments.length = planCount len ceiling
  numbered : ∀ index segment, segments[index]? = some segment →
    segment.ms = decide (index + 1 < segments.length) ∧
      (segment.ms = true → segment.segmentNum.toNat = index ∧ index < 4096)
  bounded : ∀ segment ∈ segments, segment.offset + segment.len ≤ len ∧
    segment.len ≤ ceiling
  first : ∀ segment ∈ segments.head?, segment.len = ceiling
  whole : ∀ payload : Octets, payload.length = len →
    (segments.map fun segment => segment.slice payload).flatten = payload

private theorem isPlan_plan {len ceiling : Nat} {segments : List Segment}
    (hLong : ceiling < len) (hCount : planCount len ceiling ≠ 0)
    (h : plan len ceiling (planCount len ceiling) = .ok segments) :
    IsPlan len ceiling segments := by
  obtain ⟨-, hTwo, -, -, hFew⟩ := planCount_spec hLong hCount
  have hMany := plan_eq_manySegments hLong hCount
  have hTiles := tilesPayload_plan hLong hCount
  rw [h, Except.ok.injEq] at hMany
  rw [← hMany] at hTiles
  have hLength : segments.length = planCount len ceiling := by
    rw [hMany, length_manySegments (by omega)]
  refine ⟨hLength, ?_, ?_, ?_, ?_⟩
  · intro index segment hSegment
    refine ⟨hTiles.ms index segment hSegment, fun hMs => ?_⟩
    rw [hTiles.ms index segment hSegment, decide_eq_true_eq] at hMs
    rw [hTiles.number index segment hSegment, if_pos hMs]
    exact ⟨rfl, by omega⟩
  · intro segment hMem
    obtain ⟨index, hSegment⟩ := List.mem_iff_getElem?.mp hMem
    exact ⟨hTiles.end_le hSegment, hTiles.bounded segment hMem⟩
  · intro segment hSegment
    rw [hMany, List.head?_eq_getElem?, getElem?_manySegments (by omega),
      Option.mem_some_iff] at hSegment
    rw [← hSegment]
  · intro payload hPayload
    subst hPayload
    exact hTiles.flatten_slices

/-! ## The response of a server -/

def responseFragments (server : Server) (streamIndex : UInt8)
    (response : AcfMessageInfo) (payload : Octets) : List Octets :=
  let ceiling := server.responseCeiling streamIndex response
  match plan payload.length ceiling (planCount payload.length ceiling) with
  | .error _ => []
  | .ok segments =>
      segments.map (Server.encodeResponseFragment response payload)

/-- Messages that together carry a payload: segments numbered from 0 on, all
but the last marked as followed by more. -/
structure CarriesPayload (acfMsgType : UInt8) (payload : Octets)
    (frames : List Octets) : Prop where
  numbered : ∀ index frame, frames[index]? = some frame →
    (decodeAcfMessageInfo frame).ms = decide (index + 1 < frames.length) ∧
      (index + 1 < frames.length →
        (decodeAcfMessageInfo frame).readSizeOrSegmentNum.toNat = index)
  whole : (frames.map fun frame =>
    frame.drop (headerLen acfMsgType)).flatten = payload

/-- The last entries of a queue are the fragments of the response, under the
numbers from `first` on, and they carry it. -/
def EndsWithFragments (queue : RespQueue) (first : UInt8)
    (acfMsgType : UInt8) (payload : Octets) (fragments : List Octets) : Prop :=
  CarriesPayload acfMsgType payload fragments ∧
    ∃ kept, queue.entries = kept ++ numbered first fragments

/-- A response that is reported as fragmented has its fragments at the end of
its queue; one that is not has left nothing in any queue. -/
def QueuedWhole (server : Server) (streamIndex : UInt8)
    (response : AcfMessageInfo) (payload : Octets) : Prop :=
  let result :=
    server.maybeFragmentResponse streamIndex ⟨none, response, payload⟩
  (result.2.ec = some (.dispatch .responseFragmented) →
    ∃ slot, server.respQueueForStreamIndex streamIndex = some slot ∧
      EndsWithFragments (result.1.respQueues.get slot)
        (server.respQueues.get slot).nextSequenceNum response.acfMsgType
        payload (responseFragments server streamIndex response payload)) ∧
  (result.2.ec ≠ some (.dispatch .responseFragmented) →
    result.1.respQueues = server.respQueues)

/-- If the response is cut into fragments and the first is not refused, then
older entries can be spared for them. -/
def SparesFragments (server : Server) (streamIndex : UInt8)
    (response : AcfMessageInfo) (payload : Octets) : Prop :=
  let ceiling := server.responseCeiling streamIndex response
  let fragments := responseFragments server streamIndex response payload
  response.rsp = true → ceiling < payload.length →
    planCount payload.length ceiling ≤ maxEntries →
      ∀ slot, server.respQueueForStreamIndex streamIndex = some slot →
        (∀ fragment ∈ fragments.head?,
          (server.respQueues.get slot).refuses fragment.length = false) →
        SparesBatch (server.respQueues.get slot) fragments

namespace Server

private theorem length_encodeResponseFragment {response : AcfMessageInfo}
    {payload : Octets} {segment : Segment}
    (h : segment.offset + segment.len ≤ payload.length) :
    (encodeResponseFragment response payload segment).length =
      headerLen response.acfMsgType + segment.len := by
  unfold encodeResponseFragment headerLen
  dsimp only
  split
  · rw [length_encodeAcfGbb, slice_length h]
    rfl
  · rw [length_encodeAcfAbb, slice_length h]
    rfl

private theorem drop_encodeResponseFragment (response : AcfMessageInfo)
    (payload : Octets) (segment : Segment) :
    (encodeResponseFragment response payload segment).drop
      (headerLen response.acfMsgType) = segment.slice payload := by
  unfold encodeResponseFragment headerLen
  dsimp only
  split
  · exact List.drop_left' (by simp [acfGbbMessageInfoLen])
  · exact List.drop_left' (by simp [acfCommonHeaderLen])

private theorem decode_encodeResponseFragment (response : AcfMessageInfo)
    (payload : Octets) (segment : Segment) :
    (decodeAcfMessageInfo
        (encodeResponseFragment response payload segment)).ms = segment.ms ∧
      (segment.ms = true → segment.segmentNum.toNat < 4096 →
        (decodeAcfMessageInfo (encodeResponseFragment response payload
          segment)).readSizeOrSegmentNum = segment.segmentNum) := by
  have hTruncated : segment.segmentNum.toNat < 4096 →
      UInt16.ofNat (segment.segmentNum.toNat % 4096) =
        segment.segmentNum := by
    intro hLt
    rw [Nat.mod_eq_of_lt hLt, UInt16.ofNat_toNat]
  unfold encodeResponseFragment
  dsimp only
  split
  · simp only [encodeAcfGbb, List.append_assoc, if_true]
    rw [decode_encodeAcfMessageInfo]
    refine ⟨rfl, fun hMs hLt => ?_⟩
    simp only [AcfMessageInfo.truncated, hMs, if_true]
    exact hTruncated hLt
  · simp only [encodeAcfAbb, if_true]
    rw [decode_encodeAcfMessageInfo]
    refine ⟨rfl, fun hMs hLt => ?_⟩
    simp only [AcfMessageInfo.truncated, hMs, if_true]
    exact hTruncated hLt

private theorem carriesPayload_plan (response : AcfMessageInfo)
    {payload : Octets} {ceiling : Nat} {segments : List Segment}
    (h : IsPlan payload.length ceiling segments) :
    CarriesPayload response.acfMsgType payload
      (segments.map (encodeResponseFragment response payload)) := by
  constructor
  · intro index frame hFrame
    rw [List.getElem?_map, Option.map_eq_some_iff] at hFrame
    obtain ⟨segment, hSegment, rfl⟩ := hFrame
    obtain ⟨hMs, hNumber⟩ := h.numbered index segment hSegment
    obtain ⟨hDecodedMs, hDecodedNumber⟩ :=
      decode_encodeResponseFragment response payload segment
    rw [List.length_map]
    refine ⟨hDecodedMs.trans hMs, fun hMore => ?_⟩
    have hSet : segment.ms = true := by
      rw [hMs]
      exact decide_eq_true hMore
    obtain ⟨hIndex, hLt⟩ := hNumber hSet
    rw [hDecodedNumber hSet (by omega), hIndex]
  · rw [List.map_map]
    have hDrop : (fun frame : Octets =>
        frame.drop (headerLen response.acfMsgType)) ∘
          encodeResponseFragment response payload =
        fun segment => segment.slice payload :=
      funext fun segment => drop_encodeResponseFragment response payload segment
    rw [hDrop]
    exact h.whole payload rfl

private theorem refuses_mono {queue : RespQueue} {len longer : Nat}
    (hLe : len ≤ longer)
    (h : queue.refuses longer = false) : queue.refuses len = false := by
  simp only [RespQueue.refuses, Bool.or_eq_false_iff, Bool.and_eq_false_iff,
    decide_eq_false_iff_not, Nat.not_lt] at h ⊢
  omega

private theorem fits_of_first (response : AcfMessageInfo) {payload : Octets}
    {ceiling : Nat} {segments : List Segment} {queue : RespQueue}
    (h : IsPlan payload.length ceiling segments)
    (hFirst : ∀ fragment ∈
      (segments.map (encodeResponseFragment response payload)).head?,
      queue.refuses fragment.length = false) :
    ∀ fragment ∈ segments.map (encodeResponseFragment response payload),
      queue.refuses fragment.length = false := by
  intro fragment hFragment
  obtain ⟨segment, hSegment, rfl⟩ := List.mem_map.mp hFragment
  obtain ⟨first, rest, rfl⟩ :=
    List.exists_cons_of_ne_nil (List.ne_nil_of_mem hSegment)
  apply refuses_mono ?_ (hFirst (encodeResponseFragment response payload first)
    (by simp))
  have hLen := h.first first (by simp)
  obtain ⟨hFits, hShort⟩ := h.bounded segment hSegment
  rw [length_encodeResponseFragment hFits, length_encodeResponseFragment
    (h.bounded first (by simp)).1]
  omega

private theorem pushAll_plan (response : AcfMessageInfo) {payload : Octets}
    {ceiling : Nat} {segments : List Segment} (queue : RespQueue)
    (h : IsPlan payload.length ceiling segments) (hSome : segments ≠ [])
    (hFew : segments.length ≤ maxEntries) :
    let fragments := segments.map (encodeResponseFragment response payload)
    let fitsFirst := ∀ fragment ∈ fragments.head?,
      queue.refuses fragment.length = false
    (pushAll queue fragments = (queue, false) ∧ ¬fitsFirst) ∨
      ((pushAll queue fragments).2 = true ∧ fitsFirst ∧
        ((∃ kept, (pushAll queue fragments).1.entries =
            kept ++ numbered queue.nextSequenceNum fragments) ↔
          SparesBatch queue fragments)) := by
  intro fragments fitsFirst
  obtain ⟨first, rest, rfl⟩ := List.exists_cons_of_ne_nil hSome
  cases hRefuses : queue.refuses
      (encodeResponseFragment response payload first).length with
  | true =>
      refine .inl ⟨pushAll_of_refuses hRefuses _, fun hFits => ?_⟩
      rw [hFits (encodeResponseFragment response payload first)
        (by simp [fragments])] at hRefuses
      cases hRefuses
  | false =>
      have hFirst : fitsFirst := by
        intro fragment hFragment
        obtain rfl : encodeResponseFragment response payload first = fragment :=
          Option.some_inj.mp hFragment
        exact hRefuses
      obtain ⟨hAccepted, hWhole⟩ := pushAll_whole_iff queue fragments
        (by rwa [List.length_map]) (fits_of_first response h hFirst)
      exact .inr ⟨hAccepted, hFirst, hWhole⟩

private theorem respQueueForStreamIndex_lt {server : Server}
    {streamIndex : UInt8}
    {slot : Nat} (h : server.respQueueForStreamIndex streamIndex = some slot) :
    slot < tableMaxEntries := by
  unfold respQueueForStreamIndex at h
  split at h
  · cases h
  · dsimp only at h
    split at h
    · cases h
    · next hRow =>
        cases h
        rw [not_or, not_or] at hRow
        simp only [tableMaxEntries] at hRow ⊢
        omega

end Server

/-- Every response, on every stream of every server: it is queued whole or not
at all exactly if older entries can be spared for its fragments. -/
theorem responseFragments_whole_iff (server : Server) (streamIndex : UInt8)
    (response : AcfMessageInfo) (payload : Octets) :
    QueuedWhole server streamIndex response payload ↔
      SparesFragments server streamIndex response payload := by
  unfold QueuedWhole SparesFragments Server.maybeFragmentResponse
  dsimp only
  by_cases hRsp : response.rsp = true
  swap
  · simp [hRsp]
  rw [if_neg (by simp [hRsp])]
  by_cases hLong : server.responseCeiling streamIndex response < payload.length
  swap
  · rw [if_pos (Nat.le_of_not_lt hLong)]
    exact iff_of_true ⟨by simp, by simp⟩ fun _ hNot => absurd hNot hLong
  rw [if_neg (Nat.not_le.mpr hLong)]
  cases hSlot : server.respQueueForStreamIndex streamIndex with
  | none => simp [setErrorResponse, errorReply]
  | some slot =>
      dsimp only
      by_cases hCount : planCount payload.length
          (server.responseCeiling streamIndex response) = 0 ∨
        maxEntries < planCount payload.length
          (server.responseCeiling streamIndex response)
      · rw [if_pos hCount]
        refine iff_of_true ⟨by simp [setErrorResponse, errorReply], by simp⟩ ?_
        intro _ _ hFew other _ hFits
        rcases hCount with hZero | hMany
        · have hNone : responseFragments server streamIndex response payload =
              [] := by
            unfold responseFragments plan
            simp [hZero]
          rw [hNone]
          exact sparesBatch_nil _
        · exact absurd hFew (Nat.not_le.mpr hMany)
      · rw [if_neg hCount]
        rw [not_or] at hCount
        unfold responseFragments
        dsimp only
        cases hPlan : plan payload.length
            (server.responseCeiling streamIndex response)
            (planCount payload.length
              (server.responseCeiling streamIndex response)) with
        | error e =>
            refine iff_of_true
              ⟨by simp [setErrorResponse, errorReply], by simp⟩ ?_
            exact fun _ _ _ _ _ _ => sparesBatch_nil _
        | ok segments =>
            have hIsPlan := isPlan_plan hLong hCount.1 hPlan
            have hLength := hIsPlan.length
            have hSlotLt := Server.respQueueForStreamIndex_lt hSlot
            dsimp only
            rcases Server.pushAll_plan response (server.respQueues.get slot)
                hIsPlan (by rintro rfl; exact hCount.1 hLength.symm)
                (by omega) with
              ⟨hRefused, hNot⟩ | ⟨hAccepted, hFirst, hWhole⟩
            · rw [hRefused, Table.set_get]
              refine iff_of_true
                ⟨by simp [setErrorResponse, errorReply], by simp⟩ ?_
              rintro _ _ _ _ ⟨⟩ hFits
              exact absurd hFits hNot
            · rw [if_pos hAccepted]
              dsimp only
              constructor
              · rintro ⟨hQueued, -⟩ _ _ _ other hOther -
                cases hOther
                obtain ⟨_, hSame, -, hKept⟩ := hQueued rfl
                cases hSame
                rw [Table.get_set_self hSlotLt] at hKept
                exact hWhole.mp hKept
              · intro hSpares
                refine ⟨fun _ => ⟨slot, rfl,
                  Server.carriesPayload_plan response hIsPlan, ?_⟩,
                  fun hNot => absurd rfl hNot⟩
                rw [Table.get_set_self hSlotLt]
                exact hWhole.mpr
                  (hSpares hRsp hLong (by omega) slot rfl hFirst)

def wrappingQueue : RespQueue :=
  { entries := (List.range 63).map fun i => ⟨[], UInt8.ofNat (192 + i)⟩
    nextSequenceNum := 255
    octets_eq := by decide
    length_le := by decide
    octets_le := by decide }

def wrappingRow : RequestStreamConfig :=
  { streamId := 1, rxRespStreamIndex := 1 }

def wrappingRegs : RegisterMap :=
  { makeInitialRegisterMap with
    requestStreams := [wrappingRow]
    requestStreams_le := by decide
    responseStreams := [{ maxAvtpduSize := 4 }] }

def wrappingServer : Server :=
  (run Server.step {} [.registers wrappingRegs,
    .respQueue 1 wrappingQueue]).1

/-- Of a response in three fragments, numbered 255, 0 and 1, the second is
evicted to make room for the third. -/
theorem responseFragments_whole_of_wrapping :
    Server.Reachable wrappingServer ∧
      (wrappingServer.maybeFragmentResponse 1
        ⟨none, { rsp := true }, List.replicate 15 0⟩).2.ec =
          some (.dispatch .responseFragmented) ∧
      ¬QueuedWhole wrappingServer 1 { rsp := true } (List.replicate 15 0) := by
  have hReported : (wrappingServer.maybeFragmentResponse 1
      ⟨none, { rsp := true }, List.replicate 15 0⟩).2.ec =
        some (.dispatch .responseFragmented) := by decide
  refine ⟨⟨_, rfl⟩, hReported, ?_⟩
  rintro ⟨hQueued, -⟩
  obtain ⟨slot, hSlot, -, kept, hEntries⟩ := hQueued hReported
  have hZero : slot = 0 := by
    have hFirst : wrappingServer.respQueueForStreamIndex 1 = some 0 := by
      decide
    rw [hFirst] at hSlot
    cases hSlot
    rfl
  subst hZero
  have hLost : ∀ entry ∈ ((wrappingServer.maybeFragmentResponse 1
      ⟨none, { rsp := true }, List.replicate 15 0⟩).1.respQueues.get 0).entries,
      entry.sequenceNum ≠ 0 := by decide
  refine hLost ⟨(responseFragments wrappingServer 1 { rsp := true }
    (List.replicate 15 0)).getD 1 [], 0⟩ ?_ rfl
  rw [hEntries]
  apply List.mem_append_right
  decide

end CppRcp.Mock
