import CppRcp.Wire.Planning
import CppRcp.Wire.Reassembling

/-!
# Planned segments are joined again

A plan cuts a payload into consecutive segments.  Fed in order to a
reassembler that was reset, they are accepted one by one, and the last one
completes the payload.
-/

namespace CppRcp.Fragment

open CppRcp.Foundation

/-- The fragment that carries a segment of the payload. -/
def Segment.fed (payload : Octets) (segment : Segment) : Fed :=
  ⟨segment.ms, segment.segmentNum, segment.slice payload⟩

/-! ## Feeding the segments -/

section Feed

variable {payload : Octets} {ceiling : Nat} {segments : List Segment}
  {reasm : Reassembler}

/-- The reassembler after the first `i` segments, more of which are to
follow. -/
structure HoldsFirst (payload : Octets) (segments : List Segment)
    (maxTotalLen i : Nat) (reasm : Reassembler) : Prop where
  buf : reasm.buf = payload.take (lengthBefore segments i)
  maxTotalLen : reasm.maxTotalLen = maxTotalLen
  next : i + 1 < segments.length → reasm.nextSegmentNum.toNat = i

private theorem holdsFirst_reset :
    HoldsFirst payload segments reasm.maxTotalLen 0 reasm.reset :=
  ⟨by simp [Reassembler.reset, lengthBefore], rfl, fun _ => rfl⟩

private theorem fits_segment
    (hTiles : TilesPayload payload.length ceiling segments)
    {maxTotalLen i : Nat} {segment : Segment}
    (hShort : payload.length ≤ min maxTotalLen defaultReassemblyCapacity)
    (hHolds : HoldsFirst payload segments maxTotalLen i reasm)
    (hSegment : segments[i]? = some segment) :
    reasm.fits (segment.fed payload).payload.length = true := by
  have hLe := @lengthBefore_le segments (i + 1)
  rw [hTiles.total, lengthBefore_succ hSegment] at hLe
  rw [Reassembler.fits_iff, Reassembler.capacity, hHolds.buf,
    hHolds.maxTotalLen]
  simp only [Segment.fed, Segment.slice, List.length_take, List.length_drop]
  omega

private theorem feedOne_segment
    (hTiles : TilesPayload payload.length ceiling segments)
    {maxTotalLen i : Nat} {segment : Segment}
    (hShort : payload.length ≤ min maxTotalLen defaultReassemblyCapacity)
    (hHolds : HoldsFirst payload segments maxTotalLen i reasm)
    (hSegment : segments[i]? = some segment) (hMore : i + 1 < segments.length) :
    (reasm.feedOne (segment.fed payload)).2 = .continue ∧
      HoldsFirst payload segments maxTotalLen (i + 1)
        (reasm.feedOne (segment.fed payload)).1 := by
  have hFits := fits_segment hTiles hShort hHolds hSegment
  have hMs : (segment.fed payload).ms = true := by
    simp [Segment.fed, hTiles.ms i segment hSegment, hMore]
  have hToNat : segment.segmentNum.toNat = i := by
    simp [hTiles.number i segment hSegment, hMore]
  have hNumber : (segment.fed payload).segmentNum = reasm.nextSegmentNum :=
    UInt16.toNat_inj.mp (hToNat.trans (hHolds.next hMore).symm)
  rw [Reassembler.feedOne_intermediate hMs hNumber hFits]
  refine ⟨rfl, ?_, hHolds.maxTotalLen, ?_⟩
  · rw [← take_append_slice hTiles hSegment, ← hHolds.buf]
    rfl
  · intro hStill
    -- the next segment has a number as well, so that there is one
    have hNext := hTiles.number (i + 1) _ (List.getElem?_eq_getElem hMore)
    rw [if_pos hStill] at hNext
    have hLt := UInt16.toNat_lt (segments[i + 1]).segmentNum
    change (segment.segmentNum + 1).toNat = i + 1
    rw [UInt16.toNat_add, hToNat]
    exact Nat.mod_eq_of_lt (hNext ▸ hLt)

private theorem run_first
    (hTiles : TilesPayload payload.length ceiling segments)
    (hShort : payload.length ≤
      min reasm.maxTotalLen defaultReassemblyCapacity)
    {i : Nat} (hi : i < segments.length) :
    HoldsFirst payload segments reasm.maxTotalLen i
        (run Reassembler.feedOne reasm.reset
          ((segments.take i).map (Segment.fed payload))).1 ∧
      (run Reassembler.feedOne reasm.reset
        ((segments.take i).map (Segment.fed payload))).2 =
          List.replicate i .continue := by
  induction i with
  | zero => exact ⟨holdsFirst_reset, rfl⟩
  | succ i ih =>
      obtain ⟨hHolds, hOutputs⟩ := ih (by omega)
      have hSegment := List.getElem?_eq_getElem (Nat.lt_of_succ_lt hi)
      obtain ⟨hContinue, hNext⟩ :=
        feedOne_segment hTiles hShort hHolds hSegment hi
      rw [List.take_add_one, hSegment, Option.toList_some, List.map_append,
        run_append, hOutputs, List.replicate_succ']
      refine ⟨hNext, ?_⟩
      rw [List.map_singleton, run_cons, run_nil, hContinue]

/-- Fed to a reassembler that was reset, all segments are accepted, and the
last completes the payload. -/
theorem run_segments (hTiles : TilesPayload payload.length ceiling segments)
    (hShort : payload.length ≤
      min reasm.maxTotalLen defaultReassemblyCapacity) :
    (run Reassembler.feedOne reasm.reset
        (segments.map (Segment.fed payload))).1.buf = payload ∧
      (run Reassembler.feedOne reasm.reset
        (segments.map (Segment.fed payload))).2 =
          List.replicate (segments.length - 1) .continue ++ [.complete] := by
  have hPos := List.length_pos_iff.mpr hTiles.nonempty
  have hLast : segments.length - 1 < segments.length := by omega
  have hSegment := List.getElem?_eq_getElem hLast
  obtain ⟨hHolds, hOutputs⟩ := run_first hTiles hShort hLast
  have hAll : segments = segments.take (segments.length - 1) ++
      [segments[segments.length - 1]] := by
    rw [← List.take_succ_eq_append_getElem hLast, List.take_of_length_le]
    omega
  have hMs : (segments[segments.length - 1].fed payload).ms = false := by
    simp only [Segment.fed, hTiles.ms _ _ hSegment]
    exact decide_eq_false (by omega)
  have hFits := fits_segment hTiles hShort hHolds hSegment
  have hFed := Reassembler.feedOne_last hMs hFits
  have hWhole := take_append_slice hTiles hSegment
  rw [Nat.sub_add_cancel hPos, hTiles.total, List.take_length] at hWhole
  rw [hAll, List.map_append, run_append, ← hAll, hOutputs, List.map_singleton,
    run_cons, run_nil, hFed]
  refine ⟨?_, rfl⟩
  dsimp only
  rw [hHolds.buf]
  exact hWhole

end Feed

/-- A payload within the reassembly limit has a plan for every segment size;
its segments tile the payload, and a reassembler that was reset joins them
again. -/
theorem plan_joined (payload : Octets) (ceiling : Nat) (reasm : Reassembler)
    (hPos : 0 < ceiling)
    (hShort : payload.length ≤
      min reasm.maxTotalLen defaultReassemblyCapacity) :
    ∃ segments,
      plan payload.length ceiling (planCount payload.length ceiling) =
          .ok segments ∧
        segments.length = planCount payload.length ceiling ∧
        TilesPayload payload.length ceiling segments ∧
        (run Reassembler.feedOne reasm.reset
          (segments.map (Segment.fed payload))).2 =
            List.replicate (segments.length - 1) .continue ++ [.complete] ∧
        (run Reassembler.feedOne reasm.reset
          (segments.map (Segment.fed payload))).1.buf = payload := by
  obtain ⟨segments, hPlan, hLength, hTiles⟩ :=
    exists_plan hPos (hShort.trans (Nat.min_le_right _ _))
  obtain ⟨hBuf, hOutputs⟩ := run_segments hTiles hShort
  exact ⟨segments, hPlan, hLength, hTiles, hOutputs, hBuf⟩

theorem plan_joined_three :
    ∃ segments, plan 3 2 (planCount 3 2) = .ok segments ∧
      segments.length = planCount 3 2 ∧ TilesPayload 3 2 segments ∧
        (run Reassembler.feedOne (Reassembler.reset {})
          (segments.map (Segment.fed [7, 8, 9]))).2 =
            List.replicate (segments.length - 1) .continue ++ [.complete] ∧
        (run Reassembler.feedOne (Reassembler.reset {})
          (segments.map (Segment.fed [7, 8, 9]))).1.buf = [7, 8, 9] :=
  plan_joined [7, 8, 9] 2 {} (by decide) (by decide)

/-- The last segment of a plan is not numbered. -/
theorem plan_last_unnumbered :
    ∃ segments, plan 2 1 (planCount 2 1) = .ok segments ∧
      ¬ ∀ (i : Nat) (segment : Segment), segments[i]? = some segment →
        segment.segmentNum.toNat = i := by
  refine ⟨[⟨0, 1, true, 0⟩, ⟨1, 1, false, 0⟩], by decide, ?_⟩
  intro hNumbered
  exact absurd (hNumbered 1 _ rfl) (by decide)

end CppRcp.Fragment
