import CppRcp.Foundation.Runs
import CppRcp.Wire.Fragment

/-!
# Feeding a reassembler

What one call of `feed` does: a fragment that does not fit, or is not the next
one, changes nothing; any other is appended, and one without the
more-segments flag ends its message.
-/

namespace CppRcp.Fragment

open CppRcp.Foundation

/-- The arguments of `feed`. -/
structure Fed where
  ms : Bool
  segmentNum : UInt16
  payload : Octets
  deriving DecidableEq, Repr

namespace Reassembler

def feedOne (reasm : Reassembler) (fed : Fed) : Reassembler × ReasmResult :=
  reasm.feed fed.ms fed.segmentNum fed.payload

def nextSegmentNum (reasm : Reassembler) : UInt16 :=
  if reasm.collecting then reasm.expectedSegmentNum else 0

def capacity (reasm : Reassembler) : Nat :=
  min reasm.maxTotalLen defaultReassemblyCapacity

/-- What `feed` can do with a fragment. -/
inductive FeedEffect (reasm : Reassembler) (fed : Fed) :
    Reassembler → ReasmResult → Prop
  | refused {result} (h : result = .errOutOfOrder ∨ result = .errTooLarge) :
      FeedEffect reasm fed reasm result
  | continued (hMs : fed.ms = true)
      (hNumber : fed.segmentNum = reasm.nextSegmentNum)
      (hFits : reasm.fits fed.payload.length = true) :
      FeedEffect reasm fed
        { reasm with
          buf := reasm.buf ++ fed.payload
          collecting := true
          expectedSegmentNum := fed.segmentNum + 1 }
        .continue
  | completed (hMs : fed.ms = false)
      (hFits : reasm.fits fed.payload.length = true) :
      FeedEffect reasm fed
        { reasm with buf := reasm.buf ++ fed.payload, collecting := false }
        .complete

variable {reasm : Reassembler} {fed : Fed}

theorem fits_iff {length : Nat} :
    reasm.fits length = true ↔ length ≤ reasm.capacity - reasm.buf.length := by
  simp [fits, capacity]

theorem feedOne_intermediate (hMs : fed.ms = true)
    (hNumber : fed.segmentNum = reasm.nextSegmentNum)
    (hFits : reasm.fits fed.payload.length = true) :
    reasm.feedOne fed =
      ({ reasm with
          buf := reasm.buf ++ fed.payload
          collecting := true
          expectedSegmentNum := fed.segmentNum + 1 },
        .continue) := by
  unfold feedOne feed
  cases hCollecting : reasm.collecting with
  | false =>
      have hZero : fed.segmentNum = 0 := by
        simpa [nextSegmentNum, hCollecting] using hNumber
      simp [hMs, hFits, hZero, append]
  | true =>
      have hExpected : fed.segmentNum = reasm.expectedSegmentNum := by
        simpa [nextSegmentNum, hCollecting] using hNumber
      simp [hMs, hFits, hExpected, append, hCollecting]

theorem feedOne_last (hMs : fed.ms = false)
    (hFits : reasm.fits fed.payload.length = true) :
    reasm.feedOne fed =
      ({ reasm with buf := reasm.buf ++ fed.payload, collecting := false },
        .complete) := by
  unfold feedOne feed
  cases hCollecting : reasm.collecting with
  | false => simp [hMs, hFits, append, hCollecting]
  | true => simp [hMs, hFits, append]

private theorem feedOne_refused (h : reasm.fits fed.payload.length = false ∨
      fed.ms = true ∧ fed.segmentNum ≠ reasm.nextSegmentNum) :
    (reasm.feedOne fed).1 = reasm ∧
      ((reasm.feedOne fed).2 = .errOutOfOrder ∨
        (reasm.feedOne fed).2 = .errTooLarge) := by
  unfold feedOne feed
  unfold nextSegmentNum at h
  grind

theorem feedOne_effect (reasm : Reassembler) (fed : Fed) :
    FeedEffect reasm fed (reasm.feedOne fed).1 (reasm.feedOne fed).2 := by
  by_cases hRefused : reasm.fits fed.payload.length = false ∨
      fed.ms = true ∧ fed.segmentNum ≠ reasm.nextSegmentNum
  · obtain ⟨hSame, hError⟩ := feedOne_refused hRefused
    rw [hSame]
    exact .refused hError
  · push Not at hRefused
    obtain ⟨hFits, hNumber⟩ := hRefused
    have hFits' : reasm.fits fed.payload.length = true := by simpa using hFits
    cases hMs : fed.ms with
    | false =>
        rw [feedOne_last hMs hFits']
        exact .completed hMs hFits'
    | true =>
        rw [feedOne_intermediate hMs (hNumber hMs) hFits']
        exact .continued hMs (hNumber hMs) hFits'

end Reassembler

end CppRcp.Fragment
