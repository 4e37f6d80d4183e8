import CppRcp.Foundation.Octets
import Mathlib.Tactic

/-!
# Fragmentation

`fragment.hpp`: the plan that cuts a payload into segments, and the
reassembler that joins segments again.
-/

namespace CppRcp.Fragment

open CppRcp.Foundation

/-! ## Planning -/

def maxIntermediateSegments : Nat := 4096

structure Segment where
  offset : Nat := 0
  len : Nat := 0
  ms : Bool := false
  segmentNum : UInt16 := 0
  deriving DecidableEq, Repr

/-- How many segments a payload takes; 0 when no plan exists. -/
def planCount (payloadLen maxFragmentPayload : Nat) : Nat :=
  if payloadLen = 0 then 1
  else if maxFragmentPayload = 0 then 0
  else if payloadLen ≤ maxFragmentPayload then 1
  else
    let count := (payloadLen + maxFragmentPayload - 1) / maxFragmentPayload
    if maxIntermediateSegments < count - 1 then 0 else count

inductive FragmentErrc
  | disabled | tooManySegments | badSegmentCount
  deriving DecidableEq, Repr

def plan (payloadLen maxFragmentPayload segmentCount : Nat) :
    Except FragmentErrc (List Segment) :=
  let expected := planCount payloadLen maxFragmentPayload
  if expected = 0 then
    .error (if maxFragmentPayload = 0 then .disabled else .tooManySegments)
  else if segmentCount ≠ expected then .error .badSegmentCount
  else if expected = 1 then .ok [⟨0, payloadLen, false, 0⟩]
  else
    .ok ((List.range (expected - 1)).map (fun i =>
        ⟨i * maxFragmentPayload, maxFragmentPayload, true, UInt16.ofNat i⟩) ++
      [⟨(expected - 1) * maxFragmentPayload,
        payloadLen - (expected - 1) * maxFragmentPayload, false, 0⟩])

def Segment.slice (segment : Segment) (payload : Octets) : Octets :=
  (payload.drop segment.offset).take segment.len

/-! ## Reassembly -/

inductive ReasmResult
  | continue | complete | errOutOfOrder | errTooLarge
  deriving DecidableEq, Repr

def defaultReassemblyCapacity : Nat := 4096

structure Reassembler where
  buf : Octets := []
  maxTotalLen : Nat := defaultReassemblyCapacity
  collecting : Bool := false
  expectedSegmentNum : UInt16 := 0
  deriving DecidableEq, Repr

namespace Reassembler

def reset (reasm : Reassembler) : Reassembler :=
  { reasm with collecting := false, expectedSegmentNum := 0, buf := [] }

def fits (reasm : Reassembler) (appendLen : Nat) : Bool :=
  decide (appendLen ≤
    min reasm.maxTotalLen defaultReassemblyCapacity - reasm.buf.length)

def append (reasm : Reassembler) (payload : Octets) : Reassembler :=
  { reasm with buf := reasm.buf ++ payload }

def feed (reasm : Reassembler) (ms : Bool) (segmentNum : UInt16)
    (payload : Octets) : Reassembler × ReasmResult :=
  if !reasm.collecting then
    if !reasm.fits payload.length then (reasm, .errTooLarge)
    else if !ms then (reasm.append payload, .complete)
    else if segmentNum ≠ 0 then (reasm, .errOutOfOrder)
    else
      ({ reasm.append payload with
          collecting := true, expectedSegmentNum := 1 }, .continue)
  else if ms && decide (segmentNum ≠ reasm.expectedSegmentNum) then
    (reasm, .errOutOfOrder)
  else if !reasm.fits payload.length then (reasm, .errTooLarge)
  else if ms then
    ({ reasm.append payload with
        expectedSegmentNum := reasm.expectedSegmentNum + 1 }, .continue)
  else ({ reasm.append payload with collecting := false }, .complete)

end Reassembler

end CppRcp.Fragment
