import CppRcp.Streams.Config

/-!
# Per-stream guards

The trackers `e2e.hpp` keeps for received streams: the fault latch set by a
failed checksum, the sequence-number guard, the watchdog, and the status that
collects what has blocked a stream.
-/

namespace CppRcp.E2e

open CppRcp.Foundation CppRcp.Regmap

/-! ## The fault latch -/

/-- `RxStreamGuard::record_crc_result` for a failed check. -/
def recordCrcFailure (latched rxEnforceE2e : Bool) : Bool :=
  latched || rxEnforceE2e

def maxStreams : Nat := 16

structure FaultSlot where
  streamId : StreamId
  latched : Bool := false
  deriving DecidableEq, Repr

/-- The used slots of the tracker, which fills them in order and frees
none. -/
structure StreamFaultTracker where
  slots : List FaultSlot := []
  length_le : slots.length ≤ maxStreams := by decide
  deriving DecidableEq, Repr

namespace StreamFaultTracker

def empty : StreamFaultTracker := {}

def find (tracker : StreamFaultTracker) (streamId : StreamId) :
    Option FaultSlot :=
  tracker.slots.find? fun slot => slot.streamId = streamId

def update (tracker : StreamFaultTracker) (streamId : StreamId)
    (f : Bool → Bool) : StreamFaultTracker :=
  ⟨tracker.slots.map fun slot =>
      if slot.streamId = streamId then
        { slot with latched := f slot.latched }
      else slot,
    by rw [List.length_map]; exact tracker.length_le⟩

/-- A failed check registers the stream if a slot is left; `false` when none
is. -/
def onCrcError (tracker : StreamFaultTracker) (streamId : StreamId)
    (rxEnforceE2e : Bool) : StreamFaultTracker × Bool :=
  match tracker.find streamId with
  | some _ =>
      (tracker.update streamId fun latched =>
        recordCrcFailure latched rxEnforceE2e, true)
  | none =>
      if h : tracker.slots.length < maxStreams then
        (⟨tracker.slots ++ [⟨streamId, recordCrcFailure false rxEnforceE2e⟩],
          by rw [List.length_append]; exact h⟩, true)
      else (tracker, false)

def isFaulted (tracker : StreamFaultTracker) (streamId : StreamId) : Bool :=
  match tracker.find streamId with
  | none => false
  | some slot => slot.latched

def reset (tracker : StreamFaultTracker) (streamId : StreamId) :
    StreamFaultTracker :=
  tracker.update streamId fun _ => false

end StreamFaultTracker

/-! ## Stream status -/

structure StreamStatus where
  crcLatched : Bool := false
  seqBlocked : Bool := false
  wdBlocked : Bool := false
  overflowBlocked : Bool := false
  deriving DecidableEq, Repr, Inhabited

namespace StreamStatus

def noteCrcError (status : StreamStatus) (rxEnforceE2e : Bool) : StreamStatus :=
  { status with crcLatched := recordCrcFailure status.crcLatched rxEnforceE2e }

def noteSeq (status : StreamStatus) (enterSafeState : Bool) : StreamStatus :=
  { status with seqBlocked := status.seqBlocked || enterSafeState }

def noteWd (status : StreamStatus) (enterSafeState : Bool) : StreamStatus :=
  { status with wdBlocked := status.wdBlocked || enterSafeState }

def rxBlocked (status : StreamStatus) : Bool :=
  status.crcLatched || status.seqBlocked || status.wdBlocked ||
    status.overflowBlocked

end StreamStatus

/-! ## Sequence numbers -/

structure SeqResult where
  accept : Bool
  discontinuity : Bool
  enterSafeState : Bool
  deriving DecidableEq, Repr

structure RxSequenceGuard where
  hasLast : Bool := false
  lastSeq : UInt8 := 0
  deriving DecidableEq, Repr, Inhabited

def RxSequenceGuard.evaluate (guard : RxSequenceGuard)
    (cfg : RequestStreamConfig) (seq : UInt8) : RxSequenceGuard × SeqResult :=
  if !guard.hasLast then (⟨true, seq⟩, ⟨true, false, false⟩)
  else
    let fwdDistance := seq - guard.lastSeq
    let accept :=
      !cfg.rxEnforceSeq ||
        (decide (1 ≤ fwdDistance) && decide (fwdDistance ≤ 127))
    let discontinuity := decide (fwdDistance ≠ 1)
    (if accept then { guard with lastSeq := seq } else guard,
      ⟨accept, discontinuity, discontinuity && cfg.rxSeqSafestateEnable⟩)

/-! ## The watchdog -/

structure RxWatchdog where
  kicked : Bool := false
  lastKickMs : Nat := 0
  inSafeState : Bool := false
  deriving DecidableEq, Repr, Inhabited

namespace RxWatchdog

def kick (watchdog : RxWatchdog) (nowMs : Nat) : RxWatchdog :=
  { watchdog with kicked := true, lastKickMs := nowMs }

def overflowed (watchdog : RxWatchdog) (cfg : RequestStreamConfig)
    (nowMs : Nat) : Bool :=
  cfg.rxWdEnable && watchdog.kicked &&
    decide (cfg.rxWdTimeoutInterval.toNat <
      (nowMs + (2 ^ 64 - watchdog.lastKickMs % 2 ^ 64)) % 2 ^ 64)

def enterSafeState (watchdog : RxWatchdog) : RxWatchdog :=
  { watchdog with inSafeState := true }

end RxWatchdog

end CppRcp.E2e
