import CppRcp.Wire.Request

/-!
# Execution conditions

The run-time half of `request.hpp`: the sequencer table that compound requests
read and advance, the occurrence counter of triggered requests, the 48-bit
presentation time of timed requests, and the delays of the others.  Tick
counts are 32-bit and wrap.
-/

namespace CppRcp.Request

open CppRcp.Foundation CppRcp.Acf

/-! ## The sequencer table -/

abbrev SequencerTable := List UInt8

def compoundRepeatInfinite : UInt16 := 0xFFFF

def advanceGuard (states : SequencerTable) (step : CompoundStep) : Bool :=
  match states[step.sequencerIndex.toNat]? with
  | none => false
  | some current => current ≠ 0 && current = step.startState

def startConditionMet (states : SequencerTable) (step : CompoundStep) :
    Bool :=
  match states[step.sequencerIndex.toNat]? with
  | none => false
  | some current =>
      current ≠ 0 && (step.startState = 0 || current = step.startState)

def applyNextState (states : SequencerTable) (step : CompoundStep) :
    SequencerTable :=
  if step.nextState = 0 then states
  else states.set step.sequencerIndex.toNat step.nextState

def execDelayElapsed (step : CompoundStep) (elapsed : UInt32) : Bool :=
  decide (step.execDelay.toNat ≤ elapsed.toNat)

def tick (states : SequencerTable) (step : CompoundStep)
    (elapsed : UInt32) : SequencerTable :=
  if execDelayElapsed step elapsed && advanceGuard states step then
    applyNextState states step
  else states

def waitTick (states : SequencerTable) (step : CompoundStep)
    (conditionMet : Bool) : SequencerTable :=
  if conditionMet && advanceGuard states step then applyNextState states step
  else states

/-! ## The trigger counter -/

structure TriggeredRuntime where
  occurrenceCount : UInt32 := 0
  started : Bool := false
  deriving DecidableEq, Repr

def triggeredEnterStarted : TriggeredRuntime := ⟨0, true⟩

def triggeredRecordOccurrence (runtime : TriggeredRuntime)
    (step : TriggeredStep) (sourceEp signalNr : UInt8) :
    TriggeredRuntime × Bool :=
  if !runtime.started then (runtime, false)
  else if sourceEp ≠ step.triggerSourceEp ||
      signalNr ≠ step.triggerSignalNr then (runtime, false)
  else
    ({ runtime with occurrenceCount := runtime.occurrenceCount + 1 }, true)

def triggeredThresholdReached (step : TriggeredStep)
    (runtime : TriggeredRuntime) : Bool :=
  decide (step.triggerThreshold.toNat < runtime.occurrenceCount.toNat)

def triggeredExecDelayElapsed (step : TriggeredStep) (elapsed : UInt32) :
    Bool :=
  decide (step.execDelay.toNat ≤ elapsed.toNat)

def triggeredTick (step : TriggeredStep) (runtime : TriggeredRuntime)
    (elapsed : UInt32) (endpointIdle : Bool) : TriggeredRuntime :=
  if runtime.started && triggeredThresholdReached step runtime &&
      triggeredExecDelayElapsed step elapsed && endpointIdle then ⟨0, false⟩
  else runtime

/-! ## Presentation times and chain delays -/

def timedPresentationTimeModulus : Nat := 2 ^ 48

/-- `(presentation_time - now) & kTimedPresentationTimeMax` on `uint64_t`. -/
def timedForwardDelta (presentationTime now : Nat) : Nat :=
  (presentationTime + (2 ^ 64 - now % 2 ^ 64)) % timedPresentationTimeModulus

def timedInThePast (delta : Nat) : Bool :=
  decide (timedPresentationTimeModulus / 2 < delta)

def timedDue (presentationTime now : Nat) : Bool :=
  let delta := timedForwardDelta presentationTime now
  delta = 0 || timedInThePast delta

/-- A presentation time at or before `now` is never too far. -/
def timedTooFar (presentationTime now maxHorizon : Nat) : Bool :=
  let delta := timedForwardDelta presentationTime now
  if timedInThePast delta then false else decide (maxHorizon < delta)

inductive TimedAdmission where
  | accept
  | rejectGptpFail
  | rejectPresentationTimeTooFar
  deriving DecidableEq, Repr

def timedAdmit (gptpLocked : Bool) (presentationTime now maxHorizon : Nat) :
    TimedAdmission :=
  if !gptpLocked then .rejectGptpFail
  else if timedTooFar presentationTime now maxHorizon then
    .rejectPresentationTimeTooFar
  else .accept

def chainedExecDelayElapsed (chainExecDelay : UInt16) (elapsed : UInt32) :
    Bool :=
  decide (chainExecDelay.toNat ≤ elapsed.toNat)

/-- `avtp::extend_timestamp`: the instant nearest to `referenceNow` whose low
32 bits are `wireTs`. -/
def extendTimestamp (wireTs : UInt32) (referenceNow : Nat) : Nat :=
  let period := 2 ^ 32
  let half := period / 2
  let candidate := referenceNow / period * period + wireTs.toNat
  if referenceNow < candidate ∧ half < candidate - referenceNow then
    (candidate + (2 ^ 64 - period)) % 2 ^ 64
  else if candidate < referenceNow ∧ half < referenceNow - candidate then
    (candidate + period) % 2 ^ 64
  else candidate

end CppRcp.Request
