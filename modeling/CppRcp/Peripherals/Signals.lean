import CppRcp.Peripherals.Endpoints
import CppRcp.Peripherals.Registers

/-!
# Debounced pins and the phase of a pulse

`gpio.hpp` settles a pin once a number of consecutive samples agree, and
`pwm.hpp` finds at which clock ticks a generator starts a cycle and reaches the
middle of its pulse.  A write to a PWM output is combined with its period and
its active duration, which is then capped, once as a function of the values and
once in the endpoint.
-/

namespace CppRcp

/-! ## GPIO -/

namespace Gpio

structure GpioDebounceState where
  hasSettled : Bool := false
  settledValue : Bool := false
  hasCandidate : Bool := false
  candidateValue : Bool := false
  consecutiveCount : UInt8 := 0
  deriving DecidableEq, Repr

namespace GpioDebounceState

def debounceStateInit : GpioDebounceState := {}

def count (s : GpioDebounceState) (rawValue : Bool) : GpioDebounceState :=
  if !s.hasCandidate || s.candidateValue != rawValue then
    { s with
      hasCandidate := true
      candidateValue := rawValue
      consecutiveCount := 1 }
  else if s.consecutiveCount < 0xFF then
    { s with consecutiveCount := s.consecutiveCount + 1 }
  else s

def debounceSample (s : GpioDebounceState) (rawValue : Bool) (n : UInt8) :
    GpioDebounceState × Bool × Bool :=
  if n = 0 then
    let prevSettled := s.hasSettled && s.settledValue
    ({ s with
        hasCandidate := false
        hasSettled := true
        settledValue := rawValue },
      rawValue, s.hasSettled && prevSettled != rawValue)
  else
    let s := s.count rawValue
    if n ≤ s.consecutiveCount ∧
        (!s.hasSettled || s.settledValue != s.candidateValue) then
      -- The first value to settle is not a change.
      ({ s with hasSettled := true, settledValue := s.candidateValue },
        s.candidateValue, s.hasSettled)
    else (s, if s.hasSettled then s.settledValue else false, false)

end GpioDebounceState

end Gpio

/-! ## PWM -/

namespace Pwm

def pwmOutTriggerEventCycleStart : UInt8 := 0x01
def pwmOutTriggerEventMidPulse : UInt8 := 0x02

def delayedTick (period : UInt16) (skew : UInt8) (rawTick : UInt32) :
    UInt32 :=
  let skewMod := skew.toUInt32 % period.toUInt32
  (rawTick % period.toUInt32 + period.toUInt32 - skewMod) % period.toUInt32

def triggerEventsAtTick (period activeDuration : UInt16) (skew : UInt8)
    (rawTick : UInt32) : UInt8 :=
  if period = 0 then 0
  else
    let tick := delayedTick period skew rawTick
    let events := if tick = 0 then pwmOutTriggerEventCycleStart else 0
    if tick = (activeDuration / 2).toUInt32 then
      events ||| pwmOutTriggerEventMidPulse
    else events

/-! ## Writes to a PWM output -/

open CppRcp.Endpoint

def saturatingAdd (a b : UInt16) : UInt16 :=
  if a + b < a then 0xFFFF else a + b

def saturatingSubtract (a b : UInt16) : UInt16 :=
  if a < b then 0 else a - b

def applyWriteField (op : WriteSemantics) (current operand : UInt16) :
    Except ErrorCode UInt16 :=
  match op with
  | .replace => .ok operand
  | .or => .ok (current ||| operand)
  | .and => .ok (current &&& operand)
  | .xor => .ok (current ^^^ operand)
  | .add => .ok (saturatingAdd current operand)
  | .subtract => .ok (saturatingSubtract operand current)
  | .reserved => .error (.endpoint .reservedWriteSemantics)
  | .reconfigure => .error (.endpoint .nonCombinableWriteSemantics)

def fieldAfter (op : WriteSemantics) (current operand : UInt16) : UInt16 :=
  match applyWriteField op current operand with
  | .ok out => out
  | .error _ => current

def applyWrite (current request : PwmValue) (evt : WriteSemantics)
    (dutyCycleMin dutyCycleMax : UInt16) : PwmValue :=
  let result : PwmValue :=
    if evt ≠ .reserved ∧ evt ≠ .reconfigure then
      { period := fieldAfter evt current.period request.period
        activeDuration :=
          fieldAfter evt current.activeDuration request.activeDuration }
    else { period := current.period, activeDuration := current.activeDuration }
  let result :=
    if result.activeDuration < dutyCycleMin then
      { result with activeDuration := dutyCycleMin }
    else result
  if dutyCycleMax < result.activeDuration then
    { result with activeDuration := dutyCycleMax }
  else result

structure PwmOutEndpoint where
  state : PwmValue := {}
  cfg : PwmOutFunctionalConfig := {}
  deriving DecidableEq, Repr

namespace PwmOutEndpoint

def handleWrite (ep : PwmOutEndpoint) (op : WriteSemantics)
    (operand : PwmValue) : PwmOutEndpoint × Except ErrorCode PwmValue :=
  match applyWriteField op ep.state.period operand.period with
  | .error e => (ep, .error e)
  | .ok newPeriod =>
      match applyWriteField op ep.state.activeDuration
          operand.activeDuration with
      | .error e => (ep, .error e)
      | .ok newActive =>
          let active :=
            if newActive < ep.cfg.dutyCycleMin then ep.cfg.dutyCycleMin
            else newActive
          let active :=
            if ep.cfg.dutyCycleMax < active then ep.cfg.dutyCycleMax
            else active
          let state : PwmValue := { period := newPeriod, activeDuration := active }
          ({ ep with state := state }, .ok state)

/-- The endpoint after writes in this order. -/
def run (ep : PwmOutEndpoint) (writes : List (WriteSemantics × PwmValue)) :
    PwmOutEndpoint :=
  writes.foldl (fun ep write => (ep.handleWrite write.1 write.2).1) ep

end PwmOutEndpoint

end Pwm

end CppRcp
