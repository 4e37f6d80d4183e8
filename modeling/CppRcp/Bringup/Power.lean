import CppRcp.Foundation.Runs
import CppRcp.Peripherals.Wakeup

/-!
# The power modes

`powerstate.hpp`: the manager goes to a low-power mode when the hooks allow it
and no wake-up event is unacknowledged, and comes back from sleep through a
handshake that repeats the WakeUp message.  It shares the wake-up endpoint,
which `wakeup.hpp` lets its driver use as well.
-/

namespace CppRcp.Wakeup

def kSleepCmdOpcode : UInt8 := 0xA5

structure WakeupEndpoint where
  asleep : Bool := false
  wakeHandshakePending : Bool := false
  cfg : WakeupFunctionalConfig := {}

namespace WakeupEndpoint

def handleSleepCmd (ep : WakeupEndpoint) (requestByte : UInt8) :
    WakeupEndpoint × Option WakeupErrc :=
  if requestByte ≠ kSleepCmdOpcode then (ep, some .badOpcode)
  else ({ ep with asleep := true, wakeHandshakePending := false }, none)

def recordWakeSourceEvent (ep : WakeupEndpoint) (sourceIndex : Nat) :
    WakeupEndpoint where
  asleep := false
  wakeHandshakePending := true
  cfg := { ep.cfg with wupStatus := ep.cfg.wupStatus.latchSource sourceIndex }

def wakeupMessagePending (ep : WakeupEndpoint) : Bool :=
  ep.wakeHandshakePending

def acknowledgeWakeup (ep : WakeupEndpoint) : WakeupEndpoint :=
  { ep with wakeHandshakePending := false }

end WakeupEndpoint

end CppRcp.Wakeup

namespace CppRcp.Powerstate

open CppRcp.Wakeup

inductive PowerMode
  | normal | standBy | sleep | unpowered
  deriving DecidableEq, Repr

inductive PowerErrc
  | invalidTransition | unacknowledgedWakeupEvent | endpointNotIdle
  | responseAckQueueNotEmpty | notAsleep | handshakeRepeatLimitExceeded
  | networkNotAvailable
  deriving DecidableEq, Repr

inductive WakeStage
  | idle | handshakeActive | complete | failed
  deriving DecidableEq, Repr

structure Config where
  wakeupRepeatLimit : UInt32 := 8
  deriving DecidableEq, Repr

/-- What the hooks answer at one call; a hook that is not set answers
nothing. -/
structure Hooks where
  endpointsIdle : Option Bool := none
  responseAckQueuesEmpty : Option Bool := none
  deriving DecidableEq, Repr

structure PowerManager where
  wakeupEp : WakeupEndpoint
  cfg : Config
  mode : PowerMode := .normal
  wakeStage : WakeStage := .idle
  wakeAttempts : UInt32 := 0

inductive PowerOp
  | enterStandby (hooks : Hooks)
  | enterSleep (hooks : Hooks)
  | resumeFromStandby
  | beginWakeFromSleep (networkAvailable : Bool)
  | noteWakeupAttemptSent
  | acknowledgeWakeup
  | notifyPowerRemoved
  | notifyPowerRestored
  | handleSleepCmd (requestByte : UInt8)
  | recordWakeSourceEvent (sourceIndex : Nat)
  | acknowledgeEndpoint
  deriving DecidableEq, Repr

inductive PowerReturn
  | manager (failure : Option PowerErrc)
  | endpoint (failure : Option WakeupErrc)
  deriving DecidableEq, Repr

namespace PowerManager

def enterLowPower (manager : PowerManager) (target : PowerMode)
    (hooks : Hooks) : PowerManager × Option PowerErrc :=
  if manager.mode ≠ .normal then (manager, some .invalidTransition)
  else if manager.wakeupEp.wakeupMessagePending then
    (manager, some .unacknowledgedWakeupEvent)
  else if hooks.endpointsIdle = some false then
    (manager, some .endpointNotIdle)
  else if hooks.responseAckQueuesEmpty = some false then
    (manager, some .responseAckQueueNotEmpty)
  else ({ manager with mode := target, wakeStage := .idle }, none)

def enterStandby (manager : PowerManager) (hooks : Hooks) :
    PowerManager × Option PowerErrc :=
  manager.enterLowPower .standBy hooks

def enterSleep (manager : PowerManager) (hooks : Hooks) :
    PowerManager × Option PowerErrc :=
  manager.enterLowPower .sleep hooks

def resumeFromStandby (manager : PowerManager) :
    PowerManager × Option PowerErrc :=
  if manager.mode ≠ .standBy then (manager, some .invalidTransition)
  else ({ manager with mode := .normal, wakeStage := .idle }, none)

def beginWakeFromSleep (manager : PowerManager) (networkAvailable : Bool) :
    PowerManager × Option PowerErrc :=
  if manager.mode ≠ .sleep then (manager, some .notAsleep)
  else if !networkAvailable then (manager, some .networkNotAvailable)
  else
    ({ manager with wakeAttempts := 0, wakeStage := .handshakeActive }, none)

def noteWakeupAttemptSent (manager : PowerManager) :
    PowerManager × Option PowerErrc :=
  if manager.wakeStage ≠ .handshakeActive then (manager, some .notAsleep)
  else if !manager.wakeupEp.wakeupMessagePending then (manager, none)
  else
    let attempts := manager.wakeAttempts + 1
    if manager.cfg.wakeupRepeatLimit < attempts then
      ({ manager with wakeAttempts := attempts, wakeStage := .failed },
        some .handshakeRepeatLimitExceeded)
    else ({ manager with wakeAttempts := attempts }, none)

def acknowledgeWakeup (manager : PowerManager) :
    PowerManager × Option PowerErrc :=
  if manager.wakeStage ≠ .handshakeActive then (manager, some .notAsleep)
  else
    ({ manager with
        wakeupEp := manager.wakeupEp.acknowledgeWakeup
        mode := .normal
        wakeStage := .complete }, none)

def notifyPowerRemoved (manager : PowerManager) : PowerManager :=
  { manager with mode := .unpowered, wakeStage := .idle }

def notifyPowerRestored (manager : PowerManager) : PowerManager :=
  { manager with mode := .normal, wakeStage := .idle }

def step (manager : PowerManager) : PowerOp → PowerManager × PowerReturn
  | .enterStandby hooks =>
      let (manager, failure) := manager.enterStandby hooks
      (manager, .manager failure)
  | .enterSleep hooks =>
      let (manager, failure) := manager.enterSleep hooks
      (manager, .manager failure)
  | .resumeFromStandby =>
      let (manager, failure) := manager.resumeFromStandby
      (manager, .manager failure)
  | .beginWakeFromSleep networkAvailable =>
      let (manager, failure) := manager.beginWakeFromSleep networkAvailable
      (manager, .manager failure)
  | .noteWakeupAttemptSent =>
      let (manager, failure) := manager.noteWakeupAttemptSent
      (manager, .manager failure)
  | .acknowledgeWakeup =>
      let (manager, failure) := manager.acknowledgeWakeup
      (manager, .manager failure)
  | .notifyPowerRemoved => (manager.notifyPowerRemoved, .manager none)
  | .notifyPowerRestored => (manager.notifyPowerRestored, .manager none)
  | .handleSleepCmd requestByte =>
      let (wakeupEp, failure) := manager.wakeupEp.handleSleepCmd requestByte
      ({ manager with wakeupEp }, .endpoint failure)
  | .recordWakeSourceEvent sourceIndex =>
      let wakeupEp := manager.wakeupEp.recordWakeSourceEvent sourceIndex
      ({ manager with wakeupEp }, .endpoint none)
  | .acknowledgeEndpoint =>
      let wakeupEp := manager.wakeupEp.acknowledgeWakeup
      ({ manager with wakeupEp }, .endpoint none)

end PowerManager

/-! ## What an operation can do -/

def PowerOp.entry? : PowerOp → Option (PowerMode × Hooks)
  | .enterStandby hooks => some (.standBy, hooks)
  | .enterSleep hooks => some (.sleep, hooks)
  | _ => none

def Hooks.Pass (hooks : Hooks) : Prop :=
  hooks.endpointsIdle ≠ some false ∧ hooks.responseAckQueuesEmpty ≠ some false

inductive PowerEffect (manager : PowerManager) :
    PowerOp → PowerManager × PowerReturn → Prop
  | refused (op : PowerOp) (e : PowerErrc) :
      PowerEffect manager op (manager, .manager (some e))
  | driven {op : PowerOp} (wakeupEp : WakeupEndpoint)
      (failure : Option WakeupErrc) (hEntry : op.entry? = none) :
      PowerEffect manager op ({ manager with wakeupEp }, .endpoint failure)
  | entered {op : PowerOp} {target : PowerMode} {hooks : Hooks}
      (hEntry : op.entry? = some (target, hooks))
      (hMode : manager.mode = .normal)
      (hPending : manager.wakeupEp.wakeupMessagePending = false)
      (hHooks : hooks.Pass) :
      PowerEffect manager op
        ({ manager with mode := target, wakeStage := .idle }, .manager none)
  | resumed (hMode : manager.mode = .standBy) :
      PowerEffect manager .resumeFromStandby
        ({ manager with mode := .normal, wakeStage := .idle }, .manager none)
  | begun (hMode : manager.mode = .sleep) :
      PowerEffect manager (.beginWakeFromSleep true)
        ({ manager with wakeAttempts := 0, wakeStage := .handshakeActive },
          .manager none)
  | unneeded (hStage : manager.wakeStage = .handshakeActive)
      (hPending : manager.wakeupEp.wakeupMessagePending = false) :
      PowerEffect manager .noteWakeupAttemptSent (manager, .manager none)
  | attempted (hStage : manager.wakeStage = .handshakeActive)
      (hPending : manager.wakeupEp.wakeupMessagePending = true)
      (hWithin : manager.wakeAttempts + 1 ≤ manager.cfg.wakeupRepeatLimit) :
      PowerEffect manager .noteWakeupAttemptSent
        ({ manager with wakeAttempts := manager.wakeAttempts + 1 },
          .manager none)
  | failed (hStage : manager.wakeStage = .handshakeActive)
      (hPending : manager.wakeupEp.wakeupMessagePending = true)
      (hOver : manager.cfg.wakeupRepeatLimit < manager.wakeAttempts + 1) :
      PowerEffect manager .noteWakeupAttemptSent
        ({ manager with
            wakeAttempts := manager.wakeAttempts + 1
            wakeStage := .failed },
          .manager (some .handshakeRepeatLimitExceeded))
  | acknowledged (hStage : manager.wakeStage = .handshakeActive) :
      PowerEffect manager .acknowledgeWakeup
        ({ manager with
            wakeupEp := manager.wakeupEp.acknowledgeWakeup
            mode := .normal
            wakeStage := .complete }, .manager none)
  | removed :
      PowerEffect manager .notifyPowerRemoved
        ({ manager with mode := .unpowered, wakeStage := .idle },
          .manager none)
  | restored :
      PowerEffect manager .notifyPowerRestored
        ({ manager with mode := .normal, wakeStage := .idle }, .manager none)

section Effect

variable (manager : PowerManager)

private theorem powerEffect_enterLowPower {op : PowerOp} {target : PowerMode}
    {hooks : Hooks} (hEntry : op.entry? = some (target, hooks)) :
    PowerEffect manager op ((manager.enterLowPower target hooks).1,
      .manager (manager.enterLowPower target hooks).2) := by
  unfold PowerManager.enterLowPower
  split
  · exact .refused op _
  · next hMode =>
      split
      · exact .refused op _
      · next hPending =>
          split
          · exact .refused op _
          · next hIdle =>
              split
              · exact .refused op _
              · next hEmpty =>
                  exact .entered hEntry (Decidable.not_not.mp hMode)
                    (Bool.not_eq_true _ ▸ hPending) ⟨hIdle, hEmpty⟩

theorem powerEffect_step (op : PowerOp) :
    PowerEffect manager op (manager.step op) := by
  cases op with
  | enterStandby hooks => exact powerEffect_enterLowPower manager rfl
  | enterSleep hooks => exact powerEffect_enterLowPower manager rfl
  | resumeFromStandby =>
      by_cases hMode : manager.mode = .standBy
      · simpa [PowerManager.step, PowerManager.resumeFromStandby, hMode] using
          PowerEffect.resumed hMode
      · simpa [PowerManager.step, PowerManager.resumeFromStandby, hMode] using
          PowerEffect.refused _ _
  | beginWakeFromSleep networkAvailable =>
      by_cases hMode : manager.mode = .sleep
      · cases networkAvailable with
        | true =>
            simpa [PowerManager.step, PowerManager.beginWakeFromSleep, hMode]
              using PowerEffect.begun hMode
        | false =>
            simpa [PowerManager.step, PowerManager.beginWakeFromSleep, hMode]
              using PowerEffect.refused _ _
      · simpa [PowerManager.step, PowerManager.beginWakeFromSleep, hMode]
          using PowerEffect.refused _ _
  | noteWakeupAttemptSent =>
      by_cases hStage : manager.wakeStage = .handshakeActive
      · cases hPending : manager.wakeupEp.wakeupMessagePending with
        | false =>
            simpa [PowerManager.step, PowerManager.noteWakeupAttemptSent,
              hStage, hPending] using PowerEffect.unneeded hStage hPending
        | true =>
            by_cases hOver : manager.cfg.wakeupRepeatLimit <
                manager.wakeAttempts + 1
            · simpa [PowerManager.step, PowerManager.noteWakeupAttemptSent,
                hStage, hPending, hOver] using
                  PowerEffect.failed hStage hPending hOver
            · simpa [PowerManager.step, PowerManager.noteWakeupAttemptSent,
                hStage, hPending, hOver] using
                  PowerEffect.attempted hStage hPending
                    (UInt32.not_lt.mp hOver)
      · simpa [PowerManager.step, PowerManager.noteWakeupAttemptSent, hStage]
          using PowerEffect.refused _ _
  | acknowledgeWakeup =>
      by_cases hStage : manager.wakeStage = .handshakeActive
      · simpa [PowerManager.step, PowerManager.acknowledgeWakeup, hStage]
          using PowerEffect.acknowledged hStage
      · simpa [PowerManager.step, PowerManager.acknowledgeWakeup, hStage]
          using PowerEffect.refused _ _
  | notifyPowerRemoved => exact .removed
  | notifyPowerRestored => exact .restored
  | handleSleepCmd requestByte => exact .driven _ _ rfl
  | recordWakeSourceEvent sourceIndex => exact .driven _ _ rfl
  | acknowledgeEndpoint => exact .driven _ _ rfl

end Effect

end CppRcp.Powerstate
