import CppRcp.Admission.Ledger
import CppRcp.Foundation.SlotTable

/-!
# The watchdog manager

`watchdog::Manager` keeps one receive watchdog for each registered request
stream, in a table of sixteen slots, and reports what it polls to its
subscribers.  The ledger of a stream belongs to the caller, who passes it to
each poll.
-/

namespace CppRcp.E2e.RxWatchdog

open CppRcp.Regmap

def clearSafeState (watchdog : RxWatchdog) : RxWatchdog :=
  { watchdog with inSafeState := false }

def shouldEmitInfoNotification (watchdog : RxWatchdog)
    (cfg : RequestStreamConfig) : Bool :=
  watchdog.inSafeState && cfg.rxWdInfoEnable

end CppRcp.E2e.RxWatchdog

namespace CppRcp.Watchdog

open CppRcp.Foundation CppRcp.E2e CppRcp.Regmap CppRcp.Request

inductive WatchdogErrc
  | streamNotRegistered | streamCapacityExceeded | callbackCapacityExceeded
  deriving DecidableEq, Repr

structure HealthEvent where
  streamKey : UInt64 := 0
  overflowed : Bool := false
  enteredSafeState : Bool := false
  infoNotificationDue : Bool := false
  canceledRequestCount : Nat := 0
  deriving DecidableEq, Repr

/-! ## One stream -/

structure StreamWatchdog where
  wd : RxWatchdog := {}
  deriving DecidableEq, Repr, Inhabited

namespace StreamWatchdog

def kickFromRequest (stream : StreamWatchdog) (nowMs : Nat) :
    StreamWatchdog :=
  ⟨stream.wd.kick nowMs⟩

def check (stream : StreamWatchdog) (streamKey : UInt64)
    (cfg : RequestStreamConfig) (ledger : RequestLedger) (nowMs : Nat) :
    StreamWatchdog × RequestLedger × Option HealthEvent :=
  if !stream.wd.inSafeState && stream.wd.overflowed cfg nowMs then
    let applied := applyWatchdogOverflow cfg stream.wd ledger
    (⟨applied.1⟩, applied.2.1,
      some
        { streamKey
          overflowed := true
          enteredSafeState := applied.1.inSafeState
          infoNotificationDue := applied.1.shouldEmitInfoNotification cfg
          canceledRequestCount := applied.2.2 })
  else if stream.wd.shouldEmitInfoNotification cfg then
    (stream, ledger, some { streamKey, infoNotificationDue := true })
  else (stream, ledger, none)

def inSafeState (stream : StreamWatchdog) : Bool := stream.wd.inSafeState

def clearSafeState (stream : StreamWatchdog) : StreamWatchdog :=
  ⟨stream.wd.clearSafeState⟩

end StreamWatchdog

/-! ## The manager -/

def maxStreams : Nat := 16

def maxCallbacks : Nat := 16

abbrev Callback := Nat

structure Manager where
  streams : SlotTable UInt64 StreamWatchdog maxStreams := .empty
  callbacks : List Callback := []
  callbacks_le : callbacks.length ≤ maxCallbacks := by decide

namespace Manager

variable (manager : Manager)

def registerStream (streamKey : UInt64) : Manager × Option WatchdogErrc :=
  match hFresh : manager.streams.findIndex streamKey with
  | some _ => (manager, none)
  | none =>
      if hRoom : manager.streams.len < maxStreams then
        ({ manager with
          streams := manager.streams.push streamKey {} hFresh hRoom }, none)
      else (manager, some .streamCapacityExceeded)

def unregisterStream (streamKey : UInt64) : Manager :=
  match hIndex : manager.streams.findIndex streamKey with
  | none => manager
  | some i =>
      { manager with streams := manager.streams.remove streamKey i hIndex }

def isRegistered (streamKey : UInt64) : Bool :=
  (manager.streams.findIndex streamKey).isSome

def setStream (streamKey : UInt64) (i : Nat) (stream : StreamWatchdog)
    (hIndex : manager.streams.findIndex streamKey = some i) : Manager :=
  { manager with streams := manager.streams.put streamKey i stream hIndex }

/-- `streams_[idx]` -/
def streamAt (i : Nat) : StreamWatchdog := (manager.streams.slots.get i).2

def onRequestReceived (streamKey : UInt64) (nowMs : Nat) :
    Manager × Option WatchdogErrc :=
  match hIndex : manager.streams.findIndex streamKey with
  | none => (manager, some .streamNotRegistered)
  | some i =>
      (manager.setStream streamKey i
        ((manager.streamAt i).kickFromRequest nowMs) hIndex, none)

def poll (streamKey : UInt64) (cfg : RequestStreamConfig)
    (ledger : RequestLedger) (nowMs : Nat) :
    Manager × RequestLedger × List (Callback × HealthEvent) ×
      Option WatchdogErrc :=
  match hIndex : manager.streams.findIndex streamKey with
  | none => (manager, ledger, [], some .streamNotRegistered)
  | some i =>
      let checked := (manager.streamAt i).check streamKey cfg ledger nowMs
      (manager.setStream streamKey i checked.1 hIndex, checked.2.1,
        match checked.2.2 with
        | none => []
        | some event => manager.callbacks.map fun callback => (callback, event),
        none)

def inSafeState (streamKey : UInt64) : Bool :=
  match manager.streams.findIndex streamKey with
  | none => false
  | some i => (manager.streamAt i).inSafeState

def clearSafeState (streamKey : UInt64) : Manager × Option WatchdogErrc :=
  match hIndex : manager.streams.findIndex streamKey with
  | none => (manager, some .streamNotRegistered)
  | some i =>
      (manager.setStream streamKey i (manager.streamAt i).clearSafeState
        hIndex, none)

def subscribe (callback : Callback) : Manager × Option WatchdogErrc :=
  if hRoom : manager.callbacks.length < maxCallbacks then
    ({ manager with
      callbacks := manager.callbacks ++ [callback]
      callbacks_le := by rw [List.length_append]; exact hRoom }, none)
  else (manager, some .callbackCapacityExceeded)

end Manager

/-! ## Runs -/

inductive Action
  | register
  | unregister
  | kick (nowMs : Nat)
  | poll (cfg : RequestStreamConfig) (ledger : RequestLedger) (nowMs : Nat)
  | clearSafeState
  | isRegistered
  | inSafeState

inductive Op
  | on (streamKey : UInt64) (action : Action)
  | subscribe (callback : Callback)

inductive Reply
  | done
  | code (e : Option WatchdogErrc)
  | polled (ledger : RequestLedger)
      (deliveries : List (Callback × HealthEvent)) (e : Option WatchdogErrc)
  | answer (value : Bool)

def managerStep (manager : Manager) : Op → Manager × Reply
  | .on streamKey .register => (manager.registerStream streamKey).map id .code
  | .on streamKey .unregister => (manager.unregisterStream streamKey, .done)
  | .on streamKey (.kick nowMs) =>
      (manager.onRequestReceived streamKey nowMs).map id .code
  | .on streamKey (.poll cfg ledger nowMs) =>
      let result := manager.poll streamKey cfg ledger nowMs
      (result.1, .polled result.2.1 result.2.2.1 result.2.2.2)
  | .on streamKey .clearSafeState =>
      (manager.clearSafeState streamKey).map id .code
  | .on streamKey .isRegistered =>
      (manager, .answer (manager.isRegistered streamKey))
  | .on streamKey .inSafeState =>
      (manager, .answer (manager.inSafeState streamKey))
  | .subscribe callback => (manager.subscribe callback).map id .code

end CppRcp.Watchdog
