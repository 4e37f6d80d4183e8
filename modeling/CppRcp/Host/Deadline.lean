import CppRcp.Foundation.Runs
import Std.Data.TreeMap

/-!
# The liveness monitor

`deadline.hpp`: a tracker records when its target was last heard of, and the
monitor reports each change between alive and dead that a check finds.  The
last reported state of a target is kept in a map of its own.
-/

namespace CppRcp.Host.Deadline

open CppRcp.Foundation Std

structure LivenessEvent where
  target : UInt64 := 0
  alive : Bool := false
  deriving DecidableEq, Repr

structure Config where
  deadline : Int64 := 50
  deriving DecidableEq, Repr

structure LivenessTracker where
  hasEverReported : Bool := false
  lastSeenMs : UInt64 := 0
  deriving DecidableEq, Repr

namespace LivenessTracker

def noteActivity (nowMs : UInt64) : LivenessTracker where
  hasEverReported := true
  lastSeenMs := nowMs

def dead (tracker : LivenessTracker) (cfg : Config) (nowMs : UInt64) : Bool :=
  if !tracker.hasEverReported then true
  else decide (cfg.deadline.toUInt64 < nowMs - tracker.lastSeenMs)

end LivenessTracker

structure Monitor where
  trackers : TreeMap UInt64 LivenessTracker := ∅
  aliveMap : TreeMap UInt64 Bool := ∅

inductive MonitorOp
  | registerTarget (target : UInt64)
  | unregisterTarget (target : UInt64)
  | noteHeartbeat (target nowMs : UInt64)
  | noteLifecycleChange (target nowMs : UInt64)
  | check (cfg : Config) (nowMs : UInt64)
  deriving DecidableEq, Repr

namespace Monitor

def registerTarget (monitor : Monitor) (target : UInt64) : Monitor :=
  if target ∈ monitor.trackers then monitor
  else { monitor with trackers := monitor.trackers.insert target {} }

def unregisterTarget (monitor : Monitor) (target : UInt64) : Monitor where
  trackers := monitor.trackers.erase target
  aliveMap := monitor.aliveMap.erase target

def isRegistered (monitor : Monitor) (target : UInt64) : Bool :=
  monitor.trackers.contains target

def note (monitor : Monitor) (target nowMs : UInt64) : Monitor :=
  match monitor.trackers[target]? with
  | none => monitor
  | some _ =>
      { monitor with
        trackers := monitor.trackers.insert target (.noteActivity nowMs) }

/-- The loop of `check` over the trackers that are left. -/
def checkTrackers (cfg : Config) (nowMs : UInt64) :
    List (UInt64 × LivenessTracker) → TreeMap UInt64 Bool →
      TreeMap UInt64 Bool × List LivenessEvent
  | [], aliveMap => (aliveMap, [])
  | (target, tracker) :: trackers, aliveMap =>
      let isAlive := !tracker.dead cfg nowMs
      if aliveMap[target]? = some isAlive then
        checkTrackers cfg nowMs trackers aliveMap
      else
        let rest := checkTrackers cfg nowMs trackers
          (aliveMap.insert target isAlive)
        (rest.1, ⟨target, isAlive⟩ :: rest.2)

def check (monitor : Monitor) (cfg : Config) (nowMs : UInt64) :
    Monitor × List LivenessEvent :=
  let checked :=
    checkTrackers cfg nowMs monitor.trackers.toList monitor.aliveMap
  ({ monitor with aliveMap := checked.1 }, checked.2)

def alive (monitor : Monitor) (target : UInt64) : Bool :=
  match monitor.aliveMap[target]? with
  | none => false
  | some isAlive => isAlive

def step (monitor : Monitor) : MonitorOp → Monitor × List LivenessEvent
  | .registerTarget target => (monitor.registerTarget target, [])
  | .unregisterTarget target => (monitor.unregisterTarget target, [])
  | .noteHeartbeat target nowMs => (monitor.note target nowMs, [])
  | .noteLifecycleChange target nowMs => (monitor.note target nowMs, [])
  | .check cfg nowMs => monitor.check cfg nowMs

end Monitor

end CppRcp.Host.Deadline
