import CppRcp.Admission.Endpoint
import CppRcp.Mock.Frame

/-!
# Runs of the mock server

The public operations of `Server` and of the parts it gives access to, as the
inputs of one step function.  A server state is reachable if some sequence of
operations leads to it from a fresh server.
-/

namespace CppRcp.Mock

open CppRcp.Foundation CppRcp.Acf CppRcp.E2e CppRcp.Regmap CppRcp.Server
open CppRcp.Respqueue

inductive Op
  | dispatch (streamId : StreamId) (req : AcfMessageInfo) (payload : Octets)
  | dispatchE2e (streamId : StreamId) (sequenceNum : UInt8) (frame : Octets)
  | dispatchE2eFragment (streamId : StreamId) (fragment : Octets)
  | dispatchFrame (streamId : StreamId) (frame : Octets)
  | dispatchFrameE2e (streamId : StreamId) (sequenceNum : UInt8)
      (frame : Octets)
  | tick (bus : Bus) (ctx : Endpoint.TickContext)
  | endpoint (bus : Bus) (op : EndpointOp)
  | notifyTrigger (sourceEp signalNr : UInt8)
  | notifyGptpLockState (locked : Bool) (sourceEp : UInt8)
  | checkWatchdogOverflow (streamId : StreamId) (nowMs : Nat)
  | lifecycle (state : ServerState)
  | registers (regs : RegisterMap)
  | peripherals (peripherals : Peripherals)
  | resetStreamFault (streamId : StreamId)
  | resetReassembler (streamId : StreamId)
  | respQueue (streamId : StreamId) (queue : RespQueue)
  deriving DecidableEq, Repr

inductive Output
  | done
  | reply (reply : Reply)
  | members (results : List FrameMemberResult)
  | frame (frame : Option Octets)
  | endpoint (output : EndpointOutput)
  | count (count : Nat)
  deriving DecidableEq, Repr

namespace Server

/-- Select the due request of a bus, hand out its frame and complete it. -/
def tick (server : Server) (bus : Bus) (ctx : Endpoint.TickContext) :
    Server × Option Octets :=
  match (server.admission bus).selectDue ctx with
  | (ep, none) => (server.setAdmission bus ep, none)
  | (ep, some index) =>
      (server.setAdmission bus (ep.complete index ctx).1,
        (ep.slots.pending index).map fun slot => slot.frame)

def onEveryBus (server : Server) (f : Endpoint → Endpoint) : Server :=
  allBuses.foldl
    (fun server bus => server.setAdmission bus (f (server.admission bus))) server

def notifyTrigger (server : Server) (sourceEp signalNr : UInt8) :
    Server × Nat :=
  (server.onEveryBus fun ep => (ep.notifyTrigger sourceEp signalNr).1,
    (allBuses.map fun bus =>
      ((server.admission bus).notifyTrigger sourceEp signalNr).2).sum)

def notifyGptpLockState (server : Server) (locked : Bool) (sourceEp : UInt8) :
    Server × Nat :=
  let (state, fired) := gptpTriggerEvaluate server.gptpTriggerState locked
  let server := { server with gptpTriggerState := state }
  match fired with
  | none => (server, 0)
  | some signal => server.notifyTrigger sourceEp signal

/-- `watchdog_purge`, which ignores a bus the server does not host. -/
def watchdogPurge (server : Server) (byteBusId : UInt16) : Server × Nat :=
  match Bus.ofId byteBusId with
  | none => (server, 0)
  | some bus =>
      let ep := server.admission bus
      (server.setAdmission bus ep.watchdogPurge,
        ep.pendingCount - ep.watchdogPurge.pendingCount)

def purgeMapped (server : Server) (streamIndex : UInt8) :
    List EpIdMappingEntry → Server × Nat
  | [] => (server, 0)
  | entry :: entries =>
      if entry.requestStreamIndex = streamIndex then
        let (server, purged) := server.watchdogPurge entry.byteBusId
        let (server, rest) := server.purgeMapped streamIndex entries
        (server, purged + rest)
      else server.purgeMapped streamIndex entries

def checkWatchdogOverflow (server : Server) (streamId : StreamId)
    (nowMs : Nat) : Server × Nat :=
  let streamIndex := server.streamIndex streamId
  if streamIndex = 0 then (server, 0)
  else
    let slot := slotOf streamIndex
    let cfg := server.regs.requestStream streamIndex
    let watchdog := server.rxWatchdogs.get slot
    let enterSafeState :=
      !watchdog.inSafeState && watchdog.overflowed cfg nowMs &&
        cfg.rxWdSafestateEnable
    let server := { server with
      streamStatus := server.streamStatus.modify slot fun status =>
        status.noteWd enterSafeState }
    if enterSafeState then
      { server with
        rxWatchdogs := server.rxWatchdogs.set slot
          watchdog.enterSafeState }.purgeMapped streamIndex
        server.regs.epIdMapping
    else (server, 0)

def step (server : Server) : Op → Server × Output
  | .dispatch streamId req payload =>
      let (server, reply) := server.dispatch streamId req payload
      (server, .reply reply)
  | .dispatchE2e streamId sequenceNum frame =>
      let (server, reply) := server.dispatchE2e streamId sequenceNum frame
      (server, .reply reply)
  | .dispatchE2eFragment streamId fragment =>
      let (server, reply) := server.dispatchE2eFragment streamId fragment
      (server, .reply reply)
  | .dispatchFrame streamId frame =>
      let (server, results) := server.dispatchFrame streamId frame
      (server, .members results)
  | .dispatchFrameE2e streamId sequenceNum frame =>
      let (server, results) :=
        server.dispatchFrameE2e streamId sequenceNum frame
      (server, .members results)
  | .tick bus ctx =>
      let (server, frame) := server.tick bus ctx
      (server, .frame frame)
  | .endpoint bus op =>
      let (ep, output) := (server.admission bus).step op
      (server.setAdmission bus ep, .endpoint output)
  | .notifyTrigger sourceEp signalNr =>
      let (server, count) := server.notifyTrigger sourceEp signalNr
      (server, .count count)
  | .notifyGptpLockState locked sourceEp =>
      let (server, count) := server.notifyGptpLockState locked sourceEp
      (server, .count count)
  | .checkWatchdogOverflow streamId nowMs =>
      let (server, count) := server.checkWatchdogOverflow streamId nowMs
      (server, .count count)
  | .lifecycle state => ({ server with lifecycle := state }, .done)
  | .registers regs => ({ server with regs := regs }, .done)
  | .peripherals peripherals =>
      ({ server with peripherals := peripherals }, .done)
  | .resetStreamFault streamId =>
      ({ server with
          streamFaultTracker := server.streamFaultTracker.reset streamId },
        .done)
  | .resetReassembler streamId =>
      let streamIndex := server.streamIndex streamId
      (if streamIndex = 0 then server
        else server.resetReassembler (slotOf streamIndex), .done)
  | .respQueue streamId queue =>
      (match server.respQueueForStreamIndex (server.streamIndex streamId) with
        | none => server
        | some slot =>
            { server with respQueues := server.respQueues.set slot queue },
        .done)

def Reachable (server : Server) : Prop :=
  ∃ ops : List Op, (run step {} ops).1 = server

end Server

end CppRcp.Mock
