import CppRcp.Foundation.Runs
import CppRcp.Wire.Frames

/-!
# The calls of a client

`Client::request` of `udp.hpp` and `l2.hpp`.  Each call registers itself in the
table of pending calls under the bus and the transaction number of its request,
sends, waits for its promise and erases what the table has under its key.  The
reader thread looks up each response, keeps the promise and erases the entry.
Every access of the table is under the mutex and is one step here.
-/

namespace CppRcp.Host

open CppRcp.Foundation CppRcp.Acf CppRcp.Transport

def pendingKey (busId : UInt16) (transactionNum : UInt8) : UInt32 :=
  (busId.toUInt32 <<< 8) ||| transactionNum.toUInt32

inductive RequestResult
  | response (frame : Frame)
  | errClosed
  | errTimeout
  deriving DecidableEq, Repr

/-- Where a call of `request` is between two steps.  It is `leaving` from the
end of its wait, or from a failed send, until its cleanup. -/
inductive Stage
  | registered
  | waiting
  | leaving (result : RequestResult)
  | returned (result : RequestResult)
  deriving DecidableEq, Repr

structure Call where
  busId : UInt16
  transactionNum : UInt8
  hasDeadline : Bool
  stage : Stage := .registered
  promise : Option Frame := none
  deriving DecidableEq, Repr

namespace Call

def key (call : Call) : UInt32 := pendingKey call.busId call.transactionNum

def inFlight (call : Call) : Bool :=
  match call.stage with
  | .returned _ => false
  | _ => true

def isWaiting (call : Call) : Bool :=
  match call.stage with
  | .registered | .waiting => call.promise.isNone
  | _ => false

end Call

structure Client where
  closed : Bool := false
  count : Nat := 0
  calls : Nat → Option Call := fun _ => none
  pending : UInt32 → Option Nat := fun _ => none

inductive Event
  | request (info : AcfMessageInfo) (done hasDeadline : Bool)
  | sent (call : Nat) (ok : Bool)
  | receive (response : Frame)
  | wake (call : Nat)
  | expire (call : Nat)
  | cleanup (call : Nat)
  | close
  deriving DecidableEq, Repr

/-- What a step did: a call that was turned away at once, the call a response
was delivered to, or the call whose entry was erased. -/
inductive Effect
  | nothing
  | refused (result : RequestResult)
  | delivered (call : Option Nat)
  | erased (owner : Option Nat)
  deriving DecidableEq, Repr

namespace Client

def setCall (client : Client) (id : Nat) (call : Call) : Client :=
  { client with calls := Function.update client.calls id (some call) }

def setPending (client : Client) (key : UInt32) (owner : Option Nat) :
    Client :=
  { client with pending := Function.update client.pending key owner }

def register (client : Client) (call : Call) : Client :=
  ({ client with count := client.count + 1 }.setCall client.count
    call).setPending call.key (some client.count)

/-- A step that its call is not ready for changes nothing. -/
def step (client : Client) : Event → Client × Effect
  | .request info done hasDeadline =>
      if client.closed then (client, .refused .errClosed)
      else if done then (client, .refused .errTimeout)
      else
        (client.register
          { busId := info.byteBusId
            transactionNum := info.transactionNum
            hasDeadline := hasDeadline }, .nothing)
  | .sent id ok =>
      match client.calls id with
      | some call =>
          if call.stage = .registered then
            if ok then (client.setCall id { call with stage := .waiting },
              .nothing)
            else
              (client.setCall id { call with stage := .leaving .errClosed },
                .nothing)
          else (client, .nothing)
      | none => (client, .nothing)
  | .receive response =>
      let key :=
        pendingKey response.info.byteBusId response.info.transactionNum
      match client.pending key with
      | some id =>
          match client.calls id with
          | some call =>
              ((client.setCall id { call with promise := some response
                  }).setPending key none, .delivered (some id))
          | none => (client, .delivered none)
      | none => (client, .delivered none)
  | .wake id =>
      match client.calls id with
      | some call =>
          match call.stage, call.promise with
          | .waiting, some frame =>
              (client.setCall id
                { call with stage := .leaving (.response frame) }, .nothing)
          | _, _ => (client, .nothing)
      | none => (client, .nothing)
  | .expire id =>
      match client.calls id with
      | some call =>
          if call.stage = .waiting ∧ call.hasDeadline ∧
              call.promise = none then
            (client.setCall id { call with stage := .leaving .errTimeout },
              .nothing)
          else (client, .nothing)
      | none => (client, .nothing)
  | .cleanup id =>
      match client.calls id with
      | some call =>
          match call.stage with
          | .leaving result =>
              ((client.setCall id
                  { call with stage := .returned result }).setPending
                call.key none, .erased (client.pending call.key))
          | _ => (client, .nothing)
      | none => (client, .nothing)
  | .close => ({ client with closed := true }, .nothing)

end Client

end CppRcp.Host
