import CppRcp.Foundation.Pool
import CppRcp.Foundation.Table
import CppRcp.Host.Record
import Std.Data.TreeMap

/-!
# The in-process channel

`shmem.hpp`: a request takes a slot of a fixed pool for its frame, and keeps
it until it returns.  `request` takes one of its locks at a time, and other
calls may come between.  What a handler answers is an input of the step in
which it returns.  A registry keeps one channel for each stream.
-/

namespace CppRcp.Host.Shmem

open CppRcp.Foundation CppRcp.Acf CppRcp.Host.Recording

/-! ## The codec -/

def encodeAcfMessage (info : AcfMessageInfo) (payload : Octets) : Octets :=
  if info.acfMsgType = acfMsgTypeGbb then encodeAcfGbb info 0 payload
  else encodeAcfAbb info payload

def decodeAcfMessage (octets : Octets) :
    Except ErrorCode (AcfMessageInfo × Octets) :=
  if octets = [] then .error (.avtp .shortBuffer)
  else if peekAcfMsgType octets = acfMsgTypeGbb then
    match decodeAcfGbb octets with
    | .error e => .error e
    | .ok (info, _, payload) => .ok (info, payload)
  else decodeAcfAbb octets

/-! ## The slots -/

def maxQueueCapacity : Nat := 32

structure FrameSlots where
  slots : Table Octets maxQueueCapacity := .replicate _ []
  occupied : Table Bool maxQueueCapacity := .replicate _ false
  logicalCapacity : Nat := maxQueueCapacity
  capacity_pos : 1 ≤ logicalCapacity := by decide
  capacity_le : logicalCapacity ≤ maxQueueCapacity := by decide

namespace FrameSlots

variable (pool : FrameSlots)

def setLogicalCapacity (n : Nat) : FrameSlots where
  slots := pool.slots
  occupied := pool.occupied
  logicalCapacity :=
    if n < 1 then 1 else if maxQueueCapacity < n then maxQueueCapacity else n
  capacity_pos := by
    split
    · exact le_refl 1
    split
    · decide
    · omega
  capacity_le := by
    split
    · decide
    split
    · exact le_refl _
    · omega

def acquire (frame : Octets) : FrameSlots × Option Nat :=
  match (List.range pool.logicalCapacity).find? fun i => !pool.occupied.get i with
  | none => (pool, none)
  | some i =>
      ({ pool with
          slots := pool.slots.set i frame
          occupied := pool.occupied.set i true }, some i)

def frameAt (slot : Nat) : Octets := pool.slots.get slot

def store (slot : Nat) (frame : Octets) : FrameSlots :=
  { pool with slots := pool.slots.set slot frame }

def release (slot : Nat) : FrameSlots :=
  { pool with
    slots := pool.slots.set slot []
    occupied := pool.occupied.set slot false }

def occupiedCount : Nat :=
  (List.range pool.logicalCapacity).countP fun i => pool.occupied.get i

end FrameSlots

/-! ## Calls of `request` -/

inductive RequestError
  | closed | busy
  | decode (e : ErrorCode)
  | handler (e : StdErrorCode)
  | exception
  deriving DecidableEq, Repr

abbrev Message := AcfMessageInfo × Octets

inductive Answer
  | returns (error : StdErrorCode) (response : Message)
  | throws
  deriving DecidableEq, Repr

inductive Stage
  | started
  | admitted (slot : Nat)
  | decoded (slot : Nat) (request : Message)
  | handling (slot : Nat) (request : Message) (hasHandler : Bool)
  | answered (slot : Nat) (response : Message)
  | stored (slot : Nat) (respBytes : Octets)
  | returning (slot : Nat) (result : Except RequestError Message)
  | returned (result : Except RequestError Message)
  deriving DecidableEq

/-- The slot that the guard of the call releases. -/
def Stage.slot : Stage → Option Nat
  | .admitted slot | .decoded slot _ | .handling slot _ _ | .answered slot _
  | .stored slot _ | .returning slot _ => some slot
  | .started | .returned _ => none

structure Call where
  client : Nat
  request : Message
  stage : Stage
  deriving DecidableEq

structure Channel where
  streamKey : UInt64 := 0
  closed : Bool := false
  slots : FrameSlots := {}
  hasHandler : Bool := false
  calls : List Call := []

inductive Op
  | request (client : Nat) (request : Message)
  | advance (call : Nat) (answer : Answer)
  | setHandler (hasHandler : Bool)
  | close

def decodeResult (octets : Octets) : Except RequestError Message :=
  match decodeAcfMessage octets with
  | .error e => .error (.decode e)
  | .ok message => .ok message

namespace Channel

variable (channel : Channel)

def new (streamKey : UInt64) (queueCapacity : Nat) : Channel where
  streamKey := streamKey
  slots := FrameSlots.setLogicalCapacity {} queueCapacity

def request (client : Nat) (request : Message) : Channel :=
  let stage : Stage :=
    if channel.closed then .returned (.error .closed) else .started
  { channel with calls := channel.calls ++ [{ client, request, stage }] }

def advanceCall (call : Call) (answer : Answer) : FrameSlots × Stage :=
  match call.stage with
  | .started =>
      let acquired := channel.slots.acquire
        (encodeAcfMessage call.request.1 call.request.2)
      match acquired.2 with
      | none => (acquired.1, .returned (.error .busy))
      | some slot => (acquired.1, .admitted slot)
  | .admitted slot =>
      match decodeResult (channel.slots.frameAt slot) with
      | .error e => (channel.slots, .returning slot (.error e))
      | .ok request => (channel.slots, .decoded slot request)
  | .decoded slot request =>
      (channel.slots, .handling slot request channel.hasHandler)
  | .handling slot request hasHandler =>
      if hasHandler then
        match answer with
        | .throws => (channel.slots, .returning slot (.error .exception))
        | .returns error response =>
            if error.isError then
              (channel.slots, .returning slot (.error (.handler error)))
            else (channel.slots, .answered slot response)
      else
        (channel.slots,
          .answered slot (makeResponse request.1 .acknowledge, []))
  | .answered slot response =>
      let respBytes := encodeAcfMessage response.1 response.2
      (channel.slots.store slot respBytes, .stored slot respBytes)
  | .stored slot respBytes =>
      (channel.slots, .returning slot (decodeResult respBytes))
  | .returning slot result =>
      (channel.slots.release slot, .returned result)
  | .returned result => (channel.slots, .returned result)

def advance (call : Nat) (answer : Answer) : Channel :=
  match channel.calls[call]? with
  | none => channel
  | some found =>
      let next := channel.advanceCall found answer
      { channel with
        slots := next.1
        calls := channel.calls.set call { found with stage := next.2 } }

def step (op : Op) : Channel × Unit :=
  match op with
  | .request client request => (channel.request client request, ())
  | .advance call answer => (channel.advance call answer, ())
  | .setHandler hasHandler => ({ channel with hasHandler }, ())
  | .close => ({ channel with closed := true }, ())

end Channel

/-! ## The registry -/

def defaultQueueCapacity : Nat := 8

def newChannel (streamKey : UInt64) : Channel :=
  Channel.new streamKey defaultQueueCapacity

inductive RegistryError
  | closed | alreadyExists
  deriving DecidableEq, Repr

structure Registry where
  channels : Std.TreeMap UInt64 Channel := ∅
  closed : Bool := false

def Registry.addChannel (reg : Registry) (channel : Channel) :
    Registry × Option RegistryError :=
  if reg.closed then (reg, some .closed)
  else if channel.streamKey ∈ reg.channels then (reg, some .alreadyExists)
  else
    ({ reg with channels := reg.channels.insert channel.streamKey channel },
      none)

end CppRcp.Host.Shmem
