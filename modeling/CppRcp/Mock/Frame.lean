import CppRcp.Foundation.Runs
import CppRcp.Mock.E2eDispatch

/-!
# Dispatching a whole frame

`mock.hpp`'s `split_frame_members` and `dispatch_frame_impl`.  A frame is
split into its members, and a loop takes them one by one, keeping track of the
chain each belongs to.  The loop is generic in how a single member is
dispatched, as the source's template is.
-/

namespace CppRcp.Mock

open CppRcp.Foundation CppRcp.Acf CppRcp.Request CppRcp.E2e CppRcp.Server

def maxFrameMembers : Nat := 32

/-! ## Splitting -/

/-- The size of the member at the head of `octets`, if it is well formed. -/
def memberLen (octets : Octets) : Option Nat :=
  if octets.length < 2 then none
  else
    let msgType := peekAcfMsgType octets
    if msgType ≠ acfMsgTypeAbb ∧ msgType ≠ acfMsgTypeGbb then none
    else if octets.length < headerLen msgType then none
    else
      let quadlets :=
        (octetAt octets 0).toNat % 2 * 256 + (octetAt octets 1).toNat
      let msgLen := quadlets * 4
      if msgLen < headerLen msgType then none
      else if octets.length < msgLen then none
      else some msgLen

/-- The loop of `split_frame_members` on the octets from `offset` on; every
member is at least a header long, so the length bounds its turns. -/
def splitFrom : Nat → Octets → Nat → Option (List Nat)
  | 0, _, _ => some []
  | fuel + 1, octets, offset =>
      if octets = [] then some []
      else
        match memberLen octets with
        | none => none
        | some len =>
            (splitFrom fuel (octets.drop len) (offset + len)).map
              (offset :: ·)

/-- The offsets of all members; none for a malformed frame. -/
def splitFrameMembers (frame : Octets) : List Nat :=
  (splitFrom frame.length frame 0).getD []

/-- The members at the stored offsets.  The last of them ends where the frame
does only if no further member was found; otherwise the loop leaves it out. -/
def memberOctets (frame : Octets) (isLast : Bool) : List Nat → List Octets
  | [] => []
  | [offset] => if isLast then [frame.drop offset] else []
  | offset :: next :: offsets =>
      (frame.drop offset).take (next - offset) ::
        memberOctets frame isLast (next :: offsets)

/-- The members the loop of `dispatch_frame_impl` takes. -/
def frameMembers (frame : Octets) : List Octets :=
  let offsets := splitFrameMembers frame
  memberOctets frame (decide (offsets.length ≤ maxFrameMembers))
    (offsets.take maxFrameMembers)

/-! ## The member loop -/

structure FrameMemberResult where
  result : Option ErrorCode
  byteBusId : UInt16 := 0
  response : AcfMessageInfo := {}
  responsePayload : Octets := []
  deriving DecidableEq, Repr

structure FrameLoop where
  server : Server
  chainAborted : Bool := false
  prevErrored : Bool := false
  chainGroup : Nat := 0
  chainPosition : Nat := 0
  deriving DecidableEq, Repr

abbrev DispatchMember := Server → Octets → Server × Reply

def peekMember (member : Octets) : Option AcfMessageInfo :=
  let msgType := if member = [] then 0 else peekAcfMsgType member
  if msgType = acfMsgTypeAbb then
    match decodeAcfAbb member with
    | .error _ => none
    | .ok (info, _) => some info
  else if msgType = acfMsgTypeGbb then
    match decodeAcfGbb member with
    | .error _ => none
    | .ok (info, _, _) => some info
  else none

/-- The loop of `last_pending_index` from `index` on. -/
def lastPending : List PendingRequest → Nat → Option (Nat × Nat) →
    Option (Nat × Nat)
  | [], _, best => best
  | slot :: slots, index, best =>
      let later :=
        slot.inUse &&
          match best with
          | none => true
          | some (_, maxSeq) => decide (maxSeq ≤ slot.sequence)
      lastPending slots (index + 1)
        (if later then some (index, slot.sequence) else best)

def lastPendingIndex (ep : Endpoint) : Option Nat :=
  (lastPending ep.slots.toList 0 none).map Prod.fst

def tagLastPending (ep : Endpoint) (group position : Nat) : Endpoint :=
  match lastPendingIndex ep with
  | none => ep
  | some last => (ep.chainPredecessorDone last 0).tagChain last group position

def tagStored (before after : Server) (bus : Option Bus)
    (group position : Nat) : Server :=
  match bus with
  | none => after
  | some bus =>
      if (before.admission bus).pendingCount <
          (after.admission bus).pendingCount then
        after.setAdmission bus
          (tagLastPending (after.admission bus) group position)
      else after

def countsAsError (ec : Option ErrorCode) : Bool :=
  decide (ec = some (.dispatch .unknownBus)) ||
    decide (ec = some (.regmap .requestRejected))

def dispatchAt (dispatchMember : DispatchMember) (state : FrameLoop)
    (peek : AcfMessageInfo) (member : Octets) :
    FrameLoop × FrameMemberResult :=
  match dispatchMember state.server member with
  | (server, reply) =>
      ({ state with
          server := tagStored state.server server (Bus.ofId peek.byteBusId)
            state.chainGroup state.chainPosition
          prevErrored := countsAsError reply.ec },
        ⟨reply.ec, peek.byteBusId, reply.response, reply.payload⟩)

def refuseChained (state : FrameLoop) (peek : AcfMessageInfo)
    (ec : DispatchErrc) (code : WireErrorCode) :
    FrameLoop × FrameMemberResult :=
  ({ state with chainAborted := true, prevErrored := true },
    ⟨some (.dispatch ec), peek.byteBusId, makeResponse peek .errorResponse,
      encodeErrorPayload code⟩)

/-- The body of the loop of `dispatch_frame_impl` for the member at an
index. -/
def stepMember (dispatchMember : DispatchMember) (state : FrameLoop)
    (input : Octets × Nat) : FrameLoop × FrameMemberResult :=
  match peekMember input.1 with
  | none =>
      ({ state with prevErrored := true },
        ⟨some (.dispatch .unknownBus), 0, {}, []⟩)
  | some peek =>
      match decodeChainedMember input.1 with
      | .error _ =>
          dispatchAt dispatchMember
            { state with chainGroup := input.2 + 1, chainPosition := 0 } peek
            input.1
      | .ok request =>
          let state :=
            { state with chainPosition := state.chainPosition + 1 }
          if input.2 = 0 then refuseChained state peek .chainError .chainError
          else if state.chainAborted ||
              !shouldExecuteChained request.cs state.prevErrored then
            refuseChained state peek .chainAborted .chainAborted
          else dispatchAt dispatchMember state peek input.1

def dispatchFrameImpl (dispatchMember : DispatchMember) (server : Server)
    (frame : Octets) : Server × List FrameMemberResult :=
  let final := run (stepMember dispatchMember) { server := server }
    (frameMembers frame).zipIdx
  (final.1.server, final.2)

namespace Server

def dispatchFrame (server : Server) (streamId : StreamId) (frame : Octets) :
    Server × List FrameMemberResult :=
  dispatchFrameImpl (fun server member =>
    server.decodeAndDispatch streamId member) server frame

def seqErrorResult : FrameMemberResult :=
  ⟨some (.dispatch .seqError), 0, {}, []⟩

def dispatchFrameE2e (server : Server) (streamId : StreamId)
    (sequenceNum : UInt8) (frame : Octets) :
    Server × List FrameMemberResult :=
  let realCount := (splitFrameMembers frame).length
  if realCount = 0 then (server, [])
  else
    match server.seqGateAdmits streamId sequenceNum with
    | (server, false) =>
        (server, List.replicate (min realCount maxFrameMembers) seqErrorResult)
    | (server, true) =>
        dispatchFrameImpl (fun server member =>
          server.dispatchE2eFragmentCore streamId sequenceNum member false)
          server frame

end Server

end CppRcp.Mock
