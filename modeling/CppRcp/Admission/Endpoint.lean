import CppRcp.Admission.Store
import CppRcp.Foundation.Runs

/-!
# The endpoint's admission half

`server.hpp`'s `Endpoint`: the queue of requests held while the endpoint is
disabled, the store of conditional requests, and the operations on both.  The
endpoint's own peripheral is elsewhere; nothing here executes a request.
-/

namespace CppRcp.Server

open CppRcp.Foundation CppRcp.Acf CppRcp.Request

structure Endpoint where
  epEnable : Bool := true
  admissionSuspended : Bool := false
  queue : List Octets := []
  slots : Slots := .empty
  pendingCount : Nat := 0
  nextSequence : Nat := 0
  deriving DecidableEq, Repr

inductive AdmitOutcome
  | executeNow | queued | pending | cancellation | rejected | suspended
  deriving DecidableEq, Repr

structure AdmitResult where
  outcome : AdmitOutcome
  requestType : Option RequestTypeOpcode := none
  index : Option Nat := none
  error : Option WireErrorCode := none
  ack : Octets := []
  deriving DecidableEq, Repr

namespace Endpoint

def setEnable (ep : Endpoint) (enable : Bool) : Endpoint :=
  { ep with epEnable := enable }

def setAdmissionSuspended (ep : Endpoint) (suspended : Bool) : Endpoint :=
  { ep with admissionSuspended := suspended }

/-! ## The enable queue -/

def isCompoundWaitByte (octet : UInt8) : Bool :=
  octet = RequestTypeOpcode.compoundWait.toOctet ||
    octet = RequestTypeOpcode.compoundWaitSafety.toOctet

/-- `build_store_ack`: the acknowledge `frame` asks for, if it does. -/
def buildStoreAck (frame : Octets) : Octets :=
  if frame.length < acfCommonHeaderLen then []
  else
    let header := decodeAcfMessageInfo frame
    if header.evtAck then
      buildAcknowledgeResponse header.byteBusId header.transactionNum
    else []

/-- Whether `submit` executes a frame although the endpoint is disabled. -/
def isConfigRequest (frame : Octets) : Bool :=
  if frame.length < acfCommonHeaderLen then false
  else
    let header := decodeAcfMessageInfo frame
    if header.evtOp ≠ 7 then false
    else if header.acfMsgType = acfMsgTypeAbb then true
    else if header.acfMsgType = acfMsgTypeGbb then
      match peekGbbRequestType frame with
      | none => false
      | some requestType => !isCompoundWaitByte requestType
    else false

/-- `true` when the caller must execute the frame now. -/
def submit (ep : Endpoint) (frame : Octets) : Endpoint × Bool × Octets :=
  if ep.epEnable || isConfigRequest frame then (ep, true, [])
  else if maxQueuedFrames ≤ ep.queue.length then (ep, false, [])
  else ({ ep with queue := ep.queue ++ [frame] }, false, buildStoreAck frame)

def drainOne (ep : Endpoint) : Endpoint × Option Octets :=
  if !ep.epEnable then (ep, none)
  else
    match ep.queue with
    | [] => (ep, none)
    | frame :: queue => ({ ep with queue := queue }, some frame)

/-! ## Slots -/

def claimSlot (ep : Endpoint) : Option (Nat × PendingRequest × Endpoint) :=
  match ep.slots.firstFree with
  | none => none
  | some index =>
      let slot : PendingRequest := { inUse := true, sequence := ep.nextSequence }
      some (index, slot,
        { ep with
          slots := ep.slots.set index slot
          pendingCount := ep.pendingCount + 1
          nextSequence := ep.nextSequence + 1 })

def putSlot (ep : Endpoint) (index : Nat) (slot : PendingRequest) : Endpoint :=
  { ep with slots := ep.slots.set index slot }

def releaseSlot (ep : Endpoint) (index : Nat) : Endpoint :=
  { ep with
    slots := ep.slots.set index {}
    pendingCount := ep.pendingCount - 1 }

def releaseWhere (ep : Endpoint) (p : PendingRequest → Bool) : Endpoint :=
  { ep with
    slots := ep.slots.releaseWhere p
    pendingCount := ep.pendingCount - ep.slots.count p }

/-! ## Admission -/

/-- `peek_request_type`: anything but an untimed GBB with a known opcode is a
standard request. -/
def peekRequestType (frame : Octets) : Option RequestTypeOpcode :=
  if frame.length < acfGbbMessageInfoLen then none
  else
    let header := decodeAcfMessageInfo frame
    if header.acfMsgType ≠ acfMsgTypeGbb || header.mtv then none
    else requestTypeOf (octetAt frame acfCommonHeaderLen)

/-- The kind-specific fields of a freshly claimed slot, or the error code the
rejection carries. -/
def decodeInto (frame : Octets) (category : RequestCategory)
    (slot : PendingRequest) : Except (Option WireErrorCode) PendingRequest :=
  match category with
  | .compound =>
      match decodeCompoundRequest frame with
      | .error _ => .error none
      | .ok request =>
          .ok { slot with
            compound := request.step
            transactionNum := request.transactionNum }
  | .compoundWait =>
      match decodeCompoundRequest frame with
      | .error _ => .error none
      | .ok request =>
          if !compoundWaitEvtValid request.evtOp then
            .error (some .unsupportedCmd)
          else
            .ok { slot with
              compoundWaitEvt := request.evtOp
              compoundWaitTarget := request.payload
              compound := request.step
              transactionNum := request.transactionNum }
  | .triggered =>
      match decodeTriggeredRequest frame with
      | .error _ => .error none
      | .ok request =>
          .ok { slot with
            triggered := request.step
            transactionNum := request.transactionNum
            triggeredRuntime := triggeredEnterStarted }
  | .timed =>
      match decodeTimedRequest frame with
      | .error _ => .error none
      | .ok request =>
          .ok { slot with
            presentationTime := request.presentationTime
            transactionNum := request.transactionNum }
  | .chained =>
      match decodeChainedMember frame with
      | .error _ => .error none
      | .ok request =>
          .ok { slot with
            chainExecDelay := request.chainExecDelay
            chainCs := request.cs
            transactionNum := request.transactionNum }
  | .standard | .cancellation => .error none

def admitUnderTscfGate (ep : Endpoint) (frame : Octets) (now : UInt32)
    (presentationGateNs : Nat) (category : RequestCategory)
    (requestType : Option RequestTypeOpcode) : Endpoint × AdmitResult :=
  match ep.claimSlot with
  | none => (ep, { outcome := .rejected, requestType := requestType })
  | some (index, slot, claimed) =>
      (claimed.putSlot index
        { slot with
          category := category
          requestType := requestType
          hasPresentationGate := true
          presentationGateNs := presentationGateNs
          armedAt := now
          frame := frame },
        { outcome := .pending
          requestType := requestType
          index := some index
          ack := buildStoreAck frame })

/-- The last part of `admit_with_ack`: store a conditional request. -/
def admitConditional (ep : Endpoint) (frame : Octets) (now : UInt32)
    (tv : Bool) (presentationGateNs : Nat) (type : RequestTypeOpcode) :
    Endpoint × AdmitResult :=
  match ep.claimSlot with
  | none =>
      (ep,
        { outcome := .rejected
          requestType := some type
          error := some .reqStorageOverflow })
  | some (index, slot, claimed) =>
      let category := categoryOf (some type)
      match decodeInto frame category
          { slot with category := category, requestType := some type } with
      | .error error =>
          (claimed.releaseSlot index,
            { outcome := .rejected
              requestType := some type
              error := error })
      | .ok slot =>
          (claimed.putSlot index
            { slot with
              hasPresentationGate := tv
              presentationGateNs := presentationGateNs
              armedAt := now
              frame := frame },
            { outcome := .pending
              requestType := some type
              index := some index
              ack := buildStoreAck frame })

def admitWithAck (ep : Endpoint) (frame : Octets) (now : UInt32) (tv : Bool)
    (avtpTimestamp : UInt32) (gptpReferenceNow : Nat) :
    Endpoint × AdmitResult :=
  if ep.admissionSuspended then (ep, { outcome := .suspended })
  else
    let presentationGateNs :=
      if tv then extendTimestamp avtpTimestamp gptpReferenceNow else 0
    if acfCommonHeaderLen ≤ frame.length &&
        !headerIsRequest (decodeAcfMessageInfo frame) then
      (ep, { outcome := .rejected, error := some .invalidParameter })
    else
      match peekRequestType frame with
      | none =>
          if tv then
            ep.admitUnderTscfGate frame now presentationGateNs .standard none
          else
            match ep.submit frame with
            | (ep, true, ack) => (ep, { outcome := .executeNow, ack := ack })
            | (ep, false, ack) => (ep, { outcome := .queued, ack := ack })
      | some type =>
          if categoryOf (some type) = .cancellation then
            if tv then
              ep.admitUnderTscfGate frame now presentationGateNs .cancellation
                (some type)
            else
              (ep, { outcome := .cancellation, requestType := some type })
          else
            ep.admitConditional frame now tv presentationGateNs type

/-! ## The execution-condition tick -/

structure TickContext where
  now : UInt32 := 0
  gptpNow : Nat := 0
  gptpLocked : Bool := false
  sequencers : Option SequencerTable := none
  endpointIdle : Bool := false
  inSafeState : Bool := false
  currentStatus : Octets := []
  deriving DecidableEq, Repr

def kindIsGatedByEpEnable : RequestCategory → Bool
  | .compound | .compoundWait | .triggered | .timed | .chained => true
  | .standard | .cancellation => false

def startConditionHolds (slot : PendingRequest) (ctx : TickContext) : Bool :=
  match slot.category with
  | .compound | .compoundWait =>
      match ctx.sequencers with
      | none => false
      | some states => startConditionMet states slot.compound
  | .triggered => triggeredThresholdReached slot.triggered slot.triggeredRuntime
  | .chained => slot.predecessorDone
  | .timed | .standard | .cancellation => true

def armIfStartable (slot : PendingRequest) (ctx : TickContext) :
    PendingRequest × Bool :=
  if slot.armed then (slot, true)
  else if !startConditionHolds slot ctx then (slot, false)
  -- A chained request's delay runs from its predecessor's end.
  else if slot.category = .chained then ({ slot with armed := true }, true)
  else ({ slot with armed := true, armedAt := ctx.now }, true)

def auxiliaryConditionMet (slot : PendingRequest) (ctx : TickContext) : Bool :=
  match slot.category with
  | .compoundWait =>
      compoundWaitMatch slot.compoundWaitEvt slot.compoundWaitTarget
        ctx.currentStatus
  | .compound | .triggered | .chained => ctx.endpointIdle
  | .timed => ctx.gptpLocked
  | .standard | .cancellation => true

def delayExpired (slot : PendingRequest) (ctx : TickContext)
    (elapsed : UInt32) : Bool :=
  match slot.category with
  | .compound | .compoundWait => execDelayElapsed slot.compound elapsed
  | .triggered => triggeredExecDelayElapsed slot.triggered elapsed
  | .timed => timedDue slot.presentationTime ctx.gptpNow
  | .chained => chainedExecDelayElapsed slot.chainExecDelay elapsed
  | .standard | .cancellation => true

def isSafety (slot : PendingRequest) : Bool :=
  match slot.requestType with
  | none => false
  | some type => isSafetyVariant type

/-- `is_due`, with the slot as it arms it. -/
def isDue (epEnable : Bool) (slot : PendingRequest) (ctx : TickContext) :
    PendingRequest × Bool :=
  if !epEnable && kindIsGatedByEpEnable slot.category then (slot, false)
  else if isSafety slot && !ctx.inSafeState then (slot, false)
  else if slot.hasPresentationGate &&
      !(ctx.gptpLocked && timedDue slot.presentationGateNs ctx.gptpNow) then
    (slot, false)
  else
    match armIfStartable slot ctx with
    | (slot, false) => (slot, false)
    | (slot, true) =>
        if !auxiliaryConditionMet slot ctx then (slot, false)
        else (slot, delayExpired slot ctx (ctx.now - slot.armedAt))

def servedBefore (a b : PendingRequest) : Bool :=
  decide (priorityRank a.category < priorityRank b.category) ||
    (decide (priorityRank a.category = priorityRank b.category) &&
      decide (a.sequence < b.sequence))

/-- The loop of `select_due` over the slots from `index` on. -/
def selectBest (epEnable : Bool) (ctx : TickContext) :
    List PendingRequest → Nat → Option (Nat × PendingRequest) →
      Option (Nat × PendingRequest)
  | [], _, best => best
  | slot :: slots, index, best =>
      let better :=
        slot.inUse && (isDue epEnable slot ctx).2 &&
          match best with
          | none => true
          | some (_, chosen) => servedBefore slot chosen
      selectBest epEnable ctx slots (index + 1)
        (if better then some (index, slot) else best)

def selectDue (ep : Endpoint) (ctx : TickContext) : Endpoint × Option Nat :=
  let slots := ep.slots.map fun slot =>
    if slot.inUse then (isDue ep.epEnable slot ctx).1 else slot
  ({ ep with slots := slots },
    (selectBest ep.epEnable ctx ep.slots.toList 0 none).map Prod.fst)

/-- The repetition rule: `some` is the slot re-armed, `none` a finished
request. -/
def rearm (slot : PendingRequest) (now : UInt32) (repeatCount : UInt16)
    (setRepeat : PendingRequest → UInt16 → PendingRequest) :
    Option PendingRequest :=
  let again := fun (slot : PendingRequest) =>
    { slot with
      armed := false
      armedAt := now
      triggeredRuntime :=
        if slot.category = .triggered then triggeredEnterStarted
        else slot.triggeredRuntime }
  if repeatCount = compoundRepeatInfinite then some (again slot)
  else if repeatCount = 0 then none
  else some (again (setRepeat slot (repeatCount - 1)))

/-- What `complete` makes of the slot and of the sequencer table. -/
def completeSlot (slot : PendingRequest) (ctx : TickContext) :
    Option PendingRequest × Option SequencerTable :=
  let elapsed := ctx.now - slot.armedAt
  let setCompound := fun (slot : PendingRequest) (count : UInt16) =>
    { slot with compound := { slot.compound with repeatCount := count } }
  let setTriggered := fun (slot : PendingRequest) (count : UInt16) =>
    { slot with triggered := { slot.triggered with repeatCount := count } }
  match slot.category with
  | .compound =>
      (rearm slot ctx.now slot.compound.repeatCount setCompound,
        ctx.sequencers.map fun states => tick states slot.compound elapsed)
  | .compoundWait =>
      let matched :=
        compoundWaitMatch slot.compoundWaitEvt slot.compoundWaitTarget
          ctx.currentStatus
      (rearm slot ctx.now slot.compound.repeatCount setCompound,
        ctx.sequencers.map fun states => waitTick states slot.compound matched)
  | .triggered =>
      let slot := { slot with
        triggeredRuntime :=
          triggeredTick slot.triggered slot.triggeredRuntime elapsed true }
      (rearm slot ctx.now slot.triggered.repeatCount setTriggered,
        ctx.sequencers)
  | .timed | .chained | .standard | .cancellation => (none, ctx.sequencers)

/-- `complete`: the endpoint, the caller's sequencer table, and whether the
request stays stored. -/
def complete (ep : Endpoint) (index : Nat) (ctx : TickContext) :
    Endpoint × Option SequencerTable × Bool :=
  match ep.slots.pending index with
  | none => (ep, ctx.sequencers, false)
  | some slot =>
      match completeSlot slot ctx with
      | (none, states) => (ep.releaseSlot index, states, false)
      | (some slot, states) => (ep.putSlot index slot, states, true)

def notifyTrigger (ep : Endpoint) (sourceEp signalNr : UInt8) :
    Endpoint × Nat :=
  let observes := fun (slot : PendingRequest) =>
    slot.inUse && decide (slot.category = .triggered)
  let record := fun (slot : PendingRequest) =>
    triggeredRecordOccurrence slot.triggeredRuntime slot.triggered sourceEp
      signalNr
  ({ ep with
      slots := ep.slots.map fun slot =>
        if observes slot then
          { slot with triggeredRuntime := (record slot).1 }
        else slot },
    ep.slots.toList.countP fun slot => observes slot && (record slot).2)

def chainPredecessorDone (ep : Endpoint) (index : Nat) (now : UInt32) :
    Endpoint :=
  match ep.slots.pending index with
  | none => ep
  | some slot =>
      if slot.category = .chained then
        ep.putSlot index { slot with predecessorDone := true, armedAt := now }
      else ep

/-- The write through `pending(index)` that tags a chain member. -/
def tagChain (ep : Endpoint) (index group position : Nat) : Endpoint :=
  match ep.slots.pending index with
  | none => ep
  | some slot =>
      ep.putSlot index
        { slot with chainGroup := group, chainPosition := position }

/-! ## Cancellation and purge -/

inductive CancelLifecycle
  | queued | executing | done
  deriving DecidableEq, Repr

inductive CancelResult
  | canceled | notFound | notCancellable
  deriving DecidableEq, Repr

def cancelAttempt (found : Bool) (state : CancelLifecycle) : CancelResult :=
  if !found then .notFound
  else if state ≠ .queued then .notCancellable
  else .canceled

def cancelChainShouldCascade (memberPosition canceledPosition : Nat) : Bool :=
  decide (canceledPosition ≤ memberPosition)

def cancelAll (ep : Endpoint) : Endpoint := ep.releaseWhere fun _ => true

/-- `purge_non_safety`, the body of both operations below. -/
def purgeNonSafety (ep : Endpoint) : Endpoint :=
  ep.releaseWhere fun slot => !isSafety slot

def cancelNonSafestate (ep : Endpoint) : Endpoint := ep.purgeNonSafety

def watchdogPurge (ep : Endpoint) : Endpoint := ep.purgeNonSafety

/-- The index of the first stored request that names transaction `num`. -/
def findTransaction (ep : Endpoint) (num : UInt8) : Option Nat :=
  ep.slots.toList.findIdx? fun slot =>
    slot.inUse && decide (slot.transactionNum = num)

def cancelSingle (ep : Endpoint) (clearTransactionNum : UInt8)
    (state : CancelLifecycle) : Endpoint × CancelResult :=
  match ep.findTransaction clearTransactionNum with
  | none => (ep, cancelAttempt false state)
  | some index =>
      let result := cancelAttempt true state
      (if result = .canceled then ep.releaseSlot index else ep, result)

def cancelChainFrom (ep : Endpoint) (chainGroup minPosition : Nat) :
    Endpoint :=
  if chainGroup = 0 then ep
  else
    ep.releaseWhere fun slot =>
      decide (slot.chainGroup = chainGroup) &&
        cancelChainShouldCascade slot.chainPosition minPosition

end Endpoint

/-! ## Trigger signals of the time base -/

structure GptpTriggerState where
  hasPrevious : Bool := false
  previousLocked : Bool := false
  deriving DecidableEq, Repr

def gptpTriggerEstablished : UInt8 := 0
def gptpTriggerLost : UInt8 := 1

def gptpTriggerEvaluate (state : GptpTriggerState) (locked : Bool) :
    GptpTriggerState × Option UInt8 :=
  (⟨true, locked⟩,
    if state.hasPrevious && locked != state.previousLocked then
      some (if locked then gptpTriggerEstablished else gptpTriggerLost)
    else none)

/-! ## Runs of an endpoint -/

/-- Every public operation of `Endpoint` as one input of a step function. -/
inductive EndpointOp
  | setEnable (enable : Bool)
  | setAdmissionSuspended (suspended : Bool)
  | submit (frame : Octets)
  | drainOne
  | admitWithAck (frame : Octets) (now : UInt32) (tv : Bool)
      (avtpTimestamp : UInt32)
      (gptpReferenceNow : Nat)
  | selectDue (ctx : Endpoint.TickContext)
  | complete (index : Nat) (ctx : Endpoint.TickContext)
  | notifyTrigger (sourceEp signalNr : UInt8)
  | chainPredecessorDone (index : Nat) (now : UInt32)
  | tagChain (index group position : Nat)
  | cancelAll
  | cancelSingle (num : UInt8) (state : Endpoint.CancelLifecycle)
  | cancelNonSafestate
  | watchdogPurge
  | cancelChainFrom (group position : Nat)
  deriving DecidableEq, Repr

inductive EndpointOutput
  | done
  | executeNow (executeNow : Bool)
  | frame (frame : Option Octets)
  | admitted (result : AdmitResult)
  | due (index : Option Nat)
  | remains (remains : Bool)
  | matched (count : Nat)
  | cancelled (result : Endpoint.CancelResult)
  deriving DecidableEq, Repr

namespace Endpoint

def step (ep : Endpoint) : EndpointOp → Endpoint × EndpointOutput
  | .setEnable enable => (ep.setEnable enable, .done)
  | .setAdmissionSuspended suspended =>
      (ep.setAdmissionSuspended suspended, .done)
  | .submit frame =>
      let (ep, executeNow, _) := ep.submit frame
      (ep, .executeNow executeNow)
  | .drainOne =>
      let (ep, frame) := ep.drainOne
      (ep, .frame frame)
  | .admitWithAck frame now tv avtpTimestamp gptpReferenceNow =>
      let (ep, result) :=
        ep.admitWithAck frame now tv avtpTimestamp gptpReferenceNow
      (ep, .admitted result)
  | .selectDue ctx =>
      let (ep, index) := ep.selectDue ctx
      (ep, .due index)
  | .complete index ctx =>
      let (ep, _, remains) := ep.complete index ctx
      (ep, .remains remains)
  | .notifyTrigger sourceEp signalNr =>
      let (ep, count) := ep.notifyTrigger sourceEp signalNr
      (ep, .matched count)
  | .chainPredecessorDone index now => (ep.chainPredecessorDone index now, .done)
  | .tagChain index group position => (ep.tagChain index group position, .done)
  | .cancelAll => (ep.cancelAll, .done)
  | .cancelSingle num state =>
      let (ep, result) := ep.cancelSingle num state
      (ep, .cancelled result)
  | .cancelNonSafestate => (ep.cancelNonSafestate, .done)
  | .watchdogPurge => (ep.watchdogPurge, .done)
  | .cancelChainFrom group position => (ep.cancelChainFrom group position, .done)

end Endpoint

end CppRcp.Server
