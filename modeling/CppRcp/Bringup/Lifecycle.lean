import CppRcp.Mock.State
import CppRcp.Streams.WriterContext
import CppRcp.Wire.Avtp

/-!
# Changes of the lifecycle state

`lifecycle.hpp`: the two plausibility checks over a snapshot of the
configuration, and `ServerLifecycle::transition`, which moves the server up to
`RcpConfigured` and down again.  The loops of the checks are recursions that
stop where the source returns or breaks.
-/

namespace CppRcp.Lifecycle

open CppRcp.Mock CppRcp.Regmap

inductive LifecycleErrc
  | invalidTransition | hwCfgInconsistent | rcpCfgInconsistent | unauthorized
  | epsNotIdle
  deriving DecidableEq, Repr

/-! ## Plausibility -/

structure EndpointPlausibility where
  epUsed : Bool := false
  hwPinMapped : Bool := false
  hasRequestStream : Bool := false
  hasStreamAssoc : Bool := false
  requestStreamIndex : Nat := 0
  deriving DecidableEq, Repr

structure RequestStreamPlausibility where
  configured : Bool := false
  hasResponseStream : Bool := false
  responseStreamIndex : Nat := 0
  deriving DecidableEq, Repr

structure PlausibilitySnapshot where
  endpoints : List EndpointPlausibility := []
  requestStreams : List RequestStreamPlausibility := []
  responseStreamCount : Nat := 0
  deriving DecidableEq, Repr

/-- The search of one request stream for an endpoint in use that is bound to
it. -/
def hasBoundEndpoint (index : Nat) : List EndpointPlausibility → Bool
  | [] => false
  | ep :: rest =>
      if ep.epUsed && ep.hasStreamAssoc && ep.requestStreamIndex == index then
        true
      else hasBoundEndpoint index rest

/-- The rows from `index` on. -/
def requestStreamsConsistentFrom (snap : PlausibilitySnapshot) :
    Nat → List RequestStreamPlausibility → Bool
  | _, [] => true
  | index, rs :: rest =>
      if !rs.configured then requestStreamsConsistentFrom snap (index + 1) rest
      else if !rs.hasResponseStream then false
      else if snap.responseStreamCount ≤ rs.responseStreamIndex then false
      else if !hasBoundEndpoint index snap.endpoints then false
      else requestStreamsConsistentFrom snap (index + 1) rest

def requestStreamsConsistent (snap : PlausibilitySnapshot) : Bool :=
  requestStreamsConsistentFrom snap 0 snap.requestStreams

def endpointsMapped : List EndpointPlausibility → Bool
  | [] => true
  | ep :: rest =>
      if !ep.epUsed then endpointsMapped rest
      else if !ep.hwPinMapped then false
      else if !ep.hasRequestStream then false
      else endpointsMapped rest

def endpointsAssociated : List EndpointPlausibility → Bool
  | [] => true
  | ep :: rest =>
      if !ep.epUsed then endpointsAssociated rest
      else if !ep.hasStreamAssoc then false
      else endpointsAssociated rest

def checkHwCfg (snap : PlausibilitySnapshot) : Option LifecycleErrc :=
  if endpointsMapped snap.endpoints then none else some .hwCfgInconsistent

def checkRcpCfg (snap : PlausibilitySnapshot) : Option LifecycleErrc :=
  if !endpointsAssociated snap.endpoints then some .rcpCfgInconsistent
  else if !requestStreamsConsistent snap then some .rcpCfgInconsistent
  else none

/-! ## Locks -/

def genericConfigLocked (state : ServerState) : Bool :=
  state = .hwConfigured || state = .rcpConfigured

def functionalConfigLocked (state : ServerState) : Bool :=
  state = .rcpConfigured

/-! ## Transitions -/

/-- The arguments of `transition`. -/
structure Requested where
  target : ServerState
  snap : PlausibilitySnapshot := {}
  writer : WriterCtx := {}
  allOtherEpsIdle : Bool := false
  deriving DecidableEq, Repr

/-- The error of a call, and the two states that each subscriber is called
with. -/
structure Answer where
  error : Option LifecycleErrc := none
  notified : Option (ServerState × ServerState) := none
  deriving DecidableEq, Repr

def notifyStateChanged (previous current : ServerState) :
    Option (ServerState × ServerState) :=
  if previous = current then none else some (previous, current)

def commit (state target : ServerState) : ServerState × Answer :=
  (target, { notified := notifyStateChanged state target })

def refuse (state : ServerState) (error : LifecycleErrc) :
    ServerState × Answer :=
  (state, { error := some error })

def authorized (writer : WriterCtx) : Bool :=
  writer.viaDiscoveryStream || writer.viaRootClientEp0 ||
    writer.viaValidStreamAssociation

def transition (state : ServerState) (request : Requested) :
    ServerState × Answer :=
  if request.target = state then (state, {})
  else
    match state, request.target with
    | .hwUnconfigured, .hwConfigured =>
        match checkHwCfg request.snap with
        | some error => refuse state error
        | none => commit state request.target
    | .hwConfigured, .rcpConfigured =>
        if !authorized request.writer then refuse state .unauthorized
        else
          match checkRcpCfg request.snap with
          | some error => refuse state error
          | none => commit state request.target
    | .rcpConfigured, .hwConfigured =>
        if !request.writer.viaRootClientEp0 &&
            !request.writer.viaValidStreamAssociation then
          refuse state .unauthorized
        else if !request.allOtherEpsIdle then refuse state .epsNotIdle
        else commit state request.target
    | .hwConfigured, .hwUnconfigured =>
        if !authorized request.writer then refuse state .unauthorized
        else if !request.allOtherEpsIdle then refuse state .epsNotIdle
        else commit state request.target
    | .rcpConfigured, .hwUnconfigured =>
        if !request.writer.viaRootClientEp0 then refuse state .unauthorized
        else if !request.allOtherEpsIdle then refuse state .epsNotIdle
        else commit state request.target
    | _, _ => refuse state .invalidTransition

/-! ## The other entry points -/

/-- `advance`: the two checks are what the callbacks answer, where the server
has them. -/
def advance (state target : ServerState) (hwCfgCheck rcpCfgCheck : Option Bool) :
    ServerState × Answer :=
  if state = .hwUnconfigured ∧ target = .hwConfigured then
    if hwCfgCheck = some false then refuse state .hwCfgInconsistent
    else (.hwConfigured, { notified := notifyStateChanged state .hwConfigured })
  else if state = .hwConfigured ∧ target = .rcpConfigured then
    if rcpCfgCheck = some false then refuse state .rcpCfgInconsistent
    else (.rcpConfigured, { notified := notifyStateChanged state .rcpConfigured })
  else refuse state .invalidTransition

def deconfigure (state : ServerState) : ServerState × Answer :=
  (.hwUnconfigured, { notified := notifyStateChanged state .hwUnconfigured })

/-- A call of one of the three members that change the state. -/
inductive Call
  | advance (target : ServerState) (hwCfgCheck rcpCfgCheck : Option Bool)
  | deconfigure
  | transition (request : Requested)
  deriving DecidableEq, Repr

def callStep (state : ServerState) : Call → ServerState × Answer
  | .advance target hwCfgCheck rcpCfgCheck =>
      advance state target hwCfgCheck rcpCfgCheck
  | .deconfigure => deconfigure state
  | .transition request => transition state request

/-! ## Register locking -/

inductive FieldKind
  | hwGeneric | functionalW | functionalWStar | readOnly
  deriving DecidableEq, Repr

def fieldWritable (state : ServerState) (kind : FieldKind)
    (writer : WriterCtx) : Bool :=
  let authorized := writer.viaRootClientEp0 || writer.viaOwningStream
  let hwConfiguredAuthorized := authorized || writer.viaDiscoveryStream
  let writable :=
    match kind, state with
    | .hwGeneric, state => state = .hwUnconfigured && writer.viaDiscoveryStream
    | .functionalW, .hwUnconfigured => false
    | .functionalW, .rcpConfigured => authorized
    | .functionalW, .hwConfigured => hwConfiguredAuthorized
    | .functionalWStar, .rcpConfigured => false
    | .functionalWStar, .hwConfigured => hwConfiguredAuthorized
    | .functionalWStar, .hwUnconfigured => true
    | .readOnly, _ => false
  writable && !writer.viaNonUnicastFrame

/-- The writer that no rule of `fieldWritable` turns away for who it is. -/
def bestWriter : WriterCtx :=
  { viaRootClientEp0 := true
    viaOwningStream := true
    viaNonUnicastFrame := false
    viaDiscoveryStream := true }

def fieldWriteError (state : ServerState) (kind : FieldKind)
    (writer : WriterCtx) : Option Acf.WireErrorCode :=
  if fieldWritable state kind writer then none
  else if !fieldWritable state kind bestWriter then some .lockedMemAccess
  else some .unauthorizedAccess

def fieldWritableWPlus (state : ServerState) (writer : WriterCtx)
    (locked : Bool) : Bool :=
  if locked then false else fieldWritable state .functionalWStar writer

def fieldWriteErrorWPlus (state : ServerState) (writer : WriterCtx)
    (locked : Bool) : Option Acf.WireErrorCode :=
  if fieldWritableWPlus state writer locked then none
  else if locked then some .lockedMemAccess
  else if !fieldWritableWPlus state bestWriter false then some .lockedMemAccess
  else some .unauthorizedAccess

end CppRcp.Lifecycle
