import CppRcp.Wire.Acf

/-!
# Request types

A GBB message whose `mtv` bit is clear repurposes its timestamp: the first
octet is a request-type opcode and the other seven are the opcode's own
parameters.  Here are the opcodes of `request.hpp`, the decoder of each
request kind, and the order in which due requests are served.
-/

namespace CppRcp.Request

open CppRcp.Foundation CppRcp.Acf

inductive RequestTypeOpcode
  | chained | clearAll | clearNonSafestate | clearSingle | timed
  | compoundWait | triggered | compound | compoundWaitSafety
  | triggeredSafety | compoundSafety
  deriving DecidableEq, Repr

def RequestTypeOpcode.toOctet : RequestTypeOpcode → UInt8
  | .chained => 0x01
  | .clearAll => 0x05
  | .clearNonSafestate => 0x06
  | .clearSingle => 0x07
  | .timed => 0x0A
  | .compoundWait => 0x0B
  | .triggered => 0x0E
  | .compound => 0x0F
  | .compoundWaitSafety => 0x8B
  | .triggeredSafety => 0x8E
  | .compoundSafety => 0x8F

/-- `is_valid_request_type` together with the cast it guards. -/
def requestTypeOf (octet : UInt8) : Option RequestTypeOpcode :=
  match octet.toNat with
  | 0x01 => some .chained
  | 0x05 => some .clearAll
  | 0x06 => some .clearNonSafestate
  | 0x07 => some .clearSingle
  | 0x0A => some .timed
  | 0x0B => some .compoundWait
  | 0x0E => some .triggered
  | 0x0F => some .compound
  | 0x8B => some .compoundWaitSafety
  | 0x8E => some .triggeredSafety
  | 0x8F => some .compoundSafety
  | _ => none

theorem requestTypeOf_toOctet (type : RequestTypeOpcode) :
    requestTypeOf type.toOctet = some type := by
  cases type <;> rfl

def isSafetyVariant : RequestTypeOpcode → Bool
  | .compoundWaitSafety | .triggeredSafety | .compoundSafety => true
  | _ => false

def isCompound (type : RequestTypeOpcode) : Bool :=
  decide (type = .compound) || decide (type = .compoundSafety)

def isCompoundWait (type : RequestTypeOpcode) : Bool :=
  decide (type = .compoundWait) || decide (type = .compoundWaitSafety)

def isTriggered (type : RequestTypeOpcode) : Bool :=
  decide (type = .triggered) || decide (type = .triggeredSafety)

def encodeRequestType (type : RequestTypeOpcode) (params : Octets) : Nat :=
  getBe (type.toOctet :: params)

def decodeRequestType (mtv : Bool) (messageTimestamp : Nat) :
    Except ErrorCode (RequestTypeOpcode × Octets) :=
  if mtv then .error (.request .timestampNotRepurposed)
  else
    match requestTypeOf (UInt8.ofNat (messageTimestamp / 2 ^ 56)) with
    | none => .error (.request .unknownRequestType)
    | some type => .ok (type, putBe 7 messageTimestamp)

structure Repurposed where
  info : AcfMessageInfo
  type : RequestTypeOpcode
  params : Octets
  payload : Octets
  deriving DecidableEq, Repr

def decodeRepurposed (octets : Octets) : Except ErrorCode Repurposed :=
  match decodeAcfGbb octets with
  | .error e => .error e
  | .ok (info, ts, payload) =>
      match decodeRequestType info.mtv ts with
      | .error e => .error e
      | .ok (type, params) => .ok ⟨info, type, params, payload⟩

def allZero (params : Octets) (indices : List Nat) : Bool :=
  indices.all fun index => octetAt params index = 0

def evtHsCsZero (info : AcfMessageInfo) : Bool :=
  info.evtOp = 0 && !info.hs && !info.cs

def be16At (params : Octets) (index : Nat) : UInt16 :=
  UInt16.ofNat
    ((octetAt params index).toNat * 256 + (octetAt params (index + 1)).toNat)

/-! ## Compound and compound-wait -/

structure CompoundStep where
  startState : UInt8 := 0
  nextState : UInt8 := 0
  sequencerIndex : UInt8 := 0
  execDelay : UInt16 := 0
  repeatCount : UInt16 := 0
  deriving DecidableEq, Repr

def decodeCompoundStepParams (p : Octets) : CompoundStep :=
  ⟨octetAt p 0, octetAt p 1, octetAt p 2, be16At p 3, be16At p 5⟩

structure CompoundRequest where
  type : RequestTypeOpcode
  byteBusId : UInt16
  step : CompoundStep
  evtOp : UInt8
  transactionNum : UInt8
  payload : Octets
  deriving DecidableEq, Repr

def decodeCompoundRequest (octets : Octets) :
    Except ErrorCode CompoundRequest :=
  match decodeRepurposed octets with
  | .error e => .error e
  | .ok r =>
      if !isCompound r.type && !isCompoundWait r.type then
        .error (.request .unknownRequestType)
      else
        .ok ⟨r.type, r.info.byteBusId, decodeCompoundStepParams r.params,
          r.info.evtOp, r.info.transactionNum, r.payload⟩

/-! ## Triggered and timed -/

structure TriggeredStep where
  triggerSourceEp : UInt8 := 0
  triggerSignalNr : UInt8 := 0
  triggerThreshold : UInt8 := 0
  execDelay : UInt16 := 0
  repeatCount : UInt16 := 0
  deriving DecidableEq, Repr

def decodeTriggeredStepParams (p : Octets) : TriggeredStep :=
  ⟨octetAt p 0, octetAt p 1, octetAt p 2, be16At p 3, be16At p 5⟩

structure TriggeredRequest where
  type : RequestTypeOpcode
  byteBusId : UInt16
  step : TriggeredStep
  transactionNum : UInt8
  payload : Octets
  deriving DecidableEq, Repr

def decodeTriggeredRequest (octets : Octets) :
    Except ErrorCode TriggeredRequest :=
  match decodeRepurposed octets with
  | .error e => .error e
  | .ok r =>
      if !isTriggered r.type then .error (.request .unknownRequestType)
      else
        .ok ⟨r.type, r.info.byteBusId, decodeTriggeredStepParams r.params,
          r.info.transactionNum, r.payload⟩

structure TimedRequest where
  byteBusId : UInt16
  presentationTime : Nat
  transactionNum : UInt8
  payload : Octets
  deriving DecidableEq, Repr

def decodeTimedRequest (octets : Octets) : Except ErrorCode TimedRequest :=
  match decodeRepurposed octets with
  | .error e => .error e
  | .ok r =>
      if r.type ≠ .timed then .error (.request .unknownRequestType)
      else if octetAt r.params 0 ≠ 0 then
        .error (.request .reservedFieldNonzero)
      else if r.info.hs || r.info.cs then .error (.request .unsupportedCmd)
      else
        .ok ⟨r.info.byteBusId, getBe (r.params.drop 1),
          r.info.transactionNum, r.payload⟩

/-! ## Chained -/

structure ChainedMember where
  byteBusId : UInt16
  chainExecDelay : UInt16
  cs : Bool
  transactionNum : UInt8
  payload : Octets
  deriving DecidableEq, Repr

def decodeChainedMember (octets : Octets) : Except ErrorCode ChainedMember :=
  match decodeRepurposed octets with
  | .error e => .error e
  | .ok r =>
      if r.type ≠ .chained then .error (.request .unknownRequestType)
      else if !allZero r.params [0, 1, 2, 5, 6] then
        .error (.request .reservedFieldNonzero)
      else
        .ok ⟨r.info.byteBusId, be16At r.params 3, r.info.cs,
          r.info.transactionNum, r.payload⟩

def shouldExecuteChained (cs predecessorErrored : Bool) : Bool :=
  !cs || !predecessorErrored

/-! ## Cancellations -/

/-- What `decode_clear_all` and `decode_clear_non_safestate` write. -/
structure ClearRequest where
  byteBusId : UInt16
  transactionNum : UInt8
  deriving DecidableEq, Repr

def decodeClear (type : RequestTypeOpcode) (octets : Octets) :
    Except ErrorCode ClearRequest :=
  match decodeRepurposed octets with
  | .error e => .error e
  | .ok r =>
      if r.type ≠ type then .error (.request .unknownRequestType)
      else if !allZero r.params [0, 1, 2, 3, 4, 5, 6] then
        .error (.request .reservedFieldNonzero)
      else if !evtHsCsZero r.info then .error (.request .evtHsCsNonzero)
      else .ok ⟨r.info.byteBusId, r.info.transactionNum⟩

def decodeClearAll : Octets → Except ErrorCode ClearRequest :=
  decodeClear .clearAll

def decodeClearNonSafestate : Octets → Except ErrorCode ClearRequest :=
  decodeClear .clearNonSafestate

structure ClearSingleRequest where
  byteBusId : UInt16
  clearTransactionNum : UInt8
  transactionNum : UInt8
  deriving DecidableEq, Repr

def decodeClearSingle (octets : Octets) :
    Except ErrorCode ClearSingleRequest :=
  match decodeRepurposed octets with
  | .error e => .error e
  | .ok r =>
      if r.type ≠ .clearSingle then .error (.request .unknownRequestType)
      else if !allZero r.params [0, 1, 3, 4, 5, 6] then
        .error (.request .reservedFieldNonzero)
      else if !evtHsCsZero r.info then .error (.request .evtHsCsNonzero)
      else
        .ok ⟨r.info.byteBusId, octetAt r.params 2, r.info.transactionNum⟩

/-! ## Categories and priorities -/

inductive RequestCategory
  | cancellation | triggered | timed | compound | compoundWait | chained
  | standard
  deriving DecidableEq, Repr

def categoryOf : Option RequestTypeOpcode → RequestCategory
  | none => .standard
  | some .clearAll | some .clearNonSafestate | some .clearSingle =>
      .cancellation
  | some .triggered | some .triggeredSafety => .triggered
  | some .timed => .timed
  | some .compound | some .compoundSafety => .compound
  | some .compoundWait | some .compoundWaitSafety => .compoundWait
  | some .chained => .chained

def priorityRank : RequestCategory → Nat
  | .cancellation => 0
  | .triggered => 1
  | .timed => 2
  | .compound => 3
  | .compoundWait => 4
  | .chained => 5
  | .standard => 6

end CppRcp.Request
