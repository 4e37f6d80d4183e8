import CppRcp.Wire.E2e

/-!
# Register tables

The rows of `regmap.hpp` that request dispatch reads: the configured request
and response streams, the endpoint map and the generic endpoint settings.
Stream indices are one-based octets, 0 meaning that no row matches.
-/

namespace CppRcp.Regmap

open CppRcp.E2e

inductive RxSafetyMeasure
  | forceHighImpedance | runSafeSequencer
  deriving DecidableEq, Repr

structure RequestStreamConfig where
  streamId : StreamId := 0
  queueSize : UInt16 := 0
  rxWdTimeoutInterval : UInt32 := 0
  rxWdEnable : Bool := false
  rxWdSafestateEnable : Bool := false
  rxWdInfoEnable : Bool := false
  rxEnforceE2e : Bool := false
  rxEnforceSeq : Bool := false
  rxSeqSafestateEnable : Bool := false
  rxOvrflwSafestateEnable : Bool := false
  rxSafetyMeasure : RxSafetyMeasure := .forceHighImpedance
  rxSafestateSequencer : UInt16 := 0
  rxSafeSequencerState : UInt8 := 0
  rxSecureChannelIndex : UInt8 := 0
  rxAckStreamIndex : UInt8 := 0
  rxRespStreamIndex : UInt8 := 1
  rxStreamMaxRequestSize : Nat := 0
  deriving DecidableEq, Repr, Inhabited

structure ResponseQueueConfig where
  streamUid : UInt16 := 0
  maxAvtpduSize : UInt16 := 0
  queueSize : UInt16 := 0
  flushOnCount : UInt16 := 0
  flushTimeUs : UInt32 := 0
  deriving DecidableEq, Repr, Inhabited

structure EpIdMappingEntry where
  epId : UInt16 := 0
  byteBusId : UInt16 := 0
  requestStreamIndex : UInt8 := 0
  crcRequired : Bool := false
  deriving DecidableEq, Repr

structure EndpointGenericConfig where
  epType : UInt8 := 0
  epUsed : Bool := false
  epDelayTime : UInt32 := 0
  epReqStorageSize : UInt32 := 0
  epDescription : UInt32 := 0
  epTxBufferSize : UInt16 := 0
  epRxBufferSize : UInt16 := 0
  epReqCrcEnable : Bool := false
  epAckCrcEnable : Bool := false
  epResponseCrcEnable : Bool := false
  deriving DecidableEq, Repr, Inhabited

/-- `kMaxEntries` of every table. -/
def tableMaxEntries : Nat := 64

/-- The per-stream arrays of the server have no room for the rows of a longer
table. -/
structure RegisterMap where
  magic : UInt32 := 0x52435030
  svrRequestStreamCfgCapacity : UInt8 := 0
  svrEpBytebusIdMapCapacity : UInt8 := 0
  requestStreams : List RequestStreamConfig := []
  requestStreams_le : requestStreams.length ≤ tableMaxEntries := by decide
  responseStreams : List ResponseQueueConfig := []
  epIdMapping : List EpIdMappingEntry := []
  genericConfigs : List EndpointGenericConfig := []
  deriving DecidableEq, Repr

def RegisterMap.requestStream (regs : RegisterMap) (streamIndex : UInt8) :
    RequestStreamConfig :=
  regs.requestStreams.getD (streamIndex.toNat - 1) default

/-- `request_stream_cfg::resolve_index`. -/
def resolveIndex (entries : List RequestStreamConfig) (streamId : StreamId) :
    UInt8 :=
  match entries.findIdx? fun entry => entry.streamId = streamId with
  | none => 0
  | some index => UInt8.ofNat (index + 1)

def RegisterMap.reqCrcEnabled (regs : RegisterMap) (byteBusId : UInt16) :
    Bool :=
  if 1 ≤ byteBusId.toNat ∧ byteBusId.toNat ≤ regs.genericConfigs.length then
    (regs.genericConfigs.getD (byteBusId.toNat - 1) default).epReqCrcEnable
  else false

end CppRcp.Regmap
