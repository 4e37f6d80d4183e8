import CppRcp.Mock.State

/-!
# Dispatching one ACF message

`mock.hpp` from `admit_and_classify` to `decode_and_dispatch`: the admission
of a request, the ten endpoint handlers, endpoint 0, and the entry that takes
an undecoded message.
-/

namespace CppRcp.Mock

open CppRcp.Foundation CppRcp.Acf CppRcp.Request CppRcp.E2e CppRcp.Regmap
open CppRcp.Server

structure Reply where
  ec : Option ErrorCode
  response : AcfMessageInfo := {}
  payload : Octets := []
  deriving DecidableEq, Repr

def wireErrorCodeFor : ErrorCode → WireErrorCode
  | .regmap .unauthorizedAccess => .unauthorizedAccess
  | .regmap .lockedMemAccess => .lockedMemAccess
  | .regmap .requestRejected => .requestRejected
  | .regmap .invalidParameter => .invalidParameter
  | .avtp .shortBuffer => .invalidParameter
  | .gpio .pinIndexOutOfRange => .invalidParameter
  | .i2c .nack => .epError
  | .adc .reconfigShort => .invalidParameter
  | .adc .reconfigOutOfRange => .invalidParameter
  | .adc .noSignal => .epError
  | .pwm .noSignal => .pwmInNoSignal
  | .lin .noResponse => .epError
  | .can .identifierOutOfRange => .invalidParameter
  | .can .payloadExceedsFormatLimit => .invalidParameter
  | .can .xlPayloadExceedsSingleAvtpduBound => .epError
  | .uart .readSizeExceedsBound => .invalidParameter
  | .uart .txQueueOverflow => .invalidParameter
  | .mdio .payloadExceedsModeWidth => .invalidParameter
  | _ => .unsupportedCmd

def errorReply (req : AcfMessageInfo) (ec : ErrorCode) (code : WireErrorCode) :
    Reply :=
  ⟨some ec, makeResponse req .errorResponse, encodeErrorPayload code⟩

def setErrorResponse (req : AcfMessageInfo) (ec : ErrorCode) : Reply :=
  errorReply req ec (wireErrorCodeFor ec)

def suppressResponsePerStreamCfg (regs : RegisterMap) (streamId : StreamId)
    (reply : Reply) : Reply :=
  if !reply.response.rsp then reply
  else
    let streamIndex := resolveIndex regs.requestStreams streamId
    if streamIndex = 0 then reply
    else
      let cfg := regs.requestStream streamIndex
      let suppress :=
        if responseKindOf reply.response = .acknowledge then
          decide (cfg.rxAckStreamIndex = 0)
        else decide (cfg.rxRespStreamIndex = 0)
      if suppress then ⟨reply.ec, {}, []⟩ else reply

/-! ## Admission -/

inductive AdmitRejectShape
  | acknowledgeRejected | errorResponse
  deriving DecidableEq, Repr

def admissionRejectResponseShape (error : WireErrorCode) : AdmitRejectShape :=
  if error = .unsupportedCmd then .errorResponse else .acknowledgeRejected

def makeAcknowledgeRejectedResponse (req : AcfMessageInfo) : AcfMessageInfo :=
  { makeResponse req .acknowledge with err := true }

/-- The first stored request that names a transaction, as the loop of
`apply_cancellation` finds it. -/
def chainOfTransaction (admission : Endpoint) (num : UInt8) : Nat × Nat :=
  match (admission.findTransaction num).bind admission.slots.pending with
  | none => (0, 0)
  | some slot => (slot.chainGroup, slot.chainPosition)

/-- The clear-single branch of `apply_cancellation`. -/
def applyClearSingle (admission : Endpoint) (frame : Octets)
    (req : AcfMessageInfo) : Endpoint × AcfMessageInfo × Octets :=
  match decodeClearSingle frame with
  | .error _ => (admission, {}, [])
  | .ok request =>
      let chain := chainOfTransaction admission request.clearTransactionNum
      match admission.cancelSingle request.clearTransactionNum .queued with
      | (admission, .notFound) =>
          (admission, makeResponse req .errorResponse,
            encodeErrorPayload .requestNotFound)
      | (admission, .canceled) =>
          (admission.cancelChainFrom chain.1 chain.2, {}, [])
      | (admission, .notCancellable) => (admission, {}, [])

/-- `apply_cancellation`: only clear-single decodes its frame. -/
def applyCancellation (admission : Endpoint) (requestType : RequestTypeOpcode)
    (frame : Octets) (req : AcfMessageInfo) :
    Endpoint × AcfMessageInfo × Octets :=
  match requestType with
  | .clearAll => (admission.cancelAll, {}, [])
  | .clearNonSafestate => (admission.cancelNonSafestate, {}, [])
  | .clearSingle => applyClearSingle admission frame req
  | _ => (admission, {}, [])

/-- What `admit_and_classify` reports for a request it does not execute. -/
def classify (outcome : AdmitResult) (req : AcfMessageInfo) : Reply :=
  match outcome.outcome with
  | .queued | .pending =>
      if outcome.ack ≠ [] then ⟨none, makeResponse req .acknowledge, []⟩
      else if outcome.outcome = .queued then ⟨some (.dispatch .queued), {}, []⟩
      else ⟨some (.dispatch .pending), {}, []⟩
  | .suspended => ⟨some (.dispatch .suspended), {}, []⟩
  | _ =>
      match outcome.error with
      | none => ⟨some (.regmap .requestRejected), {}, []⟩
      | some error =>
          if admissionRejectResponseShape error = .errorResponse then
            errorReply req (.regmap .requestRejected) error
          else if req.evtAck then
            ⟨some (.regmap .requestRejected),
              makeAcknowledgeRejectedResponse req, encodeErrorPayload error⟩
          else ⟨some (.regmap .requestRejected), {}, []⟩

/-- `admit_and_classify`; no reply means that the caller executes. -/
def admitAndClassify (admission : Endpoint) (frame : Octets)
    (req : AcfMessageInfo) : Endpoint × Option Reply :=
  match admission.admitWithAck frame 0 false 0 0 with
  | (admission, outcome) =>
      if outcome.outcome = .executeNow then (admission, none)
      else if outcome.outcome = .cancellation then
        match outcome.requestType with
        | none => (admission, some ⟨some (.dispatch .cancelled), {}, []⟩)
        | some requestType =>
            let (admission, response, payload) :=
              applyCancellation admission requestType frame req
            (admission, some ⟨some (.dispatch .cancelled), response, payload⟩)
      else (admission, some (classify outcome req))

/-! ## The endpoint handlers -/

abbrev Answer := Except ErrorCode (ResponseKind × Octets)

abbrev Handler := Peripherals → AcfMessageInfo → Octets → Peripherals × Answer

/-- An acknowledge if the request asked for one, and `kind` otherwise. -/
def ackOr (req : AcfMessageInfo) (kind : ResponseKind) : ResponseKind :=
  if req.evtAck then .acknowledge else kind

def handleGpio : Handler := fun p req payload =>
  if !req.op then
    (p, .ok (.readResponse, Gpio.encodeGpioPayload p.gpio.read))
  else
    match Gpio.decodeGpioPayload payload with
    | .error e => (p, .error e)
    | .ok operand =>
        match p.gpio.handleWrite (Endpoint.writeSemanticsOf req.evtOp)
            operand with
        | (gpio, .error e) => ({ p with gpio := gpio }, .error e)
        | (gpio, .ok newValue) =>
            ({ p with gpio := gpio },
              .ok (ackOr req .writeResponse, Gpio.encodeGpioPayload newValue))

def handleSpi : Handler := fun p req payload =>
  match Spi.channelOf req.evtOp with
  | .error e => (p, .error e)
  | .ok channel =>
      match p.spi.transfer channel payload (p.spiPoci.getD channel []) with
      | (spi, some e) => ({ p with spi := spi }, .error e)
      | (spi, none) =>
          ({ p with spi := spi },
            .ok (.readResponse, spi.lastReceived channel))

def handleI2c : Handler := fun p req payload =>
  match p.i2c.handleRequest req.evtOp payload p.i2cResponse p.i2cAcked with
  | (i2c, some e) => ({ p with i2c := i2c }, .error e)
  | (i2c, none) =>
      ({ p with i2c := i2c }, .ok (ackOr req .readResponse, i2c.lastIn))

def measureAdc (p : Peripherals) (req : AcfMessageInfo) :
    Peripherals × Answer :=
  let sample : Adc.AdcSample := ⟨p.adcSamples.headD Adc.adcNoSignal, 0⟩
  match p.adc.executeMeasurementCycle [sample] with
  | (adc, some e) =>
      ({ p with adc := adc, adcSamples := p.adcSamples.tail }, .error e)
  | (adc, none) =>
      match adc.collectResponse 1 with
      | (adc, .error e) =>
          ({ p with adc := adc, adcSamples := p.adcSamples.tail }, .error e)
      | (adc, .ok (values, _)) =>
          ({ p with adc := adc, adcSamples := p.adcSamples.tail },
            let value := values.headD Adc.adcNoSignal
            if value = Adc.adcNoSignal then .error (.adc .noSignal)
            else .ok (ackOr req .readResponse, putBe 2 value.toNat))

def handleAdc : Handler := fun p req payload =>
  match Endpoint.evtRow2KindOf req.evtOp with
  | .reserved => (p, .error (.endpoint .reservedEvtRow2))
  | .configWrite =>
      match Adc.applyReconfig p.adcCfg payload with
      | .error e => (p, .error e)
      | .ok cfg => ({ p with adcCfg := cfg }, .ok (.writeResponse, []))
  | .plain => measureAdc p req

def handlePwmIn : Handler := fun p req _ =>
  match p.pwmIn.handleRequest req.evtOp with
  | .error e => (p, .error e)
  | .ok value => (p, .ok (ackOr req .readResponse, Pwm.encodePwmPayload value))

def handleLin : Handler := fun p req payload =>
  match p.lin.handleRequest req.evtOp payload p.linResponse p.linResponded with
  | (lin, some e) => ({ p with lin := lin }, .error e)
  | (lin, none) =>
      ({ p with lin := lin }, .ok (ackOr req .readResponse, lin.lastIn))

def handleCan : Handler := fun p req payload =>
  match p.can.handleRequest req.evtOp { data := payload } with
  | (can, some e) => ({ p with can := can }, .error e)
  | (can, none) => ({ p with can := can }, .ok (ackOr req .writeResponse, []))

def handleUart : Handler := fun p req payload =>
  match p.uart.handleRequest req.evtOp req.op payload
      req.readSizeOrSegmentNum.toNat 0 0 with
  | (uart, .error e) => ({ p with uart := uart }, .error e)
  | (uart, .ok (data, _)) =>
      ({ p with uart := uart },
        if req.op then .ok (ackOr req .writeResponse, [])
        else .ok (ackOr req .readResponse, data))

def handleIseled : Handler := fun p req payload =>
  match p.iseled.handleRequest req.evtOp payload with
  | (iseled, some e) => ({ p with iseled := iseled }, .error e)
  | (iseled, none) =>
      let iseled := iseled.receive p.iseledResponse
      ({ p with iseled := iseled },
        .ok (ackOr req .readResponse, iseled.lastReceived))

def handleMdio : Handler := fun p req payload =>
  let request : Mdio.MdioRequest :=
    { isWrite := req.op
      mdioPayload :=
        if req.op && decide (2 ≤ payload.length) then
          UInt32.ofNat (be16 payload)
        else 0 }
  match p.mdio.handleRequest req.evtOp request with
  | (mdio, .error e) => ({ p with mdio := mdio }, .error e)
  | (mdio, .ok value) =>
      ({ p with mdio := mdio },
        if req.op then .ok (ackOr req .writeResponse, [])
        else .ok (ackOr req .readResponse, putBe 2 value.toNat))

def handlerOf : Bus → Handler
  | .gpio => handleGpio
  | .spi => handleSpi
  | .i2c => handleI2c
  | .adc => handleAdc
  | .pwmIn => handlePwmIn
  | .lin => handleLin
  | .can => handleCan
  | .uart => handleUart
  | .iseled => handleIseled
  | .mdio => handleMdio

/-! ## Dispatch -/

def replyOf (req : AcfMessageInfo) : Answer → Reply
  | .error e => setErrorResponse req e
  | .ok (kind, payload) => ⟨none, makeResponse req kind, payload⟩

namespace Server

/-- The body the ten `dispatch_*_inner` functions share: the lifecycle gate,
the admission, and then the endpoint's own handler. -/
def dispatchInner (server : Server) (bus : Bus) (req : AcfMessageInfo)
    (payload : Octets) : Server × Reply :=
  if !server.operationalRequestsAllowed then
    (server, setErrorResponse req (.regmap .requestRejected))
  else
    match admitAndClassify (server.admission bus) (encodeAcfAbb req payload)
        req with
    | (admission, some reply) => (server.setAdmission bus admission, reply)
    | (admission, none) =>
        let server := server.setAdmission bus admission
        match handlerOf bus server.peripherals req payload with
        | (peripherals, answer) =>
            ({ server with peripherals := peripherals }, replyOf req answer)

def dispatchEp0 (server : Server) (req : AcfMessageInfo) : Reply :=
  if req.op then setErrorResponse req (.regmap .requestRejected)
  else ⟨none, makeResponse req .readResponse, putBe 4 server.regs.magic.toNat⟩

def dispatch (server : Server) (streamId : StreamId) (req : AcfMessageInfo)
    (payload : Octets) : Server × Reply :=
  if req.byteBusId = 0 then (server, server.dispatchEp0 req)
  else
    match Bus.ofId req.byteBusId with
    | none => (server, setErrorResponse req (.regmap .invalidParameter))
    | some bus =>
        match server.dispatchInner bus req payload with
        | (server, reply) =>
            (server, suppressResponsePerStreamCfg server.regs streamId reply)

/-- The conditional branch of `decode_and_dispatch`: admission without a
handler. -/
def admitConditional (server : Server) (streamId : StreamId)
    (frame : Octets) : Server × Reply :=
  let peek := decodeAcfMessageInfo frame
  match Bus.ofId peek.byteBusId with
  | none => (server, setErrorResponse peek (.regmap .invalidParameter))
  | some bus =>
      if !server.operationalRequestsAllowed then
        (server, suppressResponsePerStreamCfg server.regs streamId
          (setErrorResponse peek (.regmap .requestRejected)))
      else
        match admitAndClassify (server.admission bus) frame peek with
        | (admission, reply) =>
            (server.setAdmission bus admission,
              suppressResponsePerStreamCfg server.regs streamId
                (reply.getD ⟨none, {}, []⟩))

def decodeAndDispatch (server : Server) (streamId : StreamId)
    (frame : Octets) : Server × Reply :=
  if frame = [] then (server, ⟨some (.avtp .shortBuffer), {}, []⟩)
  else if (Endpoint.peekRequestType frame).isSome then
    server.admitConditional streamId frame
  else if peekAcfMsgType frame = acfMsgTypeGbb then
    match decodeAcfGbb frame with
    | .error e => (server, ⟨some e, {}, []⟩)
    | .ok (req, _, payload) => server.dispatch streamId req payload
  else
    match decodeAcfAbb frame with
    | .error e => (server, ⟨some e, {}, []⟩)
    | .ok (req, payload) => server.dispatch streamId req payload

end Server

end CppRcp.Mock
