import CppRcp.Peripherals.Common

/-!
# The peripherals behind the endpoints

One section for each endpoint kind the mock server hosts: its state and the
request handler the server calls.  A handler that fails returns its error code
with the state it left behind.
-/

namespace CppRcp

open CppRcp.Foundation CppRcp.Acf CppRcp.Endpoint

/-! ## GPIO -/

namespace Gpio

def maxPins : Nat := 32

def gpioPayloadLen : Nat := 4

structure GpioState where
  values : UInt32 := 0
  directions : UInt32 := 0
  deriving DecidableEq, Repr

def applyGpioWrite (op : WriteSemantics) (state : GpioState)
    (operand : UInt32) : Except ErrorCode GpioState :=
  match op with
  | .reconfigure => .ok { state with directions := operand }
  | op =>
      -- Subtract is request minus current here, unlike the shared helper.
      let out :=
        if op = .subtract then .ok (saturatingSubtract operand state.values)
        else applyBitmaskWrite op state.values operand
      match out with
      | .error e => .error e
      | .ok out =>
          .ok { state with
            values := (out &&& state.directions) |||
              (state.values &&& ~~~ state.directions) }

def gpioSignalId (pin edge : Nat) : UInt16 := UInt16.ofNat (pin * 4 + edge)

def evaluateGpioTriggers (triggers : TriggerRegistry)
    (oldValues newValues : UInt32) : TriggerRegistry :=
  (List.range maxPins).foldl
    (fun triggers pin =>
      let wasSet := oldValues.toNat.testBit pin
      let isSet := newValues.toNat.testBit pin
      if wasSet = isSet then triggers
      else
        (triggers.notify (gpioSignalId pin 0)).notify
          (gpioSignalId pin (if isSet then 1 else 2))) triggers

structure GpioEndpoint where
  state : GpioState := {}
  triggers : TriggerRegistry := {}
  deriving DecidableEq, Repr

def GpioEndpoint.read (gpio : GpioEndpoint) : UInt32 := gpio.state.values

def GpioEndpoint.handleWrite (gpio : GpioEndpoint) (op : WriteSemantics)
    (operand : UInt32) : GpioEndpoint × Except ErrorCode UInt32 :=
  match applyGpioWrite op gpio.state operand with
  | .error e => (gpio, .error e)
  | .ok state =>
      (⟨state, evaluateGpioTriggers gpio.triggers gpio.state.values state.values⟩,
        .ok state.values)

def encodeGpioPayload (mask : UInt32) : Octets := putBe 4 mask.toNat

def decodeGpioPayload (octets : Octets) : Except ErrorCode UInt32 :=
  if octets.length ≠ gpioPayloadLen then .error (.avtp .shortBuffer)
  else .ok (UInt32.ofNat (getBe octets))

end Gpio

/-! ## SPI -/

namespace Spi

def maxChannels : Nat := 6

def channelOf (evtOp : UInt8) : Except ErrorCode Nat :=
  if evtOp.toNat % 8 < maxChannels then .ok (evtOp.toNat % 8)
  else .error (.spi .badChannel)

def spiSignalId (channel signal : Nat) : UInt16 :=
  UInt16.ofNat (channel * 4 + signal)

structure SpiEndpoint where
  triggers : TriggerRegistry := {}
  lastPicoOut : List Octets := List.replicate maxChannels []
  lastPociIn : List Octets := List.replicate maxChannels []
  deriving DecidableEq, Repr

def SpiEndpoint.transfer (spi : SpiEndpoint) (channel : Nat)
    (picoOut pociIn : Octets) : SpiEndpoint × Option ErrorCode :=
  if maxChannels ≤ channel then (spi, some (.spi .badChannel))
  else
    ({ triggers := ((spi.triggers.notify (spiSignalId channel 1)).notify
          (spiSignalId channel 0)).notify (spiSignalId channel 2)
       lastPicoOut := spi.lastPicoOut.set channel picoOut
       lastPociIn := spi.lastPociIn.set channel pociIn }, none)

def SpiEndpoint.lastReceived (spi : SpiEndpoint) (channel : Nat) : Octets :=
  spi.lastPociIn.getD channel []

end Spi

/-! ## I2C and LIN -/

namespace I2c

structure I2cEndpoint where
  triggers : TriggerRegistry := {}
  lastOut : Octets := []
  lastIn : Octets := []
  deriving DecidableEq, Repr

def I2cEndpoint.transfer (i2c : I2cEndpoint) (outBytes inBytes : Octets)
    (acked : Bool) : I2cEndpoint × Option ErrorCode :=
  let triggers := i2c.triggers.notify 0
  if acked then (⟨triggers, outBytes, inBytes⟩, none)
  else (⟨triggers.notify 1, outBytes, inBytes⟩, some (.i2c .nack))

def I2cEndpoint.handleRequest (i2c : I2cEndpoint) (evtOp : UInt8)
    (outBytes inBytes : Octets) (acked : Bool) :
    I2cEndpoint × Option ErrorCode :=
  onRow2 evtOp (.i2c .configWriteNotSupported) i2c
    (i2c.transfer outBytes inBytes acked)

end I2c

namespace Lin

structure LinEndpoint where
  triggers : TriggerRegistry := {}
  lastOut : Octets := []
  lastIn : Octets := []
  deriving DecidableEq, Repr

def LinEndpoint.transfer (lin : LinEndpoint) (outBytes inBytes : Octets)
    (responded : Bool) : LinEndpoint × Option ErrorCode :=
  if responded then (⟨lin.triggers.notify 0, outBytes, inBytes⟩, none)
  else
    (⟨lin.triggers.notify 1, outBytes, inBytes⟩, some (.lin .noResponse))

def LinEndpoint.handleRequest (lin : LinEndpoint) (evtOp : UInt8)
    (outBytes inBytes : Octets) (responded : Bool) :
    LinEndpoint × Option ErrorCode :=
  onRow2 evtOp (.lin .configWriteNotSupported) lin
    (lin.transfer outBytes inBytes responded)

end Lin

/-! ## ADC -/

namespace Adc

def adcNoSignal : UInt16 := 0xFFFF
def adcMaxCombineValues : Nat := 255

structure AdcSample where
  value : UInt16 := 0
  timestamp : Nat := 0
  deriving DecidableEq, Repr

/-- The mean of the samples that carry a signal, with the timestamp of the
last of them. -/
def averageInterval (samples : List AdcSample) : AdcSample :=
  let counted := samples.filter fun sample => sample.value ≠ adcNoSignal
  match samples.getLast? with
  | none => ⟨adcNoSignal, 0⟩
  | some last =>
      ⟨if counted.length = 0 then adcNoSignal
        else UInt16.ofNat
          ((counted.map fun sample => sample.value.toNat).sum / counted.length),
        (counted.getLast?.getD last).timestamp⟩

structure AdcFunctionalConfig where
  epEnable : Bool := false
  epClearReqStorage : Bool := false
  epReqCrcEnable : Bool := false
  epResponseTsEnable : Bool := false
  epSuppressResponse : Bool := false
  adcSamplesPerAvgInterval : UInt16 := 0
  adcAvgIntervalsPerRequest : UInt16 := 0
  adcCombineAvgValues : UInt8 := 0
  epStatus : UInt16 := 0
  baseClkDivider : UInt8 := 0
  sampleInterval : UInt8 := 0
  resolution : UInt8 := 0
  triggerMin : UInt16 := 0
  triggerMax : UInt16 := 0
  deriving DecidableEq, Repr

def adcEpFuncLen : Nat := 0x12
def adcReconfigAddrLen : Nat := 2

def adcRegOffsetReadOnly (addr : Nat) : Bool :=
  addr = 0 || addr = 1 || addr = 4 || addr = 5

def renderRegisters (cfg : AdcFunctionalConfig) : Octets :=
  [UInt8.ofNat adcEpFuncLen, 0,
    UInt8.ofNat (weight cfg.epEnable 1 + weight cfg.epClearReqStorage 16),
    UInt8.ofNat (weight cfg.epReqCrcEnable 1 +
      weight cfg.epResponseTsEnable 8 + weight cfg.epSuppressResponse 128),
    0, 0] ++ putBe 2 cfg.epStatus.toNat ++
    [cfg.baseClkDivider, cfg.sampleInterval,
      UInt8.ofNat cfg.adcAvgIntervalsPerRequest.toNat,
      UInt8.ofNat cfg.adcSamplesPerAvgInterval.toNat,
      cfg.adcCombineAvgValues, cfg.resolution] ++
    putBe 2 cfg.triggerMin.toNat ++ putBe 2 cfg.triggerMax.toNat

def adcParseRegisters (block : Octets) : AdcFunctionalConfig :=
  let octet := fun index => octetAt block index
  { epEnable := flag (octet 2) 0
    epClearReqStorage := flag (octet 2) 4
    epReqCrcEnable := flag (octet 3) 0
    epResponseTsEnable := flag (octet 3) 3
    epSuppressResponse := flag (octet 3) 7
    epStatus := UInt16.ofNat (be16 (block.drop 6))
    baseClkDivider := octet 8
    sampleInterval := octet 9
    adcAvgIntervalsPerRequest := UInt16.ofNat (octet 10).toNat
    adcSamplesPerAvgInterval := UInt16.ofNat (octet 11).toNat
    adcCombineAvgValues := octet 12
    resolution := octet 13
    triggerMin := UInt16.ofNat (be16 (block.drop 14))
    triggerMax := UInt16.ofNat (be16 (block.drop 16)) }

def writeBlock (block : Octets) (addr : Nat) : Octets → Octets
  | [] => block
  | octet :: octets =>
      writeBlock
        (if adcRegOffsetReadOnly addr then block else block.set addr octet)
        (addr + 1) octets

def applyReconfig (cfg : AdcFunctionalConfig) (payload : Octets) :
    Except ErrorCode AdcFunctionalConfig :=
  if payload.length ≤ adcReconfigAddrLen then .error (.adc .reconfigShort)
  else if adcEpFuncLen <
      be16 payload + (payload.length - adcReconfigAddrLen) then
    .error (.adc .reconfigOutOfRange)
  else
    .ok (adcParseRegisters (writeBlock (renderRegisters cfg) (be16 payload)
      (payload.drop adcReconfigAddrLen)))

structure AdcEndpoint where
  pending : List AdcSample := []
  deriving DecidableEq, Repr

/-- `execute_measurement_cycle`, given the samples it takes. -/
def AdcEndpoint.executeMeasurementCycle (adc : AdcEndpoint)
    (samples : List AdcSample) : AdcEndpoint × Option ErrorCode :=
  if adcMaxCombineValues ≤ adc.pending.length then
    (adc, some (.adc .pendingValuesFull))
  else (⟨adc.pending ++ [averageInterval samples]⟩, none)

/-- `collect_response`: the collected values and the capture time. -/
def AdcEndpoint.collectResponse (adc : AdcEndpoint) (combine : Nat) :
    AdcEndpoint × Except ErrorCode (List UInt16 × Nat) :=
  if adc.pending.length < combine then (adc, .error (.adc .responseNotReady))
  else
    let front := adc.pending.take combine
    (⟨adc.pending.drop combine⟩,
      .ok (front.map fun sample => sample.value,
        match front with
        | [] => 0
        | sample :: _ => sample.timestamp))

end Adc

/-! ## PWM input -/

namespace Pwm

structure PwmValue where
  period : UInt16 := 0
  activeDuration : UInt16 := 0
  deriving DecidableEq, Repr

def encodePwmPayload (value : PwmValue) : Octets :=
  putBe 2 value.period.toNat ++ putBe 2 value.activeDuration.toNat

structure PwmInEndpoint where
  lastValue : PwmValue := {}
  hasSignal : Bool := false
  triggers : TriggerRegistry := {}
  deriving DecidableEq, Repr

def PwmInEndpoint.recordMeasurement (pwm : PwmInEndpoint) (value : PwmValue) :
    PwmInEndpoint :=
  ⟨value, true, (pwm.triggers.notify 0).notify 1⟩

def PwmInEndpoint.handleRead (pwm : PwmInEndpoint) :
    Except ErrorCode PwmValue :=
  if pwm.hasSignal then .ok pwm.lastValue else .error (.pwm .noSignal)

def PwmInEndpoint.handleRequest (pwm : PwmInEndpoint) (evtOp : UInt8) :
    Except ErrorCode PwmValue :=
  match evtRow2KindOf evtOp with
  | .plain => pwm.handleRead
  | .reserved => .error (.endpoint .reservedEvtRow2)
  | .configWrite => .error (.pwm .configWriteNotSupported)

end Pwm

/-! ## CAN -/

namespace Can

inductive FrameFormat
  | cbff | ceff | fbff | feff | xlClassicalPl | xlNewPl
  deriving DecidableEq, Repr

def frameFormatIsXl (format : FrameFormat) : Bool :=
  decide (format = .xlClassicalPl) || decide (format = .xlNewPl)

def frameFormatMaxDataLen : FrameFormat → Nat
  | .cbff | .ceff => 8
  | .fbff | .feff => 64
  | .xlClassicalPl | .xlNewPl => 2048

def arbitrationIdValid (format : FrameFormat) (id : UInt32) : Bool :=
  match format with
  | .ceff | .feff => decide (id.toNat ≤ 0x1FFFFFFF)
  | _ => decide (id.toNat ≤ 0x7FF)

def maxXlPayloadSingleFrame : Nat := acfAbbMaxPayload - 4 - 6

structure CanDataFrame where
  format : FrameFormat := .cbff
  arbitrationId : UInt32 := 0
  data : Octets := []
  deriving DecidableEq, Repr

def validateFrame (frame : CanDataFrame) : Option ErrorCode :=
  if !arbitrationIdValid frame.format frame.arbitrationId then
    some (.can .identifierOutOfRange)
  else if frameFormatMaxDataLen frame.format < frame.data.length then
    some (.can .payloadExceedsFormatLimit)
  else if frameFormatIsXl frame.format &&
      decide (maxXlPayloadSingleFrame < frame.data.length) then
    some (.can .xlPayloadExceedsSingleAvtpduBound)
  else none

structure CanEndpoint where
  lastTx : CanDataFrame := {}
  deriving DecidableEq, Repr

def CanEndpoint.transmit (can : CanEndpoint) (frame : CanDataFrame) :
    CanEndpoint × Option ErrorCode :=
  match validateFrame frame with
  | some e => (can, some e)
  | none => (⟨frame⟩, none)

def CanEndpoint.handleRequest (can : CanEndpoint) (evtOp : UInt8)
    (frame : CanDataFrame) : CanEndpoint × Option ErrorCode :=
  onRow2 evtOp (.can .configWriteNotSupported) can (can.transmit frame)

end Can

/-! ## UART -/

namespace Uart

def maxReadSize : Nat := 0x0FFF
def rxFifoCapacity : Nat := 512
def txQueueCapacity : Nat := 512

structure UartEndpoint where
  txQueue : Octets := []
  rxFifo : Octets := []
  deriving DecidableEq, Repr

namespace UartEndpoint

def enqueueTx (uart : UartEndpoint) (octets : Octets) :
    UartEndpoint × Option ErrorCode :=
  if txQueueCapacity < uart.txQueue.length + octets.length then
    (uart, some (.uart .txQueueOverflow))
  else ({ uart with txQueue := uart.txQueue ++ octets }, none)

def drainTx (uart : UartEndpoint) : UartEndpoint × Octets :=
  ({ uart with txQueue := [] }, uart.txQueue)

def rxFill (uart : UartEndpoint) (octets : Octets) :
    UartEndpoint × Option ErrorCode :=
  if rxFifoCapacity < uart.rxFifo.length + octets.length then
    (uart, some (.uart .rxFifoOverflow))
  else ({ uart with rxFifo := uart.rxFifo ++ octets }, none)

def handleRead (uart : UartEndpoint) (readSize : Nat)
    (elapsedMs uartTimeoutMs : Nat) :
    UartEndpoint × Except ErrorCode (Octets × Bool) :=
  if maxReadSize < readSize then
    (uart, .error (.uart .readSizeExceedsBound))
  else
    let data := uart.rxFifo.take readSize
    let reached := decide (readSize ≤ data.length) && decide (0 < readSize)
    ({ uart with rxFifo := uart.rxFifo.drop readSize },
      .ok (data, !reached && decide (uartTimeoutMs ≤ elapsedMs)))

def handlePureRead (uart : UartEndpoint) : UartEndpoint × Octets :=
  ({ uart with rxFifo := [] }, uart.rxFifo)

def handleRequest (uart : UartEndpoint) (evtOp : UInt8) (isWrite : Bool)
    (txBytes : Octets) (readSize elapsedMs uartTimeoutMs : Nat) :
    UartEndpoint × Except ErrorCode (Octets × Bool) :=
  match evtRow2KindOf evtOp with
  | .plain =>
      if isWrite then
        match uart.enqueueTx txBytes with
        | (uart, some e) => (uart, .error e)
        | (uart, none) => (uart, .ok ([], false))
      else uart.handleRead readSize elapsedMs uartTimeoutMs
  | .reserved => (uart, .error (.endpoint .reservedEvtRow2))
  | .configWrite => (uart, .error (.uart .configWriteNotSupported))

end UartEndpoint

end Uart

/-! ## ISELED -/

namespace Iseled

structure IseledEndpoint where
  triggers : TriggerRegistry := {}
  lastSent : Octets := []
  lastReceived : Octets := []
  deriving DecidableEq, Repr

def IseledEndpoint.send (iseled : IseledEndpoint) (txData : Octets) :
    IseledEndpoint :=
  { iseled with lastSent := txData, triggers := iseled.triggers.notify 0 }

def IseledEndpoint.receive (iseled : IseledEndpoint) (rxData : Octets) :
    IseledEndpoint :=
  { iseled with lastReceived := rxData }

def IseledEndpoint.handleRequest (iseled : IseledEndpoint) (evtOp : UInt8)
    (txData : Octets) : IseledEndpoint × Option ErrorCode :=
  onRow2 evtOp (.iseled .configWriteNotSupported) iseled
    (iseled.send txData, none)

end Iseled

/-! ## MDIO -/

namespace Mdio

inductive MdioMode
  | mmdSingleWord | mmdMultiWord | mmsSingleWord | mmsMultiWord
  deriving DecidableEq, Repr

def payloadWidthBits (mode : MdioMode) (mmsIs0Or1 : Bool) : Nat :=
  if mode = .mmsMultiWord && mmsIs0Or1 then 32 else 16

structure MdioRequest where
  mode : MdioMode := .mmdSingleWord
  mdioAddress : UInt16 := 0
  mmsIs0Or1 : Bool := false
  isWrite : Bool := false
  mdioPayload : UInt32 := 0
  deriving DecidableEq, Repr

def validateRequest (request : MdioRequest) : Option ErrorCode :=
  if 2 ^ payloadWidthBits request.mode request.mmsIs0Or1 ≤
      request.mdioPayload.toNat then
    some (.mdio .payloadExceedsModeWidth)
  else none

structure MdioEndpoint where
  lastRequest : MdioRequest := {}
  registers : List ((MdioMode × UInt16) × UInt32) := []
  deriving DecidableEq, Repr

def MdioEndpoint.transact (mdio : MdioEndpoint) (request : MdioRequest) :
    MdioEndpoint × Except ErrorCode UInt32 :=
  match validateRequest request with
  | some e => (mdio, .error e)
  | none =>
      let key := (request.mode, request.mdioAddress)
      if request.isWrite then
        (⟨request, (key, request.mdioPayload) ::
            mdio.registers.filter fun entry => entry.1 ≠ key⟩,
          .ok request.mdioPayload)
      else
        ({ mdio with lastRequest := request },
          .ok ((mdio.registers.lookup key).getD 0))

def MdioEndpoint.handleRequest (mdio : MdioEndpoint) (evtOp : UInt8)
    (request : MdioRequest) : MdioEndpoint × Except ErrorCode UInt32 :=
  match evtRow2KindOf evtOp with
  | .plain => mdio.transact request
  | .reserved => (mdio, .error (.endpoint .reservedEvtRow2))
  | .configWrite => (mdio, .error (.mdio .configWriteNotSupported))

end Mdio

end CppRcp
