import CppRcp.Foundation.RowBlock
import CppRcp.Peripherals.Endpoints

/-!
# The functional registers of the endpoints

Every endpoint kind has a block of registers, which a configuration request
writes by address.  One section for each kind: its functional configuration,
how the configuration is rendered as a block and read back from one, and the
write.  Fields without a register are left as they are.
-/

namespace CppRcp.Endpoint

open CppRcp.Foundation CppRcp.Acf

def kReconfigAddrLen : Nat := 2

def reconfigStart (payload : Octets) : Nat := getBe (payload.take 2)

def reconfigData (payload : Octets) : Octets := payload.drop kReconfigAddrLen

/-- The body of every `apply_reconfig`: the configuration after the write, and
the error if it is refused. -/
def applyBlockReconfig {σ ε : Type} (block : RegisterBlock UInt8 σ)
    (shortPayload outOfRange : ε) (cfg : σ) (payload : Octets) :
    σ × Option ε :=
  if payload.length ≤ kReconfigAddrLen then (cfg, some shortPayload)
  else if block.len < reconfigStart payload + (reconfigData payload).length then
    (cfg, some outOfRange)
  else (block.write cfg (reconfigStart payload) (reconfigData payload), none)

/-- The octet of `kRegEpEnableClr`. -/
def renderEnableClr (epEnable epClearReqStorage : Bool) : UInt8 :=
  UInt8.ofNat (weight epEnable 0x01 + weight epClearReqStorage 0x10)

/-- The octet of `kRegEpOptions`. -/
def renderOptions
    (epReqCrcEnable epResponseTsEnable epSuppressResponse : Bool) : UInt8 :=
  UInt8.ofNat (weight epReqCrcEnable 0x01 + weight epResponseTsEnable 0x08 +
    weight epSuppressResponse 0x80)

def getU16At (block : Octets) (addr : Nat) : UInt16 :=
  UInt16.ofNat (be16 (block.drop addr))

end CppRcp.Endpoint

namespace CppRcp

open CppRcp.Foundation CppRcp.Acf CppRcp.Endpoint

/-! ## UART -/

namespace Uart

def nrBitsMin : UInt8 := 1
def nrBitsMax : UInt8 := 8

def nrBitsValid (nrBits : UInt8) : Bool :=
  nrBitsMin ≤ nrBits && nrBits ≤ nrBitsMax

inductive Parity
  | none | odd | even
  deriving DecidableEq, Repr

def Parity.toOctet : Parity → UInt8
  | .none => 0
  | .odd => 1
  | .even => 2

inductive StopBits
  | one | two | oneHalf
  deriving DecidableEq, Repr

def StopBits.toOctet : StopBits → UInt8
  | .one => 0
  | .two => 1
  | .oneHalf => 2

inductive UartTrigger
  | none | txFinalized | rxFinalized
  deriving DecidableEq, Repr

/-- `parity` and `stopBits` are raw octets in the source too. -/
structure UartFunctionalCfg where
  epEnable : Bool := false
  epClearReqStorage : Bool := false
  epReqCrcEnable : Bool := false
  epResponseTsEnable : Bool := false
  epSuppressResponse : Bool := false
  baudRate : UInt32 := 0
  uartNrBits : UInt8 := nrBitsMax
  parity : UInt8 := Parity.none.toOctet
  stopBits : UInt8 := StopBits.one.toOctet
  epRxBufferSize : UInt16 := 0
  uartTimeoutMs : UInt32 := 0
  epStatus : UInt16 := 0
  baudRateKbps : UInt16 := 0
  rtsEnable : Bool := false
  ctsEnable : Bool := false
  halfDuplex : Bool := false
  wireTimeoutBitTimes : UInt8 := 0
  trail : UInt8 := 0
  trigger : UartTrigger := .none
  deriving DecidableEq, Repr

inductive UartReconfigErrc
  | shortPayload | outOfRange
  deriving DecidableEq, Repr

def kEpFuncLen : Nat := 0x0D

def stopBitsToHalfUnits (stopBits : UInt8) : UInt8 :=
  if stopBits = StopBits.two.toOctet then 4
  else if stopBits = StopBits.oneHalf.toOctet then 3
  else 2

def halfUnitsToStopBits (halfUnits : UInt8) : UInt8 :=
  if halfUnits = 3 then StopBits.oneHalf.toOctet
  else if 4 ≤ halfUnits then StopBits.two.toOctet
  else StopBits.one.toOctet

def regOffsetReadOnly (addr : Nat) : Bool := addr = 0 || addr = 1

def renderFlags (cfg : UartFunctionalCfg) : UInt8 :=
  UInt8.ofNat (weight (cfg.parity ≠ Parity.none.toOctet) 0x01 +
    weight (cfg.parity = Parity.even.toOctet) 0x02 +
    weight cfg.rtsEnable 0x04 + weight cfg.ctsEnable 0x08 +
    weight cfg.halfDuplex 0x10)

def renderRegisters (cfg : UartFunctionalCfg) : Octets :=
  [UInt8.ofNat kEpFuncLen, 0,
    renderEnableClr cfg.epEnable cfg.epClearReqStorage,
    renderOptions cfg.epReqCrcEnable cfg.epResponseTsEnable
      cfg.epSuppressResponse] ++
    (putBe 2 cfg.epStatus.toNat ++ (putBe 2 cfg.baudRateKbps.toNat ++
      [cfg.uartNrBits, renderFlags cfg, stopBitsToHalfUnits cfg.stopBits,
        cfg.wireTimeoutBitTimes, cfg.trail]))

def parseParity (flags : UInt8) : UInt8 :=
  if !flag flags 0 then Parity.none.toOctet
  else if flag flags 1 then Parity.even.toOctet
  else Parity.odd.toOctet

def parseRegisters (block : Octets) (cfg : UartFunctionalCfg) :
    UartFunctionalCfg :=
  let octet := fun addr => octetAt block addr
  { cfg with
    epEnable := flag (octet 2) 0
    epClearReqStorage := flag (octet 2) 4
    epReqCrcEnable := flag (octet 3) 0
    epResponseTsEnable := flag (octet 3) 3
    epSuppressResponse := flag (octet 3) 7
    epStatus := getU16At block 4
    baudRateKbps := getU16At block 6
    uartNrBits := octet 8
    parity := parseParity (octet 9)
    rtsEnable := flag (octet 9) 2
    ctsEnable := flag (octet 9) 3
    halfDuplex := flag (octet 9) 4
    stopBits := halfUnitsToStopBits (octet 10)
    wireTimeoutBitTimes := octet 11
    trail := octet 12 }

theorem length_renderRegisters (cfg : UartFunctionalCfg) :
    (renderRegisters cfg).length = kEpFuncLen := rfl

def epFuncBlock : RegisterBlock UInt8 UartFunctionalCfg :=
  ⟨kEpFuncLen, regOffsetReadOnly, renderRegisters, parseRegisters,
    length_renderRegisters⟩

def applyReconfig : UartFunctionalCfg → Octets →
    UartFunctionalCfg × Option UartReconfigErrc :=
  applyBlockReconfig epFuncBlock .shortPayload .outOfRange

end Uart

/-! ## I2C -/

namespace I2c

inductive I2cMode
  | standard | fast | fastPlus | highSpeed | ultraFast
  deriving DecidableEq, Repr

def I2cMode.toOctet : I2cMode → UInt8
  | .standard => 0
  | .fast => 1
  | .fastPlus => 2
  | .highSpeed => 3
  | .ultraFast => 4

def i2cModeValid (v : UInt8) : Bool := v ≤ I2cMode.ultraFast.toOctet

structure I2cFunctionalCfg where
  epEnable : Bool := false
  epClearReqStorage : Bool := false
  epReqCrcEnable : Bool := false
  epResponseTsEnable : Bool := false
  epSuppressResponse : Bool := false
  i2cMode : UInt8 := I2cMode.standard.toOctet
  epStatus : UInt16 := 0
  clockDivider : UInt8 := 0
  trail : UInt8 := 0
  deriving DecidableEq, Repr

inductive I2cReconfigErrc
  | shortPayload | outOfRange
  deriving DecidableEq, Repr

def kEpFuncLen : Nat := 0x0B

def regOffsetReadOnly (addr : Nat) : Bool :=
  addr = 0 || addr = 1 || addr = 4 || addr = 5

def renderRegisters (cfg : I2cFunctionalCfg) : Octets :=
  [UInt8.ofNat kEpFuncLen, 0,
    renderEnableClr cfg.epEnable cfg.epClearReqStorage,
    renderOptions cfg.epReqCrcEnable cfg.epResponseTsEnable
      cfg.epSuppressResponse,
    0, 0] ++
    (putBe 2 cfg.epStatus.toNat ++ [cfg.clockDivider, cfg.i2cMode, cfg.trail])

def parseRegisters (block : Octets) (cfg : I2cFunctionalCfg) :
    I2cFunctionalCfg :=
  let octet := fun addr => octetAt block addr
  { cfg with
    epEnable := flag (octet 2) 0
    epClearReqStorage := flag (octet 2) 4
    epReqCrcEnable := flag (octet 3) 0
    epResponseTsEnable := flag (octet 3) 3
    epSuppressResponse := flag (octet 3) 7
    epStatus := getU16At block 6
    clockDivider := octet 8
    i2cMode := octet 9
    trail := octet 10 }

theorem length_renderRegisters (cfg : I2cFunctionalCfg) :
    (renderRegisters cfg).length = kEpFuncLen := rfl

def epFuncBlock : RegisterBlock UInt8 I2cFunctionalCfg :=
  ⟨kEpFuncLen, regOffsetReadOnly, renderRegisters, parseRegisters,
    length_renderRegisters⟩

def applyReconfig : I2cFunctionalCfg → Octets →
    I2cFunctionalCfg × Option I2cReconfigErrc :=
  applyBlockReconfig epFuncBlock .shortPayload .outOfRange

end I2c

/-! ## SPI -/

namespace Spi

inductive SpiMode
  | mode0 | mode1 | mode2 | mode3
  deriving DecidableEq, Repr

inductive SpiBitOrder
  | msbFirst | lsbFirst
  deriving DecidableEq, Repr

inductive SpiCsPolarity
  | activeLow | activeHigh
  deriving DecidableEq, Repr

inductive SpiTrigger
  | none | transferDone | csAssert | csDeassert
  deriving DecidableEq, Repr

def modeCpol : SpiMode → Bool
  | .mode2 | .mode3 => true
  | .mode0 | .mode1 => false

def modeCpha : SpiMode → Bool
  | .mode1 | .mode3 => true
  | .mode0 | .mode2 => false

def modeFromBits (cpol cpha : Bool) : SpiMode :=
  if !cpol && !cpha then .mode0
  else if !cpol && cpha then .mode1
  else if cpol && !cpha then .mode2
  else .mode3

structure SpiChannelCfg where
  mode : SpiMode := .mode0
  bitOrder : SpiBitOrder := .msbFirst
  csPolarity : SpiCsPolarity := .activeLow
  trigger : SpiTrigger := .none
  clockDivider : UInt32 := 0
  interByteDelayNs : UInt32 := 0
  interTransferDelayNs : UInt32 := 0
  baudRateKbps : UInt16 := 0
  useCommonCs : Bool := false
  csClkLeadtime : UInt8 := 0
  clkCsTrailtime : UInt8 := 0
  bitsMax : UInt8 := 0
  pauseMin : UInt8 := 0
  deassertCsPause : Bool := false
  deriving DecidableEq, Repr

structure SpiFunctionalCfg where
  epEnable : Bool := false
  epClearReqStorage : Bool := false
  epReqCrcEnable : Bool := false
  epResponseTsEnable : Bool := false
  epSuppressResponse : Bool := false
  channels : Fin maxChannels → SpiChannelCfg := fun _ => {}
  epStatus : UInt16 := 0

inductive SpiReconfigErrc
  | shortPayload | outOfRange
  deriving DecidableEq, Repr

def kRegChannelBase : Nat := 0x06
def kRegChannelSpan : Nat := 0x08
def kChRegReserved : Nat := 0x07

def kEpFuncLen : Nat := kRegChannelBase + maxChannels * kRegChannelSpan

def regOffsetReadOnly (addr : Nat) : Bool :=
  if addr = 0 || addr = 1 then true
  else if kRegChannelBase ≤ addr then
    (addr - kRegChannelBase) % kRegChannelSpan = kChRegReserved
  else false

def renderChannelCfg (ch : SpiChannelCfg) : UInt8 :=
  UInt8.ofNat (weight (modeCpol ch.mode) 0x01 + weight (modeCpha ch.mode) 0x02 +
    weight (ch.csPolarity = .activeHigh) 0x04 + weight ch.useCommonCs 0x08 +
    weight ch.deassertCsPause 0x10)

def renderChannel (ch : SpiChannelCfg) : Octets :=
  putBe 2 ch.baudRateKbps.toNat ++
    [renderChannelCfg ch, ch.csClkLeadtime, ch.clkCsTrailtime, ch.bitsMax,
      ch.pauseMin, 0]

/-- `spi_nr_cs` is the number of channels less 1, in four bits. -/
def renderRegisters (cfg : SpiFunctionalCfg) : Octets :=
  [UInt8.ofNat kEpFuncLen, UInt8.ofNat ((maxChannels - 1) % 16),
    renderEnableClr cfg.epEnable cfg.epClearReqStorage,
    renderOptions cfg.epReqCrcEnable cfg.epResponseTsEnable
      cfg.epSuppressResponse] ++
    (putBe 2 cfg.epStatus.toNat ++
      (List.ofFn fun c => renderChannel (cfg.channels c)).flatten)

/-- The registers of one channel, whose first is at `base`. -/
def parseChannel (block : Octets) (base : Nat) (ch : SpiChannelCfg) :
    SpiChannelCfg :=
  let cfgByte := octetAt block (base + 2)
  { ch with
    mode := modeFromBits (flag cfgByte 0) (flag cfgByte 1)
    csPolarity := if flag cfgByte 2 then .activeHigh else .activeLow
    useCommonCs := flag cfgByte 3
    deassertCsPause := flag cfgByte 4
    baudRateKbps := getU16At block base
    csClkLeadtime := octetAt block (base + 3)
    clkCsTrailtime := octetAt block (base + 4)
    bitsMax := octetAt block (base + 5)
    pauseMin := octetAt block (base + 6) }

def parseRegisters (block : Octets) (cfg : SpiFunctionalCfg) :
    SpiFunctionalCfg :=
  let octet := fun addr => octetAt block addr
  { epEnable := flag (octet 2) 0
    epClearReqStorage := flag (octet 2) 4
    epReqCrcEnable := flag (octet 3) 0
    epResponseTsEnable := flag (octet 3) 3
    epSuppressResponse := flag (octet 3) 7
    epStatus := getU16At block 4
    channels := fun c =>
      parseChannel block (kRegChannelBase + c * kRegChannelSpan)
        (cfg.channels c) }

theorem length_renderChannels (cfg : SpiFunctionalCfg) :
    ∀ row ∈ List.ofFn fun c => renderChannel (cfg.channels c),
      row.length = kRegChannelSpan := by
  intro row hMem
  obtain ⟨c, rfl⟩ := (List.mem_ofFn' _ _).mp hMem
  rfl

theorem length_renderRegisters (cfg : SpiFunctionalCfg) :
    (renderRegisters cfg).length = kEpFuncLen := by
  have hRows := length_flatten_rows (length_renderChannels cfg)
  rw [List.length_ofFn] at hRows
  unfold renderRegisters kEpFuncLen
  rw [List.length_append, List.length_append, length_putBe, hRows]
  rfl

def epFuncBlock : RegisterBlock UInt8 SpiFunctionalCfg :=
  ⟨kEpFuncLen, regOffsetReadOnly, renderRegisters, parseRegisters,
    length_renderRegisters⟩

def applyReconfig : SpiFunctionalCfg → Octets →
    SpiFunctionalCfg × Option SpiReconfigErrc :=
  applyBlockReconfig epFuncBlock .shortPayload .outOfRange

end Spi

/-! ## GPIO -/

namespace Gpio

inductive GpioTrigger
  | none | anyChange | rising | falling
  deriving DecidableEq, Repr

structure GpioPinCfg where
  pinProperty : UInt8 := 0
  trigger : GpioTrigger := .none
  deriving DecidableEq, Repr

structure GpioFunctionalConfig where
  epEnable : Bool := false
  epClearReqStorage : Bool := false
  epReqCrcEnable : Bool := false
  epResponseTsEnable : Bool := false
  epSuppressResponse : Bool := false
  pins : Fin maxPins → GpioPinCfg := fun _ => {}
  epStatus : UInt16 := 0
  clkDivider : UInt8 := 0
  debounce : Fin maxPins → UInt8 := fun _ => 0

def kGpioRegDebounceIo0 : Nat := 0x09

def kGpioEpFuncLen : Nat := 0x29

def gpioRegOffsetReadOnly (addr : Nat) : Bool :=
  addr = 0 || addr = 1 || addr = 4 || addr = 5

def renderRegisters (cfg : GpioFunctionalConfig) : Octets :=
  [UInt8.ofNat kGpioEpFuncLen, UInt8.ofNat maxPins,
    renderEnableClr cfg.epEnable cfg.epClearReqStorage,
    renderOptions cfg.epReqCrcEnable cfg.epResponseTsEnable
      cfg.epSuppressResponse,
    0, 0] ++
    (putBe 2 cfg.epStatus.toNat ++ (cfg.clkDivider :: List.ofFn cfg.debounce))

def gpioParseRegisters (block : Octets) (cfg : GpioFunctionalConfig) :
    GpioFunctionalConfig :=
  let octet := fun addr => octetAt block addr
  { cfg with
    epEnable := flag (octet 2) 0
    epClearReqStorage := flag (octet 2) 4
    epReqCrcEnable := flag (octet 3) 0
    epResponseTsEnable := flag (octet 3) 3
    epSuppressResponse := flag (octet 3) 7
    epStatus := getU16At block 6
    clkDivider := octet 8
    debounce := fun i => octet (kGpioRegDebounceIo0 + i) }

theorem length_renderRegisters (cfg : GpioFunctionalConfig) :
    (renderRegisters cfg).length = kGpioEpFuncLen := by
  have hLength : (renderRegisters cfg).length =
      (List.ofFn cfg.debounce).length + kGpioRegDebounceIo0 := rfl
  rw [hLength, List.length_ofFn]
  rfl

def epFuncBlock : RegisterBlock UInt8 GpioFunctionalConfig :=
  ⟨kGpioEpFuncLen, gpioRegOffsetReadOnly, renderRegisters, gpioParseRegisters,
    length_renderRegisters⟩

def applyReconfig : GpioFunctionalConfig → Octets →
    GpioFunctionalConfig × Option GpioErrc :=
  applyBlockReconfig epFuncBlock .reconfigShort .reconfigOutOfRange

end Gpio

/-! ## PWM output -/

namespace Pwm

inductive PwmOutTrigger
  | none | cycleStart | midPulse | done
  deriving DecidableEq, Repr

structure PwmOutFunctionalConfig where
  epEnable : Bool := false
  epClearReqStorage : Bool := false
  epReqCrcEnable : Bool := false
  epResponseTsEnable : Bool := false
  epSuppressResponse : Bool := false
  trigger : PwmOutTrigger := .none
  baseClk : UInt16 := 0
  epStatus : UInt16 := 0
  clkDivider : UInt8 := 0
  signalFlags : UInt8 := 0
  dutyCycleMin : UInt16 := 0
  dutyCycleMax : UInt16 := 0
  skew : UInt8 := 0
  deriving DecidableEq, Repr

def kPwmOutEpFuncLen : Nat := 0x0F

def pwmOutRegOffsetReadOnly (addr : Nat) : Bool :=
  addr = 0 || addr = 1 || addr = 4 || addr = 5

def renderRegisters (cfg : PwmOutFunctionalConfig) : Octets :=
  [UInt8.ofNat kPwmOutEpFuncLen, 0,
    renderEnableClr cfg.epEnable cfg.epClearReqStorage,
    renderOptions cfg.epReqCrcEnable cfg.epResponseTsEnable
      cfg.epSuppressResponse] ++
    (putBe 2 cfg.baseClk.toNat ++ (putBe 2 cfg.epStatus.toNat ++
      ([cfg.clkDivider, cfg.signalFlags] ++
        (putBe 2 cfg.dutyCycleMin.toNat ++
          (putBe 2 cfg.dutyCycleMax.toNat ++ [cfg.skew])))))

def pwmOutParseRegisters (block : Octets) (cfg : PwmOutFunctionalConfig) :
    PwmOutFunctionalConfig :=
  let octet := fun addr => octetAt block addr
  { cfg with
    epEnable := flag (octet 2) 0
    epClearReqStorage := flag (octet 2) 4
    epReqCrcEnable := flag (octet 3) 0
    epResponseTsEnable := flag (octet 3) 3
    epSuppressResponse := flag (octet 3) 7
    epStatus := getU16At block 6
    clkDivider := octet 8
    signalFlags := octet 9
    dutyCycleMin := getU16At block 10
    dutyCycleMax := getU16At block 12
    skew := octet 14 }

theorem length_renderRegisters (cfg : PwmOutFunctionalConfig) :
    (renderRegisters cfg).length = kPwmOutEpFuncLen := rfl

def epFuncBlock : RegisterBlock UInt8 PwmOutFunctionalConfig :=
  ⟨kPwmOutEpFuncLen, pwmOutRegOffsetReadOnly, renderRegisters,
    pwmOutParseRegisters, length_renderRegisters⟩

def applyReconfig : PwmOutFunctionalConfig → Octets →
    PwmOutFunctionalConfig × Option PwmErrc :=
  applyBlockReconfig epFuncBlock .reconfigShort .reconfigOutOfRange

end Pwm

end CppRcp
