import CppRcp.Bringup.Lifecycle
import CppRcp.Peripherals.Registers

/-!
# The setters of the functional configurations

The ADC, the UART and the I2C endpoint have typed setters beside the write of
their registers.  A setter leaves the configuration as it is, and says so, when
the writer may not write it or the value is not valid.  The operations of a
kind are its setters and the register write.
-/

namespace CppRcp

open CppRcp.Foundation CppRcp.Lifecycle CppRcp.Mock CppRcp.Regmap

/-! ## ADC -/

namespace Adc

def functionalCfgWritable (state : ServerState) (writer : WriterCtx) : Bool :=
  fieldWritable state .functionalW writer

section Setters

variable (cfg : AdcFunctionalConfig)

def setSamplesPerAvgInterval (samplesPerInterval : UInt16)
    (state : ServerState) (writer : WriterCtx) : AdcFunctionalConfig × Bool :=
  if !functionalCfgWritable state writer then (cfg, false)
  else ({ cfg with adcSamplesPerAvgInterval := samplesPerInterval }, true)

def setAvgIntervalsPerRequest (intervalsPerRequest : UInt16)
    (state : ServerState) (writer : WriterCtx) : AdcFunctionalConfig × Bool :=
  if !functionalCfgWritable state writer then (cfg, false)
  else ({ cfg with adcAvgIntervalsPerRequest := intervalsPerRequest }, true)

def setCombineAvgValues (combineAvgValues : UInt8)
    (state : ServerState) (writer : WriterCtx) : AdcFunctionalConfig × Bool :=
  if !functionalCfgWritable state writer then (cfg, false)
  else ({ cfg with adcCombineAvgValues := combineAvgValues }, true)

end Setters

inductive AdcOp
  | setSamplesPerAvgInterval (samplesPerInterval : UInt16)
      (state : ServerState) (writer : WriterCtx)
  | setAvgIntervalsPerRequest (intervalsPerRequest : UInt16)
      (state : ServerState) (writer : WriterCtx)
  | setCombineAvgValues (combineAvgValues : UInt8)
      (state : ServerState) (writer : WriterCtx)
  | applyReconfig (payload : Octets)
  deriving DecidableEq, Repr

/-- The configuration after the operation, and whether it was applied. -/
def AdcOp.apply (cfg : AdcFunctionalConfig) :
    AdcOp → AdcFunctionalConfig × Bool
  | .setSamplesPerAvgInterval samplesPerInterval state writer =>
      Adc.setSamplesPerAvgInterval cfg samplesPerInterval state writer
  | .setAvgIntervalsPerRequest intervalsPerRequest state writer =>
      Adc.setAvgIntervalsPerRequest cfg intervalsPerRequest state writer
  | .setCombineAvgValues combineAvgValues state writer =>
      Adc.setCombineAvgValues cfg combineAvgValues state writer
  | .applyReconfig payload =>
      match Adc.applyReconfig cfg payload with
      | .ok after => (after, true)
      | .error _ => (cfg, false)

end Adc

/-! ## UART -/

namespace Uart

def functionalCfgWritable (state : ServerState) (writer : WriterCtx) : Bool :=
  fieldWritable state .functionalW writer

section Setters

variable (cfg : UartFunctionalCfg)

def setBaudRate (baudRate : UInt32) (state : ServerState)
    (writer : WriterCtx) : UartFunctionalCfg × Bool :=
  if !functionalCfgWritable state writer then (cfg, false)
  else ({ cfg with baudRate := baudRate }, true)

def setFrameFormat (nrBits : UInt8) (parity : Parity) (stopBits : StopBits)
    (state : ServerState) (writer : WriterCtx) : UartFunctionalCfg × Bool :=
  if !nrBitsValid nrBits then (cfg, false)
  else if !functionalCfgWritable state writer then (cfg, false)
  else
    ({ cfg with
        uartNrBits := nrBits
        parity := parity.toOctet
        stopBits := stopBits.toOctet }, true)

def setRxBufferSize (rxBufferSize : UInt16) (state : ServerState)
    (writer : WriterCtx) : UartFunctionalCfg × Bool :=
  if !functionalCfgWritable state writer then (cfg, false)
  else ({ cfg with epRxBufferSize := rxBufferSize }, true)

def setTimeout (timeoutMs : UInt32) (state : ServerState)
    (writer : WriterCtx) : UartFunctionalCfg × Bool :=
  if !functionalCfgWritable state writer then (cfg, false)
  else ({ cfg with uartTimeoutMs := timeoutMs }, true)

def setTrigger (trigger : UartTrigger) (state : ServerState)
    (writer : WriterCtx) : UartFunctionalCfg × Bool :=
  if !functionalCfgWritable state writer then (cfg, false)
  else ({ cfg with trigger := trigger }, true)

end Setters

inductive UartOp
  | setBaudRate (baudRate : UInt32) (state : ServerState) (writer : WriterCtx)
  | setFrameFormat (nrBits : UInt8) (parity : Parity) (stopBits : StopBits)
      (state : ServerState) (writer : WriterCtx)
  | setRxBufferSize (rxBufferSize : UInt16) (state : ServerState)
      (writer : WriterCtx)
  | setTimeout (timeoutMs : UInt32) (state : ServerState) (writer : WriterCtx)
  | setTrigger (trigger : UartTrigger) (state : ServerState)
      (writer : WriterCtx)
  | applyReconfig (payload : Octets)
  deriving DecidableEq, Repr

def UartOp.apply (cfg : UartFunctionalCfg) :
    UartOp → UartFunctionalCfg × Bool
  | .setBaudRate baudRate state writer =>
      Uart.setBaudRate cfg baudRate state writer
  | .setFrameFormat nrBits parity stopBits state writer =>
      Uart.setFrameFormat cfg nrBits parity stopBits state writer
  | .setRxBufferSize rxBufferSize state writer =>
      Uart.setRxBufferSize cfg rxBufferSize state writer
  | .setTimeout timeoutMs state writer =>
      Uart.setTimeout cfg timeoutMs state writer
  | .setTrigger trigger state writer =>
      Uart.setTrigger cfg trigger state writer
  | .applyReconfig payload =>
      let written := Uart.applyReconfig cfg payload
      (written.1, written.2.isNone)

end Uart

/-! ## I2C -/

namespace I2c

def i2cFunctionalCfgWritable (state : ServerState) (writer : WriterCtx) :
    Bool :=
  fieldWritable state .functionalW writer

def setMode (cfg : I2cFunctionalCfg) (mode : UInt8) (state : ServerState)
    (writer : WriterCtx) : I2cFunctionalCfg × Bool :=
  if !i2cModeValid mode then (cfg, false)
  else if !i2cFunctionalCfgWritable state writer then (cfg, false)
  else ({ cfg with i2cMode := mode }, true)

inductive I2cOp
  | setMode (mode : UInt8) (state : ServerState) (writer : WriterCtx)
  | applyReconfig (payload : Octets)
  deriving DecidableEq, Repr

def I2cOp.apply (cfg : I2cFunctionalCfg) : I2cOp → I2cFunctionalCfg × Bool
  | .setMode mode state writer => I2c.setMode cfg mode state writer
  | .applyReconfig payload =>
      let written := I2c.applyReconfig cfg payload
      (written.1, written.2.isNone)

end I2c

end CppRcp
