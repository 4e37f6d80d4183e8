import CppRcp.Peripherals.Endpoints

/-!
# What a peripheral fails with

A peripheral reports codes of its own category, of the row-2 reading or of the
frame format, and never one of the codes by which the server itself reports
what became of a request or of its protection.
-/

namespace CppRcp

open CppRcp.Foundation CppRcp.Endpoint

def ErrorCode.isDispatch : ErrorCode → Bool
  | .dispatch _ | .e2e _ => true
  | _ => false

def NoDispatchError (failure : Option ErrorCode) : Prop :=
  ∀ e, failure = some e → e.isDispatch = false

theorem NoDispatchError.none : NoDispatchError none := by
  intro e h
  cases h

theorem NoDispatchError.some {e : ErrorCode} (h : e.isDispatch = false) :
    NoDispatchError (some e) := by
  intro e' h'
  cases h'
  exact h

def failureOf {α : Type} : Except ErrorCode α → Option ErrorCode
  | .error e => some e
  | .ok _ => none

private theorem noDispatchError_onRow2 {σ : Type} {evtOp : UInt8}
    {e : ErrorCode}
    {endpoint : σ} {plain : σ × Option ErrorCode} (hError : e.isDispatch = false)
    (hPlain : NoDispatchError plain.2) :
    NoDispatchError (onRow2 evtOp e endpoint plain).2 := by
  unfold onRow2
  split
  · exact hPlain
  · exact .some rfl
  · exact .some hError

theorem Gpio.noDispatchError_decodeGpioPayload (octets : Octets) :
    NoDispatchError (failureOf (decodeGpioPayload octets)) := by
  unfold decodeGpioPayload
  split
  · exact .some rfl
  · exact .none

private theorem noDispatchError_applyBitmaskWrite (op : WriteSemantics)
    (current operand : UInt32) :
    NoDispatchError (failureOf (applyBitmaskWrite op current operand)) := by
  cases op with
  | reserved => exact .some rfl
  | reconfigure => exact .some rfl
  | replace | or | and | xor | add | subtract => exact .none

private theorem Gpio.noDispatchError_applyGpioWrite (op : WriteSemantics)
    (state : GpioState) (operand : UInt32) :
    NoDispatchError (failureOf (applyGpioWrite op state operand)) := by
  have hWrite := noDispatchError_applyBitmaskWrite op state.values operand
  cases op with
  | reconfigure => exact .none
  | subtract => exact .none
  | reserved => exact .some rfl
  | replace | or | and | xor | add => exact .none

theorem Gpio.noDispatchError_handleWrite (gpio : GpioEndpoint)
    (op : WriteSemantics) (operand : UInt32) :
    NoDispatchError (failureOf (gpio.handleWrite op operand).2) := by
  have hWrite := noDispatchError_applyGpioWrite op gpio.state operand
  unfold GpioEndpoint.handleWrite
  split
  · next hError =>
      rw [hError] at hWrite
      exact hWrite
  · exact .none

theorem Spi.noDispatchError_channelOf (evtOp : UInt8) :
    NoDispatchError (failureOf (channelOf evtOp)) := by
  unfold channelOf
  split
  · exact .none
  · exact .some rfl

theorem Spi.noDispatchError_transfer (spi : SpiEndpoint) (channel : Nat)
    (picoOut pociIn : Octets) :
    NoDispatchError (spi.transfer channel picoOut pociIn).2 := by
  unfold SpiEndpoint.transfer
  split
  · exact .some rfl
  · exact .none

theorem I2c.noDispatchError_handleRequest (i2c : I2cEndpoint) (evtOp : UInt8)
    (outBytes inBytes : Octets) (acked : Bool) :
    NoDispatchError (i2c.handleRequest evtOp outBytes inBytes acked).2 := by
  refine noDispatchError_onRow2 rfl ?_
  cases acked with
  | true => exact .none
  | false => exact .some rfl

theorem Lin.noDispatchError_handleRequest (lin : LinEndpoint) (evtOp : UInt8)
    (outBytes inBytes : Octets) (responded : Bool) :
    NoDispatchError (lin.handleRequest evtOp outBytes inBytes responded).2 := by
  refine noDispatchError_onRow2 rfl ?_
  cases responded with
  | true => exact .none
  | false => exact .some rfl

theorem Adc.noDispatchError_applyReconfig (cfg : AdcFunctionalConfig)
    (payload : Octets) :
    NoDispatchError (failureOf (applyReconfig cfg payload)) := by
  unfold applyReconfig
  split
  · exact .some rfl
  · split
    · exact .some rfl
    · exact .none

theorem Adc.noDispatchError_executeMeasurementCycle (adc : AdcEndpoint)
    (samples : List AdcSample) :
    NoDispatchError (adc.executeMeasurementCycle samples).2 := by
  unfold AdcEndpoint.executeMeasurementCycle
  split
  · exact .some rfl
  · exact .none

theorem Adc.noDispatchError_collectResponse (adc : AdcEndpoint)
    (combine : Nat) :
    NoDispatchError (failureOf (adc.collectResponse combine).2) := by
  unfold AdcEndpoint.collectResponse
  split
  · exact .some rfl
  · exact .none

theorem Pwm.noDispatchError_handleRequest (pwm : PwmInEndpoint)
    (evtOp : UInt8) :
    NoDispatchError (failureOf (pwm.handleRequest evtOp)) := by
  unfold PwmInEndpoint.handleRequest
  split
  · unfold PwmInEndpoint.handleRead
    split
    · exact .none
    · exact .some rfl
  · exact .some rfl
  · exact .some rfl

theorem Can.noDispatchError_handleRequest (can : CanEndpoint) (evtOp : UInt8)
    (frame : CanDataFrame) :
    NoDispatchError (can.handleRequest evtOp frame).2 := by
  refine noDispatchError_onRow2 rfl ?_
  unfold CanEndpoint.transmit validateFrame
  split
  · next hError =>
      split at hError
      · cases hError
        exact .some rfl
      · split at hError
        · cases hError
          exact .some rfl
        · split at hError
          · cases hError
            exact .some rfl
          · cases hError
  · exact .none

theorem Uart.noDispatchError_handleRequest (uart : UartEndpoint)
    (evtOp : UInt8) (isWrite : Bool) (txBytes : Octets)
    (readSize elapsedMs uartTimeoutMs : Nat) :
    NoDispatchError (failureOf (uart.handleRequest evtOp isWrite txBytes
      readSize elapsedMs uartTimeoutMs).2) := by
  unfold UartEndpoint.handleRequest
  split
  · split
    · unfold UartEndpoint.enqueueTx
      split
      · next hEnqueue =>
          split at hEnqueue
          · cases hEnqueue
            exact .some rfl
          · cases hEnqueue
      · exact .none
    · unfold UartEndpoint.handleRead
      split
      · exact .some rfl
      · exact .none
  · exact .some rfl
  · exact .some rfl

theorem Iseled.noDispatchError_handleRequest (iseled : IseledEndpoint)
    (evtOp : UInt8) (txData : Octets) :
    NoDispatchError (iseled.handleRequest evtOp txData).2 :=
  noDispatchError_onRow2 rfl .none

theorem Mdio.noDispatchError_handleRequest (mdio : MdioEndpoint)
    (evtOp : UInt8) (request : MdioRequest) :
    NoDispatchError (failureOf (mdio.handleRequest evtOp request).2) := by
  unfold MdioEndpoint.handleRequest
  split
  · unfold MdioEndpoint.transact validateRequest
    split
    · next hError =>
        split at hError
        · cases hError
          exact .some rfl
        · cases hError
    · split
      · exact .none
      · exact .none
  · exact .some rfl
  · exact .some rfl

end CppRcp
