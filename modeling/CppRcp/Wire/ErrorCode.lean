import CppRcp.Foundation.Octets

/-!
# Error codes

Every header defines its own `std::error_category` over its own enumeration.
An `ErrorCode` is a nonzero `std::error_code`: one constructor per category,
carrying that category's enumerator.  A default-constructed `error_code`
(success) is `none`.
-/

namespace CppRcp

inductive AvtpErrc
  | shortBuffer | badSubtype | lengthMismatch
  deriving DecidableEq, Repr

inductive AcfErrc
  | badAcfMsgType | badAcfMsgLength
  deriving DecidableEq, Repr

inductive RequestErrc
  | timestampNotRepurposed | unknownRequestType | indexOutOfRange
  | unknownTransaction | invalidLifecycleTransition | transactionNumCollision
  | requestNotFound | requestCanceled | compoundBundleIncomplete
  | requestNotCancellable | reservedFieldNonzero | evtHsCsNonzero
  | unsupportedCmd | ledgerFull
  deriving DecidableEq, Repr

inductive RegMapErrc
  | unauthorizedAccess | lockedMemAccess | requestRejected | invalidParameter
  deriving DecidableEq, Repr

inductive E2eErrc
  | crcError | sequenceViolation | shortFrame
  deriving DecidableEq, Repr

inductive DispatchErrc
  | queued | pending | cancelled | suspended | seqError | streamFaulted
  | fragmentPending | fragmentRejected | responseFragmented | unknownBus
  | chainError | chainAborted
  deriving DecidableEq, Repr

inductive GpioErrc
  | pinIndexOutOfRange | shortFrame | badMsgType | wrongBus | wrongOp
  | badPayloadLen | reservedEvt | reconfigShort | reconfigOutOfRange
  deriving DecidableEq, Repr

inductive SpiErrc
  | shortFrame | badMsgType | wrongBus | wrongOp | badChannel
  deriving DecidableEq, Repr

inductive EndpointErrc
  | reservedWriteSemantics | nonCombinableWriteSemantics | reservedEvtRow2
  deriving DecidableEq, Repr

inductive I2cErrc
  | shortFrame | badMsgType | wrongBus | wrongOp | badEvt | nack
  | configWriteNotSupported
  deriving DecidableEq, Repr

inductive AdcErrc
  | noSignal | shortFrame | badMsgType | wrongBus | wrongOp | badPayloadLen
  | tooManyValues | badEvt | reconfigShort | reconfigOutOfRange
  | pendingValuesFull | responseNotReady
  deriving DecidableEq, Repr

inductive PwmErrc
  | noSignal | configWriteNotSupported | shortFrame | badMsgType | wrongBus
  | wrongOp | badPayloadLen | reservedEvt | badEvt | reconfigShort
  | reconfigOutOfRange
  deriving DecidableEq, Repr

inductive LinErrc
  | noResponse | configWriteNotSupported | shortFrame | badMsgType | wrongBus
  | wrongOp | badEvt
  deriving DecidableEq, Repr

inductive CanErrc
  | identifierOutOfRange | payloadExceedsFormatLimit
  | xlPayloadExceedsSingleAvtpduBound | configWriteNotSupported
  | badFrameFormat | shortFrame | badMsgType | wrongBus | wrongOp | badEvt
  | badArbitrationId
  deriving DecidableEq, Repr

inductive UartErrc
  | readSizeExceedsBound | rxFifoOverflow | txQueueOverflow
  | bitsPerFrameOutOfRange | configWriteNotSupported | shortFrame
  | badMsgType | wrongBus | wrongOp | unknownCmd | badEvt
  deriving DecidableEq, Repr

inductive IseledErrc
  | shortFrame | badMsgType | wrongBus | wrongOp | badSymbol | crcMismatch
  | oddSymbolCount | badEvt | configWriteNotSupported
  deriving DecidableEq, Repr

inductive MdioErrc
  | payloadExceedsModeWidth | configWriteNotSupported | shortFrame
  | badMsgType | wrongBus | wrongOp | badAddr | badWordCount | badEvt
  | unsupportedMms | badMmsAddr | wrongMdioMode
  deriving DecidableEq, Repr

inductive ErrorCode
  | avtp (e : AvtpErrc)
  | acf (e : AcfErrc)
  | request (e : RequestErrc)
  | regmap (e : RegMapErrc)
  | e2e (e : E2eErrc)
  | dispatch (e : DispatchErrc)
  | gpio (e : GpioErrc)
  | spi (e : SpiErrc)
  | endpoint (e : EndpointErrc)
  | i2c (e : I2cErrc)
  | adc (e : AdcErrc)
  | pwm (e : PwmErrc)
  | lin (e : LinErrc)
  | can (e : CanErrc)
  | uart (e : UartErrc)
  | iseled (e : IseledErrc)
  | mdio (e : MdioErrc)
  deriving DecidableEq, Repr

end CppRcp
