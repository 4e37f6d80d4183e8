import CppRcp.Foundation.Fifo
import CppRcp.Peripherals.Endpoints

/-!
# The two queues of a UART endpoint

The transport fills the receive queue and drains the transmit queue; requests
read from the one and write to the other.  In whatever order these come, no
octet is lost, repeated or moved, and a call that fails changes nothing.
-/

namespace CppRcp.Uart

open CppRcp.Foundation CppRcp.Endpoint

inductive UartCall
  | rxFill (octets : Octets)
  | enqueueTx (octets : Octets)
  | drainTx
  | handleRead (readSize : UInt16) (elapsedMs uartTimeoutMs : UInt32)
  | handlePureRead
  | handleRequest (evtOp : UInt8) (isWrite : Bool) (txBytes : Octets)
      (readSize : UInt16) (elapsedMs uartTimeoutMs : UInt32)
  deriving DecidableEq, Repr

inductive UartReturn
  | done (failure : Option ErrorCode)
  | drained (octets : Octets)
  | pureRead (octets : Octets)
  | answered (result : Except ErrorCode (Octets × Bool))

def UartReturn.failed : UartReturn → Bool
  | .done failure => failure.isSome
  | .answered (.error _) => true
  | _ => false

def UartEndpoint.step (uart : UartEndpoint) :
    UartCall → UartEndpoint × UartReturn
  | .rxFill octets =>
      let (uart, failure) := uart.rxFill octets
      (uart, .done failure)
  | .enqueueTx octets =>
      let (uart, failure) := uart.enqueueTx octets
      (uart, .done failure)
  | .drainTx =>
      let (uart, octets) := uart.drainTx
      (uart, .drained octets)
  | .handleRead readSize elapsedMs uartTimeoutMs =>
      let (uart, result) := uart.handleRead readSize.toNat elapsedMs.toNat
        uartTimeoutMs.toNat
      (uart, .answered result)
  | .handlePureRead =>
      let (uart, octets) := uart.handlePureRead
      (uart, .pureRead octets)
  | .handleRequest evtOp isWrite txBytes readSize elapsedMs uartTimeoutMs =>
      let (uart, result) := uart.handleRequest evtOp isWrite txBytes
        readSize.toNat elapsedMs.toNat uartTimeoutMs.toNat
      (uart, .answered result)

def filledOctets : UartCall × UartReturn → Octets
  | (.rxFill octets, .done none) => octets
  | _ => []

def readOctets : UartReturn → Octets
  | .pureRead octets => octets
  | .answered (.ok (data, _)) => data
  | _ => []

def writtenOctets : UartCall × UartReturn → Octets
  | (.enqueueTx octets, .done none) => octets
  | (.handleRequest _ true txBytes _ _ _, .answered (.ok _)) => txBytes
  | _ => []

def drainedOctets : UartReturn → Octets
  | .drained octets => octets
  | _ => []

def UartCall.readSize? : UartCall → Option Nat
  | .handleRead readSize _ _ => some readSize.toNat
  | .handleRequest _ false _ readSize _ _ => some readSize.toNat
  | _ => none

/-! ## One call -/

structure QueueEffect (uart : UartEndpoint) (call : UartCall)
    (after : UartEndpoint) (answer : UartReturn) : Prop where
  rx : readOctets answer ++ after.rxFifo =
    uart.rxFifo ++ filledOctets (call, answer)
  tx : drainedOctets answer ++ after.txQueue =
    uart.txQueue ++ writtenOctets (call, answer)
  rxRoom : uart.rxFifo.length ≤ rxFifoCapacity →
    after.rxFifo.length ≤ rxFifoCapacity
  txRoom : uart.txQueue.length ≤ txQueueCapacity →
    after.txQueue.length ≤ txQueueCapacity
  unchanged : answer.failed = true → after = uart
  within : ∀ n, call.readSize? = some n → (readOctets answer).length ≤ n

section Call

variable {uart : UartEndpoint}

private theorem QueueEffect.of_failed {call : UartCall} {e : ErrorCode} :
    QueueEffect uart call uart (.answered (.error e)) where
  rx := by cases call <;> simp [readOctets, filledOctets]
  tx := by
    cases call with
    | handleRequest evtOp isWrite =>
        cases isWrite <;> simp [drainedOctets, writtenOctets]
    | _ => simp [drainedOctets, writtenOctets]
  rxRoom := id
  txRoom := id
  unchanged _ := rfl
  within n _ := Nat.zero_le n

private theorem queueEffect_rxFill (octets : Octets) :
    QueueEffect uart (.rxFill octets) (uart.rxFill octets).1
      (.done (uart.rxFill octets).2) := by
  unfold UartEndpoint.rxFill
  split
  · exact ⟨by simp [readOctets, filledOctets],
      by simp [drainedOctets, writtenOctets], id, id, fun _ => rfl,
      nofun⟩
  · next hRoom =>
      refine ⟨rfl, by simp [drainedOctets, writtenOctets], fun _ => ?_, id,
        nofun, nofun⟩
      rw [List.length_append]
      omega

private theorem queueEffect_written {call : UartCall} {answer : UartReturn}
    {octets : Octets} (hWritten : writtenOctets (call, answer) = octets)
    (hFilled : filledOctets (call, answer) = [])
    (hDrained : drainedOctets answer = []) (hRead : readOctets answer = [])
    (hDone : answer.failed = false)
    (hRoom : uart.txQueue.length + octets.length ≤ txQueueCapacity) :
    QueueEffect uart call
      { uart with txQueue := uart.txQueue ++ octets } answer where
  rx := by simp [hRead, hFilled]
  tx := by simp [hDrained, hWritten]
  rxRoom := id
  txRoom _ := by simpa using hRoom
  unchanged h := by
    rw [hDone] at h
    cases h
  within n _ := by simp [hRead]

private theorem queueEffect_read {call : UartCall} {timedOut : Bool}
    {readSize : Nat}
    (hFilled : ∀ answer, filledOctets (call, answer) = [])
    (hWritten : ∀ answer, writtenOctets (call, answer) = [])
    (hSize : call.readSize? = some readSize) :
    QueueEffect uart call
      { uart with rxFifo := uart.rxFifo.drop readSize }
      (.answered (.ok (uart.rxFifo.take readSize, timedOut))) where
  rx := by simp [readOctets, hFilled]
  tx := by simp [drainedOctets, hWritten]
  rxRoom h := by
    rw [List.length_drop]
    omega
  txRoom := id
  unchanged h := by cases h
  within n hn := by
    obtain rfl : readSize = n := Option.some.inj (hSize.symm.trans hn)
    exact List.length_take_le _ _

private theorem queueEffect_enqueueTx (octets : Octets) :
    QueueEffect uart (.enqueueTx octets) (uart.enqueueTx octets).1
      (.done (uart.enqueueTx octets).2) := by
  unfold UartEndpoint.enqueueTx
  split
  · exact ⟨by simp [readOctets, filledOctets],
      by simp [drainedOctets, writtenOctets], id, id, fun _ => rfl,
      nofun⟩
  · next hRoom =>
      exact queueEffect_written rfl rfl rfl rfl rfl (Nat.not_lt.mp hRoom)

private theorem queueEffect_handleRead {call : UartCall} {readSize : Nat}
    (hFilled : ∀ answer, filledOctets (call, answer) = [])
    (hWritten : ∀ answer, writtenOctets (call, answer) = [])
    (hSize : call.readSize? = some readSize) (elapsedMs timeoutMs : Nat) :
    QueueEffect uart call (uart.handleRead readSize elapsedMs timeoutMs).1
      (.answered (uart.handleRead readSize elapsedMs timeoutMs).2) := by
  unfold UartEndpoint.handleRead
  split
  · exact .of_failed
  · exact queueEffect_read hFilled hWritten hSize

private theorem queueEffect_handleRequest (evtOp : UInt8) (isWrite : Bool)
    (txBytes : Octets) (readSize : UInt16) (elapsedMs timeoutMs : UInt32) :
    QueueEffect uart
      (.handleRequest evtOp isWrite txBytes readSize elapsedMs timeoutMs)
      (uart.handleRequest evtOp isWrite txBytes readSize.toNat
        elapsedMs.toNat timeoutMs.toNat).1
      (.answered (uart.handleRequest evtOp isWrite txBytes readSize.toNat
        elapsedMs.toNat timeoutMs.toNat).2) := by
  unfold UartEndpoint.handleRequest
  split
  · cases isWrite with
    | true =>
        unfold UartEndpoint.enqueueTx
        rw [if_pos rfl]
        split
        · next hTx =>
            split at hTx
            · cases hTx
              exact .of_failed
            · cases hTx
        · next hTx =>
            split at hTx
            · cases hTx
            · next hRoom =>
                cases hTx
                exact queueEffect_written rfl rfl rfl rfl rfl
                  (Nat.not_lt.mp hRoom)
    | false =>
        exact queueEffect_handleRead (fun _ => rfl) (fun _ => rfl) rfl _ _
  · exact .of_failed
  · exact .of_failed

theorem queueEffect_step (call : UartCall) :
    QueueEffect uart call (uart.step call).1 (uart.step call).2 := by
  cases call with
  | rxFill octets => exact queueEffect_rxFill octets
  | enqueueTx octets => exact queueEffect_enqueueTx octets
  | drainTx =>
      exact ⟨by simp [UartEndpoint.step, UartEndpoint.drainTx, readOctets,
          filledOctets],
        rfl, id, fun _ => Nat.zero_le _, nofun, nofun⟩
  | handleRead readSize elapsedMs uartTimeoutMs =>
      exact queueEffect_handleRead (fun _ => rfl) (fun _ => rfl) rfl _ _
  | handlePureRead =>
      exact ⟨rfl, by simp [UartEndpoint.step, UartEndpoint.handlePureRead,
          drainedOctets, writtenOctets],
        fun _ => Nat.zero_le _, id, nofun, nofun⟩
  | handleRequest evtOp isWrite txBytes readSize elapsedMs uartTimeoutMs =>
      exact queueEffect_handleRequest evtOp isWrite txBytes readSize elapsedMs
        uartTimeoutMs

end Call

private theorem UartEndpoint.balanced_rx :
    Balanced UartEndpoint.step UartEndpoint.rxFifo
      (fun uart call => filledOctets (call, (uart.step call).2))
      (fun uart call => readOctets (uart.step call).2) :=
  fun _ call => (queueEffect_step call).rx

private theorem UartEndpoint.balanced_tx :
    Balanced UartEndpoint.step UartEndpoint.txQueue
      (fun uart call => writtenOctets (call, (uart.step call).2))
      (fun uart call => drainedOctets (uart.step call).2) :=
  fun _ call => (queueEffect_step call).tx

/-! ## Runs -/

/-- The endpoint that a run leaves. -/
abbrev after (calls : List UartCall) : UartEndpoint :=
  (run UartEndpoint.step {} calls).1

abbrev answers (calls : List UartCall) : List UartReturn :=
  (run UartEndpoint.step {} calls).2

/-- What holds of the octets of a run. -/
structure UartLaws (calls : List UartCall) : Prop where
  read : (answers calls).flatMap readOctets <+:
    (calls.zip (answers calls)).flatMap filledOctets
  drained : (answers calls).flatMap drainedOctets <+:
    (calls.zip (answers calls)).flatMap writtenOctets
  rxCounted : ((answers calls).flatMap readOctets).length +
      (after calls).rxFifo.length =
    ((calls.zip (answers calls)).flatMap filledOctets).length
  txCounted : ((answers calls).flatMap drainedOctets).length +
      (after calls).txQueue.length =
    ((calls.zip (answers calls)).flatMap writtenOctets).length
  rxBounded : (after calls).rxFifo.length ≤ rxFifoCapacity
  txBounded : (after calls).txQueue.length ≤ txQueueCapacity
  unchanged : ∀ i, (h : i < calls.length) →
    ((after (calls.take i)).step calls[i]).2.failed = true →
      after (calls.take (i + 1)) = after (calls.take i)
  within : ∀ i, (h : i < calls.length) → ∀ n,
    calls[i].readSize? = some n →
      (readOctets ((after (calls.take i)).step calls[i]).2).length ≤ n

theorem queues_run (calls : List UartCall) : UartLaws calls where
  read := by
    have hPrefix := UartEndpoint.balanced_rx.taken_prefix (s := {}) rfl calls
    rwa [gather_output, gather_zip] at hPrefix
  drained := by
    have hPrefix := UartEndpoint.balanced_tx.taken_prefix (s := {}) rfl calls
    rwa [gather_output, gather_zip] at hPrefix
  rxCounted := by
    have hLength := UartEndpoint.balanced_rx.length_run (s := {}) rfl calls
    rwa [gather_output, gather_zip] at hLength
  txCounted := by
    have hLength := UartEndpoint.balanced_tx.length_run (s := {}) rfl calls
    rwa [gather_output, gather_zip] at hLength
  rxBounded := by
    apply invariant_run (I := fun uart : UartEndpoint =>
      uart.rxFifo.length ≤ rxFifoCapacity)
    · exact fun _ call => (queueEffect_step call).rxRoom
    · exact Nat.zero_le _
  txBounded := by
    apply invariant_run (I := fun uart : UartEndpoint =>
      uart.txQueue.length ≤ txQueueCapacity)
    · exact fun _ call => (queueEffect_step call).txRoom
    · exact Nat.zero_le _
  unchanged i h hFailed := by
    rw [after, run_take_succ _ _ _ _ h]
    exact (queueEffect_step calls[i]).unchanged hFailed
  within i h n hSize := (queueEffect_step calls[i]).within n hSize

end CppRcp.Uart
