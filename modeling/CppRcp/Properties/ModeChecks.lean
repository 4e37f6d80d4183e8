import CppRcp.Foundation.Runs
import CppRcp.Peripherals.Setters

/-!
# The two ways to the frame format and the I2C mode

The setters check the number of data bits and the I2C mode; the register writes
do not.  A configuration stays valid exactly in the runs whose accepted writes
put no invalid octet in the register.
-/

namespace CppRcp.Endpoint

open CppRcp.Foundation CppRcp.Acf

def writtenOctet (len : Nat) (payload : Octets) (addr : Nat) : Option UInt8 :=
  if kReconfigAddrLen < payload.length ∧
      reconfigStart payload + (reconfigData payload).length ≤ len ∧
      reconfigStart payload ≤ addr then
    (reconfigData payload)[addr - reconfigStart payload]?
  else none

structure HasRegister {σ : Type} (block : RegisterBlock UInt8 σ)
    (field : σ → UInt8) (addr : Nat) : Prop where
  inside : addr < block.len
  writable : block.readOnly addr = false
  parsed : ∀ image cfg, field (block.parse image cfg) = octetAt image addr
  rendered : ∀ cfg, octetAt (block.render cfg) addr = field cfg

section Register

variable {σ ε : Type} {block : RegisterBlock UInt8 σ} {field : σ → UInt8}
  {addr : Nat} {shortPayload outOfRange : ε}

private theorem octetAt_image (hRegister : HasRegister block field addr)
    (cfg : σ) {payload : Octets} (hLength : kReconfigAddrLen < payload.length)
    (hRange : reconfigStart payload + (reconfigData payload).length ≤
      block.len) :
    octetAt (block.image cfg (reconfigStart payload) (reconfigData payload))
        addr =
      (writtenOctet block.len payload addr).getD (field cfg) := by
  unfold writtenOctet
  rw [octetAt_eq_getD]
  by_cases hWrites : block.Writes (reconfigStart payload)
      (reconfigData payload).length addr
  · have hIndex : addr - reconfigStart payload <
        (reconfigData payload).length := by
      have := hWrites.1
      have := hWrites.2.1
      omega
    rw [RegisterBlock.getElem?_image_of_writes hRange hWrites,
      if_pos ⟨hLength, hRange, hWrites.1⟩, List.getElem?_eq_getElem hIndex]
    rfl
  · have hNone : (if kReconfigAddrLen < payload.length ∧
        reconfigStart payload + (reconfigData payload).length ≤ block.len ∧
        reconfigStart payload ≤ addr then
          (reconfigData payload)[addr - reconfigStart payload]?
        else none) = none := by
      split
      · rename_i hFrom
        apply List.getElem?_eq_none
        by_contra hTo
        exact hWrites ⟨hFrom.2.2, by omega, hRegister.writable⟩
      · rfl
    rw [RegisterBlock.getElem?_image_of_not_writes hRegister.writable hWrites,
      hNone, Option.getD_none, ← hRegister.rendered, octetAt_eq_getD]

private theorem field_applyBlockReconfig
    (hRegister : HasRegister block field addr) (cfg : σ) (payload : Octets) :
    field (applyBlockReconfig block shortPayload outOfRange cfg payload).1 =
      (writtenOctet block.len payload addr).getD (field cfg) := by
  unfold applyBlockReconfig
  split
  · rename_i hLength
    unfold writtenOctet
    rw [if_neg (by omega), Option.getD_none]
  · split
    · rename_i hRange
      unfold writtenOctet
      rw [if_neg (by omega), Option.getD_none]
    · rename_i hLength hRange
      rw [← octetAt_image hRegister cfg (by omega) (by omega)]
      exact hRegister.parsed _ cfg

private theorem valid_applyBlockReconfig_iff
    (hRegister : HasRegister block field addr)
    {valid : UInt8 → Bool} {cfg : σ} (hValid : valid (field cfg) = true)
    (payload : Octets) :
    valid (field (applyBlockReconfig block shortPayload outOfRange cfg
        payload).1) = true ↔
      ∀ octet ∈ writtenOctet block.len payload addr, valid octet = true := by
  rw [field_applyBlockReconfig hRegister]
  cases writtenOctet block.len payload addr with
  | none => simpa using hValid
  | some octet => simp

end Register

end CppRcp.Endpoint

/-! ## UART -/

namespace CppRcp.Uart

open CppRcp.Foundation CppRcp.Acf CppRcp.Endpoint

def kRegNrBits : Nat := 8

def ValidNrBits (cfg : UartFunctionalCfg) : Prop :=
  nrBitsValid cfg.uartNrBits = true

instance (cfg : UartFunctionalCfg) : Decidable (ValidNrBits cfg) :=
  inferInstanceAs (Decidable (_ = true))

/-- No write in range puts an invalid octet in the register. -/
def WritesValidNrBits : UartOp → Prop
  | .applyReconfig payload =>
      ∀ octet ∈ writtenOctet kEpFuncLen payload kRegNrBits,
        nrBitsValid octet = true
  | _ => True

private theorem hasRegister_nrBits :
    HasRegister epFuncBlock UartFunctionalCfg.uartNrBits kRegNrBits where
  inside := by decide
  writable := by decide
  parsed := fun _ _ => rfl
  rendered := fun _ => rfl

private theorem validNrBits_apply_iff (cfg : UartFunctionalCfg) (op : UartOp)
    (h : ValidNrBits cfg) :
    ValidNrBits (op.apply cfg).1 ↔ WritesValidNrBits op := by
  unfold ValidNrBits at h ⊢
  cases op with
  | applyReconfig payload =>
      exact valid_applyBlockReconfig_iff hasRegister_nrBits h payload
  | setFrameFormat nrBits parity stopBits state writer =>
      simp only [UartOp.apply, setFrameFormat, WritesValidNrBits, iff_true]
      split_ifs with hInvalid hLocked
      · exact h
      · exact h
      · simpa using hInvalid
  | setBaudRate baudRate state writer =>
      simp only [UartOp.apply, setBaudRate, WritesValidNrBits, iff_true]
      split_ifs <;> exact h
  | setRxBufferSize rxBufferSize state writer =>
      simp only [UartOp.apply, setRxBufferSize, WritesValidNrBits, iff_true]
      split_ifs <;> exact h
  | setTimeout timeoutMs state writer =>
      simp only [UartOp.apply, setTimeout, WritesValidNrBits, iff_true]
      split_ifs <;> exact h
  | setTrigger trigger state writer =>
      simp only [UartOp.apply, setTrigger, WritesValidNrBits, iff_true]
      split_ifs <;> exact h

end CppRcp.Uart

/-! ## I2C -/

namespace CppRcp.I2c

open CppRcp.Foundation CppRcp.Acf CppRcp.Endpoint

def kRegMode : Nat := 9

def ValidMode (cfg : I2cFunctionalCfg) : Prop :=
  i2cModeValid cfg.i2cMode = true

instance (cfg : I2cFunctionalCfg) : Decidable (ValidMode cfg) :=
  inferInstanceAs (Decidable (_ = true))

def WritesValidMode : I2cOp → Prop
  | .applyReconfig payload =>
      ∀ octet ∈ writtenOctet kEpFuncLen payload kRegMode,
        i2cModeValid octet = true
  | _ => True

private theorem hasRegister_mode :
    HasRegister epFuncBlock I2cFunctionalCfg.i2cMode kRegMode where
  inside := by decide
  writable := by decide
  parsed := fun _ _ => rfl
  rendered := fun _ => rfl

private theorem validMode_apply_iff (cfg : I2cFunctionalCfg) (op : I2cOp)
    (h : ValidMode cfg) :
    ValidMode (op.apply cfg).1 ↔ WritesValidMode op := by
  unfold ValidMode at h ⊢
  cases op with
  | applyReconfig payload =>
      exact valid_applyBlockReconfig_iff hasRegister_mode h payload
  | setMode mode state writer =>
      simp only [I2cOp.apply, setMode, WritesValidMode, iff_true]
      split_ifs with hInvalid hLocked
      · exact h
      · exact h
      · simpa using hInvalid

end CppRcp.I2c

namespace CppRcp.Endpoint

open CppRcp.Foundation

/-- Runs of setters and writes from a valid configuration: the number of data
bits and the I2C mode stay valid exactly when no write in range puts an invalid
octet in their register. -/
theorem validModes_run_iff (uart : Uart.UartFunctionalCfg)
    (uartOps : List Uart.UartOp) (i2c : I2c.I2cFunctionalCfg)
    (i2cOps : List I2c.I2cOp) :
    (Uart.ValidNrBits uart →
      ((∀ n, Uart.ValidNrBits
          (run Uart.UartOp.apply uart (uartOps.take n)).1) ↔
        ∀ op ∈ uartOps, Uart.WritesValidNrBits op)) ∧
    (I2c.ValidMode i2c →
      ((∀ n, I2c.ValidMode (run I2c.I2cOp.apply i2c (i2cOps.take n)).1) ↔
        ∀ op ∈ i2cOps, I2c.WritesValidMode op)) := by
  constructor
  · intro h
    exact forall_take_iff_forall_mem Uart.validNrBits_apply_iff h
  · intro h
    exact forall_take_iff_forall_mem I2c.validMode_apply_iff h

theorem validModes_run_default :
    ((∀ n, Uart.ValidNrBits (run Uart.UartOp.apply {}
        ([.applyReconfig [0, 8, 7]].take n)).1) ↔
      ∀ op ∈ [.applyReconfig [0, 8, 7]], Uart.WritesValidNrBits op) ∧
    ((∀ n, I2c.ValidMode (run I2c.I2cOp.apply {}
        ([.applyReconfig [0, 9, 3]].take n)).1) ↔
      ∀ op ∈ [.applyReconfig [0, 9, 3]], I2c.WritesValidMode op) :=
  have hRuns := validModes_run_iff {} [.applyReconfig [0, 8, 7]] {}
    [.applyReconfig [0, 9, 3]]
  ⟨hRuns.1 (by decide), hRuns.2 (by decide)⟩

/-- Accepted writes of 9 data bits and of mode 5, neither of which the setters
take. -/
theorem invalid_modes_written :
    Uart.ValidNrBits {} ∧
      (Uart.applyReconfig {} [0, 8, 9]).2 = none ∧
      ¬ Uart.ValidNrBits (run Uart.UartOp.apply {}
        [.applyReconfig [0, 8, 9]]).1 ∧
      I2c.ValidMode {} ∧
      (I2c.applyReconfig {} [0, 9, 5]).2 = none ∧
      ¬ I2c.ValidMode (run I2c.I2cOp.apply {}
        [.applyReconfig [0, 9, 5]]).1 := by
  decide

end CppRcp.Endpoint
