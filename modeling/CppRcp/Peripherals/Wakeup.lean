import Mathlib.Data.Nat.Bitwise
import CppRcp.Foundation.Octets
import CppRcp.Foundation.Patch

/-!
# The wake-up endpoint's register block

`wakeup.hpp`: the latched wake-up sources, the table of the sources, and the
configuration write, which renders the registers as a block, writes into it and
reads the block back.
-/

namespace CppRcp.Wakeup

open CppRcp.Foundation

inductive WakeupErrc
  | shortFrame | badMsgType | wrongBus | badOpcode | reconfigShort
  | reconfigOutOfRange
  deriving DecidableEq, Repr

def kMaxWakeSources : Nat := 8

/-! ## Sources -/

/-- Either trigger puts the source in edge mode; `activeHigh` is for level mode
only. -/
structure WakeSourceCfg where
  enabled : Bool := false
  activeHigh : Bool := false
  pinNumber : UInt16 := 0
  triggerOnRisingEdge : Bool := false
  triggerOnFallingEdge : Bool := false
  deriving DecidableEq, Repr

/-! ## Latched sources -/

structure WupStatus where
  mask : UInt16
  mask_lt : mask.toNat < 2 ^ kMaxWakeSources
  deriving DecidableEq, Repr

namespace WupStatus

def none : WupStatus := ⟨0, by decide⟩

def sourceBit (i : Nat) : UInt16 := UInt16.ofNat (2 ^ i)

private theorem toNat_sourceBit {i : Nat} (h : i < kMaxWakeSources) :
    (sourceBit i).toNat = 2 ^ i := by
  have hLt : 2 ^ i < 2 ^ kMaxWakeSources := Nat.pow_lt_pow_right (by decide) h
  exact UInt16.toNat_ofNat_of_lt' (hLt.trans (by decide))

private theorem latch_lt {mask : UInt16}
    (hMask : mask.toNat < 2 ^ kMaxWakeSources)
    {i : Nat} (h : i < kMaxWakeSources) :
    (mask ||| sourceBit i).toNat < 2 ^ kMaxWakeSources := by
  rw [UInt16.toNat_or, toNat_sourceBit h]
  exact Nat.or_lt_two_pow hMask (Nat.pow_lt_pow_right (by decide) h)

private theorem clear_lt {mask : UInt16}
    (hMask : mask.toNat < 2 ^ kMaxWakeSources)
    (i : Nat) : (mask &&& ~~~ sourceBit i).toNat < 2 ^ kMaxWakeSources := by
  rw [UInt16.toNat_and]
  exact Nat.and_le_left.trans_lt hMask

def latchSource (status : WupStatus) (i : Nat) : WupStatus :=
  if h : i < kMaxWakeSources then
    ⟨status.mask ||| sourceBit i, latch_lt status.mask_lt h⟩
  else status

def clearSource (status : WupStatus) (i : Nat) : WupStatus :=
  if i < kMaxWakeSources then
    ⟨status.mask &&& ~~~ sourceBit i, clear_lt status.mask_lt i⟩
  else status

def isClear (status : WupStatus) : Bool := status.mask = 0

def sourceIsLatched (status : WupStatus) (i : Nat) : Bool :=
  if i < kMaxWakeSources then status.mask &&& sourceBit i ≠ 0 else false

variable {status : WupStatus} {i j : Nat}

theorem sourceIsLatched_eq (h : i < kMaxWakeSources) :
    status.sourceIsLatched i = status.mask.toNat.testBit i := by
  have hZero : status.mask &&& sourceBit i = 0 ↔
      status.mask.toNat.testBit i = false := by
    rw [← UInt16.toNat_inj, UInt16.toNat_and, toNat_sourceBit h,
      Nat.and_two_pow]
    cases status.mask.toNat.testBit i <;> simp
  unfold sourceIsLatched
  rw [if_pos h]
  cases hBit : status.mask.toNat.testBit i <;> simp [hZero, hBit]

private theorem testBit_not_sourceBit (hi : i < kMaxWakeSources)
    (hj : j < kMaxWakeSources) :
    (~~~ sourceBit i).toNat.testBit j = decide (i ≠ j) := by
  have hBit : 2 ^ i < 2 ^ 16 :=
    Nat.pow_lt_pow_right (by decide) (hi.trans (by decide))
  have hWord : j < 16 := hj.trans (by decide)
  have hSize : UInt16.size - 1 - 2 ^ i = 2 ^ 16 - (2 ^ i + 1) := by
    unfold UInt16.size
    omega
  rw [UInt16.toNat_not, toNat_sourceBit hi, hSize,
    Nat.testBit_two_pow_sub_succ hBit, Nat.testBit_two_pow]
  simp [hWord]

private theorem sourceIsLatched_clearSource (hi : i < kMaxWakeSources)
    (hj : j < kMaxWakeSources) :
    (status.clearSource i).sourceIsLatched j =
      (status.sourceIsLatched j && decide (i ≠ j)) := by
  rw [sourceIsLatched_eq hj, sourceIsLatched_eq hj, clearSource, if_pos hi,
    UInt16.toNat_and, Nat.testBit_and, testBit_not_sourceBit hi hj]

theorem isClear_iff :
    status.isClear = true ↔
      ∀ i < kMaxWakeSources, status.sourceIsLatched i = false := by
  have hZero : status.isClear = true ↔ status.mask.toNat = 0 := by
    simp [isClear, ← UInt16.toNat_inj]
  rw [hZero]
  constructor
  · intro hMask i hi
    rw [sourceIsLatched_eq hi, hMask, Nat.zero_testBit]
  · intro hNone
    apply Nat.eq_of_testBit_eq
    intro i
    rw [Nat.zero_testBit]
    by_cases hi : i < kMaxWakeSources
    · rw [← sourceIsLatched_eq hi, hNone i hi]
    · apply Nat.testBit_lt_two_pow
      exact status.mask_lt.trans_le
        (Nat.pow_le_pow_right (by decide) (not_lt.mp hi))

end WupStatus

/-! ## The registers -/

structure WakeupFunctionalConfig where
  epEnable : Bool := false
  epClearReqStorage : Bool := false
  epReqCrcEnable : Bool := false
  epResponseTsEnable : Bool := false
  epSuppressResponse : Bool := false
  sources : Fin kMaxWakeSources → WakeSourceCfg := fun _ => {}
  epStatus : UInt16 := 0
  wupStatus : WupStatus := .none
  repetitionTimeUs : UInt32 := 0

def kWakeupRegEpLen : Nat := 0x0000
def kWakeupRegNrIoPinsMax : Nat := 0x0001
def kWakeupRegEpStatus : Nat := 0x0002
def kWakeupRegWupStatus : Nat := 0x0004
def kWakeupRegSourceBase : Nat := 0x0006
def kWakeupRegSourceSpan : Nat := 0x0002

def kWakeupEpFuncLen : Nat :=
  kWakeupRegSourceBase + kMaxWakeSources * kWakeupRegSourceSpan

def kWakeupReconfigAddrLen : Nat := 2

def kWakeupIoSrcInactive : Nat := 0x00
def kWakeupIoSrcRisingEdge : Nat := 0x01
def kWakeupIoSrcFallingEdge : Nat := 0x02
def kWakeupIoSrcBothEdges : Nat := 0x03
def kWakeupIoSrcHighLevel : Nat := 0x04
def kWakeupIoSrcLowLevel : Nat := 0x05

def wakeupRegOffsetReadOnly (addr : Nat) : Bool :=
  addr = kWakeupRegEpLen ∨ addr = kWakeupRegNrIoPinsMax

def ioSrc (src : WakeSourceCfg) : Nat :=
  if src.triggerOnRisingEdge ∧ src.triggerOnFallingEdge then
    kWakeupIoSrcBothEdges
  else if src.triggerOnRisingEdge then kWakeupIoSrcRisingEdge
  else if src.triggerOnFallingEdge then kWakeupIoSrcFallingEdge
  else if ¬ src.enabled then kWakeupIoSrcInactive
  else if src.activeHigh then kWakeupIoSrcHighLevel
  else kWakeupIoSrcLowLevel

def sourceReg (src : WakeSourceCfg) : Nat :=
  (ioSrc src &&& 0x1F) <<< 11 ||| (src.pinNumber.toNat &&& 0x7FF)

def renderRegisters (cfg : WakeupFunctionalConfig) : Octets :=
  [UInt8.ofNat kWakeupEpFuncLen, UInt8.ofNat kMaxWakeSources] ++
    putBe 2 cfg.epStatus.toNat ++
    putBe 2 (cfg.wupStatus.mask.toNat &&& (2 ^ kMaxWakeSources - 1)) ++
    (List.ofFn fun i => putBe 2 (sourceReg (cfg.sources i))).flatten

def getU16 (block : Octets) (addr : Nat) : Nat := getBe (slice block addr 2)

def parseSource (reg : Nat) (src : WakeSourceCfg) : WakeSourceCfg :=
  let src := { src with pinNumber := UInt16.ofNat (reg &&& 0x7FF) }
  let io := reg >>> 11 &&& 0x1F
  if io = kWakeupIoSrcInactive then
    { src with
      enabled := false, triggerOnRisingEdge := false,
      triggerOnFallingEdge := false }
  else if io = kWakeupIoSrcRisingEdge then
    { src with
      enabled := true, triggerOnRisingEdge := true,
      triggerOnFallingEdge := false }
  else if io = kWakeupIoSrcFallingEdge then
    { src with
      enabled := true, triggerOnRisingEdge := false,
      triggerOnFallingEdge := true }
  else if io = kWakeupIoSrcBothEdges then
    { src with
      enabled := true, triggerOnRisingEdge := true,
      triggerOnFallingEdge := true }
  else if io = kWakeupIoSrcHighLevel then
    { src with
      enabled := true, activeHigh := true, triggerOnRisingEdge := false,
      triggerOnFallingEdge := false }
  else if io = kWakeupIoSrcLowLevel then
    { src with
      enabled := true, activeHigh := false, triggerOnRisingEdge := false,
      triggerOnFallingEdge := false }
  else src

def clearWritten (wup : Nat) (status : WupStatus) : WupStatus :=
  (List.range kMaxWakeSources).foldl
    (fun status i => if wup.testBit i then status.clearSource i else status)
    status

private theorem sourceIsLatched_foldl {wup : Nat} {j : Nat}
    (hj : j < kMaxWakeSources) (places : List Nat)
    (hPlaces : ∀ i ∈ places, i < kMaxWakeSources) (status : WupStatus) :
    (places.foldl
        (fun status i =>
          if wup.testBit i then status.clearSource i else status)
        status).sourceIsLatched j =
      (status.sourceIsLatched j && !(places.contains j && wup.testBit j)) := by
  induction places generalizing status with
  | nil => simp
  | cons i places ih =>
      obtain ⟨hi, hRest⟩ := List.forall_mem_cons.mp hPlaces
      have hHead : (if wup.testBit i then status.clearSource i
          else status).sourceIsLatched j =
            (status.sourceIsLatched j && !(i == j && wup.testBit j)) := by
        by_cases hBit : wup.testBit i
        · rw [if_pos hBit, WupStatus.sourceIsLatched_clearSource hi hj]
          by_cases hSame : i = j
          · simp [hSame, ← hBit]
          · simp [hSame]
        · rw [if_neg hBit]
          by_cases hSame : i = j
          · simp [← hSame, hBit]
          · simp [hSame]
      rw [List.foldl_cons, ih hRest, hHead, List.contains_cons]
      cases wup.testBit j <;> simp [Bool.beq_comm, Bool.and_assoc]

theorem sourceIsLatched_clearWritten {wup : Nat} {status : WupStatus}
    {j : Nat} (hj : j < kMaxWakeSources) :
    (clearWritten wup status).sourceIsLatched j =
      (status.sourceIsLatched j && !wup.testBit j) := by
  unfold clearWritten
  rw [sourceIsLatched_foldl hj _ (fun i => List.mem_range.mp)]
  simp [hj]

def sourceAddr (i : Nat) : Nat :=
  kWakeupRegSourceBase + i * kWakeupRegSourceSpan

def wakeupParseRegisters (block : Octets) (cfg : WakeupFunctionalConfig) :
    WakeupFunctionalConfig :=
  { cfg with
    epStatus := UInt16.ofNat (getU16 block kWakeupRegEpStatus)
    wupStatus := clearWritten (getU16 block kWakeupRegWupStatus) cfg.wupStatus
    sources := fun i =>
      parseSource (getU16 block (sourceAddr i)) (cfg.sources i) }

def startAddress (payload : Octets) : Nat := getBe (payload.take 2)

def writtenData (payload : Octets) : Octets :=
  payload.drop kWakeupReconfigAddrLen

/-- `apply_reconfig`; the configuration after the write, and the error if it is
rejected. -/
def applyReconfig (cfg : WakeupFunctionalConfig) (payload : Octets) :
    WakeupFunctionalConfig × Option WakeupErrc :=
  if payload.length ≤ kWakeupReconfigAddrLen then (cfg, some .reconfigShort)
  else if kWakeupEpFuncLen <
      startAddress payload + (writtenData payload).length then
    (cfg, some .reconfigOutOfRange)
  else
    (wakeupParseRegisters
        (writeEach wakeupRegOffsetReadOnly (renderRegisters cfg)
          (startAddress payload) (writtenData payload)) cfg,
      none)

end CppRcp.Wakeup
