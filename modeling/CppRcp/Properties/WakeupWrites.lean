import CppRcp.Peripherals.Wakeup

/-!
# What a write to the wake-up registers changes

A write should clear the latched sources whose bits it sets, and change the
sources it covers.  As the latched sources are rendered as the very bits that
clear them, every other write clears them too; and a source keeps only what its
register holds of it.
-/

namespace CppRcp.Wakeup

open CppRcp.Foundation

def statusAddr : Nat := kWakeupRegWupStatus + 1

def CoversStatus (start : Nat) (data : Octets) : Prop :=
  Overlaps start data.length statusAddr 1

instance (start : Nat) (data : Octets) : Decidable (CoversStatus start data) :=
  inferInstanceAs (Decidable (Overlaps _ _ _ _))

def setsStatusBit (start : Nat) (data : Octets) (i : Nat) : Bool :=
  start ≤ statusAddr ∧ (data[statusAddr - start]?.any fun octet => flag octet i)

def CoversSource (start : Nat) (data : Octets) (i : Nat) : Prop :=
  Overlaps start data.length (sourceAddr i) kWakeupRegSourceSpan

/-- Exactly the latched sources whose bits the write sets are cleared, and the
sources it does not cover are kept. -/
structure ChangesWritten (start : Nat) (data : Octets)
    (cfg after : WakeupFunctionalConfig) : Prop where
  latched : ∀ i < kMaxWakeSources, after.wupStatus.sourceIsLatched i =
    (cfg.wupStatus.sourceIsLatched i && !setsStatusBit start data i)
  sources : ∀ i : Fin kMaxWakeSources, ¬ CoversSource start data i →
    after.sources i = cfg.sources i

/-- The register of the source holds all of it: its pin number has 11 bits, and
a source in edge mode is enabled. -/
def SourceExact (src : WakeSourceCfg) : Prop :=
  src.pinNumber.toNat ≤ 0x7FF ∧
    (src.triggerOnRisingEdge ∨ src.triggerOnFallingEdge → src.enabled)

/-! ## The register of a source -/

private theorem ioSrc_lt (src : WakeSourceCfg) : ioSrc src < 2 ^ 5 := by
  unfold ioSrc
  split_ifs <;> decide

private theorem sourceReg_eq (src : WakeSourceCfg) :
    sourceReg src = ioSrc src * 2 ^ 11 + src.pinNumber.toNat % 2 ^ 11 := by
  have hPin : src.pinNumber.toNat % 2 ^ 11 < 2 ^ 11 :=
    Nat.mod_lt _ (by positivity)
  unfold sourceReg
  rw [show (0x1F : Nat) = 2 ^ 5 - 1 by simp,
    show (0x7FF : Nat) = 2 ^ 11 - 1 by simp, Nat.and_two_pow_sub_one_eq_mod,
    Nat.and_two_pow_sub_one_eq_mod, Nat.mod_eq_of_lt (ioSrc_lt src),
    ← Nat.shiftLeft_add_eq_or_of_lt hPin, Nat.shiftLeft_eq]

private theorem sourceReg_lt (src : WakeSourceCfg) : sourceReg src < 256 ^ 2 :=
    by
  have hIo := ioSrc_lt src
  rw [sourceReg_eq]
  omega

private theorem sourceReg_io (src : WakeSourceCfg) :
    sourceReg src >>> 11 &&& 0x1F = ioSrc src := by
  have hIo := ioSrc_lt src
  rw [show (0x1F : Nat) = 2 ^ 5 - 1 by simp, Nat.and_two_pow_sub_one_eq_mod,
    Nat.shiftRight_eq_div_pow, sourceReg_eq]
  omega

private theorem sourceReg_pin (src : WakeSourceCfg) :
    sourceReg src &&& 0x7FF = src.pinNumber.toNat % 2 ^ 11 := by
  rw [show (0x7FF : Nat) = 2 ^ 11 - 1 by simp, Nat.and_two_pow_sub_one_eq_mod,
    sourceReg_eq]
  omega

private theorem parseSource_sourceReg (src : WakeSourceCfg) :
    parseSource (sourceReg src) src =
      { src with
        pinNumber := UInt16.ofNat (src.pinNumber.toNat % 2 ^ 11)
        enabled := src.enabled || src.triggerOnRisingEdge ||
          src.triggerOnFallingEdge } := by
  unfold parseSource
  rw [sourceReg_io, sourceReg_pin]
  obtain ⟨enabled, activeHigh, pin, rising, falling⟩ := src
  cases enabled <;> cases activeHigh <;> cases rising <;> cases falling <;> rfl

private theorem parseSource_sourceReg_eq_iff (src : WakeSourceCfg) :
    parseSource (sourceReg src) src = src ↔ SourceExact src := by
  have hPin := src.pinNumber.toNat_lt
  rw [parseSource_sourceReg]
  unfold SourceExact
  constructor
  · intro h
    have hPinEq := congrArg (fun s => s.pinNumber.toNat) h
    have hEnabled := congrArg WakeSourceCfg.enabled h
    simp only [UInt16.toNat_ofNat'] at hPinEq
    refine ⟨by omega, ?_⟩
    rintro (hRising | hFalling)
    · simpa [hRising] using hEnabled.symm
    · simpa [hFalling] using hEnabled.symm
  · rintro ⟨hPinLe, hEnabled⟩
    have hKept : (src.enabled || src.triggerOnRisingEdge ||
        src.triggerOnFallingEdge) = src.enabled := by
      cases hOn : src.enabled
      · simpa [hOn] using hEnabled
      · simp
    rw [Nat.mod_eq_of_lt (by omega), hKept]
    simp

/-! ## The rendered block -/

section Block

variable (cfg : WakeupFunctionalConfig)

private theorem length_sourceRegs :
    ∀ image ∈ List.ofFn fun i => putBe 2 (sourceReg (cfg.sources i)),
      image.length = kWakeupRegSourceSpan := by
  intro image hMem
  obtain ⟨i, rfl⟩ := (List.mem_ofFn' _ _).mp hMem
  exact length_putBe 2 _

theorem length_renderRegisters :
    (renderRegisters cfg).length = kWakeupEpFuncLen := by
  have hSources := length_flatten_rows (length_sourceRegs cfg)
  rw [List.length_ofFn] at hSources
  unfold renderRegisters kWakeupEpFuncLen kWakeupRegSourceBase
  rw [List.length_append, hSources]
  simp

private theorem slice_source (i : Fin kMaxWakeSources) :
    slice (renderRegisters cfg) (sourceAddr i) kWakeupRegSourceSpan =
      putBe 2 (sourceReg (cfg.sources i)) := by
  have hRow : (List.ofFn fun i => putBe 2 (sourceReg (cfg.sources i)))[i.val]? =
      some (putBe 2 (sourceReg (cfg.sources i))) := by
    simp
  rw [← slice_flatten (length_sourceRegs cfg) hRow]
  unfold slice sourceAddr renderRegisters
  rw [← List.drop_drop, List.drop_left']
  simp [kWakeupRegSourceBase]

private theorem getU16_source (i : Fin kMaxWakeSources) :
    getU16 (renderRegisters cfg) (sourceAddr i) = sourceReg (cfg.sources i) := by
  have hSlice := slice_source cfg i
  unfold kWakeupRegSourceSpan at hSlice
  rw [getU16, hSlice, getBe_putBe_of_lt (sourceReg_lt _)]

private theorem renderRegisters_status :
    (renderRegisters cfg)[statusAddr]? =
      some (UInt8.ofNat cfg.wupStatus.mask.toNat) := by
  have hMask : cfg.wupStatus.mask.toNat &&& (2 ^ kMaxWakeSources - 1) =
      cfg.wupStatus.mask.toNat := by
    rw [Nat.and_two_pow_sub_one_eq_mod, Nat.mod_eq_of_lt cfg.wupStatus.mask_lt]
  simp [renderRegisters, statusAddr, kWakeupRegWupStatus, hMask, putBe]

end Block

/-! ## The written block -/

private theorem testBit_getU16 {block : Octets} {octet : UInt8}
    (h : block[statusAddr]? = some octet) {i : Nat} (hi : i < kMaxWakeSources) :
    (getU16 block kWakeupRegWupStatus).testBit i = flag octet i := by
  have hLength := (List.getElem?_eq_some_iff.mp h).1
  have hOctet : i < 8 := hi
  have hWord : (slice block kWakeupRegWupStatus 2).length = 2 :=
    length_slice hLength
  obtain ⟨high, low, hPair⟩ := List.length_eq_two.mp hWord
  have hLow : low = octet := by
    have hElem := getElem?_slice block kWakeupRegWupStatus 2 1
    rw [hPair, if_pos (by decide), show kWakeupRegWupStatus + 1 = statusAddr
      from rfl, h] at hElem
    exact Option.some_inj.mp hElem
  have hBe : getBe [high, low] = 2 ^ 8 * high.toNat + low.toNat := by
    simp [getBe_cons]
    omega
  rw [getU16, hPair, hBe, Nat.testBit_two_pow_mul_add _ low.toNat_lt,
    if_pos hOctet, hLow, flag]

section Written

variable {cfg : WakeupFunctionalConfig} {start : Nat} {data : Octets}

private theorem getU16_written {i : Fin kMaxWakeSources}
    (hApart : ¬ CoversSource start data i) :
    getU16 (writeEach wakeupRegOffsetReadOnly (renderRegisters cfg) start data)
        (sourceAddr i) =
      sourceReg (cfg.sources i) := by
  have hSlice : slice (writeEach wakeupRegOffsetReadOnly (renderRegisters cfg)
      start data) (sourceAddr i) 2 =
        slice (renderRegisters cfg) (sourceAddr i) 2 :=
    slice_writeEach hApart
  rw [getU16, hSlice, ← getU16, getU16_source]

private theorem written_status_of_covered (cfg : WakeupFunctionalConfig)
    (hCovers : CoversStatus start data) :
    ∃ octet, start ≤ statusAddr ∧ data[statusAddr - start]? = some octet ∧
      (writeEach wakeupRegOffsetReadOnly (renderRegisters cfg) start
        data)[statusAddr]? = some octet := by
  obtain ⟨i, hLo, hHi, hFrom, hTo⟩ := hCovers
  obtain rfl : i = statusAddr := by omega
  have hIndex : statusAddr - start < data.length := by omega
  have hBlock : statusAddr < (renderRegisters cfg).length := by
    rw [length_renderRegisters]
    decide
  refine ⟨data[statusAddr - start], hFrom, by simp [hIndex], ?_⟩
  rw [getElem?_writeEach_of_inside hFrom hTo hBlock (by decide)]
  simp [hIndex]

private theorem written_status_of_uncovered
    (hApart : ¬ CoversStatus start data) :
    (writeEach wakeupRegOffsetReadOnly (renderRegisters cfg) start
      data)[statusAddr]? = some (UInt8.ofNat cfg.wupStatus.mask.toNat) := by
  rw [getElem?_writeEach_of_outside, renderRegisters_status]
  by_contra hInside
  exact hApart ⟨statusAddr, le_rfl, Nat.lt_succ_self _, by omega, by omega⟩

private theorem not_setsStatusBit (hApart : ¬ CoversStatus start data)
    (i : Nat) :
    setsStatusBit start data i = false := by
  by_contra hSets
  simp only [setsStatusBit, Bool.not_eq_false, Bool.decide_and,
    Bool.and_eq_true, decide_eq_true_eq, Option.any_eq_true] at hSets
  obtain ⟨hFrom, octet, hOctet, -⟩ := hSets
  have hIndex := (List.getElem?_eq_some_iff.mp hOctet).1
  exact hApart ⟨statusAddr, le_rfl, Nat.lt_succ_self _, hFrom, by omega⟩

private theorem latched_written {i : Nat} (hi : i < kMaxWakeSources) :
    (clearWritten (getU16 (writeEach wakeupRegOffsetReadOnly
        (renderRegisters cfg) start data) kWakeupRegWupStatus)
          cfg.wupStatus).sourceIsLatched i =
      (cfg.wupStatus.sourceIsLatched i &&
        (decide (CoversStatus start data) && !setsStatusBit start data i)) := by
  rw [sourceIsLatched_clearWritten hi]
  by_cases hCovers : CoversStatus start data
  · obtain ⟨octet, hFrom, hData, hWritten⟩ :=
      written_status_of_covered cfg hCovers
    rw [testBit_getU16 hWritten hi]
    simp [setsStatusBit, hFrom, hData, hCovers]
  · -- The octet is the rendered one, so its set bits are the latched sources.
    have hByte : cfg.wupStatus.mask.toNat < 2 ^ 8 := cfg.wupStatus.mask_lt
    have hBit : flag (UInt8.ofNat cfg.wupStatus.mask.toNat) i =
        cfg.wupStatus.sourceIsLatched i := by
      rw [flag, UInt8.toNat_ofNat_of_lt' hByte,
        WupStatus.sourceIsLatched_eq hi]
    rw [testBit_getU16 (written_status_of_uncovered hCovers) hi, hBit]
    simp [hCovers]

end Written

/-! ## One write -/

/-- A write that covers the latched sources or finds none, and leaves only
sources uncovered that their registers hold. -/
structure WritesExactly (start : Nat) (data : Octets)
    (cfg : WakeupFunctionalConfig) : Prop where
  latched : CoversStatus start data ∨ cfg.wupStatus.isClear = true
  sources : ∀ i : Fin kMaxWakeSources, ¬ CoversSource start data i →
    SourceExact (cfg.sources i)

private theorem changesWritten_parse_iff {cfg : WakeupFunctionalConfig}
    {start : Nat} {data : Octets} :
    ChangesWritten start data cfg
        (wakeupParseRegisters (writeEach wakeupRegOffsetReadOnly
          (renderRegisters cfg) start data) cfg) ↔
      WritesExactly start data cfg := by
  have hSources : ∀ i : Fin kMaxWakeSources, ¬ CoversSource start data i →
      ((wakeupParseRegisters (writeEach wakeupRegOffsetReadOnly
          (renderRegisters cfg) start data) cfg).sources i = cfg.sources i ↔
        SourceExact (cfg.sources i)) := by
    intro i hApart
    rw [← parseSource_sourceReg_eq_iff]
    simp only [wakeupParseRegisters, getU16_written hApart]
  constructor
  · rintro ⟨hLatched, hKept⟩
    refine ⟨?_, fun i hApart => (hSources i hApart).mp (hKept i hApart)⟩
    by_cases hCovers : CoversStatus start data
    · exact Or.inl hCovers
    · right
      rw [WupStatus.isClear_iff]
      intro i hi
      have hAfter := (latched_written hi).symm.trans (hLatched i hi)
      rw [not_setsStatusBit hCovers] at hAfter
      simpa [hCovers] using hAfter.symm
  · rintro ⟨hLatched, hExact⟩
    refine ⟨?_, fun i hApart => (hSources i hApart).mpr (hExact i hApart)⟩
    intro i hi
    refine (latched_written hi).trans ?_
    rcases hLatched with hCovers | hClear
    · simp [hCovers]
    · simp [WupStatus.isClear_iff.mp hClear i hi]

/-- An accepted write changes only what it writes exactly when it covers the
latched sources or there are none, and every source outside it is one that its
register holds. -/
theorem applyReconfig_changesWritten_iff (cfg : WakeupFunctionalConfig)
    (payload : Octets) (hAccepted : (applyReconfig cfg payload).2 = none) :
    ChangesWritten (startAddress payload) (writtenData payload) cfg
        (applyReconfig cfg payload).1 ↔
      WritesExactly (startAddress payload) (writtenData payload) cfg := by
  unfold applyReconfig at hAccepted ⊢
  split at hAccepted
  · cases hAccepted
  · split at hAccepted
    · cases hAccepted
    · next hLength hRange =>
        rw [if_neg hLength, if_neg hRange]
        exact changesWritten_parse_iff

/-- The first source is latched; all are disabled, with a trigger on the rising
edge. -/
def latchedConfig : WakeupFunctionalConfig where
  wupStatus := WupStatus.none.latchSource 0
  sources := fun _ => { triggerOnRisingEdge := true }

theorem applyReconfig_latchedConfig :
    ChangesWritten (startAddress [0, 2, 1]) (writtenData [0, 2, 1])
        latchedConfig (applyReconfig latchedConfig [0, 2, 1]).1 ↔
      WritesExactly (startAddress [0, 2, 1]) (writtenData [0, 2, 1])
        latchedConfig :=
  applyReconfig_changesWritten_iff latchedConfig [0, 2, 1] (by decide)

/-- A write of one octet of the endpoint status loses the latched source and
enables the disabled ones. -/
theorem latchedConfig_not_kept :
    (applyReconfig latchedConfig [0, 2, 1]).2 = none ∧
      ¬ ChangesWritten (startAddress [0, 2, 1]) (writtenData [0, 2, 1])
        latchedConfig (applyReconfig latchedConfig [0, 2, 1]).1 ∧
      latchedConfig.wupStatus.sourceIsLatched 0 = true ∧
      (applyReconfig latchedConfig [0, 2, 1]).1.wupStatus.isClear = true ∧
      ∀ i : Fin 8, (latchedConfig.sources i).enabled = false ∧
        ((applyReconfig latchedConfig [0, 2, 1]).1.sources i).enabled =
          true := by
  refine ⟨by decide, ?_, by decide, by decide, by decide⟩
  intro hChanges
  have hLatched := hChanges.latched 0 (by decide)
  exact absurd hLatched (by decide)

end CppRcp.Wakeup
