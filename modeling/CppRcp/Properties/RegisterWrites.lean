import CppRcp.Peripherals.Registers

/-!
# What a write to a register block does

A block is rendered, patched and read back.  The octets of the write read back
as written, apart from the bits that no field holds and the values that a field
has no enumerator for; every other octet is rendered as before.
-/

namespace CppRcp.Endpoint

open CppRcp.Foundation CppRcp.Acf

/-- The effect of a configuration write, where `norm` is what an octet written
at a place reads back as, and `unregistered` are the fields without a
register. -/
structure WritesRegisters {σ ρ ε : Type} (block : RegisterBlock UInt8 σ)
    (norm : Nat → UInt8 → UInt8) (unregistered : σ → ρ) (cfg : σ)
    (payload : Octets) (result : σ × Option ε) : Prop where
  accepted : result.2 = none ↔
    kReconfigAddrLen < payload.length ∧
      reconfigStart payload + (reconfigData payload).length ≤ block.len
  refused : result.2 ≠ none → result.1 = cfg
  written : result.2 = none → ∀ i,
    block.Writes (reconfigStart payload) (reconfigData payload).length i →
      (block.render result.1)[i]? =
        (reconfigData payload)[i - reconfigStart payload]?.map (norm i)
  kept : result.2 = none → ∀ i,
    ¬ block.Writes (reconfigStart payload) (reconfigData payload).length i →
      (block.render result.1)[i]? = (block.render cfg)[i]?
  unregistered : unregistered result.1 = unregistered cfg

private theorem writesRegisters_applyBlockReconfig {σ ρ ε : Type}
    {block : RegisterBlock UInt8 σ} {norm : Nat → UInt8 → UInt8}
    {unregistered : σ → ρ} (shortPayload outOfRange : ε)
    (hBack : block.ReadsBack norm)
    (hRest : ∀ image cfg,
      unregistered (block.parse image cfg) = unregistered cfg)
    (cfg : σ) (payload : Octets) :
    WritesRegisters block norm unregistered cfg payload
      (applyBlockReconfig block shortPayload outOfRange cfg payload) := by
  unfold applyBlockReconfig
  split
  · exact ⟨by simp; omega, fun _ => rfl, by simp, by simp, rfl⟩
  · split
    · exact ⟨by simp; omega, fun _ => rfl, by simp, by simp, rfl⟩
    · rename_i hLength hRange
      refine ⟨by simp; omega, by simp, ?_, ?_, hRest _ cfg⟩
      · intro _ i hWrites
        exact block.render_write_of_writes hBack (not_lt.mp hRange) hWrites
      · intro _ i hApart
        exact block.render_write_of_not_writes hBack hApart

/-! ## Octets and flags -/

section Octet

private theorem getElem?_append_add {α : Type} (head tail : List α) (i : Nat) :
    (head ++ tail)[head.length + i]? = tail[i]? := by
  rw [List.getElem?_append_right (Nat.le_add_right _ _),
    Nat.add_sub_cancel_left]

private theorem putBe_getU16At {block : Octets} {addr : Nat} :
    putBe 2 (getU16At block addr).toNat =
      [octetAt block addr, octetAt block (addr + 1)] := by
  have hHigh := (octetAt block addr).toNat_lt
  have hLow := (octetAt block (addr + 1)).toNat_lt
  have hWord : (getU16At block addr).toNat =
      (octetAt block addr).toNat * 256 + (octetAt block (addr + 1)).toNat :=
    (toNat_ofNat_be16 _).trans (be16_drop block addr)
  have hHead : ((octetAt block addr).toNat * 256 +
      (octetAt block (addr + 1)).toNat) / 256 = (octetAt block addr).toNat := by
    omega
  simp [putBe, hWord, hHead]

instance decidableForallOctet {p : UInt8 → Prop} [DecidablePred p] :
    Decidable (∀ octet, p octet) :=
  decidable_of_iff (∀ n : Fin 256, p (UInt8.ofNat n)) <| by
    constructor
    · intro hTable octet
      have hOctet := hTable ⟨octet.toNat, octet.toNat_lt⟩
      rwa [UInt8.ofNat_toNat] at hOctet
    · intro hAll n
      exact hAll _

set_option maxRecDepth 10000 in
private theorem renderEnableClr_flag : ∀ octet : UInt8,
    renderEnableClr (flag octet 0) (flag octet 4) = octet &&& 0x11 := by
  decide

set_option maxRecDepth 10000 in
private theorem renderOptions_flag : ∀ octet : UInt8,
    renderOptions (flag octet 0) (flag octet 3) (flag octet 7) =
      octet &&& 0x89 := by
  decide

private theorem renderEnableClr_and (epEnable epClearReqStorage : Bool) :
    renderEnableClr epEnable epClearReqStorage &&& 0x11 =
      renderEnableClr epEnable epClearReqStorage := by
  cases epEnable <;> cases epClearReqStorage <;> decide

private theorem renderOptions_and
    (epReqCrcEnable epResponseTsEnable epSuppressResponse : Bool) :
    renderOptions epReqCrcEnable epResponseTsEnable epSuppressResponse &&&
        0x89 =
      renderOptions epReqCrcEnable epResponseTsEnable epSuppressResponse := by
  cases epReqCrcEnable <;> cases epResponseTsEnable <;>
    cases epSuppressResponse <;> decide

end Octet

end CppRcp.Endpoint

/-! ## UART -/

namespace CppRcp.Uart

open CppRcp.Foundation CppRcp.Acf CppRcp.Endpoint

/-- The parity polarity is kept only with parity enabled, and the stop bits are
one of the three values. -/
def norm (addr : Nat) (octet : UInt8) : UInt8 :=
  match addr with
  | 2 => octet &&& 0x11
  | 3 => octet &&& 0x89
  | 9 => if flag octet 0 then octet &&& 0x1F else octet &&& 0x1C
  | 10 => if octet = 3 then 3 else if 4 ≤ octet then 4 else 2
  | _ => octet

def unregistered (cfg : UartFunctionalCfg) :
    UInt32 × UInt16 × UInt32 × UartTrigger :=
  (cfg.baudRate, cfg.epRxBufferSize, cfg.uartTimeoutMs, cfg.trigger)

def flagsOf (flags : UInt8) : UartFunctionalCfg where
  parity := parseParity flags
  rtsEnable := flag flags 2
  ctsEnable := flag flags 3
  halfDuplex := flag flags 4

set_option maxRecDepth 10000 in
private theorem renderFlags_flag : ∀ flags : UInt8,
    renderFlags (flagsOf flags) = norm 9 flags := by
  decide

set_option maxRecDepth 10000 in
private theorem stopBits_halfUnits : ∀ octet : UInt8,
    stopBitsToHalfUnits (halfUnitsToStopBits octet) = norm 10 octet := by
  decide

private theorem renderRegisters_parseRegisters (image : Octets)
    (cfg : UartFunctionalCfg) :
    renderRegisters (parseRegisters image cfg) =
      [13, 0, octetAt image 2 &&& 0x11, octetAt image 3 &&& 0x89,
        octetAt image 4, octetAt image 5, octetAt image 6, octetAt image 7,
        octetAt image 8, norm 9 (octetAt image 9), norm 10 (octetAt image 10),
        octetAt image 11, octetAt image 12] := by
  rw [← renderEnableClr_flag, ← renderOptions_flag, ← renderFlags_flag,
    ← stopBits_halfUnits]
  simp only [renderRegisters, parseRegisters, putBe_getU16At]
  rfl

private theorem norm_renderFlags (cfg : UartFunctionalCfg) :
    norm 9 (renderFlags cfg) = renderFlags cfg := by
  unfold renderFlags
  by_cases hNone : cfg.parity = Parity.none.toOctet
  · rw [hNone]
    cases cfg.rtsEnable <;> cases cfg.ctsEnable <;> cases cfg.halfDuplex <;>
      decide
  · rw [decide_eq_true hNone]
    cases decide (cfg.parity = Parity.even.toOctet) <;>
      cases cfg.rtsEnable <;> cases cfg.ctsEnable <;> cases cfg.halfDuplex <;>
      decide

private theorem norm_stopBits (stopBits : UInt8) :
    norm 10 (stopBitsToHalfUnits stopBits) = stopBitsToHalfUnits stopBits := by
  unfold stopBitsToHalfUnits
  split_ifs <;> decide

private theorem readsBack : epFuncBlock.ReadsBack norm where
  readOnly := by
    intro image cfg i _ _ hPlace
    change (renderRegisters (parseRegisters image cfg))[i]? =
      (renderRegisters cfg)[i]?
    rw [renderRegisters_parseRegisters]
    simp only [epFuncBlock, regOffsetReadOnly, Bool.or_eq_true,
      decide_eq_true_iff] at hPlace
    rcases hPlace with rfl | rfl <;> rfl
  writable := by
    intro image cfg i hLength hInside hPlace
    change (renderRegisters (parseRegisters image cfg))[i]? =
      image[i]?.map (norm i)
    rw [renderRegisters_parseRegisters,
      getElem?_eq_octetAt (hInside.trans_eq hLength.symm), Option.map_some]
    change i < 0x0D at hInside
    interval_cases i <;> first | rfl | exact absurd hPlace (by decide)
  rendered := by
    intro cfg i hInside _
    have hEnable := renderEnableClr_and cfg.epEnable cfg.epClearReqStorage
    have hOptions := renderOptions_and cfg.epReqCrcEnable
      cfg.epResponseTsEnable cfg.epSuppressResponse
    have hFlags := norm_renderFlags cfg
    have hStop := norm_stopBits cfg.stopBits
    change i < 0x0D at hInside
    interval_cases i <;> first
      | rfl
      | exact congrArg some hEnable
      | exact congrArg some hOptions
      | exact congrArg some hFlags
      | exact congrArg some hStop

end CppRcp.Uart

/-! ## PWM output -/

namespace CppRcp.Pwm

open CppRcp.Foundation CppRcp.Acf CppRcp.Endpoint

def norm (addr : Nat) (octet : UInt8) : UInt8 :=
  match addr with
  | 2 => octet &&& 0x11
  | 3 => octet &&& 0x89
  | _ => octet

def unregistered (cfg : PwmOutFunctionalConfig) : PwmOutTrigger × UInt16 :=
  (cfg.trigger, cfg.baseClk)

private theorem renderRegisters_parseRegisters (image : Octets)
    (cfg : PwmOutFunctionalConfig) :
    renderRegisters (pwmOutParseRegisters image cfg) =
      [15, 0, octetAt image 2 &&& 0x11, octetAt image 3 &&& 0x89] ++
        (putBe 2 cfg.baseClk.toNat ++
          [octetAt image 6, octetAt image 7, octetAt image 8, octetAt image 9,
            octetAt image 10, octetAt image 11, octetAt image 12,
            octetAt image 13, octetAt image 14]) := by
  rw [← renderEnableClr_flag, ← renderOptions_flag]
  simp only [renderRegisters, pwmOutParseRegisters, putBe_getU16At]
  rfl

private theorem readsBack : epFuncBlock.ReadsBack norm where
  readOnly := by
    intro image cfg i _ _ hPlace
    change (renderRegisters (pwmOutParseRegisters image cfg))[i]? =
      (renderRegisters cfg)[i]?
    rw [renderRegisters_parseRegisters]
    simp only [epFuncBlock, pwmOutRegOffsetReadOnly, Bool.or_eq_true,
      decide_eq_true_iff] at hPlace
    rcases hPlace with ((rfl | rfl) | rfl) | rfl <;> rfl
  writable := by
    intro image cfg i hLength hInside hPlace
    change (renderRegisters (pwmOutParseRegisters image cfg))[i]? =
      image[i]?.map (norm i)
    rw [renderRegisters_parseRegisters,
      getElem?_eq_octetAt (hInside.trans_eq hLength.symm), Option.map_some]
    change i < 0x0F at hInside
    interval_cases i <;> first | rfl | exact absurd hPlace (by decide)
  rendered := by
    intro cfg i hInside _
    have hEnable := renderEnableClr_and cfg.epEnable cfg.epClearReqStorage
    have hOptions := renderOptions_and cfg.epReqCrcEnable
      cfg.epResponseTsEnable cfg.epSuppressResponse
    change i < 0x0F at hInside
    interval_cases i <;> first
      | rfl
      | exact congrArg some hEnable
      | exact congrArg some hOptions

end CppRcp.Pwm

/-! ## GPIO -/

namespace CppRcp.Gpio

open CppRcp.Foundation CppRcp.Acf CppRcp.Endpoint

def norm : Nat → UInt8 → UInt8 := Pwm.norm

def unregistered (cfg : GpioFunctionalConfig) : Fin maxPins → GpioPinCfg :=
  cfg.pins

private theorem renderRegisters_parseRegisters (image : Octets)
    (cfg : GpioFunctionalConfig) :
    renderRegisters (gpioParseRegisters image cfg) =
      [0x29, 0x20, octetAt image 2 &&& 0x11, octetAt image 3 &&& 0x89, 0, 0,
        octetAt image 6, octetAt image 7, octetAt image 8] ++
        List.ofFn fun i : Fin maxPins =>
          octetAt image (kGpioRegDebounceIo0 + i) := by
  rw [← renderEnableClr_flag, ← renderOptions_flag]
  simp only [renderRegisters, gpioParseRegisters, putBe_getU16At]
  rfl

private theorem getElem?_renderRegisters_debounce (cfg : GpioFunctionalConfig)
    (i : Nat) :
    (renderRegisters cfg)[kGpioRegDebounceIo0 + i]? =
      (List.ofFn cfg.debounce)[i]? := by
  exact getElem?_append_add [UInt8.ofNat kGpioEpFuncLen, UInt8.ofNat maxPins,
    _, _, 0, 0, _, _, cfg.clkDivider] (List.ofFn cfg.debounce) i

private theorem norm_debounce (i : Nat) (octet : UInt8) :
    norm (kGpioRegDebounceIo0 + i) octet = octet := by
  unfold norm Pwm.norm kGpioRegDebounceIo0
  split <;> first | omega | rfl

private theorem readsBack : epFuncBlock.ReadsBack norm where
  readOnly := by
    intro image cfg i _ _ hPlace
    change (renderRegisters (gpioParseRegisters image cfg))[i]? =
      (renderRegisters cfg)[i]?
    rw [renderRegisters_parseRegisters]
    simp only [epFuncBlock, gpioRegOffsetReadOnly, Bool.or_eq_true,
      decide_eq_true_iff] at hPlace
    rcases hPlace with ((rfl | rfl) | rfl) | rfl <;> rfl
  writable := by
    intro image cfg i hLength hInside hPlace
    change (renderRegisters (gpioParseRegisters image cfg))[i]? =
      image[i]?.map (norm i)
    rw [getElem?_eq_octetAt (hInside.trans_eq hLength.symm), Option.map_some]
    rcases Nat.lt_or_ge i kGpioRegDebounceIo0 with hHead | hTail
    · rw [renderRegisters_parseRegisters]
      change i < 0x09 at hHead
      interval_cases i <;> first | rfl | exact absurd hPlace (by decide)
    · obtain ⟨k, rfl⟩ := Nat.exists_eq_add_of_le hTail
      have hPin : k < maxPins := by
        change kGpioRegDebounceIo0 + k < kGpioRegDebounceIo0 + maxPins
          at hInside
        omega
      rw [getElem?_renderRegisters_debounce, norm_debounce, List.getElem?_ofFn,
        dif_pos hPin]
      rfl
  rendered := by
    intro cfg i hInside _
    change (renderRegisters cfg)[i]?.map (norm i) = (renderRegisters cfg)[i]?
    rcases Nat.lt_or_ge i kGpioRegDebounceIo0 with hHead | hTail
    · have hEnable := renderEnableClr_and cfg.epEnable cfg.epClearReqStorage
      have hOptions := renderOptions_and cfg.epReqCrcEnable
        cfg.epResponseTsEnable cfg.epSuppressResponse
      change i < 0x09 at hHead
      interval_cases i <;> first
        | rfl
        | exact congrArg some hEnable
        | exact congrArg some hOptions
    · obtain ⟨k, rfl⟩ := Nat.exists_eq_add_of_le hTail
      have hNorm : norm (kGpioRegDebounceIo0 + k) = id := by
        funext octet
        exact norm_debounce k octet
      rw [hNorm, Option.map_id, id]

end CppRcp.Gpio

/-! ## SPI -/

namespace CppRcp.Spi

open CppRcp.Foundation CppRcp.Acf CppRcp.Endpoint

def normChannel (reg : Nat) (octet : UInt8) : UInt8 :=
  if reg = 2 then octet &&& 0x1F else octet

def norm (addr : Nat) (octet : UInt8) : UInt8 :=
  if addr < kRegChannelBase then Pwm.norm addr octet
  else normChannel ((addr - kRegChannelBase) % kRegChannelSpan) octet

def unregisteredChannel (ch : SpiChannelCfg) :
    SpiBitOrder × SpiTrigger × UInt32 × UInt32 × UInt32 :=
  (ch.bitOrder, ch.trigger, ch.clockDivider, ch.interByteDelayNs,
    ch.interTransferDelayNs)

def unregistered (cfg : SpiFunctionalCfg) (c : Fin maxChannels) :
    SpiBitOrder × SpiTrigger × UInt32 × UInt32 × UInt32 :=
  unregisteredChannel (cfg.channels c)

def channelCfgOf (cfgByte : UInt8) : SpiChannelCfg where
  mode := modeFromBits (flag cfgByte 0) (flag cfgByte 1)
  csPolarity := if flag cfgByte 2 then .activeHigh else .activeLow
  useCommonCs := flag cfgByte 3
  deassertCsPause := flag cfgByte 4

set_option maxRecDepth 10000 in
private theorem renderChannelCfg_flag : ∀ cfgByte : UInt8,
    renderChannelCfg (channelCfgOf cfgByte) = cfgByte &&& 0x1F := by
  decide

private theorem renderChannelCfg_and (ch : SpiChannelCfg) :
    renderChannelCfg ch &&& 0x1F = renderChannelCfg ch := by
  unfold renderChannelCfg
  cases ch.mode <;> cases ch.csPolarity <;> cases ch.useCommonCs <;>
    cases ch.deassertCsPause <;> decide

private theorem renderChannel_parseChannel (image : Octets) (base : Nat)
    (ch : SpiChannelCfg) :
    renderChannel (parseChannel image base ch) =
      [octetAt image base, octetAt image (base + 1),
        octetAt image (base + 2) &&& 0x1F, octetAt image (base + 3),
        octetAt image (base + 4), octetAt image (base + 5),
        octetAt image (base + 6), 0] := by
  rw [← renderChannelCfg_flag]
  simp only [renderChannel, parseChannel, putBe_getU16At]
  rfl

def head (cfg : SpiFunctionalCfg) : Octets :=
  [UInt8.ofNat kEpFuncLen, UInt8.ofNat ((maxChannels - 1) % 16),
    renderEnableClr cfg.epEnable cfg.epClearReqStorage,
    renderOptions cfg.epReqCrcEnable cfg.epResponseTsEnable
      cfg.epSuppressResponse] ++ putBe 2 cfg.epStatus.toNat

private theorem getElem?_renderRegisters_head (cfg : SpiFunctionalCfg) {i : Nat}
    (h : i < kRegChannelBase) : (renderRegisters cfg)[i]? = (head cfg)[i]? := by
  unfold renderRegisters
  rw [← List.append_assoc]
  exact List.getElem?_append_left h

private theorem getElem?_renderRegisters_channel (cfg : SpiFunctionalCfg)
    (c : Fin maxChannels) {reg : Nat} (h : reg < kRegChannelSpan) :
    (renderRegisters cfg)[kRegChannelBase + (c * kRegChannelSpan + reg)]? =
      (renderChannel (cfg.channels c))[reg]? := by
  have hRow : (List.ofFn fun c => renderChannel (cfg.channels c))[c.val]? =
      some (renderChannel (cfg.channels c)) := by
    rw [List.getElem?_ofFn, dif_pos c.isLt]
  rw [← getElem?_flatten_rows (length_renderChannels cfg) hRow h]
  unfold renderRegisters
  rw [← List.append_assoc]
  exact getElem?_append_add (head cfg) _ _

private theorem place_cases {i : Nat} (h : i < kEpFuncLen) :
    i < kRegChannelBase ∨ ∃ (c : Fin maxChannels) (reg : Nat),
      reg < kRegChannelSpan ∧
        i = kRegChannelBase + (c * kRegChannelSpan + reg) := by
  rcases Nat.lt_or_ge i kRegChannelBase with hHead | hTail
  · exact .inl hHead
  · obtain ⟨k, rfl⟩ := Nat.exists_eq_add_of_le hTail
    have hChannels : k < maxChannels * kRegChannelSpan := by
      unfold kEpFuncLen at h
      omega
    refine .inr ⟨⟨k / kRegChannelSpan, Nat.div_lt_of_lt_mul ?_⟩,
      k % kRegChannelSpan, Nat.mod_lt _ (by decide), ?_⟩
    · rwa [Nat.mul_comm]
    · rw [Nat.mul_comm, Nat.div_add_mod]

private theorem regOffsetReadOnly_channel (c reg : Nat)
    (h : reg < kRegChannelSpan) :
    regOffsetReadOnly (kRegChannelBase + (c * kRegChannelSpan + reg)) =
      decide (reg = kChRegReserved) := by
  have hBase : kRegChannelBase ≤
      kRegChannelBase + (c * kRegChannelSpan + reg) := Nat.le_add_right _ _
  have hHead : ¬ (decide (kRegChannelBase + (c * kRegChannelSpan + reg) = 0) ||
      decide (kRegChannelBase + (c * kRegChannelSpan + reg) = 1)) = true := by
    rw [Bool.or_eq_true, decide_eq_true_iff, decide_eq_true_iff]
    unfold kRegChannelBase
    omega
  unfold regOffsetReadOnly
  rw [if_neg hHead, if_pos hBase, Nat.add_sub_cancel_left,
    Nat.mul_add_mod_self_right, Nat.mod_eq_of_lt h]

private theorem norm_channel (c reg : Nat) (h : reg < kRegChannelSpan) :
    norm (kRegChannelBase + (c * kRegChannelSpan + reg)) = normChannel reg := by
  funext octet
  unfold norm
  rw [if_neg (by omega), Nat.add_sub_cancel_left, Nat.mul_add_mod_self_right,
    Nat.mod_eq_of_lt h]

private theorem norm_head {i : Nat} (h : i < kRegChannelBase) :
    norm i = Pwm.norm i := by
  funext octet
  unfold norm
  rw [if_pos h]

private theorem readsBack : epFuncBlock.ReadsBack norm where
  readOnly := by
    intro image cfg i _ hInside hPlace
    change (renderRegisters (parseRegisters image cfg))[i]? =
      (renderRegisters cfg)[i]?
    change regOffsetReadOnly i = true at hPlace
    rcases place_cases hInside with hHead | ⟨c, reg, hReg, rfl⟩
    · rw [getElem?_renderRegisters_head _ hHead,
        getElem?_renderRegisters_head _ hHead]
      change i < 6 at hHead
      interval_cases i <;> first | rfl | exact absurd hPlace (by decide)
    · rw [regOffsetReadOnly_channel _ _ hReg, decide_eq_true_iff] at hPlace
      rw [getElem?_renderRegisters_channel _ _ hReg,
        getElem?_renderRegisters_channel _ _ hReg, hPlace]
      rfl
  writable := by
    intro image cfg i hLength hInside hPlace
    change (renderRegisters (parseRegisters image cfg))[i]? =
      image[i]?.map (norm i)
    change regOffsetReadOnly i = false at hPlace
    rw [getElem?_eq_octetAt (hInside.trans_eq hLength.symm), Option.map_some]
    rcases place_cases hInside with hHead | ⟨c, reg, hReg, rfl⟩
    · rw [getElem?_renderRegisters_head _ hHead, norm_head hHead]
      have hParsed : head (parseRegisters image cfg) =
          [UInt8.ofNat kEpFuncLen, UInt8.ofNat ((maxChannels - 1) % 16),
            octetAt image 2 &&& 0x11, octetAt image 3 &&& 0x89,
            octetAt image 4, octetAt image 5] := by
        rw [← renderEnableClr_flag, ← renderOptions_flag]
        simp only [head, parseRegisters, putBe_getU16At]
        rfl
      rw [hParsed]
      change i < 6 at hHead
      interval_cases i <;> first | rfl | exact absurd hPlace (by decide)
    · rw [regOffsetReadOnly_channel _ _ hReg, decide_eq_false_iff_not]
        at hPlace
      rw [getElem?_renderRegisters_channel _ _ hReg, norm_channel _ _ hReg,
        ← Nat.add_assoc]
      have hParsed := renderChannel_parseChannel image
        (kRegChannelBase + c * kRegChannelSpan) (cfg.channels c)
      change (renderChannel (parseChannel image
        (kRegChannelBase + c * kRegChannelSpan) (cfg.channels c)))[reg]? = _
      rw [hParsed]
      change reg < 8 at hReg
      change ¬ reg = 7 at hPlace
      interval_cases reg <;> first | rfl | exact absurd rfl hPlace
  rendered := by
    intro cfg i hInside _
    change (renderRegisters cfg)[i]?.map (norm i) = (renderRegisters cfg)[i]?
    rcases place_cases hInside with hHead | ⟨c, reg, hReg, rfl⟩
    · rw [getElem?_renderRegisters_head _ hHead, norm_head hHead]
      have hEnable := renderEnableClr_and cfg.epEnable cfg.epClearReqStorage
      have hOptions := renderOptions_and cfg.epReqCrcEnable
        cfg.epResponseTsEnable cfg.epSuppressResponse
      change i < 6 at hHead
      interval_cases i <;> first
        | rfl
        | exact congrArg some hEnable
        | exact congrArg some hOptions
    · rw [getElem?_renderRegisters_channel _ _ hReg, norm_channel _ _ hReg]
      have hCfg := renderChannelCfg_and (cfg.channels c)
      change reg < 8 at hReg
      interval_cases reg <;> first | rfl | exact congrArg some hCfg

end CppRcp.Spi

namespace CppRcp.Endpoint

open CppRcp.Foundation CppRcp.Acf

/-- A write to the functional registers of the four endpoint kinds, whatever
the configuration before and whatever the payload. -/
theorem applyReconfig_writesRegisters (payload : Octets) :
    (∀ cfg, WritesRegisters Uart.epFuncBlock Uart.norm Uart.unregistered cfg
      payload (Uart.applyReconfig cfg payload)) ∧
    (∀ cfg, WritesRegisters Spi.epFuncBlock Spi.norm Spi.unregistered cfg
      payload (Spi.applyReconfig cfg payload)) ∧
    (∀ cfg, WritesRegisters Gpio.epFuncBlock Gpio.norm Gpio.unregistered cfg
      payload (Gpio.applyReconfig cfg payload)) ∧
    ∀ cfg, WritesRegisters Pwm.epFuncBlock Pwm.norm Pwm.unregistered cfg
      payload (Pwm.applyReconfig cfg payload) := by
  refine ⟨?_, ?_, ?_, ?_⟩ <;> intro cfg
  · exact writesRegisters_applyBlockReconfig _ _ Uart.readsBack
      (fun _ _ => rfl) cfg payload
  · exact writesRegisters_applyBlockReconfig _ _ Spi.readsBack
      (fun _ _ => rfl) cfg payload
  · exact writesRegisters_applyBlockReconfig _ _ Gpio.readsBack
      (fun _ _ => rfl) cfg payload
  · exact writesRegisters_applyBlockReconfig _ _ Pwm.readsBack
      (fun _ _ => rfl) cfg payload

end CppRcp.Endpoint
