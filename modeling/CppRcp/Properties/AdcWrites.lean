import CppRcp.Foundation.Runs
import CppRcp.Peripherals.Setters

/-!
# What a register write to an ADC configuration keeps

A write should keep every field that it does not cover.  Two fields are wider
than their registers: the whole block is rendered, patched and read back, so
they lose their high octet in any write that does not cover them.
-/

namespace CppRcp.Adc

open CppRcp.Foundation CppRcp.Acf

def startAddress (payload : Octets) : Nat := be16 payload

def writtenData (payload : Octets) : Octets := payload.drop adcReconfigAddrLen

/-! ## The fields and their registers -/

inductive AdcField
  | epEnable | epClearReqStorage | epReqCrcEnable | epResponseTsEnable
  | epSuppressResponse | epStatus | baseClkDivider | sampleInterval
  | adcAvgIntervalsPerRequest | adcSamplesPerAvgInterval | adcCombineAvgValues
  | resolution | triggerMin | triggerMax
  deriving DecidableEq, Repr

namespace AdcField

def addr : AdcField → Nat
  | .epEnable | .epClearReqStorage => 2
  | .epReqCrcEnable | .epResponseTsEnable | .epSuppressResponse => 3
  | .epStatus => 6
  | .baseClkDivider => 8
  | .sampleInterval => 9
  | .adcAvgIntervalsPerRequest => 10
  | .adcSamplesPerAvgInterval => 11
  | .adcCombineAvgValues => 12
  | .resolution => 13
  | .triggerMin => 14
  | .triggerMax => 16

def width : AdcField → Nat
  | .epStatus | .triggerMin | .triggerMax => 2
  | _ => 1

def value (cfg : AdcFunctionalConfig) : AdcField → Nat
  | .epEnable => cfg.epEnable.toNat
  | .epClearReqStorage => cfg.epClearReqStorage.toNat
  | .epReqCrcEnable => cfg.epReqCrcEnable.toNat
  | .epResponseTsEnable => cfg.epResponseTsEnable.toNat
  | .epSuppressResponse => cfg.epSuppressResponse.toNat
  | .epStatus => cfg.epStatus.toNat
  | .baseClkDivider => cfg.baseClkDivider.toNat
  | .sampleInterval => cfg.sampleInterval.toNat
  | .adcAvgIntervalsPerRequest => cfg.adcAvgIntervalsPerRequest.toNat
  | .adcSamplesPerAvgInterval => cfg.adcSamplesPerAvgInterval.toNat
  | .adcCombineAvgValues => cfg.adcCombineAvgValues.toNat
  | .resolution => cfg.resolution.toNat
  | .triggerMin => cfg.triggerMin.toNat
  | .triggerMax => cfg.triggerMax.toNat

/-- The value of the field in the octets of its register. -/
def read (register : Octets) : AdcField → Nat
  | .epEnable | .epReqCrcEnable => (flag (octetAt register 0) 0).toNat
  | .epClearReqStorage => (flag (octetAt register 0) 4).toNat
  | .epResponseTsEnable => (flag (octetAt register 0) 3).toNat
  | .epSuppressResponse => (flag (octetAt register 0) 7).toNat
  | .epStatus | .triggerMin | .triggerMax => be16 register
  | _ => (octetAt register 0).toNat

def wide : AdcField → Bool
  | .adcAvgIntervalsPerRequest | .adcSamplesPerAvgInterval => true
  | _ => false

end AdcField

/-- The write has an octet of the register of the field. -/
def Covers (payload : Octets) (field : AdcField) : Prop :=
  Overlaps (startAddress payload) (writtenData payload).length field.addr
    field.width

instance (payload : Octets) (field : AdcField) :
    Decidable (Covers payload field) :=
  inferInstanceAs (Decidable (Overlaps _ _ _ _))

/-- An accepted write keeps the fields it does not cover. -/
def KeepsUncovered (cfg : AdcFunctionalConfig) : AdcOp → Prop
  | .applyReconfig payload => ∀ after, applyReconfig cfg payload = .ok after →
      ∀ field, ¬ Covers payload field → field.value after = field.value cfg
  | _ => True

/-- The payload has data, which stays in the block. -/
def InRange (payload : Octets) : Prop :=
  adcReconfigAddrLen < payload.length ∧
    startAddress payload + (writtenData payload).length ≤ adcEpFuncLen

/-- A write in range covers the wide fields that are above 255. -/
def CoversWide (cfg : AdcFunctionalConfig) : AdcOp → Prop
  | .applyReconfig payload => InRange payload →
      ∀ field : AdcField, field.wide = true → 255 < field.value cfg →
        Covers payload field
  | _ => True

/-! ## The block -/

private theorem writeBlock_eq_writeEach (block : Octets) (addr : Nat)
    (octets : Octets) :
    writeBlock block addr octets =
      writeEach adcRegOffsetReadOnly block addr octets := by
  induction octets generalizing block addr with
  | nil => rfl
  | cons octet octets ih => rw [writeBlock, writeEach, ih]

private theorem octetAt_slice (block : Octets) {start width i : Nat}
    (h : i < width) :
    octetAt (slice block start width) i = octetAt block (start + i) := by
  rw [slice, octetAt_take h, octetAt_drop]

private theorem be16_slice (block : Octets) (start : Nat) :
    be16 (slice block start 2) = be16 (block.drop start) := by
  rw [be16, be16_drop, octetAt_slice block (by decide),
    octetAt_slice block (by decide), Nat.add_zero]

private theorem toNat_ofNat_octet (octet : UInt8) :
    (UInt16.ofNat octet.toNat).toNat = octet.toNat := by
  have hOctet := octet.toNat_lt
  apply UInt16.toNat_ofNat_of_lt'
  change _ < 65536
  omega

private theorem value_adcParseRegisters (block : Octets) (field : AdcField) :
    field.value (adcParseRegisters block) =
      field.read (slice block field.addr field.width) := by
  cases field <;>
    simp only [AdcField.value, adcParseRegisters, AdcField.read, AdcField.addr,
      AdcField.width, octetAt_slice block Nat.one_pos, Nat.add_zero,
      be16_slice, toNat_ofNat_be16, toNat_ofNat_octet]

private theorem be16_renderRegisters (cfg : AdcFunctionalConfig) :
    be16 ((renderRegisters cfg).drop 6) = cfg.epStatus.toNat ∧
      be16 ((renderRegisters cfg).drop 14) = cfg.triggerMin.toNat ∧
      be16 ((renderRegisters cfg).drop 16) = cfg.triggerMax.toNat := by
  have hBe : ∀ word : UInt16, be16 (putBe 2 word.toNat) = word.toNat := by
    intro word
    have hWord := word.toNat_lt
    simp [be16, octetAt, putBe]
    omega
  exact ⟨hBe _, hBe _, hBe _⟩

private theorem value_parse_render (cfg : AdcFunctionalConfig)
    (field : AdcField) :
    field.value (adcParseRegisters (renderRegisters cfg)) =
      if field.wide then field.value cfg % 256 else field.value cfg := by
  have hEnable : ∀ enable clear : Bool,
      flag (UInt8.ofNat (weight enable 1 + weight clear 16)) 0 = enable ∧
        flag (UInt8.ofNat (weight enable 1 + weight clear 16)) 4 = clear := by
    decide
  have hOptions : ∀ crc stamp suppress : Bool,
      flag (UInt8.ofNat (weight crc 1 + weight stamp 8 +
        weight suppress 128)) 0 = crc ∧
      flag (UInt8.ofNat (weight crc 1 + weight stamp 8 +
        weight suppress 128)) 3 = stamp ∧
      flag (UInt8.ofNat (weight crc 1 + weight stamp 8 +
        weight suppress 128)) 7 = suppress := by
    decide
  obtain ⟨hStatus, hMin, hMax⟩ := be16_renderRegisters cfg
  have hWide : ∀ word : UInt16,
      (UInt16.ofNat (UInt8.ofNat word.toNat).toNat).toNat =
        word.toNat % 256 := by
    intro word
    rw [toNat_ofNat_octet, UInt8.toNat_ofNat']
  cases field with
  | epEnable =>
      exact congrArg Bool.toNat (hEnable cfg.epEnable cfg.epClearReqStorage).1
  | epClearReqStorage =>
      exact congrArg Bool.toNat (hEnable cfg.epEnable cfg.epClearReqStorage).2
  | epReqCrcEnable =>
      exact congrArg Bool.toNat (hOptions cfg.epReqCrcEnable
        cfg.epResponseTsEnable cfg.epSuppressResponse).1
  | epResponseTsEnable =>
      exact congrArg Bool.toNat (hOptions cfg.epReqCrcEnable
        cfg.epResponseTsEnable cfg.epSuppressResponse).2.1
  | epSuppressResponse =>
      exact congrArg Bool.toNat (hOptions cfg.epReqCrcEnable
        cfg.epResponseTsEnable cfg.epSuppressResponse).2.2
  | epStatus => exact (toNat_ofNat_be16 _).trans hStatus
  | triggerMin => exact (toNat_ofNat_be16 _).trans hMin
  | triggerMax => exact (toNat_ofNat_be16 _).trans hMax
  | adcAvgIntervalsPerRequest => exact hWide cfg.adcAvgIntervalsPerRequest
  | adcSamplesPerAvgInterval => exact hWide cfg.adcSamplesPerAvgInterval
  | baseClkDivider => rfl
  | sampleInterval => rfl
  | adcCombineAvgValues => rfl
  | resolution => rfl

/-! ## One write -/

private theorem applyReconfig_eq_ok_iff {cfg after : AdcFunctionalConfig}
    {payload : Octets} :
    applyReconfig cfg payload = .ok after ↔
      InRange payload ∧
        after = adcParseRegisters (writeEach adcRegOffsetReadOnly
          (renderRegisters cfg) (startAddress payload)
          (writtenData payload)) := by
  have hLength : (writtenData payload).length =
      payload.length - adcReconfigAddrLen := List.length_drop
  unfold applyReconfig InRange startAddress
  rw [hLength, writeBlock_eq_writeEach]
  split
  · simp
    omega
  · split
    · simp
      omega
    · rw [Except.ok.injEq]
      constructor
      · intro hAfter
        exact ⟨by omega, hAfter.symm⟩
      · intro hAfter
        exact hAfter.2.symm

private theorem value_applyReconfig {cfg after : AdcFunctionalConfig}
    {payload : Octets} (h : applyReconfig cfg payload = .ok after)
    {field : AdcField} (hApart : ¬ Covers payload field) :
    field.value after =
      if field.wide then field.value cfg % 256 else field.value cfg := by
  obtain ⟨-, rfl⟩ := applyReconfig_eq_ok_iff.mp h
  rw [value_adcParseRegisters, slice_writeEach hApart,
    ← value_adcParseRegisters, value_parse_render]

private theorem keepsUncovered_iff (cfg : AdcFunctionalConfig) (op : AdcOp) :
    KeepsUncovered cfg op ↔ CoversWide cfg op := by
  cases op with
  | applyReconfig payload =>
      constructor
      · intro hKeeps hRange field hWide hValue
        by_contra hApart
        have hAfter : applyReconfig cfg payload = .ok _ :=
          applyReconfig_eq_ok_iff.mpr ⟨hRange, rfl⟩
        have hKept := hKeeps _ hAfter field hApart
        rw [value_applyReconfig hAfter hApart, if_pos hWide] at hKept
        have hMod := Nat.mod_lt (field.value cfg) (by decide : 256 > 0)
        omega
      · intro hCovers after hAfter field hApart
        have hRange := (applyReconfig_eq_ok_iff.mp hAfter).1
        rw [value_applyReconfig hAfter hApart]
        cases hWide : field.wide with
        | false => rfl
        | true =>
            rw [if_pos rfl]
            apply Nat.mod_eq_of_lt
            by_contra hValue
            exact hApart (hCovers hRange field hWide (by omega))
  | _ => exact Iff.rfl

/-! ## Runs -/

/-- In a run of setters and writes, every accepted write keeps what it does not
cover exactly when none in range leaves a wide field above 255 uncovered. -/
theorem keepsUncovered_run_iff (cfg : AdcFunctionalConfig)
    (ops : List AdcOp) :
    Along AdcOp.apply KeepsUncovered cfg ops ↔
      Along AdcOp.apply CoversWide cfg ops := by
  constructor
  · intro hKeeps
    exact hKeeps.mono fun cfg op => (keepsUncovered_iff cfg op).mp
  · intro hNarrow
    exact hNarrow.mono fun cfg op => (keepsUncovered_iff cfg op).mpr

def wideThenTrigger : List AdcOp :=
  [.setAvgIntervalsPerRequest 300 .hwConfigured { viaOwningStream := true },
    .applyReconfig [0, 14, 0, 1]]

theorem wideThenTrigger_loses :
    ¬ Along AdcOp.apply KeepsUncovered {} wideThenTrigger ∧
      (run AdcOp.apply {} (wideThenTrigger.take 1)).1.adcAvgIntervalsPerRequest
        = 300 ∧
      (run AdcOp.apply {} wideThenTrigger).1.adcAvgIntervalsPerRequest = 44 ∧
      (run AdcOp.apply {} wideThenTrigger).2 = [true, true] ∧
      ¬ Covers [0, 14, 0, 1] .adcAvgIntervalsPerRequest := by
  refine ⟨?_, by decide, by decide, by decide, by decide⟩
  rintro ⟨-, hKeeps, -⟩
  have hWritten : applyReconfig { adcAvgIntervalsPerRequest := 300 }
      [0, 14, 0, 1] =
        .ok { adcAvgIntervalsPerRequest := 44, triggerMin := 1 } := by
    decide
  have hLost := hKeeps _ hWritten .adcAvgIntervalsPerRequest (by decide)
  exact absurd hLost (by decide)

end CppRcp.Adc
