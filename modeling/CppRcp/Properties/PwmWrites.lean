import CppRcp.Peripherals.Signals

/-!
# What writes leave in a PWM output

The endpoint and the function of the values agree on every write that combines,
and keep the active duration between the limits that are in order.
-/

namespace CppRcp.Pwm

open CppRcp.Endpoint

/-! ## Combinations -/

def Combinable (op : WriteSemantics) : Prop :=
  op ≠ .reserved ∧ op ≠ .reconfigure

instance : DecidablePred Combinable :=
  fun op => inferInstanceAs (Decidable (op ≠ .reserved ∧ op ≠ .reconfigure))

def combined (op : WriteSemantics) (current request : Nat) : Nat :=
  match op with
  | .replace => request
  | .or => current ||| request
  | .and => current &&& request
  | .xor => current ^^^ request
  | .add => min (current + request) 65535
  | .subtract => request - current
  | .reserved | .reconfigure => current

private theorem toNat_saturatingAdd (a b : UInt16) :
    (saturatingAdd a b).toNat = min (a.toNat + b.toNat) 65535 := by
  have ha := a.toNat_lt
  have hb := b.toNat_lt
  have hSum : (a + b).toNat = (a.toNat + b.toNat) % 65536 := UInt16.toNat_add a b
  unfold saturatingAdd
  split
  · next hWrapped =>
      rw [UInt16.lt_iff_toNat_lt, hSum] at hWrapped
      change 65535 = _
      omega
  · next hFits =>
      rw [UInt16.lt_iff_toNat_lt, hSum] at hFits
      rw [hSum]
      omega

private theorem toNat_saturatingSubtract (a b : UInt16) :
    (saturatingSubtract a b).toNat = a.toNat - b.toNat := by
  unfold saturatingSubtract
  split
  · next hLess =>
      rw [UInt16.lt_iff_toNat_lt] at hLess
      change 0 = _
      omega
  · next hLe =>
      exact UInt16.toNat_sub_of_le a b (UInt16.not_lt.mp hLe)

private theorem applyWriteField_ok {op : WriteSemantics} (h : Combinable op)
    (current operand : UInt16) :
    applyWriteField op current operand =
        .ok (fieldAfter op current operand) ∧
      (fieldAfter op current operand).toNat =
        combined op current.toNat operand.toNat := by
  cases op with
  | replace => exact ⟨rfl, rfl⟩
  | or => exact ⟨rfl, UInt16.toNat_or current operand⟩
  | and => exact ⟨rfl, UInt16.toNat_and current operand⟩
  | xor => exact ⟨rfl, UInt16.toNat_xor current operand⟩
  | add => exact ⟨rfl, toNat_saturatingAdd current operand⟩
  | subtract => exact ⟨rfl, toNat_saturatingSubtract operand current⟩
  | reserved => exact absurd rfl h.1
  | reconfigure => exact absurd rfl h.2

/-! ## Limits -/

def capped (dutyCycleMin dutyCycleMax active : UInt16) : UInt16 :=
  let active := if active < dutyCycleMin then dutyCycleMin else active
  if dutyCycleMax < active then dutyCycleMax else active

private theorem toNat_capped (lo hi active : UInt16) :
    (capped lo hi active).toNat =
      min (max active.toNat lo.toNat) hi.toNat := by
  unfold capped
  simp only [UInt16.lt_iff_toNat_lt]
  split <;> split <;> omega

private theorem applyWrite_eq {op : WriteSemantics} (h : Combinable op)
    (current request : PwmValue) (lo hi : UInt16) :
    applyWrite current request op lo hi =
      { period := fieldAfter op current.period request.period
        activeDuration := capped lo hi
          (fieldAfter op current.activeDuration request.activeDuration) } := by
  have hOp : op ≠ .reserved ∧ op ≠ .reconfigure := h
  unfold applyWrite capped
  simp only [if_pos hOp]
  generalize fieldAfter op current.activeDuration request.activeDuration =
    active
  by_cases hLow : active < lo
  · simp only [if_pos hLow]
    split <;> rfl
  · simp only [if_neg hLow]
    split <;> rfl

def PwmOutEndpoint.written (ep : PwmOutEndpoint) (op : WriteSemantics)
    (operand : PwmValue) : PwmValue :=
  applyWrite ep.state operand op ep.cfg.dutyCycleMin ep.cfg.dutyCycleMax

private theorem handleWrite_eq {op : WriteSemantics} (h : Combinable op)
    (ep : PwmOutEndpoint) (operand : PwmValue) :
    ep.handleWrite op operand =
      ({ ep with state := ep.written op operand },
        .ok (ep.written op operand)) := by
  unfold PwmOutEndpoint.handleWrite
  rw [(applyWriteField_ok h _ _).1, (applyWriteField_ok h _ _).1,
    PwmOutEndpoint.written, applyWrite_eq h]
  rfl

private theorem handleWrite_refused {op : WriteSemantics} (h : ¬ Combinable op)
    (ep : PwmOutEndpoint) (operand : PwmValue) :
    ∃ e, ep.handleWrite op operand = (ep, .error e) := by
  cases op with
  | reserved => exact ⟨_, rfl⟩
  | reconfigure => exact ⟨_, rfl⟩
  | _ => exact absurd ⟨nofun, nofun⟩ h

/-! ## The law of a write -/

/-- The active duration lies between the limits, or at the lower one when
nothing lies between them. -/
def Limited (lo hi active : UInt16) : Prop :=
  if lo ≤ hi then lo ≤ active ∧ active ≤ hi else active = lo

private theorem limited_capped_iff (lo hi active : UInt16) :
    Limited lo hi (capped lo hi active) ↔ lo ≤ hi := by
  have hCapped := toNat_capped lo hi active
  unfold Limited
  by_cases hOrder : lo ≤ hi
  · rw [if_pos hOrder]
    rw [UInt16.le_iff_toNat_le] at hOrder
    simp only [UInt16.le_iff_toNat_le, hCapped]
    omega
  · rw [if_neg hOrder]
    rw [UInt16.le_iff_toNat_le] at hOrder
    refine iff_of_false (fun hEq => ?_) (by rwa [UInt16.le_iff_toNat_le])
    rw [hEq] at hCapped
    omega

structure WriteLaw (ep : PwmOutEndpoint) (op : WriteSemantics)
    (operand : PwmValue) : Prop where
  writes : Combinable op →
    ep.handleWrite op operand =
      ({ ep with state := ep.written op operand },
        .ok (ep.written op operand))
  period : Combinable op →
    (ep.written op operand).period.toNat =
      combined op ep.state.period.toNat operand.period.toNat
  active : Combinable op → ep.cfg.dutyCycleMin ≤ ep.cfg.dutyCycleMax →
    (ep.written op operand).activeDuration.toNat =
      min (max (combined op ep.state.activeDuration.toNat
          operand.activeDuration.toNat) ep.cfg.dutyCycleMin.toNat)
        ep.cfg.dutyCycleMax.toNat
  limits : Combinable op →
    Limited ep.cfg.dutyCycleMin ep.cfg.dutyCycleMax
      (ep.handleWrite op operand).1.state.activeDuration
  refuses : ¬ Combinable op →
    ∃ e, ep.handleWrite op operand = (ep, .error e)

private theorem writeLaw_iff (ep : PwmOutEndpoint) (op : WriteSemantics)
    (operand : PwmValue) :
    WriteLaw ep op operand ↔
      ep.cfg.dutyCycleMin ≤ ep.cfg.dutyCycleMax ∨ ¬ Combinable op := by
  have hLimits : Combinable op →
      (Limited ep.cfg.dutyCycleMin ep.cfg.dutyCycleMax
        (ep.handleWrite op operand).1.state.activeDuration ↔
          ep.cfg.dutyCycleMin ≤ ep.cfg.dutyCycleMax) := by
    intro hOp
    rw [handleWrite_eq hOp, PwmOutEndpoint.written, applyWrite_eq hOp]
    exact limited_capped_iff _ _ _
  constructor
  · intro hLaw
    by_cases hOp : Combinable op
    · exact .inl ((hLimits hOp).mp (hLaw.limits hOp))
    · exact .inr hOp
  · intro hCondition
    refine ⟨fun hOp => handleWrite_eq hOp ep operand, fun hOp => ?_,
      fun hOp _ => ?_, fun hOp => (hLimits hOp).mpr ?_,
      fun hOp => handleWrite_refused hOp ep operand⟩
    · rw [PwmOutEndpoint.written, applyWrite_eq hOp]
      exact (applyWriteField_ok hOp _ _).2
    · rw [PwmOutEndpoint.written, applyWrite_eq hOp]
      dsimp only
      rw [toNat_capped, (applyWriteField_ok hOp _ _).2]
    · rcases hCondition with hOrder | hNot
      · exact hOrder
      · exact absurd hOp hNot

/-! ## Runs -/

private theorem cfg_handleWrite (ep : PwmOutEndpoint) (op : WriteSemantics)
    (operand : PwmValue) : (ep.handleWrite op operand).1.cfg = ep.cfg := by
  by_cases hOp : Combinable op
  · rw [handleWrite_eq hOp]
  · obtain ⟨e, hRefused⟩ := handleWrite_refused hOp ep operand
    rw [hRefused]

theorem cfg_run (ep : PwmOutEndpoint)
    (writes : List (WriteSemantics × PwmValue)) :
    (ep.run writes).cfg = ep.cfg := by
  induction writes generalizing ep with
  | nil => rfl
  | cons write writes ih =>
      change ((ep.handleWrite write.1 write.2).1.run writes).cfg = ep.cfg
      rw [ih, cfg_handleWrite]

/-- Each write of a run does what it is to do in the state it is made in. -/
def RunLaw (ep : PwmOutEndpoint)
    (writes : List (WriteSemantics × PwmValue)) : Prop :=
  ∀ before op operand after, writes = before ++ (op, operand) :: after →
    WriteLaw (ep.run before) op operand

/-- The limits are in order, or there is no write that they would apply to. -/
theorem runLaw_iff (ep : PwmOutEndpoint)
    (writes : List (WriteSemantics × PwmValue)) :
    RunLaw ep writes ↔
      ep.cfg.dutyCycleMin ≤ ep.cfg.dutyCycleMax ∨
        ∀ write ∈ writes, ¬ Combinable write.1 := by
  have hStep : ∀ before op operand,
      WriteLaw (ep.run before) op operand ↔
        ep.cfg.dutyCycleMin ≤ ep.cfg.dutyCycleMax ∨ ¬ Combinable op := by
    intro before op operand
    rw [writeLaw_iff, cfg_run]
  constructor
  · intro hRun
    by_cases hOrder : ep.cfg.dutyCycleMin ≤ ep.cfg.dutyCycleMax
    · exact .inl hOrder
    · refine .inr fun write hWrite => ?_
      obtain ⟨before, after, hWrites⟩ := List.append_of_mem hWrite
      have hLaw := hRun before write.1 write.2 after hWrites
      exact ((hStep before write.1 write.2).mp hLaw).resolve_left hOrder
  · intro hCondition before op operand after hWrites
    refine (hStep before op operand).mpr ?_
    rcases hCondition with hOrder | hNone
    · exact .inl hOrder
    · refine .inr (hNone (op, operand) ?_)
      rw [hWrites]
      simp

theorem runLaw_iff_ordered :
    RunLaw { cfg := { dutyCycleMin := 10, dutyCycleMax := 200 } }
      [(.replace, ⟨0xFFF0, 4⟩), (.add, ⟨0x20, 300⟩), (.reserved, ⟨1, 1⟩),
        (.subtract, ⟨0xFFFF, 250⟩)] :=
  (runLaw_iff _ _).mpr (.inl (by decide))

/-- A lower limit of 100 over an upper limit of 50. -/
theorem inverted_not_runLaw :
    ¬ RunLaw { cfg := { dutyCycleMin := 100, dutyCycleMax := 50 } }
      [(.replace, ⟨1000, 70⟩)] := by
  intro hRun
  have hLimited := (hRun [] .replace ⟨1000, 70⟩ [] rfl).limits (by decide)
  revert hLimited
  unfold Limited
  decide

end CppRcp.Pwm
