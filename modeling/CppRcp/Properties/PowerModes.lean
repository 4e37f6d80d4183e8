import CppRcp.Bringup.Power

/-!
# Runs of the power manager

Operations of the manager and of its wake-up endpoint come in any order.  The
mode, the stage of the handshake and the count of attempts agree throughout,
and sleep is left only by an acknowledged handshake or a change of the power.
-/

namespace CppRcp.Powerstate

open CppRcp.Foundation CppRcp.Wakeup

def start (wakeupEp : WakeupEndpoint) (cfg : Config) : PowerManager where
  wakeupEp := wakeupEp
  cfg := cfg

/-- The manager that a run leaves. -/
abbrev after (manager : PowerManager) (ops : List PowerOp) : PowerManager :=
  (run PowerManager.step manager ops).1

private theorem after_append (manager : PowerManager)
    (ops more : List PowerOp) :
    after manager (ops ++ more) = after (after manager ops) more := by
  rw [after, run_append]

/-! ## Handshakes -/

def Begins (manager : PowerManager) (op : PowerOp) : Prop :=
  op = .beginWakeFromSleep true ∧ manager.mode = .sleep

/-- An attempt is accepted when the message is pending and no error comes
back. -/
def Accepts (manager : PowerManager) (op : PowerOp) : Prop :=
  op = .noteWakeupAttemptSent ∧
    manager.wakeupEp.wakeupMessagePending = true ∧
    (manager.step op).2 = .manager none

instance (manager : PowerManager) (op : PowerOp) :
    Decidable (Accepts manager op) :=
  inferInstanceAs (Decidable (_ ∧ _ ∧ _))

def acceptedAttempts : PowerManager → List PowerOp → Nat
  | _, [] => 0
  | manager, op :: ops =>
      (if Accepts manager op then 1 else 0) +
        acceptedAttempts (manager.step op).1 ops

/-- The operations `during` all come within the handshake that begins after
`before`. -/
structure Handshake (manager : PowerManager) (before during : List PowerOp) :
    Prop where
  asleep : (after manager before).mode = .sleep
  within : Along PowerManager.step
    (fun manager op =>
      manager.wakeStage = .handshakeActive ∧ ¬ Begins manager op)
    (after manager (before ++ [.beginWakeFromSleep true])) during

def Acknowledges (manager : PowerManager) (ops : List PowerOp)
    (op : PowerOp) : Prop :=
  op = .acknowledgeWakeup ∧
    (after manager ops).wakeStage = .handshakeActive ∧
    ∃ before during,
      ops = before ++ .beginWakeFromSleep true :: during ∧
        Handshake manager before during

/-! ## One operation -/

/-- The operation enters `target`, and may. -/
structure Enters (manager : PowerManager) (op : PowerOp) (target : PowerMode) :
    Prop where
  mode : manager.mode = .normal
  pending : manager.wakeupEp.wakeupMessagePending = false
  hooks : ∃ hooks : Hooks, op.entry? = some (target, hooks) ∧ hooks.Pass

def PowerMode.lowPower : PowerMode → Bool
  | .standBy | .sleep => true
  | _ => false

def StagesAgree (manager : PowerManager) : Prop :=
  manager.wakeStage = .handshakeActive ∨ manager.wakeStage = .failed →
    manager.mode = .sleep

section Step

variable {manager : PowerManager} {op : PowerOp}

private theorem enters_of_lowPower
    (hTarget : (manager.step op).1.mode.lowPower = true)
    (hMode : (manager.step op).1.mode ≠ manager.mode) :
    Enters manager op (manager.step op).1.mode := by
  have hEffect := powerEffect_step manager op
  generalize manager.step op = result at *
  cases hEffect with
  | entered hEntry hNormal hPending hHooks =>
      exact ⟨hNormal, hPending, _, hEntry, hHooks⟩
  | resumed | acknowledged | removed | restored => cases hTarget
  | _ => exact absurd rfl hMode

private theorem enters_of_accepted {target : PowerMode} {hooks : Hooks}
    (hEntry : op.entry? = some (target, hooks))
    (hDone : (manager.step op).2 = .manager none) :
    Enters manager op target := by
  have hEffect := powerEffect_step manager op
  generalize manager.step op = result at *
  cases hEffect with
  | entered hSame hNormal hPending hHooks =>
      obtain ⟨rfl, rfl⟩ := Prod.mk.inj (Option.some.inj (hEntry.symm.trans hSame))
      exact ⟨hNormal, hPending, _, hEntry, hHooks⟩
  | refused | driven | failed => cases hDone
  | _ => cases hEntry

private theorem step_of_refused {target : PowerMode} {hooks : Hooks}
    {e : PowerErrc} (hEntry : op.entry? = some (target, hooks))
    (hRefused : (manager.step op).2 = .manager (some e)) :
    (manager.step op).1 = manager := by
  have hEffect := powerEffect_step manager op
  generalize manager.step op = result at *
  cases hEffect with
  | refused => rfl
  | failed => cases hEntry
  | _ => cases hRefused

theorem StagesAgree.step (h : StagesAgree manager) :
    StagesAgree (manager.step op).1 := by
  have hEffect := powerEffect_step manager op
  generalize manager.step op = result at *
  cases hEffect with
  | begun hMode => exact fun _ => hMode
  | attempted hStage => exact fun _ => h (.inl hStage)
  | failed hStage => exact fun _ => h (.inl hStage)
  | entered | resumed | acknowledged | removed | restored =>
      rintro (hStage | hStage) <;> cases hStage
  | refused | driven | unneeded => exact h

/-- Sleep is left for normal operation by an acknowledgement or a report of
power. -/
theorem mode_step (hMode : manager.mode ≠ .normal)
    (hStandBy : manager.mode ≠ .standBy) :
    ((manager.step op).1.mode ≠ .normal ∧
        (manager.step op).1.mode ≠ .standBy) ∨
      op = .notifyPowerRestored ∨
      (op = .acknowledgeWakeup ∧ manager.wakeStage = .handshakeActive) := by
  have hEffect := powerEffect_step manager op
  generalize manager.step op = result at *
  cases hEffect with
  | entered hEntry hNormal => exact absurd hNormal hMode
  | resumed hResumed => exact absurd hResumed hStandBy
  | acknowledged hStage => exact .inr (.inr ⟨rfl, hStage⟩)
  | restored => exact .inr (.inl rfl)
  | removed => exact .inl ⟨nofun, nofun⟩
  | _ => exact .inl ⟨hMode, hStandBy⟩

private theorem step_attempt (hStage : manager.wakeStage = .handshakeActive)
    (hPending : manager.wakeupEp.wakeupMessagePending = true)
    (hWithin : manager.wakeAttempts + 1 ≤ manager.cfg.wakeupRepeatLimit) :
    manager.step .noteWakeupAttemptSent =
      ({ manager with wakeAttempts := manager.wakeAttempts + 1 },
        .manager none) := by
  simp [PowerManager.step, PowerManager.noteWakeupAttemptSent, hStage,
    hPending, UInt32.not_lt.mpr hWithin]

theorem accepts_iff :
    Accepts manager op ↔
      op = .noteWakeupAttemptSent ∧ manager.wakeStage = .handshakeActive ∧
        manager.wakeupEp.wakeupMessagePending = true ∧
        manager.wakeAttempts + 1 ≤ manager.cfg.wakeupRepeatLimit := by
  constructor
  · rintro ⟨rfl, hPending, hDone⟩
    have hEffect := powerEffect_step manager .noteWakeupAttemptSent
    generalize manager.step .noteWakeupAttemptSent = result at *
    cases hEffect with
    | attempted hStage _ hWithin => exact ⟨rfl, hStage, hPending, hWithin⟩
    | unneeded _ hNone =>
        rw [hPending] at hNone
        cases hNone
    | entered hEntry => cases hEntry
    | refused | driven | failed => cases hDone
  · rintro ⟨rfl, hStage, hPending, hWithin⟩
    refine ⟨rfl, hPending, ?_⟩
    rw [step_attempt hStage hPending hWithin]

theorem cfg_step (manager : PowerManager) (op : PowerOp) :
    (manager.step op).1.cfg = manager.cfg := by
  have hEffect := powerEffect_step manager op
  generalize manager.step op = result at *
  cases hEffect <;> rfl

private theorem attempts_step (hNot : ¬ Begins manager op)
    (hNext : (manager.step op).1.wakeStage = .handshakeActive) :
    (manager.step op).1.wakeAttempts =
      if Accepts manager op then manager.wakeAttempts + 1
      else manager.wakeAttempts := by
  by_cases hAccepts : Accepts manager op
  · obtain ⟨rfl, hStage, hPending, hWithin⟩ := accepts_iff.mp hAccepts
    rw [if_pos hAccepts, step_attempt hStage hPending hWithin]
  · rw [if_neg hAccepts]
    rw [accepts_iff] at hAccepts
    have hEffect := powerEffect_step manager op
    generalize manager.step op = result at *
    cases hEffect with
    | begun hMode => exact absurd ⟨rfl, hMode⟩ hNot
    | attempted hStage hPending hWithin =>
        exact absurd ⟨rfl, hStage, hPending, hWithin⟩ hAccepts
    | refused | driven | unneeded => rfl
    | _ => cases hNext

private theorem active_of_step (hNot : ¬ Begins manager op)
    (hNext : (manager.step op).1.wakeStage = .handshakeActive) :
    manager.wakeStage = .handshakeActive := by
  have hEffect := powerEffect_step manager op
  generalize manager.step op = result at *
  cases hEffect with
  | begun hMode => exact absurd ⟨rfl, hMode⟩ hNot
  | attempted hStage => exact hStage
  | refused | driven | unneeded => exact hNext
  | _ => cases hNext

end Step

/-! ## Attempts -/

/-- An attempt of a handshake does not wrap the counter. -/
def InRange (manager : PowerManager) (op : PowerOp) : Prop :=
  op = .noteWakeupAttemptSent → manager.wakeStage = .handshakeActive →
    manager.wakeupEp.wakeupMessagePending = true →
      manager.wakeAttempts.toNat + 1 < 2 ^ 32

private theorem cfg_after (manager : PowerManager) (ops : List PowerOp) :
    (after manager ops).cfg = manager.cfg :=
  invariant_run (I := fun later : PowerManager => later.cfg = manager.cfg)
    (fun later op h => (cfg_step later op).trans h) ops rfl

private theorem acceptedAttempts_append (manager : PowerManager)
    (ops more : List PowerOp) :
    acceptedAttempts manager (ops ++ more) =
      acceptedAttempts manager ops +
        acceptedAttempts (after manager ops) more := by
  induction ops generalizing manager with
  | nil => simp [acceptedAttempts, after]
  | cons op ops ih =>
      rw [List.cons_append, acceptedAttempts, ih, acceptedAttempts,
        Nat.add_assoc]
      rfl

private theorem toNat_attempts_succ {attempts : UInt32}
    (h : attempts.toNat + 1 < 2 ^ 32) :
    (attempts + 1).toNat = attempts.toNat + 1 := by
  rw [UInt32.toNat_add]
  exact Nat.mod_eq_of_lt h

private theorem accepted_le {manager : PowerManager} {during : List PowerOp}
    (hRange : Along PowerManager.step InRange manager during)
    (hWithin : Along PowerManager.step
      (fun manager op =>
        manager.wakeStage = .handshakeActive ∧ ¬ Begins manager op)
      manager during)
    (hCount : manager.wakeAttempts ≤ manager.cfg.wakeupRepeatLimit) :
    manager.wakeAttempts.toNat + acceptedAttempts manager during ≤
      manager.cfg.wakeupRepeatLimit.toNat := by
  induction during generalizing manager with
  | nil => exact hCount
  | cons op during ih =>
      obtain ⟨⟨hStage, hNot⟩, hRest⟩ := hWithin
      have hCfg := cfg_step manager op
      rw [acceptedAttempts]
      by_cases hNext : (manager.step op).1.wakeStage = .handshakeActive
      · have hAttempts := attempts_step hNot hNext
        rw [← hCfg]
        by_cases hAccepts : Accepts manager op
        · obtain ⟨rfl, -, hPending, hLimit⟩ := accepts_iff.mp hAccepts
          have hSucc := toNat_attempts_succ (hRange.1 rfl hStage hPending)
          rw [if_pos hAccepts] at hAttempts ⊢
          have hMore := ih hRange.2 hRest (by rwa [hAttempts, hCfg])
          rw [hAttempts, hSucc] at hMore
          omega
        · rw [if_neg hAccepts] at hAttempts ⊢
          have hMore := ih hRange.2 hRest (by rwa [hAttempts, hCfg])
          rw [hAttempts] at hMore
          omega
      · have hNone : ¬ Accepts manager op := by
          intro hAccepts
          obtain ⟨rfl, -, hPending, hLimit⟩ := accepts_iff.mp hAccepts
          rw [step_attempt hStage hPending hLimit] at hNext
          exact hNext hStage
        rw [if_neg hNone]
        cases during with
        | nil =>
            simpa [acceptedAttempts] using UInt32.le_iff_toNat_le.mp hCount
        | cons more rest => exact absurd hRest.1.1 hNext

private theorem active_begun {manager : PowerManager}
    (hStart : manager.wakeStage = .idle) {ops : List PowerOp}
    (hActive : (after manager ops).wakeStage = .handshakeActive) :
    ∃ before during, ops = before ++ .beginWakeFromSleep true :: during ∧
      Handshake manager before during ∧
      (after manager ops).wakeAttempts.toNat ≤
        acceptedAttempts
          (after manager (before ++ [.beginWakeFromSleep true])) during := by
  induction ops using List.reverseRecOn with
  | nil =>
      rw [show (after manager []).wakeStage = manager.wakeStage from rfl,
        hStart] at hActive
      cases hActive
  | append_singleton ops op ih =>
      rw [after_append] at hActive ⊢
      by_cases hBegins : Begins (after manager ops) op
      · obtain ⟨rfl, hMode⟩ := hBegins
        refine ⟨ops, [], rfl, ⟨hMode, trivial⟩, ?_⟩
        have hZero : ((after manager ops).step
            (.beginWakeFromSleep true)).1.wakeAttempts = 0 := by
          simp [PowerManager.step, PowerManager.beginWakeFromSleep, hMode]
        change ((after manager ops).step
          (.beginWakeFromSleep true)).1.wakeAttempts.toNat ≤ 0
        rw [hZero]
        rfl
      · have hBefore := active_of_step hBegins hActive
        obtain ⟨before, during, hOps, hHandshake, hCount⟩ := ih hBefore
        have hAttempts := attempts_step hBegins hActive
        have hReached : after manager ops =
            after (after manager (before ++ [.beginWakeFromSleep true]))
              during := by
          rw [← after_append, List.append_assoc, hOps]
          rfl
        refine ⟨before, during ++ [op], by simp [hOps],
          ⟨hHandshake.asleep, ?_⟩, ?_⟩
        · refine along_append.mpr ⟨hHandshake.within, ?_⟩
          change Along _ _ (after _ during) [op]
          rw [← hReached]
          exact ⟨⟨hBefore, hBegins⟩, trivial⟩
        · rw [acceptedAttempts_append, ← hReached]
          change ((after manager ops).step op).1.wakeAttempts.toNat ≤ _
          rw [hAttempts]
          simp only [acceptedAttempts, Nat.add_zero]
          split
          · have hMod : ((after manager ops).wakeAttempts + 1).toNat ≤
                (after manager ops).wakeAttempts.toNat + 1 := by
              rw [UInt32.toNat_add]
              exact Nat.mod_le _ _
            omega
          · omega

/-! ## Runs -/

/-- What holds of a run of a manager. -/
structure PowerLaws (manager : PowerManager) (ops : List PowerOp) : Prop where
  entered : ∀ before op, before ++ [op] <+: ops →
    ((after manager before).step op).1.mode.lowPower = true →
      ((after manager before).step op).1.mode ≠ (after manager before).mode →
        Enters (after manager before) op
          ((after manager before).step op).1.mode
  accepted : ∀ before op target hooks, before ++ [op] <+: ops →
    op.entry? = some (target, hooks) →
      ((after manager before).step op).2 = .manager none →
        Enters (after manager before) op target
  refused : ∀ before op target hooks e, before ++ [op] <+: ops →
    op.entry? = some (target, hooks) →
      ((after manager before).step op).2 = .manager (some e) →
        ((after manager before).step op).1 = after manager before
  asleep : ∀ before, before <+: ops → StagesAgree (after manager before)
  awakened : ∀ before during, before ++ during <+: ops →
    (after manager before).mode = .sleep →
      (after manager (before ++ during)).mode = .normal →
        ∃ front op back, during = front ++ op :: back ∧
          (op = .notifyPowerRestored ∨
            Acknowledges manager (before ++ front) op)
  retried : ∀ before, before ++ [.beginWakeFromSleep false] <+: ops →
    ((after manager before).step (.beginWakeFromSleep false)).1 =
      after manager before
  limited : ∀ before during,
    before ++ .beginWakeFromSleep true :: during <+: ops →
      Handshake manager before during →
        acceptedAttempts
            (after manager (before ++ [.beginWakeFromSleep true])) during ≤
          manager.cfg.wakeupRepeatLimit.toNat

private theorem step_retry (manager : PowerManager) :
    (manager.step (.beginWakeFromSleep false)).1 = manager := by
  by_cases hMode : manager.mode = .sleep <;>
    simp [PowerManager.step, PowerManager.beginWakeFromSleep, hMode]

section Runs

variable {manager : PowerManager}

private theorem limited_of_inRange {ops : List PowerOp}
    (hRange : Along PowerManager.step InRange manager ops)
    {before during : List PowerOp}
    (hOps : before ++ .beginWakeFromSleep true :: during <+: ops)
    (hHandshake : Handshake manager before during) :
    acceptedAttempts
        (after manager (before ++ [.beginWakeFromSleep true])) during ≤
      manager.cfg.wakeupRepeatLimit.toNat := by
  obtain ⟨rest, rfl⟩ := hOps
  have hSplit : before ++ .beginWakeFromSleep true :: during ++ rest =
      (before ++ [.beginWakeFromSleep true]) ++ (during ++ rest) := by simp
  rw [hSplit, along_append] at hRange
  have hZero : (after manager
      (before ++ [.beginWakeFromSleep true])).wakeAttempts = 0 := by
    rw [after_append]
    simp [after, run_cons, PowerManager.step, PowerManager.beginWakeFromSleep,
      hHandshake.asleep]
  have hDuring := (along_append.mp hRange.2).1
  have hLimit := accepted_le hDuring hHandshake.within
    (by rw [hZero]; exact UInt32.zero_le)
  rw [hZero, cfg_after] at hLimit
  simpa using hLimit

variable (hStart : manager.wakeStage = .idle)

include hStart

/-- On the way from sleep to normal operation stands an acknowledgement or a
report of power. -/
theorem awakened_run {before during : List PowerOp}
    (hAsleep : (after manager before).mode = .sleep)
    (hAwake : (after manager (before ++ during)).mode = .normal) :
    ∃ front op back, during = front ++ op :: back ∧
      (op = .notifyPowerRestored ∨
        Acknowledges manager (before ++ front) op) := by
  have hWay : ((after manager (before ++ during)).mode ≠ .normal ∧
      (after manager (before ++ during)).mode ≠ .standBy) ∨
      ∃ front op back, during = front ++ op :: back ∧
        (op = .notifyPowerRestored ∨
          Acknowledges manager (before ++ front) op) := by
    clear hAwake
    induction during using List.reverseRecOn with
    | nil => exact .inl (by simp [hAsleep])
    | append_singleton during op ih =>
        rcases ih with ⟨hMode, hStandBy⟩ | ⟨front, way, back, hSplit, hWay⟩
        · rw [← List.append_assoc, after_append]
          have hStep : (((after manager (before ++ during)).step op).1.mode ≠
                .normal ∧
              ((after manager (before ++ during)).step op).1.mode ≠
                .standBy) ∨
              op = .notifyPowerRestored ∨
              (op = .acknowledgeWakeup ∧
                (after manager (before ++ during)).wakeStage =
                  .handshakeActive) :=
            mode_step hMode hStandBy
          rcases hStep with hStill | hRestored | ⟨rfl, hStage⟩
          · exact .inl hStill
          · exact .inr ⟨during, op, [], rfl, .inl hRestored⟩
          · obtain ⟨begun, within, hOps, hHandshake, -⟩ :=
              active_begun hStart hStage
            exact .inr ⟨during, _, [], rfl,
              .inr ⟨rfl, hStage, begun, within, hOps, hHandshake⟩⟩
        · exact .inr ⟨front, way, back ++ [op], by simp [hSplit], hWay⟩
  exact hWay.resolve_left fun hNot => hNot.1 hAwake

private theorem inRange_of_limited {ops : List PowerOp}
    (hLaws : PowerLaws manager ops)
    : Along PowerManager.step InRange manager ops := by
  rw [along_iff_getElem]
  rintro i hi hOp hStage hPending
  by_contra hWrap
  have hFull : (after manager (ops.take i)).wakeAttempts.toNat = 2 ^ 32 - 1 := by
    have hBound := (after manager (ops.take i)).wakeAttempts.toNat_lt
    change ¬ (after manager (ops.take i)).wakeAttempts.toNat + 1 < 2 ^ 32
      at hWrap
    omega
  obtain ⟨before, during, hBefore, hHandshake, hCount⟩ :=
    active_begun hStart hStage
  have hReached : after manager (ops.take i) =
      after (after manager (before ++ [.beginWakeFromSleep true])) during := by
    rw [← after_append, List.append_assoc, hBefore]
    rfl
  have hZero : (after manager (ops.take i)).wakeAttempts + 1 = 0 := by
    rw [← UInt32.toNat_inj, UInt32.toNat_add, hFull]
    rfl
  have hAccepts : Accepts (after manager (ops.take i)) ops[i] := by
    rw [accepts_iff, hZero]
    exact ⟨hOp, hStage, hPending, UInt32.zero_le⟩
  have hTake : before ++ .beginWakeFromSleep true :: (during ++ [ops[i]]) =
      ops.take (i + 1) := by
    rw [List.take_add_one, List.getElem?_eq_getElem hi, hBefore]
    simp
  have hNot : ¬ Begins (after manager (ops.take i)) ops[i] := by
    rintro ⟨hBegin, -⟩
    rw [hOp] at hBegin
    cases hBegin
  have hMore : Handshake manager before (during ++ [ops[i]]) := by
    refine ⟨hHandshake.asleep, along_append.mpr ⟨hHandshake.within, ?_⟩⟩
    change Along _ _ (after _ during) [ops[i]]
    rw [← hReached]
    exact ⟨⟨hStage, hNot⟩, trivial⟩
  have hLimit := hLaws.limited before (during ++ [ops[i]])
    (hTake ▸ List.take_prefix _ _) hMore
  rw [acceptedAttempts_append, ← hReached] at hLimit
  simp only [acceptedAttempts, if_pos hAccepts] at hLimit
  have hBound := manager.cfg.wakeupRepeatLimit.toNat_lt
  omega

end Runs

/-- The laws hold of exactly the runs whose handshakes do not wrap the
counter. -/
theorem powerLaws_iff (wakeupEp : WakeupEndpoint) (cfg : Config)
    (ops : List PowerOp) :
    PowerLaws (start wakeupEp cfg) ops ↔
      Along PowerManager.step InRange (start wakeupEp cfg) ops := by
  constructor
  · exact inRange_of_limited rfl
  · intro hRange
    exact {
      entered := fun _ _ _ => enters_of_lowPower
      accepted := fun _ _ _ _ _ => enters_of_accepted
      refused := fun _ _ _ _ _ _ => step_of_refused
      asleep := fun before _ =>
        invariant_run (fun _ _ h => StagesAgree.step h) before
          (by rintro (hStage | hStage) <;> cases hStage)
      awakened := fun _ _ _ => awakened_run rfl
      retried := fun _ _ => step_retry _
      limited := fun _ _ => limited_of_inRange hRange }

/-! ## A limit that is never exceeded -/

def unechoed (attempts : Nat) : List PowerOp :=
  [.enterSleep {}, .recordWakeSourceEvent 0, .beginWakeFromSleep true] ++
    List.replicate attempts .noteWakeupAttemptSent

structure Repeats (manager : PowerManager) (attempts : Nat) : Prop where
  stage : manager.wakeStage = .handshakeActive
  pending : manager.wakeupEp.wakeupMessagePending = true
  limit : manager.cfg.wakeupRepeatLimit = 0xFFFFFFFF
  count : manager.wakeAttempts.toNat = attempts

theorem Repeats.step {manager : PowerManager} {attempts : Nat}
    (h : Repeats manager attempts) (hRoom : attempts + 1 < 2 ^ 32) :
    Repeats (manager.step .noteWakeupAttemptSent).1 (attempts + 1) := by
  have hSucc := toNat_attempts_succ (h.count.symm ▸ hRoom)
  have hWithin : manager.wakeAttempts + 1 ≤
      manager.cfg.wakeupRepeatLimit := by
    rw [UInt32.le_iff_toNat_le, hSucc, h.limit, h.count]
    exact Nat.le_of_lt_succ hRoom
  rw [step_attempt h.stage h.pending hWithin]
  exact ⟨h.stage, h.pending, h.limit, by rw [hSucc, h.count]⟩

private theorem unechoed_succ (attempts : Nat) :
    unechoed (attempts + 1) = unechoed attempts ++ [.noteWakeupAttemptSent] := by
  rw [unechoed, unechoed, List.replicate_succ', List.append_assoc]

private theorem repeats_unechoed {attempts : Nat} (h : attempts < 2 ^ 32) :
    Repeats (after (start {} ⟨0xFFFFFFFF⟩) (unechoed attempts)) attempts := by
  induction attempts with
  | zero => exact ⟨rfl, rfl, rfl, rfl⟩
  | succ attempts ih =>
      rw [unechoed_succ, after_append]
      exact (ih (Nat.lt_of_succ_lt h)).step h

/-- With the greatest limit a handshake accepts one attempt too many. -/
theorem unechoed_unlimited :
    ¬ PowerLaws (start {} ⟨0xFFFFFFFF⟩) (unechoed (2 ^ 32)) := by
  obtain ⟨last, hLast⟩ : ∃ last, 2 ^ 32 = last + 1 := ⟨4294967295, by norm_num⟩
  have hRepeats := repeats_unechoed (show last < 2 ^ 32 by omega)
  rw [hLast, powerLaws_iff, unechoed_succ, along_append]
  rintro ⟨-, hRange, -⟩
  have hRoom := hRange rfl hRepeats.stage hRepeats.pending
  have hCount := hRepeats.count
  change (after _ _).wakeAttempts.toNat + 1 < 2 ^ 32 at hRoom
  omega

end CppRcp.Powerstate
