import CppRcp.Admission.Ledger

/-!
# Sequencers over runs

A sequencer in state 0 is disabled.  Three operations move sequencers: the
tick of a compound request, that of a compound-wait request, and the
finalization of either in the ledger.  All three ask `advance_guard` first, and
take the next state from the request, where 0 means to stay.
-/

namespace CppRcp.Request

open CppRcp.Foundation

/-- What an operation for the sequencer `named` may do to the table. -/
structure SequencerMove (named : Option UInt8)
    (before after : SequencerTable) : Prop where
  length : after.length = before.length
  elsewhere : ∀ i : Nat, (∀ index ∈ named, index.toNat ≠ i) →
    after[i]? = before[i]?
  disabled : ∀ i : Nat, before[i]? = some 0 → after[i]? = some 0
  enabled : ∀ i : Nat, after[i]? = some 0 → before[i]? = some 0
  outOfRange : ∀ index ∈ named, before.length ≤ index.toNat → after = before

namespace SequencerMove

theorem refl (named : Option UInt8) (states : SequencerTable) :
    SequencerMove named states states where
  length := rfl
  elsewhere := fun _ _ => rfl
  disabled := fun _ h => h
  enabled := fun _ h => h
  outOfRange := fun _ _ _ => rfl

theorem set {states : SequencerTable} {index current next : UInt8}
    (hCurrent : states[index.toNat]? = some current) (hEnabled : current ≠ 0)
    (hNext : next ≠ 0) :
    SequencerMove (some index) states (states.set index.toNat next) := by
  obtain ⟨hRange, -⟩ := List.getElem?_eq_some_iff.mp hCurrent
  refine ⟨List.length_set, ?_, ?_, ?_, ?_⟩
  · intro i hElsewhere
    exact List.getElem?_set_ne (hElsewhere index rfl)
  · intro i hDisabled
    have hOther : index.toNat ≠ i := by
      rintro rfl
      rw [hCurrent] at hDisabled
      exact hEnabled (Option.some.inj hDisabled)
    rw [List.getElem?_set_ne hOther, hDisabled]
  · intro i hZero
    by_cases hSame : index.toNat = i
    · subst hSame
      rw [List.getElem?_set_self hRange] at hZero
      exact absurd (Option.some.inj hZero) hNext
    · rwa [List.getElem?_set_ne hSame] at hZero
  · intro other hOther hOutside
    obtain rfl := Option.some.inj hOther
    exact absurd hRange (by omega)

theorem advance (states : SequencerTable) (step : CompoundStep) :
    advanceGuard states step →
      SequencerMove (some step.sequencerIndex) states
        (applyNextState states step) := by
  intro hGuard
  unfold applyNextState
  split
  · exact refl _ states
  · rename_i hNext
    unfold advanceGuard at hGuard
    split at hGuard
    · cases hGuard
    · rename_i current hCurrent
      rw [Bool.and_eq_true, decide_eq_true_iff] at hGuard
      exact set hCurrent hGuard.1 hNext

theorem tick (states : SequencerTable) (step : CompoundStep)
    (elapsed : UInt32) :
    SequencerMove (some step.sequencerIndex) states
      (tick states step elapsed) := by
  unfold Request.tick
  split
  · rename_i hReady
    exact advance states step ((Bool.and_eq_true ..).mp hReady).2
  · exact refl _ states

theorem waitTick (states : SequencerTable) (step : CompoundStep)
    (conditionMet : Bool) :
    SequencerMove (some step.sequencerIndex) states
      (waitTick states step conditionMet) := by
  unfold Request.waitTick
  split
  · rename_i hReady
    exact advance states step ((Bool.and_eq_true ..).mp hReady).2
  · exact refl _ states

end SequencerMove

/-! ## Finalization -/

theorem Records.find_update (records : Records) (txn : UInt8)
    (f : RequestRecord → RequestRecord)
    (hf : ∀ record, (f record).transactionNum = record.transactionNum) :
    (records.update txn f).find txn = (records.find txn).map f := by
  induction records with
  | nil => rfl
  | cons record records ih =>
      unfold update find at ih ⊢
      rw [List.map_cons]
      by_cases hTxn : record.transactionNum = txn
      · rw [if_pos hTxn, List.find?_cons_of_pos (by simp [hf, hTxn]),
          List.find?_cons_of_pos (by simp [hTxn])]
        rfl
      · rw [if_neg hTxn, List.find?_cons_of_neg (by simp [hTxn]),
          List.find?_cons_of_neg (by simp [hTxn])]
        exact ih

namespace RequestLedger

def sequencerOf (ledger : RequestLedger) (txn : UInt8) : Option UInt8 :=
  ((ledger.find txn).bind finalStep).map CompoundStep.sequencerIndex

private theorem finalStep_transition (ledger : RequestLedger) (txn : UInt8)
    (source target : RequestState) :
    ((ledger.transition txn source target).1.find txn).bind finalStep =
      (ledger.find txn).bind finalStep := by
  change ((ledger.records.transition txn source target).1.find txn).bind _ =
    (ledger.records.find txn).bind _
  unfold Records.transition
  split
  · rfl
  · rename_i record hFind
    split
    · rfl
    · dsimp only
      rw [Records.find_update ledger.records txn (.withState target)
        fun _ => rfl, hFind]
      rfl

private theorem finalize_sequencers (ledger : RequestLedger) (txn : UInt8)
    (errored : Bool) (states : SequencerTable) :
    (ledger.finalize txn errored (some states)).2.1 = some states ∨
    ∃ step, (ledger.find txn).bind finalStep = some step ∧
      advanceGuard states step ∧
      (ledger.finalize txn errored (some states)).2.1 =
        some (applyNextState states step) := by
  have hStep := ledger.finalStep_transition txn .underExecution .finalized
  unfold finalize
  dsimp only
  split
  · exact .inl rfl
  · rw [← hStep]
    unfold finalizeSequencers
    rw [Option.map_some]
    split
    · exact .inl rfl
    · rename_i step hFinal
      split
      · rename_i hGuard
        exact .inr ⟨step, hFinal, hGuard, rfl⟩
      · exact .inl rfl

end RequestLedger

/-! ## Runs -/

structure SequencerSystem where
  ledger : RequestLedger
  sequencers : SequencerTable

inductive SequencerOp
  | tick (step : CompoundStep) (elapsed : UInt32)
  | waitTick (step : CompoundStep) (conditionMet : Bool)
  | finalize (txn : UInt8) (errored : Bool)
  /-- A call to the ledger that is not given these sequencers. -/
  | ledger (op : LedgerOp)

namespace SequencerSystem

def step (system : SequencerSystem) :
    SequencerOp → SequencerSystem × Unit
  | .tick step elapsed =>
      ({ system with sequencers := tick system.sequencers step elapsed }, ())
  | .waitTick step conditionMet =>
      ({ system with
          sequencers := waitTick system.sequencers step conditionMet }, ())
  | .finalize txn errored =>
      let result :=
        system.ledger.finalize txn errored (some system.sequencers)
      ({ ledger := result.1
         sequencers := result.2.1.getD system.sequencers }, ())
  | .ledger op => ({ system with ledger := (ledgerStep system.ledger op).1 }, ())

/-- The sequencer that the request of an operation names. -/
def named (system : SequencerSystem) : SequencerOp → Option UInt8
  | .tick step _ => some step.sequencerIndex
  | .waitTick step _ => some step.sequencerIndex
  | .finalize txn _ => system.ledger.sequencerOf txn
  | .ledger _ => none

private theorem move_step (system : SequencerSystem) (op : SequencerOp) :
    SequencerMove (system.named op) system.sequencers
      (system.step op).1.sequencers := by
  cases op with
  | tick step elapsed => exact .tick system.sequencers step elapsed
  | waitTick step conditionMet =>
      exact .waitTick system.sequencers step conditionMet
  | finalize txn errored =>
      unfold named step RequestLedger.sequencerOf
      dsimp only
      rcases system.ledger.finalize_sequencers txn errored system.sequencers
        with hSame | ⟨step, hStep, hGuard, hMoved⟩
      · rw [hSame]
        exact .refl _ system.sequencers
      · rw [hMoved, hStep]
        exact .advance system.sequencers step hGuard
  | ledger op => exact .refl _ system.sequencers

theorem disabled_run (system : SequencerSystem) (ops : List SequencerOp)
    (i : Nat) :
    (run step system ops).1.sequencers[i]? = some 0 ↔
      system.sequencers[i]? = some 0 := by
  induction ops generalizing system with
  | nil => rfl
  | cons op ops ih =>
      have hMove := system.move_step op
      rw [run_cons, ih]
      exact ⟨hMove.enabled i, hMove.disabled i⟩

end SequencerSystem

/-- Each operation of a run moves at most the sequencer it names, and no
sequencer is enabled or disabled by the run. -/
theorem sequencers_run (system : SequencerSystem) (ops : List SequencerOp) :
    (∀ n, (h : n < ops.length) →
      SequencerMove
        ((run SequencerSystem.step system (ops.take n)).1.named ops[n])
        (run SequencerSystem.step system (ops.take n)).1.sequencers
        (run SequencerSystem.step system (ops.take (n + 1))).1.sequencers) ∧
    ∀ i : Nat,
      (run SequencerSystem.step system ops).1.sequencers[i]? = some 0 ↔
        system.sequencers[i]? = some 0 := by
  constructor
  · intro n h
    rw [run_take_succ _ _ _ _ h]
    exact SequencerSystem.move_step _ _
  · exact system.disabled_run ops

end CppRcp.Request
