import CppRcp.Admission.Lifecycle
import CppRcp.Properties.SafetyPurge

/-!
# The laws of the request ledger

Over every run of ledger operations, records move forward through their
lifecycle, transaction numbers stay distinct and within the capacity, and an
operation that reports an error changes no record.  That the outcome of a
record says when it is canceled needs a condition: a submission overwrites the
state of the record it is given, but not its outcome.
-/

namespace CppRcp.Request

open CppRcp.Foundation

/-- The ledger after the first `i` operations. -/
def ledgerAt (ops : List LedgerOp) (i : Nat) : RequestLedger :=
  (run ledgerStep initialLedger (ops.take i)).1

def OutcomesMatch (ledger : RequestLedger) : Prop :=
  ∀ record ∈ ledger.records,
    record.saysCanceled ↔ record.state = .canceled

/-- The laws of a whole run. -/
structure LawfulRun (ops : List LedgerOp) : Prop where
  forward : ∀ i j, i ≤ j → ∀ record ∈ (ledgerAt ops i).records,
    ∃ later ∈ (ledgerAt ops j).records,
      later.transactionNum = record.transactionNum ∧
        Reaches record.state later.state ∧
        (record.state.isTerminal → later.state = record.state)
  distinct : ∀ i, (ledgerAt ops i).records.transactions.Nodup
  bounded : ∀ i, (ledgerAt ops i).records.length ≤ maxTrackedRequests
  outcomes : ∀ i, OutcomesMatch (ledgerAt ops i)
  rejected : ∀ i op e, ops[i]? = some op →
    (ledgerStep (ledgerAt ops i) op).2 = .code (some e) →
    (ledgerStep (ledgerAt ops i) op).1.records = (ledgerAt ops i).records

/-- A submission for which there is room, under a new transaction number, does
not already have the outcome of a cancellation. -/
def SubmitsClean (ledger : RequestLedger) : LedgerOp → Prop
  | .submit record =>
      ledger.find record.transactionNum = none →
        ledger.records.length < maxTrackedRequests → ¬ record.saysCanceled
  | _ => True

/-! ## One operation -/

section Step

variable {ledger : RequestLedger} {op : LedgerOp}

private theorem exists_later (ledger : RequestLedger) (op : LedgerOp) :
    ∀ record ∈ ledger.records,
      ∃ later ∈ (ledgerStep ledger op).1.records, Becomes record later := by
  intro record hMem
  have hEffect := ledger.ledgerStep_effect op
  generalize (ledgerStep ledger op).1.records = after,
    (ledgerStep ledger op).2 = reply at hEffect ⊢
  cases hEffect with
  | evolved h _ =>
      obtain ⟨i, hi⟩ := List.mem_iff_getElem?.mp hMem
      obtain ⟨hLength, hGet⟩ := List.getElem?_eq_some_iff.mp hi
      have hAfter : i < after.length := h.length_eq ▸ hLength
      refine ⟨after[i], List.getElem_mem hAfter, ?_⟩
      exact hGet ▸ h.get hLength hAfter
  | submitted new seq =>
      exact ⟨record, List.mem_append_left _ hMem, .refl record⟩

private theorem rejected_step {e : ErrorCode}
    (h : (ledgerStep ledger op).2 = .code (some e)) :
    (ledgerStep ledger op).1.records = ledger.records := by
  have hEffect := ledger.ledgerStep_effect op
  rw [h] at hEffect
  generalize (ledgerStep ledger op).1.records = after at hEffect ⊢
  cases hEffect with
  | evolved _ hReply => exact hReply e rfl

private theorem submit_accepted {record : RequestRecord}
    (hFresh : ledger.find record.transactionNum = none)
    (hRoom : ledger.records.length < maxTrackedRequests) :
    (ledgerStep ledger (.submit record)).1.records =
      ledger.records ++ [{ record with
        state := .pending, arrivalSeq := ledger.nextArrivalSeq }] := by
  simp [ledgerStep, RequestLedger.submit, hFresh, hRoom]

private theorem submit_refused {record : RequestRecord}
    (h : ¬ (ledger.find record.transactionNum = none ∧
      ledger.records.length < maxTrackedRequests)) :
    (ledgerStep ledger (.submit record)).1 = ledger := by
  simp only [ledgerStep, RequestLedger.submit]
  by_cases hFresh : ledger.find record.transactionNum = none
  · have hFull : ¬ ledger.records.length < maxTrackedRequests :=
      fun hRoom => h ⟨hFresh, hRoom⟩
    simp [hFresh, hFull]
  · simp [Option.isSome_iff_ne_none.mpr hFresh]

private theorem outcomesMatch_of_evolves {before after : Records}
    (hEvolves : Evolves before after)
    (h : ∀ record ∈ before, record.saysCanceled ↔ record.state = .canceled) :
    ∀ later ∈ after, later.saysCanceled ↔ later.state = .canceled := by
  induction hEvolves with
  | nil => simp
  | cons hHead _ ih =>
      obtain ⟨hFirst, hRest⟩ := List.forall_mem_cons.mp h
      exact List.forall_mem_cons.mpr ⟨hHead.outcome hFirst, ih hRest⟩

private theorem outcomesMatch_step (h : OutcomesMatch ledger)
    (hOp : ∀ record, op ≠ .submit record) :
    OutcomesMatch (ledgerStep ledger op).1 := by
  have hEffect := ledger.ledgerStep_effect op
  unfold OutcomesMatch
  generalize (ledgerStep ledger op).1.records = after,
    (ledgerStep ledger op).2 = reply at hEffect ⊢
  cases hEffect with
  | evolved hEvolves _ => exact outcomesMatch_of_evolves hEvolves h
  | submitted record _ => exact absurd rfl (hOp record)

/-- An operation keeps the outcomes right exactly when it submits nothing with
the outcome of a cancellation. -/
theorem outcomesMatch_step_iff (h : OutcomesMatch ledger) :
    OutcomesMatch (ledgerStep ledger op).1 ↔ SubmitsClean ledger op := by
  cases op with
  | submit record =>
      by_cases hAccepted : ledger.find record.transactionNum = none ∧
          ledger.records.length < maxTrackedRequests
      · obtain ⟨hFresh, hRoom⟩ := hAccepted
        unfold OutcomesMatch at h ⊢
        rw [submit_accepted hFresh hRoom]
        simp only [SubmitsClean, hFresh, hRoom, true_implies]
        constructor
        · intro hAll hSays
          have hNew := (hAll _ (List.mem_append_right _
            List.mem_cons_self)).mp hSays
          cases hNew
        · intro hClean later hMem
          rcases List.mem_append.mp hMem with hOld | hNew
          · exact h later hOld
          · rw [List.mem_singleton.mp hNew]
            simpa [RequestRecord.saysCanceled] using hClean
      · rw [submit_refused hAccepted]
        simp only [SubmitsClean, h, true_iff]
        intro hFresh hRoom
        exact absurd ⟨hFresh, hRoom⟩ hAccepted
  | _ =>
      simp only [SubmitsClean, iff_true]
      exact outcomesMatch_step h (by simp)

end Step

/-! ## Runs -/

section Run

variable (ops : List LedgerOp)

private theorem ledgerAt_succ (i : Nat) :
    ledgerAt ops (i + 1) =
      match ops[i]? with
      | none => ledgerAt ops i
      | some op => (ledgerStep (ledgerAt ops i) op).1 := by
  unfold ledgerAt
  by_cases hi : i < ops.length
  · rw [run_take_succ _ _ _ _ hi, List.getElem?_eq_getElem hi]
  · rw [List.getElem?_eq_none (by omega), List.take_of_length_le (by omega),
      List.take_of_length_le (by omega)]

private theorem exists_later_of_le {i j : Nat} (hij : i ≤ j) :
    ∀ record ∈ (ledgerAt ops i).records,
      ∃ later ∈ (ledgerAt ops j).records, Becomes record later := by
  induction hij with
  | refl => exact fun record hMem => ⟨record, hMem, .refl record⟩
  | @step j _ ih =>
      intro record hMem
      obtain ⟨middle, hMiddle, hFirst⟩ := ih record hMem
      rw [ledgerAt_succ]
      cases ops[j]? with
      | none => exact ⟨middle, hMiddle, hFirst⟩
      | some op =>
          obtain ⟨later, hLater, hSecond⟩ := exists_later _ op middle hMiddle
          exact ⟨later, hLater, hFirst.trans hSecond⟩

private theorem outcomesMatch_initial : OutcomesMatch initialLedger := by
  intro record hMem
  cases hMem

private theorem outcomesMatch_run_iff :
    (∀ i, OutcomesMatch (ledgerAt ops i)) ↔
      Along ledgerStep SubmitsClean initialLedger ops := by
  rw [along_iff_getElem]
  constructor
  · intro hAll i hi
    have hNext := hAll (i + 1)
    rw [ledgerAt_succ, List.getElem?_eq_getElem hi] at hNext
    exact (outcomesMatch_step_iff (hAll i)).mp hNext
  · intro hClean i
    induction i with
    | zero => exact outcomesMatch_initial
    | succ i ih =>
        rw [ledgerAt_succ]
        cases hOp : ops[i]? with
        | none => exact ih
        | some op =>
            obtain ⟨hi, hGet⟩ := List.getElem?_eq_some_iff.mp hOp
            exact (outcomesMatch_step_iff ih).mpr (hGet ▸ hClean i hi)

/-- A run obeys every law exactly when none of its submissions already has the
outcome of a cancellation. -/
theorem lawfulRun_iff (ops : List LedgerOp) :
    LawfulRun ops ↔ Along ledgerStep SubmitsClean initialLedger ops := by
  rw [← outcomesMatch_run_iff]
  refine ⟨LawfulRun.outcomes, fun hOutcomes => ?_⟩
  constructor
  case forward =>
    intro i j hij record hMem
    obtain ⟨later, hLater, hBecomes⟩ := exists_later_of_le ops hij record hMem
    exact ⟨later, hLater, hBecomes.transactionNum, hBecomes.state,
      hBecomes.state.eq_of_isTerminal⟩
  case distinct => exact fun i => (ledgerAt ops i).distinct
  case bounded => exact fun i => (ledgerAt ops i).length_le
  case outcomes => exact hOutcomes
  case rejected => exact fun i op e _ hReply => rejected_step hReply

end Run

def resubmitted : RequestRecord :=
  { transactionNum := 1, outcome := some (.request .requestCanceled) }

/-- It is pending, and its outcome says that it was canceled. -/
theorem resubmitted_not_lawful :
    ((ledgerAt [.submit resubmitted] 1).find 1).map RequestRecord.state =
        some .pending ∧
      ¬ LawfulRun [.submit resubmitted] := by
  refine ⟨by decide, fun h => ?_⟩
  have hRecord := h.outcomes 1 _ (List.mem_of_getElem? (i := 0) rfl)
  exact absurd (hRecord.mp rfl) (by decide)

end CppRcp.Request
