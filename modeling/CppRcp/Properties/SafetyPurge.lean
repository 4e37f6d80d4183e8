import CppRcp.Admission.Cancellation

/-!
# Purging the normal requests

A purge selects the open records that are not tagged as safety, but cancels
along their successor lists whatever the lists name.  The safety records keep
their states exactly when no open normal record names an open safety record as
its successor; longer paths need no condition of their own.
-/

namespace CppRcp.Request

open CppRcp.Foundation CppRcp.E2e CppRcp.Regmap

def SafetyKept (before after : RequestLedger) : Prop :=
  ∀ record ∈ before.records, record.isSafety →
    (after.find record.transactionNum).map RequestRecord.state =
      some record.state

def NoSafetySuccessor (ledger : RequestLedger) : Prop :=
  ∀ record ∈ ledger.records, record.isOpen → ¬ record.isSafety →
    ∀ other ∈ ledger.records, other.isOpen →
      other.transactionNum ∈ record.chainedSuccessors → ¬ other.isSafety

namespace Records

variable {records : Records} {record : RequestRecord} {txn : UInt8}

private theorem mem_selected_true :
    txn ∈ selected true records ↔
      ∃ record ∈ records, ¬ record.isSafety ∧ record.transactionNum = txn := by
  simp [selected, transactions, and_assoc]

private theorem successors_of_mem (hDistinct : records.transactions.Nodup)
    (hMem : record ∈ records) :
    records.successors record.transactionNum = record.chainedSuccessors := by
  unfold successors
  rw [find_of_mem hDistinct hMem]

end Records

section Purge

variable {ledger : RequestLedger} {record other : RequestRecord} {txn : UInt8}

open Records

private theorem not_isSafety_of_leadsTo (hNone : NoSafetySuccessor ledger)
    (hMem : record ∈ ledger.records) (hNormal : ¬ record.isSafety)
    (hPath : LeadsTo ledger.records.successors ledger.records.openSet
      record.transactionNum txn) :
    ∀ other ∈ ledger.records, other.transactionNum = txn →
      ¬ other.isSafety := by
  induction hPath with
  | here _ =>
      intro other hOther hTxn
      have hFind := find_of_mem ledger.distinct hOther
      rw [hTxn, find_of_mem ledger.distinct hMem] at hFind
      exact Option.some_inj.mp hFind ▸ hNormal
  | next hBefore hEdge hOpen ih =>
      intro other hOther hTxn
      obtain ⟨source, hSource, hSourceOpen, rfl⟩ :=
        mem_openSet.mp hBefore.target_mem
      rw [successors_of_mem ledger.distinct hSource] at hEdge
      subst hTxn
      have hOtherOpen := isOpen_of_kept ledger.distinct
        (Finset.Subset.refl _) hOther hOpen
      exact hNone source hSource hSourceOpen (ih source hSource rfl) other
        hOther hOtherOpen hEdge

private theorem safetyKept_cancelAll_iff_reach (ledger : RequestLedger) :
    SafetyKept ledger (ledger.cancelAll true).1 ↔
      ∀ record ∈ ledger.records, record.isSafety → record.isOpen →
        ∀ root ∈ selected true ledger.records,
          ¬ LeadsTo ledger.records.successors ledger.records.openSet root
            record.transactionNum := by
  have hSwept := swept_selected true ledger.records
  unfold SafetyKept RequestLedger.find RequestLedger.cancelAll
    RequestLedger.withRecords
  simp only [cancelAll_eq ledger.distinct, find_settle]
  apply forall₃_congr
  intro record hMem hSafety
  rw [find_of_mem ledger.distinct hMem, Option.map_some, Option.map_some,
    Option.some_inj]
  unfold settleRecord
  constructor
  · intro hState hOpen
    split at hState
    · exact absurd hState (RequestRecord.state_cancel_ne hOpen)
    · next hKept =>
        have hLeft := not_not.mp fun hGone => hKept ⟨hOpen, hGone⟩
        exact ((hSwept.mem_iff _).mp hLeft).2
  · intro hReach
    rw [if_neg]
    rintro ⟨hOpen, hGone⟩
    have hLive := mem_openSet.mpr ⟨record, hMem, hOpen, rfl⟩
    exact hGone ((hSwept.mem_iff _).mpr ⟨hLive, hReach hOpen⟩)

private theorem safetyKept_cancelAll_iff (ledger : RequestLedger) :
    SafetyKept ledger (ledger.cancelAll true).1 ↔
      NoSafetySuccessor ledger := by
  rw [safetyKept_cancelAll_iff_reach]
  constructor
  · intro hReach record hMem hOpen hNormal other hOther hOtherOpen hEdge
      hSafety
    have hRoot := mem_selected_true.mpr ⟨record, hMem, hNormal, rfl⟩
    have hHere : LeadsTo ledger.records.successors ledger.records.openSet
        record.transactionNum record.transactionNum :=
      .here (mem_openSet.mpr ⟨record, hMem, hOpen, rfl⟩)
    rw [← successors_of_mem ledger.distinct hMem] at hEdge
    exact hReach other hOther hSafety hOtherOpen _ hRoot
      (hHere.next hEdge (mem_openSet.mpr ⟨other, hOther, hOtherOpen, rfl⟩))
  · intro hNone record hMem hSafety _ root hRoot hPath
    obtain ⟨normal, hNormalMem, hNormal, rfl⟩ := mem_selected_true.mp hRoot
    exact not_isSafety_of_leadsTo hNone hNormalMem hNormal hPath record hMem
      rfl hSafety

private theorem safetyKept_refl (ledger : RequestLedger) :
    SafetyKept ledger ledger := by
  intro record hMem _
  exact congrArg (Option.map RequestRecord.state)
    (find_of_mem ledger.distinct hMem)

private theorem safetyKept_applyOverflow_iff (safestateEnable : Bool)
    (watchdog : RxWatchdog) (ledger : RequestLedger) :
    SafetyKept ledger (applyOverflow safestateEnable watchdog ledger).2.1 ↔
      (safestateEnable → NoSafetySuccessor ledger) := by
  cases safestateEnable with
  | false => simpa [applyOverflow] using safetyKept_refl ledger
  | true => simpa [applyOverflow] using safetyKept_cancelAll_iff ledger

end Purge

/-! ## Over runs -/

def initialLedger : RequestLedger := {}

/-- In every ledger that a run of its operations reaches. -/
theorem purge_run (ops : List LedgerOp) (cfg : RequestStreamConfig)
    (watchdog : RxWatchdog) :
    let ledger := (run ledgerStep initialLedger ops).1
    (SafetyKept ledger (ledger.cancelAll true).1 ↔
        NoSafetySuccessor ledger) ∧
      (SafetyKept ledger (applyWatchdogOverflow cfg watchdog ledger).2.1 ↔
        (cfg.rxWdSafestateEnable → NoSafetySuccessor ledger)) :=
  ⟨safetyKept_cancelAll_iff _, safetyKept_applyOverflow_iff _ _ _⟩

def chainedToSafety : List LedgerOp :=
  [.submit { transactionNum := 1, chainedSuccessors := [2] },
    .submit (requestRecordFor 2 (some .compoundSafety) false)]

/-- The purge cancels the safety request along with the normal one. -/
theorem chainedToSafety_not_kept :
    ¬ SafetyKept (run ledgerStep initialLedger chainedToSafety).1
      ((run ledgerStep initialLedger chainedToSafety).1.cancelAll true).1 := by
  intro hKept
  have hRecord := hKept _ (List.mem_of_getElem? (i := 1) rfl) rfl
  exact absurd hRecord (by decide)

end CppRcp.Request
