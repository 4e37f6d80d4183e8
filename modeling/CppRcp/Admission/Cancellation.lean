import CppRcp.Admission.Ledger
import CppRcp.Foundation.Sweep

/-!
# Cancellation along chains

Cancelling in the ledger is a sweep of the graph whose nodes are transaction
numbers, whose edges are the successor lists and whose live nodes are the open
records.  `settle` cancels the open records outside a given set; every list of
records met during a cancellation is the settled form of the first one.
-/

namespace CppRcp.Request

open CppRcp.Foundation

namespace Records

def openSet (records : Records) : Finset UInt8 :=
  (transactions (records.filter RequestRecord.isOpen)).toFinset

def successors (records : Records) (txn : UInt8) : List UInt8 :=
  match records.find txn with
  | none => []
  | some record => record.chainedSuccessors

def settleRecord (kept : Finset UInt8) (record : RequestRecord) :
    RequestRecord :=
  if record.isOpen ∧ record.transactionNum ∉ kept then record.cancel
  else record

def settle (kept : Finset UInt8) (records : Records) : Records :=
  records.map (settleRecord kept)

/-! ## Settling -/

section Settle

variable {records : Records} {kept still : Finset UInt8} {txn : UInt8}
  {record : RequestRecord}

theorem mem_openSet :
    txn ∈ records.openSet ↔
      ∃ record ∈ records, record.isOpen ∧ record.transactionNum = txn := by
  simp [openSet, transactions, and_assoc]

theorem card_openSet_le (records : Records) :
    records.openSet.card ≤ records.length := by
  have hCard := List.toFinset_card_le
    (transactions (records.filter RequestRecord.isOpen))
  unfold transactions at hCard
  rw [List.length_map] at hCard
  exact hCard.trans (List.length_filter_le _ _)

theorem find_of_mem (hDistinct : records.transactions.Nodup)
    (hMem : record ∈ records) :
    records.find record.transactionNum = some record := by
  induction records with
  | nil => exact absurd hMem List.not_mem_nil
  | cons first records ih =>
      obtain ⟨hFirst, hRest⟩ := List.nodup_cons.mp hDistinct
      rcases List.mem_cons.mp hMem with rfl | hMem
      · exact List.find?_cons_of_pos (by simp)
      · have hNe : first.transactionNum ≠ record.transactionNum := by
          rintro hEq
          exact hFirst (hEq ▸ List.mem_map_of_mem hMem)
        exact (List.find?_cons_of_neg (by simpa using hNe)).trans
          (ih hRest hMem)

theorem mem_of_find (h : records.find txn = some record) :
    record ∈ records ∧ record.transactionNum = txn :=
  ⟨List.mem_of_find?_eq_some h, by simpa using List.find?_some h⟩

@[simp] theorem transactionNum_settleRecord :
    (settleRecord kept record).transactionNum = record.transactionNum := by
  unfold settleRecord
  split <;> rfl

@[simp] theorem chainedSuccessors_settleRecord :
    (settleRecord kept record).chainedSuccessors =
      record.chainedSuccessors := by
  unfold settleRecord
  split <;> rfl

@[simp] theorem isSafety_settleRecord :
    (settleRecord kept record).isSafety = record.isSafety := by
  unfold settleRecord
  split <;> rfl

private theorem isOpen_settleRecord :
    (settleRecord kept record).isOpen ↔
      record.isOpen ∧ record.transactionNum ∈ kept := by
  unfold settleRecord
  split
  · next h => simp [h.2]
  · next h => grind

@[simp] theorem length_settle : (settle kept records).length = records.length :=
  List.length_map _

theorem find_settle (kept : Finset UInt8) (records : Records) (txn : UInt8) :
    (settle kept records).find txn =
      (records.find txn).map (settleRecord kept) := by
  unfold find settle
  rw [List.find?_map]
  congr 2
  funext record
  simp

theorem settle_openSet (records : Records) :
    settle records.openSet records = records := by
  apply (List.map_congr_left _).trans (List.map_id records)
  intro record hMem
  apply if_neg
  rintro ⟨hOpen, hNot⟩
  exact hNot (mem_openSet.mpr ⟨record, hMem, hOpen, rfl⟩)

private theorem update_settle (hKept : txn ∈ kept)
    (hOpen : ∀ record ∈ records, record.transactionNum = txn →
      record.isOpen) :
    (settle kept records).update txn .cancel =
      settle (kept.erase txn) records := by
  unfold settle update
  rw [List.map_map]
  apply List.map_congr_left
  intro record hMem
  rw [Function.comp_apply, transactionNum_settleRecord]
  by_cases hTxn : record.transactionNum = txn
  · have hIsOpen := hOpen record hMem hTxn
    simp [settleRecord, hTxn, hKept, hIsOpen]
  · simp [settleRecord, hTxn]

end Settle

/-! ## The cascade is a sweep -/

section Cascade

variable {records : Records} {kept : Finset UInt8}

theorem isOpen_of_kept (hDistinct : records.transactions.Nodup)
    (hSub : kept ⊆ records.openSet) {record : RequestRecord}
    (hMem : record ∈ records) (hKept : record.transactionNum ∈ kept) :
    record.isOpen = true := by
  obtain ⟨other, hOther, hOpen, hTxn⟩ := mem_openSet.mp (hSub hKept)
  have hFind := find_of_mem hDistinct hOther
  rw [hTxn, find_of_mem hDistinct hMem] at hFind
  exact Option.some_inj.mp hFind ▸ hOpen

theorem pastCancellation_eq (record : RequestRecord) :
    record.state.pastCancellation = !record.isOpen :=
  (Bool.not_not _).symm

theorem cascadeCancel_closed {fuel : Nat} {txn : UInt8}
    (hClosed : ∀ record, records.find txn = some record → ¬ record.isOpen) :
    cascadeCancel fuel records txn = records := by
  cases fuel with
  | zero => rfl
  | succ fuel =>
      unfold cascadeCancel
      cases hFind : records.find txn with
      | none => rfl
      | some record =>
          simp [pastCancellation_eq, hClosed record hFind]

theorem cascadeCancel_open {fuel : Nat} {txn : UInt8} {record : RequestRecord}
    (hFind : records.find txn = some record) (hOpen : record.isOpen) :
    cascadeCancel (fuel + 1) records txn =
      record.chainedSuccessors.foldl (cascadeCancel fuel)
        (records.update txn .cancel) := by
  rw [cascadeCancel, hFind]
  simp [pastCancellation_eq, hOpen]

theorem foldl_cascadeCancel {fuel : Nat} (hSub : kept ⊆ records.openSet)
    (hOne : ∀ kept ⊆ records.openSet, ∀ txn,
      cascadeCancel fuel (settle kept records) txn =
        settle (sweep records.successors fuel kept txn) records)
    (hLess : ∀ (kept : Finset UInt8) (txn : UInt8),
      sweep records.successors fuel kept txn ⊆ kept)
    (txns : List UInt8) :
    txns.foldl (cascadeCancel fuel) (settle kept records) =
      settle (txns.foldl (sweep records.successors fuel) kept) records := by
  induction txns generalizing kept with
  | nil => rfl
  | cons txn txns ih =>
      rw [List.foldl_cons, List.foldl_cons, hOne kept hSub]
      exact ih ((hLess kept txn).trans hSub)

theorem cascadeCancel_settle (hDistinct : records.transactions.Nodup)
    (fuel : Nat) (hSub : kept ⊆ records.openSet) (txn : UInt8) :
    cascadeCancel fuel (settle kept records) txn =
      settle (sweep records.successors fuel kept txn) records := by
  induction fuel generalizing kept txn with
  | zero => rfl
  | succ fuel ih =>
      unfold sweep
      by_cases hKept : txn ∈ kept
      · obtain ⟨record, hMem, hOpen, hTxn⟩ := mem_openSet.mp (hSub hKept)
        subst hTxn
        have hFind := find_of_mem hDistinct hMem
        have hSettled : (settle kept records).find record.transactionNum =
            some (settleRecord kept record) := by
          rw [find_settle, hFind, Option.map_some]
        have hSuccessors : records.successors record.transactionNum =
            record.chainedSuccessors := by
          unfold successors
          rw [hFind]
        rw [if_pos hKept, hSuccessors, cascadeCancel_open hSettled
          (isOpen_settleRecord.mpr ⟨hOpen, hKept⟩), update_settle hKept,
          chainedSuccessors_settleRecord]
        · exact foldl_cascadeCancel
            ((Finset.erase_subset _ kept).trans hSub)
            (fun kept hSub txn => ih hSub txn)
            (fun kept txn => sweep_subset fuel kept txn) _
        · intro other hOther hEq
          exact isOpen_of_kept hDistinct hSub hOther (hEq ▸ hKept)
      · rw [if_neg hKept]
        apply cascadeCancel_closed
        intro settled hFind hOpen
        rw [find_settle, Option.map_eq_some_iff] at hFind
        obtain ⟨record, hFind, rfl⟩ := hFind
        have hTxn := (mem_of_find hFind).2
        exact hKept (hTxn ▸ (isOpen_settleRecord.mp hOpen).2)

end Cascade

/-! ## Cancelling everything -/

/-- The records that `cancel_all` cancels for themselves. -/
def selected (nonSafestateOnly : Bool) (records : Records) : List UInt8 :=
  transactions (records.filter fun record =>
    !(nonSafestateOnly && record.isSafety))

section CancelAll

variable {records : Records}

private theorem selected_append (nonSafestateOnly : Bool)
    (before after : Records) :
    selected nonSafestateOnly (before ++ after) =
      selected nonSafestateOnly before ++ selected nonSafestateOnly after := by
  simp [selected, transactions]

private theorem selected_singleton (nonSafestateOnly : Bool)
    (record : RequestRecord) :
    selected nonSafestateOnly [record] =
      if nonSafestateOnly && record.isSafety then []
      else [record.transactionNum] := by
  unfold selected transactions
  rw [List.filter_singleton]
  cases nonSafestateOnly && record.isSafety <;> rfl

private theorem cancelAt_settle (hDistinct : records.transactions.Nodup)
    (nonSafestateOnly : Bool) {kept : Finset UInt8}
    (hSub : kept ⊆ records.openSet) (count i : Nat)
    (hi : i < records.length) :
    (cancelAt nonSafestateOnly (settle kept records, count) i).1 =
      settle ((selected nonSafestateOnly [records[i]]).foldl
        (sweep records.successors records.length) kept) records := by
  have hGet : (settle kept records)[i]? =
      some (settleRecord kept records[i]) := by
    simp [settle, List.getElem?_eq_getElem hi]
  have hState : ((settleRecord kept records[i]).state ≠ .pending ∧
      (settleRecord kept records[i]).state ≠ .started) ↔
        ¬ (settleRecord kept records[i]).isOpen = true := by
    unfold RequestRecord.isOpen
    cases (settleRecord kept records[i]).state <;>
      simp [RequestState.pastCancellation]
  unfold cancelAt
  simp only [hGet, hState, isSafety_settleRecord, length_settle,
    transactionNum_settleRecord]
  rw [selected_singleton]
  by_cases hSkip : (nonSafestateOnly && records[i].isSafety) = true
  · rw [if_pos hSkip, if_pos hSkip, ite_self]
    rfl
  · rw [if_neg hSkip, if_neg hSkip, List.foldl_cons, List.foldl_nil,
      ← cascadeCancel_settle hDistinct _ hSub]
    split
    · next hClosed =>
        -- a record that is not open is left alone by the cascade as well
        refine (cascadeCancel_closed fun settled hFind => ?_).symm
        rw [find_settle, find_of_mem hDistinct (List.getElem_mem hi),
          Option.map_some, Option.some_inj] at hFind
        exact hFind ▸ hClosed
    · rfl

private theorem foldl_cancelAt (hDistinct : records.transactions.Nodup)
    (nonSafestateOnly : Bool) (n : Nat) (hn : n ≤ records.length) :
    ((List.range n).foldl (cancelAt nonSafestateOnly) (records, 0)).1 =
      settle ((selected nonSafestateOnly (records.take n)).foldl
        (sweep records.successors records.length) records.openSet)
        records := by
  induction n with
  | zero => exact (settle_openSet records).symm
  | succ n ih =>
      have hSub : (selected nonSafestateOnly (records.take n)).foldl
          (sweep records.successors records.length) records.openSet ⊆
            records.openSet :=
        foldl_sweep_subset (sweep_subset records.length) _ _
      have hStep := cancelAt_settle hDistinct nonSafestateOnly hSub
        ((List.range n).foldl (cancelAt nonSafestateOnly) (records, 0)).2 n hn
      rw [← ih (Nat.le_of_lt hn)] at hStep
      rw [List.range_succ, List.foldl_append, List.foldl_cons,
        List.foldl_nil, hStep, List.take_succ_eq_append_getElem hn,
        selected_append, List.foldl_append]

theorem cancelAll_eq (hDistinct : records.transactions.Nodup)
    (nonSafestateOnly : Bool) :
    (cancelAll nonSafestateOnly records).1 =
      settle ((selected nonSafestateOnly records).foldl
        (sweep records.successors records.length) records.openSet)
        records := by
  have hAll := foldl_cancelAt hDistinct nonSafestateOnly records.length le_rfl
  rwa [List.take_length] at hAll

theorem swept_selected (nonSafestateOnly : Bool) (records : Records) :
    Swept records.successors records.openSet
      (selected nonSafestateOnly records)
      ((selected nonSafestateOnly records).foldl
        (sweep records.successors records.length) records.openSet) :=
  swept_sweepAll _ _ _ (card_openSet_le records)

end CancelAll

end Records

end CppRcp.Request
