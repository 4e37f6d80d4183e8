import CppRcp.Admission.Cancellation

/-!
# How far a cancellation reaches

The links between records form any graph, with cycles, self links and links to
transactions that were never submitted.  `Cancels` follows the recursive calls
of `cascade_cancel` without any bound on them, so that a derivation of it is a
run that has come to an end.
-/

namespace CppRcp.Request

open CppRcp.Foundation

namespace Records

/-- The calls for `txns` are made one after the other, and have returned. -/
inductive Cancels : Records → List UInt8 → Records → Prop
  | done (records : Records) : Cancels records [] records
  | skip {records after : Records} {txn : UInt8} {txns : List UInt8}
      (hClosed : ∀ record, records.find txn = some record → ¬ record.isOpen)
      (hRest : Cancels records txns after) :
      Cancels records (txn :: txns) after
  | cancel {records middle after : Records} {txn : UInt8} {txns : List UInt8}
      {record : RequestRecord} (hFind : records.find txn = some record)
      (hOpen : record.isOpen)
      (hNested : Cancels (records.update txn .cancel)
        record.chainedSuccessors middle)
      (hRest : Cancels middle txns after) :
      Cancels records (txn :: txns) after

/-! ## Termination -/

section Termination

variable {records middle after : Records} {txn : UInt8} {txns : List UInt8}
  {record : RequestRecord} {fuel : Nat}

private theorem mem_openSet_of_find (hFind : records.find txn = some record)
    (hOpen : record.isOpen) : txn ∈ records.openSet := by
  obtain ⟨hMem, hTxn⟩ := mem_of_find hFind
  exact mem_openSet.mpr ⟨record, hMem, hOpen, hTxn⟩

private theorem openSet_update_cancel (records : Records) (txn : UInt8) :
    (records.update txn .cancel).openSet = records.openSet.erase txn := by
  ext other
  simp only [Finset.mem_erase, mem_openSet, update, List.mem_map]
  constructor
  · rintro ⟨_, ⟨record, hMem, rfl⟩, hOpen, hTxn⟩
    by_cases hNe : record.transactionNum = txn
    · simp [hNe] at hOpen
    · rw [if_neg hNe] at hOpen hTxn
      exact ⟨hTxn ▸ hNe, record, hMem, hOpen, hTxn⟩
  · rintro ⟨hNe, record, hMem, hOpen, rfl⟩
    exact ⟨record, ⟨record, hMem, if_neg hNe⟩, hOpen, rfl⟩

private theorem card_openSet_update_lt (hFind : records.find txn = some record)
    (hOpen : record.isOpen) :
    (records.update txn .cancel).openSet.card < records.openSet.card := by
  rw [openSet_update_cancel]
  exact Finset.card_erase_lt_of_mem (mem_openSet_of_find hFind hOpen)

private theorem Cancels.openSet_subset (h : Cancels records txns after) :
    after.openSet ⊆ records.openSet := by
  induction h with
  | done _ => exact Finset.Subset.refl _
  | skip _ _ ih => exact ih
  | cancel _ _ _ _ ihNested ihRest =>
      rw [openSet_update_cancel] at ihNested
      exact ihRest.trans (ihNested.trans (Finset.erase_subset _ _))

private theorem cancels_foldl
    (hOne : ∀ (records : Records) (txn : UInt8),
      records.openSet.card ≤ fuel →
        Cancels records [txn] (cascadeCancel fuel records txn))
    (txns : List UInt8) (records : Records)
    (hFuel : records.openSet.card ≤ fuel) :
    Cancels records txns (txns.foldl (cascadeCancel fuel) records) := by
  induction txns generalizing records with
  | nil => exact .done records
  | cons txn txns ih =>
      have hFirst := hOne records txn hFuel
      have hCard := Finset.card_le_card hFirst.openSet_subset
      have hRest := ih _ (hCard.trans hFuel)
      rw [List.foldl_cons]
      cases hFirst with
      | skip hClosed hDone =>
          rw [cascadeCancel_closed hClosed] at hRest ⊢
          exact .skip hClosed hRest
      | cancel hFind hOpen hNested hDone =>
          cases hDone
          exact .cancel hFind hOpen hNested hRest

private theorem cancels_cascadeCancel (fuel : Nat) (records : Records)
    (txn : UInt8) (hFuel : records.openSet.card ≤ fuel) :
    Cancels records [txn] (cascadeCancel fuel records txn) := by
  induction fuel generalizing records txn with
  | zero =>
      refine .skip ?_ (.done records)
      intro record hFind hOpen
      have hLess := card_openSet_update_lt hFind hOpen
      omega
  | succ fuel ih =>
      by_cases hOpen :
          ∃ record, records.find txn = some record ∧ record.isOpen
      · obtain ⟨record, hFind, hOpen⟩ := hOpen
        have hLess := card_openSet_update_lt hFind hOpen
        rw [cascadeCancel_open hFind hOpen]
        exact .cancel hFind hOpen
          (cancels_foldl (fun records txn => ih records txn) _ _ (by omega))
          (.done _)
      · have hClosed : ∀ record, records.find txn = some record →
            ¬ record.isOpen :=
          fun record hFind hIsOpen => hOpen ⟨record, hFind, hIsOpen⟩
        rw [cascadeCancel_closed hClosed]
        exact .skip hClosed (.done records)

theorem Cancels.unique (hAfter : Cancels records txns after)
    (hMiddle : Cancels records txns middle) : middle = after := by
  induction hAfter generalizing middle with
  | done _ =>
      cases hMiddle
      rfl
  | skip hClosed _ ih =>
      cases hMiddle with
      | skip _ hRest => exact ih hRest
      | cancel hFind hOpen _ _ => exact absurd hOpen (hClosed _ hFind)
  | cancel hFind hOpen _ _ ihNested ihRest =>
      cases hMiddle with
      | skip hClosed _ => exact absurd hOpen (hClosed _ hFind)
      | cancel hFind' _ hNested hRest =>
          rw [hFind, Option.some_inj] at hFind'
          subst hFind'
          rw [ihNested hNested] at hRest
          exact ihRest hRest

end Termination

/-! ## Reach -/

/-- A path of successor links leads from one of the roots to the record, over
records that can all still be canceled, the first and the last included. -/
def Reached (records : Records) (roots : List UInt8)
    (record : RequestRecord) : Prop :=
  ∃ root ∈ roots,
    LeadsTo records.successors records.openSet root record.transactionNum

end Records

/-- The calls for `roots` return, with one result, and cancel what they
reach and nothing else. -/
structure CancelsReached (before : RequestLedger) (roots : List UInt8)
    (after : RequestLedger) : Prop where
  returns : Records.Cancels before.records roots after.records
  unique : ∀ records, Records.Cancels before.records roots records →
    records = after.records
  exact : List.Forall₂ (fun record later =>
      (before.records.Reached roots record → later = record.cancel) ∧
        (¬ before.records.Reached roots record → later = record))
    before.records after.records

section Reach

open Records

variable {ledger : RequestLedger} {record : RequestRecord}

private theorem settleRecord_of_reached {roots : List UInt8}
    {left : Finset UInt8}
    (hSwept : Swept ledger.records.successors ledger.records.openSet roots
      left) (hMem : record ∈ ledger.records) :
    (ledger.records.Reached roots record →
        settleRecord left record = record.cancel) ∧
      (¬ ledger.records.Reached roots record →
        settleRecord left record = record) := by
  constructor
  · rintro ⟨root, hRoot, hPath⟩
    have hOpen := isOpen_of_kept ledger.distinct (Finset.Subset.refl _) hMem
      hPath.target_mem
    exact if_pos ⟨hOpen, hSwept.not_mem_of_leadsTo hRoot hPath⟩
  · intro hNone
    apply if_neg
    rintro ⟨hOpen, hGone⟩
    have hLive := mem_openSet.mpr ⟨record, hMem, hOpen, rfl⟩
    exact hNone (hSwept.reached _ hLive hGone)

private theorem foldl_cascadeCancel_eq (ledger : RequestLedger)
    (roots : List UInt8) :
    roots.foldl (cascadeCancel ledger.records.length) ledger.records =
      settle (roots.foldl
        (sweep ledger.records.successors ledger.records.length)
        ledger.records.openSet) ledger.records := by
  have hFold := foldl_cascadeCancel (Finset.Subset.refl _)
    (fun _ hSub txn => cascadeCancel_settle ledger.distinct
      ledger.records.length hSub txn)
    (sweep_subset ledger.records.length) roots
  rwa [settle_openSet] at hFold

private theorem cancelsReached_foldl (ledger after : RequestLedger)
    (roots : List UInt8)
    (hAfter : after.records =
      roots.foldl (cascadeCancel ledger.records.length) ledger.records) :
    CancelsReached ledger roots after where
  returns := by
    rw [hAfter]
    exact cancels_foldl (cancels_cascadeCancel _) roots _
      (card_openSet_le ledger.records)
  unique := by
    intro records hRecords
    rw [hAfter]
    exact (cancels_foldl (cancels_cascadeCancel _) roots _
      (card_openSet_le ledger.records)).unique hRecords
  exact := by
    rw [hAfter, foldl_cascadeCancel_eq]
    apply List.forall₂_map_right_iff.mpr
    apply List.forall₂_same.mpr
    intro record hMem
    exact settleRecord_of_reached
      (swept_sweepAll _ roots _ (card_openSet_le ledger.records)) hMem

private theorem records_cancelSingle (ledger : RequestLedger) (txn : UInt8) :
    (ledger.cancelSingle txn).1.records =
      [txn].foldl (cascadeCancel ledger.records.length) ledger.records := by
  rw [List.foldl_cons, List.foldl_nil]
  unfold RequestLedger.cancelSingle RequestLedger.find
  split
  · next hFind =>
      exact (cascadeCancel_closed fun record h => by simp [hFind] at h).symm
  · next record hFind =>
      split
      · next hPast =>
          rw [cascadeCancel_closed]
          intro other hOther
          rw [hFind, Option.some_inj] at hOther
          simpa [← hOther, pastCancellation_eq] using hPast
      · rfl

private theorem records_cancelAll (ledger : RequestLedger)
    (nonSafestateOnly : Bool) :
    (ledger.cancelAll nonSafestateOnly).1.records =
      (selected nonSafestateOnly ledger.records).foldl
        (cascadeCancel ledger.records.length) ledger.records :=
  (cancelAll_eq ledger.distinct nonSafestateOnly).trans
    (foldl_cascadeCancel_eq ledger _).symm

/-- For every ledger, and so for every graph of links among its records. -/
theorem cancel_reached (ledger : RequestLedger) :
    (∀ txn, CancelsReached ledger [txn] (ledger.cancelSingle txn).1) ∧
      ∀ nonSafestateOnly,
        CancelsReached ledger (selected nonSafestateOnly ledger.records)
          (ledger.cancelAll nonSafestateOnly).1 :=
  ⟨fun txn => cancelsReached_foldl _ _ _ (records_cancelSingle ledger txn),
    fun nonSafestateOnly => cancelsReached_foldl _ _ _
      (records_cancelAll ledger nonSafestateOnly)⟩

end Reach

end CppRcp.Request
