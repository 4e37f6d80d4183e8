import CppRcp.Admission.Conditions
import CppRcp.Foundation.Runs
import CppRcp.Streams.Guards

/-!
# The request ledger

`request::RequestLedger` follows each submitted request through its lifecycle,
and cancels along the successor links of chained requests.  Records are never
removed, and a transaction number is tracked once.
-/

namespace CppRcp.Request

open CppRcp.Foundation

/-! ## Records -/

inductive RequestState
  | pending | started | underExecution | finalized | canceled
  deriving DecidableEq, Repr

/-- What `cancel_single` and `cascade_cancel` leave alone. -/
def RequestState.pastCancellation : RequestState → Bool
  | .underExecution | .finalized | .canceled => true
  | .pending | .started => false

structure RequestRecord where
  transactionNum : UInt8 := 0
  requestType : Option RequestTypeOpcode := none
  state : RequestState := .pending
  cs : Bool := false
  isSafety : Bool := false
  arrivalSeq : Nat := 0
  compoundStep : Option CompoundStep := none
  chainedPredecessor : Option UInt8 := none
  chainedSuccessors : List UInt8 := []
  outcome : Option ErrorCode := none
  deriving DecidableEq, Repr

def requestRecordFor (transactionNum : UInt8)
    (type : Option RequestTypeOpcode) (cs : Bool) : RequestRecord :=
  { transactionNum, requestType := type, cs,
    isSafety := type.any isSafetyVariant }

namespace RequestRecord

def isOpen (record : RequestRecord) : Bool :=
  !record.state.pastCancellation

def withState (state : RequestState) (record : RequestRecord) :
    RequestRecord :=
  { record with state }

def cancel (record : RequestRecord) : RequestRecord :=
  { record with
    state := .canceled, outcome := some (.request .requestCanceled) }

@[simp] theorem transactionNum_cancel (record : RequestRecord) :
    record.cancel.transactionNum = record.transactionNum := rfl

@[simp] theorem isOpen_cancel (record : RequestRecord) :
    record.cancel.isOpen = false := rfl

theorem state_cancel_ne {record : RequestRecord}
    (h : record.isOpen = true) : record.cancel.state ≠ record.state := by
  intro hState
  unfold isOpen at h
  rw [← hState] at h
  exact Bool.noConfusion h

end RequestRecord

/-! ## Lists of records -/

abbrev Records := List RequestRecord

namespace Records

def find (records : Records) (txn : UInt8) : Option RequestRecord :=
  records.find? fun record => record.transactionNum = txn

/-- Change the record that `find_mut` points to. -/
def update (records : Records) (txn : UInt8)
    (f : RequestRecord → RequestRecord) : Records :=
  records.map fun record =>
    if record.transactionNum = txn then f record else record

def transactions (records : Records) : List UInt8 :=
  records.map RequestRecord.transactionNum

private theorem isSome_find {records : Records} {txn : UInt8} :
    (records.find txn).isSome ↔ txn ∈ records.transactions := by
  simp [find, transactions, List.find?_isSome]

private theorem transactions_append (before : Records)
    (record : RequestRecord) :
    (before ++ [record] : Records).transactions =
      before.transactions ++ [record.transactionNum] :=
  List.map_append

/-- `transition`: the error, if the record is not in the state it is to
leave. -/
def transition (records : Records) (txn : UInt8) (source target : RequestState) :
    Records × Option ErrorCode :=
  match records.find txn with
  | none => (records, some (.request .unknownTransaction))
  | some record =>
      if record.state ≠ source then
        (records, some (.request .invalidLifecycleTransition))
      else (records.update txn (.withState target), none)

/-- `cascade_cancel`.  A nested call is made after one more record has been
canceled, so that no run of it is deeper than the number of records. -/
def cascadeCancel : Nat → Records → UInt8 → Records
  | 0, records, _ => records
  | fuel + 1, records, txn =>
      match records.find txn with
      | none => records
      | some record =>
          if record.state.pastCancellation then records
          else
            record.chainedSuccessors.foldl (cascadeCancel fuel)
              (records.update txn .cancel)

/-- One turn of the loop of `cancel_all`, with the count so far. -/
def cancelAt (nonSafestateOnly : Bool) (acc : Records × Nat) (i : Nat) :
    Records × Nat :=
  match acc.1[i]? with
  | none => acc
  | some record =>
      if record.state ≠ .pending ∧ record.state ≠ .started then acc
      else if nonSafestateOnly && record.isSafety then acc
      else
        (cascadeCancel acc.1.length acc.1 record.transactionNum, acc.2 + 1)

def cancelAll (nonSafestateOnly : Bool) (records : Records) : Records × Nat :=
  (List.range records.length).foldl (cancelAt nonSafestateOnly) (records, 0)

def abortSuccessor (predecessorErrored : Bool) (records : Records)
    (txn : UInt8) : Records :=
  match records.find txn with
  | none => records
  | some record =>
      if shouldExecuteChained record.cs predecessorErrored then records
      else cascadeCancel records.length records txn

def propagateChainCompletion (records : Records) (predecessorTxn : UInt8)
    (predecessorErrored : Bool) : Records :=
  let successors := transactions <| records.filter fun record =>
    record.chainedPredecessor = some predecessorTxn
  successors.foldl (abortSuccessor predecessorErrored) records

/-! ### Transaction numbers -/

section Transactions

variable (records : Records)

private theorem transactions_update (txn : UInt8)
    (f : RequestRecord → RequestRecord)
    (hf : ∀ record, (f record).transactionNum = record.transactionNum) :
    (records.update txn f).transactions = records.transactions := by
  unfold update transactions
  rw [List.map_map]
  apply List.map_congr_left
  intro record _
  rw [Function.comp_apply]
  split
  · exact hf record
  · rfl

private theorem transactions_foldl {β : Type} (f : Records → β → Records)
    (hf : ∀ records b, transactions (f records b) = transactions records)
    (bs : List β) :
    (bs.foldl f records).transactions = records.transactions := by
  induction bs generalizing records with
  | nil => rfl
  | cons b bs ih => rw [List.foldl_cons, ih, hf]

private theorem transactions_transition (txn : UInt8)
    (source target : RequestState) :
    (records.transition txn source target).1.transactions =
      records.transactions := by
  unfold transition
  split
  · rfl
  · split
    · rfl
    · exact transactions_update records txn _ fun _ => rfl

private theorem transactions_cascadeCancel (fuel : Nat) (txn : UInt8) :
    (cascadeCancel fuel records txn).transactions = records.transactions := by
  induction fuel generalizing records txn with
  | zero => rfl
  | succ fuel ih =>
      unfold cascadeCancel
      split
      · rfl
      · split
        · rfl
        · rw [transactions_foldl _ _ fun records txn => ih records txn]
          exact transactions_update records txn _ fun _ => rfl

private theorem transactions_cancelAt (nonSafestateOnly : Bool)
    (acc : Records × Nat) (i : Nat) :
    (cancelAt nonSafestateOnly acc i).1.transactions = acc.1.transactions := by
  unfold cancelAt
  split
  · rfl
  · split
    · rfl
    · split
      · rfl
      · exact transactions_cascadeCancel _ _ _

private theorem transactions_cancelAll (nonSafestateOnly : Bool) :
    (cancelAll nonSafestateOnly records).1.transactions =
      records.transactions := by
  unfold cancelAll
  induction List.range records.length using List.reverseRecOn with
  | nil => rfl
  | append_singleton before i ih =>
      rw [List.foldl_append, List.foldl_cons, List.foldl_nil,
        transactions_cancelAt, ih]

private theorem transactions_propagateChainCompletion (predecessorTxn : UInt8)
    (predecessorErrored : Bool) :
    (records.propagateChainCompletion predecessorTxn
      predecessorErrored).transactions = records.transactions := by
  apply transactions_foldl
  intro records txn
  unfold abortSuccessor
  split
  · rfl
  · split
    · rfl
    · exact transactions_cascadeCancel _ _ _

end Transactions

end Records

/-! ## The ledger -/

def maxTrackedRequests : Nat := 64

structure RequestLedger where
  records : Records := []
  nextArrivalSeq : Nat := 0
  distinct : records.transactions.Nodup := by decide
  length_le : records.length ≤ maxTrackedRequests := by decide

namespace RequestLedger

variable (ledger : RequestLedger)

def withRecords (records : Records)
    (h : records.transactions = ledger.records.transactions) :
    RequestLedger :=
  { ledger with
    records
    distinct := h ▸ ledger.distinct
    length_le := by
      have hLength := congrArg List.length h
      unfold Records.transactions at hLength
      rw [List.length_map, List.length_map] at hLength
      exact hLength ▸ ledger.length_le }

def find (txn : UInt8) : Option RequestRecord := ledger.records.find txn

def submit (record : RequestRecord) : RequestLedger × Option ErrorCode :=
  if hFresh : (ledger.find record.transactionNum).isSome then
    (ledger, some (.request .transactionNumCollision))
  else if hRoom : ledger.records.length < maxTrackedRequests then
    ({ records := ledger.records ++
        [{ record with state := .pending, arrivalSeq := ledger.nextArrivalSeq }]
       nextArrivalSeq := ledger.nextArrivalSeq + 1
       distinct := by
        unfold find at hFresh
        rw [Records.isSome_find] at hFresh
        rw [Records.transactions_append]
        exact ledger.distinct.append (List.nodup_singleton _)
          (List.disjoint_singleton.mpr hFresh)
       length_le := by rw [List.length_append]; exact hRoom }, none)
  else (ledger, some (.request .ledgerFull))

def transition (txn : UInt8) (source target : RequestState) :
    RequestLedger × Option ErrorCode :=
  (ledger.withRecords (ledger.records.transition txn source target).1
      (Records.transactions_transition ..),
    (ledger.records.transition txn source target).2)

def start (txn : UInt8) : RequestLedger × Option ErrorCode :=
  ledger.transition txn .pending .started

def beginExecution (txn : UInt8) : RequestLedger × Option ErrorCode :=
  ledger.transition txn .started .underExecution

def finalStep (record : RequestRecord) : Option CompoundStep :=
  match record.compoundStep, record.requestType with
  | some step, some type =>
      if isCompound type || isCompoundWait type then some step else none
  | _, _ => none

def finalizeSequencers (record : Option RequestRecord)
    (sequencers : SequencerTable) : SequencerTable :=
  match record.bind finalStep with
  | none => sequencers
  | some step =>
      if advanceGuard sequencers step then applyNextState sequencers step
      else sequencers

def finalize (txn : UInt8) (errored : Bool)
    (sequencers : Option SequencerTable) :
    RequestLedger × Option SequencerTable × Option ErrorCode :=
  let moved := ledger.transition txn .underExecution .finalized
  match moved.2 with
  | some e => (moved.1, sequencers, some e)
  | none =>
      (moved.1.withRecords
          (moved.1.records.propagateChainCompletion txn errored)
          (Records.transactions_propagateChainCompletion ..),
        sequencers.map (finalizeSequencers (moved.1.find txn)), none)

def cancelSingle (txn : UInt8) : RequestLedger × Option ErrorCode :=
  match ledger.find txn with
  | none => (ledger, some (.request .requestNotFound))
  | some record =>
      if record.state.pastCancellation then
        (ledger, some (.request .requestNotCancellable))
      else
        (ledger.withRecords
          (Records.cascadeCancel ledger.records.length ledger.records txn)
          (Records.transactions_cascadeCancel ..), none)

/-- `clear-all`, or `clear-non-safestate` when safety records are to be
skipped; the count is of the records selected. -/
def cancelAll (nonSafestateOnly : Bool) : RequestLedger × Nat :=
  (ledger.withRecords (Records.cancelAll nonSafestateOnly ledger.records).1
      (Records.transactions_cancelAll ..),
    (Records.cancelAll nonSafestateOnly ledger.records).2)

def outcomeOf (txn : UInt8) : Except ErrorCode (Option ErrorCode) :=
  match ledger.find txn with
  | none => .error (.request .unknownTransaction)
  | some record => .ok record.outcome

end RequestLedger

end CppRcp.Request

/-! ## Overflows -/

namespace CppRcp.E2e

open CppRcp.Request CppRcp.Regmap

/-- Enter the safe state and purge the normal requests, if the trigger is
configured to. -/
def applyOverflow (safestateEnable : Bool) (watchdog : RxWatchdog)
    (ledger : RequestLedger) : RxWatchdog × RequestLedger × Nat :=
  if !safestateEnable then (watchdog, ledger, 0)
  else (watchdog.enterSafeState, ledger.cancelAll true)

def applyWatchdogOverflow (cfg : RequestStreamConfig) :
    RxWatchdog → RequestLedger → RxWatchdog × RequestLedger × Nat :=
  applyOverflow cfg.rxWdSafestateEnable

def applyQueueOverflow (cfg : RequestStreamConfig) :
    RxWatchdog → RequestLedger → RxWatchdog × RequestLedger × Nat :=
  applyOverflow cfg.rxOvrflwSafestateEnable

end CppRcp.E2e

/-! ## Runs -/

namespace CppRcp.Request

open CppRcp.E2e CppRcp.Regmap

inductive LedgerOp
  | submit (record : RequestRecord)
  | start (txn : UInt8)
  | beginExecution (txn : UInt8)
  | finalize (txn : UInt8) (errored : Bool)
      (sequencers : Option SequencerTable)
  | cancelSingle (txn : UInt8)
  | cancelAll (nonSafestateOnly : Bool)
  | watchdogOverflow (cfg : RequestStreamConfig) (watchdog : RxWatchdog)
  | queueOverflow (cfg : RequestStreamConfig) (watchdog : RxWatchdog)

inductive LedgerReply
  | code (e : Option ErrorCode)
  | count (n : Nat)
  deriving DecidableEq, Repr

def ledgerStep (ledger : RequestLedger) :
    LedgerOp → RequestLedger × LedgerReply
  | .submit record => (ledger.submit record).map id .code
  | .start txn => (ledger.start txn).map id .code
  | .beginExecution txn => (ledger.beginExecution txn).map id .code
  | .finalize txn errored sequencers =>
      let result := ledger.finalize txn errored sequencers
      (result.1, .code result.2.2)
  | .cancelSingle txn => (ledger.cancelSingle txn).map id .code
  | .cancelAll nonSafestateOnly =>
      (ledger.cancelAll nonSafestateOnly).map id .count
  | .watchdogOverflow cfg watchdog =>
      (applyWatchdogOverflow cfg watchdog ledger).2.map id .count
  | .queueOverflow cfg watchdog =>
      (applyQueueOverflow cfg watchdog ledger).2.map id .count

end CppRcp.Request
