import CppRcp.Admission.Cancellation

/-!
# What an operation does to the records of a ledger

An operation of the ledger changes a record only by moves of its lifecycle,
and only a submission adds one.  `Evolves` relates the records before and after
an operation one by one; it is transitive, so an operation made of several
parts evolves the ledger if each part does.
-/

namespace CppRcp.Request

open CppRcp.Foundation CppRcp.E2e

/-! ## Moves of one record -/

inductive Moves : RequestState → RequestState → Prop
  | start : Moves .pending .started
  | beginExecution : Moves .started .underExecution
  | finalize : Moves .underExecution .finalized
  | cancelPending : Moves .pending .canceled
  | cancelStarted : Moves .started .canceled

abbrev Reaches : RequestState → RequestState → Prop :=
  Relation.ReflTransGen Moves

def RequestState.isTerminal : RequestState → Bool
  | .finalized | .canceled => true
  | _ => false

theorem Reaches.eq_of_isTerminal {source target : RequestState}
    (h : Reaches source target) (hTerminal : source.isTerminal = true) :
    target = source := by
  induction h with
  | refl => rfl
  | tail _ hMove ih =>
      subst ih
      cases hMove <;> cases hTerminal

def RequestRecord.saysCanceled (record : RequestRecord) : Prop :=
  record.outcome = some (.request .requestCanceled)

instance (record : RequestRecord) : Decidable record.saysCanceled :=
  inferInstanceAs (Decidable (_ = _))

/-- What becomes of a record: its state moves, and its outcome follows a
cancellation. -/
structure Becomes (record later : RequestRecord) : Prop where
  transactionNum : later.transactionNum = record.transactionNum
  state : Reaches record.state later.state
  outcome : (record.saysCanceled ↔ record.state = .canceled) →
    (later.saysCanceled ↔ later.state = .canceled)

namespace Becomes

variable {a b c record : RequestRecord}

theorem refl (record : RequestRecord) : Becomes record record :=
  ⟨rfl, .refl, id⟩

theorem trans (hab : Becomes a b) (hbc : Becomes b c) : Becomes a c :=
  ⟨hbc.transactionNum.trans hab.transactionNum, hab.state.trans hbc.state,
    fun h => hbc.outcome (hab.outcome h)⟩

theorem withState {target : RequestState} (hMove : Moves record.state target)
    (hTarget : target ≠ .canceled) : Becomes record (record.withState target) where
  transactionNum := rfl
  state := .single hMove
  outcome h := by
    have hState : record.state ≠ .canceled := by
      intro hEq
      rw [hEq] at hMove
      cases hMove
    simpa [RequestRecord.withState, RequestRecord.saysCanceled, hTarget,
      hState] using h

theorem cancel (hOpen : record.isOpen = true) :
    Becomes record record.cancel where
  transactionNum := rfl
  state := by
    have hMove : Moves record.state .canceled := by
      unfold RequestRecord.isOpen at hOpen
      cases hState : record.state with
      | pending => exact .cancelPending
      | started => exact .cancelStarted
      | underExecution => simp [hState, RequestState.pastCancellation] at hOpen
      | finalized => simp [hState, RequestState.pastCancellation] at hOpen
      | canceled => simp [hState, RequestState.pastCancellation] at hOpen
    exact .single hMove
  outcome _ := by simp [RequestRecord.cancel, RequestRecord.saysCanceled]

theorem settleRecord (kept : Finset UInt8) (record : RequestRecord) :
    Becomes record (Records.settleRecord kept record) := by
  unfold Records.settleRecord
  split
  · next h => exact cancel h.1
  · exact refl record

end Becomes

/-! ## Moves of the records of a ledger -/

def Evolves (before after : Records) : Prop :=
  List.Forall₂ Becomes before after

namespace Evolves

variable {before middle after records : Records}

theorem refl (records : Records) : Evolves records records :=
  List.forall₂_same.mpr fun record _ => .refl record

theorem trans (hFirst : Evolves before middle) (hSecond : Evolves middle after) :
    Evolves before after := by
  induction hFirst generalizing after with
  | nil => exact hSecond
  | cons hHead _ ih =>
      cases hSecond with
      | cons hHead' hTail => exact .cons (hHead.trans hHead') (ih hTail)

theorem transactions (h : Evolves before after) :
    after.transactions = before.transactions := by
  induction h with
  | nil => rfl
  | cons hHead _ ih => exact congrArg₂ List.cons hHead.transactionNum ih

private theorem of_map {f : RequestRecord → RequestRecord}
    (hf : ∀ record ∈ records, Becomes record (f record)) :
    Evolves records (records.map f) :=
  List.forall₂_map_right_iff.mpr (List.forall₂_same.mpr hf)

theorem settle (kept : Finset UInt8) (records : Records) :
    Evolves records (records.settle kept) :=
  of_map fun record _ => Becomes.settleRecord kept record

theorem cascadeCancel (hDistinct : records.transactions.Nodup) (fuel : Nat)
    (txn : UInt8) : Evolves records (Records.cascadeCancel fuel records txn) := by
  have hSettled := Records.cascadeCancel_settle hDistinct fuel
    (Finset.Subset.refl records.openSet) txn
  rw [Records.settle_openSet] at hSettled
  rw [hSettled]
  exact settle _ records

theorem cancelAll (hDistinct : records.transactions.Nodup)
    (nonSafestateOnly : Bool) :
    Evolves records (Records.cancelAll nonSafestateOnly records).1 := by
  rw [Records.cancelAll_eq hDistinct]
  exact settle _ records

theorem abortSuccessor (hDistinct : records.transactions.Nodup)
    (errored : Bool) (txn : UInt8) :
    Evolves records (Records.abortSuccessor errored records txn) := by
  unfold Records.abortSuccessor
  cases records.find txn with
  | none => exact refl records
  | some record =>
      dsimp only
      split
      · exact refl records
      · exact cascadeCancel hDistinct _ txn

private theorem foldl_abortSuccessor (hDistinct : records.transactions.Nodup)
    (errored : Bool) (txns : List UInt8) :
    Evolves records (txns.foldl (Records.abortSuccessor errored) records) := by
  induction txns generalizing records with
  | nil => exact refl records
  | cons txn txns ih =>
      have hFirst := abortSuccessor hDistinct errored txn
      have hRest := ih (hFirst.transactions ▸ hDistinct)
      exact hFirst.trans hRest

theorem transition (hDistinct : records.transactions.Nodup) (txn : UInt8)
    {source target : RequestState} (hMove : Moves source target)
    (hTarget : target ≠ .canceled) :
    Evolves records (records.transition txn source target).1 := by
  unfold Records.transition
  cases hFind : records.find txn with
  | none => exact refl records
  | some record =>
      dsimp only
      by_cases hState : record.state = source
      · rw [if_neg (not_not.mpr hState)]
        apply of_map
        intro other hOther
        split
        · next hTxn =>
            -- the record found is the only one under its number
            have hSame := Records.find_of_mem hDistinct hOther
            rw [hTxn, hFind] at hSame
            cases hSame
            exact .withState (hState ▸ hMove) hTarget
        · exact .refl other
      · rw [if_pos hState]
        exact refl records

end Evolves

/-! ## Operations -/

/-- What an operation can do to the records of a ledger: evolve them, and add
the one submitted. -/
inductive OpEffect (before : Records) : LedgerOp → Records → LedgerReply → Prop
  | evolved {op after reply} (h : Evolves before after)
      (hReply : ∀ e, reply = .code (some e) → after = before) :
      OpEffect before op after reply
  | submitted (record : RequestRecord) (seq : Nat) :
      OpEffect before (.submit record)
        (before ++ [{ record with state := .pending, arrivalSeq := seq }])
        (.code none)

namespace RequestLedger

variable (ledger : RequestLedger)

private theorem transition_refused {txn : UInt8} {source target : RequestState}
    {e : ErrorCode}
    (h : (ledger.transition txn source target).2 = some e) :
    (ledger.transition txn source target).1.records = ledger.records := by
  simp only [transition, withRecords, Records.transition] at h ⊢
  grind

theorem transition_effect (op : LedgerOp) (txn : UInt8)
    {source target : RequestState} (hMove : Moves source target)
    (hTarget : target ≠ .canceled) :
    OpEffect ledger.records op
      (ledger.transition txn source target).1.records
      (.code (ledger.transition txn source target).2) := by
  refine .evolved (.transition ledger.distinct txn hMove hTarget) ?_
  intro e hReply
  exact ledger.transition_refused (LedgerReply.code.inj hReply)

private theorem submit_effect (record : RequestRecord) :
    OpEffect ledger.records (.submit record) (ledger.submit record).1.records
      (.code (ledger.submit record).2) := by
  unfold submit
  split
  · exact .evolved (.refl _) fun _ _ => rfl
  · split
    · exact .submitted record _
    · exact .evolved (.refl _) fun _ _ => rfl

private theorem finalize_effect (txn : UInt8) (errored : Bool)
    (sequencers : Option SequencerTable) :
    OpEffect ledger.records (.finalize txn errored sequencers)
      (ledger.finalize txn errored sequencers).1.records
      (.code (ledger.finalize txn errored sequencers).2.2) := by
  have hMoved : Evolves ledger.records
      (ledger.transition txn .underExecution .finalized).1.records :=
    .transition ledger.distinct txn .finalize (by simp)
  unfold finalize
  cases hCode : (ledger.transition txn .underExecution .finalized).2 with
  | some e =>
      simp only [hCode]
      exact .evolved hMoved fun _ _ => ledger.transition_refused hCode
  | none =>
      simp only [hCode]
      refine .evolved (hMoved.trans ?_) (by simp)
      exact Evolves.foldl_abortSuccessor
        (RequestLedger.distinct _) errored _

private theorem cancelSingle_effect (txn : UInt8) :
    OpEffect ledger.records (.cancelSingle txn)
      (ledger.cancelSingle txn).1.records
      (.code (ledger.cancelSingle txn).2) := by
  unfold cancelSingle
  cases ledger.find txn with
  | none => exact .evolved (.refl _) fun _ _ => rfl
  | some record =>
      dsimp only
      split
      · exact .evolved (.refl _) fun _ _ => rfl
      · exact .evolved (.cascadeCancel ledger.distinct _ txn) (by simp)

private theorem applyOverflow_effect (op : LedgerOp) (safestateEnable : Bool)
    (watchdog : RxWatchdog) :
    OpEffect ledger.records op
      (applyOverflow safestateEnable watchdog ledger).2.1.records
      (.count (applyOverflow safestateEnable watchdog ledger).2.2) := by
  cases safestateEnable with
  | false => exact .evolved (.refl _) (by simp)
  | true => exact .evolved (.cancelAll ledger.distinct true) (by simp)

theorem ledgerStep_effect (op : LedgerOp) :
    OpEffect ledger.records op (ledgerStep ledger op).1.records
      (ledgerStep ledger op).2 := by
  cases op with
  | submit record => exact ledger.submit_effect record
  | start txn => exact ledger.transition_effect _ txn .start (by simp)
  | beginExecution txn =>
      exact ledger.transition_effect _ txn .beginExecution (by simp)
  | finalize txn errored sequencers =>
      exact ledger.finalize_effect txn errored sequencers
  | cancelSingle txn => exact ledger.cancelSingle_effect txn
  | cancelAll nonSafestateOnly =>
      exact .evolved (.cancelAll ledger.distinct nonSafestateOnly) (by simp [ledgerStep])
  | watchdogOverflow cfg watchdog =>
      exact ledger.applyOverflow_effect _ cfg.rxWdSafestateEnable watchdog
  | queueOverflow cfg watchdog =>
      exact ledger.applyOverflow_effect _ cfg.rxOvrflwSafestateEnable watchdog

end RequestLedger

end CppRcp.Request
