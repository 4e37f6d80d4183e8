import CppRcp.Admission.Effects

/-!
# Transaction numbers of stored requests

A stored request can be cancelled by the transaction number of its frame as
long as its slot records that number.  Decoding a conditional request records
it.  A request that is postponed only by its presentation time is stored
undecoded, and its slot keeps the number 0.
-/

namespace CppRcp.Server

open CppRcp.Foundation CppRcp.Acf CppRcp.Request

def CarriesTransaction (frame : Octets) (num : UInt8) : Prop :=
  acfCommonHeaderLen ≤ frame.length ∧ transactionOf frame = num

instance (frame : Octets) (num : UInt8) :
    Decidable (CarriesTransaction frame num) :=
  inferInstanceAs (Decidable (_ ∧ _))

def RecordsTransactions (ep : Endpoint) : Prop :=
  ∀ index slot, ep.slots.pending index = some slot →
    CarriesTransaction slot.frame slot.transactionNum

/-- Cancelling a transaction succeeds exactly when a stored frame carries it,
and removes only requests whose frame does. -/
structure CancelsByTransaction (ep : Endpoint) : Prop where
  canceled_iff : ∀ num,
    (ep.cancelSingle num .queued).2 = .canceled ↔
      ∃ index slot, ep.slots.pending index = some slot ∧
        CarriesTransaction slot.frame num
  removed : ∀ num index slot, ep.slots.pending index = some slot →
    (ep.cancelSingle num .queued).1.slots.pending index = none →
    CarriesTransaction slot.frame num

/-- An admission under a presentation time must decode the request, store
nothing, or be of a request of transaction 0. -/
def Recordable (ep : Endpoint) : EndpointOp → Prop
  | .admitWithAck frame _ true _ _ =>
      gatedOnly frame true = false ∨
        ep.admissionSuspended = true ∨
        (acfCommonHeaderLen ≤ frame.length ∧
          headerIsRequest (decodeAcfMessageInfo frame) = false) ∨
        ep.slots.firstFree = none ∨
        CarriesTransaction frame 0
  | _ => True

/-! ## Cancelling by transaction -/

theorem findTransaction_eq_some {ep : Endpoint} {num : UInt8} {index : Nat}
    (h : ep.findTransaction num = some index) :
    ∃ slot, ep.slots.pending index = some slot ∧
      slot.transactionNum = num := by
  obtain ⟨hLength, hFound, -⟩ := List.findIdx?_eq_some_iff_getElem.mp h
  simp only [Bool.and_eq_true, decide_eq_true_eq] at hFound
  refine ⟨_, Slots.pending_eq_some.mpr ⟨?_, hFound.1⟩, hFound.2⟩
  exact List.getElem?_eq_getElem hLength

private theorem findTransaction_eq_none {ep : Endpoint} {num : UInt8}
    (h : ep.findTransaction num = none) {index : Nat} {slot : PendingRequest}
    (hPending : ep.slots.pending index = some slot) :
    slot.transactionNum ≠ num := by
  obtain ⟨hGet, hUse⟩ := Slots.pending_eq_some.mp hPending
  have hMem : slot ∈ ep.slots.toList := List.mem_of_getElem? hGet
  have hNot := List.findIdx?_eq_none_iff.mp h slot hMem
  simpa [hUse] using hNot

theorem cancelSingle_queued (ep : Endpoint) (num : UInt8) :
    ep.cancelSingle num .queued =
      match ep.findTransaction num with
      | none => (ep, .notFound)
      | some index => (ep.releaseSlot index, .canceled) := by
  unfold Endpoint.cancelSingle
  cases ep.findTransaction num with
  | none => rfl
  | some index => rfl

private theorem RecordsTransactions.cancels {ep : Endpoint}
    (h : RecordsTransactions ep) : CancelsByTransaction ep := by
  constructor
  · intro num
    rw [cancelSingle_queued]
    cases hFind : ep.findTransaction num with
    | none =>
        simp only [reduceCtorEq, false_iff]
        rintro ⟨index, slot, hPending, hCarries⟩
        apply findTransaction_eq_none hFind hPending
        rw [← (h index slot hPending).2, hCarries.2]
    | some index =>
        obtain ⟨slot, hPending, hNum⟩ := findTransaction_eq_some hFind
        have hCarries := h index slot hPending
        rw [hNum] at hCarries
        exact iff_of_true rfl ⟨index, slot, hPending, hCarries⟩
  · intro num index slot hPending hRemoved
    rw [cancelSingle_queued] at hRemoved
    cases hFind : ep.findTransaction num with
    | none =>
        rw [hFind] at hRemoved
        simp only [hPending, reduceCtorEq] at hRemoved
    | some found =>
        rw [hFind] at hRemoved
        by_cases hIndex : found = index
        · subst hIndex
          obtain ⟨slot', hPending', hNum⟩ := findTransaction_eq_some hFind
          rw [hPending] at hPending'
          cases hPending'
          have hCarries := h found slot hPending
          rwa [hNum] at hCarries
        · simp only [Endpoint.releaseSlot] at hRemoved
          rw [Slots.pending_set_ne hIndex, hPending] at hRemoved
          cases hRemoved

/-! ## What one operation does to the recorded numbers -/

theorem RecordsTransactions.of_inherits {ep ep' : Endpoint}
    (h : RecordsTransactions ep) (hInherits : Inherits ep ep') :
    RecordsTransactions ep' := by
  intro index slot' hPending
  obtain ⟨slot, hBefore, hSame⟩ := hInherits.pending index slot' hPending
  rw [hSame.frame, hSame.transactionNum]
  exact h index slot hBefore

theorem RecordsTransactions.tagChain {ep : Endpoint}
    (h : RecordsTransactions ep) (index group position : Nat) :
    RecordsTransactions (ep.tagChain index group position) := by
  unfold Endpoint.tagChain
  split
  · exact h
  · next slot hPending =>
      intro other found hFound
      obtain ⟨rfl, rfl, -⟩ | ⟨-, hOld⟩ := pending_set_cases hFound
      · exact h other slot hPending
      · exact h other found hOld

theorem RecordsTransactions.overwritten {ep : Endpoint}
    (h : RecordsTransactions ep) {index count : Nat} {slot : PendingRequest}
    (hSlot : slot.inUse = true →
      CarriesTransaction slot.frame slot.transactionNum) :
    RecordsTransactions (overwritten ep index slot count) := by
  intro other found hFound
  obtain ⟨rfl, rfl, hUse⟩ | ⟨-, hOld⟩ := pending_set_cases hFound
  · exact hSlot hUse
  · exact h other found hOld

theorem RecordsTransactions.admitted {ep ep' : Endpoint} {result : AdmitResult}
    {frame : Octets} {tv : Bool} (h : RecordsTransactions ep)
    (hEffect : AdmitEffect ep frame tv ep' result)
    (hFrame : gatedOnly frame tv = true → CarriesTransaction frame 0 ∨
      SameStore ep ep') : RecordsTransactions ep' := by
  cases hEffect with
  | kept hStore => exact h.of_inherits hStore.inherits
  | discarded hFree => exact h.overwritten (by simp)
  | @stored index slot _ hFree hSlot =>
      cases hGated : gatedOnly frame tv with
      | false =>
          refine h.overwritten fun _ => ?_
          have hLen := hSlot.length_le hGated
          rw [hSlot.stores, hSlot.transactionNum, hGated]
          refine ⟨?_, rfl⟩
          simp only [acfCommonHeaderLen, acfGbbMessageInfoLen] at hLen ⊢
          omega
      | true =>
          rcases hFrame hGated with hCarries | hStore
          · refine h.overwritten fun _ => ?_
            rw [hSlot.stores, hSlot.transactionNum, hGated]
            exact hCarries
          · exact h.of_inherits hStore.inherits

/-! ## Admission under a presentation time alone -/

theorem admitWithAck_suspended {ep : Endpoint} {frame : Octets} {now : UInt32}
    {tv : Bool} {ts : UInt32} {gptp : Nat}
    (h : ep.admissionSuspended = true) :
    (ep.admitWithAck frame now tv ts gptp).1 = ep := by
  unfold Endpoint.admitWithAck
  rw [if_pos h]

private theorem admitWithAck_not_request {ep : Endpoint} {frame : Octets}
    {now : UInt32} {tv : Bool} {ts : UInt32} {gptp : Nat}
    (hLen : acfCommonHeaderLen ≤ frame.length)
    (hRequest : headerIsRequest (decodeAcfMessageInfo frame) = false) :
    (ep.admitWithAck frame now tv ts gptp).1 = ep := by
  unfold Endpoint.admitWithAck
  split
  · rfl
  · rw [if_pos (by simp [hLen, hRequest])]

private theorem admitWithAck_gated {ep : Endpoint} {frame : Octets}
    (now ts : UInt32) (gptp : Nat) (hGated : gatedOnly frame true = true)
    (hSuspended : ep.admissionSuspended = false)
    (hRequest : acfCommonHeaderLen ≤ frame.length →
      headerIsRequest (decodeAcfMessageInfo frame) = true) :
    ∃ gate category type,
      ep.admitWithAck frame now true ts gptp =
        ep.admitUnderTscfGate frame now gate category type := by
  unfold Endpoint.admitWithAck
  rw [if_neg (by simp [hSuspended])]
  dsimp only
  rw [if_neg (by simp only [Bool.and_eq_true, decide_eq_true_eq,
    Bool.not_eq_true', not_and, Bool.not_eq_false]; exact hRequest)]
  cases hPeek : Endpoint.peekRequestType frame with
  | none => exact ⟨_, _, _, by rw [if_pos rfl]⟩
  | some type =>
      have hCategory : categoryOf (some type) = .cancellation := by
        simpa [gatedOnly, hPeek] using hGated
      dsimp only
      rw [if_pos hCategory, if_pos rfl]
      exact ⟨_, _, _, rfl⟩

private theorem admitUnderTscfGate_full {ep : Endpoint} (frame : Octets)
    (now : UInt32) (gate : Nat) (category : RequestCategory)
    (type : Option RequestTypeOpcode) (h : ep.slots.firstFree = none) :
    (ep.admitUnderTscfGate frame now gate category type).1 = ep := by
  simp only [Endpoint.admitUnderTscfGate, Endpoint.claimSlot, h]

private theorem pending_admitUnderTscfGate {ep : Endpoint} {index : Nat}
    (frame : Octets) (now : UInt32) (gate : Nat) (category : RequestCategory)
    (type : Option RequestTypeOpcode)
    (h : ep.slots.firstFree = some index) :
    ∃ slot,
      (ep.admitUnderTscfGate frame now gate category type).1.slots.pending
        index = some slot ∧
      slot.frame = frame ∧ slot.transactionNum = 0 := by
  have hBound := Slots.firstFree_lt h
  simp only [Endpoint.admitUnderTscfGate, Endpoint.claimSlot, h,
    Endpoint.putSlot]
  exact ⟨_, Slots.pending_set_self hBound rfl, rfl, rfl⟩

/-! ## One step -/

/-- A step keeps the recorded numbers if it is recordable, and loses one
otherwise. -/
theorem recordsTransactions_step {ep : Endpoint} (h : RecordsTransactions ep)
    (op : EndpointOp) :
    RecordsTransactions (ep.step op).1 ↔ Recordable ep op := by
  by_cases hTag : ∃ index group position,
      op = .tagChain index group position
  · obtain ⟨index, group, position, rfl⟩ := hTag
    exact iff_of_true (h.tagChain index group position) trivial
  · by_cases hAdmit : ∃ frame now tv ts gptp, op = .admitWithAck frame now tv ts gptp
    · obtain ⟨frame, now, tv, ts, gptp, rfl⟩ := hAdmit
      have hEffect := admitWithAck_effect ep frame now tv ts gptp
      change RecordsTransactions (ep.admitWithAck frame now tv ts gptp).1 ↔ _
      cases tv with
      | false =>
          refine iff_of_true (h.admitted hEffect ?_) trivial
          simp [gatedOnly]
      | true =>
          constructor
          · intro hAfter
            by_contra hNot
            simp only [Recordable, not_or, not_and, Bool.not_eq_false,
              Bool.not_eq_true] at hNot
            obtain ⟨hGated, hSuspended, hRequest, hFree, hCarries⟩ := hNot
            obtain ⟨gate, category, type, hEq⟩ :=
              admitWithAck_gated now ts gptp hGated hSuspended hRequest
            obtain ⟨index, hIndex⟩ := Option.ne_none_iff_exists'.mp hFree
            obtain ⟨slot, hPending, hFrame, hNum⟩ :=
              pending_admitUnderTscfGate frame now gate category type hIndex
            rw [hEq] at hAfter
            have hRecorded := hAfter index slot hPending
            rw [hFrame, hNum] at hRecorded
            exact hCarries hRecorded
          · intro hRecordable
            refine h.admitted hEffect fun hGated => ?_
            rcases hRecordable with hDecodes | hSuspended | hRequest | hFull |
              hCarries
            · rw [hGated] at hDecodes
              cases hDecodes
            · rw [admitWithAck_suspended hSuspended]
              exact .inr (.refl ep)
            · rw [admitWithAck_not_request hRequest.1 hRequest.2]
              exact .inr (.refl ep)
            · cases hSuspended : ep.admissionSuspended with
              | true =>
                  rw [admitWithAck_suspended hSuspended]
                  exact .inr (.refl ep)
              | false =>
                  by_cases hRequest : acfCommonHeaderLen ≤ frame.length →
                      headerIsRequest (decodeAcfMessageInfo frame) = true
                  · obtain ⟨gate, category, type, hEq⟩ :=
                      admitWithAck_gated now ts gptp hGated hSuspended hRequest
                    rw [hEq, admitUnderTscfGate_full _ _ _ _ _ hFull]
                    exact .inr (.refl ep)
                  · simp only [Classical.not_imp, Bool.not_eq_true] at hRequest
                    rw [admitWithAck_not_request hRequest.1 hRequest.2]
                    exact .inr (.refl ep)
            · exact .inl hCarries
    · push Not at hTag hAdmit
      refine iff_of_true (h.of_inherits (inherits_step ep op hAdmit hTag)) ?_
      unfold Recordable
      split
      · exact absurd rfl (hAdmit _ _ _ _ _)
      · trivial

private theorem recordsTransactions_fresh (enable : Bool) :
    RecordsTransactions { epEnable := enable } := by
  intro index slot hPending
  obtain ⟨hGet, hUse⟩ := Slots.pending_eq_some.mp hPending
  have hMem := List.mem_of_getElem? hGet
  rw [List.eq_of_mem_replicate hMem] at hUse
  cases hUse

/-! ## Every run -/

/-- The state of an endpoint after the first operations of a run. -/
def endpointAfter (enable : Bool) (ops : List EndpointOp) (n : Nat) :
    Endpoint :=
  (run Endpoint.step { epEnable := enable } (ops.take n)).1

/-- From a fresh endpoint on, every stored request can be cancelled by its own
transaction number in every state of a run exactly when every admission of the
run was recordable. -/
theorem transactions_recorded_iff (enable : Bool) (ops : List EndpointOp) :
    (∀ n, RecordsTransactions (endpointAfter enable ops n) ∧
        CancelsByTransaction (endpointAfter enable ops n)) ↔
      Along Endpoint.step Recordable { epEnable := enable } ops := by
  constructor
  · intro h
    rw [along_iff_getElem]
    intro i hi
    have hNext := (h (i + 1)).1
    rw [endpointAfter, run_take_succ _ _ _ _ hi] at hNext
    exact (recordsTransactions_step (h i).1 ops[i]).mp hNext
  · intro hAlong n
    have hRecords : RecordsTransactions (endpointAfter enable ops n) := by
      have hPrefix : Along Endpoint.step Recordable { epEnable := enable }
          (ops.take n) := by
        rw [← List.take_append_drop n ops, along_append] at hAlong
        exact hAlong.1
      refine invariant_run_along (I := RecordsTransactions) ?_
        (recordsTransactions_fresh enable) hPrefix
      intro ep op hBefore hRecordable
      exact (recordsTransactions_step hBefore op).mpr hRecordable
    exact ⟨hRecords, hRecords.cancels⟩

def readOfTransactionSeven : Octets :=
  encodeAcfAbb
    { acfMsgType := acfMsgTypeAbb, byteBusId := 2, transactionNum := 7 } []

/-- Admitted under a presentation time, it is stored under transaction 0 and
transaction 7 cannot be cancelled. -/
theorem transactions_recorded_of_gated :
    let ep := endpointAfter true [.admitWithAck readOfTransactionSeven 0 true 0 0] 1
    ((ep.slots.pending 0).map fun slot => (slot.frame, slot.transactionNum)) =
        some (readOfTransactionSeven, 0) ∧
      CarriesTransaction readOfTransactionSeven 7 ∧
      (ep.cancelSingle 7 .queued).2 = .notFound ∧
      ¬(RecordsTransactions ep ∧ CancelsByTransaction ep) := by
  intro ep
  have hStored : (ep.slots.pending 0).map
      (fun slot => (slot.frame, slot.transactionNum)) =
        some (readOfTransactionSeven, 0) := by decide
  have hCarries : CarriesTransaction readOfTransactionSeven 7 := by decide
  refine ⟨hStored, hCarries, by decide, ?_⟩
  rintro ⟨hRecords, -⟩
  obtain ⟨slot, hPending, hSlot⟩ := Option.map_eq_some_iff.mp hStored
  rw [Prod.mk.injEq] at hSlot
  have hZero := hRecords 0 slot hPending
  rw [hSlot.1, hSlot.2] at hZero
  have hSeven : (0 : UInt8) = 7 := hZero.2.symm.trans hCarries.2
  exact absurd hSeven (by decide)

end CppRcp.Server
