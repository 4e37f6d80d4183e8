import CppRcp.Admission.Effects

/-!
# What every run keeps of the request store

The pending count is the number of slots in use, and stored requests have
pairwise distinct sequence numbers below the next one to be issued.  So of two
stored requests with the same priority one always comes first.
-/

namespace CppRcp.Server

open CppRcp.Foundation CppRcp.Acf CppRcp.Request

/-! ## Counting the slots in use -/

def Slots.used (slots : Slots) : Nat :=
  slots.toList.countP PendingRequest.inUse

private theorem Slots.used_le (slots : Slots) : slots.used ≤ maxPending := by
  have h := @List.countP_le_length _ PendingRequest.inUse slots.toList
  rwa [slots.length_eq] at h

private theorem Slots.used_pos {slots : Slots} {index : Nat}
    {slot : PendingRequest}
    (h : slots.pending index = some slot) : 0 < slots.used := by
  obtain ⟨hGet, hUse⟩ := pending_eq_some.mp h
  exact List.countP_pos_iff.mpr
    ⟨slot, List.mem_of_getElem? hGet, hUse⟩

private theorem Slots.used_set_free {slots : Slots} {index : Nat}
    {slot : PendingRequest} (hFree : slots.firstFree = some index)
    (hUse : slot.inUse = true) :
    Slots.used (slots.set index slot) = slots.used + 1 := by
  obtain ⟨hIndex, hOpen, -⟩ := List.findIdx?_eq_some_iff_getElem.mp hFree
  rw [Bool.not_eq_true'] at hOpen
  unfold used
  rw [Table.set, List.countP_set hIndex]
  simp [hOpen, hUse]

private theorem Slots.used_set_default {slots : Slots} {index : Nat}
    (hFree : slots.firstFree = some index) :
    Slots.used (slots.set index {}) = slots.used := by
  obtain ⟨hIndex, hOpen, -⟩ := List.findIdx?_eq_some_iff_getElem.mp hFree
  rw [Bool.not_eq_true'] at hOpen
  unfold used
  rw [Table.set, List.countP_set hIndex]
  simp [hOpen]

private theorem Slots.used_set_pending {slots : Slots} {index : Nat}
    {slot slot' : PendingRequest} (h : slots.pending index = some slot) :
    Slots.used (slots.set index slot') =
      slots.used - 1 + (if slot'.inUse then 1 else 0) := by
  obtain ⟨hGet, hUse⟩ := pending_eq_some.mp h
  obtain ⟨hIndex, hSlot⟩ := List.getElem?_eq_some_iff.mp hGet
  unfold used
  rw [Table.set, List.countP_set hIndex, hSlot, hUse]
  rfl

private theorem Slots.used_map {slots : Slots}
    {f : PendingRequest → PendingRequest}
    (h : ∀ slot, (f slot).inUse = slot.inUse) :
    Slots.used (slots.map f) = slots.used := by
  unfold used
  rw [Table.map, List.countP_map]
  apply List.countP_congr
  intro slot _
  rw [Function.comp_apply, h]

private theorem Slots.used_releaseWhere (slots : Slots)
    (p : PendingRequest → Bool) :
    (slots.releaseWhere p).used = slots.used - slots.count p := by
  unfold used releaseWhere count Table.map
  dsimp only
  induction slots.toList with
  | nil => rfl
  | cons slot rest ih =>
      have hLe : rest.countP (fun slot => slot.inUse && p slot) ≤
          rest.countP PendingRequest.inUse :=
        List.countP_mono_left fun slot _ h => by
          rw [Bool.and_eq_true] at h
          exact h.1
      rw [List.map_cons, List.countP_cons, List.countP_cons, List.countP_cons,
        ih]
      cases hUse : slot.inUse <;> cases hp : p slot <;> simp [hUse]
      all_goals omega

/-! ## The invariant -/

structure StoreInvariant (ep : Endpoint) : Prop where
  pendingCount : ep.pendingCount = ep.slots.used
  sequence_lt : ∀ index slot, ep.slots.pending index = some slot →
    slot.sequence < ep.nextSequence
  sequence_ne : ∀ i j a b, i ≠ j → ep.slots.pending i = some a →
    ep.slots.pending j = some b → a.sequence ≠ b.sequence

theorem storeInvariant_fresh : StoreInvariant {} := by
  have hEmpty : ∀ index, Slots.pending Slots.empty index = none := by
    intro index
    unfold Slots.pending
    cases h : Slots.empty.toList[index]? with
    | none => rfl
    | some slot =>
        have hSlot := List.eq_of_mem_replicate (List.mem_of_getElem? h)
        rw [hSlot]
        rfl
  constructor
  · rfl
  · intro index slot hPending
    rw [hEmpty] at hPending
    cases hPending
  · intro i j a b _ hPending
    rw [hEmpty] at hPending
    cases hPending

theorem StoreInvariant.of_inherits {ep ep' : Endpoint} (h : StoreInvariant ep)
    (hInherits : Inherits ep ep')
    (hCount : ep'.pendingCount = ep'.slots.used) : StoreInvariant ep' := by
  constructor
  · exact hCount
  · intro index slot hPending
    obtain ⟨old, hOld, hSame⟩ := hInherits.pending index slot hPending
    rw [hSame.sequence, hInherits.nextSequence]
    exact h.sequence_lt index old hOld
  · intro i j a b hNe hA hB
    obtain ⟨oldA, hOldA, hSameA⟩ := hInherits.pending i a hA
    obtain ⟨oldB, hOldB, hSameB⟩ := hInherits.pending j b hB
    rw [hSameA.sequence, hSameB.sequence]
    exact h.sequence_ne i j oldA oldB hNe hOldA hOldB

theorem StoreInvariant.stored {ep : Endpoint} (h : StoreInvariant ep)
    {index : Nat} {slot : PendingRequest}
    (hFree : ep.slots.firstFree = some index) (hUse : slot.inUse = true)
    (hSequence : slot.sequence = ep.nextSequence) :
    StoreInvariant (overwritten ep index slot (ep.pendingCount + 1)) := by
  constructor
  · change ep.pendingCount + 1 = Slots.used (ep.slots.set index slot)
    rw [Slots.used_set_free hFree hUse, h.pendingCount]
  · intro other found hFound
    change found.sequence < ep.nextSequence + 1
    obtain ⟨-, rfl, -⟩ | ⟨-, hOld⟩ := pending_set_cases hFound
    · omega
    · exact Nat.lt_succ_of_lt (h.sequence_lt other found hOld)
  · intro i j a b hNe hA hB
    obtain ⟨rfl, rfl, -⟩ | ⟨-, hOldA⟩ := pending_set_cases hA
    · obtain ⟨rfl, -, -⟩ | ⟨-, hOldB⟩ := pending_set_cases hB
      · exact absurd rfl hNe
      · have hLt := h.sequence_lt j b hOldB
        omega
    · have hLtA := h.sequence_lt i a hOldA
      obtain ⟨-, rfl, -⟩ | ⟨-, hOldB⟩ := pending_set_cases hB
      · omega
      · exact h.sequence_ne i j a b hNe hOldA hOldB

theorem StoreInvariant.discarded {ep : Endpoint} (h : StoreInvariant ep)
    {index : Nat} (hFree : ep.slots.firstFree = some index) :
    StoreInvariant (overwritten ep index {} ep.pendingCount) := by
  constructor
  · change ep.pendingCount = Slots.used (ep.slots.set index {})
    rw [Slots.used_set_default hFree, h.pendingCount]
  · intro other found hFound
    exact Nat.lt_succ_of_lt
      (h.sequence_lt other found (pending_of_set_default hFound))
  · intro i j a b hNe hA hB
    exact h.sequence_ne i j a b hNe (pending_of_set_default hA)
      (pending_of_set_default hB)

/-! ## One operation -/

private theorem inUse_rearm {slot again : PendingRequest} {now : UInt32}
    {repeatCount : UInt16}
    {setRepeat : PendingRequest → UInt16 → PendingRequest}
    (hRepeat : ∀ slot count, (setRepeat slot count).inUse = slot.inUse)
    (h : Endpoint.rearm slot now repeatCount setRepeat = some again) :
    again.inUse = slot.inUse := by
  unfold Endpoint.rearm at h
  dsimp only at h
  split at h
  · cases h
    rfl
  · split at h
    · cases h
    · cases h
      exact hRepeat slot _

private theorem inUse_completeSlot {slot again : PendingRequest}
    (ctx : Endpoint.TickContext)
    (h : (Endpoint.completeSlot slot ctx).1 = some again) :
    again.inUse = slot.inUse := by
  unfold Endpoint.completeSlot at h
  dsimp only at h
  split at h <;> dsimp only at h
  · refine inUse_rearm ?_ h
    exact fun _ _ => rfl
  · refine inUse_rearm ?_ h
    exact fun _ _ => rfl
  · have hUse := inUse_rearm ?_ h
    · exact hUse
    · exact fun _ _ => rfl
  all_goals cases h

section Step

variable {ep : Endpoint} (h : StoreInvariant ep)

include h

private theorem storeInvariant_putSlot {index : Nat}
    {slot slot' : PendingRequest}
    (hPending : ep.slots.pending index = some slot)
    (hUse : slot'.inUse = true) (hSequence : slot'.sequence = slot.sequence) :
    StoreInvariant (ep.putSlot index slot') := by
  have hOld : ∀ other found,
      Slots.pending (ep.slots.set index slot') other = some found →
        ∃ old, ep.slots.pending other = some old ∧
          found.sequence = old.sequence := by
    intro other found hFound
    obtain ⟨rfl, rfl, -⟩ | ⟨-, hKept⟩ := pending_set_cases hFound
    · exact ⟨slot, hPending, hSequence⟩
    · exact ⟨found, hKept, rfl⟩
  constructor
  · have hPos := Slots.used_pos hPending
    change ep.pendingCount = Slots.used (ep.slots.set index slot')
    rw [Slots.used_set_pending hPending, hUse, h.pendingCount, if_pos rfl]
    omega
  · intro other found hFound
    obtain ⟨old, hPendingOld, hSame⟩ := hOld other found hFound
    rw [hSame]
    exact h.sequence_lt other old hPendingOld
  · intro i j a b hNe hA hB
    obtain ⟨oldA, hOldA, hSameA⟩ := hOld i a hA
    obtain ⟨oldB, hOldB, hSameB⟩ := hOld j b hB
    rw [hSameA, hSameB]
    exact h.sequence_ne i j oldA oldB hNe hOldA hOldB

private theorem storeInvariant_releaseSlot {index : Nat} {slot : PendingRequest}
    (hPending : ep.slots.pending index = some slot) :
    StoreInvariant (ep.releaseSlot index) := by
  apply h.of_inherits (inherits_releaseSlot ep index)
  change ep.pendingCount - 1 = Slots.used (ep.slots.set index {})
  rw [Slots.used_set_pending hPending, h.pendingCount]
  rfl

private theorem storeInvariant_releaseWhere (p : PendingRequest → Bool) :
    StoreInvariant (ep.releaseWhere p) := by
  apply h.of_inherits (inherits_releaseWhere ep p)
  change ep.pendingCount - ep.slots.count p = (ep.slots.releaseWhere p).used
  rw [Slots.used_releaseWhere, h.pendingCount]

private theorem storeInvariant_complete (index : Nat)
    (ctx : Endpoint.TickContext) :
    StoreInvariant (ep.complete index ctx).1 := by
  unfold Endpoint.complete
  split
  · exact h
  · next slot hPending =>
      split
      · exact storeInvariant_releaseSlot h hPending
      · next again states hComplete =>
          have hSame := @completeSlot_same slot again ctx (by rw [hComplete])
          apply storeInvariant_putSlot h hPending _ hSame.sequence
          rw [@inUse_completeSlot slot again ctx (by rw [hComplete])]
          exact (Slots.pending_eq_some.mp hPending).2

private theorem storeInvariant_cancelSingle (num : UInt8)
    (state : Endpoint.CancelLifecycle) :
    StoreInvariant (ep.cancelSingle num state).1 := by
  unfold Endpoint.cancelSingle
  split
  · exact h
  · next index hFound =>
      dsimp only
      split
      · obtain ⟨slot, hPending⟩ :
            ∃ slot, ep.slots.pending index = some slot := by
          obtain ⟨hIndex, hMatch, -⟩ :=
            List.findIdx?_eq_some_iff_getElem.mp hFound
          rw [Bool.and_eq_true] at hMatch
          exact ⟨_, Slots.pending_eq_some.mpr
            ⟨List.getElem?_eq_getElem hIndex, hMatch.1⟩⟩
        exact storeInvariant_releaseSlot h hPending
      · exact h

private theorem storeInvariant_admitWithAck (frame : Octets) (now : UInt32)
    (tv : Bool) (ts : UInt32) (gptp : Nat) :
    StoreInvariant (ep.admitWithAck frame now tv ts gptp).1 := by
  have hEffect := admitWithAck_effect ep frame now tv ts gptp
  generalize ep.admitWithAck frame now tv ts gptp = result at hEffect
  obtain ⟨ep', result⟩ := result
  cases hEffect with
  | kept hStore _ =>
      apply h.of_inherits hStore.inherits
      rw [hStore.pendingCount, hStore.slots, h.pendingCount]
  | discarded hFree _ => exact h.discarded hFree
  | stored hFree hSlot _ => exact h.stored hFree hSlot.inUse hSlot.sequence

theorem storeInvariant_step (op : EndpointOp) :
    StoreInvariant (ep.step op).1 := by
  have hKept : ∀ ep', Inherits ep ep' → ep'.pendingCount = ep.pendingCount →
      ep'.slots.used = ep.slots.used → StoreInvariant ep' := by
    intro ep' hInherits hCount hUsed
    apply h.of_inherits hInherits
    rw [hCount, hUsed, h.pendingCount]
  cases op with
  | setEnable enable => exact hKept _ (inherits_of_slots rfl rfl) rfl rfl
  | setAdmissionSuspended suspended =>
      exact hKept _ (inherits_of_slots rfl rfl) rfl rfl
  | submit frame =>
      have hStore := submit_sameStore ep frame
      exact hKept _ hStore.inherits hStore.pendingCount
        (congrArg Slots.used hStore.slots)
  | drainOne =>
      apply hKept _ (inherits_drainOne ep)
      · unfold Endpoint.drainOne
        split
        · rfl
        · split <;> rfl
      · unfold Endpoint.drainOne
        split
        · rfl
        · split <;> rfl
  | admitWithAck frame now tv ts gptp =>
      exact storeInvariant_admitWithAck h frame now tv ts gptp
  | selectDue ctx =>
      apply hKept _ (inherits_selectDue ep ctx) rfl
      apply Slots.used_map
      intro slot
      split
      · exact (isDue_same ep.epEnable slot ctx).1
      · rfl
  | complete index ctx => exact storeInvariant_complete h index ctx
  | notifyTrigger sourceEp signalNr =>
      apply hKept _ (inherits_notifyTrigger ep sourceEp signalNr) rfl
      apply Slots.used_map
      intro slot
      split <;> rfl
  | chainPredecessorDone index now =>
      change StoreInvariant (ep.chainPredecessorDone index now)
      unfold Endpoint.chainPredecessorDone
      split
      · exact h
      · next slot hPending =>
          split
          · exact storeInvariant_putSlot h hPending
              (Slots.pending_eq_some.mp hPending).2 rfl
          · exact h
  | tagChain index group position =>
      change StoreInvariant (ep.tagChain index group position)
      unfold Endpoint.tagChain
      split
      · exact h
      · next slot hPending =>
          exact storeInvariant_putSlot h hPending
            (Slots.pending_eq_some.mp hPending).2 rfl
  | cancelAll => exact storeInvariant_releaseWhere h _
  | cancelSingle num state => exact storeInvariant_cancelSingle h num state
  | cancelNonSafestate => exact storeInvariant_releaseWhere h _
  | watchdogPurge => exact storeInvariant_releaseWhere h _
  | cancelChainFrom group position =>
      change StoreInvariant (ep.cancelChainFrom group position)
      unfold Endpoint.cancelChainFrom
      split
      · exact h
      · exact storeInvariant_releaseWhere h _

end Step

/-! ## Rejected admissions -/

theorem queue_claimSlot {ep claimed : Endpoint} {index : Nat}
    {slot : PendingRequest} (h : ep.claimSlot = some (index, slot, claimed)) :
    claimed.queue = ep.queue := by
  obtain ⟨-, -, rfl⟩ := claimSlot_eq_some h
  rfl

private theorem queue_admitWithAck {ep : Endpoint} {frame : Octets}
    {now : UInt32} {tv : Bool} {ts : UInt32} {gptp : Nat}
    (hOutcome :
      (ep.admitWithAck frame now tv ts gptp).2.outcome = .rejected) :
    (ep.admitWithAck frame now tv ts gptp).1.queue = ep.queue := by
  have hGate : ∀ gate category type,
      (ep.admitUnderTscfGate frame now gate category type).1.queue =
        ep.queue := by
    intro gate category type
    unfold Endpoint.admitUnderTscfGate
    split
    · rfl
    · next hClaim =>
        have hQueue := queue_claimSlot hClaim
        exact hQueue
  have hConditional : ∀ gate type,
      (ep.admitConditional frame now tv gate type).1.queue = ep.queue := by
    intro gate type
    unfold Endpoint.admitConditional
    split
    · rfl
    · next hClaim =>
        have hQueue := queue_claimSlot hClaim
        dsimp only
        split <;> exact hQueue
  unfold Endpoint.admitWithAck at hOutcome ⊢
  dsimp only at hOutcome ⊢
  split
  · rfl
  · next hActive =>
      rw [if_neg hActive] at hOutcome
      split
      · rfl
      · next hRequest =>
          rw [if_neg hRequest] at hOutcome
          split
          · next hPeek =>
              rw [hPeek] at hOutcome
              split
              · exact hGate _ _ _
              · next hUntimed =>
                  -- a submitted frame is executed or queued, never rejected
                  simp only [if_neg hUntimed] at hOutcome
                  split at hOutcome <;> cases hOutcome
          · split
            · split
              · exact hGate _ _ _
              · rfl
            · exact hConditional _ _

private theorem admitWithAck_rejected {ep : Endpoint} {frame : Octets}
    {now : UInt32} {tv : Bool} {ts : UInt32} {gptp : Nat}
    (hOutcome :
      (ep.admitWithAck frame now tv ts gptp).2.outcome = .rejected) :
    let ep' := (ep.admitWithAck frame now tv ts gptp).1
    (∀ index, ep'.slots.pending index = ep.slots.pending index) ∧
      ep'.pendingCount = ep.pendingCount ∧ ep'.queue = ep.queue := by
  intro ep'
  have hQueue := queue_admitWithAck hOutcome
  have hEffect := admitWithAck_effect ep frame now tv ts gptp
  change (_ ∧ _ ∧ _ = _)
  rw [show ep'.queue = ep.queue from hQueue]
  unfold ep'
  generalize ep.admitWithAck frame now tv ts gptp = result at hEffect hOutcome
  obtain ⟨after, reply⟩ := result
  cases hEffect with
  | kept hStore _ =>
      exact ⟨fun index => by rw [hStore.slots], hStore.pendingCount, rfl⟩
  | @discarded index _ hFree _ =>
      refine ⟨?_, rfl, rfl⟩
      intro other
      by_cases hSame : index = other
      · subst hSame
        rw [Slots.pending_firstFree hFree]
        exact pending_set_default ep.slots index
      · exact Slots.pending_set_ne hSame
  | stored _ _ hPending =>
      rw [hPending] at hOutcome
      cases hOutcome

/-! ## Whole runs -/

/-- The laws of the request store along every run of an endpoint. -/
theorem store_run (ops : List EndpointOp) :
    let ep := (run Endpoint.step {} ops).1
    ep.pendingCount = ep.slots.used ∧ ep.pendingCount ≤ maxPending ∧
    (∀ index slot, ep.slots.pending index = some slot →
      slot.sequence < ep.nextSequence) ∧
    (∀ i j a b, i ≠ j → ep.slots.pending i = some a →
      ep.slots.pending j = some b → a.sequence ≠ b.sequence ∧
        (Endpoint.servedBefore a b = true ↔
          Endpoint.servedBefore b a = false)) ∧
    ∀ frame now tv ts gptp,
      (ep.admitWithAck frame now tv ts gptp).2.outcome = .rejected →
        let ep' := (ep.admitWithAck frame now tv ts gptp).1
        (∀ index, ep'.slots.pending index = ep.slots.pending index) ∧
          ep'.pendingCount = ep.pendingCount ∧ ep'.queue = ep.queue := by
  intro ep
  have h : StoreInvariant ep :=
    invariant_run (I := StoreInvariant)
      (fun _ op h => storeInvariant_step h op) ops storeInvariant_fresh
  refine ⟨h.pendingCount, ?_, h.sequence_lt, ?_, ?_⟩
  · rw [h.pendingCount]
    exact Slots.used_le ep.slots
  · intro i j a b hNe hA hB
    have hSequence := h.sequence_ne i j a b hNe hA hB
    refine ⟨hSequence, ?_⟩
    unfold Endpoint.servedBefore
    simp only [Bool.or_eq_true, Bool.and_eq_true, decide_eq_true_eq,
      Bool.or_eq_false_iff, Bool.and_eq_false_iff, decide_eq_false_iff_not]
    omega
  · intro frame now tv ts gptp hOutcome
    exact admitWithAck_rejected hOutcome

end CppRcp.Server
