import CppRcp.Admission.Retention
import CppRcp.Admission.StoreRuns

/-!
# How often a stored request is executed

A stored compound, compound-wait or triggered request carries a repeat count.
The caller reports every execution of it by `complete`.  As many times as the
count says the request is re-armed, and the time after that it is removed; a
count of `0xFFFF` is never used up.  Whatever else happens to the endpoint in
between, short of cancelling the request, does not matter.
-/

namespace CppRcp.Server

open CppRcp.Foundation CppRcp.Request

/-- The repeat count of the kinds that have one. -/
def repeatCount (slot : PendingRequest) : Option UInt16 :=
  match slot.category with
  | .compound | .compoundWait => some slot.compound.repeatCount
  | .triggered => some slot.triggered.repeatCount
  | .timed | .chained | .standard | .cancellation => none

def completesAt (index : Nat) : EndpointOp → Bool
  | .complete other _ => decide (other = index)
  | _ => false

/-- The operation cancels the request `slot` stored at the index. -/
def selects (ep : Endpoint) (index : Nat) (slot : PendingRequest) :
    EndpointOp → Bool
  | .cancelAll => true
  | .cancelNonSafestate | .watchdogPurge => !Endpoint.isSafety slot
  | .cancelSingle num state =>
      decide (ep.findTransaction num = some index) && decide (state = .queued)
  | .cancelChainFrom group position =>
      decide (group ≠ 0) && decide (slot.chainGroup = group) &&
        Endpoint.cancelChainShouldCascade slot.chainPosition position
  | _ => false

def StoredAt (index sequence : Nat) (ep : Endpoint) : Prop :=
  ∃ slot, ep.slots.pending index = some slot ∧ slot.sequence = sequence

def Gone (sequence : Nat) (ep : Endpoint) : Prop :=
  ∀ index slot, ep.slots.pending index = some slot →
    slot.sequence ≠ sequence

/-- The operation does not cancel the request with the given sequence
number. -/
def Spares (index sequence : Nat) (ep : Endpoint) (op : EndpointOp) : Prop :=
  ∀ slot, ep.slots.pending index = some slot → slot.sequence = sequence →
    selects ep index slot op = false

/-! ## What an operation keeps of a stored request -/

structure SameRepetition (slot slot' : PendingRequest) : Prop where
  sequence : slot'.sequence = slot.sequence
  repeatCount : repeatCount slot' = repeatCount slot

theorem SameRepetition.refl (slot : PendingRequest) :
    SameRepetition slot slot :=
  ⟨rfl, rfl⟩

theorem Slots.pending_map {slots : Slots} {f : PendingRequest → PendingRequest}
    (hf : ∀ slot, (f slot).inUse = slot.inUse) (index : Nat) :
    Slots.pending (slots.map f) index = (slots.pending index).map f := by
  simp only [Slots.pending, Table.map, List.getElem?_map]
  cases slots.toList[index]? with
  | none => simp
  | some slot => cases hUse : slot.inUse <;> simp [hf, hUse]

private theorem armIfStartable_repetition (slot : PendingRequest)
    (ctx : Endpoint.TickContext) :
    SameRepetition slot (Endpoint.armIfStartable slot ctx).1 := by
  unfold Endpoint.armIfStartable
  split
  · exact .refl slot
  · split
    · exact .refl slot
    · split <;> exact ⟨rfl, rfl⟩

theorem isDue_repetition (epEnable : Bool) (slot : PendingRequest)
    (ctx : Endpoint.TickContext) :
    SameRepetition slot (Endpoint.isDue epEnable slot ctx).1 := by
  have hArm := armIfStartable_repetition slot ctx
  unfold Endpoint.isDue
  split
  · exact .refl slot
  · split
    · exact .refl slot
    · split
      · exact .refl slot
      · rcases hEq : Endpoint.armIfStartable slot ctx with ⟨armed, startable⟩
        rw [hEq] at hArm
        cases startable with
        | false => exact hArm
        | true =>
            dsimp only
            split <;> exact hArm

section Step

variable {ep : Endpoint} {index : Nat} {slot : PendingRequest}

private theorem kept_map {f : PendingRequest → PendingRequest}
    (hUse : ∀ slot, (f slot).inUse = slot.inUse)
    (hSame : ∀ slot, SameRepetition slot (f slot))
    (hPending : ep.slots.pending index = some slot) :
    ∃ slot', Slots.pending (ep.slots.map f) index = some slot' ∧
      SameRepetition slot slot' := by
  rw [Slots.pending_map hUse, hPending]
  exact ⟨f slot, rfl, hSame slot⟩

private theorem kept_set {other : Nat} {old new : PendingRequest}
    (hOther : ep.slots.pending other = some old)
    (hUse : new.inUse = old.inUse) (hSame : SameRepetition old new)
    (hPending : ep.slots.pending index = some slot) :
    ∃ slot', Slots.pending (ep.slots.set other new) index = some slot' ∧
      SameRepetition slot slot' := by
  by_cases hIndex : other = index
  · subst hIndex
    rw [hPending] at hOther
    cases hOther
    have hStored := (Slots.pending_eq_some.mp hPending).2
    exact ⟨new, Slots.pending_set_self (pending_lt hPending)
      (hUse.trans hStored), hSame⟩
  · exact ⟨slot, (Slots.pending_set_ne hIndex).trans hPending, .refl slot⟩

private theorem kept_releaseWhere {p : PendingRequest → Bool}
    (hPending : ep.slots.pending index = some slot) (hp : p slot = false) :
    (ep.releaseWhere p).slots.pending index = some slot := by
  simp [Endpoint.releaseWhere, Slots.pending_releaseWhere, hPending,
    Option.filter, hp]

private theorem pending_complete_ne (ep : Endpoint) {index other : Nat}
    (h : other ≠ index) (ctx : Endpoint.TickContext) :
    (ep.complete index ctx).1.slots.pending other =
      ep.slots.pending other := by
  unfold Endpoint.complete
  cases ep.slots.pending index with
  | none => rfl
  | some slot =>
      rcases hSlot : Endpoint.completeSlot slot ctx with ⟨_ | again, states⟩
      · simp only [hSlot]
        exact Slots.pending_set_ne h.symm
      · simp only [hSlot]
        exact Slots.pending_set_ne h.symm

private theorem kept_admitWithAck
    (hPending : ep.slots.pending index = some slot)
    (frame : Octets) (now : UInt32) (tv : Bool) (ts : UInt32) (gptp : Nat) :
    (ep.admitWithAck frame now tv ts gptp).1.slots.pending index =
      some slot := by
  have hNe : ∀ free, ep.slots.firstFree = some free → free ≠ index := by
    rintro free hFree rfl
    rw [Slots.pending_firstFree hFree] at hPending
    cases hPending
  have hEffect := admitWithAck_effect ep frame now tv ts gptp
  generalize ep.admitWithAck frame now tv ts gptp = result at hEffect ⊢
  obtain ⟨ep', result⟩ := result
  cases hEffect with
  | kept hStore _ => exact (congrArg (Slots.pending · index) hStore.slots).trans hPending
  | discarded hFree _ =>
      exact (Slots.pending_set_ne (hNe _ hFree)).trans hPending
  | stored hFree _ _ =>
      exact (Slots.pending_set_ne (hNe _ hFree)).trans hPending

private theorem kept_cancelSingle
    (hPending : ep.slots.pending index = some slot)
    {num : UInt8} {state : Endpoint.CancelLifecycle}
    (hSpared : selects ep index slot (.cancelSingle num state) = false) :
    (ep.cancelSingle num state).1.slots.pending index = some slot := by
  unfold Endpoint.cancelSingle
  cases hFind : ep.findTransaction num with
  | none => exact hPending
  | some found =>
      simp only [selects, hFind, Option.some_inj, Bool.and_eq_false_iff,
        decide_eq_false_iff_not] at hSpared
      dsimp only
      by_cases hQueued : state = .queued
      · have hNe : found ≠ index := by simpa [hQueued] using hSpared
        rw [if_pos (by simp [Endpoint.cancelAttempt, hQueued])]
        exact (Slots.pending_set_ne hNe).trans hPending
      · rw [if_neg (by simp [Endpoint.cancelAttempt, hQueued])]
        exact hPending

/-- An operation that neither completes nor cancels a stored request leaves it
its repetitions. -/
theorem kept_step {op : EndpointOp}
    (hPending : ep.slots.pending index = some slot)
    (hComplete : completesAt index op = false)
    (hSpared : selects ep index slot op = false) :
    ∃ slot', (ep.step op).1.slots.pending index = some slot' ∧
      SameRepetition slot slot' := by
  cases op with
  | setEnable enable => exact ⟨slot, hPending, .refl slot⟩
  | setAdmissionSuspended suspended => exact ⟨slot, hPending, .refl slot⟩
  | submit frame =>
      have hStore := submit_sameStore ep frame
      exact ⟨slot, (congrArg (Slots.pending · index) hStore.slots).trans
        hPending, .refl slot⟩
  | drainOne =>
      refine ⟨slot, ?_, .refl slot⟩
      change ep.drainOne.1.slots.pending index = some slot
      unfold Endpoint.drainOne
      split
      · exact hPending
      · split <;> exact hPending
  | admitWithAck frame now tv ts gptp =>
      exact ⟨slot, kept_admitWithAck hPending frame now tv ts gptp,
        .refl slot⟩
  | selectDue ctx =>
      refine kept_map ?_ ?_ hPending
      · intro slot
        split
        · exact (isDue_same ep.epEnable slot ctx).1
        · rfl
      · intro slot
        split
        · exact isDue_repetition ep.epEnable slot ctx
        · exact .refl slot
  | complete other ctx =>
      have hNe : index ≠ other := by simpa [completesAt, eq_comm] using hComplete
      exact ⟨slot, (pending_complete_ne ep hNe ctx).trans hPending, .refl slot⟩
  | notifyTrigger sourceEp signalNr =>
      refine kept_map ?_ ?_ hPending
      · intro slot
        split <;> rfl
      · intro slot
        split <;> exact ⟨rfl, rfl⟩
  | chainPredecessorDone other now =>
      change ∃ slot', (ep.chainPredecessorDone other now).slots.pending index =
        some slot' ∧ _
      unfold Endpoint.chainPredecessorDone
      cases hOther : ep.slots.pending other with
      | none => exact ⟨slot, hPending, .refl slot⟩
      | some old =>
          dsimp only
          split
          · exact kept_set hOther rfl ⟨rfl, rfl⟩ hPending
          · exact ⟨slot, hPending, .refl slot⟩
  | tagChain other group position =>
      change ∃ slot', (ep.tagChain other group position).slots.pending index =
        some slot' ∧ _
      unfold Endpoint.tagChain
      cases hOther : ep.slots.pending other with
      | none => exact ⟨slot, hPending, .refl slot⟩
      | some old => exact kept_set hOther rfl ⟨rfl, rfl⟩ hPending
  | cancelAll => simp [selects] at hSpared
  | cancelSingle num state =>
      exact ⟨slot, kept_cancelSingle hPending hSpared, .refl slot⟩
  | cancelNonSafestate =>
      exact ⟨slot, kept_releaseWhere hPending hSpared, .refl slot⟩
  | watchdogPurge =>
      exact ⟨slot, kept_releaseWhere hPending hSpared, .refl slot⟩
  | cancelChainFrom group position =>
      refine ⟨slot, ?_, .refl slot⟩
      change (ep.cancelChainFrom group position).slots.pending index = _
      unfold Endpoint.cancelChainFrom
      split
      · exact hPending
      · next hGroup =>
          apply kept_releaseWhere hPending
          simpa [selects, hGroup] using hSpared

/-! ## What `complete` makes of a request -/

def oneFewer (n : UInt16) : UInt16 :=
  if n = compoundRepeatInfinite then n else n - 1

structure Rearmed (slot again : PendingRequest) (n : UInt16) : Prop where
  inUse : again.inUse = slot.inUse
  sequence : again.sequence = slot.sequence
  repeatCount : repeatCount again = some n

private theorem rearm_repetition {slot : PendingRequest} {now : UInt32}
    {n : UInt16} (setRepeat : PendingRequest → UInt16 → PendingRequest)
    (hSet : ∀ count, Rearmed slot (setRepeat slot count) count)
    (hRepeat : repeatCount slot = some n) :
    n = 0 ∧ Endpoint.rearm slot now n setRepeat = none ∨
      n ≠ 0 ∧ ∃ again, Endpoint.rearm slot now n setRepeat = some again ∧
        Rearmed slot again (oneFewer n) := by
  by_cases hInfinite : n = compoundRepeatInfinite
  · have hZero : n ≠ 0 := by
      rw [hInfinite]
      decide
    refine .inr ⟨hZero, _, if_pos hInfinite, rfl, rfl, ?_⟩
    rw [oneFewer, if_pos hInfinite]
    exact hRepeat
  · by_cases hZero : n = 0
    · refine .inl ⟨hZero, ?_⟩
      unfold Endpoint.rearm
      rw [if_neg hInfinite, if_pos hZero]
    · have hOne := hSet (n - 1)
      refine .inr ⟨hZero, _, (if_neg hInfinite).trans (if_neg hZero),
        hOne.inUse, hOne.sequence, ?_⟩
      rw [oneFewer, if_neg hInfinite]
      exact hOne.repeatCount

def withCompoundRepeat (slot : PendingRequest) (count : UInt16) :
    PendingRequest :=
  { slot with compound := { slot.compound with repeatCount := count } }

def withTriggeredRepeat (slot : PendingRequest) (count : UInt16) :
    PendingRequest :=
  { slot with triggered := { slot.triggered with repeatCount := count } }

def withTicked (slot : PendingRequest) (elapsed : UInt32) : PendingRequest :=
  { slot with
    triggeredRuntime :=
      triggeredTick slot.triggered slot.triggeredRuntime elapsed true }

private theorem completeSlot_triggered (h : slot.category = .triggered)
    (ctx : Endpoint.TickContext) :
    (Endpoint.completeSlot slot ctx).1 =
      Endpoint.rearm (withTicked slot (ctx.now - slot.armedAt)) ctx.now
        slot.triggered.repeatCount withTriggeredRepeat := by
  simp only [Endpoint.completeSlot, withTicked, h]
  rfl

theorem completeSlot_compound
    (h : slot.category = .compound ∨ slot.category = .compoundWait)
    (ctx : Endpoint.TickContext) :
    (Endpoint.completeSlot slot ctx).1 =
      Endpoint.rearm slot ctx.now slot.compound.repeatCount
        withCompoundRepeat := by
  unfold Endpoint.completeSlot
  rcases h with h | h <;> rw [h] <;> rfl

private theorem rearmed_withCompoundRepeat
    (h : slot.category = .compound ∨ slot.category = .compoundWait)
    (count : UInt16) : Rearmed slot (withCompoundRepeat slot count) count := by
  refine ⟨rfl, rfl, ?_⟩
  rcases h with h | h <;> simp [withCompoundRepeat, repeatCount, h]

private theorem rearmed_withTriggeredRepeat (h : slot.category = .triggered)
    (count : UInt16) :
    Rearmed slot (withTriggeredRepeat slot count) count := by
  refine ⟨rfl, rfl, ?_⟩
  simp [withTriggeredRepeat, repeatCount, h]

theorem completeSlot_repetition {n : UInt16}
    (hRepeat : repeatCount slot = some n) (ctx : Endpoint.TickContext) :
    n = 0 ∧ (Endpoint.completeSlot slot ctx).1 = none ∨
      n ≠ 0 ∧ ∃ again, (Endpoint.completeSlot slot ctx).1 = some again ∧
        Rearmed slot again (oneFewer n) := by
  by_cases hCompound : slot.category = .compound ∨
      slot.category = .compoundWait
  · have hCount : n = slot.compound.repeatCount := by
      unfold repeatCount at hRepeat
      rcases hCompound with h | h <;> simpa [h, eq_comm] using hRepeat
    subst hCount
    rw [completeSlot_compound hCompound]
    exact rearm_repetition withCompoundRepeat
      (rearmed_withCompoundRepeat hCompound) hRepeat
  · have hTriggered : slot.category = .triggered := by
      unfold repeatCount at hRepeat
      cases hCategory : slot.category <;> simp_all
    have hCount : n = slot.triggered.repeatCount := by
      unfold repeatCount at hRepeat
      simpa [hTriggered, eq_comm] using hRepeat
    subst hCount
    rw [completeSlot_triggered hTriggered]
    obtain hNone | ⟨hZero, again, hAgain, hRearmed⟩ :=
      @rearm_repetition (withTicked slot (ctx.now - slot.armedAt)) ctx.now
        slot.triggered.repeatCount withTriggeredRepeat
        (rearmed_withTriggeredRepeat hTriggered) hRepeat
    · exact .inl hNone
    · exact .inr ⟨hZero, again, hAgain, hRearmed.inUse, hRearmed.sequence,
        hRearmed.repeatCount⟩

private theorem complete_last (hPending : ep.slots.pending index = some slot)
    (hRepeat : repeatCount slot = some 0) (ctx : Endpoint.TickContext) :
    (ep.complete index ctx).1.slots.pending index = none := by
  unfold Endpoint.complete
  rw [hPending]
  rcases hSlot : Endpoint.completeSlot slot ctx with ⟨_ | again, states⟩
  · simp only [hSlot]
    exact pending_set_default ep.slots index
  · obtain ⟨-, hNone⟩ | ⟨hZero, -⟩ := completeSlot_repetition hRepeat ctx
    · rw [hSlot] at hNone
      cases hNone
    · exact absurd rfl hZero

private theorem complete_again {n : UInt16}
    (hPending : ep.slots.pending index = some slot)
    (hRepeat : repeatCount slot = some n) (hZero : n ≠ 0)
    (ctx : Endpoint.TickContext) :
    ∃ again, (ep.complete index ctx).1.slots.pending index = some again ∧
      Rearmed slot again (oneFewer n) := by
  unfold Endpoint.complete
  rw [hPending]
  obtain ⟨hNone, -⟩ | ⟨-, again, hAgain, hRearmed⟩ :=
    completeSlot_repetition hRepeat ctx
  · exact absurd hNone hZero
  · rcases hSlot : Endpoint.completeSlot slot ctx with ⟨result, states⟩
    rw [hSlot] at hAgain
    cases hAgain
    simp only [hSlot]
    have hUse := (Slots.pending_eq_some.mp hPending).2
    exact ⟨again, Slots.pending_set_self (pending_lt hPending)
      (hRearmed.inUse.trans hUse), hRearmed⟩

end Step

/-! ## Runs -/

section Run

variable {index sequence : Nat}

theorem toNat_oneFewer {n : UInt16} (hFinite : n ≠ compoundRepeatInfinite)
    (hZero : n ≠ 0) :
    oneFewer n ≠ compoundRepeatInfinite ∧
      (oneFewer n).toNat = n.toNat - 1 := by
  have hLt := n.toNat_lt
  have hPos : 0 < n.toNat :=
    Nat.pos_of_ne_zero fun h => hZero (UInt16.toNat_inj.mp h)
  have hToNat : (n - 1).toNat = n.toNat - 1 := by
    rw [UInt16.toNat_sub_of_le]
    · rfl
    · exact UInt16.le_iff_toNat_le.mpr hPos
  rw [oneFewer, if_neg hFinite]
  refine ⟨fun h => ?_, hToNat⟩
  have hMax : (n - 1).toNat = 0xFFFF := congrArg UInt16.toNat h
  omega

/-- As long as no more executions are reported than the count allows, the
request stays stored. -/
theorem storedAt_run (ops : List EndpointOp) {ep : Endpoint}
    {slot : PendingRequest} {n : UInt16}
    (hPending : ep.slots.pending index = some slot)
    (hSequence : slot.sequence = sequence)
    (hRepeat : repeatCount slot = some n)
    (hSpares : Along Endpoint.step (Spares index sequence) ep ops)
    (hCount : n = compoundRepeatInfinite ∨
      ops.countP (completesAt index) ≤ n.toNat) :
    StoredAt index sequence (run Endpoint.step ep ops).1 := by
  induction ops generalizing ep slot n with
  | nil => exact ⟨slot, hPending, hSequence⟩
  | cons op ops ih =>
      obtain ⟨hFirst, hRest⟩ := hSpares
      rw [run_cons]
      rw [List.countP_cons] at hCount
      by_cases hOp : completesAt index op = true
      · rw [if_pos hOp] at hCount
        cases op with
        | complete other ctx =>
            have hOther : other = index := by simpa [completesAt] using hOp
            subst hOther
            have hZero : n ≠ 0 := by
              rintro rfl
              obtain h | h := hCount
              · exact absurd h (by decide)
              · exact Nat.not_succ_le_zero _ h
            obtain ⟨again, hAgain, hRearmed⟩ :=
              complete_again hPending hRepeat hZero ctx
            refine ih hAgain (hRearmed.sequence.trans hSequence)
              hRearmed.repeatCount hRest ?_
            by_cases hFinite : n = compoundRepeatInfinite
            · exact .inl (by rw [oneFewer, if_pos hFinite, hFinite])
            · obtain ⟨-, hToNat⟩ := toNat_oneFewer hFinite hZero
              have hLe := hCount.resolve_left hFinite
              exact .inr (by omega)
        | _ => simp [completesAt] at hOp
      · rw [if_neg hOp] at hCount
        obtain ⟨slot', hPending', hSame⟩ := kept_step hPending
          (by simpa using hOp) (hFirst slot hPending hSequence)
        exact ih hPending' (hSame.sequence.trans hSequence)
          (hSame.repeatCount.trans hRepeat) hRest hCount

private theorem gone_step {ep : Endpoint} (hGone : Gone sequence ep)
    (hLt : sequence < ep.nextSequence) (op : EndpointOp) :
    Gone sequence (ep.step op).1 ∧ sequence < (ep.step op).1.nextSequence := by
  by_cases hTag : ∃ i group position, op = .tagChain i group position
  · obtain ⟨i, group, position, rfl⟩ := hTag
    change Gone sequence (ep.tagChain i group position) ∧
      sequence < (ep.tagChain i group position).nextSequence
    unfold Endpoint.tagChain
    cases hPending : ep.slots.pending i with
    | none => exact ⟨hGone, hLt⟩
    | some slot =>
        refine ⟨fun other found hFound => ?_, hLt⟩
        obtain ⟨-, rfl, -⟩ | ⟨-, hOld⟩ := pending_set_cases hFound
        · exact hGone i slot hPending
        · exact hGone other found hOld
  · push Not at hTag
    have hEffect := storeEffect_endpointStep ep op hTag
    generalize (ep.step op).1 = ep' at hEffect ⊢
    cases hEffect with
    | retained h =>
        refine ⟨fun other found hFound => ?_, hLt.trans_le h.nextSequence⟩
        obtain ⟨old, hOld, hSame⟩ := h.pending other found hFound
        rw [hSame.sequence]
        exact hGone other old hOld
    | stored _ _ hSequence _ =>
        refine ⟨fun other found hFound => ?_, Nat.lt_succ_of_lt hLt⟩
        obtain ⟨-, rfl, -⟩ | ⟨-, hOld⟩ := pending_set_cases hFound
        · omega
        · exact hGone other found hOld

theorem gone_run (ops : List EndpointOp) {ep : Endpoint}
    (hGone : Gone sequence ep) (hLt : sequence < ep.nextSequence) :
    Gone sequence (run Endpoint.step ep ops).1 :=
  (invariant_run (I := fun ep => Gone sequence ep ∧ sequence < ep.nextSequence)
    (fun _ op h => gone_step h.1 h.2 op) ops ⟨hGone, hLt⟩).1

private theorem gone_of_removed {ep ep' : Endpoint} {slot : PendingRequest}
    (h : StoreInvariant ep) (hPending : ep.slots.pending index = some slot)
    (hRemoved : ep'.slots.pending index = none)
    (hOthers : ∀ other, other ≠ index →
      ep'.slots.pending other = ep.slots.pending other) :
    Gone slot.sequence ep' := by
  intro other found hFound
  by_cases hOther : other = index
  · subst hOther
    rw [hRemoved] at hFound
    cases hFound
  · rw [hOthers other hOther] at hFound
    exact h.sequence_ne other index found slot hOther hFound hPending

private theorem gone_after (ops : List EndpointOp) {ep : Endpoint}
    {slot : PendingRequest} {n : UInt16} (h : StoreInvariant ep)
    (hPending : ep.slots.pending index = some slot)
    (hSequence : slot.sequence = sequence)
    (hRepeat : repeatCount slot = some n)
    (hFinite : n ≠ compoundRepeatInfinite)
    (hSpares : Along Endpoint.step (Spares index sequence) ep ops)
    (hCount : n.toNat < ops.countP (completesAt index)) :
    Gone sequence (run Endpoint.step ep ops).1 := by
  induction ops generalizing ep slot n with
  | nil => exact absurd hCount (Nat.not_lt_zero _)
  | cons op ops ih =>
      obtain ⟨hFirst, hRest⟩ := hSpares
      rw [run_cons]
      rw [List.countP_cons] at hCount
      have hNext := storeInvariant_step h op
      by_cases hOp : completesAt index op = true
      · rw [if_pos hOp] at hCount
        cases op with
        | complete other ctx =>
            have hOther : other = index := by simpa [completesAt] using hOp
            subst hOther
            by_cases hZero : n = 0
            · subst hZero hSequence
              apply gone_run
              · exact gone_of_removed h hPending
                  (complete_last hPending hRepeat ctx)
                  (fun _ hNe => pending_complete_ne ep hNe ctx)
              · rw [show (ep.step (.complete other ctx)).1.nextSequence =
                  ep.nextSequence from (inherits_complete ep other ctx).nextSequence]
                exact h.sequence_lt other slot hPending
            · obtain ⟨again, hAgain, hRearmed⟩ :=
                complete_again hPending hRepeat hZero ctx
              obtain ⟨hStill, hToNat⟩ := toNat_oneFewer hFinite hZero
              have hPos : 0 < n.toNat :=
                Nat.pos_of_ne_zero fun h => hZero (UInt16.toNat_inj.mp h)
              exact ih hNext hAgain (hRearmed.sequence.trans hSequence)
                hRearmed.repeatCount hStill hRest (by omega)
        | _ => simp [completesAt] at hOp
      · rw [if_neg hOp] at hCount
        obtain ⟨slot', hPending', hSame⟩ := kept_step hPending
          (by simpa using hOp) (hFirst slot hPending hSequence)
        exact ih hNext hPending' (hSame.sequence.trans hSequence)
          (hSame.repeatCount.trans hRepeat) hFinite hRest hCount

end Run

/-- In every run of an endpoint, a stored request with a repeat count that is
not cancelled stays stored for as many completions as the count says, and is
removed by the next one; an infinite count is never used up.  A completion
changes no other stored request. -/
theorem repetition_run (before ops : List EndpointOp) (index : Nat)
    (slot : PendingRequest) (n : UInt16)
    (hStored : (run Endpoint.step {} before).1.slots.pending index = some slot)
    (hRepeat : repeatCount slot = some n)
    (hSpares : Along Endpoint.step (Spares index slot.sequence)
      (run Endpoint.step {} before).1 ops) :
    let ep := (run Endpoint.step (run Endpoint.step {} before).1 ops).1
    let completions := ops.countP (completesAt index)
    (n = compoundRepeatInfinite ∨ completions ≤ n.toNat →
        StoredAt index slot.sequence ep) ∧
      (n ≠ compoundRepeatInfinite ∧ n.toNat < completions →
        Gone slot.sequence ep) ∧
      ∀ other, other ≠ index → ∀ ctx,
        (ep.complete index ctx).1.slots.pending other =
          ep.slots.pending other := by
  have hInvariant : StoreInvariant (run Endpoint.step {} before).1 :=
    invariant_run (I := StoreInvariant)
      (fun _ op h => storeInvariant_step h op) before storeInvariant_fresh
  refine ⟨?_, ?_, ?_⟩
  · exact storedAt_run ops hStored rfl hRepeat hSpares
  · rintro ⟨hFinite, hCount⟩
    exact gone_after ops hInvariant hStored rfl hRepeat hFinite hSpares hCount
  · intro other hNe ctx
    exact pending_complete_ne _ hNe ctx

def twiceFrame : Octets :=
  [0x1A, 4, 0, 1, 0, 7, 0, 0, 0x0F, 0, 0, 0, 0, 0, 0, 1]

def twiceSlot : PendingRequest :=
  { inUse := true, category := .compound, requestType := some .compound,
    transactionNum := 7, frame := twiceFrame,
    compound := { repeatCount := 1 } }

theorem repetition_run_twice :
    let admitted := (run Endpoint.step {}
      [.admitWithAck twiceFrame 0 false 0 0]).1
    StoredAt 0 0
        (run Endpoint.step admitted [.complete 0 {}]).1 ∧
      Gone 0 (run Endpoint.step admitted
        [.complete 0 {}, .notifyTrigger 0 0, .complete 0 {}]).1 := by
  have hStored : (run Endpoint.step {}
      [.admitWithAck twiceFrame 0 false 0 0]).1.slots.pending 0 =
        some twiceSlot := by decide
  have hFirst := repetition_run [.admitWithAck twiceFrame 0 false 0 0]
    [.complete 0 {}] 0 twiceSlot 1 hStored rfl (by simp [Along, Spares, selects])
  have hSecond := repetition_run [.admitWithAck twiceFrame 0 false 0 0]
    [.complete 0 {}, .notifyTrigger 0 0, .complete 0 {}] 0 twiceSlot 1 hStored
    rfl (by simp [Along, Spares, selects])
  exact ⟨hFirst.1 (.inr (by decide)), hSecond.2.1 ⟨by decide, by decide⟩⟩

end CppRcp.Server
