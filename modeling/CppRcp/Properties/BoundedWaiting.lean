import CppRcp.Foundation.Budget
import CppRcp.Foundation.Waiting
import CppRcp.Mock.EndpointSteps
import CppRcp.Properties.Repetition

/-!
# How long a due request can be passed over

A tick of the server serves one request of an endpoint.  A due request is
passed over only for one of higher priority, or of the same priority and
earlier arrival, and every such tick uses up one of the executions that these
have left.  So it is passed over at most as often as they are to be executed;
where one of them is to be repeated for ever, it may never be served.
-/

namespace CppRcp.Server

open CppRcp.Foundation CppRcp.Request

/-! ## What a step leaves of a request -/

/-- Whatever a step does to a request that stays stored, it leaves it related
to what it was. -/
structure KeptBySteps (R : PendingRequest → PendingRequest → Prop) : Prop where
  refl : ∀ slot, R slot slot
  trans : ∀ a b c, R a b → R b c → R a c
  sequence : ∀ a b, R a b → b.sequence = a.sequence
  isDue : ∀ epEnable slot ctx, R slot (Endpoint.isDue epEnable slot ctx).1
  completed : ∀ slot ctx again,
    (Endpoint.completeSlot slot ctx).1 = some again → R slot again
  triggered : ∀ slot runtime, R slot { slot with triggeredRuntime := runtime }
  predecessorDone : ∀ slot now,
    R slot { slot with predecessorDone := true, armedAt := now }
  tagged : ∀ slot group position,
    R slot { slot with chainGroup := group, chainPosition := position }

section KeptBySteps

variable {R : PendingRequest → PendingRequest → Prop}

def Leaves (R : PendingRequest → PendingRequest → Prop)
    (ep ep' : Endpoint) : Prop :=
  ∀ index slot', ep'.slots.pending index = some slot' →
    ep.nextSequence ≤ slot'.sequence ∨
      ∃ slot, ep.slots.pending index = some slot ∧ R slot slot'

structure StoreKeeps (R : PendingRequest → PendingRequest → Prop)
    (ep ep' : Endpoint) : Prop where
  nextSequence : ep.nextSequence ≤ ep'.nextSequence
  leaves : Leaves R ep ep'

namespace KeptBySteps

theorem same (h : KeptBySteps R) {ep ep' : Endpoint}
    (hSlots : ep'.slots = ep.slots) : Leaves R ep ep' := by
  intro index slot' hPending
  rw [hSlots] at hPending
  exact .inr ⟨slot', hPending, h.refl slot'⟩

theorem removed (h : KeptBySteps R) {ep ep' : Endpoint}
    (hSlots : ∀ index slot, ep'.slots.pending index = some slot →
      ep.slots.pending index = some slot) : Leaves R ep ep' :=
  fun index slot' hPending =>
    .inr ⟨slot', hSlots index slot' hPending, h.refl slot'⟩

theorem map {ep ep' : Endpoint}
    (f : PendingRequest → PendingRequest) (hSlots : ep'.slots = ep.slots.map f)
    (hUse : ∀ slot, (f slot).inUse = slot.inUse) (hf : ∀ slot, R slot (f slot)) :
    Leaves R ep ep' := by
  intro index slot' hPending
  rw [hSlots, Slots.pending_map hUse, Option.map_eq_some_iff] at hPending
  obtain ⟨slot, hSlot, rfl⟩ := hPending
  exact .inr ⟨slot, hSlot, hf slot⟩

theorem putSlot (h : KeptBySteps R) {ep : Endpoint} {index : Nat}
    {slot slot' : PendingRequest} (hSlot : ep.slots.pending index = some slot)
    (hKept : R slot slot') : Leaves R ep (ep.putSlot index slot') := by
  intro other found hFound
  obtain ⟨rfl, rfl, -⟩ | ⟨-, hOld⟩ := pending_set_cases hFound
  · exact .inr ⟨slot, hSlot, hKept⟩
  · exact .inr ⟨found, hOld, h.refl found⟩

theorem releaseSlot (h : KeptBySteps R) (ep : Endpoint) (index : Nat) :
    Leaves R ep (ep.releaseSlot index) :=
  h.removed fun _ _ => pending_of_set_default

theorem releaseWhere (h : KeptBySteps R) (ep : Endpoint)
    (p : PendingRequest → Bool) : Leaves R ep (ep.releaseWhere p) := by
  refine h.removed fun index slot hPending => ?_
  simp only [Endpoint.releaseWhere, Slots.pending_releaseWhere,
    Option.filter_eq_some_iff] at hPending
  exact hPending.1

theorem complete (h : KeptBySteps R) (ep : Endpoint) (index : Nat)
    (ctx : Endpoint.TickContext) : Leaves R ep (ep.complete index ctx).1 := by
  unfold Endpoint.complete
  cases hSlot : ep.slots.pending index with
  | none => exact h.same rfl
  | some slot =>
      rcases hComplete : Endpoint.completeSlot slot ctx with ⟨_ | again, states⟩
      · simp only [hComplete]
        exact h.releaseSlot ep index
      · simp only [hComplete]
        exact h.putSlot hSlot (h.completed slot ctx again (by rw [hComplete]))

theorem selectDue (h : KeptBySteps R) (ep : Endpoint)
    (ctx : Endpoint.TickContext) : Leaves R ep (ep.selectDue ctx).1 := by
  refine map _ rfl (fun slot => ?_) fun slot => ?_
  · split
    · exact (isDue_same ep.epEnable slot ctx).1
    · rfl
  · split
    · exact h.isDue ep.epEnable slot ctx
    · exact h.refl slot

theorem admitWithAck (h : KeptBySteps R) (ep : Endpoint) (frame : Octets)
    (now : UInt32) (tv : Bool) (ts : UInt32) (gptp : Nat) :
    Leaves R ep (ep.admitWithAck frame now tv ts gptp).1 := by
  have hEffect := admitWithAck_effect ep frame now tv ts gptp
  generalize ep.admitWithAck frame now tv ts gptp = admitted at hEffect ⊢
  obtain ⟨ep', result⟩ := admitted
  cases hEffect with
  | kept hStore _ => exact h.same hStore.slots
  | discarded _ _ => exact h.removed fun _ _ => pending_of_set_default
  | stored _ hSlot _ =>
      intro other found hFound
      obtain ⟨-, rfl, -⟩ | ⟨-, hOld⟩ := pending_set_cases hFound
      · exact .inl hSlot.sequence.ge
      · exact .inr ⟨found, hOld, h.refl found⟩

theorem step (h : KeptBySteps R) (ep : Endpoint) (op : EndpointOp) :
    Leaves R ep (ep.step op).1 := by
  cases op with
  | setEnable enable => exact h.same rfl
  | setAdmissionSuspended suspended => exact h.same rfl
  | submit frame => exact h.same (submit_sameStore ep frame).slots
  | drainOne =>
      refine h.same ?_
      simp only [Endpoint.step, Endpoint.drainOne]
      split
      · rfl
      · split <;> rfl
  | admitWithAck frame now tv ts gptp => exact h.admitWithAck ep _ _ _ _ _
  | selectDue ctx => exact h.selectDue ep ctx
  | complete index ctx => exact h.complete ep index ctx
  | notifyTrigger sourceEp signalNr =>
      refine map _ rfl (fun slot => ?_) fun slot => ?_
      · split <;> rfl
      · split
        · exact h.triggered slot _
        · exact h.refl slot
  | chainPredecessorDone index now =>
      simp only [Endpoint.step, Endpoint.chainPredecessorDone]
      cases hSlot : ep.slots.pending index with
      | none => exact h.same rfl
      | some slot =>
          dsimp only
          split
          · exact h.putSlot hSlot (h.predecessorDone slot now)
          · exact h.same rfl
  | tagChain index group position =>
      simp only [Endpoint.step, Endpoint.tagChain]
      cases hSlot : ep.slots.pending index with
      | none => exact h.same rfl
      | some slot => exact h.putSlot hSlot (h.tagged slot group position)
  | cancelAll => exact h.releaseWhere ep _
  | cancelSingle num state =>
      simp only [Endpoint.step, Endpoint.cancelSingle]
      cases ep.findTransaction num with
      | none => exact h.same rfl
      | some index =>
          dsimp only
          split
          · exact h.releaseSlot ep index
          · exact h.same rfl
  | cancelNonSafestate => exact h.releaseWhere ep _
  | watchdogPurge => exact h.releaseWhere ep _
  | cancelChainFrom group position =>
      simp only [Endpoint.step, Endpoint.cancelChainFrom]
      split
      · exact h.same rfl
      · exact h.releaseWhere ep _

private theorem storeKeeps_trans (h : KeptBySteps R) {a b c : Endpoint}
    (hab : StoreKeeps R a b) (hbc : StoreKeeps R b c) : StoreKeeps R a c := by
  refine ⟨hab.nextSequence.trans hbc.nextSequence, ?_⟩
  intro index slot'' hPending
  rcases hbc.leaves index slot'' hPending with hNew | ⟨slot', hSlot', hRelated'⟩
  · exact .inl (hab.nextSequence.trans hNew)
  · rcases hab.leaves index slot' hSlot' with hNew | ⟨slot, hSlot, hRelated⟩
    · exact .inl (hNew.trans (h.sequence slot' slot'' hRelated').ge)
    · exact .inr ⟨slot, hSlot, h.trans _ _ _ hRelated hRelated'⟩

theorem steps (h : KeptBySteps R) {ep ep' : Endpoint}
    (hSteps : Steps Endpoint.step (fun _ => True) ep ep') :
    StoreKeeps R ep ep' := by
  refine hSteps.relates (fun ep => ⟨le_rfl, h.same rfl⟩)
    (fun _ _ _ => h.storeKeeps_trans) fun ep op _ => ?_
  exact ⟨nextSequence_step ep op, h.step ep op⟩

end KeptBySteps

end KeptBySteps

/-! ## Executions left -/

/-- Requests are served in this order. -/
def precedence (slot : PendingRequest) : Nat ×ₗ Nat :=
  toLex (priorityRank slot.category, slot.sequence)

def executionsLeft (slot : PendingRequest) : ℕ∞ :=
  match repeatCount slot with
  | none => 1
  | some n => if n = compoundRepeatInfinite then ⊤ else n.toNat + 1

private theorem one_le_executionsLeft (slot : PendingRequest) :
    1 ≤ executionsLeft slot := by
  unfold executionsLeft
  cases repeatCount slot with
  | none => exact le_rfl
  | some n =>
      dsimp only
      split_ifs
      · exact le_top
      · exact le_add_self

structure Wears (slot slot' : PendingRequest) : Prop where
  sequence : slot'.sequence = slot.sequence
  category : slot'.category = slot.category
  executionsLeft : executionsLeft slot' ≤ executionsLeft slot

private theorem Wears.precedence {slot slot' : PendingRequest}
    (h : Wears slot slot') :
    precedence slot' = precedence slot := by
  rw [Server.precedence, h.category, h.sequence, Server.precedence]

private theorem wears_of_repetition {slot slot' : PendingRequest}
    (h : SameRepetition slot slot') (hCategory : slot'.category = slot.category) :
    Wears slot slot' :=
  ⟨h.sequence, hCategory, by rw [executionsLeft, h.repeatCount, executionsLeft]⟩

private theorem isDue_category (epEnable : Bool) (slot : PendingRequest)
    (ctx : Endpoint.TickContext) :
    (Endpoint.isDue epEnable slot ctx).1.category = slot.category := by
  have hArm := (Endpoint.armIfStartable_fields slot ctx).1
  unfold Endpoint.isDue
  split_ifs
  · rfl
  · rfl
  · rfl
  · rcases hEq : Endpoint.armIfStartable slot ctx with ⟨armed, startable⟩
    rw [hEq] at hArm
    cases startable with
    | false => exact hArm
    | true =>
        dsimp only
        split <;> exact hArm

private theorem rearm_category {slot again : PendingRequest} {now : UInt32}
    {count : UInt16} {setRepeat : PendingRequest → UInt16 → PendingRequest}
    (hSet : ∀ slot count, (setRepeat slot count).category = slot.category)
    (h : Endpoint.rearm slot now count setRepeat = some again) :
    again.category = slot.category := by
  unfold Endpoint.rearm at h
  dsimp only at h
  split at h
  · cases h
    rfl
  · split at h
    · cases h
    · cases h
      exact hSet slot (count - 1)

private theorem completeSlot_category {slot again : PendingRequest}
    {ctx : Endpoint.TickContext}
    (h : (Endpoint.completeSlot slot ctx).1 = some again) :
    again.category = slot.category := by
  unfold Endpoint.completeSlot at h
  dsimp only at h
  split at h <;> dsimp only at h
  · refine rearm_category ?_ h
    exact fun _ _ => rfl
  · refine rearm_category ?_ h
    exact fun _ _ => rfl
  · refine (rearm_category ?_ h).trans rfl
    exact fun _ _ => rfl
  all_goals cases h

private theorem executionsLeft_oneFewer {slot again : PendingRequest}
    {n : UInt16} (hRepeat : repeatCount slot = some n) (hZero : n ≠ 0)
    (hAgain : repeatCount again = some (oneFewer n)) :
    1 + executionsLeft again ≤ executionsLeft slot := by
  simp only [executionsLeft, hRepeat, hAgain]
  by_cases hInfinite : n = compoundRepeatInfinite
  · rw [if_pos hInfinite]
    exact le_top
  · obtain ⟨hStill, hToNat⟩ := toNat_oneFewer hInfinite hZero
    have hPos : 0 < n.toNat :=
      Nat.pos_of_ne_zero fun h => hZero (UInt16.toNat_inj.mp h)
    rw [if_neg hInfinite, if_neg hStill, hToNat]
    norm_cast
    omega

private theorem completeSlot_executionsLeft {slot again : PendingRequest}
    {ctx : Endpoint.TickContext}
    (h : (Endpoint.completeSlot slot ctx).1 = some again) :
    1 + executionsLeft again ≤ executionsLeft slot := by
  cases hRepeat : repeatCount slot with
  | none =>
      unfold repeatCount at hRepeat
      unfold Endpoint.completeSlot at h
      cases hCategory : slot.category <;> simp [hCategory] at hRepeat h
  | some n =>
      obtain ⟨-, hNone⟩ | ⟨hZero, found, hFound, hRearmed⟩ :=
        completeSlot_repetition hRepeat ctx
      · rw [hNone] at h
        cases h
      · obtain rfl : found = again := by
          rw [hFound] at h
          exact Option.some_inj.mp h
        exact executionsLeft_oneFewer hRepeat hZero hRearmed.repeatCount

private theorem keptBySteps_wears : KeptBySteps Wears where
  refl _ := ⟨rfl, rfl, le_rfl⟩
  trans _ _ _ hab hbc :=
    ⟨hbc.sequence.trans hab.sequence, hbc.category.trans hab.category,
      hbc.executionsLeft.trans hab.executionsLeft⟩
  sequence _ _ h := h.sequence
  isDue epEnable slot ctx :=
    wears_of_repetition (isDue_repetition epEnable slot ctx)
      (isDue_category epEnable slot ctx)
  completed _ ctx _ h :=
    ⟨(completeSlot_same ctx h).sequence, completeSlot_category h,
      le_add_self.trans (completeSlot_executionsLeft h)⟩
  triggered _ _ := ⟨rfl, rfl, le_rfl⟩
  predecessorDone _ _ := ⟨rfl, rfl, le_rfl⟩
  tagged _ _ _ := ⟨rfl, rfl, le_rfl⟩

/-! ## An endpoint's store -/

def Endpoint.store (ep : Endpoint) (i : Fin maxPending) :
    Option PendingRequest :=
  ep.slots.pending i

/-- The request was stored when that arrival number, or a later one, was
given out. -/
def storedSince (number : Nat) (slot : PendingRequest) : Bool :=
  decide (number ≤ slot.sequence)

/-- How often the stored requests that go before `slot` are still to be
executed. -/
def Endpoint.aheadOf (ep : Endpoint) (slot : PendingRequest) : ℕ∞ :=
  ahead precedence executionsLeft (precedence slot) ep.store

theorem StoreKeeps.settles {ep ep' : Endpoint} (h : StoreKeeps Wears ep ep') :
    Settles precedence executionsLeft (storedSince ep.nextSequence) ep.store
      ep'.store := by
  refine ⟨fun i slot' hStored => ?_⟩
  rcases h.leaves i slot' hStored with hNew | ⟨slot, hSlot, hWears⟩
  · exact .inl (by simpa [storedSince] using hNew)
  · exact .inr ⟨slot, hSlot, hWears.precedence, hWears.executionsLeft⟩

private theorem complete_executionsLeft {ep : Endpoint} {index : Nat}
    {ctx : Endpoint.TickContext} {slot slot' : PendingRequest}
    (h : ep.slots.pending index = some slot)
    (h' : (ep.complete index ctx).1.slots.pending index = some slot') :
    1 + executionsLeft slot' ≤ executionsLeft slot := by
  unfold Endpoint.complete at h'
  rw [h] at h'
  rcases hComplete : Endpoint.completeSlot slot ctx with ⟨_ | again, states⟩
  · simp only [hComplete, Endpoint.releaseSlot, pending_set_default] at h'
    cases h'
  · simp only [hComplete, Endpoint.putSlot] at h'
    obtain ⟨-, rfl, -⟩ | ⟨hNe, -⟩ := pending_set_cases h'
    · exact completeSlot_executionsLeft (by rw [hComplete])
    · exact absurd rfl hNe

private theorem selectDue_wears {ep : Endpoint} {index : Nat}
    {slot : PendingRequest}
    (h : ep.slots.pending index = some slot) (ctx : Endpoint.TickContext) :
    ∃ slot', (ep.selectDue ctx).1.slots.pending index = some slot' ∧
      Wears slot slot' := by
  refine ⟨(Endpoint.isDue ep.epEnable slot ctx).1, ?_,
    keptBySteps_wears.isDue ep.epEnable slot ctx⟩
  have hUse := (Slots.pending_eq_some.mp h).2
  change Slots.pending (ep.slots.map _) index = _
  rw [Slots.pending_map, h]
  · simp [hUse]
  · intro slot
    split
    · exact (isDue_same ep.epEnable slot ctx).1
    · rfl

end CppRcp.Server

namespace CppRcp.Mock

open CppRcp.Foundation CppRcp.Request CppRcp.Server

/-! ## Ticks of the server -/

def dueAt (bus : Bus) (index sequence : Nat) (server : Server) : Op → Bool
  | .tick other ctx =>
      decide (other = bus) &&
        ((server.admission bus).slots.pending index).any fun slot =>
          decide (slot.sequence = sequence) &&
            (Endpoint.isDue (server.admission bus).epEnable slot ctx).2
  | _ => false

def servedAt (bus : Bus) (index sequence : Nat) (server : Server) : Op → Bool
  | .tick other ctx =>
      decide (other = bus) &&
        ((server.admission bus).slots.pending index).any fun slot =>
          decide (slot.sequence = sequence) &&
            decide (((server.admission bus).selectDue ctx).2 = some index)
  | _ => false

/-- How often the requests that the operation stores on the bus, of higher
priority than `rank`, are to be executed. -/
def admittedAbove (bus : Bus) (rank : Nat) (server : Server) (op : Op) : ℕ∞ :=
  arrived (fun slot => priorityRank slot.category) executionsLeft rank
    (storedSince (server.admission bus).nextSequence)
    ((server.step op).1.admission bus).store

def occurrences (p : Server → Op → Bool) : Server → List Op → ℕ∞ :=
  total Server.step fun server op => if p server op then 1 else 0

private theorem storeKeeps_step {R : PendingRequest → PendingRequest → Prop}
    (h : KeptBySteps R) (server : Server) (op : Op) (bus : Bus) :
    StoreKeeps R (server.admission bus) ((server.step op).1.admission bus) :=
  h.steps (server.busSteps_any op bus)

private theorem arrived_le_admittedAbove {server : Server} {bus : Bus}
    {slot : PendingRequest}
    (hOld : slot.sequence < (server.admission bus).nextSequence) (op : Op) :
    arrived precedence executionsLeft (precedence slot)
        (storedSince (server.admission bus).nextSequence)
        ((server.step op).1.admission bus).store ≤
      admittedAbove bus (priorityRank slot.category) server op := by
  refine arrived_mono _ _ _ _ fun job hFresh hBefore => ?_
  simp only [storedSince, decide_eq_true_eq] at hFresh
  simp only [precedence, Prod.Lex.toLex_lt_toLex] at hBefore
  omega

private theorem selectDue_ne_none {ep : Endpoint} {ctx : Endpoint.TickContext}
    {index : Nat} {slot : PendingRequest}
    (hSlot : ep.slots.pending index = some slot)
    (hDue : (Endpoint.isDue ep.epEnable slot ctx).2 = true) :
    (ep.selectDue ctx).2 ≠ none := by
  intro hNone
  rw [Endpoint.selectDue_eq_leastBy, Option.map_eq_none_iff,
    leastBy_eq_none_iff] at hNone
  have hMem := Endpoint.mem_due.mpr ⟨hSlot, hDue⟩
  simp [hNone] at hMem

private theorem precedence_selectDue_lt {ep : Endpoint}
    {ctx : Endpoint.TickContext}
    {index chosen : Nat} {slot : PendingRequest} (hInvariant : StoreInvariant ep)
    (hSlot : ep.slots.pending index = some slot)
    (hDue : (Endpoint.isDue ep.epEnable slot ctx).2 = true)
    (hChosen : (ep.selectDue ctx).2 = some chosen) (hNe : chosen ≠ index) :
    ∃ served, ep.slots.pending chosen = some served ∧
      precedence served < precedence slot := by
  obtain ⟨served, hServed, -, hLeast⟩ := Endpoint.selectDue_eq_some hChosen
  refine ⟨served, hServed, lt_of_le_of_ne (hLeast index slot hSlot hDue) ?_⟩
  intro hKey
  have hSequence : served.sequence = slot.sequence :=
    congrArg (fun key => (ofLex key).2) hKey
  exact hInvariant.sequence_ne chosen index served slot hNe hServed hSlot
    hSequence

private theorem aheadOf_tick {server : Server} {bus : Bus} {index : Nat}
    {slot found : PendingRequest} {ctx : Endpoint.TickContext}
    (hInvariant : StoreInvariant (server.admission bus))
    (hFound : (server.admission bus).slots.pending index = some found)
    (hDue : (Endpoint.isDue (server.admission bus).epEnable found ctx).2 = true)
    (hKey : precedence found = precedence slot)
    (hPassed : ((server.admission bus).selectDue ctx).2 ≠ some index) :
    1 + ((server.step (.tick bus ctx)).1.admission bus).aheadOf slot ≤
      (server.admission bus).aheadOf slot +
        arrived precedence executionsLeft (precedence slot)
          (storedSince (server.admission bus).nextSequence)
          ((server.step (.tick bus ctx)).1.admission bus).store := by
  have hSettles :=
    (storeKeeps_step keptBySteps_wears server (.tick bus ctx) bus).settles
  cases hChosen : ((server.admission bus).selectDue ctx).2 with
  | none => exact absurd hChosen (selectDue_ne_none hFound hDue)
  | some chosen =>
      have hNe : chosen ≠ index := by
        rintro rfl
        exact hPassed hChosen
      obtain ⟨served, hServed, hBefore⟩ :=
        precedence_selectDue_lt hInvariant hFound hDue hChosen hNe
      rw [hKey] at hBefore
      obtain ⟨armed, hArmed, hWears⟩ := selectDue_wears hServed ctx
      refine hSettles.succ_ahead_le (i := ⟨chosen, pending_lt hServed⟩) hServed
        hBefore (one_le_executionsLeft served) fun left hLeft _ => ?_
      have hAfter : (((server.admission bus).selectDue ctx).1.complete chosen
          ctx).1.slots.pending chosen = some left := by
        rcases hSelect : (server.admission bus).selectDue ctx with ⟨ep, due⟩
        rw [hSelect] at hChosen
        dsimp only at hChosen
        subst hChosen
        simpa [Server.step, Server.tick, hSelect, Endpoint.store] using hLeft
      exact (complete_executionsLeft hArmed hAfter).trans hWears.executionsLeft

/-! ## Runs -/

theorem storeInvariant_run (ops : List Op) (bus : Bus) :
    StoreInvariant ((run Server.step {} ops).1.admission bus) := by
  have hFresh : ({} : Server).admission bus = {} := by cases bus <;> rfl
  refine invariant_run
    (I := fun server : Server => StoreInvariant (server.admission bus))
    (fun server op h => (server.busSteps_any op).storeInvariant h) ops ?_
  rw [hFresh]
  exact storeInvariant_fresh

structure Watched (bus : Bus) (index : Nat) (slot : PendingRequest)
    (server : Server) : Prop where
  store : StoreInvariant (server.admission bus)
  old : slot.sequence < (server.admission bus).nextSequence
  same : ∀ found, (server.admission bus).slots.pending index = some found →
    found.sequence = slot.sequence → precedence found = precedence slot

private theorem watched_step {bus : Bus} {index : Nat} {slot : PendingRequest}
    {server : Server} (h : Watched bus index slot server) (op : Op) :
    Watched bus index slot (server.step op).1 := by
  have hKeeps := storeKeeps_step keptBySteps_wears server op bus
  refine ⟨(server.busSteps_any op).storeInvariant h.store,
    h.old.trans_le hKeeps.nextSequence, fun found hFound hSequence => ?_⟩
  rcases hKeeps.leaves index found hFound with hNew | ⟨old, hOld, hWears⟩
  · have hLt := h.old
    omega
  · rw [hWears.precedence]
    exact h.same old hOld (hWears.sequence.symm.trans hSequence)

private theorem dueAt_eq_true {bus : Bus} {index sequence : Nat}
    {server : Server}
    {op : Op} (h : dueAt bus index sequence server op = true) :
    ∃ ctx found, op = .tick bus ctx ∧
      (server.admission bus).slots.pending index = some found ∧
      found.sequence = sequence ∧
      (Endpoint.isDue (server.admission bus).epEnable found ctx).2 = true := by
  cases op with
  | tick other ctx =>
      simp only [dueAt, Bool.and_eq_true, decide_eq_true_eq,
        Option.any_eq_true] at h
      obtain ⟨rfl, found, hFound, hSequence, hDue⟩ := h
      exact ⟨ctx, found, rfl, hFound, hSequence, hDue⟩
  | _ => simp [dueAt] at h

/-- One step: a tick that finds the request due serves it, or uses up an
execution ahead of it. -/
theorem due_step {bus : Bus} {index : Nat} {slot : PendingRequest}
    {server : Server} (h : Watched bus index slot server) (op : Op) :
    (if dueAt bus index slot.sequence server op then 1 else 0) +
        ((server.step op).1.admission bus).aheadOf slot ≤
      (server.admission bus).aheadOf slot +
        ((if servedAt bus index slot.sequence server op then 1 else 0) +
          admittedAbove bus (priorityRank slot.category) server op) := by
  have hArrived := arrived_le_admittedAbove h.old op
  have hKept : ((server.step op).1.admission bus).aheadOf slot ≤
      (server.admission bus).aheadOf slot +
        admittedAbove bus (priorityRank slot.category) server op :=
    (storeKeeps_step keptBySteps_wears server op bus).settles.ahead_le.trans
      (add_le_add le_rfl hArrived)
  by_cases hDue : dueAt bus index slot.sequence server op = true
  · rw [if_pos hDue]
    by_cases hServed : servedAt bus index slot.sequence server op = true
    · rw [if_pos hServed, add_left_comm]
      gcongr
    · obtain ⟨ctx, found, rfl, hFound, hSequence, hFoundDue⟩ :=
        dueAt_eq_true hDue
      rw [if_neg hServed, zero_add]
      refine (aheadOf_tick h.store hFound hFoundDue
        (h.same found hFound hSequence) ?_).trans (add_le_add le_rfl hArrived)
      simpa [servedAt, hFound, hSequence] using hServed
  · rw [if_neg hDue, zero_add]
    exact hKept.trans (add_le_add le_rfl le_add_self)

/-- In every run of the server, a stored request that is found due at a tick of
its bus is served there, or one of the executions is used up that were ahead of
it when it was looked at first, or that requests of higher priority brought
along since. -/
theorem due_le_served_add_ahead (before ops : List Op) (bus : Bus)
    (index : Nat) (slot : PendingRequest)
    (hStored : ((run Server.step {} before).1.admission bus).slots.pending
      index = some slot) :
    let server := (run Server.step {} before).1
    occurrences (dueAt bus index slot.sequence) server ops ≤
      occurrences (servedAt bus index slot.sequence) server ops +
        ((server.admission bus).aheadOf slot +
          total Server.step (admittedAbove bus (priorityRank slot.category))
            server ops) := by
  intro server
  have hStart : Watched bus index slot server := by
    have hStore : StoreInvariant (server.admission bus) :=
      storeInvariant_run before bus
    refine ⟨hStore, hStore.sequence_lt index slot hStored, ?_⟩
    intro found hFound _
    rw [hStored] at hFound
    cases hFound
    rfl
  have hAlong : Along Server.step (fun server _ => Watched bus index slot server)
      server ops :=
    along_iff_getElem.mpr fun i _ =>
      invariant_run (I := Watched bus index slot)
        (fun _ op h => watched_step h op) (ops.take i) hStart
  have hTotal := total_add_potential_le
    (fun server => (server.admission bus).aheadOf slot)
    (fun server op h => due_step h op) hAlong
  rw [total_add] at hTotal
  calc occurrences (dueAt bus index slot.sequence) server ops
      ≤ _ := le_self_add
    _ ≤ _ := hTotal
    _ = _ := add_left_comm _ _ _

def idleTick : Endpoint.TickContext :=
  { endpointIdle := true, sequencers := some [1] }

def fiveTicks : List Op :=
  List.replicate 5 (.tick .gpio idleTick)

def twoStored : List Op :=
  [.endpoint .gpio (.admitWithAck twiceFrame 0 false 0 0),
    .endpoint .gpio (.admitWithAck twiceFrame 0 false 0 0)]

theorem due_le_served_add_ahead_twice :
    let server := (run Server.step {} twoStored).1
    occurrences (dueAt .gpio 1 1) server fiveTicks ≤
      occurrences (servedAt .gpio 1 1) server fiveTicks +
        ((server.admission .gpio).aheadOf { twiceSlot with sequence := 1 } +
          total Server.step (admittedAbove .gpio 3) server fiveTicks) :=
  due_le_served_add_ahead twoStored fiveTicks .gpio 1
    { twiceSlot with sequence := 1 } (by decide)

/-! ## Requests that never make way -/

/-- A compound request that is repeated for ever and waits for nothing but its
sequencer. -/
structure Endless (slot : PendingRequest) : Prop where
  category : slot.category = .compound
  repeats : slot.compound.repeatCount = compoundRepeatInfinite
  immediate : slot.compound.execDelay = 0
  ungated : slot.hasPresentationGate = false

structure Startable (slot : PendingRequest) (ctx : Endpoint.TickContext) :
    Prop where
  idle : ctx.endpointIdle = true
  safe : Endpoint.isSafety slot = true → ctx.inSafeState = true
  started : ∃ states, ctx.sequencers = some states ∧
    startConditionMet states slot.compound = true

theorem Endless.isDue {slot : PendingRequest} {ctx : Endpoint.TickContext}
    (h : Endless slot) (hCtx : Startable slot ctx) :
    (Endpoint.isDue true slot ctx).2 = true := by
  obtain ⟨states, hStates, hMet⟩ := hCtx.started
  have hHolds : Endpoint.startConditionHolds slot ctx = true := by
    simp [Endpoint.startConditionHolds, h.category, hStates, hMet]
  have hSafe : (Endpoint.isSafety slot && !ctx.inSafeState) = false := by
    have hState := hCtx.safe
    grind
  have hArm : Endpoint.armIfStartable slot ctx =
        ({ slot with armed := true,
                     armedAt := if slot.armed then slot.armedAt else ctx.now },
          true) := by
    unfold Endpoint.armIfStartable
    cases hArmed : slot.armed with
    | true => simp [← hArmed]
    | false => simp [hHolds, h.category]
  unfold Endpoint.isDue
  simp [hSafe, h.ungated, hArm, Endpoint.auxiliaryConditionMet, h.category,
    hCtx.idle, Endpoint.delayExpired, execDelayElapsed, h.immediate]

structure StaysEndless (slot slot' : PendingRequest) : Prop where
  sequence : slot'.sequence = slot.sequence
  endless : Endless slot → Endless slot' ∧ slot'.compound = slot.compound ∧
    slot'.requestType = slot.requestType

theorem StaysEndless.refl (slot : PendingRequest) : StaysEndless slot slot :=
  ⟨rfl, fun h => ⟨h, rfl, rfl⟩⟩

private theorem staysEndless_armed (slot : PendingRequest) (armed : Bool)
    (armedAt : UInt32) :
    StaysEndless slot { slot with armed := armed, armedAt := armedAt } :=
  ⟨rfl, fun h => ⟨⟨h.category, h.repeats, h.immediate, h.ungated⟩, rfl, rfl⟩⟩

private theorem staysEndless_isDue (epEnable : Bool) (slot : PendingRequest)
    (ctx : Endpoint.TickContext) :
    StaysEndless slot (Endpoint.isDue epEnable slot ctx).1 := by
  have hArm : StaysEndless slot (Endpoint.armIfStartable slot ctx).1 := by
    unfold Endpoint.armIfStartable
    split_ifs
    · exact .refl slot
    · exact .refl slot
    · exact staysEndless_armed slot true slot.armedAt
    · exact staysEndless_armed slot true ctx.now
  unfold Endpoint.isDue
  split_ifs
  · exact .refl slot
  · exact .refl slot
  · exact .refl slot
  · rcases hEq : Endpoint.armIfStartable slot ctx with ⟨armed, startable⟩
    rw [hEq] at hArm
    cases startable with
    | false => exact hArm
    | true =>
        dsimp only
        split <;> exact hArm

private theorem staysEndless_completed {slot again : PendingRequest}
    {ctx : Endpoint.TickContext}
    (h : (Endpoint.completeSlot slot ctx).1 = some again) :
    StaysEndless slot again := by
  refine ⟨(completeSlot_same ctx h).sequence, fun hEndless => ?_⟩
  have hRearmed := h
  rw [completeSlot_compound (.inl hEndless.category), Endpoint.rearm,
    if_pos hEndless.repeats] at hRearmed
  cases hRearmed
  exact ⟨⟨hEndless.category, hEndless.repeats, hEndless.immediate,
    hEndless.ungated⟩, rfl, rfl⟩

private theorem keptBySteps_staysEndless : KeptBySteps StaysEndless where
  refl := .refl
  trans _ _ _ hab hbc :=
    ⟨hbc.sequence.trans hab.sequence, fun h =>
      have ⟨hb, hCompound, hType⟩ := hab.endless h
      have ⟨hc, hCompound', hType'⟩ := hbc.endless hb
      ⟨hc, hCompound'.trans hCompound, hType'.trans hType⟩⟩
  sequence _ _ h := h.sequence
  isDue := staysEndless_isDue
  completed _ _ _ h := staysEndless_completed h
  triggered _ _ :=
    ⟨rfl, fun h => ⟨⟨h.category, h.repeats, h.immediate, h.ungated⟩, rfl, rfl⟩⟩
  predecessorDone _ _ :=
    ⟨rfl, fun h => ⟨⟨h.category, h.repeats, h.immediate, h.ungated⟩, rfl, rfl⟩⟩
  tagged _ _ _ :=
    ⟨rfl, fun h => ⟨⟨h.category, h.repeats, h.immediate, h.ungated⟩, rfl, rfl⟩⟩

/-- What a caller must do, apart from ticking, so that the request goes on
being served: leave its endpoint enabled and the request stored, and tick its
bus at such times only. -/
structure LeftAlone (bus : Bus) (index : Nat) (slot : PendingRequest)
    (server : Server) (op : Op) : Prop where
  enabled : (server.admission bus).epEnable = true
  startable : ∀ ctx, op = .tick bus ctx → Startable slot ctx
  spared : (∀ ctx, op ≠ .tick bus ctx) →
    StoredAt index slot.sequence ((server.step op).1.admission bus)

structure Reigns (bus : Bus) (index : Nat) (slot : PendingRequest)
    (server : Server) : Prop where
  store : StoreInvariant (server.admission bus)
  stored : ∃ found, (server.admission bus).slots.pending index = some found ∧
    StaysEndless slot found

private theorem Startable.of_staysEndless {slot found : PendingRequest}
    {ctx : Endpoint.TickContext} (h : Startable slot ctx)
    (hEndless : Endless slot) (hStays : StaysEndless slot found) :
    Startable found ctx := by
  obtain ⟨-, hCompound, hType⟩ := hStays.endless hEndless
  have hSafety : Endpoint.isSafety found = Endpoint.isSafety slot := by
    rw [Endpoint.isSafety, Endpoint.isSafety, hType]
  exact ⟨h.idle, by rw [hSafety]; exact h.safe, by rw [hCompound]; exact h.started⟩

private theorem storedAt_tick {server : Server} {bus : Bus} {index : Nat}
    {found : PendingRequest}
    (hFound : (server.admission bus).slots.pending index = some found)
    (hEndless : Endless found) (ctx : Endpoint.TickContext) :
    StoredAt index found.sequence
      ((server.step (.tick bus ctx)).1.admission bus) := by
  have hRepeat : repeatCount found = some compoundRepeatInfinite := by
    rw [repeatCount, hEndless.category, ← hEndless.repeats]
  have hRun (ops : List EndpointOp)
      (hSpares : Along Endpoint.step (Spares index found.sequence)
        (server.admission bus) ops) :=
    storedAt_run ops hFound rfl hRepeat hSpares (.inl rfl)
  rcases hSelect : (server.admission bus).selectDue ctx with ⟨ep, _ | chosen⟩
  · have hStored := hRun [.selectDue ctx] (by simp [Along, Spares, selects])
    simpa [run_cons, Endpoint.step, Server.step, Server.tick, hSelect]
      using hStored
  · have hStored := hRun [.selectDue ctx, .complete chosen ctx]
      (by simp [Along, Spares, selects])
    simpa [run_cons, Endpoint.step, Server.step, Server.tick, hSelect]
      using hStored

private theorem reigns_step {server : Server} {bus : Bus} {index : Nat}
    {slot : PendingRequest} {op : Op} (hEndless : Endless slot)
    (h : Reigns bus index slot server)
    (hOp : LeftAlone bus index slot server op) :
    Reigns bus index slot (server.step op).1 := by
  obtain ⟨found, hFound, hStays⟩ := h.stored
  refine ⟨(server.busSteps_any op).storeInvariant h.store, ?_⟩
  have hStill : StoredAt index slot.sequence
      ((server.step op).1.admission bus) := by
    by_cases hTick : ∃ ctx, op = .tick bus ctx
    · obtain ⟨ctx, rfl⟩ := hTick
      rw [← hStays.sequence]
      exact storedAt_tick hFound (hStays.endless hEndless).1 ctx
    · exact hOp.spared fun ctx hEq => hTick ⟨ctx, hEq⟩
  obtain ⟨later, hLater, hSequence⟩ := hStill
  have hKeeps := storeKeeps_step keptBySteps_staysEndless server op bus
  rcases hKeeps.leaves index later hLater with hNew | ⟨old, hOld, hLeft⟩
  · have hLt := h.store.sequence_lt index found hFound
    have hSame := hStays.sequence
    omega
  · rw [hFound] at hOld
    cases hOld
    exact ⟨later, hLater,
      keptBySteps_staysEndless.trans _ _ _ hStays hLeft⟩

private theorem serves_of_reigns {server : Server} {bus : Bus} {index : Nat}
    {slot : PendingRequest} {ctx : Endpoint.TickContext}
    (hEndless : Endless slot) (h : Reigns bus index slot server)
    (hEnabled : (server.admission bus).epEnable = true)
    (hCtx : Startable slot ctx) :
    ∃ chosen served,
      (server.admission bus).slots.pending chosen = some served ∧
      (server.tick bus ctx).2 = some served.frame ∧
      (chosen = index ∧ served.sequence = slot.sequence ∨
        precedence served < precedence slot) := by
  obtain ⟨found, hFound, hStays⟩ := h.stored
  obtain ⟨hFoundEndless, -, -⟩ := hStays.endless hEndless
  have hDue : (Endpoint.isDue (server.admission bus).epEnable found ctx).2 =
      true := by
    rw [hEnabled]
    exact hFoundEndless.isDue (hCtx.of_staysEndless hEndless hStays)
  have hKey : precedence found = precedence slot := by
    rw [precedence, hFoundEndless.category, hStays.sequence, precedence,
      hEndless.category]
  rcases hSelect : (server.admission bus).selectDue ctx with ⟨ep, due⟩
  have hEp : ep = ((server.admission bus).selectDue ctx).1 := by rw [hSelect]
  cases due with
  | none => exact absurd (by rw [hSelect]) (selectDue_ne_none hFound hDue)
  | some chosen =>
      have hChosen : ((server.admission bus).selectDue ctx).2 = some chosen := by
        rw [hSelect]
      obtain ⟨served, hServed, -, -⟩ := Endpoint.selectDue_eq_some hChosen
      have hFrame : (server.tick bus ctx).2 = some served.frame := by
        obtain ⟨armed, hArmed, -⟩ := selectDue_wears hServed ctx
        obtain ⟨old, hOld, hSame⟩ :=
          (inherits_selectDue (server.admission bus) ctx).pending chosen armed
            hArmed
        rw [hServed] at hOld
        cases hOld
        rw [← hEp] at hArmed
        simp [Server.tick, hSelect, hArmed, hSame.frame]
      refine ⟨chosen, served, hServed, hFrame, ?_⟩
      by_cases hIndex : chosen = index
      · rw [hIndex, hFound] at hServed
        cases hServed
        exact .inl ⟨hIndex, hStays.sequence⟩
      · obtain ⟨other, hOther, hBefore⟩ :=
          precedence_selectDue_lt h.store hFound hDue hChosen hIndex
        rw [hServed] at hOther
        cases hOther
        exact .inr (hKey ▸ hBefore)

/-- A compound request that is repeated for ever without a delay takes every
tick of its bus for itself or for what goes before it, as long as the endpoint
is enabled and idle, the request is not cancelled and nothing holds it back:
what goes after it is never served, however often it is due. -/
theorem endless_request_starves (before ops : List Op) (bus : Bus)
    (index : Nat) (slot : PendingRequest)
    (hStored : ((run Server.step {} before).1.admission bus).slots.pending
      index = some slot)
    (hEndless : Endless slot)
    (hAlone : Along Server.step (LeftAlone bus index slot)
      (run Server.step {} before).1 ops) :
    Along Server.step
      (fun server op => ∀ ctx, op = .tick bus ctx → ∃ chosen served,
        (server.admission bus).slots.pending chosen = some served ∧
        (server.tick bus ctx).2 = some served.frame ∧
        (chosen = index ∧ served.sequence = slot.sequence ∨
          precedence served < precedence slot))
      (run Server.step {} before).1 ops := by
  have hStart : Reigns bus index slot (run Server.step {} before).1 :=
    ⟨storeInvariant_run before bus, slot, hStored, .refl slot⟩
  refine (along_invariant (fun _ _ h hOp => reigns_step hEndless h hOp) hStart
    hAlone).mono fun server op h ctx hTick => ?_
  exact serves_of_reigns hEndless h.1 h.2.enabled (h.2.startable ctx hTick)

def endlessFrame : Octets :=
  [0x1A, 4, 0, 1, 0, 7, 0, 0, 0x0F, 0, 0, 0, 0, 0, 0xFF, 0xFF]

def endlessSlot : PendingRequest :=
  { twiceSlot with
    frame := endlessFrame, compound := { repeatCount := 0xFFFF } }

private theorem startable_idleTick : Startable endlessSlot idleTick :=
  ⟨rfl, by decide, [1], rfl, by decide⟩

theorem endless_request_starves_idle :
    Along Server.step
      (fun server op => ∀ ctx, op = .tick .gpio ctx → ∃ chosen served,
        (server.admission .gpio).slots.pending chosen = some served ∧
        (server.tick .gpio ctx).2 = some served.frame ∧
        (chosen = 0 ∧ served.sequence = endlessSlot.sequence ∨
          precedence served < precedence endlessSlot))
      (run Server.step {} [.endpoint .gpio
        (.admitWithAck endlessFrame 0 false 0 0)]).1
      [.tick .gpio idleTick] :=
  endless_request_starves
    [.endpoint .gpio (.admitWithAck endlessFrame 0 false 0 0)]
    [.tick .gpio idleTick] .gpio 0 endlessSlot (by decide)
    ⟨rfl, rfl, rfl, rfl⟩
    ⟨⟨by decide, fun _ h => by cases h; exact startable_idleTick,
      fun h => absurd rfl (h idleTick)⟩, trivial⟩

end CppRcp.Mock
