import CppRcp.Admission.Selection

/-!
# Chained requests whose predecessor counts as done

Once its predecessor is recorded as done at time 0, a chained request waits for
its delay and for an idle endpoint alone.  No operation takes that back, so of
two such requests on one endpoint the earlier is served first, unless it asks
for the longer delay.
-/

namespace CppRcp.Server

open CppRcp.Foundation CppRcp.Acf CppRcp.Request

structure Loaded (delay : UInt16) (slot : PendingRequest) : Prop where
  category : slot.category = .chained
  requestType : slot.requestType = some .chained
  chainExecDelay : slot.chainExecDelay = delay
  ungated : slot.hasPresentationGate = false
  armedAt : slot.armedAt = 0

structure Ready (delay : UInt16) (slot : PendingRequest) : Prop
    extends Loaded delay slot where
  predecessorDone : slot.predecessorDone = true

/-! ## When it is due -/

namespace Ready

variable {delay : UInt16} {slot : PendingRequest} (h : Ready delay slot)
include h

theorem isSafety : Endpoint.isSafety slot = false := by
  rw [Endpoint.isSafety, h.requestType]
  rfl

theorem armIfStartable (ctx : Endpoint.TickContext) :
    Endpoint.armIfStartable slot ctx = ({ slot with armed := true }, true) := by
  unfold Endpoint.armIfStartable
  split
  · next hArmed => rw [← hArmed]
  · simp [Endpoint.startConditionHolds, h.category, h.predecessorDone]

theorem isDue (epEnable : Bool) (ctx : Endpoint.TickContext) :
    (Endpoint.isDue epEnable slot ctx).2 =
      (epEnable && ctx.endpointIdle &&
        decide (delay.toNat ≤ ctx.now.toNat)) := by
  unfold Endpoint.isDue
  rw [h.armIfStartable, h.isSafety, h.ungated]
  simp only [Endpoint.kindIsGatedByEpEnable, Endpoint.auxiliaryConditionMet,
    Endpoint.delayExpired, h.category, chainedExecDelayElapsed,
    h.chainExecDelay, h.armedAt]
  cases epEnable <;> cases ctx.endpointIdle <;> simp

end Ready

theorem selectDue_ne_of_ready {ep : Endpoint} {ctx : Endpoint.TickContext}
    {i j : Nat} {first second : PendingRequest} {shorter longer : UInt16}
    (hFirst : ep.slots.pending i = some first)
    (hSecond : ep.slots.pending j = some second)
    (hFirstReady : Ready shorter first) (hSecondReady : Ready longer second)
    (hDelay : shorter ≤ longer) (hOrder : first.sequence < second.sequence) :
    (ep.selectDue ctx).2 ≠ some j := by
  intro hSelected
  obtain ⟨chosen, hChosen, hDue, hLeast⟩ :=
    Endpoint.selectDue_eq_some hSelected
  obtain rfl : chosen = second := Option.some_inj.mp (hChosen.symm.trans hSecond)
  have hFirstDue : (Endpoint.isDue ep.epEnable first ctx).2 = true := by
    rw [hSecondReady.isDue] at hDue
    rw [hFirstReady.isDue]
    simp only [Bool.and_eq_true, decide_eq_true_eq] at hDue ⊢
    exact ⟨hDue.1, (UInt16.le_iff_toNat_le.mp hDelay).trans hDue.2⟩
  refine absurd (hLeast i first hFirst hFirstDue) (not_le.mpr ?_)
  rw [Endpoint.serviceKey_lt_iff, Endpoint.servedBefore, hFirstReady.category,
    hSecondReady.category]
  simp [hOrder]

/-! ## What the operations keep -/

/-- Being ready is not lost from `slot` to `slot'`. -/
def StaysReady (slot slot' : PendingRequest) : Prop :=
  ∀ delay, Ready delay slot → Ready delay slot'

/-- What is stored afterwards is new or was stored before, and then as ready as
it is now. -/
structure KeepsReady (ep ep' : Endpoint) : Prop where
  nextSequence : ep.nextSequence ≤ ep'.nextSequence
  pending : ∀ i slot', ep'.slots.pending i = some slot' →
    ep.nextSequence ≤ slot'.sequence ∨
      ∃ slot, ep.slots.pending i = some slot ∧
        slot'.sequence = slot.sequence ∧ StaysReady slot slot'

theorem KeepsReady.refl (ep : Endpoint) : KeepsReady ep ep :=
  ⟨le_rfl, fun _ slot h => .inr ⟨slot, h, rfl, fun _ => id⟩⟩

theorem KeepsReady.trans {a b c : Endpoint} (hab : KeepsReady a b)
    (hbc : KeepsReady b c) : KeepsReady a c := by
  refine ⟨hab.nextSequence.trans hbc.nextSequence, ?_⟩
  intro i slot'' hPending
  rcases hbc.pending i slot'' hPending with
    hNew | ⟨slot', hSlot', hSequence', hReady'⟩
  · exact .inl (hab.nextSequence.trans hNew)
  · rcases hab.pending i slot' hSlot' with
      hNew | ⟨slot, hSlot, hSequence, hReady⟩
    · exact .inl (hNew.trans hSequence'.ge)
    · exact .inr ⟨slot, hSlot, hSequence'.trans hSequence, fun delay h =>
        hReady' delay (hReady delay h)⟩

private theorem keepsReady_of_slots {ep ep' : Endpoint}
    (hSlots : ep'.slots = ep.slots)
    (hSequence : ep'.nextSequence = ep.nextSequence) : KeepsReady ep ep' := by
  refine ⟨hSequence.ge, fun i found hFound => ?_⟩
  rw [hSlots] at hFound
  exact (KeepsReady.refl ep).pending i found hFound

private theorem keepsReady_putSlot {ep : Endpoint} {index : Nat}
    {slot slot' : PendingRequest} (hSlot : ep.slots.pending index = some slot)
    (hSequence : slot'.sequence = slot.sequence)
    (hReady : StaysReady slot slot') : KeepsReady ep (ep.putSlot index slot') := by
  refine ⟨le_rfl, ?_⟩
  intro i found hFound
  obtain ⟨rfl, rfl, -⟩ | ⟨-, hOld⟩ := pending_set_cases hFound
  · exact .inr ⟨slot, hSlot, hSequence, hReady⟩
  · exact (KeepsReady.refl ep).pending i found hOld

private theorem keepsReady_releaseSlot (ep : Endpoint) (index : Nat) :
    KeepsReady ep (ep.releaseSlot index) :=
  ⟨le_rfl, fun i found hFound =>
    (KeepsReady.refl ep).pending i found (pending_of_set_default hFound)⟩

private theorem keepsReady_releaseWhere (ep : Endpoint)
    (p : PendingRequest → Bool) :
    KeepsReady ep (ep.releaseWhere p) := by
  refine ⟨le_rfl, fun i found hFound => ?_⟩
  simp only [Endpoint.releaseWhere, Slots.pending_releaseWhere,
    Option.filter_eq_some_iff] at hFound
  exact (KeepsReady.refl ep).pending i found hFound.1

private theorem keepsReady_map {ep ep' : Endpoint}
    (f : PendingRequest → PendingRequest)
    (hSlots : ep'.slots = ep.slots.map f)
    (hNext : ep'.nextSequence = ep.nextSequence)
    (hf : ∀ slot, (f slot).inUse = true → slot.inUse = true ∧
      (f slot).sequence = slot.sequence ∧ StaysReady slot (f slot)) :
    KeepsReady ep ep' := by
  refine ⟨hNext.ge, fun i slot' hPending => ?_⟩
  rw [hSlots, Slots.pending_eq_some] at hPending
  obtain ⟨hGet, hUse⟩ := hPending
  simp only [Table.map, List.getElem?_map, Option.map_eq_some_iff] at hGet
  obtain ⟨slot, hSlot, rfl⟩ := hGet
  obtain ⟨hUsed, hSequence, hReady⟩ := hf slot hUse
  exact .inr ⟨slot, Slots.pending_eq_some.mpr ⟨hSlot, hUsed⟩, hSequence,
    hReady⟩

private theorem staysReady_isDue (epEnable : Bool) (slot : PendingRequest)
    (ctx : Endpoint.TickContext) :
    StaysReady slot (Endpoint.isDue epEnable slot ctx).1 := by
  intro delay h
  have hArmed : Ready delay { slot with armed := true } :=
    ⟨⟨h.category, h.requestType, h.chainExecDelay, h.ungated, h.armedAt⟩,
      h.predecessorDone⟩
  unfold Endpoint.isDue
  rw [h.armIfStartable]
  dsimp only
  split
  · exact h
  · split
    · exact h
    · split
      · exact h
      · split
        · exact hArmed
        · exact hArmed

private theorem keepsReady_selectDue (ep : Endpoint)
    (ctx : Endpoint.TickContext) :
    KeepsReady ep (ep.selectDue ctx).1 := by
  refine keepsReady_map _ rfl rfl fun slot hUse => ?_
  by_cases hSlot : slot.inUse = true
  · rw [if_pos hSlot]
    exact ⟨hSlot, (isDue_same ep.epEnable slot ctx).2.sequence,
      staysReady_isDue ep.epEnable slot ctx⟩
  · rw [if_neg hSlot] at hUse
    exact absurd hUse hSlot

private theorem staysReady_completeSlot {slot again : PendingRequest}
    {ctx : Endpoint.TickContext}
    (hAgain : (Endpoint.completeSlot slot ctx).1 = some again) :
    StaysReady slot again := by
  intro delay h
  rw [Endpoint.completeSlot, h.category] at hAgain
  cases hAgain

private theorem keepsReady_complete (ep : Endpoint) (index : Nat)
    (ctx : Endpoint.TickContext) :
    KeepsReady ep (ep.complete index ctx).1 := by
  unfold Endpoint.complete
  cases hSlot : ep.slots.pending index with
  | none => exact .refl ep
  | some slot =>
      dsimp only
      rcases hComplete : Endpoint.completeSlot slot ctx with
        ⟨_ | again, states⟩
      · exact keepsReady_releaseSlot ep index
      · have hAgain : (Endpoint.completeSlot slot ctx).1 = some again := by
          rw [hComplete]
        exact keepsReady_putSlot hSlot
          (completeSlot_same ctx hAgain).sequence
          (staysReady_completeSlot hAgain)

private theorem keepsReady_notifyTrigger (ep : Endpoint)
    (sourceEp signalNr : UInt8) :
    KeepsReady ep (ep.notifyTrigger sourceEp signalNr).1 := by
  refine keepsReady_map _ rfl rfl fun slot hUse => ?_
  split at hUse
  · next hObserves =>
      rw [if_pos hObserves]
      refine ⟨hUse, rfl, ?_⟩
      intro delay h
      simp [h.category] at hObserves
  · next hObserves =>
      rw [if_neg hObserves]
      exact ⟨hUse, rfl, fun _ => id⟩

private theorem keepsReady_chainPredecessorDone (ep : Endpoint) (index : Nat) :
    KeepsReady ep (ep.chainPredecessorDone index 0) := by
  unfold Endpoint.chainPredecessorDone
  cases hSlot : ep.slots.pending index with
  | none => exact .refl ep
  | some slot =>
      dsimp only
      split
      · exact keepsReady_putSlot hSlot rfl fun delay h =>
          ⟨⟨h.category, h.requestType, h.chainExecDelay, h.ungated, rfl⟩, rfl⟩
      · exact .refl ep

private theorem keepsReady_tagChain (ep : Endpoint)
    (index group position : Nat) :
    KeepsReady ep (ep.tagChain index group position) := by
  unfold Endpoint.tagChain
  cases hSlot : ep.slots.pending index with
  | none => exact .refl ep
  | some slot =>
      exact keepsReady_putSlot hSlot rfl fun delay h =>
        ⟨⟨h.category, h.requestType, h.chainExecDelay, h.ungated, h.armedAt⟩,
          h.predecessorDone⟩

theorem AdmitEffect.keepsReady {ep ep' : Endpoint} {frame : Octets}
    {tv : Bool} {result : AdmitResult}
    (h : AdmitEffect ep frame tv ep' result) : KeepsReady ep ep' := by
  cases h with
  | kept hStore hOutcome =>
      exact keepsReady_of_slots hStore.slots hStore.nextSequence
  | discarded hFree hOutcome =>
      refine ⟨Nat.le_succ _, fun i found hFound => ?_⟩
      exact (KeepsReady.refl ep).pending i found
        (pending_of_set_default hFound)
  | stored hFree hSlot hOutcome =>
      refine ⟨Nat.le_succ _, fun i found hFound => ?_⟩
      obtain ⟨rfl, rfl, -⟩ | ⟨-, hOld⟩ := pending_set_cases hFound
      · exact .inl hSlot.sequence.ge
      · exact (KeepsReady.refl ep).pending i found hOld

def SignalsAtStart : EndpointOp → Prop
  | .chainPredecessorDone _ now => now = 0
  | _ => True

theorem keepsReady_step (ep : Endpoint) {op : EndpointOp}
    (h : SignalsAtStart op) : KeepsReady ep (ep.step op).1 := by
  cases op with
  | setEnable enable => exact keepsReady_of_slots rfl rfl
  | setAdmissionSuspended suspended => exact keepsReady_of_slots rfl rfl
  | submit frame =>
      have hStore := submit_sameStore ep frame
      exact keepsReady_of_slots hStore.slots hStore.nextSequence
  | drainOne =>
      refine keepsReady_of_slots ?_ (inherits_drainOne ep).nextSequence
      simp only [Endpoint.step, Endpoint.drainOne]
      split
      · rfl
      · split <;> rfl
  | admitWithAck frame now tv ts gptp =>
      exact (admitWithAck_effect ep frame now tv ts gptp).keepsReady
  | selectDue ctx => exact keepsReady_selectDue ep ctx
  | complete index ctx => exact keepsReady_complete ep index ctx
  | notifyTrigger sourceEp signalNr =>
      exact keepsReady_notifyTrigger ep sourceEp signalNr
  | chainPredecessorDone index now =>
      obtain rfl : now = 0 := h
      exact keepsReady_chainPredecessorDone ep index
  | tagChain index group position =>
      exact keepsReady_tagChain ep index group position
  | cancelAll => exact keepsReady_releaseWhere ep _
  | cancelSingle num state =>
      simp only [Endpoint.step, Endpoint.cancelSingle]
      cases ep.findTransaction num with
      | none => exact .refl ep
      | some index =>
          dsimp only
          split
          · exact keepsReady_releaseSlot ep index
          · exact .refl ep
  | cancelNonSafestate => exact keepsReady_releaseWhere ep _
  | watchdogPurge => exact keepsReady_releaseWhere ep _
  | cancelChainFrom group position =>
      simp only [Endpoint.step, Endpoint.cancelChainFrom]
      split
      · exact .refl ep
      · exact keepsReady_releaseWhere ep _

/-! ## What a message stores -/

/-- What an endpoint is made to do with a message: admit it, or what goes for a
standard request, or cancel. -/
def ServesMessage (message : Octets) : EndpointOp → Prop
  | .admitWithAck frame now tv _ _ => now = 0 ∧ tv = false ∧
      (frame = message ∨ Endpoint.peekRequestType frame = none)
  | .cancelAll | .cancelNonSafestate => True
  | .cancelSingle _ _ | .cancelChainFrom _ _ => True
  | _ => False

theorem ServesMessage.signalsAtStart {message : Octets} {op : EndpointOp}
    (h : ServesMessage message op) : SignalsAtStart op := by
  cases op with
  | chainPredecessorDone index now => exact h.elim
  | _ => trivial

def LoadedFrom (message : Octets) (slot : PendingRequest) : Prop :=
  ∃ type, Endpoint.peekRequestType message = some type ∧
    (type = .chained → ∃ request, decodeChainedMember message = .ok request ∧
      Loaded request.chainExecDelay slot)

structure Receives (message : Octets) (ep ep' : Endpoint) : Prop where
  nextSequence : ep.nextSequence ≤ ep'.nextSequence
  pending : ∀ i found, ep'.slots.pending i = some found →
    ep.slots.pending i = some found ∨
      (ep.nextSequence ≤ found.sequence ∧ LoadedFrom message found)

namespace Receives

variable {message : Octets}

theorem refl (ep : Endpoint) : Receives message ep ep :=
  ⟨le_rfl, fun _ _ h => .inl h⟩

theorem trans {a b c : Endpoint} (hab : Receives message a b)
    (hbc : Receives message b c) : Receives message a c := by
  refine ⟨hab.nextSequence.trans hbc.nextSequence, ?_⟩
  intro i found hFound
  rcases hbc.pending i found hFound with hOld | ⟨hNew, hLoaded⟩
  · exact hab.pending i found hOld
  · exact .inr ⟨hab.nextSequence.trans hNew, hLoaded⟩

private theorem of_sameStore {ep ep' : Endpoint} (h : SameStore ep ep') :
    Receives message ep ep' := by
  refine ⟨h.nextSequence.ge, fun i found hFound => .inl ?_⟩
  rwa [h.slots] at hFound

theorem releaseWhere (ep : Endpoint) (p : PendingRequest → Bool) :
    Receives message ep (ep.releaseWhere p) := by
  refine ⟨le_rfl, fun i found hFound => .inl ?_⟩
  simp only [Endpoint.releaseWhere, Slots.pending_releaseWhere,
    Option.filter_eq_some_iff] at hFound
  exact hFound.1

end Receives

private theorem decodeInto_loaded {frame : Octets} {type : RequestTypeOpcode}
    {slot slot' : PendingRequest} (hChained : type = .chained)
    (hCategory : slot.category = categoryOf (some type))
    (hType : slot.requestType = some type)
    (h : Endpoint.decodeInto frame (categoryOf (some type)) slot =
      .ok slot') :
    ∃ request, decodeChainedMember frame = .ok request ∧
      Loaded request.chainExecDelay
        { slot' with hasPresentationGate := false, armedAt := 0 } := by
  subst hChained
  rw [categoryOf, Endpoint.decodeInto] at h
  cases hDecode : decodeChainedMember frame with
  | error e => simp [hDecode] at h
  | ok request =>
      rw [hDecode] at h
      cases h
      exact ⟨request, rfl, hCategory, hType, rfl, rfl, rfl⟩

private theorem receives_admitConditional (ep : Endpoint) {message : Octets}
    {type : RequestTypeOpcode} (gate : Nat)
    (hType : Endpoint.peekRequestType message = some type) :
    Receives message ep
      (ep.admitConditional message 0 false gate type).1 := by
  unfold Endpoint.admitConditional
  cases hClaim : ep.claimSlot with
  | none => exact .refl ep
  | some claim =>
      obtain ⟨index, slot, claimed⟩ := claim
      obtain ⟨hFree, rfl, rfl⟩ := claimSlot_eq_some hClaim
      dsimp only
      cases hDecode : Endpoint.decodeInto message (categoryOf (some type))
          { inUse := true, sequence := ep.nextSequence,
            category := categoryOf (some type), requestType := some type } with
      | error e =>
          rw [releaseSlot_overwritten]
          exact ⟨Nat.le_succ _, fun i found hFound =>
            .inl (pending_of_set_default hFound)⟩
      | ok slot =>
          dsimp only
          rw [putSlot_overwritten]
          refine ⟨Nat.le_succ _, fun i found hFound => ?_⟩
          rcases pending_set_cases hFound with ⟨rfl, rfl, -⟩ | ⟨-, hOld⟩
          · refine .inr ⟨(decodeInto_ok hDecode).2.1.ge, type, hType, ?_⟩
            intro hChained
            obtain ⟨request, hRequest, hLoaded⟩ :=
              decodeInto_loaded hChained rfl rfl hDecode
            exact ⟨request, hRequest, hLoaded.category, hLoaded.requestType,
              hLoaded.chainExecDelay, rfl, rfl⟩
          · exact .inl hOld

private theorem receives_admitWithAck (ep : Endpoint) (message : Octets)
    (ts : UInt32) (gptp : Nat) :
    Receives message ep (ep.admitWithAck message 0 false ts gptp).1 := by
  unfold Endpoint.admitWithAck
  dsimp only
  split
  · exact .refl ep
  · split
    · exact .refl ep
    · cases hType : Endpoint.peekRequestType message with
      | none =>
          have hStore := submit_sameStore ep message
          simp only [Bool.false_eq_true, if_false]
          rcases hSubmit : ep.submit message with ⟨ep', _ | _, ack⟩
          · rw [hSubmit] at hStore
            exact .of_sameStore hStore
          · rw [hSubmit] at hStore
            exact .of_sameStore hStore
      | some type =>
          simp only [Bool.false_eq_true, if_false]
          split
          · exact .refl ep
          · exact receives_admitConditional ep 0 hType

private theorem receives_step {message : Octets} (ep : Endpoint)
    {op : EndpointOp}
    (h : ServesMessage message op) : Receives message ep (ep.step op).1 := by
  cases op with
  | admitWithAck frame now tv ts gptp =>
      obtain ⟨rfl, rfl, rfl | hStandard⟩ := h
      · exact receives_admitWithAck ep frame ts gptp
      · exact .of_sameStore (admitWithAck_standard ep 0 ts gptp hStandard)
  | cancelAll => exact .releaseWhere ep _
  | cancelSingle num state =>
      simp only [Endpoint.step, Endpoint.cancelSingle]
      cases ep.findTransaction num with
      | none => exact .refl ep
      | some index =>
          dsimp only
          split
          · exact ⟨le_rfl, fun i found hFound =>
              .inl (pending_of_set_default hFound)⟩
          · exact .refl ep
  | cancelNonSafestate => exact .releaseWhere ep _
  | cancelChainFrom group position =>
      simp only [Endpoint.step, Endpoint.cancelChainFrom]
      split
      · exact .refl ep
      · exact .releaseWhere ep _
  | _ => exact h.elim

theorem receives_of_steps {message : Octets} {ep ep' : Endpoint}
    (h : Steps Endpoint.step (ServesMessage message) ep ep') :
    Receives message ep ep' := by
  refine Steps.relates .refl (fun _ _ _ => .trans) ?_ h
  exact fun ep op hOp => receives_step ep hOp

end CppRcp.Server
