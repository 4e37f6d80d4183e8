import CppRcp.Foundation.Ownership
import CppRcp.Host.Shmem

/-!
# Who has a slot of the channel

The occupied slots are those of the calls that have one and have not returned,
each of one call.  A step of a call writes only its own slot or a free one, so
that the frame of an admitted call is the encoding of its own request until
it is decoded.
-/

namespace CppRcp.Host.Shmem

open CppRcp.Foundation CppRcp.Acf

/-! ## One step of a call -/

namespace FrameSlots

variable {pool : FrameSlots}

def Occupied (pool : FrameSlots) (slot : Nat) : Prop :=
  pool.occupied.get slot = true

private theorem acquire_cases (pool : FrameSlots) (frame : Octets) :
    pool.acquire frame = (pool, none) ∨
      ∃ slot < pool.logicalCapacity, ¬ pool.Occupied slot ∧
        pool.acquire frame =
          ({ pool with
              slots := pool.slots.set slot frame
              occupied := pool.occupied.set slot true }, some slot) := by
  unfold acquire
  split
  · exact .inl rfl
  · next slot hFound =>
      refine .inr ⟨slot, ?_, ?_, rfl⟩
      · exact List.mem_range.mp (List.mem_of_find?_eq_some hFound)
      · simpa [Occupied] using List.find?_some hFound

end FrameSlots

inductive Effect (pool : FrameSlots) (call : Call) : FrameSlots → Stage → Prop
  | keep (stage : Stage) (slot_eq : stage.slot = call.stage.slot)
      (not_admitted : ∀ slot, stage ≠ .admitted slot) :
      Effect pool call pool stage
  | acquire (slot : Nat) (starts : call.stage = .started)
      (free : ¬ pool.Occupied slot) (lt_capacity : slot < pool.logicalCapacity) :
      Effect pool call
        { pool with
          slots := pool.slots.set slot
            (encodeAcfMessage call.request.1 call.request.2)
          occupied := pool.occupied.set slot true }
        (.admitted slot)
  | store (slot : Nat) (frame : Octets) (held : call.stage.slot = some slot) :
      Effect pool call (pool.store slot frame) (.stored slot frame)
  | release (slot : Nat) (result : Except RequestError Message)
      (held : call.stage.slot = some slot) :
      Effect pool call (pool.release slot) (.returned result)

private theorem effect_advanceCall (channel : Channel) (call : Call)
    (answer : Answer) :
    Effect channel.slots call (channel.advanceCall call answer).1
      (channel.advanceCall call answer).2 := by
  unfold Channel.advanceCall
  split
  · next hStage =>
      rcases channel.slots.acquire_cases
        (encodeAcfMessage call.request.1 call.request.2) with
        hFull | ⟨slot, hSlot, hFree, hAcquired⟩
      · simp only [hFull]
        exact .keep _ (by rw [hStage]; rfl) (by simp)
      · simp only [hAcquired]
        exact .acquire slot hStage hFree hSlot
  · next slot hStage =>
      split <;> exact .keep _ (by rw [hStage]; rfl) (by simp)
  · next slot request hStage => exact .keep _ (by rw [hStage]; rfl) (by simp)
  · next slot request hasHandler hStage =>
      split
      · cases answer with
        | throws => exact .keep _ (by rw [hStage]; rfl) (by simp)
        | returns error response =>
            dsimp only
            split <;> exact .keep _ (by rw [hStage]; rfl) (by simp)
      · exact .keep _ (by rw [hStage]; rfl) (by simp)
  · next slot response hStage => exact .store slot _ (by rw [hStage]; rfl)
  · next slot respBytes hStage => exact .keep _ (by rw [hStage]; rfl) (by simp)
  · next slot result hStage => exact .release slot result (by rw [hStage]; rfl)
  · next result hStage => exact .keep _ (by rw [hStage]) (by simp)

/-! ## What the channel keeps -/

def Call.held (call : Call) : Option Nat := call.stage.slot

/-- The frame of an admitted call, and the message decoded from it, are those
of the call's own request. -/
def Call.ReadsOwn (pool : FrameSlots) (call : Call) : Prop :=
  match call.stage with
  | .admitted slot =>
      pool.frameAt slot = encodeAcfMessage call.request.1 call.request.2
  | .decoded _ request | .handling _ request _ =>
      decodeResult (encodeAcfMessage call.request.1 call.request.2) =
        .ok request
  | _ => True

private theorem readsOwn_advanceCall {channel : Channel} {call : Call}
    (answer : Answer) (h : call.ReadsOwn channel.slots) :
    Call.ReadsOwn (channel.advanceCall call answer).1
      { call with stage := (channel.advanceCall call answer).2 } := by
  unfold Channel.advanceCall
  split
  · rcases channel.slots.acquire_cases
      (encodeAcfMessage call.request.1 call.request.2) with
      hFull | ⟨slot, hSlot, -, hAcquired⟩
    · simp only [hFull]
      trivial
    · simp only [hAcquired]
      exact Table.get_set_self (hSlot.trans_le channel.slots.capacity_le)
  · next slot hStage =>
      simp only [Call.ReadsOwn, hStage] at h
      split
      · trivial
      · next request hDecoded =>
          rw [h] at hDecoded
          exact hDecoded
  · next slot request hStage => simpa only [Call.ReadsOwn, hStage] using h
  · split
    · split
      · trivial
      · split <;> trivial
    · trivial
  · trivial
  · trivial
  · trivial
  · trivial

namespace Channel

variable {channel : Channel} {i : Nat} {call : Call}

structure Sound (channel : Channel) : Prop where
  accounted : Accounted channel.slots.Occupied
    (channel.calls.filterMap Call.held)
  lt_capacity : ∀ slot, channel.slots.Occupied slot →
    slot < channel.slots.logicalCapacity
  readsOwn : ∀ (i : Nat) (call : Call), channel.calls[i]? = some call →
    call.ReadsOwn channel.slots

theorem sound_new (streamKey : UInt64) (queueCapacity : Nat) :
    (new streamKey queueCapacity).Sound := by
  have hFree (slot : Nat) :
      ¬ (new streamKey queueCapacity).slots.Occupied slot := by
    have hGet : (Table.replicate maxQueueCapacity false).get slot = false :=
      Table.get_replicate_default slot
    simp [new, FrameSlots.setLogicalCapacity, FrameSlots.Occupied, hGet]
  refine ⟨⟨List.nodup_nil, fun slot => ?_⟩, fun slot hSlot => ?_,
    fun i call hCall => ?_⟩
  · exact iff_of_false (hFree slot) (by simp [new])
  · exact absurd hSlot (hFree slot)
  · simp [new] at hCall

private theorem eq_of_held (h : channel.Sound) {j slot : Nat} {other : Call}
    (hCall : channel.calls[i]? = some call) (hHeld : call.held = some slot)
    (hOther : channel.calls[j]? = some other)
    (hOtherHeld : other.held = some slot) : i = j := by
  have hMem : slot ∈ channel.calls.filterMap Call.held :=
    List.mem_filterMap.mpr ⟨call, List.mem_of_getElem? hCall, hHeld⟩
  obtain ⟨_, -, hUnique⟩ := existsUnique_of_nodup h.accounted.nodup hMem
  rw [hUnique i (by simp [hCall, hHeld]),
    hUnique j (by simp [hOther, hOtherHeld])]

private theorem occupied_of_held (h : channel.Sound) {slot : Nat}
    (hCall : channel.calls[i]? = some call) (hHeld : call.held = some slot) :
    channel.slots.Occupied slot :=
  (h.accounted.live_iff slot).mpr
    (List.mem_filterMap.mpr ⟨call, List.mem_of_getElem? hCall, hHeld⟩)

private theorem occupied_set {pool : FrameSlots} {slot other : Nat}
    {value : Bool} (hSlot : slot < maxQueueCapacity) :
    (pool.occupied.set slot value).get other =
      if other = slot then value else pool.occupied.get other := by
  split
  · next hSame =>
      subst hSame
      exact Table.get_set_self hSlot
  · next hOther => exact Table.get_set_ne (Ne.symm hOther)

private theorem accounted_effect {slots : FrameSlots} {stage : Stage}
    (h : channel.Sound) (hCall : channel.calls[i]? = some call)
    (hEffect : Effect channel.slots call slots stage) :
    Accounted slots.Occupied
      (stage.slot.toList ++ others Call.held channel.calls i) := by
  have hMine := h.accounted.perm (filterMap_perm_others hCall)
  cases hEffect with
  | keep stage hSlot =>
      rw [hSlot]
      exact hMine
  | acquire slot hStarts hFree hSlot =>
      have hHeld : call.held = none := by rw [Call.held, hStarts]; rfl
      rw [hHeld] at hMine
      refine Accounted.allocate hMine hFree fun other => ?_
      rw [FrameSlots.Occupied, FrameSlots.Occupied,
        occupied_set (hSlot.trans_le channel.slots.capacity_le)]
      split <;> simp_all
  | store slot frame hHeld =>
      rw [Call.held, hHeld] at hMine
      exact hMine
  | release slot result hHeld =>
      have hSlot := h.lt_capacity slot (occupied_of_held h hCall hHeld)
      rw [Call.held, hHeld] at hMine
      refine Accounted.free hMine fun other => ?_
      rw [FrameSlots.Occupied, FrameSlots.Occupied, FrameSlots.release,
        occupied_set (hSlot.trans_le channel.slots.capacity_le)]
      split <;> simp_all

private theorem lt_capacity_effect {slots : FrameSlots} {stage : Stage}
    (h : channel.Sound) (hCall : channel.calls[i]? = some call)
    (hEffect : Effect channel.slots call slots stage) (slot : Nat)
    (hSlot : slots.Occupied slot) :
    slot < slots.logicalCapacity := by
  cases hEffect with
  | keep => exact h.lt_capacity slot hSlot
  | acquire own _ _ hOwn =>
      rw [FrameSlots.Occupied,
        occupied_set (hOwn.trans_le channel.slots.capacity_le)] at hSlot
      split at hSlot
      · next hSame => exact hSame ▸ hOwn
      · exact h.lt_capacity slot hSlot
  | store => exact h.lt_capacity slot hSlot
  | release own _ hHeld =>
      have hOwn := h.lt_capacity own (occupied_of_held h hCall hHeld)
      rw [FrameSlots.Occupied, FrameSlots.release,
        occupied_set (hOwn.trans_le channel.slots.capacity_le)] at hSlot
      split at hSlot
      · exact absurd hSlot (by decide)
      · exact h.lt_capacity slot hSlot

private theorem frame_effect {slots : FrameSlots} {stage : Stage} {j slot : Nat}
    {other : Call} (h : channel.Sound)
    (hCall : channel.calls[i]? = some call)
    (hEffect : Effect channel.slots call slots stage) (hNe : i ≠ j)
    (hOther : channel.calls[j]? = some other)
    (hHeld : other.held = some slot) :
    slots.frameAt slot = channel.slots.frameAt slot := by
  have hApart (own : Nat) (hOwn : call.held = some own) : own ≠ slot := by
    rintro rfl
    exact hNe (eq_of_held h hCall hOwn hOther hHeld)
  cases hEffect with
  | keep => rfl
  | acquire own _ hFree =>
      have hOccupied := occupied_of_held h hOther hHeld
      exact Table.get_set_ne fun hSame => hFree (hSame ▸ hOccupied)
  | store own _ hOwn => exact Table.get_set_ne (hApart own hOwn)
  | release own _ hOwn => exact Table.get_set_ne (hApart own hOwn)

private theorem readsOwn_other {slots : FrameSlots} {stage : Stage} {j : Nat}
    {other : Call} (h : channel.Sound)
    (hCall : channel.calls[i]? = some call)
    (hEffect : Effect channel.slots call slots stage) (hNe : i ≠ j)
    (hOther : channel.calls[j]? = some other) : other.ReadsOwn slots := by
  have hReads := h.readsOwn j other hOther
  unfold Call.ReadsOwn at hReads ⊢
  cases hStage : other.stage with
  | admitted slot =>
      simp only [hStage] at hReads ⊢
      rw [frame_effect h hCall hEffect hNe hOther
        (by rw [Call.held, hStage]; rfl)]
      exact hReads
  | decoded => simpa only [hStage] using hReads
  | handling => simpa only [hStage] using hReads
  | started => trivial
  | answered => trivial
  | stored => trivial
  | returning => trivial
  | returned => trivial

private theorem sound_advance (i : Nat) (answer : Answer) (h : channel.Sound) :
    (channel.advance i answer).Sound := by
  unfold advance
  split
  · exact h
  · next call hCall =>
      have hEffect := effect_advanceCall channel call answer
      refine ⟨?_, lt_capacity_effect h hCall hEffect, fun j other hOther => ?_⟩
      · exact (accounted_effect h hCall hEffect).perm
          (filterMap_set_perm_others (f := Call.held) hCall
            { call with
              stage := (channel.advanceCall call answer).2 }).symm
      · by_cases hSame : i = j
        · subst hSame
          obtain ⟨hi, -⟩ := List.getElem?_eq_some_iff.mp hCall
          rw [List.getElem?_set_self hi, Option.some.injEq] at hOther
          subst hOther
          exact readsOwn_advanceCall answer (h.readsOwn i call hCall)
        · rw [List.getElem?_set_ne hSame] at hOther
          exact readsOwn_other h hCall hEffect hSame hOther

private theorem sound_request (client : Nat) (request : Message)
    (h : channel.Sound) :
    (channel.request client request).Sound := by
  unfold Channel.request
  refine ⟨h.accounted.perm (List.Perm.of_eq ?_), h.lt_capacity,
    fun j call hCall => ?_⟩
  · rw [List.filterMap_append]
    cases channel.closed <;> simp [Call.held, Stage.slot]
  · rw [List.getElem?_append] at hCall
    split at hCall
    · exact h.readsOwn j call hCall
    · obtain rfl := List.mem_singleton.mp (List.mem_of_getElem? hCall)
      unfold Call.ReadsOwn
      cases channel.closed <;> trivial

theorem sound_step (channel : Channel) (op : Op) (h : channel.Sound) :
    (channel.step op).1.Sound := by
  cases op with
  | request client request => exact sound_request client request h
  | advance i answer => exact sound_advance i answer h
  | setHandler => exact ⟨h.accounted, h.lt_capacity, h.readsOwn⟩
  | close => exact ⟨h.accounted, h.lt_capacity, h.readsOwn⟩

end Channel

/-! ## How many slots are occupied -/

def Call.Returned (call : Call) : Prop :=
  ∃ result, call.stage = .returned result

instance (call : Call) : Decidable call.Returned :=
  match h : call.stage with
  | .returned result => isTrue ⟨result, h⟩
  | .started | .admitted _ | .decoded _ _ | .handling _ _ _ | .answered _ _
  | .stored _ _ | .returning _ _ =>
      isFalse fun ⟨_, hReturned⟩ => by cases h.symm.trans hReturned

namespace Channel

variable {channel : Channel}

private theorem occupiedCount_eq (h : channel.Sound) :
    channel.slots.occupiedCount =
      (channel.calls.filterMap Call.held).length := by
  have hPerm : ((List.range channel.slots.logicalCapacity).filter
      fun slot => channel.slots.occupied.get slot).Perm
      (channel.calls.filterMap Call.held) := by
    refine (List.perm_ext_iff_of_nodup (List.nodup_range.filter _)
      h.accounted.nodup).mpr fun slot => ?_
    rw [List.mem_filter, List.mem_range, ← h.accounted.live_iff slot]
    exact ⟨fun hBoth => hBoth.2, fun hSlot => ⟨h.lt_capacity slot hSlot, hSlot⟩⟩
  rw [FrameSlots.occupiedCount, List.countP_eq_length_filter]
  exact hPerm.length_eq

private theorem occupiedCount_le (channel : Channel) :
    channel.slots.occupiedCount ≤ channel.slots.logicalCapacity :=
  List.countP_le_length.trans_eq List.length_range

private theorem occupiedCount_eq_zero (h : channel.Sound)
    (hReturned : ∀ call ∈ channel.calls, call.Returned) :
    channel.slots.occupiedCount = 0 := by
  rw [occupiedCount_eq h, List.length_eq_zero_iff]
  refine List.filterMap_eq_nil_iff.mpr fun call hMem => ?_
  obtain ⟨result, hStage⟩ := hReturned call hMem
  rw [Call.held, hStage]
  rfl

end Channel

/-! ## What a call returns -/

/-- What a call returns once its handler has been copied: the error, or the
response after one encoding and decoding; without a handler the request is
acknowledged. -/
def outcome (request : Message) (hasHandler : Bool) (answer : Answer) :
    Except RequestError Message :=
  if hasHandler then
    match answer with
    | .throws => .error .exception
    | .returns error response =>
        if error.isError then .error (.handler error)
        else decodeResult (encodeAcfMessage response.1 response.2)
  else
    decodeResult
      (encodeAcfMessage (makeResponse request.1 .acknowledge) [])

def Call.Yields (result : Except RequestError Message) (call : Call) : Prop :=
  match call.stage with
  | .answered _ response =>
      decodeResult (encodeAcfMessage response.1 response.2) = result
  | .stored _ respBytes => decodeResult respBytes = result
  | .returning _ known | .returned known => known = result
  | _ => False

def Advances (old new : Call) : Prop :=
  new = old ∨ ∃ (channel : Channel) (answer : Answer),
    new = { old with stage := (channel.advanceCall old answer).2 }

private theorem yields_of_advances {result : Except RequestError Message}
    (old new : Call) (h : Advances old new) (hYields : old.Yields result) :
    new.Yields result := by
  rcases h with rfl | ⟨channel, answer, rfl⟩
  · exact hYields
  · unfold Call.Yields at hYields
    unfold Channel.advanceCall
    split at hYields
    all_goals first
      | exact hYields.elim
      | (rename_i hStage; simpa only [Call.Yields, hStage] using hYields)

namespace Channel

variable {channel : Channel} {i : Nat} {call : Call}

private theorem calls_advance (hCall : channel.calls[i]? = some call)
    (answer : Answer) :
    (channel.advance i answer).slots =
        (channel.advanceCall call answer).1 ∧
      (channel.advance i answer).calls = channel.calls.set i
        { call with stage := (channel.advanceCall call answer).2 } := by
  unfold advance
  rw [hCall]
  exact ⟨rfl, rfl⟩

theorem goes_step (channel : Channel) (op : Op) :
    Goes Advances channel.calls (channel.step op).1.calls := by
  have hRefl (call : Call) : Advances call call := .inl rfl
  cases op with
  | request client request => exact goes_append hRefl _ _
  | advance i answer =>
      change Goes Advances channel.calls (channel.advance i answer).calls
      cases hCall : channel.calls[i]? with
      | none =>
          simp only [advance, hCall]
          exact goes_self hRefl _
      | some call =>
          rw [(calls_advance hCall answer).2]
          exact goes_set hRefl hCall (.inr ⟨channel, answer, rfl⟩)
  | setHandler => exact goes_self hRefl _
  | close => exact goes_self hRefl _

private theorem yields_of_handling {slot : Nat} {request : Message}
    {hasHandler : Bool} (answer : Answer)
    (hCall : channel.calls[i]? = some call)
    (hStage : call.stage = .handling slot request hasHandler) :
    CallIs (channel.advance i answer).calls i
      (Call.Yields (outcome request hasHandler answer)) := by
  rw [(calls_advance hCall answer).2]
  refine callIs_set hCall ?_
  simp only [advanceCall, hStage]
  unfold Call.Yields outcome
  cases hasHandler with
  | false => rfl
  | true =>
      cases answer with
      | throws => rfl
      | returns error response =>
          cases hError : error.isError <;> simp [hError]

private theorem slots_of_refused {result : Except RequestError Message}
    (answer : Answer) (hCall : channel.calls[i]? = some call)
    (hStage : call.stage = .started)
    (hRefused : (channel.advanceCall call answer).2 = .returned result) :
    result = .error .busy ∧ (channel.advance i answer).slots = channel.slots := by
  rw [(calls_advance hCall answer).1]
  simp only [advanceCall, hStage] at hRefused ⊢
  rcases channel.slots.acquire_cases
    (encodeAcfMessage call.request.1 call.request.2) with
    hFull | ⟨slot, -, -, hAcquired⟩
  · simp only [hFull, Stage.returned.injEq] at hRefused ⊢
    exact ⟨hRefused.symm, trivial⟩
  · simp [hAcquired] at hRefused

end Channel

/-! ## Every run -/

/-- Whatever the calls on the channel and the order of their steps: the slots
in use are within the capacity and are those of calls in progress, a handler
is given its own call's request, the call returns what that handler answered,
and a refused call leaves the slots alone. -/
theorem requests_isolated (streamKey : UInt64) (queueCapacity : Nat)
    (ops : List Op) :
    let channel :=
      (run Channel.step (Channel.new streamKey queueCapacity) ops).1
    (channel.slots.occupiedCount ≤ channel.slots.logicalCapacity ∧
      ∀ slot, channel.slots.Occupied slot →
        slot < channel.slots.logicalCapacity) ∧
      ((∀ call ∈ channel.calls, call.Returned) →
        channel.slots.occupiedCount = 0) ∧
      (∀ (i : Nat) (call : Call) (slot : Nat) (request : Message)
        (hasHandler : Bool), channel.calls[i]? = some call →
          call.stage = .handling slot request hasHandler →
            decodeResult
                (encodeAcfMessage call.request.1 call.request.2) =
              .ok request) ∧
      (∀ (i : Nat) (call : Call) (slot : Nat) (request : Message)
        (hasHandler : Bool) (answer : Answer) (later : List Op)
        (ended : Call) (result : Except RequestError Message),
          channel.calls[i]? = some call →
            call.stage = .handling slot request hasHandler →
              (run Channel.step (channel.advance i answer) later).1.calls[i]? =
                  some ended →
                ended.stage = .returned result →
                  result = outcome request hasHandler answer) ∧
      ∀ (i : Nat) (call : Call) (answer : Answer)
        (result : Except RequestError Message),
          channel.calls[i]? = some call → call.stage = .started →
            (channel.advanceCall call answer).2 = .returned result →
              result = .error .busy ∧
                (channel.advance i answer).slots = channel.slots := by
  intro channel
  have hSound : channel.Sound :=
    invariant_run Channel.sound_step ops
      (Channel.sound_new streamKey queueCapacity)
  refine ⟨⟨Channel.occupiedCount_le channel, hSound.lt_capacity⟩,
    Channel.occupiedCount_eq_zero hSound,
    fun i call slot request hasHandler hCall hStage => ?_,
    fun i call slot request hasHandler answer later ended result hCall hStage
      hEnded hReturned => ?_,
    fun i call answer result hCall hStage hRefused =>
      Channel.slots_of_refused answer hCall hStage hRefused⟩
  · simpa only [Call.ReadsOwn, hStage] using hSound.readsOwn i call hCall
  · have hYields := (callIs_run Channel.goes_step yields_of_advances later
      (Channel.yields_of_handling answer hCall hStage)).unique hEnded
    simpa only [Call.Yields, hReturned] using hYields

/-- With one slot, a request that is acknowledged and one that is refused
while it is in progress. -/
theorem requests_isolated_refused :
    let request : Message := ({ byteBusId := 5 }, [7])
    let received : Message :=
      ({ request.1 with acfMsgType := acfMsgTypeAbb, acfMsgLength := 3 }, [7])
    let acknowledged : Message :=
      ({ makeResponse received.1 .acknowledge with acfMsgLength := 2 }, [])
    let admitted : List Op :=
      [.request 0 request, .advance 0 .throws, .advance 0 .throws,
        .advance 0 .throws, .request 1 request]
    let channel := (run Channel.step (Channel.new 9 1) admitted).1
    let ends : List Op :=
      .advance 1 .throws :: List.replicate 4 (.advance 0 .throws)
    channel.slots.occupiedCount ≤ channel.slots.logicalCapacity ∧
      (run Channel.step (Channel.new 9 1)
        (admitted ++ ends)).1.slots.occupiedCount = 0 ∧
      decodeResult (encodeAcfMessage request.1 request.2) = .ok received ∧
      .ok acknowledged = outcome received false .throws ∧
      (channel.advance 1 .throws).slots = channel.slots := by
  intro request received acknowledged admitted channel ends
  obtain ⟨⟨hCount, -⟩, -, hReads, hOutcome, hRefused⟩ :=
    requests_isolated 9 1 admitted
  obtain ⟨-, hNone, -⟩ := requests_isolated 9 1 (admitted ++ ends)
  refine ⟨hCount, hNone (by decide), ?_, ?_, ?_⟩
  · exact hReads 0 ⟨0, request, .handling 0 received false⟩ 0 received false
      (by decide) rfl
  · exact hOutcome 0 ⟨0, request, .handling 0 received false⟩ 0 received false
      .throws (List.replicate 3 (.advance 0 .throws))
      ⟨0, request, .returned (.ok acknowledged)⟩ (.ok acknowledged)
      (by decide) rfl (by decide) rfl
  · exact (hRefused 1 ⟨1, request, .started⟩ .throws (.error .busy)
      (by decide) rfl (by decide)).2

end CppRcp.Host.Shmem
