import CppRcp.Properties.ClearedChains

/-!
# When a chained request waits for the member before it

A chained request is to wait until the member before it in its frame has been
executed.  The member loop records that member as done even if it was only
stored, so the request waits for it in one case alone: if that member is itself
chained, on the same endpoint, and asks for no longer a delay.
-/

namespace CppRcp.Mock

open CppRcp.Foundation CppRcp.Acf CppRcp.Request CppRcp.E2e CppRcp.Regmap
open CppRcp.Server

/-- The turn of a member of the frame makes some endpoint store one request
more. -/
def FrameRun.StoredBy (r : FrameRun) (position : Nat) : Bool :=
  allBuses.any fun bus =>
    decide (((r.loop position).server.admission bus).pendingCount <
      ((r.loop (position + 1)).server.admission bus).pendingCount)

/-- Where a chained member is stored right after another member, that one is
chained, goes to the same endpoint and asks for no longer a delay. -/
def InOrder (r : FrameRun) : Prop :=
  ∀ position first second request, r.members[position]? = some first →
    r.members[position + 1]? = some second →
      decodeChainedMember second = .ok request →
        r.StoredBy position = true → r.StoredBy (position + 1) = true →
          busOf first = busOf second ∧
            ∃ earlier, decodeChainedMember first = .ok earlier ∧
              earlier.chainExecDelay ≤ request.chainExecDelay

/-- The request was stored for a member of a frame. -/
def Tracked.IsMember (t : Tracked) (frame position : Nat) (bus : Bus)
    (found : PendingRequest) : Prop :=
  ∃ origin, t.origins bus found.sequence = some origin ∧
    origin.frame = frame ∧ origin.member = position

/-- Whatever the context, no endpoint serves a chained request of the frame
while the request of the member before it is stored. -/
def KeepsOrder (r : FrameRun) (frame : Nat) (t : Tracked) : Prop :=
  ∀ bus ctx index found position member request,
    ((t.server.admission bus).selectDue ctx).2 = some index →
      t.Stored bus index found →
        r.members[position + 1]? = some member →
          decodeChainedMember member = .ok request →
            t.IsMember frame (position + 1) bus found →
              ∀ other i earlier, t.Stored other i earlier →
                ¬t.IsMember frame position other earlier

/-! ## What is known of a request of the frame -/

structure Entered (r : FrameRun) (position : Nat) (bus : Bus)
    (found : PendingRequest) : Prop where
  stored : r.StoredBy position = true
  target : ∀ member, r.members[position]? = some member →
    busOf member = some bus
  sequence : found.sequence =
    ((r.loop position).server.admission bus).nextSequence
  next : found.sequence <
    ((r.loop (position + 1)).server.admission bus).nextSequence
  ready : ∀ member request, r.members[position]? = some member →
    decodeChainedMember member = .ok request →
      Ready request.chainExecDelay found

theorem Entered.stays {r : FrameRun} {position : Nat} {bus : Bus}
    {old found : PendingRequest} (h : Entered r position bus old)
    (hSequence : found.sequence = old.sequence)
    (hReady : StaysReady old found) : Entered r position bus found where
  stored := h.stored
  target := h.target
  sequence := hSequence.trans h.sequence
  next := hSequence ▸ h.next
  ready := fun member request hMember hDecode =>
    hReady _ (h.ready member request hMember hDecode)

def OwnEntered (r : FrameRun) (frame : Nat) (t : Tracked) : Prop :=
  ∀ bus i found origin, t.Stored bus i found →
    t.origins bus found.sequence = some origin → origin.frame = frame →
      Entered r origin.member bus found

theorem OwnEntered.grow {r : FrameRun} {frame : Nat} {New : Origin → Prop}
    {t t' : Tracked} (h : OwnEntered r frame t) (hRecorded : t.Recorded)
    (hGrows : Tracked.Grows SignalsAtStart New t t')
    (hNew : ∀ bus i found origin, t'.Stored bus i found →
      (t.server.admission bus).nextSequence ≤ found.sequence →
        t'.origins bus found.sequence = some origin → New origin →
          origin.frame = frame → Entered r origin.member bus found) :
    OwnEntered r frame t' := by
  intro bus i found origin hFound hOrigin hFrame
  rcases (hGrows.steps.keepsReady bus).pending i found hFound with
    hFresh | ⟨old, hOld, hSequence, hReady⟩
  · rcases hGrows.new bus _ origin hOrigin with hBefore | ⟨hKind, -⟩
    · rw [hRecorded.fresh bus _ hFresh] at hBefore
      cases hBefore
    · exact hNew bus i found origin hFound hFresh hOrigin hKind hFrame
  · rw [hSequence, hGrows.old bus _ (hRecorded.numbered bus i old hOld)]
      at hOrigin
    exact (h bus i old origin hOld hOrigin hFrame).stays hSequence hReady

private theorem mem_allBuses (bus : Bus) : bus ∈ allBuses := by
  cases bus <;> decide

private theorem entered_turn {r : FrameRun}
    (hDelivers : DeliversMember r.dispatchMember) {index : Nat}
    {member : Octets} (hMember : r.members[index]? = some member)
    (hNumbered : Numbered (r.loop index).server) {bus : Bus} {i : Nat}
    {found : PendingRequest}
    (hFound : ((r.loop (index + 1)).server.admission bus).slots.pending i =
      some found)
    (hNew : ((r.loop index).server.admission bus).nextSequence ≤
      found.sequence) : Entered r index bus found := by
  have hNext : r.loop (index + 1) =
      (stepMember r.dispatchMember (r.loop index) (member, index)).1 :=
    loopBefore_succ _ _ hMember
  have hTurn := turnEffect_stepMember hDelivers.messageEffect (r.loop index)
    hNumbered (member, index)
  dsimp only at hTurn
  rw [← hNext] at hTurn
  obtain ⟨-, place, hPlace⟩ := hTurn.places
  rcases hPlace bus i found hFound with ⟨-, hEntered⟩ | ⟨old, hOld, hSame⟩
  · refine ⟨?_, ?_, hEntered.sequence, ?_, ?_⟩
    · exact List.any_eq_true.mpr
        ⟨bus, mem_allBuses bus, decide_eq_true hEntered.grown⟩
    · intro other hOther
      rw [hMember] at hOther
      cases hOther
      exact hEntered.target
    · rw [hEntered.sequence, hEntered.next]
      exact Nat.lt_succ_self _
    · intro other request hOther hDecode
      rw [hMember] at hOther
      cases hOther
      rw [hNext] at hFound
      exact ready_stepMember hDelivers hNumbered hDecode hFound hNew
  · rw [hSame.sequence] at hNew
    exact absurd (hNumbered bus i old hOld) (Nat.not_lt.mpr hNew)

private theorem ownEntered_loop {t : Tracked} (hRecorded : t.Recorded)
    {r : FrameRun} (hServer : r.server.admissions = t.server.admissions)
    (hDelivers : DeliversMember r.dispatchMember) {index : Nat}
    (hIndex : index ≤ r.members.length) :
    OwnEntered r t.frames (r.trackedAt t index) := by
  induction index with
  | zero =>
      intro bus i found origin hFound hOrigin hFrame
      exact absurd hFrame (hRecorded.earlier bus _ origin hOrigin).ne
  | succ index ih =>
      have hMember : r.members[index]? = some r.members[index] :=
        List.getElem?_eq_getElem hIndex
      have hBefore : (r.trackedAt t index).Recorded := hRecorded.grow
        (Tracked.grows_trackedAt hDelivers t hServer
          (Nat.le_of_succ_le hIndex))
      refine (ih (Nat.le_of_succ_le hIndex)).grow hBefore
        (Tracked.grows_turn hDelivers t hMember) ?_
      rintro bus i found origin hFound hNew - ⟨-, hIs⟩ -
      rw [hIs]
      exact entered_turn hDelivers hMember hBefore.numbered hFound hNew

private theorem ownEntered_trackedAfter (before : List Op) {op : Op}
    {later : List Op} {r : FrameRun}
    (hRun : frameRun (trackedAfter before).server op = some r)
    (hLater : ∀ op ∈ later, Server.KeepsSignals op) :
    OwnEntered r (trackedAfter before).frames
        (trackedAfter (before ++ op :: later)) ∧
      (trackedAfter before).frames <
        (trackedAfter (before ++ op :: later)).frames := by
  obtain ⟨hServer, hDelivers⟩ := Tracked.frameRun_delivers hRun
  have hRecorded := Tracked.recorded_trackedAfter before
  induction later using List.reverseRecOn with
  | nil =>
      have hStep : trackedAfter (before ++ [op]) =
          r.trackedAt (trackedAfter before) r.members.length := by
        rw [trackedAfter_append, Tracked.step, hRun]
      rw [hStep]
      exact ⟨ownEntered_loop hRecorded hServer hDelivers (le_refl _),
        Nat.lt_succ_self _⟩
  | append_singleton later last ih =>
      rw [List.forall_mem_append] at hLater
      obtain ⟨hOwn, hFrames⟩ := ih hLater.1
      have hSplit : before ++ op :: (later ++ [last]) =
          (before ++ op :: later) ++ [last] := by simp
      have hSignals : Server.KeepsSignals last :=
        hLater.2 last (List.mem_singleton_self last)
      have hGrows := Tracked.grows_step (fun _ h => h)
        (trackedAfter (before ++ op :: later))
        (Server.busSteps_step _ hSignals)
      rw [hSplit, trackedAfter_append]
      refine ⟨hOwn.grow (Tracked.recorded_trackedAfter _) hGrows ?_,
        hFrames.trans_le hGrows.frames⟩
      intro bus i found origin _ _ _ hLate hFrame
      exact absurd (hFrame ▸ hLate) (Nat.not_le.mpr hFrames)

/-! ## The order of service -/

/-- If the members of a frame are in order, each chained request of it is
served only once the member before it is gone. -/
theorem keepsOrder_of_inOrder (before : List Op) (op : Op) (later : List Op)
    (r : FrameRun) (hRun : frameRun (trackedAfter before).server op = some r)
    (hOrder : InOrder r) (hLater : ∀ op ∈ later, Server.KeepsSignals op) :
    KeepsOrder r (trackedAfter before).frames
      (trackedAfter (before ++ op :: later)) := by
  obtain ⟨hOwn, -⟩ := ownEntered_trackedAfter before hRun hLater
  intro bus ctx index found position member request hServed hFound hMember
    hDecode hIs other i earlier hEarlier hPrevious
  obtain ⟨origin, hOrigin, hFrame, hPosition⟩ := hIs
  obtain ⟨origin', hOrigin', hFrame', hPosition'⟩ := hPrevious
  have hSecond : Entered r (position + 1) bus found :=
    hPosition ▸ hOwn bus index found origin hFound hOrigin hFrame
  have hFirst : Entered r position other earlier :=
    hPosition' ▸ hOwn other i earlier origin' hEarlier hOrigin' hFrame'
  have hBound : position < r.members.length :=
    Nat.lt_of_succ_lt (List.getElem?_eq_some_iff.mp hMember).1
  obtain ⟨hBus, chained, hChained, hDelay⟩ := hOrder position
    r.members[position] member request (List.getElem?_eq_getElem hBound)
    hMember hDecode hFirst.stored hSecond.stored
  have hSame : other = bus := by
    have hTarget := hFirst.target _ (List.getElem?_eq_getElem hBound)
    rw [hBus, hSecond.target member hMember, Option.some_inj] at hTarget
    exact hTarget.symm
  subst hSame
  have hBefore : earlier.sequence < found.sequence := by
    rw [hSecond.sequence]
    exact hFirst.next
  exact selectDue_ne_of_ready hEarlier hFound
    (hFirst.ready _ chained (List.getElem?_eq_getElem hBound) hChained)
    (hSecond.ready member request hMember hDecode) hDelay hBefore hServed

/-! ## Two frames with a chained request -/

def chainedRequestOf (delay : UInt8) : Octets :=
  encodeAcfGbb { acfMsgType := acfMsgTypeGbb, byteBusId := 1 }
    (encodeRequestType .chained [0, 0, 0, 0, delay, 0, 0]) []

def orderedFrame : Octets :=
  encodeAcfAbb { byteBusId := 1 } [] ++ chainedRequestOf 1 ++
    chainedRequestOf 2

def orderedRun : FrameRun :=
  ⟨(trackedAfter [.lifecycle .rcpConfigured]).server, fun server member =>
    server.decodeAndDispatch 1 member, frameMembers orderedFrame⟩

set_option maxRecDepth 10000 in
theorem keepsOrder_orderedFrame :
    KeepsOrder orderedRun (trackedAfter [.lifecycle .rcpConfigured]).frames
      (trackedAfter [.lifecycle .rcpConfigured,
        .dispatchFrame 1 orderedFrame, .notifyTrigger 0 0]) := by
  have hMembers : orderedRun.members =
      [encodeAcfAbb { byteBusId := 1 } [], chainedRequestOf 1,
        chainedRequestOf 2] := by decide
  have hDecode : ∀ delay ∈ [1, 2],
      decodeChainedMember (chainedRequestOf delay) =
        .ok ⟨1, delay.toUInt16, false, 0, []⟩ := by decide
  refine keepsOrder_of_inOrder [.lifecycle .rcpConfigured]
    (.dispatchFrame 1 orderedFrame) [.notifyTrigger 0 0] orderedRun rfl ?_ ?_
  · intro position first second request hFirst hSecond hRequest hStored _
    rw [hMembers] at hFirst hSecond
    rcases position with _ | _ | position
    · have hRead : orderedRun.StoredBy 0 = false := by decide
      rw [hRead] at hStored
      cases hStored
    · obtain rfl : chainedRequestOf 1 = first := Option.some_inj.mp hFirst
      obtain rfl : chainedRequestOf 2 = second := Option.some_inj.mp hSecond
      rw [hDecode 2 (by simp)] at hRequest
      cases hRequest
      exact ⟨by decide, _, hDecode 1 (by simp), by decide⟩
    · simp at hSecond
  · simp [Server.KeepsSignals]

def overtakingFrame : Octets := timedRequestOf 1 ++ chainedRequestOf 0

set_option maxRecDepth 10000 in
/-- A chained request is served while the timed request before it waits. -/
theorem keepsOrder_overtakingFrame :
    ¬∀ (before : List Op) (op : Op) (later : List Op) (r : FrameRun),
      frameRun (trackedAfter before).server op = some r →
        (∀ op ∈ later, Server.KeepsSignals op) →
          KeepsOrder r (trackedAfter before).frames
            (trackedAfter (before ++ op :: later)) := by
  intro h
  let start : List Op := [.lifecycle .rcpConfigured]
  let t : Tracked := trackedAfter (start ++ [.dispatchFrame 1 overtakingFrame])
  let r : FrameRun := ⟨(trackedAfter start).server, fun server member =>
    server.decodeAndDispatch 1 member, frameMembers overtakingFrame⟩
  have hKept := h start (.dispatchFrame 1 overtakingFrame) [] r rfl (by simp)
  have hServed : ((t.server.admission .gpio).selectDue
      { endpointIdle := true }).2 = some 1 := by decide
  have hStored : ∀ index ∈ [0, 1], ∃ found, t.Stored .gpio index found ∧
      t.origins .gpio found.sequence = some ⟨0, 1, index⟩ := by
    intro index hIndex
    have hPending : ∀ index ∈ [0, 1],
        ((t.server.admission .gpio).slots.pending index).map
          PendingRequest.sequence = some index := by decide
    have hOrigin : ∀ sequence ∈ [0, 1],
        t.origins .gpio sequence = some ⟨0, 1, sequence⟩ := by decide
    obtain ⟨found, hFound, hSequence⟩ :=
      Option.map_eq_some_iff.mp (hPending index hIndex)
    refine ⟨found, hFound, ?_⟩
    rw [hSequence]
    exact hOrigin index hIndex
  obtain ⟨earlier, hEarlier, hFirst⟩ := hStored 0 (by simp)
  obtain ⟨found, hFound, hSecond⟩ := hStored 1 (by simp)
  have hMember : r.members[1]? = some (chainedRequestOf 0) := by decide
  have hDecode : decodeChainedMember (chainedRequestOf 0) =
      .ok ⟨1, 0, false, 0, []⟩ := by decide
  exact hKept .gpio _ 1 found 0 _ _ hServed hFound hMember hDecode
    ⟨_, hSecond, rfl, rfl⟩ .gpio 0 earlier hEarlier ⟨_, hFirst, rfl, rfl⟩

end CppRcp.Mock
