import CppRcp.Mock.ChainLoop
import CppRcp.Mock.FrameRecords
import CppRcp.Properties.Transactions

/-!
# What a clear-single request clears

A clear-single request is to remove the request it names and the members that
follow it in its chain.  The server finds these by a chain number that starts
over in every frame, so this holds as long as no member is stored while a
request of another frame or bus carries its number.
-/

namespace CppRcp.Mock

open CppRcp.Foundation CppRcp.Acf CppRcp.Request CppRcp.E2e CppRcp.Regmap
open CppRcp.Server

/-- Carried out now, a clear-single request that reports that it canceled
removes the request it names, the later members of its chain, and nothing
else. -/
def ClearsOneChain (t : Tracked) : Prop :=
  ∀ bus frame req request, decodeClearSingle frame = .ok request →
    ((t.server.admission bus).cancelSingle request.clearTransactionNum
        .queued).2 = .canceled →
      let server' := t.server.setAdmission bus
        (applyClearSingle (t.server.admission bus) frame req).1
      ∃ index target, t.Stored bus index target ∧
        target.transactionNum = request.clearTransactionNum ∧
          ∀ other i found, t.Stored other i found →
            ((other, i) = (bus, index) ∨
                LaterInChain (t.origins bus target.sequence)
                  (t.origins other found.sequence) →
              (server'.admission other).slots.pending i = none) ∧
            (¬((other, i) = (bus, index) ∨
                LaterInChain (t.origins bus target.sequence)
                  (t.origins other found.sequence)) →
              (server'.admission other).slots.pending i = some found)

/-- No member of a frame is stored with the chain number of a request that is
not of its chain, and no tag is set from outside. -/
def ChainsApart (server : Server) (op : Op) : Prop :=
  (∀ bus index group position,
      op ≠ .endpoint bus (.tagChain index group position)) ∧
    ∀ r, frameRun server op = some r →
      ∀ index member, r.members[index]? = some member →
        Uncrossed r.server (r.loop index).server (r.loop (index + 1)).server
          (busOf member) (chainAt (r.members.take (index + 1)))

/-! ## Carrying out a clear-single request -/

private theorem findTransaction_of_canceled {ep : Endpoint} {num : UInt8}
    (h : (ep.cancelSingle num .queued).2 = .canceled) :
    ∃ index target, ep.findTransaction num = some index ∧
      ep.slots.pending index = some target ∧ target.transactionNum = num := by
  rw [cancelSingle_queued] at h
  cases hFind : ep.findTransaction num with
  | none =>
      rw [hFind] at h
      cases h
  | some index =>
      obtain ⟨target, hTarget, hNum⟩ := findTransaction_eq_some hFind
      exact ⟨index, target, rfl, hTarget, hNum⟩

private theorem pending_applyClearSingle {ep : Endpoint} {frame : Octets}
    {request : ClearSingleRequest} {index : Nat} {target : PendingRequest}
    (hDecode : decodeClearSingle frame = .ok request)
    (hFind : ep.findTransaction request.clearTransactionNum = some index)
    (hTarget : ep.slots.pending index = some target) (req : AcfMessageInfo)
    {i : Nat} {found : PendingRequest} (hFound : ep.slots.pending i = some found) :
    (applyClearSingle ep frame req).1.slots.pending i =
      if i = index ∨ (target.chainGroup ≠ 0 ∧
          found.chainGroup = target.chainGroup ∧
          target.chainPosition ≤ found.chainPosition) then none
      else some found := by
  have hChain : chainOfTransaction ep request.clearTransactionNum =
      (target.chainGroup, target.chainPosition) := by
    simp [chainOfTransaction, hFind, hTarget]
  have hReleased : (ep.releaseSlot index).slots.pending i =
      if i = index then none else some found := by
    split
    · next hSame =>
        rw [hSame]
        exact pending_set_default _ _
    · next hOther =>
        rw [← hFound]
        exact Slots.pending_set_ne fun hEq => hOther hEq.symm
  have hClear : (applyClearSingle ep frame req).1 =
      (ep.releaseSlot index).cancelChainFrom target.chainGroup
        target.chainPosition := by
    simp [applyClearSingle, hDecode, cancelSingle_queued, hFind, hChain]
  rw [hClear]
  unfold Endpoint.cancelChainFrom
  by_cases hAlone : target.chainGroup = 0
  · simp [hAlone, hReleased]
  · rw [if_neg hAlone]
    change ((ep.releaseSlot index).slots.releaseWhere _).pending i = _
    rw [Slots.pending_releaseWhere, hReleased]
    by_cases hSame : i = index
    · simp [hSame]
    · by_cases hLater : found.chainGroup = target.chainGroup ∧
          target.chainPosition ≤ found.chainPosition
      · simp [hSame, hAlone, hLater, Option.filter,
          Endpoint.cancelChainShouldCascade]
      · rw [if_neg hSame, if_neg (by tauto), Option.filter_some, if_pos]
        simpa [Endpoint.cancelChainShouldCascade, or_iff_not_imp_left]
          using hLater

private theorem Tracked.Sound.clearsOneChain {t : Tracked} (h : t.Sound) :
    ClearsOneChain t := by
  intro bus frame req request hDecode hCanceled server'
  obtain ⟨index, target, hFind, hTarget, hNum⟩ :=
    findTransaction_of_canceled hCanceled
  refine ⟨index, target, hTarget, hNum, ?_⟩
  intro other i found hFound
  by_cases hPlace : (other, i) = (bus, index)
  · obtain ⟨rfl, rfl⟩ := Prod.mk.inj hPlace
    refine ⟨fun _ => ?_, fun hNot => absurd (.inl hPlace) hNot⟩
    rw [Server.admission_setAdmission_self,
      pending_applyClearSingle hDecode hFind hTarget req hFound,
      if_pos (.inl rfl)]
  · have hAgree : Cascades bus target other found ↔
        LaterInChain (t.origins bus target.sequence)
          (t.origins other found.sequence) :=
      h.exact bus index target other i found hTarget hFound
        fun hEq => hPlace hEq.symm
    by_cases hBus : bus = other
    · subst hBus
      have hOther : i ≠ index := fun hEq => hPlace (by rw [hEq])
      rw [Server.admission_setAdmission_self,
        pending_applyClearSingle hDecode hFind hTarget req hFound, ← hAgree]
      unfold Cascades
      constructor
      · rintro (hEq | ⟨-, hCascades⟩)
        · exact absurd hEq hPlace
        · exact if_pos (.inr hCascades)
      · intro hNot
        refine if_neg ?_
        rintro (hEq | hCascades)
        · exact hOther hEq
        · exact hNot (.inr ⟨rfl, hCascades⟩)
    · rw [Server.admission_setAdmission_ne _ _ hBus, ← hAgree]
      constructor
      · rintro (hEq | ⟨hEq, -⟩)
        · exact absurd hEq hPlace
        · exact absurd hEq.symm hBus
      · intro _
        exact hFound

/-! ## Every run -/

private theorem frameRun_some {server : Server} {op : Op} {r : FrameRun}
    (h : frameRun server op = some r) :
    r.server.admissions = server.admissions ∧
      ∀ server member, MessageEffect server (busOf member)
        (r.dispatchMember server member).1 := by
  obtain ⟨hServer, hDelivers⟩ := Tracked.frameRun_delivers h
  exact ⟨hServer, hDelivers.messageEffect⟩

private theorem frameRun_none {server : Server} {op : Op}
    (h : frameRun server op = none)
    (hTag : ∀ bus index group position,
      op ≠ .endpoint bus (.tagChain index group position)) (bus : Bus) :
    StoreEffect (server.admission bus)
      ((server.step op).1.admission bus) := by
  by_cases hPlain : Server.IsPlain op
  · exact server.storeEffect_step hPlain bus
  · cases op with
    | dispatchFrame streamId frame => cases h
    | dispatchFrameE2e streamId sequenceNum frame =>
        have hAdmissions :=
          server.admissions_seqGateAdmits streamId sequenceNum
        refine .retained (Server.retains_of_admissions ?_ bus)
        simp only [Server.step, Server.dispatchFrameE2e]
        simp only [frameRun] at h
        split at h
        · next hEmpty => rw [if_pos hEmpty]
        · next hEmpty =>
            rw [if_neg hEmpty]
            rcases hGate : server.seqGateAdmits streamId sequenceNum with
              ⟨gated, _ | _⟩
            · rw [hGate] at hAdmissions
              exact hAdmissions
            · rw [hGate] at h
              cases h
    | endpoint at' op =>
        cases op with
        | tagChain index group position =>
            exact absurd rfl (hTag at' index group position)
        | _ => exact absurd trivial hPlain
    | _ => exact absurd trivial hPlain

private theorem inFrame_loop {t : Tracked} (h : t.Sound) {op : Op}
    (hApart : ChainsApart t.server op) {r : FrameRun}
    (hRun : frameRun t.server op = some r) :
    ∀ index, index ≤ r.members.length → InFrame r t index := by
  obtain ⟨hServer, hDispatch⟩ := frameRun_some hRun
  intro index
  induction index with
  | zero => exact fun _ => InFrame.start h hServer
  | succ index ih =>
      intro hIndex
      have hMember : r.members[index]? = some r.members[index] :=
        List.getElem?_eq_getElem hIndex
      exact (ih (Nat.le_of_succ_le hIndex)).succ hMember
        (hApart.2 r hRun index _ hMember) hDispatch

theorem Tracked.Sound.step {t : Tracked} (h : t.Sound) {op : Op}
    (hApart : ChainsApart t.server op) : (t.step op).Sound := by
  unfold Tracked.step
  cases hRun : frameRun t.server op with
  | none =>
      exact h.plain (fun bus => frameRun_none hRun hApart.1 bus) rfl rfl
  | some r =>
      exact (inFrame_loop h hApart hRun r.members.length le_rfl).sound

private theorem sound_trackedAfter {ops : List Op}
    (hApart : Along Server.step ChainsApart {} ops) :
    (trackedAfter ops).Sound := by
  induction ops using List.reverseRecOn with
  | nil => exact Tracked.sound_start
  | append_singleton ops op ih =>
      obtain ⟨hBefore, hLast, -⟩ := along_append.mp hApart
      rw [← server_trackedAfter] at hLast
      rw [trackedAfter_append]
      exact (ih hBefore).step hLast

/-- Clear-single requests clear one chain throughout a run, between its
operations and before each member of its frames. -/
def ClearsAlong (ops : List Op) : Prop :=
  (∀ n, ClearsOneChain (trackedAfter (ops.take n))) ∧
    ∀ n op r, ops[n]? = some op →
      frameRun (trackedAfter (ops.take n)).server op = some r →
        ∀ index, index ≤ r.members.length →
          ClearsOneChain (r.trackedAt (trackedAfter (ops.take n)) index)

/-- In a run that keeps its chains apart, clear-single requests clear one
chain in every state. -/
theorem clearsAlong_of_apart (ops : List Op)
    (hApart : Along Server.step ChainsApart {} ops) : ClearsAlong ops := by
  have hTake : ∀ n, Along Server.step ChainsApart {} (ops.take n) := by
    intro n
    rw [← List.take_append_drop n ops] at hApart
    exact (along_append.mp hApart).1
  refine ⟨fun n => (sound_trackedAfter (hTake n)).clearsOneChain, ?_⟩
  intro n op r hOp hRun index hIndex
  obtain ⟨hBound, hGet⟩ := List.getElem?_eq_some_iff.mp hOp
  have hAt := along_iff_getElem.mp hApart n hBound
  rw [hGet, ← server_trackedAfter] at hAt
  exact (inFrame_loop (sound_trackedAfter (hTake n)) hAt hRun index
    hIndex).sound.clearsOneChain

/-! ## Two frames with a request each -/

def timedRequestOf (transactionNum : UInt8) : Octets :=
  encodeAcfGbb
    { acfMsgType := acfMsgTypeGbb, byteBusId := 1,
      transactionNum := transactionNum }
    (encodeRequestType .timed [0, 0, 0, 0, 0, 0, 0]) []

def clearSingleOf (transactionNum : UInt8) : Octets :=
  encodeAcfGbb { acfMsgType := acfMsgTypeGbb, byteBusId := 1 }
    (encodeRequestType .clearSingle [0, 0, transactionNum, 0, 0, 0, 0]) []

theorem clearsAlong_single : ClearsAlong
    [.lifecycle .rcpConfigured, .dispatchFrame 1 (timedRequestOf 1)] := by
  refine clearsAlong_of_apart _ ⟨⟨?_, ?_⟩, ⟨?_, ?_⟩, trivial⟩
  · rintro bus index group position ⟨⟩
  · rintro r ⟨⟩
  · rintro bus index group position ⟨⟩
  · rintro r ⟨⟩ index member hMember bus hBus hGrown other i found hFound
    have hMembers : (frameMembers (timedRequestOf 1)).length = 1 := by
      decide
    obtain ⟨hIndex, -⟩ := List.getElem?_eq_some_iff.mp hMember
    have hFirst : index = 0 := by
      dsimp only at hIndex
      omega
    subst hFirst
    exact absurd hFound (Tracked.not_stored_start other i found)

def crossedOps : List Op :=
  [.lifecycle .rcpConfigured, .dispatchFrame 1 (timedRequestOf 1),
    .dispatchFrame 1 (timedRequestOf 2)]

/-- Clearing the request of the first frame takes that of the second with
it. -/
theorem clearsAlong_crossed : ¬ClearsAlong crossedOps := by
  intro h
  have hCrossed := h.1 3
  have hTake : crossedOps.take 3 = crossedOps := rfl
  rw [hTake] at hCrossed
  have hDecode : decodeClearSingle (clearSingleOf 1) =
      .ok { byteBusId := 1, clearTransactionNum := 1, transactionNum := 0 } := by
    decide
  have hCanceled : (((trackedAfter crossedOps).server.admission
      .gpio).cancelSingle 1 .queued).2 = .canceled := by decide
  obtain ⟨index, target, hTarget, hNum, hRemoved⟩ :=
    hCrossed .gpio (clearSingleOf 1) {} _ hDecode hCanceled
  obtain ⟨second, hSecond, hSecondNum, hSecondSequence⟩ : ∃ second,
      ((trackedAfter crossedOps).server.admission .gpio).slots.pending 1 =
          some second ∧ second.transactionNum = 2 ∧ second.sequence = 1 := by
    refine ⟨(((trackedAfter crossedOps).server.admission
      .gpio).slots.pending 1).getD {}, ?_⟩
    decide
  have hOrigin : (trackedAfter crossedOps).origins .gpio 1 =
      some ⟨1, 1, 0⟩ := by decide
  have hGone : ((applyClearSingle
      ((trackedAfter crossedOps).server.admission .gpio) (clearSingleOf 1)
        {}).1.slots.pending 1) = none := by decide
  have hKept := (hRemoved .gpio 1 second hSecond).2
  rw [Server.admission_setAdmission_self, hGone] at hKept
  refine absurd (hKept ?_) (by simp)
  rintro (hPlace | ⟨origin, origin', hFirst, hLater, -, -, hBefore⟩)
  · obtain ⟨-, rfl⟩ := Prod.mk.inj hPlace
    rw [Tracked.Stored, hSecond, Option.some_inj] at hTarget
    rw [← hTarget, hSecondNum] at hNum
    exact absurd hNum (by decide)
  · rw [hSecondSequence, hOrigin] at hLater
    cases hLater
    exact absurd hBefore (Nat.not_lt_zero _)

end CppRcp.Mock
