import CppRcp.Mock.ChainRecords
import CppRcp.Mock.EndpointSteps

/-!
# Chained members are ready once they are stored

The member loop records the predecessor of every chained member it has stored
as done, at time 0, whether that predecessor was carried out or is itself only
stored.  The delay is the one the member asks for, whatever protection it came
with.
-/

namespace CppRcp.Mock

open CppRcp.Foundation CppRcp.Acf CppRcp.Request CppRcp.E2e CppRcp.Regmap
open CppRcp.Server

/-! ## The delay of a chained member -/

private theorem peekRequestType_timestamp {message : Octets}
    {type : RequestTypeOpcode}
    (h : Endpoint.peekRequestType message = some type) :
    requestTypeOf (UInt8.ofNat (timestampOf message / 2 ^ 56)) =
      some type := by
  obtain ⟨hLen, hGbb, hMtv⟩ := peekRequestType_eq_some h
  unfold Endpoint.peekRequestType at h
  rw [if_neg (Nat.not_lt.mpr hLen)] at h
  simp only [hGbb, hMtv, ne_eq, not_true_eq_false, decide_false, Bool.or_false,
    Bool.false_eq_true, if_false] at h
  rwa [timestampOf, getBe_div hLen]

private theorem decodeChainedMember_delay {message : Octets}
    {request : ChainedMember} (h : decodeChainedMember message = .ok request) :
    request.chainExecDelay = be16At (putBe 7 (timestampOf message)) 3 := by
  unfold decodeChainedMember at h
  cases hr : decodeRepurposed message with
  | error e => simp [hr] at h
  | ok r =>
      obtain ⟨-, -, -, hDecode⟩ := decodeRepurposed_ok hr
      obtain ⟨-, -, hParams⟩ := decodeRequestType_ok hDecode
      simp only [hr] at h
      split at h
      · cases h
      · split at h
        · cases h
        · cases h
          rw [hParams, timestampOf]

private theorem loaded_of_restates {member message : Octets}
    {request : ChainedMember} (hRestates : Restates member message)
    (hMember : decodeChainedMember member = .ok request)
    {slot : PendingRequest} (h : LoadedFrom message slot) :
    Loaded request.chainExecDelay slot := by
  obtain ⟨type, hType, hLoaded⟩ := h
  have hMemberType := decodeChainedMember_type hMember
  obtain ⟨-, hGbb, -⟩ := peekRequestType_eq_some hMemberType
  have hTime := hRestates.time hGbb
  have hSame := peekRequestType_timestamp hType
  rw [hTime, peekRequestType_timestamp hMemberType, Option.some_inj] at hSame
  obtain ⟨restated, hRestated, hSlot⟩ := hLoaded hSame.symm
  rwa [decodeChainedMember_delay hRestated, hTime,
    ← decodeChainedMember_delay hMember] at hSlot

/-! ## One turn -/

private theorem ready_signalled {delay : UInt16} {slot : PendingRequest}
    (h : Loaded delay slot) (group position : Nat) :
    Ready delay
      { signalled slot with chainGroup := group, chainPosition := position } := by
  unfold signalled
  rw [if_pos h.category]
  exact ⟨⟨h.category, h.requestType, h.chainExecDelay, h.ungated, rfl⟩, rfl⟩

private theorem ready_tagStored {before after : Server} {target : Option Bus}
    {message : Octets} {delay : UInt16} (hNumbered : Numbered before)
    (hEffect : MessageEffect before target after)
    (hReceives : ∀ bus, Receives message (before.admission bus)
      (after.admission bus))
    (hLoaded : ∀ slot, LoadedFrom message slot → Loaded delay slot)
    (group position : Nat) {bus : Bus} {i : Nat} {found : PendingRequest}
    (hFound : ((tagStored before after target group position).admission
      bus).slots.pending i = some found)
    (hNew : (before.admission bus).nextSequence ≤ found.sequence) :
    Ready delay found := by
  cases hEffect with
  | retained hStores hCount =>
      have hSame : tagStored before after target group position = after := by
        unfold tagStored
        cases target with
        | none => rfl
        | some at' => exact if_neg (Nat.not_lt.mpr (hCount at'))
      rw [hSame] at hFound
      exact absurd ((hStores bus).sequence_lt (hNumbered bus) hFound)
        (Nat.not_lt.mpr hNew)
  | @stored at' index slot hTarget hFree hUse hSequence hGroup hAt hOther =>
      subst hTarget
      have hTagged := @tagLastPending_eq_overwritten (before.admission at')
        index ((before.admission at').pendingCount + 1) slot (hNumbered at')
        hFree hUse hSequence group position
      have hServer : tagStored before after (some at') group position =
          after.setAdmission at' (overwritten (before.admission at') index
            { signalled slot with chainGroup := group,
                                  chainPosition := position }
            ((before.admission at').pendingCount + 1)) := by
        unfold tagStored
        dsimp only
        rw [hAt, hTagged]
        exact if_pos (Nat.lt_succ_self _)
      rw [hServer] at hFound
      by_cases hBus : at' = bus
      · subst hBus
        rw [Server.admission_setAdmission_self] at hFound
        rcases pending_set_cases hFound with ⟨rfl, rfl, -⟩ | ⟨-, hOld⟩
        · refine ready_signalled (hLoaded slot ?_) group position
          have hStored : (after.admission at').slots.pending i = some slot := by
            rw [hAt]
            exact Slots.pending_set_self (Slots.firstFree_lt hFree) hUse
          rcases (hReceives at').pending i slot hStored with hOld | ⟨-, hFrom⟩
          · rw [Slots.pending_firstFree hFree] at hOld
            cases hOld
          · exact hFrom
        · exact absurd (hNumbered at' i found hOld) (Nat.not_lt.mpr hNew)
      · rw [Server.admission_setAdmission_ne _ _ hBus, hOther bus hBus]
          at hFound
        exact absurd (hNumbered bus i found hFound) (Nat.not_lt.mpr hNew)

def DeliversMember (dispatchMember : DispatchMember) : Prop :=
  ∀ server member, ∃ message, Restates member message ∧
    MessageEffect server (busOf member) (dispatchMember server member).1 ∧
      BusSteps (ServesMessage message) server (dispatchMember server member).1

theorem Delivery.delivers {streamId : StreamId} {member : Octets}
    {server server' : Server} (h : Delivery streamId member server server') :
    ∃ message, Restates member message ∧
      MessageEffect server (busOf member) server' ∧
        BusSteps (ServesMessage message) server server' := by
  obtain ⟨message, hRestates, hSteps⟩ := h.busSteps
  exact ⟨message, hRestates, h.messageEffect, hSteps⟩

theorem DeliversMember.messageEffect {dispatchMember : DispatchMember}
    (h : DeliversMember dispatchMember) (server : Server) (member : Octets) :
    MessageEffect server (busOf member) (dispatchMember server member).1 := by
  obtain ⟨message, -, hEffect, -⟩ := h server member
  exact hEffect

theorem DeliversMember.busSteps {dispatchMember : DispatchMember}
    (h : DeliversMember dispatchMember) (server : Server) (member : Octets) :
    BusSteps SignalsAtStart server (dispatchMember server member).1 := by
  obtain ⟨message, -, -, hSteps⟩ := h server member
  exact hSteps.mono fun _ hServed => hServed.signalsAtStart

theorem ready_stepMember {dispatchMember : DispatchMember}
    (hDelivers : DeliversMember dispatchMember) {state : FrameLoop}
    (hNumbered : Numbered state.server) {input : Octets × Nat}
    {request : ChainedMember}
    (hChained : decodeChainedMember input.1 = .ok request) {bus : Bus}
    {i : Nat} {found : PendingRequest}
    (hFound : ((stepMember dispatchMember state input).1.server.admission
      bus).slots.pending i = some found)
    (hNew : (state.server.admission bus).nextSequence ≤ found.sequence) :
    Ready request.chainExecDelay found := by
  have hKept : (state.server.admission bus).slots.pending i = some found →
      Ready request.chainExecDelay found := fun hOld =>
    absurd (hNumbered bus i found hOld) (Nat.not_lt.mpr hNew)
  have hTurn := turn_stepMember dispatchMember state input
  revert hTurn hFound
  generalize stepMember dispatchMember state input = out
  intro hFound hTurn
  cases hTurn with
  | undecodable hPeek => exact hKept hFound
  | anchor hPeek hAnchor =>
      rw [hChained] at hAnchor
      cases hAnchor
  | orphan hPeek hAgain hFirst => exact hKept hFound
  | aborted hPeek hAgain hLater hAbort => exact hKept hFound
  | follower hPeek hAgain hLater hLatch hContinue =>
      obtain ⟨message, hRestates, hEffect, hSteps⟩ :=
        hDelivers state.server input.1
      rw [busOf, ← peekMember_eq_some hPeek] at hEffect
      exact ready_tagStored hNumbered hEffect
        (fun bus => receives_of_steps (hSteps bus))
        (fun slot hFrom => loaded_of_restates hRestates hChained hFrom) _ _
        hFound hNew

end CppRcp.Mock
