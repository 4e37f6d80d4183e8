import CppRcp.Admission.Retention
import CppRcp.Mock.FrameEffects
import CppRcp.Mock.Reassembly

/-!
# What the server stores

A message stores at most one request, and only on the bus its header names,
whether it comes plain, protected or as the last fragment of a larger one.
-/

namespace CppRcp.Mock

open CppRcp.Foundation CppRcp.Acf CppRcp.Request CppRcp.E2e CppRcp.Regmap
open CppRcp.Server CppRcp.Fragment

/-- The hosted bus that the header of a message names. -/
def busOf (message : Octets) : Option Bus :=
  Bus.ofId (decodeAcfMessageInfo message).byteBusId

inductive MessageEffect (server : Server) (target : Option Bus)
    (server' : Server) : Prop
  | retained
      (hStores : ∀ bus, Retains (server.admission bus) (server'.admission bus))
      (hCount : ∀ bus, (server'.admission bus).pendingCount ≤
        (server.admission bus).pendingCount)
  | stored {bus : Bus} {index : Nat} {slot : PendingRequest}
      (hTarget : target = some bus)
      (hFree : (server.admission bus).slots.firstFree = some index)
      (hUse : slot.inUse = true)
      (hSequence : slot.sequence = (server.admission bus).nextSequence)
      (hGroup : slot.chainGroup = 0)
      (hAt : server'.admission bus = overwritten (server.admission bus) index
        slot ((server.admission bus).pendingCount + 1))
      (hOther : ∀ other, bus ≠ other →
        server'.admission other = server.admission other)

theorem MessageEffect.refl (server : Server) (target : Option Bus) :
    MessageEffect server target server :=
  .retained (fun _ => .refl _) fun _ => le_rfl

theorem MessageEffect.of_admissions {a b c d : Server} {target : Option Bus}
    (h : MessageEffect a target b) (hBefore : c.admissions = a.admissions)
    (hAfter : d.admissions = b.admissions) : MessageEffect c target d := by
  have hA : ∀ bus, c.admission bus = a.admission bus := fun bus => by
    rw [Server.admission, Server.admission, hBefore]
  have hB : ∀ bus, d.admission bus = b.admission bus := fun bus => by
    rw [Server.admission, Server.admission, hAfter]
  cases h with
  | retained hStores hCount =>
      refine .retained (fun bus => ?_) fun bus => ?_
      · rw [hA, hB]
        exact hStores bus
      · rw [hA, hB]
        exact hCount bus
  | stored hTarget hFree hUse hSequence hGroup hAt hOther =>
      refine .stored hTarget (by rwa [hA]) hUse (by rwa [hA]) hGroup
        (by rwa [hA, hB]) ?_
      intro other hNe
      rw [hA, hB]
      exact hOther other hNe

private theorem messageEffect_of_setAdmission {server : Server} {bus : Bus}
    {ep : Endpoint} (target : Option Bus)
    (hRetains : Retains (server.admission bus) ep)
    (hCount : ep.pendingCount ≤ (server.admission bus).pendingCount) :
    MessageEffect server target (server.setAdmission bus ep) := by
  have hOther : ∀ other, bus ≠ other →
      (server.setAdmission bus ep).admission other = server.admission other :=
    fun other hNe => Server.admission_setAdmission_ne _ _ hNe
  refine .retained (fun other => ?_) fun other => ?_
  · by_cases hBus : bus = other
    · subst hBus
      rwa [Server.admission_setAdmission_self]
    · rw [hOther other hBus]
      exact .refl _
  · by_cases hBus : bus = other
    · subst hBus
      rwa [Server.admission_setAdmission_self]
    · rw [hOther other hBus]

/-! ## Cancellations -/

private theorem pendingCount_cancelSingle_le (ep : Endpoint) (num : UInt8)
    (state : Endpoint.CancelLifecycle) :
    (ep.cancelSingle num state).1.pendingCount ≤ ep.pendingCount := by
  unfold Endpoint.cancelSingle
  split
  · exact le_rfl
  · dsimp only
    split
    · exact Nat.sub_le _ _
    · exact le_rfl

private theorem pendingCount_cancelChainFrom_le (ep : Endpoint)
    (group position : Nat) :
    (ep.cancelChainFrom group position).pendingCount ≤ ep.pendingCount := by
  unfold Endpoint.cancelChainFrom
  split
  · exact le_rfl
  · exact Nat.sub_le _ _

private theorem retains_applyClearSingle (ep : Endpoint) (frame : Octets)
    (req : AcfMessageInfo) :
    Retains ep (applyClearSingle ep frame req).1 ∧
      (applyClearSingle ep frame req).1.pendingCount ≤ ep.pendingCount := by
  unfold applyClearSingle
  split
  · exact ⟨.refl ep, le_rfl⟩
  · next request _ =>
      dsimp only
      have hSingle := (inherits_cancelSingle ep request.clearTransactionNum
        .queued).retains
      have hCount := pendingCount_cancelSingle_le ep
        request.clearTransactionNum .queued
      split
      · next hEq =>
          rw [hEq] at hSingle hCount
          exact ⟨hSingle, hCount⟩
      · next hEq =>
          rw [hEq] at hSingle hCount
          exact ⟨hSingle.trans (inherits_cancelChainFrom _ _ _).retains,
            (pendingCount_cancelChainFrom_le _ _ _).trans hCount⟩
      · next hEq =>
          rw [hEq] at hSingle hCount
          exact ⟨hSingle, hCount⟩

private theorem retains_applyCancellation (ep : Endpoint)
    (type : RequestTypeOpcode) (frame : Octets) (req : AcfMessageInfo) :
    Retains ep (applyCancellation ep type frame req).1 ∧
      (applyCancellation ep type frame req).1.pendingCount ≤
        ep.pendingCount := by
  unfold applyCancellation
  split
  · exact ⟨(inherits_releaseWhere ep _).retains, Nat.sub_le _ _⟩
  · exact ⟨(inherits_releaseWhere ep _).retains, Nat.sub_le _ _⟩
  · exact retains_applyClearSingle ep frame req
  · exact ⟨.refl ep, le_rfl⟩

/-! ## One message -/

theorem BusEffect.messageEffect {server server' : Server} {frame : Octets}
    {reply : Reply} (h : BusEffect server frame server' reply) :
    MessageEffect server (busOf frame) server' := by
  cases h with
  | untouched hReply => exact .refl server _
  | executed peripherals hBus hStore hReply =>
      exact (messageEffect_of_setAdmission (busOf frame)
        hStore.inherits.retains hStore.pendingCount.le).of_admissions rfl rfl
  | admitted hBus hType hEffect hReply =>
      cases hEffect with
      | kept hStore hOutcome =>
          exact messageEffect_of_setAdmission _ hStore.inherits.retains
            hStore.pendingCount.le
      | discarded hFree hOutcome =>
          exact messageEffect_of_setAdmission _ (retains_discarded _) le_rfl
      | stored hFree hSlot hOutcome =>
          exact .stored hBus hFree hSlot.inUse hSlot.sequence hSlot.chainGroup
            (Server.admission_setAdmission_self _ _ _)
            fun other hNe => Server.admission_setAdmission_ne _ _ hNe
  | cancelled hBus hType hCategory hReply =>
      obtain ⟨hRetains, hCount⟩ := retains_applyCancellation
        (server.admission _) _ frame (decodeAcfMessageInfo frame)
      exact messageEffect_of_setAdmission _ hRetains hCount

theorem MessageEffect.storeEffect {server server' : Server}
    {target : Option Bus} (h : MessageEffect server target server')
    (bus : Bus) :
    StoreEffect (server.admission bus) (server'.admission bus) := by
  cases h with
  | retained hStores hCount => exact .retained (hStores bus)
  | @stored at' index slot hTarget hFree hUse hSequence hGroup hAt hOther =>
      by_cases hBus : at' = bus
      · subst hBus
        rw [hAt]
        exact .stored hFree hUse hSequence hGroup
      · rw [hOther bus hBus]
        exact .retained (.refl _)

namespace Server

private theorem messageEffect_decodeAndDispatch (server : Server)
    (streamId : StreamId) (frame : Octets) :
    MessageEffect server (busOf frame)
      (server.decodeAndDispatch streamId frame).1 :=
  (decodeAndDispatch_effect server streamId frame).messageEffect

private theorem messageEffect_dispatch (server : Server) (streamId : StreamId)
    (req : AcfMessageInfo) (payload : Octets) :
    MessageEffect server none (server.dispatch streamId req payload).1 := by
  unfold dispatch
  split
  · exact .refl server none
  · split
    · exact .refl server none
    · next bus _ =>
        have hPeek := peekRequestType_encodeAcfAbb req payload
        have hStore := admitWithAck_standard (server.admission bus) 0 0 0 hPeek
        have hOutcome : ((server.admission bus).admitWithAck
            (encodeAcfAbb req payload) 0 false 0 0).2.outcome ≠
              .cancellation := by
          intro hCancel
          obtain ⟨-, -, type, hType, -⟩ := admitWithAck_cancellation hCancel
          rw [hPeek] at hType
          cases hType
        rw [← (admitAndClassify_spec req hOutcome).1] at hStore
        unfold dispatchInner
        dsimp only
        split
        · exact .refl server none
        · split
          · next hAdmit =>
              rw [hAdmit] at hStore
              exact messageEffect_of_setAdmission none hStore.inherits.retains
                hStore.pendingCount.le
          · next hAdmit =>
              rw [hAdmit] at hStore
              exact (messageEffect_of_setAdmission none
                hStore.inherits.retains hStore.pendingCount.le).of_admissions
                  rfl rfl

/-! ## What leaves the buses alone -/

private theorem admissions_rxWatchdogKick (server : Server)
    (streamId : StreamId) (nowMs : Nat) :
    (server.rxWatchdogKick streamId nowMs).admissions = server.admissions := by
  unfold rxWatchdogKick
  dsimp only
  split <;> rfl

private theorem admissions_recordCrcError (server : Server)
    (streamId : StreamId) :
    (server.recordCrcError streamId).admissions = server.admissions := by
  unfold recordCrcError
  dsimp only
  split <;> rfl

theorem admissions_seqGateAdmits (server : Server) (streamId : StreamId)
    (sequenceNum : UInt8) :
    (server.seqGateAdmits streamId sequenceNum).1.admissions =
      server.admissions := by
  unfold seqGateAdmits
  dsimp only
  split <;> rfl

private theorem admissions_maybeFragmentResponse (server : Server)
    (streamIndex : UInt8) (reply : Reply) :
    (server.maybeFragmentResponse streamIndex reply).1.admissions =
      server.admissions := by
  unfold maybeFragmentResponse
  grind

private theorem admissions_feedIntermediate (server : Server) (slot : Nat)
    (fragment : Octets) :
    (server.feedIntermediate slot fragment).1.admissions =
      server.admissions := by
  unfold feedIntermediate setReassembler
  grind

end Server

/-! ## What a message restates -/

/-- The octets of the message timestamp, in which a conditional request has its
type and its parameters. -/
def timestampOf (message : Octets) : Nat :=
  getBe ((message.drop acfCommonHeaderLen).take 8)

structure Restates (fragment message : Octets) : Prop where
  bus : busOf message = busOf fragment
  time : (decodeAcfMessageInfo fragment).acfMsgType = acfMsgTypeGbb →
    timestampOf message = timestampOf fragment

theorem Restates.refl (message : Octets) : Restates message message :=
  ⟨rfl, fun _ => rfl⟩

private theorem timestampOf_lt (message : Octets) : timestampOf message < 256 ^
    8 := by
  unfold timestampOf
  refine (getBe_lt _).trans_le (Nat.pow_le_pow_right (by decide) ?_)
  exact List.length_take_le _ _

private theorem timestampOf_append {front : Octets} {ts : Nat} (rest : Octets)
    (hFront : front.length = acfCommonHeaderLen) (hTime : ts < 256 ^ 8) :
    timestampOf (front ++ putBe 8 ts ++ rest) = ts := by
  unfold timestampOf
  rw [List.append_assoc, List.drop_left' hFront,
    List.take_left' (length_putBe 8 ts), getBe_putBe_of_lt hTime]

private theorem restates_unwrapped {streamId : StreamId} {frame : Octets}
    (hShort : (unwrapFramed streamId frame).ec ≠ some (.e2e .shortFrame)) :
    Restates frame (unwrapFramed streamId frame).acfFrame := by
  have hLong := unwrapFramed_long hShort
  have hEight := le_headerLen (decodeAcfMessageInfo frame).acfMsgType
  unfold unwrapFramed
  rw [if_neg (by omega)]
  dsimp only
  rw [if_neg (Nat.not_lt.mpr hLong)]
  dsimp only
  rw [List.append_assoc]
  constructor
  · rw [busOf, decode_headerOctets, truncated_restamped,
      truncated_decodeAcfMessageInfo, busOf]
  · intro hType
    rw [headerOctets, if_pos hType]
    exact timestampOf_append _ (length_encodeAcfMessageInfo _)
      (timestampOf_lt frame)

private theorem busOf_encoded (header : AcfMessageInfo) (ts : Nat)
    (isGbb : Bool) (payload : Octets) :
    busOf (if isGbb then encodeAcfGbb header ts payload
        else encodeAcfAbb header payload) =
      Bus.ofId header.truncated.byteBusId := by
  unfold busOf
  cases isGbb with
  | false =>
      simp only [Bool.false_eq_true, if_false, encodeAcfAbb]
      rw [decode_encodeAcfMessageInfo]
      split <;> rfl
  | true =>
      simp only [if_true, encodeAcfGbb, List.append_assoc]
      rw [decode_encodeAcfMessageInfo]
      split <;> rfl

private theorem timestampOf_encodeAcfGbb (header : AcfMessageInfo) {ts : Nat}
    (payload : Octets) (h : ts < 256 ^ 8) :
    timestampOf (encodeAcfGbb header ts payload) = ts := by
  unfold encodeAcfGbb
  exact timestampOf_append payload (length_encodeAcfMessageInfo _) h

private theorem restates_joined {streamId : StreamId}
    {fragment payload : Octets} {header : AcfMessageInfo} {ts : Nat}
    (hShort : (unwrapFramed streamId fragment).ec ≠ some (.e2e .shortFrame))
    (hDecode : decodeAcfFrame (unwrapFramed streamId fragment).acfFrame
      (decide ((decodeAcfMessageInfo fragment).acfMsgType = acfMsgTypeGbb)) =
        .ok (header, ts, payload)) (joined : Octets) :
    Restates fragment
      (if decide ((decodeAcfMessageInfo fragment).acfMsgType =
          acfMsgTypeGbb) = true then
        encodeAcfGbb { header with pad := 0, acfMsgLength := 0 } ts joined
      else encodeAcfAbb { header with pad := 0, acfMsgLength := 0 } joined) := by
  constructor
  · have hHeader : header.truncated = header := by
      rw [(decodeAcfFrame_ok hDecode).1, truncated_decodeAcfMessageInfo]
    have hId : header.resized.byteBusId =
        (decodeAcfMessageInfo fragment).resized.byteBusId := by
      rw [(decode_unwrapped hShort hDecode).1]
    rw [busOf_encoded]
    change Bus.ofId header.truncated.byteBusId = busOf fragment
    rw [hHeader]
    exact congrArg Bus.ofId hId
  · intro hType
    have hTime := (restates_unwrapped hShort).time hType
    have hGbb : decide ((decodeAcfMessageInfo fragment).acfMsgType =
        acfMsgTypeGbb) = true := decide_eq_true hType
    rw [hGbb, decodeAcfFrame, if_pos rfl] at hDecode
    have hTs : ts = timestampOf (unwrapFramed streamId fragment).acfFrame :=
      (decodeAcfGbb_ok hDecode).2.2.2.1
    rw [if_pos hGbb, timestampOf_encodeAcfGbb _ _ (hTs ▸ timestampOf_lt _),
      hTs, hTime]

/-! ## Protected messages and fragments -/

inductive Delivery (streamId : StreamId) (fragment : Octets)
    (server server' : Server) : Prop
  | withheld (h : server'.admissions = server.admissions)
  | delivered {message : Octets} {reached : Server}
      (hRestates : Restates fragment message)
      (hBefore : reached.admissions = server.admissions)
      (hAfter : server'.admissions =
        (reached.decodeAndDispatch streamId message).1.admissions)

theorem Delivery.of_admissions {streamId : StreamId} {fragment : Octets}
    {a b c : Server} (h : Delivery streamId fragment a b)
    (hBefore : c.admissions = a.admissions) :
    Delivery streamId fragment c b := by
  cases h with
  | withheld h => exact .withheld (h.trans hBefore.symm)
  | delivered hRestates hReached hAfter =>
      exact .delivered hRestates (hReached.trans hBefore.symm) hAfter

theorem Delivery.messageEffect {streamId : StreamId} {fragment : Octets}
    {server server' : Server} (h : Delivery streamId fragment server server') :
    MessageEffect server (busOf fragment) server' := by
  cases h with
  | withheld h => exact (MessageEffect.refl server _).of_admissions rfl h
  | @delivered message reached hRestates hBefore hAfter =>
      have hEffect := reached.messageEffect_decodeAndDispatch streamId message
      rw [hRestates.bus] at hEffect
      exact hEffect.of_admissions hBefore.symm hAfter

namespace Server

theorem delivery_decodeAndDispatch (server : Server) (streamId : StreamId)
    (message : Octets) :
    Delivery streamId message server
      (server.decodeAndDispatch streamId message).1 :=
  .delivered (.refl message) rfl rfl

private theorem admissions_dispatchReassembled (server : Server)
    (streamId : StreamId) (header : AcfMessageInfo) (ts : Nat) (isGbb : Bool)
    (joined : Octets) :
    (server.dispatchReassembled streamId header ts isGbb joined).1.admissions =
      (server.decodeAndDispatch streamId
        (if isGbb = true then
          encodeAcfGbb { header with pad := 0, acfMsgLength := 0 } ts joined
        else
          encodeAcfAbb { header with pad := 0, acfMsgLength := 0 }
            joined)).1.admissions := by
  unfold dispatchReassembled
  dsimp only
  generalize (if isGbb = true then _ else _) = encoded
  split
  · exact admissions_maybeFragmentResponse _ _ _
  · rfl

private theorem delivery_feedFinal (server : Server) (streamId : StreamId)
    (slot : Nat) (fragment : Octets) :
    Delivery streamId fragment server
      (server.feedFinal streamId slot fragment).1 := by
  unfold feedFinal
  dsimp only
  split
  · exact .withheld rfl
  · split
    · exact .withheld rfl
    · next hShort =>
        split
        · exact .withheld rfl
        · next header ts payload hDecode =>
            split
            · next reasm _ =>
                split
                · exact .withheld (admissions_recordCrcError _ _)
                · generalize (if decide ((decodeAcfMessageInfo
                    fragment).acfMsgType = acfMsgTypeGbb) = true then
                      acfGbbMaxPayload else acfAbbMaxPayload) = bound
                  split
                  · exact .withheld rfl
                  · refine .delivered (restates_joined hShort hDecode reasm.buf)
                      ?_ (admissions_dispatchReassembled _ _ _ _ _ _)
                    rfl
            · exact .withheld rfl

theorem delivery_dispatchE2eCore (server : Server) (streamId : StreamId)
    (sequenceNum : UInt8) (frame : Octets) (applySeqGate : Bool) :
    Delivery streamId frame server
      (server.dispatchE2eCore streamId sequenceNum frame applySeqGate).1 := by
  refine Delivery.of_admissions ?_
    (admissions_rxWatchdogKick server streamId 0).symm
  unfold dispatchE2eCore
  dsimp only
  generalize server.rxWatchdogKick streamId 0 = server
  split
  · exact .withheld rfl
  · unfold dispatchE2eUnfaulted
    dsimp only
    split
    · exact .withheld rfl
    · split
      · exact delivery_decodeAndDispatch _ _ _
      · have hGate : (if applySeqGate = true then
            server.seqGateAdmits streamId sequenceNum
          else (server, true)).1.admissions = server.admissions := by
          split
          · exact admissions_seqGateAdmits _ _ _
          · rfl
        revert hGate
        generalize (if applySeqGate = true then
          server.seqGateAdmits streamId sequenceNum else (server, true)) = gate
        intro hGate
        split
        · exact .withheld hGate
        · split
          · next hUnwrap =>
              exact .delivered (restates_unwrapped (by simp [hUnwrap])) hGate
                rfl
          · exact .withheld ((admissions_recordCrcError _ _).trans hGate)

theorem delivery_dispatchE2eFragmentCore (server : Server)
    (streamId : StreamId) (sequenceNum : UInt8) (fragment : Octets)
    (applySeqGate : Bool) :
    Delivery streamId fragment server
      (server.dispatchE2eFragmentCore streamId sequenceNum fragment
        applySeqGate).1 := by
  refine Delivery.of_admissions ?_
    (admissions_rxWatchdogKick server streamId 0).symm
  unfold dispatchE2eFragmentCore
  dsimp only
  generalize server.rxWatchdogKick streamId 0 = server
  split
  · exact .withheld rfl
  · unfold dispatchFragmentUnfaulted
    split
    · exact .withheld rfl
    · dsimp only
      split
      · exact delivery_decodeAndDispatch _ _ _
      · split
        · exact delivery_dispatchE2eCore _ _ _ _ _
        · split
          · exact .withheld (admissions_feedIntermediate _ _ _)
          · split
            · exact delivery_dispatchE2eCore _ _ _ _ _
            · exact delivery_feedFinal _ _ _ _

private theorem messageEffect_dispatchE2eCore (server : Server)
    (streamId : StreamId)
    (sequenceNum : UInt8) (frame : Octets) (applySeqGate : Bool) :
    MessageEffect server (busOf frame)
      (server.dispatchE2eCore streamId sequenceNum frame applySeqGate).1 :=
  (delivery_dispatchE2eCore _ _ _ _ _).messageEffect

private theorem messageEffect_dispatchE2eFragmentCore (server : Server)
    (streamId : StreamId) (sequenceNum : UInt8) (fragment : Octets)
    (applySeqGate : Bool) :
    MessageEffect server (busOf fragment)
      (server.dispatchE2eFragmentCore streamId sequenceNum fragment
        applySeqGate).1 :=
  (delivery_dispatchE2eFragmentCore _ _ _ _ _).messageEffect

/-! ## The other operations -/

private theorem storeEffect_setAdmission {server : Server} {bus : Bus}
    {ep : Endpoint} (h : StoreEffect (server.admission bus) ep) (other : Bus) :
    StoreEffect (server.admission other)
      ((server.setAdmission bus ep).admission other) := by
  by_cases hBus : bus = other
  · subst hBus
    rwa [admission_setAdmission_self]
  · rw [admission_setAdmission_ne _ _ hBus]
    exact .retained (.refl _)

private theorem retains_setAdmission {server : Server} {bus : Bus}
    {ep : Endpoint} (h : Retains (server.admission bus) ep) (other : Bus) :
    Retains (server.admission other)
      ((server.setAdmission bus ep).admission other) := by
  by_cases hBus : bus = other
  · subst hBus
    rwa [admission_setAdmission_self]
  · rw [admission_setAdmission_ne _ _ hBus]
    exact .refl _

private theorem retains_tick (server : Server) (bus : Bus)
    (ctx : Endpoint.TickContext) (other : Bus) :
    Retains (server.admission other)
      ((server.tick bus ctx).1.admission other) := by
  have hSelect := (inherits_selectDue (server.admission bus) ctx).retains
  unfold tick
  split
  · next hEq =>
      rw [hEq] at hSelect
      exact retains_setAdmission hSelect other
  · next hEq =>
      rw [hEq] at hSelect
      exact retains_setAdmission
        (hSelect.trans (inherits_complete _ _ _).retains) other

private theorem retains_notifyTrigger (server : Server)
    (sourceEp signalNr : UInt8) (other : Bus) :
    Retains (server.admission other)
      ((server.notifyTrigger sourceEp signalNr).1.admission other) := by
  have hKept := @onEveryBus_invariant
    (fun later => Retains (server.admission other) (later.admission other))
    (fun ep => (ep.notifyTrigger sourceEp signalNr).1)
    (fun later bus h => h.trans (retains_setAdmission
      (inherits_notifyTrigger (later.admission bus) _ _).retains other))
    server (.refl _)
  exact hKept

private theorem retains_purgeMapped (server : Server) (streamIndex : UInt8)
    (entries : List EpIdMappingEntry) (other : Bus) :
    Retains (server.admission other)
      ((server.purgeMapped streamIndex entries).1.admission other) := by
  refine @purgeMapped_invariant
    (fun later => Retains (server.admission other) (later.admission other))
    ?_ server streamIndex entries (.refl _)
  intro later bus h
  exact h.trans (retains_setAdmission
    (inherits_releaseWhere _ _).retains other)

private theorem retains_checkWatchdogOverflow (server : Server)
    (streamId : StreamId) (nowMs : Nat) (other : Bus) :
    Retains (server.admission other)
      ((server.checkWatchdogOverflow streamId nowMs).1.admission other) := by
  unfold checkWatchdogOverflow
  dsimp only
  split
  · exact .refl _
  · split
    · refine Retains.trans ?_ (retains_purgeMapped _ _ _ other)
      exact .refl _
    · exact .refl _

private theorem retains_notifyGptpLockState (server : Server) (locked : Bool)
    (sourceEp : UInt8) (other : Bus) :
    Retains (server.admission other)
      ((server.notifyGptpLockState locked sourceEp).1.admission other) := by
  unfold notifyGptpLockState
  dsimp only
  split
  · exact .refl _
  · refine Retains.trans ?_ (retains_notifyTrigger _ _ _ other)
    exact .refl _

theorem retains_of_admissions {a b : Server}
    (h : b.admissions = a.admissions) (bus : Bus) :
    Retains (a.admission bus) (b.admission bus) := by
  unfold admission
  rw [h]
  exact .refl _

def IsPlain : Op → Prop
  | .dispatchFrame _ _ | .dispatchFrameE2e _ _ _ => False
  | .endpoint _ (.tagChain _ _ _) => False
  | _ => True

theorem storeEffect_step (server : Server) {op : Op} (h : IsPlain op)
    (bus : Bus) :
    StoreEffect (server.admission bus)
      ((server.step op).1.admission bus) := by
  cases op with
  | dispatch streamId req payload =>
      exact (messageEffect_dispatch server streamId req payload).storeEffect
        bus
  | dispatchE2e streamId sequenceNum frame =>
      exact (messageEffect_dispatchE2eCore server streamId sequenceNum frame
        true).storeEffect bus
  | dispatchE2eFragment streamId fragment =>
      exact (messageEffect_dispatchE2eFragmentCore server streamId 0 fragment
        true).storeEffect bus
  | dispatchFrame streamId frame => exact absurd h id
  | dispatchFrameE2e streamId sequenceNum frame => exact absurd h id
  | tick at' ctx => exact .retained (retains_tick server at' ctx bus)
  | endpoint at' op =>
      refine storeEffect_setAdmission
        (storeEffect_endpointStep (server.admission at') op ?_) bus
      rintro index group position rfl
      exact h
  | notifyTrigger sourceEp signalNr =>
      exact .retained (retains_notifyTrigger server sourceEp signalNr bus)
  | notifyGptpLockState locked sourceEp =>
      exact .retained (retains_notifyGptpLockState server locked sourceEp bus)
  | checkWatchdogOverflow streamId nowMs =>
      exact .retained (retains_checkWatchdogOverflow server streamId nowMs bus)
  | lifecycle state => exact .retained (retains_of_admissions rfl bus)
  | registers regs => exact .retained (retains_of_admissions rfl bus)
  | peripherals peripherals =>
      exact .retained (retains_of_admissions rfl bus)
  | resetStreamFault streamId =>
      exact .retained (retains_of_admissions rfl bus)
  | resetReassembler streamId =>
      refine .retained (retains_of_admissions ?_ bus)
      simp only [step]
      split <;> rfl
  | respQueue streamId queue =>
      refine .retained (retains_of_admissions ?_ bus)
      simp only [step]
      split <;> rfl

end Server

end CppRcp.Mock
