import CppRcp.Admission.ReadyRequests
import CppRcp.Mock.StoreEffects

/-!
# Each bus runs as an endpoint

Whatever the server does to the admission half of a bus, it does by operations
of the endpoint.  A message makes it admit or cancel, and the message that is
served restates the one received: it is the same, or the same without its
protection, or the joined one that a last fragment completes.
-/

namespace CppRcp.Mock

open CppRcp.Foundation CppRcp.Acf CppRcp.Request CppRcp.E2e CppRcp.Regmap
open CppRcp.Server CppRcp.Fragment

def BusSteps (P : EndpointOp → Prop) (server server' : Server) : Prop :=
  ∀ bus, Steps Endpoint.step P (server.admission bus) (server'.admission bus)

namespace BusSteps

variable {P Q : EndpointOp → Prop} {a b c : Server}

theorem of_admissions (h : b.admissions = a.admissions) : BusSteps P a b := by
  intro bus
  unfold Server.admission
  rw [h]

theorem refl (server : Server) : BusSteps P server server := of_admissions rfl

theorem trans (hab : BusSteps P a b) (hbc : BusSteps P b c) :
    BusSteps P a c :=
  fun bus => (hab bus).trans (hbc bus)

theorem mono (h : BusSteps P a b) (hPQ : ∀ op, P op → Q op) :
    BusSteps Q a b :=
  fun bus => (h bus).mono hPQ

theorem setAdmission {bus : Bus} {ep : Endpoint}
    (h : Steps Endpoint.step P (a.admission bus) ep) :
    BusSteps P a (a.setAdmission bus ep) := by
  intro other
  by_cases hBus : bus = other
  · subst hBus
    rwa [Server.admission_setAdmission_self]
  · rw [Server.admission_setAdmission_ne _ _ hBus]

end BusSteps

/-! ## Plain messages -/

section Serving

variable {message : Octets}

private theorem serves (ep : Endpoint) (op : EndpointOp)
    (h : ServesMessage message op) :
    Steps Endpoint.step (ServesMessage message) ep (ep.step op).1 :=
  .single h

private theorem steps_applyClearSingle (ep : Endpoint) (frame : Octets)
    (req : AcfMessageInfo) :
    Steps Endpoint.step (ServesMessage message) ep
      (applyClearSingle ep frame req).1 := by
  unfold applyClearSingle
  cases decodeClearSingle frame with
  | error e => exact .refl
  | ok request =>
      have hSingle : Steps Endpoint.step (ServesMessage message) ep
          (ep.cancelSingle request.clearTransactionNum .queued).1 :=
        serves ep (.cancelSingle request.clearTransactionNum .queued) trivial
      dsimp only
      generalize chainOfTransaction ep request.clearTransactionNum = chain
      rcases hCancel : ep.cancelSingle request.clearTransactionNum .queued with
        ⟨cleared, _ | _ | _⟩
      all_goals rw [hCancel] at hSingle
      · exact hSingle.trans
          (serves cleared (.cancelChainFrom chain.1 chain.2) trivial)
      · exact hSingle
      · exact hSingle

private theorem steps_applyCancellation (ep : Endpoint)
    (type : RequestTypeOpcode) (frame : Octets) (req : AcfMessageInfo) :
    Steps Endpoint.step (ServesMessage message) ep
      (applyCancellation ep type frame req).1 := by
  cases type with
  | clearAll => exact serves ep .cancelAll trivial
  | clearNonSafestate => exact serves ep .cancelNonSafestate trivial
  | clearSingle => exact steps_applyClearSingle ep frame req
  | _ => exact .refl

private theorem steps_admitAndClassify (ep : Endpoint) {frame : Octets}
    (req : AcfMessageInfo)
    (hFrame : frame = message ∨ Endpoint.peekRequestType frame = none) :
    Steps Endpoint.step (ServesMessage message) ep
      (admitAndClassify ep frame req).1 := by
  have hAdmit : Steps Endpoint.step (ServesMessage message) ep
      (ep.admitWithAck frame 0 false 0 0).1 :=
    serves ep (.admitWithAck frame 0 false 0 0) ⟨rfl, rfl, hFrame⟩
  unfold admitAndClassify
  rcases hAck : ep.admitWithAck frame 0 false 0 0 with ⟨admitted, outcome⟩
  rw [hAck] at hAdmit
  dsimp only
  split
  · exact hAdmit
  · split
    · cases outcome.requestType with
      | none => exact hAdmit
      | some type =>
          exact hAdmit.trans (steps_applyCancellation admitted type frame req)
    · exact hAdmit

namespace Server

private theorem busSteps_dispatch (server : Server) (streamId : StreamId)
    (req : AcfMessageInfo) (payload : Octets) :
    BusSteps (ServesMessage message) server
      (server.dispatch streamId req payload).1 := by
  unfold dispatch
  split
  · exact .refl server
  · cases Bus.ofId req.byteBusId with
    | none => exact .refl server
    | some bus =>
        have hAdmit := @steps_admitAndClassify message (server.admission bus)
          _ req (.inr (peekRequestType_encodeAcfAbb req payload))
        dsimp only
        unfold dispatchInner
        split
        · exact .refl server
        · rcases hClassify : admitAndClassify (server.admission bus)
            (encodeAcfAbb req payload) req with ⟨admitted, _ | reply⟩
          all_goals rw [hClassify] at hAdmit
          · exact (BusSteps.setAdmission hAdmit).trans (.of_admissions rfl)
          · exact .setAdmission hAdmit

private theorem busSteps_admitConditional (server : Server)
    (streamId : StreamId) (message : Octets) :
    BusSteps (ServesMessage message) server
      (server.admitConditional streamId message).1 := by
  unfold admitConditional
  dsimp only
  cases Bus.ofId (decodeAcfMessageInfo message).byteBusId with
  | none => exact .refl server
  | some bus =>
      dsimp only
      split
      · exact .refl server
      · exact .setAdmission (steps_admitAndClassify _ _ (.inl rfl))

private theorem busSteps_decodeAndDispatch (server : Server)
    (streamId : StreamId) (message : Octets) :
    BusSteps (ServesMessage message) server
      (server.decodeAndDispatch streamId message).1 := by
  unfold decodeAndDispatch
  split
  · exact .refl server
  · split
    · exact busSteps_admitConditional server streamId message
    · split
      · cases decodeAcfGbb message with
        | error e => exact .refl server
        | ok decoded => exact busSteps_dispatch server streamId _ _
      · cases decodeAcfAbb message with
        | error e => exact .refl server
        | ok decoded => exact busSteps_dispatch server streamId _ _

end Server

end Serving

theorem Delivery.busSteps {streamId : StreamId} {fragment : Octets}
    {server server' : Server} (h : Delivery streamId fragment server server') :
    ∃ message, Restates fragment message ∧
      BusSteps (ServesMessage message) server server' := by
  cases h with
  | withheld h => exact ⟨fragment, .refl fragment, .of_admissions h⟩
  | @delivered message reached hRestates hBefore hAfter =>
      have hReached : BusSteps (ServesMessage message) server reached :=
        .of_admissions hBefore
      have hServed := reached.busSteps_decodeAndDispatch streamId message
      exact ⟨message, hRestates,
        (hReached.trans hServed).trans (.of_admissions hAfter)⟩

/-! ## The other operations -/

theorem Delivery.signalsAtStart {streamId : StreamId} {fragment : Octets}
    {server server' : Server} (h : Delivery streamId fragment server server') :
    BusSteps SignalsAtStart server server' := by
  obtain ⟨message, -, hSteps⟩ := h.busSteps
  exact hSteps.mono fun _ hServed => hServed.signalsAtStart

private theorem plays (ep : Endpoint) (op : EndpointOp)
    (h : SignalsAtStart op) :
    Steps Endpoint.step SignalsAtStart ep (ep.step op).1 :=
  .single h

private theorem steps_tagLastPending (ep : Endpoint) (group position : Nat) :
    Steps Endpoint.step SignalsAtStart ep
      (tagLastPending ep group position) := by
  unfold tagLastPending
  cases lastPendingIndex ep with
  | none => exact .refl
  | some last =>
      exact (plays ep (.chainPredecessorDone last 0) rfl).trans
        (plays _ (.tagChain last group position) trivial)

private theorem busSteps_tagStored (before after : Server) (target : Option Bus)
    (group position : Nat) :
    BusSteps SignalsAtStart after
      (tagStored before after target group position) := by
  unfold tagStored
  cases target with
  | none => exact .refl after
  | some bus =>
      dsimp only
      split
      · exact .setAdmission (steps_tagLastPending _ _ _)
      · exact .refl after

theorem busSteps_stepMember {dispatchMember : DispatchMember}
    (hDispatch : ∀ server member,
      BusSteps SignalsAtStart server (dispatchMember server member).1)
    (state : FrameLoop) (input : Octets × Nat) :
    BusSteps SignalsAtStart state.server
      (stepMember dispatchMember state input).1.server := by
  cases memberEffect_stepMember dispatchMember state input with
  | refused hServer hResult hCode => exact .of_admissions (by rw [hServer])
  | dispatched bus group position hServer hResult =>
      rw [hServer]
      exact (hDispatch state.server input.1).trans (busSteps_tagStored _ _ _ _ _)

private theorem busSteps_dispatchFrameImpl {dispatchMember : DispatchMember}
    (hDispatch : ∀ server member,
      BusSteps SignalsAtStart server (dispatchMember server member).1)
    (server : Server) (frame : Octets) :
    BusSteps SignalsAtStart server
      (dispatchFrameImpl dispatchMember server frame).1 := by
  refine @invariant_run _ _ _ (stepMember dispatchMember)
    (fun state : FrameLoop => BusSteps SignalsAtStart server state.server) ?_
    { server := server } (frameMembers frame).zipIdx (.refl server)
  exact fun state input h => h.trans (busSteps_stepMember hDispatch state input)

namespace Server

private theorem busSteps_tick (server : Server) (bus : Bus)
    (ctx : Endpoint.TickContext) :
    BusSteps SignalsAtStart server (server.tick bus ctx).1 := by
  have hSelect := plays (server.admission bus) (.selectDue ctx) trivial
  simp only [Endpoint.step] at hSelect
  unfold tick
  rcases hDue : (server.admission bus).selectDue ctx with ⟨ep, _ | index⟩
  · rw [hDue] at hSelect
    exact .setAdmission hSelect
  · rw [hDue] at hSelect
    exact .setAdmission
      (hSelect.trans (plays ep (.complete index ctx) trivial))

private theorem busSteps_notifyTrigger (server : Server)
    (sourceEp signalNr : UInt8) :
    BusSteps SignalsAtStart server
      (server.notifyTrigger sourceEp signalNr).1 := by
  refine @onEveryBus_invariant
    (fun later => BusSteps SignalsAtStart server later)
    (fun ep => (ep.notifyTrigger sourceEp signalNr).1) ?_ server (.refl server)
  intro later bus h
  exact h.trans (.setAdmission
    (plays (later.admission bus) (.notifyTrigger sourceEp signalNr) trivial))

private theorem busSteps_notifyGptpLockState (server : Server) (locked : Bool)
    (sourceEp : UInt8) :
    BusSteps SignalsAtStart server
      (server.notifyGptpLockState locked sourceEp).1 := by
  unfold notifyGptpLockState
  dsimp only
  split
  · exact .of_admissions rfl
  · refine BusSteps.trans ?_ (busSteps_notifyTrigger _ _ _)
    exact .of_admissions rfl

private theorem busSteps_purgeMapped (server : Server) (streamIndex : UInt8)
    (entries : List EpIdMappingEntry) :
    BusSteps SignalsAtStart server
      (server.purgeMapped streamIndex entries).1 := by
  refine @purgeMapped_invariant
    (fun later => BusSteps SignalsAtStart server later) ?_ server streamIndex
    entries (.refl server)
  intro later bus h
  exact h.trans (.setAdmission
    (plays (later.admission bus) .watchdogPurge trivial))

private theorem busSteps_checkWatchdogOverflow (server : Server)
    (streamId : StreamId) (nowMs : Nat) :
    BusSteps SignalsAtStart server
      (server.checkWatchdogOverflow streamId nowMs).1 := by
  unfold checkWatchdogOverflow
  dsimp only
  split
  · exact .refl server
  · split
    · refine BusSteps.trans ?_ (busSteps_purgeMapped _ _ _)
      exact .of_admissions rfl
    · exact .of_admissions rfl

/-- No caller records a predecessor as done at another time than 0. -/
def KeepsSignals : Op → Prop
  | .endpoint _ op => SignalsAtStart op
  | _ => True

theorem busSteps_step (server : Server) {op : Op} (h : KeepsSignals op) :
    BusSteps SignalsAtStart server (server.step op).1 := by
  cases op with
  | dispatch streamId req payload =>
      exact (@busSteps_dispatch [] server streamId req payload).mono
        fun _ hServed => hServed.signalsAtStart
  | dispatchE2e streamId sequenceNum frame =>
      exact (delivery_dispatchE2eCore server streamId sequenceNum frame
        true).signalsAtStart
  | dispatchE2eFragment streamId fragment =>
      exact (delivery_dispatchE2eFragmentCore server streamId 0 fragment
        true).signalsAtStart
  | dispatchFrame streamId frame =>
      exact busSteps_dispatchFrameImpl (fun server member =>
        (delivery_decodeAndDispatch server streamId member).signalsAtStart)
        server frame
  | dispatchFrameE2e streamId sequenceNum frame =>
      have hGated : BusSteps SignalsAtStart server
          (server.seqGateAdmits streamId sequenceNum).1 :=
        .of_admissions (admissions_seqGateAdmits server streamId sequenceNum)
      simp only [step, dispatchFrameE2e]
      split
      · exact .refl server
      · rcases hGate : server.seqGateAdmits streamId sequenceNum with
          ⟨gated, _ | _⟩
        · rw [hGate] at hGated
          exact hGated
        · rw [hGate] at hGated
          exact hGated.trans (busSteps_dispatchFrameImpl (fun server member =>
            (delivery_dispatchE2eFragmentCore server streamId sequenceNum
              member false).signalsAtStart) gated frame)
  | tick bus ctx => exact busSteps_tick server bus ctx
  | endpoint bus op =>
      exact .setAdmission (plays (server.admission bus) op h)
  | notifyTrigger sourceEp signalNr =>
      exact busSteps_notifyTrigger server sourceEp signalNr
  | notifyGptpLockState locked sourceEp =>
      exact busSteps_notifyGptpLockState server locked sourceEp
  | checkWatchdogOverflow streamId nowMs =>
      exact busSteps_checkWatchdogOverflow server streamId nowMs
  | lifecycle state => exact .of_admissions rfl
  | registers regs => exact .of_admissions rfl
  | peripherals peripherals => exact .of_admissions rfl
  | resetStreamFault streamId => exact .of_admissions rfl
  | resetReassembler streamId =>
      refine .of_admissions ?_
      simp only [step]
      split <;> rfl
  | respQueue streamId queue =>
      refine .of_admissions ?_
      simp only [step]
      split <;> rfl

theorem busSteps_any (server : Server) (op : Op) :
    BusSteps (fun _ => True) server (server.step op).1 := by
  by_cases hSignals : KeepsSignals op
  · exact (busSteps_step server hSignals).mono fun _ _ => trivial
  · cases op with
    | endpoint bus op =>
        exact .setAdmission (Steps.single trivial)
    | _ => exact absurd trivial hSignals

end Server

theorem BusSteps.storeInvariant {P : EndpointOp → Prop}
    {server server' : Server} (h : BusSteps P server server') {bus : Bus}
    (hStore : StoreInvariant (server.admission bus)) :
    StoreInvariant (server'.admission bus) :=
  Steps.relates (R := fun ep ep' => StoreInvariant ep → StoreInvariant ep')
    (fun _ => id) (fun _ _ _ hab hbc hStore => hbc (hab hStore))
    (fun _ op _ hStore => storeInvariant_step hStore op) (h bus) hStore

theorem BusSteps.keepsReady {server server' : Server}
    (h : BusSteps SignalsAtStart server server') (bus : Bus) :
    KeepsReady (server.admission bus) (server'.admission bus) := by
  refine Steps.relates .refl (fun _ _ _ => .trans) ?_ (h bus)
  exact fun ep _ hOp => keepsReady_step ep hOp

end CppRcp.Mock
