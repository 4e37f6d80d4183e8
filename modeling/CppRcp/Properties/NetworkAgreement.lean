import CppRcp.Properties.NetworkMessages
import CppRcp.Properties.PendingCalls

/-!
# What a call over the network returns

A response that reaches a call is what the server made, in a state that it was
in between, of a datagram of the same client under the same bus and transaction
number.  Datagrams may be lost, repeated and overtaken, and any number of
clients may be calling.
-/

namespace CppRcp.Udp

open CppRcp.Foundation CppRcp.Acf CppRcp.Avtp CppRcp.E2e CppRcp.Transport
open CppRcp.Host CppRcp.Mock

/-! ## Steps of a client -/

section Calls

variable {client : Client}

private theorem exists_update {id place : Nat} {old new call : Call}
    (hOld : client.calls place = some old) (hKey : new.key = old.key)
    (hCall : client.calls id = some call) :
    ∃ next, Function.update client.calls place (some new) id = some next ∧
      next.key = call.key := by
  by_cases hId : id = place
  · subst hId
    obtain rfl := Option.some.inj (hOld.symm.trans hCall)
    exact ⟨new, Function.update_self .., hKey⟩
  · exact ⟨call, by rwa [Function.update_of_ne hId], rfl⟩

private theorem key_step (h : client.Owned) (event : Event) {id : Nat}
    {call : Call} (hCall : client.calls id = some call) :
    ∃ next, (client.step event).1.calls id = some next ∧
      next.key = call.key := by
  have hDoes := client.does_step event
  generalize client.step event = result at hDoes
  cases hDoes with
  | stays _ => exact ⟨call, hCall, rfl⟩
  | closes => exact ⟨call, hCall, rfl⟩
  | registers =>
      have hLt := h.numbered id call hCall
      refine ⟨call, ?_, rfl⟩
      simpa [Client.register, Function.update_of_ne hLt.ne] using hCall
  | advances hOld => exact exists_update hOld rfl hCall
  | delivers hPending hOld => exact exists_update hOld rfl hCall
  | leaves hOld hStage => exact exists_update hOld rfl hCall

private theorem eq_or_of_update {id place : Nat} {new next : Call}
    (h : Function.update client.calls place (some new) id = some next) :
    (id = place ∧ new = next) ∨ client.calls id = some next := by
  by_cases hId : id = place
  · subst hId
    simpa using Or.inl h
  · rw [Function.update_of_ne hId] at h
    exact .inr h

private theorem promise_step (h : client.Owned) {event : Event} {id : Nat}
    {next : Call} {response : Frame}
    (hNext : (client.step event).1.calls id = some next)
    (hPromise : next.promise = some response) :
    (∃ call, client.calls id = some call ∧ call.key = next.key ∧
      call.promise = some response) ∨
    event = .receive response ∧
      next.key = pendingKey response.info.byteBusId
        response.info.transactionNum := by
  have hDoes := client.does_step event
  generalize client.step event = result at hDoes hNext
  cases hDoes with
  | stays _ => exact .inl ⟨next, hNext, rfl, hPromise⟩
  | closes => exact .inl ⟨next, hNext, rfl, hPromise⟩
  | registers =>
      rcases eq_or_of_update hNext with ⟨-, rfl⟩ | hSame
      · cases hPromise
      · exact .inl ⟨next, hSame, rfl, hPromise⟩
  | advances hOld =>
      rcases eq_or_of_update hNext with ⟨rfl, rfl⟩ | hSame
      · exact .inl ⟨_, hOld, rfl, hPromise⟩
      · exact .inl ⟨next, hSame, rfl, hPromise⟩
  | delivers hPending hOld =>
      rcases eq_or_of_update hNext with ⟨rfl, rfl⟩ | hSame
      · obtain rfl := Option.some.inj hPromise
        obtain ⟨owner, hOwner, hKey, -⟩ := h.owner _ _ hPending
        obtain rfl := Option.some.inj (hOld.symm.trans hOwner)
        exact .inr ⟨rfl, hKey⟩
      · exact .inl ⟨next, hSame, rfl, hPromise⟩
  | leaves hOld hStage =>
      rcases eq_or_of_update hNext with ⟨rfl, rfl⟩ | hSame
      · exact .inl ⟨_, hOld, rfl, hPromise⟩
      · exact .inl ⟨next, hSame, rfl, hPromise⟩

def Reports (call : Call) (response : Frame) : Prop :=
  call.stage = .leaving (.response response) ∨
    call.stage = .returned (.response response)

def Reporting (client : Client) : Prop :=
  ∀ id call response, client.calls id = some call → Reports call response →
    call.promise = some response

private theorem reporting_step (h : client.Owned)
    (hReporting : Reporting client)
    (event : Event) : Reporting (client.step event).1 := by
  intro id next response hNext hReports
  have hDoes := client.does_step event
  generalize client.step event = result at hDoes hNext
  cases hDoes with
  | stays _ => exact hReporting id next response hNext hReports
  | closes => exact hReporting id next response hNext hReports
  | registers =>
      rcases eq_or_of_update hNext with ⟨-, rfl⟩ | hSame
      · rcases hReports with hStage | hStage <;> cases hStage
      · exact hReporting id next response hSame hReports
  | @advances _ _ call stage hOld _ hTo _ hResponse =>
      rcases eq_or_of_update hNext with ⟨rfl, rfl⟩ | hSame
      · rcases hReports with hStage | hStage
        · exact hResponse response hStage
        · change stage = _ at hStage
          subst hStage
          cases hTo
      · exact hReporting id next response hSame hReports
  | delivers hPending hOld =>
      rcases eq_or_of_update hNext with ⟨rfl, rfl⟩ | hSame
      · obtain ⟨owner, hOwner, -, hNone, -⟩ := h.owner _ _ hPending
        obtain rfl := Option.some.inj (hOld.symm.trans hOwner)
        have hSome := hReporting _ _ response hOld hReports
        rw [hNone] at hSome
        cases hSome
      · exact hReporting id next response hSame hReports
  | @leaves _ call _ hOld hStage =>
      rcases eq_or_of_update hNext with ⟨rfl, rfl⟩ | hSame
      · rcases hReports with hLeaving | hReturned
        · cases hLeaving
        · obtain rfl := Stage.returned.inj hReturned
          have hPromise := hReporting _ call response hOld (.inl hStage)
          exact hPromise
      · exact hReporting id next response hSame hReports

end Calls

/-! ## Clients with their frames -/

def keyOf (frame : Frame) : UInt32 :=
  pendingKey frame.info.byteBusId frame.info.transactionNum

structure Linked (peer : Peer) : Prop where
  owned : peer.client.Owned
  reporting : Reporting peer.client
  outgoing : ∀ id frame, peer.outgoing id = some frame →
    Sound frame.entry ∧
      ∃ call, peer.client.calls id = some call ∧ call.key = keyOf frame

section Peers

variable {peer next : Peer}

private theorem linked_fresh (streamId : StreamId) :
    Linked { streamId := streamId } where
  owned := Client.owned_empty
  reporting := by simp [Reporting]
  outgoing := by simp

theorem Linked.step (h : Linked peer) (event : Event)
    (hClient : next.client = (peer.client.step event).1)
    (hOutgoing : next.outgoing = peer.outgoing) : Linked next where
  owned := by
    rw [hClient]
    exact Client.owned_step _ event h.owned
  reporting := by
    rw [hClient]
    exact reporting_step h.owned h.reporting event
  outgoing := by
    intro id frame hFrame
    rw [hOutgoing] at hFrame
    obtain ⟨hSound, call, hCall, hKey⟩ := h.outgoing id frame hFrame
    obtain ⟨later, hLater, hSame⟩ := key_step h.owned event hCall
    exact ⟨hSound, later, hClient ▸ hLater, hSame.trans hKey⟩

/-- The message of a request, as it is sent. -/
def Request.entry (request : Request) : AcfEntry :=
  ⟨request.info, request.messageTimestamp.toNat, request.payload⟩

/-- The call of a request. -/
def Request.call (request : Request) (hasDeadline : Bool) (stage : Stage)
    (promise : Option Frame) : Call :=
  { busId := request.info.byteBusId
    transactionNum := request.info.transactionNum
    hasDeadline := hasDeadline
    stage := stage
    promise := promise }

private theorem request_cases (peer : Peer) (request : Request)
    (done hasDeadline : Bool) :
    peer.request request done hasDeadline = peer ∨
      peer.client.step (.request request.info done hasDeadline) =
          (peer.client.register (request.call hasDeadline .registered none),
            .nothing) ∧
        peer.request request done hasDeadline =
          { peer with
            client := (peer.client.step
              (.request request.info done hasDeadline)).1
            seq := peer.seq + 1
            outgoing := Function.update peer.outgoing peer.client.count
              (some (peer.frameOf request)) } := by
  unfold Peer.request
  simp only [Client.step]
  split_ifs <;> simp [Request.call]

theorem Linked.request (h : Linked peer) {request : Request}
    (hSound : Sound request.entry) (done hasDeadline : Bool) :
    Linked (peer.request request done hasDeadline) := by
  rcases request_cases peer request done hasDeadline with
    hSame | ⟨hStep, hNext⟩
  · rwa [hSame]
  · rw [hNext]
    refine ⟨Client.owned_step _ _ h.owned,
      reporting_step h.owned h.reporting _, fun id frame hFrame => ?_⟩
    dsimp only at hFrame ⊢
    by_cases hId : id = peer.client.count
    · rw [hId, Function.update_self] at hFrame
      obtain rfl := Option.some.inj hFrame
      refine ⟨hSound, request.call hasDeadline .registered none, ?_, rfl⟩
      rw [hStep, hId]
      exact Function.update_self ..
    · rw [Function.update_of_ne hId] at hFrame
      obtain ⟨hOld, call, hCall, hKey⟩ := h.outgoing id frame hFrame
      obtain ⟨later, hLater, hSame⟩ := key_step h.owned _ hCall
      exact ⟨hOld, later, hLater, hSame.trans hKey⟩

private theorem Linked.outgoing_request (h : Linked peer) {id : Nat}
    {frame : Frame} (hFrame : peer.outgoing id = some frame) (request : Request)
    (done hasDeadline : Bool) :
    (peer.request request done hasDeadline).outgoing id = some frame := by
  rcases request_cases peer request done hasDeadline with hSame | ⟨-, hNext⟩
  · rwa [hSame]
  · obtain ⟨-, call, hCall, -⟩ := h.outgoing id frame hFrame
    have hLt := h.owned.numbered id call hCall
    rw [hNext]
    dsimp only
    rwa [Function.update_of_ne hLt.ne]

private theorem send_cases (peer : Peer) (id : Nat) (ok : Bool) :
    peer.send id ok = (peer, none) ∨
      ∃ frame, peer.outgoing id = some frame ∧
        peer.send id ok =
          ({ peer with
              client := (peer.client.step (.sent id ok)).1
              encapSeq := peer.encapSeq + 1 },
            if ok then
              some (encodeAnnexjDatagram (peer.encapSeq + 1)
                (encodeFrame frame))
            else none) := by
  unfold Peer.send
  split
  · next frame hCall hFrame =>
      split
      · exact .inr ⟨frame, hFrame, rfl⟩
      · exact .inl rfl
  · exact .inl rfl

end Peers

/-! ## Steps of the network -/

def Delivers (net : Network) (act : Act) (client : Nat) (response : Frame) :
    Prop :=
  ∃ datagram ∈ net.replies, datagram.client = client ∧
    (∃ place, act = .receive place) ∧
    ∃ encapSeq avtpdu, decodeAnnexjDatagram datagram.octets =
        .ok (encapSeq, avtpdu) ∧
      decodeFrame avtpdu = .ok response

inductive PeerStep (net : Network) (act : Act) (client : Nat) (next : Peer) :
    Prop
  | stays (h : next = net.peers client)
  | steps (event : Event)
      (hClient : next.client = ((net.peers client).client.step event).1)
      (hOutgoing : next.outgoing = (net.peers client).outgoing)
      (hReceive : ∀ response, event = .receive response →
        Delivers net act client response)
  | requests (request : Request) (done hasDeadline : Bool)
      (hAct : act = .request client request done hasDeadline)
      (h : next = (net.peers client).request request done hasDeadline)

section Steps

variable {handling : Handling} {streamId : StreamId} {net : Network}

private theorem peerStep_setPeer {act : Act} {client : Nat} {peer : Peer}
    (h : PeerStep net act client peer) (other : Nat) :
    PeerStep net act other ((net.setPeer client peer).peers other) := by
  by_cases hOther : other = client
  · subst hOther
    simpa [Network.setPeer] using h
  · exact .stays (Function.update_of_ne hOther ..)

private theorem peerStep_clientStep {act : Act} {client : Nat} {event : Event}
    (h : ∀ response, event ≠ .receive response) (other : Nat) :
    PeerStep net act other ((net.clientStep client event).peers other) := by
  have hStep : PeerStep net act client
      { net.peers client with
        client := ((net.peers client).client.step event).1 } :=
    .steps event rfl rfl fun response hEvent => absurd hEvent (h response)
  exact peerStep_setPeer hStep other

private theorem peerStep_receive {act : Act} {datagram : Datagram}
    (hMem : datagram ∈ net.replies) (hAct : ∃ place, act = .receive place) :
    PeerStep net act datagram.client
      ((net.peers datagram.client).receive datagram.octets) := by
  unfold Peer.receive
  split
  · exact .stays rfl
  · next encapSeq avtpdu hDatagram =>
      split
      · exact .stays rfl
      · next response hFrame =>
          refine .steps (.receive response) rfl rfl fun other hEvent => ?_
          cases hEvent
          exact ⟨datagram, hMem, rfl, hAct, encapSeq, avtpdu, hDatagram, hFrame⟩

private theorem peers_serveDatagram (datagram : Datagram) :
    (net.serveDatagram handling streamId datagram).peers = net.peers := by
  unfold Network.serveDatagram
  split
  · rfl
  · split
    · rfl
    · dsimp only
      split <;> rfl

private theorem peerStep_step (act : Act) (client : Nat) :
    PeerStep net act client
      ((net.step handling streamId act).1.peers client) := by
  cases act with
  | request sender request done hasDeadline =>
      exact peerStep_setPeer (.requests request done hasDeadline rfl rfl) client
  | send sender id ok =>
      rcases send_cases (net.peers sender) id ok with hNone | ⟨frame, -, hSent⟩
      · simp only [Network.step, hNone]
        exact peerStep_setPeer (.stays rfl) client
      · have hStep : PeerStep net (.send sender id ok) sender
            ((net.peers sender).send id ok).1 := by
          rw [hSent]
          exact .steps (.sent id ok) rfl rfl (by simp)
        have hSet := peerStep_setPeer hStep client
        cases ok <;> simpa [Network.step, hSent] using hSet
  | serve place =>
      simp only [Network.step]
      split
      · exact .stays rfl
      · exact .stays (congrFun (peers_serveDatagram _) client)
  | server op => exact .stays rfl
  | receive place =>
      simp only [Network.step]
      split
      · exact .stays rfl
      · next datagram hGet =>
          exact peerStep_setPeer (peerStep_receive
            (List.mem_of_getElem? hGet) ⟨place, rfl⟩) client
  | wake _ _ | expire _ _ | cleanup _ _ | close _ =>
      exact peerStep_clientStep (by simp) client

private theorem outgoing_step (hLinked : ∀ client, Linked (net.peers client))
    (act : Act) {client id : Nat} {frame : Frame}
    (h : (net.peers client).outgoing id = some frame) :
    ((net.step handling streamId act).1.peers client).outgoing id =
      some frame := by
  have hStep := @peerStep_step handling streamId net act client
  generalize (net.step handling streamId act).1.peers client = next at hStep ⊢
  cases hStep with
  | stays hNext => rwa [hNext]
  | steps event _ hOutgoing _ => rwa [hOutgoing]
  | requests request done hasDeadline _ hNext =>
      rw [hNext]
      exact (hLinked client).outgoing_request h request done hasDeadline

def Sent (net : Network) (datagram : Datagram) : Prop :=
  ∃ id frame encapSeq,
    (net.peers datagram.client).outgoing id = some frame ∧
      datagram.octets = encodeAnnexjDatagram encapSeq (encodeFrame frame)

private theorem requests_serveDatagram (datagram : Datagram) :
    (net.serveDatagram handling streamId datagram).requests =
      net.requests := by
  unfold Network.serveDatagram
  split
  · rfl
  · split
    · rfl
    · dsimp only
      split <;> rfl

private theorem requests_step (act : Act) {datagram : Datagram}
    (h : datagram ∈ (net.step handling streamId act).1.requests) :
    datagram ∈ net.requests ∨ Sent net datagram := by
  cases act with
  | send client id ok =>
      rcases send_cases (net.peers client) id ok with
        hNone | ⟨frame, hFrame, hSent⟩
      · simp only [Network.step, hNone] at h
        exact .inl h
      · cases ok with
        | false =>
            simp only [Network.step, hSent] at h
            exact .inl h
        | true =>
            simp only [Network.step, hSent, if_true, List.mem_append,
              List.mem_singleton] at h
            rcases h with hOld | rfl
            · exact .inl hOld
            · exact .inr ⟨id, frame, _, hFrame, rfl⟩
  | serve place =>
      simp only [Network.step] at h
      split at h
      · exact .inl h
      · rw [requests_serveDatagram] at h
        exact .inl h
  | receive place =>
      simp only [Network.step] at h
      split at h <;> exact .inl h
  | _ => exact .inl h

def Served (handling : Handling) (streamId : StreamId) (net : Network)
    (place : Nat) (reply : Datagram) : Prop :=
  (net.step handling streamId (.serve place)).1.replies =
      net.replies ++ [reply] ∧
    ∃ datagram, net.requests[place]? = some datagram ∧
      datagram.client = reply.client ∧
      ∃ encapSeq avtpdu replySeq octets,
        decodeAnnexjDatagram datagram.octets = .ok (encapSeq, avtpdu) ∧
        serve streamId net.seq (handling.handler net.server) avtpdu =
          some octets ∧
        reply.octets = encodeAnnexjDatagram replySeq octets

private theorem serveDatagram_cases (datagram : Datagram) :
    (net.serveDatagram handling streamId datagram).replies = net.replies ∨
      ∃ encapSeq avtpdu octets,
        decodeAnnexjDatagram datagram.octets = .ok (encapSeq, avtpdu) ∧
        serve streamId net.seq (handling.handler net.server) avtpdu =
          some octets ∧
        (net.serveDatagram handling streamId datagram).replies =
          net.replies ++ [⟨datagram.client,
            encodeAnnexjDatagram (net.encapSeq + 1) octets⟩] := by
  unfold Network.serveDatagram
  split
  · exact .inl rfl
  · next encapSeq avtpdu hDatagram =>
      split
      · exact .inl rfl
      · dsimp only
        split
        · exact .inl rfl
        · next octets hServe =>
            exact .inr ⟨encapSeq, avtpdu, octets, hDatagram, hServe, rfl⟩

private theorem replies_step (act : Act) {reply : Datagram}
    (h : reply ∈ (net.step handling streamId act).1.replies) :
    reply ∈ net.replies ∨
      ∃ place, act = .serve place ∧ Served handling streamId net place reply := by
  cases act with
  | send client id ok =>
      rcases send_cases (net.peers client) id ok with hNone | ⟨frame, -, hSent⟩
      · simp only [Network.step, hNone] at h
        exact .inl h
      · cases ok <;> simp only [Network.step, hSent] at h <;> exact .inl h
  | serve place =>
      cases hGet : net.requests[place]? with
      | none =>
          simp only [Network.step, hGet] at h
          exact .inl h
      | some datagram =>
          rcases serveDatagram_cases datagram with
            hSame | ⟨encapSeq, avtpdu, octets, hDatagram, hServe, hReplies⟩
          · simp only [Network.step, hGet] at h
            rw [hSame] at h
            exact .inl h
          · have hNext : (net.step handling streamId (.serve place)).1.replies =
                net.replies ++ [⟨datagram.client,
                  encodeAnnexjDatagram (net.encapSeq + 1) octets⟩] := by
              simp only [Network.step, hGet]
              exact hReplies
            rw [hNext] at h
            rcases List.mem_append.mp h with hOld | hNew
            · exact .inl hOld
            · obtain rfl := List.mem_singleton.mp hNew
              exact .inr ⟨place, rfl, hNext, datagram, hGet, rfl, encapSeq,
                avtpdu, _, octets, hDatagram, hServe, rfl⟩
  | receive place =>
      simp only [Network.step] at h
      split at h <;> exact .inl h
  | _ => exact .inl h

end Steps

/-! ## Runs -/

private theorem reachable_step {server : Server} (h : server.Reachable)
    (op : Op) :
    (server.step op).1.Reachable := by
  obtain ⟨ops, rfl⟩ := h
  refine ⟨ops ++ [op], ?_⟩
  rw [run_append]
  rfl

private theorem reachable_next {server : Server} (h : server.Reachable)
    (handling : Handling) (streamId : StreamId) (sequenceNum : UInt8)
    (acfFrame : Octets) :
    (handling.next server streamId sequenceNum acfFrame).Reachable := by
  cases handling with
  | acknowledge => exact h
  | dispatchFrame => exact reachable_step h (.dispatchFrame streamId acfFrame)
  | dispatchFrameE2e =>
      exact reachable_step h
        (.dispatchFrameE2e streamId sequenceNum acfFrame)

/-- A request is asked for that is one message. -/
def Act.Sound : Act → Prop
  | .request _ asked _ _ => Udp.Sound asked.entry
  | _ => True

/-- Frames belong to calls, datagrams hold frames, and the mock server is in a
state that it can be brought to. -/
structure Wired (net : Network) : Prop where
  linked : ∀ client, Linked (net.peers client)
  sent : ∀ datagram ∈ net.requests, Sent net datagram
  reachable : net.server.Reachable

private theorem wired_initial (streams : Nat → StreamId) :
    Wired (Network.initial streams) where
  linked client := linked_fresh (streams client)
  sent := by simp [Network.initial]
  reachable := ⟨[], rfl⟩

section Runs

variable {handling : Handling} {streamId : StreamId}

private theorem reachable_server_step {net : Network} (h : net.server.Reachable)
    (act : Act) :
    (net.step handling streamId act).1.server.Reachable := by
  cases act with
  | server op => exact reachable_step h op
  | serve place =>
      simp only [Network.step]
      split
      · exact h
      · unfold Network.serveDatagram
        split
        · exact h
        · split
          · exact h
          · dsimp only
            split <;> exact reachable_next h _ _ _ _
  | send client id ok =>
      simp only [Network.step]
      split <;> exact h
  | receive place =>
      simp only [Network.step]
      split <;> exact h
  | _ => exact h

private theorem wired_step {net : Network} (h : Wired net) (act : Act)
    (hSound : act.Sound) : Wired (net.step handling streamId act).1 where
  linked client := by
    have hStep := @peerStep_step handling streamId net act client
    generalize (net.step handling streamId act).1.peers client = next at hStep ⊢
    cases hStep with
    | stays hNext =>
        rw [hNext]
        exact h.linked client
    | steps event hClient hOutgoing _ =>
        exact (h.linked client).step event hClient hOutgoing
    | requests request done hasDeadline hAct hNext =>
        subst hAct hNext
        exact (h.linked client).request hSound done hasDeadline
  sent datagram hMem := by
    have hSent : Sent net datagram :=
      (requests_step act hMem).elim (h.sent datagram) id
    obtain ⟨id, frame, encapSeq, hFrame, hOctets⟩ := hSent
    exact ⟨id, frame, encapSeq, outgoing_step h.linked act hFrame, hOctets⟩
  reachable := reachable_server_step h.reachable act

theorem wired_run {streams : Nat → StreamId} {acts : List Act}
    (hSound : ∀ act ∈ acts, act.Sound) :
    Wired (run (Network.step handling streamId) (Network.initial streams)
      acts).1 :=
  invariant_run_along (I := Wired) (fun _ act h hAct => wired_step h act hAct)
    (wired_initial streams) (along_iff_forall_mem.mpr hSound)

theorem outgoing_run {net : Network} (h : Wired net) {acts : List Act}
    (hSound : ∀ act ∈ acts, act.Sound) {client id : Nat} {frame : Frame}
    (hFrame : (net.peers client).outgoing id = some frame) :
    ((run (Network.step handling streamId) net acts).1.peers client).outgoing
      id = some frame :=
  (invariant_run_along
    (I := fun net => Wired net ∧ (net.peers client).outgoing id = some frame)
    (fun _ act h hAct =>
      ⟨wired_step h.1 act hAct, outgoing_step h.1.linked act h.2⟩)
    ⟨h, hFrame⟩ (along_iff_forall_mem.mpr hSound)).2

end Runs

/-- The call is under the numbers of the key, and the response has been
delivered to it. -/
def Returned (client id : Nat) (key : UInt32) (response : Frame)
    (net : Network) : Prop :=
  ∃ call, (net.peers client).client.calls id = some call ∧ call.key = key ∧
    call.promise = some response

/-- The arrival of this datagram, which a client has sent for a call of its
own, makes the server answer the call's frame with the response. -/
structure AnswersCall (handling : Handling) (streamId : StreamId)
    (net : Network) (place client sender : Nat) (request response : Frame) :
    Prop where
  outgoing : (net.peers client).outgoing sender = some request
  sent : ∃ encapSeq, net.requests[place]? =
    some ⟨client, encodeAnnexjDatagram encapSeq (encodeFrame request)⟩
  reachable : net.server.Reachable
  answered : Answered handling net.server request response
  replied : ∃ encapSeq reply, decodeFrame reply = .ok response ∧
    (net.step handling streamId (.serve place)).1.replies =
      net.replies ++ [⟨client, encodeAnnexjDatagram encapSeq reply⟩]

section Agreement

variable {handling : Handling} {streamId : StreamId} {net : Network}

private theorem returned_step (h : Wired net) {act : Act} {client id : Nat}
    {key : UInt32} {response : Frame}
    (hNext : Returned client id key response
      (net.step handling streamId act).1) :
    Returned client id key response net ∨
      Delivers net act client response ∧ key = keyOf response := by
  obtain ⟨next, hCall, rfl, hPromise⟩ := hNext
  have hOwned := (h.linked client).owned
  have hStep := @peerStep_step handling streamId net act client
  generalize (net.step handling streamId act).1.peers client = peer
    at hStep hCall
  cases hStep with
  | stays hSame =>
      rw [hSame] at hCall
      exact .inl ⟨next, hCall, rfl, hPromise⟩
  | steps event hClient _ hReceive =>
      rw [hClient] at hCall
      rcases promise_step hOwned hCall hPromise with hOld | ⟨hEvent, hKey⟩
      · exact .inl hOld
      · exact .inr ⟨hReceive response hEvent, hKey⟩
  | requests request done hasDeadline _ hSame =>
      rw [hSame] at hCall
      rcases request_cases (net.peers client) request done hasDeadline with
        hRefused | ⟨-, hTaken⟩
      · rw [hRefused] at hCall
        exact .inl ⟨next, hCall, rfl, hPromise⟩
      · rw [hTaken] at hCall
        rcases promise_step hOwned hCall hPromise with hOld | ⟨hEvent, -⟩
        · exact .inl hOld
        · cases hEvent

private theorem answersCall_of_served (h : Wired net) {place : Nat}
    {reply : Datagram}
    (hServed : Served handling streamId net place reply) {encapSeq : UInt32}
    {avtpdu : Octets} {response : Frame}
    (hDatagram : decodeAnnexjDatagram reply.octets = .ok (encapSeq, avtpdu))
    (hDecode : decodeFrame avtpdu = .ok response) :
    ∃ sender request,
      AnswersCall handling streamId net place reply.client sender request
        response ∧
      keyOf request = keyOf response := by
  obtain ⟨hReplies, datagram, hGet, hClient, _, sentAvtpdu, replySeq, octets,
    hSentAvtpdu, hServe, hReply⟩ := hServed
  obtain ⟨sender, request, sentSeq, hFrame, hOctets⟩ :=
    h.sent datagram (List.mem_of_getElem? hGet)
  obtain ⟨client, datagramOctets⟩ := datagram
  obtain ⟨replyClient, replyOctets⟩ := reply
  dsimp only at hClient hFrame hOctets hSentAvtpdu hReply
  subst hClient hOctets hReply
  rw [decode_encodeAnnexjDatagram] at hSentAvtpdu
  cases hSentAvtpdu
  rw [decode_encodeAnnexjDatagram] at hDatagram
  cases hDatagram
  obtain ⟨hSound, -⟩ := (h.linked client).outgoing sender request hFrame
  obtain ⟨hAnswered, hBus, hNum⟩ := answered_of_serve hSound hServe hDecode
  refine ⟨sender, request, ⟨hFrame, ⟨_, hGet⟩, h.reachable, hAnswered, ?_⟩, ?_⟩
  · exact ⟨_, _, hDecode, hReplies⟩
  · rw [keyOf, keyOf, hBus, hNum]

end Agreement

/-- Every response that a call has returned was made by an earlier step of the
server, the arrival of a datagram of the same client, and is the answer, in the
state at that step, to the frame of a call with the same bus and transaction
number: to the frame of the call itself, if the client used these numbers for
no other. -/
theorem response_answers_request (handling : Handling) (streamId : StreamId)
    (streams : Nat → StreamId) (acts : List Act)
    (hSound : ∀ act ∈ acts, act.Sound) (client id : Nat) (call : Call)
    (response : Frame) :
    let reached := fun acts => (run (Network.step handling streamId)
      (Network.initial streams) acts).1
    ((reached acts).peers client).client.calls id = some call →
    call.stage = .returned (.response response) →
      ∃ before place after sender request,
        before ++ .serve place :: after = acts ∧
        AnswersCall handling streamId (reached before) place client sender
          request response ∧
        request.info.byteBusId = call.busId ∧
        request.info.transactionNum = call.transactionNum ∧
        ((∀ other frame, ((reached acts).peers client).outgoing other =
          some frame → keyOf frame = call.key → other = id) → sender = id) := by
  intro reached hCall hStage
  have hWired (some : List Act) (hPrefix : some <+: acts) :
      Wired (reached some) :=
    wired_run fun act hAct => hSound act (hPrefix.subset hAct)
  have hPromise : call.promise = some response :=
    ((hWired acts List.prefix_rfl).linked client).reporting id call response hCall
      (.inr hStage)
  -- the step that delivered the response
  obtain ⟨delivered, act, after, rfl, hNot, hReturned⟩ :=
    exists_last_entry (I := Returned client id call.key response)
      (by simp [Returned, Network.initial]) ⟨call, hCall, rfl, hPromise⟩
  have hEntry := hReturned 0
  rw [List.take_zero, run_append] at hEntry
  obtain ⟨⟨reply, hReply, rfl, -, encapSeq, avtpdu, hDatagram, hDecode⟩,
    hKey⟩ := (returned_step (hWired delivered (List.prefix_append ..))
      hEntry).resolve_left hNot
  -- the step that sent it
  obtain ⟨served, act', after', rfl, hUnsent, hSent⟩ :=
    exists_last_entry (I := fun net : Network => reply ∈ net.replies)
      (by simp [Network.initial]) hReply
  have hNew := hSent 0
  rw [List.take_zero, run_append] at hNew
  obtain ⟨place, rfl, hServed⟩ := (replies_step act' hNew).resolve_left hUnsent
  have hPrefix : served <+: (served ++ .serve place :: after') ++ act :: after :=
    ⟨.serve place :: after' ++ act :: after, by simp⟩
  obtain ⟨sender, request, hAnswers, hNumbers⟩ :=
    answersCall_of_served (hWired served hPrefix) hServed hDatagram hDecode
  have hSame : keyOf request = call.key := hNumbers.trans hKey.symm
  obtain ⟨hBus, hNum⟩ := pendingKey_inj.mp hSame
  refine ⟨served, place, after' ++ act :: after, sender, request, by simp,
    hAnswers, hBus, hNum, fun hAlone => hAlone sender request ?_ hSame⟩
  have hLater := @outgoing_run handling streamId (reached served)
    (hWired served hPrefix) (.serve place :: after' ++ act :: after)
    (fun later hMem => hSound later (by simp_all)) _ _ _ hAnswers.outgoing
  simpa [reached, List.append_assoc, run_append] using hLater

def readRequest : Request := { info := { transactionNum := 7 } }

theorem sound_readRequest : Sound readRequest.entry :=
  ⟨by decide, by decide, by decide⟩

def readActs : List Act :=
  [.request 0 readRequest false true, .send 0 0 true, .serve 0, .receive 0,
    .wake 0 0, .cleanup 0 0]

def readResponse : Frame :=
  { streamId := 9
    sequenceNum := 1
    info := { acfMsgLength := 3, transactionNum := 7, rsp := true }
    payload := [0x52, 0x43, 0x50, 0x30] }

theorem response_answers_request_read :
    let reached := fun acts => (run (Network.step .dispatchFrame 9)
      (Network.initial fun _ => 5) acts).1
    ∃ before place after sender request,
      before ++ .serve place :: after = readActs ∧
      AnswersCall .dispatchFrame 9 (reached before) place 0 sender request
        readResponse ∧
      request.info.byteBusId = 0 ∧ request.info.transactionNum = 7 ∧
      ((∀ other frame, ((reached readActs).peers 0).outgoing other =
        some frame → keyOf frame = pendingKey 0 7 → other = 0) →
          sender = 0) :=
  response_answers_request .dispatchFrame 9 (fun _ => 5) readActs
    (by simp [readActs, Act.Sound, sound_readRequest]) 0 0
    (readRequest.call true (.returned (.response readResponse))
      (some readResponse)) readResponse
    (by decide) rfl

end CppRcp.Udp
