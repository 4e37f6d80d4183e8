import CppRcp.Host.Client
import CppRcp.Mock.Run

/-!
# Clients and a server over UDP

`udp.hpp` from end to end.  Any number of clients call one server, whose
handler dispatches each datagram on the mock server, and each reply goes to the
address its request came from.  Datagrams that were sent stay in the network:
each may arrive at any later time, any number of times, or never.
-/

namespace CppRcp.Udp

open CppRcp.Foundation CppRcp.Acf CppRcp.Avtp CppRcp.E2e CppRcp.Transport
open CppRcp.Host CppRcp.Mock

/-! ## The encapsulation -/

def encapSeqLen : Nat := 4

def encodeAnnexjDatagram (encapSeq : UInt32) (avtpdu : Octets) : Octets :=
  putBe encapSeqLen encapSeq.toNat ++ avtpdu

def decodeAnnexjDatagram (octets : Octets) :
    Except ErrorCode (UInt32 × Octets) :=
  if octets.length < encapSeqLen then .error (.avtp .shortBuffer)
  else
    .ok (UInt32.ofNat (getBe (octets.take encapSeqLen)),
      octets.drop encapSeqLen)

@[simp] theorem decode_encodeAnnexjDatagram (encapSeq : UInt32)
    (avtpdu : Octets) :
    decodeAnnexjDatagram (encodeAnnexjDatagram encapSeq avtpdu) =
      .ok (encapSeq, avtpdu) := by
  have hNumber : encapSeq.toNat < 256 ^ encapSeqLen := encapSeq.toNat_lt
  simp [decodeAnnexjDatagram, encodeAnnexjDatagram, List.take_left',
    List.drop_left', getBe_putBe_of_lt hNumber]

/-! ## A client -/

/-- The arguments of `Client::request`. -/
structure Request where
  info : AcfMessageInfo
  payload : Octets := []
  useTscf : Bool := false
  avtpTimestamp : UInt32 := 0
  messageTimestamp : UInt64 := 0
  deriving DecidableEq, Repr

structure Peer where
  streamId : StreamId
  client : Client := {}
  seq : UInt16 := 0
  encapSeq : UInt32 := 0
  outgoing : Nat → Option Frame := fun _ => none

namespace Peer

def frameOf (peer : Peer) (request : Request) : Frame :=
  { useTscf := request.useTscf
    streamId := peer.streamId
    sequenceNum := peer.seq + 1
    timestampValid := request.useTscf
    avtpTimestamp := request.avtpTimestamp
    info := request.info
    messageTimestamp := request.messageTimestamp.toNat
    payload := request.payload }

/-- `request` up to the registration of the call.  Nothing is numbered where
the client is closed or the context is done. -/
def request (peer : Peer) (request : Request) (done hasDeadline : Bool) :
    Peer :=
  match peer.client.step (.request request.info done hasDeadline) with
  | (_, .refused _) => peer
  | (client, _) =>
      { peer with
        client := client
        seq := peer.seq + 1
        outgoing := Function.update peer.outgoing peer.client.count
          (some (peer.frameOf request)) }

/-- A registered call sends its frame; `ok` is what the socket answers. -/
def send (peer : Peer) (id : Nat) (ok : Bool) : Peer × Option Octets :=
  match peer.client.calls id, peer.outgoing id with
  | some call, some frame =>
      if call.stage = .registered then
        ({ peer with
            client := (peer.client.step (.sent id ok)).1
            encapSeq := peer.encapSeq + 1 },
          if ok then
            some (encodeAnnexjDatagram (peer.encapSeq + 1) (encodeFrame frame))
          else none)
      else (peer, none)
  | _, _ => (peer, none)

/-- A turn of the client's `read_loop`. -/
def receive (peer : Peer) (datagram : Octets) : Peer :=
  match decodeAnnexjDatagram datagram with
  | .error _ => peer
  | .ok (_, avtpdu) =>
      match decodeFrame avtpdu with
      | .error _ => peer
      | .ok response =>
          { peer with client := (peer.client.step (.receive response)).1 }

end Peer

/-! ## The server -/

/-- What a server's handler does with a datagram; without one, every message
is acknowledged. -/
inductive Handling
  | acknowledge
  | dispatchFrame
  | dispatchFrameE2e
  deriving DecidableEq, Repr

/-- The glue from `FrameMemberResult` to `FrameResponse`. -/
def frameResponse (result : FrameMemberResult) : FrameResponse :=
  { info := result.response, payload := result.responsePayload }

namespace Handling

def handler (handling : Handling) (server : Server) :
    Option Transport.Handler :=
  match handling with
  | acknowledge => none
  | dispatchFrame => some fun streamId _ acfFrame =>
      (server.dispatchFrame streamId acfFrame).2.map frameResponse
  | dispatchFrameE2e => some fun streamId sequenceNum acfFrame =>
      (server.dispatchFrameE2e streamId sequenceNum acfFrame).2.map
        frameResponse

def next (handling : Handling) (server : Server) (streamId : StreamId)
    (sequenceNum : UInt8) (acfFrame : Octets) : Server :=
  match handling with
  | acknowledge => server
  | dispatchFrame => (server.dispatchFrame streamId acfFrame).1
  | dispatchFrameE2e =>
      (server.dispatchFrameE2e streamId sequenceNum acfFrame).1

end Handling

/-! ## The network -/

structure Datagram where
  client : Nat
  octets : Octets
  deriving DecidableEq, Repr

structure Network where
  server : Server := {}
  seq : UInt16 := 0
  encapSeq : UInt32 := 0
  peers : Nat → Peer
  requests : List Datagram := []
  replies : List Datagram := []

inductive Act
  | request (client : Nat) (request : Request) (done hasDeadline : Bool)
  | send (client id : Nat) (ok : Bool)
  | serve (place : Nat)
  | server (op : Op)
  | receive (place : Nat)
  | wake (client id : Nat)
  | expire (client id : Nat)
  | cleanup (client id : Nat)
  | close (client : Nat)
  deriving DecidableEq, Repr

namespace Network

def setPeer (net : Network) (client : Nat) (peer : Peer) : Network :=
  { net with peers := Function.update net.peers client peer }

def clientStep (net : Network) (client : Nat) (event : Event) : Network :=
  let peer := net.peers client
  net.setPeer client { peer with client := (peer.client.step event).1 }

/-- A turn of `Server::serve` for a datagram that has arrived. -/
def serveDatagram (handling : Handling) (streamId : StreamId) (net : Network)
    (datagram : Datagram) : Network :=
  match decodeAnnexjDatagram datagram.octets with
  | .error _ => net
  | .ok (_, avtpdu) =>
      match decodeMultiFrame avtpdu with
      | .error _ => net
      | .ok request =>
          let acfOff := if request.useTscf then tscfHeaderLen
            else ntscfHeaderLen
          let served := { net with
            server := handling.next net.server request.streamId
              (UInt8.ofNat request.sequenceNum.toNat) (avtpdu.drop acfOff)
            seq := net.seq + 1 }
          match serve streamId net.seq (handling.handler net.server) avtpdu with
          | none => served
          | some reply =>
              { served with
                encapSeq := net.encapSeq + 1
                replies := net.replies ++
                  [⟨datagram.client,
                    encodeAnnexjDatagram (net.encapSeq + 1) reply⟩] }

/-- One step of one of the parties, or the arrival of one datagram. -/
def step (handling : Handling) (streamId : StreamId) (net : Network) :
    Act → Network × Unit
  | .request client request done hasDeadline =>
      (net.setPeer client
        ((net.peers client).request request done hasDeadline), ())
  | .send client id ok =>
      match (net.peers client).send id ok with
      | (peer, none) => (net.setPeer client peer, ())
      | (peer, some datagram) =>
          ({ net.setPeer client peer with
              requests := net.requests ++ [⟨client, datagram⟩] }, ())
  | .serve place =>
      match net.requests[place]? with
      | none => (net, ())
      | some datagram => (net.serveDatagram handling streamId datagram, ())
  | .server op => ({ net with server := (net.server.step op).1 }, ())
  | .receive place =>
      match net.replies[place]? with
      | none => (net, ())
      | some datagram =>
          (net.setPeer datagram.client
            ((net.peers datagram.client).receive datagram.octets), ())
  | .wake client id => (net.clientStep client (.wake id), ())
  | .expire client id => (net.clientStep client (.expire id), ())
  | .cleanup client id => (net.clientStep client (.cleanup id), ())
  | .close client => (net.clientStep client .close, ())

/-- A fresh server and fresh clients on the given streams. -/
def initial (streams : Nat → StreamId) : Network :=
  { peers := fun client => { streamId := streams client } }

end Network

end CppRcp.Udp
