import CppRcp.Properties.NetworkAgreement

/-!
# Calls that nothing interferes with

A call whose datagrams arrive once each has the same effect on the server as
its frame has on the handler, and returns what the handler answers, as long as
the reply has room for it.
-/

namespace CppRcp.Udp

open CppRcp.Foundation CppRcp.Acf CppRcp.Avtp CppRcp.E2e CppRcp.Transport
open CppRcp.Host CppRcp.Mock

section Exchange

variable {handling : Handling} {streamId : StreamId} {net : Network}
  {client : Nat} {request : Request} {hasDeadline : Bool}

def Peer.asked (peer : Peer) (request : Request) (hasDeadline : Bool) : Peer :=
  { peer with
    client :=
      (peer.client.register (request.call hasDeadline .registered none)).setCall
        peer.client.count (request.call hasDeadline .waiting none)
    seq := peer.seq + 1
    encapSeq := peer.encapSeq + 1
    outgoing := Function.update peer.outgoing peer.client.count
      (some (peer.frameOf request)) }

end Exchange

end CppRcp.Udp
