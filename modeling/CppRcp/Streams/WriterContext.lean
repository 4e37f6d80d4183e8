import CppRcp.Streams.Config

/-!
# Who is writing

`regmap::writer_ctx`: what the register map says of the stream that a register
write arrives on.  The endpoint map ends at the first row of stream index 0,
and rows after it are not in use.
-/

namespace CppRcp.Regmap

def kNoRootClient : UInt16 := 0xFFFF

structure GeneralMap where
  svrRootClientIndex : UInt16 := kNoRootClient
  deriving DecidableEq, Repr

structure EpClient where
  hasOwningStream : Bool := false
  owningStreamIndex : UInt16 := 0
  deriving DecidableEq, Repr

structure WriterCtx where
  viaRootClientEp0 : Bool := false
  viaOwningStream : Bool := false
  viaNonUnicastFrame : Bool := false
  viaDiscoveryStream : Bool := false
  viaValidStreamAssociation : Bool := false
  deriving DecidableEq, Repr

namespace EpIdMap

def effectiveCount (entries : List EpIdMappingEntry) : Nat :=
  entries.findIdx fun row => row.requestStreamIndex = 0

def isValidAssociation (entries : List EpIdMappingEntry)
    (requestStreamIndex : UInt8) (byteBusId : UInt16) : Bool :=
  entries.any fun row =>
    row.requestStreamIndex = requestStreamIndex ∧ row.byteBusId = byteBusId

end EpIdMap

/-- `epClient` is absent where the source passes a null pointer.  The stream
index is cut to the octet that a row of the endpoint map holds. -/
def writerCtx (map : GeneralMap) (epClient : Option EpClient)
    (requestingStreamIndex : UInt16)
    (viaEp0 viaUnicast viaDiscoveryStream : Bool)
    (requestingByteBusId : UInt16) (epIdMap : List EpIdMappingEntry) :
    WriterCtx where
  viaRootClientEp0 :=
    viaEp0 && map.svrRootClientIndex != kNoRootClient &&
      requestingStreamIndex == map.svrRootClientIndex
  viaOwningStream :=
    epClient.any fun client =>
      client.hasOwningStream && requestingStreamIndex == client.owningStreamIndex
  viaNonUnicastFrame := !viaUnicast
  viaDiscoveryStream := viaDiscoveryStream
  viaValidStreamAssociation :=
    map.svrRootClientIndex == kNoRootClient &&
      EpIdMap.isValidAssociation epIdMap requestingStreamIndex.toUInt8
        requestingByteBusId

end CppRcp.Regmap
