import CppRcp.Streams.WriterContext

/-!
# When a stream is associated with a bus

A writer whose stream the endpoint map names for a bus may write without a root
client.  The lookup takes every row of the map, also those after the end of the
table, and an octet for the index of the stream, so that it may find a row that
is not for that stream.
-/

namespace CppRcp.Regmap

open CppRcp.E2e

namespace EpIdMap

def IsFor (octet : UInt8) (byteBusId : UInt16) (row : EpIdMappingEntry) :
    Prop :=
  row.requestStreamIndex = octet ∧ row.byteBusId = byteBusId

instance (octet : UInt8) (byteBusId : UInt16) :
    DecidablePred (IsFor octet byteBusId) :=
  fun _ => inferInstanceAs (Decidable (_ ∧ _))

/-- A row in use is for the bus and names the stream at the place, which is
none if the stream is not configured. -/
def Associated (place : Option Nat) (entries : List EpIdMappingEntry)
    (byteBusId : UInt16) : Prop :=
  ∃ i ∈ place, ∃ k < effectiveCount entries, ∃ row, entries[k]? = some row ∧
    row.requestStreamIndex.toNat = i + 1 ∧ row.byteBusId = byteBusId

def FirstInUse (entries : List EpIdMappingEntry) (octet : UInt8)
    (byteBusId : UInt16) : Prop :=
  entries.findIdx (fun row => IsFor octet byteBusId row) <
    effectiveCount entries

variable {entries : List EpIdMappingEntry} {octet : UInt8} {byteBusId : UInt16}

private theorem isValidAssociation_iff :
    isValidAssociation entries octet byteBusId = true ↔
      ∃ row ∈ entries, IsFor octet byteBusId row := by
  simp [isValidAssociation, IsFor]

private theorem effectiveCount_le : effectiveCount entries ≤ entries.length :=
  List.findIdx_le_length

theorem FirstInUse.row (h : FirstInUse entries octet byteBusId) :
    ∃ k < effectiveCount entries, ∃ row, entries[k]? = some row ∧
      IsFor octet byteBusId row := by
  have hLength := h.trans_le effectiveCount_le
  have hFor := @List.findIdx_getElem _ _ _ hLength
  exact ⟨_, h, _, List.getElem?_eq_getElem hLength, by simpa using hFor⟩

private theorem firstInUse_of_row {k : Nat} (hUse : k < effectiveCount entries)
    {row : EpIdMappingEntry} (hRow : entries[k]? = some row)
    (hFor : IsFor octet byteBusId row) : FirstInUse entries octet byteBusId := by
  refine lt_of_le_of_lt ?_ hUse
  by_contra hLater
  have hNot := List.not_of_lt_findIdx (not_le.mp hLater)
  obtain ⟨hk, rfl⟩ := List.getElem?_eq_some_iff.mp hRow
  simp [hFor] at hNot

/-- What the lookup finds is an association exactly when it finds nothing, or
the octet is the whole index of the stream and its first row is in use. -/
theorem associated_iff {place : Option Nat}
    (hOctet : ∀ i ∈ place, octet.toNat = (i + 1) % 256) :
    (isValidAssociation entries octet byteBusId = true →
        Associated place entries byteBusId) ↔
      (∀ row ∈ entries, ¬ IsFor octet byteBusId row) ∨
        ((∃ i ∈ place, i < 255) ∧ FirstInUse entries octet byteBusId) := by
  rw [isValidAssociation_iff]
  constructor
  · intro hSound
    by_cases hFound : ∃ row ∈ entries, IsFor octet byteBusId row
    · right
      obtain ⟨i, hPlace, k, hUse, row, hRow, hIndex, hBus⟩ := hSound hFound
      have hSmall := row.requestStreamIndex.toNat_lt
      have hSame : row.requestStreamIndex = octet := by
        apply UInt8.toNat_inj.mp
        rw [hOctet i hPlace]
        omega
      exact ⟨⟨i, hPlace, by omega⟩, firstInUse_of_row hUse hRow ⟨hSame, hBus⟩⟩
    · left
      simpa using hFound
  · rintro (hNone | ⟨⟨i, hPlace, hSmall⟩, hFirst⟩) ⟨found, hMem, hFound⟩
    · exact absurd hFound (hNone found hMem)
    · obtain ⟨k, hUse, row, hRow, hIndex, hBus⟩ := hFirst.row
      refine ⟨i, hPlace, k, hUse, row, hRow, ?_, hBus⟩
      rw [hIndex, hOctet i hPlace]
      omega

end EpIdMap

open EpIdMap

/-! ## The place of a writer's stream -/

/-- The place of the row that a one-based index names. -/
def placeOf (streams : List RequestStreamConfig) (streamIndex : UInt16) :
    Option Nat :=
  if 1 ≤ streamIndex.toNat ∧ streamIndex.toNat ≤ streams.length then
    some (streamIndex.toNat - 1)
  else none

private theorem octet_of_placeOf {streams : List RequestStreamConfig}
    {streamIndex : UInt16} :
    ∀ i ∈ placeOf streams streamIndex,
      streamIndex.toUInt8.toNat = (i + 1) % 256 := by
  intro i hPlace
  unfold placeOf at hPlace
  split at hPlace
  · next hRange =>
      obtain rfl := Option.mem_some_iff.mp hPlace
      rw [UInt16.toNat_toUInt8]
      omega
  · cases hPlace

/-- The place of the first row of a stream. -/
def placeOfId (streams : List RequestStreamConfig) (streamId : StreamId) :
    Option Nat :=
  streams.findIdx? fun entry => entry.streamId = streamId

private theorem octet_of_placeOfId (streams : List RequestStreamConfig)
    (streamId : StreamId) :
    ∀ i ∈ placeOfId streams streamId,
      (resolveIndex streams streamId).toUInt16.toUInt8.toNat =
        (i + 1) % 256 := by
  intro i hPlace
  have hIndex : resolveIndex streams streamId = UInt8.ofNat (i + 1) := by
    unfold resolveIndex
    rw [show streams.findIdx? _ = some i from hPlace]
  simp [hIndex]

/-- The lookup for the octet does not run into another row: there is a root
client, or no row at all, or the stream has an index of one octet and its first
row is in use. -/
def Unmistaken (map : GeneralMap) (place : Option Nat)
    (entries : List EpIdMappingEntry) (octet : UInt8) (byteBusId : UInt16) :
    Prop :=
  map.svrRootClientIndex ≠ kNoRootClient ∨
    (∀ row ∈ entries, ¬ IsFor octet byteBusId row) ∨
      ((∃ i ∈ place, i < 255) ∧ FirstInUse entries octet byteBusId)

section Writer

variable (map : GeneralMap) (epClient : Option EpClient)
  (viaEp0 viaUnicast viaDiscoveryStream : Bool) (byteBusId : UInt16)
  (entries : List EpIdMappingEntry) (streams : List RequestStreamConfig)

private theorem association_iff {place : Option Nat} {streamIndex : UInt16}
    (hOctet : ∀ i ∈ place, streamIndex.toUInt8.toNat = (i + 1) % 256) :
    ((writerCtx map epClient streamIndex viaEp0 viaUnicast viaDiscoveryStream
        byteBusId entries).viaValidStreamAssociation = true →
      Associated place entries byteBusId) ↔
      Unmistaken map place entries streamIndex.toUInt8 byteBusId := by
  unfold Unmistaken writerCtx
  rw [← associated_iff hOctet]
  by_cases hRoot : map.svrRootClientIndex = kNoRootClient
  · simp [hRoot]
  · simp [hRoot]

/-- A writer is given an association only with a row in use that names its
stream exactly when the lookup is not mistaken; for a writer known by its
stream, and for one known by an index. -/
theorem writerCtx_association_iff :
    (∀ streamId : StreamId,
      ((writerCtx map epClient (resolveIndex streams streamId).toUInt16 viaEp0
          viaUnicast viaDiscoveryStream byteBusId
          entries).viaValidStreamAssociation = true →
        Associated (placeOfId streams streamId) entries byteBusId) ↔
        Unmistaken map (placeOfId streams streamId) entries
          (resolveIndex streams streamId) byteBusId) ∧
    ∀ streamIndex : UInt16,
      ((writerCtx map epClient streamIndex viaEp0 viaUnicast
          viaDiscoveryStream byteBusId
          entries).viaValidStreamAssociation = true →
        Associated (placeOf streams streamIndex) entries byteBusId) ↔
        Unmistaken map (placeOf streams streamIndex) entries
          streamIndex.toUInt8 byteBusId := by
  constructor
  · intro streamId
    have hIff := association_iff map epClient viaEp0 viaUnicast
      viaDiscoveryStream byteBusId entries
      (octet_of_placeOfId streams streamId)
    simpa using hIff
  · intro streamIndex
    exact association_iff map epClient viaEp0 viaUnicast viaDiscoveryStream
      byteBusId entries octet_of_placeOf

/-- A map in which a stream index of 0 ends the table before the row of the
first stream. -/
def endedMap : List EpIdMappingEntry :=
  [{}, { epId := 1, byteBusId := 0x100, requestStreamIndex := 1 }]

/-- A stream that is not configured is given an association by the row that
ends the table, the first stream by a row after it, and an index of more than
an octet by the row of another stream. -/
theorem writerCtx_not_associated :
    ((writerCtx {} none (resolveIndex [] 5).toUInt16 false true false 0
        endedMap).viaValidStreamAssociation = true ∧
      ¬ Associated (placeOfId [] 5) endedMap 0) ∧
    ((writerCtx {} none (resolveIndex [{ streamId := 5 }] 5).toUInt16 false
        true false 0x100 endedMap).viaValidStreamAssociation = true ∧
      ¬ Associated (placeOfId [{ streamId := 5 }] 5) endedMap 0x100) ∧
    (writerCtx {} none 0x101 false true false 0x100
        endedMap.tail).viaValidStreamAssociation = true ∧
      ¬ Associated (placeOf [{ streamId := 5 }] 0x101) endedMap.tail 0x100 := by
  refine ⟨⟨by decide, ?_⟩, ⟨by decide, ?_⟩, by decide, ?_⟩
  · rintro ⟨i, hPlace, -⟩
    cases hPlace
  · rintro ⟨i, -, k, hUse, -⟩
    have hEnd : effectiveCount endedMap = 0 := by decide
    rw [hEnd] at hUse
    exact absurd hUse (Nat.not_lt_zero k)
  · rintro ⟨i, hPlace, -⟩
    cases hPlace

end Writer

end CppRcp.Regmap
