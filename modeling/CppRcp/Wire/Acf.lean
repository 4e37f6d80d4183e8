import CppRcp.Foundation.Octets
import CppRcp.Wire.ErrorCode

/-!
# ACF messages

The two ACF message types of `acf.hpp`, ABB (an 8-octet header and a payload)
and GBB (the same header, an 8-octet timestamp and a payload), with the header
codec, the response builders and the compound-wait comparison.  The masks and
shifts of the source are written as quotients and remainders.
-/

namespace CppRcp.Acf

open CppRcp.Foundation

def acfMsgTypeGbb : UInt8 := 0x0D
def acfMsgTypeAbb : UInt8 := 0x0E

structure AcfMessageInfo where
  acfMsgType : UInt8 := acfMsgTypeAbb
  acfMsgLength : UInt16 := 0
  pad : UInt8 := 0
  mtv : Bool := false
  byteBusId : UInt16 := 0
  evtAck : Bool := false
  evtOp : UInt8 := 0
  hs : Bool := false
  cs : Bool := false
  transactionNum : UInt8 := 0
  op : Bool := false
  rsp : Bool := false
  err : Bool := false
  ms : Bool := false
  readSizeOrSegmentNum : UInt16 := 0
  deriving DecidableEq, Repr

def acfCommonHeaderLen : Nat := 8
def acfGbbMessageInfoLen : Nat := 16

def acfMaxQuadlets : Nat := 0x1FF
def acfAbbMaxPayload : Nat := acfMaxQuadlets * 4 - acfCommonHeaderLen
def acfGbbMaxPayload : Nat := acfMaxQuadlets * 4 - acfGbbMessageInfoLen

def headerLen (acfMsgType : UInt8) : Nat :=
  if acfMsgType = acfMsgTypeGbb then acfGbbMessageInfoLen
  else acfCommonHeaderLen

theorem le_headerLen (acfMsgType : UInt8) :
    acfCommonHeaderLen ≤ headerLen acfMsgType := by
  unfold headerLen
  split <;> decide

def computeAcfMsgLength (acfMsgType : UInt8) (payloadLen : Nat) : UInt16 :=
  UInt16.ofNat ((headerLen acfMsgType + payloadLen + 3) / 4)

/-! ## The header codec -/

def encodeAcfMessageInfo (info : AcfMessageInfo) : Octets :=
  let msgLength := info.acfMsgLength.toNat % 512
  let busId := info.byteBusId.toNat % 2048
  let evt := weight info.evtAck 8 + info.evtOp.toNat % 8
  let readSize := info.readSizeOrSegmentNum.toNat % 4096
  [UInt8.ofNat (info.acfMsgType.toNat % 128 * 2 + msgLength / 256),
    UInt8.ofNat (msgLength % 256),
    UInt8.ofNat (info.pad.toNat % 4 * 64 + weight info.mtv 32 + busId / 256),
    UInt8.ofNat (busId % 256),
    UInt8.ofNat (evt * 16 + weight info.hs 2 + weight info.cs 1),
    info.transactionNum,
    UInt8.ofNat (weight info.op 128 + weight info.rsp 64 +
      weight info.err 32 + weight info.ms 16 + readSize / 256),
    UInt8.ofNat (readSize % 256)]

/-- Octet `index` of a buffer; every caller has checked the length. -/
def octetAt (octets : Octets) (index : Nat) : UInt8 := octets.getD index 0

def decodeAcfMessageInfo (in8 : Octets) : AcfMessageInfo :=
  let octet := fun index => octetAt in8 index
  { acfMsgType := UInt8.ofNat ((octet 0).toNat / 2)
    acfMsgLength := UInt16.ofNat
      ((octet 0).toNat % 2 * 256 + (octet 1).toNat)
    pad := UInt8.ofNat ((octet 2).toNat / 64 % 4)
    mtv := flag (octet 2) 5
    byteBusId := UInt16.ofNat ((octet 2).toNat % 8 * 256 + (octet 3).toNat)
    evtAck := flag (octet 4) 7
    evtOp := UInt8.ofNat ((octet 4).toNat / 16 % 8)
    hs := flag (octet 4) 1
    cs := flag (octet 4) 0
    transactionNum := octet 5
    op := flag (octet 6) 7
    rsp := flag (octet 6) 6
    err := flag (octet 6) 5
    ms := flag (octet 6) 4
    readSizeOrSegmentNum := UInt16.ofNat
      ((octet 6).toNat % 16 * 256 + (octet 7).toNat) }

def peekAcfMsgType (octets : Octets) : UInt8 :=
  UInt8.ofNat ((octetAt octets 0).toNat / 2)

def encodeAcfAbb (info : AcfMessageInfo) (payload : Octets) : Octets :=
  let info := { info with acfMsgType := acfMsgTypeAbb, mtv := false }
  let info :=
    if info.acfMsgLength = 0 then
      { info with
        acfMsgLength := computeAcfMsgLength info.acfMsgType payload.length }
    else info
  encodeAcfMessageInfo info ++ payload

def decodeAcfAbb (octets : Octets) :
    Except ErrorCode (AcfMessageInfo × Octets) :=
  if octets.length < 1 then .error (.avtp .shortBuffer)
  else if peekAcfMsgType octets ≠ acfMsgTypeAbb then
    .error (.acf .badAcfMsgType)
  else if octets.length < acfCommonHeaderLen then .error (.avtp .shortBuffer)
  else .ok (decodeAcfMessageInfo octets, octets.drop acfCommonHeaderLen)

def encodeAcfGbb (info : AcfMessageInfo) (messageTimestamp : Nat)
    (payload : Octets) : Octets :=
  let info := { info with acfMsgType := acfMsgTypeGbb }
  let info :=
    if info.acfMsgLength = 0 then
      { info with
        acfMsgLength := computeAcfMsgLength info.acfMsgType payload.length }
    else info
  encodeAcfMessageInfo info ++ putBe 8 messageTimestamp ++ payload

def decodeAcfGbb (octets : Octets) :
    Except ErrorCode (AcfMessageInfo × Nat × Octets) :=
  if octets.length < 1 then .error (.avtp .shortBuffer)
  else if peekAcfMsgType octets ≠ acfMsgTypeGbb then
    .error (.acf .badAcfMsgType)
  else if octets.length < acfGbbMessageInfoLen then
    .error (.avtp .shortBuffer)
  else .ok (decodeAcfMessageInfo octets,
    getBe ((octets.drop acfCommonHeaderLen).take 8),
    octets.drop acfGbbMessageInfoLen)

/-! ## Responses -/

inductive ResponseKind
  | acknowledge | writeResponse | readResponse | errorResponse
  deriving DecidableEq, Repr

def evtAcknowledge : Nat := 0x0F

/-- The 4-bit `evt` field, acknowledge bit first. -/
def evtOf (info : AcfMessageInfo) : Nat :=
  weight info.evtAck 8 + info.evtOp.toNat % 8

def responseKindOf (info : AcfMessageInfo) : ResponseKind :=
  if evtOf info = evtAcknowledge then .acknowledge
  else if info.err then .errorResponse
  else if info.op then .writeResponse else .readResponse

def makeResponse (request : AcfMessageInfo) (kind : ResponseKind) :
    AcfMessageInfo :=
  { acfMsgType := request.acfMsgType
    byteBusId := request.byteBusId
    transactionNum := request.transactionNum
    rsp := true
    evtAck := decide (kind = .acknowledge)
    evtOp := if kind = .acknowledge then 7 else 0
    err := decide (kind = .errorResponse)
    op := decide (kind = .writeResponse) }

inductive WireErrorCode
  | unsupportedCmd | sequencerNotKnown | unauthorizedAccess
  | lockedMemAccess | requestCanceled | requestNotFound | epError
  | epNotFound | pwmInNoSignal | reqStorageOverflow | requestRejected
  | pociFailure | presentationTimeTooFar | gptpFail | invalidParameter
  | chainAborted | chainError
  deriving DecidableEq, Repr

def WireErrorCode.toOctet : WireErrorCode → UInt8
  | .unsupportedCmd => 1
  | .sequencerNotKnown => 2
  | .unauthorizedAccess => 3
  | .lockedMemAccess => 4
  | .requestCanceled => 5
  | .requestNotFound => 6
  | .epError => 7
  | .epNotFound => 8
  | .pwmInNoSignal => 9
  | .reqStorageOverflow => 10
  | .requestRejected => 11
  | .pociFailure => 12
  | .presentationTimeTooFar => 13
  | .gptpFail => 14
  | .invalidParameter => 15
  | .chainAborted => 16
  | .chainError => 17

def encodeErrorPayload (code : WireErrorCode) : Octets := [code.toOctet]

def buildAcknowledgeResponse (byteBusId : UInt16) (transactionNum : UInt8) :
    Octets :=
  encodeAcfAbb
    { byteBusId := byteBusId
      transactionNum := transactionNum
      evtAck := true
      evtOp := 7
      op := true
      rsp := true } []

def headerIsRequest (header : AcfMessageInfo) : Bool := !header.rsp

/-! ## Table 33 and the compound-wait comparison -/

def evtRow2IsPlain (evt : UInt8) : Bool := evt.toNat % 8 = 0

def compoundWaitEvtValid (evt : UInt8) : Bool := evt.toNat % 8 ≠ 3

def be16 (octets : Octets) : Nat :=
  (octetAt octets 0).toNat * 256 + (octetAt octets 1).toNat

def compoundWaitMatch (evt : UInt8) (payload status : Octets) : Bool :=
  if status.length < payload.length then false
  else
    match evt.toNat % 8 with
    | 0 => payload.isPrefixOf status
    | 1 => (payload.zip status).all fun pair =>
        (pair.1 &&& pair.2) ||| ~~~ pair.1 = 0xFF
    | 2 => (payload.zip status).all fun pair => pair.1 &&& pair.2 = 0
    | 4 => decide (4 ≤ payload.length) && decide (be16 status ≤ be16 payload)
    | 5 => decide (4 ≤ payload.length) && decide (be16 payload ≤ be16 status)
    | 6 => decide (4 ≤ payload.length) &&
        decide (be16 (status.drop 2) ≤ be16 (payload.drop 2))
    | 7 => decide (4 ≤ payload.length) &&
        decide (be16 (payload.drop 2) ≤ be16 (status.drop 2))
    | _ => false

def peekGbbRequestType (frame : Octets) : Option UInt8 :=
  if frame.length < 9 then none
  else if (decodeAcfMessageInfo frame).acfMsgType ≠ acfMsgTypeGbb then none
  else some (octetAt frame acfCommonHeaderLen)

/-! ## Lengths -/

@[simp] theorem length_encodeAcfMessageInfo (info : AcfMessageInfo) :
    (encodeAcfMessageInfo info).length = 8 := rfl

@[simp] theorem length_encodeAcfAbb (info : AcfMessageInfo)
    (payload : Octets) :
    (encodeAcfAbb info payload).length = 8 + payload.length := by
  simp [encodeAcfAbb]

@[simp] theorem length_encodeAcfGbb (info : AcfMessageInfo)
    (messageTimestamp : Nat) (payload : Octets) :
    (encodeAcfGbb info messageTimestamp payload).length =
      16 + payload.length := by
  simp only [encodeAcfGbb, List.length_append, length_putBe,
    length_encodeAcfMessageInfo]

/-! ## Octets of a buffer -/

theorem octetAt_eq_getD (octets : Octets) (index : Nat) :
    octetAt octets index = octets[index]?.getD 0 :=
  List.getD_eq_getElem?_getD

theorem getElem?_eq_octetAt {octets : Octets} {index : Nat}
    (h : index < octets.length) :
    octets[index]? = some (octetAt octets index) := by
  rw [octetAt_eq_getD, List.getElem?_eq_getElem h, Option.getD_some]

theorem octetAt_of_le {octets : Octets} {index : Nat}
    (h : octets.length ≤ index) : octetAt octets index = 0 := by
  simp [octetAt_eq_getD, h]

theorem octetAt_take {octets : Octets} {count index : Nat}
    (h : index < count) :
    octetAt (octets.take count) index = octetAt octets index := by
  simp [octetAt_eq_getD, h]

theorem octetAt_drop (octets : Octets) (count index : Nat) :
    octetAt (octets.drop count) index = octetAt octets (count + index) := by
  simp [octetAt_eq_getD]

theorem octetAt_append {octets rest : Octets} {index : Nat}
    (h : index < octets.length) :
    octetAt (octets ++ rest) index = octetAt octets index := by
  simp [octetAt_eq_getD, List.getElem?_append_left h]

theorem drop_eq_octetAt_cons {octets : Octets} {index : Nat}
    (h : index < octets.length) :
    octets.drop index = octetAt octets index :: octets.drop (index + 1) := by
  rw [List.drop_eq_getElem_cons h, octetAt_eq_getD,
    List.getElem?_eq_getElem h, Option.getD_some]

theorem be16_drop (octets : Octets) (start : Nat) :
    be16 (octets.drop start) =
      (octetAt octets start).toNat * 256 +
        (octetAt octets (start + 1)).toNat := by
  simp only [be16, octetAt_drop, Nat.add_zero]

private theorem be16_lt (octets : Octets) : be16 octets < 65536 := by
  have hHigh := (octetAt octets 0).toNat_lt
  have hLow := (octetAt octets 1).toNat_lt
  unfold be16
  omega

theorem toNat_ofNat_be16 (octets : Octets) :
    (UInt16.ofNat (be16 octets)).toNat = be16 octets :=
  UInt16.toNat_ofNat_of_lt' (be16_lt octets)

theorem be16_putBe {value : Nat} (h : value < 65536) (rest : Octets) :
    be16 (putBe 2 value ++ rest) = value := by
  simp [be16, octetAt, putBe]
  omega

theorem putBe_be16 {octets : Octets} (h : 2 ≤ octets.length) :
    putBe 2 (be16 octets) = octets.take 2 := by
  have hBe : be16 octets = getBe (octets.take 2) := by
    match octets, h with
    | _ :: _ :: _, _ => simp [be16, octetAt, getBe_cons]
  rw [hBe, putBe_take h]

/-! ## Messages that decode -/

theorem decodeAcfAbb_ok {octets payload : Octets} {info : AcfMessageInfo}
    (h : decodeAcfAbb octets = .ok (info, payload)) :
    info = decodeAcfMessageInfo octets ∧
      acfCommonHeaderLen ≤ octets.length ∧
      info.acfMsgType = acfMsgTypeAbb ∧
      payload = octets.drop acfCommonHeaderLen := by
  unfold decodeAcfAbb at h
  split at h
  · cases h
  · split at h
    · cases h
    · next hType =>
        split at h
        · cases h
        · next hLength =>
            cases h
            exact ⟨rfl, Nat.not_lt.mp hLength, not_not.mp hType, rfl⟩

theorem decodeAcfGbb_ok {octets payload : Octets} {info : AcfMessageInfo}
    {ts : Nat} (h : decodeAcfGbb octets = .ok (info, ts, payload)) :
    info = decodeAcfMessageInfo octets ∧
      acfGbbMessageInfoLen ≤ octets.length ∧
      info.acfMsgType = acfMsgTypeGbb ∧
      ts = getBe ((octets.drop acfCommonHeaderLen).take 8) ∧
      payload = octets.drop acfGbbMessageInfoLen := by
  unfold decodeAcfGbb at h
  split at h
  · cases h
  · split at h
    · cases h
    · next hType =>
        split at h
        · cases h
        · next hLength =>
            cases h
            exact ⟨rfl, Nat.not_lt.mp hLength, not_not.mp hType, rfl, rfl⟩

end CppRcp.Acf
