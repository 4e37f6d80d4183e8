import CppRcp.Wire.AcfMessages
import CppRcp.Wire.Avtp

/-!
# Frames of the transports

An AVTPDU is an NTSCF or a TSCF header and the ACF messages behind it: one in
a `Frame`, one or more in a `MultiFrame`.  `udp.hpp` and `l2.hpp` define the
same codec of both, and the same assembly of a server's reply.
-/

namespace CppRcp.Transport

open CppRcp.Foundation CppRcp.Acf CppRcp.Avtp CppRcp.E2e

/-! ## The header of a frame -/

/-- The fields that a `Frame` and a `MultiFrame` have in common. -/
structure Envelope where
  useTscf : Bool := false
  streamId : StreamId := 0
  sequenceNum : UInt16 := 0
  timestampValid : Bool := false
  avtpTimestamp : UInt32 := 0
  deriving DecidableEq, Repr

structure Frame extends Envelope where
  info : AcfMessageInfo := {}
  messageTimestamp : Nat := 0
  payload : Octets := []
  deriving DecidableEq, Repr

structure MultiFrame extends Envelope where
  messages : List AcfEntry := []
  deriving DecidableEq, Repr

/-- What both frame encoders do with the ACF octets.  The sequence number and
the count are cut to the widths of the header's fields. -/
def encodeEnvelope (envelope : Envelope) (acfBytes : Octets) : Octets :=
  let sequenceNum := UInt8.ofNat envelope.sequenceNum.toNat
  let controlDataLength := UInt16.ofNat acfBytes.length
  (if envelope.useTscf then
    encodeTscfHeader
      { streamId := envelope.streamId
        sequenceNum := sequenceNum
        controlDataLength := controlDataLength
        timestampValid := envelope.timestampValid
        avtpTimestamp := envelope.avtpTimestamp }
  else
    encodeNtscfHeader
      { streamId := envelope.streamId
        sequenceNum := sequenceNum
        controlDataLength := controlDataLength }) ++ acfBytes

/-- The header and the octets behind it, which must be as many as the header
counts. -/
def decodeEnvelope (octets : Octets) : Except ErrorCode (Envelope × Octets) :=
  if octets.length < 1 then .error (.avtp .shortBuffer)
  else if octetAt octets 0 = subtypeTscf then
    match decodeTscfHeader octets with
    | .error e => .error e
    | .ok header =>
        let acfBytes := octets.drop tscfHeaderLen
        if header.controlDataLength.toNat ≠ acfBytes.length then
          .error (.avtp .lengthMismatch)
        else
          .ok
            ({ useTscf := true
               streamId := header.streamId
               sequenceNum := UInt16.ofNat header.sequenceNum.toNat
               timestampValid := header.timestampValid
               avtpTimestamp := header.avtpTimestamp }, acfBytes)
  else
    match decodeNtscfHeader octets with
    | .error e => .error e
    | .ok header =>
        let acfBytes := octets.drop ntscfHeaderLen
        if header.controlDataLength.toNat ≠ acfBytes.length then
          .error (.avtp .lengthMismatch)
        else
          .ok
            ({ streamId := header.streamId
               sequenceNum := UInt16.ofNat header.sequenceNum.toNat },
              acfBytes)

/-! ## The codec -/

def encodeEntry (info : AcfMessageInfo) (messageTimestamp : Nat)
    (payload : Octets) : Octets :=
  if info.acfMsgType = acfMsgTypeGbb then
    encodeAcfGbb info messageTimestamp payload
  else encodeAcfAbb info payload

def encodeFrame (frame : Frame) : Octets :=
  encodeEnvelope frame.toEnvelope
    (encodeEntry frame.info frame.messageTimestamp frame.payload)

def decodeFrame (octets : Octets) : Except ErrorCode Frame :=
  match decodeEnvelope octets with
  | .error e => .error e
  | .ok (envelope, acfBytes) =>
      if acfBytes.length < 1 then .error (.avtp .shortBuffer)
      else if peekAcfMsgType acfBytes = acfMsgTypeGbb then
        match decodeAcfGbb acfBytes with
        | .error e => .error e
        | .ok (info, messageTimestamp, payload) =>
            .ok ⟨envelope, info, messageTimestamp, payload⟩
      else
        match decodeAcfAbb acfBytes with
        | .error e => .error e
        | .ok (info, payload) => .ok ⟨envelope, info, 0, payload⟩

def encodeMultiFrame (frame : MultiFrame) : Octets :=
  encodeEnvelope frame.toEnvelope
    (frame.messages.flatMap fun entry =>
      encodeEntry entry.info entry.messageTimestamp entry.payload)

def decodeMultiFrame (octets : Octets) : Except ErrorCode MultiFrame :=
  match decodeEnvelope octets with
  | .error e => .error e
  | .ok (envelope, acfBytes) =>
      if acfBytes.length < 1 then .error (.avtp .shortBuffer)
      else
        match decodeAcfMessages acfBytes with
        | .error e => .error e
        | .ok messages => .ok ⟨envelope, messages⟩

/-! ## The reply of a server -/

structure FrameResponse where
  info : AcfMessageInfo
  payload : Octets := []
  deriving DecidableEq, Repr

/-- What a server is given for one datagram: the stream, the sequence number
and the ACF octets.  Where none is set, every member is acknowledged. -/
abbrev Handler := StreamId → UInt8 → Octets → List FrameResponse

def handlerResults (handler : Option Handler) (request : MultiFrame)
    (avtpdu : Octets) : List FrameResponse :=
  let acfOff := if request.useTscf then tscfHeaderLen else ntscfHeaderLen
  match handler with
  | some handler =>
      handler request.streamId (UInt8.ofNat request.sequenceNum.toNat)
        (avtpdu.drop acfOff)
  | none =>
      request.messages.map fun entry =>
        { info := makeResponse entry.info .acknowledge }

/-- The entries of the reply: what is not a response is left out. -/
def replyMessages (results : List FrameResponse) : List AcfEntry :=
  (results.filter fun result => result.info.rsp).map fun result =>
    { info := result.info, payload := result.payload }

/-- One turn of `Server::serve`, for a datagram that has arrived; `seq` is the
number of the reply before.  Nothing is sent where no member is answered. -/
def serve (streamId : StreamId) (seq : UInt16) (handler : Option Handler)
    (avtpdu : Octets) : Option Octets :=
  match decodeMultiFrame avtpdu with
  | .error _ => none
  | .ok request =>
      let messages := replyMessages (handlerResults handler request avtpdu)
      if messages = [] then none
      else
        some (encodeMultiFrame
          { useTscf := request.useTscf
            streamId := streamId
            sequenceNum := seq + 1
            timestampValid := request.timestampValid
            avtpTimestamp := request.avtpTimestamp
            messages := messages })

/-! ## Lengths -/

theorem length_encodeEntry (entry : AcfEntry) :
    (encodeEntry entry.info entry.messageTimestamp entry.payload).length =
      entry.size := by
  unfold encodeEntry AcfEntry.size headerLen
  split <;> simp [acfGbbMessageInfoLen, acfCommonHeaderLen]

/-- The octets of all entries together. -/
def totalLen (entries : List AcfEntry) : Nat :=
  (entries.map AcfEntry.size).sum

theorem length_flatMap_encodeEntry (entries : List AcfEntry) :
    (entries.flatMap fun entry => encodeEntry entry.info
      entry.messageTimestamp entry.payload).length = totalLen entries := by
  simp only [List.length_flatMap, length_encodeEntry, totalLen]

/-- What the header of a frame can count. -/
def maxDataLen (useTscf : Bool) : Nat := if useTscf then 65535 else 2047

/-- An envelope with what its header on the wire has room for. -/
def Envelope.onWire (envelope : Envelope) : Envelope :=
  { envelope with
    sequenceNum := UInt16.ofNat (envelope.sequenceNum.toNat % 256)
    timestampValid := envelope.useTscf && envelope.timestampValid
    avtpTimestamp := if envelope.useTscf then envelope.avtpTimestamp else 0 }

theorem decodeEnvelope_encodeEnvelope_append (envelope : Envelope)
    (acfBytes rest : Octets) :
    decodeEnvelope (encodeEnvelope envelope acfBytes ++ rest) =
      if acfBytes.length ≤ maxDataLen envelope.useTscf ∧ rest = [] then
        .ok (envelope.onWire, acfBytes)
      else .error (.avtp .lengthMismatch) := by
  have hOctet : UInt16.ofNat (UInt8.ofNat envelope.sequenceNum.toNat).toNat =
      UInt16.ofNat (envelope.sequenceNum.toNat % 256) := by
    rw [UInt8.toNat_ofNat']
  have hRest : rest = [] ↔ rest.length = 0 := List.length_eq_zero_iff.symm
  unfold decodeEnvelope encodeEnvelope maxDataLen Envelope.onWire
  rw [List.append_assoc]
  cases hKind : envelope.useTscf with
  | false =>
      simp only [Bool.false_eq_true, if_false]
      have hSubtype : octetAt (encodeNtscfHeader
          { streamId := envelope.streamId
            sequenceNum := UInt8.ofNat envelope.sequenceNum.toNat
            controlDataLength := UInt16.ofNat acfBytes.length } ++
          (acfBytes ++ rest)) 0 = subtypeNtscf := rfl
      rw [if_neg (by simp [ntscfHeaderLen]), hSubtype, if_neg (by decide),
        decode_encodeNtscfHeader, List.drop_left' (by simp)]
      dsimp only
      rw [hOctet, UInt16.toNat_ofNat', UInt16.toNat_ofNat',
        List.length_append]
      split
      · rw [if_neg (by rw [hRest]; omega)]
      · rw [if_pos (by rw [hRest]; omega), hRest.mpr (by omega),
          List.append_nil]
        rfl
  | true =>
      simp only [if_true]
      have hSubtype : octetAt (encodeTscfHeader
          { streamId := envelope.streamId
            sequenceNum := UInt8.ofNat envelope.sequenceNum.toNat
            controlDataLength := UInt16.ofNat acfBytes.length
            timestampValid := envelope.timestampValid
            avtpTimestamp := envelope.avtpTimestamp } ++
          (acfBytes ++ rest)) 0 = subtypeTscf := rfl
      rw [if_neg (by simp [tscfHeaderLen]), hSubtype, if_pos rfl,
        decode_encodeTscfHeader, List.drop_left' (by simp)]
      dsimp only
      rw [hOctet, UInt16.toNat_ofNat', List.length_append]
      split
      · rw [if_neg (by rw [hRest]; omega)]
      · rw [if_pos (by rw [hRest]; omega), hRest.mpr (by omega),
          List.append_nil]
        rfl

theorem decodeEnvelope_encodeEnvelope (envelope : Envelope)
    (acfBytes : Octets) :
    decodeEnvelope (encodeEnvelope envelope acfBytes) =
      if acfBytes.length ≤ maxDataLen envelope.useTscf then
        .ok (envelope.onWire, acfBytes)
      else .error (.avtp .lengthMismatch) := by
  have hNothing := decodeEnvelope_encodeEnvelope_append envelope acfBytes []
  simpa only [List.append_nil, and_true] using hNothing

end CppRcp.Transport
