import CppRcp.Wire.Header

/-!
# Several messages in one buffer

`decode_acf_messages`: a walk over a buffer that takes one message after
another by their length fields.  The first message must be well formed; a later
one that is not ends the walk.  A length field that does not fit the buffer is
taken to mean the rest of it.
-/

namespace CppRcp.Acf

open CppRcp.Foundation

/-! ## The walk -/

structure AcfEntry where
  info : AcfMessageInfo
  messageTimestamp : Nat := 0
  payload : Octets
  deriving DecidableEq, Repr

/-- The octets of the message that the entry was decoded from. -/
def AcfEntry.size (entry : AcfEntry) : Nat :=
  headerLen entry.info.acfMsgType + entry.payload.length

/-- The entry decoded from the first `len` octets. -/
def entryOf (octets : Octets) (len : Nat) : AcfEntry :=
  { info := decodeAcfMessageInfo octets
    messageTimestamp :=
      if peekAcfMsgType octets = acfMsgTypeGbb then
        getBe ((octets.drop acfCommonHeaderLen).take 8)
      else 0
    payload := (octets.take len).drop (headerLen (peekAcfMsgType octets)) }

def messageAt (octets : Octets) : Except ErrorCode (AcfEntry × Nat) :=
  let msgType := peekAcfMsgType octets
  if msgType ≠ acfMsgTypeGbb ∧ msgType ≠ acfMsgTypeAbb then
    .error (.acf .badAcfMsgType)
  else if octets.length < headerLen msgType then .error (.avtp .shortBuffer)
  else
    let declared := (decodeAcfMessageInfo octets).acfMsgLength.toNat * 4
    let msgBytes :=
      if declared < headerLen msgType ∨ octets.length < declared then
        octets.length
      else declared
    .ok (entryOf octets msgBytes, msgBytes)

/-- The messages of the rest of the buffer, once one has been decoded; each
is at least a header long, so the length bounds the turns. -/
def messagesFrom : Nat → Octets → List AcfEntry
  | 0, _ => []
  | fuel + 1, octets =>
      if octets = [] then []
      else
        match messageAt octets with
        | .error _ => []
        | .ok (entry, len) => entry :: messagesFrom fuel (octets.drop len)

def decodeAcfMessages (octets : Octets) : Except ErrorCode (List AcfEntry) :=
  if octets = [] then .ok []
  else
    match messageAt octets with
    | .error e => .error e
    | .ok _ => .ok (messagesFrom octets.length octets)

/-! ## What the walk takes -/

/-- Entries decoded one after another from the head of a buffer. -/
def Tiles : Octets → List AcfEntry → Prop
  | _, [] => True
  | octets, entry :: entries =>
      entry.size ≤ octets.length ∧ entry = entryOf octets entry.size ∧
        Tiles (octets.drop entry.size) entries

/-- Where the entries start. -/
def startsFrom : Nat → List AcfEntry → List Nat
  | _, [] => []
  | offset, entry :: entries =>
      offset :: startsFrom (offset + entry.size) entries

section Walk

variable {octets : Octets}

theorem acfMsgType_decodeAcfMessageInfo (octets : Octets) :
    (decodeAcfMessageInfo octets).acfMsgType = peekAcfMsgType octets := rfl

theorem size_entryOf {len : Nat}
    (hHeader : headerLen (peekAcfMsgType octets) ≤ len)
    (hLen : len ≤ octets.length) : (entryOf octets len).size = len := by
  simp only [AcfEntry.size, entryOf, acfMsgType_decodeAcfMessageInfo,
    List.length_drop, List.length_take]
  omega

private theorem messageAt_ok {entry : AcfEntry} {len : Nat}
    (h : messageAt octets = .ok (entry, len)) :
    entry = entryOf octets len ∧
      headerLen (peekAcfMsgType octets) ≤ len ∧ len ≤ octets.length := by
  unfold messageAt at h
  dsimp only at h
  split at h
  · cases h
  · split at h
    · cases h
    · next hHeader =>
        cases h
        refine ⟨rfl, ?_⟩
        split <;> omega

private theorem pos_of_messageAt {entry : AcfEntry} {len : Nat}
    (h : messageAt octets = .ok (entry, len)) : 0 < len := by
  obtain ⟨-, hHeader, -⟩ := messageAt_ok h
  have hEight := le_headerLen (peekAcfMsgType octets)
  unfold acfCommonHeaderLen at hEight
  omega

theorem messagesFrom_fuel (octets : Octets) {fuel more : Nat}
    (hFuel : octets.length ≤ fuel) (hMore : octets.length ≤ more) :
    messagesFrom fuel octets = messagesFrom more octets := by
  induction fuel generalizing octets more with
  | zero =>
      have hEmpty : octets = [] := List.length_eq_zero_iff.mp (by omega)
      cases more <;> simp [messagesFrom, hEmpty]
  | succ fuel ih =>
      by_cases hEmpty : octets = []
      · cases more <;> simp [messagesFrom, hEmpty]
      · have hLength := List.length_pos_iff.mpr hEmpty
        cases more with
        | zero => omega
        | succ more =>
            unfold messagesFrom
            rw [if_neg hEmpty, if_neg hEmpty]
            rcases hAt : messageAt octets with e | ⟨entry, len⟩
            · rfl
            · have hPos := pos_of_messageAt hAt
              have hShorter : (octets.drop len).length < octets.length := by
                rw [List.length_drop]
                omega
              exact congrArg (entry :: ·) (ih _ (by omega) (by omega))

private theorem tiles_messagesFrom (fuel : Nat) (octets : Octets) :
    Tiles octets (messagesFrom fuel octets) := by
  induction fuel generalizing octets with
  | zero => trivial
  | succ fuel ih =>
      unfold messagesFrom
      split
      · trivial
      · rcases hAt : messageAt octets with e | ⟨entry, len⟩
        · trivial
        · obtain ⟨rfl, hHeader, hLen⟩ := messageAt_ok hAt
          have hSize := size_entryOf hHeader hLen
          refine ⟨hSize.symm ▸ hLen, by rw [hSize], ?_⟩
          rw [hSize]
          exact ih _

theorem tiles_decodeAcfMessages {entries : List AcfEntry}
    (h : decodeAcfMessages octets = .ok entries) : Tiles octets entries := by
  unfold decodeAcfMessages at h
  split at h
  · cases h
    trivial
  · rcases hAt : messageAt octets with e | first
    · rw [hAt] at h
      cases h
    · rw [hAt] at h
      cases h
      exact tiles_messagesFrom _ octets

end Walk

/-! ## Messages and their encodings -/

inductive AcfMessage
  | abb (info : AcfMessageInfo) (payload : Octets)
  | gbb (info : AcfMessageInfo) (messageTimestamp : UInt64)
      (payload : Octets)
  deriving DecidableEq, Repr

namespace AcfMessage

def info : AcfMessage → AcfMessageInfo
  | .abb info _ => info
  | .gbb info _ _ => info

def payload : AcfMessage → Octets
  | .abb _ payload => payload
  | .gbb _ _ payload => payload

def msgType : AcfMessage → UInt8
  | .abb _ _ => acfMsgTypeAbb
  | .gbb _ _ _ => acfMsgTypeGbb

def encode : AcfMessage → Octets
  | .abb info payload => encodeAcfAbb info payload
  | .gbb info messageTimestamp payload =>
      encodeAcfGbb info messageTimestamp.toNat payload

/-- The limit of the payload: `kAcfAbbMaxPayload` or `kAcfGbbMaxPayload`. -/
def maxPayload : AcfMessage → Nat
  | .abb _ _ => acfAbbMaxPayload
  | .gbb _ _ _ => acfGbbMaxPayload

def msgLength (message : AcfMessage) : UInt16 :=
  if message.info.acfMsgLength = 0 then
    computeAcfMsgLength message.msgType message.payload.length
  else message.info.acfMsgLength

/-- The header that is encoded. -/
def header (message : AcfMessage) : AcfMessageInfo :=
  { message.info with
    acfMsgType := message.msgType
    mtv := match message with
      | .abb _ _ => false
      | .gbb info _ _ => info.mtv
    acfMsgLength := message.msgLength }

def timestampOctets : AcfMessage → Octets
  | .abb _ _ => []
  | .gbb _ messageTimestamp _ => putBe 8 messageTimestamp.toNat

/-- What the message is on the wire: its header with every field cut to its
width there, and its timestamp and payload. -/
def onWire (message : AcfMessage) : AcfEntry :=
  { info := message.header.truncated
    messageTimestamp := match message with
      | .abb _ _ => 0
      | .gbb _ messageTimestamp _ => messageTimestamp.toNat
    payload := message.payload }

/-- The length field, as it is encoded, is the length of the encoding. -/
def Exact (message : AcfMessage) : Prop :=
  message.msgLength.toNat % 512 * 4 = message.encode.length

instance (message : AcfMessage) : Decidable message.Exact :=
  inferInstanceAs (Decidable (_ = _))

variable (message : AcfMessage)

theorem encode_eq :
    message.encode =
      encodeAcfMessageInfo message.header ++
        (message.timestampOctets ++ message.payload) := by
  cases message with
  | abb info payload =>
      simp only [encode, encodeAcfAbb, header, msgLength, timestampOctets,
        AcfMessage.payload, AcfMessage.info, msgType, List.nil_append]
      split <;> simp_all
  | gbb info messageTimestamp payload =>
      simp only [encode, encodeAcfGbb, header, msgLength, timestampOctets,
        AcfMessage.payload, AcfMessage.info, msgType, List.append_assoc]
      split <;> simp_all

theorem length_encode :
    message.encode.length =
      headerLen message.msgType + message.payload.length := by
  cases message with
  | abb info payload => exact length_encodeAcfAbb info payload
  | gbb info messageTimestamp payload => exact length_encodeAcfGbb info _ payload

theorem decode_encode (rest : Octets) :
    decodeAcfMessageInfo (message.encode ++ rest) =
      message.header.truncated := by
  rw [encode_eq, List.append_assoc, decode_encodeAcfMessageInfo]

theorem peekAcfMsgType_encode (rest : Octets) :
    peekAcfMsgType (message.encode ++ rest) = message.msgType := by
  rw [← acfMsgType_decodeAcfMessageInfo, decode_encode]
  cases message <;> rfl

private theorem aligned_bound_of_limit
    (hLimit : message.payload.length ≤ message.maxPayload) :
    headerLen message.msgType + message.payload.length ≤ 2044 ∧
      headerLen message.msgType % 4 = 0 := by
  cases message with
  | abb info payload =>
      simp only [maxPayload, acfAbbMaxPayload, acfMaxQuadlets,
        acfCommonHeaderLen, AcfMessage.payload] at hLimit
      simp only [msgType, headerLen, AcfMessage.payload, acfMsgTypeAbb,
        acfMsgTypeGbb, acfCommonHeaderLen]
      exact ⟨by simp; omega, by simp⟩
  | gbb info messageTimestamp payload =>
      simp only [maxPayload, acfGbbMaxPayload, acfMaxQuadlets,
        acfGbbMessageInfoLen, AcfMessage.payload] at hLimit
      simp only [msgType, headerLen, AcfMessage.payload, acfGbbMessageInfoLen]
      exact ⟨by simp; omega, by simp⟩

theorem exact_iff_aligned (hUnset : message.info.acfMsgLength = 0)
    (hLimit : message.payload.length ≤ message.maxPayload) :
    message.Exact ↔ message.payload.length % 4 = 0 := by
  obtain ⟨hBound, hHeader⟩ := message.aligned_bound_of_limit hLimit
  unfold Exact msgLength computeAcfMsgLength
  rw [if_pos hUnset, length_encode, UInt16.toNat_ofNat']
  omega

private theorem timestamp_encode (info : AcfMessageInfo)
    (messageTimestamp : UInt64) (payload rest : Octets) :
    getBe (((encode (.gbb info messageTimestamp payload) ++ rest).drop
      acfCommonHeaderLen).take 8) = messageTimestamp.toNat := by
  have hStamp : ((encode (.gbb info messageTimestamp payload) ++ rest).drop
      acfCommonHeaderLen).take 8 = putBe 8 messageTimestamp.toNat := rfl
  have hLt := messageTimestamp.toNat_lt
  rw [hStamp, getBe_putBe_of_lt (by omega)]

theorem entryOf_encode (rest : Octets) :
    entryOf (message.encode ++ rest) message.encode.length =
      message.onWire := by
  have hPayload : ((message.encode ++ rest).take message.encode.length).drop
      (headerLen message.msgType) = message.payload := by
    rw [List.take_left]
    cases message with
    | abb info payload => rfl
    | gbb info messageTimestamp payload => rfl
  unfold entryOf onWire
  rw [decode_encode, peekAcfMsgType_encode, hPayload]
  cases message with
  | abb info payload => rfl
  | gbb info messageTimestamp payload =>
      simp [msgType, timestamp_encode]

theorem decodeAcfAbb_encode_append (info : AcfMessageInfo)
    (payload rest : Octets) :
    decodeAcfAbb (encode (.abb info payload) ++ rest) =
      .ok ((header (.abb info payload)).truncated, payload ++ rest) := by
  have hDecoded := decode_encode (.abb info payload) rest
  have hType := peekAcfMsgType_encode (.abb info payload) rest
  have hLength := length_encodeAcfAbb info payload
  have hPayload : (encode (.abb info payload) ++ rest).drop acfCommonHeaderLen =
      payload ++ rest := rfl
  change (encode (.abb info payload)).length = _ at hLength
  unfold decodeAcfAbb acfCommonHeaderLen
  rw [List.length_append, if_neg (by omega), hType, if_neg (by simp [msgType]),
    if_neg (by omega), hDecoded]
  exact congrArg (fun octets => Except.ok (_, octets)) hPayload

theorem decodeAcfAbb_encode (info : AcfMessageInfo) (payload : Octets) :
    decodeAcfAbb (encode (.abb info payload)) =
      .ok ((header (.abb info payload)).truncated, payload) := by
  simpa using decodeAcfAbb_encode_append info payload []

theorem decodeAcfGbb_encode_append (info : AcfMessageInfo)
    (messageTimestamp : UInt64) (payload rest : Octets) :
    decodeAcfGbb (encode (.gbb info messageTimestamp payload) ++ rest) =
      .ok ((header (.gbb info messageTimestamp payload)).truncated,
        messageTimestamp.toNat, payload ++ rest) := by
  have hDecoded := decode_encode (.gbb info messageTimestamp payload) rest
  have hType := peekAcfMsgType_encode (.gbb info messageTimestamp payload) rest
  have hLength := length_encodeAcfGbb info messageTimestamp.toNat payload
  have hStamp := timestamp_encode info messageTimestamp payload rest
  have hPayload : (encode (.gbb info messageTimestamp payload) ++ rest).drop
      acfGbbMessageInfoLen = payload ++ rest := rfl
  change (encode (.gbb info messageTimestamp payload)).length = _ at hLength
  unfold decodeAcfGbb
  rw [hStamp, hPayload, hDecoded, hType, List.length_append]
  unfold acfGbbMessageInfoLen
  rw [if_neg (by omega), if_neg (by simp [msgType]), if_neg (by omega)]

theorem decodeAcfGbb_encode (info : AcfMessageInfo)
    (messageTimestamp : UInt64) (payload : Octets) :
    decodeAcfGbb (encode (.gbb info messageTimestamp payload)) =
      .ok ((header (.gbb info messageTimestamp payload)).truncated,
        messageTimestamp.toNat, payload) := by
  simpa using decodeAcfGbb_encode_append info messageTimestamp payload []

end AcfMessage

end CppRcp.Acf
