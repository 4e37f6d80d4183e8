import CppRcp.Foundation.PackedWords
import CppRcp.Foundation.Readers
import CppRcp.Properties.CanRoundTrips

/-!
# MDIO requests through the codecs

Two families of requests, MMD and MMS, which one bit of the mode octet tells
apart: no message is a request of both.  Decoding an encoded request returns
it.  The decoders do not compare the mode octet with the word count and pass
over what follows a read request, so a decoded request is encoded to the same
payload exactly if these are as the encoder writes them.
-/

namespace CppRcp.Mdio

open CppRcp.Foundation CppRcp.Acf CppRcp.Endpoint

/-! ## Words -/

def unpackWords (data : Octets) (count : Nat) : List UInt16 :=
  (List.range count).map (unpackWordAt data)

def mmsUnpackWords (mms : UInt8) (data : Octets) (count : Nat) :
    List UInt32 :=
  (List.range count).map (mmsUnpackWordAt mms data)

def mmsWireWord (mms : UInt8) (word : UInt32) : UInt32 :=
  if mmsUses32bitWords mms then word else UInt32.ofNat (word.toNat % 2 ^ 16)

private theorem mmsWordWidth_cases (mms : UInt8) :
    mmsWordWidth mms = 4 ∨ mmsWordWidth mms = 2 := by
  unfold mmsWordWidth
  split <;> simp

private theorem packWords_eq (words : List UInt16) :
    packWords words = packBe 2 (words.map UInt16.toNat) := by
  unfold packWords packBe
  rw [List.flatMap_map]

private theorem mmsPackWords_eq (mms : UInt8) (words : List UInt32) :
    mmsPackWords mms words =
      packBe (mmsWordWidth mms) (words.map UInt32.toNat) := by
  unfold mmsPackWords packBe
  rw [List.flatMap_map]

private theorem map_range_eq_unpackBe {α : Type} {width count : Nat}
    {data : Octets} (f : Nat → α) :
    ((List.range count).map fun i =>
        f (getBe ((data.drop (width * i)).take width))) =
      (unpackBe width count data).map f := by
  apply List.ext_getElem?
  intro i
  rw [List.getElem?_map, List.getElem?_map]
  rcases Nat.lt_or_ge i count with hInside | hOutside
  · rw [List.getElem?_range hInside, getElem?_unpackBe hInside]
    rfl
  · rw [List.getElem?_eq_none (by rwa [List.length_range]),
      List.getElem?_eq_none (by rwa [length_unpackBe])]
    rfl

private theorem unpackWords_eq (data : Octets) (count : Nat) :
    unpackWords data count = (unpackBe 2 count data).map UInt16.ofNat :=
  map_range_eq_unpackBe UInt16.ofNat

private theorem mmsUnpackWords_eq (mms : UInt8) (data : Octets) (count : Nat) :
    mmsUnpackWords mms data count =
      (unpackBe (mmsWordWidth mms) count data).map UInt32.ofNat :=
  map_range_eq_unpackBe UInt32.ofNat

private theorem unpackWords_packWords (words : List UInt16) :
    unpackWords (packWords words) words.length = words := by
  have hUnpack := unpackBe_packBe 2 (words.map UInt16.toNat)
  rw [List.length_map] at hUnpack
  rw [unpackWords_eq, packWords_eq, hUnpack, List.map_map, List.map_map]
  refine (List.map_congr_left fun word _ => ?_).trans (List.map_id words)
  have hWord := word.toNat_lt
  simp only [Function.comp_apply, id]
  rw [Nat.mod_eq_of_lt (by omega), UInt16.ofNat_toNat]

private theorem mmsUnpackWords_mmsPackWords (mms : UInt8)
    (words : List UInt32) :
    mmsUnpackWords mms (mmsPackWords mms words) words.length =
      words.map (mmsWireWord mms) := by
  have hUnpack := unpackBe_packBe (mmsWordWidth mms)
    (words.map UInt32.toNat)
  rw [List.length_map] at hUnpack
  rw [mmsUnpackWords_eq, mmsPackWords_eq, hUnpack, List.map_map, List.map_map]
  apply List.map_congr_left
  intro word _
  have hWord := word.toNat_lt
  simp only [Function.comp_apply]
  unfold mmsWireWord mmsWordWidth
  split
  · rw [Nat.mod_eq_of_lt (by omega), UInt32.ofNat_toNat]
  · rfl

private theorem packWords_unpackWords {data : Octets} {count : Nat}
    (h : data.length = count * 2) :
    packWords (unpackWords data count) = data := by
  rw [packWords_eq, unpackWords_eq, List.map_map]
  refine Eq.trans (congrArg (packBe 2) ?_) (packBe_unpackBe h)
  refine (List.map_congr_left fun value hMem => ?_).trans (List.map_id _)
  have hValue := unpackBe_lt value hMem
  exact UInt16.toNat_ofNat_of_lt' hValue

private theorem mmsPackWords_mmsUnpackWords {mms : UInt8} {data : Octets}
    {count : Nat} (h : data.length = count * mmsWordWidth mms) :
    mmsPackWords mms (mmsUnpackWords mms data count) = data := by
  rw [mmsPackWords_eq, mmsUnpackWords_eq, List.map_map]
  refine Eq.trans (congrArg (packBe _) ?_) (packBe_unpackBe h)
  refine (List.map_congr_left fun value hMem => ?_).trans (List.map_id _)
  have hValue := unpackBe_lt value hMem
  have hWidth : 256 ^ mmsWordWidth mms ≤ 2 ^ 32 := by
    rcases mmsWordWidth_cases mms with hFour | hTwo
    · simp [hFour]
    · simp [hTwo]
  exact UInt32.toNat_ofNat_of_lt' (hValue.trans_le hWidth)

/-! ## The stages of the decoders -/

section Stages

variable {octets payload : Octets} {expectedBusId : UInt16} {write : Bool}
  {minPayloadLen : Nat} {transactionNum : UInt8}

private theorem openRequest_encode (byteBusId : UInt16) (write : Bool)
    (transactionNum : UInt8) (payload : Octets)
    (h : minPayloadLen ≤ payload.length) :
    openRequest write minPayloadLen
        (plainRequest byteBusId write transactionNum payload).encode
        (wireBusId byteBusId) =
      .ok (transactionNum, payload) := by
  obtain ⟨info, hReceive, hBus, hOp, hEvt, hTransaction⟩ :=
    receiveRequest_encode (.mdio .shortFrame) (.mdio .badMsgType) byteBusId
      write transactionNum payload
  unfold openRequest
  rw [hReceive]
  dsimp only
  rw [hBus, if_neg (not_not_intro rfl), hOp, if_neg (not_not_intro rfl), hEvt,
    if_neg (by decide), if_neg (by omega), hTransaction]

private theorem openRequest_ok
    (h : openRequest write minPayloadLen octets expectedBusId =
      .ok (transactionNum, payload)) :
    payload = payloadOf octets ∧ minPayloadLen ≤ payload.length := by
  unfold openRequest at h
  split at h
  · cases h
  · rename_i info received hReceive
    split_ifs at h with hBus hOp hEvt hLength
    cases h
    exact ⟨receiveRequest_ok hReceive, not_lt.mp hLength⟩

private theorem ofOctet_toOctet (mode : MdioMode) :
    MdioMode.ofOctet mode.toOctet = mode := by
  cases mode <;> rfl

private theorem not_mms_modeForWordCount (wordCount : Nat) :
    modeIsUnsupportedMms (modeForWordCount wordCount) = false := by
  unfold modeForWordCount
  split <;> rfl

private theorem mms_mmsModeForWordCount (wordCount : Nat) :
    modeIsUnsupportedMms (mmsModeForWordCount wordCount) = true := by
  unfold mmsModeForWordCount
  split <;> rfl

private theorem getAddrPrefix_putAddrPrefix (addr : MdioAddr) (rest : Octets) :
    getAddrPrefix (putAddrPrefix addr ++ rest) = some addr := by
  have hRegad : be16 ((putAddrPrefix addr ++ rest).drop 3) =
      addr.regad.toNat := be16_putBe addr.regad.toNat_lt rest
  unfold getAddrPrefix
  rw [hRegad, UInt16.ofNat_toNat]
  obtain ⟨clause, prtad, devad, regad⟩ := addr
  cases clause <;> rfl

private theorem getMmsAddrPrefix_putMmsAddrPrefix (addr : MdioMmsAddr)
    (rest : Octets) :
    getMmsAddrPrefix (putMmsAddrPrefix addr ++ rest) = addr := by
  have hAddr : be16 ((putMmsAddrPrefix addr ++ rest).drop 1) =
      addr.addr.toNat := be16_putBe addr.addr.toNat_lt rest
  unfold getMmsAddrPrefix
  rw [hAddr, UInt16.ofNat_toNat]
  rfl

private theorem openMmd_encode {addr : MdioAddr} (hAddr : addrValid addr = true)
    (wordCount : Nat) (rest : Octets) :
    openMmd ((modeForWordCount wordCount).toOctet ::
        (putAddrPrefix addr ++ rest)) = .ok addr := by
  have hMode : octetAt ((modeForWordCount wordCount).toOctet ::
      (putAddrPrefix addr ++ rest)) 0 =
        (modeForWordCount wordCount).toOctet := rfl
  have hDrop : ((modeForWordCount wordCount).toOctet ::
      (putAddrPrefix addr ++ rest)).drop kModeOctetLen =
        putAddrPrefix addr ++ rest := rfl
  unfold openMmd
  rw [hMode, ofOctet_toOctet, not_mms_modeForWordCount,
    if_neg Bool.false_ne_true, hDrop, getAddrPrefix_putAddrPrefix]
  dsimp only
  rw [hAddr, if_neg (by decide)]

private theorem openMms_encode {addr : MdioMmsAddr}
    (hAddr : mmsAddrValid addr = true) (wordCount : Nat) (rest : Octets) :
    openMms ((mmsModeForWordCount wordCount).toOctet ::
        (putMmsAddrPrefix addr ++ rest)) = .ok addr := by
  have hMode : octetAt ((mmsModeForWordCount wordCount).toOctet ::
      (putMmsAddrPrefix addr ++ rest)) 0 =
        (mmsModeForWordCount wordCount).toOctet := rfl
  have hDrop : ((mmsModeForWordCount wordCount).toOctet ::
      (putMmsAddrPrefix addr ++ rest)).drop kModeOctetLen =
        putMmsAddrPrefix addr ++ rest := rfl
  unfold openMms
  rw [hMode, ofOctet_toOctet, mms_mmsModeForWordCount,
    if_neg (by decide), hDrop, getMmsAddrPrefix_putMmsAddrPrefix]
  dsimp only
  rw [hAddr, if_neg (by decide)]

private theorem putAddrPrefix_getAddrPrefix {addr : MdioAddr}
    (h : getAddrPrefix octets = some addr)
    (hLength : kAddrPrefixLen ≤ octets.length) :
    putAddrPrefix addr = octets.take kAddrPrefixLen := by
  match octets, hLength with
  | clause :: prtad :: devad :: high :: low :: rest, _ =>
      have hRegad : putBe 2 (UInt16.ofNat (be16 (high :: low :: rest))).toNat =
          [high, low] := by
        rw [toNat_ofNat_be16, putBe_be16 (by simp)]
        rfl
      unfold getAddrPrefix at h
      dsimp only at h
      split at h
      · rename_i hClause
        obtain rfl : clause = 0 := UInt8.toNat_inj.mp hClause
        cases h
        exact congrArg ([0, prtad, devad] ++ ·) hRegad
      · rename_i hClause
        obtain rfl : clause = 1 := UInt8.toNat_inj.mp hClause
        cases h
        exact congrArg ([1, prtad, devad] ++ ·) hRegad
      · cases h

private theorem putMmsAddrPrefix_getMmsAddrPrefix
    (hLength : kMmsAddrPrefixLen ≤ octets.length) :
    putMmsAddrPrefix (getMmsAddrPrefix octets) =
      octets.take kMmsAddrPrefixLen := by
  match octets, hLength with
  | mms :: high :: low :: rest, _ =>
      have hAddr : putBe 2 (UInt16.ofNat (be16 (high :: low :: rest))).toNat =
          [high, low] := by
        rw [toNat_ofNat_be16, putBe_be16 (by simp)]
        rfl
      exact congrArg (mms :: ·) hAddr

private theorem openMmd_ok {addr : MdioAddr} (h : openMmd payload = .ok addr)
    (hLength : kWriteRequestMinPayloadLen ≤ payload.length) :
    modeIsUnsupportedMms (MdioMode.ofOctet (octetAt payload 0)) = false ∧
      addrValid addr = true ∧
      putAddrPrefix addr =
        (payload.drop kModeOctetLen).take kAddrPrefixLen := by
  have hPrefixLength : kAddrPrefixLen ≤
      (payload.drop kModeOctetLen).length := by
    rw [List.length_drop]
    unfold kWriteRequestMinPayloadLen at hLength
    omega
  unfold openMmd at h
  split at h
  · cases h
  · rename_i hMode
    split at h
    · cases h
    · rename_i prefixAddr hPrefix
      split at h
      · cases h
      · rename_i hValid
        cases h
        exact ⟨by simpa using hMode, by simpa using hValid,
          putAddrPrefix_getAddrPrefix hPrefix hPrefixLength⟩

private theorem openMms_ok {addr : MdioMmsAddr} (h : openMms payload = .ok addr)
    (hLength : kMmsWriteRequestMinPayloadLen ≤ payload.length) :
    modeIsUnsupportedMms (MdioMode.ofOctet (octetAt payload 0)) = true ∧
      mmsAddrValid addr = true ∧
      putMmsAddrPrefix addr =
        (payload.drop kModeOctetLen).take kMmsAddrPrefixLen := by
  have hPrefixLength : kMmsAddrPrefixLen ≤
      (payload.drop kModeOctetLen).length := by
    rw [List.length_drop]
    unfold kMmsWriteRequestMinPayloadLen at hLength
    omega
  unfold openMms at h
  split at h
  · cases h
  · rename_i hMode
    dsimp only at h
    split at h
    · cases h
    · rename_i hValid
      cases h
      exact ⟨by simpa using hMode, by simpa using hValid,
        putMmsAddrPrefix_getMmsAddrPrefix hPrefixLength⟩

private theorem checkWordCount_eq {wordCount : Nat} (hPos : 0 < wordCount)
    (hMax : wordCount ≤ maxBurstWords) :
    checkWordCount wordCount = .ok wordCount := by
  unfold checkWordCount
  rw [if_neg (by omega)]

private theorem checkWordCount_ok {wordCount checked : Nat}
    (h : checkWordCount wordCount = .ok checked) :
    checked = wordCount ∧ 0 < wordCount ∧ wordCount ≤ maxBurstWords := by
  unfold checkWordCount at h
  split at h
  · cases h
  · cases h
    exact ⟨rfl, by omega, by omega⟩

end Stages

/-! ## Decoding an encoding -/

def mmdPayload (wordCount : Nat) (addr : MdioAddr) (rest : Octets) : Octets :=
  (modeForWordCount wordCount).toOctet :: (putAddrPrefix addr ++ rest)

def mmsPayload (wordCount : Nat) (addr : MdioMmsAddr) (rest : Octets) :
    Octets :=
  (mmsModeForWordCount wordCount).toOctet :: (putMmsAddrPrefix addr ++ rest)

private theorem length_mmdPayload (wordCount : Nat) (addr : MdioAddr)
    (rest : Octets) :
    (mmdPayload wordCount addr rest).length =
      kWriteRequestMinPayloadLen + rest.length := by
  simp [mmdPayload, putAddrPrefix, kWriteRequestMinPayloadLen, kModeOctetLen,
    kAddrPrefixLen]
  omega

private theorem length_mmsPayload (wordCount : Nat) (addr : MdioMmsAddr)
    (rest : Octets) :
    (mmsPayload wordCount addr rest).length =
      kMmsWriteRequestMinPayloadLen + rest.length := by
  simp [mmsPayload, putMmsAddrPrefix, kMmsWriteRequestMinPayloadLen,
    kModeOctetLen, kMmsAddrPrefixLen]
  omega

private theorem drop_mmdPayload (wordCount : Nat) (addr : MdioAddr)
    (rest : Octets) :
    (mmdPayload wordCount addr rest).drop kWriteRequestMinPayloadLen =
      rest := rfl

private theorem drop_mmsPayload (wordCount : Nat) (addr : MdioMmsAddr)
    (rest : Octets) :
    (mmsPayload wordCount addr rest).drop kMmsWriteRequestMinPayloadLen =
      rest := rfl

section RoundTrip

variable (byteBusId : UInt16) (transactionNum : UInt8)

private theorem encodeReadRequest_eq {addr : MdioAddr} {wordCount : Nat}
    (hAddr : addrValid addr = true) (hPos : 0 < wordCount)
    (hMax : wordCount ≤ maxBurstWords) :
    encodeReadRequest byteBusId addr wordCount transactionNum =
      (plainRequest byteBusId false transactionNum
        (mmdPayload wordCount addr (putBe 2 wordCount))).encode := by
  unfold encodeReadRequest
  rw [hAddr, if_neg (by decide), if_neg (by omega)]
  rfl

private theorem encodeWriteRequest_eq {addr : MdioAddr} {words : List UInt16}
    (hAddr : addrValid addr = true) (hPos : 0 < words.length)
    (hMax : words.length ≤ maxBurstWords) :
    encodeWriteRequest byteBusId addr words transactionNum =
      (plainRequest byteBusId true transactionNum
        (mmdPayload words.length addr (packWords words))).encode := by
  unfold encodeWriteRequest
  rw [hAddr, if_neg (by decide), if_neg (by omega)]
  rfl

private theorem encodeMmsReadRequest_eq {addr : MdioMmsAddr} {wordCount : Nat}
    (hAddr : mmsAddrValid addr = true) (hPos : 0 < wordCount)
    (hMax : wordCount ≤ maxBurstWords) :
    encodeMmsReadRequest byteBusId addr wordCount transactionNum =
      (plainRequest byteBusId false transactionNum
        (mmsPayload wordCount addr (putBe 2 wordCount))).encode := by
  unfold encodeMmsReadRequest
  rw [hAddr, if_neg (by decide), if_neg (by omega)]
  rfl

private theorem encodeMmsWriteRequest_eq {addr : MdioMmsAddr}
    {words : List UInt32}
    (hAddr : mmsAddrValid addr = true) (hPos : 0 < words.length)
    (hMax : words.length ≤ maxBurstWords) :
    encodeMmsWriteRequest byteBusId addr words transactionNum =
      (plainRequest byteBusId true transactionNum
        (mmsPayload words.length addr
          (mmsPackWords addr.mms words))).encode := by
  unfold encodeMmsWriteRequest
  rw [hAddr, if_neg (by decide), if_neg (by omega)]
  rfl

private theorem decode_encodeReadRequest {addr : MdioAddr} {wordCount : Nat}
    (hAddr : addrValid addr = true) (hPos : 0 < wordCount)
    (hMax : wordCount ≤ maxBurstWords) :
    decodeReadRequest (encodeReadRequest byteBusId addr wordCount
        transactionNum) (wireBusId byteBusId) =
      .ok ⟨addr, wordCount, transactionNum⟩ := by
  have hWord : wordCount < 65536 := hMax.trans_lt (by decide)
  have hLength : kReadRequestPayloadLen ≤
      (mmdPayload wordCount addr (putBe 2 wordCount)).length := by
    rw [length_mmdPayload, length_putBe]
    rfl
  have hWords := be16_putBe hWord []
  rw [List.append_nil] at hWords
  have hCount : be16 ((mmdPayload wordCount addr (putBe 2 wordCount)).drop
      (kModeOctetLen + kAddrPrefixLen)) = wordCount := hWords
  rw [encodeReadRequest_eq _ _ hAddr hPos hMax]
  refine except_bind_eq_ok.mpr ⟨_, openRequest_encode _ _ _ _ hLength,
    except_bind_eq_ok.mpr ⟨_, openMmd_encode hAddr _ _,
      except_bind_eq_ok.mpr ⟨wordCount, ?_, rfl⟩⟩⟩
  rw [hCount, checkWordCount_eq hPos hMax]

private theorem decode_encodeMmsReadRequest {addr : MdioMmsAddr}
    {wordCount : Nat} (hAddr : mmsAddrValid addr = true) (hPos : 0 < wordCount)
    (hMax : wordCount ≤ maxBurstWords) :
    decodeMmsReadRequest (encodeMmsReadRequest byteBusId addr wordCount
        transactionNum) (wireBusId byteBusId) =
      .ok ⟨addr, wordCount, transactionNum⟩ := by
  have hWord : wordCount < 65536 := hMax.trans_lt (by decide)
  have hLength : kMmsReadRequestPayloadLen ≤
      (mmsPayload wordCount addr (putBe 2 wordCount)).length := by
    rw [length_mmsPayload, length_putBe]
    rfl
  have hWords := be16_putBe hWord []
  rw [List.append_nil] at hWords
  have hCount : be16 ((mmsPayload wordCount addr (putBe 2 wordCount)).drop
      (kModeOctetLen + kMmsAddrPrefixLen)) = wordCount := hWords
  rw [encodeMmsReadRequest_eq _ _ hAddr hPos hMax]
  refine except_bind_eq_ok.mpr ⟨_, openRequest_encode _ _ _ _ hLength,
    except_bind_eq_ok.mpr ⟨_, openMms_encode hAddr _ _,
      except_bind_eq_ok.mpr ⟨wordCount, ?_, rfl⟩⟩⟩
  rw [hCount, checkWordCount_eq hPos hMax]

private theorem decode_encodeWriteRequest {addr : MdioAddr}
    {words : List UInt16}
    (hAddr : addrValid addr = true) (hPos : 0 < words.length)
    (hMax : words.length ≤ maxBurstWords) :
    decodeWriteRequest (encodeWriteRequest byteBusId addr words
        transactionNum) (wireBusId byteBusId) =
      .ok ⟨addr, packWords words, words.length, transactionNum⟩ := by
  have hLength : kWriteRequestMinPayloadLen ≤
      (mmdPayload words.length addr (packWords words)).length := by
    rw [length_mmdPayload]
    omega
  have hCount : wordCountOf (packWords words).length = some words.length := by
    unfold wordCountOf
    rw [length_packWords, if_neg (by omega)]
    exact congrArg some (by omega)
  rw [encodeWriteRequest_eq _ _ hAddr hPos hMax]
  refine except_bind_eq_ok.mpr ⟨_, openRequest_encode _ _ _ _ hLength,
    except_bind_eq_ok.mpr ⟨_, openMmd_encode hAddr _ _, ?_⟩⟩
  dsimp only
  rw [drop_mmdPayload, hCount]
  exact except_bind_eq_ok.mpr ⟨_, checkWordCount_eq hPos hMax, rfl⟩

private theorem decode_encodeMmsWriteRequest {addr : MdioMmsAddr}
    {words : List UInt32} (hAddr : mmsAddrValid addr = true)
    (hPos : 0 < words.length) (hMax : words.length ≤ maxBurstWords) :
    decodeMmsWriteRequest (encodeMmsWriteRequest byteBusId addr words
        transactionNum) (wireBusId byteBusId) =
      .ok ⟨addr, mmsPackWords addr.mms words, words.length,
        transactionNum⟩ := by
  have hLength : kMmsWriteRequestMinPayloadLen ≤
      (mmsPayload words.length addr (mmsPackWords addr.mms words)).length := by
    rw [length_mmsPayload]
    omega
  have hWidth : 0 < mmsWordWidth addr.mms := by
    rcases mmsWordWidth_cases addr.mms with hFour | hTwo <;> omega
  have hCount : mmsWordCountOf addr.mms (mmsPackWords addr.mms words).length =
      some words.length := by
    unfold mmsWordCountOf
    rw [length_mmsPackWords, Nat.mul_mod_right, if_neg (not_not_intro rfl),
      Nat.mul_div_cancel_left _ hWidth]
  rw [encodeMmsWriteRequest_eq _ _ hAddr hPos hMax]
  refine except_bind_eq_ok.mpr ⟨_, openRequest_encode _ _ _ _ hLength,
    except_bind_eq_ok.mpr ⟨_, openMms_encode hAddr _ _, ?_⟩⟩
  dsimp only
  rw [drop_mmsPayload, hCount]
  exact except_bind_eq_ok.mpr ⟨_, checkWordCount_eq hPos hMax, rfl⟩

end RoundTrip

/-! ## Accepted requests -/

section Accepted

variable {octets payload : Octets} {expectedBusId : UInt16}

private theorem payload_eq (h : 0 < payload.length) (prefixLen : Nat) :
    payload = octetAt payload 0 ::
      ((payload.drop kModeOctetLen).take prefixLen ++
        payload.drop (kModeOctetLen + prefixLen)) := by
  rw [← List.drop_drop, List.take_append_drop]
  exact drop_eq_octetAt_cons h

private theorem reencodes_plainRequest_iff {byteBusId : UInt16} {write : Bool}
    {transactionNum : UInt8} :
    Reencodes (plainRequest byteBusId write transactionNum payload).encode
        octets ↔
      payload = payloadOf octets := by
  unfold Reencodes
  rw [payloadOf_encode, and_iff_right (encode_ne_nil _)]
  rfl

structure AcceptedRead (addrPrefix payload : Octets) (wordCount : Nat) :
    Prop where
  pos : 0 < wordCount
  max : wordCount ≤ maxBurstWords
  layout : payload = octetAt payload 0 ::
    (addrPrefix ++ (putBe 2 wordCount ++
      payload.drop (kModeOctetLen + addrPrefix.length + 2)))

structure AcceptedWrite (addrPrefix payload wordsData : Octets)
    (wordCount wordWidth : Nat) : Prop where
  pos : 0 < wordCount
  max : wordCount ≤ maxBurstWords
  length : wordsData.length = wordCount * wordWidth
  layout : payload = octetAt payload 0 :: (addrPrefix ++ wordsData)

private theorem acceptedRead_of_prefix {addrPrefix : Octets}
    {prefixLen wordCount : Nat}
    (hPrefix : addrPrefix = (payload.drop kModeOctetLen).take prefixLen)
    (hLength : kModeOctetLen + prefixLen + 2 ≤ payload.length)
    (hCount : checkWordCount (be16 (payload.drop
      (kModeOctetLen + prefixLen))) = .ok wordCount) :
    AcceptedRead addrPrefix payload wordCount := by
  obtain ⟨rfl, hPos, hMax⟩ := checkWordCount_ok hCount
  have hPrefixLength : addrPrefix.length = prefixLen := by
    rw [hPrefix, List.length_take_of_le (by rw [List.length_drop]; omega)]
  have hWord : putBe 2 (be16 (payload.drop (kModeOctetLen + prefixLen))) =
      (payload.drop (kModeOctetLen + prefixLen)).take 2 :=
    putBe_be16 (by rw [List.length_drop]; omega)
  have hPayload := payload_eq (by omega : 0 < payload.length) prefixLen
  have hTail := List.take_append_drop 2
    (payload.drop (kModeOctetLen + prefixLen))
  rw [List.drop_drop] at hTail
  refine ⟨hPos, hMax, ?_⟩
  rw [hWord, hPrefixLength, hTail, hPrefix]
  exact hPayload

private theorem acceptedWrite_of_prefix {addrPrefix : Octets}
    {prefixLen count wordCount wordWidth : Nat}
    (hPrefix : addrPrefix = (payload.drop kModeOctetLen).take prefixLen)
    (hLength : kModeOctetLen + prefixLen ≤ payload.length)
    (hWidth : (payload.drop (kModeOctetLen + prefixLen)).length =
      count * wordWidth)
    (hCount : checkWordCount count = .ok wordCount) :
    AcceptedWrite addrPrefix payload (payload.drop (kModeOctetLen + prefixLen))
      wordCount wordWidth := by
  obtain ⟨rfl, hPos, hMax⟩ := checkWordCount_ok hCount
  have hPositive : 0 < payload.length := by
    unfold kModeOctetLen at hLength
    omega
  refine ⟨hPos, hMax, hWidth, ?_⟩
  rw [hPrefix]
  exact payload_eq hPositive prefixLen

theorem AcceptedRead.reencodes_iff {addrPrefix : Octets} {wordCount : Nat}
    (h : AcceptedRead addrPrefix payload wordCount) (mode : UInt8) :
    mode :: (addrPrefix ++ putBe 2 wordCount) = payload ↔
      octetAt payload 0 = mode ∧
        payload.length = kModeOctetLen + addrPrefix.length + 2 := by
  have hLength := congrArg List.length h.layout
  rw [List.length_cons, List.length_append, List.length_append,
    length_putBe] at hLength
  constructor
  · intro hPayload
    refine ⟨congrArg (fun octets => octetAt octets 0) hPayload.symm, ?_⟩
    rw [← hPayload, List.length_cons, List.length_append, length_putBe]
    unfold kModeOctetLen
    omega
  · rintro ⟨rfl, hExact⟩
    have hTail := List.drop_eq_nil_of_le hExact.le
    conv_rhs => rw [h.layout, hTail, List.append_nil]

theorem AcceptedWrite.reencodes_iff {addrPrefix wordsData : Octets}
    {wordCount wordWidth : Nat}
    (h : AcceptedWrite addrPrefix payload wordsData wordCount wordWidth)
    (mode : UInt8) :
    mode :: (addrPrefix ++ wordsData) = payload ↔
      octetAt payload 0 = mode := by
  constructor
  · intro hPayload
    exact congrArg (fun octets => octetAt octets 0) hPayload.symm
  · rintro rfl
    exact h.layout.symm

private theorem decodeReadRequest_ok {request : DecodedRead MdioAddr}
    (h : decodeReadRequest octets expectedBusId = .ok request) :
    modeIsUnsupportedMms (MdioMode.ofOctet (octetAt (payloadOf octets) 0)) =
        false ∧
      addrValid request.addr = true ∧
      AcceptedRead (putAddrPrefix request.addr) (payloadOf octets)
        request.wordCount := by
  obtain ⟨⟨transactionNum, payload⟩, hOpen, h⟩ := except_bind_eq_ok.mp h
  obtain ⟨addr, hMmd, h⟩ := except_bind_eq_ok.mp h
  obtain ⟨wordCount, hCount, h⟩ := except_bind_eq_ok.mp h
  cases h
  obtain ⟨rfl, hLength⟩ := openRequest_ok hOpen
  obtain ⟨hMode, hValid, hPrefix⟩ := openMmd_ok hMmd
    (Nat.le_trans (by decide) hLength)
  exact ⟨hMode, hValid, acceptedRead_of_prefix hPrefix hLength hCount⟩

private theorem decodeMmsReadRequest_ok {request : DecodedRead MdioMmsAddr}
    (h : decodeMmsReadRequest octets expectedBusId = .ok request) :
    modeIsUnsupportedMms (MdioMode.ofOctet (octetAt (payloadOf octets) 0)) =
        true ∧
      mmsAddrValid request.addr = true ∧
      AcceptedRead (putMmsAddrPrefix request.addr) (payloadOf octets)
        request.wordCount := by
  obtain ⟨⟨transactionNum, payload⟩, hOpen, h⟩ := except_bind_eq_ok.mp h
  obtain ⟨addr, hMms, h⟩ := except_bind_eq_ok.mp h
  obtain ⟨wordCount, hCount, h⟩ := except_bind_eq_ok.mp h
  cases h
  obtain ⟨rfl, hLength⟩ := openRequest_ok hOpen
  obtain ⟨hMode, hValid, hPrefix⟩ := openMms_ok hMms
    (Nat.le_trans (by decide) hLength)
  exact ⟨hMode, hValid, acceptedRead_of_prefix hPrefix hLength hCount⟩

private theorem decodeWriteRequest_ok {request : DecodedWrite MdioAddr}
    (h : decodeWriteRequest octets expectedBusId = .ok request) :
    modeIsUnsupportedMms (MdioMode.ofOctet (octetAt (payloadOf octets) 0)) =
        false ∧
      addrValid request.addr = true ∧
      AcceptedWrite (putAddrPrefix request.addr) (payloadOf octets)
        request.wordsData request.wordCount 2 := by
  obtain ⟨⟨transactionNum, payload⟩, hOpen, h⟩ := except_bind_eq_ok.mp h
  obtain ⟨addr, hMmd, h⟩ := except_bind_eq_ok.mp h
  dsimp only at h
  split at h
  · cases h
  · rename_i count hWords
    obtain ⟨wordCount, hCount, h⟩ := except_bind_eq_ok.mp h
    cases h
    obtain ⟨rfl, hLength⟩ := openRequest_ok hOpen
    obtain ⟨hMode, hValid, hPrefix⟩ := openMmd_ok hMmd hLength
    unfold wordCountOf at hWords
    split at hWords
    · cases hWords
    · obtain rfl := Option.some.inj hWords
      exact ⟨hMode, hValid, acceptedWrite_of_prefix hPrefix hLength
        (by unfold kWriteRequestMinPayloadLen at *; omega) hCount⟩

private theorem decodeMmsWriteRequest_ok {request : DecodedWrite MdioMmsAddr}
    (h : decodeMmsWriteRequest octets expectedBusId = .ok request) :
    modeIsUnsupportedMms (MdioMode.ofOctet (octetAt (payloadOf octets) 0)) =
        true ∧
      mmsAddrValid request.addr = true ∧
      AcceptedWrite (putMmsAddrPrefix request.addr) (payloadOf octets)
        request.wordsData request.wordCount
        (mmsWordWidth request.addr.mms) := by
  obtain ⟨⟨transactionNum, payload⟩, hOpen, h⟩ := except_bind_eq_ok.mp h
  obtain ⟨addr, hMms, h⟩ := except_bind_eq_ok.mp h
  dsimp only at h
  split at h
  · cases h
  · rename_i count hWords
    obtain ⟨wordCount, hCount, h⟩ := except_bind_eq_ok.mp h
    cases h
    obtain ⟨rfl, hLength⟩ := openRequest_ok hOpen
    obtain ⟨hMode, hValid, hPrefix⟩ := openMms_ok hMms hLength
    unfold mmsWordCountOf at hWords
    split at hWords
    · cases hWords
    · rename_i hWhole
      obtain rfl := Option.some.inj hWords
      have hDvd := Nat.dvd_of_mod_eq_zero (not_not.mp hWhole)
      exact ⟨hMode, hValid, acceptedWrite_of_prefix hPrefix hLength
        (Nat.div_mul_cancel hDvd).symm hCount⟩

end Accepted

/-! ## Both families -/

structure Family (ρ ω : Type) where
  addrValid : ρ → Bool
  mode : Nat → MdioMode
  readRequestPayloadLen : Nat
  encodeRead : UInt16 → ρ → Nat → UInt8 → Octets
  encodeWrite : UInt16 → ρ → List ω → UInt8 → Octets
  decodeRead : Octets → UInt16 → Except ErrorCode (DecodedRead ρ)
  decodeWrite : Octets → UInt16 → Except ErrorCode (DecodedWrite ρ)
  unpackWords : ρ → Octets → Nat → List ω
  wireWord : ρ → ω → ω

def mmd : Family MdioAddr UInt16 where
  addrValid := addrValid
  mode := modeForWordCount
  readRequestPayloadLen := kReadRequestPayloadLen
  encodeRead := encodeReadRequest
  encodeWrite := encodeWriteRequest
  decodeRead := decodeReadRequest
  decodeWrite := decodeWriteRequest
  unpackWords := fun _ => unpackWords
  wireWord := fun _ word => word

def mms : Family MdioMmsAddr UInt32 where
  addrValid := mmsAddrValid
  mode := mmsModeForWordCount
  readRequestPayloadLen := kMmsReadRequestPayloadLen
  encodeRead := encodeMmsReadRequest
  encodeWrite := encodeMmsWriteRequest
  decodeRead := decodeMmsReadRequest
  decodeWrite := decodeMmsWriteRequest
  unpackWords := fun addr => mmsUnpackWords addr.mms
  wireWord := fun addr => mmsWireWord addr.mms

/-- Decoding an encoded request returns it; an accepted request is encoded to
the same payload exactly if its mode octet is the mode of its word count and,
for a read, nothing follows the word count. -/
structure Family.Codecs {ρ ω : Type} (family : Family ρ ω) : Prop where
  decodeRead_encodeRead : ∀ byteBusId addr wordCount transactionNum,
    family.addrValid addr = true → 0 < wordCount →
      wordCount ≤ maxBurstWords →
        family.decodeRead
            (family.encodeRead byteBusId addr wordCount transactionNum)
            (wireBusId byteBusId) =
          .ok ⟨addr, wordCount, transactionNum⟩
  decodeWrite_encodeWrite : ∀ byteBusId addr words transactionNum,
    family.addrValid addr = true → 0 < words.length →
      words.length ≤ maxBurstWords →
        ∃ wordsData,
          family.decodeWrite
              (family.encodeWrite byteBusId addr words transactionNum)
              (wireBusId byteBusId) =
            .ok ⟨addr, wordsData, words.length, transactionNum⟩ ∧
          family.unpackWords addr wordsData words.length =
            words.map (family.wireWord addr)
  reencodesRead_iff : ∀ octets byteBusId request,
    family.decodeRead octets byteBusId = .ok request →
      (Reencodes (family.encodeRead byteBusId request.addr request.wordCount
          request.transactionNum) octets ↔
        octetAt (payloadOf octets) 0 =
            (family.mode request.wordCount).toOctet ∧
          (payloadOf octets).length = family.readRequestPayloadLen)
  reencodesWrite_iff : ∀ octets byteBusId request,
    family.decodeWrite octets byteBusId = .ok request →
      (Reencodes (family.encodeWrite byteBusId request.addr
          (family.unpackWords request.addr request.wordsData
            request.wordCount) request.transactionNum) octets ↔
        octetAt (payloadOf octets) 0 =
          (family.mode request.wordCount).toOctet)

private theorem length_unpackWords (data : Octets) (count : Nat) :
    (unpackWords data count).length = count := by
  unfold unpackWords
  rw [List.length_map, List.length_range]

private theorem length_mmsUnpackWords (mms : UInt8) (data : Octets)
    (count : Nat) :
    (mmsUnpackWords mms data count).length = count := by
  unfold mmsUnpackWords
  rw [List.length_map, List.length_range]

private theorem mmd_codecs : mmd.Codecs where
  decodeRead_encodeRead := fun byteBusId _ _ transactionNum =>
    decode_encodeReadRequest byteBusId transactionNum
  decodeWrite_encodeWrite := by
    intro byteBusId addr words transactionNum hAddr hPos hMax
    refine ⟨packWords words, decode_encodeWriteRequest byteBusId
      transactionNum hAddr hPos hMax, ?_⟩
    exact (unpackWords_packWords words).trans (List.map_id words).symm
  reencodesRead_iff := by
    intro octets byteBusId request h
    obtain ⟨-, hAddr, hRead⟩ := decodeReadRequest_ok h
    change Reencodes (encodeReadRequest _ _ _ _) _ ↔ _
    rw [encodeReadRequest_eq _ _ hAddr hRead.pos hRead.max,
      reencodes_plainRequest_iff]
    exact hRead.reencodes_iff _
  reencodesWrite_iff := by
    intro octets byteBusId request h
    obtain ⟨-, hAddr, hWrite⟩ := decodeWriteRequest_ok h
    have hLength := length_unpackWords request.wordsData request.wordCount
    change Reencodes (encodeWriteRequest _ _ (unpackWords _ _) _) _ ↔ _
    rw [encodeWriteRequest_eq _ _ hAddr (hWrite.pos.trans_eq hLength.symm)
      (hLength.trans_le hWrite.max), reencodes_plainRequest_iff, hLength,
      packWords_unpackWords hWrite.length]
    exact hWrite.reencodes_iff _

private theorem mms_codecs : mms.Codecs where
  decodeRead_encodeRead := fun byteBusId _ _ transactionNum =>
    decode_encodeMmsReadRequest byteBusId transactionNum
  decodeWrite_encodeWrite := by
    intro byteBusId addr words transactionNum hAddr hPos hMax
    refine ⟨mmsPackWords addr.mms words, decode_encodeMmsWriteRequest
      byteBusId transactionNum hAddr hPos hMax, ?_⟩
    exact mmsUnpackWords_mmsPackWords addr.mms words
  reencodesRead_iff := by
    intro octets byteBusId request h
    obtain ⟨-, hAddr, hRead⟩ := decodeMmsReadRequest_ok h
    change Reencodes (encodeMmsReadRequest _ _ _ _) _ ↔ _
    rw [encodeMmsReadRequest_eq _ _ hAddr hRead.pos hRead.max,
      reencodes_plainRequest_iff]
    exact hRead.reencodes_iff _
  reencodesWrite_iff := by
    intro octets byteBusId request h
    obtain ⟨-, hAddr, hWrite⟩ := decodeMmsWriteRequest_ok h
    have hLength := length_mmsUnpackWords request.addr.mms request.wordsData
      request.wordCount
    change Reencodes (encodeMmsWriteRequest _ _ (mmsUnpackWords _ _ _) _) _ ↔ _
    rw [encodeMmsWriteRequest_eq _ _ hAddr (hWrite.pos.trans_eq hLength.symm)
      (hLength.trans_le hWrite.max), reencodes_plainRequest_iff, hLength,
      mmsPackWords_mmsUnpackWords hWrite.length]
    exact hWrite.reencodes_iff _

/-- The codecs of both families, and no message that is a request of both. -/
theorem request_codecs :
    mmd.Codecs ∧ mms.Codecs ∧
      (∀ octets byteBusId otherBusId request otherRequest,
        decodeReadRequest octets byteBusId = .ok request →
          decodeMmsReadRequest octets otherBusId ≠ .ok otherRequest) ∧
      ∀ octets byteBusId otherBusId request otherRequest,
        decodeWriteRequest octets byteBusId = .ok request →
          decodeMmsWriteRequest octets otherBusId ≠ .ok otherRequest := by
  refine ⟨mmd_codecs, mms_codecs, ?_, ?_⟩
  · intro octets byteBusId otherBusId request otherRequest hMmd hMms
    have hMode := (decodeReadRequest_ok hMmd).1
    rw [(decodeMmsReadRequest_ok hMms).1] at hMode
    cases hMode
  · intro octets byteBusId otherBusId request otherRequest hMmd hMms
    have hMode := (decodeWriteRequest_ok hMmd).1
    rw [(decodeMmsWriteRequest_ok hMms).1] at hMode
    cases hMode

/-- A read request for 2 words with the mode of a single word, a write request
for 1 word with the mode of several. -/
def singleModeRead : Octets :=
  [28, 4, 0, 1, 0, 7, 0, 0, 0, 0, 3, 0, 0, 4, 0, 2]

def multiModeWrite : Octets :=
  [28, 4, 0, 1, 0, 7, 128, 0, 1, 0, 3, 0, 0, 4, 18, 52]

theorem request_codecs_multiMode :
    decodeReadRequest (encodeReadRequest 1 { prtad := 3, regad := 4 } 2 7)
        1 = .ok ⟨{ prtad := 3, regad := 4 }, 2, 7⟩ ∧
      (Reencodes (encodeWriteRequest 1 { prtad := 3, regad := 4 } [0x1234] 7)
          multiModeWrite ↔ octetAt (payloadOf multiModeWrite) 0 = 0) ∧
      decodeMmsReadRequest singleModeRead 1 ≠
        .ok ⟨{ mms := 3, addr := 4 }, 2, 7⟩ :=
  ⟨request_codecs.1.decodeRead_encodeRead 1 { prtad := 3, regad := 4 } 2 7
      (by decide) (by decide) (by decide),
    request_codecs.1.reencodesWrite_iff multiModeWrite 1
      ⟨{ prtad := 3, regad := 4 }, [18, 52], 1, 7⟩ (by decide),
    request_codecs.2.2.1 singleModeRead 1 1
      ⟨{ prtad := 3, regad := 4 }, 2, 7⟩ ⟨{ mms := 3, addr := 4 }, 2, 7⟩
      (by decide)⟩

/-- The decoders take both, and the encoders write another mode; a word of 32
bits loses its upper half in memory map 2; and a request to bus 2049 is decoded
for bus 1 only. -/
theorem singleModeRead_accepted :
    decodeReadRequest singleModeRead 1 =
        .ok ⟨{ prtad := 3, regad := 4 }, 2, 7⟩ ∧
      payloadOf (encodeReadRequest 1 { prtad := 3, regad := 4 } 2 7) ≠
        payloadOf singleModeRead ∧
      decodeWriteRequest multiModeWrite 1 =
        .ok ⟨{ prtad := 3, regad := 4 }, [18, 52], 1, 7⟩ ∧
      payloadOf (encodeWriteRequest 1 { prtad := 3, regad := 4 } [0x1234] 7) ≠
        payloadOf multiModeWrite ∧
      mmsUnpackWords 2 (mmsPackWords 2 [0x12345678]) 1 = [0x5678] ∧
      decodeReadRequest (encodeReadRequest 2049 { prtad := 3, regad := 4 } 2
        7) 2049 = .error (.mdio .wrongBus) := by
  decide

end CppRcp.Mdio
