import CppRcp.Host.Record

/-!
# Reading back a recorded file

A file gives back the entries that were written, except that the category of an
error is not in the file and that a message has to be shorter than its length
field can say.  A file that ends inside an entry is not read at all.
-/

namespace CppRcp.Host.Recording

open CppRcp.Foundation CppRcp.Acf

/-! ## Messages -/

/-- The header of a message of one of the two kinds, its fields within their
widths. -/
structure HeaderInRange (info : AcfMessageInfo) : Prop where
  type : info.acfMsgType = acfMsgTypeAbb ∨ info.acfMsgType = acfMsgTypeGbb
  fits : info.truncated = info

structure SameHeader (recorded read : AcfMessageInfo) : Prop where
  fields : read = { recorded with
    acfMsgLength := read.acfMsgLength
    mtv := read.mtv }
  length : recorded.acfMsgLength ≠ 0 →
    read.acfMsgLength = recorded.acfMsgLength
  mtv : read.mtv =
    if recorded.acfMsgType = acfMsgTypeAbb then false else recorded.mtv

def messageOf (info : AcfMessageInfo) (payload : Octets) : AcfMessage :=
  if info.acfMsgType = acfMsgTypeGbb then .gbb info 0 payload
  else .abb info payload

theorem encode_messageOf (info : AcfMessageInfo) (payload : Octets) :
    encodeMsg info payload = (messageOf info payload).encode := by
  unfold encodeMsg messageOf
  split <;> rfl

private theorem length_encodeMsg (info : AcfMessageInfo) (payload : Octets) :
    (encodeMsg info payload).length =
      headerLen info.acfMsgType + payload.length := by
  unfold encodeMsg headerLen
  split
  · exact length_encodeAcfGbb info 0 payload
  · exact length_encodeAcfAbb info payload

def readBack (info : AcfMessageInfo) (payload : Octets) : AcfMessageInfo :=
  (messageOf info payload).header.truncated

private theorem decodeMsg_encodeMsg (info : AcfMessageInfo) (payload : Octets) :
    decodeMsg (encodeMsg info payload) = .ok (readBack info payload, payload) := by
  have hNonempty : encodeMsg info payload ≠ [] := by
    intro hEmpty
    have hLength := length_encodeMsg info payload
    have hHeader := le_headerLen info.acfMsgType
    rw [hEmpty] at hLength
    unfold acfCommonHeaderLen at hHeader
    simp at hLength
    omega
  have hType := (messageOf info payload).peekAcfMsgType_encode []
  rw [List.append_nil, ← encode_messageOf] at hType
  unfold decodeMsg
  rw [hType, encode_messageOf]
  rw [encode_messageOf] at hNonempty
  unfold readBack messageOf at *
  by_cases hGbb : info.acfMsgType = acfMsgTypeGbb
  · rw [if_pos hGbb] at *
    rw [if_pos ⟨hNonempty, rfl⟩, AcfMessage.decodeAcfGbb_encode]
  · rw [if_neg hGbb] at *
    have hAbb : acfMsgTypeAbb ≠ acfMsgTypeGbb := by decide
    rw [if_neg (fun h => hAbb h.2), AcfMessage.decodeAcfAbb_encode]

private theorem readBack_eq {info : AcfMessageInfo} (h : HeaderInRange info)
    (payload : Octets) :
    readBack info payload = { info with
      acfMsgLength :=
        UInt16.ofNat ((messageOf info payload).msgLength.toNat % 512)
      mtv := if info.acfMsgType = acfMsgTypeAbb then false else info.mtv } := by
  have hHeader : (messageOf info payload).header = { info with
      acfMsgLength := (messageOf info payload).msgLength
      mtv := if info.acfMsgType = acfMsgTypeAbb then false else info.mtv } := by
    unfold messageOf
    rcases h.type with hType | hType
    · rw [if_neg (by rw [hType]; decide), if_pos hType, hType]
      rfl
    · rw [if_pos hType, if_neg (by rw [hType]; decide), hType]
      rfl
  rw [readBack, hHeader]
  calc AcfMessageInfo.truncated _ = { info.truncated with
        acfMsgLength :=
          UInt16.ofNat ((messageOf info payload).msgLength.toNat % 512)
        mtv := if info.acfMsgType = acfMsgTypeAbb then false
          else info.mtv } := rfl
    _ = _ := by rw [h.fits]

private theorem sameHeader_readBack {info : AcfMessageInfo}
    (h : HeaderInRange info)
    (payload : Octets) : SameHeader info (readBack info payload) := by
  rw [readBack_eq h]
  refine ⟨rfl, fun hGiven => ?_, rfl⟩
  have hInfo : (messageOf info payload).info = info := by
    unfold messageOf
    split <;> rfl
  unfold AcfMessage.msgLength
  rw [hInfo, if_neg hGiven]
  have hLength : info.truncated.acfMsgLength = info.acfMsgLength :=
    congrArg AcfMessageInfo.acfMsgLength h.fits
  exact hLength

/-! ## Fields -/

open Reader

private theorem takes_write8 (value : Int64) : Takes read8 (write8 value)
    value := by
  have hField := (takes_putLe RecordErrc.ioError 8 value.toUInt64.toNat).map
    fun value => (UInt64.ofNat value).toInt64
  have hLt : value.toUInt64.toNat < 256 ^ 8 := value.toUInt64.toNat_lt
  rw [Nat.mod_eq_of_lt hLt, UInt64.ofNat_toNat] at hField
  exact hField

private theorem takes_write4 (value : UInt32) : Takes read4 (write4 value)
    value := by
  have hField := (takes_putLe RecordErrc.ioError 4 value.toNat).map UInt32.ofNat
  have hLt : value.toNat < 256 ^ 4 := value.toNat_lt
  rw [Nat.mod_eq_of_lt hLt, UInt32.ofNat_toNat] at hField
  exact hField

private theorem takes_octet (octet : UInt8) : Takes read1 [octet] octet := by
  have hLength : [octet].length = 1 := rfl
  exact (takes_octets RecordErrc.ioError hLength).map fun octets =>
    octetAt octets 0

def FitsLength (info : AcfMessageInfo) (payload : Octets) : Prop :=
  (encodeMsg info payload).length < 2 ^ 32

private theorem takes_writeMsg {info : AcfMessageInfo} {payload : Octets}
    (h : FitsLength info payload) :
    Takes readMsg (writeMsg info payload) (readBack info payload, payload) := by
  have hLength : (encodeMsg info payload).length =
      (UInt32.ofNat (encodeMsg info payload).length).toNat :=
    (UInt32.toNat_ofNat_of_lt' h).symm
  refine (takes_write4 _).bind ?_
  refine (takes_octets RecordErrc.ioError hLength).bind_nil ?_
  exact .lift (decodeMsg_encodeMsg info payload)

def StdErrorCode.readBack (error : StdErrorCode) : StdErrorCode :=
  if error.isError then ⟨error.value, .generic⟩ else {}

def Entry.readBack (e : Entry) : Entry :=
  { e with
    request := Recording.readBack e.request e.requestPayload
    response := Recording.readBack e.response e.responsePayload
    error := e.error.readBack }

structure Entry.FitsLength (e : Entry) : Prop where
  request : Recording.FitsLength e.request e.requestPayload
  response : Recording.FitsLength e.response e.responsePayload

private theorem takes_writeEntry {e : Entry} (h : e.FitsLength) :
    Takes readEntry (writeEntry e) e.readBack := by
  refine (takes_write8 e.timestampNs).bind ?_
  refine (takes_writeMsg h.request).bind ?_
  refine (takes_writeMsg h.response).bind ?_
  refine (takes_write4 e.error.value.toUInt32).bind ?_
  refine (takes_octet (if e.error.isError then 1 else 0)).bind_nil ?_
  have hError : (if (if e.error.isError then (1 : UInt8) else 0) ≠ 0 then
      (⟨e.error.value.toUInt32.toInt32, .generic⟩ : StdErrorCode) else {}) =
        e.error.readBack := by
    unfold StdErrorCode.readBack
    cases e.error.isError <;> rfl
  rw [hError]
  exact .pure e.readBack

private theorem consumes_readMsg : Consumes 4 readMsg := by
  refine Consumes.bind (n := 0) (((Consumes.octets _ 4).map _).map _) ?_
  intro len
  refine Consumes.mono (n := len.toNat + 0) ?_ (Nat.zero_le _)
  exact (Consumes.octets _ len.toNat).bind fun _ => .lift _

private theorem consumes_readEntry : Consumes 1 readEntry := by
  refine Consumes.mono (n := 8 + (4 + (4 + (4 + (1 + 0))))) ?_ (by omega)
  refine (((Consumes.octets _ 8).map _).map _).bind fun _ => ?_
  refine consumes_readMsg.bind fun _ => ?_
  refine consumes_readMsg.bind fun _ => ?_
  refine (((Consumes.octets _ 4).map _).map _).bind fun _ => ?_
  exact ((Consumes.octets _ 1).map _).bind fun _ => .pure _

/-! ## What an entry that is read says -/

private theorem length_le_of_decodeMsg {encoded got : Octets}
    {info : AcfMessageInfo}
    (h : decodeMsg encoded = .ok (info, got)) : got.length ≤ encoded.length := by
  unfold decodeMsg at h
  split at h
  · split at h
    · cases h
    · next hGbb =>
        cases h
        rw [(decodeAcfGbb_ok hGbb).2.2.2.2, List.length_drop]
        omega
  · split at h
    · cases h
    · next hAbb =>
        cases h
        rw [(decodeAcfAbb_ok hAbb).2.2.2, List.length_drop]
        omega

private theorem fitsLength_of_readMsg {info read : AcfMessageInfo}
    {payload got rest more : Octets}
    (h : readMsg (writeMsg info payload ++ rest) = .ok ((read, got), more))
    (hSame : got.length = payload.length) : FitsLength info payload := by
  by_contra hLong
  unfold FitsLength at hLong
  have hLength := length_encodeMsg info payload
  have hHeader : headerLen info.acfMsgType ≤ 16 := by
    unfold headerLen
    split <;> decide
  rw [writeMsg, List.append_assoc, readMsg,
    bind_of_ok ((takes_write4 _).whole _)] at h
  obtain ⟨encoded, tail, hOctets, hLift⟩ := bind_eq_ok h
  have hPart := length_of_octets hOctets
  have hGot := length_le_of_decodeMsg (lift_eq_ok hLift)
  rw [UInt32.toNat_ofNat'] at hPart
  omega

/-! ## The laws -/

structure SameEntry (recorded read : Entry) : Prop where
  timestampNs : read.timestampNs = recorded.timestampNs
  request : SameHeader recorded.request read.request
  requestPayload : read.requestPayload = recorded.requestPayload
  response : SameHeader recorded.response read.response
  responsePayload : read.responsePayload = recorded.responsePayload
  error : read.error = recorded.error

/-- The file of the entries is read back, and no part of it that ends inside
an entry is. -/
structure RecordLaws (entries : List Entry) : Prop where
  roundTrip : ∀ held : Record, ∃ loaded,
    held.readBinary (some (file entries)) = (⟨loaded⟩, none) ∧
      List.Forall₂ SameEntry entries loaded
  truncated : ∀ (held : Record) (part : Octets), part <+: file entries →
    (∀ n, part ≠ file (entries.take n)) →
      ∃ e, held.readBinary (some part) = (held, some e)

def StdErrorCode.Kept (error : StdErrorCode) : Prop :=
  error = {} ∨ error.isError = true ∧ error.category = .generic

instance (error : StdErrorCode) : Decidable error.Kept :=
  inferInstanceAs (Decidable (_ ∨ _))

structure Entry.Recordable (e : Entry) : Prop where
  fits : e.FitsLength
  error : e.error.Kept

theorem StdErrorCode.readBack_eq_iff (error : StdErrorCode) :
    error.readBack = error ↔ error.Kept := by
  obtain ⟨value, category⟩ := error
  unfold readBack Kept isError
  by_cases hValue : value = 0
  · subst hValue
    simp [eq_comm]
  · simp [hValue, eq_comm]

private theorem recordable_of_readEntry {e read : Entry} {rest more : Octets}
    (h : readEntry (writeEntry e ++ rest) = .ok (read, more))
    (hSame : SameEntry e read) : e.Recordable ∧ more = rest := by
  have hFits : e.FitsLength := by
    have hFields := h
    simp only [writeEntry, List.append_assoc] at hFields
    rw [readEntry, bind_of_ok ((takes_write8 _).whole _)] at hFields
    obtain ⟨⟨request, requestPayload⟩, afterRequest, hRequest, hFields⟩ :=
      bind_eq_ok hFields
    obtain ⟨⟨response, responsePayload⟩, afterResponse, hResponse, hFields⟩ :=
      bind_eq_ok hFields
    obtain ⟨errValue, afterValue, -, hFields⟩ := bind_eq_ok hFields
    obtain ⟨hasError, afterFlag, -, hFields⟩ := bind_eq_ok hFields
    cases hFields
    have hFirst := fitsLength_of_readMsg hRequest
      (congrArg List.length hSame.requestPayload)
    rw [(takes_writeMsg hFirst).whole] at hRequest
    cases hRequest
    exact ⟨hFirst, fitsLength_of_readMsg hResponse
      (congrArg List.length hSame.responsePayload)⟩
  rw [(takes_writeEntry hFits).whole] at h
  cases h
  exact ⟨⟨hFits, (StdErrorCode.readBack_eq_iff e.error).mp hSame.error⟩, rfl⟩

private theorem sameEntry_readBack {e : Entry}
    (hRequest : HeaderInRange e.request)
    (hResponse : HeaderInRange e.response) (h : e.Recordable) :
    SameEntry e e.readBack where
  timestampNs := rfl
  request := sameHeader_readBack hRequest e.requestPayload
  requestPayload := rfl
  response := sameHeader_readBack hResponse e.responsePayload
  responsePayload := rfl
  error := (StdErrorCode.readBack_eq_iff e.error).mpr h.error

private theorem recordable_of_all {entries loaded : List Entry}
    (h : readEntry.all (file entries) = .ok loaded)
    (hSame : List.Forall₂ SameEntry entries loaded) :
    ∀ e ∈ entries, e.Recordable := by
  induction hSame with
  | nil => simp
  | @cons e read entries loaded hFirst _ ih =>
      have hNonempty : file (e :: entries) ≠ [] := by
        intro hEmpty
        have hLength := congrArg List.length hEmpty
        simp [file, writeEntry, write8] at hLength
      obtain ⟨value, rest, tail, hRead, hLoaded, hRest⟩ :=
        all_eq_ok consumes_readEntry hNonempty h
      obtain ⟨rfl, rfl⟩ := List.cons.inj hLoaded
      obtain ⟨hRecordable, rfl⟩ := recordable_of_readEntry hRead hFirst
      exact List.forall_mem_cons.mpr ⟨hRecordable, ih hRest⟩

private theorem all_of_readBinary {held : Record} {octets : Octets}
    {loaded : List Entry}
    (h : held.readBinary (some octets) = (⟨loaded⟩, none)) :
    readEntry.all octets = .ok loaded := by
  cases hAll : readEntry.all octets with
  | error e => simp [Record.readBinary, hAll] at h
  | ok entries =>
      simp only [Record.readBinary, hAll, Prod.mk.injEq] at h
      exact congrArg Except.ok (congrArg Record.entries h.1)

/-- The laws hold of exactly the records of which nothing is lost. -/
theorem recordLaws_iff (entries : List Entry)
    (hRange : ∀ e ∈ entries,
      HeaderInRange e.request ∧ HeaderInRange e.response) :
    RecordLaws entries ↔ ∀ e ∈ entries, e.Recordable := by
  constructor
  · intro hLaws
    obtain ⟨loaded, hRead, hSame⟩ := hLaws.roundTrip {}
    exact recordable_of_all (all_of_readBinary hRead) hSame
  · intro hRecordable
    have hTakes : ∀ e ∈ entries,
        Takes readEntry (writeEntry e) e.readBack :=
      fun e he => takes_writeEntry (hRecordable e he).fits
    refine ⟨fun held => ⟨entries.map Entry.readBack, ?_, ?_⟩, ?_⟩
    · have hAll := all_flatMap consumes_readEntry hTakes
      change readEntry.all (file entries) = _ at hAll
      simp only [Record.readBinary, hAll]
    · rw [List.forall₂_map_right_iff, List.forall₂_same]
      intro e he
      obtain ⟨hRequest, hResponse⟩ := hRange e he
      exact sameEntry_readBack hRequest hResponse (hRecordable e he)
    · intro held part hPart hInside
      obtain ⟨e, hError⟩ :=
        all_cut consumes_readEntry hTakes hPart hInside
      exact ⟨e, by simp only [Record.readBinary, hError]⟩

def abbHeader : AcfMessageInfo := { acfMsgType := acfMsgTypeAbb }

private theorem abbHeader_inRange : HeaderInRange abbHeader where
  type := .inl rfl
  fits := by decide

private theorem fits_abbHeader {payload : Octets}
    (h : payload.length < 2 ^ 31) :
    FitsLength abbHeader payload := by
  have hLength := length_encodeMsg abbHeader payload
  have hHeader : headerLen abbHeader.acfMsgType = 8 := by decide
  unfold FitsLength
  omega

theorem recordLaws_iff_timedOut :
    RecordLaws
      [{ request := abbHeader
         requestPayload := [1, 2]
         response := abbHeader
         responsePayload := []
         error := ⟨110, .generic⟩ }] := by
  refine (recordLaws_iff _ ?_).mpr ?_
  · simp [abbHeader_inRange]
  · rw [List.forall_mem_singleton]
    exact ⟨⟨fits_abbHeader (by simp), fits_abbHeader (by simp)⟩,
      .inr ⟨by decide, rfl⟩⟩

/-- The code of a message of a wrong type is read as a code of the generic
category. -/
theorem wrongType_not_recordLaws :
    ¬ RecordLaws
      [{ request := abbHeader
         requestPayload := []
         response := abbHeader
         responsePayload := []
         error := ⟨1, .rcp 0⟩ }] := by
  intro hLaws
  obtain ⟨loaded, hRead, hSame⟩ := hLaws.roundTrip {}
  have hLost : ∀ e ∈ [Entry.mk 0 abbHeader [] abbHeader [] ⟨1, .rcp 0⟩],
      e.Recordable := recordable_of_all (all_of_readBinary hRead) hSame
  have hKept := (hLost _ (List.mem_singleton.mpr rfl)).error
  exact absurd hKept (by decide)

end CppRcp.Host.Recording
