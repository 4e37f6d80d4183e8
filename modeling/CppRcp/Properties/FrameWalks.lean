import CppRcp.Mock.Splitting
import CppRcp.Wire.AcfMessages

/-!
# Two walks over a frame

`decode_acf_messages` and `split_frame_members` both take a buffer apart by
the length fields of its messages.  They agree wherever the second finds
members at all; and both find the messages of a frame that was put together
from encodings exactly when each encoding declares its own length.
-/

namespace CppRcp.Mock

open CppRcp.Foundation CppRcp.Acf

/-! ## Where both walks agree -/

section Agree

variable {octets : Octets}

private theorem acfMsgLength_decodeAcfMessageInfo (octets : Octets) :
    (decodeAcfMessageInfo octets).acfMsgLength.toNat =
      (octetAt octets 0).toNat % 2 * 256 + (octetAt octets 1).toNat := by
  have hOne := (octetAt octets 1).toNat_lt
  simp only [decodeAcfMessageInfo, UInt16.toNat_ofNat']
  omega

private theorem messageAt_of_memberLen {len : Nat}
    (h : memberLen octets = some len) :
    messageAt octets = .ok (entryOf octets len, len) := by
  obtain ⟨hTwo, hHeader, hDeclared, hLen, hValue⟩ := memberLen_eq_some h
  have hKnown : ¬ (peekAcfMsgType octets ≠ acfMsgTypeGbb ∧
      peekAcfMsgType octets ≠ acfMsgTypeAbb) := by
    intro hUnknown
    simp [memberLen, hUnknown] at h
  unfold messageAt
  simp only [acfMsgLength_decodeAcfMessageInfo, ← hValue]
  rw [if_neg hKnown, if_neg (by omega), if_neg (by omega)]

private theorem pos_of_memberLen {len : Nat} (h : memberLen octets = some len) :
    0 < len ∧ len ≤ octets.length := by
  obtain ⟨-, -, hDeclared, hLen, -⟩ := memberLen_eq_some h
  have hEight := le_headerLen (peekAcfMsgType octets)
  unfold acfCommonHeaderLen at hEight
  omega

private theorem size_of_memberLen {len : Nat}
    (h : memberLen octets = some len) :
    (entryOf octets len).size = len := by
  obtain ⟨-, -, hDeclared, hLen, -⟩ := memberLen_eq_some h
  exact size_entryOf hDeclared hLen

private theorem splitFrom_succ {fuel offset : Nat} {offsets : List Nat}
    (hNonempty : octets ≠ [])
    (h : splitFrom (fuel + 1) octets offset = some offsets) :
    ∃ len later, memberLen octets = some len ∧
      splitFrom fuel (octets.drop len) (offset + len) = some later ∧
        offsets = offset :: later := by
  rw [splitFrom, if_neg hNonempty] at h
  cases hMember : memberLen octets with
  | none => simp [hMember] at h
  | some len =>
      rw [hMember] at h
      obtain ⟨later, hLater, rfl⟩ := Option.map_eq_some_iff.mp h
      exact ⟨len, later, rfl, hLater, rfl⟩

private theorem splitFrom_head {fuel offset first : Nat} {later : List Nat}
    (h : splitFrom fuel octets offset = some (first :: later)) :
    first = offset := by
  cases fuel with
  | zero => cases h
  | succ fuel =>
      by_cases hEmpty : octets = []
      · simp [splitFrom, hEmpty] at h
      · obtain ⟨len, rest, -, -, hOffsets⟩ := splitFrom_succ hEmpty h
        exact (List.cons.inj hOffsets).1

private theorem splitFrom_nil {fuel offset : Nat} (hFuel : octets.length ≤ fuel)
    (h : splitFrom fuel octets offset = some []) : octets = [] := by
  by_contra hNonempty
  have hLength := List.length_pos_iff.mpr hNonempty
  obtain ⟨n, rfl⟩ := Nat.exists_eq_succ_of_ne_zero (show fuel ≠ 0 by omega)
  obtain ⟨len, rest, -, -, hOffsets⟩ := splitFrom_succ hNonempty h
  cases hOffsets

private theorem splitFrom_fuel (octets : Octets) {fuel more : Nat}
    (offset : Nat)
    (hFuel : octets.length ≤ fuel) (hMore : octets.length ≤ more) :
    splitFrom fuel octets offset = splitFrom more octets offset := by
  induction fuel generalizing octets more offset with
  | zero =>
      have hEmpty : octets = [] := List.length_eq_zero_iff.mp (by omega)
      cases more <;> simp [splitFrom, hEmpty]
  | succ fuel ih =>
      by_cases hEmpty : octets = []
      · cases more <;> simp [splitFrom, hEmpty]
      · have hLength := List.length_pos_iff.mpr hEmpty
        cases more with
        | zero => omega
        | succ more =>
            unfold splitFrom
            rw [if_neg hEmpty, if_neg hEmpty]
            cases hMember : memberLen octets with
            | none => rfl
            | some len =>
                have hPos := pos_of_memberLen hMember
                have hShorter : (octets.drop len).length < octets.length := by
                  rw [List.length_drop]
                  omega
                exact congrArg (Option.map (offset :: ·))
                  (ih _ _ (by omega) (by omega))

private theorem startsFrom_of_splitFrom {fuel offset : Nat} {offsets : List Nat}
    (hFuel : octets.length ≤ fuel)
    (h : splitFrom fuel octets offset = some offsets) :
    startsFrom offset (messagesFrom fuel octets) = offsets ∧
      ((messagesFrom fuel octets).map AcfEntry.size).sum = octets.length := by
  induction fuel generalizing octets offset offsets with
  | zero =>
      have hEmpty : octets = [] := List.length_eq_zero_iff.mp (by omega)
      subst hEmpty
      cases h
      exact ⟨rfl, rfl⟩
  | succ fuel ih =>
      by_cases hEmpty : octets = []
      · subst hEmpty
        cases h
        exact ⟨rfl, rfl⟩
      · obtain ⟨len, later, hMember, hLater, rfl⟩ := splitFrom_succ hEmpty h
        have hPos := pos_of_memberLen hMember
        have hSize := size_of_memberLen hMember
        obtain ⟨hStarts, hSum⟩ :=
          ih (by rw [List.length_drop]; omega) hLater
        rw [messagesFrom, if_neg hEmpty, messageAt_of_memberLen hMember]
        simp only [startsFrom, hSize, hStarts, List.map_cons, List.sum_cons,
          hSum, List.length_drop, true_and]
        omega

private theorem decodeAcfMessages_of_split {frame : Octets}
    (h : splitFrameMembers frame ≠ []) :
    ∃ entries, decodeAcfMessages frame = .ok entries ∧
      startsFrom 0 entries = splitFrameMembers frame ∧
        (entries.map AcfEntry.size).sum = frame.length := by
  unfold splitFrameMembers at h ⊢
  cases hSplit : splitFrom frame.length frame 0 with
  | none => simp [hSplit] at h
  | some offsets =>
      rw [hSplit, Option.getD_some] at h
      obtain ⟨hStarts, hSum⟩ := startsFrom_of_splitFrom le_rfl hSplit
      have hNonempty : frame ≠ [] := by
        rintro rfl
        cases hSplit
        exact h rfl
      refine ⟨messagesFrom frame.length frame, ?_, hStarts, hSum⟩
      obtain ⟨n, hn⟩ := Nat.exists_eq_succ_of_ne_zero
        (Nat.ne_of_gt (List.length_pos_iff.mpr hNonempty))
      rw [hn] at hSplit
      obtain ⟨len, -, hMember, -, -⟩ := splitFrom_succ hNonempty hSplit
      unfold decodeAcfMessages
      rw [if_neg hNonempty, messageAt_of_memberLen hMember]

end Agree

/-! ## Frames of encodings -/

section Encodings

variable {messages : List AcfMessage}

/-- The frame that the encodings make up. -/
def frameOf (messages : List AcfMessage) : Octets :=
  (messages.map AcfMessage.encode).flatten

theorem frameOf_cons (message : AcfMessage) (messages : List AcfMessage) :
    frameOf (message :: messages) = message.encode ++ frameOf messages := rfl

private theorem encode_append_ne_nil (message : AcfMessage) (rest : Octets) :
    message.encode ++ rest ≠ [] := by
  have hEight := le_headerLen message.msgType
  unfold acfCommonHeaderLen at hEight
  apply List.ne_nil_of_length_pos
  rw [List.length_append, message.length_encode]
  omega

private theorem msgLength_encode (message : AcfMessage) (rest : Octets) :
    (octetAt (message.encode ++ rest) 0).toNat % 2 * 256 +
        (octetAt (message.encode ++ rest) 1).toNat =
      message.msgLength.toNat % 512 := by
  rw [← acfMsgLength_decodeAcfMessageInfo, message.decode_encode]
  simp only [AcfMessageInfo.truncated, AcfMessage.header,
    UInt16.toNat_ofNat']
  omega

/-- The splitter takes an encoding for one member exactly when its length
field says so. -/
theorem memberLen_encode_iff (message : AcfMessage) (rest : Octets) :
    memberLen (message.encode ++ rest) = some message.encode.length ↔
      message.Exact := by
  have hLength := message.length_encode
  have hEight := le_headerLen message.msgType
  unfold acfCommonHeaderLen at hEight
  have hKnown : ¬ (message.msgType ≠ acfMsgTypeAbb ∧
      message.msgType ≠ acfMsgTypeGbb) := by
    cases message <;> simp [AcfMessage.msgType]
  unfold memberLen
  simp only [message.peekAcfMsgType_encode, msgLength_encode,
    List.length_append]
  rw [if_neg (by omega), if_neg hKnown, if_neg (by omega)]
  unfold AcfMessage.Exact
  constructor
  · intro h
    split at h
    · cases h
    · split at h
      · cases h
      · exact Option.some_inj.mp h
  · intro hExact
    rw [if_neg (by omega), if_neg (by omega), hExact]

theorem isMember_encode {message : AcfMessage} (h : message.Exact) :
    IsMember message.encode := by
  have hMember := (memberLen_encode_iff message []).mpr h
  rwa [List.append_nil] at hMember

private theorem isMember_of_mem (h : ∀ message ∈ messages, message.Exact) :
    ∀ member ∈ messages.map AcfMessage.encode, IsMember member := by
  intro member hMem
  obtain ⟨message, hMessage, rfl⟩ := List.mem_map.mp hMem
  exact isMember_encode (h message hMessage)

private theorem messagesFrom_frameOf (h : ∀ message ∈ messages, message.Exact)
    {fuel : Nat} (hFuel : (frameOf messages).length ≤ fuel) :
    messagesFrom fuel (frameOf messages) =
      messages.map AcfMessage.onWire := by
  induction messages generalizing fuel with
  | nil => cases fuel <;> rfl
  | cons message messages ih =>
      obtain ⟨hFirst, hRest⟩ := List.forall_mem_cons.mp h
      have hMember := (memberLen_encode_iff message
        (frameOf messages)).mpr hFirst
      have hPos := pos_of_memberLen hMember
      rw [frameOf_cons] at hFuel ⊢
      rw [List.length_append] at hFuel
      cases fuel with
      | zero => omega
      | succ fuel =>
          rw [messagesFrom, if_neg (encode_append_ne_nil _ _),
            messageAt_of_memberLen hMember]
          simp only [message.entryOf_encode, List.drop_left, List.map_cons]
          exact congrArg (message.onWire :: ·) (ih hRest (by omega))

theorem decodeAcfMessages_frameOf (h : ∀ message ∈ messages, message.Exact) :
    decodeAcfMessages (frameOf messages) =
      .ok (messages.map AcfMessage.onWire) := by
  have hAll := messagesFrom_frameOf h le_rfl
  cases messages with
  | nil => rfl
  | cons message messages =>
      have hMember := (memberLen_encode_iff message
        (frameOf messages)).mpr (h message List.mem_cons_self)
      rw [frameOf_cons] at hAll ⊢
      rw [decodeAcfMessages, if_neg (encode_append_ne_nil _ _),
        messageAt_of_memberLen hMember]
      exact congrArg Except.ok hAll

private theorem exact_of_splitFrom {fuel offset : Nat}
    (hFuel : (frameOf messages).length ≤ fuel)
    (h : splitFrom fuel (frameOf messages) offset =
      some (offsetsFrom offset (messages.map AcfMessage.encode))) :
    ∀ message ∈ messages, message.Exact := by
  induction messages generalizing fuel offset with
  | nil => simp
  | cons message messages ih =>
      have hNonempty := encode_append_ne_nil message (frameOf messages)
      have hLength := List.length_pos_iff.mpr hNonempty
      rw [frameOf_cons] at h hFuel
      obtain ⟨n, rfl⟩ := Nat.exists_eq_succ_of_ne_zero
        (show fuel ≠ 0 by omega)
      obtain ⟨len, later, hMember, hLater, hOffsets⟩ :=
        splitFrom_succ hNonempty h
      obtain ⟨-, hRest⟩ := List.cons.inj hOffsets
      subst hRest
      obtain ⟨hPos, hLe⟩ := pos_of_memberLen hMember
      have hLeft : ((message.encode ++ frameOf messages).drop len).length ≤ n := by
        rw [List.length_drop]
        omega
      -- the next member starts where this encoding ends
      have hEnd : len = message.encode.length := by
        cases messages with
        | nil =>
            have hNone := congrArg List.length (splitFrom_nil hLeft hLater)
            rw [List.length_drop, List.length_nil] at hNone
            simp only [frameOf, List.map_nil, List.flatten_nil,
              List.append_nil] at hNone hLe
            omega
        | cons next messages =>
            have hFirst := splitFrom_head hLater
            omega
      subst hEnd
      rw [List.drop_left] at hLater hLeft
      have hExact := (memberLen_encode_iff message _).mp hMember
      exact List.forall_mem_cons.mpr ⟨hExact, ih hLeft hLater⟩

private theorem splitFrameMembers_frameOf_iff (messages : List AcfMessage) :
    splitFrameMembers (frameOf messages) =
        offsetsFrom 0 (messages.map AcfMessage.encode) ↔
      ∀ message ∈ messages, message.Exact := by
  constructor
  · intro h
    cases messages with
    | nil => simp
    | cons message messages =>
        unfold splitFrameMembers at h
        cases hSplit : splitFrom (frameOf (message :: messages)).length
            (frameOf (message :: messages)) 0 with
        | none => simp [hSplit, offsetsFrom] at h
        | some offsets =>
            rw [hSplit, Option.getD_some] at h
            exact exact_of_splitFrom le_rfl (h ▸ hSplit)
  · intro h
    exact splitFrameMembers_flatten (isMember_of_mem h)

theorem frameMembers_frameOf (h : ∀ message ∈ messages, message.Exact)
    (hCount : messages.length ≤ maxFrameMembers) :
    frameMembers (frameOf messages) = messages.map AcfMessage.encode := by
  apply frameMembers_of_le (isMember_of_mem h)
  rwa [List.length_map]

end Encodings

/-! ## The laws -/

/-- Both walks find the messages of a frame whose encodings declare their own
length, as those of whole quadlets within the limit do.  On any frame, where
the splitter finds members the decoder finds messages at the same offsets; both
end within as many turns as there are octets, and what the decoder returns lies
within the frame, one message after another. -/
theorem walks_agree :
    (∀ messages : List AcfMessage, (∀ message ∈ messages, message.Exact) →
      decodeAcfMessages (frameOf messages) =
          .ok (messages.map AcfMessage.onWire) ∧
        splitFrameMembers (frameOf messages) =
          offsetsFrom 0 (messages.map AcfMessage.encode) ∧
        (messages.length ≤ maxFrameMembers →
          frameMembers (frameOf messages) =
            messages.map AcfMessage.encode)) ∧
    (∀ message : AcfMessage, message.info.acfMsgLength = 0 →
      message.payload.length % 4 = 0 →
        message.payload.length ≤ message.maxPayload → message.Exact) ∧
    ∀ frame : Octets,
      (splitFrameMembers frame ≠ [] →
        ∃ entries, decodeAcfMessages frame = .ok entries ∧
          startsFrom 0 entries = splitFrameMembers frame ∧
            (entries.map AcfEntry.size).sum = frame.length) ∧
      (∀ fuel, frame.length ≤ fuel →
        splitFrom fuel frame 0 = splitFrom frame.length frame 0 ∧
          messagesFrom fuel frame = messagesFrom frame.length frame) ∧
      ∀ entries, decodeAcfMessages frame = .ok entries →
        Tiles frame entries := by
  refine ⟨fun messages h => ?_, fun message hUnset hAligned hLimit =>
    (message.exact_iff_aligned hUnset hLimit).mpr hAligned, fun frame => ?_⟩
  · exact ⟨decodeAcfMessages_frameOf h,
      (splitFrameMembers_frameOf_iff messages).mpr h, frameMembers_frameOf h⟩
  · refine ⟨decodeAcfMessages_of_split, fun fuel hFuel => ?_,
      fun entries => tiles_decodeAcfMessages⟩
    exact ⟨splitFrom_fuel frame 0 hFuel le_rfl,
      messagesFrom_fuel frame hFuel le_rfl⟩

theorem walks_agree_two :
    decodeAcfMessages (frameOf [.abb {} [], .gbb {} 7 [1, 2, 3, 4]]) =
        .ok [AcfMessage.onWire (.abb {} []),
          AcfMessage.onWire (.gbb {} 7 [1, 2, 3, 4])] ∧
      splitFrameMembers (frameOf [.abb {} [], .gbb {} 7 [1, 2, 3, 4]]) =
        [0, 8] ∧
      AcfMessage.Exact (.gbb {} 7 [1, 2, 3, 4]) := by
  obtain ⟨hDecoded, hSplit, -⟩ := walks_agree.1
    [.abb {} [], .gbb {} 7 [1, 2, 3, 4]] (by decide)
  exact ⟨hDecoded, hSplit, walks_agree.2.1 (.gbb {} 7 [1, 2, 3, 4]) rfl rfl
    (by decide)⟩

/-- A length that the caller set is sent as it is, and both walks follow it
into the next message. -/
theorem walks_length_set :
    decodeAcfMessages
        (frameOf [.abb { acfMsgLength := 4 } [], .abb {} []]) ≠
      .ok [AcfMessage.onWire (.abb { acfMsgLength := 4 } []),
        AcfMessage.onWire (.abb {} [])] ∧
    splitFrameMembers (frameOf [.abb { acfMsgLength := 4 } [], .abb {} []]) =
      [0] := by
  decide

/-- A frame of encodings is split into just these exactly when each declares
its own length. -/
theorem split_exact_iff (messages : List AcfMessage) :
    (splitFrameMembers (frameOf messages) =
        offsetsFrom 0 (messages.map AcfMessage.encode) ↔
      ∀ message ∈ messages, message.Exact) ∧
    ((∀ message ∈ messages, message.Exact) →
      messages.length ≤ maxFrameMembers →
        frameMembers (frameOf messages) = messages.map AcfMessage.encode) ∧
    ∀ message ∈ messages, message.info.acfMsgLength = 0 →
      message.payload.length ≤ message.maxPayload →
        (message.Exact ↔ message.payload.length % 4 = 0) := by
  refine ⟨splitFrameMembers_frameOf_iff messages, frameMembers_frameOf, ?_⟩
  intro message _ hUnset hLimit
  exact message.exact_iff_aligned hUnset hLimit

theorem split_exact_two :
    frameMembers (frameOf [.abb {} [], .gbb {} 7 [1, 2, 3, 4]]) =
        [AcfMessage.encode (.abb {} []),
          AcfMessage.encode (.gbb {} 7 [1, 2, 3, 4])] ∧
      (AcfMessage.Exact (.abb {} []) ↔ ([] : Octets).length % 4 = 0) :=
  ⟨(split_exact_iff [.abb {} [], .gbb {} 7 [1, 2, 3, 4]]).2.1 (by decide)
      (by decide),
    (split_exact_iff [.abb {} []]).2.2 (.abb {} []) List.mem_cons_self rfl
      (by decide)⟩

/-- A payload of one octet is declared as four, so the splitter finds nothing. -/
theorem split_unaligned :
    splitFrameMembers (frameOf [.abb {} [1]]) = [] ∧
      frameMembers (frameOf [.abb {} [1]]) ≠ [AcfMessage.encode (.abb {} [1])] := by
  decide

end CppRcp.Mock
