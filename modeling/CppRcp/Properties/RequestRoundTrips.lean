import CppRcp.Wire.RequestEncoding
import CppRcp.Wire.Reserved

/-!
# The conditional-request codecs

Seven decoders share one header layout, and compound and compound-wait share
one of them.  Each decoder returns what its encoder was given, accepts the
opcodes of its kind only, and wants the octets its kind does not use to be
zero.  Timed requests and cancellations also want header flags clear.  None of
them looks at the reserved bits of the header.
-/

namespace CppRcp.Request

open CppRcp.Foundation CppRcp.Acf

inductive ConditionalKind
  | compound | triggered | timed | chained | clearAll | clearNonSafestate
  | clearSingle
  deriving DecidableEq, Repr

inductive ConditionalRequest
  | compound (request : CompoundRequest)
  | triggered (request : TriggeredRequest)
  | timed (request : TimedRequest)
  | chained (member : ChainedMember)
  | clearAll (request : ClearRequest)
  | clearNonSafestate (request : ClearRequest)
  | clearSingle (request : ClearSingleRequest)
  deriving DecidableEq, Repr

namespace ConditionalRequest

def kind : ConditionalRequest → ConditionalKind
  | compound _ => .compound
  | triggered _ => .triggered
  | timed _ => .timed
  | chained _ => .chained
  | clearAll _ => .clearAll
  | clearNonSafestate _ => .clearNonSafestate
  | clearSingle _ => .clearSingle

def byteBusId : ConditionalRequest → UInt16
  | compound request => request.byteBusId
  | triggered request => request.byteBusId
  | timed request => request.byteBusId
  | chained member => member.byteBusId
  | clearAll request => request.byteBusId
  | clearNonSafestate request => request.byteBusId
  | clearSingle request => request.byteBusId

def encode : ConditionalRequest → Option Octets
  | compound request =>
      some (encodeCompoundRequest request.type request.byteBusId request.step
        request.evtOp request.transactionNum request.payload)
  | triggered request =>
      some (encodeTriggeredRequest request.type request.byteBusId request.step
        request.transactionNum request.payload)
  | timed request =>
      encodeTimedRequest request.byteBusId request.presentationTime
        request.transactionNum request.payload
  | chained member =>
      some (encodeChainedMember member.byteBusId member.chainExecDelay
        member.cs member.transactionNum member.payload)
  | clearAll request =>
      some (encodeClearAll request.byteBusId request.transactionNum)
  | clearNonSafestate request =>
      some (encodeClearNonSafestate request.byteBusId request.transactionNum)
  | clearSingle request =>
      some (encodeClearSingle request.byteBusId request.clearTransactionNum
        request.transactionNum)

/-- Fields that are wider than they are on the wire are in the range there,
and the opcode is one of the kind. -/
def InRange (request : ConditionalRequest) : Prop :=
  request.byteBusId.toNat < 2048 ∧
    match request with
    | compound request =>
        (isCompound request.type || isCompoundWait request.type) = true ∧
          request.evtOp.toNat < 8
    | triggered request => isTriggered request.type = true
    | timed request => request.presentationTime < 2 ^ 48
    | chained _ | clearAll _ | clearNonSafestate _ | clearSingle _ => True

end ConditionalRequest

namespace ConditionalKind

def decode : ConditionalKind → Octets → Except ErrorCode ConditionalRequest
  | .compound, frame => (decodeCompoundRequest frame).map .compound
  | .triggered, frame => (decodeTriggeredRequest frame).map .triggered
  | .timed, frame => (decodeTimedRequest frame).map .timed
  | .chained, frame => (decodeChainedMember frame).map .chained
  | .clearAll, frame => (decodeClearAll frame).map .clearAll
  | .clearNonSafestate, frame =>
      (decodeClearNonSafestate frame).map .clearNonSafestate
  | .clearSingle, frame => (decodeClearSingle frame).map .clearSingle

def ofType : RequestTypeOpcode → ConditionalKind
  | .compound | .compoundSafety | .compoundWait | .compoundWaitSafety =>
      .compound
  | .triggered | .triggeredSafety => .triggered
  | .timed => .timed
  | .chained => .chained
  | .clearAll => .clearAll
  | .clearNonSafestate => .clearNonSafestate
  | .clearSingle => .clearSingle

/-- The octets of the timestamp that the kind does not use, where octet 0 is
the opcode. -/
def reservedOctets : ConditionalKind → List Nat
  | .compound | .triggered => []
  | .timed => [1]
  | .chained => [1, 2, 3, 6, 7]
  | .clearAll | .clearNonSafestate => [1, 2, 3, 4, 5, 6, 7]
  | .clearSingle => [1, 2, 4, 5, 6, 7]

def flagsClear (kind : ConditionalKind) (info : AcfMessageInfo) : Bool :=
  match kind with
  | .compound | .triggered | .chained => true
  | .timed => !info.hs && !info.cs
  | .clearAll | .clearNonSafestate | .clearSingle => evtHsCsZero info

/-- The frames of the kind. -/
structure Frames (kind : ConditionalKind) (frame : Octets) : Prop where
  length : acfGbbMessageInfoLen ≤ frame.length
  msgType : peekAcfMsgType frame = acfMsgTypeGbb
  mtv : (decodeAcfMessageInfo frame).mtv = false
  opcode : (requestTypeOf (octetAt frame acfCommonHeaderLen)).map ofType =
    some kind
  reserved : ∀ index ∈ kind.reservedOctets,
    octetAt frame (acfCommonHeaderLen + index) = 0
  flags : kind.flagsClear (decodeAcfMessageInfo frame) = true

/-! ## Acceptance -/

private theorem isOk_map {α β : Type} (f : α → β) (x : Except ErrorCode α) :
    (x.map f).isOk = x.isOk := by
  cases x <;> rfl

private theorem isOk_ite_error {α : Type} (c : Prop) [Decidable c]
    (e : ErrorCode) (x : Except ErrorCode α) :
    (if c then .error e else x).isOk = (!decide c && x.isOk) := by
  by_cases hc : c
  · rw [if_pos hc, decide_eq_true hc]
    rfl
  · rw [if_neg hc, decide_eq_false hc]
    rfl

private theorem isOk_ok {α : Type} (a : α) :
    (.ok a : Except ErrorCode α).isOk = true := rfl

private theorem octetAt_params {frame : Octets} {index : Nat} (h : index < 7) :
    octetAt ((frame.drop 9).take 7) index =
      octetAt frame (acfCommonHeaderLen + (index + 1)) := by
  have hPlace : 9 + index = acfCommonHeaderLen + (index + 1) := by
    unfold acfCommonHeaderLen
    omega
  rw [octetAt_take h, octetAt_drop, hPlace]

private theorem allZero_params {frame : Octets} {indices : List Nat}
    (h : ∀ index ∈ indices, index < 7) :
    allZero ((frame.drop 9).take 7) indices = true ↔
      ∀ index ∈ indices.map (· + 1),
        octetAt frame (acfCommonHeaderLen + index) = 0 := by
  unfold allZero
  rw [List.all_eq_true, List.forall_mem_map]
  apply forall₂_congr
  intro index hMem
  rw [octetAt_params (h index hMem), decide_eq_true_iff]

theorem decodeRepurposed_ok {frame : Octets} {r : Repurposed}
    (h : decodeRepurposed frame = .ok r) :
    acfGbbMessageInfoLen ≤ frame.length ∧
      peekAcfMsgType frame = acfMsgTypeGbb ∧
      (decodeAcfMessageInfo frame).mtv = false := by
  unfold decodeRepurposed at h
  split at h
  · cases h
  · rename_i info ts payload hGbb
    obtain ⟨rfl, hLength, hType, -, -⟩ := decodeAcfGbb_ok hGbb
    refine ⟨hLength, hType, ?_⟩
    cases hMtv : (decodeAcfMessageInfo frame).mtv
    · rfl
    · rw [hMtv] at h
      cases h

def accepts (kind : ConditionalKind) (r : Repurposed) : Bool :=
  ofType r.type = kind &&
    allZero r.params (kind.reservedOctets.map (· - 1)) &&
    kind.flagsClear r.info

private theorem isOk_decode_of_error {kind : ConditionalKind} {frame : Octets}
    {e : ErrorCode} (h : decodeRepurposed frame = .error e) :
    (kind.decode frame).isOk = false := by
  cases kind <;>
    simp only [decode, decodeCompoundRequest, decodeTriggeredRequest,
      decodeTimedRequest, decodeChainedMember, decodeClearAll,
      decodeClearNonSafestate, decodeClear, decodeClearSingle, h] <;> rfl

private theorem isOk_decode {kind : ConditionalKind} {frame : Octets}
    {r : Repurposed} (h : decodeRepurposed frame = .ok r) :
    (kind.decode frame).isOk = kind.accepts r := by
  cases kind
  case compound =>
    have hType : (!isCompound r.type && !isCompoundWait r.type) =
        !decide (ofType r.type = .compound) := by
      cases r.type <;> rfl
    simp only [decode, decodeCompoundRequest, h, hType, accepts]
    cases decide (ofType r.type = .compound) <;> rfl
  case triggered =>
    have hType : (!isTriggered r.type) =
        !decide (ofType r.type = .triggered) := by
      cases r.type <;> rfl
    simp only [decode, decodeTriggeredRequest, h, hType, accepts]
    cases decide (ofType r.type = .triggered) <;> rfl
  case timed =>
    have hType : r.type ≠ .timed ↔ ¬ ofType r.type = .timed := by
      cases r.type <;> decide
    simp only [decode, decodeTimedRequest, h, hType, accepts, isOk_map,
      isOk_ite_error, isOk_ok]
    simp [reservedOctets, allZero, flagsClear, Bool.and_assoc]
  case chained =>
    have hType : r.type ≠ .chained ↔ ¬ ofType r.type = .chained := by
      cases r.type <;> decide
    simp only [decode, decodeChainedMember, h, hType, accepts, isOk_map,
      isOk_ite_error, isOk_ok]
    simp [reservedOctets, flagsClear]
  case clearAll =>
    have hType : r.type ≠ .clearAll ↔ ¬ ofType r.type = .clearAll := by
      cases r.type <;> decide
    simp only [decode, decodeClearAll, decodeClear, h, hType, accepts,
      isOk_map, isOk_ite_error, isOk_ok]
    simp [reservedOctets, flagsClear, Bool.and_assoc]
  case clearNonSafestate =>
    have hType : r.type ≠ .clearNonSafestate ↔
        ¬ ofType r.type = .clearNonSafestate := by
      cases r.type <;> decide
    simp only [decode, decodeClearNonSafestate, decodeClear, h, hType, accepts,
      isOk_map, isOk_ite_error, isOk_ok]
    simp [reservedOctets, flagsClear, Bool.and_assoc]
  case clearSingle =>
    have hType : r.type ≠ .clearSingle ↔ ¬ ofType r.type = .clearSingle := by
      cases r.type <;> decide
    simp only [decode, decodeClearSingle, h, hType, accepts, isOk_map,
      isOk_ite_error, isOk_ok]
    simp [reservedOctets, flagsClear, Bool.and_assoc]

theorem accepts_iff {kind : ConditionalKind} {frame : Octets}
    {type : RequestTypeOpcode} {payload : Octets} :
    kind.accepts ⟨decodeAcfMessageInfo frame, type, (frame.drop 9).take 7,
        payload⟩ = true ↔
      ofType type = kind ∧
        (∀ index ∈ kind.reservedOctets,
          octetAt frame (acfCommonHeaderLen + index) = 0) ∧
        kind.flagsClear (decodeAcfMessageInfo frame) = true := by
  have hRange : ∀ index ∈ kind.reservedOctets.map (· - 1), index < 7 := by
    cases kind <;> decide
  have hBack : (kind.reservedOctets.map (· - 1)).map (· + 1) =
      kind.reservedOctets := by
    cases kind <;> rfl
  unfold accepts
  rw [Bool.and_eq_true, Bool.and_eq_true, decide_eq_true_iff, and_assoc,
    allZero_params hRange, hBack]

private theorem isOk_decode_iff {kind : ConditionalKind} {frame : Octets} :
    (kind.decode frame).isOk = true ↔ kind.Frames frame := by
  constructor
  · intro hOk
    cases hStage : decodeRepurposed frame with
    | error e =>
        rw [isOk_decode_of_error hStage] at hOk
        cases hOk
    | ok r =>
        obtain ⟨hLength, hType, hMtv⟩ := decodeRepurposed_ok hStage
        have hEq := decodeRepurposed_eq hLength hType hMtv
        rw [isOk_decode hStage] at hOk
        rw [hStage] at hEq
        cases hOpcode : requestTypeOf (octetAt frame acfCommonHeaderLen) with
        | none =>
            rw [hOpcode] at hEq
            cases hEq
        | some type =>
            rw [hOpcode] at hEq
            obtain rfl := Except.ok.inj hEq
            obtain ⟨hKind, hReserved, hFlags⟩ := accepts_iff.mp hOk
            exact ⟨hLength, hType, hMtv, by rw [hOpcode, ← hKind]; rfl,
              hReserved, hFlags⟩
  · intro hFrames
    obtain ⟨type, hOpcode, hKind⟩ := Option.map_eq_some_iff.mp hFrames.opcode
    have hEq := decodeRepurposed_eq hFrames.length hFrames.msgType hFrames.mtv
    rw [hOpcode] at hEq
    rw [isOk_decode hEq]
    exact accepts_iff.mpr ⟨hKind, hFrames.reserved, hFrames.flags⟩

theorem Frames.unique {kind kind' : ConditionalKind} {frame : Octets}
    (h : kind.Frames frame) (h' : kind'.Frames frame) : kind = kind' := by
  have hOpcode := h'.opcode
  rw [h.opcode] at hOpcode
  exact Option.some.inj hOpcode

end ConditionalKind

/-! ## Round trips -/

private theorem be16At_putBe (a b c : UInt8) (n m : UInt16) :
    be16At ([a, b, c] ++ (putBe 2 n.toNat ++ putBe 2 m.toNat)) 3 = n ∧
      be16At ([a, b, c] ++ (putBe 2 n.toNat ++ putBe 2 m.toNat)) 5 = m := by
  have hn := n.toNat_lt
  have hm := m.toNat_lt
  constructor
  · apply UInt16.toNat_inj.mp
    simp [be16At, octetAt, putBe]
    omega
  · apply UInt16.toNat_inj.mp
    simp [be16At, octetAt, putBe]
    omega

private theorem decodeRepurposed_fields {byteBusId : UInt16} (evtOp : UInt8)
    (cs : Bool) (transactionNum : UInt8) (type : RequestTypeOpcode)
    {params : Octets} (payload : Octets) (hBus : byteBusId.toNat < 2048)
    (hEvt : evtOp.toNat < 8) (hParams : params.length = 7) :
    ∃ info,
      decodeRepurposed (encodeAcfGbb
        { byteBusId := byteBusId
          evtOp := evtOp
          cs := cs
          transactionNum := transactionNum }
        (encodeRequestType type params) payload) =
          .ok ⟨info, type, params, payload⟩ ∧
      info.byteBusId = byteBusId ∧ info.evtOp = evtOp ∧ info.hs = false ∧
      info.cs = cs ∧ info.transactionNum = transactionNum := by
  have hBusId : UInt16.ofNat (byteBusId.toNat % 2048) = byteBusId := by
    rw [Nat.mod_eq_of_lt hBus, UInt16.ofNat_toNat]
  have hOp : UInt8.ofNat (evtOp.toNat % 8) = evtOp := by
    rw [Nat.mod_eq_of_lt hEvt, UInt8.ofNat_toNat]
  exact ⟨_, decodeRepurposed_encode _ type payload rfl hParams, hBusId, hOp,
    rfl, rfl, rfl⟩

section RoundTrips

variable (byteBusId : UInt16) (transactionNum : UInt8) (payload : Octets)

private theorem decode_encodeCompoundRequest {type : RequestTypeOpcode}
    (step : CompoundStep) {evtOp : UInt8} (hBus : byteBusId.toNat < 2048)
    (hType : (isCompound type || isCompoundWait type) = true)
    (hEvt : evtOp.toNat < 8) :
    decodeCompoundRequest (encodeCompoundRequest type byteBusId step evtOp
        transactionNum payload) =
      .ok ⟨type, byteBusId, step, evtOp, transactionNum, payload⟩ := by
  have hKind : (!isCompound type && !isCompoundWait type) = false := by
    rw [← Bool.not_or, hType]
    rfl
  have hOp : UInt8.ofNat (evtOp.toNat % 8) = evtOp := by
    rw [Nat.mod_eq_of_lt hEvt, UInt8.ofNat_toNat]
  have hStep := be16At_putBe step.startState step.nextState
    step.sequencerIndex step.execDelay step.repeatCount
  obtain ⟨info, hStage, rfl, rfl, -, -, rfl⟩ := decodeRepurposed_fields evtOp
    false transactionNum type payload hBus hEvt
    (show (encodeCompoundStepParams step).length = 7 from rfl)
  unfold decodeCompoundRequest encodeCompoundRequest
  rw [hOp, hStage]
  dsimp only
  rw [hKind, if_neg (by simp)]
  unfold decodeCompoundStepParams encodeCompoundStepParams
  rw [hStep.1, hStep.2]
  rfl

private theorem decode_encodeTriggeredRequest {type : RequestTypeOpcode}
    (step : TriggeredStep) (hBus : byteBusId.toNat < 2048)
    (hType : isTriggered type = true) :
    decodeTriggeredRequest (encodeTriggeredRequest type byteBusId step
        transactionNum payload) =
      .ok ⟨type, byteBusId, step, transactionNum, payload⟩ := by
  have hStep := be16At_putBe step.triggerSourceEp step.triggerSignalNr
    step.triggerThreshold step.execDelay step.repeatCount
  obtain ⟨info, hStage, rfl, -, -, -, rfl⟩ := decodeRepurposed_fields
    0 false transactionNum type payload hBus (by decide)
    (show (encodeTriggeredStepParams step).length = 7 from rfl)
  unfold decodeTriggeredRequest encodeTriggeredRequest
  rw [hStage]
  dsimp only
  rw [hType, if_neg (by simp)]
  unfold decodeTriggeredStepParams encodeTriggeredStepParams
  rw [hStep.1, hStep.2]
  rfl

private theorem decode_encodeTimedRequest {presentationTime : Nat}
    (hBus : byteBusId.toNat < 2048) (hTime : presentationTime < 2 ^ 48) :
    ∃ frame,
      encodeTimedRequest byteBusId presentationTime transactionNum payload =
        some frame ∧
      decodeTimedRequest frame =
        .ok ⟨byteBusId, presentationTime, transactionNum, payload⟩ := by
  have hBe : getBe (putBe 6 presentationTime) = presentationTime :=
    getBe_putBe_of_lt (by omega)
  obtain ⟨info, hStage, rfl, -, hHs, hCs, rfl⟩ := decodeRepurposed_fields
    0 false transactionNum .timed payload hBus (by decide)
    (show (0 :: putBe 6 presentationTime).length = 7 by simp)
  unfold encodeTimedRequest
  rw [if_neg (by omega)]
  refine ⟨_, rfl, ?_⟩
  unfold decodeTimedRequest
  rw [hStage]
  dsimp only
  rw [if_neg (by simp), if_neg (by simp [octetAt]), hHs, hCs,
    if_neg (by simp), List.drop_succ_cons, List.drop_zero, hBe]

private theorem decode_encodeChainedMember (chainExecDelay : UInt16) (cs : Bool)
    (hBus : byteBusId.toNat < 2048) :
    decodeChainedMember (encodeChainedMember byteBusId chainExecDelay cs
        transactionNum payload) =
      .ok ⟨byteBusId, chainExecDelay, cs, transactionNum, payload⟩ := by
  have hDelay := (be16At_putBe 0 0 0 chainExecDelay 0).1
  obtain ⟨info, hStage, rfl, -, -, rfl, rfl⟩ := decodeRepurposed_fields
    0 cs transactionNum .chained payload hBus (by decide)
    (show ([0, 0, 0] ++ (putBe 2 chainExecDelay.toNat ++ [0, 0])).length = 7
      by simp)
  unfold decodeChainedMember encodeChainedMember
  rw [hStage]
  dsimp only
  rw [if_neg (by simp), if_neg (by simp [allZero, octetAt, putBe])]
  exact congrArg (fun delay => Except.ok
    (⟨info.byteBusId, delay, info.cs, info.transactionNum, payload⟩ :
      ChainedMember)) hDelay

private theorem decode_encodeClear (type : RequestTypeOpcode)
    (hBus : byteBusId.toNat < 2048) :
    decodeClear type (encodeClear type [0, 0, 0, 0, 0, 0, 0] byteBusId
        transactionNum) =
      .ok ⟨byteBusId, transactionNum⟩ := by
  obtain ⟨info, hStage, rfl, hOp, hHs, hCs, rfl⟩ := decodeRepurposed_fields
    0 false transactionNum type [] hBus (by decide)
    (show [(0 : UInt8), 0, 0, 0, 0, 0, 0].length = 7 from rfl)
  unfold decodeClear encodeClear
  rw [hStage]
  dsimp only
  rw [if_neg (by simp), if_neg (by decide),
    if_neg (by simp [evtHsCsZero, hOp, hHs, hCs])]

private theorem decode_encodeClearSingle (clearTransactionNum : UInt8)
    (hBus : byteBusId.toNat < 2048) :
    decodeClearSingle (encodeClearSingle byteBusId clearTransactionNum
        transactionNum) =
      .ok ⟨byteBusId, clearTransactionNum, transactionNum⟩ := by
  obtain ⟨info, hStage, rfl, hOp, hHs, hCs, rfl⟩ := decodeRepurposed_fields
    0 false transactionNum .clearSingle [] hBus (by decide)
    (show [0, 0, clearTransactionNum, 0, 0, 0, 0].length = 7 from rfl)
  unfold decodeClearSingle encodeClearSingle encodeClear
  rw [hStage]
  dsimp only
  rw [if_neg (by simp), if_neg (by simp [allZero, octetAt]),
    if_neg (by simp [evtHsCsZero, hOp, hHs, hCs])]
  rfl

end RoundTrips

theorem ConditionalRequest.decode_encode {request : ConditionalRequest}
    (h : request.InRange) :
    ∃ frame, request.encode = some frame ∧
      request.kind.decode frame = .ok request := by
  obtain ⟨hBus, hKind⟩ := h
  cases request with
  | compound request =>
      have hBack := decode_encodeCompoundRequest request.byteBusId
        request.transactionNum request.payload request.step hBus hKind.1
        hKind.2
      exact ⟨_, rfl, congrArg (Except.map ConditionalRequest.compound) hBack⟩
  | triggered request =>
      have hBack := decode_encodeTriggeredRequest request.byteBusId
        request.transactionNum request.payload request.step hBus hKind
      exact ⟨_, rfl, congrArg (Except.map ConditionalRequest.triggered) hBack⟩
  | timed request =>
      obtain ⟨frame, hEncode, hBack⟩ := decode_encodeTimedRequest
        request.byteBusId request.transactionNum request.payload hBus hKind
      exact ⟨frame, hEncode,
        congrArg (Except.map ConditionalRequest.timed) hBack⟩
  | chained member =>
      have hBack := decode_encodeChainedMember member.byteBusId
        member.transactionNum member.payload member.chainExecDelay member.cs
        hBus
      exact ⟨_, rfl, congrArg (Except.map ConditionalRequest.chained) hBack⟩
  | clearAll request =>
      have hBack := decode_encodeClear request.byteBusId
        request.transactionNum .clearAll hBus
      exact ⟨_, rfl, congrArg (Except.map ConditionalRequest.clearAll) hBack⟩
  | clearNonSafestate request =>
      have hBack := decode_encodeClear request.byteBusId
        request.transactionNum .clearNonSafestate hBus
      exact ⟨_, rfl,
        congrArg (Except.map ConditionalRequest.clearNonSafestate) hBack⟩
  | clearSingle request =>
      have hBack := decode_encodeClearSingle request.byteBusId
        request.transactionNum request.clearTransactionNum hBus
      exact ⟨_, rfl, congrArg (Except.map ConditionalRequest.clearSingle) hBack⟩

/-! ## The codecs together -/

/-- Round trips, and exactly the frames that each decoder accepts, which no
two share. -/
theorem conditional_codecs :
    (∀ request : ConditionalRequest, request.InRange →
      ∃ frame, request.encode = some frame ∧
        request.kind.decode frame = .ok request) ∧
    (∀ (kind : ConditionalKind) (frame : Octets),
      (kind.decode frame).isOk = true ↔ kind.Frames frame) ∧
    ∀ (kind kind' : ConditionalKind) (frame : Octets),
      (kind.decode frame).isOk = true → (kind'.decode frame).isOk = true →
        kind = kind' := by
  refine ⟨fun _ => ConditionalRequest.decode_encode,
    fun _ _ => ConditionalKind.isOk_decode_iff, ?_⟩
  intro kind kind' frame h h'
  rw [ConditionalKind.isOk_decode_iff] at h h'
  exact h.unique h'

theorem conditional_codecs_timed :
    ∃ frame, (ConditionalRequest.timed ⟨5, 2 ^ 48 - 1, 9, [1, 2]⟩).encode =
        some frame ∧
      ConditionalKind.timed.decode frame =
        .ok (.timed ⟨5, 2 ^ 48 - 1, 9, [1, 2]⟩) :=
  conditional_codecs.1 (.timed ⟨5, 2 ^ 48 - 1, 9, [1, 2]⟩)
    ⟨by decide, show 2 ^ 48 - 1 < 2 ^ 48 by decide⟩

/-- A reserved bit of the header is set, and clear-all is accepted. -/
theorem clearAll_accepts_reservedBit :
    ¬ ∀ (kind : ConditionalKind) (frame : Octets) (index bit : Nat),
      E2e.ReservedBit index bit → flag (octetAt frame index) bit = true →
        (kind.decode frame).isOk = false := by
  intro hAll
  have hRejected := hAll .clearAll
    [0x1A, 4, 0x08, 1, 0, 7, 0, 0, 5, 0, 0, 0, 0, 0, 0, 0] 2 3 (by decide)
    (by decide)
  revert hRejected
  decide

end CppRcp.Request
