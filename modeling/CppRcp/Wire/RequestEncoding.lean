import CppRcp.Wire.AcfMessages
import CppRcp.Wire.Request

/-!
# Encoding conditional requests

The encoders of `request.hpp`.  Each packs its own fields behind the opcode
into the timestamp of a GBB message and leaves the rest of the header at its
defaults, so that the length field is computed.
-/

namespace CppRcp.Request

open CppRcp.Foundation CppRcp.Acf

/-! ## Compound, triggered and timed -/

def encodeCompoundStepParams (step : CompoundStep) : Octets :=
  [step.startState, step.nextState, step.sequencerIndex] ++
    (putBe 2 step.execDelay.toNat ++ putBe 2 step.repeatCount.toNat)

def encodeCompoundRequest (type : RequestTypeOpcode) (byteBusId : UInt16)
    (step : CompoundStep) (evtOp transactionNum : UInt8) (payload : Octets) :
    Octets :=
  encodeAcfGbb
    { byteBusId := byteBusId
      evtOp := UInt8.ofNat (evtOp.toNat % 8)
      transactionNum := transactionNum }
    (encodeRequestType type (encodeCompoundStepParams step)) payload

def encodeTriggeredStepParams (step : TriggeredStep) : Octets :=
  [step.triggerSourceEp, step.triggerSignalNr, step.triggerThreshold] ++
    (putBe 2 step.execDelay.toNat ++ putBe 2 step.repeatCount.toNat)

def encodeTriggeredRequest (type : RequestTypeOpcode) (byteBusId : UInt16)
    (step : TriggeredStep) (transactionNum : UInt8) (payload : Octets) :
    Octets :=
  encodeAcfGbb
    { byteBusId := byteBusId
      transactionNum := transactionNum }
    (encodeRequestType type (encodeTriggeredStepParams step)) payload

def encodeTimedRequest (byteBusId : UInt16) (presentationTime : Nat)
    (transactionNum : UInt8) (payload : Octets) : Option Octets :=
  if 2 ^ 48 - 1 < presentationTime then none
  else
    some (encodeAcfGbb
      { byteBusId := byteBusId
        transactionNum := transactionNum }
      (encodeRequestType .timed (0 :: putBe 6 presentationTime)) payload)

/-! ## Chained -/

def encodeChainedMember (byteBusId chainExecDelay : UInt16) (cs : Bool)
    (transactionNum : UInt8) (payload : Octets) : Octets :=
  encodeAcfGbb
    { byteBusId := byteBusId
      cs := cs
      transactionNum := transactionNum }
    (encodeRequestType .chained
      ([0, 0, 0] ++ (putBe 2 chainExecDelay.toNat ++ [0, 0]))) payload

/-! ## Cancellations -/

def encodeClear (type : RequestTypeOpcode) (params : Octets)
    (byteBusId : UInt16) (transactionNum : UInt8) : Octets :=
  encodeAcfGbb
    { byteBusId := byteBusId
      transactionNum := transactionNum }
    (encodeRequestType type params) []

def encodeClearAll : UInt16 → UInt8 → Octets :=
  encodeClear .clearAll [0, 0, 0, 0, 0, 0, 0]

def encodeClearNonSafestate : UInt16 → UInt8 → Octets :=
  encodeClear .clearNonSafestate [0, 0, 0, 0, 0, 0, 0]

def encodeClearSingle (byteBusId : UInt16)
    (clearTransactionNum transactionNum : UInt8) : Octets :=
  encodeClear .clearSingle [0, 0, clearTransactionNum, 0, 0, 0, 0] byteBusId
    transactionNum

/-! ## The repurposed timestamp -/

private theorem encodeRequestType_lt {type : RequestTypeOpcode}
    {params : Octets} (hParams : params.length = 7) :
    encodeRequestType type params < 2 ^ 64 := by
  have hLt := getBe_lt (type.toOctet :: params)
  rw [List.length_cons, hParams] at hLt
  exact hLt

private theorem decodeRequestType_getBe (opcode : UInt8) {params : Octets}
    (hParams : params.length = 7) :
    decodeRequestType false (getBe (opcode :: params)) =
      match requestTypeOf opcode with
      | none => .error (.request .unknownRequestType)
      | some type => .ok (type, params) := by
  have hOctets := putBe_getBe (opcode :: params)
  rw [List.length_cons, hParams, putBe] at hOctets
  obtain ⟨hOpcode, hRest⟩ := List.cons.inj hOctets
  have hPower : (256 : Nat) ^ 7 = 2 ^ 56 := by norm_num
  rw [hPower] at hOpcode
  unfold decodeRequestType
  rw [hOpcode, hRest]
  rfl

theorem decodeRepurposed_encode (info : AcfMessageInfo)
    (type : RequestTypeOpcode) {params : Octets} (payload : Octets)
    (hMtv : info.mtv = false) (hParams : params.length = 7) :
    decodeRepurposed
        (encodeAcfGbb info (encodeRequestType type params) payload) =
      .ok ⟨(AcfMessage.header (.gbb info
          (UInt64.ofNat (encodeRequestType type params)) payload)).truncated,
        type, params, payload⟩ := by
  have hStamp : (UInt64.ofNat (encodeRequestType type params)).toNat =
      encodeRequestType type params :=
    UInt64.toNat_ofNat_of_lt' (encodeRequestType_lt hParams)
  have hDecoded := AcfMessage.decodeAcfGbb_encode info
    (UInt64.ofNat (encodeRequestType type params)) payload
  change decodeAcfGbb (encodeAcfGbb info _ payload) = _ at hDecoded
  rw [hStamp] at hDecoded
  unfold decodeRepurposed
  rw [hDecoded]
  have hClear : (AcfMessage.header (.gbb info
      (UInt64.ofNat (encodeRequestType type params))
      payload)).truncated.mtv = false := hMtv
  dsimp only
  rw [hClear]
  unfold encodeRequestType
  rw [decodeRequestType_getBe _ hParams, requestTypeOf_toOctet]

theorem decodeRepurposed_eq {frame : Octets}
    (hLength : acfGbbMessageInfoLen ≤ frame.length)
    (hType : peekAcfMsgType frame = acfMsgTypeGbb)
    (hMtv : (decodeAcfMessageInfo frame).mtv = false) :
    decodeRepurposed frame =
      match requestTypeOf (octetAt frame acfCommonHeaderLen) with
      | none => .error (.request .unknownRequestType)
      | some type =>
          .ok ⟨decodeAcfMessageInfo frame, type, (frame.drop 9).take 7,
            frame.drop acfGbbMessageInfoLen⟩ := by
  have hDecoded : decodeAcfGbb frame =
      .ok (decodeAcfMessageInfo frame,
        getBe ((frame.drop acfCommonHeaderLen).take 8),
        frame.drop acfGbbMessageInfoLen) := by
    unfold acfGbbMessageInfoLen at hLength ⊢
    unfold decodeAcfGbb acfGbbMessageInfoLen
    rw [if_neg (by omega), hType, if_neg (by simp), if_neg (by omega)]
  have hRegion : (frame.drop acfCommonHeaderLen).take 8 =
      octetAt frame acfCommonHeaderLen :: (frame.drop 9).take 7 := by
    unfold acfGbbMessageInfoLen at hLength
    unfold acfCommonHeaderLen
    rw [drop_eq_octetAt_cons (by omega), List.take_succ_cons]
  have hParams : ((frame.drop 9).take 7).length = 7 := by
    unfold acfGbbMessageInfoLen at hLength
    rw [List.length_take, List.length_drop]
    omega
  unfold decodeRepurposed
  rw [hDecoded]
  dsimp only
  rw [hMtv, hRegion, decodeRequestType_getBe _ hParams]
  cases requestTypeOf (octetAt frame acfCommonHeaderLen) <;> rfl

end CppRcp.Request
