import CppRcp.Properties.Deferral
import CppRcp.Properties.FragmentSequence
import CppRcp.Properties.LifecycleGate
import CppRcp.Properties.RoundTrip
import CppRcp.Wire.Padding
import CppRcp.Wire.Reassembling

/-!
# Which payload a padded write hands over

The decoders take everything behind the header for payload.  So a handler is
given the pad octets of a plain message, and of a protected one, whose pad
octets stay when its checksum is removed.  The dispatch of fragments removes
them from each segment, and hands over the joined payload alone, if it fits one
message.
-/

namespace CppRcp.E2e

open CppRcp.Foundation CppRcp.Acf CppRcp.Request

/-! ## The messages of a write -/

namespace WriteRequest

variable (request : WriteRequest)

theorem known : request.info.acfMsgType = acfMsgTypeAbb ∨
    request.info.acfMsgType = acfMsgTypeGbb :=
  request.type.imp And.left And.left

theorem encodeAcf_filled_in {info : AcfMessageInfo}
    (hType : info.acfMsgType = request.info.acfMsgType)
    (hMtv : info.mtv = request.info.mtv) (hLength : info.acfMsgLength = 0)
    (octets : Octets) :
    encodeAcf info request.messageTimestamp.toNat octets =
      headerOctets
        { info with
          acfMsgLength :=
            computeAcfMsgLength request.info.acfMsgType octets.length }
        request.messageTimestamp.toNat ++ octets := by
  have hEmitted : emittedInfo info octets.length =
      { info with
        acfMsgLength :=
          computeAcfMsgLength request.info.acfMsgType octets.length } := by
    unfold emittedInfo AcfMessageInfo.autoFilled
    rw [hLength, hType]
    rcases request.type with ⟨hAbb, hOff⟩ | ⟨hGbb, -⟩
    · rw [hOff] at hMtv
      rw [hAbb] at hType
      simp only [hAbb, if_true, ← hMtv, ← hType, ite_self]
    · simp only [hGbb, if_true]
  rw [encodeAcf_eq, hEmitted]

theorem truncated_stamped (ms : Bool) (number len : UInt16) (pad : UInt8) :
    ({ request.info with
        ms := ms
        readSizeOrSegmentNum := number
        pad := pad
        acfMsgLength := len } : AcfMessageInfo).truncated =
      { request.info with
        ms := ms
        readSizeOrSegmentNum := UInt16.ofNat (number.toNat % 4096)
        pad := UInt8.ofNat (pad.toNat % 4)
        acfMsgLength := UInt16.ofNat (len.toNat % 512) } := by
  have hFits := request.fits
  generalize request.info = info at hFits
  cases info
  simp only [AcfMessageInfo.truncated, AcfMessageInfo.mk.injEq] at hFits ⊢
  tauto

private theorem message_eq (pad : UInt8) (octets : Octets) :
    request.message pad octets =
      headerOctets
        { request.info with
          pad := pad
          acfMsgLength :=
            computeAcfMsgLength request.info.acfMsgType octets.length }
        request.messageTimestamp.toNat ++ octets :=
  @encodeAcf_filled_in request
    { request.info with pad := pad, acfMsgLength := 0 } rfl rfl rfl octets

private theorem decode_message (pad : UInt8) (octets : Octets) :
    decodeAcfMessageInfo (request.message pad octets) =
      { request.info with
        pad := UInt8.ofNat (pad.toNat % 4)
        acfMsgLength := UInt16.ofNat
          ((computeAcfMsgLength request.info.acfMsgType
            octets.length).toNat % 512) } := by
  have hRead := congrArg AcfMessageInfo.readSizeOrSegmentNum request.fits
  have hTruncated := request.truncated_stamped request.info.ms
    request.info.readSizeOrSegmentNum
    (computeAcfMsgLength request.info.acfMsgType octets.length) pad
  simp only [AcfMessageInfo.truncated] at hRead
  rw [hRead] at hTruncated
  rw [message_eq, decode_headerOctets, hTruncated]

private theorem length_message (pad : UInt8) (octets : Octets) :
    (request.message pad octets).length =
      headerLen request.info.acfMsgType + octets.length := by
  rw [message_eq, List.length_append, length_headerOctets]

section Wrapped

variable (streamId : StreamId) (payload : PaddedPayload)
  (hFits : payload.data.length + crcLengthAdjustOctets ≤
    maxPayloadOf request.info.acfMsgType)

include hFits

private theorem inRange_wrapped :
    InRange { request.info with pad := payload.pad, acfMsgLength := 0 }
      payload.octets where
  type := request.type.imp_right And.left
  pad_le := Nat.le_of_lt_succ payload.pad_lt
  pad_le_payload := by
    rw [payload.length_octets]
    exact Nat.le_add_left _ _
  given_lt := by simp [acfMaxQuadlets]
  filled_lt := by
    have hMax := headerLen_add_maxPayloadOf request.info.acfMsgType
    have hAligned := headerLen_aligned request.info.acfMsgType
    intro _
    simp only [payload.length_octets, Nat.add_sub_cancel]
    simp only [crcLengthAdjustOctets] at hFits
    omega

theorem byteBusId_wrapped :
    (decodeAcfMessageInfo (request.wrapped streamId payload)).byteBusId =
      request.info.byteBusId := by
  have hBus := congrArg AcfMessageInfo.byteBusId request.fits
  have hDecode := decode_wrap (Framing.framed true 0x00 false streamId none)
    (some request.messageTimestamp) (request.inRange_wrapped payload hFits)
  unfold wrapped
  rw [hDecode, adjustedInfo, AcfMessageInfo.autoFilled, if_pos rfl]
  exact hBus

theorem ms_wrapped :
    (decodeAcfMessageInfo (request.wrapped streamId payload)).ms = false := by
  have hDecode := decode_wrap (Framing.framed true 0x00 false streamId none)
    (some request.messageTimestamp) (request.inRange_wrapped payload hFits)
  unfold wrapped
  rw [hDecode, adjustedInfo, AcfMessageInfo.autoFilled, if_pos rfl]
  exact request.whole

theorem eight_le_wrapped :
    acfCommonHeaderLen ≤ (request.wrapped streamId payload).length :=
  (sized_wrap _ _ (request.inRange_wrapped payload hFits)).1

private theorem unwrapFramed_wrapped :
    unwrapFramed streamId (request.wrapped streamId payload) =
      ⟨none, request.plain payload⟩ := by
  have hInRange := request.inRange_wrapped payload hFits
  have hFilled : ({ request.info with pad := payload.pad, acfMsgLength := 0 } :
      AcfMessageInfo).autoFilled (payload.octets.length - payload.pad.toNat) =
        { request.info with
          pad := payload.pad
          acfMsgLength :=
            computeAcfMsgLength request.info.acfMsgType
              payload.octets.length } := by
    rw [payload.length_octets, Nat.add_sub_cancel, ← payload.length_octets,
      payload.computeAcfMsgLength_octets]
    rfl
  have hPlain := encodeAcf_filled hInRange request.messageTimestamp.toNat
  dsimp only at hPlain
  rw [unwrapFramed_eq, wrapped, unwrap_wrap _ _ hInRange]
  dsimp only
  rw [Option.getD_some, hPlain, hFilled, plain, message_eq]

end Wrapped

end WriteRequest

end CppRcp.E2e

namespace CppRcp.Mock

open CppRcp.Foundation CppRcp.Acf CppRcp.Request CppRcp.E2e CppRcp.Regmap
open CppRcp.Fragment CppRcp.Server

/-! ## Decoding them -/

theorem trimWirePad_octets (part : PaddedPayload) :
    trimWirePad part.octets part.pad = part.data := by
  have hLength := part.length_octets
  unfold trimWirePad
  rw [if_neg (by omega), part.take_octets]

section Decoding

variable (request : WriteRequest) (pad : UInt8) (octets : Octets)

private theorem headed_message : Headed (request.message pad octets) := by
  have hDecode := request.decode_message pad octets
  constructor
  · rw [hDecode]
    exact request.known
  · rw [hDecode, request.length_message]
    exact Nat.le_add_right _ _

private theorem payloadOf_message :
    payloadOf (request.message pad octets) = octets := by
  unfold payloadOf
  rw [request.decode_message, request.message_eq]
  exact List.drop_left' (length_headerOctets _ _)

private theorem octetAt_stamp {info : AcfMessageInfo} (messageTimestamp : Nat)
    (rest : Octets) (hType : info.acfMsgType = acfMsgTypeGbb) :
    octetAt (headerOctets info messageTimestamp ++ rest) acfCommonHeaderLen =
      octetAt (putBe 8 messageTimestamp) 0 := by
  unfold headerOctets
  rw [if_pos hType]
  rfl

private theorem peekRequestType_message :
    Endpoint.peekRequestType (request.message pad octets) = none := by
  unfold Endpoint.peekRequestType
  rw [request.decode_message]
  split
  · rfl
  · rcases request.type with ⟨hAbb, -⟩ | ⟨hGbb, hStandard⟩
    · exact if_pos (by simp [hAbb, acfMsgTypeAbb, acfMsgTypeGbb])
    · cases hMtv : request.info.mtv with
      | true => exact if_pos (by simp [hMtv])
      | false =>
          have hStamp : octetAt (request.message pad octets)
              acfCommonHeaderLen =
                octetAt (putBe 8 request.messageTimestamp.toNat) 0 := by
            rw [request.message_eq]
            exact octetAt_stamp _ _ hGbb
          rw [hStamp, hStandard hMtv]
          simp

end Decoding

/-! ## Executing them -/

/-- The endpoint of the bus executes requests at once. -/
structure Operational (server : Server) (bus : Bus) : Prop where
  live : server.operationalRequestsAllowed = true
  enabled : (server.admission bus).epEnable = true
  admitting : (server.admission bus).admissionSuspended = false

instance (server : Server) (bus : Bus) : Decidable (Operational server bus) :=
  decidable_of_iff (server.operationalRequestsAllowed = true ∧
    (server.admission bus).epEnable = true ∧
    (server.admission bus).admissionSuspended = false)
    ⟨fun h => ⟨h.1, h.2.1, h.2.2⟩, fun h => ⟨h.1, h.2, h.3⟩⟩

def Server.answer (server : Server) (bus : Bus) (streamId : StreamId)
    (req : AcfMessageInfo) (payload : Octets) : Reply :=
  suppressResponsePerStreamCfg server.regs streamId
    (server.executed bus req payload).2

private theorem executed_resized (server : Server) (bus : Bus)
    (req : AcfMessageInfo) (payload : Octets) :
    server.executed bus req.resized payload =
      server.executed bus req payload := by
  cases bus <;> rfl

private theorem executed_of_resized {a b : AcfMessageInfo}
    (h : a.resized = b.resized) (server : Server) (bus : Bus)
    (payload : Octets) :
    server.executed bus a payload = server.executed bus b payload := by
  rw [← executed_resized, h, executed_resized]

section Execution

variable {server : Server} {bus : Bus} {request : WriteRequest}
  (hServer : Operational server bus)
  (hBus : Bus.ofId request.info.byteBusId = some bus) (streamId : StreamId)

include hServer hBus

theorem decodeAndDispatch_message (pad : UInt8) (octets : Octets) :
    server.decodeAndDispatch streamId (request.message pad octets) =
      ((server.executed bus request.info octets).1,
        server.answer bus streamId request.info octets) := by
  have hDecode := request.decode_message pad octets
  have hResized : (decodeAcfMessageInfo
      (request.message pad octets)).resized = request.info.resized := by
    rw [hDecode]
    rfl
  have hSubmit : (server.admission bus).submit
      (encodeAcfAbb (decodeAcfMessageInfo (request.message pad octets))
        octets) = (server.admission bus, true, []) := by
    simp [Endpoint.submit, hServer.enabled]
  rw [Server.decodeAndDispatch_eq_dispatch server streamId
      (headed_message request pad octets)
      (peekRequestType_message request pad octets), payloadOf_message,
    Server.dispatch_of_bus server streamId (by rw [hDecode]; exact hBus),
    Server.dispatchInner_executes hServer.live
      ⟨hServer.admitting, by rw [hDecode]; exact request.request⟩ hSubmit,
    executed_of_resized hResized]
  rfl

theorem dispatchFrame_plain (payload : PaddedPayload)
    (hFits : payload.data.length ≤ maxPayloadOf request.info.acfMsgType) :
    server.dispatchFrame streamId (request.plain payload) =
      ((server.executed bus request.info payload.octets).1,
        [Server.resultOf (request.plain payload)
          (server.answer bus streamId request.info payload.octets)]) := by
  have hHead := headed_message request payload.pad payload.octets
  have hStandard :=
    peekRequestType_message request payload.pad payload.octets
  have hMember : IsMember (request.plain payload) := by
    have hMax := headerLen_add_maxPayloadOf request.info.acfMsgType
    have hAligned := headerLen_aligned request.info.acfMsgType
    have hOctets := payload.octets_aligned
    have hLength := payload.length_octets
    have hPad := payload.pad_lt
    refine isMember_iff.mpr ⟨hHead.known, hHead.holds, ?_⟩
    simp only [acfMaxQuadlets] at hMax
    unfold WriteRequest.plain
    rw [request.decode_message, request.length_message]
    simp only [computeAcfMsgLength, UInt16.toNat_ofNat']
    omega
  have hSame := decodeAndDispatch_message hServer hBus streamId payload.pad
    payload.octets
  rw [Server.decodeAndDispatch_eq_dispatch server streamId hHead hStandard] at hSame
  rw [Server.dispatchFrame_eq_dispatch server streamId hMember hStandard]
  unfold WriteRequest.plain
  rw [hSame]

end Execution

/-! ## Protected messages -/

theorem Operational.of_sameBuses {a b : Server} {bus : Bus}
    (h : Operational a bus) (hSame : SameBuses a b) : Operational b bus := by
  have hAdmission : b.admission bus = a.admission bus := by
    unfold Server.admission
    rw [hSame.admissions]
  have hLive : b.operationalRequestsAllowed =
      a.operationalRequestsAllowed := by
    unfold Server.operationalRequestsAllowed
    rw [hSame.lifecycle]
  exact ⟨hLive ▸ h.live, hAdmission ▸ h.enabled, hAdmission ▸ h.admitting⟩

section Same

variable {a b : Server} (h : SameBuses a b) (bus : Bus) (req : AcfMessageInfo)
  (payload : Octets)

include h

theorem sameBuses_executed :
    SameBuses (a.executed bus req payload).1 (b.executed bus req payload).1 := by
  unfold Server.executed
  rw [h.peripherals]
  exact ⟨h.lifecycle, rfl, h.admissions⟩

theorem answer_of_sameBuses (hRegs : b.regs = a.regs) (streamId : StreamId) :
    b.answer bus streamId req payload = a.answer bus streamId req payload := by
  unfold Server.answer Server.executed
  rw [h.peripherals, hRegs]

end Same

structure Protects (server : Server) (streamId : StreamId)
    (request : WriteRequest) : Prop where
  crc : server.regs.reqCrcEnabled request.info.byteBusId = true
  unfaulted : server.streamFaultTracker.isFaulted streamId = false

section Wrapped

variable {server : Server} {bus : Bus} {request : WriteRequest}
  {streamId : StreamId} {payload : PaddedPayload}
  (hServer : Operational server bus)
  (hBus : Bus.ofId request.info.byteBusId = some bus)
  (hProtects : Protects server streamId request)
  (hFits : payload.data.length + crcLengthAdjustOctets ≤
    maxPayloadOf request.info.acfMsgType)

include hServer hBus hProtects hFits

theorem dispatchE2eCore_wrapped {sequenceNum : UInt8}
    (hGate : (server.seqGateAdmits streamId sequenceNum).2 = true) :
    let result := server.dispatchE2eCore streamId sequenceNum
      (request.wrapped streamId payload) true
    SameBuses (server.executed bus request.info payload.octets).1 result.1 ∧
      result.2 = server.answer bus streamId request.info payload.octets := by
  have hKick := Server.sameBuses_rxWatchdogKick server streamId 0
  have hKickRegs := Server.regs_rxWatchdogKick server streamId 0
  have hFaults := Server.streamFaultTracker_rxWatchdogKick server streamId 0
  have hAdmits := Server.seqGateAdmits_congr
    (Server.seqTrackers_rxWatchdogKick server streamId 0) hKickRegs streamId
    sequenceNum
  have hLong := request.eight_le_wrapped streamId payload hFits
  unfold Server.dispatchE2eCore
  generalize server.rxWatchdogKick streamId 0 = kicked at *
  rw [hGate] at hAdmits
  have hSame : SameBuses server
      (kicked.seqGateAdmits streamId sequenceNum).1 :=
    hKick.trans (Server.sameBuses_seqGateAdmits _ _ _)
  have hRegs : (kicked.seqGateAdmits streamId sequenceNum).1.regs =
      server.regs :=
    (Server.regs_seqGateAdmits _ _ _).trans hKickRegs
  have hResult : kicked.dispatchE2eUnfaulted streamId sequenceNum
      (request.wrapped streamId payload) true =
        (kicked.seqGateAdmits streamId sequenceNum).1.decodeAndDispatch
          streamId (request.plain payload) := by
    unfold Server.dispatchE2eUnfaulted
    rw [if_neg (Nat.not_lt.mpr hLong)]
    simp only [request.byteBusId_wrapped streamId payload hFits, hKickRegs,
      hProtects.crc, hAdmits,
      request.unwrapFramed_wrapped streamId payload hFits, if_true,
      Bool.not_true, Bool.false_eq_true, if_false]
  dsimp only
  rw [hFaults, hProtects.unfaulted, if_neg Bool.false_ne_true, hResult]
  unfold WriteRequest.plain
  rw [decodeAndDispatch_message (hServer.of_sameBuses hSame) hBus]
  exact ⟨sameBuses_executed hSame _ _ _,
    answer_of_sameBuses hSame _ _ _ hRegs streamId⟩

end Wrapped

end CppRcp.Mock
