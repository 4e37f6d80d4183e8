import CppRcp.Wire.Protection

/-!
# What wrapping emits

`wrap` computes its checksum over a header it encodes for that purpose and
emits a header the message encoder writes.  The two agree unless the encoder
changes the header: it clears the `mtv` flag of an ABB message, and it fills
in a length field that the adjustment by one quadlet brought back to zero.
-/

namespace CppRcp.E2e

open CppRcp.Foundation CppRcp.Acf

/-- The header the checksum of `wrap` covers. -/
def adjustedInfo (info : AcfMessageInfo) (realLen : Nat) : AcfMessageInfo :=
  { info.autoFilled realLen with
    acfMsgLength :=
      (info.autoFilled realLen).acfMsgLength + crcLengthAdjustQuadlets }

/-- The octets of a message that its trailer follows. -/
def trailerOffset (info : AcfMessageInfo) (payload : Octets) : Nat :=
  headerLen info.acfMsgType + (payload.length - info.pad.toNat)

/-- The trailer at an offset is the checksum of the octets before it. -/
def Framing.TrailerCovers (framing : Framing) (frame : Octets)
    (offset : Nat) : Prop :=
  trailerAt frame offset = crc32 (framing.crcPrefix ++ frame.take offset)

@[simp] theorem acfMsgType_adjustedInfo (info : AcfMessageInfo)
    (realLen : Nat) :
    (adjustedInfo info realLen).acfMsgType = info.acfMsgType :=
  acfMsgType_autoFilled info realLen

private theorem headerLen_emittedInfo (info : AcfMessageInfo)
    (payloadLen : Nat) :
    headerLen (emittedInfo info payloadLen).acfMsgType =
      headerLen info.acfMsgType := by
  unfold emittedInfo
  split
  · rw [acfMsgType_autoFilled]
  · rename_i h
    rw [acfMsgType_autoFilled, headerLen, headerLen, if_neg h]
    rfl

theorem Framing.wrap_eq (framing : Framing) (info : AcfMessageInfo)
    (messageTimestamp : Option UInt64) {payload : Octets}
    (hPad : info.pad.toNat ≤ payload.length) :
    let realLen := payload.length - info.pad.toNat
    let timestamp := (messageTimestamp.getD 0).toNat
    framing.wrap info messageTimestamp payload =
      headerOctets (emittedInfo (adjustedInfo info realLen) realLen)
          timestamp ++ payload.take realLen ++
        putBe 4 (crc32 (framing.crcPrefix ++
          headerOctets (adjustedInfo info realLen) timestamp ++
          payload.take realLen)).toNat ++
        payload.drop realLen := by
  intro realLen timestamp
  have hLength : (payload.take realLen).length = realLen := by
    rw [List.length_take]
    omega
  have hAccepted : ¬ payload.length < info.pad.toNat := by omega
  unfold Framing.wrap
  simp only [if_neg hAccepted]
  rw [encodeAcf_eq]
  simp only [hLength, Framing.computeCrc, Framing.coverageBuffer, realLen]
  rfl

section Emitted

variable (framing : Framing) (info : AcfMessageInfo)
  (messageTimestamp : Option UInt64) {payload : Octets}
  (hPad : info.pad.toNat ≤ payload.length)

include hPad

theorem length_wrap_body :
    let realLen := payload.length - info.pad.toNat
    (headerOctets (emittedInfo (adjustedInfo info realLen) realLen)
      (messageTimestamp.getD 0).toNat ++ payload.take realLen).length =
      trailerOffset info payload := by
  intro realLen
  rw [List.length_append, length_headerOctets, headerLen_emittedInfo,
    acfMsgType_adjustedInfo, List.length_take, trailerOffset]
  omega

theorem take_wrap :
    let realLen := payload.length - info.pad.toNat
    (framing.wrap info messageTimestamp payload).take
        (trailerOffset info payload) =
      headerOctets (emittedInfo (adjustedInfo info realLen) realLen)
        (messageTimestamp.getD 0).toNat ++ payload.take realLen := by
  intro realLen
  rw [framing.wrap_eq info messageTimestamp hPad, List.append_assoc]
  exact List.take_left' (length_wrap_body info messageTimestamp hPad)

theorem trailerAt_wrap :
    let realLen := payload.length - info.pad.toNat
    trailerAt (framing.wrap info messageTimestamp payload)
        (trailerOffset info payload) =
      crc32 (framing.crcPrefix ++
        headerOctets (adjustedInfo info realLen)
          (messageTimestamp.getD 0).toNat ++ payload.take realLen) := by
  intro realLen
  rw [framing.wrap_eq info messageTimestamp hPad,
    ← length_wrap_body info messageTimestamp hPad]
  exact trailerAt_append _ _ _

end Emitted

/-! ## The header covered and the header emitted -/

section Changed

variable (info : AcfMessageInfo) (mtv : Bool) (acfMsgLength : UInt16)
  (messageTimestamp : Nat)

private theorem headerOctets_inj {info info' : AcfMessageInfo}
    (hType : info.acfMsgType = info'.acfMsgType) :
    headerOctets info messageTimestamp = headerOctets info' messageTimestamp ↔
      info.truncated = info'.truncated := by
  rw [← encodeAcfMessageInfo_inj]
  unfold headerOctets
  rw [hType]
  split
  · exact List.append_left_inj _
  · rfl

private theorem headerOctets_drop :
    (headerOctets { info with mtv := mtv, acfMsgLength := acfMsgLength }
      messageTimestamp).drop 3 = (headerOctets info messageTimestamp).drop 3 := by
  unfold headerOctets
  dsimp only
  split <;> rfl

private theorem octetAt_of_drop {left right : Octets} {count index : Nat}
    (hDrop : left.drop count = right.drop count) (hIndex : count ≤ index) :
    octetAt left index = octetAt right index := by
  have h := congrArg (fun octets => octetAt octets (index - count)) hDrop
  simpa [octetAt_drop, Nat.add_sub_cancel' hIndex] using h

private theorem crc32_header_inj (front back : Octets) :
    crc32 (front ++ headerOctets info messageTimestamp ++ back) =
        crc32 (front ++
          headerOctets { info with mtv := mtv, acfMsgLength := acfMsgLength }
            messageTimestamp ++ back) ↔
      info.mtv = mtv ∧
        info.acfMsgLength.toNat % 512 = acfMsgLength.toNat % 512 := by
  have hDrop := headerOctets_drop info mtv acfMsgLength messageTimestamp
  have hLength := length_headerOctets info messageTimestamp
  have hLength' := length_headerOctets
    { info with mtv := mtv, acfMsgLength := acfMsgLength } messageTimestamp
  have hLe := le_headerLen info.acfMsgType
  unfold acfCommonHeaderLen at hLe
  rw [List.append_assoc, List.append_assoc, crc32_inj_of_window 0
    (by rw [List.length_append, List.length_append, hLength, hLength'])
    (fun index hIndex => @octetAt_of_drop _ _ 3 _
      (by
        rw [List.drop_append_of_le_length (by omega),
          List.drop_append_of_le_length (by dsimp only at hLength'; omega),
          hDrop])
      (by omega)),
    List.append_left_inj, @headerOctets_inj messageTimestamp info
      { info with mtv := mtv, acfMsgLength := acfMsgLength } rfl]
  simp only [AcfMessageInfo.truncated, AcfMessageInfo.mk.injEq, true_and,
    and_true]
  rw [and_comm]
  apply and_congr Iff.rfl
  constructor
  · intro h
    have hNat := congrArg UInt16.toNat h
    simp only [UInt16.toNat_ofNat'] at hNat
    omega
  · intro h
    rw [h]

end Changed

private theorem adjusted_eq_zero {acfMsgLength : UInt16} :
    acfMsgLength + crcLengthAdjustQuadlets = 0 ↔ acfMsgLength = 0xFFFF := by
  rw [← UInt16.toNat_inj, ← UInt16.toNat_inj, UInt16.toNat_add]
  have hLt := acfMsgLength.toNat_lt
  change (acfMsgLength.toNat + 1) % 2 ^ 16 = 0 ↔ acfMsgLength.toNat = 65535
  omega

theorem emittedInfo_adjustedInfo {info : AcfMessageInfo}
    (hType : info.acfMsgType = acfMsgTypeAbb ∨
      info.acfMsgType = acfMsgTypeGbb) (realLen : Nat) :
    emittedInfo (adjustedInfo info realLen) realLen =
      { adjustedInfo info realLen with
        mtv := if info.acfMsgType = acfMsgTypeAbb then false else info.mtv
        acfMsgLength :=
          if (info.autoFilled realLen).acfMsgLength = 0xFFFF then
            computeAcfMsgLength info.acfMsgType realLen
          else (adjustedInfo info realLen).acfMsgLength } := by
  have hMtv : (info.autoFilled realLen).mtv = info.mtv := by
    unfold AcfMessageInfo.autoFilled
    split <;> rfl
  have hNe : ¬ acfMsgTypeGbb = acfMsgTypeAbb := by decide
  have hNe' : ¬ acfMsgTypeAbb = acfMsgTypeGbb := by decide
  have hSame := acfMsgType_autoFilled info realLen
  unfold emittedInfo adjustedInfo
  generalize info.autoFilled realLen = filled at hMtv hSame ⊢
  unfold AcfMessageInfo.autoFilled
  simp only [adjusted_eq_zero, hSame]
  by_cases hLast : filled.acfMsgLength = 0xFFFF
  · obtain h | h := hType <;> simp [h, hNe, hNe', hLast, hMtv]
  · obtain h | h := hType <;> simp [h, hNe, hNe', hLast, hMtv]

/-- The trailer covers the emitted octets exactly when the encoder leaves the
header alone. -/
theorem wrap_trailerCovers_iff (framing : Framing) {info : AcfMessageInfo}
    (messageTimestamp : Option UInt64) {payload : Octets}
    (hType : info.acfMsgType = acfMsgTypeAbb ∨
      info.acfMsgType = acfMsgTypeGbb)
    (hPad : info.pad.toNat ≤ payload.length) :
    framing.TrailerCovers (framing.wrap info messageTimestamp payload)
        (trailerOffset info payload) ↔
      (info.acfMsgType = acfMsgTypeAbb → info.mtv = false) ∧
        ((info.autoFilled
            (payload.length - info.pad.toNat)).acfMsgLength = 0xFFFF →
          (computeAcfMsgLength info.acfMsgType
            (payload.length - info.pad.toNat)).toNat % 512 = 0) := by
  unfold Framing.TrailerCovers
  rw [trailerAt_wrap framing info messageTimestamp hPad,
    take_wrap framing info messageTimestamp hPad, ← List.append_assoc,
    emittedInfo_adjustedInfo hType, crc32_header_inj]
  set realLen := payload.length - info.pad.toNat
  have hMtv : (adjustedInfo info realLen).mtv = info.mtv := by
    unfold adjustedInfo AcfMessageInfo.autoFilled
    split <;> rfl
  apply and_congr
  · rw [hMtv]
    by_cases h : info.acfMsgType = acfMsgTypeAbb <;> simp [h]
  · by_cases hLast : (info.autoFilled realLen).acfMsgLength = 0xFFFF
    · have hZero : (adjustedInfo info realLen).acfMsgLength = 0 :=
        adjusted_eq_zero.mpr hLast
      simp only [hLast, hZero, if_pos, forall_const]
      exact eq_comm
    · simp only [hLast, if_false, false_implies]

/-- An ABB header with `mtv` set: the checksum covers the flag, the message
does not carry it. -/
def timedAbb : AcfMessageInfo where
  acfMsgType := acfMsgTypeAbb
  mtv := true

set_option maxRecDepth 10000 in
theorem wrap_not_trailerCovers_timedAbb :
    ¬ (Framing.framed true 0x00 false 0 none).TrailerCovers
      ((Framing.framed true 0x00 false 0 none).wrap timedAbb none [])
      (trailerOffset timedAbb []) := by
  unfold Framing.TrailerCovers
  decide

theorem wrap_trailerCovers_timedGbb :
    (Framing.framed true 0x00 false 0 none).TrailerCovers
      ((Framing.framed true 0x00 false 0 none).wrap
        { timedAbb with acfMsgType := acfMsgTypeGbb, pad := 1 } (some 5) [7, 0])
      (trailerOffset
        { timedAbb with acfMsgType := acfMsgTypeGbb, pad := 1 } [7, 0]) :=
  (wrap_trailerCovers_iff _ _ (.inr rfl) (by decide)).mpr
    ⟨by decide, by decide⟩

end CppRcp.E2e
