import CppRcp.Admission.Endpoint
import CppRcp.Wire.Header

/-!
# What admission does to the store

An admission leaves the store as it is, or uses up an arrival number without
storing anything, or fills the first free slot.  The slot it fills is part of
no chain, holds the whole frame, and names the transaction of that frame
unless the request was postponed by the presentation gate alone.
-/

namespace CppRcp.Server

open CppRcp.Foundation CppRcp.Acf CppRcp.Request

def transactionOf (frame : Octets) : UInt8 :=
  (decodeAcfMessageInfo frame).transactionNum

/-! ## Decoding keeps the header -/

theorem decodeRepurposed_ok {frame : Octets} {r : Repurposed}
    (h : decodeRepurposed frame = .ok r) :
    r.info = decodeAcfMessageInfo frame ∧
      acfGbbMessageInfoLen ≤ frame.length ∧
      r.info.acfMsgType = acfMsgTypeGbb ∧
      decodeRequestType r.info.mtv
        (getBe ((frame.drop acfCommonHeaderLen).take 8)) =
          .ok (r.type, r.params) := by
  unfold decodeRepurposed at h
  cases hGbb : decodeAcfGbb frame with
  | error e => simp [hGbb] at h
  | ok decoded =>
      obtain ⟨info, ts, payload⟩ := decoded
      obtain ⟨hInfo, hLength, hType, hTime, -⟩ := decodeAcfGbb_ok hGbb
      rw [hGbb] at h
      dsimp only at h
      rw [← hTime]
      cases hRequest : decodeRequestType info.mtv ts with
      | error e => simp [hRequest] at h
      | ok typed =>
          rw [hRequest] at h
          cases h
          exact ⟨hInfo, hLength, hType, hRequest⟩

private theorem decodeRepurposed_info {frame : Octets} {r : Repurposed}
    (h : decodeRepurposed frame = .ok r) :
    r.info = decodeAcfMessageInfo frame ∧
      acfGbbMessageInfoLen ≤ frame.length := by
  obtain ⟨hInfo, hLength, -⟩ := decodeRepurposed_ok h
  exact ⟨hInfo, hLength⟩

theorem decodeRequestType_ok {mtv : Bool} {ts : Nat}
    {type : RequestTypeOpcode} {params : Octets}
    (h : decodeRequestType mtv ts = .ok (type, params)) :
    mtv = false ∧ requestTypeOf (UInt8.ofNat (ts / 2 ^ 56)) = some type ∧
      params = putBe 7 ts := by
  unfold decodeRequestType at h
  cases mtv with
  | true => cases h
  | false =>
      rw [if_neg Bool.false_ne_true] at h
      cases hType : requestTypeOf (UInt8.ofNat (ts / 2 ^ 56)) with
      | none =>
          rw [hType] at h
          cases h
      | some found =>
          rw [hType] at h
          cases h
          exact ⟨rfl, rfl, rfl⟩

theorem getBe_div {frame : Octets}
    (h : acfGbbMessageInfoLen ≤ frame.length) :
    UInt8.ofNat (getBe ((frame.drop acfCommonHeaderLen).take 8) / 2 ^ 56) =
      octetAt frame acfCommonHeaderLen := by
  simp only [acfGbbMessageInfoLen, acfCommonHeaderLen] at h ⊢
  have hIndex : 8 < frame.length := by omega
  rw [List.drop_eq_getElem_cons hIndex, List.take_succ_cons, getBe_cons]
  have hLength : ((frame.drop 9).take 7).length = 7 := by
    rw [List.length_take, List.length_drop]
    omega
  have hRest := getBe_lt ((frame.drop 9).take 7)
  rw [hLength] at hRest ⊢
  have hDiv : (frame[8].toNat * 256 ^ 7 + getBe ((frame.drop 9).take 7)) /
      2 ^ 56 = frame[8].toNat := by omega
  rw [hDiv, UInt8.ofNat_toNat]
  simp [octetAt, hIndex]

private theorem decodeRepurposed_type {frame : Octets} {r : Repurposed}
    (h : decodeRepurposed frame = .ok r) :
    Endpoint.peekRequestType frame = some r.type := by
  obtain ⟨hInfo, hLen, hMsgType, hDecode⟩ := decodeRepurposed_ok h
  obtain ⟨hMtv, hRequest, -⟩ := decodeRequestType_ok hDecode
  rw [getBe_div hLen] at hRequest
  rw [hInfo] at hMsgType hMtv
  unfold Endpoint.peekRequestType
  rw [if_neg (Nat.not_lt.mpr hLen)]
  simp [hMsgType, hMtv, hRequest]

theorem peekRequestType_eq_some {frame : Octets} {type : RequestTypeOpcode}
    (h : Endpoint.peekRequestType frame = some type) :
    acfGbbMessageInfoLen ≤ frame.length ∧
      (decodeAcfMessageInfo frame).acfMsgType = acfMsgTypeGbb ∧
      (decodeAcfMessageInfo frame).mtv = false := by
  unfold Endpoint.peekRequestType at h
  split at h
  · cases h
  · next hLen =>
      dsimp only at h
      split at h
      · cases h
      · next hHeader =>
          simp only [ne_eq, Bool.or_eq_true, decide_eq_true_eq, not_or,
            not_not, Bool.not_eq_true] at hHeader
          exact ⟨Nat.not_lt.mp hLen, hHeader⟩

theorem decodeChainedMember_type {frame : Octets} {request : ChainedMember}
    (h : decodeChainedMember frame = .ok request) :
    Endpoint.peekRequestType frame = some .chained := by
  unfold decodeChainedMember at h
  cases hr : decodeRepurposed frame with
  | error e => simp [hr] at h
  | ok r =>
      simp only [hr] at h
      split at h
      · cases h
      · next hType =>
          rw [decodeRepurposed_type hr, not_not.mp hType]

theorem decodeChainedMember_ok {frame : Octets} {request : ChainedMember}
    (h : decodeChainedMember frame = .ok request) :
    request.transactionNum = transactionOf frame ∧
      request.cs = (decodeAcfMessageInfo frame).cs ∧
      acfGbbMessageInfoLen ≤ frame.length := by
  unfold decodeChainedMember at h
  cases hr : decodeRepurposed frame with
  | error e => simp [hr] at h
  | ok r =>
      obtain ⟨hInfo, hLen⟩ := decodeRepurposed_info hr
      simp only [hr] at h
      split at h
      · cases h
      · split at h
        · cases h
        · cases h
          exact ⟨by rw [hInfo, transactionOf], by rw [hInfo], hLen⟩

private theorem decodeCompoundRequest_ok {frame : Octets}
    {request : CompoundRequest}
    (h : decodeCompoundRequest frame = .ok request) :
    request.transactionNum = transactionOf frame ∧
      acfGbbMessageInfoLen ≤ frame.length := by
  unfold decodeCompoundRequest at h
  cases hr : decodeRepurposed frame with
  | error e => simp [hr] at h
  | ok r =>
      simp only [hr] at h
      split at h
      · cases h
      · cases h
        obtain ⟨hInfo, hLen⟩ := decodeRepurposed_info hr
        exact ⟨by rw [hInfo, transactionOf], hLen⟩

private theorem decodeTriggeredRequest_ok {frame : Octets}
    {request : TriggeredRequest}
    (h : decodeTriggeredRequest frame = .ok request) :
    request.transactionNum = transactionOf frame ∧
      acfGbbMessageInfoLen ≤ frame.length := by
  unfold decodeTriggeredRequest at h
  cases hr : decodeRepurposed frame with
  | error e => simp [hr] at h
  | ok r =>
      simp only [hr] at h
      split at h
      · cases h
      · cases h
        obtain ⟨hInfo, hLen⟩ := decodeRepurposed_info hr
        exact ⟨by rw [hInfo, transactionOf], hLen⟩

private theorem decodeTimedRequest_ok {frame : Octets} {request : TimedRequest}
    (h : decodeTimedRequest frame = .ok request) :
    request.transactionNum = transactionOf frame ∧
      acfGbbMessageInfoLen ≤ frame.length := by
  unfold decodeTimedRequest at h
  cases hr : decodeRepurposed frame with
  | error e => simp [hr] at h
  | ok r =>
      simp only [hr] at h
      split at h
      · cases h
      · split at h
        · cases h
        · split at h
          · cases h
          · cases h
            obtain ⟨hInfo, hLen⟩ := decodeRepurposed_info hr
            exact ⟨by rw [hInfo, transactionOf], hLen⟩

/-! ## The effect of an admission -/

structure SameStore (ep ep' : Endpoint) : Prop where
  slots : ep'.slots = ep.slots
  pendingCount : ep'.pendingCount = ep.pendingCount
  nextSequence : ep'.nextSequence = ep.nextSequence

theorem SameStore.refl (ep : Endpoint) : SameStore ep ep := ⟨rfl, rfl, rfl⟩

def gatedOnly (frame : Octets) (tv : Bool) : Bool :=
  tv &&
    match Endpoint.peekRequestType frame with
    | none => true
    | some type => decide (categoryOf (some type) = .cancellation)

/-- A slot that an admission of `frame` has just filled. -/
structure NewSlot (ep : Endpoint) (frame : Octets) (tv : Bool)
    (slot : PendingRequest) : Prop where
  inUse : slot.inUse = true
  sequence : slot.sequence = ep.nextSequence
  stores : slot.frame = frame
  chainGroup : slot.chainGroup = 0
  chainPosition : slot.chainPosition = 0
  transactionNum : slot.transactionNum =
    if gatedOnly frame tv then 0 else transactionOf frame
  length_le : gatedOnly frame tv = false →
    acfGbbMessageInfoLen ≤ frame.length

def overwritten (ep : Endpoint) (index : Nat) (slot : PendingRequest)
    (pendingCount : Nat) : Endpoint :=
  { ep with
    slots := ep.slots.set index slot
    pendingCount := pendingCount
    nextSequence := ep.nextSequence + 1 }

inductive AdmitEffect (ep : Endpoint) (frame : Octets) (tv : Bool) :
    Endpoint → AdmitResult → Prop
  | kept {ep' : Endpoint} {result : AdmitResult} (hStore : SameStore ep ep')
      (hOutcome : result.outcome ≠ .pending) :
      AdmitEffect ep frame tv ep' result
  | discarded {index : Nat} {result : AdmitResult}
      (hFree : ep.slots.firstFree = some index)
      (hOutcome : result.outcome = .rejected) :
      AdmitEffect ep frame tv (overwritten ep index {} ep.pendingCount) result
  | stored {index : Nat} {slot : PendingRequest} {result : AdmitResult}
      (hFree : ep.slots.firstFree = some index)
      (hSlot : NewSlot ep frame tv slot)
      (hOutcome : result.outcome = .pending) :
      AdmitEffect ep frame tv
        (overwritten ep index slot (ep.pendingCount + 1)) result

private theorem set_set (slots : Slots) (index : Nat) (a b : PendingRequest) :
    (slots.set index a).set index b = slots.set index b := by
  ext1
  simp [Table.set]

theorem claimSlot_eq_some {ep claimed : Endpoint} {index : Nat}
    {slot : PendingRequest} (h : ep.claimSlot = some (index, slot, claimed)) :
    ep.slots.firstFree = some index ∧
      slot = { inUse := true, sequence := ep.nextSequence } ∧
      claimed = overwritten ep index slot (ep.pendingCount + 1) := by
  unfold Endpoint.claimSlot at h
  split at h
  · cases h
  · next hFree =>
      cases h
      exact ⟨hFree, rfl, rfl⟩

theorem putSlot_overwritten (ep : Endpoint) (index count : Nat)
    (a b : PendingRequest) :
    (overwritten ep index a count).putSlot index b =
      overwritten ep index b count := by
  simp only [Endpoint.putSlot, overwritten, set_set]

theorem releaseSlot_overwritten (ep : Endpoint) (index count : Nat)
    (a : PendingRequest) :
    (overwritten ep index a (count + 1)).releaseSlot index =
      overwritten ep index {} count := by
  simp only [Endpoint.releaseSlot, overwritten, set_set, Nat.add_sub_cancel]

theorem decodeInto_ok {frame : Octets} {category : RequestCategory}
    {slot slot' : PendingRequest}
    (h : Endpoint.decodeInto frame category slot = .ok slot') :
    slot'.inUse = slot.inUse ∧ slot'.sequence = slot.sequence ∧
      slot'.chainGroup = slot.chainGroup ∧
      slot'.chainPosition = slot.chainPosition ∧
      slot'.transactionNum = transactionOf frame ∧
      acfGbbMessageInfoLen ≤ frame.length := by
  cases category with
  | compound =>
      simp only [Endpoint.decodeInto] at h
      split at h
      · cases h
      · next hDecode =>
          cases h
          exact ⟨rfl, rfl, rfl, rfl, decodeCompoundRequest_ok hDecode⟩
  | compoundWait =>
      simp only [Endpoint.decodeInto] at h
      split at h
      · cases h
      · next hDecode =>
          split at h
          · cases h
          · cases h
            exact ⟨rfl, rfl, rfl, rfl, decodeCompoundRequest_ok hDecode⟩
  | triggered =>
      simp only [Endpoint.decodeInto] at h
      split at h
      · cases h
      · next hDecode =>
          cases h
          exact ⟨rfl, rfl, rfl, rfl, decodeTriggeredRequest_ok hDecode⟩
  | timed =>
      simp only [Endpoint.decodeInto] at h
      split at h
      · cases h
      · next hDecode =>
          cases h
          exact ⟨rfl, rfl, rfl, rfl, decodeTimedRequest_ok hDecode⟩
  | chained =>
      simp only [Endpoint.decodeInto] at h
      split at h
      · cases h
      · next hDecode =>
          cases h
          obtain ⟨hTransaction, -, hLen⟩ := decodeChainedMember_ok hDecode
          exact ⟨rfl, rfl, rfl, rfl, hTransaction, hLen⟩
  | standard => cases h
  | cancellation => cases h

theorem submit_sameStore (ep : Endpoint) (frame : Octets) :
    SameStore ep (ep.submit frame).1 := by
  unfold Endpoint.submit
  split
  · exact .refl ep
  · split
    · exact .refl ep
    · exact ⟨rfl, rfl, rfl⟩

private theorem admitUnderTscfGate_effect (ep : Endpoint) (frame : Octets)
    (now : UInt32) (gate : Nat) (category : RequestCategory)
    (requestType : Option RequestTypeOpcode)
    (hGated : gatedOnly frame true = true) :
    AdmitEffect ep frame true
      (ep.admitUnderTscfGate frame now gate category requestType).1
      (ep.admitUnderTscfGate frame now gate category requestType).2 := by
  unfold Endpoint.admitUnderTscfGate
  split
  · exact .kept (.refl ep) (by simp)
  · next hClaim =>
      obtain ⟨hFree, rfl, rfl⟩ := claimSlot_eq_some hClaim
      rw [putSlot_overwritten]
      exact .stored hFree
        ⟨rfl, rfl, rfl, rfl, rfl, by simp [hGated], by simp [hGated]⟩ rfl

private theorem admitConditional_effect (ep : Endpoint) (frame : Octets)
    (now : UInt32) (tv : Bool) (gate : Nat) (type : RequestTypeOpcode)
    (hGated : gatedOnly frame tv = false) :
    AdmitEffect ep frame tv
      (ep.admitConditional frame now tv gate type).1
      (ep.admitConditional frame now tv gate type).2 := by
  unfold Endpoint.admitConditional
  split
  · exact .kept (.refl ep) (by simp)
  · next hClaim =>
      obtain ⟨hFree, rfl, rfl⟩ := claimSlot_eq_some hClaim
      dsimp only
      split
      · rw [releaseSlot_overwritten]
        exact .discarded hFree rfl
      · next hDecode =>
          obtain ⟨hUse, hSequence, hGroup, hPosition, hTransaction, hLen⟩ :=
            decodeInto_ok hDecode
          rw [putSlot_overwritten]
          refine .stored hFree
            ⟨hUse, hSequence, rfl, hGroup, hPosition, ?_, fun _ => hLen⟩ rfl
          simp [hGated, hTransaction]

theorem admitWithAck_effect (ep : Endpoint) (frame : Octets) (now : UInt32)
    (tv : Bool) (avtpTimestamp : UInt32) (gptpReferenceNow : Nat) :
    AdmitEffect ep frame tv
      (ep.admitWithAck frame now tv avtpTimestamp gptpReferenceNow).1
      (ep.admitWithAck frame now tv avtpTimestamp gptpReferenceNow).2 := by
  unfold Endpoint.admitWithAck
  dsimp only
  generalize (if tv then extendTimestamp avtpTimestamp gptpReferenceNow
    else 0) = gate
  split
  · exact .kept (.refl ep) (by simp)
  · split
    · exact .kept (.refl ep) (by simp)
    · split
      · next hPeek =>
          split
          · next hTv =>
              subst hTv
              exact admitUnderTscfGate_effect _ _ _ _ _ _
                (by simp [gatedOnly, hPeek])
          · have hStore := submit_sameStore ep frame
            split
            · next hSubmit =>
                rw [hSubmit] at hStore
                exact .kept hStore (by simp)
            · next hSubmit =>
                rw [hSubmit] at hStore
                exact .kept hStore (by simp)
      · next type hPeek =>
          split
          · next hCategory =>
              split
              · next hTv =>
                  subst hTv
                  exact admitUnderTscfGate_effect _ _ _ _ _ _
                    (by simp [gatedOnly, hPeek, hCategory])
              · exact .kept (.refl ep) (by simp)
          · next hCategory =>
              exact admitConditional_effect _ _ _ _ _ _
                (by simp [gatedOnly, hPeek, hCategory])

theorem admitWithAck_standard (ep : Endpoint) {frame : Octets}
    (now ts : UInt32) (gptp : Nat)
    (h : Endpoint.peekRequestType frame = none) :
    SameStore ep (ep.admitWithAck frame now false ts gptp).1 := by
  unfold Endpoint.admitWithAck
  dsimp only
  split
  · exact .refl ep
  · split
    · exact .refl ep
    · rw [h]
      have hStore := submit_sameStore ep frame
      simp only [Bool.false_eq_true, if_false]
      split
      · next hSubmit =>
          rw [hSubmit] at hStore
          exact hStore
      · next hSubmit =>
          rw [hSubmit] at hStore
          exact hStore

theorem admitWithAck_cancellation {ep : Endpoint} {frame : Octets}
    {now ts : UInt32} {gptp : Nat}
    (h : (ep.admitWithAck frame now false ts gptp).2.outcome = .cancellation) :
    (ep.admitWithAck frame now false ts gptp).1 = ep ∧
      ep.admissionSuspended = false ∧
      ∃ type, Endpoint.peekRequestType frame = some type ∧
        categoryOf (some type) = .cancellation ∧
        (ep.admitWithAck frame now false ts gptp).2.requestType = some type := by
  unfold Endpoint.admitWithAck at h ⊢
  dsimp only at h ⊢
  split at h
  · cases h
  · next hSuspended =>
      rw [if_neg hSuspended]
      split at h
      · cases h
      · next hRequest =>
          rw [if_neg hRequest]
          cases hPeek : Endpoint.peekRequestType frame with
          | none =>
              rw [hPeek] at h
              simp only [Bool.false_eq_true, if_false] at h
              split at h <;> cases h
          | some type =>
              rw [hPeek] at h
              dsimp only at h ⊢
              by_cases hCategory : categoryOf (some type) = .cancellation
              · rw [if_pos hCategory]
                rw [if_neg Bool.false_ne_true]
                exact ⟨rfl, by simpa using hSuspended, type, rfl, hCategory,
                  rfl⟩
              · rw [if_neg hCategory] at h
                unfold Endpoint.admitConditional at h
                split at h
                · cases h
                · dsimp only at h
                  split at h <;> cases h

/-! ## What the other operations keep -/

structure SameRequest (slot slot' : PendingRequest) : Prop where
  frame : slot'.frame = slot.frame
  transactionNum : slot'.transactionNum = slot.transactionNum
  sequence : slot'.sequence = slot.sequence
  chainGroup : slot'.chainGroup = slot.chainGroup
  chainPosition : slot'.chainPosition = slot.chainPosition

theorem SameRequest.refl (slot : PendingRequest) : SameRequest slot slot :=
  ⟨rfl, rfl, rfl, rfl, rfl⟩

structure Inherits (ep ep' : Endpoint) : Prop where
  nextSequence : ep'.nextSequence = ep.nextSequence
  pending : ∀ index slot', ep'.slots.pending index = some slot' →
    ∃ slot, ep.slots.pending index = some slot ∧ SameRequest slot slot'

theorem inherits_of_slots {ep ep' : Endpoint} (hSlots : ep'.slots = ep.slots)
    (hSequence : ep'.nextSequence = ep.nextSequence) : Inherits ep ep' := by
  refine ⟨hSequence, fun index slot' hPending => ⟨slot', ?_, .refl slot'⟩⟩
  rwa [← hSlots]

theorem SameStore.inherits {ep ep' : Endpoint} (h : SameStore ep ep') :
    Inherits ep ep' :=
  inherits_of_slots h.slots h.nextSequence

private theorem inherits_map {ep ep' : Endpoint}
    (f : PendingRequest → PendingRequest) (hSlots : ep'.slots = ep.slots.map f)
    (hSequence : ep'.nextSequence = ep.nextSequence)
    (hf : ∀ slot, (f slot).inUse = true →
      slot.inUse = true ∧ SameRequest slot (f slot)) : Inherits ep ep' := by
  refine ⟨hSequence, fun index slot' hPending => ?_⟩
  rw [hSlots, Slots.pending_eq_some] at hPending
  obtain ⟨hGet, hUse⟩ := hPending
  simp only [Table.map, List.getElem?_map, Option.map_eq_some_iff] at hGet
  obtain ⟨slot, hSlot, rfl⟩ := hGet
  obtain ⟨hUsed, hSame⟩ := hf slot hUse
  exact ⟨slot, Slots.pending_eq_some.mpr ⟨hSlot, hUsed⟩, hSame⟩

theorem pending_lt {slots : Slots} {index : Nat} {slot : PendingRequest}
    (h : slots.pending index = some slot) : index < maxPending := by
  obtain ⟨hGet, -⟩ := Slots.pending_eq_some.mp h
  obtain ⟨hBound, -⟩ := List.getElem?_eq_some_iff.mp hGet
  rwa [slots.length_eq] at hBound

theorem pending_set_cases {slots : Slots} {index other : Nat}
    {slot found : PendingRequest}
    (h : Slots.pending (slots.set index slot) other = some found) :
    other = index ∧ found = slot ∧ slot.inUse = true ∨
      other ≠ index ∧ slots.pending other = some found := by
  by_cases hIndex : index = other
  · subst hIndex
    obtain ⟨hGet, hUse⟩ := Slots.pending_eq_some.mp h
    rw [Table.getElem?_set_self (pending_lt h), Option.some_inj] at hGet
    subst hGet
    exact .inl ⟨rfl, rfl, hUse⟩
  · rw [Slots.pending_set_ne hIndex] at h
    exact .inr ⟨fun hEq => hIndex hEq.symm, h⟩

theorem pending_of_set_default {slots : Slots} {index other : Nat}
    {found : PendingRequest}
    (h : Slots.pending (slots.set index {}) other = some found) :
    slots.pending other = some found := by
  obtain ⟨-, -, ⟨⟩⟩ | ⟨-, hOld⟩ := pending_set_cases h
  exact hOld

private theorem inherits_putSlot (ep : Endpoint) {index : Nat}
    {slot slot' : PendingRequest} (hPending : ep.slots.pending index = some slot)
    (hSame : SameRequest slot slot') : Inherits ep (ep.putSlot index slot') := by
  refine ⟨rfl, fun other found hFound => ?_⟩
  obtain ⟨rfl, rfl, -⟩ | ⟨-, hOld⟩ := pending_set_cases hFound
  · exact ⟨slot, hPending, hSame⟩
  · exact ⟨found, hOld, .refl found⟩

theorem pending_set_default (slots : Slots) (index : Nat) :
    Slots.pending (slots.set index {}) index = none := by
  by_cases h : index < maxPending
  · simp [Slots.pending, Table.getElem?_set_self h]
  · have hLength : slots.toList[index]? = none := by
      rw [List.getElem?_eq_none_iff, slots.length_eq]
      omega
    rw [Table.set_of_size_le (by omega), Slots.pending, hLength]

theorem inherits_releaseSlot (ep : Endpoint) (index : Nat) :
    Inherits ep (ep.releaseSlot index) :=
  ⟨rfl, fun _ found hFound =>
    ⟨found, pending_of_set_default hFound, .refl found⟩⟩

theorem inherits_releaseWhere (ep : Endpoint) (p : PendingRequest → Bool) :
    Inherits ep (ep.releaseWhere p) := by
  refine ⟨rfl, fun index slot hPending => ?_⟩
  simp only [Endpoint.releaseWhere, Slots.pending_releaseWhere,
    Option.filter_eq_some_iff] at hPending
  exact ⟨slot, hPending.1, .refl slot⟩

private theorem armIfStartable_same (slot : PendingRequest)
    (ctx : Endpoint.TickContext) :
    (Endpoint.armIfStartable slot ctx).1.inUse = slot.inUse ∧
      SameRequest slot (Endpoint.armIfStartable slot ctx).1 := by
  unfold Endpoint.armIfStartable
  split
  · exact ⟨rfl, .refl slot⟩
  · split
    · exact ⟨rfl, .refl slot⟩
    · split
      · exact ⟨rfl, rfl, rfl, rfl, rfl, rfl⟩
      · exact ⟨rfl, rfl, rfl, rfl, rfl, rfl⟩

theorem isDue_same (epEnable : Bool) (slot : PendingRequest)
    (ctx : Endpoint.TickContext) :
    (Endpoint.isDue epEnable slot ctx).1.inUse = slot.inUse ∧
      SameRequest slot (Endpoint.isDue epEnable slot ctx).1 := by
  have hArm := armIfStartable_same slot ctx
  unfold Endpoint.isDue
  split
  · exact ⟨rfl, .refl slot⟩
  · split
    · exact ⟨rfl, .refl slot⟩
    · split
      · exact ⟨rfl, .refl slot⟩
      · split
        · next hEq =>
            rw [hEq] at hArm
            exact hArm
        · next hEq =>
            rw [hEq] at hArm
            split
            · exact hArm
            · exact hArm

theorem inherits_selectDue (ep : Endpoint) (ctx : Endpoint.TickContext) :
    Inherits ep (ep.selectDue ctx).1 := by
  refine inherits_map _ rfl rfl fun slot hUse => ?_
  by_cases hSlot : slot.inUse = true
  · rw [if_pos hSlot]
    exact ⟨hSlot, (isDue_same ep.epEnable slot ctx).2⟩
  · rw [if_neg hSlot] at hUse
    exact absurd hUse hSlot

private theorem rearm_same {slot again : PendingRequest} {now : UInt32}
    {repeatCount : UInt16}
    {setRepeat : PendingRequest → UInt16 → PendingRequest}
    (hRepeat : ∀ slot count, SameRequest slot (setRepeat slot count))
    (h : Endpoint.rearm slot now repeatCount setRepeat = some again) :
    SameRequest slot again := by
  unfold Endpoint.rearm at h
  dsimp only at h
  split at h
  · cases h
    exact ⟨rfl, rfl, rfl, rfl, rfl⟩
  · split at h
    · cases h
    · cases h
      obtain ⟨hFrame, hTransaction, hSequence, hGroup, hPosition⟩ :=
        hRepeat slot (repeatCount - 1)
      exact ⟨hFrame, hTransaction, hSequence, hGroup, hPosition⟩

theorem completeSlot_same {slot again : PendingRequest}
    (ctx : Endpoint.TickContext)
    (h : (Endpoint.completeSlot slot ctx).1 = some again) :
    SameRequest slot again := by
  unfold Endpoint.completeSlot at h
  dsimp only at h
  split at h <;> dsimp only at h
  · refine rearm_same ?_ h
    exact fun _ _ => ⟨rfl, rfl, rfl, rfl, rfl⟩
  · refine rearm_same ?_ h
    exact fun _ _ => ⟨rfl, rfl, rfl, rfl, rfl⟩
  · have hSame := rearm_same ?_ h
    · obtain ⟨hFrame, hTransaction, hSequence, hGroup, hPosition⟩ := hSame
      exact ⟨hFrame, hTransaction, hSequence, hGroup, hPosition⟩
    · exact fun _ _ => ⟨rfl, rfl, rfl, rfl, rfl⟩
  all_goals cases h

theorem inherits_complete (ep : Endpoint) (index : Nat)
    (ctx : Endpoint.TickContext) : Inherits ep (ep.complete index ctx).1 := by
  unfold Endpoint.complete
  split
  · exact inherits_of_slots rfl rfl
  · next slot hPending =>
      split
      · exact inherits_releaseSlot ep index
      · next again states hComplete =>
          refine inherits_putSlot ep hPending (completeSlot_same ctx ?_)
          rw [hComplete]

theorem inherits_notifyTrigger (ep : Endpoint) (sourceEp signalNr : UInt8) :
    Inherits ep (ep.notifyTrigger sourceEp signalNr).1 := by
  refine inherits_map _ rfl rfl fun slot hUse => ?_
  split at hUse
  · next hObserves =>
      rw [if_pos hObserves]
      exact ⟨hUse, rfl, rfl, rfl, rfl, rfl⟩
  · next hObserves =>
      rw [if_neg hObserves]
      exact ⟨hUse, .refl slot⟩

private theorem inherits_chainPredecessorDone (ep : Endpoint) (index : Nat)
    (now : UInt32) : Inherits ep (ep.chainPredecessorDone index now) := by
  unfold Endpoint.chainPredecessorDone
  split
  · exact inherits_of_slots rfl rfl
  · next slot hPending =>
      split
      · exact inherits_putSlot ep hPending ⟨rfl, rfl, rfl, rfl, rfl⟩
      · exact inherits_of_slots rfl rfl

theorem inherits_cancelSingle (ep : Endpoint) (num : UInt8)
    (state : Endpoint.CancelLifecycle) :
    Inherits ep (ep.cancelSingle num state).1 := by
  unfold Endpoint.cancelSingle
  split
  · exact inherits_of_slots rfl rfl
  · next index _ =>
      dsimp only
      split
      · exact inherits_releaseSlot ep index
      · exact inherits_of_slots rfl rfl

theorem inherits_cancelChainFrom (ep : Endpoint) (group position : Nat) :
    Inherits ep (ep.cancelChainFrom group position) := by
  unfold Endpoint.cancelChainFrom
  split
  · exact inherits_of_slots rfl rfl
  · exact inherits_releaseWhere ep _

theorem inherits_drainOne (ep : Endpoint) : Inherits ep ep.drainOne.1 := by
  unfold Endpoint.drainOne
  split
  · exact inherits_of_slots rfl rfl
  · split <;> exact inherits_of_slots rfl rfl

/-- Apart from an admission and from tagging, an operation stores nothing and
changes no stored request. -/
theorem inherits_step (ep : Endpoint) (op : EndpointOp)
    (hAdmit : ∀ frame now tv ts gptp, op ≠ .admitWithAck frame now tv ts gptp)
    (hTag : ∀ index group position, op ≠ .tagChain index group position) :
    Inherits ep (ep.step op).1 := by
  cases op with
  | setEnable enable => exact inherits_of_slots rfl rfl
  | setAdmissionSuspended suspended => exact inherits_of_slots rfl rfl
  | submit frame => exact (submit_sameStore ep frame).inherits
  | drainOne => exact inherits_drainOne ep
  | admitWithAck frame now tv ts gptp => exact absurd rfl (hAdmit frame now tv ts gptp)
  | selectDue ctx => exact inherits_selectDue ep ctx
  | complete index ctx => exact inherits_complete ep index ctx
  | notifyTrigger sourceEp signalNr =>
      exact inherits_notifyTrigger ep sourceEp signalNr
  | chainPredecessorDone index now =>
      exact inherits_chainPredecessorDone ep index now
  | tagChain index group position => exact absurd rfl (hTag index group position)
  | cancelAll => exact inherits_releaseWhere ep _
  | cancelSingle num state => exact inherits_cancelSingle ep num state
  | cancelNonSafestate => exact inherits_releaseWhere ep _
  | watchdogPurge => exact inherits_releaseWhere ep _
  | cancelChainFrom group position =>
      exact inherits_cancelChainFrom ep group position

end CppRcp.Server
