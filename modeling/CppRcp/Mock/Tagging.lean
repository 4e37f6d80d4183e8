import CppRcp.Mock.StoreEffects

/-!
# Tagging what a member stored

After a member was dispatched, the loop tags the stored request with the
highest sequence number.  If the member stored a request, it is that one.
-/

namespace CppRcp.Mock

open CppRcp.Foundation CppRcp.Acf CppRcp.Request CppRcp.E2e CppRcp.Regmap
open CppRcp.Server

/-! ## The last pending request -/

private theorem lastPending_cons (slot : PendingRequest)
    (slots : List PendingRequest) (index : Nat) (best : Option (Nat × Nat)) :
    lastPending (slot :: slots) index best =
        lastPending slots (index + 1) (some (index, slot.sequence)) ∧
          slot.inUse = true ∧ (∀ b, best = some b → b.2 ≤ slot.sequence) ∨
      lastPending (slot :: slots) index best =
        lastPending slots (index + 1) best ∧
          (slot.inUse = true → ∃ b, best = some b ∧ slot.sequence < b.2) := by
  simp only [lastPending]
  cases slot.inUse with
  | false => simp
  | true =>
      cases best with
      | none => simp
      | some b =>
          by_cases hLater : b.2 ≤ slot.sequence
          · simp [hLater]
          · simp [hLater, Nat.not_le.mp hLater]

private theorem lastPending_kept {slots : List PendingRequest}
    {best : Nat × Nat}
    (h : ∀ slot ∈ slots, slot.inUse = true → slot.sequence < best.2)
    (index : Nat) : lastPending slots index (some best) = some best := by
  induction slots generalizing index with
  | nil => rfl
  | cons slot slots ih =>
      obtain ⟨hSlot, hRest⟩ := List.forall_mem_cons.mp h
      rcases lastPending_cons slot slots index (some best) with
        ⟨-, hUse, hLater⟩ | ⟨hEq, -⟩
      · exact absurd (hLater best rfl) (Nat.not_le.mpr (hSlot hUse))
      · rw [hEq]
        exact ih hRest (index + 1)

private theorem lastPending_eq {slots : List PendingRequest} {i : Nat}
    {slot : PendingRequest} (hGet : slots[i]? = some slot)
    (hUse : slot.inUse = true)
    (hOther : ∀ j other, slots[j]? = some other → other.inUse = true →
      j ≠ i → other.sequence < slot.sequence)
    {best : Option (Nat × Nat)}
    (hBest : ∀ b, best = some b → b.2 ≤ slot.sequence) (index : Nat) :
    lastPending slots index best = some (index + i, slot.sequence) := by
  induction slots generalizing i index best with
  | nil => cases hGet
  | cons first slots ih =>
      cases i with
      | zero =>
          cases hGet
          rcases lastPending_cons slot slots index best with
            ⟨hEq, -⟩ | ⟨-, hPassed⟩
          · rw [hEq]
            refine lastPending_kept ?_ (index + 1)
            intro other hMem hOtherUse
            obtain ⟨j, hj⟩ := List.mem_iff_getElem?.mp hMem
            exact hOther (j + 1) other hj hOtherUse (Nat.succ_ne_zero j)
          · obtain ⟨b, hb, hLt⟩ := hPassed hUse
            exact absurd (hBest b hb) (Nat.not_le.mpr hLt)
      | succ i =>
          have hRest : ∀ j other, slots[j]? = some other →
              other.inUse = true → j ≠ i → other.sequence < slot.sequence :=
            fun j other hj hOtherUse hNe => hOther (j + 1) other hj hOtherUse
              fun h => hNe (Nat.succ.inj h)
          rw [Nat.add_comm i 1, ← Nat.add_assoc]
          rcases lastPending_cons first slots index best with
            ⟨hEq, hFirst, -⟩ | ⟨hEq, -⟩
          · rw [hEq]
            refine ih hGet hRest ?_ (index + 1)
            rintro b ⟨⟩
            exact (hOther 0 first rfl hFirst (Nat.succ_ne_zero i).symm).le
          · rw [hEq]
            exact ih hGet hRest hBest (index + 1)

def signalled (slot : PendingRequest) : PendingRequest :=
  if slot.category = .chained then
    { slot with predecessorDone := true, armedAt := 0 }
  else slot

private theorem signalled_inUse (slot : PendingRequest) :
    (signalled slot).inUse = slot.inUse := by
  unfold signalled
  split <;> rfl

private theorem signalled_sequence (slot : PendingRequest) :
    (signalled slot).sequence = slot.sequence := by
  unfold signalled
  split <;> rfl

section Overwritten

variable {ep : Endpoint} {index count : Nat} {slot : PendingRequest}
  (hBelow : ∀ i found, ep.slots.pending i = some found →
    found.sequence < ep.nextSequence)
  (hFree : ep.slots.firstFree = some index) (hUse : slot.inUse = true)
  (hSequence : slot.sequence = ep.nextSequence)

include hBelow hFree hUse hSequence

private theorem lastPendingIndex_overwritten :
    lastPendingIndex (overwritten ep index slot count) = some index := by
  have hIndex := Slots.firstFree_lt hFree
  unfold lastPendingIndex
  rw [@lastPending_eq (overwritten ep index slot count).slots.toList index slot
    (Table.getElem?_set_self hIndex) hUse]
  · simp
  · intro j other hj hOtherUse hNe
    have hPending : (overwritten ep index slot count).slots.pending j =
        some other := Slots.pending_eq_some.mpr ⟨hj, hOtherUse⟩
    rcases pending_set_cases hPending with ⟨rfl, -, -⟩ | ⟨-, hOld⟩
    · exact absurd rfl hNe
    · rw [hSequence]
      exact hBelow j other hOld
  · intro b hb
    cases hb

theorem tagLastPending_eq_overwritten (group position : Nat) :
    tagLastPending (overwritten ep index slot count) group position =
      overwritten ep index
        { signalled slot with chainGroup := group, chainPosition := position }
        count := by
  have hIndex := Slots.firstFree_lt hFree
  have hLast := @lastPendingIndex_overwritten ep index count slot hBelow hFree
    hUse hSequence
  have hStored : (overwritten ep index slot count).slots.pending index =
      some slot := Slots.pending_set_self hIndex hUse
  have hDone : (overwritten ep index slot count).chainPredecessorDone index 0 =
      overwritten ep index (signalled slot) count := by
    unfold Endpoint.chainPredecessorDone signalled
    rw [hStored]
    dsimp only
    split
    · exact putSlot_overwritten ep index count slot _
    · rfl
  have hTagged : (overwritten ep index (signalled slot) count).slots.pending
      index = some (signalled slot) := by
    refine Slots.pending_set_self hIndex ?_
    rw [signalled_inUse, hUse]
  simp only [tagLastPending, hLast, hDone, Endpoint.tagChain, hTagged,
    putSlot_overwritten]

private theorem tagLastPending_overwritten (group position : Nat) :
    let tagged := tagLastPending (overwritten ep index slot count) group
      position
    tagged.nextSequence = ep.nextSequence + 1 ∧
      tagged.pendingCount = count ∧
      ∀ i found, tagged.slots.pending i = some found →
        (i = index ∧ found.sequence = ep.nextSequence ∧
            found.chainGroup = group ∧ found.chainPosition = position) ∨
          (i ≠ index ∧ ep.slots.pending i = some found) := by
  intro tagged
  have hTagged := @tagLastPending_eq_overwritten ep index count slot hBelow
    hFree hUse hSequence group position
  simp only [tagged, hTagged]
  refine ⟨rfl, rfl, ?_⟩
  intro i found hFound
  rcases pending_set_cases hFound with ⟨rfl, rfl, -⟩ | hOld
  · exact .inl ⟨rfl, (signalled_sequence slot).trans hSequence, rfl, rfl⟩
  · exact .inr hOld

end Overwritten

/-! ## One turn -/

/-- What a turn of the member loop makes of the buses: at most one request
more, on the target bus and tagged. -/
inductive TurnEffect (server : Server) (target : Option Bus)
    (group position : Nat) (server' : Server) : Prop
  | retained
      (h : ∀ bus, Retains (server.admission bus) (server'.admission bus))
  | stored {bus : Bus} {index : Nat} (hTarget : target = some bus)
      (hNext : (server'.admission bus).nextSequence =
        (server.admission bus).nextSequence + 1)
      (hCount : (server.admission bus).pendingCount <
        (server'.admission bus).pendingCount)
      (hPending : ∀ i found,
        (server'.admission bus).slots.pending i = some found →
          (i = index ∧
              found.sequence = (server.admission bus).nextSequence ∧
              found.chainGroup = group ∧ found.chainPosition = position) ∨
            (i ≠ index ∧
              (server.admission bus).slots.pending i = some found))
      (hOther : ∀ other, bus ≠ other →
        server'.admission other = server.admission other)

def Numbered (server : Server) : Prop :=
  ∀ bus i found, (server.admission bus).slots.pending i = some found →
    found.sequence < (server.admission bus).nextSequence

private theorem turnEffect_tagStored {before after : Server}
    {target : Option Bus}
    (hNumbered : Numbered before) (h : MessageEffect before target after)
    (group position : Nat) :
    TurnEffect before target group position
      (tagStored before after target group position) := by
  cases h with
  | retained hStores hCount =>
      refine .retained ?_
      unfold tagStored
      split
      · exact hStores
      · next bus =>
          rw [if_neg (Nat.not_lt.mpr (hCount bus))]
          exact hStores
  | @stored bus index slot hTarget hFree hUse hSequence hGroup hAt hOther =>
      subst hTarget
      have hTagged := @tagLastPending_overwritten (before.admission bus) index
        ((before.admission bus).pendingCount + 1) slot (hNumbered bus) hFree
        hUse hSequence group position
      obtain ⟨hNext, hCount, hPending⟩ := hTagged
      have hGrown : (before.admission bus).pendingCount <
          (overwritten (before.admission bus) index slot
            ((before.admission bus).pendingCount + 1)).pendingCount :=
        Nat.lt_succ_self _
      unfold tagStored
      dsimp only
      rw [hAt, if_pos hGrown]
      refine @TurnEffect.stored before (some bus) group position _ bus index
        rfl ?_ ?_ ?_ ?_
      · rw [Server.admission_setAdmission_self, hNext]
      · rw [Server.admission_setAdmission_self, hCount]
        exact Nat.lt_succ_self _
      · rw [Server.admission_setAdmission_self]
        exact hPending
      · intro other hNe
        rw [Server.admission_setAdmission_ne _ _ hNe]
        exact hOther other hNe

theorem peekMember_eq_some {member : Octets} {peek : AcfMessageInfo}
    (h : peekMember member = some peek) :
    peek = decodeAcfMessageInfo member := by
  unfold peekMember at h
  dsimp only at h
  generalize (if member = [] then 0 else peekAcfMsgType member) = msgType at h
  split at h
  · split at h
    · cases h
    · next hDecode =>
        cases h
        exact (decodeAcfAbb_ok hDecode).1
  · split at h
    · split at h
      · cases h
      · next hDecode =>
          cases h
          exact (decodeAcfGbb_ok hDecode).1
    · cases h

theorem turnEffect_stepMember {dispatchMember : DispatchMember}
    (hMember : ∀ server member, MessageEffect server (busOf member)
      (dispatchMember server member).1)
    (state : FrameLoop) (hNumbered : Numbered state.server)
    (input : Octets × Nat) :
    let next := (stepMember dispatchMember state input).1
    TurnEffect state.server (busOf input.1) next.chainGroup
      next.chainPosition next.server := by
  have hTurn := turn_stepMember dispatchMember state input
  revert hTurn
  generalize stepMember dispatchMember state input = out
  intro hTurn
  cases hTurn with
  | undecodable hPeek => exact .retained fun _ => .refl _
  | anchor hPeek hAnchor =>
      rw [busOf, ← peekMember_eq_some hPeek]
      have hEffect := hMember state.server input.1
      rw [busOf, ← peekMember_eq_some hPeek] at hEffect
      exact turnEffect_tagStored hNumbered hEffect _ _
  | orphan hPeek hChained hFirst => exact .retained fun _ => .refl _
  | aborted hPeek hChained hLater hAbort => exact .retained fun _ => .refl _
  | follower hPeek hChained hLater hLatch hContinue =>
      rw [busOf, ← peekMember_eq_some hPeek]
      have hEffect := hMember state.server input.1
      rw [busOf, ← peekMember_eq_some hPeek] at hEffect
      exact turnEffect_tagStored hNumbered hEffect _ _

end CppRcp.Mock
