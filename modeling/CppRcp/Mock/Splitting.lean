import CppRcp.Mock.Frame

/-!
# What splitting a frame finds

A well-formed frame is the concatenation of its members, each as long as its
own length field says.  Splitting such a frame finds exactly its members.
-/

namespace CppRcp.Mock

open CppRcp.Foundation CppRcp.Acf

/-- A byte string that is one well-formed member and nothing else. -/
def IsMember (member : Octets) : Prop := memberLen member = some member.length

instance (member : Octets) : Decidable (IsMember member) :=
  inferInstanceAs (Decidable (memberLen member = some member.length))

/-- The offsets of consecutive members from an offset on. -/
def offsetsFrom : Nat → List Octets → List Nat
  | _, [] => []
  | offset, member :: members =>
      offset :: offsetsFrom (offset + member.length) members

@[simp] theorem length_offsetsFrom (offset : Nat) (members : List Octets) :
    (offsetsFrom offset members).length = members.length := by
  induction members generalizing offset with
  | nil => rfl
  | cons member members ih => simp [offsetsFrom, ih]

private theorem take_offsetsFrom (offset count : Nat) (members : List Octets) :
    (offsetsFrom offset members).take count =
      offsetsFrom offset (members.take count) := by
  induction members generalizing offset count with
  | nil => simp [offsetsFrom]
  | cons member members ih =>
      cases count with
      | zero => rfl
      | succ count => simp [offsetsFrom, ih]

theorem memberLen_eq_some {octets : Octets} {len : Nat}
    (h : memberLen octets = some len) :
    2 ≤ octets.length ∧ headerLen (peekAcfMsgType octets) ≤ octets.length ∧
      headerLen (peekAcfMsgType octets) ≤ len ∧ len ≤ octets.length ∧
      len = ((octetAt octets 0).toNat % 2 * 256 +
        (octetAt octets 1).toNat) * 4 := by
  simp only [memberLen] at h
  split at h
  · cases h
  · split at h
    · cases h
    · split at h
      · cases h
      · split at h
        · cases h
        · split at h
          · cases h
          · cases h
            omega

theorem IsMember.two_le {member : Octets} (h : IsMember member) :
    8 ≤ member.length := by
  have := memberLen_eq_some h
  have hEight := le_headerLen (peekAcfMsgType member)
  simp only [acfCommonHeaderLen] at hEight
  omega

private theorem memberLen_append {member : Octets} (rest : Octets)
    (h : IsMember member) : memberLen (member ++ rest) = some member.length := by
  have hLen := h.two_le
  have hZero : octetAt (member ++ rest) 0 = octetAt member 0 :=
    octetAt_append (by omega)
  have hOne : octetAt (member ++ rest) 1 = octetAt member 1 :=
    octetAt_append (by omega)
  have hType : peekAcfMsgType (member ++ rest) = peekAcfMsgType member := by
    rw [peekAcfMsgType, peekAcfMsgType, hZero]
  obtain ⟨-, hHeader, hShort, -, hValue⟩ := memberLen_eq_some h
  have hKnown : ¬ (peekAcfMsgType member ≠ acfMsgTypeAbb ∧
      peekAcfMsgType member ≠ acfMsgTypeGbb) := by
    intro hUnknown
    have hTwo : ¬ member.length < 2 := by omega
    simp [IsMember, memberLen, hTwo, hUnknown] at h
  simp only [memberLen, hType, hZero, hOne, ← hValue, List.length_append]
  rw [if_neg (by omega), if_neg hKnown, if_neg (by omega), if_neg (by omega),
    if_neg (by omega)]

private theorem splitFrom_flatten {members : List Octets}
    (h : ∀ member ∈ members, IsMember member) (fuel offset : Nat)
    (hFuel : members.flatten.length ≤ fuel) :
    splitFrom fuel members.flatten offset =
      some (offsetsFrom offset members) := by
  induction members generalizing fuel offset with
  | nil => cases fuel <;> rfl
  | cons member members ih =>
      have hMember := h member (by simp)
      have hLen := hMember.two_le
      rw [List.flatten_cons, List.length_append] at hFuel
      cases fuel with
      | zero => omega
      | succ fuel =>
          have hNonempty : member ++ members.flatten ≠ [] := by
            intro hEmpty
            have := congrArg List.length hEmpty
            simp only [List.length_append, List.length_nil] at this
            omega
          rw [List.flatten_cons, splitFrom, if_neg hNonempty,
            memberLen_append _ hMember]
          simp only [List.drop_left]
          rw [ih (fun m hm => h m (by simp [hm])) fuel _ (by omega)]
          rfl

theorem splitFrameMembers_flatten {members : List Octets}
    (h : ∀ member ∈ members, IsMember member) :
    splitFrameMembers members.flatten = offsetsFrom 0 members := by
  rw [splitFrameMembers, splitFrom_flatten h _ _ le_rfl, Option.getD_some]

private theorem memberOctets_offsetsFrom (before : Octets)
    (members : List Octets) :
    memberOctets (before ++ members.flatten) true
      (offsetsFrom before.length members) = members := by
  induction members generalizing before with
  | nil => rfl
  | cons member members ih =>
      have hNext := ih (before ++ member)
      rw [List.length_append, List.append_assoc] at hNext
      cases members with
      | nil => simp [offsetsFrom, memberOctets]
      | cons next members =>
          simp only [offsetsFrom, memberOctets, List.flatten_cons]
            at hNext ⊢
          rw [hNext]
          simp [List.take_left']

private theorem memberOctets_dropLast (before rest : Octets)
    (members : List Octets) :
    memberOctets (before ++ (members.flatten ++ rest)) false
      (offsetsFrom before.length members) = members.dropLast := by
  induction members generalizing before with
  | nil => rfl
  | cons member members ih =>
      have hNext := ih (before ++ member)
      rw [List.length_append, List.append_assoc] at hNext
      cases members with
      | nil => simp [offsetsFrom, memberOctets]
      | cons next members =>
          simp only [offsetsFrom, memberOctets, List.flatten_cons,
            List.append_assoc, List.dropLast_cons_cons] at hNext ⊢
          rw [hNext]
          simp [List.take_left']

theorem frameMembers_of_le {members : List Octets}
    (h : ∀ member ∈ members, IsMember member)
    (hCount : members.length ≤ maxFrameMembers) :
    frameMembers members.flatten = members := by
  have hOffsets := splitFrameMembers_flatten h
  have hAll := memberOctets_offsetsFrom [] members
  rw [frameMembers, hOffsets, length_offsetsFrom, decide_eq_true hCount,
    take_offsetsFrom, List.take_of_length_le hCount]
  simpa using hAll

theorem frameMembers_of_lt {members : List Octets}
    (h : ∀ member ∈ members, IsMember member)
    (hCount : maxFrameMembers < members.length) :
    frameMembers members.flatten = members.take (maxFrameMembers - 1) := by
  have hOffsets := splitFrameMembers_flatten h
  have hStored := memberOctets_dropLast []
    (members.drop maxFrameMembers).flatten (members.take maxFrameMembers)
  rw [← List.flatten_append, List.take_append_drop] at hStored
  rw [frameMembers, hOffsets, length_offsetsFrom,
    decide_eq_false (Nat.not_le.mpr hCount), take_offsetsFrom]
  simp only [List.nil_append, List.length_nil] at hStored
  rw [hStored, List.dropLast_eq_take, List.length_take, List.take_take,
    Nat.min_eq_left hCount.le, Nat.min_eq_left (by omega)]

end CppRcp.Mock
