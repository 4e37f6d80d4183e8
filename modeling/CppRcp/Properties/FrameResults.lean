import CppRcp.Mock.FrameEffects
import CppRcp.Mock.Splitting

/-!
# One result for every member of a frame

The result array has room for `maxFrameMembers` entries.  For frames that fit
it, both frame entries report one result for each member, in wire order.  For
longer frames the member loop stops one member early, because it knows where a
member ends only from the offset of the next one; the path that rejects a
whole frame counts to the capacity.
-/

namespace CppRcp.Mock

open CppRcp.Foundation CppRcp.E2e

/-- Exactly one result for each member that fits the result array, the one
at an index being that of the member at that index. -/
structure ReportsMembers (results : List FrameMemberResult)
    (members : List Octets) (resultAt : Nat → Octets → FrameMemberResult) :
    Prop where
  count : results.length = min members.length maxFrameMembers
  each : ∀ index member, members[index]? = some member →
    index < maxFrameMembers → results[index]? = some (resultAt index member)

def loopResult (dispatchMember : DispatchMember) (server : Server)
    (members : List Octets) (index : Nat) (member : Octets) :
    FrameMemberResult :=
  (stepMember dispatchMember (loopBefore dispatchMember server members index)
    (member, index)).2

def ReportsFrame (server : Server) (streamId : StreamId)
    (members : List Octets) : Prop :=
  ReportsMembers (server.dispatchFrame streamId members.flatten).2 members
    (loopResult (fun server member =>
      server.decodeAndDispatch streamId member) server members)

/-- A frame that the sequence check rejects has that result for each
member. -/
def ReportsFrameE2e (server : Server) (streamId : StreamId)
    (sequenceNum : UInt8) (members : List Octets) : Prop :=
  ReportsMembers
    (server.dispatchFrameE2e streamId sequenceNum members.flatten).2 members
    (let gate := server.seqGateAdmits streamId sequenceNum
      if gate.2 then
        loopResult (fun server member =>
          server.dispatchE2eFragmentCore streamId sequenceNum member false)
          gate.1 members
      else fun _ _ => Server.seqErrorResult)

/-! ## The member loop -/

private theorem dispatchFrameImpl_results (dispatchMember : DispatchMember)
    (server : Server) {members : List Octets}
    (h : ∀ member ∈ members, IsMember member)
    (hCount : members.length ≤ maxFrameMembers) :
    ReportsMembers
      (dispatchFrameImpl dispatchMember server members.flatten).2 members
      (loopResult dispatchMember server members) := by
  constructor
  · rw [dispatchFrameImpl, frameMembers_of_le h hCount]
    simp [Nat.min_eq_left hCount]
  · intro index member hMember _
    rw [dispatchFrameImpl, frameMembers_of_le h hCount]
    simp only [getElem?_run, List.getElem?_zipIdx, hMember, Option.map_some,
      Nat.zero_add]
    rfl

private theorem length_dispatchFrameImpl_of_lt (dispatchMember : DispatchMember)
    (server : Server) {members : List Octets}
    (h : ∀ member ∈ members, IsMember member)
    (hCount : maxFrameMembers < members.length) :
    (dispatchFrameImpl dispatchMember server members.flatten).2.length =
      maxFrameMembers - 1 := by
  rw [dispatchFrameImpl, frameMembers_of_lt h hCount]
  simp only [length_run, List.length_zipIdx, List.length_take]
  omega

theorem dispatchFrameImpl_results_iff (dispatchMember : DispatchMember)
    (server : Server) {members : List Octets}
    (h : ∀ member ∈ members, IsMember member) :
    ReportsMembers
        (dispatchFrameImpl dispatchMember server members.flatten).2 members
        (loopResult dispatchMember server members) ↔
      members.length ≤ maxFrameMembers := by
  refine ⟨fun hReports => ?_, dispatchFrameImpl_results dispatchMember server h⟩
  by_contra hCount
  have hLength := hReports.count
  rw [length_dispatchFrameImpl_of_lt dispatchMember server h (by omega)]
    at hLength
  have : 0 < maxFrameMembers := by decide
  omega

/-! ## Both entries -/

theorem reportsFrameE2e_iff (server : Server) (streamId : StreamId)
    (sequenceNum : UInt8) {members : List Octets}
    (h : ∀ member ∈ members, IsMember member) :
    ReportsFrameE2e server streamId sequenceNum members ↔
      members.length ≤ maxFrameMembers ∨
        (server.seqGateAdmits streamId sequenceNum).2 = false := by
  unfold ReportsFrameE2e Server.dispatchFrameE2e
  rw [splitFrameMembers_flatten h, length_offsetsFrom]
  by_cases hEmpty : members.length = 0
  · have hNil := List.length_eq_zero_iff.mp hEmpty
    subst hNil
    simp only [List.length_nil, if_true]
    refine ⟨fun _ => .inl (by decide), fun _ => ⟨rfl, ?_⟩⟩
    intro index member hMember
    simp at hMember
  · rw [if_neg hEmpty]
    cases hGate : server.seqGateAdmits streamId sequenceNum with
    | mk gated admits =>
        cases admits with
        | true =>
            simp only [if_true, Bool.true_eq_false, or_false]
            exact dispatchFrameImpl_results_iff _ gated h
        | false =>
            simp only [Bool.false_eq_true, if_false, or_true, iff_true]
            refine ⟨by simp, ?_⟩
            intro index member hMember hIndex
            obtain ⟨hBound, -⟩ := List.getElem?_eq_some_iff.mp hMember
            rw [List.getElem?_replicate, if_pos (by omega)]

/-- Both frame entries report each member exactly when the frame fits the
result array; the protected one also when the sequence check rejects it. -/
theorem frameResults_iff (server : Server) (streamId : StreamId)
    (sequenceNum : UInt8) (members : List Octets)
    (h : ∀ member ∈ members, IsMember member) :
    (ReportsFrame server streamId members ↔
        members.length ≤ maxFrameMembers) ∧
      (ReportsFrameE2e server streamId sequenceNum members ↔
        members.length ≤ maxFrameMembers ∨
          (server.seqGateAdmits streamId sequenceNum).2 = false) :=
  ⟨dispatchFrameImpl_results_iff _ server h,
    reportsFrameE2e_iff server streamId sequenceNum h⟩

def smallMember : Octets := [0x1C, 0x02, 0x00, 0x01, 0x00, 0x07, 0x00, 0x00]

def writeMember : Octets :=
  [0x1C, 0x03, 0x00, 0x02, 0x00, 0x08, 0x80, 0x00, 0x00, 0x00, 0x00, 0x05]

theorem frameResults_of_three :
    let members := [smallMember, writeMember, smallMember]
    (∀ member ∈ members, IsMember member) ∧ ReportsFrame {} 0 members ∧
      ReportsFrameE2e {} 0 0 members := by
  intro members
  have hMembers : ∀ member ∈ members, IsMember member := by decide
  obtain ⟨hPlain, hProtected⟩ := frameResults_iff {} 0 0 members hMembers
  exact ⟨hMembers, hPlain.mpr (by decide), hProtected.mpr (.inl (by decide))⟩

/-- A frame of 33 members gets 31 results, not 32. -/
theorem frameResults_of_thirtyThree :
    Server.Reachable {} ∧
      (∀ member ∈ List.replicate 33 smallMember, IsMember member) ∧
      ¬ ReportsFrame {} 0 (List.replicate 33 smallMember) := by
  have h : ∀ member ∈ List.replicate 33 smallMember, IsMember member := by
    intro member hMember
    rw [List.eq_of_mem_replicate hMember]
    decide
  refine ⟨⟨[], rfl⟩, h, fun hReports => ?_⟩
  have hCount := (dispatchFrameImpl_results_iff _ {} h).mp hReports
  simp [maxFrameMembers] at hCount

end CppRcp.Mock
