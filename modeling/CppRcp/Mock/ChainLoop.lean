import CppRcp.Mock.ChainRecords

/-!
# Chain numbers through the member loop

Within a frame a request is the frame's own exactly if its number was given
out after the frame began, and among the frame's own requests the chain number
and the position order those of one chain.
-/

namespace CppRcp.Mock

open CppRcp.Foundation CppRcp.Acf CppRcp.Request CppRcp.E2e CppRcp.Regmap
open CppRcp.Server

/-- The member that stores a request shares its chain number with no request
of another frame or bus, and stores no second one outside every chain. -/
def Uncrossed (start before after : Server) (target : Option Bus)
    (chain : Nat) : Prop :=
  ∀ bus, target = some bus →
    (before.admission bus).pendingCount < (after.admission bus).pendingCount →
      ∀ other index found,
        (before.admission other).slots.pending index = some found →
          found.chainGroup = chain →
            ((start.admission other).nextSequence ≤ found.sequence ↔
              chain ≠ 0 ∧ other = bus)

structure InFrame (r : FrameRun) (t : Tracked) (index : Nat) : Prop where
  sound : (r.trackedAt t index).Sound
  started : ∀ bus, (r.server.admission bus).nextSequence ≤
    ((r.loop index).server.admission bus).nextSequence
  own : ∀ bus i found, (r.trackedAt t index).Stored bus i found →
    ((r.server.admission bus).nextSequence ≤ found.sequence ↔
      ∃ origin,
        (r.trackedAt t index).origins bus found.sequence = some origin ∧
          origin.frame = t.frames)
  current : ∀ bus i found origin, (r.trackedAt t index).Stored bus i found →
    (r.trackedAt t index).origins bus found.sequence = some origin →
      origin.frame = t.frames →
        origin.member < index ∧ origin.chain ≤ (r.loop index).chainGroup ∧
          (origin.chain = (r.loop index).chainGroup →
            found.chainPosition ≤ (r.loop index).chainPosition)
  chain : (r.loop index).chainGroup = chainAt (r.members.take index)

namespace InFrame

variable {r : FrameRun} {t : Tracked} {index : Nat}

private theorem chainGroup_le (h : InFrame r t index) :
    (r.loop index).chainGroup ≤ index := by
  rw [h.chain]
  exact (chainAt_le_length _).trans (List.length_take_le _ _)

theorem start (h : t.Sound)
    (hServer : r.server.admissions = t.server.admissions) :
    InFrame r t 0 := by
  have hAt : ∀ bus, r.server.admission bus = t.server.admission bus :=
    fun bus => by rw [Server.admission, Server.admission, hServer]
  have hOld : ∀ bus i found, (r.trackedAt t 0).Stored bus i found →
      found.sequence < (r.server.admission bus).nextSequence := by
    intro bus i found hFound
    rw [hAt]
    refine h.numbered bus i found ?_
    rw [← hAt]
    exact hFound
  have hNotOwn : ∀ bus sequence origin,
      t.origins bus sequence = some origin → origin.frame ≠ t.frames :=
    fun bus sequence origin hOrigin =>
      (h.earlier bus sequence origin hOrigin).ne
  refine ⟨?_, fun _ => le_rfl, ?_, ?_, rfl⟩
  · exact h.of_admissions hServer rfl (Nat.le_succ _)
  · intro bus i found hFound
    refine iff_of_false (Nat.not_le.mpr (hOld bus i found hFound)) ?_
    rintro ⟨origin, hOrigin, hFrame⟩
    exact hNotOwn bus _ origin hOrigin hFrame
  · intro bus i found origin hFound hOrigin hFrame
    exact absurd hFrame (hNotOwn bus _ origin hOrigin)

theorem behind (h : InFrame r t index) {member : Octets}
    (hMember : r.members[index]? = some member) {bus : Bus} {i : Nat}
    {found : PendingRequest} {origin : Origin}
    (hFound : (r.trackedAt t index).Stored bus i found)
    (hOrigin : (r.trackedAt t index).origins bus found.sequence =
      some origin)
    (hFrame : origin.frame = t.frames) :
    origin.member < index ∧
      origin.chain ≤ (r.loop (index + 1)).chainGroup ∧
        (origin.chain = (r.loop (index + 1)).chainGroup →
          found.chainPosition ≤ (r.loop (index + 1)).chainPosition ∧
            ((r.loop (index + 1)).server ≠ (r.loop index).server →
              found.chainPosition < (r.loop (index + 1)).chainPosition)) := by
  obtain ⟨hBefore, hChain, hPosition⟩ :=
    h.current bus i found origin hFound hOrigin hFrame
  obtain ⟨hGroup, hStep⟩ := counters_stepMember r.dispatchMember
    (r.loop index) (member, index)
  have hNext : r.loop (index + 1) =
      (stepMember r.dispatchMember (r.loop index) (member, index)).1 :=
    loopBefore_succ _ _ hMember
  rw [← hNext] at hGroup hStep
  refine ⟨hBefore, ?_⟩
  cases hStarts : startsChain member with
  | true =>
      rw [hStarts, if_pos rfl] at hGroup
      have hOlder := h.chainGroup_le
      refine ⟨by omega, ?_⟩
      intro hSame
      omega
  | false =>
      rw [hStarts, if_neg (by simp)] at hGroup
      obtain ⟨hStay, hAhead⟩ := hStep hStarts
      rw [hGroup]
      refine ⟨hChain, ?_⟩
      intro hSame
      have hReached := hPosition hSame
      exact ⟨hReached.trans hStay, fun hChanged =>
        hReached.trans_lt (hAhead hChanged)⟩

def memberOrigin (r : FrameRun) (t : Tracked) (index : Nat) : Origin :=
  ⟨t.frames, chainAt (r.members.take (index + 1)), index⟩

def NewAt (r : FrameRun) (index : Nat) (target : Option Bus) (bus : Bus)
    (new : PendingRequest) : Prop :=
  Newcomer (r.loop index).server (r.loop (index + 1)).server target
    (r.loop (index + 1)).chainGroup (r.loop (index + 1)).chainPosition bus new

private theorem origin_old (h : InFrame r t index) {bus : Bus} {i : Nat}
    {old : PendingRequest} (hOld : (r.trackedAt t index).Stored bus i old) :
    (r.trackedAt t (index + 1)).origins bus old.sequence =
      (r.trackedAt t index).origins bus old.sequence :=
  noteOrigins_old (h.sound.numbered bus i old hOld)

private theorem origin_new {target : Option Bus} {bus : Bus}
    {new : PendingRequest} (hNew : NewAt r index target bus new) :
    (r.trackedAt t (index + 1)).origins bus new.sequence =
      some (memberOrigin r t index) := by
  rw [hNew.sequence]
  exact noteOrigins_new hNew.next

section Member

variable {member : Octets} (h : InFrame r t index)
  (hMember : r.members[index]? = some member)

include h hMember

private theorem chainGroup_succ :
    (r.loop (index + 1)).chainGroup =
      chainAt (r.members.take (index + 1)) := by
  obtain ⟨hGroup, -⟩ := counters_stepMember r.dispatchMember (r.loop index)
    (member, index)
  rw [chainAt_take_succ hMember, ← h.chain, FrameRun.loop,
    loopBefore_succ _ _ hMember]
  exact hGroup

private theorem places_succ
    (hDispatch : ∀ server member, MessageEffect server (busOf member)
      (r.dispatchMember server member).1) :
    (∀ bus, ((r.loop index).server.admission bus).nextSequence ≤
        ((r.loop (index + 1)).server.admission bus).nextSequence) ∧
      ∃ place : Option (Bus × Nat), ∀ bus i found,
        (r.trackedAt t (index + 1)).Stored bus i found →
          (place = some (bus, i) ∧
              NewAt r index (busOf member) bus found) ∨
            ∃ old, (r.trackedAt t index).Stored bus i old ∧
              SameRequest old found := by
  have hTurn := turnEffect_stepMember hDispatch (r.loop index)
    h.sound.numbered (member, index)
  have hLoop : (stepMember r.dispatchMember (r.loop index)
      (member, index)).1 = r.loop (index + 1) :=
    (loopBefore_succ _ _ hMember).symm
  rw [hLoop] at hTurn
  exact hTurn.places

variable (hUncrossed : Uncrossed r.server (r.loop index).server
  (r.loop (index + 1)).server (busOf member)
  (chainAt (r.members.take (index + 1))))

include hUncrossed

private theorem agree_newcomer {bus other : Bus} {i : Nat}
    {old new : PendingRequest}
    (hOld : (r.trackedAt t index).Stored other i old)
    (hNew : NewAt r index (busOf member) bus new) :
    (r.trackedAt t (index + 1)).Agree other old bus new ∧
      (r.trackedAt t (index + 1)).Agree bus new other old := by
  have hChain : new.chainGroup = chainAt (r.members.take (index + 1)) := by
    rw [hNew.group, h.chainGroup_succ hMember]
  have hOwn := h.own other i old hOld
  have hApart := hUncrossed bus hNew.target hNew.grown other i old hOld
  have hOldGroup := h.sound.group other i old hOld
  -- a request of this frame and of the chain of the newcomer comes first
  have hBehind : ∀ origin,
      (r.trackedAt t index).origins other old.sequence = some origin →
        origin.frame = t.frames → origin.member < index ∧
          (old.chainGroup = new.chainGroup →
            old.chainPosition < new.chainPosition) := by
    intro origin hOrigin hFrame
    obtain ⟨hBefore, -, hPosition⟩ :=
      h.behind hMember hOld hOrigin hFrame
    refine ⟨hBefore, ?_⟩
    intro hSame
    rw [hOldGroup, hOrigin] at hSame
    rw [hNew.position]
    exact (hPosition (hSame.trans hNew.group)).2 hNew.changed
  unfold Tracked.Agree
  rw [h.origin_old hOld, origin_new hNew]
  constructor
  · constructor
    · rintro ⟨rfl, hChained, hSame, hPosition⟩
      rw [hChain] at hSame
      obtain ⟨origin, hOrigin, hFrame⟩ := hOwn.mp
        ((hApart hSame.symm).mpr ⟨hSame ▸ hChained, rfl⟩)
      rw [hOldGroup, hOrigin] at hSame
      exact ⟨origin, _, hOrigin, rfl, hFrame, hSame.symm,
        (hBehind origin hOrigin hFrame).1⟩
    · rintro ⟨origin, _, hOrigin, ⟨⟩, hFrame, hSame, hBefore⟩
      rw [hOrigin] at hOldGroup
      have hTag : old.chainGroup = chainAt (r.members.take (index + 1)) :=
        hOldGroup.trans hSame
      obtain ⟨hChained, rfl⟩ := (hApart hTag).mp
        (hOwn.mpr ⟨origin, hOrigin, hFrame⟩)
      exact ⟨rfl, hTag.symm ▸ hChained, hChain.trans hTag.symm,
        ((hBehind origin hOrigin hFrame).2 (hTag.trans hChain.symm)).le⟩
  · refine iff_of_false ?_ ?_
    · rintro ⟨rfl, hChained, hSame, hPosition⟩
      rw [hChain] at hSame hChained
      obtain ⟨origin, hOrigin, hFrame⟩ := hOwn.mp
        ((hApart hSame).mpr ⟨hChained, rfl⟩)
      have hLess := (hBehind origin hOrigin hFrame).2 (hSame.trans hChain.symm)
      exact absurd hPosition (Nat.not_le.mpr hLess)
    · rintro ⟨_, origin, ⟨⟩, hOrigin, hFrame, hSame, hBefore⟩
      have hLess := (hBehind origin hOrigin hFrame.symm).1
      exact absurd hBefore (Nat.not_lt.mpr hLess.le)

private theorem sound_succ
    (hDispatch : ∀ server member, MessageEffect server (busOf member)
      (r.dispatchMember server member).1) :
    (r.trackedAt t (index + 1)).Sound := by
  obtain ⟨hNext, place, hPlaces⟩ := h.places_succ hMember hDispatch
  refine h.sound.grow
    (fun bus i found => place = some (bus, i) ∧
      NewAt r index (busOf member) bus found)
    ?_ hNext ?_ ?_ hPlaces ?_ ?_ ?_
  · exact fun bus sequence hSequence => noteOrigins_old hSequence
  · intro bus sequence hSequence
    exact (noteOrigins_unused hSequence).trans
      (h.sound.fresh bus sequence ((hNext bus).trans hSequence))
  · intro bus sequence origin hOrigin
    rcases noteOrigins_cases hOrigin with rfl | hOrigin
    · exact Nat.lt_succ_self _
    · exact h.sound.earlier bus sequence origin hOrigin
  · rintro bus i found ⟨-, hNew⟩
    rw [hNew.sequence]
    exact hNew.next.symm ▸ Nat.lt_succ_self _
  · rintro bus i found ⟨-, hNew⟩
    rw [origin_new hNew, hNew.group, h.chainGroup_succ hMember]
    rfl
  · intro bus i found other i' later hFound hLater hNe hSome
    rcases hPlaces bus i found hFound with
      ⟨hPlace, hNew⟩ | ⟨old, hOld, hSame⟩
    · rcases hPlaces other i' later hLater with
        ⟨hPlace', -⟩ | ⟨old, hOld, hSame⟩
      · exact absurd (Option.some_inj.mp (hPlace.symm.trans hPlace')) hNe
      · exact (h.agree_newcomer hMember hUncrossed hOld hNew).2.of_same
          (.refl found) hSame rfl rfl
    · rcases hPlaces other i' later hLater with
        ⟨-, hNew⟩ | ⟨old', hOld', hSame'⟩
      · exact (h.agree_newcomer hMember hUncrossed hOld hNew).1.of_same
          hSame (.refl later) rfl rfl
      · exact ((h.sound.exact bus i old other i' old' hOld hOld'
          hNe).of_same (.refl old) (.refl old') (h.origin_old hOld)
            (h.origin_old hOld')).of_same hSame hSame' rfl rfl

theorem succ
    (hDispatch : ∀ server member, MessageEffect server (busOf member)
      (r.dispatchMember server member).1) :
    InFrame r t (index + 1) := by
  obtain ⟨hNext, place, hPlaces⟩ := h.places_succ hMember hDispatch
  refine ⟨h.sound_succ hMember hUncrossed hDispatch,
    fun bus => (h.started bus).trans (hNext bus), ?_, ?_,
    h.chainGroup_succ hMember⟩
  · intro bus i found hFound
    rcases hPlaces bus i found hFound with ⟨-, hNew⟩ | ⟨old, hOld, hSame⟩
    · refine iff_of_true ?_ ⟨_, origin_new hNew, rfl⟩
      rw [hNew.sequence]
      exact h.started bus
    · rw [hSame.sequence, h.origin_old hOld]
      exact h.own bus i old hOld
  · intro bus i found origin hFound hOrigin hFrame
    rcases hPlaces bus i found hFound with ⟨-, hNew⟩ | ⟨old, hOld, hSame⟩
    · obtain rfl : memberOrigin r t index = origin :=
        Option.some_inj.mp ((origin_new hNew).symm.trans hOrigin)
      refine ⟨Nat.lt_succ_self _, (h.chainGroup_succ hMember).ge, ?_⟩
      intro _
      exact hNew.position.le
    · rw [hSame.sequence, h.origin_old hOld] at hOrigin
      obtain ⟨hBefore, hChain, hPosition⟩ :=
        h.behind hMember hOld hOrigin hFrame
      refine ⟨Nat.lt_succ_of_lt hBefore, hChain, ?_⟩
      intro hSameChain
      rw [hSame.chainPosition]
      exact (hPosition hSameChain).1

end Member

end InFrame

end CppRcp.Mock
