import CppRcp.Mock.Tagging

/-!
# Chain numbers against origins

The server remembers the chain of a stored request only as a small number and
a position.  Beside a run, this module records for each request, known by its
bus and sequence number, which frame it arrived in, as which of its members,
and in which chain.  The record is never read by the server.  The number and
the position kept in a slot stand for a chain as long as no member is tagged
like a request of another frame or of another bus.
-/

namespace CppRcp.Mock

open CppRcp.Foundation CppRcp.Acf CppRcp.Request CppRcp.E2e CppRcp.Regmap
open CppRcp.Server

/-! ## The record -/

/-- A member of a frame.  The chain is the number of the member that starts
it, counted from 1, and 0 before any does. -/
structure Origin where
  frame : Nat
  chain : Nat
  member : Nat
  deriving DecidableEq, Repr

abbrev Origins := Bus → Nat → Option Origin

def startsChain (member : Octets) : Bool :=
  (peekMember member).isSome && !(decodeChainedMember member).isOk

def chainAt (members : List Octets) : Nat :=
  members.zipIdx.foldl
    (fun chain input => if startsChain input.1 then input.2 + 1 else chain) 0

def noteOrigins (before after : Server) (origin : Origin)
    (origins : Origins) : Origins :=
  fun bus sequence =>
    if (before.admission bus).nextSequence ≤ sequence ∧
        sequence < (after.admission bus).nextSequence then some origin
    else origins bus sequence

/-- A server with the number of frames taken so far and the origins of its
requests. -/
structure Tracked where
  server : Server := {}
  frames : Nat := 0
  origins : Origins := fun _ _ => none

/-- A frame on its way through the member loop. -/
structure FrameRun where
  server : Server
  dispatchMember : DispatchMember
  members : List Octets

/-- The member loop that an operation runs, if it runs one. -/
def frameRun (server : Server) : Op → Option FrameRun
  | .dispatchFrame streamId frame =>
      some ⟨server, fun server member =>
        server.decodeAndDispatch streamId member, frameMembers frame⟩
  | .dispatchFrameE2e streamId sequenceNum frame =>
      if (splitFrameMembers frame).length = 0 then none
      else
        match server.seqGateAdmits streamId sequenceNum with
        | (_, false) => none
        | (server, true) =>
            some ⟨server, fun server member =>
              server.dispatchE2eFragmentCore streamId sequenceNum member
                false, frameMembers frame⟩
  | _ => none

namespace FrameRun

variable (r : FrameRun)

def loop (index : Nat) : FrameLoop :=
  loopBefore r.dispatchMember r.server r.members index

def originsAt (frame : Nat) (origins : Origins) : Nat → Origins
  | 0 => origins
  | index + 1 =>
      noteOrigins (r.loop index).server (r.loop (index + 1)).server
        ⟨frame, chainAt (r.members.take (index + 1)), index⟩
        (originsAt frame origins index)

/-- The tracked server before the member at an index, the frame itself being
counted. -/
def trackedAt (t : Tracked) (index : Nat) : Tracked :=
  ⟨(r.loop index).server, t.frames + 1,
    r.originsAt t.frames t.origins index⟩

end FrameRun

def Tracked.step (t : Tracked) (op : Op) : Tracked :=
  match frameRun t.server op with
  | none => { t with server := (t.server.step op).1 }
  | some r => r.trackedAt t r.members.length

def trackedAfter (ops : List Op) : Tracked := ops.foldl Tracked.step {}

private theorem server_trackedStep (t : Tracked) (op : Op) :
    (t.step op).server = (t.server.step op).1 := by
  have hWhole : ∀ (dispatchMember : DispatchMember) (server : Server)
      (frame : Octets),
      (loopBefore dispatchMember server (frameMembers frame)
        (frameMembers frame).length).server =
          (dispatchFrameImpl dispatchMember server frame).1 := by
    intro dispatchMember server frame
    unfold loopBefore dispatchFrameImpl
    rw [List.take_of_length_le (by simp)]
  unfold Tracked.step
  cases op with
  | dispatchFrame streamId frame => exact hWhole _ _ _
  | dispatchFrameE2e streamId sequenceNum frame =>
      simp only [frameRun, Server.step, Server.dispatchFrameE2e]
      by_cases hEmpty : (splitFrameMembers frame).length = 0
      · simp [hEmpty]
      · simp only [hEmpty, if_false]
        cases hGate : t.server.seqGateAdmits streamId sequenceNum with
        | mk server admits =>
            cases admits with
            | false => rfl
            | true => exact hWhole _ _ _
  | _ => rfl

theorem trackedAfter_append (ops : List Op) (op : Op) :
    trackedAfter (ops ++ [op]) = (trackedAfter ops).step op := by
  rw [trackedAfter, List.foldl_append]
  rfl

theorem server_trackedAfter (ops : List Op) :
    (trackedAfter ops).server = (run Server.step {} ops).1 := by
  induction ops using List.reverseRecOn with
  | nil => rfl
  | append_singleton ops op ih =>
      rw [trackedAfter_append, server_trackedStep, run_append, ih]
      rfl

/-! ## Chains by their numbers -/

/-- Both arrived in one frame and as members of one chain, the second
later. -/
def LaterInChain (first second : Option Origin) : Prop :=
  ∃ o o', first = some o ∧ second = some o' ∧ o.frame = o'.frame ∧
    o.chain = o'.chain ∧ o.member < o'.member

/-- What `cancel_chain_from` goes by. -/
def Cascades (bus : Bus) (found : PendingRequest) (other : Bus)
    (later : PendingRequest) : Prop :=
  other = bus ∧ found.chainGroup ≠ 0 ∧
    later.chainGroup = found.chainGroup ∧
    found.chainPosition ≤ later.chainPosition

namespace Tracked

def Stored (t : Tracked) (bus : Bus) (index : Nat) (found : PendingRequest) :
    Prop :=
  (t.server.admission bus).slots.pending index = some found

def Agree (t : Tracked) (bus : Bus) (found : PendingRequest) (other : Bus)
    (later : PendingRequest) : Prop :=
  Cascades bus found other later ↔
    LaterInChain (t.origins bus found.sequence)
      (t.origins other later.sequence)

/-- The record is about the stored requests, and the slots agree with it. -/
structure Sound (t : Tracked) : Prop where
  numbered : Numbered t.server
  fresh : ∀ bus sequence,
    (t.server.admission bus).nextSequence ≤ sequence →
      t.origins bus sequence = none
  earlier : ∀ bus sequence origin,
    t.origins bus sequence = some origin → origin.frame < t.frames
  group : ∀ bus index found, t.Stored bus index found →
    found.chainGroup = (t.origins bus found.sequence).elim 0 Origin.chain
  exact : ∀ bus index found other index' later,
    t.Stored bus index found → t.Stored other index' later →
      (bus, index) ≠ (other, index') → t.Agree bus found other later

private theorem pending_start (bus : Bus) (index : Nat) :
    (({} : Server).admission bus).slots.pending index = none := by
  have hFresh : ({} : Server).admission bus = {} := by cases bus <;> rfl
  rw [hFresh]
  apply Option.eq_none_iff_forall_ne_some.mpr
  intro found hFound
  obtain ⟨hGet, hUse⟩ := Slots.pending_eq_some.mp hFound
  rw [List.eq_of_mem_replicate (List.mem_of_getElem? hGet)] at hUse
  cases hUse

theorem not_stored_start (bus : Bus) (index : Nat) (found : PendingRequest) :
    ¬Stored {} bus index found := by
  unfold Stored
  rw [pending_start]
  simp

theorem sound_start : Sound {} where
  numbered := fun bus index found hFound =>
    absurd hFound (not_stored_start bus index found)
  fresh := fun _ _ _ => rfl
  earlier := by
    intro bus sequence origin hOrigin
    cases hOrigin
  group := fun bus index found hFound =>
    absurd hFound (not_stored_start bus index found)
  exact := fun bus index found _ _ _ hFound =>
    absurd hFound (not_stored_start bus index found)

theorem Agree.of_same {t t' : Tracked} {bus other : Bus}
    {found found' later later' : PendingRequest}
    (h : t.Agree bus found other later)
    (hFound : SameRequest found found') (hLater : SameRequest later later')
    (hOrigin : t'.origins bus found.sequence = t.origins bus found.sequence)
    (hOther : t'.origins other later.sequence =
      t.origins other later.sequence) :
    t'.Agree bus found' other later' := by
  unfold Agree Cascades at *
  rw [hFound.chainGroup, hFound.chainPosition, hFound.sequence,
    hLater.chainGroup, hLater.chainPosition, hLater.sequence, hOrigin, hOther]
  exact h

theorem Sound.grow {t t' : Tracked} (h : t.Sound)
    (New : Bus → Nat → PendingRequest → Prop)
    (hOrigins : ∀ bus sequence,
      sequence < (t.server.admission bus).nextSequence →
        t'.origins bus sequence = t.origins bus sequence)
    (hNext : ∀ bus, (t.server.admission bus).nextSequence ≤
      (t'.server.admission bus).nextSequence)
    (hFresh : ∀ bus sequence,
      (t'.server.admission bus).nextSequence ≤ sequence →
        t'.origins bus sequence = none)
    (hEarlier : ∀ bus sequence origin,
      t'.origins bus sequence = some origin → origin.frame < t'.frames)
    (hStored : ∀ bus index found, t'.Stored bus index found →
      New bus index found ∨
        ∃ old, t.Stored bus index old ∧ SameRequest old found)
    (hNumbered : ∀ bus index found, New bus index found →
      found.sequence < (t'.server.admission bus).nextSequence)
    (hGroup : ∀ bus index found, New bus index found →
      found.chainGroup = (t'.origins bus found.sequence).elim 0 Origin.chain)
    (hExact : ∀ bus index found other index' later,
      t'.Stored bus index found → t'.Stored other index' later →
        (bus, index) ≠ (other, index') →
          New bus index found ∨ New other index' later →
            t'.Agree bus found other later) :
    t'.Sound := by
  have hKept : ∀ bus index old found, t.Stored bus index old →
      SameRequest old found →
        t'.origins bus old.sequence = t.origins bus old.sequence :=
    fun bus index old _ hOld _ =>
      hOrigins bus _ (h.numbered bus index old hOld)
  refine ⟨?_, hFresh, hEarlier, ?_, ?_⟩
  · intro bus index found hFound
    rcases hStored bus index found hFound with hNew | ⟨old, hOld, hSame⟩
    · exact hNumbered bus index found hNew
    · rw [hSame.sequence]
      exact (h.numbered bus index old hOld).trans_le (hNext bus)
  · intro bus index found hFound
    rcases hStored bus index found hFound with hNew | ⟨old, hOld, hSame⟩
    · exact hGroup bus index found hNew
    · rw [hSame.chainGroup, hSame.sequence, hKept bus index old found hOld
        hSame]
      exact h.group bus index old hOld
  · intro bus index found other index' later hFound hLater hNe
    rcases hStored bus index found hFound with hNew | ⟨old, hOld, hSame⟩
    · exact hExact _ _ _ _ _ _ hFound hLater hNe (.inl hNew)
    · rcases hStored other index' later hLater with
        hNew | ⟨old', hOld', hSame'⟩
      · exact hExact _ _ _ _ _ _ hFound hLater hNe (.inr hNew)
      · exact (h.exact bus index old other index' old' hOld hOld' hNe).of_same
          hSame hSame' (hKept bus index old found hOld hSame)
          (hKept other index' old' later hOld' hSame')

/-! ## Outside the member loop -/

theorem Sound.of_admissions {t t' : Tracked} (h : t.Sound)
    (hServer : t'.server.admissions = t.server.admissions)
    (hOrigins : t'.origins = t.origins) (hFrames : t.frames ≤ t'.frames) :
    t'.Sound := by
  have hAt : ∀ bus, t'.server.admission bus = t.server.admission bus :=
    fun bus => by rw [Server.admission, Server.admission, hServer]
  refine h.grow (fun _ _ _ => False) ?_ ?_ ?_ ?_ ?_ ?_ ?_ ?_
  · intro bus sequence _
    rw [hOrigins]
  · intro bus
    rw [hAt]
  · intro bus sequence hSequence
    rw [hAt] at hSequence
    rw [hOrigins]
    exact h.fresh bus sequence hSequence
  · intro bus sequence origin hOrigin
    rw [hOrigins] at hOrigin
    exact (h.earlier bus sequence origin hOrigin).trans_le hFrames
  · intro bus index found hFound
    unfold Stored at hFound
    rw [hAt] at hFound
    exact .inr ⟨found, hFound, .refl found⟩
  · exact fun _ _ _ hNew => hNew.elim
  · exact fun _ _ _ hNew => hNew.elim
  · exact fun _ _ _ _ _ _ _ _ _ hNew => hNew.elim False.elim False.elim

theorem Sound.plain {t t' : Tracked} (h : t.Sound)
    (hStores : ∀ bus, StoreEffect (t.server.admission bus)
      (t'.server.admission bus))
    (hOrigins : t'.origins = t.origins) (hFrames : t'.frames = t.frames) :
    t'.Sound := by
  have hNext : ∀ bus, (t.server.admission bus).nextSequence ≤
      (t'.server.admission bus).nextSequence := by
    intro bus
    have hBus := hStores bus
    revert hBus
    generalize t'.server.admission bus = ep'
    intro hBus
    cases hBus with
    | retained hRetains => exact hRetains.nextSequence
    | stored hFree hUse hSequence hGroup => exact Nat.le_succ _
  refine h.grow (fun bus index found => t'.Stored bus index found ∧
    found.chainGroup = 0 ∧ t.origins bus found.sequence = none ∧
      found.sequence < (t'.server.admission bus).nextSequence)
    ?_ hNext ?_ ?_ ?_ ?_ ?_ ?_
  · intro bus sequence _
    rw [hOrigins]
  · intro bus sequence hSequence
    rw [hOrigins]
    exact h.fresh bus sequence ((hNext bus).trans hSequence)
  · intro bus sequence origin hOrigin
    rw [hOrigins] at hOrigin
    rw [hFrames]
    exact h.earlier bus sequence origin hOrigin
  · intro bus index found hFound
    have hBus := hStores bus
    have hPending := hFound
    unfold Stored at hPending
    revert hBus hPending
    generalize t'.server.admission bus = ep'
    intro hBus hPending
    cases hBus with
    | retained hRetains => exact .inr (hRetains.pending index found hPending)
    | @stored free count slot hFree hUse hSequence hGroup =>
        rcases pending_set_cases hPending with ⟨rfl, rfl, -⟩ | ⟨-, hOld⟩
        · refine .inl ⟨hFound, hGroup, h.fresh bus _ hSequence.ge, ?_⟩
          rw [hSequence]
          exact Nat.lt_succ_self _
        · exact .inr ⟨found, hOld, .refl found⟩
  · exact fun _ _ _ hNew => hNew.2.2.2
  · intro bus index found hNew
    rw [hOrigins, hNew.2.1, hNew.2.2.1]
    rfl
  · intro bus index found other index' later hFound hLater hNe hNew
    refine iff_of_false ?_ ?_
    · rintro ⟨rfl, hChained, hSame, -⟩
      rcases hNew with hNew | hNew
      · exact hChained hNew.2.1
      · exact hChained (hSame.symm.trans hNew.2.1)
    · rintro ⟨o, o', ho, ho', -⟩
      rw [hOrigins] at ho ho'
      rcases hNew with hNew | hNew
      · rw [hNew.2.2.1] at ho
        cases ho
      · rw [hNew.2.2.1] at ho'
        cases ho'

end Tracked

/-! ## The variables of the loop -/

private theorem chainAt_append (members : List Octets) (member : Octets) :
    chainAt (members ++ [member]) =
      if startsChain member then members.length + 1 else chainAt members := by
  simp [chainAt, List.zipIdx_append]

theorem chainAt_take_succ {members : List Octets} {index : Nat}
    {member : Octets} (h : members[index]? = some member) :
    chainAt (members.take (index + 1)) =
      if startsChain member then index + 1
      else chainAt (members.take index) := by
  obtain ⟨hBound, hGet⟩ := List.getElem?_eq_some_iff.mp h
  rw [List.take_succ_eq_append_getElem hBound, hGet, chainAt_append,
    List.length_take_of_le hBound.le]

theorem chainAt_le_length (members : List Octets) :
    chainAt members ≤ members.length := by
  induction members using List.reverseRecOn with
  | nil => exact le_rfl
  | append_singleton members member ih =>
      rw [chainAt_append, List.length_append]
      split
      · exact le_rfl
      · exact ih.trans (Nat.le_succ _)

theorem counters_stepMember (dispatchMember : DispatchMember)
    (state : FrameLoop) (input : Octets × Nat) :
    let next := (stepMember dispatchMember state input).1
    next.chainGroup =
        (if startsChain input.1 then input.2 + 1 else state.chainGroup) ∧
      (startsChain input.1 = false →
        state.chainPosition ≤ next.chainPosition ∧
          (next.server ≠ state.server →
            state.chainPosition < next.chainPosition)) := by
  have hTurn := turn_stepMember dispatchMember state input
  revert hTurn
  generalize stepMember dispatchMember state input = out
  intro hTurn
  cases hTurn with
  | undecodable hPeek => simp [startsChain, hPeek]
  | anchor hPeek hAnchor =>
      simp [startsChain, hPeek, hAnchor, dispatchAt, Except.isOk,
        Except.toBool]
  | orphan hPeek hChained hFirst =>
      simp [startsChain, hPeek, hChained, refuseChained, Except.isOk,
        Except.toBool]
  | aborted hPeek hChained hLater hAbort =>
      simp [startsChain, hPeek, hChained, refuseChained, Except.isOk,
        Except.toBool]
  | follower hPeek hChained hLater hLatch hContinue =>
      simp [startsChain, hPeek, hChained, dispatchAt, Except.isOk,
        Except.toBool]

/-! ## One turn -/

structure Newcomer (before after : Server) (target : Option Bus)
    (group position : Nat) (bus : Bus) (found : PendingRequest) : Prop where
  target : target = some bus
  sequence : found.sequence = (before.admission bus).nextSequence
  group : found.chainGroup = group
  position : found.chainPosition = position
  next : (after.admission bus).nextSequence =
    (before.admission bus).nextSequence + 1
  grown : (before.admission bus).pendingCount <
    (after.admission bus).pendingCount

theorem Newcomer.changed {before after : Server} {target : Option Bus}
    {group position : Nat} {bus : Bus} {found : PendingRequest}
    (h : Newcomer before after target group position bus found) :
    after ≠ before := by
  rintro rfl
  exact absurd h.grown (Nat.lt_irrefl _)

theorem TurnEffect.places {before after : Server} {target : Option Bus}
    {group position : Nat}
    (h : TurnEffect before target group position after) :
    (∀ bus, (before.admission bus).nextSequence ≤
        (after.admission bus).nextSequence) ∧
      ∃ place : Option (Bus × Nat), ∀ bus index found,
        (after.admission bus).slots.pending index = some found →
          (place = some (bus, index) ∧
              Newcomer before after target group position bus found) ∨
            ∃ old, (before.admission bus).slots.pending index = some old ∧
              SameRequest old found := by
  cases h with
  | retained h =>
      refine ⟨fun bus => (h bus).nextSequence, none, ?_⟩
      intro bus index found hFound
      exact .inr ((h bus).pending index found hFound)
  | @stored bus index hTarget hNext hCount hPending hOther =>
      constructor
      · intro other
        by_cases hBus : bus = other
        · subst hBus
          rw [hNext]
          exact Nat.le_succ _
        · rw [hOther other hBus]
      · refine ⟨some (bus, index), ?_⟩
        intro other i found hFound
        by_cases hBus : bus = other
        · subst hBus
          rcases hPending i found hFound with
            ⟨rfl, hSequence, hGroup, hPosition⟩ | ⟨-, hOld⟩
          · exact .inl ⟨rfl, hTarget, hSequence, hGroup, hPosition, hNext,
              hCount⟩
          · exact .inr ⟨found, hOld, .refl found⟩
        · rw [hOther other hBus] at hFound
          exact .inr ⟨found, hFound, .refl found⟩

section NoteOrigins

variable {before after : Server} {origin : Origin} {origins : Origins}
  {bus : Bus} {sequence : Nat}

theorem noteOrigins_old
    (h : sequence < (before.admission bus).nextSequence) :
    noteOrigins before after origin origins bus sequence =
      origins bus sequence := by
  unfold noteOrigins
  rw [if_neg (fun hNew => absurd hNew.1 (Nat.not_le.mpr h))]

theorem noteOrigins_new
    (h : (after.admission bus).nextSequence =
      (before.admission bus).nextSequence + 1) :
    noteOrigins before after origin origins bus
      (before.admission bus).nextSequence = some origin := by
  unfold noteOrigins
  rw [h, if_pos ⟨le_rfl, Nat.lt_succ_self _⟩]

theorem noteOrigins_unused
    (h : (after.admission bus).nextSequence ≤ sequence) :
    noteOrigins before after origin origins bus sequence =
      origins bus sequence := by
  unfold noteOrigins
  rw [if_neg (fun hNew => absurd hNew.2 (Nat.not_lt.mpr h))]

theorem noteOrigins_cases {found : Origin}
    (h : noteOrigins before after origin origins bus sequence = some found) :
    found = origin ∨ origins bus sequence = some found := by
  unfold noteOrigins at h
  split at h
  · exact .inl (Option.some_inj.mp h).symm
  · exact .inr h

end NoteOrigins

end CppRcp.Mock
