import CppRcp.Mock.ReadyMembers

/-!
# What stays recorded of a frame

Beside every run the record of origins is sound: a stored request was numbered,
and an origin is recorded only of a number given out and of a frame already
taken.  So what is known of a request when its frame stores it is known as long
as it is stored.
-/

namespace CppRcp.Mock

open CppRcp.Foundation CppRcp.Acf CppRcp.Request CppRcp.E2e CppRcp.Regmap
open CppRcp.Server

theorem BusSteps.nextSequence {P : EndpointOp → Prop}
    {server server' : Server} (h : BusSteps P server server') (bus : Bus) :
    (server.admission bus).nextSequence ≤
      (server'.admission bus).nextSequence :=
  Steps.relates
    (R := fun ep ep' : Endpoint => ep.nextSequence ≤ ep'.nextSequence)
    (fun _ => le_rfl) (fun _ _ _ => Nat.le_trans)
    (fun ep op _ => nextSequence_step ep op) (h bus)

namespace Tracked

/-! ## How the record grows -/

/-- The buses get on by operations of one kind, and the record grows by origins
of one kind, for the numbers given out meanwhile. -/
structure Grows (P : EndpointOp → Prop) (New : Origin → Prop)
    (t t' : Tracked) : Prop where
  steps : BusSteps P t.server t'.server
  frames : t.frames ≤ t'.frames
  old : ∀ bus sequence, sequence < (t.server.admission bus).nextSequence →
    t'.origins bus sequence = t.origins bus sequence
  unused : ∀ bus sequence,
    (t'.server.admission bus).nextSequence ≤ sequence →
      t'.origins bus sequence = t.origins bus sequence
  new : ∀ bus sequence origin, t'.origins bus sequence = some origin →
    t.origins bus sequence = some origin ∨
      New origin ∧ origin.frame < t'.frames

namespace Grows

variable {P : EndpointOp → Prop} {New : Origin → Prop} {a b c : Tracked}

private theorem outside (hSteps : BusSteps P a.server b.server)
    (hFrames : a.frames ≤ b.frames) (hOrigins : b.origins = a.origins) :
    Grows P New a b where
  steps := hSteps
  frames := hFrames
  old := fun _ _ _ => by rw [hOrigins]
  unused := fun _ _ _ => by rw [hOrigins]
  new := by
    intro bus sequence origin hOrigin
    rw [hOrigins] at hOrigin
    exact .inl hOrigin

theorem trans (hab : Grows P New a b) (hbc : Grows P New b c) :
    Grows P New a c where
  steps := hab.steps.trans hbc.steps
  frames := hab.frames.trans hbc.frames
  old := by
    intro bus sequence hLt
    rw [hbc.old bus sequence (hLt.trans_le (hab.steps.nextSequence bus)),
      hab.old bus sequence hLt]
  unused := by
    intro bus sequence hLe
    rw [hbc.unused bus sequence hLe,
      hab.unused bus sequence ((hbc.steps.nextSequence bus).trans hLe)]
  new := by
    intro bus sequence origin hOrigin
    rcases hbc.new bus sequence origin hOrigin with hOld | hNew
    · rcases hab.new bus sequence origin hOld with hOlder | ⟨hNew, hFrame⟩
      · exact .inl hOlder
      · exact .inr ⟨hNew, hFrame.trans_le hbc.frames⟩
    · exact .inr hNew

end Grows

/-! ## Turns and steps -/

section Frame

variable {r : FrameRun} (hDelivers : DeliversMember r.dispatchMember)
  (t : Tracked)

include hDelivers

theorem grows_turn {index : Nat} {member : Octets}
    (hMember : r.members[index]? = some member) :
    Grows SignalsAtStart
      (fun origin => origin.frame = t.frames ∧ origin.member = index)
      (r.trackedAt t index) (r.trackedAt t (index + 1)) where
  steps := by
    have hNext : r.loop (index + 1) =
        (stepMember r.dispatchMember (r.loop index) (member, index)).1 :=
      loopBefore_succ _ _ hMember
    change BusSteps SignalsAtStart (r.loop index).server
      (r.loop (index + 1)).server
    rw [hNext]
    exact busSteps_stepMember hDelivers.busSteps _ _
  frames := le_rfl
  old := fun _ _ hLt => noteOrigins_old hLt
  unused := fun _ _ hLe => noteOrigins_unused hLe
  new := by
    intro bus sequence origin hOrigin
    rcases noteOrigins_cases hOrigin with rfl | hOld
    · exact .inr ⟨⟨rfl, rfl⟩, Nat.lt_succ_self _⟩
    · exact .inl hOld

theorem grows_trackedAt (hServer : r.server.admissions = t.server.admissions)
    {index : Nat} (hIndex : index ≤ r.members.length) :
    Grows SignalsAtStart (fun origin => t.frames ≤ origin.frame) t
      (r.trackedAt t index) := by
  induction index with
  | zero =>
      exact .outside (.of_admissions hServer) (Nat.le_succ _) rfl
  | succ index ih =>
      have hMember : r.members[index]? = some r.members[index] :=
        List.getElem?_eq_getElem hIndex
      have hTurn := grows_turn hDelivers t hMember
      refine (ih (Nat.le_of_succ_le hIndex)).trans
        ⟨hTurn.steps, hTurn.frames, hTurn.old, hTurn.unused, ?_⟩
      intro bus sequence origin hOrigin
      rcases hTurn.new bus sequence origin hOrigin with
        hOld | ⟨⟨hFrame, -⟩, hLt⟩
      · exact .inl hOld
      · exact .inr ⟨hFrame.ge, hLt⟩

end Frame

theorem frameRun_delivers {server : Server} {op : Op} {r : FrameRun}
    (h : frameRun server op = some r) :
    r.server.admissions = server.admissions ∧
      DeliversMember r.dispatchMember := by
  cases op with
  | dispatchFrame streamId frame =>
      cases h
      exact ⟨rfl, fun server member =>
        (server.delivery_decodeAndDispatch streamId member).delivers⟩
  | dispatchFrameE2e streamId sequenceNum frame =>
      have hAdmissions := server.admissions_seqGateAdmits streamId sequenceNum
      simp only [frameRun] at h
      split at h
      · cases h
      · rcases hGate : server.seqGateAdmits streamId sequenceNum with
          ⟨gated, _ | _⟩
        · rw [hGate] at h
          cases h
        · rw [hGate] at h hAdmissions
          cases h
          exact ⟨hAdmissions, fun server member =>
            (server.delivery_dispatchE2eFragmentCore streamId sequenceNum
              member false).delivers⟩
  | _ => cases h

theorem grows_step {P : EndpointOp → Prop}
    (hSignals : ∀ op, SignalsAtStart op → P op) (t : Tracked) {op : Op}
    (hSteps : BusSteps P t.server (t.server.step op).1) :
    Grows P (fun origin => t.frames ≤ origin.frame) t (t.step op) := by
  unfold Tracked.step
  cases hRun : frameRun t.server op with
  | none => exact .outside hSteps le_rfl rfl
  | some r =>
      obtain ⟨hServer, hDelivers⟩ := frameRun_delivers hRun
      have hGrows := grows_trackedAt hDelivers t hServer (le_refl _)
      exact ⟨hGrows.steps.mono hSignals, hGrows.frames, hGrows.old,
        hGrows.unused, hGrows.new⟩

/-! ## The record is sound in every run -/

structure Recorded (t : Tracked) : Prop where
  stores : ∀ bus, StoreInvariant (t.server.admission bus)
  fresh : ∀ bus sequence, (t.server.admission bus).nextSequence ≤ sequence →
    t.origins bus sequence = none
  earlier : ∀ bus sequence origin,
    t.origins bus sequence = some origin → origin.frame < t.frames

private theorem recorded_start : Recorded {} where
  stores := by
    intro bus
    have hFresh : ({} : Server).admission bus = {} := by cases bus <;> rfl
    change StoreInvariant (({} : Server).admission bus)
    rw [hFresh]
    exact storeInvariant_fresh
  fresh := fun _ _ _ => rfl
  earlier := by
    intro bus sequence origin hOrigin
    cases hOrigin

theorem Recorded.numbered {t : Tracked} (h : t.Recorded) :
    Numbered t.server :=
  fun bus index found hFound => (h.stores bus).sequence_lt index found hFound

theorem Recorded.grow {P : EndpointOp → Prop} {New : Origin → Prop}
    {t t' : Tracked} (h : t.Recorded) (hGrows : Grows P New t t') :
    t'.Recorded := by
  refine ⟨fun bus => hGrows.steps.storeInvariant (h.stores bus), ?_, ?_⟩
  · intro bus sequence hSequence
    rw [hGrows.unused bus sequence hSequence]
    exact h.fresh bus sequence ((hGrows.steps.nextSequence bus).trans hSequence)
  · intro bus sequence origin hOrigin
    rcases hGrows.new bus sequence origin hOrigin with hOld | ⟨-, hFrame⟩
    · exact (h.earlier bus sequence origin hOld).trans_le hGrows.frames
    · exact hFrame

theorem recorded_trackedAfter (ops : List Op) : (trackedAfter ops).Recorded := by
  induction ops using List.reverseRecOn with
  | nil => exact recorded_start
  | append_singleton ops op ih =>
      rw [trackedAfter_append]
      exact ih.grow (grows_step (fun _ _ => trivial) _
        (Server.busSteps_any _ op))

end Tracked

end CppRcp.Mock
