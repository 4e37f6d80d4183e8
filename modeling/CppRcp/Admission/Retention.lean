import CppRcp.Admission.Effects

/-!
# What an endpoint still stores

Apart from one newly stored request, whatever an endpoint stores after an
operation it stored before, in the same slot.  Sequence numbers are used up
even where nothing is stored in the end.
-/

namespace CppRcp.Server

open CppRcp.Foundation CppRcp.Acf CppRcp.Request

structure Retains (ep ep' : Endpoint) : Prop where
  nextSequence : ep.nextSequence ≤ ep'.nextSequence
  pending : ∀ index slot', ep'.slots.pending index = some slot' →
    ∃ slot, ep.slots.pending index = some slot ∧ SameRequest slot slot'

theorem Inherits.retains {ep ep' : Endpoint} (h : Inherits ep ep') :
    Retains ep ep' :=
  ⟨h.nextSequence.ge, h.pending⟩

theorem Retains.refl (ep : Endpoint) : Retains ep ep :=
  (SameStore.refl ep).inherits.retains

theorem SameRequest.trans {a b c : PendingRequest} (hab : SameRequest a b)
    (hbc : SameRequest b c) : SameRequest a c :=
  ⟨hbc.frame.trans hab.frame, hbc.transactionNum.trans hab.transactionNum,
    hbc.sequence.trans hab.sequence, hbc.chainGroup.trans hab.chainGroup,
    hbc.chainPosition.trans hab.chainPosition⟩

theorem Retains.trans {a b c : Endpoint} (hab : Retains a b)
    (hbc : Retains b c) : Retains a c := by
  refine ⟨hab.nextSequence.trans hbc.nextSequence, ?_⟩
  intro index slot' hPending
  obtain ⟨slot, hSlot, hSame⟩ := hbc.pending index slot' hPending
  obtain ⟨first, hFirst, hFirstSame⟩ := hab.pending index slot hSlot
  exact ⟨first, hFirst, hFirstSame.trans hSame⟩

theorem Retains.sequence_lt {ep ep' : Endpoint} (h : Retains ep ep')
    (hBelow : ∀ i found, ep.slots.pending i = some found →
      found.sequence < ep.nextSequence) {i : Nat} {found : PendingRequest}
    (hFound : ep'.slots.pending i = some found) :
    found.sequence < ep.nextSequence := by
  obtain ⟨slot, hSlot, hSame⟩ := h.pending i found hFound
  rw [hSame.sequence]
  exact hBelow i slot hSlot

theorem retains_discarded {ep : Endpoint} {index : Nat} (count : Nat) :
    Retains ep (overwritten ep index {} count) := by
  refine ⟨Nat.le_succ _, ?_⟩
  intro other found hFound
  exact ⟨found, pending_of_set_default hFound, .refl found⟩

/-! ## One operation -/

/-- What an operation makes of an endpoint's store: at most one request more,
which belongs to no chain. -/
inductive StoreEffect (ep : Endpoint) : Endpoint → Prop
  | retained {ep' : Endpoint} (h : Retains ep ep') : StoreEffect ep ep'
  | stored {index count : Nat} {slot : PendingRequest}
      (hFree : ep.slots.firstFree = some index)
      (hUse : slot.inUse = true)
      (hSequence : slot.sequence = ep.nextSequence)
      (hGroup : slot.chainGroup = 0) :
      StoreEffect ep (overwritten ep index slot count)

theorem AdmitEffect.storeEffect {ep ep' : Endpoint} {frame : Octets}
    {tv : Bool} {result : AdmitResult}
    (h : AdmitEffect ep frame tv ep' result) : StoreEffect ep ep' := by
  cases h with
  | kept hStore hOutcome => exact .retained hStore.inherits.retains
  | discarded hFree hOutcome => exact .retained (retains_discarded _)
  | stored hFree hSlot hOutcome =>
      exact .stored hFree hSlot.inUse hSlot.sequence hSlot.chainGroup

theorem storeEffect_endpointStep (ep : Endpoint) (op : EndpointOp)
    (hTag : ∀ index group position, op ≠ .tagChain index group position) :
    StoreEffect ep (ep.step op).1 := by
  by_cases hAdmit : ∃ frame now tv ts gptp,
      op = .admitWithAck frame now tv ts gptp
  · obtain ⟨frame, now, tv, ts, gptp, rfl⟩ := hAdmit
    exact (admitWithAck_effect ep frame now tv ts gptp).storeEffect
  · push Not at hAdmit
    exact .retained (inherits_step ep op hAdmit hTag).retains

theorem StoreEffect.nextSequence {ep ep' : Endpoint}
    (h : StoreEffect ep ep') : ep.nextSequence ≤ ep'.nextSequence := by
  cases h with
  | retained h => exact h.nextSequence
  | stored hFree hUse hSequence hGroup => exact Nat.le_succ _

theorem nextSequence_step (ep : Endpoint) (op : EndpointOp) :
    ep.nextSequence ≤ (ep.step op).1.nextSequence := by
  by_cases hTag : ∃ index group position, op = .tagChain index group position
  · obtain ⟨index, group, position, rfl⟩ := hTag
    simp only [Endpoint.step, Endpoint.tagChain]
    cases ep.slots.pending index with
    | none => exact le_rfl
    | some slot => exact le_rfl
  · push Not at hTag
    exact (storeEffect_endpointStep ep op hTag).nextSequence

end CppRcp.Server
