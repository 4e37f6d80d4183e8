import CppRcp.Foundation.Pool
import CppRcp.Foundation.Ownership
import CppRcp.Foundation.SlotTable
import CppRcp.Host.Loan

/-!
# Who has a buffer

The free list and the calls with their loans own the buffers that are live,
each one once.  A step of a call moves a buffer between the two, takes one
that was not live, or deletes the one it gives back.  What a call hands out
is zeroed to the size that it was made with, and the steps of a call that
fails leave the pool as it is.
-/

namespace CppRcp.Host.Loan

open CppRcp.Foundation

/-! ## The pool alone -/

namespace Pool

variable {pool : Pool}

def live (pool : Pool) (raw : Buffer) : Prop := (pool.heap raw).isSome

@[simp] theorem heap_search (size : Nat) :
    (pool.search size).1.heap = pool.heap := by
  simp only [search]
  split <;> rfl

private theorem search_eq_of_none {size : Nat}
    (h : (pool.search size).2 = none) :
    (pool.search size).1 = pool := by
  simp only [search] at h ⊢
  split
  · rfl
  · next i hFound =>
      rw [hFound] at h
      have hi : i < pool.impl.entries.length :=
        (List.findIdx?_eq_some_iff_getElem.mp hFound).1
      simp [List.getElem?_eq_getElem hi] at h

private theorem perm_search (size : Nat) :
    ((pool.search size).2.toList ++ (pool.search size).1.impl.entries).Perm
      pool.impl.entries := by
  simp only [search]
  split
  · exact List.Perm.refl _
  · next i hFound =>
      have hi : i < pool.impl.entries.length :=
        (List.findIdx?_eq_some_iff_getElem.mp hFound).1
      have hLast : pool.impl.entries.getLast? =
          some (pool.impl.entries.getLastD 0) := by
        rw [List.getLast?_eq_some_getLast (by rintro hNil; simp [hNil] at hi),
          List.getLastD_eq_getLast?,
          List.getLast?_eq_some_getLast (by rintro hNil; simp [hNil] at hi)]
        rfl
      rw [List.getElem?_eq_getElem hi]
      exact ((perm_dropLast_set hi hLast).cons _).trans
        (List.getElem_cons_eraseIdx_perm hi)

private theorem accounted_release {buffer : Option Buffer} {rest : List Buffer}
    (h : Accounted pool.live
      (buffer.toList ++ (pool.impl.entries ++ rest))) :
    Accounted (pool.release buffer).live
      ((pool.release buffer).impl.entries ++ rest) := by
  cases buffer with
  | none => exact h
  | some raw =>
      simp only [release, giveBack]
      split
      · refine h.perm ?_
        simp only [Option.toList_some, List.append_assoc]
        exact (List.perm_append_comm_assoc [raw] _ _)
      · refine Accounted.free h fun other => ?_
        simp only [live, Option.toList_some, List.mem_singleton]
        by_cases hSame : other = raw
        · simp [hSame]
        · simp [hSame]

private theorem live_of_live_release {buffer : Option Buffer} {raw : Buffer}
    (h : (pool.release buffer).live raw) : pool.live raw := by
  cases buffer with
  | none => exact h
  | some given =>
      simp only [release, giveBack] at h
      split at h
      · exact h
      · by_cases hSame : raw = given
        · simp [live, hSame] at h
        · simpa [live, hSame] using h

private theorem accounted_tearDown {rest : List Buffer}
    (h : Accounted pool.live (pool.impl.entries ++ rest)) :
    Accounted pool.tearDown.live rest := by
  refine Accounted.free h fun raw => ?_
  simp only [live, tearDown]
  split <;> simp_all

end Pool

/-! ## The pool and the calls -/

namespace World

variable {world : World} {call : Nat} {old new : Stage}

def owned (world : World) : List Buffer :=
  world.pool.impl.entries ++ world.calls.filterMap Stage.held

abbrev heldByOthers (world : World) (call : Nat) : List Buffer :=
  others Stage.held world.calls call

structure Sound (world : World) : Prop where
  accounted : Accounted world.pool.live world.owned
  lt_next : ∀ raw, world.pool.live raw → raw < world.next

private theorem accounted_of_call (h : world.Sound)
    (hCall : world.calls[call]? = some old) :
    Accounted world.pool.live (old.held.toList ++
      (world.pool.impl.entries ++ world.heldByOthers call)) := by
  refine h.accounted.perm ?_
  refine ((filterMap_perm_others hCall).append_left _).trans ?_
  exact List.perm_append_comm_assoc ..

private theorem accounted_setCall {world' : World}
    (hCall : world.calls[call]? = some old)
    (hCalls : world'.calls = world.calls.set call new)
    (h : Accounted world'.pool.live (new.held.toList ++
      (world'.pool.impl.entries ++ world.heldByOthers call))) :
    Accounted world'.pool.live world'.owned := by
  refine h.perm ?_
  refine (List.perm_append_comm_assoc ..).trans ?_
  rw [owned, hCalls]
  exact (filterMap_set_perm_others hCall new).symm.append_left _

private theorem sound_collect (h : world.Sound) : world.collect.Sound := by
  unfold collect
  split
  · exact h
  · next hGone =>
      have hNone : world.calls.filterMap Stage.held = [] := by
        refine List.filterMap_eq_nil_iff.mpr fun stage hMem => ?_
        by_contra hHeld
        refine hGone ?_
        simp only [Bool.or_eq_true, List.any_eq_true]
        exact .inr ⟨stage, hMem, Option.isSome_iff_ne_none.mpr hHeld⟩
      refine ⟨?_, fun raw hLive => h.lt_next raw ?_⟩
      · exact Pool.accounted_tearDown h.accounted
      · simp only [Pool.live, Pool.tearDown] at hLive
        split at hLive
        · simp at hLive
        · exact hLive

private theorem sound_addCall (hHeld : new.held = none) (h : world.Sound) :
    (world.addCall new).Sound := by
  refine ⟨?_, h.lt_next⟩
  have hOwned : (world.addCall new).owned = world.owned := by
    simp [owned, addCall, hHeld]
  rw [hOwned]
  exact h.accounted

private theorem sound_setCall (hCall : world.calls[call]? = some old)
    (hHeld : new.held = old.held) (h : world.Sound) :
    (world.setCall call new).Sound := by
  refine ⟨accounted_setCall hCall rfl ?_, h.lt_next⟩
  rw [hHeld]
  exact accounted_of_call h hCall

private theorem sound_startLoan (size : Int) (h : world.Sound) :
    (world.startLoan size).1.Sound := by
  unfold startLoan
  split
  · exact h
  split
  · exact sound_addCall rfl h
  split
  · exact sound_addCall rfl h
  · exact sound_addCall rfl h

private theorem sound_search {size : Nat}
    (hCall : world.calls[call]? = some (.checked size)) (h : world.Sound) :
    ({ world with pool := (world.pool.search size).1 }.setCall call
      (.searched size (world.pool.search size).2)).Sound := by
  have hHeap := @Pool.heap_search world.pool size
  have hLive : (world.pool.search size).1.live = world.pool.live := by
    funext raw
    rw [Pool.live, Pool.live, hHeap]
  refine ⟨accounted_setCall hCall rfl ?_, ?_⟩
  · change Accounted (world.pool.search size).1.live
      ((world.pool.search size).2.toList ++
        ((world.pool.search size).1.impl.entries ++ world.heldByOthers call))
    rw [hLive, ← List.append_assoc]
    exact (accounted_of_call h hCall).perm
      ((Pool.perm_search size).symm.append_right _)
  · change ∀ raw, (world.pool.search size).1.live raw → raw < world.next
    rw [hLive]
    exact h.lt_next

private theorem sound_release {loan : Loan} (hHeld : new.held = none)
    (hCall : world.calls[call]? = some (.loaned loan)) (h : world.Sound) :
    ({ world with pool := world.pool.release loan.release }.setCall call
      new).collect.Sound := by
  refine sound_collect ⟨accounted_setCall hCall rfl ?_, fun raw hLive => ?_⟩
  · rw [hHeld]
    exact Pool.accounted_release (accounted_of_call h hCall)
  · exact h.lt_next raw (Pool.live_of_live_release hLive)

@[simp] theorem pool_shouldFail :
    (world.shouldFail).1.pool = world.pool := by
  unfold shouldFail
  split <;> rfl

@[simp] theorem calls_shouldFail :
    (world.shouldFail).1.calls = world.calls := by
  unfold shouldFail
  split <;> rfl

@[simp] theorem next_shouldFail :
    (world.shouldFail).1.next = world.next := by
  unfold shouldFail
  split <;> rfl

private theorem accounted_handOut {size raw : Nat}
    (hCall : world.calls[call]? = some old)
    (h : Accounted (fun other => other = raw ∨ world.pool.live other)
      (raw :: (world.pool.impl.entries ++ world.heldByOthers call))) :
    Accounted (world.handOut call size raw).1.pool.live
      (world.handOut call size raw).1.owned := by
  refine accounted_setCall hCall rfl ⟨h.nodup, fun other => ?_⟩
  refine Iff.trans ?_ (h.live_iff other)
  simp only [Pool.live, handOut, Function.update_apply]
  split <;> simp_all

private theorem sound_finishLoan {size : Nat} {raw : Option Buffer}
    (hCall : world.calls[call]? = some (.searched size raw))
    (h : world.Sound) : (world.finishLoan call size raw).1.Sound := by
  have hMine := accounted_of_call h hCall
  cases raw with
  | some raw =>
      have hLive : world.pool.live raw :=
        (hMine.live_iff raw).mpr (by simp [Stage.held])
      refine ⟨accounted_handOut hCall ?_, fun other hOther => ?_⟩
      · refine ⟨hMine.nodup, fun other => ?_⟩
        refine Iff.trans ?_ (hMine.live_iff other)
        exact ⟨fun hEither => hEither.elim (fun hSame => hSame ▸ hLive) id,
          .inr⟩
      · refine h.lt_next other ?_
        simp only [finishLoan, handOut, Pool.live, Function.update_apply]
          at hOther
        split at hOther
        · next hSame => exact hSame ▸ hLive
        · exact hOther
  | none =>
      have hFresh : ¬ world.pool.live world.next :=
        fun hLive => (h.lt_next _ hLive).false
      simp only [finishLoan]
      split
      · have hAsked : world.shouldFail.1.calls[call]? =
            some (.searched size none) := by rw [calls_shouldFail, hCall]
        refine sound_setCall hAsked rfl ?_
        · refine ⟨?_, ?_⟩
          · simpa [owned] using h.accounted
          · simpa using h.lt_next
      · have hAsked : world.shouldFail.1.calls[call]? =
            some (.searched size none) := by rw [calls_shouldFail, hCall]
        refine ⟨accounted_handOut hAsked ?_, fun other hOther => ?_⟩
        · simp only [pool_shouldFail, calls_shouldFail, heldByOthers]
          exact Accounted.allocate hMine hFresh fun _ => Iff.rfl
        · simp only [handOut, Pool.live, Function.update_apply,
            pool_shouldFail] at hOther ⊢
          split at hOther
          · next hSame => simp [hSame]
          · exact (h.lt_next other hOther).trans (Nat.lt_succ_self _)

private theorem sound_move {loan : Loan}
    (hCall : world.calls[call]? = some (.loaned loan)) (h : world.Sound) :
    ((world.setCall call (.loaned {})).addCall (.loaned loan)).Sound := by
  refine ⟨h.accounted.perm ?_, h.lt_next⟩
  have hOthers : (world.heldByOthers call).Perm
      ((world.calls.set call (.loaned {})).filterMap Stage.held) :=
    (filterMap_set_perm_others (f := Stage.held) hCall (.loaned {})).symm
  simp only [owned, addCall, setCall, List.filterMap_append]
  refine List.Perm.append_left _ ?_
  refine (filterMap_perm_others hCall).trans ?_
  refine List.perm_append_comm.trans ?_
  refine hOthers.append ?_
  exact List.Perm.of_eq (by cases hHeld : loan.release <;>
    simp [Stage.held, hHeld])

theorem sound_step (world : World) (op : Op) (h : world.Sound) :
    (world.step op).1.Sound := by
  cases op with
  | loan size => exact sound_startLoan size h
  | search call =>
      simp only [step]
      split
      · next size hCall => exact sound_search hCall h
      · exact h
  | finish call =>
      simp only [step]
      split
      · next size raw hCall => exact sound_finishLoan hCall h
      · exact h
  | ret call =>
      simp only [step]
      split
      · next loan hCall => exact sound_release rfl hCall h
      · exact h
  | destroy call =>
      simp only [step]
      split
      · next loan hCall => exact sound_release rfl hCall h
      · exact h
  | move call =>
      simp only [step]
      split
      · next loan hCall => exact sound_move hCall h
      · exact h
  | write call payload =>
      simp only [step]
      split
      · next loan hCall => exact sound_setCall hCall rfl h
      · exact h
  | close =>
      simp only [step]
      split
      · exact ⟨h.accounted, h.lt_next⟩
      · exact h
  | destroyPool =>
      simp only [step]
      split
      · exact h
      · exact sound_collect ⟨h.accounted, h.lt_next⟩
  | arm count => exact ⟨h.accounted, h.lt_next⟩

theorem sound_new (injector : Option FaultInjector) :
    Sound { injector } where
  accounted := ⟨List.nodup_nil, fun raw => by simp [Pool.live, owned]⟩
  lt_next raw hLive := by simp [Pool.live] at hLive

end World

/-! ## One call -/

inductive Follows : Stage → Stage → Prop
  | same (stage : Stage) : Follows stage stage
  | search (size : Nat) (raw : Option Buffer) :
      Follows (.checked size) (.searched size raw)
  | serve (size : Nat) (raw : Option Buffer) (loan : Loan) :
      Follows (.searched size raw) (.loaned loan)
  | fail (size : Nat) (error : LoanErrc) :
      Follows (.searched size none) (.failed error)
  | use (loan loan' : Loan) : Follows (.loaned loan) (.loaned loan')
  | destroy (loan : Loan) : Follows (.loaned loan) .destroyed

namespace World

variable {world : World} {call : Nat}

@[simp] theorem calls_collect : world.collect.calls = world.calls := by
  unfold collect
  split <;> rfl

private theorem goes_startLoan (world : World) (size : Int) :
    Goes Follows world.calls (world.startLoan size).1.calls := by
  unfold startLoan
  split
  · exact goes_self .same _
  split
  · exact goes_append .same _ _
  split
  · exact goes_append .same _ _
  · exact goes_append .same _ _

private theorem goes_finishLoan {size : Nat} {raw : Option Buffer}
    (hCall : world.calls[call]? = some (.searched size raw)) :
    Goes Follows world.calls (world.finishLoan call size raw).1.calls := by
  cases raw with
  | some raw => exact goes_set .same hCall (.serve ..)
  | none =>
      simp only [finishLoan]
      split
      · simp only [setCall, calls_shouldFail]
        exact goes_set .same hCall (.fail ..)
      · simp only [handOut, calls_shouldFail]
        exact goes_set .same hCall (.serve ..)

theorem goes_step (world : World) (op : Op) :
    Goes Follows world.calls (world.step op).1.calls := by
  cases op with
  | loan size => exact goes_startLoan world size
  | search call =>
      simp only [step]
      split
      · next size hCall => exact goes_set .same hCall (.search ..)
      · exact goes_self .same _
  | finish call =>
      simp only [step]
      split
      · next size raw hCall => exact goes_finishLoan hCall
      · exact goes_self .same _
  | ret call =>
      simp only [step]
      split
      · next loan hCall =>
          rw [calls_collect]
          exact goes_set .same hCall (.use ..)
      · exact goes_self .same _
  | destroy call =>
      simp only [step]
      split
      · next loan hCall =>
          rw [calls_collect]
          exact goes_set .same hCall (.destroy ..)
      · exact goes_self .same _
  | move call =>
      simp only [step]
      split
      · next loan hCall =>
          intro other old hOld
          obtain ⟨middle, hMiddle, hFollows⟩ :=
            goes_set Follows.same hCall (.use loan {}) other old hOld
          obtain ⟨hOther, -⟩ := List.getElem?_eq_some_iff.mp hMiddle
          refine ⟨middle, ?_, hFollows⟩
          exact (List.getElem?_append_left hOther).trans hMiddle
      · exact goes_self .same _
  | write call payload =>
      simp only [step]
      split
      · next loan hCall => exact goes_set .same hCall (.use ..)
      · exact goes_self .same _
  | close =>
      simp only [step]
      split <;> exact goes_self .same _
  | destroyPool =>
      simp only [step]
      split
      · exact goes_self .same _
      · rw [calls_collect]
        exact goes_self .same _
  | arm count => exact goes_self .same _

end World

/-! ## What a call returns with -/

def Stage.Requests (size : Int) : Stage → Prop
  | .checked n | .searched n _ => 0 ≤ size ∧ n = size.toNat
  | _ => True

private theorem requests_of_follows {size : Int} (old new : Stage)
    (h : Follows old new) (hOld : old.Requests size) : new.Requests size := by
  cases h with
  | same => exact hOld
  | search => exact hOld
  | serve => trivial
  | fail => trivial
  | use => trivial
  | destroy => trivial

def Stage.Served : Stage → Prop
  | .searched _ (some _) | .loaned _ | .destroyed => True
  | _ => False

private theorem served_of_follows (old new : Stage) (h : Follows old new)
    (hOld : old.Served) : new.Served := by
  cases h with
  | same => exact hOld
  | search => exact hOld.elim
  | serve => trivial
  | fail => exact hOld.elim
  | use => trivial
  | destroy => trivial

def Op.IsOf (world : World) (call : Nat) : Op → Prop
  | .loan _ => call = world.calls.length
  | .search other | .finish other => other = call
  | _ => False

namespace World

variable {world : World} {call : Nat}

private theorem callIs_startLoan (world : World) (size : Int)
    (hWrapper : world.wrapper = true) :
    CallIs (world.startLoan size).1.calls world.calls.length
      (Stage.Requests size) := by
  unfold startLoan
  rw [if_neg (by simp [hWrapper])]
  split
  · exact ⟨.failed .closed, List.getElem?_concat_length, trivial⟩
  split
  · exact ⟨.failed .invalidArgument, List.getElem?_concat_length, trivial⟩
  · next hSize =>
      refine ⟨.checked size.toNat, List.getElem?_concat_length, ?_⟩
      exact ⟨not_lt.mp hSize, rfl⟩

private theorem payload_of_finish {size : Int} {payload : List UInt8}
    (h : CallIs world.calls call (Stage.Requests size))
    (hPayload : (world.step (.finish call)).2 = some (.ok payload)) :
    payload = List.replicate size.toNat 0 := by
  obtain ⟨stage, hStage, hRequests⟩ := h
  simp only [step, hStage] at hPayload
  split at hPayload
  · next n raw hSearched =>
      obtain rfl : stage = .searched n raw := Option.some.inj hSearched
      obtain ⟨-, rfl⟩ := hRequests
      cases raw with
      | some raw => simpa [finishLoan, handOut] using hPayload.symm
      | none =>
          simp only [finishLoan] at hPayload
          split at hPayload
          · simp at hPayload
          · simpa [handOut] using hPayload.symm
  · simp at hPayload

private theorem pool_or_served (op : Op) (hOf : op.IsOf world call) :
    (world.step op).1.pool = world.pool ∨
      CallIs (world.step op).1.calls call Stage.Served := by
  cases op with
  | loan size =>
      left
      simp only [step, startLoan]
      split
      · rfl
      split
      · rfl
      split <;> rfl
  | search other =>
      obtain rfl : other = call := hOf
      simp only [step]
      split
      · next size hCall =>
          obtain ⟨hi, -⟩ := List.getElem?_eq_some_iff.mp hCall
          cases hFound : (world.pool.search size).2 with
          | none => exact .inl (Pool.search_eq_of_none hFound)
          | some raw =>
              exact .inr ⟨_, List.getElem?_set_self hi, trivial⟩
      · exact .inl rfl
  | finish other =>
      obtain rfl : other = call := hOf
      simp only [step]
      split
      · next size raw hCall =>
          obtain ⟨hi, -⟩ := List.getElem?_eq_some_iff.mp hCall
          cases raw with
          | some raw => exact .inr ⟨_, List.getElem?_set_self hi, trivial⟩
          | none =>
              simp only [finishLoan]
              split
              · exact .inl pool_shouldFail
              · refine .inr ⟨_, List.getElem?_set_self ?_, trivial⟩
                simpa using hi
      · exact .inl rfl
  | ret => exact hOf.elim
  | destroy => exact hOf.elim
  | move => exact hOf.elim
  | write => exact hOf.elim
  | close => exact hOf.elim
  | destroyPool => exact hOf.elim
  | arm => exact hOf.elim

end World

/-! ## Every run -/

/-- Each live buffer is in the free list once or with one call or its loan,
and nothing else is in either. -/
def OneOwner (world : World) (raw : Buffer) : Prop :=
  (world.pool.live raw ↔
      raw ∈ world.pool.impl.entries ∨
        ∃ call : Nat, world.calls[call]?.bind Stage.held = some raw) ∧
    (raw ∈ world.pool.impl.entries →
      world.pool.impl.entries.count raw = 1 ∧
        ∀ call : Nat, world.calls[call]?.bind Stage.held ≠ some raw) ∧
    ∀ call other : Nat, world.calls[call]?.bind Stage.held = some raw →
      world.calls[other]?.bind Stage.held = some raw → call = other

private theorem mem_held_iff {calls : List Stage} {raw : Buffer} :
    raw ∈ calls.filterMap Stage.held ↔
      ∃ call : Nat, calls[call]?.bind Stage.held = some raw := by
  rw [List.mem_filterMap]
  simp only [Option.bind_eq_some_iff, List.mem_iff_getElem?]
  constructor
  · rintro ⟨stage, ⟨call, hCall⟩, hHeld⟩
    exact ⟨call, stage, hCall, hHeld⟩
  · rintro ⟨call, stage, hCall, hHeld⟩
    exact ⟨stage, ⟨call, hCall⟩, hHeld⟩

private theorem oneOwner_of_sound {world : World} (h : world.Sound)
    (raw : Buffer) :
    OneOwner world raw := by
  have hLive := h.accounted.live_iff raw
  rw [World.owned, List.mem_append, mem_held_iff] at hLive
  obtain ⟨hEntries, hHeld, hDisjoint⟩ :=
    List.nodup_append'.mp h.accounted.nodup
  refine ⟨hLive, fun hMem => ⟨?_, fun call hCall => ?_⟩, ?_⟩
  · exact List.count_eq_one_of_mem hEntries hMem
  · exact hDisjoint hMem (mem_held_iff.mpr ⟨call, hCall⟩)
  · intro call other hCall hOther
    obtain ⟨_, -, hUnique⟩ :=
      existsUnique_of_nodup hHeld (mem_held_iff.mpr ⟨call, hCall⟩)
    rw [hUnique call hCall, hUnique other hOther]

/-- Whatever the calls of `loan`, the returns, destructions, moves and writes
of loans, and the closing of the pool, in whatever order. -/
theorem buffers_owned (injector : Option FaultInjector) (ops : List Op) :
    let world := (run World.step { injector } ops).1
    (∀ raw, OneOwner world raw) ∧
      world.pool.impl.entries.length ≤ poolMaxEntries ∧
      (∀ (size : Int) (later : List Op) (payload : List UInt8),
        world.wrapper = true →
          ((run World.step (world.step (.loan size)).1 later).1.step
              (.finish world.calls.length)).2 = some (.ok payload) →
            payload = List.replicate size.toNat 0) ∧
      ∀ (call : Nat) (op : Op) (later : List Op) (error : LoanErrc),
        op.IsOf world call →
          (run World.step (world.step op).1 later).1.calls[call]? =
              some (.failed error) →
            (world.step op).1.pool = world.pool := by
  intro world
  have hSound : world.Sound :=
    invariant_run World.sound_step ops (World.sound_new injector)
  refine ⟨oneOwner_of_sound hSound, world.pool.impl.entries_le,
    fun size later payload hWrapper hPayload => ?_,
    fun call op later error hOf hFailed => ?_⟩
  · exact World.payload_of_finish
      (callIs_run World.goes_step requests_of_follows later
        (World.callIs_startLoan world size hWrapper)) hPayload
  · rcases World.pool_or_served op hOf with hSame | hServed
    · exact hSame
    · exact ((callIs_run World.goes_step served_of_follows later
        hServed).unique hFailed).elim

/-- A written buffer of two octets is given back and handed out again for one
octet; a call for a negative size changes nothing. -/
theorem buffers_owned_reused :
    let ops : List Op :=
      [.loan 2, .search 0, .finish 0, .write 0 [7, 7], .ret 0, .arm 1]
    let world := (run World.step { injector := some {} } ops).1
    OneOwner world 0 ∧ world.pool.impl.entries.length ≤ poolMaxEntries ∧
      [0] = List.replicate (1 : Int).toNat (0 : UInt8) ∧
      (world.step (.loan (-1))).1.pool = world.pool := by
  intro ops world
  obtain ⟨hOwner, hRoom, hPayload, hFailed⟩ := buffers_owned (some {}) ops
  refine ⟨hOwner 0, hRoom, hPayload 1 [.search 1] [0] rfl rfl, ?_⟩
  exact hFailed 1 (.loan (-1)) [] .invalidArgument rfl rfl

end CppRcp.Host.Loan
