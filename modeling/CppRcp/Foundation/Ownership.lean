import Mathlib.Tactic
import Mathlib.Data.List.Perm.Basic

/-!
# Objects with one owner each

`owned` lists what each of the owners has.  The objects that are live are
accounted for when each of them is in the list once and nothing else is.  A
step of one owner moves objects within the list, adds a new one or frees some.
-/

namespace CppRcp.Foundation

variable {β γ : Type}

structure Accounted (live : β → Prop) (owned : List β) : Prop where
  nodup : owned.Nodup
  live_iff : ∀ b, live b ↔ b ∈ owned

namespace Accounted

variable {live live' : β → Prop} {owned owned' rest : List β}

theorem perm (h : Accounted live owned) (hPerm : owned.Perm owned') :
    Accounted live owned' where
  nodup := hPerm.nodup_iff.mp h.nodup
  live_iff b := (h.live_iff b).trans hPerm.mem_iff

theorem allocate {b : β} (h : Accounted live owned) (hFresh : ¬ live b)
    (hLive : ∀ c, live' c ↔ c = b ∨ live c) : Accounted live' (b :: owned) where
  nodup := List.nodup_cons.mpr ⟨fun hMem => hFresh ((h.live_iff b).mpr hMem),
    h.nodup⟩
  live_iff c := by rw [hLive c, h.live_iff c, List.mem_cons]

theorem free {freed : List β} (h : Accounted live (freed ++ rest))
    (hLive : ∀ c, live' c ↔ live c ∧ c ∉ freed) : Accounted live' rest where
  nodup := (List.nodup_append.mp h.nodup).2.1
  live_iff c := by
    have hDisjoint := List.nodup_append'.mp h.nodup
    rw [hLive c, h.live_iff c, List.mem_append]
    constructor
    · rintro ⟨hFreed | hRest, hKept⟩
      · exact absurd hFreed hKept
      · exact hRest
    · exact fun hRest => ⟨.inr hRest, fun hFreed =>
        hDisjoint.2.2 hFreed hRest⟩

end Accounted

/-! ## Holders of at most one object -/

section Holders

variable {f : γ → Option β} {holders : List γ} {i : Nat} {old new : γ}

def others (f : γ → Option β) (holders : List γ) (i : Nat) : List β :=
  (holders.eraseIdx i).filterMap f

theorem filterMap_perm_others (h : holders[i]? = some old) :
    (holders.filterMap f).Perm ((f old).toList ++ others f holders i) := by
  obtain ⟨hi, rfl⟩ := List.getElem?_eq_some_iff.mp h
  have hPerm := (List.getElem_cons_eraseIdx_perm hi).filterMap f
  rw [List.filterMap_cons] at hPerm
  refine hPerm.symm.trans (List.Perm.of_eq ?_)
  cases f holders[i] <;> rfl

theorem filterMap_set_perm_others (h : holders[i]? = some old) (new : γ) :
    ((holders.set i new).filterMap f).Perm
      ((f new).toList ++ others f holders i) := by
  obtain ⟨hi, -⟩ := List.getElem?_eq_some_iff.mp h
  have hPerm := (List.set_perm_cons_eraseIdx hi new).filterMap f
  rw [List.filterMap_cons] at hPerm
  refine hPerm.trans (List.Perm.of_eq ?_)
  cases f new <;> rfl

theorem existsUnique_of_nodup {b : β} (h : (holders.filterMap f).Nodup)
    (hMem : b ∈ holders.filterMap f) :
    ∃! i : Nat, holders[i]?.bind f = some b := by
  induction holders with
  | nil => simp at hMem
  | cons holder holders ih =>
      rw [List.filterMap_cons] at h hMem
      cases hHeld : f holder with
      | none =>
          rw [hHeld] at h hMem
          obtain ⟨i, hi, hUnique⟩ := ih h hMem
          refine ⟨i + 1, hi, fun j hj => ?_⟩
          cases j with
          | zero => simp [hHeld] at hj
          | succ j => rw [hUnique j hj]
      | some c =>
          rw [hHeld] at h hMem
          obtain ⟨hFirst, hRest⟩ := List.nodup_cons.mp h
          rcases List.mem_cons.mp hMem with rfl | hLater
          · refine ⟨0, hHeld, fun j hj => ?_⟩
            cases j with
            | zero => rfl
            | succ j =>
                obtain ⟨x, hx, hxHeld⟩ := Option.bind_eq_some_iff.mp hj
                have hMemLater : x ∈ holders :=
                  List.mem_of_getElem? (by simpa using hx)
                exact absurd (List.mem_filterMap.mpr ⟨x, hMemLater, hxHeld⟩)
                  hFirst
          · obtain ⟨i, hi, hUnique⟩ := ih hRest hLater
            refine ⟨i + 1, hi, fun j hj => ?_⟩
            cases j with
            | zero =>
                have hSame : c = b := by simpa [hHeld] using hj
                exact absurd (hSame ▸ hLater) hFirst
            | succ j => rw [hUnique j hj]

end Holders

end CppRcp.Foundation
