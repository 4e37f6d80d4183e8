import Mathlib.Tactic
import Mathlib.Order.Lattice

/-!
# The least element of a list

`leastBy key` scans a list once and keeps the first element whose key is
least.  Where different elements of the list have different keys, it is the
only one with that property.
-/

namespace CppRcp.Foundation

section Least

variable {α β : Type} [LinearOrder β] (key : α → β)

def keepLeast (best : Option α) (a : α) : Option α :=
  match best with
  | none => some a
  | some chosen => if key a < key chosen then some a else some chosen

def leastBy (as : List α) : Option α := as.foldl (keepLeast key) none

private theorem foldl_keepLeast (as : List α) (best : Option α) :
    match as.foldl (keepLeast key) best with
    | none => best = none ∧ as = []
    | some a => (best = some a ∨ a ∈ as) ∧
        (∀ chosen, best = some chosen → key a ≤ key chosen) ∧
          ∀ other ∈ as, key a ≤ key other := by
  induction as generalizing best with
  | nil => cases best <;> simp
  | cons first as ih =>
      rw [List.foldl_cons]
      have hRest := ih (keepLeast key best first)
      split
      · next hNone =>
          rw [hNone] at hRest
          obtain ⟨hKept, -⟩ := hRest
          unfold keepLeast at hKept
          split at hKept
          · cases hKept
          · split at hKept <;> cases hKept
      · next a hSome =>
          rw [hSome] at hRest
          obtain ⟨hFrom, hBest, hOthers⟩ := hRest
          cases best with
          | none =>
              have hFirst := hBest first rfl
              refine ⟨.inr ?_, by simp, ?_⟩
              · rcases hFrom with hFrom | hFrom
                · exact Option.some_inj.mp hFrom ▸ List.mem_cons_self
                · exact List.mem_cons_of_mem _ hFrom
              · exact List.forall_mem_cons.mpr ⟨hFirst, hOthers⟩
          | some chosen =>
              unfold keepLeast at hFrom hBest
              dsimp only at hFrom hBest
              by_cases hLt : key first < key chosen
              · rw [if_pos hLt] at hFrom hBest
                have hFirst := hBest first rfl
                refine ⟨.inr ?_, ?_, List.forall_mem_cons.mpr ⟨hFirst, hOthers⟩⟩
                · rcases hFrom with hFrom | hFrom
                  · exact Option.some_inj.mp hFrom ▸ List.mem_cons_self
                  · exact List.mem_cons_of_mem _ hFrom
                · rintro other ⟨⟩
                  exact hFirst.trans hLt.le
              · rw [if_neg hLt] at hFrom hBest
                have hChosen := hBest chosen rfl
                refine ⟨hFrom.imp_right (List.mem_cons_of_mem _), ?_,
                  List.forall_mem_cons.mpr
                    ⟨hChosen.trans (not_lt.mp hLt), hOthers⟩⟩
                rintro other ⟨⟩
                exact hChosen

theorem leastBy_eq_none_iff (as : List α) :
    leastBy key as = none ↔ as = [] := by
  have h := foldl_keepLeast key as none
  constructor
  · intro hNone
    unfold leastBy at hNone
    rw [hNone] at h
    exact h.2
  · rintro rfl
    rfl

theorem leastBy_eq_some {as : List α} {a : α}
    (h : leastBy key as = some a) :
    a ∈ as ∧ ∀ other ∈ as, key a ≤ key other := by
  have hFold := foldl_keepLeast key as none
  unfold leastBy at h
  rw [h] at hFold
  obtain ⟨hFrom, -, hLeast⟩ := hFold
  exact ⟨hFrom.resolve_left (by simp), hLeast⟩

end Least

end CppRcp.Foundation
