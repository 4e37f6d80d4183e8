import Mathlib.Data.Finset.Card
import Mathlib.Tactic

/-!
# Sweeping a graph

`sweep` deletes a live node of a graph and then, depth first, whatever its
successor lists lead to.  The graph may have cycles, self links and links to
nodes that are not live.  What is deleted is what can be reached through live
nodes only.
-/

namespace CppRcp.Foundation

section Sweep

variable {κ : Type} (succ : κ → List κ)

def sweep [DecidableEq κ] : Nat → Finset κ → κ → Finset κ
  | 0, live, _ => live
  | fuel + 1, live, k =>
      if k ∈ live then (succ k).foldl (sweep fuel) (live.erase k) else live

inductive LeadsTo (live : Finset κ) (k : κ) : κ → Prop
  | here : k ∈ live → LeadsTo live k k
  | next {a b : κ} :
      LeadsTo live k a → b ∈ succ a → b ∈ live → LeadsTo live k b

/-- What remains of `live` after sweeping from each of the roots. -/
structure Swept (live : Finset κ) (roots : List κ) (left : Finset κ) :
    Prop where
  subset : left ⊆ live
  reached : ∀ a ∈ live, a ∉ left → ∃ k ∈ roots, LeadsTo succ live k a
  cleared : ∀ k ∈ roots, k ∉ left
  closed : ∀ a ∈ live, a ∉ left → ∀ b ∈ succ a, b ∉ left

variable {succ} {live mid left : Finset κ} {k a b : κ} {roots : List κ}

namespace LeadsTo

theorem target_mem (h : LeadsTo succ live k a) : a ∈ live := by
  cases h with
  | here hMem => exact hMem
  | next _ _ hMem => exact hMem

theorem mono (hSub : mid ⊆ live) (h : LeadsTo succ mid k a) :
    LeadsTo succ live k a := by
  induction h with
  | here hMem => exact .here (hSub hMem)
  | next _ hEdge hMem ih => exact .next ih hEdge (hSub hMem)

theorem head (hMem : k ∈ live) (hEdge : b ∈ succ k)
    (h : LeadsTo succ live b a) : LeadsTo succ live k a := by
  induction h with
  | here hb => exact .next (.here hMem) hEdge hb
  | next _ hEdge' hMem' ih => exact .next ih hEdge' hMem'

end LeadsTo

namespace Swept

theorem nil : Swept succ live [] live where
  subset := Finset.Subset.refl live
  reached := fun _ hMem hNot => absurd hMem hNot
  cleared := fun _ hMem => absurd hMem List.not_mem_nil
  closed := fun _ hMem hNot => absurd hMem hNot

theorem skip (hNot : k ∉ live) : Swept succ live [k] live where
  subset := Finset.Subset.refl live
  reached := fun _ hMem hGone => absurd hMem hGone
  cleared := by simpa using hNot
  closed := fun _ hMem hGone => absurd hMem hGone

private theorem visit [DecidableEq κ] (hMem : k ∈ live)
    (h : Swept succ (live.erase k) (succ k) left) :
    Swept succ live [k] left where
  subset := h.subset.trans (Finset.erase_subset k live)
  reached := by
    intro a ha hGone
    refine ⟨k, List.mem_singleton_self k, ?_⟩
    by_cases hak : a = k
    · subst hak
      exact .here ha
    · obtain ⟨s, hs, hPath⟩ :=
        h.reached a (Finset.mem_erase.mpr ⟨hak, ha⟩) hGone
      exact (hPath.mono (Finset.erase_subset k live)).head hMem hs
  cleared := by
    intro k' hk' hLeft
    rw [List.mem_singleton.mp hk'] at hLeft
    exact Finset.notMem_erase k live (h.subset hLeft)
  closed := by
    intro a ha hGone b hb
    by_cases hak : a = k
    · subst hak
      exact h.cleared b hb
    · exact h.closed a (Finset.mem_erase.mpr ⟨hak, ha⟩) hGone b hb

theorem cons (hFirst : Swept succ live [k] mid)
    (hRest : Swept succ mid roots left) :
    Swept succ live (k :: roots) left where
  subset := hRest.subset.trans hFirst.subset
  reached := by
    intro a ha hGone
    by_cases hMid : a ∈ mid
    · obtain ⟨k', hk', hPath⟩ := hRest.reached a hMid hGone
      exact ⟨k', List.mem_cons_of_mem k hk', hPath.mono hFirst.subset⟩
    · obtain ⟨k', hk', hPath⟩ := hFirst.reached a ha hMid
      rw [List.mem_singleton.mp hk'] at hPath
      exact ⟨k, List.mem_cons_self, hPath⟩
  cleared := by
    intro k' hk' hLeft
    rcases List.mem_cons.mp hk' with rfl | hk'
    · exact hFirst.cleared k' (List.mem_singleton_self k')
        (hRest.subset hLeft)
    · exact hRest.cleared k' hk' hLeft
  closed := by
    intro a ha hGone b hb hLeft
    by_cases hMid : a ∈ mid
    · exact hRest.closed a hMid hGone b hb hLeft
    · exact hFirst.closed a ha hMid b hb (hRest.subset hLeft)

theorem not_mem_of_leadsTo (h : Swept succ live roots left) (hk : k ∈ roots)
    (hPath : LeadsTo succ live k a) : a ∉ left := by
  induction hPath with
  | here _ => exact h.cleared k hk
  | next hBefore hEdge _ ih =>
      exact h.closed _ hBefore.target_mem ih _ hEdge

theorem mem_iff (h : Swept succ live roots left) (a : κ) :
    a ∈ left ↔ a ∈ live ∧ ∀ k ∈ roots, ¬ LeadsTo succ live k a := by
  constructor
  · intro ha
    exact ⟨h.subset ha, fun k hk hPath => h.not_mem_of_leadsTo hk hPath ha⟩
  · rintro ⟨ha, hNone⟩
    by_contra hGone
    obtain ⟨k, hk, hPath⟩ := h.reached a ha hGone
    exact hNone k hk hPath

end Swept

variable [DecidableEq κ]

private theorem swept_foldl {fuel : Nat}
    (hOne : ∀ (live : Finset κ) (k : κ), live.card ≤ fuel →
      Swept succ live [k] (sweep succ fuel live k))
    (roots : List κ) (live : Finset κ) (hFuel : live.card ≤ fuel) :
    Swept succ live roots (roots.foldl (sweep succ fuel) live) := by
  induction roots generalizing live with
  | nil => exact .nil
  | cons k roots ih =>
      have hFirst := hOne live k hFuel
      have hCard := Finset.card_le_card hFirst.subset
      exact hFirst.cons (ih _ (hCard.trans hFuel))

private theorem swept_sweep (fuel : Nat) (live : Finset κ) (k : κ)
    (hFuel : live.card ≤ fuel) :
    Swept succ live [k] (sweep succ fuel live k) := by
  induction fuel generalizing live k with
  | zero =>
      have hEmpty := Finset.card_eq_zero.mp (Nat.le_zero.mp hFuel)
      subst hEmpty
      exact .skip (Finset.notMem_empty k)
  | succ fuel ih =>
      unfold sweep
      split
      · next hMem =>
          have hCard := Finset.card_erase_lt_of_mem hMem
          exact .visit hMem
            (swept_foldl (fun live k => ih live k) (succ k) _ (by omega))
      · next hNot => exact .skip hNot

theorem foldl_sweep_subset {fuel : Nat}
    (hOne : ∀ (live : Finset κ) (k : κ), sweep succ fuel live k ⊆ live)
    (roots : List κ) (live : Finset κ) :
    roots.foldl (sweep succ fuel) live ⊆ live := by
  induction roots generalizing live with
  | nil => exact Finset.Subset.refl live
  | cons k roots ih => exact (ih _).trans (hOne live k)

theorem sweep_subset (fuel : Nat) (live : Finset κ) (k : κ) :
    sweep succ fuel live k ⊆ live := by
  induction fuel generalizing live k with
  | zero => exact Finset.Subset.refl live
  | succ fuel ih =>
      unfold sweep
      split
      · exact (foldl_sweep_subset ih _ _).trans (Finset.erase_subset k live)
      · exact Finset.Subset.refl live

theorem swept_sweepAll (fuel : Nat) (roots : List κ) (live : Finset κ)
    (hFuel : live.card ≤ fuel) :
    Swept succ live roots (roots.foldl (sweep succ fuel) live) :=
  swept_foldl (swept_sweep fuel) roots live hFuel

end Sweep

end CppRcp.Foundation
