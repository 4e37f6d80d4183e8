import Mathlib.Tactic
import Mathlib.Data.ENat.Basic

/-!
# Waiting behind others

A store holds jobs at fixed places.  Jobs are served in the order of a key, and
each of them has an amount of work, which may be infinite.  What a job can have
to wait for is the work stored ahead of it; it grows only by what arrives ahead
of it, and each time another job is served first it shrinks.
-/

namespace CppRcp.Foundation

variable {ι J K : Type}

section Ahead

variable [LinearOrder K] (key : J → K) (work : J → ℕ∞) (k : K)

/-- The work of what is stored at a place, if it goes before `k`. -/
def workBefore (entry : Option J) : ℕ∞ :=
  entry.elim 0 fun job => if key job < k then work job else 0

@[simp] theorem workBefore_none : workBefore key work k none = 0 := rfl

@[simp] theorem workBefore_some (job : J) :
    workBefore key work k (some job) = if key job < k then work job else 0 :=
  rfl

variable [Fintype ι]

/-- The work stored ahead of `k`. -/
def ahead (store : ι → Option J) : ℕ∞ :=
  ∑ i, workBefore key work k (store i)

def arrived (fresh : J → Bool) (store : ι → Option J) : ℕ∞ :=
  ∑ i, workBefore key work k ((store i).filter fresh)

theorem arrived_mono {K' : Type} [LinearOrder K'] {key' : J → K'} {k' : K'}
    {fresh : J → Bool} (store : ι → Option J)
    (h : ∀ job, fresh job = true → key job < k → key' job < k') :
    arrived key work k fresh store ≤ arrived key' work k' fresh store := by
  refine Finset.sum_le_sum fun i _ => ?_
  cases hEntry : (store i).filter fresh with
  | none => exact le_rfl
  | some job =>
      have hFresh : fresh job = true := (Option.filter_eq_some_iff.mp hEntry).2
      rw [workBefore_some, workBefore_some]
      split_ifs with hBefore hBefore'
      · exact le_rfl
      · exact absurd (h job hFresh hBefore) hBefore'
      · exact zero_le
      · exact le_rfl

end Ahead

/-- Every job stored afterwards is fresh, or was stored at its place before,
with the same key and no less work. -/
structure Settles (key : J → K) (work : J → ℕ∞) (fresh : J → Bool)
    (store store' : ι → Option J) : Prop where
  entry : ∀ i job', store' i = some job' → fresh job' = true ∨
    ∃ job, store i = some job ∧ key job' = key job ∧ work job' ≤ work job

namespace Settles

variable {key : J → K} {work : J → ℕ∞} {fresh : J → Bool}
  {store store' : ι → Option J}

section Ordered

variable [LinearOrder K] {k : K}

private theorem workBefore_le (h : Settles key work fresh store store')
    (i : ι) :
    workBefore key work k (store' i) ≤
      workBefore key work k (store i) +
        workBefore key work k ((store' i).filter fresh) := by
  cases hEntry : store' i with
  | none => simp
  | some job' =>
      rcases h.entry i job' hEntry with hNew | ⟨job, hJob, hKey, hWork⟩
      · simp [Option.filter, hNew]
      · rw [hJob, workBefore_some, workBefore_some, hKey]
        split_ifs with hBefore
        · exact hWork.trans le_self_add
        · exact zero_le

variable [Fintype ι]

theorem ahead_le (h : Settles key work fresh store store') :
    ahead key work k store' ≤
      ahead key work k store + arrived key work k fresh store' := by
  simp only [ahead, arrived, ← Finset.sum_add_distrib]
  exact Finset.sum_le_sum fun i _ => h.workBefore_le i

theorem succ_ahead_le (h : Settles key work fresh store store') {i : ι}
    {job : J} (hStored : store i = some job) (hBefore : key job < k)
    (hWork : 1 ≤ work job)
    (hServed : ∀ job', store' i = some job' → fresh job' = false →
      1 + work job' ≤ work job) :
    1 + ahead key work k store' ≤
      ahead key work k store + arrived key work k fresh store' := by
  classical
  have hPlace : 1 + workBefore key work k (store' i) ≤
      workBefore key work k (store i) +
        workBefore key work k ((store' i).filter fresh) := by
    rw [hStored, workBefore_some, if_pos hBefore]
    cases hEntry : store' i with
    | none => simpa using hWork
    | some job' =>
        cases hFresh : fresh job' with
        | true =>
            rw [Option.filter_some, if_pos hFresh]
            gcongr
        | false =>
            refine le_trans ?_ (le_trans (hServed job' hEntry hFresh)
              le_self_add)
            rw [workBefore_some]
            gcongr
            split_ifs
            · exact le_rfl
            · exact zero_le
  simp only [ahead, arrived, ← Finset.sum_add_distrib]
  rw [← Finset.add_sum_erase _ _ (Finset.mem_univ i),
    ← Finset.add_sum_erase _ _ (Finset.mem_univ i), ← add_assoc]
  exact add_le_add hPlace (Finset.sum_le_sum fun j _ => h.workBefore_le j)

end Ordered

end Settles

end CppRcp.Foundation
