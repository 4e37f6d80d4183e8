import CppRcp.Foundation.Runs
import CppRcp.Foundation.Table

/-!
# First in, first out

A component holds a list of pending values.  A step may take values from its
front and accept values behind its back.  If every step balances what it takes,
accepts and leaves, then whatever a run takes stands, in order, at the front of
what it accepted, and the rest is pending.

The values may wait in an array: taking some from the front then moves the
others down.
-/

namespace CppRcp.Foundation

variable {σ α ω β : Type}

/-- What `f` gives at the steps of a run, in order. -/
def gather (step : σ → α → σ × ω) (f : σ → α → List β) : σ → List α → List β
  | _, [] => []
  | s, a :: as => f s a ++ gather step f (step s a).1 as

section Gather

variable (step : σ → α → σ × ω) (f : σ → α → List β)

private theorem gather_append (s : σ) (as bs : List α) :
    gather step f s (as ++ bs) =
      gather step f s as ++ gather step f (run step s as).1 bs := by
  induction as generalizing s with
  | nil => rfl
  | cons a as ih =>
      rw [List.cons_append, gather, gather, ih, run_cons, List.append_assoc]

theorem map_gather {γ : Type} (g : β → γ) (s : σ) (as : List α) :
    (gather step f s as).map g =
      gather step (fun s a => (f s a).map g) s as := by
  induction as generalizing s with
  | nil => rfl
  | cons a as ih => rw [gather, List.map_append, ih, gather]

theorem gather_output (g : ω → List β) (s : σ) (as : List α) :
    gather step (fun s a => g (step s a).2) s as =
      (run step s as).2.flatMap g := by
  induction as generalizing s with
  | nil => rfl
  | cons a as ih => rw [gather, ih, run_cons, List.flatMap_cons]

theorem gather_zip (g : α × ω → List β) (s : σ) (as : List α) :
    gather step (fun s a => g (a, (step s a).2)) s as =
      (as.zip (run step s as).2).flatMap g := by
  induction as generalizing s with
  | nil => rfl
  | cons a as ih =>
      rw [gather, ih, run_cons, List.zip_cons_cons, List.flatMap_cons]

end Gather

def Balanced (step : σ → α → σ × ω) (pending : σ → List β)
    (accepted taken : σ → α → List β) : Prop :=
  ∀ s a, taken s a ++ pending (step s a).1 = pending s ++ accepted s a

namespace Balanced

variable {step : σ → α → σ × ω} {pending : σ → List β}
  {accepted taken : σ → α → List β}

theorem gather_run (h : Balanced step pending accepted taken) (s : σ)
    (as : List α) :
    gather step taken s as ++ pending (run step s as).1 =
      pending s ++ gather step accepted s as := by
  induction as generalizing s with
  | nil => simp [gather]
  | cons a as ih =>
      rw [gather, gather, run_cons, List.append_assoc, ih,
        ← List.append_assoc, h s a, List.append_assoc]

variable {s : σ}

theorem taken_prefix (h : Balanced step pending accepted taken)
    (hEmpty : pending s = []) (as : List α) :
    gather step taken s as <+: gather step accepted s as := by
  have hRun := h.gather_run s as
  rw [hEmpty, List.nil_append] at hRun
  exact ⟨_, hRun⟩

theorem length_run (h : Balanced step pending accepted taken)
    (hEmpty : pending s = []) (as : List α) :
    (gather step taken s as).length + (pending (run step s as).1).length =
      (gather step accepted s as).length := by
  have hRun := congrArg List.length (h.gather_run s as)
  simpa [hEmpty] using hRun

theorem getElem?_accepted (h : Balanced step pending accepted taken)
    (hEmpty : pending s = []) {as : List α} {i : Nat} (hi : i < as.length)
    {j : Nat} {value : β}
    (hValue : (taken (run step s (as.take i)).1 as[i])[j]? = some value) :
    (gather step accepted s as)[
      (gather step taken s (as.take i)).length + j]? = some value := by
  have hSplit : as = as.take i ++ as[i] :: as.drop (i + 1) := by
    rw [← List.drop_eq_getElem_cons hi, List.take_append_drop]
  have hTaken : gather step taken s as =
      gather step taken s (as.take i) ++
        (taken (run step s (as.take i)).1 as[i] ++
          gather step taken (step (run step s (as.take i)).1 as[i]).1
            (as.drop (i + 1))) := by
    conv_lhs => rw [hSplit]
    rw [gather_append, gather]
  obtain ⟨rest, hRest⟩ := h.taken_prefix hEmpty as
  have hj : j < (taken (run step s (as.take i)).1 as[i]).length :=
    (List.getElem?_eq_some_iff.mp hValue).1
  rw [← hRest, hTaken, List.append_assoc, List.getElem?_append_right (by omega),
    Nat.add_sub_cancel_left, List.append_assoc, List.getElem?_append_left hj,
    hValue]

end Balanced

/-! ## In an array -/

namespace Table

variable [Inhabited α] {size : Nat}

/-- `std::move` to the front: `count` values from place `first` on. -/
def moveDown (table : Table α size) (first count : Nat) : Table α size :=
  (List.range count).foldl
    (fun table i => table.set i (table.get (first + i))) table

theorem get_moveDown (table : Table α size) (first : Nat) {count : Nat}
    (hRoom : count ≤ size) (i : Nat) :
    (table.moveDown first count).get i =
      if i < count then table.get (first + i) else table.get i := by
  induction count generalizing i with
  | zero => rfl
  | succ count ih =>
      have hLast : table.moveDown first (count + 1) =
          (table.moveDown first count).set count
            ((table.moveDown first count).get (first + count)) := by
        simp [moveDown, List.range_succ]
      have hRead : (table.moveDown first count).get (first + count) =
          table.get (first + count) := by
        rw [ih (by omega), if_neg (by omega)]
      rw [hLast, hRead]
      rcases eq_or_ne i count with rfl | hNe
      · rw [get_set_self (by omega), if_pos (by omega)]
      · rw [get_set_ne (Ne.symm hNe), ih (by omega)]
        grind

end Table

end CppRcp.Foundation
