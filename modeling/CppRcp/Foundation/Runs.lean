import Mathlib.Tactic

/-!
# Runs of a deterministic step function

A component is a step function from a state and an input to a new state and an
output.  `run` feeds it a list of inputs.  The rules below turn facts about
one step into facts about whole runs: an invariant that every step keeps, an
invariant that the steps meeting a condition keep, and a relation that holds
across any number of steps of one kind.
-/

namespace CppRcp.Foundation

variable {σ σ' α ω ω' : Type}

def run (step : σ → α → σ × ω) : σ → List α → σ × List ω
  | s, [] => (s, [])
  | s, a :: as =>
      let first := step s a
      let rest := run step first.1 as
      (rest.1, first.2 :: rest.2)

section Run

variable (step : σ → α → σ × ω)

@[simp] theorem run_nil (s : σ) : run step s [] = (s, []) := rfl

theorem run_cons (s : σ) (a : α) (as : List α) :
    run step s (a :: as) =
      ((run step (step s a).1 as).1,
        (step s a).2 :: (run step (step s a).1 as).2) := rfl

theorem run_append (s : σ) (as bs : List α) :
    run step s (as ++ bs) =
      ((run step (run step s as).1 bs).1,
        (run step s as).2 ++ (run step (run step s as).1 bs).2) := by
  induction as generalizing s with
  | nil => rfl
  | cons a as ih =>
      rw [List.cons_append, run_cons, ih, run_cons]
      rfl

@[simp] theorem length_run (s : σ) (as : List α) :
    (run step s as).2.length = as.length := by
  induction as generalizing s with
  | nil => rfl
  | cons a as ih => simp [run_cons, ih]

theorem getElem?_run (s : σ) (as : List α) (i : Nat) :
    (run step s as).2[i]? =
      as[i]?.map fun a => (step (run step s (as.take i)).1 a).2 := by
  induction as generalizing s i with
  | nil => simp
  | cons a as ih =>
      cases i with
      | zero => rfl
      | succ i =>
          rw [run_cons, List.getElem?_cons_succ, List.getElem?_cons_succ,
            List.take_succ_cons, run_cons, ih]

theorem run_take_succ (s : σ) (as : List α) (i : Nat) (h : i < as.length) :
    (run step s (as.take (i + 1))).1 =
      (step (run step s (as.take i)).1 as[i]).1 := by
  rw [List.take_add_one, List.getElem?_eq_getElem h, Option.toList_some,
    run_append]
  rfl

theorem run_map_congr {β : Type} {f g : β → α} {bs : List β}
    (h : ∀ b ∈ bs, ∀ s, step s (f b) = step s (g b)) (s : σ) :
    run step s (bs.map f) = run step s (bs.map g) := by
  induction bs generalizing s with
  | nil => rfl
  | cons b bs ih =>
      obtain ⟨hFirst, hRest⟩ := List.forall_mem_cons.mp h
      rw [List.map_cons, List.map_cons, run_cons, run_cons, hFirst, ih hRest]

end Run

/-! ## Invariants -/

/-- `P` holds at every step of the run: of the state it starts from and of
its input. -/
def Along (step : σ → α → σ × ω) (P : σ → α → Prop) : σ → List α → Prop
  | _, [] => True
  | s, a :: as => P s a ∧ Along step P (step s a).1 as

theorem along_append {step : σ → α → σ × ω} {P : σ → α → Prop} {s : σ}
    {as bs : List α} :
    Along step P s (as ++ bs) ↔
      Along step P s as ∧ Along step P (run step s as).1 bs := by
  induction as generalizing s with
  | nil => simp [Along]
  | cons a as ih => simp [Along, ih, run_cons, and_assoc]

theorem along_iff_getElem {step : σ → α → σ × ω} {P : σ → α → Prop} {s : σ}
    {as : List α} :
    Along step P s as ↔
      ∀ i, (h : i < as.length) → P (run step s (as.take i)).1 as[i] := by
  induction as generalizing s with
  | nil => simp [Along]
  | cons a as ih =>
      rw [Along, ih]
      constructor
      · rintro ⟨hFirst, hRest⟩ i hi
        cases i with
        | zero => exact hFirst
        | succ i => exact hRest i (by simpa using hi)
      · intro h
        refine ⟨h 0 (by simp), fun i hi => ?_⟩
        exact h (i + 1) (by simpa using hi)

theorem along_iff_forall_mem {step : σ → α → σ × ω} {P : α → Prop} {s : σ}
    {as : List α} : Along step (fun _ a => P a) s as ↔ ∀ a ∈ as, P a := by
  induction as generalizing s with
  | nil => simp [Along]
  | cons a as ih => rw [Along, ih, List.forall_mem_cons]

theorem Along.mono {step : σ → α → σ × ω} {P Q : σ → α → Prop} {s : σ}
    {as : List α} (h : Along step P s as) (hPQ : ∀ s a, P s a → Q s a) :
    Along step Q s as := by
  induction as generalizing s with
  | nil => trivial
  | cons a as ih => exact ⟨hPQ s a h.1, ih h.2⟩

theorem invariant_run_along {step : σ → α → σ × ω} {P : σ → α → Prop}
    {I : σ → Prop} (hStep : ∀ s a, I s → P s a → I (step s a).1)
    {s : σ} {as : List α} (h : I s) (hAlong : Along step P s as) :
    I (run step s as).1 := by
  induction as generalizing s with
  | nil => exact h
  | cons a as ih =>
      rw [run_cons]
      exact ih (hStep s a h hAlong.1) hAlong.2

theorem along_invariant {step : σ → α → σ × ω} {P : σ → α → Prop}
    {I : σ → Prop} (hStep : ∀ s a, I s → P s a → I (step s a).1)
    {s : σ} {as : List α} (h : I s) (hAlong : Along step P s as) :
    Along step (fun s a => I s ∧ P s a) s as := by
  induction as generalizing s with
  | nil => trivial
  | cons a as ih =>
      exact ⟨⟨h, hAlong.1⟩, ih (hStep s a h hAlong.1) hAlong.2⟩

theorem invariant_run {step : σ → α → σ × ω} {I : σ → Prop}
    (hStep : ∀ s a, I s → I (step s a).1) {s : σ} (as : List α) (h : I s) :
    I (run step s as).1 := by
  induction as generalizing s with
  | nil => exact h
  | cons a as ih =>
      rw [run_cons]
      exact ih (hStep s a h)

theorem Along.take {step : σ → α → σ × ω} {P : σ → α → Prop} {s : σ}
    {as : List α} (h : Along step P s as) (n : Nat) :
    Along step P s (as.take n) := by
  rw [← List.take_append_drop n as, along_append] at h
  exact h.1

theorem invariant_run_take {step : σ → α → σ × ω} {P : σ → α → Prop}
    {I : σ → Prop} (hStep : ∀ s a, I s → P s a → I (step s a).1)
    {s : σ} {as : List α} (hAlong : Along step P s as) {m n : Nat}
    (hLe : m ≤ n) (h : I (run step s (as.take m)).1) :
    I (run step s (as.take n)).1 := by
  obtain ⟨k, rfl⟩ := Nat.exists_eq_add_of_le hLe
  have hBoth := hAlong.take (m + k)
  rw [List.take_add, along_append] at hBoth
  rw [List.take_add, run_append]
  exact invariant_run_along hStep h hBoth.2

theorem forall_mem_run {step : σ → α → σ × ω} {I : σ → Prop} {Q : ω → Prop}
    (hStep : ∀ s a, I s → I (step s a).1 ∧ Q (step s a).2) {s : σ}
    (as : List α) (h : I s) : ∀ output ∈ (run step s as).2, Q output := by
  induction as generalizing s with
  | nil => simp
  | cons a as ih =>
      obtain ⟨hNext, hOutput⟩ := hStep s a h
      rw [run_cons]
      intro output hMem
      rcases List.mem_cons.mp hMem with rfl | hRest
      · exact hOutput
      · exact ih hNext output hRest

/-- Where a step from `I` stays in `I` exactly when `P` holds of it, a run from
`I` stays in `I` throughout exactly when `P` holds of its steps. -/
theorem forall_take_iff_along {step : σ → α → σ × ω} {I : σ → Prop}
    {T P : σ → α → Prop}
    (hStep : ∀ s a, I s → T s a → (I (step s a).1 ↔ P s a)) {s : σ}
    {as : List α} (h : I s) (hAlong : Along step T s as) :
    (∀ n, I (run step s (as.take n)).1) ↔ Along step P s as := by
  induction as generalizing s with
  | nil => simpa [Along] using h
  | cons a as ih =>
      have hFirst := hStep s a h hAlong.1
      constructor
      · intro hAll
        have hNext : I (step s a).1 := hAll 1
        exact ⟨hFirst.mp hNext,
          (ih hNext hAlong.2).mp fun n => hAll (n + 1)⟩
      · rintro ⟨hHead, hTail⟩ n
        cases n with
        | zero => exact h
        | succ n =>
            exact (ih (hFirst.mpr hHead) hAlong.2).mpr hTail n

theorem forall_take_iff_forall_mem {step : σ → α → σ × ω} {I : σ → Prop}
    {P : α → Prop} (hStep : ∀ s a, I s → (I (step s a).1 ↔ P a)) {s : σ}
    {as : List α} (h : I s) :
    (∀ n, I (run step s (as.take n)).1) ↔ ∀ a ∈ as, P a := by
  have hAll : Along step (fun _ _ => True) s as :=
    along_iff_forall_mem.mpr fun _ _ => trivial
  exact (forall_take_iff_along (fun s a hs _ => hStep s a hs) h hAll).trans
    along_iff_forall_mem

/-- A run that starts outside `I` and ends inside it enters it by one last
step, and stays in it from then on. -/
theorem exists_last_entry {step : σ → α → σ × ω} {I : σ → Prop} {s : σ}
    {as : List α} (hStart : ¬ I s) (hEnd : I (run step s as).1) :
    ∃ before a after, as = before ++ a :: after ∧
      ¬ I (run step s before).1 ∧
      ∀ m, I (run step s (before ++ a :: after.take m)).1 := by
  induction as using List.reverseRecOn with
  | nil => exact absurd hEnd hStart
  | append_singleton as a ih =>
      by_cases hBefore : I (run step s as).1
      · obtain ⟨before, b, after, rfl, hOutside, hInside⟩ := ih hBefore
        refine ⟨before, b, after ++ [a], by simp, hOutside, fun m => ?_⟩
        by_cases hm : m ≤ after.length
        · rw [List.take_append_of_le_length hm]
          exact hInside m
        · rw [List.take_of_length_le (by simp; omega)]
          simpa using hEnd
      · exact ⟨as, a, [], rfl, hBefore, fun m => by simpa using hEnd⟩

/-! ## A part of the state -/

/-- A part of the state that only some inputs change, and the outputs that are
about it, come from a run of these inputs over the part alone. -/
theorem run_filter {ρ β : Type} {step : σ → α → σ × ω}
    {partStep : ρ → α → ρ × List β} {part : σ → ρ} {view : ω → List β}
    {keep : α → Bool}
    (hKeep : ∀ s a, keep a = true →
      partStep (part s) a = (part (step s a).1, view (step s a).2))
    (hSkip : ∀ s a, keep a = false →
      part (step s a).1 = part s ∧ view (step s a).2 = [])
    (s : σ) (as : List α) :
    part (run step s as).1 =
        (run partStep (part s) (as.filter keep)).1 ∧
      (run step s as).2.flatMap view =
        (run partStep (part s) (as.filter keep)).2.flatten := by
  induction as generalizing s with
  | nil => exact ⟨rfl, rfl⟩
  | cons a as ih =>
      obtain ⟨hState, hOutputs⟩ := ih (step s a).1
      rw [run_cons, List.flatMap_cons]
      cases hKept : keep a with
      | true =>
          rw [List.filter_cons_of_pos hKept, run_cons, hKeep s a hKept]
          exact ⟨hState, congrArg (view (step s a).2 ++ ·) hOutputs⟩
      | false =>
          obtain ⟨hSame, hNone⟩ := hSkip s a hKept
          rw [List.filter_cons_of_neg (by simp [hKept]), hNone, ← hSame]
          exact ⟨hState, hOutputs⟩

/-! ## Steps of one kind -/

abbrev Steps (step : σ → α → σ × ω) (P : α → Prop) : σ → σ → Prop :=
  Relation.ReflTransGen fun s s' => ∃ a, P a ∧ s' = (step s a).1

section Steps

variable {step : σ → α → σ × ω} {P Q : α → Prop} {s s' : σ}

theorem Steps.single {a : α} (h : P a) : Steps step P s (step s a).1 :=
  Relation.ReflTransGen.single ⟨a, h, rfl⟩

theorem Steps.mono (h : Steps step P s s') (hPQ : ∀ a, P a → Q a) :
    Steps step Q s s' :=
  h.lift id fun _ _ ⟨a, ha, hNext⟩ => ⟨a, hPQ a ha, hNext⟩

theorem Steps.relates {R : σ → σ → Prop} (hRefl : ∀ s, R s s)
    (hTrans : ∀ a b c, R a b → R b c → R a c)
    (hStep : ∀ s a, P a → R s (step s a).1) (h : Steps step P s s') :
    R s s' := by
  induction h with
  | refl => exact hRefl s
  | @tail middle last _ hLast ih =>
      obtain ⟨a, ha, rfl⟩ := hLast
      exact hTrans s middle _ ih (hStep middle a ha)

end Steps

end CppRcp.Foundation
