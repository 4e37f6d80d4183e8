import CppRcp.Wire.QueueRuns

/-!
# Draining the response queue

`plan_batch` counts the entries at the front of the queue that fit one AVTPDU;
the caller pops as many and plans again until the queue is empty.  A first
entry is always planned, however long, but no entry longer than the largest
AVTPDU is ever queued.
-/

namespace CppRcp.Respqueue

open CppRcp.Foundation

/-- The loop of `plan_batch`, after `count` entries of `total` octets. -/
def planFrom (limit : Nat) : Nat → Nat → List Entry → Nat
  | _, count, [] => count
  | total, count, entry :: entries =>
      let nextTotal := total + entry.data.length
      if 0 < count ∧ limit < nextTotal then count
      else planFrom limit nextTotal (count + 1) entries

namespace RespQueue

def planBatch (queue : RespQueue) (maxAvtpduSizeOctets : Nat) : Nat :=
  if queue.entries.length = 0 then 0
  else if maxAvtpduSizeOctets = 0 then queue.entries.length
  else planFrom maxAvtpduSizeOctets 0 0 queue.entries

/-- `pop`, the given number of times. -/
def popMany : Nat → RespQueue → RespQueue × List Octets
  | 0, queue => (queue, [])
  | count + 1, queue =>
      match queue.pop with
      | (queue, none) => (queue, [])
      | (queue, some frame) =>
          let rest := popMany count queue
          (rest.1, frame :: rest.2)

/-- At most `rounds` batches, until `len` is 0. -/
def drain (limit : Nat) : Nat → RespQueue → RespQueue × List (List Octets)
  | 0, queue => (queue, [])
  | rounds + 1, queue =>
      if queue.entries.length = 0 then (queue, [])
      else
        let batch := popMany (queue.planBatch limit) queue
        let rest := drain limit rounds batch.1
        (rest.1, batch.2 :: rest.2)

end RespQueue

def totalOctets (batch : List Octets) : Nat := (batch.map List.length).sum

private theorem totalOctets_data (entries : List Entry) :
    totalOctets (entries.map Entry.data) = sizeOf entries := by
  unfold totalOctets sizeOf
  rw [List.map_map]
  rfl

/-! ## One batch -/

private theorem planFrom_spec {limit total : Nat} (count : Nat)
    {entries : List Entry}
    (hFits : ∀ entry ∈ entries, entry.data.length ≤ limit)
    (hTotal : total ≤ limit) (hStart : count = 0 → total = 0) :
    ∃ taken ≤ entries.length, planFrom limit total count entries =
        count + taken ∧
      total + sizeOf (entries.take taken) ≤ limit ∧
      (count = 0 → entries ≠ [] → 0 < taken) := by
  induction entries generalizing total count with
  | nil => exact ⟨0, Nat.le_refl 0, rfl, by simpa using hTotal, by simp⟩
  | cons entry entries ih =>
      obtain ⟨hEntry, hRest⟩ := List.forall_mem_cons.mp hFits
      unfold planFrom
      dsimp only
      split
      · rename_i hStop
        refine ⟨0, Nat.zero_le _, rfl, by simpa using hTotal, ?_⟩
        intro hZero
        omega
      · rename_i hGo
        have hNext : total + entry.data.length ≤ limit := by
          by_cases hCount : count = 0
          · have hNone := hStart hCount
            omega
          · omega
        obtain ⟨taken, hTaken, hPlan, hSize, -⟩ :=
          ih (count + 1) hRest hNext fun hZero => absurd hZero (Nat.succ_ne_zero count)
        refine ⟨taken + 1, ?_, ?_, ?_, fun _ _ => Nat.succ_pos taken⟩
        · rw [List.length_cons]
          omega
        · rw [hPlan]
          omega
        · rw [List.take_succ_cons, sizeOf_cons]
          omega

namespace RespQueue

variable {queue : RespQueue} {limit : Nat}

private theorem planBatch_spec (hLimit : limit ≠ 0)
    (hFits : ∀ entry ∈ queue.entries, entry.data.length ≤ limit)
    (hSome : queue.entries ≠ []) :
    0 < queue.planBatch limit ∧
      queue.planBatch limit ≤ queue.entries.length ∧
      sizeOf (queue.entries.take (queue.planBatch limit)) ≤ limit := by
  obtain ⟨taken, hTaken, hPlan, hSize, hPositive⟩ :=
    planFrom_spec 0 hFits (Nat.zero_le limit) fun _ => rfl
  have hLength : queue.entries.length ≠ 0 := by
    rwa [Ne, List.length_eq_zero_iff]
  have hBatch : queue.planBatch limit = taken := by
    unfold planBatch
    rw [if_neg hLength, if_neg hLimit, hPlan, Nat.zero_add]
  rw [hBatch]
  exact ⟨hPositive rfl hSome, hTaken, by omega⟩

private theorem popMany_spec {count : Nat} (h : count ≤ queue.entries.length) :
    (popMany count queue).1.entries = queue.entries.drop count ∧
      (popMany count queue).2 =
        (queue.entries.take count).map Entry.data := by
  induction count generalizing queue with
  | zero => exact ⟨rfl, rfl⟩
  | succ count ih =>
      have hEntries := entries_pop queue
      have hFrame := frame_pop queue
      obtain ⟨entry, entries, hCons⟩ :=
        List.exists_cons_of_length_pos (l := queue.entries) (by omega)
      rw [hCons] at hEntries hFrame h ⊢
      unfold popMany
      split
      · rename_i hPop
        rw [hPop] at hFrame
        cases hFrame
      · rename_i next frame hPop
        rw [hPop] at hEntries hFrame
        obtain rfl := Option.some.inj hFrame
        have hCount : count ≤ next.entries.length := by
          rw [hEntries]
          exact Nat.le_of_succ_le_succ h
        have hRest := ih hCount
        rw [hEntries] at hRest
        refine ⟨hRest.1, ?_⟩
        dsimp only
        rw [hRest.2]
        rfl

/-! ## Draining -/

private theorem drain_spec {rounds : Nat} (hLimit : limit ≠ 0)
    (hFits : ∀ entry ∈ queue.entries, entry.data.length ≤ limit)
    (hRounds : queue.entries.length ≤ rounds) :
    (drain limit rounds queue).1.entries = [] ∧
      (∀ batch ∈ (drain limit rounds queue).2,
        batch ≠ [] ∧ totalOctets batch ≤ limit) ∧
      (drain limit rounds queue).2.flatten =
        queue.entries.map Entry.data := by
  induction rounds generalizing queue with
  | zero =>
      have hNil := List.length_eq_zero_iff.mp (Nat.le_zero.mp hRounds)
      unfold drain
      rw [hNil]
      exact ⟨rfl, by simp, rfl⟩
  | succ rounds ih =>
      unfold drain
      split
      · rename_i hEmpty
        have hNil := List.length_eq_zero_iff.mp hEmpty
        rw [hNil]
        exact ⟨rfl, by simp, rfl⟩
      · rename_i hSome
        obtain ⟨hPositive, hLe, hSize⟩ := planBatch_spec hLimit hFits
          fun hNil => hSome (List.length_eq_zero_iff.mpr hNil)
        obtain ⟨hLeft, hBatch⟩ := popMany_spec hLe
        have hLeftFits : ∀ entry ∈
            (popMany (queue.planBatch limit) queue).1.entries,
            entry.data.length ≤ limit := by
          rw [hLeft]
          exact fun entry hMem => hFits entry (List.mem_of_mem_drop hMem)
        have hLeftRounds :
            (popMany (queue.planBatch limit) queue).1.entries.length ≤
              rounds := by
          rw [hLeft, List.length_drop]
          omega
        have hRest := ih hLeftFits hLeftRounds
        dsimp only
        refine ⟨hRest.1, ?_, ?_⟩
        · apply List.forall_mem_cons.mpr ⟨⟨?_, ?_⟩, hRest.2.1⟩
          · rw [hBatch]
            intro hNil
            have hLength := congrArg List.length hNil
            rw [List.length_map, List.length_take, List.length_nil] at hLength
            omega
          · rw [hBatch, totalOctets_data]
            exact hSize
        · rw [List.flatten_cons, hRest.2.2, hBatch, hLeft, ← List.map_append,
            List.take_append_drop]

/-! ## The entries of a queue in use -/

def EntriesFit (queue : RespQueue) : Prop :=
  queue.maxAvtpduSizeOctets ≠ 0 →
    ∀ entry ∈ queue.entries, entry.data.length ≤ queue.maxAvtpduSizeOctets

private theorem length_arrival_le {op : QueueOp} {entry : Entry}
    (hArrival : queue.arrival op = some entry)
    (hMax : queue.maxAvtpduSizeOctets ≠ 0) :
    entry.data.length ≤ queue.maxAvtpduSizeOctets := by
  have hAccepted : ∀ frame : Octets, queue.refuses frame.length ≠ true →
      frame.length ≤ queue.maxAvtpduSizeOctets := by
    intro frame hRefuses
    by_contra hLong
    apply hRefuses
    simp [refuses, hMax, Nat.lt_of_not_le hLong]
  unfold arrival at hArrival
  split at hArrival
  · split at hArrival
    · cases hArrival
    · rename_i hRefuses
      obtain rfl := Option.some.inj hArrival
      exact hAccepted _ hRefuses
  · split at hArrival
    · cases hArrival
    · rename_i hRefuses
      obtain rfl := Option.some.inj hArrival
      exact hAccepted _ hRefuses
  · cases hArrival

private theorem entriesFit_step (queue : RespQueue) (op : QueueOp)
    (h : queue.EntriesFit) : (queue.step op).1.EntriesFit := by
  unfold EntriesFit
  rw [(sameLimits_step queue op).2]
  intro hMax
  have hDoes := does_step queue op
  generalize queue.step op = result at hDoes
  cases hDoes with
  | refuses _ _ => exact h hMax
  | accepts hArrival hEvicts hEntries _ =>
      rw [hEntries, List.forall_mem_append, List.forall_mem_singleton]
      exact ⟨fun entry hMem => h hMax entry (hEvicts.sublist.subset hMem),
        length_arrival_le hArrival hMax⟩
  | pops hEntries _ =>
      rw [hEntries]
      exact fun entry hMem => h hMax entry (List.mem_of_mem_tail hMem)
  | clears hEntries _ =>
      rw [hEntries]
      exact h hMax

/-- Whatever was pushed, batches no smaller than the largest AVTPDU drain the
queue, in as many rounds as it has entries at most. -/
theorem drain_after (capacityOctets maxAvtpduSizeOctets limit : Nat)
    (hMax : maxAvtpduSizeOctets ≠ 0) (hLimit : maxAvtpduSizeOctets ≤ limit)
    (ops : List QueueOp) :
    let start := fresh capacityOctets maxAvtpduSizeOctets
    let queue := start.after ops
    let drained := drain limit queue.entries.length queue
    drained.1.entries = [] ∧
      (∀ batch ∈ drained.2, batch ≠ [] ∧ totalOctets batch ≤ limit) ∧
      drained.2.flatten = queue.entries.map Entry.data ∧
      queue.entries.Sublist (start.arrivals ops) := by
  intro start queue drained
  have hSame : queue.maxAvtpduSizeOctets = maxAvtpduSizeOctets :=
    (sameLimits_after start ops).2
  have hFit : queue.EntriesFit :=
    invariant_run (fun queue op => entriesFit_step queue op) ops
      (fun _ entry hMem => absurd hMem (List.not_mem_nil))
  have hFits : ∀ entry ∈ queue.entries, entry.data.length ≤ limit := by
    intro entry hMem
    have hLe := hFit (by rwa [hSame]) entry hMem
    omega
  obtain ⟨hEmpty, hBatches, hFlatten⟩ :=
    drain_spec (by omega) hFits (Nat.le_refl _)
  exact ⟨hEmpty, hBatches, hFlatten, entries_sublist start ops rfl⟩

theorem drain_after_three :
    (drain 4 3 ((fresh 0 4).after
      [.push [1, 2], .push [3, 4], .push [5, 6, 7]])).1.entries = [] :=
  (drain_after 0 4 4 (by decide) (by decide)
    [.push [1, 2], .push [3, 4], .push [5, 6, 7]]).1

end RespQueue

end CppRcp.Respqueue
