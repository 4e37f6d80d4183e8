import CppRcp.Foundation.Runs
import CppRcp.Wire.Eviction

/-!
# Runs of the response queue

A queue is used through its four operations.  Beside each operation stand the
entries it loses to make room; a run keeps the entries in arrival order, loses
at each turn an entry with the least sequence number present, and latches the
overflow bit exactly when an entry was lost since the bit was last cleared.
-/

namespace CppRcp.Respqueue

open CppRcp.Foundation

inductive QueueOp
  | push (frame : Octets)
  | pushSeq (frame : Octets) (sequenceNum : UInt8)
  | pop
  | clearOverflow
  deriving DecidableEq, Repr

inductive QueueReply
  | pushed (accepted : Bool)
  | popped (frame : Option Octets)
  | cleared
  deriving DecidableEq, Repr

def QueueOp.isPush : QueueOp → Bool
  | .push _ | .pushSeq _ _ => true
  | _ => false

/-- `Evicts before lost after`: one after another, `lost` leave `before`, each
with the least sequence number of the entries present. -/
inductive Evicts : List Entry → List Entry → List Entry → Prop
  | done (entries : List Entry) : Evicts entries [] entries
  | lose {front back lost after : List Entry} {lowest : Entry}
      (hLeast : ∀ entry ∈ front ++ lowest :: back,
        lowest.sequenceNum ≤ entry.sequenceNum)
      (hRest : Evicts (front ++ back) lost after) :
      Evicts (front ++ lowest :: back) (lowest :: lost) after

theorem Evicts.sublist {before lost after : List Entry}
    (h : Evicts before lost after) : after.Sublist before := by
  induction h with
  | done => exact List.Sublist.refl _
  | lose _ _ ih => exact ih.trans (by simp)

/-! ## One eviction -/

private theorem splitLowest_split {entries rest : List Entry} {lowest : Entry}
    (h : splitLowest entries = some (lowest, rest)) :
    ∃ front back, entries = front ++ lowest :: back ∧ rest = front ++ back := by
  induction entries generalizing lowest rest with
  | nil => cases h
  | cons head tail ih =>
      simp only [splitLowest] at h
      split at h
      · next hNone =>
          cases h
          exact ⟨[], [], by rw [splitLowest_eq_none hNone]; rfl, rfl⟩
      · next low others hSome =>
          split at h
          · cases h
            obtain ⟨front, back, rfl, rfl⟩ := ih hSome
            exact ⟨head :: front, back, rfl, rfl⟩
          · cases h
            exact ⟨[], tail, rfl, rfl⟩

namespace RespQueue

def evictedBy (queue : RespQueue) (frameLen : Nat) : Nat → List Entry
  | 0 => []
  | fuel + 1 =>
      if queue.needsRoom frameLen then
        match splitLowest queue.entries with
        | none => queue.evictOne.evictedBy frameLen fuel
        | some (lowest, _) =>
            lowest :: queue.evictOne.evictedBy frameLen fuel
      else []

private theorem evicts_makeRoom (queue : RespQueue) (frameLen fuel : Nat) :
    Evicts queue.entries (queue.evictedBy frameLen fuel)
      (queue.makeRoom frameLen fuel).entries := by
  induction fuel generalizing queue with
  | zero => exact .done _
  | succ fuel ih =>
      unfold makeRoom evictedBy
      by_cases hRoom : queue.needsRoom frameLen = true
      · rw [if_pos hRoom, if_pos hRoom]
        have hNext := ih queue.evictOne
        cases hSplit : splitLowest queue.entries with
        | none =>
            rw [evictOne_of_none hSplit] at hNext ⊢
            exact hNext
        | some split =>
            obtain ⟨lowest, rest⟩ := split
            have hLeast := splitLowest_le hSplit
            obtain ⟨front, back, hEntries, rfl⟩ := splitLowest_split hSplit
            rw [entries_evictOne hSplit] at hNext
            rw [hEntries] at hLeast ⊢
            exact .lose hLeast hNext
      · rw [if_neg hRoom, if_neg hRoom]
        exact .done _

private theorem overflow_makeRoom (queue : RespQueue) (frameLen fuel : Nat) :
    (queue.makeRoom frameLen fuel).overflow = true ↔
      queue.overflow = true ∨ queue.evictedBy frameLen fuel ≠ [] := by
  induction fuel generalizing queue with
  | zero => simp [makeRoom, evictedBy]
  | succ fuel ih =>
      unfold makeRoom evictedBy
      by_cases hRoom : queue.needsRoom frameLen = true
      · rw [if_pos hRoom, if_pos hRoom, ih]
        cases hSplit : splitLowest queue.entries with
        | none => rw [evictOne_of_none hSplit]
        | some split =>
            have hLatched : queue.evictOne.overflow = true := by
              unfold evictOne
              split
              · next hNone =>
                  rw [hSplit] at hNone
                  cases hNone
              · rfl
            simp [hLatched]
      · rw [if_neg hRoom, if_neg hRoom]
        simp

/-! ## One operation -/

def step (queue : RespQueue) : QueueOp → RespQueue × QueueReply
  | .push frame =>
      let result := queue.push frame
      (result.1, .pushed result.2)
  | .pushSeq frame sequenceNum =>
      let result := queue.pushSeq frame sequenceNum
      (result.1, .pushed result.2)
  | .pop =>
      let result := queue.pop
      (result.1, .popped result.2)
  | .clearOverflow => (queue.clearOverflow, .cleared)

/-- The entry an operation puts at the end of the queue. -/
def arrival (queue : RespQueue) : QueueOp → Option Entry
  | .push frame =>
      if queue.refuses frame.length then none
      else some ⟨frame, queue.nextSequenceNum⟩
  | .pushSeq frame sequenceNum =>
      if queue.refuses frame.length then none
      else some ⟨frame, sequenceNum⟩
  | _ => none

def lostBy (queue : RespQueue) (op : QueueOp) : List Entry :=
  match queue.arrival op with
  | none => []
  | some entry => queue.evictedBy entry.data.length queue.entries.length

inductive Does (queue : RespQueue) : QueueOp → RespQueue × QueueReply → Prop
  | refuses {op : QueueOp} (hPush : op.isPush = true) (hArrival : queue.arrival op = none) :
      Does queue op (queue, .pushed false)
  | accepts {op : QueueOp} {next : RespQueue} {entry : Entry}
      {kept : List Entry} (hArrival : queue.arrival op = some entry)
      (hEvicts : Evicts queue.entries (queue.lostBy op) kept)
      (hEntries : next.entries = kept ++ [entry])
      (hOverflow : next.overflow = true ↔
        queue.overflow = true ∨ queue.lostBy op ≠ []) :
      Does queue op (next, .pushed true)
  | pops {next : RespQueue}
      (hEntries : next.entries = queue.entries.tail)
      (hOverflow : next.overflow = queue.overflow) :
      Does queue .pop
        (next, .popped (queue.entries.head?.map Entry.data))
  | clears {next : RespQueue} (hEntries : next.entries = queue.entries)
      (hOverflow : next.overflow = false) :
      Does queue .clearOverflow (next, .cleared)

theorem entries_pop (queue : RespQueue) :
    queue.pop.1.entries = queue.entries.tail := by
  unfold pop
  split
  · next hNil => simp [hNil]
  · next hCons => simp [hCons]

theorem frame_pop (queue : RespQueue) :
    queue.pop.2 = queue.entries.head?.map Entry.data := by
  unfold pop
  split
  · next hNil => simp [hNil]
  · next hCons => simp [hCons]

private theorem overflow_pop (queue : RespQueue) :
    queue.pop.1.overflow = queue.overflow := by
  unfold pop
  split <;> rfl

private theorem pushSeq_of_refuses {queue : RespQueue} {frame : Octets}
    (h : queue.refuses frame.length = true) (sequenceNum : UInt8) :
    queue.pushSeq frame sequenceNum = (queue, false) := by
  unfold pushSeq
  rw [dif_pos h]

private theorem does_accept {queue next : RespQueue} {op : QueueOp}
    {frame : Octets} {sequenceNum : UInt8}
    (hArrival : queue.arrival op = some ⟨frame, sequenceNum⟩)
    (hEntries : next.entries =
      (queue.makeRoom frame.length queue.entries.length).entries ++
        [⟨frame, sequenceNum⟩])
    (hOverflow : next.overflow =
      (queue.makeRoom frame.length queue.entries.length).overflow) :
    Does queue op (next, .pushed true) := by
  have hLost : queue.lostBy op =
      queue.evictedBy frame.length queue.entries.length := by
    unfold lostBy
    rw [hArrival]
  apply Does.accepts hArrival _ hEntries
  · rw [hOverflow, hLost]
    exact overflow_makeRoom ..
  · rw [hLost]
    exact evicts_makeRoom ..

theorem does_step (queue : RespQueue) (op : QueueOp) :
    Does queue op (queue.step op) := by
  cases op with
  | push frame =>
      have hStep : queue.step (.push frame) =
          ((queue.push frame).1, .pushed (queue.push frame).2) := rfl
      cases hRefuses : queue.refuses frame.length with
      | true =>
          rw [hStep, push_of_refuses hRefuses]
          exact .refuses rfl (by simp [arrival, hRefuses])
      | false =>
          have hNot : ¬ queue.refuses frame.length = true := by
            simp [hRefuses]
          have hDone : (queue.push frame).2 = true := by
            simp only [push, pushSeq, hNot]
            rfl
          rw [hStep, hDone]
          apply does_accept (by simp only [arrival, hRefuses]; rfl)
          · simp only [push, pushSeq, hNot]
            rfl
          · simp only [push, pushSeq, hNot]
            rfl
  | pushSeq frame sequenceNum =>
      have hStep : queue.step (.pushSeq frame sequenceNum) =
          ((queue.pushSeq frame sequenceNum).1,
            .pushed (queue.pushSeq frame sequenceNum).2) := rfl
      cases hRefuses : queue.refuses frame.length with
      | true =>
          rw [hStep, pushSeq_of_refuses hRefuses]
          exact .refuses rfl (by simp [arrival, hRefuses])
      | false =>
          have hNot : ¬ queue.refuses frame.length = true := by
            simp [hRefuses]
          have hDone : (queue.pushSeq frame sequenceNum).2 = true := by
            rw [pushSeq, dif_neg hNot]
          rw [hStep, hDone]
          apply does_accept (by simp only [arrival, hRefuses]; rfl)
          · rw [pushSeq, dif_neg hNot]
          · rw [pushSeq, dif_neg hNot]
  | pop =>
      have hStep : queue.step .pop = (queue.pop.1, .popped queue.pop.2) := rfl
      rw [hStep, frame_pop]
      exact .pops (entries_pop queue) (overflow_pop queue)
  | clearOverflow => exact .clears rfl rfl

theorem sameLimits_step (queue : RespQueue) (op : QueueOp) :
    (queue.step op).1.capacityOctets = queue.capacityOctets ∧
      (queue.step op).1.maxAvtpduSizeOctets = queue.maxAvtpduSizeOctets := by
  have hPush : ∀ frame sequenceNum,
      SameLimits queue (queue.pushSeq frame sequenceNum).1 := by
    intro frame sequenceNum
    unfold pushSeq
    split
    · exact .refl queue
    · have hRoom :=
        sameLimits_makeRoom queue frame.length queue.entries.length
      exact ⟨hRoom.1, hRoom.2, hRoom.3⟩
  cases op with
  | push frame =>
      have hSame := hPush frame queue.nextSequenceNum
      change (queue.push frame).1.capacityOctets = _ ∧
        (queue.push frame).1.maxAvtpduSizeOctets = _
      unfold push
      split
      · next hEq =>
          rw [hEq] at hSame
          exact ⟨hSame.capacityOctets, hSame.maxAvtpduSizeOctets⟩
      · next hEq =>
          rw [hEq] at hSame
          exact ⟨hSame.capacityOctets, hSame.maxAvtpduSizeOctets⟩
  | pushSeq frame sequenceNum =>
      have hSame := hPush frame sequenceNum
      exact ⟨hSame.capacityOctets, hSame.maxAvtpduSizeOctets⟩
  | pop =>
      change queue.pop.1.capacityOctets = _ ∧
        queue.pop.1.maxAvtpduSizeOctets = _
      unfold pop
      split <;> exact ⟨rfl, rfl⟩
  | clearOverflow => exact ⟨rfl, rfl⟩

/-! ## Whole runs -/

def fresh (capacityOctets maxAvtpduSizeOctets : Nat) : RespQueue :=
  { empty with
    capacityOctets := capacityOctets
    maxAvtpduSizeOctets := maxAvtpduSizeOctets
    octets_le := fun _ => Nat.zero_le _ }

/-- The queue after a list of operations. -/
def after (queue : RespQueue) (ops : List QueueOp) : RespQueue :=
  (run step queue ops).1

def arrivals : RespQueue → List QueueOp → List Entry
  | _, [] => []
  | queue, op :: ops =>
      (queue.arrival op).toList ++ arrivals (queue.step op).1 ops

private theorem after_snoc (queue : RespQueue) (ops : List QueueOp)
    (op : QueueOp) :
    queue.after (ops ++ [op]) = ((queue.after ops).step op).1 := by
  unfold after
  rw [run_append]
  rfl

private theorem arrivals_snoc (queue : RespQueue) (ops : List QueueOp)
    (op : QueueOp) :
    queue.arrivals (ops ++ [op]) =
      queue.arrivals ops ++ ((queue.after ops).arrival op).toList := by
  induction ops generalizing queue with
  | nil => simp [arrivals, after]
  | cons first ops ih =>
      rw [List.cons_append, arrivals, ih, arrivals, List.append_assoc]
      rfl

theorem sameLimits_after (queue : RespQueue) (ops : List QueueOp) :
    (queue.after ops).capacityOctets = queue.capacityOctets ∧
      (queue.after ops).maxAvtpduSizeOctets = queue.maxAvtpduSizeOctets := by
  induction ops using List.reverseRecOn with
  | nil => exact ⟨rfl, rfl⟩
  | append_singleton ops op ih =>
      have hStep := sameLimits_step (queue.after ops) op
      rw [after_snoc]
      exact ⟨hStep.1.trans ih.1, hStep.2.trans ih.2⟩

theorem entries_sublist (queue : RespQueue) (ops : List QueueOp)
    (hEmpty : queue.entries = []) :
    (queue.after ops).entries.Sublist (queue.arrivals ops) := by
  induction ops using List.reverseRecOn with
  | nil =>
      change queue.entries.Sublist []
      rw [hEmpty]
  | append_singleton ops op ih =>
      rw [after_snoc, arrivals_snoc]
      have hDoes := does_step (queue.after ops) op
      generalize (queue.after ops).step op = result at hDoes
      cases hDoes with
      | refuses _ hArrival => simpa [hArrival] using ih
      | accepts hArrival hEvicts hEntries _ =>
          rw [hArrival, hEntries]
          exact (hEvicts.sublist.trans ih).append (List.Sublist.refl _)
      | pops hEntries _ =>
          rw [hEntries]
          exact ((List.tail_sublist _).trans ih).trans (by simp)
      | clears hEntries _ =>
          rw [hEntries]
          exact ih.trans (by simp)

/-- An operation of the run lost an entry, and the bit was not cleared
since. -/
def LostSinceClear (queue : RespQueue) (ops : List QueueOp) : Prop :=
  ∃ before op rest, ops = before ++ op :: rest ∧
    (queue.after before).lostBy op ≠ [] ∧ QueueOp.clearOverflow ∉ rest

private theorem lostSinceClear_snoc (queue : RespQueue) (ops : List QueueOp)
    (op : QueueOp) :
    queue.LostSinceClear (ops ++ [op]) ↔
      (queue.after ops).lostBy op ≠ [] ∨
        queue.LostSinceClear ops ∧ op ≠ .clearOverflow := by
  constructor
  · rintro ⟨before, lossy, rest, hOps, hLost, hClear⟩
    rcases List.eq_nil_or_concat rest with rfl | ⟨front, last, rfl⟩
    · obtain ⟨rfl, hSame⟩ := List.append_inj' hOps rfl
      rw [List.singleton_inj] at hSame
      rw [hSame]
      exact .inl hLost
    · rw [List.concat_eq_append, ← List.cons_append,
        ← List.append_assoc] at hOps
      obtain ⟨rfl, hSame⟩ := List.append_inj' hOps rfl
      rw [List.singleton_inj] at hSame
      rw [List.concat_eq_append, List.mem_append, not_or] at hClear
      right
      refine ⟨⟨before, lossy, front, rfl, hLost, hClear.1⟩, ?_⟩
      rintro rfl
      exact hClear.2 (by simp [hSame])
  · rintro (hLost | ⟨⟨before, lossy, rest, rfl, hLost, hClear⟩, hOther⟩)
    · exact ⟨ops, op, [], rfl, hLost, by simp⟩
    · refine ⟨before, lossy, rest ++ [op], by simp, hLost, ?_⟩
      rw [List.mem_append, not_or]
      exact ⟨hClear, by simpa using hOther.symm⟩

/-- The overflow bit is set exactly when an entry was lost since it was last
cleared. -/
theorem overflow_iff (queue : RespQueue) (ops : List QueueOp)
    (hClear : queue.overflow = false) :
    (queue.after ops).overflow = true ↔ queue.LostSinceClear ops := by
  induction ops using List.reverseRecOn with
  | nil =>
      change queue.overflow = true ↔ _
      simp [hClear, LostSinceClear]
  | append_singleton ops op ih =>
      rw [after_snoc, lostSinceClear_snoc, ← ih]
      have hDoes := does_step (queue.after ops) op
      generalize (queue.after ops).step op = result at hDoes
      cases hDoes with
      | refuses hPush hArrival =>
          have hLost : (queue.after ops).lostBy op = [] := by
            unfold lostBy
            rw [hArrival]
          have hOp : op ≠ .clearOverflow := by
            rintro rfl
            cases hPush
          simp [hLost, hOp]
      | accepts hArrival _ _ hOverflow =>
          have hOp : op ≠ .clearOverflow := by
            rintro rfl
            cases hArrival
          rw [hOverflow]
          simp only [ne_eq, hOp, not_false_eq_true, and_true]
          exact or_comm
      | pops _ hOverflow => simp [hOverflow, lostBy, arrival]
      | clears _ hOverflow => simp [hOverflow, lostBy, arrival]

/-- The laws of a response queue along every run from an empty queue. -/
theorem queue_run (capacityOctets maxAvtpduSizeOctets : Nat)
    (ops : List QueueOp) :
    let start := fresh capacityOctets maxAvtpduSizeOctets
    let queue := start.after ops
    queue.octets = (queue.entries.map fun entry => entry.data.length).sum ∧
    (capacityOctets ≠ 0 → queue.octets ≤ capacityOctets) ∧
    queue.entries.length ≤ maxEntries ∧
    queue.entries.Sublist (start.arrivals ops) ∧
    (queue.overflow = true ↔ start.LostSinceClear ops) ∧
    ∀ op, Does queue op (queue.step op) := by
  intro start queue
  refine ⟨queue.octets_eq, ?_, queue.length_le, ?_, ?_, does_step queue⟩
  · intro hCapacity
    have hSame := (sameLimits_after start ops).1
    have hLe := queue.octets_le (by
      change (start.after ops).capacityOctets ≠ 0
      rw [hSame]
      exact hCapacity)
    exact hLe.trans_eq hSame
  · exact entries_sublist start ops rfl
  · exact overflow_iff start ops rfl

end RespQueue

end CppRcp.Respqueue
