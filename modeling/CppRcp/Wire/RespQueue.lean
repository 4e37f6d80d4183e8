import CppRcp.Foundation.Octets
import Mathlib.Tactic

/-!
# The response queue

`respqueue.hpp`: encoded responses wait in arrival order, each under the
sequence number it was queued with.  A push that finds no room discards the
entry with the lowest sequence number, the first of them if several share it.
-/

namespace CppRcp.Respqueue

open CppRcp.Foundation

def maxEntries : Nat := 64

structure Entry where
  data : Octets
  sequenceNum : UInt8
  deriving DecidableEq, Repr

def sizeOf (entries : List Entry) : Nat :=
  (entries.map fun entry => entry.data.length).sum

@[simp] theorem sizeOf_nil : sizeOf [] = 0 := rfl

@[simp] theorem sizeOf_cons (entry : Entry) (entries : List Entry) :
    sizeOf (entry :: entries) = entry.data.length + sizeOf entries := rfl

@[simp] theorem sizeOf_append (a b : List Entry) :
    sizeOf (a ++ b) = sizeOf a + sizeOf b := by
  simp [sizeOf]

/-- The first entry with the lowest sequence number, and the others in
order. -/
def splitLowest : List Entry → Option (Entry × List Entry)
  | [] => none
  | entry :: entries =>
      match splitLowest entries with
      | none => some (entry, [])
      | some (lowest, rest) =>
          if lowest.sequenceNum < entry.sequenceNum then
            some (lowest, entry :: rest)
          else some (entry, entries)

theorem splitLowest_eq_none {entries : List Entry}
    (h : splitLowest entries = none) : entries = [] := by
  cases entries with
  | nil => rfl
  | cons entry entries =>
      simp only [splitLowest] at h
      split at h
      · cases h
      · split at h <;> cases h

theorem splitLowest_eq_some {entries rest : List Entry} {lowest : Entry}
    (h : splitLowest entries = some (lowest, rest)) :
    entries.Perm (lowest :: rest) := by
  induction entries generalizing lowest rest with
  | nil => cases h
  | cons entry entries ih =>
      simp only [splitLowest] at h
      split at h
      · next hNone =>
          cases h
          rw [splitLowest_eq_none hNone]
      · next low others hSome =>
          split at h
          · cases h
            exact ((ih hSome).cons entry).trans (List.Perm.swap _ _ _)
          · cases h
            exact List.Perm.refl _

theorem sizeOf_splitLowest {entries rest : List Entry} {lowest : Entry}
    (h : splitLowest entries = some (lowest, rest)) :
    sizeOf entries = lowest.data.length + sizeOf rest := by
  rw [← sizeOf_cons]
  exact ((splitLowest_eq_some h).map _).sum_eq

theorem length_splitLowest {entries rest : List Entry} {lowest : Entry}
    (h : splitLowest entries = some (lowest, rest)) :
    entries.length = rest.length + 1 :=
  (splitLowest_eq_some h).length_eq

/-- No queue holds more entries than it has room for, nor more octets than
its capacity, where 0 stands for no bound. -/
structure RespQueue where
  entries : List Entry := []
  octets : Nat := 0
  capacityOctets : Nat := 0
  maxAvtpduSizeOctets : Nat := 0
  nextSequenceNum : UInt8 := 0
  overflow : Bool := false
  octets_eq : octets = sizeOf entries := by rfl
  length_le : entries.length ≤ maxEntries := by decide
  octets_le : capacityOctets ≠ 0 → octets ≤ capacityOctets := by simp
  deriving DecidableEq, Repr

namespace RespQueue

def empty : RespQueue := {}

def needsRoom (queue : RespQueue) (frameLen : Nat) : Bool :=
  (queue.capacityOctets ≠ 0 &&
      decide (queue.capacityOctets - queue.octets < frameLen)) ||
    decide (queue.entries.length = maxEntries)

def evictOne (queue : RespQueue) : RespQueue :=
  match h : splitLowest queue.entries with
  | none => queue
  | some (lowest, rest) =>
      { queue with
        entries := rest
        octets := queue.octets - lowest.data.length
        overflow := true
        octets_eq := by
          rw [queue.octets_eq, sizeOf_splitLowest h, Nat.add_sub_cancel_left]
        length_le := by
          have hLength := length_splitLowest h
          have hLe := queue.length_le
          omega
        octets_le := fun hCapacity =>
          (Nat.sub_le _ _).trans (queue.octets_le hCapacity) }

def makeRoom (queue : RespQueue) (frameLen : Nat) : Nat → RespQueue
  | 0 => queue
  | fuel + 1 =>
      if queue.needsRoom frameLen then queue.evictOne.makeRoom frameLen fuel
      else queue

def refuses (queue : RespQueue) (frameLen : Nat) : Bool :=
  (queue.maxAvtpduSizeOctets ≠ 0 &&
      decide (queue.maxAvtpduSizeOctets < frameLen)) ||
    (queue.capacityOctets ≠ 0 && decide (queue.capacityOctets < frameLen))

theorem evictOne_of_none {queue : RespQueue}
    (h : splitLowest queue.entries = none) : queue.evictOne = queue := by
  unfold evictOne
  split
  · rfl
  · next hSome =>
      rw [h] at hSome
      cases hSome

theorem entries_evictOne {queue : RespQueue} {lowest : Entry}
    {rest : List Entry} (h : splitLowest queue.entries = some (lowest, rest)) :
    queue.evictOne.entries = rest := by
  unfold evictOne
  split
  · next hNone =>
      rw [h] at hNone
      cases hNone
  · next hSome =>
      rw [h] at hSome
      cases hSome
      rfl

structure SameLimits (a b : RespQueue) : Prop where
  capacityOctets : b.capacityOctets = a.capacityOctets
  maxAvtpduSizeOctets : b.maxAvtpduSizeOctets = a.maxAvtpduSizeOctets
  nextSequenceNum : b.nextSequenceNum = a.nextSequenceNum

theorem SameLimits.refl (queue : RespQueue) : SameLimits queue queue :=
  ⟨rfl, rfl, rfl⟩

theorem SameLimits.trans {a b c : RespQueue} (hab : SameLimits a b)
    (hbc : SameLimits b c) : SameLimits a c :=
  ⟨hbc.1.trans hab.1, hbc.2.trans hab.2, hbc.3.trans hab.3⟩

theorem sameLimits_evictOne (queue : RespQueue) :
    SameLimits queue queue.evictOne := by
  unfold evictOne
  split
  · exact .refl queue
  · exact ⟨rfl, rfl, rfl⟩

theorem sameLimits_makeRoom (queue : RespQueue) (frameLen fuel : Nat) :
    SameLimits queue (queue.makeRoom frameLen fuel) := by
  induction fuel generalizing queue with
  | zero => exact .refl queue
  | succ fuel ih =>
      unfold makeRoom
      split
      · exact (sameLimits_evictOne queue).trans (ih queue.evictOne)
      · exact .refl queue

private theorem refuses_congr {a b : RespQueue} (h : SameLimits a b)
    (frameLen : Nat) : b.refuses frameLen = a.refuses frameLen := by
  simp only [refuses, h.capacityOctets, h.maxAvtpduSizeOctets]

theorem needsRoom_of_nil {queue : RespQueue} {frameLen : Nat}
    (hEntries : queue.entries = []) (h : queue.refuses frameLen = false) :
    queue.needsRoom frameLen = false := by
  have hOctets : queue.octets = 0 := by
    rw [queue.octets_eq, hEntries, sizeOf_nil]
  simp only [refuses, Bool.or_eq_false_iff] at h
  simp only [needsRoom, hOctets, hEntries, Nat.sub_zero, h.2,
    Bool.false_or, List.length_nil]
  decide

private theorem needsRoom_makeRoom {queue : RespQueue} {frameLen fuel : Nat}
    (h : queue.refuses frameLen = false) (hFuel : queue.entries.length ≤ fuel) :
    (queue.makeRoom frameLen fuel).needsRoom frameLen = false := by
  induction fuel generalizing queue with
  | zero =>
      have hNil : queue.entries = [] :=
        List.length_eq_zero_iff.mp (Nat.le_zero.mp hFuel)
      exact needsRoom_of_nil hNil h
  | succ fuel ih =>
      unfold makeRoom
      split
      · apply ih
        · rw [refuses_congr (sameLimits_evictOne queue), h]
        · cases hSplit : splitLowest queue.entries with
          | none =>
              have hNil := splitLowest_eq_none hSplit
              rw [evictOne_of_none hSplit, hNil]
              exact Nat.zero_le _
          | some split =>
              rw [entries_evictOne hSplit]
              have hLength := length_splitLowest hSplit
              omega
      · next hRoom => simpa using hRoom

def pushSeq (queue : RespQueue) (frame : Octets) (sequenceNum : UInt8) :
    RespQueue × Bool :=
  if hRefuses : queue.refuses frame.length = true then (queue, false)
  else
    let made := queue.makeRoom frame.length queue.entries.length
    have hRoom : made.needsRoom frame.length = false :=
      needsRoom_makeRoom (by simpa using hRefuses) (Nat.le_refl _)
    ({ made with
        entries := made.entries ++ [⟨frame, sequenceNum⟩]
        octets := made.octets + frame.length
        octets_eq := by simp [made.octets_eq]
        length_le := by
          simp only [needsRoom, Bool.or_eq_false_iff,
            decide_eq_false_iff_not] at hRoom
          have hLe := made.length_le
          rw [List.length_append, List.length_singleton]
          omega
        octets_le := by
          intro hCapacity
          simp only [needsRoom, Bool.or_eq_false_iff, Bool.and_eq_false_iff,
            decide_eq_false_iff_not, Nat.not_lt, not_not] at hRoom
          have hFits := hRoom.1.resolve_left hCapacity
          have hLe := made.octets_le hCapacity
          omega }, true)

def push (queue : RespQueue) (frame : Octets) : RespQueue × Bool :=
  match queue.pushSeq frame queue.nextSequenceNum with
  | (queue, true) =>
      ({ queue with nextSequenceNum := queue.nextSequenceNum + 1 }, true)
  | (queue, false) => (queue, false)

def pop (queue : RespQueue) : RespQueue × Option Octets :=
  match h : queue.entries with
  | [] => (queue, none)
  | entry :: entries =>
      ({ queue with
          entries := entries
          octets := queue.octets - entry.data.length
          octets_eq := by
            rw [queue.octets_eq, h, sizeOf_cons, Nat.add_sub_cancel_left]
          length_le := by
            have hLe := queue.length_le
            rw [h, List.length_cons] at hLe
            omega
          octets_le := fun hCapacity =>
            (Nat.sub_le _ _).trans (queue.octets_le hCapacity) },
        some entry.data)

def clearOverflow (queue : RespQueue) : RespQueue :=
  { queue with overflow := false }

end RespQueue

/-- The longest fragment payload that fits a configured AVTPDU; 0 when none
does. -/
def maxFragmentPayload (maxAvtpduSizeOctets headerLen : Nat) : Nat :=
  if maxAvtpduSizeOctets = 0 then 0
  else if maxAvtpduSizeOctets ≤ headerLen + 3 then 0
  else maxAvtpduSizeOctets - (headerLen + 3)

end CppRcp.Respqueue
