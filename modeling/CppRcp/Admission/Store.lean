import CppRcp.Admission.Conditions
import CppRcp.Foundation.Table

/-!
# The request store of an endpoint

`server.hpp` keeps conditional requests in a fixed array of slots.  A slot that
is not in use holds the default request.
-/

namespace CppRcp.Server

open CppRcp.Foundation CppRcp.Acf CppRcp.Request

def maxPending : Nat := 32
def maxQueuedFrames : Nat := 32

structure PendingRequest where
  inUse : Bool := false
  category : RequestCategory := .standard
  requestType : Option RequestTypeOpcode := none
  transactionNum : UInt8 := 0
  sequence : Nat := 0
  frame : Octets := []
  compound : CompoundStep := {}
  compoundWaitEvt : UInt8 := 0
  compoundWaitTarget : Octets := []
  triggered : TriggeredStep := {}
  triggeredRuntime : TriggeredRuntime := {}
  presentationTime : Nat := 0
  chainExecDelay : UInt16 := 0
  chainCs : Bool := false
  chainGroup : Nat := 0
  chainPosition : Nat := 0
  armed : Bool := false
  armedAt : UInt32 := 0
  predecessorDone : Bool := false
  hasPresentationGate : Bool := false
  presentationGateNs : Nat := 0
  deriving DecidableEq, Repr

abbrev Slots := Table PendingRequest maxPending

namespace Slots

def empty : Slots := .replicate maxPending {}

/-- `pending(index)`: the request stored at an index, if one is. -/
def pending (slots : Slots) (index : Nat) : Option PendingRequest :=
  match slots.toList[index]? with
  | none => none
  | some slot => if slot.inUse then some slot else none

def firstFree (slots : Slots) : Option Nat :=
  slots.toList.findIdx? fun slot => !slot.inUse

def count (slots : Slots) (p : PendingRequest → Bool) : Nat :=
  slots.toList.countP fun slot => slot.inUse && p slot

/-- `release_slot` on every stored request that satisfies a condition. -/
def releaseWhere (slots : Slots) (p : PendingRequest → Bool) : Slots :=
  slots.map fun slot => if slot.inUse && p slot then {} else slot

theorem pending_eq_some {slots : Slots} {index : Nat}
    {slot : PendingRequest} :
    slots.pending index = some slot ↔
      slots.toList[index]? = some slot ∧ slot.inUse = true := by
  unfold pending
  cases h : slots.toList[index]? with
  | none => simp
  | some found =>
      by_cases hUse : found.inUse = true
      · simp only [hUse, if_true, Option.some.injEq]
        constructor
        · rintro rfl
          exact ⟨rfl, hUse⟩
        · exact fun h => h.1
      · simp only [hUse, if_false, Option.some.injEq, reduceCtorEq,
          false_iff, not_and]
        rintro rfl
        exact hUse

theorem pending_set_self {slots : Slots} {index : Nat}
    {slot : PendingRequest} (h : index < maxPending)
    (hUse : slot.inUse = true) :
    pending (slots.set index slot) index = some slot := by
  rw [pending_eq_some]
  exact ⟨Table.getElem?_set_self h, hUse⟩

theorem pending_set_ne {slots : Slots} {index other : Nat}
    {slot : PendingRequest} (h : index ≠ other) :
    pending (slots.set index slot) other = slots.pending other := by
  simp only [pending, Table.getElem?_set_ne h]

theorem pending_releaseWhere (slots : Slots) (p : PendingRequest → Bool)
    (index : Nat) :
    (slots.releaseWhere p).pending index =
      (slots.pending index).filter fun slot => !p slot := by
  simp only [pending, releaseWhere, Table.map, List.getElem?_map]
  cases h : slots.toList[index]? with
  | none => simp
  | some slot =>
      cases hUse : slot.inUse <;> cases hp : p slot <;> simp [hUse, hp, Option.filter]

theorem firstFree_lt {slots : Slots} {index : Nat}
    (h : slots.firstFree = some index) : index < maxPending := by
  have := List.findIdx?_eq_some_iff_getElem.mp h
  obtain ⟨hLength, -⟩ := this
  rwa [slots.length_eq] at hLength

theorem pending_firstFree {slots : Slots} {index : Nat}
    (h : slots.firstFree = some index) : slots.pending index = none := by
  have := List.findIdx?_eq_some_iff_getElem.mp h
  obtain ⟨hLength, hFree, -⟩ := this
  simp only [Bool.not_eq_true'] at hFree
  simp [pending, List.getElem?_eq_getElem hLength, hFree]

end Slots

end CppRcp.Server
