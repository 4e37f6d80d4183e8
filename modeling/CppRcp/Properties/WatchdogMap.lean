import CppRcp.Foundation.Runs
import CppRcp.Streams.WatchdogManager

/-!
# The watchdog manager is a finite map

The abstract manager holds a finite map from stream keys to watchdogs.  An
operation on a stream reads and writes the entry of that stream; that the map
is full matters only to the registration of a new one.  The table of slots
refines it, in whatever order its slots are filled and vacated.
-/

namespace CppRcp.Watchdog

open CppRcp.Foundation CppRcp.E2e

/-! ## The abstract manager -/

structure WatchdogMap where
  entries : Finmap fun _ : UInt64 => StreamWatchdog
  callbacks : List Callback

def entryStep (room : Bool) (callbacks : List Callback) (streamKey : UInt64) :
    Option StreamWatchdog → Action → Option StreamWatchdog × Reply
  | none, .register =>
      if room then (some {}, .code none)
      else (none, .code (some .streamCapacityExceeded))
  | some stream, .register => (some stream, .code none)
  | _, .unregister => (none, .done)
  | none, .kick _ => (none, .code (some .streamNotRegistered))
  | some stream, .kick nowMs =>
      (some (stream.kickFromRequest nowMs), .code none)
  | none, .poll _ ledger _ =>
      (none, .polled ledger [] (some .streamNotRegistered))
  | some stream, .poll cfg ledger nowMs =>
      let checked := stream.check streamKey cfg ledger nowMs
      (some checked.1,
        .polled checked.2.1
          (checked.2.2.toList.flatMap fun event =>
            callbacks.map fun callback => (callback, event))
          none)
  | none, .clearSafeState => (none, .code (some .streamNotRegistered))
  | some stream, .clearSafeState => (some stream.clearSafeState, .code none)
  | entry, .isRegistered => (entry, .answer entry.isSome)
  | entry, .inSafeState => (entry, .answer (entry.any (·.inSafeState)))

def setEntry (entries : Finmap fun _ : UInt64 => StreamWatchdog)
    (streamKey : UInt64) :
    Option StreamWatchdog → Finmap fun _ : UInt64 => StreamWatchdog
  | none => entries.erase streamKey
  | some stream => entries.insert streamKey stream

def mapStep (map : WatchdogMap) : Op → WatchdogMap × Reply
  | .on streamKey action =>
      let result := entryStep (decide (map.entries.keys.card < maxStreams))
        map.callbacks streamKey (map.entries.lookup streamKey) action
      ({ map with entries := setEntry map.entries streamKey result.1 },
        result.2)
  | .subscribe callback =>
      if map.callbacks.length < maxCallbacks then
        ({ map with callbacks := map.callbacks ++ [callback] }, .code none)
      else (map, .code (some .callbackCapacityExceeded))

section Entries

variable {entries : Finmap fun _ : UInt64 => StreamWatchdog}
  {streamKey other : UInt64} {entry : Option StreamWatchdog}

@[simp] theorem lookup_setEntry_self :
    (setEntry entries streamKey entry).lookup streamKey = entry := by
  cases entry with
  | none => exact Finmap.lookup_erase _ _
  | some stream => exact Finmap.lookup_insert _

private theorem lookup_setEntry_ne (h : other ≠ streamKey) :
    (setEntry entries streamKey entry).lookup other =
      entries.lookup other := by
  cases entry with
  | none => exact Finmap.lookup_erase_ne h
  | some stream => exact Finmap.lookup_insert_of_ne _ h

private theorem setEntry_lookup :
    setEntry entries streamKey (entries.lookup streamKey) = entries := by
  apply Finmap.ext_lookup
  intro other
  by_cases h : other = streamKey
  · subst h
    exact lookup_setEntry_self
  · exact lookup_setEntry_ne h

end Entries

/-! ## Refinement -/

def Manager.toMap (manager : Manager) : WatchdogMap :=
  ⟨manager.streams.toMap, manager.callbacks⟩

section Refinement

variable {manager : Manager} {streamKey : UInt64}

private theorem mapStep_none {action : Action}
    (h : manager.streams.findIndex streamKey = none) :
    mapStep manager.toMap (.on streamKey action) =
      let result := entryStep (decide (manager.streams.len < maxStreams))
        manager.callbacks streamKey none action
      (⟨setEntry manager.streams.toMap streamKey result.1,
        manager.callbacks⟩, result.2) := by
  simp only [mapStep, Manager.toMap, SlotTable.lookup_toMap_of_none h,
    SlotTable.card_keys_toMap]

private theorem mapStep_some {action : Action} {i : Nat}
    (h : manager.streams.findIndex streamKey = some i) :
    mapStep manager.toMap (.on streamKey action) =
      let result := entryStep (decide (manager.streams.len < maxStreams))
        manager.callbacks streamKey (some (manager.streamAt i)) action
      (⟨setEntry manager.streams.toMap streamKey result.1,
        manager.callbacks⟩, result.2) := by
  simp only [mapStep, Manager.toMap, SlotTable.lookup_toMap_of_some h,
    SlotTable.card_keys_toMap, Manager.streamAt]

private theorem mapStep_absent {action : Action} {reply : Reply}
    (h : manager.streams.findIndex streamKey = none)
    (hStep : entryStep (decide (manager.streams.len < maxStreams))
      manager.callbacks streamKey none action = (none, reply)) :
    mapStep manager.toMap (.on streamKey action) = (manager.toMap, reply) := by
  have hKept : setEntry manager.streams.toMap streamKey none =
      manager.streams.toMap := by
    rw [← SlotTable.lookup_toMap_of_none h]
    exact setEntry_lookup
  rw [mapStep_none h, hStep]
  dsimp only
  rw [hKept]
  rfl

private theorem mapStep_kept {action : Action} {reply : Reply} {i : Nat}
    (h : manager.streams.findIndex streamKey = some i)
    (hStep : entryStep (decide (manager.streams.len < maxStreams))
      manager.callbacks streamKey (some (manager.streamAt i)) action =
        (some (manager.streamAt i), reply)) :
    mapStep manager.toMap (.on streamKey action) = (manager.toMap, reply) := by
  have hKept : setEntry manager.streams.toMap streamKey
      (some (manager.streamAt i)) = manager.streams.toMap := by
    have hLookup := SlotTable.lookup_toMap_of_some h
    unfold Manager.streamAt
    rw [← hLookup]
    exact setEntry_lookup
  rw [mapStep_some h, hStep]
  dsimp only
  rw [hKept]
  rfl

private theorem mapStep_set {action : Action} {reply : Reply} {i : Nat}
    {stream : StreamWatchdog}
    (h : manager.streams.findIndex streamKey = some i)
    (hStep : entryStep (decide (manager.streams.len < maxStreams))
      manager.callbacks streamKey (some (manager.streamAt i)) action =
        (some stream, reply)) :
    mapStep manager.toMap (.on streamKey action) =
      ((manager.setStream streamKey i stream h).toMap, reply) := by
  have hPut : (manager.setStream streamKey i stream h).toMap =
      ⟨setEntry manager.streams.toMap streamKey (some stream),
        manager.callbacks⟩ :=
    congrArg (WatchdogMap.mk · manager.callbacks) (SlotTable.toMap_put h)
  rw [mapStep_some h, hStep, hPut]

private theorem registerStream_refines (manager : Manager)
    (streamKey : UInt64) :
    mapStep manager.toMap (.on streamKey .register) =
      ((manager.registerStream streamKey).1.toMap,
        .code (manager.registerStream streamKey).2) := by
  unfold Manager.registerStream
  split
  · next i hIndex => exact mapStep_kept hIndex rfl
  · next hFresh =>
      split
      · next hRoom =>
          have hPush := @SlotTable.toMap_push _ _ _ _ _ _
            ({} : StreamWatchdog) hFresh hRoom
          rw [mapStep_none hFresh]
          simp [entryStep, hRoom, setEntry, Manager.toMap, hPush]
      · next hFull =>
          exact mapStep_absent hFresh (by simp [entryStep, hFull])

private theorem unregisterStream_refines (manager : Manager)
    (streamKey : UInt64) :
    mapStep manager.toMap (.on streamKey .unregister) =
      ((manager.unregisterStream streamKey).toMap, .done) := by
  unfold Manager.unregisterStream
  split
  · next hIndex => exact mapStep_absent hIndex rfl
  · next i hIndex =>
      rw [mapStep_some hIndex]
      simp [entryStep, setEntry, Manager.toMap, SlotTable.toMap_remove hIndex]

private theorem onRequestReceived_refines (manager : Manager)
    (streamKey : UInt64) (nowMs : Nat) :
    mapStep manager.toMap (.on streamKey (.kick nowMs)) =
      ((manager.onRequestReceived streamKey nowMs).1.toMap,
        .code (manager.onRequestReceived streamKey nowMs).2) := by
  unfold Manager.onRequestReceived
  split
  · next hIndex => exact mapStep_absent hIndex rfl
  · next i hIndex => exact mapStep_set hIndex rfl

private theorem clearSafeState_refines (manager : Manager)
    (streamKey : UInt64) :
    mapStep manager.toMap (.on streamKey .clearSafeState) =
      ((manager.clearSafeState streamKey).1.toMap,
        .code (manager.clearSafeState streamKey).2) := by
  unfold Manager.clearSafeState
  split
  · next hIndex => exact mapStep_absent hIndex rfl
  · next i hIndex => exact mapStep_set hIndex rfl

private theorem poll_refines (manager : Manager) (streamKey : UInt64)
    (cfg : Regmap.RequestStreamConfig) (ledger : Request.RequestLedger)
    (nowMs : Nat) :
    let result := manager.poll streamKey cfg ledger nowMs
    mapStep manager.toMap (.on streamKey (.poll cfg ledger nowMs)) =
      (result.1.toMap, .polled result.2.1 result.2.2.1 result.2.2.2) := by
  unfold Manager.poll
  dsimp only
  split
  · next hIndex => exact mapStep_absent hIndex rfl
  · next i hIndex =>
      apply mapStep_set hIndex
      dsimp only [entryStep]
      cases ((manager.streamAt i).check streamKey cfg ledger nowMs).2.2 <;>
        simp

private theorem isRegistered_refines (manager : Manager) (streamKey : UInt64) :
    mapStep manager.toMap (.on streamKey .isRegistered) =
      (manager.toMap, .answer (manager.isRegistered streamKey)) := by
  unfold Manager.isRegistered
  cases hIndex : manager.streams.findIndex streamKey with
  | none => exact mapStep_absent hIndex rfl
  | some i => exact mapStep_kept hIndex rfl

private theorem inSafeState_refines (manager : Manager) (streamKey : UInt64) :
    mapStep manager.toMap (.on streamKey .inSafeState) =
      (manager.toMap, .answer (manager.inSafeState streamKey)) := by
  unfold Manager.inSafeState
  cases hIndex : manager.streams.findIndex streamKey with
  | none => exact mapStep_absent hIndex rfl
  | some i => exact mapStep_kept hIndex rfl

private theorem subscribe_refines (manager : Manager) (callback : Callback) :
    mapStep manager.toMap (.subscribe callback) =
      ((manager.subscribe callback).1.toMap,
        .code (manager.subscribe callback).2) := by
  unfold Manager.subscribe
  split
  · next hRoom => simp [mapStep, Manager.toMap, hRoom]
  · next hFull => simp [mapStep, Manager.toMap, hFull]

private theorem managerStep_refines (manager : Manager) (op : Op) :
    mapStep manager.toMap op =
      ((managerStep manager op).1.toMap, (managerStep manager op).2) := by
  cases op with
  | subscribe callback => exact subscribe_refines manager callback
  | on streamKey action =>
      cases action with
      | register => exact registerStream_refines manager streamKey
      | unregister => exact unregisterStream_refines manager streamKey
      | kick nowMs => exact onRequestReceived_refines manager streamKey nowMs
      | poll cfg ledger nowMs =>
          exact poll_refines manager streamKey cfg ledger nowMs
      | clearSafeState => exact clearSafeState_refines manager streamKey
      | isRegistered => exact isRegistered_refines manager streamKey
      | inSafeState => exact inSafeState_refines manager streamKey

private theorem toMap_managerStep (manager : Manager) (op : Op) :
    (managerStep manager op).1.toMap = (mapStep manager.toMap op).1 := by
  rw [managerStep_refines]

private theorem reply_managerStep (manager : Manager) (op : Op) :
    (managerStep manager op).2 = (mapStep manager.toMap op).2 := by
  rw [managerStep_refines]

private theorem run_refines (manager : Manager) (ops : List Op) :
    run mapStep manager.toMap ops =
      ((run managerStep manager ops).1.toMap,
        (run managerStep manager ops).2) := by
  induction ops generalizing manager with
  | nil => rfl
  | cons op ops ih =>
      rw [run_cons, run_cons, managerStep_refines, ih]

end Refinement

/-! ## The safe-state latch -/

def Unlatches (streamKey : UInt64) (op : Op) : Prop :=
  op = .on streamKey .unregister ∨ op = .on streamKey .clearSafeState

section Latch

variable {manager : Manager} {streamKey : UInt64} {op : Op}

private theorem inSafeState_eq (manager : Manager) (streamKey : UInt64) :
    manager.inSafeState streamKey =
      (manager.toMap.entries.lookup streamKey).any (·.inSafeState) := by
  unfold Manager.inSafeState Manager.toMap
  cases hIndex : manager.streams.findIndex streamKey with
  | none =>
      dsimp only
      rw [SlotTable.lookup_toMap_of_none hIndex]
      rfl
  | some i =>
      dsimp only
      rw [SlotTable.lookup_toMap_of_some hIndex]
      rfl

private theorem check_inSafeState {stream : StreamWatchdog}
    {cfg : Regmap.RequestStreamConfig} {ledger : Request.RequestLedger}
    {nowMs : Nat} (hLatched : stream.inSafeState) :
    (stream.check streamKey cfg ledger nowMs).1 = stream := by
  have hWd : stream.wd.inSafeState = true := hLatched
  unfold StreamWatchdog.check
  rw [hWd, if_neg (by simp)]
  split <;> rfl

private theorem entryStep_latched {room : Bool} {callbacks : List Callback}
    {stream : StreamWatchdog} {action : Action}
    (hLatched : stream.inSafeState)
    (hKeeps : ¬ Unlatches streamKey (.on streamKey action)) :
    (entryStep room callbacks streamKey (some stream) action).1.any
      (·.inSafeState) := by
  cases action with
  | unregister => exact absurd (Or.inl rfl) hKeeps
  | clearSafeState => exact absurd (Or.inr rfl) hKeeps
  | poll cfg ledger nowMs =>
      simpa [entryStep, check_inSafeState hLatched] using hLatched
  | register => simpa [entryStep] using hLatched
  | kick nowMs => exact hLatched
  | isRegistered => simpa [entryStep] using hLatched
  | inSafeState => simpa [entryStep] using hLatched

private theorem mapStep_latched {map : WatchdogMap}
    (hLatched : (map.entries.lookup streamKey).any (·.inSafeState))
    (hKeeps : ¬ Unlatches streamKey op) :
    ((mapStep map op).1.entries.lookup streamKey).any (·.inSafeState) := by
  cases op with
  | subscribe callback =>
      dsimp only [mapStep]
      split <;> exact hLatched
  | on key action =>
      dsimp only [mapStep]
      by_cases hKey : streamKey = key
      · subst hKey
        obtain ⟨stream, hEntry, hStream⟩ :=
          (Option.any_eq_true _ _).mp hLatched
        rw [lookup_setEntry_self, hEntry]
        exact entryStep_latched hStream hKeeps
      · rwa [lookup_setEntry_ne hKey]

private theorem managerStep_latched (hLatched : manager.inSafeState streamKey)
    (hKeeps : ¬ Unlatches streamKey op) :
    (managerStep manager op).1.inSafeState streamKey := by
  rw [inSafeState_eq] at hLatched ⊢
  rw [toMap_managerStep]
  exact mapStep_latched hLatched hKeeps

private theorem run_latched (hLatched : manager.inSafeState streamKey)
    (ops : List Op) (hKeep : ∀ op ∈ ops, ¬ Unlatches streamKey op) :
    (run managerStep manager ops).1.inSafeState streamKey := by
  induction ops generalizing manager with
  | nil => exact hLatched
  | cons op ops ih =>
      obtain ⟨hFirst, hRest⟩ := List.forall_mem_cons.mp hKeep
      rw [run_cons]
      exact ih (managerStep_latched hLatched hFirst) hRest

end Latch

/-! ## One operation, and a whole run -/

/-- What an operation on one stream does to the map, in a manager that a run
has reached. -/
structure ActsAsMap (manager : Manager) : Prop where
  bounded : manager.toMap.entries.keys.card ≤ maxStreams
  own : ∀ streamKey action,
    let result := entryStep
      (decide (manager.toMap.entries.keys.card < maxStreams))
      manager.callbacks streamKey
      (manager.toMap.entries.lookup streamKey) action
    (managerStep manager (.on streamKey action)).2 = result.2 ∧
      (managerStep manager
        (.on streamKey action)).1.toMap.entries.lookup streamKey = result.1
  others : ∀ streamKey action other, other ≠ streamKey →
    (managerStep manager
        (.on streamKey action)).1.toMap.entries.lookup other =
      manager.toMap.entries.lookup other

private theorem actsAsMap (manager : Manager) : ActsAsMap manager where
  bounded := by
    unfold Manager.toMap
    rw [SlotTable.card_keys_toMap]
    exact manager.streams.len_le
  own := by
    intro streamKey action
    rw [reply_managerStep, toMap_managerStep]
    exact ⟨rfl, lookup_setEntry_self⟩
  others := by
    intro streamKey action other hNe
    rw [toMap_managerStep]
    exact lookup_setEntry_ne hNe

def initialManager : Manager := {}

private theorem toMap_initialManager : initialManager.toMap = ⟨∅, []⟩ := by
  have hEntries : initialManager.streams.toMap = ∅ := rfl
  unfold Manager.toMap
  rw [hEntries]
  rfl

/-- Over every run from a new manager. -/
theorem manager_run (ops : List Op) :
    let manager := (run managerStep initialManager ops).1
    run mapStep ⟨∅, []⟩ ops =
        (manager.toMap, (run managerStep initialManager ops).2) ∧
      ActsAsMap manager ∧
      ∀ streamKey later, manager.inSafeState streamKey →
        (∀ op ∈ later, ¬ Unlatches streamKey op) →
        (run managerStep initialManager (ops ++ later)).1.inSafeState
          streamKey := by
  dsimp only
  refine ⟨?_, actsAsMap _, ?_⟩
  · rw [← toMap_initialManager]
    exact run_refines initialManager ops
  · intro streamKey later hLatched hKeep
    rw [run_append]
    exact run_latched hLatched later hKeep

end CppRcp.Watchdog
