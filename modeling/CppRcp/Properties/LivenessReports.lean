import CppRcp.Host.Deadline

/-!
# What the liveness monitor reports

Of each target the monitor keeps a tracker and the state it reported last, and
only the operations on the target and the checks have a part in them.  Reports
alternate between two unregistrations, and the last one is the state that the
monitor answers with.  A target is reported dead for a reason, unless a check
is made at a time before its last activity: the difference of the two times
wraps around.
-/

namespace CppRcp.Host.Deadline

open CppRcp.Foundation Std

/-! ## One target -/

structure Target where
  tracker : Option LivenessTracker := none
  reported : Option Bool := none
  deriving DecidableEq, Repr

namespace Target

def check (state : Target) (cfg : Config) (nowMs : UInt64) :
    Target × List Bool :=
  match state.tracker with
  | none => (state, [])
  | some tracker =>
      let isAlive := !tracker.dead cfg nowMs
      if state.reported = some isAlive then (state, [])
      else ({ state with reported := some isAlive }, [isAlive])

def note (state : Target) (nowMs : UInt64) : Target :=
  { state with tracker := state.tracker.map fun _ => .noteActivity nowMs }

/-- The operations on one target, and the checks, over its part alone. -/
def step (state : Target) : MonitorOp → Target × List Bool
  | .registerTarget _ =>
      ({ state with tracker := some (state.tracker.getD {}) }, [])
  | .unregisterTarget _ => ({}, [])
  | .noteHeartbeat _ nowMs => (state.note nowMs, [])
  | .noteLifecycleChange _ nowMs => (state.note nowMs, [])
  | .check cfg nowMs => state.check cfg nowMs

private theorem tracker_check (state : Target) (cfg : Config) (nowMs : UInt64) :
    (state.check cfg nowMs).1.tracker = state.tracker := by
  unfold check
  split
  · rfl
  · dsimp only
    split <;> rfl

end Target

def MonitorOp.concerns (target : UInt64) : MonitorOp → Bool
  | .registerTarget other | .unregisterTarget other
  | .noteHeartbeat other _ | .noteLifecycleChange other _ => other = target
  | .check _ _ => true

def Monitor.part (target : UInt64) (monitor : Monitor) : Target where
  tracker := monitor.trackers[target]?
  reported := monitor.aliveMap[target]?

def reportsOf (target : UInt64) (events : List LivenessEvent) : List Bool :=
  (events.filter fun event => event.target = target).map LivenessEvent.alive

namespace Monitor

section Parts

variable {cfg : Config} {nowMs target : UInt64}

private theorem checkTrackers_of_not_mem
    {trackers : List (UInt64 × LivenessTracker)}
    {aliveMap : TreeMap UInt64 Bool}
    (h : ∀ entry ∈ trackers, entry.1 ≠ target) :
    (checkTrackers cfg nowMs trackers aliveMap).1[target]? =
        aliveMap[target]? ∧
      reportsOf target (checkTrackers cfg nowMs trackers aliveMap).2 = [] := by
  induction trackers generalizing aliveMap with
  | nil => exact ⟨rfl, rfl⟩
  | cons entry trackers ih =>
      obtain ⟨other, tracker⟩ := entry
      obtain ⟨hOther, hRest⟩ := List.forall_mem_cons.mp h
      simp only [checkTrackers]
      split
      · exact ih hRest
      · obtain ⟨hAlive, hReports⟩ := @ih
          (aliveMap.insert other (!tracker.dead cfg nowMs)) hRest
        constructor
        · rw [hAlive, TreeMap.getElem?_insert, if_neg]
          simpa using hOther
        · simpa [reportsOf, hOther] using hReports

private theorem checkTrackers_of_mem
    {trackers : List (UInt64 × LivenessTracker)}
    {aliveMap : TreeMap UInt64 Bool} {tracker : LivenessTracker}
    (hDistinct : trackers.Pairwise fun a b => a.1 ≠ b.1)
    (hMem : (target, tracker) ∈ trackers) :
    let part := Target.check ⟨some tracker, aliveMap[target]?⟩ cfg nowMs
    (checkTrackers cfg nowMs trackers aliveMap).1[target]? =
        part.1.reported ∧
      reportsOf target (checkTrackers cfg nowMs trackers aliveMap).2 =
        part.2 := by
  induction trackers generalizing aliveMap with
  | nil => cases hMem
  | cons entry trackers ih =>
      obtain ⟨other, otherTracker⟩ := entry
      obtain ⟨hFirst, hRest⟩ := List.pairwise_cons.mp hDistinct
      simp only [checkTrackers, Target.check]
      rcases List.mem_cons.mp hMem with hHead | hTail
      · obtain ⟨rfl, rfl⟩ := Prod.mk.inj hHead
        have hLater : ∀ entry ∈ trackers, entry.1 ≠ target :=
          fun entry hEntry => (hFirst entry hEntry).symm
        split
        · exact checkTrackers_of_not_mem hLater
        · obtain ⟨hAlive, hReports⟩ := @checkTrackers_of_not_mem cfg nowMs
            target _ (aliveMap.insert target (!tracker.dead cfg nowMs)) hLater
          constructor
          · rw [hAlive, TreeMap.getElem?_insert_self]
          · simpa [reportsOf] using hReports
      · have hOther : other ≠ target := hFirst _ hTail
        split
        · exact ih hRest hTail
        · obtain ⟨hAlive, hReports⟩ := @ih
            (aliveMap.insert other (!otherTracker.dead cfg nowMs)) hRest hTail
          have hSame : (aliveMap.insert other
              (!otherTracker.dead cfg nowMs))[target]? = aliveMap[target]? := by
            rw [TreeMap.getElem?_insert, if_neg]
            simpa using hOther
          rw [hSame] at hAlive hReports
          refine ⟨hAlive, ?_⟩
          simpa [reportsOf, hOther, Target.check] using hReports

private theorem part_check (monitor : Monitor) (cfg : Config) (nowMs : UInt64) :
    (monitor.part target).check cfg nowMs =
      (part target (monitor.check cfg nowMs).1,
        reportsOf target (monitor.check cfg nowMs).2) := by
  have hDistinct : monitor.trackers.toList.Pairwise fun a b => a.1 ≠ b.1 := by
    refine monitor.trackers.distinct_keys_toList.imp ?_
    intro a b hCompare hSame
    exact hCompare (by rw [hSame]; exact ReflCmp.compare_self)
  cases hTracker : monitor.trackers[target]? with
  | none =>
      have hAbsent : ∀ entry ∈ monitor.trackers.toList,
          entry.1 ≠ target := by
        rintro ⟨other, tracker⟩ hEntry rfl
        rw [TreeMap.mem_toList_iff_getElem?_eq_some, hTracker] at hEntry
        cases hEntry
      obtain ⟨hAlive, hReports⟩ := @checkTrackers_of_not_mem cfg nowMs target
        _ monitor.aliveMap hAbsent
      simp only [Target.check, part, check, hTracker, hAlive, hReports]
  | some tracker =>
      have hMem : (target, tracker) ∈ monitor.trackers.toList :=
        TreeMap.mem_toList_iff_getElem?_eq_some.mpr hTracker
      obtain ⟨hAlive, hReports⟩ := @checkTrackers_of_mem cfg nowMs target _
        monitor.aliveMap tracker hDistinct hMem
      simp only [part, check, hTracker, hAlive, hReports]
      simp only [Target.check]
      split <;> rfl

private theorem part_step (target : UInt64) (monitor : Monitor) (op : MonitorOp)
    (h : op.concerns target = true) :
    (monitor.part target).step op =
      (part target (monitor.step op).1,
        reportsOf target (monitor.step op).2) := by
  cases op with
  | registerTarget other =>
      obtain rfl : other = target := of_decide_eq_true h
      simp only [Target.step, step, registerTarget]
      split
      · next hMem =>
          rw [TreeMap.mem_iff_isSome_getElem?] at hMem
          obtain ⟨tracker, hTracker⟩ := Option.isSome_iff_exists.mp hMem
          simp [part, hTracker, reportsOf]
      · next hNot =>
          have hNone := TreeMap.getElem?_eq_none hNot
          simp [part, hNone, reportsOf]
  | unregisterTarget other =>
      obtain rfl : other = target := of_decide_eq_true h
      simp [Target.step, step, unregisterTarget, part, reportsOf]
  | noteHeartbeat other nowMs =>
      obtain rfl : other = target := of_decide_eq_true h
      simp only [Target.step, step, note, Target.note]
      split <;> simp_all [part, reportsOf]
  | noteLifecycleChange other nowMs =>
      obtain rfl : other = target := of_decide_eq_true h
      simp only [Target.step, step, note, Target.note]
      split <;> simp_all [part, reportsOf]
  | check cfg nowMs => exact part_check monitor cfg nowMs

private theorem part_step_of_not_concerns (target : UInt64) (monitor : Monitor)
    (op : MonitorOp) (h : op.concerns target = false) :
    part target (monitor.step op).1 = part target monitor ∧
      reportsOf target (monitor.step op).2 = [] := by
  cases op with
  | registerTarget other =>
      have hOther : other ≠ target := of_decide_eq_false h
      refine ⟨?_, rfl⟩
      simp only [step, registerTarget]
      split
      · rfl
      · simp [part, TreeMap.getElem?_insert, hOther]
  | unregisterTarget other =>
      have hOther : other ≠ target := of_decide_eq_false h
      refine ⟨?_, rfl⟩
      simp [step, unregisterTarget, part, TreeMap.getElem?_erase, hOther]
  | noteHeartbeat other nowMs =>
      have hOther : other ≠ target := of_decide_eq_false h
      refine ⟨?_, rfl⟩
      simp only [step, note]
      split
      · rfl
      · simp [part, TreeMap.getElem?_insert, hOther]
  | noteLifecycleChange other nowMs =>
      have hOther : other ≠ target := of_decide_eq_false h
      refine ⟨?_, rfl⟩
      simp only [step, note]
      split
      · rfl
      · simp [part, TreeMap.getElem?_insert, hOther]
  | check cfg nowMs => cases h

private theorem reports_eq (target : UInt64) (ops : List MonitorOp) :
    part target (run step {} ops).1 =
        (run Target.step {} (ops.filter (MonitorOp.concerns target))).1 ∧
      (run step {} ops).2.flatMap (reportsOf target) =
        (run Target.step {}
          (ops.filter (MonitorOp.concerns target))).2.flatten := by
  have hStart : part target {} = {} := by simp [part]
  rw [← hStart]
  exact run_filter (part_step target) (part_step_of_not_concerns target) {}
    ops

end Parts

end Monitor

/-! ## Reports since the last unregistration -/

def latestFrom (target : UInt64) :
    Monitor → List Bool → List MonitorOp → List Bool
  | _, reports, [] => reports
  | monitor, reports, op :: ops =>
      let next := monitor.step op
      latestFrom target next.1
        (if op = .unregisterTarget target then []
          else reports ++ reportsOf target next.2) ops

def latest (target : UInt64) (ops : List MonitorOp) : List Bool :=
  latestFrom target {} [] ops

structure Alternates (reported : Option Bool) (reports : List Bool) :
    Prop where
  chain : reports.IsChain (· ≠ ·)
  last : reports.getLast? = reported

private theorem alternates_step {target : UInt64} {monitor : Monitor}
    {reports : List Bool}
    (h : Alternates (monitor.part target).reported reports)
    (op : MonitorOp) :
    Alternates (Monitor.part target (monitor.step op).1).reported
      (if op = .unregisterTarget target then []
        else reports ++ reportsOf target (monitor.step op).2) := by
  cases hConcerns : op.concerns target with
  | false =>
      obtain ⟨hPart, hNone⟩ :=
        monitor.part_step_of_not_concerns target op hConcerns
      have hOther : op ≠ .unregisterTarget target := by
        rintro rfl
        simp [MonitorOp.concerns] at hConcerns
      rw [hPart, hNone, List.append_nil, if_neg hOther]
      exact h
  | true =>
      have hStep := monitor.part_step target op hConcerns
      have hPart : Monitor.part target (monitor.step op).1 =
          ((monitor.part target).step op).1 :=
        (congrArg Prod.fst hStep).symm
      have hReports : reportsOf target (monitor.step op).2 =
          ((monitor.part target).step op).2 :=
        (congrArg Prod.snd hStep).symm
      rw [hPart, hReports]
      cases op with
      | unregisterTarget other =>
          obtain rfl : other = target := of_decide_eq_true hConcerns
          rw [if_pos rfl]
          exact ⟨.nil, rfl⟩
      | registerTarget other =>
          rw [if_neg (by simp)]
          simpa [Target.step] using h
      | noteHeartbeat other nowMs =>
          rw [if_neg (by simp)]
          simpa [Target.step, Target.note] using h
      | noteLifecycleChange other nowMs =>
          rw [if_neg (by simp)]
          simpa [Target.step, Target.note] using h
      | check cfg nowMs =>
          rw [if_neg (by simp)]
          simp only [Target.step, Target.check]
          split
          · simpa using h
          · split
            · simpa using h
            · next hChanged =>
                refine ⟨?_, by simp⟩
                apply List.isChain_append.mpr ⟨h.chain, .singleton _, ?_⟩
                intro before hBefore after hAfter
                rw [Option.mem_def, h.last] at hBefore
                obtain rfl := Option.some.inj hAfter
                rintro rfl
                exact hChanged hBefore

private theorem alternates_latestFrom (target : UInt64) {monitor : Monitor}
    {reports : List Bool}
    (h : Alternates (monitor.part target).reported reports)
    (ops : List MonitorOp) :
    Alternates (Monitor.part target (run Monitor.step monitor ops).1).reported
      (latestFrom target monitor reports ops) := by
  induction ops generalizing monitor reports with
  | nil => exact h
  | cons op ops ih =>
      rw [run_cons, latestFrom]
      exact ih (alternates_step h op)

private theorem alternates_latest (target : UInt64) (ops : List MonitorOp) :
    Alternates (Monitor.part target (run Monitor.step {} ops).1).reported
      (latest target ops) :=
  alternates_latestFrom target ⟨.nil, by simp [Monitor.part]⟩ ops

private theorem Monitor.alive_eq (monitor : Monitor) (target : UInt64) :
    monitor.alive target = (monitor.part target).reported.getD false := by
  unfold alive part
  cases monitor.aliveMap[target]? <;> rfl

/-! ## The last activity -/

def MonitorOp.notes (target : UInt64) : MonitorOp → Option UInt64
  | .noteHeartbeat other nowMs | .noteLifecycleChange other nowMs =>
      if other = target then some nowMs else none
  | _ => none

/-- A registered target was last heard of at `seen`. -/
def LastActivity (target seen : UInt64) (ops : List MonitorOp) : Prop :=
  ∃ before op after, ops = before ++ op :: after ∧
    (run Monitor.step {} before).1.isRegistered target = true ∧
    op.notes target = some seen ∧
    ∀ later ∈ after, later.notes target = none ∧
      later ≠ .unregisterTarget target

private theorem lastActivity_snoc {target seen : UInt64} {ops : List MonitorOp}
    {op : MonitorOp} :
    LastActivity target seen (ops ++ [op]) ↔
      (run Monitor.step {} ops).1.isRegistered target = true ∧
          op.notes target = some seen ∨
        LastActivity target seen ops ∧ op.notes target = none ∧
          op ≠ .unregisterTarget target := by
  constructor
  · rintro ⟨before, note, after, hOps, hRegistered, hNotes, hLater⟩
    rcases List.eq_nil_or_concat after with rfl | ⟨front, last, rfl⟩
    · obtain ⟨rfl, hSame⟩ := List.append_inj' hOps rfl
      obtain rfl := List.singleton_inj.mp hSame
      exact .inl ⟨hRegistered, hNotes⟩
    · rw [List.concat_eq_append, ← List.cons_append,
        ← List.append_assoc] at hOps
      obtain ⟨rfl, hSame⟩ := List.append_inj' hOps rfl
      obtain rfl := List.singleton_inj.mp hSame
      rw [List.concat_eq_append, List.forall_mem_append] at hLater
      exact .inr ⟨⟨before, note, front, rfl, hRegistered, hNotes, hLater.1⟩,
        hLater.2 op List.mem_cons_self⟩
  · rintro (⟨hRegistered, hNotes⟩ |
      ⟨⟨before, note, after, rfl, hRegistered, hNotes, hLater⟩, hOp⟩)
    · exact ⟨ops, op, [], rfl, hRegistered, hNotes, by simp⟩
    · refine ⟨before, note, after ++ [op], by simp, hRegistered, hNotes, ?_⟩
      rw [List.forall_mem_append, List.forall_mem_singleton]
      exact ⟨hLater, hOp⟩

private theorem Monitor.isRegistered_iff (monitor : Monitor) (target : UInt64) :
    monitor.isRegistered target = true ↔
      (monitor.part target).tracker.isSome = true := by
  unfold isRegistered part
  rw [TreeMap.contains_eq_isSome_getElem?]

private theorem tracker_step_iff (target seen : UInt64) (monitor : Monitor)
    (op : MonitorOp) :
    (Monitor.part target (monitor.step op).1).tracker =
        some (.noteActivity seen) ↔
      monitor.isRegistered target = true ∧ op.notes target = some seen ∨
        (monitor.part target).tracker = some (.noteActivity seen) ∧
          op.notes target = none ∧ op ≠ .unregisterTarget target := by
  rw [monitor.isRegistered_iff]
  cases hConcerns : op.concerns target with
  | false =>
      obtain ⟨hPart, -⟩ :=
        monitor.part_step_of_not_concerns target op hConcerns
      have hNotes : op.notes target = none := by
        cases op <;> simp_all [MonitorOp.notes, MonitorOp.concerns]
      have hOther : op ≠ .unregisterTarget target := by
        rintro rfl
        simp [MonitorOp.concerns] at hConcerns
      simp [hPart, hNotes, hOther]
  | true =>
      have hStep := monitor.part_step target op hConcerns
      have hPart : Monitor.part target (monitor.step op).1 =
          ((monitor.part target).step op).1 :=
        (congrArg Prod.fst hStep).symm
      rw [hPart]
      generalize monitor.part target = state
      obtain ⟨tracker, reported⟩ := state
      cases op with
      | registerTarget other =>
          cases tracker <;>
            simp [Target.step, MonitorOp.notes, LivenessTracker.noteActivity]
      | unregisterTarget other =>
          obtain rfl : other = target := of_decide_eq_true hConcerns
          simp [Target.step, MonitorOp.notes]
      | noteHeartbeat other nowMs =>
          obtain rfl : other = target := of_decide_eq_true hConcerns
          cases tracker <;>
            simp [Target.step, Target.note, MonitorOp.notes,
              LivenessTracker.noteActivity]
      | noteLifecycleChange other nowMs =>
          obtain rfl : other = target := of_decide_eq_true hConcerns
          cases tracker <;>
            simp [Target.step, Target.note, MonitorOp.notes,
              LivenessTracker.noteActivity]
      | check cfg nowMs =>
          simp [Target.step, Target.tracker_check, MonitorOp.notes]

private theorem tracker_iff_lastActivity (target seen : UInt64)
    (ops : List MonitorOp) :
    (Monitor.part target (run Monitor.step {} ops).1).tracker =
        some (.noteActivity seen) ↔
      LastActivity target seen ops := by
  induction ops using List.reverseRecOn with
  | nil =>
      have hNone : ¬ LastActivity target seen [] := by
        rintro ⟨before, op, after, hOps, -⟩
        simp at hOps
      simp [Monitor.part, hNone]
  | append_singleton ops op ih =>
      rw [run_append, lastActivity_snoc, ← ih]
      exact tracker_step_iff target seen _ op

/-! ## Dead reports -/

private theorem dead_noteActivity (cfg : Config) (nowMs seen : UInt64) :
    (LivenessTracker.noteActivity seen).dead cfg nowMs = true ↔
      cfg.deadline.toUInt64 < nowMs - seen := by
  simp only [LivenessTracker.dead, LivenessTracker.noteActivity]
  exact decide_eq_true_iff

private theorem toInt_lt_of_toUInt64_lt {deadline : Int64} {elapsed : UInt64}
    (h : deadline.toUInt64 < elapsed) : deadline.toInt < elapsed.toNat := by
  have hNat : deadline.toBitVec.toNat < elapsed.toNat := h
  have hInt := BitVec.toInt_eq_toNat_cond deadline.toBitVec
  change deadline.toInt = _ at hInt
  split at hInt <;> omega

theorem toNat_sub_of_le {nowMs seen : UInt64} (h : seen ≤ nowMs) :
    (nowMs - seen).toNat = nowMs.toNat - seen.toNat :=
  UInt64.toNat_sub_of_le _ _ h

def Silent (target : UInt64) (ops : List MonitorOp) (cfg : Config)
    (nowMs : UInt64) : Prop :=
  (∀ seen, ¬ LastActivity target seen ops) ∨
    ∃ seen, LastActivity target seen ops ∧ seen ≤ nowMs ∧
      cfg.deadline.toInt < (nowMs.toNat : Int) - seen.toNat

/-- A check is made at a time not before the last activity of any target that
is not reported dead, or the wrapped difference is within the deadline. -/
def InTime (monitor : Monitor) : MonitorOp → Prop
  | .check cfg nowMs => ∀ target seen,
      (monitor.part target).tracker = some (.noteActivity seen) →
        nowMs < seen → (monitor.part target).reported = some false ∨
          nowMs - seen ≤ cfg.deadline.toUInt64
  | _ => True

private theorem mem_reportsOf {target : UInt64} {alive : Bool}
    {events : List LivenessEvent} :
    alive ∈ reportsOf target events ↔ ⟨target, alive⟩ ∈ events := by
  unfold reportsOf
  rw [List.mem_map]
  constructor
  · rintro ⟨⟨other, state⟩, hEvent, rfl⟩
    obtain ⟨hMem, hTarget⟩ := List.mem_filter.mp hEvent
    obtain rfl : other = target := of_decide_eq_true hTarget
    exact hMem
  · intro hMem
    exact ⟨⟨target, alive⟩, List.mem_filter.mpr ⟨hMem, by simp⟩, rfl⟩

private theorem dead_mem_check {monitor : Monitor} {target : UInt64}
    {cfg : Config} {nowMs : UInt64} :
    ⟨target, false⟩ ∈ (monitor.check cfg nowMs).2 ↔
      (monitor.part target).reported ≠ some false ∧
        ∃ tracker, (monitor.part target).tracker = some tracker ∧
          tracker.dead cfg nowMs = true := by
  have hReports : reportsOf target (monitor.check cfg nowMs).2 =
      ((monitor.part target).check cfg nowMs).2 :=
    (congrArg Prod.snd (monitor.part_check cfg nowMs)).symm
  rw [← mem_reportsOf, hReports]
  unfold Target.check
  split
  · next hNone => simp [hNone]
  · next tracker hTracker =>
      dsimp only
      rw [hTracker]
      split
      · next hSame =>
          cases hDead : tracker.dead cfg nowMs <;> simp_all
      · next hChanged =>
          cases hDead : tracker.dead cfg nowMs <;> simp_all

private theorem noteActivity_of_reported {tracker : LivenessTracker}
    (h : tracker.hasEverReported = true) :
    tracker = .noteActivity tracker.lastSeenMs := by
  obtain ⟨hasEverReported, lastSeenMs⟩ := tracker
  obtain rfl : hasEverReported = true := h
  rfl

private theorem silent_iff_inTime (ops : List MonitorOp) (cfg : Config)
    (nowMs : UInt64) :
    (∀ target, ⟨target, false⟩ ∈
        ((run Monitor.step {} ops).1.check cfg nowMs).2 →
          Silent target ops cfg nowMs) ↔
      InTime (run Monitor.step {} ops).1 (.check cfg nowMs) := by
  constructor
  · intro hSilent target seen hTracker hEarly
    by_contra hNot
    obtain ⟨hReported, hLate⟩ := not_or.mp hNot
    have hDead := (dead_noteActivity cfg nowMs seen).mpr
      (UInt64.not_le.mp hLate)
    have hActivity := (tracker_iff_lastActivity target seen ops).mp hTracker
    have hMem := dead_mem_check.mpr ⟨hReported, _, hTracker, hDead⟩
    rcases hSilent target hMem with hNever | ⟨other, hOther, hBefore, -⟩
    · exact hNever seen hActivity
    · have hSame := (tracker_iff_lastActivity target other ops).mpr hOther
      rw [hTracker] at hSame
      obtain rfl : seen = other :=
        congrArg LivenessTracker.lastSeenMs (Option.some.inj hSame)
      exact absurd hEarly (UInt64.not_lt.mpr hBefore)
  · intro hInTime target hMem
    obtain ⟨hReported, tracker, hTracker, hDead⟩ := dead_mem_check.mp hMem
    cases hEver : tracker.hasEverReported with
    | false =>
        left
        intro seen hActivity
        have hSame :=
          (tracker_iff_lastActivity target seen ops).mpr hActivity
        rw [hTracker] at hSame
        rw [Option.some.inj hSame] at hEver
        cases hEver
    | true =>
        right
        rw [noteActivity_of_reported hEver] at hTracker hDead
        rw [dead_noteActivity] at hDead
        refine ⟨tracker.lastSeenMs,
          (tracker_iff_lastActivity target _ ops).mp hTracker, ?_⟩
        rcases UInt64.lt_or_le nowMs tracker.lastSeenMs with hEarly | hLe
        · rcases hInTime target _ hTracker hEarly with hKnown | hWithin
          · exact absurd hKnown hReported
          · exact absurd hDead (UInt64.not_lt.mpr hWithin)
        · have hElapsed := toInt_lt_of_toUInt64_lt hDead
          have hLeNat : tracker.lastSeenMs.toNat ≤ nowMs.toNat := hLe
          rw [toNat_sub_of_le hLe] at hElapsed
          exact ⟨hLe, by omega⟩

/-! ## Runs -/

/-- The laws of the monitor over a run. -/
structure MonitorLaws (ops : List MonitorOp) : Prop where
  alternates : ∀ target, (latest target ops).IsChain (· ≠ ·)
  agrees : ∀ target, (run Monitor.step {} ops).1.alive target =
    (latest target ops).getLast?.getD false
  independent : ∀ target,
    (run Monitor.step {} ops).2.flatMap (reportsOf target) =
      (run Monitor.step {}
        (ops.filter (MonitorOp.concerns target))).2.flatMap (reportsOf target)
  silent : ∀ i, (h : i < ops.length) → ∀ cfg nowMs,
    ops[i] = .check cfg nowMs → ∀ target,
      ⟨target, false⟩ ∈
          ((run Monitor.step {} (ops.take i)).1.check cfg nowMs).2 →
        Silent target (ops.take i) cfg nowMs

/-- The laws hold of exactly the runs whose checks are in time. -/
theorem monitorLaws_iff (ops : List MonitorOp) :
    MonitorLaws ops ↔ Along Monitor.step InTime {} ops := by
  rw [along_iff_getElem]
  constructor
  · intro hLaws i hi
    cases hOp : ops[i] with
    | check cfg nowMs =>
        exact (silent_iff_inTime _ cfg nowMs).mp
          (hLaws.silent i hi cfg nowMs hOp)
    | _ => trivial
  · intro hInTime
    refine ⟨fun target => (alternates_latest target ops).chain, ?_, ?_, ?_⟩
    · intro target
      rw [Monitor.alive_eq, ← (alternates_latest target ops).last]
    · intro target
      rw [(Monitor.reports_eq target ops).2, (Monitor.reports_eq target _).2,
        List.filter_filter]
      simp only [Bool.and_self]
    · intro i hi cfg nowMs hOp
      have hCheck := hInTime i hi
      rw [hOp] at hCheck
      exact (silent_iff_inTime _ cfg nowMs).mpr hCheck

def aheadRun : List MonitorOp :=
  [.registerTarget 1, .noteHeartbeat 1 100, .check {} 100,
    .noteLifecycleChange 1 200, .check {} 150]

/-- The check reports the target dead, which was heard of after it. -/
theorem ahead_reported_dead : ¬ MonitorLaws aheadRun := by
  rw [monitorLaws_iff, along_iff_getElem]
  intro hAll
  have hTracker : (Monitor.part 1
      (run Monitor.step {} (aheadRun.take 4)).1).tracker =
        some (.noteActivity 200) := by
    rw [tracker_iff_lastActivity]
    exact ⟨aheadRun.take 3, .noteLifecycleChange 1 200, [], rfl, by decide,
      rfl, by simp⟩
  rcases hAll 4 (by decide) 1 200 hTracker (by decide) with hKnown | hLate
  · revert hKnown
    decide
  · revert hLate
    decide

end CppRcp.Host.Deadline
