import CppRcp.Mock.WatchdogEffects

/-!
# The receive watchdog over time

Requests and checks are placed in time: a check at the time it is passed, and
a request at the time it arrives.  Since a kick records time 0 whatever the
time is, and `dispatch` and `dispatch_frame` never kick, the watchdog measures
from there, and is right only where that makes no difference.
-/

namespace CppRcp.Mock

open CppRcp.Foundation CppRcp.Acf CppRcp.E2e CppRcp.Regmap

/-! ## Runs in time -/

structure TimedOp where
  madeAt : Nat
  op : Op

/-- The `now_ms` that an operation passes, or the time it is made at. -/
def TimedOp.nowMs (timed : TimedOp) : Nat :=
  match timed.op with
  | .checkWatchdogOverflow _ nowMs => nowMs
  | _ => timed.madeAt

def serverAt (ops : List TimedOp) (i : Nat) : Server :=
  (run Server.step {} ((ops.take i).map TimedOp.op)).1

/-- The codes of a request that came to nothing. -/
def isRejection : ErrorCode → Bool
  | .dispatch .queued | .dispatch .pending | .dispatch .cancelled
  | .dispatch .fragmentPending | .dispatch .responseFragmented => false
  | .avtp _ | .acf _ | .request _ | .regmap _ | .e2e _ | .dispatch _ => true
  | _ => false

/-- The request is executed, held or stored, or it cancels others. -/
def accepts (ec : Option ErrorCode) : Bool := !ec.any isRejection

/-- A request of the stream is received: one that is accepted, or one that
comes with protection and is not in a frame that the sequence gate turns
away. -/
def Receives (server : Server) (streamId : StreamId) : Op → Prop
  | .dispatch received req payload => received = streamId ∧
      accepts (server.dispatch received req payload).2.ec
  | .dispatchFrame received frame => received = streamId ∧
      ∃ member ∈ (server.dispatchFrame received frame).2, accepts member.result
  | .dispatchE2e received _ _ => received = streamId
  | .dispatchE2eFragment received _ => received = streamId
  | .dispatchFrameE2e received sequenceNum frame =>
      received = streamId ∧ frameMembers frame ≠ [] ∧
        (server.seqGateAdmits received sequenceNum).2 = true
  | _ => False

/-- Before the operation of number `i`, a request of the stream has been
received at time `t`. -/
def ReceivedAt (ops : List TimedOp) (i : Nat) (streamId : StreamId) (t : Nat) :
    Prop :=
  ∃ j timed, j < i ∧ ops[j]? = some timed ∧
    Receives (serverAt ops j) streamId timed.op ∧ timed.nowMs = t

/-- Operation `i` checks the watchdog of the stream. -/
def ChecksAt (ops : List TimedOp) (i : Nat) (streamId : StreamId)
    (nowMs : Nat) : Prop :=
  ∃ timed, ops[i]? = some timed ∧
    timed.op = .checkWatchdogOverflow streamId nowMs

namespace Server

variable (server : Server) (streamId : StreamId)

def watchdogConfig : RequestStreamConfig :=
  server.regs.requestStream (server.streamIndex streamId)

def watchdogInterval : Nat :=
  (server.watchdogConfig streamId).rxWdTimeoutInterval.toNat

def watchdogKicked : Bool :=
  (server.rxWatchdogs.get (slotOf (server.streamIndex streamId))).kicked

def WatchdogOverflows (nowMs : Nat) : Prop :=
  server.streamIndex streamId ≠ 0 ∧
    (server.rxWatchdogs.get (slotOf (server.streamIndex streamId))).overflowed
      (server.watchdogConfig streamId) nowMs = true

end Server

/-- The watchdogs of a run keep time. -/
structure WatchdogsTimely (ops : List TimedOp) : Prop where
  /-- Requests that are at most the interval apart keep the safe state away. -/
  kept : ∀ i streamId nowMs, ChecksAt ops i streamId nowMs →
    ∀ t, ReceivedAt ops i streamId t →
      nowMs ≤ t + (serverAt ops i).watchdogInterval streamId →
      ¬ (serverAt ops i).WatchdogOverflows streamId nowMs ∧
        ((serverAt ops i).checkWatchdogOverflow streamId nowMs).1 =
          serverAt ops i
  /-- More than the interval has passed when a watchdog overflows. -/
  due : ∀ i streamId nowMs, ChecksAt ops i streamId nowMs →
    (serverAt ops i).WatchdogOverflows streamId nowMs →
    ∀ t, ReceivedAt ops i streamId t →
      t + (serverAt ops i).watchdogInterval streamId < nowMs

/-- No enabled watchdog that was kicked is checked past its interval, counted
from time 0, so shortly after a request. -/
def ChecksSpaced (ops : List TimedOp) : Prop :=
  ∀ i streamId nowMs, ChecksAt ops i streamId nowMs →
    ((serverAt ops i).watchdogConfig streamId).rxWdEnable →
    (serverAt ops i).watchdogKicked streamId →
    (serverAt ops i).watchdogInterval streamId < nowMs →
    ∀ t, ReceivedAt ops i streamId t →
      t + (serverAt ops i).watchdogInterval streamId < nowMs

/-! ## A check -/

section Check

variable {server : Server} {streamId : StreamId} {nowMs : Nat}

private theorem KickedAtStart.of_overflows (h : KickedAtStart server)
    (hOverflows : server.WatchdogOverflows streamId nowMs) :
    (server.watchdogConfig streamId).rxWdEnable = true ∧
      server.watchdogKicked streamId = true ∧
      server.watchdogInterval streamId < nowMs := by
  obtain ⟨-, hOver⟩ := hOverflows
  unfold RxWatchdog.overflowed at hOver
  rw [h] at hOver
  simp only [Bool.and_eq_true, decide_eq_true_eq] at hOver
  obtain ⟨⟨hEnable, hKicked⟩, hLate⟩ := hOver
  refine ⟨hEnable, hKicked, ?_⟩
  unfold Server.watchdogInterval
  omega

private theorem checkWatchdogOverflow_of_not
    (h : ¬ server.WatchdogOverflows streamId nowMs) :
    (server.checkWatchdogOverflow streamId nowMs).1 = server := by
  unfold Server.checkWatchdogOverflow
  dsimp only
  split
  · rfl
  · next hIndex =>
      have hOver : (server.rxWatchdogs.get
          (Server.slotOf (server.streamIndex streamId))).overflowed
            (server.regs.requestStream (server.streamIndex streamId))
              nowMs = false := by
        simpa [Server.WatchdogOverflows, Server.watchdogConfig, hIndex] using h
      have hStatus : (fun status : StreamStatus => status.noteWd false) =
          fun status => status := by
        funext status
        simp [StreamStatus.noteWd]
      simp only [hOver, Bool.and_false, Bool.false_and, hStatus,
        Bool.false_eq_true, if_false]
      rw [Table.modify, Table.set_get]

end Check

/-! ## Runs -/

private theorem kickedAtStart_serverAt (ops : List TimedOp) (i : Nat) :
    KickedAtStart (serverAt ops i) :=
  Server.kickedAtStart_run _

/-- The watchdogs keep time in every run whose checks are spaced. -/
theorem watchdogsTimely_of_spaced (ops : List TimedOp)
    (h : ChecksSpaced ops) : WatchdogsTimely ops := by
  have hDue : ∀ i streamId nowMs, ChecksAt ops i streamId nowMs →
      (serverAt ops i).WatchdogOverflows streamId nowMs →
      ∀ t, ReceivedAt ops i streamId t →
        t + (serverAt ops i).watchdogInterval streamId < nowMs := by
    intro i streamId nowMs hCheck hOverflows t hReceived
    obtain ⟨hEnable, hKicked, hLate⟩ :=
      (kickedAtStart_serverAt ops i).of_overflows hOverflows
    exact h i streamId nowMs hCheck hEnable hKicked hLate t hReceived
  refine ⟨?_, hDue⟩
  intro i streamId nowMs hCheck t hReceived hRecent
  have hNot : ¬ (serverAt ops i).WatchdogOverflows streamId nowMs := by
    intro hOverflows
    have hPast := hDue i streamId nowMs hCheck hOverflows t hReceived
    omega
  exact ⟨hNot, checkWatchdogOverflow_of_not hNot⟩

/-! ## One stream, with an interval of 100 -/

def watchedRegisters : RegisterMap :=
  { makeInitialRegisterMap with
    requestStreams := [{
      streamId := 1
      rxWdTimeoutInterval := 100
      rxWdEnable := true
      rxWdSafestateEnable := true }]
    requestStreams_le := by decide }

def watchedRequest : Octets :=
  encodeAcfAbb { byteBusId := 1 } []

/-- A request at `received`, and a check at `checked`. -/
def watchedRun (received checked : Nat) : List TimedOp :=
  [⟨0, .registers watchedRegisters⟩,
    ⟨0, .lifecycle .rcpConfigured⟩,
    ⟨received, .dispatchE2e 1 0 watchedRequest⟩,
    ⟨checked, .checkWatchdogOverflow 1 checked⟩]

private theorem checksAt_watchedRun {received checked i : Nat}
    {streamId : StreamId} {nowMs : Nat}
    (h : ChecksAt (watchedRun received checked) i streamId nowMs) :
    i = 3 ∧ streamId = 1 ∧ nowMs = checked := by
  obtain ⟨timed, hGet, hOp⟩ := h
  have hBound := (List.getElem?_eq_some_iff.mp hGet).1
  simp only [watchedRun, List.length_cons, List.length_nil] at hBound
  interval_cases i
  all_goals
    cases hGet
    cases hOp
  exact ⟨rfl, rfl, rfl⟩

private theorem receivedAt_watchedRun {received checked t : Nat}
    (h : ReceivedAt (watchedRun received checked) 3 1 t) : t = received := by
  obtain ⟨j, timed, hBefore, hGet, hReceives, rfl⟩ := h
  interval_cases j
  · cases hGet
    cases hReceives
  · cases hGet
    cases hReceives
  · cases hGet
    rfl

theorem watchdogsTimely_watchedRun : WatchdogsTimely (watchedRun 0 150) := by
  apply watchdogsTimely_of_spaced
  intro i streamId nowMs hCheck _ _ _ t hReceived
  obtain ⟨rfl, rfl, rfl⟩ := checksAt_watchedRun hCheck
  rw [receivedAt_watchedRun hReceived]
  decide

/-- The request is accepted, and one millisecond later the watchdog has
overflowed. -/
theorem watchedRun_overflows :
    ((serverAt (watchedRun 1000 1001) 2).dispatchE2e 1 0
        watchedRequest).2.ec = none ∧
      ¬ WatchdogsTimely (watchedRun 1000 1001) := by
  refine ⟨by decide, fun hTimely => ?_⟩
  have hCheck : ChecksAt (watchedRun 1000 1001) 3 1 1001 := ⟨_, rfl, rfl⟩
  have hOverflows :
      (serverAt (watchedRun 1000 1001) 3).WatchdogOverflows 1 1001 :=
    ⟨by decide, by decide⟩
  have hReceived : ReceivedAt (watchedRun 1000 1001) 3 1 1000 :=
    ⟨2, _, by decide, rfl, rfl, rfl⟩
  have hPast := hTimely.due 3 1 1001 hCheck hOverflows 1000 hReceived
  exact absurd hPast (by decide)

end CppRcp.Mock
