import CppRcp.Foundation.Behaviours
import CppRcp.Properties.LifecycleRuns

/-!
# The specification of the lifecycle

`LifecycleStateMachine.tla` leaves writers and idleness out and keeps the two
verdicts and the field lock as variables.  Any sequence of calls is followed by
a behaviour of it; the one call that it has no action for, the demotion to
`HwConfigured`, takes two of its actions.  The server gets live under the
fairness that the specification asks for.
-/

namespace CppRcp.Lifecycle

open CppRcp.Foundation CppRcp.Mock CppRcp.Regmap CppRcp.Acf Filter

/-! ## Variables and actions -/

@[ext] structure SpecState where
  state : ServerState := .hwUnconfigured
  hwCfgConsistent : Bool
  rcpCfgConsistent : Bool
  fieldLock : Bool := false
  deriving DecidableEq, Repr

inductive Revises (spec : SpecState) : SpecState → Prop
  | reviseHwConsistency (verdict : Bool) :
      Revises spec { spec with hwCfgConsistent := verdict }
  | reviseRcpConsistency (verdict : Bool) :
      Revises spec { spec with rcpCfgConsistent := verdict }

inductive Acts (spec : SpecState) : SpecState → Prop
  | promoteToHwConfigured (hState : spec.state = .hwUnconfigured)
      (hConsistent : spec.hwCfgConsistent = true) :
      Acts spec { spec with state := .hwConfigured }
  | promoteToRcpConfigured (hState : spec.state = .hwConfigured)
      (hConsistent : spec.rcpCfgConsistent = true) :
      Acts spec { spec with state := .rcpConfigured, fieldLock := true }
  | demoteToHwUnconfigured (hState : spec.state = .hwConfigured) :
      Acts spec { spec with state := .hwUnconfigured }
  | fullReset (hState : spec.state = .rcpConfigured) :
      Acts spec { spec with state := .hwUnconfigured, fieldLock := false }

def Next (spec next : SpecState) : Prop := Revises spec next ∨ Acts spec next

def ActsOnce (spec next : SpecState) : Prop :=
  ∃ revised, Relation.ReflTransGen Revises spec revised ∧
    (next = revised ∨ Acts revised next)

private theorem revises_to (spec : SpecState) (hwVerdict rcpVerdict : Bool) :
    Relation.ReflTransGen Revises spec
      { spec with hwCfgConsistent := hwVerdict, rcpCfgConsistent := rcpVerdict } :=
  (Relation.ReflTransGen.single (.reviseHwConsistency hwVerdict)).tail
    (.reviseRcpConsistency rcpVerdict)

private theorem state_of_revises {spec next : SpecState}
    (h : Relation.ReflTransGen Revises spec next) : next.state = spec.state := by
  induction h with
  | refl => rfl
  | tail _ hLast ih => cases hLast <;> exact ih

private theorem next_of_revises {spec next : SpecState}
    (h : Relation.ReflTransGen Revises spec next) :
    Relation.ReflTransGen Next spec next :=
  h.lift id fun _ _ hStep => .inl hStep

theorem ActsOnce.next {spec next : SpecState} (h : ActsOnce spec next) :
    Relation.ReflTransGen Next spec next := by
  obtain ⟨revised, hRevised, rfl | hActs⟩ := h
  · exact next_of_revises hRevised
  · exact (next_of_revises hRevised).tail (.inr hActs)

private theorem not_actsOnce_of_demoted {spec next : SpecState}
    (hFrom : spec.state = .rcpConfigured) (hTo : next.state = .hwConfigured) :
    ¬ ActsOnce spec next := by
  rintro ⟨revised, hRevised, rfl | hActs⟩
  · simp [state_of_revises hRevised, hFrom] at hTo
  · have hRevisedFrom := (state_of_revises hRevised).trans hFrom
    cases hActs <;> simp_all

/-! ## The verdicts that a call asks for -/

/-- What `check_hw_cfg`, or the callback in its place, says to the call, where
it is asked. -/
def Call.hwVerdict (state : ServerState) : Call → Option Bool
  | .advance target hwCfgCheck _ =>
      if state = .hwUnconfigured ∧ target = .hwConfigured then
        some (hwCfgCheck ≠ some false)
      else none
  | .deconfigure => none
  | .transition request =>
      if state = .hwUnconfigured ∧ request.target = .hwConfigured then
        some (checkHwCfg request.snap = none)
      else none

def Call.rcpVerdict (state : ServerState) : Call → Option Bool
  | .advance target _ rcpCfgCheck =>
      if state = .hwConfigured ∧ target = .rcpConfigured then
        some (rcpCfgCheck ≠ some false)
      else none
  | .deconfigure => none
  | .transition request =>
      if state = .hwConfigured ∧ request.target = .rcpConfigured ∧
          authorized request.writer = true then
        some (checkRcpCfg request.snap = none)
      else none

inductive CallMoves (call : Call) : ServerState → ServerState → Prop
  | stayed (state : ServerState) : CallMoves call state state
  | raised (hVerdict : call.hwVerdict .hwUnconfigured = some true) :
      CallMoves call .hwUnconfigured .hwConfigured
  | completed (hVerdict : call.rcpVerdict .hwConfigured = some true) :
      CallMoves call .hwConfigured .rcpConfigured
  | reset : CallMoves call .hwConfigured .hwUnconfigured
  | cleared : CallMoves call .rcpConfigured .hwUnconfigured
  | demoted : CallMoves call .rcpConfigured .hwConfigured

private theorem advance_moves (state target : ServerState)
    (hwCfgCheck rcpCfgCheck : Option Bool) :
    CallMoves (.advance target hwCfgCheck rcpCfgCheck) state
      (advance state target hwCfgCheck rcpCfgCheck).1 := by
  unfold advance
  split_ifs with hUp hRefused hLive hRefused
  · exact .stayed _
  · obtain ⟨rfl, rfl⟩ := hUp
    exact .raised (by simp [Call.hwVerdict, hRefused])
  · exact .stayed _
  · obtain ⟨rfl, rfl⟩ := hLive
    exact .completed (by simp [Call.rcpVerdict, hRefused])
  · exact .stayed _

private theorem transition_moves (state : ServerState) (request : Requested) :
    CallMoves (.transition request) state (transition state request).1 := by
  have hEffect := transition_effect state request
  generalize (transition state request).1 = next at hEffect ⊢
  generalize (transition state request).2 = answer at hEffect
  cases hEffect with
  | stayed _ => exact .stayed _
  | refused _ => exact .stayed _
  | moved hMoves =>
      obtain ⟨target, snap, writer, idle⟩ := request
      cases hMoves with
      | raised hCheck => exact .raised (by simp [Call.hwVerdict, hCheck])
      | completed hWriter hCheck =>
          exact .completed (by simp [Call.rcpVerdict, hWriter, hCheck])
      | demoted _ _ => exact .demoted
      | reset _ _ => exact .reset
      | cleared _ _ => exact .cleared

private theorem callStep_moves (state : ServerState) (call : Call) :
    CallMoves call state (callStep state call).1 := by
  cases call with
  | advance target hwCfgCheck rcpCfgCheck => exact advance_moves _ _ _ _
  | transition request => exact transition_moves _ _
  | deconfigure =>
      cases state with
      | hwUnconfigured => exact .stayed _
      | hwConfigured => exact .reset
      | rcpConfigured => exact .cleared

/-! ## The specification follows the calls -/

private theorem locked_iff {state : ServerState} :
    (∀ writer, fieldWriteError state .functionalWStar writer =
      some .lockedMemAccess) ↔ state = .rcpConfigured := by
  constructor
  · intro hLocked
    have hBest := hLocked bestWriter
    cases state with
    | rcpConfigured => rfl
    | hwUnconfigured => simp [fieldWriteError, fieldWritable, bestWriter] at hBest
    | hwConfigured => simp [fieldWriteError, fieldWritable, bestWriter] at hBest
  · rintro rfl writer
    simp [fieldWriteError, fieldWritable]

/-- The specification is in the server's state, and its field lock is set
exactly while no writer gets at a `FunctionalWStar` field. -/
structure Agrees (state : ServerState) (spec : SpecState) : Prop where
  sameState : spec.state = state
  fieldLock : spec.fieldLock = true ↔
    ∀ writer, fieldWriteError state .functionalWStar writer =
      some .lockedMemAccess

/-- What the specification does while a call takes the server from `state` to
`next`. -/
structure Follows (state next : ServerState) (call : Call)
    (spec specNext : SpecState) : Prop where
  steps : Relation.ReflTransGen Next spec specNext
  actsOnce : ActsOnce spec specNext ↔
    ¬ (state = .rcpConfigured ∧ next = .hwConfigured)
  hwVerdict : ∀ verdict, call.hwVerdict state = some verdict →
    specNext.hwCfgConsistent = verdict
  rcpVerdict : ∀ verdict, call.rcpVerdict state = some verdict →
    specNext.rcpCfgConsistent = verdict

def SpecState.revised (spec : SpecState) (call : Call) : SpecState :=
  { spec with
    hwCfgConsistent := (call.hwVerdict spec.state).getD spec.hwCfgConsistent
    rcpCfgConsistent := (call.rcpVerdict spec.state).getD spec.rcpCfgConsistent }

private theorem follows_of_acts {state next : ServerState} {call : Call}
    {spec specNext : SpecState} (hState : spec.state = state)
    (hNext : specNext.state = next)
    (hActs : specNext = spec.revised call ∨ Acts (spec.revised call) specNext)
    (hHw : specNext.hwCfgConsistent = (spec.revised call).hwCfgConsistent)
    (hRcp : specNext.rcpCfgConsistent = (spec.revised call).rcpCfgConsistent) :
    Follows state next call spec specNext := by
  subst hState hNext
  have hOnce : ActsOnce spec specNext :=
    ⟨spec.revised call, revises_to spec _ _, hActs⟩
  exact
    { steps := hOnce.next
      actsOnce := by
        refine iff_of_true hOnce ?_
        rintro ⟨hFrom, hTo⟩
        exact not_actsOnce_of_demoted hFrom hTo hOnce
      hwVerdict := fun verdict hVerdict => by
        simp [hHw, SpecState.revised, hVerdict]
      rcpVerdict := fun verdict hVerdict => by
        simp [hRcp, SpecState.revised, hVerdict] }

private theorem call_demoted {spec : SpecState}
    (hState : spec.state = .rcpConfigured) (call : Call) :
    ∃ specNext, Agrees .hwConfigured specNext ∧
      Follows .rcpConfigured .hwConfigured call spec specNext := by
  let accepted : SpecState := { spec with hwCfgConsistent := true }
  let cleared : SpecState :=
    { accepted with state := .hwUnconfigured, fieldLock := false }
  refine ⟨{ cleared with state := .hwConfigured },
    ⟨rfl, by simp [cleared, locked_iff]⟩, ?_⟩
  have hRevised : Next spec accepted := .inl (.reviseHwConsistency true)
  have hCleared : Next accepted cleared := .inr (.fullReset hState)
  have hRaised : Next cleared { cleared with state := .hwConfigured } :=
    .inr (.promoteToHwConfigured rfl rfl)
  exact
    { steps := ((Relation.ReflTransGen.single hRevised).tail hCleared).tail
        hRaised
      actsOnce := iff_of_false (not_actsOnce_of_demoted hState rfl)
        (by simp)
      hwVerdict := by cases call <;> simp [Call.hwVerdict]
      rcpVerdict := by cases call <;> simp [Call.rcpVerdict] }

private theorem call_followed {state : ServerState} {spec : SpecState}
    (h : Agrees state spec) (call : Call) :
    ∃ specNext, Agrees (callStep state call).1 specNext ∧
      Follows state (callStep state call).1 call spec specNext := by
  obtain ⟨rfl, hLock⟩ := h
  rw [locked_iff] at hLock
  have hMoves := callStep_moves spec.state call
  generalize (callStep spec.state call).1 = next at hMoves ⊢
  generalize hState : spec.state = state at hMoves
  cases hMoves with
  | stayed =>
      exact ⟨spec.revised call, ⟨hState, by rwa [locked_iff, ← hState]⟩,
        follows_of_acts hState hState (.inl rfl) rfl rfl⟩
  | raised hVerdict =>
      refine ⟨{ spec.revised call with state := .hwConfigured },
        ⟨rfl, ?_⟩, follows_of_acts hState rfl (.inr ?_) rfl rfl⟩
      · simpa [locked_iff, SpecState.revised, hState] using hLock
      · exact .promoteToHwConfigured hState
          (by simp [SpecState.revised, hState, hVerdict])
  | completed hVerdict =>
      refine ⟨{ spec.revised call with
          state := .rcpConfigured, fieldLock := true },
        ⟨rfl, by simp [locked_iff]⟩,
        follows_of_acts hState rfl (.inr ?_) rfl rfl⟩
      exact .promoteToRcpConfigured hState
        (by simp [SpecState.revised, hState, hVerdict])
  | reset =>
      refine ⟨{ spec.revised call with state := .hwUnconfigured },
        ⟨rfl, ?_⟩, follows_of_acts hState rfl
          (.inr (.demoteToHwUnconfigured hState)) rfl rfl⟩
      simpa [locked_iff, SpecState.revised, hState] using hLock
  | cleared =>
      exact ⟨{ spec.revised call with
          state := .hwUnconfigured, fieldLock := false },
        ⟨rfl, by simp [locked_iff]⟩,
        follows_of_acts hState rfl (.inr (.fullReset hState)) rfl rfl⟩
  | demoted => exact call_demoted hState call

/-- Whatever is called, and in whatever order, the specification follows from
its initial state: it is in the server's state, its lock is set exactly while
the register map answers so, and it takes no more than one action for a call
other than the demotion. -/
theorem calls_follow_spec (hwVerdict rcpVerdict : Bool) (calls : ℕ → Call) :
    let state := states callStep .hwUnconfigured calls
    ∃ spec : ℕ → SpecState,
      spec 0 = { hwCfgConsistent := hwVerdict, rcpCfgConsistent := rcpVerdict } ∧
      ∀ n, Agrees (state n) (spec n) ∧
        Follows (state n) (state (n + 1)) (calls n) (spec n) (spec (n + 1)) :=
  have hInit : Agrees .hwUnconfigured
      { hwCfgConsistent := hwVerdict, rcpCfgConsistent := rcpVerdict } :=
    ⟨rfl, by simp [locked_iff]⟩
  exists_following (R := Agrees)
    (M := fun state call => Follows state (callStep state call).1 call)
    (fun _ call _ hAgrees => call_followed hAgrees call) hInit calls

/-! ## Going live -/

/-- The checks that the call may ask for accept. -/
def Call.Consistent : Call → Prop
  | .advance _ hwCfgCheck rcpCfgCheck =>
      hwCfgCheck ≠ some false ∧ rcpCfgCheck ≠ some false
  | .deconfigure => True
  | .transition request =>
      checkHwCfg request.snap = none ∧ checkRcpCfg request.snap = none

def Call.Promotes (target : ServerState) : Call → Prop
  | .advance asked _ _ => asked = target
  | .deconfigure => False
  | .transition request =>
      request.target = target ∧
        (target = .rcpConfigured → authorized request.writer = true)

private theorem callStep_hwConfigured {call : Call}
    (hConsistent : call.Consistent) (h : call.Promotes .hwConfigured) :
    (callStep .hwUnconfigured call).1 = .hwConfigured := by
  cases call with
  | deconfigure => exact h.elim
  | advance asked hwCfgCheck rcpCfgCheck =>
      obtain rfl : asked = .hwConfigured := h
      simp [callStep, advance, hConsistent.1]
  | transition request =>
      simp [callStep, transition, h.1, hConsistent.1, commit]

private theorem callStep_rcpConfigured {call : Call}
    (hConsistent : call.Consistent) (h : call.Promotes .rcpConfigured) :
    (callStep .hwConfigured call).1 = .rcpConfigured := by
  cases call with
  | deconfigure => exact h.elim
  | advance asked hwCfgCheck rcpCfgCheck =>
      obtain rfl : asked = .rcpConfigured := h
      simp [callStep, advance, hConsistent.2]
  | transition request =>
      simp [callStep, transition, h.1, h.2 rfl, hConsistent.2, commit]

private theorem callStep_of_not_promotes {call : Call}
    (h : ¬ call.Promotes .hwConfigured) :
    (callStep .hwUnconfigured call).1 = .hwUnconfigured := by
  have hMoves := callStep_moves .hwUnconfigured call
  generalize (callStep .hwUnconfigured call).1 = next at hMoves ⊢
  cases hMoves with
  | stayed => rfl
  | raised hVerdict =>
      refine absurd ?_ h
      cases call with
      | deconfigure => simp [Call.hwVerdict] at hVerdict
      | advance asked hwCfgCheck rcpCfgCheck =>
          simp only [Call.hwVerdict] at hVerdict
          grind [Call.Promotes]
      | transition request =>
          simp only [Call.hwVerdict] at hVerdict
          grind [Call.Promotes]

section Live

variable (start : ServerState) (calls : ℕ → Call)

/-- The times at which the server is in a state. -/
def At (state : ServerState) (n : ℕ) : Prop :=
  states callStep start calls n = state

/-- The times at which a call asks to take it from there to the next. -/
def Asked (state target : ServerState) (n : ℕ) : Prop :=
  At start calls state n ∧ (calls n).Promotes target

/-- The fairness of the specification: of the first promotion weak, of the
second one strong. -/
structure Fair : Prop where
  toHwConfigured : WeaklyFair (At start calls .hwUnconfigured)
    (Asked start calls .hwUnconfigured .hwConfigured)
  toRcpConfigured : StronglyFair (At start calls .hwConfigured)
    (Asked start calls .hwConfigured .rcpConfigured)

variable {start calls}

/-- While it does not get live, the server is in `HwConfigured` after any time
at that time or later. -/
theorem exists_hwConfigured {first : ℕ}
    (hConsistent : ∀ n ≥ first, (calls n).Consistent)
    (hDown : ∀ n ≥ first, ¬ At start calls .rcpConfigured n)
    (hFair : Fair start calls) :
    ∀ n ≥ first, ∃ m ≥ n, At start calls .hwConfigured m := by
  intro n hn
  cases hState : states callStep start calls n with
  | hwConfigured => exact ⟨n, le_rfl, hState⟩
  | rcpConfigured => exact absurd hState (hDown n hn)
  | hwUnconfigured =>
      have hLasts : ∀ k ≥ n, At start calls .hwUnconfigured k →
          ¬ Asked start calls .hwUnconfigured .hwConfigured k →
          At start calls .hwUnconfigured (k + 1) := by
        intro k _ hAt hNot
        rw [At, states_succ, hAt]
        exact callStep_of_not_promotes fun hPromotes => hNot ⟨hAt, hPromotes⟩
      obtain ⟨m, hm, -, hAt, hPromotes⟩ :=
        hFair.toHwConfigured.exists_taken (fun _ _ h => h) hLasts hState
      refine ⟨m + 1, by omega, ?_⟩
      rw [At, states_succ, hAt]
      exact callStep_hwConfigured (hConsistent m (hn.trans hm)) hPromotes

private theorem frequently_rcpConfigured
    (hConsistent : ∀ᶠ n in atTop, (calls n).Consistent)
    (hFair : Fair start calls) :
    ∃ᶠ n in atTop, At start calls .rcpConfigured n := by
  by_contra hNever
  rw [not_frequently] at hNever
  obtain ⟨first, hFirst⟩ := eventually_atTop.mp (hConsistent.and hNever)
  have hAgain : ∃ᶠ n in atTop, At start calls .hwConfigured n :=
    frequently_of_leads (exists_hwConfigured (fun n hn => (hFirst n hn).1)
      (fun n hn => (hFirst n hn).2) hFair)
  obtain ⟨n, hn, hAt, hPromotes⟩ :=
    frequently_atTop.mp (hFair.toRcpConfigured hAgain) first
  refine (hFirst (n + 1) (by omega)).2 ?_
  rw [At, states_succ, hAt]
  exact callStep_rcpConfigured (hFirst n hn).1 hPromotes

end Live

/-! ## Promoted and reset for ever -/

/-- Up to `HwConfigured` and down again. -/
def lasso (n : ℕ) : Call :=
  if n % 2 = 0 then .advance .hwConfigured none none else .deconfigure

private theorem consistent_lasso (n : ℕ) : (lasso n).Consistent := by
  unfold lasso
  split <;> simp [Call.Consistent]

private theorem states_lasso {start : ServerState}
    (hStart : start ≠ .rcpConfigured) (n : ℕ) :
    At start lasso .hwConfigured (2 * n + 1) ∧
      At start lasso .hwUnconfigured (2 * n + 2) := by
  have hDown (n : ℕ) : At start lasso .hwUnconfigured (2 * n + 2) := by
    simp [At, states_succ, lasso, callStep, deconfigure, Nat.add_mod]
  refine ⟨?_, hDown n⟩
  cases n with
  | zero =>
      cases start with
      | rcpConfigured => exact absurd rfl hStart
      | hwUnconfigured => rfl
      | hwConfigured => rfl
  | succ n =>
      rw [At, states_succ, show 2 * (n + 1) = 2 * n + 2 by ring, hDown n]
      simp [lasso, callStep, advance]

private theorem lasso_never_live {start : ServerState}
    (hStart : start ≠ .rcpConfigured) (n : ℕ) :
    ¬ At start lasso .rcpConfigured n := by
  obtain ⟨k, rfl | rfl⟩ := Nat.even_or_odd' n
  · cases k with
    | zero => exact hStart
    | succ k =>
        have hAt := (states_lasso hStart k).2
        rw [show 2 * (k + 1) = 2 * k + 2 by ring]
        simp_all [At]
  · have hAt := (states_lasso hStart k).1
    simp_all [At]

private theorem lasso_weaklyFair {start : ServerState}
    (hStart : start ≠ .rcpConfigured) :
    WeaklyFair (At start lasso .hwUnconfigured)
        (Asked start lasso .hwUnconfigured .hwConfigured) ∧
      WeaklyFair (At start lasso .hwConfigured)
        (Asked start lasso .hwConfigured .rcpConfigured) := by
  constructor
  · refine fun _ => frequently_atTop.mpr fun n => ?_
    refine ⟨2 * n + 2, by omega, (states_lasso hStart n).2, ?_⟩
    simp [lasso, Call.Promotes]
  · refine weaklyFair_of_frequently_not (frequently_atTop.mpr fun n => ?_)
    refine ⟨2 * n + 2, by omega, fun hAt => ?_⟩
    have hDown := (states_lasso hStart n).2
    simp_all [At]

/-- Checks that accept from some time on and promotions asked for as fairly as
the specification demands get the server live again and again; with weak
fairness of the second promotion in place of strong they need not get it live
once. -/
theorem lifecycle_liveness :
    (∀ start calls, (∀ᶠ n in atTop, (calls n).Consistent) →
      Fair start calls → ∃ᶠ n in atTop, At start calls .rcpConfigured n) ∧
    ∀ start, start ≠ .rcpConfigured → ∃ calls : ℕ → Call,
      (∀ n, (calls n).Consistent) ∧
      WeaklyFair (At start calls .hwUnconfigured)
        (Asked start calls .hwUnconfigured .hwConfigured) ∧
      WeaklyFair (At start calls .hwConfigured)
        (Asked start calls .hwConfigured .rcpConfigured) ∧
      ∀ n, ¬ At start calls .rcpConfigured n := by
  refine ⟨fun _ _ => frequently_rcpConfigured, fun start hStart => ?_⟩
  obtain ⟨hFirst, hSecond⟩ := lasso_weaklyFair hStart
  exact ⟨lasso, consistent_lasso, hFirst, hSecond, lasso_never_live hStart⟩

end CppRcp.Lifecycle
