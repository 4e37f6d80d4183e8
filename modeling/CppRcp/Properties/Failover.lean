import CppRcp.Host.Redundancy

/-!
# Failing over to the standby

The primary fails every call with a retriable error and the standby answers
every call.  A sender that failed has seen the primary, so that no sender
promotes away from the standby: once it is active it stays active, and every
sender gets its answer there.
-/

namespace CppRcp.Host.Redundancy

open CppRcp.Foundation

/-- The primary fails, the standby answers, and nobody promotes by hand. -/
def Answers (_ : Path) (stage : Stage) : Input → Prop
  | .returns result =>
      match stage with
      | .calling .primary | .recalling _ .primary =>
          ∃ failure : Failure, failure.retriable = true ∧
            result = some failure
      | .calling .standby | .recalling _ .standby => result = none
      | _ => True
  | .promote => False
  | _ => True

def Knows (active : Path) : Stage → Prop
  | .promoting observed _ => observed = .primary
  | .retrying i _ => i = 0 ∧ active = .standby
  | .recalling _ retryActive =>
      retryActive = .standby ∧ active = .standby
  | .returned result => result = none
  | _ => True

variable {cfg : Config} {active : Path} {stage : Stage} {input : Input}

private theorem senderStep_active (hKnows : Knows active stage)
    (hAnswers : Answers active stage input) :
    (senderStep cfg active stage input).1 = active ∨
      (senderStep cfg active stage input).1 = .standby := by
  cases stage with
  | promoting observed failure =>
      cases input with
      | advance =>
          obtain rfl : observed = .primary := hKnows
          cases active with
          | primary => exact .inr rfl
          | standby => exact .inl rfl
      | promote => exact hAnswers.elim
      | _ => exact .inl rfl
  | calling observed =>
      cases input with
      | returns result =>
          left
          simp only [senderStep]
          split
          · rfl
          · split
            · rfl
            · split <;> rfl
      | promote => exact hAnswers.elim
      | _ => exact .inl rfl
  | retrying i failure =>
      cases input with
      | advance =>
          left
          simp only [senderStep]
          split <;> rfl
      | promote => exact hAnswers.elim
      | _ => exact .inl rfl
  | recalling i retryActive =>
      cases input with
      | returns result => cases result <;> exact .inl rfl
      | promote => exact hAnswers.elim
      | _ => exact .inl rfl
  | _ =>
      cases input with
      | promote => exact hAnswers.elim
      | _ => exact .inl rfl

private theorem Knows.of_active {next : Path} (h : Knows active stage)
    (hNext : next = active ∨ next = .standby) : Knows next stage := by
  rcases hNext with rfl | rfl
  · exact h
  · cases stage with
    | retrying i failure => exact ⟨h.1, rfl⟩
    | recalling i retryActive => exact ⟨h.1, rfl⟩
    | _ => exact h

private theorem knows_own (hPromote : cfg.autoPromote = true)
    (hRetries : 1 ≤ cfg.maxRetries) (hKnows : Knows active stage)
    (hAnswers : Answers active stage input) :
    Knows (senderStep cfg active stage input).1
      (senderStep cfg active stage input).2 := by
  cases stage with
  | idle =>
      cases input with
      | promote => exact hAnswers.elim
      | _ => trivial
  | reading =>
      cases input with
      | promote => exact hAnswers.elim
      | _ => trivial
  | calling observed =>
      cases input with
      | returns result =>
          cases observed with
          | primary =>
              obtain ⟨failure, hRetriable, rfl⟩ := hAnswers
              simp only [senderStep, hPromote, hRetriable]
              rfl
          | standby =>
              obtain rfl : result = none := hAnswers
              rfl
      | promote => exact hAnswers.elim
      | _ => trivial
  | promoting observed failure =>
      cases input with
      | advance =>
          obtain rfl : observed = .primary := hKnows
          cases active <;> exact ⟨rfl, rfl⟩
      | promote => exact hAnswers.elim
      | _ => exact hKnows
  | retrying i failure =>
      cases input with
      | advance =>
          obtain ⟨rfl, rfl⟩ := hKnows
          have hFirst : ((0 : Nat) : Int) < cfg.maxRetries := by
            omega
          simp only [senderStep, hFirst, if_true]
          exact ⟨rfl, rfl⟩
      | promote => exact hAnswers.elim
      | _ => exact hKnows
  | recalling i retryActive =>
      cases input with
      | returns result =>
          obtain ⟨rfl, rfl⟩ := hKnows
          obtain rfl : result = none := hAnswers
          rfl
      | promote => exact hAnswers.elim
      | _ => exact hKnows
  | returned result =>
      cases input with
      | promote => exact hAnswers.elim
      | _ => exact hKnows

private theorem keeps_knows (hPromote : cfg.autoPromote = true)
    (hRetries : 1 ≤ cfg.maxRetries) :
    Pool.Keeps (senderStep cfg) Knows Answers where
  own := fun _ _ _ hKnows hAnswers =>
    knows_own hPromote hRetries hKnows hAnswers
  other := fun _ _ _ _ hKnows hAnswers hBystander =>
    hBystander.of_active (senderStep_active hKnows hAnswers)

/-! ## The steps of a sender -/

def rank : Stage → Nat
  | .idle => 6
  | .reading => 5
  | .calling _ => 4
  | .promoting _ _ => 3
  | .retrying _ _ => 2
  | .recalling _ _ => 1
  | .returned _ => 0

private theorem rank_senderStep (hKnows : Knows active stage)
    (hAnswers : Answers active stage input)
    (hMoves : (senderStep cfg active stage input).2 ≠ stage) :
    rank (senderStep cfg active stage input).2 < rank stage := by
  cases stage with
  | calling observed =>
      cases input with
      | returns result =>
          simp only [senderStep]
          split
          · simp [rank]
          · split
            · simp [rank]
            · split <;> simp [rank]
      | _ => exact absurd rfl hMoves
  | retrying i failure =>
      cases input with
      | advance =>
          simp only [senderStep]
          split <;> simp [rank]
      | _ => exact absurd rfl hMoves
  | recalling i retryActive =>
      cases input with
      | returns result =>
          obtain ⟨rfl, rfl⟩ := hKnows
          obtain rfl : result = none := hAnswers
          simp [senderStep, rank]
      | _ => exact absurd rfl hMoves
  | returned result =>
      cases input <;> exact absurd rfl hMoves
  | idle =>
      cases input with
      | start => simp [senderStep, rank]
      | _ => exact absurd rfl hMoves
  | reading =>
      cases input with
      | advance => simp [senderStep, rank]
      | _ => exact absurd rfl hMoves
  | promoting observed failure =>
      cases input with
      | advance => simp [senderStep, rank]
      | _ => exact absurd rfl hMoves

private theorem exists_answer (hIdle : stage ≠ .idle)
    (hReturned : ∀ result, stage ≠ .returned result) :
    ∃ input, Answers active stage input ∧
      (senderStep cfg active stage input).2 ≠ stage := by
  cases stage with
  | idle => exact absurd rfl hIdle
  | returned result => exact absurd rfl (hReturned result)
  | reading => exact ⟨.advance, trivial, by simp [senderStep]⟩
  | promoting observed failure =>
      exact ⟨.advance, trivial, by simp [senderStep]⟩
  | retrying i failure =>
      refine ⟨.advance, trivial, ?_⟩
      simp only [senderStep]
      split <;> simp
  | calling observed =>
      cases observed with
      | primary =>
          refine ⟨.returns (some .closed), ⟨.closed, rfl, rfl⟩, ?_⟩
          simp only [senderStep, Failure.retriable, if_true]
          split <;> simp
      | standby => exact ⟨.returns none, rfl, by simp [senderStep]⟩
  | recalling i retryActive =>
      cases retryActive with
      | primary =>
          exact ⟨.returns (some .closed), ⟨.closed, rfl, rfl⟩,
            by simp [senderStep]⟩
      | standby => exact ⟨.returns none, rfl, by simp [senderStep]⟩

/-! ## Runs -/

/-- Once active the standby stays active; a call of `send` returns success, by
six steps of its own at the latest, and is never stuck before. -/
theorem failover_run (cfg : Config) (inputs : List (Nat × Input))
    (hPromote : cfg.autoPromote = true) (hRetries : 1 ≤ cfg.maxRetries)
    (hAnswers : Along (Pool.step (senderStep cfg)) (Pool.Allows Answers)
      initial inputs) :
    let after := fun n =>
      (run (Pool.step (senderStep cfg)) initial (inputs.take n)).1
    (∀ m n, m ≤ n → (after m).shared = .standby →
      (after n).shared = .standby) ∧
    (∀ n id result, (after n).stages id = .returned result →
      result = none) ∧
    (∀ n id, Pool.moves (senderStep cfg) id initial (inputs.take n) ≤ 6) ∧
    ∀ n id, (after n).stages id ≠ .idle →
      (∀ result, (after n).stages id ≠ .returned result) →
        ∃ input, Pool.Allows Answers (after n) (id, input) ∧
          ((after n).step (senderStep cfg) (id, input)).1.stages id ≠
            (after n).stages id := by
  intro after
  have hKeeps := keeps_knows hPromote hRetries
  have hStart : initial.Relies Knows := fun _ => trivial
  have hRelies : ∀ n, (after n).Relies Knows := fun n =>
    Pool.relies_run hKeeps hStart (hAnswers.take n)
  refine ⟨?_, ?_, ?_, ?_⟩
  · intro m n hLe hStandby
    have hStep : ∀ (pool : Pool Path Stage) (next : Nat × Input),
        pool.Relies Knows ∧ pool.shared = .standby →
        pool.Allows Answers next →
          (pool.step (senderStep cfg) next).1.Relies Knows ∧
            (pool.step (senderStep cfg) next).1.shared = .standby := by
      rintro pool next ⟨hKnown, hActive⟩ hAllowed
      refine ⟨Pool.relies_step hKeeps pool next hKnown hAllowed, ?_⟩
      rcases senderStep_active (hKnown next.1) hAllowed with h | h
      · exact h.trans hActive
      · exact h
    exact (invariant_run_take hStep hAnswers hLe ⟨hRelies m, hStandby⟩).2
  · intro n id result hReturned
    have hKnown := hRelies n id
    rw [hReturned] at hKnown
    exact hKnown
  · intro n id
    have hBound := Pool.moves_add_rank_le hKeeps
      (fun _ _ _ => rank_senderStep) hStart (hAnswers.take n) id
    exact (Nat.le_add_right _ _).trans hBound
  · intro n id hIdle hReturned
    obtain ⟨input, hAllowed, hMoves⟩ :=
      @exists_answer cfg (after n).shared _ hIdle hReturned
    refine ⟨input, hAllowed, ?_⟩
    simpa [Pool.step] using hMoves

def bothFail : List (Nat × Input) :=
  [(0, .start), (1, .start), (0, .advance), (1, .advance),
    (0, .returns (some .closed)), (1, .returns (some .timeout)),
    (0, .advance), (1, .advance), (0, .advance), (1, .advance),
    (0, .returns none), (1, .returns none)]

theorem failover_run_both :
    (run (Pool.step (senderStep {})) initial (bothFail.take 12)).1.shared =
      .standby :=
  (failover_run {} bothFail rfl (by decide)
    ⟨trivial, trivial, trivial, trivial, ⟨.closed, rfl, rfl⟩,
      ⟨.timeout, rfl, rfl⟩, trivial, trivial, trivial, trivial, rfl, rfl,
      trivial⟩).1 7 12 (by decide) rfl

end CppRcp.Host.Redundancy
