import CppRcp.Bringup.DiscoveryClaim
import CppRcp.Foundation.Runs

/-!
# The discovery claim as a lease

One client at a time may configure an unconfigured server, and another may
take over once a full timeout has passed since the holder was last heard.  The
claim keeps the time it was heard and not the deadline, so a change of the
timeout moves a deadline that is already running.
-/

namespace CppRcp.Discovery

open CppRcp.Foundation CppRcp.Mock

/-! ## What a lease promises -/

/-- What holds of the claim at one moment, for all calls from then on. -/
structure Exclusive (observed : Observed) : Prop where
  unique : ∀ a b now, observed.claim.mayConfigure a now = true →
    observed.claim.mayConfigure b now = true → a = b
  writes : ∀ client now,
    (observed.claim.onConfigurationRequest client now).2 = true →
      observed.claim.currentHolder now = some client
  takeover : ∀ holder client serverState now,
    observed.claim.holder = some holder → client ≠ holder →
      observed.clock ≤ now →
      (observed.claim.onDiscoveryRequest client serverState now).2 =
        .claimed →
      observed.deadline ≤ now
  steady : ∀ now, observed.claim.holder ≠ none →
    observed.clock < observed.deadline → observed.clock ≤ now →
      (observed.claim.hasActiveClaim now = true ↔ now < observed.deadline)

def InFlight (observed : Observed) : Prop :=
  observed.claim.holder ≠ none ∧ observed.clock < observed.deadline

def DeadlineKept (observed : Observed) : Prop :=
  InFlight observed →
    observed.deadline = observed.claim.claimedAt + observed.claim.window

namespace DiscoveryClaim

variable {claim : DiscoveryClaim} {client : Client} {now : Int}

private theorem lapsed_iff (h : claim.holder ≠ none) :
    claim.lapsed now = true ↔ claim.claimedAt + claim.window ≤ now := by
  simp only [lapsed, Option.isNone_iff_eq_none.not.mpr h, Bool.false_or,
    decide_eq_true_eq]
  omega

private theorem hasActiveClaim_iff (h : claim.holder ≠ none) :
    claim.hasActiveClaim now = true ↔
      now < claim.claimedAt + claim.window := by
  rw [← Int.not_le, ← lapsed_iff h, hasActiveClaim]
  simp [Option.isSome_iff_ne_none.mpr h]

end DiscoveryClaim

open DiscoveryClaim

theorem Exclusive.kept {observed : Observed} (h : Exclusive observed) :
    DeadlineKept observed := by
  rintro ⟨hHeld, hRunning⟩
  rcases Int.lt_trichotomy observed.deadline
      (observed.claim.claimedAt + observed.claim.window)
    with hLater | hSame | hEarlier
  · -- At the deadline that was armed the claim is still active.
    have hActive := (hasActiveClaim_iff hHeld).mpr hLater
    have hPassed := (h.steady _ hHeld hRunning (Int.le_of_lt hRunning)).mp
      hActive
    exact absurd hPassed (Int.lt_irrefl _)
  · exact hSame
  · -- The claim has lapsed at some moment before the deadline.
    have hActive := (h.steady
      (max observed.clock
        (observed.claim.claimedAt + observed.claim.window))
      hHeld hRunning (Int.le_max_left _ _)).mpr (by omega)
    rw [hasActiveClaim_iff hHeld] at hActive
    omega

def Call.time : Call → Option Int
  | .discoveryRequest _ _ now => some now
  | .configurationRequest _ now => some now
  | _ => none

end CppRcp.Discovery
