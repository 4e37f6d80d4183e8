import CppRcp.Mock.State

/-!
# The discovery claim

`discovery::DiscoveryClaim`: the first client that discovers an unconfigured
server may configure it, until it has sent no configuration request for the
time of the timeout.  Times are nanoseconds of a steady clock, which the
caller reads, and timeouts are milliseconds.
-/

namespace CppRcp.Discovery

open CppRcp.Mock

abbrev Client := Nat

inductive ClaimOutcome
  | notEligible | claimed | alreadyHeld | heldByOther
  deriving DecidableEq, Repr

def kDefaultTimeout : Int := 20

def nanosPerMilli : Int := 1000000

structure DiscoveryClaim where
  timeout : Int := kDefaultTimeout
  holder : Option Client := none
  claimedAt : Int := 0
  deriving DecidableEq, Repr

namespace DiscoveryClaim

variable (claim : DiscoveryClaim)

def window : Int := claim.timeout * nanosPerMilli

def lapsed (now : Int) : Bool :=
  claim.holder.isNone || decide (claim.window ≤ now - claim.claimedAt)

def onDiscoveryRequest (client : Client) (serverState : ServerState)
    (now : Int) : DiscoveryClaim × ClaimOutcome :=
  if serverState ≠ .hwUnconfigured ∧ serverState ≠ .hwConfigured then
    (claim, .notEligible)
  else if claim.holder.isSome && !claim.lapsed now then
    (claim, if claim.holder = some client then .alreadyHeld else .heldByOther)
  else ({ claim with holder := some client, claimedAt := now }, .claimed)

def mayConfigure (client : Client) (now : Int) : Bool :=
  claim.holder == some client && !claim.lapsed now

def onConfigurationRequest (client : Client) (now : Int) :
    DiscoveryClaim × Bool :=
  if !claim.mayConfigure client now then (claim, false)
  else ({ claim with claimedAt := now }, true)

def hasActiveClaim (now : Int) : Bool :=
  claim.holder.isSome && !claim.lapsed now

def currentHolder (now : Int) : Option Client :=
  if claim.hasActiveClaim now then claim.holder else none

def release : DiscoveryClaim := { claim with holder := none }

def setTimeout (timeout : Int) : DiscoveryClaim := { claim with timeout }

end DiscoveryClaim

/-- What `Server::set_discovery_timeout_us` makes of the value of the
register. -/
def timeoutOfRegister (timeoutUs : UInt16) : Int := timeoutUs.toNat / 1000

/-! ## Runs -/

inductive Call
  | discoveryRequest (client : Client) (serverState : ServerState)
      (now : Int)
  | configurationRequest (client : Client) (now : Int)
  | release
  | setTimeout (timeout : Int)
  | setDiscoveryTimeoutUs (timeoutUs : UInt16)
  deriving DecidableEq, Repr

inductive Reply
  | outcome (outcome : ClaimOutcome)
  | accepted (accepted : Bool)
  | done
  deriving DecidableEq, Repr

/-- The claim, with what an onlooker notes of its run: the time of the latest
call that was given one, and when the timeout ends that was in force at the
latest grant or accepted configuration request. -/
structure Observed where
  claim : DiscoveryClaim
  clock : Int
  deadline : Int
  deriving DecidableEq, Repr

def Observed.start (timeout : Int) (clock : Int) : Observed :=
  ⟨{ timeout }, clock, clock⟩

/-- After a call at `now`, which armed the deadline of the claim or not. -/
def Observed.arm (observed : Observed) (claim : DiscoveryClaim)
    (armed : Bool) (now : Int) : Observed where
  claim
  clock := now
  deadline :=
    if armed then now + observed.claim.window else observed.deadline

def step (observed : Observed) : Call → Observed × Reply
  | .discoveryRequest client serverState now =>
      let (claim, outcome) :=
        observed.claim.onDiscoveryRequest client serverState now
      (observed.arm claim (outcome = .claimed) now, .outcome outcome)
  | .configurationRequest client now =>
      let (claim, accepted) := observed.claim.onConfigurationRequest client now
      (observed.arm claim accepted now, .accepted accepted)
  | .release => ({ observed with claim := observed.claim.release }, .done)
  | .setTimeout timeout =>
      ({ observed with claim := observed.claim.setTimeout timeout }, .done)
  | .setDiscoveryTimeoutUs timeoutUs =>
      ({ observed with
          claim := observed.claim.setTimeout (timeoutOfRegister timeoutUs) },
        .done)

end CppRcp.Discovery
