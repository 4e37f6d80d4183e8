import CppRcp.Foundation.Pool

/-!
# Redundant requests

`RedundantRequestFn` of `redundancy.hpp`: a request goes to the path that is
active, and after a retriable failure to the path that is active by then.  A
path is called without the mutex, so that the calls of many senders overlap;
reading and promoting the active path are single steps under the mutex.
-/

namespace CppRcp.Host

open CppRcp.Foundation

namespace Redundancy

inductive Path
  | primary
  | standby
  deriving DecidableEq, Repr

inductive Failure
  | closed
  | timeout
  | other (code : Nat)
  deriving DecidableEq, Repr

def Failure.retriable : Failure → Bool
  | .closed | .timeout => true
  | .other _ => false

structure Config where
  autoPromote : Bool := true
  maxRetries : Int := 1
  deriving DecidableEq, Repr

/-- Where a call of `send` is between two steps. -/
inductive Stage
  | idle
  | reading
  | calling (active : Path)
  | promoting (observed : Path) (failure : Failure)
  | retrying (i : Nat) (failure : Failure)
  | recalling (i : Nat) (retryActive : Path)
  | returned (result : Option Failure)
  deriving DecidableEq, Repr

/-- A sender starts or goes on, the path that it called returns, or `promote`
is called by hand. -/
inductive Input
  | start
  | advance
  | returns (result : Option Failure)
  | promote
  deriving DecidableEq, Repr

def togglePath : Path → Path
  | .primary => .standby
  | .standby => .primary

def promoteFrom (active observed : Path) : Path :=
  if active = observed then togglePath active else active

/-- An input that a sender does not wait for changes nothing. -/
def senderStep (cfg : Config) (active : Path) (stage : Stage)
    (input : Input) : Path × Stage :=
  match stage, input with
  | _, .promote => (togglePath active, stage)
  | .idle, .start => (active, .reading)
  | .reading, .advance => (active, .calling active)
  | .calling observed, .returns result =>
      match result with
      | none => (active, .returned none)
      | some failure =>
          if !cfg.autoPromote then (active, .returned (some failure))
          else if failure.retriable then (active, .promoting observed failure)
          else (active, .returned (some failure))
  | .promoting observed failure, .advance =>
      (promoteFrom active observed, .retrying 0 failure)
  | .retrying i failure, .advance =>
      if (i : Int) < cfg.maxRetries then (active, .recalling i active)
      else (active, .returned (some failure))
  | .recalling i _, .returns result =>
      match result with
      | none => (active, .returned none)
      | some failure => (active, .retrying (i + 1) failure)
  | _, _ => (active, stage)

/-- All senders are idle, and the primary is active. -/
def initial : Pool Path Stage where
  shared := .primary
  stages := fun _ => .idle

end Redundancy

end CppRcp.Host
