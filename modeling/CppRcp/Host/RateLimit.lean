import CppRcp.Foundation.Runs
import Std.Data.TreeMap

/-!
# The rate limiter

`ratelimit.hpp`: one token bucket for each endpoint of each stream, made at
the first request for it with the configuration that all of them share.  The
arithmetic on tokens is that of the rationals.
-/

namespace CppRcp.Host.RateLimit

open CppRcp.Foundation Std

inductive RateLimitErrc
  | admissionDenied
  deriving DecidableEq, Repr

structure Config where
  rate : ℚ := 100
  burst : Int := 20
  exemptSafetyTagged : Bool := true
  deriving DecidableEq, Repr

structure EndpointKey where
  streamKey : UInt64 := 0
  byteBusId : UInt16 := 0
  deriving DecidableEq, Repr

namespace EndpointKey

/-- `operator<` -/
instance : Ord EndpointKey where
  compare := compareLex (compareOn streamKey) (compareOn byteBusId)

instance : TransOrd EndpointKey :=
  inferInstanceAs
    (TransCmp (compareLex (compareOn streamKey) (compareOn byteBusId)))

instance : LawfulEqOrd EndpointKey where
  eq_of_compare {a b} h := by
    obtain ⟨hStream, hBus⟩ := compareLex_eq_eq.mp h
    cases a
    cases b
    congr 1
    · exact LawfulEqCmp.eq_of_compare hStream
    · exact LawfulEqCmp.eq_of_compare hBus

end EndpointKey

structure TokenBucket where
  cfg : Config
  hasLast : Bool := false
  lastMs : UInt64 := 0
  tokens : ℚ := cfg.burst
  deriving DecidableEq, Repr

namespace TokenBucket

variable (bucket : TokenBucket)

/-- The tokens once the time since the last call has been added; the first
call has no last one. -/
def refilled (nowMs : UInt64) : ℚ :=
  if bucket.hasLast then
    let secs := ((nowMs - bucket.lastMs).toNat : ℚ) / 1000
    let tokens := bucket.tokens + secs * bucket.cfg.rate
    if (bucket.cfg.burst : ℚ) < tokens then bucket.cfg.burst else tokens
  else bucket.tokens

def take (nowMs : UInt64) : TokenBucket × Bool :=
  let tokens := bucket.refilled nowMs
  let seen : TokenBucket := { bucket with hasLast := true, lastMs := nowMs }
  if tokens < 1 then ({ seen with tokens }, false)
  else ({ seen with tokens := tokens - 1 }, true)

end TokenBucket

structure Manager where
  cfg : Config := {}
  buckets : TreeMap EndpointKey TokenBucket := ∅

/-- The arguments of `admit`. -/
structure Request where
  key : EndpointKey
  isSafetyTagged : Bool := false
  nowMs : UInt64
  deriving DecidableEq, Repr

structure Admission where
  request : Request
  error : Option RateLimitErrc
  deriving DecidableEq, Repr

namespace Manager

variable (manager : Manager)

def admitRequest (key : EndpointKey) (isSafetyTagged : Bool) (nowMs : UInt64) :
    Manager × Option RateLimitErrc :=
  if manager.cfg.exemptSafetyTagged && isSafetyTagged then (manager, none)
  else
    let bucket := manager.buckets[key]?.getD { cfg := manager.cfg }
    let taken := bucket.take nowMs
    ({ manager with buckets := manager.buckets.insert key taken.1 },
      if taken.2 then none else some .admissionDenied)

def step (request : Request) : Manager × Admission :=
  let admitted :=
    manager.admitRequest request.key request.isSafetyTagged request.nowMs
  (admitted.1, ⟨request, admitted.2⟩)

end Manager

end CppRcp.Host.RateLimit
