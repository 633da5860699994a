import MediaScanMonitor.Web.RateLimit

/-!
# What the login throttle remembers

Runs of calls on a limiter of `web/ratelimit.py`, beside the full history of the failures that were
recorded. The limiter forgets old failures with every call; those that still count it has as the
history has them.
-/

namespace MediaScanMonitor
open Text Window

namespace LoginRateLimiter

/-- A call, with its readings of the clock. -/
inductive Call
  | allowed (key : Str) (now : ℚ)
  | recordFailure (key : Str) (pruned recorded : ℚ)
  | reset (key : Str)
deriving DecidableEq

namespace Call

def key : Call → Str
  | .allowed key _ => key
  | .recordFailure key _ _ => key
  | .reset key => key

/-- The time of a failure of the key. -/
def failure (key : Str) : Call → Option ℚ
  | .recordFailure key' _ recorded => if key' = key then some recorded else none
  | _ => none

end Call

/-- The limiter after a call. -/
def call (l : LoginRateLimiter) : Call → LoginRateLimiter
  | .allowed key now => (l.allowed now key).2
  | .recordFailure key pruned recorded => l.recordFailure pruned recorded key
  | .reset key => l.reset key

/-- The limiter after a list of calls. -/
def run (l : LoginRateLimiter) (calls : List Call) : LoginRateLimiter :=
  calls.foldl call l

variable {l l' : LoginRateLimiter} {key : Str} {c : Call} {calls : List Call} {t : ℚ}

/-- What a call makes of the times of its key. -/
def Call.kept (window : ℚ) : Call → List ℚ → List ℚ
  | .allowed _ now, ts => Window.prune (now - window) ts
  | .recordFailure _ pruned recorded, ts => Window.prune (pruned - window) ts ++ [recorded]
  | .reset _, _ => []

end LoginRateLimiter
end MediaScanMonitor
