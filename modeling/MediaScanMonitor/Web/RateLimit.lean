import MediaScanMonitor.Lib.Text
import MediaScanMonitor.Lib.Window
import Mathlib.Algebra.Order.Ring.Rat
import Mathlib.Data.List.AList

/-!
# The login throttle

`web/ratelimit.py`. The readings of the clock are arguments, one for each call of `now`. The second
component of a result is the limiter afterwards.
-/

namespace MediaScanMonitor
open Text Window

structure LoginRateLimiter where
  maxAttempts : Nat
  window : ℚ
  failures : AList fun _ : Str => List ℚ

namespace LoginRateLimiter

/-- `__init__`. -/
def init (maxAttempts : Nat) (window : ℚ) : LoginRateLimiter :=
  ⟨maxAttempts, window, ∅⟩

/-- `self._failures.get(key, [])`. -/
def times (l : LoginRateLimiter) (key : Str) : List ℚ :=
  (l.failures.lookup key).getD []

/-- `_prune`. -/
def prune (l : LoginRateLimiter) (now : ℚ) (key : Str) : List ℚ × LoginRateLimiter :=
  let recent := Window.prune (now - l.window) (l.times key)
  (recent, { l with
    failures := if recent ≠ [] then l.failures.insert key recent else l.failures.erase key })

/-- `allowed`. -/
def allowed (l : LoginRateLimiter) (now : ℚ) (key : Str) : Bool × LoginRateLimiter :=
  (decide ((l.prune now key).1.length < l.maxAttempts), (l.prune now key).2)

/-- `record_failure`; the clock is read for the pruning and again for the record. -/
def recordFailure (l : LoginRateLimiter) (pruned recorded : ℚ) (key : Str) : LoginRateLimiter :=
  let recent := (l.prune pruned key).1
  { l with failures := (l.prune pruned key).2.failures.insert key (recent ++ [recorded]) }

/-- `reset`. -/
def reset (l : LoginRateLimiter) (key : Str) : LoginRateLimiter :=
  { l with failures := l.failures.erase key }

variable {l : LoginRateLimiter} {key key' : Str}

lemma times_prune (l : LoginRateLimiter) (now : ℚ) (key : Str) :
    (l.prune now key).2.times key = Window.prune (now - l.window) (l.times key) := by
  show (AList.lookup key (ite _ (l.failures.insert key _) (l.failures.erase key))).getD [] = _
  split
  · rw [AList.lookup_insert]
    rfl
  · next h =>
    rw [AList.lookup_erase]
    exact (not_not.1 h).symm

lemma times_prune_ne (h : key' ≠ key) (l : LoginRateLimiter) (now : ℚ) :
    (l.prune now key).2.times key' = l.times key' := by
  show (AList.lookup key' (ite _ (l.failures.insert key _) (l.failures.erase key))).getD [] = _
  split
  · rw [AList.lookup_insert_ne h]
    rfl
  · rw [AList.lookup_erase_ne h]
    rfl

lemma times_recordFailure (l : LoginRateLimiter) (pruned recorded : ℚ) (key : Str) :
    (l.recordFailure pruned recorded key).times key =
      Window.prune (pruned - l.window) (l.times key) ++ [recorded] := by
  show (AList.lookup key ((l.prune pruned key).2.failures.insert key _)).getD [] = _
  rw [AList.lookup_insert]
  rfl

lemma times_recordFailure_ne (h : key' ≠ key) (l : LoginRateLimiter) (pruned recorded : ℚ) :
    (l.recordFailure pruned recorded key).times key' = l.times key' := by
  show (AList.lookup key' ((l.prune pruned key).2.failures.insert key _)).getD [] = _
  rw [AList.lookup_insert_ne h]
  exact times_prune_ne h l pruned

lemma times_reset_ne (h : key' ≠ key) (l : LoginRateLimiter) :
    (l.reset key).times key' = l.times key' := by
  show (AList.lookup key' (l.failures.erase key)).getD [] = _
  rw [AList.lookup_erase_ne h]
  rfl

/-- Pruning keeps what counts in a window that ends later, under any key. -/
lemma later_prune {x now : ℚ} (hx : now - l.window ≤ x) (key key' : Str) :
    later x ((l.prune now key).2.times key') = later x (l.times key') := by
  by_cases hk : key' = key
  · subst hk
    rw [times_prune]
    exact Window.later_prune hx (l.times key')
  · rw [times_prune_ne hk]

/-- A recorded failure counts in every window that ends later and begins before it. -/
lemma later_recordFailure {x pruned recorded : ℚ} (hx : pruned - l.window ≤ x)
    (hr : x < recorded) (key : Str) :
    later x ((l.recordFailure pruned recorded key).times key) = later x (l.times key) + 1 := by
  rw [times_recordFailure, later_snoc_of_lt hr, Window.later_prune hx]

/-- `allowed` compares with the failures that still count. -/
lemma allowed_iff (l : LoginRateLimiter) (now : ℚ) (key : Str) :
    (l.allowed now key).1 = true ↔ later (now - l.window) (l.times key) < l.maxAttempts := by
  show decide ((Window.prune (now - l.window) (l.times key)).length < l.maxAttempts) = true ↔ _
  rw [length_prune, decide_eq_true_iff]

end LoginRateLimiter
end MediaScanMonitor
