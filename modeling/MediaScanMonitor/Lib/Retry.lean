import Mathlib.Logic.Function.Iterate
import Mathlib.Tactic.Common

/-!
# Retrying

A loop that runs its body again and again. What the body raises is swallowed, and the body is tried
again, while `retry` holds of the exception and `stop` does not of the number of the attempt. An
exception that is not retried leaves the loop, and so does a body that does not raise.
-/

namespace Retry
variable {σ ε ρ : Type}

/-- How the body of an attempt ends. -/
inductive Attempt (ε ρ : Type)
  /-- It returns from the function that the loop is in. -/
  | returned (value : ρ)
  | raised (exc : ε)
  /-- It comes to its end. -/
  | finished

structure Retrying (ε : Type) where
  stop : Nat → Bool
  retry : ε → Bool

namespace Retrying

/-- The attempt of the number is followed by another one. -/
def again (r : Retrying ε) (number : Nat) : Attempt ε ρ → Bool
  | .raised exc => r.retry exc && !r.stop number
  | _ => false

/-- The loop from an attempt on: how its last attempt ends, and the state it leaves. -/
def loop (r : Retrying ε) (body : σ → Attempt ε ρ × σ) :
    (fuel number : Nat) → σ → Option (Attempt ε ρ × σ)
  | 0, _, _ => none
  | fuel + 1, number, s =>
    if r.again number (body s).1 then r.loop body fuel (number + 1) (body s).2 else some (body s)

/-- The state after a number of attempts. -/
def after (body : σ → Attempt ε ρ × σ) (m : Nat) (s : σ) : σ :=
  (fun s => (body s).2)^[m] s

/-- The loop ends with the first attempt that is not followed by another one. -/
theorem loop_eq (r : Retrying ε) (body : σ → Attempt ε ρ × σ) {m fuel number : Nat} {s : σ}
    (hagain : ∀ i < m, r.again (number + i) (body (after body i s)).1 = true)
    (hlast : r.again (number + m) (body (after body m s)).1 = false) (hfuel : m < fuel) :
    r.loop body fuel number s = some (body (after body m s)) := by
  induction m generalizing fuel number s with
  | zero =>
    cases fuel with
    | zero => cases hfuel
    | succ fuel =>
      have hlast : r.again number (body s).1 = false := hlast
      rw [loop, hlast]
      rfl
  | succ m ih =>
    cases fuel with
    | zero => cases hfuel
    | succ fuel =>
      have hfirst : r.again number (body s).1 = true := hagain 0 (Nat.succ_pos m)
      rw [loop, if_pos hfirst]
      apply ih
      · intro i hi
        have h := hagain (i + 1) (Nat.succ_lt_succ hi)
        rw [Nat.add_assoc, Nat.add_comm 1 i]
        exact h
      · rw [Nat.add_assoc, Nat.add_comm 1 m]
        exact hlast
      · exact Nat.lt_of_succ_lt_succ hfuel

/-- What the loop ends with is the end of an attempt. -/
lemma exists_of_loop {r : Retrying ε} {body : σ → Attempt ε ρ × σ} {fuel number : Nat} {s : σ}
    {last : Attempt ε ρ × σ} (h : r.loop body fuel number s = some last) : ∃ s', last = body s' := by
  induction fuel generalizing number s with
  | zero => cases h
  | succ fuel ih =>
    rw [loop] at h
    split at h
    · exact ih h
    · cases h
      exact ⟨s, rfl⟩

end Retrying

/-- The first number from `1` up to `n` that is settled, or `n` if there is none. -/
def firstSettled (settled : Nat → Bool) (n : Nat) : Nat :=
  ((List.range' 1 n).find? settled).getD n

/-- The numbers before it are not settled, and it is settled or the last one. -/
lemma firstSettled_spec (settled : Nat → Bool) {n : Nat} (hn : 1 ≤ n) :
    1 ≤ firstSettled settled n ∧ firstSettled settled n ≤ n ∧
      (∀ i, 1 ≤ i → i < firstSettled settled n → settled i = false) ∧
      (settled (firstSettled settled n) = true ∨ firstSettled settled n = n) := by
  unfold firstSettled
  cases h : (List.range' 1 n).find? settled with
  | none =>
    refine ⟨hn, Nat.le_refl n, fun i h1 hi => ?_, .inr rfl⟩
    have hi : i < n := hi
    have hnot := List.find?_range'_eq_none.1 h i h1 (Nat.lt_add_left 1 hi)
    simpa using hnot
  | some k =>
    obtain ⟨hk, hmem, hbefore⟩ := List.find?_range'_eq_some.1 h
    obtain ⟨hlo, hhi⟩ := List.mem_range'_1.1 hmem
    refine ⟨hlo, ?_, fun i h1 hi => ?_, .inl hk⟩
    · show k ≤ n
      omega
    · have hnot := hbefore i h1 hi
      simpa using hnot

end Retry
