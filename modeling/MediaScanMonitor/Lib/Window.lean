import Mathlib.Algebra.Order.Group.Basic
import Mathlib.Data.List.Basic
import Mathlib.Tactic.Common

/-!
# Sliding windows

How many events of a log fall into a window of a given length. `later x` counts the events after
`x`, `prune` forgets the others, and a log stays `Limited` when each event finds room in the window
that ends with it.
-/

namespace Window

/-- An event that is not counted. -/
lemma countP_snoc_of_not {τ : Type} {p : τ → Bool} {t : τ} (h : ¬ p t) (ts : List τ) :
    (ts ++ [t]).countP p = ts.countP p := by
  rw [List.countP_append, List.countP_singleton, if_neg h]
  rfl

section Later
variable {τ : Type} [LinearOrder τ] {x y t : τ} {ts : List τ}

/-- The number of events after `x`. -/
def later (x : τ) (ts : List τ) : Nat :=
  ts.countP fun t => x < t

/-- The events after `x`. -/
def prune (x : τ) (ts : List τ) : List τ :=
  ts.filter fun t => x < t

lemma length_prune (x : τ) (ts : List τ) : (prune x ts).length = later x ts :=
  List.countP_eq_length_filter.symm

lemma later_append (x : τ) (ts us : List τ) : later x (ts ++ us) = later x ts + later x us :=
  List.countP_append

lemma later_snoc_of_lt (h : x < t) (ts : List τ) : later x (ts ++ [t]) = later x ts + 1 := by
  rw [later_append]
  show _ + List.countP _ [t] = _
  rw [List.countP_singleton, if_pos (decide_eq_true h)]

lemma later_snoc_of_le (h : t ≤ x) (ts : List τ) : later x (ts ++ [t]) = later x ts := by
  apply countP_snoc_of_not
  intro hx
  exact absurd (of_decide_eq_true hx) h.not_gt

lemma later_snoc_le (x t : τ) (ts : List τ) : later x (ts ++ [t]) ≤ later x ts + 1 := by
  rcases lt_or_ge x t with h | h
  · exact (later_snoc_of_lt h ts).le
  · rw [later_snoc_of_le h ts]
    exact Nat.le_succ _

/-- Fewer events are after a later time. -/
lemma later_anti (h : x ≤ y) (ts : List τ) : later y ts ≤ later x ts := by
  apply List.countP_mono_left
  intro t _ ht
  have hy : y < t := of_decide_eq_true ht
  exact decide_eq_true (h.trans_lt hy)

lemma later_eq_zero (h : ∀ t ∈ ts, t ≤ x) : later x ts = 0 := by
  apply List.countP_eq_zero.2
  intro t ht hx
  exact absurd (of_decide_eq_true hx) (h t ht).not_gt

/-- What was forgotten earlier would be forgotten now. -/
lemma prune_prune (h : y ≤ x) (ts : List τ) : prune x (prune y ts) = prune x ts := by
  show List.filter _ (List.filter _ ts) = List.filter _ ts
  rw [List.filter_filter]
  apply List.filter_congr
  intro t _
  rw [← Bool.decide_and]
  exact decide_eq_decide.2 ⟨And.left, fun hx => ⟨hx, h.trans_lt hx⟩⟩

/-- What is forgotten does not count any more. -/
lemma later_prune (h : y ≤ x) (ts : List τ) : later x (prune y ts) = later x ts := by
  rw [← length_prune, prune_prune h, length_prune]

end Later

section Limited
variable {τ : Type} [AddCommGroup τ] [LinearOrder τ] {n : Nat} {W t : τ} {ts : List τ}

/-- No half-open window of length `W` holds more than `n` events. -/
def Limited (n : Nat) (W : τ) (ts : List τ) : Prop :=
  ∀ a, (ts.countP fun t => a ≤ t ∧ t < a + W) ≤ n ∧ (ts.countP fun t => a < t ∧ t ≤ a + W) ≤ n

lemma limited_nil (n : Nat) (W : τ) : Limited n W [] :=
  fun _ => ⟨Nat.zero_le n, Nat.zero_le n⟩

/-- An event that finds room in the window that ends with it. -/
theorem Limited.snoc [IsOrderedAddMonoid τ] (h : Limited n W ts)
    (hroom : later (t - W) (ts ++ [t]) ≤ n) : Limited n W (ts ++ [t]) := by
  intro a
  constructor
  · by_cases ht : a ≤ t ∧ t < a + W
    · apply le_trans _ hroom
      apply List.countP_mono_left
      intro u _ hu
      have hau : a ≤ u ∧ u < a + W := of_decide_eq_true hu
      exact decide_eq_true ((sub_lt_iff_lt_add.2 ht.2).trans_le hau.1)
    · rw [countP_snoc_of_not (by simpa using ht)]
      exact (h a).1
  · by_cases ht : a < t ∧ t ≤ a + W
    · apply le_trans _ hroom
      apply List.countP_mono_left
      intro u _ hu
      have hau : a < u ∧ u ≤ a + W := of_decide_eq_true hu
      exact decide_eq_true ((sub_le_iff_le_add.2 ht.2).trans_lt hau.1)
    · rw [countP_snoc_of_not (by simpa using ht)]
      exact (h a).2

end Limited
end Window
