import Mathlib.Tactic.Common

/-!
# Histories

A history is a list of events that grows at its end; the position of an event is its time. `After`
and `Between` say that something happened since, and `Open` that it did not: an obligation that was
opened by one event and that no event has ended yet.
-/

namespace History
variable {ε : Type}

/-- Something after time `i` satisfies `P`. -/
def After (P : ε → Prop) (log : List ε) (i : Nat) : Prop :=
  ∃ j x, i < j ∧ log[j]? = some x ∧ P x

/-- Something between the times `i` and `j` satisfies `P`. -/
def Between (P : ε → Prop) (log : List ε) (i j : Nat) : Prop :=
  ∃ k x, i < k ∧ k < j ∧ log[k]? = some x ∧ P x

/-- `e` has happened, and nothing that satisfies `P` since. -/
def Open (P : ε → Prop) (e : ε) (log : List ε) : Prop :=
  ∃ i, log[i]? = some e ∧ ¬ After P log i

variable {P Q : ε → Prop} {log : List ε} {e x y : ε} {i j : Nat}

lemma lt_length (h : log[i]? = some x) : i < log.length :=
  (List.getElem?_eq_some_iff.1 h).1

/-- The time of an event is its position: the new event is the last one. -/
lemma getElem?_snoc : (log ++ [x])[i]? = some y ↔ log[i]? = some y ∨ i = log.length ∧ x = y := by
  rcases Nat.lt_trichotomy i log.length with h | h | h
  · rw [List.getElem?_append_left h]
    constructor
    · exact .inl
    · intro hy
      cases hy with
      | inl hy => exact hy
      | inr hy => exact absurd hy.1 (Nat.ne_of_lt h)
  · subst h
    rw [List.getElem?_concat_length, List.getElem?_eq_none (Nat.le_refl _)]
    constructor
    · intro hy
      exact .inr ⟨rfl, Option.some.inj hy⟩
    · intro hy
      cases hy with
      | inl hy => cases hy
      | inr hy => rw [hy.2]
  · rw [List.getElem?_eq_none (by simp; omega), List.getElem?_eq_none (by omega)]
    constructor
    · intro hy
      cases hy
    · intro hy
      cases hy with
      | inl hy => exact hy
      | inr hy => exact absurd hy.1 (Nat.ne_of_gt h)

/-- What was logged stays logged. -/
lemma getElem?_snoc_left (h : log[i]? = some y) : (log ++ [x])[i]? = some y :=
  getElem?_snoc.2 (.inl h)

lemma after_snoc (hi : i < log.length) : After P (log ++ [x]) i ↔ After P log i ∨ P x := by
  constructor
  · rintro ⟨j, y, hij, hj, hy⟩
    cases getElem?_snoc.1 hj with
    | inl hj => exact .inl ⟨j, y, hij, hj, hy⟩
    | inr hj => exact .inr (hj.2 ▸ hy)
  · intro h
    cases h with
    | inl h =>
      obtain ⟨j, y, hij, hj, hy⟩ := h
      exact ⟨j, y, hij, getElem?_snoc_left hj, hy⟩
    | inr h => exact ⟨log.length, x, hi, getElem?_snoc.2 (.inr ⟨rfl, rfl⟩), h⟩

/-- Nothing comes after the last event. -/
lemma not_after_length : ¬ After P (log ++ [x]) log.length := by
  rintro ⟨j, y, hij, hj, -⟩
  have h := lt_length hj
  rw [List.length_append, List.length_singleton] at h
  omega

/-- The past does not change. -/
lemma between_snoc (hj : j ≤ log.length) : Between P (log ++ [x]) i j ↔ Between P log i j := by
  constructor
  · rintro ⟨k, y, hik, hkj, hk, hy⟩
    cases getElem?_snoc.1 hk with
    | inl hk => exact ⟨k, y, hik, hkj, hk, hy⟩
    | inr hk => omega
  · rintro ⟨k, y, hik, hkj, hk, hy⟩
    exact ⟨k, y, hik, hkj, getElem?_snoc_left hk, hy⟩

/-- Before the present is all that happened. -/
lemma between_length : Between P log i log.length ↔ After P log i := by
  constructor
  · rintro ⟨k, y, hik, -, hk, hy⟩
    exact ⟨k, y, hik, hk, hy⟩
  · rintro ⟨k, y, hik, hk, hy⟩
    exact ⟨k, y, hik, lt_length hk, hk, hy⟩

/-- An obligation stays open unless the new event ends it, and a new one is open. -/
lemma open_snoc : Open P e (log ++ [x]) ↔ x = e ∨ ¬ P x ∧ Open P e log := by
  constructor
  · rintro ⟨i, hi, hn⟩
    cases getElem?_snoc.1 hi with
    | inr hi => exact .inl hi.2
    | inl hi =>
      rw [after_snoc (lt_length hi), not_or] at hn
      exact .inr ⟨hn.2, i, hi, hn.1⟩
  · intro h
    cases h with
    | inl h =>
      subst h
      exact ⟨log.length, getElem?_snoc.2 (.inr ⟨rfl, rfl⟩), not_after_length⟩
    | inr h =>
      obtain ⟨hx, i, hi, hn⟩ := h
      apply Exists.intro i
      apply And.intro (getElem?_snoc_left hi)
      rw [after_snoc (lt_length hi), not_or]
      exact ⟨hn, hx⟩

end History
