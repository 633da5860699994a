import Mathlib.Tactic.Common

/-!
# Transition systems with guarded steps

A system is an executable step function on labelled actions: what is nondeterministic about it is in
the action. `Reach` collects the states reached by steps that all meet a guard, and
`Reach.invariant` is the induction every safety proof goes through. `run` executes a given list of
actions, so that a concrete history can be evaluated.
-/

namespace Transition
variable {σ α : Type}

/-- The states reached from `s` by steps that all satisfy `G` in the state they are taken in. -/
inductive Reach (step : σ → α → Option σ) (G : σ → α → Prop) (s : σ) : σ → Prop
  | refl : Reach step G s s
  | tail {s' a s''} : Reach step G s s' → G s' a → step s' a = some s'' → Reach step G s s''

/-- No guard at all. -/
def Free : σ → α → Prop := fun _ _ => True

instance (s : σ) (a : α) : Decidable (Free s a) := isTrue trivial

/-- Execute a list of actions. -/
def run (step : σ → α → Option σ) : σ → List α → Option σ
  | s, [] => some s
  | s, a :: as => (step s a).bind fun s' => run step s' as

/-- The system that refuses the steps its guard does not allow. -/
def guarded (step : σ → α → Option σ) (G : σ → α → Prop) [∀ s a, Decidable (G s a)] :
    σ → α → Option σ :=
  fun s a => if G s a then step s a else none

variable {step : σ → α → Option σ} {G G' : σ → α → Prop} {s s' s'' : σ}

/-- What holds at the start and survives every guarded step holds wherever such steps lead. -/
theorem Reach.invariant {P : σ → Prop} (h : Reach step G s s') (init : P s)
    (pres : ∀ {u a v}, P u → G u a → step u a = some v → P v) : P s' := by
  induction h with
  | refl => exact init
  | tail _ hg hs ih => exact pres ih hg hs

lemma Reach.trans (h1 : Reach step G s s') (h2 : Reach step G s' s'') : Reach step G s s'' := by
  induction h2 with
  | refl => exact h1
  | tail _ hg hs ih => exact ih.tail hg hs

/-- A run may begin with a step. -/
lemma Reach.head {a : α} (hg : G s a) (hs : step s a = some s') (h : Reach step G s' s'') :
    Reach step G s s'' :=
  (Reach.refl.tail hg hs).trans h

/-- A weaker guard reaches more. -/
lemma Reach.mono (h : Reach step G s s') (hG : ∀ {u a}, G u a → G' u a) : Reach step G' s s' := by
  induction h with
  | refl => exact .refl
  | tail _ hg hs ih => exact ih.tail (hG hg) hs

lemma run_append (s : σ) (as bs : List α) :
    run step s (as ++ bs) = (run step s as).bind fun s' => run step s' bs := by
  induction as generalizing s with
  | nil => rfl
  | cons a as ih => simp [run, ih, Option.bind_assoc]

/-- An executed list of allowed actions is a guarded run. -/
lemma Reach.of_run [∀ s a, Decidable (G s a)] {as : List α}
    (h : run (guarded step G) s as = some s') : Reach step G s s' := by
  induction as generalizing s with
  | nil => cases h; exact .refl
  | cons a as ih =>
    obtain ⟨u, hu, hrun⟩ := Option.bind_eq_some_iff.1 h
    unfold guarded at hu
    split at hu
    · next hg => exact (Reach.refl.tail hg hu).trans (ih hrun)
    · cases hu

/-! ## Parties

The parties of a system stand in a list, and one that takes a step is replaced in its place. -/

section Parties
variable {β : Type} {l : List β} {i j : Nat} {a b x : β}

lemma mem_set_self (hi : l[i]? = some a) (b : β) : b ∈ l.set i b :=
  List.mem_set (List.getElem?_eq_some_iff.1 hi).1 b

/-- The others are where they were. -/
lemma mem_set_of_ne (hne : i ≠ j) (hj : l[j]? = some x) : x ∈ l.set i b := by
  apply List.mem_of_getElem?
  rw [List.getElem?_set_ne hne]
  exact hj

lemma getElem?_set_cases (h : (l.set i b)[j]? = some x) :
    i = j ∧ x = b ∨ i ≠ j ∧ l[j]? = some x := by
  rw [List.getElem?_set] at h
  split at h
  · next hij =>
    split at h
    · cases h
      exact .inl ⟨hij, rfl⟩
    · cases h
  · next hij => exact .inr ⟨hij, h⟩

lemma eq_or_mem_set (hi : l[i]? = some a) (hx : x ∈ l) : x = a ∨ x ∈ l.set i b := by
  obtain ⟨j, hj⟩ := List.mem_iff_getElem?.1 hx
  by_cases hij : i = j
  · subst hij
    rw [hi] at hj
    cases hj
    exact .inl rfl
  · exact .inr (mem_set_of_ne hij hj)

/-- What some party satisfies stays so, if it is kept by the step of one. -/
lemma exists_mem_set {P : β → Prop} (hi : l[i]? = some a) (hab : P a → P b)
    (h : ∃ x ∈ l, P x) : ∃ x ∈ l.set i b, P x := by
  obtain ⟨x, hx, hp⟩ := h
  rcases eq_or_mem_set hi hx with rfl | hx
  · exact ⟨b, mem_set_self hi b, hab hp⟩
  · exact ⟨x, hx, hp⟩

/-- The parties with a property are counted anew when one is replaced. -/
lemma countP_set {p : β → Bool} (hi : l[i]? = some a) :
    (l.set i b).countP p + (if p a then 1 else 0) = l.countP p + if p b then 1 else 0 := by
  induction l generalizing i with
  | nil => cases hi
  | cons x l ih =>
    cases i with
    | zero =>
      cases hi
      rw [List.set_cons_zero, List.countP_cons, List.countP_cons]
      omega
    | succ i =>
      have h := ih hi
      rw [List.set_cons_succ, List.countP_cons, List.countP_cons]
      omega

/-- At most one party satisfies `p`. -/
def AtMostOne (p : β → Bool) (l : List β) : Prop :=
  ∀ {i j : Nat} {a b : β}, l[i]? = some a → l[j]? = some b → p a = true → p b = true → i = j

variable {p : β → Bool}

/-- One takes the place only while it is free, or keeps it. -/
lemma AtMostOne.set (h : AtMostOne p l) (hi : l[i]? = some a)
    (hb : p b = true → p a = true ∨ ∀ x ∈ l, p x = false) : AtMostOne p (l.set i b) := by
  have hown : ∀ {j x}, l[j]? = some x → p x = true → p b = true → i = j := by
    intro j x hj hx hpb
    rcases hb hpb with ha | hfree
    · exact h hi hj ha hx
    · rw [hfree x (List.mem_of_getElem? hj)] at hx
      cases hx
  intro j k x y hj hk hx hy
  rcases getElem?_set_cases hj with ⟨rfl, rfl⟩ | ⟨-, hj'⟩
  · rcases getElem?_set_cases hk with ⟨hik, -⟩ | ⟨-, hk'⟩
    · exact hik
    · exact hown hk' hy hx
  · rcases getElem?_set_cases hk with ⟨rfl, rfl⟩ | ⟨-, hk'⟩
    · exact (hown hj' hx hy).symm
    · exact h hj' hk' hx hy

/-- A new party does not satisfy `p`. -/
lemma AtMostOne.append (h : AtMostOne p l) (hb : p b = false) : AtMostOne p (l ++ [b]) := by
  have hold : ∀ {j : Nat} {x : β}, (l ++ [b])[j]? = some x → p x = true → l[j]? = some x := by
    intro j x hj hx
    rw [List.getElem?_append] at hj
    split at hj
    · exact hj
    · rw [List.mem_singleton.1 (List.mem_of_getElem? hj), hb] at hx
      cases hx
  intro j k x y hj hk hx hy
  exact h (hold hj hx) (hold hk hy) hx hy

end Parties
end Transition
