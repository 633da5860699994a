import Mathlib.Data.List.Basic
import Mathlib.Tactic.Common

/-!
# Picking by position

A list picked from another one at given positions. At increasing positions the result is a sublist;
what is picked from a list is picked from every list that extends it, so a growing history can be
followed by the positions alone.
-/

namespace Picks
variable {α : Type} {xs ys l l' : List α} {ps qs : List Nat} {x : α} {n p : Nat}

/-- `l` is what `xs` has at the positions `ps`. -/
def At (xs : List α) (ps : List Nat) (l : List α) : Prop :=
  ps.map (fun p => xs[p]?) = l.map some

lemma At.append (h : At xs ps l) (h' : At xs qs l') : At xs (ps ++ qs) (l ++ l') := by
  rw [At, List.map_append, List.map_append, show ps.map _ = _ from h, show qs.map _ = _ from h']

lemma at_singleton (h : xs[p]? = some x) : At xs [p] [x] :=
  congrArg (fun y => [y]) h

/-- A position that is used exists. -/
lemma At.lt_length (h : At xs ps l) (hp : p ∈ ps) : p < xs.length := by
  have hmem : xs[p]? ∈ l.map some := by
    rw [← show ps.map _ = _ from h]
    exact List.mem_map_of_mem hp
  obtain ⟨x, -, hx⟩ := List.mem_map.1 hmem
  exact (List.getElem?_eq_some_iff.1 hx.symm).1

/-- What is appended later does not matter. -/
lemma At.extend (h : At xs ps l) (ys : List α) : At (xs ++ ys) ps l := by
  have hsame : ps.map (fun p => (xs ++ ys)[p]?) = ps.map fun p => xs[p]? := by
    apply List.map_congr_left
    intro p hp
    exact List.getElem?_append_left (h.lt_length hp)
  exact hsame.trans h

lemma At.cons_inv (h : At xs (p :: ps) (x :: l)) : xs[p]? = some x ∧ At xs ps l := by
  obtain ⟨hx, hl⟩ := List.cons.inj h
  exact ⟨hx, hl⟩

/-- At increasing positions from `n` on, what is picked is a sublist of the rest. -/
lemma At.sublist_drop (h : At xs ps l) (hps : ps.Pairwise (· < ·)) (hn : ∀ p ∈ ps, n ≤ p) :
    l.Sublist (xs.drop n) := by
  induction l generalizing ps n with
  | nil => exact List.nil_sublist _
  | cons x l ih =>
    cases ps with
    | nil => cases h
    | cons p ps =>
      obtain ⟨hx, hl⟩ := h.cons_inv
      obtain ⟨hlt, hps⟩ := List.pairwise_cons.1 hps
      have hrest : l.Sublist (xs.drop (p + 1)) := ih hl hps fun q hq => hlt q hq
      obtain ⟨hp, rfl⟩ := List.getElem?_eq_some_iff.1 hx
      have hle : n ≤ p := hn p List.mem_cons_self
      have hdrop : (xs.drop p).Sublist (xs.drop n) := List.drop_sublist_drop_left xs hle
      rw [List.drop_eq_getElem_cons hp] at hdrop
      exact (hrest.cons_cons _).trans hdrop

lemma At.sublist (h : At xs ps l) (hps : ps.Pairwise (· < ·)) : l.Sublist xs :=
  h.sublist_drop (n := 0) hps fun p _ => Nat.zero_le p

/-- A suffix is picked at the last positions. -/
lemma at_drop (xs : List α) (n : Nat) : At xs (List.range' n (xs.length - n)) (xs.drop n) := by
  apply List.ext_getElem?
  intro i
  rw [List.getElem?_map, List.getElem?_map, List.getElem?_drop]
  by_cases hi : i < xs.length - n
  · have hlt : n + i < xs.length := by omega
    rw [List.getElem?_range' hi, Nat.one_mul, List.getElem?_eq_getElem hlt]
    exact congrArg some (List.getElem?_eq_getElem hlt)
  · have hout : (List.range' n (xs.length - n))[i]? = none := by
      rw [List.getElem?_eq_none_iff, List.length_range']
      omega
    rw [hout, List.getElem?_eq_none (by omega)]
    rfl

end Picks
