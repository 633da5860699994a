import Mathlib.Data.List.Infix
import Mathlib.Data.List.Dedup
import Mathlib.Tactic.Common

/-!
# Trees of directories

A file system as a finite partial map from component lists to nodes. The structure carries its own
well-formedness: the root is a directory, every entry lies in a directory, and an inode sits at one
path only (no hard links, as for directories on Linux). `make`, `remove` and `rename` are the
operations a process can perform; each yields a well-formed tree or refuses.
-/

/-- What a path leads to. -/
structure Node where
  isDir : Bool
  ino : Nat
deriving DecidableEq

/-- A well-formed directory tree over names `N`. -/
structure FileTree (N : Type) where
  node : List N → Option Node
  /-- Every path in use is listed here, so that directories can be enumerated. -/
  support : List (List N)
  nextIno : Nat
  covers : ∀ {p nd}, node p = some nd → p ∈ support
  root : ∃ i, node [] = some ⟨true, i⟩
  parent : ∀ {p n nd}, node (p ++ [n]) = some nd → ∃ i, node p = some ⟨true, i⟩
  inj : ∀ {p q nd nd'}, node p = some nd → node q = some nd' → nd.ino = nd'.ino → p = q
  fresh : ∀ {p nd}, node p = some nd → nd.ino < nextIno

namespace FileTree
variable {N : Type} [DecidableEq N]

/-- There is a directory at `p`. -/
def isDir (t : FileTree N) (p : List N) : Bool :=
  (t.node p).any Node.isDir

/-- No entry lies strictly below `p`. -/
def emptyBelow (t : FileTree N) (p : List N) : Bool :=
  t.support.all fun q => decide (p <+: q ∧ p ≠ q → t.node q = none)

/-- The names in directory `p`. -/
def children (t : FileTree N) (p : List N) : List N :=
  ((t.support.filter fun q => q.dropLast = p ∧ (t.node q).isSome).filterMap List.getLast?).dedup

/-- `scandir(p)`: the subdirectories and the other entries of a directory. -/
def scandir (t : FileTree N) (p : List N) : Option (List N × List N) :=
  if t.isDir p then
    some ((t.children p).filter fun n => t.isDir (p ++ [n]),
      (t.children p).filter fun n => !t.isDir (p ++ [n]))
  else none

/-- A bound on the length of every path in use. -/
def height (t : FileTree N) : Nat :=
  (t.support.map List.length).foldr max 0 + 1

omit [DecidableEq N] in
lemma isDir_iff {t : FileTree N} {p} : t.isDir p = true ↔ ∃ i, t.node p = some ⟨true, i⟩ := by
  unfold isDir
  cases h : t.node p with
  | none => simp
  | some nd => cases nd; simp

omit [DecidableEq N] in
/-- Ancestors of an entry are directories. -/
lemma isDir_above {t : FileTree N} {p q nd} (hq : t.node q = some nd) (hp : p <+: q)
    (hne : p ≠ q) : t.isDir p = true := by
  obtain ⟨s, rfl⟩ := hp
  induction s using List.reverseRecOn generalizing nd with
  | nil => simp at hne
  | append_singleton s n ih =>
    rw [← List.append_assoc] at hq
    obtain ⟨i, hi⟩ := t.parent hq
    cases s with
    | nil => exact isDir_iff.2 ⟨i, by simpa using hi⟩
    | cons m s => exact ih hi (by simp)

omit [DecidableEq N] in
lemma isDir_above' {t : FileTree N} {p q} (hq : t.isDir q = true) (hp : p <+: q) :
    t.isDir p = true := by
  by_cases h : p = q
  · exact h ▸ hq
  · obtain ⟨i, hi⟩ := isDir_iff.1 hq
    exact isDir_above hi hp h

omit [DecidableEq N] in
lemma node_inj {t : FileTree N} {p q nd} (hp : t.node p = some nd) (hq : t.node q = some nd) :
    p = q :=
  t.inj hp hq rfl

lemma emptyBelow_iff {t : FileTree N} {p} :
    t.emptyBelow p = true ↔ ∀ q, p <+: q → p ≠ q → t.node q = none := by
  simp only [emptyBelow, List.all_eq_true, decide_eq_true_eq]
  constructor
  · intro h q hp hne
    cases hq : t.node q with
    | none => rfl
    | some nd => rw [← hq]; exact h q (t.covers hq) ⟨hp, hne⟩
  · intro h q _ hp
    exact h q hp.1 hp.2

lemma mem_children {t : FileTree N} {p n} :
    n ∈ t.children p ↔ (t.node (p ++ [n])).isSome = true := by
  simp only [children, List.mem_dedup, List.mem_filterMap, List.mem_filter, decide_eq_true_eq]
  constructor
  · rintro ⟨q, ⟨_, rfl, hs⟩, hl⟩
    have hq : q.dropLast ++ [n] = q := List.dropLast_append_getLast? n hl
    rwa [hq]
  · intro h
    obtain ⟨nd, hnd⟩ := Option.isSome_iff_exists.1 h
    exact ⟨p ++ [n], ⟨t.covers hnd, by simp, h⟩, by simp⟩

omit [DecidableEq N] in
lemma length_lt_height {t : FileTree N} {p nd} (h : t.node p = some nd) :
    p.length < t.height := by
  have hm := t.covers h
  suffices ∀ l : List (List N), p ∈ l → p.length ≤ (l.map List.length).foldr max 0 from
    Nat.lt_succ_of_le (this _ hm)
  intro l hl
  induction l with
  | nil => cases hl
  | cons a l ih =>
    rcases List.mem_cons.1 hl with rfl | hl
    · exact Nat.le_max_left _ _
    · have := ih hl
      simp only [List.map_cons, List.foldr_cons]
      omega

/-- `open(O_CREAT)` or `mkdir` of the name `n` in directory `q`. -/
def make (t : FileTree N) (dir : Bool) (q : List N) (n : N) : Option (FileTree N) :=
  if h : t.isDir q = true ∧ t.node (q ++ [n]) = none then
    some
      { node := fun p => if p = q ++ [n] then some ⟨dir, t.nextIno⟩ else t.node p
        support := (q ++ [n]) :: t.support
        nextIno := t.nextIno + 1
        covers := by
          intro p nd hp
          split at hp
          · simp_all
          · exact List.mem_cons_of_mem _ (t.covers hp)
        root := by
          obtain ⟨i, hi⟩ := t.root
          exact ⟨i, by simp [hi]⟩
        parent := by
          intro p m nd hp
          split at hp
          case isTrue heq =>
            obtain ⟨rfl, -⟩ := List.append_inj' heq rfl
            obtain ⟨i, hi⟩ := isDir_iff.1 h.1
            exact ⟨i, by simp [hi]⟩
          case isFalse heq =>
            obtain ⟨i, hi⟩ := t.parent hp
            refine ⟨i, ?_⟩
            rw [if_neg, hi]
            rintro rfl
            rw [h.2] at hi
            cases hi
        inj := by
          intro p p' nd nd' hp hp' he
          split at hp <;> split at hp'
          case isTrue.isTrue h1 h2 => rw [h1, h2]
          case isTrue.isFalse =>
            cases hp
            exact absurd (t.fresh hp') (by simp [← he])
          case isFalse.isTrue =>
            cases hp'
            exact absurd (t.fresh hp) (by simp [he])
          case isFalse.isFalse => exact t.inj hp hp' he
        fresh := by
          intro p nd hp
          split at hp
          · cases hp; simp
          · exact Nat.lt_succ_of_lt (t.fresh hp) }
  else none

/-- `unlink` or `rmdir` of the name `n` in directory `q`; a directory must be empty. -/
def remove (t : FileTree N) (q : List N) (n : N) : Option (FileTree N) :=
  if h : (t.node (q ++ [n])).isSome = true ∧ t.emptyBelow (q ++ [n]) = true then
    some
      { node := fun p => if p = q ++ [n] then none else t.node p
        support := t.support
        nextIno := t.nextIno
        covers := by
          intro p nd hp
          split at hp
          · cases hp
          · exact t.covers hp
        root := by
          obtain ⟨i, hi⟩ := t.root
          exact ⟨i, by simp [hi]⟩
        parent := by
          intro p m nd hp
          split at hp
          case isTrue => cases hp
          case isFalse hne =>
            obtain ⟨i, hi⟩ := t.parent hp
            refine ⟨i, ?_⟩
            rw [if_neg, hi]
            rintro rfl
            have := emptyBelow_iff.1 h.2 (q ++ [n] ++ [m]) (List.prefix_append _ _) (by simp)
            rw [this] at hp
            cases hp
        inj := by
          intro p p' nd nd' hp hp' he
          split at hp <;> split at hp'
          case isFalse.isFalse => exact t.inj hp hp' he
          all_goals first | cases hp | cases hp'
        fresh := by
          intro p nd hp
          split at hp
          · cases hp
          · exact t.fresh hp }
  else none

/-- Where the entry found at `p` after moving `a` to `b` comes from. -/
def movedFrom (a b p : List N) : List N :=
  if b <+: p then a ++ p.drop b.length else p

/-- What can be replaced by a rename onto `b`: nothing, or an entry of the same kind without
content. -/
def replaceable (t : FileTree N) (dir : Bool) (b : List N) : Bool :=
  match t.node b with
  | none => true
  | some nd => nd.isDir == dir && t.emptyBelow b

lemma movedFrom_below {a b p : List N} (h : b <+: p) :
    movedFrom a b p = a ++ p.drop b.length := by
  simp [movedFrom, h]

lemma movedFrom_elsewhere {a b p : List N} (h : ¬ b <+: p) : movedFrom a b p = p := by
  simp [movedFrom, h]

/-- Two paths that survive the move come from different paths. -/
lemma movedFrom_inj {a b p q : List N} (hp : b <+: p ∨ ¬ a <+: p) (hq : b <+: q ∨ ¬ a <+: q)
    (he : movedFrom a b p = movedFrom a b q) : p = q := by
  by_cases h1 : b <+: p <;> by_cases h2 : b <+: q
  · rw [movedFrom_below h1, movedFrom_below h2, List.append_cancel_left_eq] at he
    obtain ⟨s, rfl⟩ := h1
    obtain ⟨r, rfl⟩ := h2
    simpa using he
  · rw [movedFrom_below h1, movedFrom_elsewhere h2] at he
    exact absurd ⟨_, he⟩ (hq.resolve_left h2)
  · rw [movedFrom_elsewhere h1, movedFrom_below h2] at he
    exact absurd ⟨_, he.symm⟩ (hp.resolve_left h1)
  · rwa [movedFrom_elsewhere h1, movedFrom_elsewhere h2] at he

/-- What sits at `p` after moving `a` to `b`. -/
def movedNode (t : FileTree N) (a b p : List N) : Option Node :=
  if b <+: p ∨ ¬ a <+: p then t.node (movedFrom a b p) else none

/-- `rename` of the entry `n` of directory `q` to the name `m` of directory `r`. -/
def rename (t : FileTree N) (q : List N) (n : N) (r : List N) (m : N) : Option (FileTree N) :=
  if h : (t.node (q ++ [n])).isSome = true ∧ t.isDir r = true ∧ ¬ q ++ [n] <+: r ++ [m] ∧
      t.replaceable (t.isDir (q ++ [n])) (r ++ [m]) = true then
    some
      { node := t.movedNode (q ++ [n]) (r ++ [m])
        support := t.support ++ t.support.map fun p =>
          if q ++ [n] <+: p then r ++ [m] ++ p.drop (q ++ [n]).length else p
        nextIno := t.nextIno
        covers := by
          intro p nd hp
          unfold movedNode at hp
          split at hp
          case isFalse => cases hp
          case isTrue =>
            rw [List.mem_append, List.mem_map]
            by_cases hb : r ++ [m] <+: p
            · rw [movedFrom_below hb] at hp
              obtain ⟨s, rfl⟩ := hb
              exact Or.inr ⟨_, t.covers hp, by simp⟩
            · rw [movedFrom_elsewhere hb] at hp
              exact Or.inl (t.covers hp)
        root := by
          obtain ⟨i, hi⟩ := t.root
          exact ⟨i, by simp [movedNode, movedFrom, hi]⟩
        parent := by
          intro p x nd hp
          unfold movedNode at hp
          split at hp
          case isFalse => cases hp
          case isTrue hlive =>
            by_cases hb : r ++ [m] <+: p ++ [x]
            · rw [movedFrom_below hb] at hp
              by_cases hbp : r ++ [m] <+: p
              · obtain ⟨s, rfl⟩ := hbp
                have hd : (r ++ [m] ++ s ++ [x]).drop (r ++ [m]).length = s ++ [x] := by
                  rw [List.append_assoc, List.drop_left]
                rw [hd, ← List.append_assoc] at hp
                obtain ⟨i, hi⟩ := t.parent hp
                refine ⟨i, ?_⟩
                rw [movedNode, if_pos (Or.inl (List.prefix_append _ _)),
                  movedFrom_below (List.prefix_append _ _), List.drop_left, hi]
              · have hr : r = p := by
                  rcases List.prefix_concat_iff.1 hb with heq | hpre
                  · exact (List.append_inj' heq rfl).1
                  · exact absurd hpre hbp
                subst hr
                obtain ⟨i, hi⟩ := isDir_iff.1 h.2.1
                refine ⟨i, ?_⟩
                rw [movedNode, if_pos (Or.inr ?_), movedFrom_elsewhere hbp, hi]
                exact fun hc => h.2.2.1 (hc.trans (List.prefix_append _ _))
            · rw [movedFrom_elsewhere hb] at hp
              obtain ⟨i, hi⟩ := t.parent hp
              have hbp : ¬ r ++ [m] <+: p := fun hc => hb (hc.trans (List.prefix_append _ _))
              have hap : ¬ q ++ [n] <+: p := fun hc =>
                (hlive.resolve_left hb) (hc.trans (List.prefix_append _ _))
              exact ⟨i, by rw [movedNode, if_pos (Or.inr hap), movedFrom_elsewhere hbp, hi]⟩
        inj := by
          intro p p' nd nd' hp hp' he
          unfold movedNode at hp hp'
          split at hp <;> split at hp'
          case isTrue.isTrue h1 h2 => exact movedFrom_inj h1 h2 (t.inj hp hp' he)
          all_goals first | cases hp | cases hp'
        fresh := by
          intro p nd hp
          unfold movedNode at hp
          split at hp
          · exact t.fresh hp
          · cases hp }
  else none

/-- A file system that holds only its root. -/
def empty : FileTree N where
  node p := if p = [] then some ⟨true, 0⟩ else none
  support := [[]]
  nextIno := 1
  covers := by
    intro p nd hp
    split at hp
    · next h => simp [h]
    · cases hp
  root := ⟨0, rfl⟩
  parent := by
    intro p n nd hp
    simp at hp
  inj := by
    intro p q nd nd' hp hq _
    split at hp <;> split at hq
    case isTrue.isTrue h1 h2 => rw [h1, h2]
    case isTrue.isFalse => cases hq
    all_goals cases hp
  fresh := by
    intro p nd hp
    split at hp
    · cases hp; exact Nat.one_pos
    · cases hp

/-- The listed entries made one after the other in an empty file system. -/
def ofList (l : List (Bool × List N × N)) : FileTree N :=
  l.foldl (fun t e => (t.make e.1 e.2.1 e.2.2).getD t) empty

lemma make_spec {t t' : FileTree N} {dir q n} (h : t.make dir q n = some t') :
    t.isDir q = true ∧ t.node (q ++ [n]) = none ∧ t'.nextIno = t.nextIno + 1 ∧
      ∀ p, t'.node p = if p = q ++ [n] then some ⟨dir, t.nextIno⟩ else t.node p := by
  unfold make at h
  split at h
  · next hc => cases h; exact ⟨hc.1, hc.2, rfl, fun _ => rfl⟩
  · cases h

/-- What exists still exists when an entry has been made. -/
lemma node_of_make {t t' : FileTree N} {dir q n} (h : t.make dir q n = some t') {p : List N}
    {nd : Node} (hp : t.node p = some nd) : t'.node p = some nd := by
  obtain ⟨-, hnew, -, hnode⟩ := make_spec h
  rw [hnode, if_neg, hp]
  rintro rfl
  rw [hnew] at hp
  cases hp

lemma isDir_of_make {t t' : FileTree N} {dir q n} (h : t.make dir q n = some t') {p : List N}
    (hp : t.isDir p = true) : t'.isDir p = true := by
  obtain ⟨i, hi⟩ := isDir_iff.1 hp
  exact isDir_iff.2 ⟨i, node_of_make h hi⟩

lemma remove_spec {t t' : FileTree N} {q n} (h : t.remove q n = some t') :
    (t.node (q ++ [n])).isSome = true ∧ t.emptyBelow (q ++ [n]) = true ∧
      t'.nextIno = t.nextIno ∧ ∀ p, t'.node p = if p = q ++ [n] then none else t.node p := by
  unfold remove at h
  split at h
  · next hc => cases h; exact ⟨hc.1, hc.2, rfl, fun _ => rfl⟩
  · cases h

lemma rename_spec {t t' : FileTree N} {q n r m} (h : t.rename q n r m = some t') :
    (t.node (q ++ [n])).isSome = true ∧ t.isDir r = true ∧ ¬ q ++ [n] <+: r ++ [m] ∧
      t.replaceable (t.isDir (q ++ [n])) (r ++ [m]) = true ∧
      t'.nextIno = t.nextIno ∧ ∀ p, t'.node p = t.movedNode (q ++ [n]) (r ++ [m]) p := by
  unfold rename at h
  split at h
  · next hc => cases h; exact ⟨hc.1, hc.2.1, hc.2.2.1, hc.2.2.2, rfl, fun _ => rfl⟩
  · cases h

/-- What a rename does to a path: it is below the new name, or it is gone, or it is as before. -/
lemma rename_cases {t t' : FileTree N} {q n r m} (h : t.rename q n r m = some t') (p : List N) :
    (∃ s, p = r ++ [m] ++ s ∧ t'.node p = t.node (q ++ [n] ++ s)) ∨
    (q ++ [n] <+: p ∧ ¬ r ++ [m] <+: p ∧ t'.node p = none) ∨
    (¬ q ++ [n] <+: p ∧ ¬ r ++ [m] <+: p ∧ t'.node p = t.node p) := by
  obtain ⟨-, -, -, -, -, hnode⟩ := rename_spec h
  rw [hnode, movedNode]
  by_cases hb : r ++ [m] <+: p
  · left
    obtain ⟨s, rfl⟩ := hb
    refine ⟨s, rfl, ?_⟩
    rw [if_pos (.inl (List.prefix_append _ _)), movedFrom_below (List.prefix_append _ _),
      List.drop_left]
  · right
    by_cases ha : q ++ [n] <+: p
    · exact .inl ⟨ha, hb, by rw [if_neg (by simp [ha, hb])]⟩
    · exact .inr ⟨ha, hb, by rw [if_pos (.inr ha), movedFrom_elsewhere hb]⟩

/-- Nothing sits below the target of a rename, and it is replaced by an entry of its own kind. -/
lemma rename_target {t t' : FileTree N} {q n r m} (h : t.rename q n r m = some t') {s nd}
    (hs : t.node (r ++ [m] ++ s) = some nd) : s = [] ∧ nd.isDir = t.isDir (q ++ [n]) := by
  obtain ⟨-, -, -, hrep, -, -⟩ := rename_spec h
  unfold replaceable at hrep
  cases hb : t.node (r ++ [m]) with
  | none =>
    cases s with
    | nil => rw [List.append_nil, hb] at hs; cases hs
    | cons x s =>
      have hd := isDir_above hs (List.prefix_append _ _) (by simp)
      rw [isDir, hb] at hd
      cases hd
  | some nd' =>
    rw [hb, Bool.and_eq_true, beq_iff_eq] at hrep
    cases s with
    | nil =>
      rw [List.append_nil, hb, Option.some.injEq] at hs
      exact ⟨rfl, hs ▸ hrep.1⟩
    | cons x s =>
      have hn := emptyBelow_iff.1 hrep.2 (r ++ [m] ++ x :: s) (List.prefix_append _ _) (by simp)
      rw [hs] at hn
      cases hn

/-- Old and new name of a rename do not lie above a common path. -/
lemma rename_apart {t t' : FileTree N} {q n r m} (h : t.rename q n r m = some t') {p : List N}
    (ha : q ++ [n] <+: p) (hb : r ++ [m] <+: p) : False := by
  obtain ⟨hsome, -, hnot, -, -, -⟩ := rename_spec h
  rcases List.prefix_or_prefix_of_prefix ha hb with hab | ⟨s, hs⟩
  · exact hnot hab
  · obtain ⟨nd, hnd⟩ := Option.isSome_iff_exists.1 hsome
    rw [← hs] at hnd
    obtain ⟨rfl, -⟩ := rename_target h hnd
    exact hnot (by rw [← hs, List.append_nil])

end FileTree
