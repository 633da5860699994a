import MediaScanMonitor.Lib.Inotify

/-!
# What inotify reports about a system call

A directory that appears at some path by a system call does so through one changed name, which the
parent's watch reports as an arrival; a directory that vanishes does so through a name reported as a
departure. A replaced directory is the exception. The other lemmas say what a call leaves alone: the
watches of what stays in place, and the names a watched directory has.
-/

namespace Inotify
open Text PosixPath Os

/-- The report says that a name is gone, rather than that it is there. -/
def Kind.removes : Kind → Bool
  | .create => false
  | .movedTo => false
  | .delete => true
  | .movedFrom => true

/-- If directory `q` is watched, the call is reported as the departure (`rm`) or arrival of its
subdirectory `n`. -/
def FsOp.Tells (o : FsOp) (t : Tree) (q : List Name) (rm : Bool) (n : Name) : Prop :=
  ∀ (k : Kernel) (wd : Wd), k.liveAt t q = some wd →
    ∃ kind : Kind, kind.removes = rm ∧ .entry wd kind true n ∈ o.events k t

variable {t t' : Tree} {o : FsOp} {k : Kernel} {wd : Wd}

/-- What sits at the target of a rename came from its source. -/
lemma rename_moves {q r : List Name} {n m : Name} (h : t.rename q n r m = some t') {s : List Name} :
    t'.node (r ++ [m] ++ s) = t.node (q ++ [n] ++ s) := by
  rcases FileTree.rename_cases h (r ++ [m] ++ s) with ⟨s', hs, hn⟩ | ⟨-, hb, -⟩ | ⟨-, hb, -⟩
  · obtain rfl := List.append_cancel_left hs
    exact hn
  · exact (hb (List.prefix_append _ _)).elim
  · exact (hb (List.prefix_append _ _)).elim

/-- A directory that is new at its path has arrived through a reported name; nothing at or below
that name has stayed in place. -/
lemma FsOp.appears (h : o.run t = some t') {p : List Name} (hp : t'.isDir p = true)
    (hne : t'.node p ≠ t.node p) :
    ∃ q n, q ++ [n] <+: p ∧ t.isDir q = true ∧ o.Tells t q false n ∧
      (∀ r, q ++ [n] <+: r → t'.isDir r = true → t'.node r ≠ t.node r) ∧
      (t.isDir p = true → p = q ++ [n] ∧ ∃ q' n', o = .rename q' n' q n) := by
  cases o with
  | make dir q n =>
    obtain ⟨hq, hnew, -, hnode⟩ := FileTree.make_spec h
    have hpq : p = q ++ [n] := by
      by_contra hc
      exact hne (by rw [hnode, if_neg hc])
    subst hpq
    have hdir : dir = true := by
      rw [FileTree.isDir, hnode, if_pos rfl] at hp
      exact hp
    refine ⟨q, n, List.prefix_rfl, hq, fun k wd hl => ?_, fun r hr hd he => ?_, fun hd => ?_⟩
    · exact ⟨.create, rfl, Kernel.mem_report.2 ⟨wd, hl, by rw [hdir]⟩⟩
    · have hd' : t.isDir r = true := by rwa [FileTree.isDir, ← he]
      have hq' := FileTree.isDir_above' hd' hr
      rw [FileTree.isDir, hnew] at hq'
      cases hq'
    · rw [FileTree.isDir, hnew] at hd
      cases hd
  | remove q n =>
    obtain ⟨-, -, -, hnode⟩ := FileTree.remove_spec h
    rw [hnode] at hne
    split at hne
    · next he =>
      rw [FileTree.isDir, hnode, if_pos he] at hp
      cases hp
    · exact (hne rfl).elim
  | rename q n r m =>
    rcases FileTree.rename_cases h p with ⟨s, rfl, hn⟩ | ⟨-, -, hn⟩ | ⟨-, -, hn⟩
    · have hsrc : t.isDir (q ++ [n]) = true := by
        rw [FileTree.isDir, hn] at hp
        exact FileTree.isDir_above' hp (List.prefix_append _ _)
      refine ⟨r, m, List.prefix_append _ _, (FileTree.rename_spec h).2.1, fun k wd hl => ?_,
        fun x hx hd he => ?_, fun hd => ?_⟩
      · refine ⟨.movedTo, rfl, List.mem_append_right _ (Kernel.mem_report.2 ⟨wd, hl, ?_⟩)⟩
        rw [hsrc]
      · obtain ⟨y, rfl⟩ := hx
        obtain ⟨i, hi⟩ := FileTree.isDir_iff.1 hd
        rw [he] at hi
        rw [rename_moves h] at he
        have hsame := FileTree.node_inj (he.trans hi) hi
        exact FileTree.rename_apart h (p := q ++ [n] ++ y) (List.prefix_append _ _)
          (hsame ▸ List.prefix_append _ _)
      · obtain ⟨i, hi⟩ := FileTree.isDir_iff.1 hd
        obtain ⟨rfl, -⟩ := FileTree.rename_target h hi
        exact ⟨by simp, q, n, rfl⟩
    · rw [FileTree.isDir, hn] at hp
      cases hp
    · exact (hne hn).elim

/-- A directory that is gone has departed through a reported name; nothing at or below that name has
stayed in place. -/
lemma FsOp.vanishes (h : o.run t = some t') {p : List Name} (hp : t.isDir p = true)
    (hgone : t'.isDir p = false) :
    ∃ q n, q ++ [n] <+: p ∧ o.Tells t q true n ∧
      ∀ r, q ++ [n] <+: r → t.isDir r = true → t'.node r ≠ t.node r := by
  cases o with
  | make dir q n =>
    obtain ⟨-, hnew, -, hnode⟩ := FileTree.make_spec h
    have hpq : p ≠ q ++ [n] := by
      rintro rfl
      rw [FileTree.isDir, hnew] at hp
      cases hp
    rw [FileTree.isDir, hnode, if_neg hpq] at hgone
    rw [FileTree.isDir, hgone] at hp
    cases hp
  | remove q n =>
    obtain ⟨-, hempty, -, hnode⟩ := FileTree.remove_spec h
    have hpq : p = q ++ [n] := by
      by_contra hc
      rw [FileTree.isDir, hnode, if_neg hc] at hgone
      rw [FileTree.isDir, hgone] at hp
      cases hp
    subst hpq
    refine ⟨q, n, List.prefix_rfl, fun k wd hl => ?_, fun r hr hd he => ?_⟩
    · exact ⟨.delete, rfl, Kernel.mem_report.2 ⟨wd, hl, by rw [hp]⟩⟩
    · obtain ⟨i, hi⟩ := FileTree.isDir_iff.1 hd
      by_cases hr' : q ++ [n] = r
      · rw [hnode, if_pos hr'.symm, hi] at he
        cases he
      · rw [FileTree.emptyBelow_iff.1 hempty r hr hr'] at hi
        cases hi
  | rename q n r m =>
    rcases FileTree.rename_cases h p with ⟨s, rfl, hn⟩ | ⟨ha, -, -⟩ | ⟨-, -, hn⟩
    · -- a replaced directory is replaced by a directory
      obtain ⟨i, hi⟩ := FileTree.isDir_iff.1 hp
      obtain ⟨rfl, hk⟩ := FileTree.rename_target h hi
      rw [FileTree.isDir, hn, List.append_nil] at hgone
      rw [FileTree.isDir, hgone] at hk
      cases hk
    · have hsrc := FileTree.isDir_above' hp ha
      refine ⟨q, n, ha, fun k wd hl => ?_, fun x hx hd he => ?_⟩
      · refine ⟨.movedFrom, rfl, List.mem_append_left _ (Kernel.mem_report.2 ⟨wd, hl, ?_⟩)⟩
        rw [hsrc]
      · obtain ⟨i, hi⟩ := FileTree.isDir_iff.1 hd
        rcases FileTree.rename_cases h x with ⟨s, rfl, -⟩ | ⟨-, -, hn⟩ | ⟨ha', -, -⟩
        · exact FileTree.rename_apart h hx (List.prefix_append _ _)
        · rw [hn, hi] at he
          cases he
        · exact ha' hx
    · rw [FileTree.isDir, hn] at hgone
      rw [FileTree.isDir, hgone] at hp
      cases hp

/-- Reports come from live watches. -/
lemma FsOp.events_live {kind : Kind} {d : Bool} {n : Name}
    (he : .entry wd kind d n ∈ o.events k t) : ∃ i, k.live i = some wd := by
  have hreport : ∀ {q kind' d' n'}, Queued.entry wd kind d n ∈ k.report t q kind' d' n' →
      ∃ i, k.live i = some wd := by
    intro q kind' d' n' hm
    obtain ⟨w, hw, heq⟩ := Kernel.mem_report.1 hm
    cases heq
    obtain ⟨nd, -, hl⟩ := Kernel.liveAt_iff.1 hw
    exact ⟨nd.ino, hl⟩
  cases o with
  | make dir q m => exact hreport he
  | remove q m => exact hreport he
  | rename q m r m' => exact (List.mem_append.1 he).elim hreport hreport

/-- What stays in place keeps its watch. -/
lemma FsOp.keeps_live (h : o.run t = some t') {p : List Name} (hsame : t'.node p = t.node p) :
    (o.kernel k t).liveAt t' p = k.liveAt t p := by
  have hforget : ∀ x, (t.node p = t.node x → t.node p = none) →
      (k.forget (t.node x)).liveAt t' p = k.liveAt t p := by
    intro x hx
    rw [Kernel.liveAt, Kernel.liveAt, hsame]
    cases hp : t.node p with
    | none => rfl
    | some nd =>
      simp only [Option.bind_some, Kernel.forget]
      rw [if_neg]
      intro he
      obtain ⟨ndx, hndx, hi⟩ := Option.map_eq_some_iff.1 he
      have hpx := t.inj hp hndx hi.symm
      rw [hpx] at hx
      rw [hx rfl] at hndx
      cases hndx
  cases o with
  | make dir q n => rw [FsOp.kernel, Kernel.liveAt, Kernel.liveAt, hsame]
  | remove q n =>
    apply hforget
    intro he
    obtain ⟨hsome, -, -, hnode⟩ := FileTree.remove_spec h
    cases hp : t.node p with
    | none => rfl
    | some nd =>
      have hpx := FileTree.node_inj hp (he ▸ hp)
      rw [hnode, if_pos hpx, hp] at hsame
      cases hsame
  | rename q n r m =>
    apply hforget
    intro he
    cases hp : t.node p with
    | none => rfl
    | some nd =>
      have hpx := FileTree.node_inj hp (he ▸ hp)
      have hmove : t'.node (r ++ [m]) = t.node (q ++ [n]) := by simpa using rename_moves h (s := [])
      rw [hpx, hmove, ← hpx, hp] at hsame
      have hqp := FileTree.node_inj hsame hp
      exact (FileTree.rename_apart h (p := p) (hqp ▸ List.prefix_rfl) (hpx ▸ List.prefix_rfl)).elim

/-- A subdirectory of a watched directory was there before, or its arrival is reported. -/
lemma FsOp.child (h : o.run t = some t') {y : List Name} {n : Name}
    (hlive : (o.kernel k t).liveAt t' y = some wd) (hdir : t'.isDir (y ++ [n]) = true) :
    (∃ x, k.liveAt t x = some wd ∧ t.isDir (x ++ [n]) = true) ∨
      ∃ kind : Kind, kind.removes = false ∧ .entry wd kind true n ∈ o.events k t := by
  obtain ⟨nd, hnd, hl⟩ := Kernel.liveAt_iff.1 hlive
  have hl' : k.live nd.ino = some wd := live_of_op hl
  obtain ⟨i, hi⟩ := FileTree.isDir_iff.1 hdir
  cases o with
  | make dir q m =>
    obtain ⟨-, hnew, -, hnode⟩ := FileTree.make_spec h
    by_cases hc : y ++ [n] = q ++ [m]
    · obtain ⟨rfl, hm⟩ := List.append_inj' hc rfl
      cases hm
      have hy : t.node y = some nd := by rwa [hnode, if_neg (by simp)] at hnd
      have hd : dir = true := by
        rw [hnode, if_pos rfl] at hi
        cases hi
        rfl
      exact .inr ⟨.create, rfl,
        Kernel.mem_report.2 ⟨wd, Kernel.liveAt_iff.2 ⟨nd, hy, hl'⟩, by rw [hd]⟩⟩
    · rw [hnode, if_neg hc] at hi
      obtain ⟨j, hj⟩ := t.parent hi
      have hy : y ≠ q ++ [m] := by
        rintro rfl
        rw [hnew] at hj
        cases hj
      rw [hnode, if_neg hy] at hnd
      exact .inl ⟨y, Kernel.liveAt_iff.2 ⟨nd, hnd, hl'⟩, FileTree.isDir_iff.2 ⟨i, hi⟩⟩
  | remove q m =>
    obtain ⟨-, -, -, hnode⟩ := FileTree.remove_spec h
    rw [hnode] at hnd hi
    split at hnd
    · cases hnd
    · split at hi
      · cases hi
      · exact .inl ⟨y, Kernel.liveAt_iff.2 ⟨nd, hnd, hl'⟩, FileTree.isDir_iff.2 ⟨i, hi⟩⟩
  | rename q a r b =>
    rcases FileTree.rename_cases h y with ⟨s, rfl, hn⟩ | ⟨-, -, hn⟩ | ⟨-, hb, hn⟩
    · rw [hn] at hnd
      rw [List.append_assoc, rename_moves h, ← List.append_assoc] at hi
      exact .inl ⟨_, Kernel.liveAt_iff.2 ⟨nd, hnd, hl'⟩, FileTree.isDir_iff.2 ⟨i, hi⟩⟩
    · rw [hn] at hnd
      cases hnd
    · rw [hn] at hnd
      rcases FileTree.rename_cases h (y ++ [n]) with ⟨s, hs, hc⟩ | ⟨-, -, hc⟩ | ⟨-, -, hc⟩
      · -- the child is the target itself, for the target is not at or above `y`
        have hbc : r ++ [b] = y ++ [n] :=
          (List.prefix_concat_iff.1 ⟨s, hs.symm⟩).resolve_right hb
        obtain ⟨rfl, hm⟩ := List.append_inj' hbc rfl
        cases hm
        obtain rfl : s = [] := by simpa using hs
        rw [hc, List.append_nil] at hi
        have hsrc : t.isDir (q ++ [a]) = true := FileTree.isDir_iff.2 ⟨i, hi⟩
        refine .inr ⟨.movedTo, rfl, List.mem_append_right _ (Kernel.mem_report.2 ⟨wd, ?_, ?_⟩)⟩
        · exact Kernel.liveAt_iff.2 ⟨nd, hnd, hl'⟩
        · rw [hsrc]
      · rw [hc] at hi
        cases hi
      · rw [hc] at hi
        exact .inl ⟨y, Kernel.liveAt_iff.2 ⟨nd, hnd, hl'⟩, FileTree.isDir_iff.2 ⟨i, hi⟩⟩

/-- What is reported as departed is not there. -/
lemma FsOp.departed (h : o.run t = some t')
    (hinj : ∀ {i j wd}, k.live i = some wd → k.live j = some wd → i = j)
    {y : List Name} {n : Name} {kind : Kind} {d : Bool} (hkind : kind.removes = true)
    (he : .entry wd kind d n ∈ o.events k t) (hlive : (o.kernel k t).liveAt t' y = some wd) :
    t'.isDir (y ++ [n]) = false := by
  obtain ⟨nd, hnd, hl⟩ := Kernel.liveAt_iff.1 hlive
  have hl' : k.live nd.ino = some wd := live_of_op hl
  -- the reporting directory is `y`, as long as `y` has stayed in place
  have hsource : ∀ {q : List Name}, k.liveAt t q = some wd → t.node y = some nd → y = q := by
    intro q hq hy
    obtain ⟨ndq, hndq, hlq⟩ := Kernel.liveAt_iff.1 hq
    exact t.inj hy hndq (hinj hl' hlq)
  cases o with
  | make dir q m =>
    obtain ⟨_, _, heq⟩ := Kernel.mem_report.1 he
    cases heq
    cases hkind
  | remove q m =>
    obtain ⟨-, -, -, hnode⟩ := FileTree.remove_spec h
    obtain ⟨w, hw, heq⟩ := Kernel.mem_report.1 he
    cases heq
    rw [hnode] at hnd
    split at hnd
    · cases hnd
    · rw [hsource hw hnd, FileTree.isDir, hnode, if_pos rfl]
      rfl
  | rename q a r b =>
    rcases List.mem_append.1 he with he | he
    · obtain ⟨w, hw, heq⟩ := Kernel.mem_report.1 he
      cases heq
      rcases FileTree.rename_cases h y with ⟨s, rfl, hn⟩ | ⟨-, -, hn⟩ | ⟨-, -, hn⟩
      · obtain ⟨ndq, hndq, hlq⟩ := Kernel.liveAt_iff.1 hw
        rw [hn] at hnd
        have hq := congrArg List.length (t.inj hnd hndq (hinj hl' hlq))
        simp only [List.length_append, List.length_cons, List.length_nil] at hq
        omega
      · rw [hn] at hnd
        cases hnd
      · rw [hn] at hnd
        obtain rfl := hsource hw hnd
        rcases FileTree.rename_cases h (y ++ [n]) with ⟨s, hs, -⟩ | ⟨-, -, hc⟩ | ⟨hc, -, -⟩
        · exact (FileTree.rename_apart h List.prefix_rfl ⟨s, hs.symm⟩).elim
        · rw [FileTree.isDir, hc]
          rfl
        · exact (hc List.prefix_rfl).elim
    · obtain ⟨_, _, heq⟩ := Kernel.mem_report.1 he
      cases heq
      cases hkind

end Inotify
