import MediaScanMonitor.Watcher.System

/-!
# The resync after a queue overflow

On `IN_Q_OVERFLOW` the backend walks every root again and adds the watches that are missing from the
dict. An entry that is there is taken for granted, so the resync restores the coverage exactly when
no directory has a stale entry: one whose watch has died with an earlier directory of that path, or
follows another directory by now.
-/

namespace MediaScanMonitor
open Text PosixPath Os Inotify InotifyBackend Transition

/-- Descriptors in use have been handed out, each for one inode. -/
structure Numbered (b : InotifyBackend) : Prop where
  key : ∀ {p wd}, b.watches.lookup p = some wd → wd < b.inotify.next
  live : ∀ {i wd}, b.inotify.live i = some wd → wd < b.inotify.next
  inode : ∀ {i j wd}, b.inotify.live i = some wd → b.inotify.live j = some wd → i = j

variable {t : Tree} {b : InotifyBackend}

lemma Numbered.addWatch (h : Numbered b) (p : Str) : Numbered (addWatch t b p) := by
  rcases addWatch_cases b p with hsame | ⟨hp, nd, ht⟩
  · rwa [hsame]
  · obtain ⟨wd, hwd, hw, hl, -, hn⟩ := addWatch_of_new hp ht
    -- the descriptor is the one on the inode, or the next one
    have hown : ∀ {j}, b.inotify.live j = some wd → j = nd.ino := by
      intro j hj
      cases hlive : b.inotify.live nd.ino with
      | none =>
        rw [hlive] at hwd
        subst hwd
        exact absurd (h.live hj) (Nat.lt_irrefl _)
      | some w =>
        rw [hlive] at hwd
        subst hwd
        exact h.inode hj hlive
    have hlt : wd < (InotifyBackend.addWatch t b p).inotify.next := by
      rw [hn]
      cases hlive : b.inotify.live nd.ino with
      | none => rw [hlive] at hwd; subst hwd; exact Nat.lt_succ_self _
      | some w => rw [hlive] at hwd; subst hwd; exact h.live hlive
    have hle := (addWatch_grows (t := t) b p).next
    refine ⟨?_, ?_, ?_⟩
    · intro q w hq
      by_cases hqp : q = p
      · subst hqp
        rw [hw, AList.lookup_insert] at hq
        cases hq
        exact hlt
      · rw [hw, AList.lookup_insert_ne hqp] at hq
        exact (h.key hq).trans_le hle
    · intro i w hi
      rw [hl] at hi
      split at hi
      · cases hi; exact hlt
      · exact (h.live hi).trans_le hle
    · intro i j w hi hj
      rw [hl] at hi hj
      split at hi <;> split at hj
      case isTrue.isTrue hi' hj' => rw [hi', hj']
      case isTrue.isFalse hi' hj' =>
        cases hi
        rw [hi', hown hj]
      case isFalse.isTrue hi' hj' =>
        cases hj
        rw [hj', hown hi]
      case isFalse.isFalse => exact h.inode hi hj

lemma Numbered.popWatch (h : Numbered b) (p : Str) : Numbered (popWatch b p) := by
  refine ⟨?_, ?_, fun hi hj => h.inode (live_popWatch.1 hi).1 (live_popWatch.1 hj).1⟩
  · intro q wd hq
    rw [lookup_popWatch] at hq
    rw [popWatch_next]
    split at hq
    · cases hq
    · exact h.key hq
  · intro i wd hi
    rw [popWatch_next]
    exact h.live (live_popWatch.1 hi).1

lemma numbered_foldl {α : Type} {f : InotifyBackend → α → InotifyBackend}
    (hf : ∀ {b a}, Numbered b → Numbered (f b a)) (l : List α) {b : InotifyBackend}
    (h : Numbered b) : Numbered (l.foldl f b) := by
  induction l generalizing b with
  | nil => exact h
  | cons a l ih => exact ih (hf h)

lemma Numbered.walkAddWatches (h : Numbered b) (root : Str) :
    Numbered (b.walkAddWatches t root).1 := by
  rw [walkAddWatches_eq]
  exact numbered_foldl (fun hb => hb.addWatch _) _ h

lemma Numbered.removeWatchTree (h : Numbered b) (root : Str) : Numbered (b.removeWatchTree root) :=
  numbered_foldl (fun hb => hb.popWatch _) _ h

lemma Numbered.addRoot (h : Numbered b) (root : Str) : Numbered (addRoot t b root) := by
  unfold InotifyBackend.addRoot
  split
  · exact h.walkAddWatches root
  · exact h

lemma Numbered.setRoots (h : Numbered b) (roots : List Str) : Numbered (b.setRoots t roots) := by
  have h1 := numbered_foldl (f := fun b r => InotifyBackend.removeWatchTree b r)
    (fun hb => hb.removeWatchTree _) (b.roots.filter (· ∉ newRoots roots)) h
  have h2 := numbered_foldl (f := InotifyBackend.addRoot t)
    (fun hb => hb.addRoot _) ((newRoots roots).filter (· ∉ b.roots)) h1
  exact ⟨h2.key, h2.live, h2.inode⟩

/-- The state a resync leaves is that of one walk after the other. -/
lemma resync_fst (b : InotifyBackend) : (b.resync t).1 =
    (b.roots.insertionSort (· ≤ ·)).foldl (fun b root => (b.walkAddWatches t root).1) b := by
  have aux : ∀ (l : List Str) (acc : InotifyBackend × List FsEvent),
      (l.foldl (fun acc root => ((acc.1.walkAddWatches t root).1,
        acc.2 ++ (acc.1.walkAddWatches t root).2)) acc).1 =
      l.foldl (fun b root => (b.walkAddWatches t root).1) acc.1 := by
    intro l
    induction l with
    | nil => intro acc; rfl
    | cons r l ih => intro acc; exact ih _
  exact aux _ _

lemma resync_grows (b : InotifyBackend) : Grows b (b.resync t).1 := by
  rw [resync_fst]
  exact grows_foldl (fun b r => walkAddWatches_grows b r) _ b

lemma Numbered.resync (h : Numbered b) : Numbered (b.resync t).1 := by
  rw [resync_fst]
  exact numbered_foldl (fun hb => hb.walkAddWatches _) _ h

lemma Numbered.handle (h : Numbered b) (e : RawEvent) : Numbered (b.handle t e).1 := by
  unfold InotifyBackend.handle
  split
  · exact h.resync
  · split
    · exact h
    · dsimp only
      split
      · exact h
      · split
        · exact h
        · split
          · exact h.walkAddWatches _
          · split
            · exact h.removeWatchTree _
            · exact h

lemma Numbered.op (h : Numbered b) (o : FsOp) :
    Numbered { b with inotify := o.kernel b.inotify t } := by
  refine ⟨fun hk => ?_, fun hl => ?_, fun hi hj => h.inode (live_of_op hi) (live_of_op hj)⟩
  · rw [op_next]
    exact h.key hk
  · rw [op_next]
    exact h.live (live_of_op hl)

namespace World
variable {s s' : World}

lemma step_numbered {a : Act} (h : Numbered s.backend) (hs : step s a = some s') :
    Numbered s'.backend := by
  cases a with
  | op o =>
    obtain ⟨t', -, rfl⟩ := Option.map_eq_some_iff.1 hs
    exact h.op o
  | handle =>
    simp only [step] at hs
    split at hs
    · cases hs
    · cases hs
      exact h.handle _
  | setRoots roots => cases hs; exact h.setRoots roots
  | lose i => cases hs; exact h
  | overflow => cases hs; exact h

lemma start_numbered (t : Tree) (ign : List Str) (R : List (List Name)) :
    Numbered (start t ign R).backend :=
  Numbered.setRoots ⟨fun h => (by cases h), fun h => (by cases h), fun h => (by cases h)⟩ _

/-- Every state has used only descriptors that were handed out. -/
lemma reach_numbered {G : World → Act → Prop} (h : Reach step G s s') (hs : Numbered s.backend) :
    Numbered s'.backend :=
  h.invariant (P := fun u => Numbered u.backend) hs fun hu _ hstep => step_numbered hu hstep

end World

/-- What a series of walks registers anew is found by one of them. -/
lemma mem_foldl_walk {l : List Str} {x : Str}
    (h : x ∈ (l.foldl (fun b root => (b.walkAddWatches t root).1) b).watches) :
    x ∈ b.watches ∨ ∃ root ∈ l, x ∈ attached t b root := by
  induction l generalizing b with
  | nil => exact .inl h
  | cons y l ih =>
    rcases ih h with h | ⟨root, hr, hx⟩
    · rcases mem_walkAddWatches.1 h with h | ⟨hx, -⟩
      · exact .inl h
      · exact .inr ⟨y, List.mem_cons_self, hx⟩
    · rw [attached_congr (walkAddWatches_ignoreDirs y)] at hx
      exact .inr ⟨root, List.mem_cons_of_mem _ hr, hx⟩

/-- A series of walks attaches each directory that one of them finds, when it has no entry yet. -/
lemma foldl_walk_attaches {l : List Str} {x : Str} {nd : Node}
    (hx : ∃ root ∈ l, x ∈ attached t b root) (ht : target t x = some nd)
    (hnew : b.watches.lookup x = none) :
    ∃ wd, (l.foldl (fun b root => (b.walkAddWatches t root).1) b).watches.lookup x = some wd ∧
      (l.foldl (fun b root => (b.walkAddWatches t root).1) b).inotify.live nd.ino = some wd := by
  induction l generalizing b with
  | nil =>
    obtain ⟨root, hr, -⟩ := hx
    cases hr
  | cons y l ih =>
    rw [List.foldl_cons]
    cases hkey : (b.walkAddWatches t y).1.watches.lookup x with
    | some wd =>
      -- attached by this walk, and kept by the later ones
      have hmem : x ∈ (b.walkAddWatches t y).1.watches :=
        AList.lookup_isSome.1 (by rw [hkey]; rfl)
      obtain ⟨-, wd, nd', hnd, hw, hl⟩ := walkAddWatches_new hnew hmem
      have hg := grows_foldl (fun b r => walkAddWatches_grows (t := t) b r) l
        (b.walkAddWatches t y).1
      rw [ht, Option.some.injEq] at hnd
      subst hnd
      exact ⟨wd, hg.lookup hw, hg.live hl⟩
    | none =>
      obtain ⟨root, hr, hxr⟩ := hx
      rcases List.mem_cons.1 hr with rfl | hr
      · have hmem : x ∈ (b.walkAddWatches t root).1.watches :=
          mem_walkAddWatches.2 (.inr ⟨hxr, by rw [ht]; rfl⟩)
        exact absurd hmem (AList.lookup_eq_none.1 hkey)
      · refine ih ⟨root, hr, ?_⟩ hkey
        rwa [attached_congr (walkAddWatches_ignoreDirs y)]

namespace World
variable {s s' : World}

/-- From one of the roots `os.walk` finds a directory whose text becomes that of `p`. Unless a name
ends or begins in blanks this is `p` itself. -/
def Found (s : World) (p : List Name) : Prop :=
  ∃ root ∈ s.backend.roots, ∃ l ∈ walk s.tree s.backend.enters s.tree.height root,
    normalizePath l.dirpath = render p

lemma found_iff {p : List Name} (h : s.Shown p) :
    s.Found p ↔ ∃ root ∈ s.backend.roots.insertionSort (· ≤ ·),
      render p ∈ attached s.tree s.backend root := by
  have hnot : (!s.backend.isIgnored (render p)) = true := by
    rw [h]
    rfl
  simp only [Found, attached, List.mem_filter, List.mem_map, hnot, and_true,
    List.mem_insertionSort]

/-- Handling an overflow report is a resync. -/
lemma handle_overflow {q : List Queued} (hq : s.queue = .overflow :: q)
    (hs : step s .handle = some s') : s' = ⟨s.tree, (s.backend.resync s.tree).1, q⟩ := by
  simp only [step, hq, handle_rawEvent_overflow] at hs
  cases hs
  rfl

section Resync
variable {q : List Queued} {p : List Name} {wd : Wd}

/-- An old entry is unchanged, and its descriptor is too old to have been made by the resync. -/
lemma covered_resync_old (hnum : Numbered s.backend) (hkey : s.key p = some wd) :
    Covered ⟨s.tree, (s.backend.resync s.tree).1, q⟩ p ↔ s.Covered p := by
  have hg := resync_grows (t := s.tree) s.backend
  constructor
  · rintro ⟨wd', hlive, hkey'⟩
    obtain rfl : wd = wd' := Option.some.inj ((hg.lookup hkey).symm.trans hkey')
    obtain ⟨nd, hnd, hl⟩ := Kernel.liveAt_iff.1 hlive
    refine ⟨wd, Kernel.liveAt_iff.2 ⟨nd, hnd, (hg.fresh hl).resolve_right ?_⟩, hkey⟩
    exact Nat.not_le.2 (hnum.key hkey)
  · rintro ⟨wd', hlive, hwd⟩
    obtain ⟨nd, hnd, hl⟩ := Kernel.liveAt_iff.1 hlive
    exact ⟨wd', Kernel.liveAt_iff.2 ⟨nd, hnd, hg.live hl⟩, hg.lookup hwd⟩

/-- A directory without an entry gets one when it is found. -/
lemma covered_resync_new (hkey : s.key p = none) (hdir : s.tree.isDir p = true) (hp : s.Shown p) :
    Covered ⟨s.tree, (s.backend.resync s.tree).1, q⟩ p ↔ s.Found p := by
  rw [found_iff hp]
  constructor
  · rintro ⟨wd', -, hkey'⟩
    have hmem : render p ∈ (s.backend.resync s.tree).1.watches :=
      AList.lookup_isSome.1 (Option.isSome_iff_exists.2 ⟨wd', hkey'⟩)
    rw [resync_fst] at hmem
    exact (mem_foldl_walk hmem).resolve_left (AList.lookup_eq_none.1 hkey)
  · intro hfound
    obtain ⟨i, hi⟩ := FileTree.isDir_iff.1 hdir
    have ht : target s.tree (render p) = some _ := (target_render _).trans hi
    obtain ⟨wd, hwd, hlive⟩ := foldl_walk_attaches hfound ht hkey
    rw [← resync_fst] at hwd hlive
    exact ⟨wd, Kernel.liveAt_iff.2 ⟨_, hi, hlive⟩, hwd⟩

end Resync

/-- After any history, with any events lost, handling an overflow report leaves every directory
covered if and only if no directory had a stale entry before and each of the others is found. -/
theorem resync_covers_iff {t : Tree} {ign : List Str} {R : List (List Name)} {q : List Queued}
    (h : Reach step Free (start t ign R) s) (hq : s.queue = .overflow :: q)
    (hs : step s .handle = some s') :
    (∀ p, s'.tree.isDir p = true → s'.Wanted p → s'.Covered p) ↔
      ∀ p, s.tree.isDir p = true → s.Wanted p →
        if (s.key p).isSome then s.Covered p else s.Found p := by
  have hnum := reach_numbered h (start_numbered t ign R)
  have hs' := handle_overflow hq hs
  subst hs'
  have hg := resync_grows (t := s.tree) s.backend
  have hwanted : ∀ p, (⟨s.tree, (s.backend.resync s.tree).1, q⟩ : World).Wanted p ↔
      s.Wanted p := by
    intro p
    unfold Wanted IsRoot Shown
    rw [isIgnored_congr hg.ignoreDirs, hg.roots]
  apply forall_congr'
  intro p
  apply forall_congr'
  intro hdir
  refine imp_congr_ctx (hwanted p) fun hw => ?_
  cases hkey : s.key p with
  | some wd =>
    rw [if_pos Option.isSome_some]
    exact covered_resync_old hnum hkey
  | none =>
    rw [if_neg (Bool.eq_false_iff.1 Option.isSome_none)]
    exact covered_resync_new hkey hdir hw.1

/-- A lost `mkdir` is made up for. -/
theorem resync_covers_iff_mkdir :
    ∃ s s', run (guarded step Free) (start libraryTree [] [[name "m"]])
        [.op (.make true [name "m"] (name "t")), .lose 0, .overflow] = some s ∧
      step s .handle = some s' ∧
      ((∀ p, s'.tree.isDir p = true → s'.Wanted p → s'.Covered p) ↔
        ∀ p, s.tree.isDir p = true → s.Wanted p →
          if (s.key p).isSome then s.Covered p else s.Found p) := by
  have hrun : run (guarded step Free) (start libraryTree [] [[name "m"]])
      [.op (.make true [name "m"] (name "t")), .lose 0, .overflow] = some _ := rfl
  exact ⟨_, _, hrun, rfl, resync_covers_iff (Reach.of_run hrun) rfl rfl⟩

/-- A directory that is deleted and made again while both events are lost stays unwatched: its old
entry is taken for granted. -/
theorem resync_covers_fails :
    ¬ ∀ (t : Tree) (ign : List Str) (R : List (List Name)) (acts : List Act) (q : List Queued)
      (s s' : World), run step (start t ign R) acts = some s →
      (∀ r ∈ R, t.isDir r = true ∧ s.tree.node r = t.node r) →
      s.queue = .overflow :: q → step s .handle = some s' →
      ∀ p, s'.tree.isDir p = true → s'.Wanted p → s'.Covered p := by
  intro h
  have hrun : run step (start libraryTree [] [[name "m"]])
      [.op (.remove [name "m"] (name "s")), .lose 0,
        .op (.make true [name "m"] (name "s")), .lose 0, .overflow] = some _ := rfl
  obtain ⟨wd, hlive, hkey⟩ := h libraryTree [] [[name "m"]] _ [] _ _ hrun (by decide) rfl rfl
    [name "m", name "s"] (by decide) ⟨by decide, [name "m"], by decide, by decide⟩
  have hnone : (none : Option Wd) = some wd := hlive
  cases hnone

end World
end MediaScanMonitor
