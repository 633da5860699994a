import MediaScanMonitor.Watcher.Backend

/-!
# What the bookkeeping of watches does

One specification lemma for each of `addWatch`, `removeWatchTree` and `walkAddWatches`, in terms of
the dict `watches` and the kernel's live watches. Everything proved about the backend goes through
these; the loops are not unfolded again.
-/

namespace MediaScanMonitor
open Text PosixPath Os Inotify

namespace InotifyBackend
variable {t : Tree} {b : InotifyBackend}

@[simp] lemma addWatch_ignoreDirs (p : Str) : (addWatch t b p).ignoreDirs = b.ignoreDirs := by
  unfold addWatch
  split
  · rfl
  · split <;> rfl

@[simp] lemma addWatch_roots (p : Str) : (addWatch t b p).roots = b.roots := by
  unfold addWatch
  split
  · rfl
  · split <;> rfl

@[simp] lemma popWatch_ignoreDirs (p : Str) : (popWatch b p).ignoreDirs = b.ignoreDirs := by
  unfold popWatch
  split <;> rfl

@[simp] lemma popWatch_roots (p : Str) : (popWatch b p).roots = b.roots := by
  unfold popWatch
  split <;> rfl

@[simp] lemma popWatch_next (p : Str) : (popWatch b p).inotify.next = b.inotify.next := by
  unfold popWatch
  split <;> rfl

@[simp] lemma popWatch_path (p : Str) : (popWatch b p).inotify.path = b.inotify.path := by
  unfold popWatch
  split <;> rfl

/-- A field that no round of a loop changes is unchanged after the loop. -/
lemma foldl_frame {α β γ : Type} {f : β → α → β} {g : β → γ} (h : ∀ b a, g (f b a) = g b)
    (l : List α) (b : β) : g (l.foldl f b) = g b := by
  induction l generalizing b with
  | nil => rfl
  | cons a l ih => rw [List.foldl_cons, ih, h]

/-- `popWatch` on the dict. -/
lemma lookup_popWatch (p q : Str) :
    (popWatch b p).watches.lookup q = if q = p then none else b.watches.lookup q := by
  unfold popWatch
  split
  case h_1 h =>
    split
    case isTrue heq => rw [heq, h]
    case isFalse => rfl
  case h_2 =>
    split
    case isTrue heq => rw [heq, AList.lookup_erase]
    case isFalse hne => exact AList.lookup_erase_ne hne

/-- `popWatch` on the kernel. -/
lemma live_popWatch {p : Str} {i : Nat} {wd : Wd} :
    (popWatch b p).inotify.live i = some wd ↔
      b.inotify.live i = some wd ∧ b.watches.lookup p ≠ some wd := by
  unfold popWatch
  split
  case h_1 h => simp [h]
  case h_2 wd' h =>
    simp only [Kernel.rmWatch, h]
    split
    case isTrue heq => simp [heq]
    case isFalse hne =>
      constructor
      · intro hl
        exact ⟨hl, fun he => hne (by rw [hl, he])⟩
      · exact And.left

lemma lookup_foldl_popWatch (l : List Str) (q : Str) :
    (l.foldl popWatch b).watches.lookup q = if q ∈ l then none else b.watches.lookup q := by
  induction l generalizing b with
  | nil => simp
  | cons p l ih =>
    rw [List.foldl_cons, ih, lookup_popWatch]
    by_cases h1 : q ∈ l <;> by_cases h2 : q = p <;> simp [h1, h2]

lemma live_foldl_popWatch {l : List Str} {i : Nat} {wd : Wd} :
    (l.foldl popWatch b).inotify.live i = some wd ↔
      b.inotify.live i = some wd ∧ ∀ p ∈ l, b.watches.lookup p ≠ some wd := by
  induction l generalizing b with
  | nil => simp
  | cons p l ih =>
    rw [List.foldl_cons, ih, live_popWatch]
    simp only [lookup_popWatch, List.mem_cons, forall_eq_or_imp, and_assoc]
    refine and_congr_right fun _ => and_congr_right fun hp => forall₂_congr fun q _ => ?_
    by_cases hq : q = p
    · subst hq
      simp [hp]
    · simp [hq]

@[simp] lemma removeWatchTree_ignoreDirs (root : Str) :
    (b.removeWatchTree root).ignoreDirs = b.ignoreDirs :=
  foldl_frame (fun _ _ => popWatch_ignoreDirs _) _ _

@[simp] lemma removeWatchTree_roots (root : Str) : (b.removeWatchTree root).roots = b.roots :=
  foldl_frame (fun _ _ => popWatch_roots _) _ _

@[simp] lemma removeWatchTree_next (root : Str) :
    (b.removeWatchTree root).inotify.next = b.inotify.next :=
  foldl_frame (g := fun b : InotifyBackend => b.inotify.next) (fun _ _ => popWatch_next _) _ _

@[simp] lemma removeWatchTree_path (root : Str) :
    (b.removeWatchTree root).inotify.path = b.inotify.path :=
  foldl_frame (g := fun b : InotifyBackend => b.inotify.path) (fun _ _ => popWatch_path _) _ _

/-- `removeWatchTree` drops the entries at and textually below its root, and no other. -/
lemma lookup_removeWatchTree (root q : Str) :
    (b.removeWatchTree root).watches.lookup q =
      if atOrUnder root q then none else b.watches.lookup q := by
  rw [removeWatchTree, lookup_foldl_popWatch]
  by_cases hq : q ∈ b.watches
  · have hk : q ∈ b.watches.keys := hq
    simp [hk]
  · simp [AList.lookup_eq_none.2 hq]

lemma mem_removeWatchTree {root q : Str} :
    q ∈ (b.removeWatchTree root).watches ↔ q ∈ b.watches ∧ atOrUnder root q = false := by
  rw [← AList.lookup_isSome, lookup_removeWatchTree, ← AList.lookup_isSome]
  cases atOrUnder root q <;> simp

/-- `removeWatchTree` kills the watches it drops, and no other. -/
lemma live_removeWatchTree {root : Str} {i : Nat} {wd : Wd} :
    (b.removeWatchTree root).inotify.live i = some wd ↔
      b.inotify.live i = some wd ∧
        ∀ p, atOrUnder root p = true → b.watches.lookup p ≠ some wd := by
  rw [removeWatchTree, live_foldl_popWatch]
  refine and_congr_right fun _ => ⟨fun h p hp hl => ?_, fun h p hp => ?_⟩
  · have hk : p ∈ b.watches.keys := AList.lookup_isSome.1 (by rw [hl]; rfl)
    exact h p (List.mem_filter.2 ⟨hk, hp⟩) hl
  · exact h p (List.mem_filter.1 hp).2

lemma isIgnored_congr {c : InotifyBackend} (h : b.ignoreDirs = c.ignoreDirs) (p : Str) :
    b.isIgnored p = c.isIgnored p := by
  simp [isIgnored, h]

lemma enters_congr {c : InotifyBackend} (h : b.ignoreDirs = c.ignoreDirs) :
    b.enters = c.enters := by
  funext n
  simp [enters, h]

/-- A path below an absolute root is shown when the root is and every name on the way is kept. -/
lemma shown_joinAll {root : Str} (h : isabs root = true) {s : List Name} :
    b.isIgnored (joinAll root s) = false ↔
      b.isIgnored root = false ∧ ∀ n ∈ s, b.enters n = true := by
  simp only [isIgnored, List.any_eq_false, decide_eq_true_eq, mem_split_joinAll h, enters]
  constructor
  · intro hi
    exact ⟨fun x hx => hi x (.inl hx), fun n hn => hi n.val (.inr ⟨n, hn, rfl⟩)⟩
  · rintro ⟨hr, hs⟩ x (hx | ⟨n, hn, rfl⟩)
    · exact hr x hx
    · exact hs n hn

/-- The same for component lists. -/
lemma shown_append {d s : List Name} :
    b.isIgnored (render (d ++ s)) = false ↔
      b.isIgnored (render d) = false ∧ ∀ n ∈ s, b.enters n = true := by
  rw [← joinAll_render, shown_joinAll (isabs_render d)]

/-- Whatever lies above a shown path is shown. -/
lemma shown_above {d p : List Name} (h : d <+: p) (hp : b.isIgnored (render p) = false) :
    b.isIgnored (render d) = false := by
  obtain ⟨s, rfl⟩ := h
  exact (shown_append.1 hp).1

/-- Nothing is dropped when no entry is at or below the root. -/
lemma removeWatchTree_of_none {root : Str} (h : ∀ k ∈ b.watches.keys, atOrUnder root k = false) :
    b.removeWatchTree root = b := by
  have hnil : b.watches.keys.filter (atOrUnder root) = [] := by
    rw [List.filter_eq_nil_iff]
    intro k hk
    rw [h k hk]
    exact Bool.false_ne_true
  rw [removeWatchTree, hnil, List.foldl_nil]

/-- On rendered paths the test of `removeWatchTree` is the order of component lists. -/
lemma atOrUnder_render {d : List Name} (hd : d ≠ []) (p : List Name) :
    atOrUnder (render d) (render p) = true ↔ d <+: p := by
  rw [atOrUnder, Bool.or_eq_true, beq_iff_eq, render_inj, startsWith_render hd]
  constructor
  · rintro (rfl | h)
    · exact List.prefix_rfl
    · exact h.1
  · intro h
    by_cases he : p = d
    · exact .inl he
    · exact .inr ⟨h, Ne.symm he⟩

/-- The entry that a path text leads to. -/
def target (t : Tree) (path : Str) : Option Node :=
  (resolve path).bind t.node

@[simp] lemma target_render (p : List Name) : target t (render p) = t.node p := by
  simp [target]

/-- `addWatch` does nothing for a path that is watched or leads nowhere. -/
lemma addWatch_of_skip {p : Str} (h : p ∈ b.watches ∨ target t p = none) : addWatch t b p = b := by
  unfold addWatch
  split
  · rfl
  · next hn =>
    have ht : (resolve p).bind t.node = none := h.resolve_left hn
    simp [Kernel.addWatch, ht]

/-- Either it does nothing, or the path is new and leads somewhere. -/
lemma addWatch_cases (b : InotifyBackend) (p : Str) :
    addWatch t b p = b ∨ p ∉ b.watches ∧ ∃ nd, target t p = some nd := by
  by_cases hp : p ∈ b.watches
  · exact .inl (addWatch_of_skip (.inl hp))
  · cases ht : target t p with
    | none => exact .inl (addWatch_of_skip (.inr ht))
    | some nd => exact .inr ⟨hp, nd, rfl⟩

/-- `addWatch` for a new path: an existing watch on the inode is shared, else a new one is made. -/
lemma addWatch_of_new {p : Str} {nd : Node} (h : p ∉ b.watches) (ht : target t p = some nd) :
    ∃ wd, wd = (b.inotify.live nd.ino).getD b.inotify.next ∧
      (addWatch t b p).watches = b.watches.insert p wd ∧
      (∀ i, (addWatch t b p).inotify.live i =
        if i = nd.ino then some wd else b.inotify.live i) ∧
      (∀ w, (addWatch t b p).inotify.path w = if w = wd then some p else b.inotify.path w) ∧
      (addWatch t b p).inotify.next =
        if (b.inotify.live nd.ino).isSome then b.inotify.next else b.inotify.next + 1 := by
  have ht' : (resolve p).bind t.node = some nd := ht
  refine ⟨_, rfl, ?_⟩
  simp [addWatch, h, Kernel.addWatch, ht']

/-- `addWatch` leaves the other inodes alone. -/
lemma live_addWatch_ne {p : Str} {i : Nat} (h : ∀ nd, target t p = some nd → i ≠ nd.ino) :
    (addWatch t b p).inotify.live i = b.inotify.live i := by
  rcases addWatch_cases b p with hsame | ⟨hp, nd, ht⟩
  · rw [hsame]
  · obtain ⟨wd, -, -, hl, -⟩ := addWatch_of_new hp ht
    rw [hl, if_neg (h nd ht)]

/-- The keys after `addWatch`. -/
lemma mem_addWatch {p q : Str} :
    q ∈ (addWatch t b p).watches ↔ q ∈ b.watches ∨ (q = p ∧ (target t p).isSome) := by
  by_cases h : p ∈ b.watches
  · rw [addWatch_of_skip (.inl h)]
    exact ⟨.inl, fun hq => hq.elim id fun e => e.1 ▸ h⟩
  · cases ht : target t p with
    | none => simp [addWatch_of_skip (.inr ht)]
    | some nd =>
      obtain ⟨wd, -, hw, -⟩ := addWatch_of_new h ht
      simp [hw, or_comm]

/-- `c` results from `b` by attaching watches only. -/
structure Grows (b c : InotifyBackend) : Prop where
  ignoreDirs : c.ignoreDirs = b.ignoreDirs
  roots : c.roots = b.roots
  lookup : ∀ {q wd}, b.watches.lookup q = some wd → c.watches.lookup q = some wd
  live : ∀ {i wd}, b.inotify.live i = some wd → c.inotify.live i = some wd
  fresh : ∀ {i wd}, c.inotify.live i = some wd → b.inotify.live i = some wd ∨ b.inotify.next ≤ wd
  next : b.inotify.next ≤ c.inotify.next

lemma Grows.refl (b : InotifyBackend) : Grows b b :=
  ⟨rfl, rfl, id, id, .inl, Nat.le_refl _⟩

lemma Grows.trans {a b c : InotifyBackend} (h1 : Grows a b) (h2 : Grows b c) : Grows a c where
  ignoreDirs := h2.ignoreDirs.trans h1.ignoreDirs
  roots := h2.roots.trans h1.roots
  lookup := fun h => h2.lookup (h1.lookup h)
  live := fun h => h2.live (h1.live h)
  fresh := by
    intro i wd h
    rcases h2.fresh h with h | h
    · exact h1.fresh h
    · exact .inr (h1.next.trans h)
  next := h1.next.trans h2.next

lemma grows_foldl {α : Type} {f : InotifyBackend → α → InotifyBackend}
    (h : ∀ b a, Grows b (f b a)) (l : List α) (b : InotifyBackend) : Grows b (l.foldl f b) := by
  induction l generalizing b with
  | nil => exact Grows.refl b
  | cons a l ih => exact (h b a).trans (ih (f b a))

/-- `addWatch` changes no entry of the dict and keeps every watch that is live. -/
lemma addWatch_grows (b : InotifyBackend) (p : Str) : Grows b (addWatch t b p) := by
  rcases addWatch_cases b p with hsame | ⟨hp, nd, ht⟩
  · rw [hsame]
    exact Grows.refl b
  · obtain ⟨wd, rfl, hw, hl, -, hn⟩ := addWatch_of_new hp ht
    refine ⟨addWatch_ignoreDirs p, addWatch_roots p, ?_, ?_, ?_, ?_⟩
    · intro q wd h
      have hne : q ≠ p := by
        rintro rfl
        exact hp (AList.lookup_isSome.1 (by rw [h]; rfl))
      rw [hw, AList.lookup_insert_ne hne, h]
    · intro i wd h
      rw [hl]
      split
      · next e => rw [← e, h]; rfl
      · exact h
    · intro i wd h
      rw [hl] at h
      split at h
      · next e =>
        subst e
        cases hlive : b.inotify.live nd.ino with
        | none =>
          rw [hlive] at h
          cases h
          exact .inr (Nat.le_refl _)
        | some w =>
          rw [hlive] at h
          exact .inl h
      · exact .inl h
    · rw [hn]
      split
      · exact Nat.le_refl _
      · exact Nat.le_succ _

/-- `addWatch` makes an entry for its own path only. -/
lemma lookup_addWatch_ne {p q : Str} (h : q ≠ p) :
    (addWatch t b p).watches.lookup q = b.watches.lookup q := by
  rcases addWatch_cases b p with hsame | ⟨hp, nd, ht⟩
  · rw [hsame]
  · obtain ⟨wd', -, hw, -⟩ := addWatch_of_new hp ht
    rw [hw, AList.lookup_insert_ne h]

/-- `addWatch` registers a new path under the live watch of its inode. -/
lemma addWatch_attaches {p : Str} {nd : Node} (h : b.watches.lookup p = none)
    (ht : target t p = some nd) :
    ∃ wd, (addWatch t b p).watches.lookup p = some wd ∧
      (addWatch t b p).inotify.live nd.ino = some wd := by
  obtain ⟨wd, -, hw, hl, -⟩ := addWatch_of_new (AList.lookup_eq_none.1 h) ht
  exact ⟨wd, by rw [hw, AList.lookup_insert], by rw [hl, if_pos rfl]⟩

/-- A run of `addWatch` registers each new path that leads somewhere under a live watch. -/
lemma foldl_addWatch_attaches {l : List Str} {p : Str} {nd : Node} (hp : p ∈ l)
    (h : b.watches.lookup p = none) (ht : target t p = some nd) :
    ∃ wd, (l.foldl (addWatch t) b).watches.lookup p = some wd ∧
      (l.foldl (addWatch t) b).inotify.live nd.ino = some wd := by
  induction l generalizing b with
  | nil => cases hp
  | cons q l ih =>
    by_cases hq : p = q
    · subst hq
      obtain ⟨wd, hw, hl⟩ := addWatch_attaches h ht
      have hg := grows_foldl (addWatch_grows (t := t)) l (addWatch t b p)
      exact ⟨wd, hg.lookup hw, hg.live hl⟩
    · exact ih ((List.mem_cons.1 hp).resolve_left hq) (by rwa [lookup_addWatch_ne hq])

/-- The paths that `walkAddWatches` passes to `addWatch`, in order. -/
def attached (t : Tree) (b : InotifyBackend) (root : Str) : List Str :=
  ((walk t b.enters t.height root).map fun l => normalizePath l.dirpath).filter
    fun p => !b.isIgnored p

/-- Below a shown directory whose shown subdirectories have plain texts, the walk attaches exactly
these. -/
lemma mem_attached_render {d : List Name} (hshown : b.isIgnored (render d) = false)
    (hplain : ∀ p, d <+: p → t.isDir p = true → b.isIgnored (render p) = false → Plain p)
    {x : Str} : x ∈ attached t b (render d) ↔ ∃ p, d <+: p ∧ t.isDir p = true ∧
      b.isIgnored (render p) = false ∧ x = render p := by
  simp only [attached, List.mem_filter, List.mem_map, mem_walk (resolve_render d),
    Bool.not_eq_true']
  constructor
  · rintro ⟨⟨l, ⟨s, -, hk, hd, rfl⟩, rfl⟩, hi⟩
    have hs : b.isIgnored (render (d ++ s)) = false := shown_append.2 ⟨hshown, hk⟩
    refine ⟨d ++ s, List.prefix_append _ _, hd, hs, ?_⟩
    simp only [joinAll_render]
    exact hplain _ (List.prefix_append _ _) hd hs
  · rintro ⟨p, ⟨s, rfl⟩, hd, hs, rfl⟩
    obtain ⟨i, hi⟩ := FileTree.isDir_iff.1 hd
    have hlen : s.length < t.height := by
      have h := FileTree.length_lt_height hi
      rw [List.length_append] at h
      omega
    have hp : normalizePath (render (d ++ s)) = render (d ++ s) :=
      hplain _ (List.prefix_append _ _) hd hs
    exact ⟨⟨_, ⟨s, hlen, (shown_append.1 hs).2, hd, rfl⟩, by simp only [joinAll_render, hp]⟩, hs⟩

/-- A walk of something that is no directory finds nothing. -/
lemma walk_of_not_dir (keep : Name → Bool) {root : Str} (h : isdir t root = false) :
    walk t keep t.height root = [] := by
  have hs : scandir t root = none := by
    unfold scandir
    cases hr : resolve root with
    | none => rfl
    | some p =>
      have hd : t.isDir p = false := by
        rw [isdir, hr] at h
        exact h
      rw [Option.bind_some, FileTree.scandir, hd]
      rfl
  rw [FileTree.height, walk, hs]

/-- The walk of a directory starts with it. -/
lemma mem_walk_of_dir (keep : Name → Bool) {root : Str} (h : isdir t root = true) :
    ∃ l ∈ walk t keep t.height root, l.dirpath = root := by
  obtain ⟨d, hr, hd⟩ := isdir_iff.1 h
  have hs : scandir t root = t.scandir d := by rw [scandir, hr, Option.bind_some]
  rw [FileTree.height, walk, hs, FileTree.scandir, if_pos hd]
  exact ⟨_, List.mem_cons_self, rfl⟩

lemma walkAddWatches_of_not_dir {root : Str} (h : isdir t root = false) :
    (b.walkAddWatches t root).1 = b := by
  rw [walkAddWatches, walk_of_not_dir b.enters h]
  rfl

/-- `walkAddWatches` as a run of `addWatch` and a list of events. -/
lemma walkAddWatches_eq (root : Str) :
    b.walkAddWatches t root = ((attached t b root).foldl (addWatch t) b,
      ((walk t b.enters t.height root).filter
        fun l => !b.isIgnored (normalizePath l.dirpath)).flatMap (synthetic root)) := by
  have aux : ∀ (ls : List Listing) (c : InotifyBackend) (out : List FsEvent),
      c.ignoreDirs = b.ignoreDirs → ls.foldl (visit t root) (c, out) =
        (((ls.map fun l => normalizePath l.dirpath).filter fun p => !b.isIgnored p).foldl
          (addWatch t) c,
        out ++ (ls.filter fun l => !b.isIgnored (normalizePath l.dirpath)).flatMap
          (synthetic root)) := by
    intro ls
    induction ls with
    | nil => simp
    | cons l ls ih =>
      intro c out hc
      have hi : c.isIgnored (normalizePath l.dirpath) = b.isIgnored (normalizePath l.dirpath) :=
        isIgnored_congr hc _
      rw [List.foldl_cons, visit]
      simp only [hi]
      cases h : b.isIgnored (normalizePath l.dirpath) with
      | true => simp [h, ih c out hc]
      | false => simp [h, ih (addWatch t c _) _ (by simp [hc])]
  simpa [walkAddWatches, attached] using aux _ b [] rfl

/-- The keys after a run of `addWatch`. -/
lemma mem_foldl_addWatch {l : List Str} {q : Str} :
    q ∈ (l.foldl (addWatch t) b).watches ↔
      q ∈ b.watches ∨ (q ∈ l ∧ (target t q).isSome) := by
  induction l generalizing b with
  | nil => simp
  | cons p l ih =>
    rw [List.foldl_cons, ih, mem_addWatch, List.mem_cons]
    constructor
    · rintro ((h | ⟨rfl, h⟩) | h)
      · exact .inl h
      · exact .inr ⟨.inl rfl, h⟩
      · exact .inr ⟨.inr h.1, h.2⟩
    · rintro (h | ⟨rfl | h, ht⟩)
      · exact .inl (.inl h)
      · exact .inl (.inr ⟨rfl, ht⟩)
      · exact .inr ⟨h, ht⟩

lemma walkAddWatches_grows (b : InotifyBackend) (root : Str) :
    Grows b (b.walkAddWatches t root).1 := by
  rw [walkAddWatches_eq]
  exact grows_foldl addWatch_grows _ b

@[simp] lemma walkAddWatches_ignoreDirs (root : Str) :
    (b.walkAddWatches t root).1.ignoreDirs = b.ignoreDirs :=
  (walkAddWatches_grows b root).ignoreDirs

/-- What a walk adds to the dict is one of its paths, under the live watch of its inode. -/
lemma walkAddWatches_new {root q : Str} (h : b.watches.lookup q = none)
    (h' : q ∈ (b.walkAddWatches t root).1.watches) :
    q ∈ attached t b root ∧ ∃ wd nd, target t q = some nd ∧
      (b.walkAddWatches t root).1.watches.lookup q = some wd ∧
      (b.walkAddWatches t root).1.inotify.live nd.ino = some wd := by
  rw [walkAddWatches_eq] at h' ⊢
  have hmem := (mem_foldl_addWatch.1 h').resolve_left (AList.lookup_eq_none.1 h)
  obtain ⟨nd, hnd⟩ := Option.isSome_iff_exists.1 hmem.2
  obtain ⟨wd, hw, hl⟩ := foldl_addWatch_attaches hmem.1 h hnd
  exact ⟨hmem.1, wd, nd, hnd, hw, hl⟩

/-- The keys after `walkAddWatches`. -/
lemma mem_walkAddWatches {root q : Str} :
    q ∈ (b.walkAddWatches t root).1.watches ↔
      q ∈ b.watches ∨ (q ∈ attached t b root ∧ (target t q).isSome) := by
  rw [walkAddWatches_eq]
  exact mem_foldl_addWatch

end InotifyBackend
end MediaScanMonitor
