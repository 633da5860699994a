import Mathlib.Data.Set.Image
import MediaScanMonitor.Watcher.Resync

/-!
# Watch coverage converges

While processes change the file system and the backend lags behind, the dict of watches is wrong all
the time. What holds throughout is `Inv`: each directory to be watched is covered, or a queued
report will make the backend forget its path, or its path is forgotten and a queued report will make
the backend attach it. When the queue is empty only the first is left.

The guard `Clean` names the steps that break this: see there.
-/

namespace MediaScanMonitor
open Text PosixPath Os Inotify InotifyBackend Transition

variable {t : Tree} {b : InotifyBackend}

/-- The dict and the descriptors match: one path for each descriptor, and the reading library
reports the descriptor's events under that path. -/
structure Registered (b : InotifyBackend) : Prop where
  numbered : Numbered b
  one : ∀ {p q wd}, b.watches.lookup p = some wd → b.watches.lookup q = some wd → p = q
  path : ∀ {p wd}, b.watches.lookup p = some wd → b.inotify.path wd = some p

/-- Registering a path whose inode is not watched yet. -/
lemma Registered.addWatch (h : Registered b) {p : Str} {nd : Node} (ht : target t p = some nd)
    (hf : b.watches.lookup p = none → b.inotify.live nd.ino = none) :
    Registered (addWatch t b p) := by
  by_cases hp : p ∈ b.watches
  · rwa [addWatch_of_skip (.inl hp)]
  · obtain ⟨wd, hwd, hw, -, hpath, -⟩ := addWatch_of_new hp ht
    rw [hf (AList.lookup_eq_none.2 hp)] at hwd
    -- the descriptor is new, so no old entry has it
    have hnew : ∀ {q w}, b.watches.lookup q = some w → w ≠ wd := by
      rintro q w hq rfl
      have hlt := h.numbered.key hq
      rw [hwd] at hlt
      exact absurd hlt (Nat.lt_irrefl _)
    refine ⟨h.numbered.addWatch p, ?_, ?_⟩
    · intro q r w hq hr
      rw [hw] at hq hr
      by_cases hqp : q = p <;> by_cases hrp : r = p
      · rw [hqp, hrp]
      · subst hqp
        rw [AList.lookup_insert] at hq
        rw [AList.lookup_insert_ne hrp] at hr
        cases hq
        exact (hnew hr rfl).elim
      · subst hrp
        rw [AList.lookup_insert] at hr
        rw [AList.lookup_insert_ne hqp] at hq
        cases hr
        exact (hnew hq rfl).elim
      · rw [AList.lookup_insert_ne hqp] at hq
        rw [AList.lookup_insert_ne hrp] at hr
        exact h.one hq hr
    · intro q w hq
      rw [hw] at hq
      rw [hpath]
      by_cases hqp : q = p
      · subst hqp
        rw [AList.lookup_insert] at hq
        cases hq
        exact if_pos rfl
      · rw [AList.lookup_insert_ne hqp] at hq
        rw [if_neg (hnew hq), h.path hq]

/-- Registering several paths whose inodes are not watched yet. -/
lemma Registered.foldl {ps : List (List Name)} (h : Registered b)
    (hps : ∀ p ∈ ps, ∃ nd, t.node p = some nd ∧
      (b.watches.lookup (render p) = none → b.inotify.live nd.ino = none)) :
    Registered ((ps.map render).foldl (InotifyBackend.addWatch t) b) := by
  induction ps generalizing b with
  | nil => exact h
  | cons p ps ih =>
    obtain ⟨nd, hnd, hf⟩ := hps p (by simp)
    have ht : target t (render p) = some nd := by rw [target_render, hnd]
    apply ih (h.addWatch ht hf)
    intro q hq
    obtain ⟨nd', hnd', hf'⟩ := hps q (List.mem_cons_of_mem _ hq)
    refine ⟨nd', hnd', fun hnone => ?_⟩
    have hg := addWatch_grows (t := t) b (render p)
    have hold : b.watches.lookup (render q) = none := by
      cases hk : b.watches.lookup (render q) with
      | none => rfl
      | some w => rw [hg.lookup hk] at hnone; cases hnone
    rw [live_addWatch_ne, hf' hold]
    intro nd'' hnd'' he
    rw [target_render] at hnd''
    -- a common inode would make `q` the path just registered
    have hqp := t.inj hnd' hnd'' he
    subst hqp
    have hmem : render q ∈ (InotifyBackend.addWatch t b (render q)).watches :=
      mem_addWatch.2 (.inr ⟨rfl, by rw [ht]; rfl⟩)
    exact AList.lookup_eq_none.1 hnone hmem

/-- Below `d` no directory that is to be registered is watched already. -/
def Unwatched (t : Tree) (b : InotifyBackend) (d : List Name) : Prop :=
  ∀ p, d <+: p → t.isDir p = true → b.isIgnored (render p) = false →
    b.watches.lookup (render p) = none → b.inotify.liveAt t p = none

lemma Registered.walk {d : List Name} (h : Registered b) (hshown : b.isIgnored (render d) = false)
    (hplain : ∀ p, d <+: p → t.isDir p = true → b.isIgnored (render p) = false → Plain p)
    (hf : Unwatched t b d) : Registered (b.walkAddWatches t (render d)).1 := by
  have hmem : ∀ x, x ∈ attached t b (render d) ↔ _ :=
    fun x => mem_attached_render hshown hplain
  have hrange : attached t b (render d) ∈ Set.range (List.map render) := by
    rw [Set.range_list_map]
    intro x hx
    obtain ⟨p, -, -, -, rfl⟩ := (hmem x).1 hx
    exact ⟨p, rfl⟩
  obtain ⟨ps, hps⟩ := hrange
  rw [walkAddWatches_eq, ← hps]
  apply h.foldl
  intro p hp
  have hp' : render p ∈ attached t b (render d) := by
    rw [← hps]
    exact List.mem_map_of_mem hp
  obtain ⟨q, hd, hdir, hs, he⟩ := (hmem _).1 hp'
  obtain rfl := render_injective he
  obtain ⟨i, hi⟩ := FileTree.isDir_iff.1 hdir
  refine ⟨_, hi, fun hnone => ?_⟩
  have hlive := hf p hd hdir hs hnone
  rwa [Kernel.liveAt, hi] at hlive

/-- Nothing is out of date: every entry has a live watch on its path, and every live watch has an
entry. -/
structure Current (t : Tree) (b : InotifyBackend) : Prop where
  reg : Registered b
  held : ∀ {p wd}, b.watches.lookup (render p) = some wd → b.inotify.liveAt t p = some wd
  holder : ∀ {i wd}, b.inotify.live i = some wd →
    ∃ p nd, t.node p = some nd ∧ nd.ino = i ∧ b.watches.lookup (render p) = some wd

lemma Current.addWatch (h : Current t b) {p : List Name} {nd : Node} (hnd : t.node p = some nd) :
    Current t (addWatch t b (render p)) := by
  have ht : target t (render p) = some nd := by rw [target_render, hnd]
  have hg := addWatch_grows (t := t) b (render p)
  have hf : b.watches.lookup (render p) = none → b.inotify.live nd.ino = none := by
    intro hnone
    cases hl : b.inotify.live nd.ino with
    | none => rfl
    | some w =>
      obtain ⟨q, ndq, hq, hi, hw⟩ := h.holder hl
      obtain rfl := t.inj hq hnd hi
      rw [hnone] at hw
      cases hw
  have hown : ∃ w, (InotifyBackend.addWatch t b (render p)).watches.lookup (render p) = some w ∧
      (InotifyBackend.addWatch t b (render p)).inotify.live nd.ino = some w := by
    cases hk : b.watches.lookup (render p) with
    | none => exact addWatch_attaches hk ht
    | some w =>
      obtain ⟨nd', hnd', hl⟩ := Kernel.liveAt_iff.1 (h.held hk)
      rw [hnd, Option.some.injEq] at hnd'
      subst hnd'
      exact ⟨w, hg.lookup hk, hg.live hl⟩
  obtain ⟨w, hw, hl⟩ := hown
  refine ⟨h.reg.addWatch ht hf, fun {q v} hq => ?_, fun {i v} hi => ?_⟩
  · by_cases hqp : q = p
    · subst hqp
      rw [hw] at hq
      cases hq
      exact Kernel.liveAt_iff.2 ⟨nd, hnd, hl⟩
    · rw [lookup_addWatch_ne fun e => hqp (render_injective e)] at hq
      obtain ⟨ndq, hndq, hlq⟩ := Kernel.liveAt_iff.1 (h.held hq)
      exact Kernel.liveAt_iff.2 ⟨ndq, hndq, hg.live hlq⟩
  · by_cases hip : i = nd.ino
    · subst hip
      rw [hl] at hi
      cases hi
      exact ⟨p, nd, hnd, rfl, hw⟩
    · rw [live_addWatch_ne fun nd' ht' => ?_] at hi
      · obtain ⟨q, ndq, hq, hqi, hqw⟩ := h.holder hi
        exact ⟨q, ndq, hq, hqi, hg.lookup hqw⟩
      · rw [ht, Option.some.injEq] at ht'
        rw [← ht']
        exact hip

/-- A walk of a shown directory keeps everything up to date. -/
lemma Current.walk (h : Current t b) {d : List Name} (hshown : b.isIgnored (render d) = false)
    (hplain : ∀ p, d <+: p → t.isDir p = true → b.isIgnored (render p) = false → Plain p) :
    Current t (b.walkAddWatches t (render d)).1 := by
  have hall : ∀ x ∈ attached t b (render d), ∃ p nd, x = render p ∧ t.node p = some nd := by
    intro x hx
    obtain ⟨p, -, hdir, -, rfl⟩ := (mem_attached_render hshown hplain).1 hx
    obtain ⟨i, hi⟩ := FileTree.isDir_iff.1 hdir
    exact ⟨p, _, rfl, hi⟩
  rw [walkAddWatches_eq]
  generalize attached t b (render d) = l at hall
  clear hshown hplain
  show Current t (l.foldl (InotifyBackend.addWatch t) b)
  induction l generalizing b with
  | nil => exact h
  | cons x l ih =>
    obtain ⟨p, nd, rfl, hnd⟩ := hall x List.mem_cons_self
    exact ih (h.addWatch hnd) fun y hy => hall y (List.mem_cons_of_mem _ hy)

/-- So does attaching a list of roots. -/
lemma Current.roots {l : List Str} (h : Current t b)
    (hl : ∀ x ∈ l, ∃ r, x = render r ∧
      ∀ p, r <+: p → t.isDir p = true → b.isIgnored (render p) = false → Plain p) :
    Current t (l.foldl (addRoot t) b) := by
  induction l generalizing b with
  | nil => exact h
  | cons x l ih =>
    obtain ⟨r, rfl, hplain⟩ := hl x List.mem_cons_self
    have hrest := fun y hy => hl y (List.mem_cons_of_mem _ hy)
    rw [List.foldl_cons, addRoot]
    split
    case isTrue hc =>
      rw [Bool.and_eq_true, Bool.not_eq_true'] at hc
      apply ih (h.walk hc.2 hplain)
      intro y hy
      obtain ⟨r', he, hp⟩ := hrest y hy
      refine ⟨r', he, fun p h1 h2 h3 => hp p h1 h2 ?_⟩
      rwa [isIgnored_congr (walkAddWatches_ignoreDirs _)] at h3
    case isFalse => exact ih h hrest

/-- Every report of a departure that satisfies `P` is followed by a report of an arrival under the
same name. -/
def Followed (P : Wd → Name → Prop) : List Queued → Prop
  | [] => True
  | e :: q => (∀ wd kind n, e = .entry wd kind true n → kind.removes = true → P wd n →
      ∃ kind' : Kind, kind'.removes = false ∧ .entry wd kind' true n ∈ q) ∧ Followed P q

lemma Followed.append {P P' : Wd → Name → Prop} {q evs : List Queued} (h : Followed P q)
    (hP : ∀ {wd n kind d}, .entry wd kind d n ∈ q → P' wd n → P wd n ∨
      ∃ kind' : Kind, kind'.removes = false ∧ .entry wd kind' true n ∈ evs)
    (hevs : Followed P' evs) : Followed P' (q ++ evs) := by
  induction q with
  | nil => exact hevs
  | cons e q ih =>
    refine ⟨fun wd kind n he hk hp => ?_, ih h.2 fun hm => hP (List.mem_cons_of_mem _ hm)⟩
    rcases hP (by rw [he]; exact List.mem_cons_self) hp with hp | ⟨kind', hk', hm⟩
    · obtain ⟨kind', hk', hm⟩ := h.1 wd kind n he hk hp
      exact ⟨kind', hk', List.mem_append_left _ hm⟩
    · exact ⟨kind', hk', List.mem_append_right _ hm⟩

lemma Followed.mono {P P' : Wd → Name → Prop} {q : List Queued} (h : Followed P q)
    (hP : ∀ {wd n kind d}, .entry wd kind d n ∈ q → P' wd n → P wd n) : Followed P' q := by
  rw [← List.append_nil q]
  exact h.append (fun hm hp => .inl (hP hm hp)) trivial

lemma Followed.of_none {P : Wd → Name → Prop} {q : List Queued}
    (h : ∀ wd kind n, .entry wd kind true n ∈ q → kind.removes = true → ¬ P wd n) :
    Followed P q := by
  induction q with
  | nil => trivial
  | cons e q ih =>
    refine ⟨fun wd kind n he hk hp => ?_,
      ih fun wd kind n hm => h wd kind n (List.mem_cons_of_mem _ hm)⟩
    exact (h wd kind n (by rw [he]; exact List.mem_cons_self) hk hp).elim

namespace World

/-- The roots, as component lists. -/
def rootPaths (s : World) : List (List Name) :=
  s.backend.roots.filterMap fun x => (resolve x).filter fun r => render r = x

/-- A root that lies below no other root: nobody watches its parent. -/
def IsOuter (s : World) (r : List Name) : Prop :=
  s.IsRoot r ∧ ∀ r' ∈ s.rootPaths, r' <+: r → r' = r

/-- The report will be delivered for a path at or above `p`. -/
def About (s : World) (rm : Bool) (p : List Name) : Queued → Prop
  | .entry wd kind true n =>
    kind.removes = rm ∧ ∃ q ∈ p.inits, s.key q = some wd ∧ q ++ [n] <+: p
  | _ => False

/-- A departure (`rm`) or arrival at or above `p` is queued. -/
def Due (s : World) (rm : Bool) (p : List Name) : Prop :=
  ∃ e ∈ s.queue, s.About rm p e

/-- A watched directory has a subdirectory `n` now. -/
def Repopulated (s : World) (wd : Wd) (n : Name) : Prop :=
  ∃ y, s.backend.inotify.liveAt s.tree y = some wd ∧ s.tree.isDir (y ++ [n]) = true

/-- The path is covered, or will be when the queue has been handled. -/
def Settled (s : World) (p : List Name) : Prop :=
  (s.tree.isDir p = true ∧ s.Covered p) ∨ s.Due true p ∨
    (s.key p = none ∧ (s.tree.isDir p = true → s.Due false p))

/-- The outer roots that exist after a change are the directories they were before. -/
def RootsStay (s : World) (t : Tree) : Prop :=
  ∀ r ∈ s.rootPaths, s.IsOuter r → s.Shown r → t.isDir r = true → t.node r = s.tree.node r

/-- A rename that replaces a directory finds its path forgotten, or about to be. -/
def Replaces (s : World) : FsOp → Prop
  | .rename _ _ r m => s.tree.isDir (r ++ [m]) = true → (s.key (r ++ [m])).isSome →
      s.Due true (r ++ [m])
  | _ => True

/-- No directory to be registered below `path` is watched already, under some other path. -/
def Fresh (s : World) (path : Str) : Prop :=
  ∀ p ∈ s.tree.support, (∃ d ∈ resolve path, d <+: p) → s.tree.isDir p = true → s.Shown p →
    s.key p = none → s.backend.inotify.liveAt s.tree p = none

/-- A report may be handled when it changes nothing, or when it is delivered under the path it is
about. A departure must come from the watch that is registered for its directory, so that a
directory which is back is reported again. An arrival must lie below a registered path, and nothing
that it brings may be watched still: `add_watch` would return the old descriptor, which dies with
the old path. -/
def CleanReport (s : World) : Queued → Prop
  | .entry wd kind true n => ∀ x ∈ s.backend.inotify.path wd,
      let path := normalizePath (join x n.val)
      s.backend.isIgnored path = true ∨
        if kind.removes then
          (∀ k ∈ s.backend.watches.keys, atOrUnder path k = false) ∨
            (path = join x n.val ∧ s.backend.watches.lookup x = some wd)
        else
          isdir s.tree path = false ∨
            (path = join x n.val ∧ x ∈ s.backend.watches ∧ s.Fresh path)
  | .entry _ _ false _ => True
  | .overflow => False

/-- The steps that keep the backend able to catch up. A change of the file system leaves only plain
directory names below the roots, brings back no outer root, and replaces no directory that is
registered for good; reports are handled when `CleanReport` holds. -/
def Clean (s : World) : Act → Prop
  | .op o => ∀ t' ∈ o.run s.tree, s.PlainDirs t' ∧ s.RootsStay t' ∧ s.Replaces o
  | .handle => ∀ e ∈ s.queue.head?, s.CleanReport e
  | _ => False

/-- What holds while the backend lags behind. -/
structure Inv (s : World) : Prop where
  reg : Registered s.backend
  form : ∀ {k}, k ∈ s.backend.watches → ∃ p, k = render p ∧ s.Wanted p ∧ Plain p
  above : ∀ {p q r}, (s.key p).isSome → s.IsRoot r → r <+: q → q <+: p → (s.key q).isSome
  old : ∀ {wd kind d n}, .entry wd kind d n ∈ s.queue → wd < s.backend.inotify.next
  plain : s.PlainDirs s.tree
  follow : Followed s.Repopulated s.queue
  cover : ∀ {p r}, s.IsOuter r → s.tree.isDir r = true → r <+: p → s.Shown p → s.Settled p

variable {s s' : World}

lemma mem_rootPaths {r : List Name} : r ∈ s.rootPaths ↔ s.IsRoot r := by
  simp only [rootPaths, List.mem_filterMap, Option.filter_eq_some_iff, decide_eq_true_eq, IsRoot]
  constructor
  · rintro ⟨x, hx, -, rfl⟩
    exact hx
  · intro h
    exact ⟨_, h, resolve_render r, rfl⟩

/-- A path below a root lies below an outer one. -/
lemma exists_outer {p : List Name} (h : ∃ r, r <+: p ∧ s.IsRoot r) :
    ∃ r, r <+: p ∧ s.IsOuter r := by
  obtain ⟨r, hrp, hr⟩ := h
  induction hn : r.length using Nat.strong_induction_on generalizing r with
  | _ n ih =>
    by_cases hout : ∀ r' ∈ s.rootPaths, r' <+: r → r' = r
    · exact ⟨r, hrp, hr, hout⟩
    · simp only [not_forall] at hout
      obtain ⟨r', hr', hpre, hne⟩ := hout
      have hlt : r'.length < n := by
        rw [← hn]
        exact lt_of_le_of_ne hpre.length_le fun e => hne (hpre.eq_of_length e)
      exact ih _ hlt r' (hpre.trans hrp) (mem_rootPaths.1 hr') rfl

lemma due_iff {rm : Bool} {p : List Name} : s.Due rm p ↔ ∃ wd kind n q,
    .entry wd kind true n ∈ s.queue ∧ kind.removes = rm ∧ s.key q = some wd ∧ q ++ [n] <+: p := by
  constructor
  · rintro ⟨e, he, ha⟩
    cases e with
    | overflow => cases ha
    | entry wd kind d n =>
      cases d with
      | false => cases ha
      | true =>
        obtain ⟨hk, q, -, hq, hp⟩ := ha
        exact ⟨wd, kind, n, q, he, hk, hq, hp⟩
  · rintro ⟨wd, kind, n, q, he, hk, hq, hp⟩
    exact ⟨_, he, hk, q, (List.mem_inits _ _).2 ((List.prefix_append _ _).trans hp), hq, hp⟩

lemma Due.mono {rm : Bool} {p q : List Name} (h : s.Due rm p) (hpq : p <+: q) : s.Due rm q := by
  obtain ⟨wd, kind, n, x, he, hk, hx, hp⟩ := due_iff.1 h
  exact due_iff.2 ⟨wd, kind, n, x, he, hk, hx, hp.trans hpq⟩

/-- A report stays due while its entry of the dict stays. -/
lemma Due.keep {rm : Bool} {p : List Name} (h : s.Due rm p)
    (hq : ∀ e ∈ s.queue, s.About rm p e → e ∈ s'.queue)
    (hk : ∀ {q wd}, q <+: p → q ≠ p → s.key q = some wd → s'.key q = some wd) : s'.Due rm p := by
  obtain ⟨wd, kind, n, x, he, hkind, hx, hp⟩ := due_iff.1 h
  have hne : x ≠ p := by
    rintro rfl
    have hl := hp.length_le
    rw [List.length_append, List.length_singleton] at hl
    omega
  refine due_iff.2 ⟨wd, kind, n, x, hq _ he ?_, hkind, hk ?_ hne hx, hp⟩
  · exact ⟨hkind, x, (List.mem_inits _ _).2 ((List.prefix_append _ _).trans hp), hx, hp⟩
  · exact (List.prefix_append _ _).trans hp

/-- The configuration is the same. -/
def SameConfig (s s' : World) : Prop :=
  s'.backend.ignoreDirs = s.backend.ignoreDirs ∧ s'.backend.roots = s.backend.roots

namespace SameConfig
variable (h : SameConfig s s')
include h

lemma shown {p : List Name} : s'.Shown p ↔ s.Shown p := by
  unfold Shown
  rw [isIgnored_congr h.1]

lemma isRoot {r : List Name} : s'.IsRoot r ↔ s.IsRoot r := by
  unfold IsRoot
  rw [h.2]

lemma isOuter {r : List Name} : s'.IsOuter r ↔ s.IsOuter r := by
  unfold IsOuter
  simp only [mem_rootPaths, h.isRoot]

lemma wanted {p : List Name} : s'.Wanted p ↔ s.Wanted p := by
  unfold Wanted
  simp only [h.shown, h.isRoot]

lemma plainDirs {t : Tree} : s'.PlainDirs t ↔ s.PlainDirs t := by
  unfold PlainDirs
  simp only [h.wanted]

end SameConfig

/-- A registered path is one to be watched. -/
lemma Inv.key_form (inv : Inv s) {p : List Name} (h : (s.key p).isSome) : s.Wanted p ∧ Plain p := by
  obtain ⟨p', he, hw, hp⟩ := inv.form (AList.lookup_isSome.1 h)
  obtain rfl := render_injective he
  exact ⟨hw, hp⟩

lemma Wanted.below {p q : List Name} (h : s.Wanted p) (hpq : p <+: q) (hq : s.Shown q) :
    s.Wanted q := by
  obtain ⟨-, r, hrp, hr⟩ := h
  exact ⟨hq, r, hrp.trans hpq, hr⟩

lemma Shown.above {p q : List Name} (h : s.Shown q) (hpq : p <+: q) : s.Shown p :=
  shown_above hpq h

/-- Whatever lies between a registered directory and a registered descendant is registered. -/
lemma Inv.between (inv : Inv s) {x q p : List Name} (hx : (s.key x).isSome) (hp : (s.key p).isSome)
    (hxq : x <+: q) (hqp : q <+: p) : (s.key q).isSome := by
  obtain ⟨-, r, hrx, hr⟩ := (inv.key_form hx).1
  exact inv.above hp hr (hrx.trans hxq) hqp

/-- An outer root above a path below `x` is above `x`. -/
lemma IsOuter.above {r x p : List Name} (hout : s.IsOuter r) (hx : s.Wanted x) (hxp : x <+: p)
    (hrp : r <+: p) : r <+: x := by
  obtain ⟨-, r0, hr0x, hr0⟩ := hx
  rcases List.prefix_or_prefix_of_prefix hrp hxp with h | h
  · exact h
  · rw [← hout.2 r0 (mem_rootPaths.2 hr0) (hr0x.trans h)]
    exact hr0x

/-- One path for each descriptor. -/
lemma Inv.key_inj (inv : Inv s) {p q : List Name} {wd : Wd} (hp : s.key p = some wd)
    (hq : s.key q = some wd) : p = q :=
  render_injective (inv.reg.one hp hq)

/-- A report that changes nothing leaves the queue: it was not due for anything to be watched. -/
lemma Inv.pop (inv : Inv s) {e : Queued} {q : List Queued} (hq : s.queue = e :: q)
    (hidle : ∀ wd kind n x, e = .entry wd kind true n → s.key x = some wd → s.Shown (x ++ [n]) →
      Plain (x ++ [n]) → kind.removes = false ∧ s.tree.isDir (x ++ [n]) = false) :
    Inv { s with queue := q } where
  reg := inv.reg
  form := inv.form
  above := inv.above
  old := fun h => inv.old (by rw [hq]; exact List.mem_cons_of_mem _ h)
  plain := inv.plain
  follow := by
    have h := inv.follow
    rw [hq] at h
    exact h.2
  cover := by
    intro p r hout hr hrp hsh
    have hdue : ∀ {rm}, s.Due rm p → Due { s with queue := q } rm p ∨
        ∃ wd kind n x, e = .entry wd kind true n ∧ kind.removes = rm ∧ s.key x = some wd ∧
          x ++ [n] <+: p := by
      intro rm h
      obtain ⟨wd, kind, n, x, he, hk, hx, hp⟩ := due_iff.1 h
      rw [hq] at he
      rcases List.mem_cons.1 he with he | he
      · exact .inr ⟨wd, kind, n, x, he.symm, hk, hx, hp⟩
      · exact .inl (due_iff.2 ⟨wd, kind, n, x, he, hk, hx, hp⟩)
    -- a report for a path that is not plain cannot concern a directory to be watched
    have hplain : ∀ {x n wd}, s.key x = some wd → x ++ [n] <+: p →
        s.tree.isDir p = true ∨ (s.key p).isSome → Plain (x ++ [n]) := by
      intro x n wd hx hp hor
      have hkx : (s.key x).isSome := by rw [hx]; rfl
      rcases hor with hdir | hkp
      · have hw := (inv.key_form hkx).1.below (List.prefix_append _ _) (hsh.above hp)
        exact inv.plain _ (FileTree.isDir_above' hdir hp) hw
      · exact (inv.key_form (inv.between hkx hkp (List.prefix_append _ _) hp)).2
    rcases inv.cover hout hr hrp hsh with h | h | ⟨hnone, h⟩
    · exact .inl h
    · rcases hdue h with h | ⟨wd, kind, n, x, he, hk, hx, hp⟩
      · exact .inr (.inl h)
      · have hnot : ¬ Plain (x ++ [n]) := by
          intro hpl
          have hk' := (hidle wd kind n x he hx (hsh.above hp) hpl).1
          rw [hk] at hk'
          cases hk'
        refine .inr (.inr ⟨?_, fun hdir => (hnot (hplain hx hp (.inl hdir))).elim⟩)
        cases hkp : s.key p with
        | none => exact hkp
        | some w => exact (hnot (hplain hx hp (.inr (by rw [hkp]; rfl)))).elim
    · refine .inr (.inr ⟨hnone, fun hdir => ?_⟩)
      rcases hdue (h hdir) with h | ⟨wd, kind, n, x, he, hk, hx, hp⟩
      · exact h
      · have hno := (hidle wd kind n x he hx (hsh.above hp) (hplain hx hp (.inl hdir))).2
        rw [FileTree.isDir_above' hdir hp] at hno
        cases hno

/-- What the removal of the watches of a directory leaves: nothing is registered at `d` or below. -/
structure Departed (s s' : World) (d : List Name) : Prop where
  ne : d ≠ []
  cfg : SameConfig s s'
  tree : s'.tree = s.tree
  key : ∀ p, s'.key p = if d <+: p then none else s.key p
  live : ∀ {i w}, s'.backend.inotify.live i = some w ↔ s.backend.inotify.live i = some w ∧
    ∀ k, atOrUnder (render d) k = true → s.backend.watches.lookup k ≠ some w

lemma departed {d : List Name} (hd : d ≠ []) (s : World) (q : List Queued) :
    Departed s { s with backend := s.backend.removeWatchTree (render d), queue := q } d where
  ne := hd
  cfg := ⟨removeWatchTree_ignoreDirs _, removeWatchTree_roots _⟩
  tree := rfl
  key := by
    intro p
    rw [key, lookup_removeWatchTree]
    by_cases hp : d <+: p
    · rw [if_pos hp, if_pos ((atOrUnder_render hd p).2 hp)]
    · rw [if_neg hp, if_neg (mt (atOrUnder_render hd p).1 hp), key]
  live := live_removeWatchTree

namespace Departed
variable {wd : Wd} {kind : Kind} {n : Name} {x d p : List Name}

lemma key_of_not (h : Departed s s' d) (hp : ¬ d <+: p) : s'.key p = s.key p := by
  rw [h.key, if_neg hp]

lemma key_below (h : Departed s s' d) (hp : d <+: p) : s'.key p = none := by
  rw [h.key, if_pos hp]

/-- A directory whose watch is live still was watched before. -/
lemma liveAt (h : Departed s s' d) (hl : s'.backend.inotify.liveAt s'.tree p = some wd) :
    s.backend.inotify.liveAt s.tree p = some wd := by
  obtain ⟨nd, hnd, hl⟩ := Kernel.liveAt_iff.1 hl
  rw [h.tree] at hnd
  exact Kernel.liveAt_iff.2 ⟨nd, hnd, (h.live.1 hl).1⟩

/-- What is registered elsewhere is covered as before. -/
lemma covered (h : Departed s s' d) (inv : Inv s) (hdp : ¬ d <+: p) (hc : s.Covered p) :
    s'.Covered p := by
  obtain ⟨w, hl, hk⟩ := hc
  obtain ⟨nd, hnd, hl⟩ := Kernel.liveAt_iff.1 hl
  refine ⟨w, Kernel.liveAt_iff.2 ⟨nd, by rw [h.tree]; exact hnd, ?_⟩, (h.key_of_not hdp).trans hk⟩
  refine h.live.2 ⟨hl, fun k hk' hkw => ?_⟩
  -- the descriptor has one path, and that is not removed
  rw [inv.reg.one hkw hk] at hk'
  exact hdp ((atOrUnder_render h.ne p).1 hk')

section Due
variable (h : Departed s s' d) (inv : Inv s) (hq : s.queue = .entry wd kind true n :: s'.queue)
  (hx : s.key x = some wd) (hd : x ++ [n] = d)
include h inv hq hx hd

/-- The report that was handled is about what is forgotten, so that the others stay due. -/
lemma due {rm : Bool} (hdp : ¬ d <+: p) (hdue : s.Due rm p) : s'.Due rm p := by
  refine hdue.keep (fun e he ha => ?_) fun {y w} hy _ hyk => ?_
  · rw [hq] at he
    apply (List.mem_cons.1 he).resolve_left
    rintro rfl
    obtain ⟨-, y, -, hyk, hyp⟩ := ha
    obtain rfl := inv.key_inj hyk hx
    rw [hd] at hyp
    exact hdp hyp
  · rw [h.key_of_not fun hdy => hdp (hdy.trans hy)]
    exact hyk

/-- Where a directory is back, a later report will bring it back to the dict. -/
lemma due_below (hkind : kind.removes = true) {r : List Name} (hout : s.IsOuter r)
    (hr : s.tree.isDir r = true) (hrp : r <+: p) (hsh : s.Shown p) (hdp : d <+: p)
    (hdir : s.tree.isDir p = true) : s'.Due true p ∨ s'.Due false p := by
  have hxd : x <+: d := by
    rw [← hd]
    exact List.prefix_append _ _
  have hdx : ¬ d <+: x := by
    intro hdx
    have hl := hdx.length_le
    rw [← hd, List.length_append, List.length_singleton] at hl
    omega
  have hxp := hxd.trans hdp
  have hrx := hout.above (inv.key_form (by rw [hx]; rfl)).1 hxp hrp
  -- the parent is registered: it is covered, or its own departure is due
  rcases inv.cover hout hr hrx (hsh.above hxp) with ⟨-, w, hlive, hk⟩ | hdue | ⟨hnone, -⟩
  · rw [hx] at hk
    cases hk
    have hfollow := inv.follow
    rw [hq] at hfollow
    have hchild : s.tree.isDir (x ++ [n]) = true := by
      rw [hd]
      exact FileTree.isDir_above' hdir hdp
    obtain ⟨kind', hk', hm⟩ := hfollow.1 wd kind n rfl hkind ⟨x, hlive, hchild⟩
    refine .inr (due_iff.2 ⟨wd, kind', n, x, hm, hk', ?_, by rw [hd]; exact hdp⟩)
    exact (h.key_of_not hdx).trans hx
  · exact .inl ((h.due inv hq hx hd hdx hdue).mono hxp)
  · rw [hx] at hnone
    cases hnone

lemma settled (hkind : kind.removes = true) {r : List Name} (hout : s.IsOuter r)
    (hr : s.tree.isDir r = true) (hrp : r <+: p) (hsh : s.Shown p) : s'.Settled p := by
  by_cases hdp : d <+: p
  · by_cases hdir : s.tree.isDir p = true
    · rcases h.due_below inv hq hx hd hkind hout hr hrp hsh hdp hdir with hdue | hdue
      · exact .inr (.inl hdue)
      · exact .inr (.inr ⟨h.key_below hdp, fun _ => hdue⟩)
    · refine .inr (.inr ⟨h.key_below hdp, fun hdir' => ?_⟩)
      rw [h.tree] at hdir'
      exact (hdir hdir').elim
  · rcases inv.cover hout hr hrp hsh with ⟨hdir, hc⟩ | hdue | ⟨hnone, hdue⟩
    · exact .inl ⟨by rw [h.tree]; exact hdir, h.covered inv hdp hc⟩
    · exact .inr (.inl (h.due inv hq hx hd hdp hdue))
    · refine .inr (.inr ⟨(h.key_of_not hdp).trans hnone, fun hdir => ?_⟩)
      rw [h.tree] at hdir
      exact h.due inv hq hx hd hdp (hdue hdir)

end Due
end Departed

/-- The path of a departed name is forgotten, with everything below it. -/
lemma Inv.departure (inv : Inv s) {wd : Wd} {kind : Kind} {n : Name} {q : List Queued}
    {x : List Name} (hq : s.queue = .entry wd kind true n :: q) (hkind : kind.removes = true)
    (hx : s.key x = some wd) :
    Inv { s with backend := s.backend.removeWatchTree (render (x ++ [n])), queue := q } := by
  generalize hd : x ++ [n] = d
  have hne : d ≠ [] := by
    rw [← hd]
    simp
  have h := departed hne s q
  have hmem : ∀ {k w}, (s.backend.removeWatchTree (render d)).watches.lookup k = some w →
      s.backend.watches.lookup k = some w := by
    intro k w hk
    rw [lookup_removeWatchTree] at hk
    split at hk
    · cases hk
    · exact hk
  refine
    { reg := ⟨inv.reg.numbered.removeWatchTree _, fun hk hk' => inv.reg.one (hmem hk) (hmem hk'),
        fun hk => ?_⟩
      form := fun hk => ?_
      above := fun hp hr hrq hqp => ?_
      old := fun he => ?_
      plain := h.cfg.plainDirs.2 inv.plain
      follow := ?_
      cover := fun hout hr hrp hsh =>
        h.settled inv hq hx hd hkind (h.cfg.isOuter.1 hout) hr hrp (h.cfg.shown.1 hsh) }
  · rw [removeWatchTree_path]
    exact inv.reg.path (hmem hk)
  · obtain ⟨w, hw⟩ := Option.isSome_iff_exists.1 (AList.lookup_isSome.2 hk)
    obtain ⟨p, he, hwant, hpl⟩ := inv.form (AList.lookup_isSome.1 (by rw [hmem hw]; rfl))
    exact ⟨p, he, h.cfg.wanted.2 hwant, hpl⟩
  · rw [h.key] at hp ⊢
    split at hp
    · cases hp
    · next hdp =>
      rw [if_neg fun hdq => hdp (hdq.trans hqp)]
      exact inv.above hp (h.cfg.isRoot.1 hr) hrq hqp
  · rw [removeWatchTree_next]
    exact inv.old (by rw [hq]; exact List.mem_cons_of_mem _ he)
  · have hfollow := inv.follow
    rw [hq] at hfollow
    refine hfollow.2.mono fun _ hp => ?_
    obtain ⟨y, hy, hc⟩ := hp
    exact ⟨y, h.liveAt hy, hc⟩

/-- What the walk of an arrived directory leaves: the directories found at `d` or below are
registered, and nothing else is new. -/
structure Arrived (s s' : World) (d : List Name) : Prop where
  grows : Grows s.backend s'.backend
  tree : s'.tree = s.tree
  found : ∀ {p}, d <+: p → s.tree.isDir p = true → s.Shown p → (s'.key p).isSome
  only : ∀ {k}, s.backend.watches.lookup k = none → k ∈ s'.backend.watches →
    ∃ p, k = render p ∧ d <+: p ∧ s.tree.isDir p = true ∧ s.Shown p ∧ s'.Covered p

lemma arrived {d : List Name} (q : List Queued) (hshown : s.Shown d)
    (hplain : ∀ p, d <+: p → s.tree.isDir p = true → s.backend.isIgnored (render p) = false →
      Plain p) :
    Arrived s { s with backend := (s.backend.walkAddWatches s.tree (render d)).1, queue := q } d where
  grows := walkAddWatches_grows _ _
  tree := rfl
  found := by
    intro p hdp hdir hp
    obtain ⟨i, hi⟩ := FileTree.isDir_iff.1 hdir
    apply AList.lookup_isSome.2
    refine mem_walkAddWatches.2 (.inr ⟨?_, ?_⟩)
    · exact (mem_attached_render hshown hplain).2 ⟨p, hdp, hdir, hp, rfl⟩
    · rw [target_render, hi]
      rfl
  only := by
    intro k hnone hk
    obtain ⟨ha, w, nd, hnd, hw, hl⟩ := walkAddWatches_new hnone hk
    obtain ⟨p, hdp, hdir, hp, rfl⟩ := (mem_attached_render hshown hplain).1 ha
    rw [target_render] at hnd
    exact ⟨p, rfl, hdp, hdir, hp, w, Kernel.liveAt_iff.2 ⟨nd, hnd, hl⟩, hw⟩

namespace Arrived
variable {wd : Wd} {n : Name} {x d p : List Name}

lemma cfg (h : Arrived s s' d) : SameConfig s s' :=
  ⟨h.grows.ignoreDirs, h.grows.roots⟩

lemma key_kept (h : Arrived s s' d) (hp : (s.key p).isSome) : (s'.key p).isSome := by
  obtain ⟨w, hw⟩ := Option.isSome_iff_exists.1 hp
  have hw' : s'.key p = some w := h.grows.lookup hw
  rw [hw']
  rfl

/-- A new entry of the dict is below `d`, and is covered. -/
lemma key_new (h : Arrived s s' d) (hnone : s.key p = none) (hsome : (s'.key p).isSome) :
    d <+: p ∧ s.tree.isDir p = true ∧ s.Shown p ∧ s'.Covered p := by
  obtain ⟨p', he, hp'⟩ := h.only hnone (AList.lookup_isSome.1 hsome)
  obtain rfl := render_injective he
  exact hp'

lemma covered (h : Arrived s s' d) (hc : s.Covered p) : s'.Covered p := by
  obtain ⟨w, hl, hk⟩ := hc
  obtain ⟨nd, hnd, hl⟩ := Kernel.liveAt_iff.1 hl
  exact ⟨w, Kernel.liveAt_iff.2 ⟨nd, by rw [h.tree]; exact hnd, h.grows.live hl⟩, h.grows.lookup hk⟩

/-- A watch that is as old as the reports was live before. -/
lemma liveAt (h : Arrived s s' d) (hold : wd < s.backend.inotify.next)
    (hl : s'.backend.inotify.liveAt s'.tree p = some wd) :
    s.backend.inotify.liveAt s.tree p = some wd := by
  obtain ⟨nd, hnd, hl⟩ := Kernel.liveAt_iff.1 hl
  rw [h.tree] at hnd
  exact Kernel.liveAt_iff.2 ⟨nd, hnd, (h.grows.fresh hl).resolve_right (Nat.not_le.2 hold)⟩

/-- Whatever lies between a root and a registered directory is registered. -/
lemma above (h : Arrived s s' d) (inv : Inv s) (hx : (s.key x).isSome) (hd : x ++ [n] = d)
    {r y : List Name} (hp : (s'.key p).isSome) (hr : s.IsRoot r) (hrq : r <+: y) (hqp : y <+: p) :
    (s'.key y).isSome := by
  cases hkp : s.key p with
  | some w => exact h.key_kept (inv.above (by rw [hkp]; rfl) hr hrq hqp)
  | none =>
    obtain ⟨hdp, hdir, hsp, -⟩ := h.key_new hkp hp
    rcases List.prefix_or_prefix_of_prefix hdp hqp with hdy | hyd
    · exact h.found hdy (FileTree.isDir_above' hdir hqp) (hsp.above hqp)
    · -- above `d` come its parent, which was registered, and what is above that
      rw [← hd] at hyd
      rcases List.prefix_concat_iff.1 hyd with he | hyx
      · rw [hd] at he
        rw [he]
        exact h.found List.prefix_rfl (FileTree.isDir_above' hdir hdp) (hsp.above hdp)
      · exact h.key_kept (inv.above hx hr hrq hyx)

section Due
variable {kind : Kind} (h : Arrived s s' d) (inv : Inv s)
  (hq : s.queue = .entry wd kind true n :: s'.queue) (hkind : kind.removes = false)
  (hpath : s.backend.inotify.path wd = some (render x)) (hd : x ++ [n] = d)
include h inv hq hkind hpath hd

/-- The report that was handled is an arrival of `d`, so that the others stay due. -/
lemma due {rm : Bool} (hnot : rm = false → ¬ d <+: p) (hdue : s.Due rm p) : s'.Due rm p := by
  refine hdue.keep (fun e he ha => ?_) fun _ _ hk => h.grows.lookup hk
  rw [hq] at he
  apply (List.mem_cons.1 he).resolve_left
  rintro rfl
  -- the reading library knows the report's descriptor as `x`
  obtain ⟨hk, y, -, hyk, hyp⟩ := ha
  have hyx := inv.reg.path hyk
  rw [hpath, Option.some.injEq] at hyx
  obtain rfl := render_injective hyx
  rw [hd] at hyp
  exact hnot (hk.symm.trans hkind) hyp

lemma settled {r : List Name} (hout : s.IsOuter r) (hr : s.tree.isDir r = true) (hrp : r <+: p)
    (hsh : s.Shown p) : s'.Settled p := by
  rcases inv.cover hout hr hrp hsh with ⟨hdir, hc⟩ | hdue | ⟨hnone, hdue⟩
  · exact .inl ⟨by rw [h.tree]; exact hdir, h.covered hc⟩
  · exact .inr (.inl (h.due inv hq hkind hpath hd (fun e => by cases e) hdue))
  · cases hk : s'.key p with
    | some w =>
      obtain ⟨-, hdir, -, hc⟩ := h.key_new hnone (by rw [hk]; rfl)
      exact .inl ⟨by rw [h.tree]; exact hdir, hc⟩
    | none =>
      refine .inr (.inr ⟨hk, fun hdir => ?_⟩)
      rw [h.tree] at hdir
      refine h.due inv hq hkind hpath hd (fun _ hdp => ?_) (hdue hdir)
      have hsome := h.found hdp hdir hsh
      rw [hk] at hsome
      cases hsome

end Due
end Arrived

/-- A directory that has arrived below a registered path is attached with its subtree. -/
lemma Inv.arrival (inv : Inv s) {wd : Wd} {kind : Kind} {n : Name} {q : List Queued}
    {x : List Name} (hq : s.queue = .entry wd kind true n :: q) (hkind : kind.removes = false)
    (hpath : s.backend.inotify.path wd = some (render x)) (hx : (s.key x).isSome)
    (hshown : s.Shown (x ++ [n])) (hfresh : Unwatched s.tree s.backend (x ++ [n])) :
    Inv { s with
      backend := (s.backend.walkAddWatches s.tree (render (x ++ [n]))).1
      queue := q } := by
  generalize hd : x ++ [n] = d at hshown hfresh
  have hwant : ∀ {p}, d <+: p → s.Shown p → s.Wanted p := fun hdp hp =>
    (inv.key_form hx).1.below ((hd ▸ List.prefix_append _ _ : x <+: d).trans hdp) hp
  have hplain : ∀ p, d <+: p → s.tree.isDir p = true → s.backend.isIgnored (render p) = false →
      Plain p := fun p hdp hdir hp => inv.plain p hdir (hwant hdp hp)
  have h := arrived q hshown hplain
  have hqueue : ∀ {wd kind d n}, .entry wd kind d n ∈ q → wd < s.backend.inotify.next :=
    fun hm => inv.old (by rw [hq]; exact List.mem_cons_of_mem _ hm)
  refine
    { reg := inv.reg.walk hshown hplain hfresh
      form := fun {k} hk => ?_
      above := fun hp hr hrq hqp => h.above inv hx hd hp (h.cfg.isRoot.1 hr) hrq hqp
      old := fun hm => (hqueue hm).trans_le h.grows.next
      plain := h.cfg.plainDirs.2 inv.plain
      follow := ?_
      cover := fun hout hr hrp hsh =>
        h.settled inv hq hkind hpath hd (h.cfg.isOuter.1 hout) hr hrp (h.cfg.shown.1 hsh) }
  · cases hk0 : s.backend.watches.lookup k with
    | some w =>
      obtain ⟨p, he, hw, hpl⟩ := inv.form (AList.lookup_isSome.1 (by rw [hk0]; rfl))
      exact ⟨p, he, h.cfg.wanted.2 hw, hpl⟩
    | none =>
      obtain ⟨p, rfl, hdp, hdir, hp, -⟩ := h.only hk0 hk
      exact ⟨p, rfl, h.cfg.wanted.2 (hwant hdp hp), hplain p hdp hdir hp⟩
  · have hfollow := inv.follow
    rw [hq] at hfollow
    refine hfollow.2.mono fun hm hp => ?_
    obtain ⟨y, hy, hc⟩ := hp
    exact ⟨y, h.liveAt (hqueue hm) hy, hc⟩

/-- The world after a process has changed the file system. -/
def changed (s : World) (o : FsOp) (t' : Tree) : World :=
  { tree := t'
    backend := { s.backend with inotify := o.kernel s.backend.inotify s.tree }
    queue := s.queue ++ o.events s.backend.inotify s.tree }

section Changed
variable {o : FsOp} {t' : Tree} {x p r : List Name} {n : Name} {rm : Bool}

lemma Due.changed (h : s.Due rm p) : (s.changed o t').Due rm p :=
  h.keep (fun _ he _ => List.mem_append_left _ he) fun _ _ hk => hk

/-- A change reported by a covered directory is due. -/
lemma Due.told (ht : o.Tells s.tree x rm n) (hc : s.Covered x) (hp : x ++ [n] <+: p) :
    (s.changed o t').Due rm p := by
  obtain ⟨w, hl, hk⟩ := hc
  obtain ⟨kind, hkind, hm⟩ := ht _ w hl
  exact due_iff.2 ⟨w, kind, n, x, List.mem_append_right _ hm, hkind, hk, hp⟩

/-- What has not changed is settled as before. -/
lemma Settled.changed_same (h : o.run s.tree = some t') (hsame : t'.node p = s.tree.node p)
    (hp : s.Settled p) : (s.changed o t').Settled p := by
  have hdir : t'.isDir p = s.tree.isDir p := by rw [FileTree.isDir, hsame, FileTree.isDir]
  rcases hp with ⟨hpdir, w, hl, hk⟩ | hd | ⟨hnone, hd⟩
  · exact .inl ⟨hdir.trans hpdir, w, (FsOp.keeps_live h hsame).trans hl, hk⟩
  · exact .inr (.inl hd.changed)
  · exact .inr (.inr ⟨hnone, fun hpdir => (hd (hdir.symm.trans hpdir)).changed⟩)

/-- A changed name that is not above the root is below it. -/
lemma root_above (hrp : r <+: p) (hxp : x ++ [n] <+: p) (hnot : ¬ x ++ [n] <+: r) : r <+: x := by
  rcases List.prefix_or_prefix_of_prefix hrp hxp with hrx | hxr
  · rcases List.prefix_concat_iff.1 hrx with he | hrx
    · exact (hnot (by rw [he])).elim
    · exact hrx
  · exact (hnot hxr).elim

section Outer
variable (inv : Inv s) (h : o.run s.tree = some t') (hout : s.IsOuter r) (hrp : r <+: p)
  (hsh : s.Shown p) (hsame : t'.node r = s.tree.node r)
include inv h hout hrp hsh hsame

/-- The directory above one that appears reports it, or will be reported itself. -/
lemma settled_appears (hr : t'.isDir r = true) (hrep : s.Replaces o) (hdir : t'.isDir p = true)
    (hnew : t'.node p ≠ s.tree.node p) : (s.changed o t').Settled p := by
  have hr0 : s.tree.isDir r = true := by
    rw [FileTree.isDir, ← hsame]
    exact hr
  obtain ⟨x, n, hxp, hxdir, htell, hmoved, hrepl⟩ := FsOp.appears h hdir hnew
  have hrx := root_above hrp hxp fun hc => hmoved r hc hr hsame
  have hxp' := (List.prefix_append x [n]).trans hxp
  cases hkp : s.key p with
  | none =>
    rcases inv.cover hout hr0 hrx (hsh.above hxp') with ⟨-, hc⟩ | hd | ⟨-, hd⟩
    · exact .inr (.inr ⟨hkp, fun _ => Due.told htell hc hxp⟩)
    · exact .inr (.inl (hd.mono hxp').changed)
    · exact .inr (.inr ⟨hkp, fun _ => ((hd hxdir).mono hxp').changed⟩)
  | some w =>
    -- the path has an entry already: a departure is due that will remove it
    rcases inv.cover hout hr0 hrp hsh with ⟨hpdir, -⟩ | hd | ⟨hnone, -⟩
    · obtain ⟨rfl, q', n', rfl⟩ := hrepl hpdir
      exact .inr (.inl (hrep hpdir (by rw [hkp]; rfl)).changed)
    · exact .inr (.inl hd.changed)
    · rw [hkp] at hnone
      cases hnone

/-- The directory above one that vanishes reports it, or will be reported itself. -/
lemma settled_vanishes (hr : s.tree.isDir r = true) (hgone : t'.isDir p = false) :
    (s.changed o t').Settled p := by
  rcases inv.cover hout hr hrp hsh with ⟨hpdir, w, -, hk⟩ | hd | ⟨hnone, -⟩
  · obtain ⟨x, n, hxp, htell, hmoved⟩ := FsOp.vanishes h hpdir hgone
    have hrx := root_above hrp hxp fun hc => hmoved r hc hr hsame
    have hxp' := (List.prefix_append x [n]).trans hxp
    have hkx : (s.key x).isSome := inv.above (by rw [hk]; rfl) hout.1 hrx hxp'
    rcases inv.cover hout hr hrx (hsh.above hxp') with ⟨-, hc⟩ | hd | ⟨hnone, -⟩
    · exact .inr (.inl (Due.told htell hc hxp))
    · exact .inr (.inl (hd.mono hxp').changed)
    · rw [hnone] at hkx
      cases hkx
  · exact .inr (.inl hd.changed)
  · refine .inr (.inr ⟨hnone, fun hdir => ?_⟩)
    have hdir : t'.isDir p = true := hdir
    rw [hgone] at hdir
    cases hdir

end Outer
end Changed

/-- A process changes the file system. -/
lemma Inv.op (inv : Inv s) {o : FsOp} {t' : Tree} (h : o.run s.tree = some t')
    (hplain : s.PlainDirs t') (hroots : s.RootsStay t') (hrep : s.Replaces o) :
    Inv (s.changed o t') where
  reg := ⟨inv.reg.numbered.op o, inv.reg.one,
    fun hk => (congrFun (op_path o _) _).trans (inv.reg.path hk)⟩
  form := inv.form
  above := inv.above
  old := by
    intro wd kind d n hm
    show wd < (o.kernel s.backend.inotify s.tree).next
    rw [op_next]
    rcases List.mem_append.1 hm with hm | hm
    · exact inv.old hm
    · obtain ⟨i, hi⟩ := FsOp.events_live hm
      exact inv.reg.numbered.live hi
  plain := hplain
  follow := by
    refine inv.follow.append (fun _ hp => ?_) (Followed.of_none fun wd kind n hm hk hp => ?_)
    · obtain ⟨y, hy, hc⟩ := hp
      exact FsOp.child h hy hc
    · obtain ⟨y, hy, hc⟩ := hp
      have hno := FsOp.departed h inv.reg.numbered.inode hk hm hy
      have hc : t'.isDir (y ++ [n]) = true := hc
      rw [hno] at hc
      cases hc
  cover := by
    intro p r hout hr hrp hsh
    -- the outer root has stayed in place
    have hsame := hroots r (mem_rootPaths.2 hout.1) hout (hsh.above hrp) hr
    have hr0 : s.tree.isDir r = true := by
      rw [FileTree.isDir, ← hsame]
      exact hr
    by_cases hpsame : t'.node p = s.tree.node p
    · exact (inv.cover hout hr0 hrp hsh).changed_same h hpsame
    · cases hdir : t'.isDir p with
      | true => exact settled_appears inv h hout hrp hsh hsame hr hrep hdir hpsame
      | false => exact settled_vanishes inv h hout hrp hsh hsame hr0 hdir

/-- The backend handles a report. -/
lemma Inv.handle (inv : Inv s) {e : Queued} {q : List Queued} (hq : s.queue = e :: q)
    (hg : s.CleanReport e) :
    Inv ⟨s.tree, (s.backend.handle s.tree (rawEvent s.backend.inotify e)).1, q⟩ := by
  cases e with
  | overflow => exact hg.elim
  | entry wd kind d n =>
    rw [handle_rawEvent_entry]
    cases hpath : s.backend.inotify.path wd with
    | none =>
      apply inv.pop hq
      intro wd' _ n' x he hk _ _
      cases he
      rw [inv.reg.path hk] at hpath
      cases hpath
    | some x =>
      simp only
      -- what a registered watch is delivered for
      have hdeliver : ∀ {y}, s.key y = some wd → Plain (y ++ [n]) →
          normalizePath (join x n.val) = render (y ++ [n]) := by
        intro y hy hpl
        have hxy := inv.reg.path hy
        rw [hpath, Option.some.injEq] at hxy
        rw [hxy, join_render]
        exact hpl
      split
      · next hskip =>
        apply inv.pop hq
        intro wd' kind' n' y he hk hsh hpl
        cases he
        rw [hdeliver hk hpl, Bool.or_eq_true, hsh] at hskip
        rcases hskip with h | h <;> cases h
      · next hskip =>
        rw [Bool.or_eq_true, not_or, Bool.not_eq_true, Bool.not_eq_true, Bool.not_eq_false'] at hskip
        obtain ⟨hshown, rfl⟩ := hskip
        have hguard := (hg x hpath).resolve_left (by rw [hshown]; exact Bool.false_ne_true)
        cases hkind : kind.removes with
        | true =>
          rw [hkind] at hguard
          by_cases hreg : ∃ y, s.key y = some wd ∧ Plain (y ++ [n])
          · obtain ⟨y, hy, hpl⟩ := hreg
            rw [hdeliver hy hpl]
            exact inv.departure hq hkind hy
          · rcases hguard with hnone | ⟨hjoin, hlook⟩
            · rw [if_pos rfl, removeWatchTree_of_none hnone]
              apply inv.pop hq
              intro wd' kind' n' y he hk _ hpl
              cases he
              exact (hreg ⟨y, hk, hpl⟩).elim
            · obtain ⟨y, rfl, -, -⟩ := inv.form (AList.lookup_isSome.1 (by rw [hlook]; rfl))
              rw [join_render] at hjoin
              exact (hreg ⟨y, hlook, hjoin⟩).elim
        | false =>
          rw [hkind] at hguard
          rw [if_neg Bool.false_ne_true]
          rcases hguard with hnodir | ⟨hjoin, hmem, hfresh⟩
          · rw [walkAddWatches_of_not_dir hnodir]
            apply inv.pop hq
            intro wd' kind' n' y he hk _ hpl
            cases he
            rw [hdeliver hk hpl, isdir_render] at hnodir
            exact ⟨hkind, hnodir⟩
          · obtain ⟨y, rfl, -, -⟩ := inv.form hmem
            rw [join_render] at hjoin
            rw [join_render, hjoin] at hshown hfresh ⊢
            apply inv.arrival hq hkind hpath (AList.lookup_isSome.2 hmem) hshown
            intro p hp hdir hsh hnone
            obtain ⟨i, hi⟩ := FileTree.isDir_iff.1 hdir
            exact hfresh p (s.tree.covers hi) ⟨_, resolve_render _, hp⟩ hdir hsh hnone

section Start
variable {t : Tree} {ign : List Str} {R : List (List Name)} {p : List Name}

/-- Roots that are plain are kept as they are. -/
lemma mem_newRoots_render (hR : ∀ r ∈ R, Plain r) {x : Str} (hx : x ∈ newRoots (R.map render)) :
    ∃ r, x = render r := by
  have hid : (R.map render).map normalizePath = R.map render := by
    rw [List.map_map]
    exact List.map_congr_left hR
  rw [newRoots, hid, List.mem_dedup] at hx
  obtain ⟨r, -, rfl⟩ := List.mem_map.1 hx
  exact ⟨r, rfl⟩

lemma shown_start : (start t ign R).Shown p ↔ (init ign).isIgnored (render p) = false := by
  have hign : (start t ign R).backend.ignoreDirs = (init ign).ignoreDirs := setRoots_ignoreDirs _
  rw [Shown, isIgnored_congr hign]

/-- Before the start all roots are new. -/
lemma newRoots_start :
    (newRoots (R.map render)).filter (· ∉ (init ign).roots) = newRoots (R.map render) :=
  List.filter_eq_self.2 fun x _ => by simp [init]

/-- The backend after the start: the roots are attached, and then stored. -/
lemma backend_start : (start t ign R).backend =
    { (newRoots (R.map render)).foldl (addRoot t) (init ign) with
      roots := newRoots (R.map render) } := by
  show { ((newRoots (R.map render)).filter (· ∉ (init ign).roots)).foldl (addRoot t) (init ign)
    with roots := newRoots (R.map render) } = _
  rw [newRoots_start]

section Plain
variable (hR : ∀ r ∈ R, Plain r) (hplain : (start t ign R).PlainDirs t)
include hR hplain

lemma current_start : Current t ((newRoots (R.map render)).foldl (addRoot t) (init ign)) := by
  refine Current.roots ⟨⟨?_, ?_, ?_⟩, ?_, ?_⟩ fun x hx => ?_
  · exact ⟨fun h => (by cases h), fun h => (by cases h), fun h => (by cases h)⟩
  · exact fun h => (by cases h)
  · exact fun h => (by cases h)
  · exact fun h => (by cases h)
  · exact fun h => (by cases h)
  · obtain ⟨r, rfl⟩ := mem_newRoots_render hR hx
    exact ⟨r, rfl, fun p hrp hdir hsh => hplain p hdir ⟨shown_start.2 hsh, r, hrp, hx⟩⟩

/-- The keys after the start are the directories to be watched. -/
lemma mem_start (k : Str) : k ∈ (start t ign R).backend.watches ↔
    ∃ p, k = render p ∧ t.isDir p = true ∧ (start t ign R).Wanted p := by
  have habs : ∀ x ∈ newRoots (R.map render), isabs x = true := by
    intro x hx
    obtain ⟨r, rfl⟩ := mem_newRoots_render hR hx
    exact isabs_render r
  have hcov := @mem_covered_render t ign (newRoots (R.map render)) fun x hx =>
    mem_newRoots_render hR hx
  have hset := mem_setRoots_of_plain (t := t) (b := init ign) habs (fun q hq => ?_) k
  · have hnil : k ∉ (init ign).watches := by simp [init]
    apply hset.trans
    rw [newRoots_start]
    simp only [hnil, false_and, false_or]
    rw [show (init ign).ignoreDirs = ign from rfl, hcov]
    simp only [Wanted, shown_start]
    rfl
  · obtain ⟨p, rfl, hdir, hsh, r, hrp, hr⟩ := hcov.1 hq
    exact hplain p hdir ⟨shown_start.2 hsh, r, hrp, hr⟩

lemma key_start : ((start t ign R).key p).isSome ↔ t.isDir p = true ∧ (start t ign R).Wanted p := by
  rw [key, AList.lookup_isSome, mem_start hR hplain]
  constructor
  · rintro ⟨p', he, h⟩
    rw [render_injective he]
    exact h
  · exact fun h => ⟨p, rfl, h⟩

lemma liveAt_start {wd : Wd} (h : (start t ign R).key p = some wd) :
    (start t ign R).backend.inotify.liveAt t p = some wd := by
  rw [key, backend_start] at h
  rw [backend_start]
  exact (current_start hR hplain).held h

/-- The start: everything is attached and nothing is queued. -/
lemma Inv.start : Inv (start t ign R) where
  reg := by
    have hreg := (current_start hR hplain).reg
    rw [backend_start]
    exact ⟨⟨hreg.numbered.key, hreg.numbered.live, hreg.numbered.inode⟩, hreg.one, hreg.path⟩
  form := by
    intro k hk
    obtain ⟨p, rfl, hdir, hw⟩ := (mem_start hR hplain k).1 hk
    exact ⟨p, rfl, hw, hplain p hdir hw⟩
  above := by
    intro p q r hp hr hrq hqp
    obtain ⟨hdir, hw⟩ := (key_start hR hplain).1 hp
    exact (key_start hR hplain).2
      ⟨FileTree.isDir_above' hdir hqp, hw.1.above hqp, _, hrq, hr⟩
  old := fun h => by cases h
  plain := hplain
  follow := trivial
  cover := by
    intro p r hout hr hrp hsh
    cases hk : (World.start t ign R).key p with
    | none =>
      refine .inr (.inr ⟨hk, fun hdir => ?_⟩)
      have hsome := (key_start hR hplain).2 ⟨hdir, hsh, r, hrp, hout.1⟩
      rw [hk] at hsome
      cases hsome
    | some wd =>
      have hdir := ((key_start hR hplain).1 (by rw [hk]; rfl)).1
      exact .inl ⟨hdir, wd, liveAt_start hR hplain hk, hk⟩

end Plain
end Start

/-- Each clean step keeps the invariant. -/
lemma Inv.step (inv : Inv s) {a : Act} (hg : s.Clean a) (hs : World.step s a = some s') :
    Inv s' := by
  cases a with
  | op o =>
    obtain ⟨t', ht, rfl⟩ := Option.map_eq_some_iff.1 hs
    obtain ⟨hplain, hroots, hrep⟩ := hg t' ht
    exact inv.op ht hplain hroots hrep
  | handle =>
    simp only [World.step] at hs
    split at hs
    · cases hs
    · next e q hq =>
      cases hs
      exact inv.handle hq (hg e (by rw [hq]; rfl))
  | setRoots roots => cases hg
  | lose i => cases hg
  | overflow => cases hg

instance (s : World) : DecidablePred s.Wanted := fun p =>
  decidable_of_iff (s.Shown p ∧ ∃ r ∈ p.inits, s.IsRoot r) <| by
    simp only [List.mem_inits]
    rfl

instance (s : World) (t : Tree) : Decidable (s.PlainDirs t) :=
  decidable_of_iff (∀ p ∈ t.support, t.isDir p = true → s.Wanted p → Plain p) <| by
    refine ⟨fun h p hdir => ?_, fun h p _ => h p⟩
    obtain ⟨i, hi⟩ := FileTree.isDir_iff.1 hdir
    exact h p (t.covers hi) hdir

instance (s : World) : DecidablePred s.IsOuter := fun r => by unfold IsOuter; infer_instance
instance (s : World) (t : Tree) : Decidable (s.RootsStay t) := by unfold RootsStay; infer_instance

instance (s : World) (rm : Bool) (p : List Name) : DecidablePred (s.About rm p) := fun e => by
  unfold About
  split <;> infer_instance

instance (s : World) (rm : Bool) (p : List Name) : Decidable (s.Due rm p) := by
  unfold Due
  infer_instance

instance (s : World) : DecidablePred s.Replaces := fun o => by
  unfold Replaces
  split <;> infer_instance

instance (s : World) (path : Str) : Decidable (s.Fresh path) := by unfold Fresh; infer_instance

instance (s : World) : DecidablePred s.CleanReport := fun e => by
  unfold CleanReport
  split <;> infer_instance

instance (s : World) (a : Act) : Decidable (s.Clean a) := by
  unfold Clean
  split <;> infer_instance

/-- In every run of clean steps, whenever no event is queued, every directory to be watched is
covered. -/
theorem coverage_converges {t : Tree} {ign : List Str} {R : List (List Name)}
    (hR : ∀ r ∈ R, Plain r) (hplain : (start t ign R).PlainDirs t)
    (h : Reach step Clean (start t ign R) s) (hq : s.queue = []) :
    ∀ p, s.tree.isDir p = true → s.Wanted p → s.Covered p := by
  have inv : Inv s := h.invariant (Inv.start hR hplain) fun hu hg hs => hu.step hg hs
  intro p hdir hw
  obtain ⟨r, hrp, hout⟩ := exists_outer hw.2
  -- nothing is due when nothing is queued
  have hdue : ∀ {rm}, ¬ s.Due rm p := by
    rintro rm ⟨e, he, -⟩
    rw [hq] at he
    cases he
  rcases inv.cover hout (FileTree.isDir_above' hdir hrp) hrp hw.1 with ⟨-, hc⟩ | hd | ⟨-, hd⟩
  · exact hc
  · exact (hdue hd).elim
  · exact (hdue (hd hdir)).elim

/-- A directory is renamed, another one is made in its place and filled, and the backend catches up
late. -/
theorem coverage_converges_rename :
    ∃ s, run (guarded step Clean) (start libraryTree [] [[name "m"]])
        [.op (.rename [name "m"] (name "s") [name "m"] (name "t")),
          .op (.make true [name "m"] (name "s")), .handle, .handle, .handle,
          .op (.make true [name "m", name "s"] (name "u")), .handle] = some s ∧
      ∀ p, s.tree.isDir p = true → s.Wanted p → s.Covered p := by
  have hrun : run (guarded step Clean) (start libraryTree [] [[name "m"]])
      [.op (.rename [name "m"] (name "s") [name "m"] (name "t")),
        .op (.make true [name "m"] (name "s")), .handle, .handle, .handle,
        .op (.make true [name "m", name "s"] (name "u")), .handle] = some _ := rfl
  exact ⟨_, hrun, coverage_converges (by decide) (by decide) (Reach.of_run hrun) rfl⟩

/-- The directories `/m/a` and `/m/b`. -/
def siblingsTree : Tree :=
  .ofList [(true, [], name "m"), (true, [name "m"], name "a"), (true, [name "m"], name "b")]

/-- A rename that replaces an empty directory: its entry is still in the dict when the report of the
arrival is handled, and is taken for granted. -/
theorem coverage_stale :
    ¬ ∀ (t : Tree) (ign : List Str) (R : List (List Name)) (acts : List Act) (s : World),
      (∀ r ∈ R, t.isDir r = true) → (∀ a ∈ acts, a = .handle ∨ ∃ o, a = .op o) →
      run step (start t ign R) acts = some s → s.queue = [] →
      ∀ p, s.tree.isDir p = true → s.Wanted p → s.Covered p := by
  intro h
  have hrun : run step (start siblingsTree [] [[name "m"]])
      [.op (.rename [name "m"] (name "a") [name "m"] (name "b")), .handle, .handle] = some _ := rfl
  obtain ⟨wd, hlive, -⟩ := h siblingsTree [] [[name "m"]] _ _ (by decide) (by simp) hrun rfl
    [name "m", name "b"] (by decide) (by decide)
  have hnone : (none : Option Wd) = some wd := hlive
  cases hnone

end World
end MediaScanMonitor
