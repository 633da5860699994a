import MediaScanMonitor.Lib.Transition
import MediaScanMonitor.Watcher.Roots

/-!
# The attach race

`_walk_add_watches` while another process creates entries below the directory it walks. `os.walk`
lists a directory, hands it to the loop body, and enters the subdirectories the body has left in the
list; between any two of these steps the environment may create. The walk is a machine with the
stack of directories still to be listed. Run without interruption it is `walkAddWatches`; under the
guard `Announced` every entry that exists in the end has been reported by the walk or by the kernel.
-/

namespace MediaScanMonitor
open Text PosixPath Os Inotify InotifyBackend Transition

/-- The state of one `_walk_add_watches(top)` and of its environment. -/
structure Attach where
  top : Str
  tree : Tree
  backend : InotifyBackend
  /-- Directories that `os.walk` has still to list. -/
  stack : List Str
  /-- The directory that is listed and not yet handled by the loop body. -/
  listed : Option Listing
  synthetic : List FsEvent
  /-- What the kernel has queued meanwhile. -/
  queue : List Queued

namespace Attach

inductive Act
  | create (dir : Bool) (q : List Name) (n : Name)
  | list
  | visit

def start (t : Tree) (b : InotifyBackend) (top : Str) : Attach :=
  ⟨top, t, b, [top], none, [], []⟩

def step (st : Attach) : Act → Option Attach
  | .create dir q n =>
    (st.tree.make dir q n).map fun t' =>
      { st with
        tree := t'
        queue := st.queue ++ FsOp.events st.backend.inotify st.tree (.make dir q n) }
  | .list =>
    match st.listed, st.stack with
    | none, dirpath :: rest =>
      match scandir st.tree dirpath with
      | none => some { st with stack := rest }
      | some (dirs, files) =>
        some { st with stack := rest, listed := some ⟨dirpath, dirs, files⟩ }
    | _, _ => none
  | .visit =>
    st.listed.map fun l =>
      let dirnames := l.dirnames.filter st.backend.enters
      let (b', synthetic) := visit st.tree st.top (st.backend, st.synthetic) l
      { st with
        backend := b'
        synthetic := synthetic
        listed := none
        stack := dirnames.map (fun n => join l.dirpath n.val) ++ st.stack }

/-- Directories that the walk will list or whose parent it has listed and will enter. -/
def ahead (st : Attach) : List Str :=
  (st.listed.toList.flatMap fun l =>
    (l.dirnames.filter st.backend.enters).map fun n => join l.dirpath n.val) ++ st.stack

/-- The listing of `q` lies in the future. -/
def ToList (st : Attach) (q : List Name) : Prop :=
  ∃ x ∈ st.ahead, ∃ p ∈ resolve x, p <+: q

/-- The kernel has queued the creation of `n` in `q`. -/
def Reported (st : Attach) (q : List Name) (n : Name) : Prop :=
  ∃ wd, st.backend.inotify.liveAt st.tree q = some wd ∧
    .entry wd .create (st.tree.isDir (q ++ [n])) n ∈ st.queue

/-- The walk has returned a `created` event for the entry at `path`, a directory or not. -/
def Returned (st : Attach) (path : Str) (dir : Bool) : Prop :=
  ⟨path, .created, dir⟩ ∈ st.synthetic

/-- A creation below `top` that does not fall into the window between listing and watching its
directory: the entry is ignored, or its directory has still to be listed (and the text of the entry
survives `normalize_path`), or it is watched by now. -/
def Announced (d : List Name) (st : Attach) : Act → Prop
  | .create _ q n => d <+: q →
      let path := joinAll st.top (q.drop d.length ++ [n])
      st.backend.isIgnored path = true ∨ (st.ToList q ∧ normalizePath path = path) ∨
        (¬ st.ToList q ∧ (st.backend.inotify.liveAt st.tree q).isSome)
  | _ => True

instance (st : Attach) : DecidablePred st.ToList := fun q => by unfold ToList; infer_instance

instance (d : List Name) (st : Attach) : DecidablePred (Announced d st) := fun a => by
  cases a <;> (unfold Announced; infer_instance)

/-- The walk takes `st` to `st'` while the environment is idle. -/
def Walks (st st' : Attach) : Prop :=
  ∃ acts : List Act, (∀ a ∈ acts, a = .list ∨ a = .visit) ∧ run step st acts = some st'

lemma Walks.refl (st : Attach) : Walks st st :=
  ⟨[], by simp, rfl⟩

lemma Walks.trans {st st' st'' : Attach} (h1 : Walks st st') (h2 : Walks st' st'') :
    Walks st st'' := by
  obtain ⟨as, has, hrun⟩ := h1
  obtain ⟨bs, hbs, hrun'⟩ := h2
  refine ⟨as ++ bs, ?_, by rw [run_append, hrun]; exact hrun'⟩
  intro a ha
  exact (List.mem_append.1 ha).elim (has a) (hbs a)

lemma Walks.single {st st' : Attach} {a : Act} (ha : a = .list ∨ a = .visit)
    (hs : step st a = some st') : Walks st st' :=
  ⟨[a], by simpa using ha, by simp [run, hs]⟩

lemma foldl_visit_enters (t : Tree) (top : Str) (ls : List Listing)
    (acc : InotifyBackend × List FsEvent) : (ls.foldl (visit t top) acc).1.enters = acc.1.enters :=
  foldl_frame (g := fun acc : InotifyBackend × List FsEvent => acc.1.enters) (fun acc l => by
    unfold InotifyBackend.visit
    split
    · rfl
    · exact enters_congr (addWatch_ignoreDirs _)) ls acc

/-- Popping one directory off the stack of an idle system is one recursive `walk` of it. -/
lemma walks_walk {t : Tree} {top : Str} {keep : Name → Bool} :
    ∀ (k : Nat) (x : Str) (p : List Name) (rest : List Str) (acc : InotifyBackend × List FsEvent)
      (q : List Queued), resolve x = some p → (∀ s, t.isDir (p ++ s) = true → s.length < k) →
      acc.1.enters = keep →
      Walks ⟨top, t, acc.1, x :: rest, none, acc.2, q⟩
        ⟨top, t, ((walk t keep k x).foldl (visit t top) acc).1, rest, none,
          ((walk t keep k x).foldl (visit t top) acc).2, q⟩ := by
  intro k
  induction k with
  | zero =>
    intro x p rest acc q hx hk hkeep
    have hd : t.isDir p = false := by
      rw [Bool.eq_false_iff]
      intro h
      exact absurd (hk [] (by simpa using h)) (by simp)
    have hscan : scandir t x = none := by simp [scandir, hx, FileTree.scandir, hd]
    exact Walks.single (.inl rfl) (by simp [step, hscan, walk])
  | succ k ih =>
    intro x p rest acc q hx hk hkeep
    by_cases hd : t.isDir p = true
    · have hscan : scandir t x = some ((t.children p).filter fun n => t.isDir (p ++ [n]),
          (t.children p).filter fun n => !t.isDir (p ++ [n])) := by
        simp [scandir, hx, FileTree.scandir, hd]
      rw [walk, hscan]
      simp only [List.foldl_cons]
      generalize hdirs : ((t.children p).filter fun n => t.isDir (p ++ [n])) = dirs
      generalize hfiles : ((t.children p).filter fun n => !t.isDir (p ++ [n])) = files
      -- list and handle the directory itself
      have hlist : Walks ⟨top, t, acc.1, x :: rest, none, acc.2, q⟩
          ⟨top, t, acc.1, rest, some ⟨x, dirs, files⟩, acc.2, q⟩ :=
        Walks.single (.inl rfl) (by simp [step, hscan, hdirs, hfiles])
      apply hlist.trans
      have hvisit : InotifyBackend.visit t top acc ⟨x, dirs.filter keep, files⟩ =
          InotifyBackend.visit t top acc ⟨x, dirs, files⟩ := rfl
      rw [hvisit]
      generalize hacc : InotifyBackend.visit t top acc ⟨x, dirs, files⟩ = acc'
      have hbody : Walks ⟨top, t, acc.1, rest, some ⟨x, dirs, files⟩, acc.2, q⟩
          ⟨top, t, acc'.1, (dirs.filter keep).map (fun n => join x n.val) ++ rest, none, acc'.2,
            q⟩ :=
        Walks.single (.inr rfl) (by simp [step, hkeep, hacc])
      apply hbody.trans
      -- then its subdirectories, one after the other
      have hkeep' : acc'.1.enters = keep := by
        rw [← hacc, ← hkeep]
        exact foldl_visit_enters t top [⟨x, dirs, files⟩] acc
      clear hacc hvisit hdirs hfiles hlist hbody
      induction dirs.filter keep generalizing acc' with
      | nil => exact Walks.refl _
      | cons n ns ihn =>
        have hn : resolve (join x n.val) = some (p ++ [n]) := by simp [resolve_join, hx]
        have hkn : ∀ s, t.isDir (p ++ [n] ++ s) = true → s.length < k := by
          intro s hs
          have h := hk (n :: s) (by simpa using hs)
          simpa using h
        apply (ih (join x n.val) (p ++ [n]) _ acc' q hn hkn hkeep').trans
        rw [List.flatMap_cons, List.foldl_append]
        exact ihn _ (by rw [foldl_visit_enters]; exact hkeep')
    · have hscan : scandir t x = none := by simp [scandir, hx, FileTree.scandir, hd]
      exact Walks.single (.inl rfl) (by simp [step, hscan, walk])

/-- Uninterrupted, the machine computes `walkAddWatches`. -/
theorem walks_walkAddWatches {t : Tree} {b : InotifyBackend} {top : Str} {d : List Name}
    (htop : resolve top = some d) :
    Walks (start t b top) ⟨top, t, (b.walkAddWatches t top).1, [], none,
      (b.walkAddWatches t top).2, []⟩ := by
  refine walks_walk t.height top d [] (b, []) [] htop (fun s hs => ?_) rfl
  obtain ⟨i, hi⟩ := FileTree.isDir_iff.1 hs
  have h := FileTree.length_lt_height hi
  rw [List.length_append] at h
  omega

/-- `x` is the text of a directory that the walk below `d` reaches. -/
def Below (d : List Name) (st : Attach) (x : Str) (s : List Name) : Prop :=
  x = joinAll st.top s ∧ (∀ n ∈ s, st.backend.enters n = true) ∧ st.tree.isDir (d ++ s) = true

/-- The walk will still return an event for `e`. -/
def Pending (st : Attach) (e : List Name) : Prop :=
  st.ToList e ∨ ∃ l ∈ st.listed, ∃ p, resolve l.dirpath = some p ∧
    (p = e ∨ ∃ n ∈ l.filenames, p ++ [n] = e)

/-- What holds at every moment of the walk. -/
structure Inv (d : List Name) (st : Attach) : Prop where
  top : resolve st.top = some d
  isabs : isabs st.top = true
  shown : st.backend.isIgnored st.top = false
  dir : st.tree.isDir d = true
  plain : ∀ {s nd}, st.tree.node (d ++ s) = some nd →
    st.backend.isIgnored (joinAll st.top s) = false → st.Pending (d ++ s) →
      normalizePath (joinAll st.top s) = joinAll st.top s
  ahead : ∀ {x}, x ∈ st.ahead → ∃ s, st.Below d x s
  listed : ∀ {l}, st.listed = some l → ∃ s, st.Below d l.dirpath s ∧
    ∀ n ∈ l.filenames, ∃ i, st.tree.node (d ++ s ++ [n]) = some ⟨false, i⟩
  found : ∀ {s n nd}, st.tree.node (d ++ s ++ [n]) = some nd →
    st.backend.isIgnored (joinAll st.top (s ++ [n])) = false →
      st.Returned (joinAll st.top (s ++ [n])) nd.isDir ∨ st.Reported (d ++ s) n ∨
        st.Pending (d ++ s ++ [n])

variable {d : List Name} {st st' : Attach}

lemma ToList.mono {p q : List Name} (h : st.ToList p) (hp : p <+: q) : st.ToList q := by
  obtain ⟨x, hx, r, hr, hrp⟩ := h
  exact ⟨x, hx, r, hr, hrp.trans hp⟩

lemma joinAll_snoc (top : Str) (s : List Name) (n : Name) :
    join (joinAll top s) n.val = joinAll top (s ++ [n]) := by
  simp [joinAll]

/-- Below the top the shown paths are those reached through kept names. -/
lemma Inv.shown_iff (inv : Inv d st) {s : List Name} :
    st.backend.isIgnored (joinAll st.top s) = false ↔ ∀ n ∈ s, st.backend.enters n = true := by
  rw [shown_joinAll inv.isabs, inv.shown]
  exact and_iff_right rfl

/-- A directory below `d` is listed under its own path. -/
lemma Inv.resolve_below (inv : Inv d st) {x : Str} {s : List Name} (h : st.Below d x s) :
    resolve x = some (d ++ s) := by
  rw [h.1, resolve_joinAll inv.top]

/-! ### The environment creates an entry -/

/-- The state after the file system has grown. -/
def grown (st : Attach) (t' : Tree) (reports : List Queued) : Attach :=
  { st with
    tree := t'
    queue := st.queue ++ reports }

section Create
variable {dir : Bool} {q p s : List Name} {n m : Name} {t' : Tree} {reports : List Queued}

lemma liveAt_of_make (ht : st.tree.make dir q n = some t') {wd : Wd}
    (hp : st.backend.inotify.liveAt st.tree p = some wd) :
    st.backend.inotify.liveAt t' p = some wd := by
  obtain ⟨nd, hnd, hl⟩ := Kernel.liveAt_iff.1 hp
  exact Kernel.liveAt_iff.2 ⟨nd, FileTree.node_of_make ht hnd, hl⟩

lemma Below.grown (ht : st.tree.make dir q n = some t') {x : Str} (h : st.Below d x s) :
    (st.grown t' reports).Below d x s :=
  ⟨h.1, h.2.1, FileTree.isDir_of_make ht h.2.2⟩

/-- What the kernel has reported it has reported still. -/
lemma Reported.grown (ht : st.tree.make dir q n = some t') {nd : Node}
    (hp : st.tree.node (p ++ [m]) = some nd) (h : st.Reported p m) :
    (st.grown t' reports).Reported p m := by
  obtain ⟨wd, hl, hm⟩ := h
  have hd : t'.isDir (p ++ [m]) = st.tree.isDir (p ++ [m]) := by
    rw [FileTree.isDir, FileTree.isDir, hp, FileTree.node_of_make ht hp]
  refine ⟨wd, liveAt_of_make ht hl, List.mem_append_left _ ?_⟩
  show Queued.entry wd .create (t'.isDir (p ++ [m])) m ∈ st.queue
  rw [hd]
  exact hm

/-- The kernel reports a creation in a watched directory. -/
lemma reported_make (ht : st.tree.make dir q n = some t')
    (hlive : (st.backend.inotify.liveAt st.tree q).isSome) :
    (st.grown t' (FsOp.events st.backend.inotify st.tree (.make dir q n))).Reported q n := by
  obtain ⟨wd, hwd⟩ := Option.isSome_iff_exists.1 hlive
  have hd : t'.isDir (q ++ [n]) = dir := by
    rw [FileTree.isDir, (FileTree.make_spec ht).2.2.2, if_pos rfl]
    rfl
  refine ⟨wd, liveAt_of_make ht hwd, List.mem_append_right _ ?_⟩
  show Queued.entry wd .create (t'.isDir (q ++ [n])) n ∈ _
  rw [hd]
  exact Kernel.mem_report.2 ⟨wd, hwd, rfl⟩

section Inv
variable (inv : Inv d st) (ht : st.tree.make dir q n = some t')
include inv ht

/-- An entry that did not exist before is ahead only with its directory. -/
lemma toList_of_pending (h : st.Pending (q ++ [n])) : st.ToList q := by
  have hnew := (FileTree.make_spec ht).2.1
  have hne : ∀ {p}, st.tree.isDir p = true → p ≠ q ++ [n] := by
    rintro p hp rfl
    rw [FileTree.isDir, hnew] at hp
    cases hp
  rcases h with ⟨x, hx, p, hp, hpre⟩ | ⟨l, hl, p, hp, he⟩
  · obtain ⟨s, hs⟩ := inv.ahead hx
    rw [inv.resolve_below hs, Option.mem_some_iff] at hp
    subst hp
    have hpq := (List.prefix_concat_iff.1 hpre).resolve_left (hne hs.2.2)
    exact ⟨x, hx, _, inv.resolve_below hs, hpq⟩
  · obtain ⟨s, hs, hf⟩ := inv.listed hl
    rw [inv.resolve_below hs, Option.some.injEq] at hp
    subst hp
    rcases he with he | ⟨m, hm, he⟩
    · exact absurd he (hne hs.2.2)
    · obtain ⟨i, hi⟩ := hf m hm
      rw [he, hnew] at hi
      cases hi

/-- Below `d` the new entry has a parent below `d`, since `d` itself exists. -/
lemma parent_below (he : d ++ s = q ++ [n]) : ∃ r, q = d ++ r ∧ s = r ++ [n] := by
  rcases List.eq_nil_or_concat' s with rfl | ⟨r, m, rfl⟩
  · obtain ⟨i, hi⟩ := FileTree.isDir_iff.1 inv.dir
    rw [List.append_nil] at he
    rw [he, (FileTree.make_spec ht).2.1] at hi
    cases hi
  · rw [← List.append_assoc] at he
    obtain ⟨rfl, hm⟩ := List.append_inj' he rfl
    cases hm
    exact ⟨r, rfl, rfl⟩

end Inv

/-- What the guard says of a shown entry. -/
lemma announced_shown (hg : Announced d st (.create dir (d ++ s) n))
    (hi : st.backend.isIgnored (joinAll st.top (s ++ [n])) = false) :
    (st.ToList (d ++ s) ∧
        normalizePath (joinAll st.top (s ++ [n])) = joinAll st.top (s ++ [n])) ∨
      (¬ st.ToList (d ++ s) ∧ (st.backend.inotify.liveAt st.tree (d ++ s)).isSome) := by
  have h := hg (List.prefix_append _ _)
  rw [List.drop_left] at h
  exact h.resolve_left (Bool.eq_false_iff.1 hi)

/-- The environment creates an entry. -/
lemma Inv.create (inv : Inv d st) (hg : Announced d st (.create dir q n))
    (hs : step st (.create dir q n) = some st') : Inv d st' := by
  obtain ⟨t', ht, rfl⟩ := Option.map_eq_some_iff.1 hs
  show Inv d (st.grown t' _)
  have hnode := (FileTree.make_spec ht).2.2.2
  refine
    { top := inv.top
      isabs := inv.isabs
      shown := inv.shown
      dir := FileTree.isDir_of_make ht inv.dir
      plain := fun {s nd} hp hi hpend => ?_
      ahead := fun hx => ?_
      listed := fun hl => ?_
      found := fun {s m nd} hp hi => ?_ }
  · rw [show (st.grown t' _).tree.node = t'.node from rfl, hnode] at hp
    split at hp
    · next he =>
      obtain ⟨r, rfl, rfl⟩ := parent_below inv ht he
      rcases announced_shown hg hi with h | h
      · exact h.2
      · -- what is ahead existed before, so a new entry that is ahead has its directory ahead
        have hpend : st.Pending (d ++ (r ++ [n])) := hpend
        rw [he] at hpend
        exact absurd (toList_of_pending inv ht hpend) h.1
    · exact inv.plain hp hi hpend
  · obtain ⟨s, h⟩ := inv.ahead hx
    exact ⟨s, h.grown ht⟩
  · obtain ⟨s, h, hf⟩ := inv.listed hl
    refine ⟨s, h.grown ht, fun m hm => ?_⟩
    obtain ⟨i, hi⟩ := hf m hm
    exact ⟨i, FileTree.node_of_make ht hi⟩
  · rw [show (st.grown t' _).tree.node = t'.node from rfl, hnode] at hp
    split at hp
    · next he =>
      obtain ⟨hqs, hm⟩ := List.append_inj' he rfl
      cases hm
      subst hqs
      rcases announced_shown hg hi with ⟨hto, -⟩ | ⟨-, hlive⟩
      · exact .inr (.inr (.inl (hto.mono (List.prefix_append _ _))))
      · exact .inr (.inl (reported_make ht hlive))
    · rcases inv.found hp hi with h | h | h
      · exact .inl h
      · exact .inr (.inl (h.grown ht hp))
      · exact .inr (.inr h)

end Create

/-! ### `os.walk` lists a directory -/

/-- The state after the directory `p` has been listed under the text `x`. -/
def opened (st : Attach) (x : Str) (rest : List Str) (p : List Name) : Attach :=
  { st with
    stack := rest
    listed := some
      { dirpath := x
        dirnames := (st.tree.children p).filter fun n => st.tree.isDir (p ++ [n])
        filenames := (st.tree.children p).filter fun n => !st.tree.isDir (p ++ [n]) } }

lemma step_list (inv : Inv d st) (hs : step st .list = some st') : ∃ x rest sx,
    st.listed = none ∧ st.ahead = x :: rest ∧ st.Below d x sx ∧ st' = st.opened x rest (d ++ sx) := by
  simp only [step] at hs
  split at hs
  case h_2 => cases hs
  case h_1 x rest hl hstack =>
    have hahead : st.ahead = x :: rest := by
      rw [Attach.ahead, hl, hstack]
      rfl
    obtain ⟨sx, hx⟩ := inv.ahead (show x ∈ st.ahead by rw [hahead]; exact List.mem_cons_self)
    refine ⟨x, rest, sx, hl, hahead, hx, ?_⟩
    have hscan : scandir st.tree x = some
        ((st.tree.children (d ++ sx)).filter fun n => st.tree.isDir (d ++ sx ++ [n]),
          (st.tree.children (d ++ sx)).filter fun n => !st.tree.isDir (d ++ sx ++ [n])) := by
      simp [scandir, inv.resolve_below hx, FileTree.scandir, hx.2.2]
    simp only [hscan, Option.some.injEq] at hs
    exact hs.symm

section List
variable {x y : Str} {rest : List Str} {sx e : List Name} {m : Name}

lemma mem_ahead_opened {p : List Name} : y ∈ (st.opened x rest p).ahead ↔
    (∃ n, (n ∈ st.tree.children p ∧ st.tree.isDir (p ++ [n]) = true) ∧ st.backend.enters n = true ∧
      join x n.val = y) ∨ y ∈ rest := by
  simp only [Attach.ahead, opened, Option.toList_some, List.flatMap_cons, List.flatMap_nil,
    List.append_nil, List.mem_append, List.mem_map, List.mem_filter, and_assoc]

section Inv
variable (inv : Inv d st) (hahead : st.ahead = x :: rest) (hx : st.Below d x sx)
include inv hx

/-- A subdirectory that the walk will enter is ahead, with what is below it. -/
lemma toList_opened (hm : st.tree.isDir (d ++ sx ++ [m]) = true) (hk : st.backend.enters m = true)
    (hpre : d ++ sx ++ [m] <+: e) : (st.opened x rest (d ++ sx)).ToList e := by
  obtain ⟨i, hi⟩ := FileTree.isDir_iff.1 hm
  have hc : m ∈ st.tree.children (d ++ sx) := FileTree.mem_children.2 (by rw [hi]; rfl)
  refine ⟨join x m.val, mem_ahead_opened.2 (.inl ⟨m, ⟨hc, hm⟩, hk, rfl⟩), d ++ sx ++ [m], ?_, hpre⟩
  rw [resolve_join, inv.resolve_below hx]
  rfl

/-- So is a file of the listed directory. -/
lemma pending_opened_file {nd : Node} (hnd : st.tree.node (d ++ sx ++ [m]) = some nd)
    (hm : ¬ st.tree.isDir (d ++ sx ++ [m]) = true) :
    (st.opened x rest (d ++ sx)).Pending (d ++ sx ++ [m]) := by
  refine .inr ⟨_, rfl, _, inv.resolve_below hx, .inr ⟨m, List.mem_filter.2 ⟨?_, ?_⟩, rfl⟩⟩
  · exact FileTree.mem_children.2 (by rw [hnd]; rfl)
  · simpa using hm

include hahead

/-- What is ahead from here on was ahead of the listing of `x`. -/
lemma toList_of_opened (h : (st.opened x rest (d ++ sx)).Pending e) : st.ToList e := by
  have hxa : x ∈ st.ahead := by
    rw [hahead]
    exact List.mem_cons_self
  rcases h with ⟨y, hy, p, hp, hpre⟩ | ⟨l, hl', p, hp, he⟩
  · rcases mem_ahead_opened.1 hy with ⟨n, -, -, rfl⟩ | hy
    · rw [resolve_join, inv.resolve_below hx, Option.map_some, Option.mem_some_iff] at hp
      subst hp
      exact ⟨x, hxa, _, inv.resolve_below hx, (List.prefix_append _ _).trans hpre⟩
    · exact ⟨y, by rw [hahead]; exact List.mem_cons_of_mem _ hy, p, hp, hpre⟩
  · cases hl'
    rcases he with rfl | ⟨n, -, rfl⟩
    · exact ⟨x, hxa, p, hp, List.prefix_rfl⟩
    · exact ⟨x, hxa, p, hp, List.prefix_append _ _⟩

lemma below_of_opened (hy : y ∈ (st.opened x rest (d ++ sx)).ahead) : ∃ s, st.Below d y s := by
  rcases mem_ahead_opened.1 hy with ⟨n, ⟨-, hn⟩, hk, rfl⟩ | hy
  · refine ⟨sx ++ [n], ?_, ?_, by simpa using hn⟩
    · rw [hx.1, joinAll_snoc]
    · intro m hm
      rcases List.mem_append.1 hm with hm | hm
      · exact hx.2.1 m hm
      · rw [List.mem_singleton.1 hm]
        exact hk
  · exact inv.ahead (by rw [hahead]; exact List.mem_cons_of_mem _ hy)

/-- A shown entry that was pending is pending still: the walk enters the directory that it is in, or
has just listed it. -/
lemma pending_opened (hl : st.listed = none) {s : List Name} {n : Name} {nd : Node}
    (hp : st.tree.node (d ++ s ++ [n]) = some nd)
    (hi : st.backend.isIgnored (joinAll st.top (s ++ [n])) = false)
    (h : st.Pending (d ++ s ++ [n])) : (st.opened x rest (d ++ sx)).Pending (d ++ s ++ [n]) := by
  rcases h with ⟨y, hy, p, hyp, hpre⟩ | ⟨l, hl', -⟩
  · rw [hahead] at hy
    rcases List.mem_cons.1 hy with rfl | hy
    · rw [inv.resolve_below hx, Option.mem_some_iff] at hyp
      subst hyp
      obtain ⟨r, hr⟩ := hpre
      cases r with
      | nil => exact .inr ⟨_, rfl, _, inv.resolve_below hx, .inl (by simpa using hr)⟩
      | cons m r =>
        have hs : s ++ [n] = sx ++ m :: r := by simpa using hr.symm
        have hpre : d ++ sx ++ [m] <+: d ++ s ++ [n] := ⟨r, by simpa using hr⟩
        by_cases hm : st.tree.isDir (d ++ sx ++ [m]) = true
        · exact .inl (toList_opened inv hx hm (inv.shown_iff.1 hi m (by rw [hs]; simp)) hpre)
        · -- nothing is below a file, so that it is the entry itself
          have he : d ++ sx ++ [m] = d ++ s ++ [n] := by
            by_contra hne
            exact hm (FileTree.isDir_above hp hpre hne)
          rw [← he] at hp ⊢
          exact pending_opened_file inv hx hp hm
    · exact .inl ⟨y, mem_ahead_opened.2 (.inr hy), p, hyp, hpre⟩
  · rw [hl] at hl'
    cases hl'

end Inv
end List

/-- `os.walk` lists a directory. -/
lemma Inv.list (inv : Inv d st) (hs : step st .list = some st') : Inv d st' := by
  obtain ⟨x, rest, sx, hl, hahead, hx, rfl⟩ := step_list inv hs
  refine
    { top := inv.top
      isabs := inv.isabs
      shown := inv.shown
      dir := inv.dir
      plain := fun hp hi hpend => inv.plain hp hi (.inl (toList_of_opened inv hahead hx hpend))
      ahead := fun hy => ?_
      listed := fun hl => ?_
      found := fun hp hi => ?_ }
  · have hs := below_of_opened inv hahead hx hy
    exact hs
  · cases hl
    refine ⟨sx, hx, fun n hn => ?_⟩
    obtain ⟨hc, hf⟩ := List.mem_filter.1 hn
    obtain ⟨⟨b, i⟩, hnd⟩ := Option.isSome_iff_exists.1 (FileTree.mem_children.1 hc)
    rw [Bool.not_eq_true', FileTree.isDir, hnd] at hf
    exact ⟨i, hnd.trans (by rw [show b = false from hf])⟩
  · exact (inv.found hp hi).imp_right (Or.imp_right (pending_opened inv hahead hx hl hp hi))

/-! ### The loop body handles the listed directory -/

/-- The state after the loop body. -/
def visited (st : Attach) (l : Listing) : Attach :=
  { st with
    backend := st.backend.addWatch st.tree l.dirpath
    synthetic := st.synthetic ++ InotifyBackend.synthetic st.top l
    listed := none
    stack := (l.dirnames.filter st.backend.enters).map (fun n => join l.dirpath n.val) ++ st.stack }

section Visit
variable {l : Listing} {sl e : List Name}

lemma mem_ahead_visited (hl : st.listed = some l) {y : Str} :
    y ∈ (st.visited l).ahead ↔ y ∈ st.ahead := by
  simp [Attach.ahead, visited, hl]

lemma pending_of_visited (hl : st.listed = some l) (h : (st.visited l).Pending e) :
    st.Pending e := by
  rcases h with ⟨y, hy, p, hp, hpre⟩ | ⟨l', hl', -⟩
  · exact .inl ⟨y, (mem_ahead_visited hl).1 hy, p, hp, hpre⟩
  · cases hl'

lemma isIgnored_visited (st : Attach) (l : Listing) (p : Str) :
    (st.visited l).backend.isIgnored p = st.backend.isIgnored p :=
  isIgnored_congr (addWatch_ignoreDirs _) p

section Inv
variable (inv : Inv d st) (hl : st.listed = some l) (hbelow : st.Below d l.dirpath sl)
include inv hl hbelow

/-- The text of the listed directory is shown and survives `normalize_path`. -/
lemma shown_listed :
    st.backend.isIgnored l.dirpath = false ∧ normalizePath l.dirpath = l.dirpath := by
  have hshown : st.backend.isIgnored l.dirpath = false := by
    rw [hbelow.1]
    exact inv.shown_iff.2 hbelow.2.1
  refine ⟨hshown, ?_⟩
  obtain ⟨i, hi⟩ := FileTree.isDir_iff.1 hbelow.2.2
  rw [hbelow.1] at hshown ⊢
  exact inv.plain hi hshown (.inr ⟨l, hl, _, inv.resolve_below hbelow, .inl rfl⟩)

lemma step_visit : step st .visit = some (st.visited l) := by
  obtain ⟨hshown, hnorm⟩ := shown_listed inv hl hbelow
  simp [step, hl, InotifyBackend.visit, hnorm, hshown, visited]

/-- The directory just handled is returned, unless it is the top. -/
lemma returned_dir {s : List Name} {n : Name} {nd : Node}
    (hp : st.tree.node (d ++ s ++ [n]) = some nd) (he : d ++ sl = d ++ s ++ [n]) :
    (st.visited l).Returned (joinAll st.top (s ++ [n])) nd.isDir := by
  have hsl : sl = s ++ [n] := by simpa using he
  have hdir : nd.isDir = true := by
    have h := hbelow.2.2
    rw [he, FileTree.isDir, hp] at h
    exact h
  have hne : l.dirpath ≠ st.top := by
    intro e
    have h := inv.resolve_below hbelow
    rw [e, inv.top, hsl] at h
    simp at h
  refine List.mem_append_right _ (List.mem_append_left _ ?_)
  rw [(shown_listed inv hl hbelow).2, if_pos hne, hbelow.1, hsl, hdir]
  exact List.mem_singleton_self _

/-- So is each of its files. -/
lemma returned_file (hfiles : ∀ n ∈ l.filenames, ∃ i, st.tree.node (d ++ sl ++ [n]) = some ⟨false, i⟩)
    {n : Name} {nd : Node} (hp : st.tree.node (d ++ sl ++ [n]) = some nd) (hn : n ∈ l.filenames)
    (hi : st.backend.isIgnored (joinAll st.top (sl ++ [n])) = false) :
    (st.visited l).Returned (joinAll st.top (sl ++ [n])) nd.isDir := by
  obtain ⟨i, hi'⟩ := hfiles n hn
  have hnd : nd = ⟨false, i⟩ := by
    rw [hi', Option.some.injEq] at hp
    exact hp.symm
  have hplain : normalizePath (join l.dirpath n.val) = joinAll st.top (sl ++ [n]) := by
    rw [hbelow.1, joinAll_snoc]
    refine inv.plain (by simpa using hp) hi (.inr ⟨l, hl, _, inv.resolve_below hbelow, .inr ?_⟩)
    exact ⟨n, hn, by simp⟩
  refine List.mem_append_right _ (List.mem_append_right _ (List.mem_map.2 ⟨n, hn, ?_⟩))
  rw [hplain, hnd]

end Inv
end Visit

/-- The loop body handles the listed directory. -/
lemma Inv.visit (inv : Inv d st) (hs : step st .visit = some st') : Inv d st' := by
  obtain ⟨l, hl, -⟩ := Option.map_eq_some_iff.1 hs
  obtain ⟨sl, hbelow, hfiles⟩ := inv.listed hl
  rw [step_visit inv hl hbelow, Option.some.injEq] at hs
  subst hs
  have hign := isIgnored_visited st l
  refine
    { top := inv.top
      isabs := inv.isabs
      shown := (hign _).trans inv.shown
      dir := inv.dir
      plain := fun hp hi hpend => inv.plain hp ((hign _).symm.trans hi) (pending_of_visited hl hpend)
      ahead := fun hy => ?_
      listed := fun hl => by cases hl
      found := fun {s n nd} hp hi => ?_ }
  · obtain ⟨s, h1, h2, h3⟩ := inv.ahead ((mem_ahead_visited hl).1 hy)
    have henters : (st.visited l).backend.enters = st.backend.enters :=
      enters_congr (addWatch_ignoreDirs _)
    exact ⟨s, h1, by rwa [henters], h3⟩
  · have hi : st.backend.isIgnored (joinAll st.top (s ++ [n])) = false := (hign _).symm.trans hi
    rcases inv.found hp hi with h | ⟨wd, hlive, hm⟩ | h
    · exact .inl (List.mem_append_left _ h)
    · obtain ⟨ndq, hq, hw⟩ := Kernel.liveAt_iff.1 hlive
      exact .inr (.inl ⟨wd, Kernel.liveAt_iff.2 ⟨ndq, hq, (addWatch_grows _ _).live hw⟩, hm⟩)
    · rcases h with ⟨y, hy, p, hyp, hpre⟩ | ⟨l', hl', p, hlp, hlast⟩
      · exact .inr (.inr (.inl ⟨y, (mem_ahead_visited hl).2 hy, p, hyp, hpre⟩))
      · -- the entry is the directory just handled or one of its files
        rw [hl] at hl'
        cases hl'
        rw [inv.resolve_below hbelow, Option.some.injEq] at hlp
        subst hlp
        rcases hlast with he | ⟨m, hm, he⟩
        · exact .inl (returned_dir inv hl hbelow hp he)
        · obtain ⟨hd, hmn⟩ := List.append_inj' he rfl
          cases hmn
          obtain rfl : sl = s := by simpa using hd
          exact .inl (returned_file inv hl hbelow hfiles hp hm hi)

/-- At the start everything below `d` is still to be listed. -/
lemma Inv.start {t : Tree} {b : InotifyBackend} {top : Str} (htop : resolve top = some d)
    (habs : PosixPath.isabs top = true) (hdir : t.isDir d = true) (hshown : b.isIgnored top = false)
    (hplain : ∀ s nd, t.node (d ++ s) = some nd → b.isIgnored (joinAll top s) = false →
      normalizePath (joinAll top s) = joinAll top s) : Inv d (start t b top) where
  top := htop
  isabs := habs
  shown := hshown
  dir := hdir
  plain := fun hp hi _ => hplain _ _ hp hi
  ahead := by
    intro x hx
    obtain rfl : x = top := by simpa [Attach.ahead, Attach.start] using hx
    exact ⟨[], rfl, by simp, by rw [List.append_nil]; exact hdir⟩
  listed := fun hl => by cases hl
  found := by
    intro s n nd _ _
    exact .inr (.inr (.inl ⟨top, by simp [Attach.ahead, Attach.start], d, htop, by simp⟩))

end Attach
end MediaScanMonitor
