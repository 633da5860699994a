import MediaScanMonitor.Lib.FileOps
import MediaScanMonitor.Pipeline.Moves
import MediaScanMonitor.Watcher.Coverage

/-!
# Changes of files, as the backend reports them

The backend has caught up, and from then on processes change regular files only, in any order with
the backend's handling of the reports. No watch comes or goes by that. Every change in a directory
to be watched is reported once, in order, under the path of the file, and nothing else is.
-/

namespace MediaScanMonitor
open Text PosixPath Os Inotify InotifyBackend Transition

/-- The event for a change of a file. -/
def changeEvent (c : FileChange) : FsEvent :=
  ⟨render c.path, kindEventType c.kind, false⟩

/-! ## Live watches are registered -/

/-- Every live watch has an entry. -/
def Held (b : InotifyBackend) : Prop :=
  ∀ i wd, b.inotify.live i = some wd → ∃ x, b.watches.lookup x = some wd

namespace Held
variable {t : Tree} {b : InotifyBackend}

lemma addWatch (h : Held b) (x : Str) : Held (InotifyBackend.addWatch t b x) := by
  rcases addWatch_cases b x with hsame | ⟨hx, nd, ht⟩
  · rwa [hsame]
  · obtain ⟨w, -, hw, hl, -⟩ := addWatch_of_new hx ht
    intro i wd hi
    rw [hl] at hi
    rw [hw]
    split at hi
    · cases hi
      exact ⟨x, AList.lookup_insert _⟩
    · obtain ⟨y, hy⟩ := h i wd hi
      have hne : y ≠ x := by
        rintro rfl
        exact hx (AList.lookup_isSome.1 (by rw [hy]; rfl))
      exact ⟨y, (AList.lookup_insert_ne hne).trans hy⟩

lemma walk (h : Held b) (x : Str) : Held (b.walkAddWatches t x).1 := by
  rw [walkAddWatches_eq]
  generalize attached t b x = l
  show Held (l.foldl (InotifyBackend.addWatch t) b)
  induction l generalizing b with
  | nil => exact h
  | cons y l ih => exact ih (h.addWatch y)

lemma removeWatchTree (h : Held b) (x : Str) : Held (b.removeWatchTree x) := by
  intro i wd hi
  obtain ⟨hlive, hnone⟩ := live_removeWatchTree.1 hi
  obtain ⟨y, hy⟩ := h i wd hlive
  refine ⟨y, ?_⟩
  rw [lookup_removeWatchTree, if_neg (fun ha => hnone y ha hy), hy]

end Held

namespace World
variable {s s' : World}

section Start
variable {t : Tree} {ign : List Str} {R : List (List Name)} (hR : ∀ r ∈ R, Plain r)
include hR

end Start

/-! ## Files change -/

/-- What is to be reported of a change. -/
def observed (s : World) (c : FileChange) : List FsEvent :=
  if s.Wanted c.dir ∧ s.Shown c.path then [changeEvent c] else []

/-- The events for the reports that are queued. -/
def pending (s : World) : List FsEvent :=
  s.queue.flatMap fun e => (s.backend.handle s.tree (rawEvent s.backend.inotify e)).2

/-- What holds from the time on when the backend has caught up, the roots being there. -/
structure Steady (s : World) : Prop where
  inv : Inv s
  held : Held s.backend
  roots : ∀ r, s.IsRoot r → s.tree.isDir r = true
  files : ∀ e ∈ s.queue, ∃ wd kind n, e = .entry wd kind false n

/-- A report about a file leaves the backend alone. -/
lemma handle_file {t : Tree} {b : InotifyBackend} {k : Kernel} {wd : Wd} {kind : Kind} {n : Name} :
    (b.handle t (rawEvent k (.entry wd kind false n))).1 = b := by
  rw [handle_rawEvent_entry]
  cases k.path wd with
  | none => rfl
  | some x => exact if_pos (Bool.or_true _)

/-- What is yielded for a report about a file depends on the paths of the descriptors alone. -/
lemma yields_changed {o : FsOp} {t' : Tree} {e : Queued}
    (hfile : ∃ wd kind n, e = .entry wd kind false n) :
    ((s.changed o t').backend.handle t' (rawEvent (s.changed o t').backend.inotify e)).2 =
      (s.backend.handle s.tree (rawEvent s.backend.inotify e)).2 := by
  obtain ⟨wd, kind, n, rfl⟩ := hfile
  have hpath : (s.changed o t').backend.inotify.path wd = s.backend.inotify.path wd :=
    congrFun (op_path o _) wd
  cases hx : s.backend.inotify.path wd with
  | none =>
    have hraw : rawEvent (s.changed o t').backend.inotify (.entry wd kind false n) =
        rawEvent s.backend.inotify (.entry wd kind false n) := by
      rw [rawEvent, rawEvent, hpath]
    rw [hraw, InotifyBackend.handle, InotifyBackend.handle, rawEvent,
      if_neg (by simp [not_overflow]), if_neg (by simp [not_overflow]), hx]
    rfl
  | some x =>
    rw [hx] at hpath
    rw [handle_rawEvent_yields hpath, handle_rawEvent_yields hx]
    rfl

namespace Steady
variable (h : Steady s) {p : List Name} {wd : Wd}
include h

/-- Reports about files make no directory due. -/
lemma not_due {rm : Bool} : ¬ s.Due rm p := by
  rintro ⟨e, he, habout⟩
  obtain ⟨wd, kind, n, rfl⟩ := h.files e he
  exact habout

lemma settled (hw : s.Wanted p) :
    (s.tree.isDir p = true ∧ s.Covered p) ∨ (s.key p = none ∧ s.tree.isDir p = false) := by
  obtain ⟨r, hrp, hout⟩ := exists_outer hw.2
  rcases h.inv.cover hout (h.roots r hout.1) hrp hw.1 with hc | hdue | ⟨hnone, hdue⟩
  · exact .inl hc
  · exact (h.not_due hdue).elim
  · exact .inr ⟨hnone, Bool.eq_false_iff.2 fun hdir => h.not_due (hdue hdir)⟩

/-- A live watch is that of a directory to be watched, and delivers its reports under its path. -/
lemma watched (hlive : s.backend.inotify.liveAt s.tree p = some wd) :
    s.Wanted p ∧ s.backend.inotify.path wd = some (render p) := by
  obtain ⟨nd, hnd, hi⟩ := Kernel.liveAt_iff.1 hlive
  obtain ⟨x, hx⟩ := h.held nd.ino wd hi
  obtain ⟨q, rfl, hw, -⟩ := h.inv.form (AList.lookup_isSome.1 (by rw [hx]; rfl))
  rcases h.settled hw with ⟨-, wd', hlive', hkey⟩ | ⟨hnone, -⟩
  · obtain rfl := Option.some.inj (hx.symm.trans hkey)
    obtain ⟨nd', hnd', hi'⟩ := Kernel.liveAt_iff.1 hlive'
    obtain rfl := s.tree.inj hnd hnd' (h.inv.reg.numbered.inode hi hi')
    exact ⟨hw, h.inv.reg.path hx⟩
  · have hnone : s.backend.watches.lookup (render q) = none := hnone
    rw [hx] at hnone
    cases hnone

/-- What a directory reports of a file is what is to be reported. -/
lemma yields_report {c : FileChange} (hdir : s.tree.isDir c.dir = true) (hplain : Plain c.path) :
    (s.backend.inotify.report s.tree c.dir c.kind false c.name).flatMap
        (fun e => (s.backend.handle s.tree (rawEvent s.backend.inotify e)).2) = s.observed c := by
  cases hlive : s.backend.inotify.liveAt s.tree c.dir with
  | none =>
    have hnot : ¬(s.Wanted c.dir ∧ s.Shown c.path) := by
      rintro ⟨hw, -⟩
      rcases h.settled hw with ⟨-, wd, hl, -⟩ | ⟨-, hno⟩
      · rw [hlive] at hl
        cases hl
      · rw [hdir] at hno
        cases hno
    rw [Kernel.report, hlive, observed, if_neg hnot]
    rfl
  | some wd =>
    obtain ⟨hw, hpath⟩ := h.watched hlive
    have hname : normalizePath (join (render c.dir) c.name.val) = render c.path := by
      rw [join_render]
      exact hplain
    rw [Kernel.report, hlive]
    show (s.backend.handle s.tree (rawEvent s.backend.inotify (.entry wd c.kind false c.name))).2 ++
      [] = _
    rw [List.append_nil, handle_rawEvent_yields hpath, hname, observed]
    cases hi : s.backend.isIgnored (render c.path) with
    | true =>
      have hnot : ¬(s.Wanted c.dir ∧ s.Shown c.path) := by
        rintro ⟨-, hs⟩
        have hs : s.backend.isIgnored (render c.path) = false := hs
        rw [hi] at hs
        cases hs
      rw [if_pos rfl, if_neg hnot]
    | false =>
      rw [if_neg Bool.false_ne_true]
      show [changeEvent c] = _
      exact (if_pos ⟨hw, hi⟩).symm

/-- A system call on a file is a clean step, and the directories stay. -/
lemma op {o : FsOp} {t' : Tree} (hf : o.OnFile s.tree) (hrun : o.run s.tree = some t') :
    Steady (s.changed o t') where
  inv := by
    refine h.inv.op hrun (fun p hdir hw => ?_) (fun r _ _ _ hdir => ?_) ?_
    · rw [FsOp.isDir_onFile hf hrun] at hdir
      exact h.inv.plain p hdir hw
    · exact FsOp.node_onFile hf hrun (.inr hdir)
    · cases o with
      | rename q n r m =>
        intro hdir
        have hnot := FsOp.not_isDir_of_changes hf hrun (c := ⟨r, m, .movedTo⟩)
          (List.mem_cons_of_mem _ List.mem_cons_self)
        have hdir : s.tree.isDir (r ++ [m]) = true := hdir
        rw [FileChange.path, hdir] at hnot
        cases hnot
      | _ => trivial
  held := fun i wd hi => h.held i wd (live_of_op hi)
  roots := by
    intro r hr
    show t'.isDir r = true
    rw [FsOp.isDir_onFile hf hrun]
    exact h.roots r hr
  files := by
    intro e he
    rcases List.mem_append.1 he with he | he
    · exact h.files e he
    · rw [FsOp.events_onFile hf] at he
      obtain ⟨c, -, he⟩ := List.mem_flatMap.1 he
      obtain ⟨wd, -, rfl⟩ := Kernel.mem_report.1 he
      exact ⟨wd, c.kind, c.name, rfl⟩

/-- The change adds what is to be reported of it. -/
lemma pending_op {o : FsOp} {t' : Tree} (hf : o.OnFile s.tree) (hrun : o.run s.tree = some t')
    (hplain : ∀ c ∈ o.changes, Plain c.path) :
    (s.changed o t').pending = s.pending ++ o.changes.flatMap s.observed := by
  have hnew := (h.op hf hrun).files
  have hsame : (s.changed o t').pending = (s.changed o t').queue.flatMap fun e =>
      (s.backend.handle s.tree (rawEvent s.backend.inotify e)).2 :=
    List.flatMap_congr fun e he => yields_changed (hnew e he)
  have hqueue : (s.changed o t').queue = s.queue ++ o.changes.flatMap fun c =>
      s.backend.inotify.report s.tree c.dir c.kind false c.name := by
    rw [← FsOp.events_onFile hf]
    rfl
  rw [hsame, hqueue, List.flatMap_append, List.flatMap_assoc, pending]
  congr 1
  exact List.flatMap_congr fun c hc =>
    h.yields_report (FsOp.isDir_of_changes hrun hc) (hplain c hc)

/-- A report about a file is handled, and nothing else changes. -/
lemma handle {e : Queued} {q : List Queued} (hq : s.queue = e :: q) :
    step s .handle = some { s with queue := q } ∧ Steady { s with queue := q } := by
  obtain ⟨wd, kind, n, rfl⟩ := h.files e (by rw [hq]; exact List.mem_cons_self)
  have hsame : (s.backend.handle s.tree (rawEvent s.backend.inotify (.entry wd kind false n))).1 =
      s.backend := handle_file
  have hinv := h.inv.handle hq trivial
  rw [hsame] at hinv
  refine ⟨?_, hinv, h.held, h.roots, fun e he => h.files e ?_⟩
  · simp only [step, hq, hsame]
  · rw [hq]
    exact List.mem_cons_of_mem _ he

end Steady

/-- The oldest report is handled first. -/
lemma pending_cons {e : Queued} {q : List Queued} (hq : s.queue = e :: q) :
    s.pending = s.yields ++ pending { s with queue := q } := by
  rw [pending, yields, hq]
  rfl

end World
end MediaScanMonitor
