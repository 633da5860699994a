import MediaScanMonitor.Lib.Os

/-!
# inotify

The kernel's side of inotify, with the small table the reading library keeps. A watch belongs to an
inode and dies with it; watching an inode that is already watched returns the same descriptor; the
library remembers for each descriptor the path it was last added under and reports events with that
path. A watched directory reports the names that are created in it, deleted from it and moved out
of or into it; an entry replaced by a rename is not reported. Watch descriptors are not reused.
-/

namespace Inotify
open Text PosixPath Os

/-- A watch descriptor. -/
abbrev Wd := Nat

structure Kernel where
  /-- The watch on an inode. -/
  live : Nat → Option Wd
  /-- The path a descriptor was last added under. -/
  path : Wd → Option Str
  /-- The next descriptor to hand out. -/
  next : Wd

/-- A fresh inotify instance. -/
def Kernel.init : Kernel := ⟨fun _ => none, fun _ => none, 0⟩

/-- What a watched directory reports about one of its names. -/
inductive Kind
  | create
  | movedTo
  | delete
  | movedFrom
deriving DecidableEq

/-- An entry of the kernel's event queue. -/
inductive Queued
  | entry (wd : Wd) (kind : Kind) (isDir : Bool) (name : Name)
  | overflow
deriving DecidableEq

/-- `inotify_add_watch`; `none` is an `OSError`. -/
def Kernel.addWatch (k : Kernel) (t : Tree) (path : Str) : Option (Kernel × Wd) :=
  ((resolve path).bind t.node).map fun nd =>
    let wd := (k.live nd.ino).getD k.next
    ({ live := fun i => if i = nd.ino then some wd else k.live i
       path := fun w => if w = wd then some path else k.path w
       next := if (k.live nd.ino).isSome then k.next else k.next + 1 }, wd)

/-- `inotify_rm_watch`; without effect on a watch that is already gone. -/
def Kernel.rmWatch (k : Kernel) (wd : Wd) : Kernel :=
  { k with live := fun i => if k.live i = some wd then none else k.live i }

/-- An inode is gone, and the watch on it. -/
def Kernel.forget (k : Kernel) (nd : Option Node) : Kernel :=
  { k with live := fun i => if nd.map Node.ino = some i then none else k.live i }

/-- The watch on the directory at `q`. -/
def Kernel.liveAt (k : Kernel) (t : Tree) (q : List Name) : Option Wd :=
  (t.node q).bind fun nd => k.live nd.ino

/-- What directory `q` reports about its name `n`. -/
def Kernel.report (k : Kernel) (t : Tree) (q : List Name) (kind : Kind) (isDir : Bool) (n : Name) :
    List Queued :=
  (k.liveAt t q).toList.map fun wd => .entry wd kind isDir n

/-- One system call that changes the tree. -/
inductive FsOp
  | make (dir : Bool) (q : List Name) (n : Name)
  | remove (q : List Name) (n : Name)
  | rename (q : List Name) (n : Name) (r : List Name) (m : Name)

/-- The effect of a system call on the tree; `none` where it fails. -/
def FsOp.run (t : Tree) : FsOp → Option Tree
  | .make dir q n => t.make dir q n
  | .remove q n => t.remove q n
  | .rename q n r m => t.rename q n r m

/-- The watches that die in a system call. -/
def FsOp.kernel (k : Kernel) (t : Tree) : FsOp → Kernel
  | .make _ _ _ => k
  | .remove q n => k.forget (t.node (q ++ [n]))
  | .rename _ _ r m => k.forget (t.node (r ++ [m]))

/-- What is queued about a system call. -/
def FsOp.events (k : Kernel) (t : Tree) : FsOp → List Queued
  | .make dir q n => k.report t q .create dir n
  | .remove q n => k.report t q .delete (t.isDir (q ++ [n])) n
  | .rename q n r m =>
    k.report t q .movedFrom (t.isDir (q ++ [n])) n ++ k.report t r .movedTo (t.isDir (q ++ [n])) m

variable {k : Kernel} {t t' : Tree} {wd : Wd}

lemma Kernel.liveAt_iff {q : List Name} :
    k.liveAt t q = some wd ↔ ∃ nd, t.node q = some nd ∧ k.live nd.ino = some wd := by
  simp [Kernel.liveAt, Option.bind_eq_some_iff]

/-- Only a watched directory reports. -/
lemma Kernel.mem_report {q : List Name} {kind : Kind} {isDir : Bool} {n : Name} {e : Queued} :
    e ∈ k.report t q kind isDir n ↔ ∃ wd, k.liveAt t q = some wd ∧ e = .entry wd kind isDir n := by
  simp [Kernel.report, eq_comm]

/-- A system call kills watches and makes none. -/
lemma live_of_op {o : FsOp} {i : Nat} (h : (o.kernel k t).live i = some wd) :
    k.live i = some wd := by
  cases o with
  | make dir q n => exact h
  | remove q n =>
    simp only [FsOp.kernel, Kernel.forget] at h
    split at h
    · cases h
    · exact h
  | rename q n r m =>
    simp only [FsOp.kernel, Kernel.forget] at h
    split at h
    · cases h
    · exact h

@[simp] lemma op_next (o : FsOp) (k : Kernel) : (o.kernel k t).next = k.next := by
  cases o <;> rfl

@[simp] lemma op_path (o : FsOp) (k : Kernel) : (o.kernel k t).path = k.path := by
  cases o <;> rfl

end Inotify
