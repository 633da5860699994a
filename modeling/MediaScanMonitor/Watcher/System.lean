import MediaScanMonitor.Lib.Reports
import MediaScanMonitor.Lib.Transition
import MediaScanMonitor.Watcher.Roots

/-!
# The backend and the file system it watches

The file system, the kernel's event queue and the backend as one transition system. Processes change
the tree, which queues events and kills watches; the backend handles the queued events one at a time
and late. The kernel may lose queued events and then reports an overflow. `Covered` is what the
backend is for: a live watch, registered under the directory's path.
-/

namespace MediaScanMonitor
open Text PosixPath Os Inotify InotifyBackend Transition

/-- The event bit of a report. -/
def kindMask : Kind → Nat
  | .create => IN_CREATE
  | .movedTo => IN_MOVED_TO
  | .delete => IN_DELETE
  | .movedFrom => IN_MOVED_FROM

/-- The directory bit of a report. -/
def dirMask (isDir : Bool) : Nat :=
  if isDir then IN_ISDIR else 0

/-- The event type of a report. -/
def kindEventType : Kind → FsEventType
  | .create => .created
  | .movedTo => .movedTo
  | .delete => .deleted
  | .movedFrom => .movedFrom

/-- An entry of the queue as the backend reads it: the path is that of the watch, with the name. -/
def rawEvent (k : Kernel) : Queued → RawEvent
  | .entry wd kind isDir name =>
    ⟨kindMask kind ||| dirMask isDir, (k.path wd).map fun d => join d name.val⟩
  | .overflow => ⟨IN_Q_OVERFLOW, none⟩

/-- An overflow report starts a resync. -/
lemma handle_rawEvent_overflow (t : Tree) (b : InotifyBackend) (k : Kernel) :
    b.handle t (rawEvent k .overflow) = b.resync t :=
  if_pos (show IN_Q_OVERFLOW &&& IN_Q_OVERFLOW ≠ 0 by decide)

/-! The backend reads back from a mask what the kernel has put into it. -/

lemma not_overflow (kind : Kind) (isDir : Bool) :
    (kindMask kind ||| dirMask isDir) &&& IN_Q_OVERFLOW = 0 := by
  cases kind <;> cases isDir <;> decide

lemma maskIsDir_mask (kind : Kind) (isDir : Bool) :
    maskIsDir (kindMask kind ||| dirMask isDir) = isDir := by
  cases kind <;> cases isDir <;> decide

lemma maskToEventType_mask (kind : Kind) (isDir : Bool) :
    maskToEventType (kindMask kind ||| dirMask isDir) = some (kindEventType kind) := by
  cases kind <;> cases isDir <;> decide

/-- What a report makes the backend do. -/
lemma handle_rawEvent_entry (t : Tree) (b : InotifyBackend) (k : Kernel) (wd : Wd) (kind : Kind)
    (isDir : Bool) (n : Name) : (b.handle t (rawEvent k (.entry wd kind isDir n))).1 =
      match k.path wd with
      | none => b
      | some x =>
        if b.isIgnored (normalizePath (join x n.val)) || !isDir then b
        else if kind.removes then b.removeWatchTree (normalizePath (join x n.val))
        else (b.walkAddWatches t (normalizePath (join x n.val))).1 := by
  rw [InotifyBackend.handle, rawEvent, if_neg (by simp [not_overflow])]
  cases hx : k.path wd with
  | none => rfl
  | some x =>
    simp only [Option.map_some, maskIsDir_mask, maskToEventType_mask]
    cases hi : b.isIgnored (normalizePath (join x n.val)) <;> cases isDir <;> cases kind <;> rfl

/-- A file system with a backend that watches it. -/
structure World where
  tree : Tree
  backend : InotifyBackend
  queue : List Queued

namespace World

inductive Act
  /-- A process changes the file system. -/
  | op (o : FsOp)
  /-- The backend handles the oldest event. -/
  | handle
  /-- The engine replaces the roots. -/
  | setRoots (roots : List Str)
  /-- The kernel drops an event. -/
  | lose (i : Nat)
  /-- The kernel reports that it has dropped events. -/
  | overflow

/-- A backend that has attached the roots `R`. -/
def start (t : Tree) (ignoreDirs : List Str) (R : List (List Name)) : World :=
  ⟨t, (init ignoreDirs).setRoots t (R.map render), []⟩

def step (s : World) : Act → Option World
  | .op o =>
    (o.run s.tree).map fun t' =>
      { tree := t'
        backend := { s.backend with inotify := o.kernel s.backend.inotify s.tree }
        queue := s.queue ++ o.events s.backend.inotify s.tree }
  | .handle =>
    match s.queue with
    | [] => none
    | e :: q =>
      some ⟨s.tree, (s.backend.handle s.tree (rawEvent s.backend.inotify e)).1, q⟩
  | .setRoots roots => some { s with backend := s.backend.setRoots s.tree roots }
  | .lose i => some { s with queue := s.queue.eraseIdx i }
  | .overflow => some { s with queue := s.queue ++ [.overflow] }

/-- The descriptor registered for a path. -/
def key (s : World) (p : List Name) : Option Wd :=
  s.backend.watches.lookup (render p)

/-- No segment of the path is ignored. -/
def Shown (s : World) (p : List Name) : Prop :=
  s.backend.isIgnored (render p) = false

/-- A root of the current configuration. -/
def IsRoot (s : World) (r : List Name) : Prop :=
  render r ∈ s.backend.roots

/-- A path that is to be watched when there is a directory. -/
def Wanted (s : World) (p : List Name) : Prop :=
  s.Shown p ∧ ∃ r, r <+: p ∧ s.IsRoot r

/-- The directory has a live watch, registered under its path. -/
def Covered (s : World) (p : List Name) : Prop :=
  ∃ wd, s.backend.inotify.liveAt s.tree p = some wd ∧ s.key p = some wd

/-- Every directory to be watched has a text that `normalize_path` leaves alone. -/
def PlainDirs (s : World) (t : Tree) : Prop :=
  ∀ p, t.isDir p = true → s.Wanted p → Plain p

instance (s : World) : DecidablePred s.Shown := fun p => by unfold Shown; infer_instance
instance (s : World) : DecidablePred s.IsRoot := fun r => by unfold IsRoot; infer_instance

end World
end MediaScanMonitor
