import Mathlib.Data.Char
import Mathlib.Data.List.AList
import Mathlib.Data.List.Lex
import Mathlib.Data.List.Sort
import MediaScanMonitor.Lib.Inotify
import MediaScanMonitor.Normalize
import MediaScanMonitor.Pipeline.Events

/-!
# The inotify backend

`watcher/inotify_backend.py`, function by function. The backend keeps one watch per directory in the
dict `watches`, keyed by path text; `walkAddWatches` attaches a subtree, `removeWatchTree` drops one,
and `handle` is the body of the loop in `events` for one raw event, with the events it yields.
-/

namespace MediaScanMonitor
open Text PosixPath Os Inotify

/-! inotify event bits. -/

def IN_MOVED_FROM : Nat := 0x00000040
def IN_MOVED_TO : Nat := 0x00000080
def IN_CREATE : Nat := 0x00000100
def IN_DELETE : Nat := 0x00000200
def IN_Q_OVERFLOW : Nat := 0x00004000
def IN_ISDIR : Nat := 0x40000000

/-- `mask_to_event_type`. -/
def maskToEventType (mask : Nat) : Option FsEventType :=
  if mask &&& IN_CREATE ≠ 0 then some .created
  else if mask &&& IN_MOVED_TO ≠ 0 then some .movedTo
  else if mask &&& IN_DELETE ≠ 0 then some .deleted
  else if mask &&& IN_MOVED_FROM ≠ 0 then some .movedFrom
  else none

/-- `mask_is_dir`. -/
def maskIsDir (mask : Nat) : Bool :=
  mask &&& IN_ISDIR ≠ 0

/-- The two fields of an inotify event that the backend reads. -/
structure RawEvent where
  mask : Nat
  path : Option Str

/-- `InotifyBackend`. -/
structure InotifyBackend where
  ignoreDirs : List Str
  inotify : Kernel
  watches : AList fun _ : Str => Wd
  roots : List Str

namespace InotifyBackend

/-- `__init__`. -/
def init (ignoreDirs : List Str) : InotifyBackend :=
  ⟨ignoreDirs, Kernel.init, ∅, []⟩

/-- `_is_ignored`. -/
def isIgnored (b : InotifyBackend) (path : Str) : Bool :=
  (split path).any fun segment => segment ∈ b.ignoreDirs

/-- `_add_watch`; a failing `add_watch` is logged and skipped. -/
def addWatch (t : Tree) (b : InotifyBackend) (path : Str) : InotifyBackend :=
  if path ∈ b.watches then b
  else
    match b.inotify.addWatch t path with
    | none => b
    | some (k, wd) => { b with inotify := k, watches := b.watches.insert path wd }

/-- One round of the loop in `_remove_watch_tree`. -/
def popWatch (b : InotifyBackend) (path : Str) : InotifyBackend :=
  match b.watches.lookup path with
  | none => b
  | some wd => { b with inotify := b.inotify.rmWatch wd, watches := b.watches.erase path }

/-- The test `p == root or p.startswith(root + os.sep)`. -/
def atOrUnder (root p : Str) : Bool :=
  p == root || startsWith p (root ++ [sep])

/-- `_remove_watch_tree`. -/
def removeWatchTree (b : InotifyBackend) (root : Str) : InotifyBackend :=
  (b.watches.keys.filter (atOrUnder root)).foldl popWatch b

/-- What `os.walk` may enter: the pruned `dirnames`. -/
def enters (b : InotifyBackend) (name : Name) : Bool :=
  name.val ∉ b.ignoreDirs

/-- The synthetic events for one directory of the walk below `root`. -/
def synthetic (root : Str) (l : Listing) : List FsEvent :=
  (if normalizePath l.dirpath ≠ root then [⟨normalizePath l.dirpath, .created, true⟩] else []) ++
    l.filenames.map fun name => ⟨normalizePath (join l.dirpath name.val), .created, false⟩

/-- One round of the loop in `_walk_add_watches`. -/
def visit (t : Tree) (root : Str) (acc : InotifyBackend × List FsEvent) (l : Listing) :
    InotifyBackend × List FsEvent :=
  if acc.1.isIgnored (normalizePath l.dirpath) then acc
  else (acc.1.addWatch t (normalizePath l.dirpath), acc.2 ++ synthetic root l)

/-- `_walk_add_watches`. -/
def walkAddWatches (t : Tree) (b : InotifyBackend) (root : Str) : InotifyBackend × List FsEvent :=
  (walk t b.enters t.height root).foldl (visit t root) (b, [])

/-- One round of the second loop in `set_roots`. -/
def addRoot (t : Tree) (b : InotifyBackend) (added : Str) : InotifyBackend :=
  if isdir t added && !b.isIgnored added then (b.walkAddWatches t added).1 else b

/-- `set_roots`. The iteration order of the sets is the order of the lists. -/
def setRoots (t : Tree) (b : InotifyBackend) (roots : List Str) : InotifyBackend :=
  let newRoots := (roots.map normalizePath).dedup
  -- roots that go lose their watches before the new ones get theirs
  let b' := (b.roots.filter (· ∉ newRoots)).foldl removeWatchTree b
  let b'' := (newRoots.filter (· ∉ b.roots)).foldl (addRoot t) b'
  { b'' with roots := newRoots }

/-- The resync after a queue overflow: one walk per root, in sorted order. -/
def resync (t : Tree) (b : InotifyBackend) : InotifyBackend × List FsEvent :=
  (b.roots.insertionSort (· ≤ ·)).foldl (fun acc root =>
    let (b', out) := acc.1.walkAddWatches t root
    (b', acc.2 ++ out)) (b, [])

/-- The body of the loop in `events`, for one raw event; the second component is yielded. -/
def handle (t : Tree) (b : InotifyBackend) (event : RawEvent) : InotifyBackend × List FsEvent :=
  if event.mask &&& IN_Q_OVERFLOW ≠ 0 then b.resync t
  else
    -- the library knows no path for the descriptor any more
    match event.path with
    | none => (b, [])
    | some pathObj =>
      let path := normalizePath pathObj
      if b.isIgnored path then (b, [])
      else
        match maskToEventType event.mask with
        | none => (b, [])
        | some eventType =>
          let isDir := maskIsDir event.mask
          if isDir && (eventType == .created || eventType == .movedTo) then
            -- what came into the directory before its watch is announced by the walk
            let (b', out) := b.walkAddWatches t path
            (b', ⟨path, eventType, true⟩ :: out)
          else if isDir && (eventType == .deleted || eventType == .movedFrom) then
            -- the watches of a directory that has moved would go on under its old path
            (b.removeWatchTree path, [⟨path, eventType, true⟩])
          else (b, [⟨path, eventType, isDir⟩])

end InotifyBackend
end MediaScanMonitor
