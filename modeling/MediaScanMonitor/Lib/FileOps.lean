import MediaScanMonitor.Lib.Reports

/-!
# System calls on files

A system call that is about a regular file leaves every directory in its place. What it queues are the
changes of names that it makes, each as the watch of the directory reports it.
-/

namespace Inotify
open Text PosixPath Os

/-- A change of one name in a directory, which is not the name of a directory itself. -/
structure FileChange where
  dir : List Name
  name : Name
  kind : Kind
deriving DecidableEq

def FileChange.path (c : FileChange) : List Name :=
  c.dir ++ [c.name]

/-- The system call is about a regular file. -/
def FsOp.OnFile (t : Tree) : FsOp → Prop
  | .make dir _ _ => dir = false
  | .remove q n => t.isDir (q ++ [n]) = false
  | .rename q n _ _ => t.isDir (q ++ [n]) = false

/-- The names that a system call changes. A file that a rename replaces is not reported. -/
def FsOp.changes : FsOp → List FileChange
  | .make _ q n => [⟨q, n, .create⟩]
  | .remove q n => [⟨q, n, .delete⟩]
  | .rename q n r m => [⟨q, n, .movedFrom⟩, ⟨r, m, .movedTo⟩]

instance (t : Tree) : DecidablePred (FsOp.OnFile t)
  | .make dir _ _ => inferInstanceAs (Decidable (dir = false))
  | .remove q n => inferInstanceAs (Decidable (t.isDir (q ++ [n]) = false))
  | .rename q n _ _ => inferInstanceAs (Decidable (t.isDir (q ++ [n]) = false))

variable {t t' : Tree} {o : FsOp} {k : Kernel} {c : FileChange} {p : List Name}

/-- Each change is reported by its directory. -/
lemma FsOp.events_onFile (hf : o.OnFile t) :
    o.events k t = o.changes.flatMap fun c => k.report t c.dir c.kind false c.name := by
  cases o with
  | make dir q n =>
    obtain rfl : dir = false := hf
    exact (List.append_nil _).symm
  | remove q n =>
    have hf : t.isDir (q ++ [n]) = false := hf
    rw [FsOp.events, hf]
    exact (List.append_nil _).symm
  | rename q n r m =>
    have hf : t.isDir (q ++ [n]) = false := hf
    rw [FsOp.events, hf]
    show _ = k.report t q .movedFrom false n ++ (k.report t r .movedTo false m ++ [])
    rw [List.append_nil]

/-- Names change in directories. -/
lemma FsOp.isDir_of_changes (h : o.run t = some t') (hc : c ∈ o.changes) : t.isDir c.dir = true := by
  have hparent : ∀ {q n}, (t.node (q ++ [n])).isSome = true → t.isDir q = true := by
    intro q n hsome
    obtain ⟨nd, hnd⟩ := Option.isSome_iff_exists.1 hsome
    exact FileTree.isDir_iff.2 (t.parent hnd)
  cases o with
  | make dir q n =>
    obtain rfl := List.mem_singleton.1 hc
    exact (FileTree.make_spec h).1
  | remove q n =>
    obtain rfl := List.mem_singleton.1 hc
    exact hparent (FileTree.remove_spec h).1
  | rename q n r m =>
    obtain ⟨hsome, hr, -⟩ := FileTree.rename_spec h
    rcases List.mem_cons.1 hc with rfl | hc
    · exact hparent hsome
    · obtain rfl := List.mem_singleton.1 hc
      exact hr

/-- No changed name is that of a directory. -/
lemma FsOp.not_isDir_of_changes (hf : o.OnFile t) (h : o.run t = some t') (hc : c ∈ o.changes) :
    t.isDir c.path = false := by
  cases o with
  | make dir q n =>
    obtain rfl := List.mem_singleton.1 hc
    rw [FileTree.isDir, FileChange.path, (FileTree.make_spec h).2.1]
    rfl
  | remove q n =>
    obtain rfl := List.mem_singleton.1 hc
    exact hf
  | rename q n r m =>
    rcases List.mem_cons.1 hc with rfl | hc
    · exact hf
    · obtain rfl := List.mem_singleton.1 hc
      by_contra hdir
      obtain ⟨i, hi⟩ := FileTree.isDir_iff.1 (Bool.not_eq_false _ ▸ hdir)
      have htarget : t.node (r ++ [m] ++ []) = some ⟨true, i⟩ := by
        rw [List.append_nil]
        exact hi
      have hkind := (FileTree.rename_target h htarget).2
      have hf : t.isDir (q ++ [n]) = false := hf
      rw [hf] at hkind
      cases hkind

/-- What is or becomes a directory has stayed in place. -/
lemma FsOp.node_onFile (hf : o.OnFile t) (h : o.run t = some t')
    (hp : t.isDir p = true ∨ t'.isDir p = true) : t'.node p = t.node p := by
  -- a directory is not at or below the name of a file
  have hapart : ∀ {x}, t.isDir x = false → ¬(x <+: p ∧ t.isDir p = true) := by
    rintro x hx ⟨hxp, hdir⟩
    rw [FileTree.isDir_above' hdir hxp] at hx
    cases hx
  cases o with
  | make dir q n =>
    obtain rfl : dir = false := hf
    obtain ⟨-, hnew, -, hnode⟩ := FileTree.make_spec h
    rw [hnode, if_neg]
    rintro rfl
    rcases hp with hp | hp
    · rw [FileTree.isDir, hnew] at hp
      cases hp
    · rw [FileTree.isDir, hnode, if_pos rfl] at hp
      cases hp
  | remove q n =>
    obtain ⟨-, -, -, hnode⟩ := FileTree.remove_spec h
    rw [hnode, if_neg]
    rintro rfl
    rcases hp with hp | hp
    · exact hapart hf ⟨List.prefix_rfl, hp⟩
    · rw [FileTree.isDir, hnode, if_pos rfl] at hp
      cases hp
  | rename q n r m =>
    have hf : t.isDir (q ++ [n]) = false := hf
    rcases FileTree.rename_cases h p with ⟨s, rfl, hn⟩ | ⟨ha, -, hn⟩ | ⟨-, -, hn⟩
    · rcases hp with hp | hp
      · obtain ⟨i, hi⟩ := FileTree.isDir_iff.1 hp
        have hkind := (FileTree.rename_target h hi).2
        rw [hf] at hkind
        cases hkind
      · rw [FileTree.isDir, hn] at hp
        have hsrc := FileTree.isDir_above' (t := t) hp (List.prefix_append _ _)
        rw [hf] at hsrc
        cases hsrc
    · rcases hp with hp | hp
      · exact (hapart hf ⟨ha, hp⟩).elim
      · rw [FileTree.isDir, hn] at hp
        cases hp
    · exact hn

lemma FsOp.isDir_onFile (hf : o.OnFile t) (h : o.run t = some t') : t'.isDir p = t.isDir p := by
  by_cases hp : t.isDir p = true ∨ t'.isDir p = true
  · rw [FileTree.isDir, FileTree.isDir, FsOp.node_onFile hf h hp]
  · rw [not_or, Bool.not_eq_true, Bool.not_eq_true] at hp
    rw [hp.1, hp.2]

end Inotify
