import MediaScanMonitor.Lib.FileTree
import MediaScanMonitor.Lib.PosixPath

/-!
# The file functions of `os`

`os.path.isdir`, `os.scandir` and `os.walk` on a directory tree, addressed by path texts. `walk` is
the top-down walk without `followlinks`: a directory is listed completely, handed to the caller, who
may prune the list of subdirectories in place, and only then are the remaining ones entered.
-/

namespace Os
open Text PosixPath

/-- A directory tree with ordinary entry names. -/
abbrev Tree := FileTree Name

/-- `os.path.isdir(path)`. -/
def isdir (t : Tree) (path : Str) : Bool :=
  (resolve path).any t.isDir

/-- `os.scandir(path)`, sorted into subdirectories and other entries; `none` is an `OSError`. -/
def scandir (t : Tree) (path : Str) : Option (List Name × List Name) :=
  (resolve path).bind t.scandir

/-- One triple that `os.walk` yields: the directory, its subdirectories and its other entries. -/
structure Listing where
  dirpath : Str
  dirnames : List Name
  filenames : List Name

/-- `os.walk(top)` whose caller keeps the subdirectories that satisfy `keep`. The first argument
bounds the depth; `t.height` is always enough. -/
def walk (t : Tree) (keep : Name → Bool) : Nat → Str → List Listing
  | 0, _ => []
  | k + 1, top =>
    match scandir t top with
    | none => []
    | some (dirs, files) =>
      ⟨top, dirs.filter keep, files⟩ ::
        (dirs.filter keep).flatMap fun d => walk t keep k (join top d.val)

/-- A name joined to any path text leads one entry further down. -/
lemma resolve_join (d : Str) (n : Name) :
    resolve (join d n.val) = (resolve d).map (· ++ [n]) := by
  have hn : startsWith n.val [sep] = false := by
    rw [Bool.eq_false_iff]
    intro h
    obtain ⟨s, hs⟩ := startsWith_iff.1 h
    exact n.sep_notMem (by rw [← hs]; simp)
  have hsplit : ∀ e : Str, split (e ++ sep :: n.val) = split e ++ [n.val] := by
    intro e
    rw [split, List.splitOn_append_cons_self, List.splitOn_eq_singleton n.sep_notMem]
    rfl
  have hmap : ∀ l : List Str, (l ++ [n.val]).mapM toName = (l.mapM toName).map (· ++ [n]) := by
    intro l
    rw [List.mapM_append]
    cases l.mapM toName <;> simp
  rw [join, if_neg (by simp [hn])]
  by_cases he : d = [] ∨ endsWithChar d sep = true
  · rw [if_pos he]
    rcases he with rfl | he
    · rw [List.nil_append, resolve, split, List.splitOn_eq_singleton n.sep_notMem]
      simp [resolve, split, n.ne_nil]
    · obtain ⟨e, rfl⟩ : ∃ e, d = e ++ [sep] := by
        rw [endsWithChar, beq_iff_eq] at he
        exact ⟨d.dropLast, (List.dropLast_append_getLast? _ he).symm⟩
      have h1 : split (e ++ [sep]) = split e ++ [[]] := by
        rw [split, List.splitOn_append_cons_self]
        rfl
      rw [List.append_assoc, List.singleton_append, resolve, hsplit, resolve, h1,
        List.filter_append, List.filter_append]
      simp [n.ne_nil, hmap]
  · rw [if_neg he, resolve, hsplit, resolve, List.filter_append]
    simp [n.ne_nil, hmap]

/-- Names joined one after the other lead down the tree. -/
lemma resolve_joinAll {top : Str} {p : List Name} (h : resolve top = some p) (s : List Name) :
    resolve (joinAll top s) = some (p ++ s) := by
  induction s generalizing top p with
  | nil => simpa [joinAll] using h
  | cons n s ih =>
    have h1 : resolve (join top n.val) = some (p ++ [n]) := by simp [resolve_join, h]
    simpa [joinAll] using ih h1

lemma isdir_iff {t : Tree} {path : Str} :
    isdir t path = true ↔ ∃ p, resolve path = some p ∧ t.isDir p = true := by
  unfold isdir
  cases resolve path <;> simp

@[simp] lemma isdir_render (t : Tree) (p : List Name) : isdir t (render p) = t.isDir p := by
  simp [isdir]

/-- A walk yields exactly the directories below `top` that can be reached through kept names. -/
lemma mem_walk {t : Tree} {keep : Name → Bool} {k : Nat} {top : Str} {p : List Name}
    (hp : resolve top = some p) {l : Listing} :
    l ∈ walk t keep k top ↔ ∃ s : List Name, s.length < k ∧ (∀ n ∈ s, keep n = true) ∧
      t.isDir (p ++ s) = true ∧ l = ⟨joinAll top s,
        ((t.children (p ++ s)).filter fun n => t.isDir (p ++ s ++ [n])).filter keep,
        (t.children (p ++ s)).filter fun n => !t.isDir (p ++ s ++ [n])⟩ := by
  induction k generalizing top p with
  | zero => simp [walk]
  | succ k ih =>
    have hs : scandir t top = t.scandir p := by simp [scandir, hp]
    rw [walk, hs, FileTree.scandir]
    by_cases hd : t.isDir p = true
    · rw [if_pos hd]
      have hj : ∀ n : Name, resolve (join top n.val) = some (p ++ [n]) := by
        intro n
        simp [resolve_join, hp]
      simp only [List.mem_cons, List.mem_flatMap, List.mem_filter, FileTree.mem_children]
      constructor
      · rintro (rfl | ⟨n, ⟨⟨-, hn⟩, hk⟩, hl⟩)
        · exact ⟨[], by simp, by simp, by simpa using hd, by simp [joinAll]⟩
        · obtain ⟨s, hlen, hall, hdir, rfl⟩ := (ih (hj n)).1 hl
          refine ⟨n :: s, by simpa using hlen, ?_, by simpa using hdir, by simp [joinAll]⟩
          intro m hm
          rcases List.mem_cons.1 hm with rfl | hm
          · exact hk
          · exact hall m hm
      · rintro ⟨s, hlen, hall, hdir, rfl⟩
        cases s with
        | nil => left; simp [joinAll]
        | cons n s =>
          right
          have hn : t.isDir (p ++ [n]) = true :=
            FileTree.isDir_above' hdir ⟨s, by simp⟩
          obtain ⟨i, hi⟩ := FileTree.isDir_iff.1 hn
          refine ⟨n, ⟨⟨by simp [hi], hn⟩, hall n (by simp)⟩, (ih (hj n)).2 ⟨s, by simpa using hlen,
            fun m hm => hall m (by simp [hm]), by simpa using hdir, by simp [joinAll]⟩⟩
    · rw [if_neg hd]
      constructor
      · intro h; cases h
      · rintro ⟨s, -, -, hdir, -⟩
        exact absurd (FileTree.isDir_above' hdir (List.prefix_append _ _)) hd

end Os
