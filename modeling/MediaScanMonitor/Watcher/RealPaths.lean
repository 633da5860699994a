import MediaScanMonitor.Watcher.Watches

/-!
# Real paths

`normalize_path` is applied to the paths that a walk lists and that events carry. It leaves all of
them alone exactly when no listed name ends in white space: `RealPaths` is what the backend then says
about the tree.
-/

namespace MediaScanMonitor
open Text PosixPath Os Inotify

namespace InotifyBackend
variable {t : Tree} {b : InotifyBackend} {root x : Str} {p : List Name}

/-- The directories of a walk for which a watch is requested. -/
def visited (t : Tree) (b : InotifyBackend) (root : Str) : List Listing :=
  (walk t b.enters t.height root).filter fun l => !b.isIgnored (normalizePath l.dirpath)

/-- What is to be said of a directory below `root` and of its files. -/
def actualEvents (root : Str) (l : Listing) : List FsEvent :=
  (if l.dirpath ≠ root then [⟨l.dirpath, .created, true⟩] else []) ++
    l.filenames.map fun name => ⟨join l.dirpath name.val, .created, false⟩

/-- The paths that the operating system reports: those of the entries of the directories that are
walked. -/
def reported (t : Tree) (b : InotifyBackend) (root : Str) : List Str :=
  (walk t b.enters t.height root).flatMap fun l =>
    match scandir t l.dirpath with
    | none => []
    | some (dirs, files) => (dirs ++ files).map fun n => join l.dirpath n.val

/-- The backend speaks of the entries below `root` by their paths. -/
structure RealPaths (t : Tree) (b : InotifyBackend) (root : Str) : Prop where
  watched : attached t b root = (visited t b root).map Listing.dirpath
  synthetic : (b.walkAddWatches t root).2 = (visited t b root).flatMap (actualEvents root)
  carried : ∀ x, x ∈ reported t b root → ∀ mask, mask &&& IN_Q_OVERFLOW = 0 → ∀ e rest,
    (b.handle t ⟨mask, some x⟩).2 = e :: rest →
    e.path = x ∧ (rest = [] ∨ rest = (visited t b x).flatMap (actualEvents x))
  unchanged : ∀ x, x ∈ reported t b root → normalizePath x = x

/-- The reported paths, by the names that lead to them. -/
lemma mem_reported (h : Normal root p) : x ∈ reported t b root ↔
    ∃ (s : List Name) (n : Name), (∀ m ∈ s, b.enters m = true) ∧ t.isDir (p ++ s) = true ∧
      n ∈ t.children (p ++ s) ∧ x = joinAll root (s ++ [n]) := by
  have hjoin : ∀ (s : List Name) (n : Name),
      join (joinAll root s) n.val = joinAll root (s ++ [n]) := by
    intro s n
    rw [joinAll, joinAll, List.foldl_append]
    rfl
  have hscan : ∀ s, t.isDir (p ++ s) = true → ∃ dirs files,
      scandir t (joinAll root s) = some (dirs, files) ∧
        ∀ n, n ∈ dirs ++ files ↔ n ∈ t.children (p ++ s) := by
    intro s hs
    have hr : resolve (joinAll root s) = some (p ++ s) := (h.joinAll s).resolve_eq
    rw [scandir, hr, Option.bind_some, FileTree.scandir, if_pos hs]
    refine ⟨_, _, rfl, fun n => ?_⟩
    rw [List.mem_append, List.mem_filter, List.mem_filter, ← and_or_left]
    cases t.isDir (p ++ s ++ [n]) <;> simp
  rw [reported, List.mem_flatMap]
  constructor
  · rintro ⟨l, hl, hx⟩
    obtain ⟨s, -, hk, hd, rfl⟩ := (mem_walk h.resolve_eq).1 hl
    obtain ⟨dirs, files, hs, hmem⟩ := hscan s hd
    simp only [hs, List.mem_map] at hx
    obtain ⟨n, hn, rfl⟩ := hx
    exact ⟨s, n, hk, hd, (hmem n).1 hn, hjoin s n⟩
  · rintro ⟨s, n, hk, hd, hn, rfl⟩
    obtain ⟨dirs, files, hs, hmem⟩ := hscan s hd
    obtain ⟨i, hi⟩ := FileTree.isDir_iff.1 hd
    have hlen := FileTree.length_lt_height hi
    rw [List.length_append] at hlen
    refine ⟨_, (mem_walk h.resolve_eq).2 ⟨s, by omega, hk, hd, rfl⟩, ?_⟩
    simp only [hs, List.mem_map]
    exact ⟨n, (hmem n).2 hn, hjoin s n⟩

/-- A reported path is changed when it ends in white space, and only then. -/
lemma unchanged_iff (h : Normal root p) (hx : x ∈ reported t b root) :
    normalizePath x = x ↔ ¬EndsInSpace x := by
  obtain ⟨s, n, -, -, -, rfl⟩ := (mem_reported h).1 hx
  have hn := h.joinAll (s ++ [n])
  rw [normalizePath_normal hn, endsInSpace_normal hn]

/-- Every directory of the walk below its root is reported. -/
lemma dirpath_unchanged (h : Normal root p) (hroot : normalizePath root = root)
    (hx : ∀ x, x ∈ reported t b root → normalizePath x = x) :
    ∀ l ∈ walk t b.enters t.height root, normalizePath l.dirpath = l.dirpath := by
  intro l hl
  obtain ⟨s, -, hk, hd, rfl⟩ := (mem_walk h.resolve_eq).1 hl
  rcases List.eq_nil_or_concat' s with rfl | ⟨q, n, rfl⟩
  · exact hroot
  · apply hx
    rw [← List.append_assoc] at hd
    obtain ⟨i, hi⟩ := FileTree.isDir_iff.1 hd
    refine (mem_reported h).2 ⟨q, n, fun m hm => hk m (List.mem_append_left _ hm),
      FileTree.isDir_above' hd (List.prefix_append _ _), ?_, rfl⟩
    exact FileTree.mem_children.2 (by rw [hi]; rfl)

/-- A walk whose paths are left alone. -/
lemma walk_real (h : Normal root p) (hroot : normalizePath root = root)
    (hx : ∀ x, x ∈ reported t b root → normalizePath x = x) :
    attached t b root = (visited t b root).map Listing.dirpath ∧
      (b.walkAddWatches t root).2 = (visited t b root).flatMap (actualEvents root) := by
  have hdir := dirpath_unchanged h hroot hx
  constructor
  · rw [attached, visited, List.filter_map]
    apply List.map_congr_left
    intro l hl
    exact hdir l (List.mem_of_mem_filter hl)
  · rw [walkAddWatches_eq]
    apply List.flatMap_congr
    intro l hl
    have hl := List.mem_of_mem_filter hl
    rw [synthetic, actualEvents, hdir l hl]
    congr 1
    apply List.map_congr_left
    intro n hn
    obtain ⟨s, -, hk, hd, rfl⟩ := (mem_walk h.resolve_eq).1 hl
    have hfile : normalizePath (join (joinAll root s) n.val) = join (joinAll root s) n.val := by
      apply hx
      refine (mem_reported h).2 ⟨s, n, hk, hd, List.mem_of_mem_filter hn, ?_⟩
      rw [joinAll, joinAll, List.foldl_append]
      rfl
    rw [hfile]

/-- What is reported below a reported directory that is not ignored is reported below the root. -/
lemma reported_below (h : Normal root p) (hx : x ∈ reported t b root) (hshown : b.isIgnored x = false)
    {y : Str} (hy : y ∈ reported t b x) : y ∈ reported t b root := by
  obtain ⟨s, n, hk, hd, hn, rfl⟩ := (mem_reported h).1 hx
  obtain ⟨q, m, hq, hdq, hm, rfl⟩ := (mem_reported (h.joinAll (s ++ [n]))).1 hy
  have hkept := ((shown_joinAll h.isabs).1 hshown).2
  have hassoc : p ++ (s ++ [n]) ++ q = p ++ (s ++ [n] ++ q) := List.append_assoc _ _ _
  rw [hassoc] at hdq hm
  refine (mem_reported h).2 ⟨s ++ [n] ++ q, m, fun k hmem => ?_, hdq, hm, ?_⟩
  · rcases List.mem_append.1 hmem with hmem | hmem
    · exact hkept k hmem
    · exact hq k hmem
  · rw [List.append_assoc, joinAll, joinAll, joinAll, ← List.foldl_append]

/-- The events that follow on one report: its own, then those of a walk. -/
lemma handle_events (mask : Nat) (hmask : mask &&& IN_Q_OVERFLOW = 0) {e : FsEvent}
    {rest : List FsEvent} (h : (b.handle t ⟨mask, some x⟩).2 = e :: rest) :
    e.path = normalizePath x ∧ b.isIgnored (normalizePath x) = false ∧
      (rest = [] ∨ rest = (b.walkAddWatches t (normalizePath x)).2) := by
  unfold handle at h
  rw [if_neg (fun hne => hne hmask)] at h
  dsimp only at h
  split at h
  · cases h
  · next hi =>
    have hi := Bool.eq_false_iff.2 hi
    split at h
    · cases h
    · split at h
      · cases h
        exact ⟨rfl, hi, .inr rfl⟩
      · split at h
        · cases h
          exact ⟨rfl, hi, .inl rfl⟩
        · cases h
          exact ⟨rfl, hi, .inl rfl⟩

/-- Below a root that is in normal form, the backend speaks of every entry by its path exactly when no
path that the operating system reports there ends in white space. -/
theorem real_paths_iff (habs : isabs root = true) (hroot : normalizePath root = root) :
    RealPaths t b root ↔ ∀ x, x ∈ reported t b root → ¬EndsInSpace x := by
  obtain ⟨p, h⟩ := normal_of_normalizePath habs hroot
  constructor
  · intro hreal x hx
    exact (unchanged_iff h hx).1 (hreal.unchanged x hx)
  · intro hends
    have hx : ∀ x, x ∈ reported t b root → normalizePath x = x := fun x hx =>
      (unchanged_iff h hx).2 (hends x hx)
    obtain ⟨hwatched, hevents⟩ := walk_real h hroot hx
    refine ⟨hwatched, hevents, fun x hrx mask hmask e rest he => ?_, hx⟩
    obtain ⟨hpath, hshown, hrest⟩ := handle_events mask hmask he
    rw [hx x hrx] at hpath hshown hrest
    refine ⟨hpath, hrest.imp_right fun hrest => ?_⟩
    obtain ⟨s, n, -, -, -, rfl⟩ := (mem_reported h).1 hrx
    rw [hrest]
    exact (walk_real (h.joinAll (s ++ [n])) (hx _ hrx)
      fun y hy => hx y (reported_below h hrx hshown hy)).2

/-- A library `/m` with a season in a series. -/
def seasonTree : Tree :=
  .ofList [(true, [], name "m"), (true, [name "m"], name "s 1"),
    (false, [name "m", name "s 1"], name "e.mkv")]

/-- Inside the names white space does no harm. -/
theorem real_paths_iff_season : RealPaths seasonTree (init []) "/m".toList :=
  (real_paths_iff rfl rfl).2 (by decide)

/-- A library with two series, whose names differ in a blank at the end. -/
def blankTree : Tree :=
  .ofList [(true, [], name "m"), (true, [name "m"], name "s"), (true, [name "m"], name "s "),
    (false, [name "m", name "s "], name "e.mkv")]

/-- The directory with the blank is not watched, and what happens in it is said of the other one. -/
theorem blank_not_real :
    ¬(∀ (t : Tree) (b : InotifyBackend) (root : Str), isabs root = true → normalizePath root = root →
        RealPaths t b root) ∧
      "/m/s ".toList ∉ attached blankTree (init []) "/m".toList ∧
      ((init []).handle blankTree ⟨IN_DELETE ||| IN_ISDIR, some "/m/s ".toList⟩).2 =
        [⟨"/m/s".toList, .deleted, true⟩] := by
  refine ⟨fun h => ?_, by decide, by decide⟩
  have hreal := h blankTree (init []) "/m".toList rfl rfl
  have hsame := hreal.unchanged "/m/s ".toList (by decide)
  revert hsame
  decide

end InotifyBackend
end MediaScanMonitor
