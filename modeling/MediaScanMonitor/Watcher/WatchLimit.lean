import MediaScanMonitor.Watcher.Roots

/-!
# The watch limit

`count_dirs` of `watcher/watch_limit.py` against the watches that `set_roots` attaches. The gate
counts every directory that a walk reaches; the backend keeps one watch for each path, and none for a
path with an ignored segment.
-/

namespace MediaScanMonitor
open Text PosixPath Os Inotify InotifyBackend

/-- `count_dirs`. -/
def countDirs (t : Tree) (roots ignoreDirs : List Str) : Nat :=
  roots.foldl
    (fun total root =>
      if !isdir t root then total
      else
        (walk t (fun name => name.val ∉ ignoreDirs) t.height root).foldl
          (fun total _ => total + 1) total) 0

/-- The directories that the walks of the roots reach, by the path they are watched under. -/
def reached (t : Tree) (ignoreDirs roots : List Str) : List Str :=
  roots.flatMap fun root =>
    (walk t (init ignoreDirs).enters t.height root).map fun l => normalizePath l.dirpath

/-- `add_watch` succeeds wherever the walks of the roots call it. -/
def WatchesSucceed (t : Tree) (ignoreDirs roots : List Str) : Prop :=
  ∀ root ∈ roots, ∀ p ∈ attached t (init ignoreDirs) root, (target t p).isSome = true

instance (t : Tree) (ignoreDirs roots : List Str) :
    Decidable (WatchesSucceed t ignoreDirs roots) := by
  unfold WatchesSucceed
  infer_instance

variable {t : Tree} {ign roots : List Str} {root p : Str}

lemma foldl_count {α : Type} (l : List α) (total : Nat) :
    l.foldl (fun total _ => total + 1) total = total + l.length := by
  induction l generalizing total with
  | nil => rfl
  | cons a l ih =>
    rw [List.foldl_cons, ih, List.length_cons]
    omega

/-- The gate counts what the walks reach. -/
lemma countDirs_eq : countDirs t roots ign = (reached t ign roots).length := by
  have hround : ∀ (total : Nat) (root : Str),
      (if !isdir t root then total
        else (walk t (fun name => name.val ∉ ign) t.height root).foldl
          (fun total _ => total + 1) total) =
        total + ((walk t (init ign).enters t.height root).map
          fun l => normalizePath l.dirpath).length := by
    intro total root
    rw [List.length_map]
    cases hd : isdir t root with
    | false =>
      rw [walk_of_not_dir (init ign).enters hd]
      rfl
    | true => exact foldl_count _ total
  have hfold : ∀ total, roots.foldl
      (fun total root =>
        if !isdir t root then total
        else (walk t (fun name => name.val ∉ ign) t.height root).foldl
          (fun total _ => total + 1) total) total = total + (reached t ign roots).length := by
    induction roots with
    | nil => exact fun _ => rfl
    | cons root rest ih =>
      intro total
      have hcons : reached t ign (root :: rest) =
          ((walk t (init ign).enters t.height root).map fun l => normalizePath l.dirpath) ++
            reached t ign rest := List.flatMap_cons
      rw [List.foldl_cons, hround, ih, hcons, List.length_append, Nat.add_assoc]
  exact (hfold 0).trans (Nat.zero_add _)

lemma mem_reached : p ∈ reached t ign roots ↔ ∃ root ∈ roots,
    ∃ l ∈ walk t (init ign).enters t.height root, normalizePath l.dirpath = p := by
  simp [reached]

/-- A fresh backend watches what is reached from a root that is shown, if it is shown. -/
lemma mem_setRoots_init (hset : roots.Nodup) (hnorm : ∀ r ∈ roots, normalizePath r = r)
    (hok : WatchesSucceed t ign roots) :
    p ∈ ((init ign).setRoots t roots).watches ↔ ∃ r ∈ roots, isdir t r = true ∧
      (init ign).isIgnored r = false ∧ p ∈ attached t (init ign) r := by
  have hroots : (newRoots roots).filter (· ∉ (init ign).roots) = roots := by
    have hnew : newRoots roots = roots := by
      rw [newRoots, List.map_congr_left hnorm, List.map_id', List.dedup_eq_self.2 hset]
    rw [hnew]
    exact List.filter_eq_self.2 fun _ _ => rfl
  rw [mem_setRoots, hroots]
  constructor
  · rintro (⟨h, -⟩ | ⟨r, hr, hd, hi, hp, -⟩)
    · cases h
    · exact ⟨r, hr, hd, hi, hp⟩
  · rintro ⟨r, hr, hd, hi, hp⟩
    exact .inr ⟨r, hr, hd, hi, hp, hok r hr p hp⟩

/-- Only what is reached is watched. -/
lemma reached_of_attached (hr : root ∈ roots) (hp : p ∈ attached t (init ign) root) :
    p ∈ reached t ign roots ∧ (init ign).isIgnored p = false := by
  obtain ⟨hp, hi⟩ := List.mem_filter.1 hp
  refine ⟨List.mem_flatMap.2 ⟨root, hr, hp⟩, ?_⟩
  simpa using hi

/-- Everything that is reached is watched exactly when nothing that is reached is ignored. -/
lemma reached_watched_iff (hset : roots.Nodup) (hnorm : ∀ r ∈ roots, normalizePath r = r)
    (hok : WatchesSucceed t ign roots) :
    (∀ p ∈ reached t ign roots, p ∈ ((init ign).setRoots t roots).watches) ↔
      ∀ p ∈ reached t ign roots, (init ign).isIgnored p = false := by
  constructor
  · intro h p hp
    obtain ⟨r, hr, -, -, hatt⟩ := (mem_setRoots_init hset hnorm hok).1 (h p hp)
    exact (reached_of_attached hr hatt).2
  · intro h p hp
    obtain ⟨r, hr, l, hl, rfl⟩ := mem_reached.1 hp
    have hd : isdir t r = true := by
      cases hd : isdir t r with
      | true => rfl
      | false =>
        rw [walk_of_not_dir _ hd] at hl
        cases hl
    have hi : (init ign).isIgnored r = false := by
      obtain ⟨l', hl', htop⟩ := mem_walk_of_dir (init ign).enters hd
      apply h r
      refine mem_reached.2 ⟨r, hr, l', hl', ?_⟩
      rw [htop, hnorm r hr]
    apply (mem_setRoots_init hset hnorm hok).2
    refine ⟨r, hr, hd, hi, List.mem_filter.2 ⟨List.mem_map_of_mem hl, ?_⟩⟩
    rw [h _ hp]
    rfl

/-- A list without repetitions is as long as one it lies in exactly when the other has none either
and lies in it. -/
lemma length_eq_iff_of_subset {α : Type} {l m : List α} (hl : l.Nodup) (hs : l ⊆ m) :
    m.length = l.length ↔ m.Nodup ∧ m ⊆ l := by
  constructor
  · intro hlen
    have hperm : l.Perm m := (List.subperm_of_subset hl hs).perm_of_length_le hlen.le
    exact ⟨hperm.nodup_iff.1 hl, hperm.symm.subset⟩
  · rintro ⟨hm, hms⟩
    exact Nat.le_antisymm (List.subperm_of_subset hm hms).length_le
      (List.subperm_of_subset hl hs).length_le

/-- The gate counts the watches of a fresh backend exactly when no directory is reached twice and
none that is reached has an ignored segment in its path. -/
theorem count_dirs_iff (hset : roots.Nodup) (hnorm : ∀ r ∈ roots, normalizePath r = r)
    (hok : WatchesSucceed t ign roots) :
    countDirs t roots ign = ((init ign).setRoots t roots).watches.keys.length ↔
      (reached t ign roots).Nodup ∧
        ∀ p ∈ reached t ign roots, (init ign).isIgnored p = false := by
  have hsub : ((init ign).setRoots t roots).watches.keys ⊆ reached t ign roots := by
    intro p hp
    obtain ⟨r, hr, -, -, hatt⟩ := (mem_setRoots_init hset hnorm hok).1 hp
    exact (reached_of_attached hr hatt).1
  rw [countDirs_eq, length_eq_iff_of_subset (AList.keys_nodup _) hsub]
  exact and_congr_right fun _ => reached_watched_iff hset hnorm hok

/-- Two libraries side by side, one with an ignored directory. -/
theorem count_dirs_iff_apart :
    let t : Tree := .ofList [(true, [], name "m"), (true, [name "m"], name "s"),
      (true, [name "m"], name "@tmp"), (true, [], name "n")]
    (countDirs t ["/m".toList, "/n".toList, "/x".toList] ["@tmp".toList] =
        ((init ["@tmp".toList]).setRoots t
          ["/m".toList, "/n".toList, "/x".toList]).watches.keys.length ↔
      (reached t ["@tmp".toList] ["/m".toList, "/n".toList, "/x".toList]).Nodup ∧
        ∀ p ∈ reached t ["@tmp".toList] ["/m".toList, "/n".toList, "/x".toList],
          (init ["@tmp".toList]).isIgnored p = false) ∧
      countDirs t ["/m".toList, "/n".toList, "/x".toList] ["@tmp".toList] = 3 :=
  ⟨count_dirs_iff (by decide) (by decide) (by decide), by decide⟩

/-- A root below another is counted twice, and one in an ignored directory is counted though it is
not watched. -/
theorem count_dirs_differs :
    WatchesSucceed libraryTree [] ["/m".toList, "/m/s".toList] ∧
      countDirs libraryTree ["/m".toList, "/m/s".toList] [] = 3 ∧
      ((init []).setRoots libraryTree ["/m".toList, "/m/s".toList]).watches.keys.length = 2 ∧
      WatchesSucceed libraryTree ["m".toList] ["/m/s".toList] ∧
      countDirs libraryTree ["/m/s".toList] ["m".toList] = 1 ∧
      ((init ["m".toList]).setRoots libraryTree ["/m/s".toList]).watches.keys.length = 0 := by
  decide

end MediaScanMonitor
