import MediaScanMonitor.Db.Validation
import MediaScanMonitor.Pipeline.Routing
import MediaScanMonitor.Watcher.Watches

/-!
# The folder picker

`web/fsbrowse.py`, on whatever `os` shows of a file system: an entry may be a symbolic link to a
directory, or fail to tell what it is. The picker starts at `/` and goes down from listing to
listing. What it displays is stored as it is, and watched, unless its name ends in white space or
one of the ignored directories that the picker does not hide is on the way.
-/

namespace MediaScanMonitor
open Text PosixPath

/-- `os.DirEntry`; `is_dir(follow_symlinks=True)` is `none` where it raises an `OSError`. -/
structure DirEntry where
  name : Name
  isDir : Option Bool

/-- What `os` shows of a file system. -/
structure Disk where
  cwd : Str
  /-- `os.path.isdir`. -/
  isdir : Str → Bool
  /-- `os.scandir`; `none` is an `OSError`. -/
  scandir : Str → Option (List DirEntry)
  /-- What can be listed is a directory. -/
  isdir_of_scandir : ∀ {path found}, scandir path = some found → isdir path = true

/-- `os.path.abspath`. -/
def Disk.abspath (disk : Disk) (path : Str) : Str :=
  normpath (if isabs path then path else join disk.cwd path)

/-- `os.path.dirname`. -/
def dirname (path : Str) : Str :=
  let head := (rpartition path sep).1 ++ (rpartition path sep).2.1
  if head.any (· ≠ sep) then rstripChar head sep else head

def IGNORED_DIR_NAMES : List Str :=
  ["@eaDir".toList, "#snapshot".toList]

def MAX_ENTRIES : Nat := 1000

/-- `FsEntry`. -/
structure FsEntry where
  name : Name
  path : Str

/-- `DirListing`. -/
structure DirListing where
  path : Str
  parent : Option Str
  entries : List FsEntry
  truncated : Bool

/-- The loop of `list_directory`: the entries and `truncated`. -/
def collect (target : Str) : List DirEntry → List FsEntry → List FsEntry × Bool
  | [], entries => (entries, false)
  | entry :: rest, entries =>
    if entry.name.val ∈ IGNORED_DIR_NAMES then collect target rest entries
    else
      match entry.isDir with
      | some true =>
        if entries.length ≥ MAX_ENTRIES then (entries, true)
        else collect target rest (entries ++ [⟨entry.name, join target entry.name.val⟩])
      | some false => collect target rest entries
      -- a single entry that fails does not blank the listing
      | none => collect target rest entries

/-- `list_directory`; `none` is the `OSError` of `os.scandir`. -/
def listDirectory (lower : Str → Str) (disk : Disk) (path : Str) : Option DirListing :=
  let target := normpath (disk.abspath (if path = [] then [sep] else path))
  (disk.scandir target).map fun found =>
    { path := target
      parent := if dirname target = target then none else some (dirname target)
      entries := (collect target found []).1.insertionSort fun a b =>
        lower a.name.val ≤ lower b.name.val
      truncated := (collect target found []).2 }

/-- The listings that the picker can display, by the names of the entries that lead to them. -/
inductive Displayed (lower : Str → Str) (disk : Disk) : List Name → DirListing → Prop
  | root {listing} :
    listDirectory lower disk [sep] = some listing →
    Displayed lower disk [] listing
  | descend {names listing entry below} :
    Displayed lower disk names listing →
    entry ∈ listing.entries →
    listDirectory lower disk entry.path = some below →
    Displayed lower disk (names ++ [entry.name]) below

/-- `set_roots` does not skip a new root. -/
def attaches (disk : Disk) (b : InotifyBackend) (root : Str) : Bool :=
  disk.isdir (normalizePath root) && !b.isIgnored (normalizePath root)

/-- `FolderCreate(path=p).path == p`. -/
def StoredAs (lower : Str → Str) (p : Str) : Prop :=
  ∃ data, FolderCreate.validate lower { path := p } = .ok data ∧ data.path = p

variable {lower : Str → Str} {disk : Disk} {names : List Name} {listing : DirListing}

lemma mem_collect {target : Str} {entry : FsEntry} {found : List DirEntry} {entries : List FsEntry}
    (h : entry ∈ (collect target found entries).1) : entry ∈ entries ∨
      entry.path = join target entry.name.val ∧ entry.name.val ∉ IGNORED_DIR_NAMES := by
  induction found generalizing entries with
  | nil => exact .inl h
  | cons e rest ih =>
    rw [collect] at h
    split at h
    · exact ih h
    · next hname =>
      split at h
      · split at h
        · exact .inl h
        · rcases ih h with h | h
          · rcases List.mem_append.1 h with h | h
            · exact .inl h
            · rw [List.mem_singleton.1 h]
              exact .inr ⟨rfl, hname⟩
          · exact .inr h
      · exact ih h
      · exact ih h

/-- A path is its own target. -/
lemma abspath_render (disk : Disk) (p : List Name) : disk.abspath (render p) = render p := by
  rw [Disk.abspath, if_pos (isabs_render p), normpath_render]

/-- What the listing of a path holds. -/
lemma listDirectory_render {p : List Name} (h : listDirectory lower disk (render p) = some listing) :
    listing.path = render p ∧ disk.isdir (render p) = true ∧
      listing.parent = (if dirname (render p) = render p then none else some (dirname (render p))) ∧
      ∀ entry ∈ listing.entries,
        entry.path = render (p ++ [entry.name]) ∧ entry.name.val ∉ IGNORED_DIR_NAMES := by
  have hne : render p ≠ [] := by
    rw [render_eq_intercalate]
    exact List.cons_ne_nil _ _
  unfold listDirectory at h
  rw [if_neg hne, abspath_render, normpath_render] at h
  obtain ⟨found, hfound, rfl⟩ := Option.map_eq_some_iff.1 h
  refine ⟨rfl, disk.isdir_of_scandir hfound, rfl, fun entry he => ?_⟩
  rcases mem_collect ((List.mem_insertionSort _).1 he) with hnil | ⟨hpath, hname⟩
  · cases hnil
  · rw [hpath, join_render]
    exact ⟨rfl, hname⟩

/-- The picker leads to the directory that the names say, and through no directory that it hides. -/
lemma Displayed.path_eq (h : Displayed lower disk names listing) :
    listing.path = render names ∧ disk.isdir listing.path = true ∧
      (∀ n ∈ names, n.val ∉ IGNORED_DIR_NAMES) ∧
      ∀ entry ∈ listing.entries,
        entry.path = render (names ++ [entry.name]) ∧ entry.name.val ∉ IGNORED_DIR_NAMES := by
  induction h with
  | root h =>
    obtain ⟨hpath, hdir, -, hentries⟩ := listDirectory_render (p := []) h
    rw [hpath]
    exact ⟨rfl, hdir, List.forall_mem_nil _, hentries⟩
  | descend _ he h ih =>
    obtain ⟨-, -, hnames, hentries⟩ := ih
    obtain ⟨hentry, hname⟩ := hentries _ he
    rw [hentry] at h
    obtain ⟨hpath, hdir, -, hbelow⟩ := listDirectory_render h
    rw [hpath]
    refine ⟨rfl, hdir, fun n hn => ?_, hbelow⟩
    rcases List.mem_append.1 hn with hn | hn
    · exact hnames n hn
    · rw [List.mem_singleton.1 hn]
      exact hname

/-- The parent of a directory is the one that its entry was picked in. -/
lemma dirname_render (p : List Name) (n : Name) : dirname (render (p ++ [n])) = render p := by
  unfold dirname
  rw [← rstrip_render, show '/' = sep from rfl, rpartition_append n.sep_notMem]
  cases p with
  | nil => rfl
  | cons m p =>
    have hself := rstripChar_render (List.cons_ne_nil m p)
    rw [show rstripChar (render (m :: p)) sep = render (m :: p) from hself]
    obtain ⟨c, cs, hm⟩ := List.exists_cons_of_ne_nil m.ne_nil
    have hc : c ≠ sep := fun h => m.sep_notMem (hm ▸ h ▸ List.mem_cons_self)
    have hmem : c ∈ render (m :: p) ++ [sep] := by
      apply List.mem_append_left
      show c ∈ (m :: p).flatMap _
      rw [List.flatMap_cons, hm]
      simp
    have hany : (render (m :: p) ++ [sep]).any (· ≠ sep) = true :=
      List.any_eq_true.2 ⟨c, hmem, decide_eq_true hc⟩
    dsimp only
    rw [if_pos hany]
    exact (List.rdropWhile_concat_pos (· == sep) _ sep (beq_self_eq_true sep)).trans hself

/-- Every listing but the first leads back up. -/
lemma Displayed.parent_eq (h : Displayed lower disk names listing) :
    listing.parent = if names = [] then none else some (render names.dropLast) := by
  cases h with
  | root h =>
    rw [(listDirectory_render (p := []) h).2.2.1]
    rfl
  | @descend names above entry _ h he hbelow =>
    rw [(h.path_eq.2.2.2 entry he).1] at hbelow
    rw [(listDirectory_render hbelow).2.2.1, dirname_render, List.dropLast_concat]
    have hne : render names ≠ render (names ++ [entry.name]) := by
      intro heq
      have hlen := congrArg List.length (render_injective heq)
      rw [List.length_append, List.length_singleton] at hlen
      exact Nat.succ_ne_self _ hlen.symm
    rw [if_neg hne, if_neg (by simp)]

lemma storedAs_iff {p : List Name} : StoredAs lower (render p) ↔ ¬SpaceAtEnd p := by
  rw [← plain_iff]
  constructor
  · rintro ⟨data, hv, hdata⟩
    rw [Plain, ← (FolderCreate.validate_ok hv).1]
    exact hdata
  · intro hplain
    have habs : isabs (normalizePath (render p)) = true := by
      rw [hplain]
      exact isabs_render p
    obtain ⟨data, hv⟩ := (FolderCreate.validate_isOk lower { path := render p }).2 habs
    exact ⟨data, hv, (FolderCreate.validate_ok hv).1.trans hplain⟩

/-- What is hidden from the picker is ignored by the watcher, which ignores two names more. -/
lemma shown_iff (h : ∀ n ∈ names, n.val ∉ IGNORED_DIR_NAMES) :
    (InotifyBackend.init IGNORE_DIRS).isIgnored (render names) = false ↔
      ∀ n ∈ names, n.val ≠ "#recycle".toList ∧ n.val ≠ "@tmp".toList := by
  have hshown := InotifyBackend.shown_append (b := .init IGNORE_DIRS) (d := []) (s := names)
  have hroot : (InotifyBackend.init IGNORE_DIRS).isIgnored (render []) = false := by decide
  rw [List.nil_append, and_iff_right hroot] at hshown
  rw [hshown]
  apply forall₂_congr
  intro n hn
  have hmore : IGNORE_DIRS = IGNORED_DIR_NAMES ++ ["#recycle".toList, "@tmp".toList] := rfl
  show decide (n.val ∉ IGNORE_DIRS) = true ↔ _
  rw [decide_eq_true_iff, hmore, List.mem_append, not_or, and_iff_right (h n hn), List.mem_cons,
    List.mem_singleton, not_or]

/-- A displayed directory is stored as it is and watched. -/
def Watchable (lower : Str → Str) (disk : Disk) (p : Str) : Prop :=
  StoredAs lower p ∧ attaches disk (InotifyBackend.init IGNORE_DIRS) p = true

lemma watchable_iff (h : Displayed lower disk names listing) :
    Watchable lower disk listing.path ↔
      ¬SpaceAtEnd names ∧ ∀ n ∈ names, n.val ≠ "#recycle".toList ∧ n.val ≠ "@tmp".toList := by
  obtain ⟨hpath, hdir, hnames, -⟩ := h.path_eq
  rw [Watchable, hpath, storedAs_iff]
  rw [hpath] at hdir
  apply and_congr_right
  intro hspace
  have hplain : normalizePath (render names) = render names := plain_iff.2 hspace
  rw [attaches, hplain, hdir, Bool.true_and, Bool.not_eq_true', shown_iff hnames]

/-- The file system of a tree without symbolic links. -/
def Disk.ofTree (t : Os.Tree) : Disk where
  cwd := [sep]
  isdir := Os.isdir t
  scandir path := (Os.scandir t path).map fun found =>
    found.1.map (⟨·, some true⟩) ++ found.2.map (⟨·, some false⟩)
  isdir_of_scandir := by
    intro path found h
    obtain ⟨listed, hlisted, -⟩ := Option.map_eq_some_iff.1 h
    obtain ⟨p, hp, hscan⟩ := Option.bind_eq_some_iff.1 hlisted
    refine Os.isdir_iff.2 ⟨p, hp, ?_⟩
    unfold FileTree.scandir at hscan
    split at hscan
    · assumption
    · cases hscan

/-- In a tree, what is not skipped has a watch afterwards. -/
lemma setRoots_single {t : Os.Tree} {p : Str} (hp : normalizePath p = p) :
    p ∈ (InotifyBackend.setRoots t (.init IGNORE_DIRS) [p]).watches ↔
      attaches (.ofTree t) (.init IGNORE_DIRS) p = true := by
  have hroots : InotifyBackend.setRoots t (.init IGNORE_DIRS) [p] =
      { InotifyBackend.addRoot t (.init IGNORE_DIRS) p with roots := [p] } := by
    unfold InotifyBackend.setRoots
    rw [List.map_singleton, hp]
    rfl
  have hadd : InotifyBackend.addRoot t (.init IGNORE_DIRS) p =
      if attaches (.ofTree t) (.init IGNORE_DIRS) p then
        (InotifyBackend.walkAddWatches t (.init IGNORE_DIRS) p).1
      else .init IGNORE_DIRS := by
    unfold attaches
    rw [hp]
    rfl
  rw [hroots, hadd]
  by_cases h : attaches (.ofTree t) (.init IGNORE_DIRS) p = true
  · rw [if_pos h]
    refine iff_of_true (InotifyBackend.mem_walkAddWatches.2 (.inr ?_)) h
    rw [attaches, hp, Bool.and_eq_true] at h
    refine ⟨?_, ?_⟩
    · obtain ⟨l, hl, hdir⟩ := InotifyBackend.mem_walk_of_dir _ h.1
      exact List.mem_filter.2 ⟨List.mem_map.2 ⟨l, hl, by rw [hdir, hp]⟩, h.2⟩
    · obtain ⟨q, hq, hdir⟩ := Os.isdir_iff.1 h.1
      obtain ⟨i, hi⟩ := FileTree.isDir_iff.1 hdir
      unfold InotifyBackend.target
      rw [hq, Option.bind_some, hi]
      rfl
  · rw [if_neg h]
    refine iff_of_false ?_ h
    intro hmem
    cases hmem

/-- A displayed directory is stored as it is and watched exactly when its name does not end in white
space and neither `#recycle` nor `@tmp` is on the way. -/
theorem displayed_watchable_iff (h : Displayed lower disk names listing) :
    (Watchable lower disk listing.path ↔
      ¬SpaceAtEnd names ∧ ∀ n ∈ names, n.val ≠ "#recycle".toList ∧ n.val ≠ "@tmp".toList) ∧
    ∀ t, disk = .ofTree t →
      (StoredAs lower listing.path ∧
          listing.path ∈ (InotifyBackend.setRoots t (.init IGNORE_DIRS) [listing.path]).watches ↔
        ¬SpaceAtEnd names ∧ ∀ n ∈ names, n.val ≠ "#recycle".toList ∧ n.val ≠ "@tmp".toList) := by
  refine ⟨watchable_iff h, fun t ht => ?_⟩
  subst ht
  rw [← watchable_iff h, Watchable]
  apply and_congr_right
  rintro ⟨data, hv, hdata⟩
  exact setRoots_single ((FolderCreate.validate_ok hv).1.symm.trans hdata)

/-- A volume with one directory. -/
def volume (n : Name) : Os.Tree :=
  .ofList [(true, [], n)]

/-- A directory of the library is stored as it is, and watched. -/
theorem displayed_watchable_iff_media :
    ∃ listing, Displayed lowerAscii (.ofTree (volume (name "media"))) [name "media"] listing ∧
      StoredAs lowerAscii listing.path ∧
      listing.path ∈ (InotifyBackend.setRoots (volume (name "media")) (.init IGNORE_DIRS)
        [listing.path]).watches := by
  have hroot : listDirectory lowerAscii (.ofTree (volume (name "media"))) [sep] =
      some ⟨[sep], none, [⟨name "media", "/media".toList⟩], false⟩ := rfl
  have hmedia : listDirectory lowerAscii (.ofTree (volume (name "media"))) "/media".toList =
      some ⟨"/media".toList, some [sep], [], false⟩ := rfl
  have hd := (Displayed.root hroot).descend (List.mem_singleton_self _) hmedia
  exact ⟨_, hd, ((displayed_watchable_iff hd).2 _ rfl).2 (by decide)⟩

/-- The recycle bin of a volume is offered, and skipped by the watcher. -/
theorem displayed_not_watchable :
    ¬ ∀ (lower : Str → Str) (disk : Disk) (names : List Name) (listing : DirListing),
      Displayed lower disk names listing → Watchable lower disk listing.path := by
  intro h
  have hroot : listDirectory lowerAscii (.ofTree (volume (name "#recycle"))) [sep] =
      some ⟨[sep], none, [⟨name "#recycle", "/#recycle".toList⟩], false⟩ := rfl
  have hbin : listDirectory lowerAscii (.ofTree (volume (name "#recycle"))) "/#recycle".toList =
      some ⟨"/#recycle".toList, some [sep], [], false⟩ := rfl
  have hd := (Displayed.root hroot).descend (List.mem_singleton_self _) hbin
  have hattaches := (h _ _ _ _ hd).2
  exact absurd hattaches (by decide)

end MediaScanMonitor
