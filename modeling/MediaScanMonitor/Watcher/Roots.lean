import Mathlib.Data.Finset.Max
import MediaScanMonitor.Watcher.Watches

/-!
# Changing the watch roots

`set_roots` is a diff: it drops the trees of the roots that are gone and attaches those of the roots
that are new. What it should leave behind is `covered`, the directories a walk of the new roots
reaches. The two agree after every call exactly when every call satisfies `CallOk`: nothing that a
kept root covers lies textually below a dropped root, and everything that a dropped root covered
does.
-/

namespace MediaScanMonitor
open Text PosixPath Os Inotify InotifyBackend

/-- The non-ignored directories at or below some root, as `os.walk` reaches them. -/
def covered (t : Tree) (ignoreDirs roots : List Str) : List Str :=
  roots.flatMap fun root =>
    ((walk t (init ignoreDirs).enters t.height root).map Listing.dirpath).filter
      fun p => !(init ignoreDirs).isIgnored p

/-- The root set that `set_roots` stores. -/
def newRoots (roots : List Str) : List Str :=
  (roots.map normalizePath).dedup

/-- The backend after a sequence of `set_roots` calls. -/
def afterCalls (t : Tree) (ignoreDirs : List Str) (calls : List (List Str)) : InotifyBackend :=
  calls.foldl (setRoots t) (init ignoreDirs)

/-- The keys of `watches` are the covered directories. -/
def Exact (t : Tree) (b : InotifyBackend) (roots : List Str) : Prop :=
  ∀ p, p ∈ b.watches ↔ p ∈ covered t b.ignoreDirs roots

/-- When replacing the roots `old` by `new` has no side effects. -/
structure CallOk (t : Tree) (ignoreDirs old new : List Str) : Prop where
  /-- `normalize_path` leaves the text of every covered directory alone. -/
  plain : ∀ p ∈ covered t ignoreDirs new, normalizePath p = p
  /-- No dropped root takes a directory of a kept root with it. -/
  kept : ∀ p ∈ covered t ignoreDirs (new.filter (· ∈ old)), ∀ gone ∈ old.filter (· ∉ new),
    atOrUnder gone p = true → p ∈ covered t ignoreDirs (new.filter (· ∉ old))
  /-- Every directory of a dropped root is found by its text. -/
  dropped : ∀ p ∈ covered t ignoreDirs (old.filter (· ∉ new)),
    (∃ gone ∈ old.filter (· ∉ new), atOrUnder gone p = true) ∨ p ∈ covered t ignoreDirs new

variable {t : Tree} {b : InotifyBackend} {ign : List Str}

lemma attached_congr {c : InotifyBackend} (h : b.ignoreDirs = c.ignoreDirs) (root : Str) :
    attached t b root = attached t c root := by
  simp only [attached, isIgnored_congr h, enters_congr h]

lemma mem_covered {roots : List Str} {p : Str} :
    p ∈ covered t ign roots ↔ ∃ root ∈ roots,
      (∃ l ∈ walk t (init ign).enters t.height root, l.dirpath = p) ∧
        (init ign).isIgnored p = false := by
  simp [covered]

lemma covered_filter {roots : List Str} {f : Str → Bool} {p : Str}
    (h : p ∈ covered t ign roots) :
    p ∈ covered t ign (roots.filter f) ∨ p ∈ covered t ign (roots.filter fun r => !f r) := by
  obtain ⟨root, hr, hp⟩ := mem_covered.1 h
  cases hf : f root with
  | true => exact .inl (mem_covered.2 ⟨root, List.mem_filter.2 ⟨hr, hf⟩, hp⟩)
  | false => exact .inr (mem_covered.2 ⟨root, List.mem_filter.2 ⟨hr, by simp [hf]⟩, hp⟩)

lemma covered_mono {roots roots' : List Str} (h : ∀ r ∈ roots, r ∈ roots') {p : Str}
    (hp : p ∈ covered t ign roots) : p ∈ covered t ign roots' := by
  obtain ⟨root, hr, hp⟩ := mem_covered.1 hp
  exact mem_covered.2 ⟨root, h root hr, hp⟩

/-- A walk of `root` leads through kept names, to directories. -/
lemma walk_dirpath {keep : Name → Bool} {root : Str} {l : Listing}
    (h : l ∈ walk t keep t.height root) :
    isdir t root = true ∧ (target t l.dirpath).isSome ∧
      ∃ s : List Name, (∀ n ∈ s, keep n = true) ∧ l.dirpath = joinAll root s := by
  cases hr : resolve root with
  | none =>
    have hs : scandir t root = none := by simp [scandir, hr]
    simp [FileTree.height, walk, hs] at h
  | some p =>
    obtain ⟨s, -, hk, hd, rfl⟩ := (mem_walk hr).1 h
    refine ⟨isdir_iff.2 ⟨p, hr, FileTree.isDir_above' hd (List.prefix_append _ _)⟩, ?_, s, hk,
      rfl⟩
    obtain ⟨i, hi⟩ := FileTree.isDir_iff.1 hd
    simp [target, resolve_joinAll hr, hi]

/-- For roots that are rendered paths the covered directories are those below them. -/
lemma mem_covered_render {roots : List Str} (hroots : ∀ x ∈ roots, ∃ r, x = render r) {k : Str} :
    k ∈ covered t ign roots ↔ ∃ p, k = render p ∧ t.isDir p = true ∧
      (init ign).isIgnored (render p) = false ∧ ∃ r, r <+: p ∧ render r ∈ roots := by
  rw [mem_covered]
  constructor
  · rintro ⟨x, hx, ⟨l, hl, rfl⟩, hi⟩
    obtain ⟨r, rfl⟩ := hroots x hx
    obtain ⟨s, -, -, hd, rfl⟩ := (mem_walk (resolve_render r)).1 hl
    simp only [joinAll_render] at hi ⊢
    exact ⟨r ++ s, rfl, hd, hi, r, List.prefix_append _ _, hx⟩
  · rintro ⟨p, rfl, hd, hi, r, ⟨s, rfl⟩, hr⟩
    obtain ⟨i, hnode⟩ := FileTree.isDir_iff.1 hd
    have hlen : s.length < t.height := by
      have h := FileTree.length_lt_height hnode
      rw [List.length_append] at h
      omega
    exact ⟨render r, hr, ⟨_, (mem_walk (resolve_render r)).2
      ⟨s, hlen, (shown_append.1 hi).2, hd, rfl⟩, joinAll_render r s⟩, hi⟩

/-- What `set_roots` attaches for one root, when the texts are plain. -/
lemma mem_attached_iff {root p : Str} (h : isabs root = true)
    (hplain : ∀ q ∈ covered t b.ignoreDirs [root], normalizePath q = q) :
    (isdir t root = true ∧ b.isIgnored root = false ∧ p ∈ attached t b root ∧
      (target t p).isSome) ↔ p ∈ covered t b.ignoreDirs [root] := by
  have hb : b.ignoreDirs = (init b.ignoreDirs).ignoreDirs := rfl
  have hmem : ∀ l ∈ walk t b.enters t.height root, b.isIgnored root = false →
      l.dirpath ∈ covered t b.ignoreDirs [root] := by
    intro l hl hi
    obtain ⟨-, -, s, hs, hd⟩ := walk_dirpath hl
    have hign : b.isIgnored l.dirpath = false := hd ▸ (shown_joinAll h).2 ⟨hi, hs⟩
    rw [isIgnored_congr hb] at hign
    rw [enters_congr hb] at hl
    exact mem_covered.2 ⟨root, by simp, ⟨l, hl, rfl⟩, hign⟩
  constructor
  · rintro ⟨-, hi, hp, -⟩
    obtain ⟨hp, -⟩ := List.mem_filter.1 hp
    obtain ⟨l, hl, rfl⟩ := List.mem_map.1 hp
    have hc := hmem l hl hi
    rw [hplain _ hc]
    exact hc
  · intro hp
    obtain ⟨r, hr, ⟨l, hl, rfl⟩, hign⟩ := mem_covered.1 hp
    obtain rfl := List.mem_singleton.1 hr
    rw [← enters_congr hb] at hl
    rw [← isIgnored_congr hb] at hign
    obtain ⟨hdir, htar, s, hs, hd⟩ := walk_dirpath hl
    refine ⟨hdir, ?_, List.mem_filter.2 ⟨List.mem_map.2 ⟨l, hl, hplain _ hp⟩, by simp [hign]⟩, htar⟩
    rw [hd] at hign
    exact ((shown_joinAll h).1 hign).1

lemma foldl_removeWatchTree (gone : List Str) :
    (gone.foldl removeWatchTree b).ignoreDirs = b.ignoreDirs ∧
      ∀ p, p ∈ (gone.foldl removeWatchTree b).watches ↔
        p ∈ b.watches ∧ ∀ g ∈ gone, atOrUnder g p = false := by
  induction gone generalizing b with
  | nil => simp
  | cons g gone ih =>
    obtain ⟨h1, h2⟩ := ih (b := b.removeWatchTree g)
    refine ⟨by simpa using h1, fun p => ?_⟩
    rw [List.foldl_cons, h2, mem_removeWatchTree]
    simp [and_assoc]

lemma foldl_addRoot (added : List Str) :
    (added.foldl (addRoot t) b).ignoreDirs = b.ignoreDirs ∧
      ∀ p, p ∈ (added.foldl (addRoot t) b).watches ↔
        p ∈ b.watches ∨ ∃ r ∈ added, isdir t r = true ∧ b.isIgnored r = false ∧
          p ∈ attached t b r ∧ (target t p).isSome := by
  induction added generalizing b with
  | nil => simp
  | cons r added ih =>
    have hi : (addRoot t b r).ignoreDirs = b.ignoreDirs := by
      unfold addRoot
      split <;> simp
    have hk : ∀ p, p ∈ (addRoot t b r).watches ↔ p ∈ b.watches ∨ (isdir t r = true ∧
        b.isIgnored r = false ∧ p ∈ attached t b r ∧ (target t p).isSome) := by
      intro p
      unfold addRoot
      split
      case isTrue h =>
        simp only [Bool.and_eq_true, Bool.not_eq_true'] at h
        simp [mem_walkAddWatches, h]
      case isFalse h =>
        simp only [Bool.and_eq_true, Bool.not_eq_true', not_and] at h
        constructor
        · exact .inl
        · rintro (hp | ⟨h1, h2, -⟩)
          · exact hp
          · exact absurd h2 (h h1)
    obtain ⟨h1, h2⟩ := ih (b := addRoot t b r)
    refine ⟨by rw [List.foldl_cons, h1, hi], fun p => ?_⟩
    rw [List.foldl_cons, h2, hk]
    simp only [isIgnored_congr hi, attached_congr hi, List.mem_cons, exists_eq_or_imp, or_assoc]

/-- The keys after `set_roots`. -/
lemma mem_setRoots (roots : List Str) (p : Str) :
    p ∈ (b.setRoots t roots).watches ↔
      (p ∈ b.watches ∧ ∀ g ∈ b.roots.filter (· ∉ newRoots roots), atOrUnder g p = false) ∨
      ∃ r ∈ (newRoots roots).filter (· ∉ b.roots), isdir t r = true ∧ b.isIgnored r = false ∧
        p ∈ attached t b r ∧ (target t p).isSome := by
  obtain ⟨h1, h2⟩ := foldl_removeWatchTree (b := b) (b.roots.filter (· ∉ newRoots roots))
  obtain ⟨-, h4⟩ := foldl_addRoot (t := t)
    (b := (b.roots.filter (· ∉ newRoots roots)).foldl removeWatchTree b)
    ((newRoots roots).filter (· ∉ b.roots))
  have hset := h4 p
  rw [h2] at hset
  simp only [isIgnored_congr h1, attached_congr h1] at hset
  exact hset

@[simp] lemma setRoots_ignoreDirs (roots : List Str) :
    (b.setRoots t roots).ignoreDirs = b.ignoreDirs := by
  have h1 := (foldl_addRoot (t := t)
    (b := (b.roots.filter (· ∉ newRoots roots)).foldl removeWatchTree b)
    ((newRoots roots).filter (· ∉ b.roots))).1
  rw [(foldl_removeWatchTree _).1] at h1
  exact h1

@[simp] lemma setRoots_roots (roots : List Str) : (b.setRoots t roots).roots = newRoots roots :=
  rfl

@[simp] lemma covered_nil : covered t ign [] = [] := rfl

lemma mem_covered_iff_exists (roots : List Str) {p : Str} :
    p ∈ covered t ign roots ↔ ∃ r ∈ roots, p ∈ covered t ign [r] := by
  simp [covered]

/-- The keys after `set_roots`, when the texts below the new roots are plain. -/
lemma mem_setRoots_of_plain {roots : List Str} (habs : ∀ r ∈ newRoots roots, isabs r = true)
    (hplain : ∀ q ∈ covered t b.ignoreDirs (newRoots roots), normalizePath q = q) (p : Str) :
    p ∈ (b.setRoots t roots).watches ↔
      (p ∈ b.watches ∧ ∀ g ∈ b.roots.filter (· ∉ newRoots roots), atOrUnder g p = false) ∨
      p ∈ covered t b.ignoreDirs ((newRoots roots).filter (· ∉ b.roots)) := by
  rw [mem_setRoots, mem_covered_iff_exists ((newRoots roots).filter (· ∉ b.roots))]
  refine or_congr Iff.rfl (exists_congr fun r => and_congr_right fun hr => ?_)
  have hr' := List.mem_of_mem_filter hr
  exact mem_attached_iff (habs r hr') fun q hq =>
    hplain q (covered_mono (fun r' h => by rwa [List.mem_singleton.1 h]) hq)

/-- Where the keys are the covered directories before and after, no new text is changed by
`normalize_path`: the longest changed one could not be a key. -/
lemma plain_of_exact {roots : List Str} (habs : ∀ r ∈ newRoots roots, isabs r = true)
    (hex : Exact t b b.roots)
    (hold : ∀ p ∈ covered t b.ignoreDirs b.roots, normalizePath p = p)
    (hnew : Exact t (b.setRoots t roots) (newRoots roots)) :
    ∀ p ∈ covered t b.ignoreDirs (newRoots roots), normalizePath p = p := by
  by_contra hcon
  simp only [not_forall] at hcon
  obtain ⟨p0, hp0, hne0⟩ := hcon
  obtain ⟨p, hp, hmax⟩ := Finset.exists_max_image
    ((covered t b.ignoreDirs (newRoots roots)).toFinset.filter fun p => normalizePath p ≠ p)
    List.length ⟨p0, by simp [hp0, hne0]⟩
  simp only [ne_eq, Finset.mem_filter, List.mem_toFinset] at hp hmax
  have hkey := (hnew p).2 (by simpa using hp.1)
  rcases (mem_setRoots roots p).1 hkey with ⟨hk, -⟩ | ⟨r, hr, -, hi, ha, -⟩
  · exact hp.2 (hold p ((hex p).1 hk))
  · have hr' := List.mem_of_mem_filter hr
    obtain ⟨ha, -⟩ := List.mem_filter.1 ha
    obtain ⟨l, hl, rfl⟩ := List.mem_map.1 ha
    have hb : b.ignoreDirs = (init b.ignoreDirs).ignoreDirs := rfl
    obtain ⟨-, -, s, hs, hd⟩ := walk_dirpath hl
    have hign : b.isIgnored l.dirpath = false := hd ▸ (shown_joinAll (habs r hr')).2 ⟨hi, hs⟩
    have hq : l.dirpath ∈ covered t b.ignoreDirs (newRoots roots) := by
      rw [isIgnored_congr hb] at hign
      rw [enters_congr hb] at hl
      exact mem_covered.2 ⟨r, hr', ⟨l, hl, rfl⟩, hign⟩
    by_cases hfix : normalizePath l.dirpath = l.dirpath
    · exact hp.2 (by rw [hfix, hfix])
    · have habs' : isabs l.dirpath = true := hd ▸ isabs_joinAll (habs r hr') s
      have h1 := normalizePath_length habs' hfix
      have h2 := hmax _ ⟨hq, hfix⟩
      omega

/-- One call: from exact keys it leads to exact keys precisely when it satisfies `CallOk`. -/
lemma exact_setRoots_iff {roots : List Str} (habs : ∀ r ∈ newRoots roots, isabs r = true)
    (hex : Exact t b b.roots)
    (hold : ∀ p ∈ covered t b.ignoreDirs b.roots, normalizePath p = p) :
    Exact t (b.setRoots t roots) (newRoots roots) ↔
      CallOk t b.ignoreDirs b.roots (newRoots roots) := by
  constructor
  · intro hnew
    have hplain := plain_of_exact habs hex hold hnew
    have hkeys := mem_setRoots_of_plain habs hplain
    refine ⟨hplain, fun p hp g hg hu => ?_, fun p hp => ?_⟩
    · have hpn := covered_mono (fun r h => List.mem_of_mem_filter h) hp
      have hin := (hkeys p).1 ((hnew p).2 (by simpa using hpn))
      apply hin.resolve_left
      intro h
      rw [h.2 g hg] at hu
      cases hu
    · by_cases hu : ∃ g ∈ b.roots.filter (· ∉ newRoots roots), atOrUnder g p = true
      · exact .inl hu
      · right
        simp only [not_exists, not_and, Bool.not_eq_true] at hu
        have hold' := covered_mono (fun r h => List.mem_of_mem_filter h) hp
        have hin := (hkeys p).2 (.inl ⟨(hex p).2 hold', hu⟩)
        simpa using (hnew p).1 hin
  · intro ok p
    rw [mem_setRoots_of_plain habs ok.plain, setRoots_ignoreDirs]
    constructor
    · rintro (⟨hk, hu⟩ | hp)
      · rcases covered_filter (f := (· ∈ newRoots roots)) ((hex p).1 hk) with hp | hp
        · refine covered_mono (fun r h => ?_) hp
          simpa using (List.mem_filter.1 h).2
        · have hp' : p ∈ covered t b.ignoreDirs (b.roots.filter (· ∉ newRoots roots)) := by
            simpa using hp
          rcases ok.dropped p hp' with ⟨g, hg, hgu⟩ | h
          · rw [hu g hg] at hgu
            cases hgu
          · exact h
      · exact covered_mono (fun r h => List.mem_of_mem_filter h) hp
    · intro hp
      rcases covered_filter (f := (· ∈ b.roots)) hp with hp | hp
      · by_cases hu : ∃ g ∈ b.roots.filter (· ∉ newRoots roots), atOrUnder g p = true
        · obtain ⟨g, hg, hgu⟩ := hu
          exact .inr (ok.kept p hp g hg hgu)
        · simp only [not_exists, not_and, Bool.not_eq_true] at hu
          refine .inl ⟨(hex p).2 (covered_mono (fun r h => ?_) hp), hu⟩
          simpa using (List.mem_filter.1 h).2
      · exact .inr (by simpa using hp)

/-- A statement about all calls of a sequence is one about the earlier calls and the last. -/
lemma forall_call_concat {P : List (List Str) → List Str → Prop} {cs : List (List Str)}
    {R : List Str} :
    (∀ pre S, pre ++ [S] <+: cs ++ [R] → P pre S) ↔
      (∀ pre S, pre ++ [S] <+: cs → P pre S) ∧ P cs R := by
  constructor
  · intro h
    exact ⟨fun pre S hp => h pre S (hp.trans (List.prefix_append _ _)), h cs R List.prefix_rfl⟩
  · rintro ⟨h1, h2⟩ pre S hp
    rcases List.prefix_concat_iff.1 hp with he | hp
    · obtain ⟨rfl, hS⟩ := List.append_inj' he rfl
      cases hS
      exact h2
    · exact h1 pre S hp

lemma afterCalls_concat (cs : List (List Str)) (R : List Str) :
    afterCalls t ign (cs ++ [R]) = (afterCalls t ign cs).setRoots t R := by
  simp [afterCalls]

@[simp] lemma afterCalls_ignoreDirs (cs : List (List Str)) :
    (afterCalls t ign cs).ignoreDirs = ign :=
  foldl_frame (g := ignoreDirs) (fun _ _ => setRoots_ignoreDirs _) cs _

/-- After every call of a sequence the watched paths are exactly the directories below the roots of
that call, if and only if every call satisfies `CallOk`. -/
theorem setRoots_covers_iff (t : Tree) (ign : List Str) (calls : List (List Str))
    (habs : ∀ R ∈ calls, ∀ r ∈ R, isabs (normalizePath r) = true) :
    (∀ pre R, pre ++ [R] <+: calls → ∀ p, p ∈ (afterCalls t ign (pre ++ [R])).watches ↔
        p ∈ covered t ign (newRoots R)) ↔
      ∀ pre R, pre ++ [R] <+: calls →
        CallOk t ign (afterCalls t ign pre).roots (newRoots R) := by
  induction calls using List.reverseRecOn with
  | nil => simp
  | append_singleton cs R ih =>
    have hcs := ih fun S hS => habs S (List.mem_append_left _ hS)
    rw [forall_call_concat, forall_call_concat, ← hcs]
    apply and_congr_right
    intro hex
    have hok := hcs.1 hex
    -- the state before the last call: nothing attached yet, or what the previous call left
    have hprev : Exact t (afterCalls t ign cs) (afterCalls t ign cs).roots ∧
        ∀ p ∈ covered t ign (afterCalls t ign cs).roots, normalizePath p = p := by
      rcases List.eq_nil_or_concat' cs with rfl | ⟨cs', S, rfl⟩
      · exact ⟨fun p => by simp [afterCalls, init], by simp [afterCalls, init]⟩
      · rw [afterCalls_concat, setRoots_roots]
        refine ⟨fun p => ?_, (hok cs' S List.prefix_rfl).plain⟩
        have h := hex cs' S List.prefix_rfl p
        rw [afterCalls_concat] at h
        simpa using h
    have habs' : ∀ r ∈ newRoots R, isabs r = true := by
      intro r hr
      obtain ⟨r', hr', rfl⟩ := List.mem_map.1 (List.mem_dedup.1 hr)
      exact habs R (by simp) r' hr'
    have hstep := exact_setRoots_iff habs' hprev.1 (by simpa using hprev.2)
    rw [afterCalls_concat]
    simpa [Exact] using hstep

/-- A library `/m` with one directory `/m/s`. -/
def libraryTree : Tree :=
  .ofList [(true, [], name "m"), (true, [name "m"], name "s")]

/-- Adding a nested root: both calls are harmless. -/
theorem setRoots_covers_iff_grow :
    (∀ pre R, pre ++ [R] <+: [["/m/s".toList], ["/m/s".toList, "/m/".toList]] →
        ∀ p, p ∈ (afterCalls libraryTree [] (pre ++ [R])).watches ↔
          p ∈ covered libraryTree [] (newRoots R)) ↔
      ∀ pre R, pre ++ [R] <+: [["/m/s".toList], ["/m/s".toList, "/m/".toList]] →
        CallOk libraryTree [] (afterCalls libraryTree [] pre).roots (newRoots R) :=
  setRoots_covers_iff libraryTree [] [["/m/s".toList], ["/m/s".toList, "/m/".toList]] (by decide)

/-- Dropping `/m` from the roots `/m`, `/m/s` leaves nothing watched, though `/m/s` is kept. -/
theorem setRoots_covers_fails :
    ¬ ∀ (t : Tree) (ign : List Str) (calls : List (List Str)) (R : List Str),
      (∀ S ∈ calls ++ [R], ∀ r ∈ S, isdir t (normalizePath r) = true) →
        ∀ p, p ∈ (afterCalls t ign (calls ++ [R])).watches ↔ p ∈ covered t ign (newRoots R) := by
  intro h
  have h1 := (h libraryTree [] [["/m".toList, "/m/s".toList]] ["/m/s".toList] (by decide)
    "/m/s".toList).2 (by decide)
  exact absurd h1 (by decide)

end MediaScanMonitor
