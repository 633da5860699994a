import MediaScanMonitor.Lib.Text
import Mathlib.Data.List.Infix
import Mathlib.Data.List.Flatten

/-!
# POSIX paths

`posixpath.normpath` and `posixpath.join` on Python text, and the component lists they speak about:
a `Name` is a legal directory entry, `render` writes a list of names as an absolute path and
`resolve` reads a path text back the way a kernel looks it up (from `/`, empty segments skipped).
The lemmas say that on rendered paths the text operations are the list operations: `normpath` is the
identity, `join` appends a name, and the textual test `p + "/"` is the strict prefix order.
-/

namespace PosixPath
open Text

/-- The path separator (`os.sep`). -/
def sep : Char := '/'

/-- `path.split("/")`. -/
def split (path : Str) : List Str :=
  path.splitOn sep

/-- One component pushed by the loop of `normpath` (`new_comps`, top first). -/
def pushComp (absolute : Bool) (acc : List Str) (comp : Str) : List Str :=
  if comp = [] ∨ comp = ['.'] then acc
  else if comp ≠ ['.', '.'] ∨ (absolute = false ∧ acc = []) ∨ acc.head? = some ['.', '.'] then
    comp :: acc
  else acc.tail

/-- The slashes `normpath` keeps in front: POSIX allows one or two, three or more count as one. -/
def initialSlashes (path : Str) : Str :=
  if startsWith path ['/', '/', '/'] then ['/']
  else if startsWith path ['/', '/'] then ['/', '/']
  else if startsWith path ['/'] then ['/']
  else []

/-- `os.path.normpath`. -/
def normpath (path : Str) : Str :=
  if path = [] then ['.']
  else
    let slashes := initialSlashes path
    let comps := ((split path).foldl (pushComp (slashes ≠ [])) []).reverse
    let out := slashes ++ [sep].intercalate comps
    if out = [] then ['.'] else out

/-- `os.path.join(a, b)`. -/
def join (a b : Str) : Str :=
  if startsWith b [sep] then b
  else if a = [] ∨ endsWithChar a sep then a ++ b
  else a ++ sep :: b

/-- `os.path.isabs`. -/
def isabs (path : Str) : Bool :=
  startsWith path [sep]

/-- A text that can be the name of a directory entry. -/
def ValidName (s : Str) : Prop :=
  s ≠ [] ∧ sep ∉ s ∧ s ≠ ['.'] ∧ s ≠ ['.', '.']

instance : DecidablePred ValidName := fun s => by unfold ValidName; infer_instance

/-- A legal directory entry name. -/
@[ext] structure Name where
  val : Str
  valid : ValidName val
deriving DecidableEq

/-- A name written as a string literal. -/
def name (s : String) (h : decide (ValidName s.toList) = true := by exact Eq.refl true) : Name :=
  ⟨s.toList, of_decide_eq_true h⟩

/-- A list of names written as an absolute path. -/
def render : List Name → Str
  | [] => [sep]
  | p => p.flatMap (fun n => sep :: n.val)

/-- One segment of a path read as a name; `.` and `..` name no entry. -/
def toName (s : Str) : Option Name :=
  if h : ValidName s then some ⟨s, h⟩ else none

/-- The names a path text leads through, from `/`; empty segments are skipped. -/
def resolve (path : Str) : Option (List Name) :=
  ((split path).filter (· ≠ [])).mapM toName

/-- The texts `join` reaches from `base` by appending names one at a time. -/
def joinAll (base : Str) (names : List Name) : Str :=
  names.foldl (fun d n => join d n.val) base

@[simp] lemma toName_val (n : Name) : toName n.val = some n := by
  simp [toName, n.valid]

lemma Name.ne_nil (n : Name) : n.val ≠ [] := n.valid.1

lemma Name.sep_notMem (n : Name) : sep ∉ n.val := n.valid.2.1

lemma Name.val_injective : Function.Injective Name.val := fun _ _ h => Name.ext h

/-- Texts that each follow a separator are the texts joined behind an empty first one. -/
lemma flatMap_sep (l : List Str) :
    l.flatMap (fun c => sep :: c) = [sep].intercalate ([] :: l) := by
  induction l with
  | nil => simp [List.intercalate_singleton]
  | cons c l ih =>
    cases l with
    | nil => simp [List.intercalate_cons_cons, List.intercalate_singleton]
    | cons d l =>
      rw [List.flatMap_cons, ih]
      simp [List.intercalate_cons_cons]

/-- A rendered path other than `/` is its names joined behind an empty first segment. -/
lemma flatMap_eq_intercalate (p : List Name) :
    p.flatMap (fun n => sep :: n.val) = [sep].intercalate ([] :: p.map Name.val) := by
  rw [← flatMap_sep, List.flatMap_map]

/-- Splitting a rendered path other than `/`. -/
lemma split_render {p : List Name} (hp : p ≠ []) :
    split (render p) = [] :: p.map Name.val := by
  obtain ⟨n, q, rfl⟩ := List.exists_cons_of_ne_nil hp
  rw [split, render, flatMap_eq_intercalate, List.splitOn_intercalate]
  · intro l hl
    rcases List.mem_cons.1 hl with rfl | hl
    · simp
    · obtain ⟨m, _, rfl⟩ := List.mem_map.1 hl
      exact m.sep_notMem
  · simp
  · simp

@[simp] lemma split_root : split (render []) = [[], []] := by decide

/-- The non-empty segments of a rendered path are its names. -/
lemma split_render_filter (p : List Name) :
    (split (render p)).filter (· ≠ []) = p.map Name.val := by
  cases p with
  | nil => decide
  | cons n q =>
    rw [split_render (by simp)]
    simp only [ne_eq, List.filter_cons, not_true_eq_false, decide_false]
    rw [List.filter_eq_self.2]
    · simp
    · intro s hs
      obtain ⟨m, _, rfl⟩ := List.mem_map.1 hs
      simpa using m.ne_nil

/-- Reading a rendered path back. -/
@[simp] lemma resolve_render (p : List Name) : resolve (render p) = some p := by
  rw [resolve, split_render_filter]
  induction p with
  | nil => rfl
  | cons n p ih => simp only [List.map_cons, List.mapM_cons, toName_val, ih]; rfl

/-- Different component lists are different texts. -/
lemma render_injective : Function.Injective render := by
  intro p q h
  have hr : resolve (render p) = resolve (render q) := by rw [h]
  simpa using hr

@[simp] lemma render_inj {p q : List Name} : render p = render q ↔ p = q :=
  render_injective.eq_iff

/-- A rendered path begins with exactly one separator. -/
lemma initialSlashes_render (p : List Name) : initialSlashes (render p) = [sep] := by
  cases p with
  | nil => decide
  | cons n q =>
    obtain ⟨c, cs, hn⟩ := List.exists_cons_of_ne_nil n.ne_nil
    have hc : c ≠ sep := by
      intro e
      exact n.sep_notMem (by simp [hn, e])
    simp only [render, List.flatMap_cons, hn, List.cons_append, initialSlashes, startsWith,
      List.isPrefixOf]
    simp [sep] at hc ⊢
    simp [Ne.symm hc]

/-- The component loop pushes every legal name. -/
lemma foldl_pushComp (b : Bool) (p : List Name) (acc : List Str) :
    (p.map Name.val).foldl (pushComp b) acc = (p.map Name.val).reverse ++ acc := by
  induction p generalizing acc with
  | nil => simp
  | cons n p ih =>
    obtain ⟨h1, _, h3, h4⟩ := n.valid
    have hp : pushComp b acc n.val = n.val :: acc := by simp [pushComp, h1, h3, h4]
    rw [List.map_cons, List.foldl_cons, hp, ih]
    simp

/-- `normpath` leaves a rendered path alone. -/
@[simp] lemma normpath_render (p : List Name) : normpath (render p) = render p := by
  cases p with
  | nil => decide
  | cons n q =>
    have hr : render (n :: q) = sep :: [sep].intercalate ((n :: q).map Name.val) := by
      rw [render, flatMap_eq_intercalate, List.intercalate_cons_of_ne_nil (by simp)]
      · simp
      · simp
    have hne : render (n :: q) ≠ [] := by rw [hr]; simp
    have hf : ([] :: (n :: q).map Name.val).foldl (pushComp true) [] =
        ((n :: q).map Name.val).reverse := by
      rw [List.foldl_cons, show pushComp true [] [] = [] by decide, foldl_pushComp]
      simp
    have hb : decide ([sep] ≠ ([] : Str)) = true := by decide
    rw [normpath, if_neg hne, initialSlashes_render, split_render (by simp)]
    simp only [hb, hf, List.reverse_reverse, hr]
    simp

/-- A rendered path is absolute. -/
lemma isabs_render (p : List Name) : isabs (render p) = true := by
  cases p <;> simp [render, isabs]

/-- A rendered path ends as its last name does. -/
lemma getLast?_render (q : List Name) (n : Name) :
    (render (q ++ [n])).getLast? = n.val.getLast? := by
  have hr : render (q ++ [n]) = q.flatMap (fun m => sep :: m.val) ++ sep :: n.val := by
    cases q <;> simp [render]
  rw [hr, List.getLast?_append, List.getLast?_cons, List.getLast?_eq_some_getLast n.ne_nil]
  rfl

/-- A rendered path ends with a separator only when it is `/`. -/
lemma endsWithChar_render {p : List Name} (hp : p ≠ []) :
    endsWithChar (render p) sep = false := by
  obtain ⟨q, n, rfl⟩ := List.eq_nil_or_concat' p |>.resolve_left hp
  rw [endsWithChar, getLast?_render, List.getLast?_eq_some_getLast n.ne_nil]
  simp only [beq_eq_false_iff_ne, ne_eq, Option.some.injEq]
  intro h
  exact n.sep_notMem (h ▸ List.getLast_mem _)

/-- Joining a name to a rendered path extends its component list. -/
@[simp] lemma join_render (p : List Name) (n : Name) : join (render p) n.val = render (p ++ [n]) := by
  have hn : startsWith n.val [sep] = false := by
    rw [Bool.eq_false_iff]
    intro h
    obtain ⟨t, ht⟩ := startsWith_iff.1 h
    exact n.sep_notMem (by rw [← ht]; simp)
  cases p with
  | nil => simp [join, hn, render, endsWithChar]
  | cons m q =>
    have hne : render (m :: q) ≠ [] := by simp [render]
    have he : endsWithChar (render (m :: q)) sep = false := endsWithChar_render (by simp)
    rw [join, if_neg (by simp [hn]), if_neg (by simp [hne, he])]
    simp [render]

/-- Walking down from a rendered path. -/
@[simp] lemma joinAll_render (p q : List Name) : joinAll (render p) q = render (p ++ q) := by
  induction q generalizing p with
  | nil => simp [joinAll]
  | cons n q ih =>
    rw [joinAll, List.foldl_cons, join_render]
    have h := ih (p ++ [n])
    rw [joinAll] at h
    simpa using h

/-- On rendered paths the test `q.startswith(p + "/")` is the strict order of component lists. -/
lemma startsWith_render {p q : List Name} (hp : p ≠ []) :
    startsWith (render q) (render p ++ [sep]) = true ↔ p <+: q ∧ p ≠ q := by
  rw [startsWith_iff]
  constructor
  · rintro ⟨t, ht⟩
    have hs : split (render q) = split (render p) ++ split t := by
      rw [← ht, List.append_assoc]
      exact List.splitOn_append_cons_self _ _
    have hq : q ≠ [] := by
      rintro rfl
      rw [split_root, split_render hp] at hs
      have hl := congrArg List.length hs
      have ht0 : (split t).length ≠ 0 := by simp [split]
      have hp0 : p.length ≠ 0 := by simpa using hp
      simp only [List.length_cons, List.length_nil, List.length_append, List.length_map] at hl
      omega
    rw [split_render hp, split_render hq, List.cons_append, List.cons.injEq] at hs
    have hmap : p.map Name.val <+: q.map Name.val := ⟨_, hs.2.symm⟩
    refine ⟨(List.prefix_map_iff_of_injective Name.val_injective).1 hmap, ?_⟩
    rintro rfl
    have hl := congrArg List.length hs.2
    have ht0 : (split t).length ≠ 0 := by simp [split]
    simp only [List.length_map, List.length_append] at hl
    omega
  · rintro ⟨⟨t, rfl⟩, hne⟩
    obtain ⟨n, r, rfl⟩ := List.exists_cons_of_ne_nil (l := t) (by rintro rfl; simp at hne)
    obtain ⟨m, p', rfl⟩ := List.exists_cons_of_ne_nil hp
    exact ⟨n.val ++ r.flatMap (fun n => sep :: n.val), by simp [render]⟩

/-! ### Absolute texts -/

lemma isabs_iff {q : Str} : isabs q = true ↔ ∃ s, q = sep :: s := by
  cases q with
  | nil => simp [isabs]
  | cons c s =>
    simp only [isabs, startsWith_iff, List.cons_prefix_cons, List.nil_prefix, and_true,
      List.cons.injEq, exists_and_left, exists_eq', and_true]
    exact eq_comm

/-- An absolute text is cut in front of its first separator. -/
lemma split_sep_cons (s : Str) : split (sep :: s) = [] :: split s := by
  simpa [split] using List.splitOn_append_cons_self [] s

/-- An absolute text is its segments, each behind a separator. -/
lemma split_flatMap (s : Str) : (split s).flatMap (fun c => sep :: c) = sep :: s := by
  rw [flatMap_sep, List.intercalate_cons_of_ne_nil (by simp [split])]
  simp [split, List.intercalate_splitOn]

/-- The component loop keeps a sublist of the segments, in order. -/
lemma foldl_pushComp_sublist (b : Bool) (l acc : List Str) :
    (l.foldl (pushComp b) acc).reverse.Sublist (acc.reverse ++ l) := by
  induction l generalizing acc with
  | nil => simp
  | cons c l ih =>
    have hstep : (pushComp b acc c).reverse.Sublist (acc.reverse ++ [c]) := by
      unfold pushComp
      split
      · exact List.sublist_append_left _ _
      · split
        · simp
        · exact (List.Sublist.reverse (List.tail_sublist _)).trans (List.sublist_append_left _ _)
    have h := (ih (pushComp b acc c)).trans (hstep.append_right l)
    simpa using h

/-- The component loop keeps no empty segment. -/
lemma foldl_pushComp_ne_nil (b : Bool) (l : List Str) {acc : List Str} (h : ∀ c ∈ acc, c ≠ []) :
    ∀ c ∈ l.foldl (pushComp b) acc, c ≠ [] := by
  induction l generalizing acc with
  | nil => exact h
  | cons c l ih =>
    apply ih
    intro d hd
    unfold pushComp at hd
    split at hd
    · exact h d hd
    · next hc =>
      split at hd
      · rcases List.mem_cons.1 hd with rfl | hd
        · exact fun e => hc (.inl e)
        · exact h d hd
      · exact h d (List.mem_of_mem_tail hd)

/-- A sublist without empty segments is a sublist of what follows an empty segment. -/
lemma sublist_of_cons_nil {l l' : List Str} (h : l.Sublist ([] :: l')) (hne : ∀ c ∈ l, c ≠ []) :
    l.Sublist l' := by
  cases h with
  | cons _ h => exact h
  | cons_cons _ h => exact absurd rfl (hne [] (by simp))

/-- `normpath` only deletes characters of an absolute text. -/
lemma normpath_sublist (s : Str) : (normpath (sep :: s)).Sublist (sep :: s) := by
  have hcomps := foldl_pushComp_sublist true ([] :: split s) []
  have hne := foldl_pushComp_ne_nil true ([] :: split s) (List.forall_mem_nil _)
  generalize hc : ([] :: split s).foldl (pushComp true) [] = comps at hcomps hne
  have hne' : ∀ c ∈ comps.reverse, c ≠ [] := fun c h => hne c (List.mem_reverse.1 h)
  have hsub : comps.reverse.Sublist (split s) := sublist_of_cons_nil (by simpa using hcomps) hne'
  have hlead : ∀ l : List Str, l.Sublist (split s) →
      (sep :: [sep].intercalate l).Sublist (sep :: s) := by
    intro l hl
    rw [← split_flatMap s]
    cases l with
    | nil => simp [split_flatMap]
    | cons c l =>
      have hf := hl.flatMap fun c => sep :: c
      rw [flatMap_sep (c :: l), List.intercalate_cons_of_ne_nil (by simp)] at hf
      simpa using hf
  have hsl : initialSlashes (sep :: s) = [sep] ∨
      (initialSlashes (sep :: s) = [sep, sep] ∧ ∃ s', s = sep :: s') := by
    unfold initialSlashes
    cases s with
    | nil => left; decide
    | cons c s =>
      by_cases hcs : c = sep
      · subst hcs
        cases s with
        | nil => right; exact ⟨by decide, _, rfl⟩
        | cons d s => by_cases hd : d = sep <;> simp [startsWith, sep] at hd ⊢ <;> simp [hd, eq_comm]
      · left
        simp [startsWith, sep] at hcs ⊢
        simp [Ne.symm hcs]
  have hb : ∀ l : List Char, l ≠ [] → decide (l ≠ []) = true := by simp
  rw [normpath, if_neg (by simp), split_sep_cons]
  rcases hsl with h1 | ⟨h1, s', rfl⟩
  · simp only [h1, hb [sep] (by simp), hc]
    rw [if_neg (by simp)]
    exact hlead _ hsub
  · simp only [h1, hb [sep, sep] (by simp), hc]
    rw [if_neg (by simp)]
    rw [split_sep_cons] at hsub
    have hsub' := sublist_of_cons_nil hsub hne'
    have hf := hlead ([] :: comps.reverse) (by rw [split_sep_cons]; exact hsub'.cons_cons [])
    by_cases hz : comps.reverse = []
    · simp [hz]
    · rw [List.intercalate_cons_of_ne_nil hz] at hf
      simpa using hf

/-- A name never begins with the separator. -/
lemma Name.not_isabs (n : Name) : isabs n.val = false := by
  rw [Bool.eq_false_iff]
  intro h
  obtain ⟨s, hs⟩ := isabs_iff.1 h
  exact n.sep_notMem (by simp [hs])

/-- Joining a name to an absolute text adds one segment and hides none. -/
lemma mem_split_join {top : Str} (h : isabs top = true) (n : Name) (x : Str) :
    x ∈ split (join top n.val) ↔ x ∈ split top ∨ x = n.val := by
  obtain ⟨s, rfl⟩ := isabs_iff.1 h
  have hn : split n.val = [n.val] := List.splitOn_eq_singleton n.sep_notMem
  have hj : startsWith n.val [sep] = false := n.not_isabs
  by_cases he : endsWithChar (sep :: s) sep = true
  · have hd : (sep :: s) = (sep :: s).dropLast ++ [sep] := by
      have hl : (sep :: s).getLast? = some sep := by simpa [endsWithChar] using he
      exact (List.dropLast_append_getLast? sep hl).symm
    generalize hr : (sep :: s).dropLast = r at hd
    have hnil : [] ∈ split r := by
      cases s with
      | nil => simp at hr; subst hr; decide
      | cons c s => simp at hr; subst hr; rw [split_sep_cons]; simp
    have h1 : split (sep :: s) = split r ++ [[]] := by
      rw [hd, split, split]
      exact List.splitOn_append_cons_self r []
    have h2 : split (join (sep :: s) n.val) = split r ++ [n.val] := by
      rw [join, if_neg (by simp [hj]), if_pos (.inr he), hd, List.append_assoc, ← hn]
      exact List.splitOn_append_cons_self r n.val
    rw [h1, h2]
    simp only [List.mem_append, List.mem_singleton]
    constructor
    · rintro (h | h) <;> simp [h]
    · rintro ((h | rfl) | h)
      · exact .inl h
      · exact .inl hnil
      · exact .inr h
  · have h2 : split (join (sep :: s) n.val) = split (sep :: s) ++ [n.val] := by
      rw [join, if_neg (by simp [hj]), if_neg (by simp [he]), ← hn]
      exact List.splitOn_append_cons_self (sep :: s) n.val
    rw [h2]
    simp

lemma isabs_join {top : Str} (h : isabs top = true) (n : Name) : isabs (join top n.val) = true := by
  obtain ⟨s, rfl⟩ := isabs_iff.1 h
  have hj : startsWith n.val [sep] = false := n.not_isabs
  rw [join, if_neg (by simp [hj])]
  split <;> simp [isabs]

lemma isabs_joinAll {top : Str} (h : isabs top = true) (s : List Name) :
    isabs (joinAll top s) = true := by
  induction s generalizing top with
  | nil => exact h
  | cons n s ih => exact ih (isabs_join h n)

/-- The segments of a text reached from an absolute one. -/
lemma mem_split_joinAll {top : Str} (h : isabs top = true) (s : List Name) (x : Str) :
    x ∈ split (joinAll top s) ↔ x ∈ split top ∨ ∃ n ∈ s, x = n.val := by
  induction s generalizing top with
  | nil => simp [joinAll]
  | cons n s ih =>
    have hi := ih (isabs_join h n)
    rw [joinAll] at hi ⊢
    rw [List.foldl_cons, hi, mem_split_join h]
    simp [or_assoc]

end PosixPath
