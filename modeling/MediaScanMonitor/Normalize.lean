import MediaScanMonitor.Lib.Normpath

/-!
# Normalisation

`normalize.py`: the lexical normalisation that every path of a configuration and every path reported
by the kernel goes through. `Plain` paths are the component lists whose text it leaves alone: their
last name does not end in white space. Case mapping is Unicode's, so `str.lower` is a parameter.
-/

namespace MediaScanMonitor
open Text PosixPath

/-- `normalize_extension`, for a given `str.lower`. -/
def normalizeExtension (lower : Str → Str) (ext : Str) : Str :=
  lower (strip (lstripChar (strip ext) '.'))

/-- `normalize_path`. -/
def normalizePath (path : Str) : Str :=
  normpath (strip path)

/-- The text of this path survives `normalize_path`. -/
def Plain (p : List Name) : Prop :=
  normalizePath (render p) = render p

instance : DecidablePred Plain := fun p => by unfold Plain; infer_instance

/-- `normalize_path` only deletes characters of an absolute text. -/
lemma normalizePath_sublist {q : Str} (h : isabs q = true) : (normalizePath q).Sublist q := by
  obtain ⟨s, rfl⟩ := isabs_iff.1 h
  obtain ⟨r, hr, hp⟩ := strip_cons (c := sep) (by decide) s
  rw [normalizePath, hr]
  exact (normpath_sublist r).trans (hp.sublist.cons_cons sep)

/-- A text that `normalize_path` changes gets shorter. -/
lemma normalizePath_length {q : Str} (h : isabs q = true) (hne : normalizePath q ≠ q) :
    (normalizePath q).length < q.length :=
  lt_of_le_of_ne (normalizePath_sublist h).length_le fun e =>
    hne ((normalizePath_sublist h).eq_of_length e)

/-- The last name ends in white space. -/
def SpaceAtEnd (p : List Name) : Prop :=
  ∃ n ∈ p.getLast?, EndsInSpace n.val

lemma spaceAtEnd_concat {q : List Name} {n : Name} :
    SpaceAtEnd (q ++ [n]) ↔ EndsInSpace n.val := by
  simp [SpaceAtEnd]

/-- A normal form ends as its last name does. -/
lemma endsInSpace_normal {s : Str} {p : List Name} (h : Normal s p) :
    EndsInSpace s ↔ SpaceAtEnd p := by
  rw [EndsInSpace, h.getLast?]
  rcases List.eq_nil_or_concat' p with rfl | ⟨q, n, rfl⟩
  · refine ⟨fun ⟨c, hc, hsp⟩ => ?_, fun ⟨n, hn, _⟩ => (by cases hn)⟩
    cases hc
    cases hsp
  · rw [getLast?_render, spaceAtEnd_concat, EndsInSpace]

/-- There is no white space in front of it. -/
lemma trimmed_normal {s : Str} {p : List Name} (h : Normal s p) : Trimmed s ↔ ¬SpaceAtEnd p := by
  have hhead : ∀ c ∈ s.head?, isSpace c = false := by
    intro c hc
    obtain ⟨s, rfl⟩ := isabs_iff.1 h.isabs
    cases hc
    rfl
  apply (and_iff_right hhead).trans
  rw [← endsInSpace_normal h, EndsInSpace]
  simp only [not_exists, not_and, Bool.not_eq_true]

/-- The normal forms that `normalize_path` changes are those that end in white space. -/
lemma normalizePath_normal {s : Str} {p : List Name} (h : Normal s p) :
    normalizePath s = s ↔ ¬SpaceAtEnd p := by
  rw [← trimmed_normal h]
  constructor
  · intro he
    apply strip_eq_self.1
    apply (strip_sublist s).eq_of_length_le
    obtain ⟨tail, htail⟩ := isabs_iff.1 h.isabs
    obtain ⟨r, hr, -⟩ := strip_cons (c := sep) (by decide) tail
    have hlen := (normpath_sublist r).length_le
    rw [← hr, ← htail] at hlen
    rwa [show normpath (strip s) = s from he] at hlen
  · intro ht
    rw [normalizePath, strip_eq_self.2 ht, h.normpath_eq]

lemma plain_iff {p : List Name} : Plain p ↔ ¬SpaceAtEnd p :=
  normalizePath_normal (.single p)

/-- An absolute text that `normalize_path` leaves alone is a normal form. -/
lemma normal_of_normalizePath {s : Str} (h : isabs s = true) (hs : normalizePath s = s) :
    ∃ p, Normal s p := by
  have habs : isabs (strip s) = true := by
    obtain ⟨tail, rfl⟩ := isabs_iff.1 h
    obtain ⟨r, hr, -⟩ := strip_cons (c := sep) (by decide) tail
    rw [hr]
    exact isabs_iff.2 ⟨r, rfl⟩
  have hn := normal_normpath habs
  rw [show normpath (strip s) = s from hs] at hn
  exact ⟨_, hn⟩

/-- At most the last component of a normal form changes. -/
lemma normalizePath_concat {front : Str} (h : IsFront front) (p : List Name) (n : Name) :
    ∃ segment, normalizePath (front ++ render (p ++ [n])) = front ++ render (follow p segment) := by
  obtain ⟨parent, hparent, hloc, hfront⟩ := h.exists_parent p n
  have hvisible : isSpace sep = false := by decide
  have hhead : ∀ d ∈ (parent ++ [sep]).head?, isSpace d = false := by
    intro d hd
    obtain ⟨tail, htail⟩ := isabs_iff.1 (h.isabs (hfront []))
    rw [htail] at hd
    cases hd
    exact hvisible
  obtain ⟨r, back, hn, hstrip⟩ := strip_append_cons hhead hvisible n.val
  have hr : sep ∉ r := fun hmem => n.sep_notMem (hn ▸ List.mem_append_left _ hmem)
  have hprefix : parent ++ sep :: r <+: front ++ render (p ++ [n]) := by
    rw [hparent, hn]
    exact ⟨back, by simp⟩
  refine ⟨r, ?_⟩
  rw [normalizePath, hparent, hstrip, normpath_absolute (h.isabs (hfront r)),
    h.slashes hprefix (hfront r), location_append parent hr, hloc]

instance : DecidablePred SpaceAtEnd := fun _ => by
  unfold SpaceAtEnd
  infer_instance

end MediaScanMonitor
