import MediaScanMonitor.Lib.Text

/-!
# References

The components of a URI reference, as the regular expression of RFC 3986, appendix B, splits it:
`^(([^:/?#]+):)?(//([^/?#]*))?([^?#]*)(\?([^#]*))?(#(.*))?`. Every text matches it. What is appended
to a text that ends in its path goes on with the path.
-/

/-- The components of a reference. -/
structure Uri where
  scheme : Option (List Char)
  authority : Option (List Char)
  path : List Char
  query : Option (List Char)
  fragment : Option (List Char)
deriving DecidableEq

namespace Uri
open Text

/-- A scheme ends here. -/
def isDelim (c : Char) : Bool :=
  c = ':' || c = '/' || c = '?' || c = '#'

/-- A path ends here. -/
def isPathEnd (c : Char) : Bool :=
  c = '?' || c = '#'

/-- The scheme, and what comes after it. -/
def splitScheme (s : Str) : Option Str × Str :=
  let name := s.takeWhile (!isDelim ·)
  let rest := s.dropWhile (!isDelim ·)
  if name ≠ [] ∧ rest.head? = some ':' then (some name, rest.tail) else (none, s)

/-- An authority goes on. -/
def inAuthority (c : Char) : Bool :=
  c ≠ '/' && !isPathEnd c

/-- The authority, and what comes after it. -/
def splitAuthority (s : Str) : Option Str × Str :=
  if startsWith s ['/', '/'] then
    (some ((s.drop 2).takeWhile inAuthority), (s.drop 2).dropWhile inAuthority)
  else (none, s)

/-- What follows the authority up to the query. -/
def pathOf (s : Str) : Str :=
  s.takeWhile (!isPathEnd ·)

/-- What stands between the first `?` and the first `#`. -/
def queryOf (s : Str) : Option Str :=
  let rest := s.dropWhile (!isPathEnd ·)
  if rest.head? = some '?' then some (rest.tail.takeWhile (· ≠ '#')) else none

/-- What follows the first `#`. -/
def fragmentOf (s : Str) : Option Str :=
  if '#' ∈ s then some (s.dropWhile (· ≠ '#')).tail else none

def parse (s : Str) : Uri :=
  let rest := (splitAuthority (splitScheme s).2).2
  { scheme := (splitScheme s).1
    authority := (splitAuthority (splitScheme s).2).1
    path := pathOf rest
    query := queryOf rest
    fragment := fragmentOf rest }

/-- The segments of a path. -/
def segments (path : Str) : List Str :=
  path.splitOn '/'

/-- A parameter of a query: its name and its value. -/
def parameter (s : Str) : Str × Option Str :=
  (s.takeWhile (· ≠ '='), if '=' ∈ s then some (s.dropWhile (· ≠ '=')).tail else none)

/-- The parameters of a query. -/
def parameters (query : Str) : List (Str × Option Str) :=
  (query.splitOn '&').map parameter

/-! ## Appending -/

/-- A text that ends in its path, and not with a slash. -/
structure IsBase (base : Str) : Prop where
  noPathEnd : ∀ c ∈ base, isPathEnd c = false
  noSlash : base.getLast? ≠ some '/'

/-- What begins with one slash. -/
def IsTail (tail : Str) : Prop :=
  ∃ rest, tail = '/' :: rest ∧ rest.head? ≠ some '/'

variable {base tail s : Str}

lemma takeWhile_append_of_mem {p : Char → Bool} (h : ∃ c ∈ s, p c = false) (t : Str) :
    (s ++ t).takeWhile p = s.takeWhile p ∧ (s ++ t).dropWhile p = s.dropWhile p ++ t := by
  induction s with
  | nil => obtain ⟨c, hc, -⟩ := h; cases hc
  | cons d s ih =>
    cases hd : p d with
    | false => simp [hd]
    | true =>
      obtain ⟨c, hc, hpc⟩ := h
      have hs : ∃ c ∈ s, p c = false := by
        rcases List.mem_cons.1 hc with rfl | hc
        · rw [hd] at hpc
          cases hpc
        · exact ⟨c, hc, hpc⟩
      simp [hd, ih hs]

lemma takeWhile_append_of_all {p : Char → Bool} (h : ∀ c ∈ s, p c = true) (t : Str) :
    (s ++ t).takeWhile p = s ++ t.takeWhile p ∧ (s ++ t).dropWhile p = t.dropWhile p :=
  ⟨List.takeWhile_append_of_pos h, List.dropWhile_append_of_pos h⟩

/-- The end of a base is one. -/
lemma IsBase.of_suffix (hb : IsBase base) (h : s <:+ base) : IsBase s := by
  refine ⟨fun c hc => hb.noPathEnd c (h.mem hc), fun hlast => hb.noSlash ?_⟩
  obtain ⟨front, rfl⟩ := h
  rw [List.getLast?_append, hlast]
  rfl

lemma splitScheme_suffix (s : Str) : (splitScheme s).2 <:+ s := by
  unfold splitScheme
  dsimp only
  split
  · exact (List.tail_suffix _).trans (List.dropWhile_suffix _)
  · exact List.suffix_rfl

lemma splitAuthority_suffix (s : Str) : (splitAuthority s).2 <:+ s := by
  unfold splitAuthority
  split
  · exact (List.dropWhile_suffix _).trans (List.drop_suffix _ _)
  · exact List.suffix_rfl

lemma splitScheme_append (base : Str) (ht : IsTail tail) :
    splitScheme (base ++ tail) = ((splitScheme base).1, (splitScheme base).2 ++ tail) := by
  obtain ⟨rest, rfl, -⟩ := ht
  unfold splitScheme
  by_cases h : ∃ c ∈ base, (!isDelim c) = false
  · obtain ⟨htake, hdrop⟩ := takeWhile_append_of_mem h ('/' :: rest)
    have hne : base.dropWhile (!isDelim ·) ≠ [] := by
      obtain ⟨c, hc, hd⟩ := h
      intro hnil
      rw [List.dropWhile_eq_nil_iff.1 hnil c hc] at hd
      cases hd
    dsimp only
    rw [htake, hdrop, List.head?_append_of_ne_nil _ hne, List.tail_append_of_ne_nil hne]
    split
    · rfl
    · rfl
  · have hall : ∀ c ∈ base, (!isDelim c) = true := fun c hc => by
      by_contra hd
      exact h ⟨c, hc, Bool.eq_false_iff.2 hd⟩
    obtain ⟨htake, hdrop⟩ := takeWhile_append_of_all hall ('/' :: rest)
    have hslash : ('/' :: rest).dropWhile (!isDelim ·) = '/' :: rest := rfl
    have hnil : base.dropWhile (!isDelim ·) = [] := List.dropWhile_eq_nil_iff.2 hall
    dsimp only
    rw [htake, hdrop, hslash, hnil, if_neg (fun h => by cases h.2), if_neg (fun h => by cases h.2)]

/-- Two slashes in front are those of the base. -/
lemma startsWith_append (hb : IsBase base) (ht : IsTail tail) :
    startsWith (base ++ tail) ['/', '/'] = startsWith base ['/', '/'] := by
  obtain ⟨rest, rfl, hrest⟩ := ht
  match base, hb with
  | [], _ =>
    apply Bool.eq_false_iff.2
    intro h
    obtain ⟨t, ht⟩ := startsWith_iff.1 h
    cases ht
    exact hrest rfl
  | [c], hb =>
    apply Bool.eq_iff_iff.2
    refine iff_of_false (fun h => ?_) (fun h => ?_)
    · obtain ⟨t, ht⟩ := startsWith_iff.1 h
      cases ht
      exact hb.noSlash rfl
    · obtain ⟨t, ht⟩ := startsWith_iff.1 h
      cases ht
  | c :: d :: t, _ => rfl

lemma splitAuthority_append (hb : IsBase base) (ht : IsTail tail) :
    splitAuthority (base ++ tail) = ((splitAuthority base).1, (splitAuthority base).2 ++ tail) := by
  have hstarts := startsWith_append hb ht
  obtain ⟨rest, rfl, -⟩ := ht
  unfold splitAuthority
  rw [hstarts]
  split
  · next h =>
    obtain ⟨t, rfl⟩ := startsWith_iff.1 h
    show (some ((t ++ '/' :: rest).takeWhile inAuthority), (t ++ '/' :: rest).dropWhile inAuthority) =
      (some (t.takeWhile inAuthority), t.dropWhile inAuthority ++ '/' :: rest)
    by_cases h : ∃ c ∈ t, inAuthority c = false
    · rw [(takeWhile_append_of_mem h _).1, (takeWhile_append_of_mem h _).2]
    · have hall : ∀ c ∈ t, inAuthority c = true := fun c hc => by
        by_contra hd
        exact h ⟨c, hc, Bool.eq_false_iff.2 hd⟩
      rw [(takeWhile_append_of_all hall _).1, (takeWhile_append_of_all hall _).2,
        List.takeWhile_eq_self_iff.2 hall, List.dropWhile_eq_nil_iff.2 hall]
      have hslash : ('/' :: rest).takeWhile inAuthority = [] := rfl
      have hslash' : ('/' :: rest).dropWhile inAuthority = '/' :: rest := rfl
      rw [hslash, hslash', List.append_nil, List.nil_append]
  · rfl

/-! A text without `?` and `#` in front belongs to the path. -/

section Path
variable (hs : ∀ c ∈ s, isPathEnd c = false)
include hs

lemma pathOf_append (t : Str) : pathOf (s ++ t) = s ++ pathOf t :=
  (takeWhile_append_of_all (fun c hc => by rw [hs c hc]; rfl) t).1

lemma pathOf_eq_self : pathOf s = s := by
  have h := pathOf_append hs []
  rwa [List.append_nil, show pathOf [] = [] from rfl, List.append_nil] at h

lemma queryOf_append (t : Str) : queryOf (s ++ t) = queryOf t := by
  unfold queryOf
  rw [(takeWhile_append_of_all (fun c hc => by rw [hs c hc]; rfl) t).2]

lemma fragmentOf_append (t : Str) : fragmentOf (s ++ t) = fragmentOf t := by
  have hne : ∀ c ∈ s, decide (c ≠ '#') = true := by
    intro c hc
    apply decide_eq_true
    rintro rfl
    have hend := hs '#' hc
    cases hend
  have hmem : '#' ∈ s ++ t ↔ '#' ∈ t := by
    rw [List.mem_append, or_iff_right fun h => of_decide_eq_true (hne '#' h) rfl]
  unfold fragmentOf
  rw [(takeWhile_append_of_all hne t).2]
  exact if_congr hmem rfl rfl

end Path

/-- What is appended to a base goes on with its path. -/
theorem parse_append (hb : IsBase base) (ht : IsTail tail) :
    parse (base ++ tail) =
      { scheme := (parse base).scheme
        authority := (parse base).authority
        path := (parse base).path ++ pathOf tail
        query := queryOf tail
        fragment := fragmentOf tail } := by
  have hrest := hb.of_suffix (splitScheme_suffix base)
  have hpath := (hrest.of_suffix (splitAuthority_suffix _)).noPathEnd
  unfold parse
  rw [splitScheme_append base ht, splitAuthority_append hrest ht]
  dsimp only
  rw [pathOf_append hpath, pathOf_eq_self hpath, queryOf_append hpath, fragmentOf_append hpath]

/-! ## Segments -/

lemma segments_append (s t : Str) : segments (s ++ '/' :: t) = segments s ++ segments t :=
  List.splitOn_append_cons_self s t

lemma intercalate_segments (s : Str) : ['/'].intercalate (segments s) = s :=
  List.intercalate_splitOn '/'

lemma segments_ne_nil (s : Str) : segments s ≠ [] :=
  List.splitOn_ne_nil '/' s

/-- A path of one segment is that segment. -/
lemma segments_eq_singleton_iff {segment : Str} : segments s = [segment] ↔ '/' ∉ s ∧ s = segment := by
  constructor
  · intro h
    have hs := intercalate_segments s
    rw [h, List.intercalate_singleton] at hs
    refine ⟨fun hmem => ?_, hs.symm⟩
    obtain ⟨front, back, rfl⟩ := List.append_of_mem hmem
    rw [segments_append] at h
    have hfront := List.length_pos_iff.2 (segments_ne_nil front)
    have hback := List.length_pos_iff.2 (segments_ne_nil back)
    have hlen := congrArg List.length h
    rw [List.length_append, List.length_singleton] at hlen
    omega
  · rintro ⟨hmem, rfl⟩
    exact List.splitOn_eq_singleton hmem

/-- A path begins with its first segment. -/
lemma first_of_segments {segment : Str} {rest : List Str} (h : segments s = segment :: rest) :
    segment <+: s := by
  have hs := intercalate_segments s
  rw [h] at hs
  cases rest with
  | nil =>
    rw [List.intercalate_singleton] at hs
    exact ⟨[], (List.append_nil _).trans hs⟩
  | cons second rest =>
    rw [List.intercalate_cons_cons] at hs
    exact ⟨_, (List.append_assoc _ _ _).symm.trans hs⟩

end Uri
