import Mathlib.Data.List.DropRight
import Mathlib.Tactic.Common

/-!
# Python text

`str` as the list of its code points, with the few methods the rest of the development needs:
`isspace` on one character, `strip`, `startswith`/`endswith` and a membership test for a `frozenset`
of strings. Splitting at a separator and joining with one are `List.splitOn` and `List.intercalate`.
-/

namespace Text

/-- A Python `str`. -/
abbrev Str := List Char

instance instDecidableMemStr (s : Str) (l : List Str) : Decidable (s ∈ l) :=
  List.instDecidableMemOfLawfulBEq s l

/-- `str.isspace` on one code point (the Unicode white space that `str.strip()` removes). -/
def isSpace (c : Char) : Bool :=
  let n := c.toNat
  (9 ≤ n && n ≤ 13) || (28 ≤ n && n ≤ 32) || n == 0x85 || n == 0xa0 || n == 0x1680 ||
    (0x2000 ≤ n && n ≤ 0x200a) || n == 0x2028 || n == 0x2029 || n == 0x202f || n == 0x205f ||
    n == 0x3000

/-- `s.strip()`. -/
def strip (s : Str) : Str :=
  (s.dropWhile isSpace).rdropWhile isSpace

/-- `s.lower()` on ASCII text. -/
def lowerAscii (s : Str) : Str :=
  s.map Char.toLower

/-- `s.lstrip(c)` for a single character. -/
def lstripChar (s : Str) (c : Char) : Str :=
  s.dropWhile (· == c)

/-- `s.rstrip(c)` for a single character. -/
def rstripChar (s : Str) (c : Char) : Str :=
  s.rdropWhile (· == c)

/-- `s.rpartition(c)` for a single character. -/
def rpartition (s : Str) (c : Char) : Str × Str × Str :=
  if c ∈ s then ((s.rdropWhile (· != c)).dropLast, [c], s.rtakeWhile (· != c)) else ([], [], s)

/-- `s.startswith(prefix)`. -/
def startsWith (s pre : Str) : Bool :=
  pre.isPrefixOf s

/-- `s.endswith("c")` for a single character. -/
def endsWithChar (s : Str) (c : Char) : Bool :=
  s.getLast? == some c

/-- `s.startswith(prefix)` is the prefix order on lists. -/
@[simp] lemma startsWith_iff {s pre : Str} : startsWith s pre = true ↔ pre <+: s := by
  simp [startsWith]

/-- `strip` only cuts at the end of a text that begins with a visible character. -/
lemma strip_cons {c : Char} (hc : isSpace c = false) (s : Str) :
    ∃ r, strip (c :: s) = c :: r ∧ r <+: s := by
  have hd : (c :: s).dropWhile isSpace = c :: s := by simp [hc]
  have hp : strip (c :: s) <+: c :: s := by
    rw [strip, hd]
    exact List.rdropWhile_prefix _ _
  cases hs : strip (c :: s) with
  | nil =>
    rw [strip, hd, List.rdropWhile_eq_nil_iff] at hs
    rw [hs c (by simp)] at hc
    cases hc
  | cons d r =>
    rw [hs, List.cons_prefix_cons] at hp
    exact ⟨r, by rw [hp.1], hp.2⟩

variable {c : Char} {s t front back : Str}

/-! ### Cutting both ends -/

section Cut
variable {p q : Char → Bool}

/-- A text without its first characters with `p` and its last ones with `q`. -/
def cut (p q : Char → Bool) (s : Str) : Str :=
  (s.dropWhile p).rdropWhile q

lemma cut_eq_append (p q : Char → Bool) (s : Str) : ∃ front back, s = front ++ cut p q s ++ back ∧
    (∀ c ∈ front, p c = true) ∧ ∀ c ∈ back, q c = true := by
  refine ⟨s.takeWhile p, (s.dropWhile p).rtakeWhile q, ?_, ?_, ?_⟩
  · rw [cut, List.append_assoc, List.rdropWhile_append_rtakeWhile, List.takeWhile_append_dropWhile]
  · exact fun c hc => List.mem_takeWhile_imp hc
  · exact fun c hc => List.mem_rtakeWhile_imp hc

lemma head?_cut : ∀ c ∈ (cut p q s).head?, p c = false := by
  intro c hc
  obtain ⟨rest, hrest⟩ : cut p q s <+: s.dropWhile p := List.rdropWhile_prefix _ _
  obtain ⟨tail, htail⟩ := List.head?_eq_some_iff.1 hc
  have hhead := List.head?_dropWhile_not p s
  rw [← hrest, htail] at hhead
  exact hhead

lemma getLast?_cut : ∀ c ∈ (cut p q s).getLast?, q c = false := by
  intro c hc
  have hne : cut p q s ≠ [] := by
    intro h
    rw [h] at hc
    cases hc
  have hlast := List.rdropWhile_last_not q (s.dropWhile p) hne
  rw [Option.mem_def, List.getLast?_eq_some_getLast hne, Option.some.injEq] at hc
  exact Bool.eq_false_iff.2 (hc ▸ hlast)

lemma cut_eq_self (hhead : ∀ c ∈ s.head?, p c = false) (hlast : ∀ c ∈ s.getLast?, q c = false) :
    cut p q s = s := by
  have hdrop : s.dropWhile p = s := by
    cases s with
    | nil => rfl
    | cons c s => exact List.dropWhile_cons_of_neg (Bool.eq_false_iff.1 (hhead c rfl))
  rw [cut, hdrop]
  apply List.rdropWhile_eq_self_iff.2
  intro hne
  exact Bool.eq_false_iff.1 (hlast _ (List.getLast?_eq_some_getLast hne))

lemma cut_eq_nil (hqp : ∀ c, q c = true → p c = true) :
    cut p q s = [] ↔ ∀ c ∈ s, p c = true := by
  obtain ⟨front, back, hs, hf, hb⟩ := cut_eq_append p q s
  constructor
  · intro h c hc
    rw [hs, h, List.append_nil] at hc
    rcases List.mem_append.1 hc with hc | hc
    · exact hf c hc
    · exact hqp c (hb c hc)
  · intro h
    rw [cut, List.dropWhile_eq_nil_iff.2 h]
    rfl

/-- More of what is cut off makes no difference. -/
lemma cut_append (hqp : ∀ c, q c = true → p c = true) (hf : ∀ c ∈ front, p c = true)
    (hb : ∀ c ∈ back, q c = true) : cut p q (front ++ s ++ back) = cut p q s := by
  by_cases h : ∀ c ∈ s, p c = true
  · rw [(cut_eq_nil hqp).2 h, cut_eq_nil hqp]
    intro c hc
    rcases List.mem_append.1 hc with hc | hc
    · rcases List.mem_append.1 hc with hc | hc
      · exact hf c hc
      · exact h c hc
    · exact hqp c (hb c hc)
  · have hdrop : s.dropWhile p ≠ [] := fun hnil => h (List.dropWhile_eq_nil_iff.1 hnil)
    have hback : ∀ c ∈ back.reverse, q c = true := fun c hc => hb c (List.mem_reverse.1 hc)
    rw [cut, List.append_assoc, List.dropWhile_append_of_pos hf, List.dropWhile_append,
      if_neg (by simpa using hdrop), List.rdropWhile, List.reverse_append,
      List.dropWhile_append_of_pos hback]
    rfl

end Cut

/-! ### Trimming -/

/-- The text neither begins nor ends with white space. -/
def Trimmed (s : Str) : Prop :=
  (∀ c ∈ s.head?, isSpace c = false) ∧ ∀ c ∈ s.getLast?, isSpace c = false

instance : DecidablePred Trimmed := fun s =>
  @instDecidableAnd _ _ (Option.decidableForallMem s.head?) (Option.decidableForallMem s.getLast?)

lemma strip_sublist (s : Str) : (strip s).Sublist s :=
  (List.rdropWhile_prefix _ _).sublist.trans (List.dropWhile_sublist _)

/-- What `strip` cuts off is white space. -/
lemma strip_eq_append (s : Str) : ∃ front back, s = front ++ strip s ++ back ∧
    (∀ c ∈ front, isSpace c = true) ∧ ∀ c ∈ back, isSpace c = true :=
  cut_eq_append isSpace isSpace s

/-- And it cuts off all of it. -/
lemma trimmed_strip (s : Str) : Trimmed (strip s) :=
  ⟨head?_cut, getLast?_cut⟩

/-- A text that begins with a visible character loses white space at its end. -/
lemma strip_cons_append (hc : isSpace c = false) (s : Str) :
    ∃ r back, s = r ++ back ∧ strip (c :: s) = c :: r ∧ ∀ d ∈ back, isSpace d = true := by
  obtain ⟨front, back, hs, hfront, hback⟩ := strip_eq_append (c :: s)
  obtain ⟨r, hr, -⟩ := strip_cons hc s
  rw [hr] at hs
  cases front with
  | nil => exact ⟨r, back, (List.cons.inj hs).2, hr, hback⟩
  | cons d front =>
    have hd := hfront d List.mem_cons_self
    rw [← (List.cons.inj hs).1, hc] at hd
    cases hd

/-- There is one way to cut white space off both ends. -/
lemma strip_append (hf : ∀ c ∈ front, isSpace c = true) (hb : ∀ c ∈ back, isSpace c = true)
    (ht : Trimmed t) : strip (front ++ t ++ back) = t :=
  (cut_append (fun _ h => h) hf hb).trans (cut_eq_self ht.1 ht.2)

/-- What stands behind a visible character is all that is cut. -/
lemma strip_append_cons (hhead : ∀ d ∈ (s ++ [c]).head?, isSpace d = false)
    (hc : isSpace c = false) (t : Str) :
    ∃ r back, t = r ++ back ∧ strip (s ++ c :: t) = s ++ c :: r := by
  obtain ⟨r, back, rfl, hr, hback⟩ := strip_cons_append hc t
  refine ⟨r, back, rfl, ?_⟩
  have htrim : Trimmed (s ++ c :: r) := by
    constructor
    · intro d hd
      apply hhead
      cases s with
      | nil => exact hd
      | cons _ _ => exact hd
    · have hlast := (trimmed_strip (c :: (r ++ back))).2
      rw [hr] at hlast
      rwa [List.getLast?_append_of_ne_nil _ (List.cons_ne_nil c r)]
  have hcut := strip_append (List.forall_mem_nil _) hback htrim
  rwa [List.nil_append, List.append_assoc, List.cons_append] at hcut

lemma strip_eq_self : strip s = s ↔ Trimmed s := by
  constructor
  · intro h
    rw [← h]
    exact trimmed_strip s
  · exact fun h => cut_eq_self h.1 h.2

lemma strip_strip (s : Str) : strip (strip s) = strip s :=
  strip_eq_self.2 (trimmed_strip s)

/-- The text ends in white space. -/
def EndsInSpace (s : Str) : Prop :=
  ∃ c ∈ s.getLast?, isSpace c = true

instance : DecidablePred EndsInSpace := fun s => Option.decidableExistsMem s.getLast?

/-! ### Splitting -/

/-- No part contains a separator. -/
lemma splitOnP_forall {p : Char → Bool} : ∀ part ∈ s.splitOnP p, ∀ c ∈ part, p c = false := by
  induction s with
  | nil =>
    intro part h c hc
    rw [List.splitOnP_nil] at h
    rw [List.mem_singleton.1 h] at hc
    cases hc
  | cons d s ih =>
    intro part h c hc
    rw [List.splitOnP_cons_eq_if_modifyHead] at h
    split at h
    · rcases List.mem_cons.1 h with rfl | h
      · cases hc
      · exact ih part h c hc
    · next hd =>
      obtain ⟨first, rest, hs⟩ := List.exists_cons_of_ne_nil (List.splitOnP_ne_nil p s)
      rw [hs, List.modifyHead_cons] at h
      rw [hs] at ih
      rcases List.mem_cons.1 h with rfl | h
      · rcases List.mem_cons.1 hc with rfl | hc
        · exact Bool.eq_false_iff.2 hd
        · exact ih first List.mem_cons_self c hc
      · exact ih part (List.mem_cons_of_mem _ h) c hc

/-! ### The last separator -/

/-- `s.rpartition(c)[2]`: what stands behind the last `c`, or the whole text. -/
def afterLast (s : Str) (c : Char) : Str :=
  (rpartition s c).2.2

lemma rpartition_append (h : c ∉ t) (s : Str) : rpartition (s ++ c :: t) c = (s, [c], t) := by
  have hpart : ∀ d ∈ t.reverse, (d != c) = true := by
    intro d hd
    rw [bne_iff_ne]
    rintro rfl
    exact h (List.mem_reverse.1 hd)
  have hrev : (s ++ c :: t).reverse = t.reverse ++ c :: s.reverse := by simp
  have hstop : ¬(c != c) = true := by simp
  have hdrop : (s ++ c :: t).rdropWhile (· != c) = s ++ [c] := by
    rw [List.rdropWhile, hrev, List.dropWhile_append_of_pos hpart,
      List.dropWhile_cons_of_neg (p := (· != c)) hstop]
    simp
  have htake : (s ++ c :: t).rtakeWhile (· != c) = t := by
    rw [List.rtakeWhile, hrev, List.takeWhile_append_of_pos hpart,
      List.takeWhile_cons_of_neg (p := (· != c)) hstop]
    simp
  rw [rpartition, if_pos (by simp), hdrop, htake, List.dropLast_concat]

lemma afterLast_append (h : c ∉ t) (s : Str) : afterLast (s ++ c :: t) c = t := by
  rw [afterLast, rpartition_append h]

lemma afterLast_of_notMem (h : c ∉ s) : afterLast s c = s := by
  rw [afterLast, rpartition, if_neg h]

/-- A text is cut at its last separator. -/
lemma exists_afterLast (h : c ∈ s) : ∃ front, s = front ++ c :: afterLast s c ∧ c ∉ afterLast s c := by
  obtain ⟨t, front, hs, ht⟩ := List.eq_append_cons_of_mem (List.mem_reverse.2 h)
  have hs : s = front.reverse ++ c :: t.reverse := by
    rw [← List.reverse_reverse s, hs]
    simp
  have ht : c ∉ t.reverse := fun hc => ht (List.mem_reverse.1 hc)
  have hafter : afterLast s c = t.reverse := by
    rw [hs]
    exact afterLast_append ht _
  rw [hafter]
  exact ⟨front.reverse, hs, ht⟩

lemma afterLast_suffix (s : Str) (c : Char) : afterLast s c <:+ s := by
  by_cases h : c ∈ s
  · obtain ⟨front, hs, -⟩ := exists_afterLast h
    exact ⟨front ++ [c], by rw [List.append_assoc]; exact hs.symm⟩
  · exact ⟨[], afterLast_of_notMem h⟩

end Text
