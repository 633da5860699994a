import Mathlib.Data.List.Forall2
import MediaScanMonitor.Lib.Text

/-!
# Case mapping

What is relied on of `str.lower`, as laws of a function on texts. A text is lowered character by
character; the neighbours may choose between images (a final sigma), but every image is not empty and
in lower case already, and white space, ASCII digits and ASCII punctuation are neither changed nor
produced.
-/

namespace Text

/-- White space, and what ASCII has besides letters. -/
def isCaseless (c : Char) : Bool :=
  isSpace c || (c.toNat < 128 && !c.isAlpha)

/-- A piece that a character may be lowered to. -/
structure Lowers (lower : Str → Str) (c : Char) (piece : Str) : Prop where
  ne_nil : piece ≠ []
  lowered : ∀ d ∈ piece, lower [d] = [d]
  caseless : ∀ d ∈ piece, isCaseless d = isCaseless c
  unchanged : lower [c] = [c] ∨ isCaseless c = true → piece = [c]

/-- The laws of `str.lower`. -/
structure Lowering (lower : Str → Str) : Prop where
  pieces : ∀ s, ∃ pieces, lower s = pieces.flatten ∧ List.Forall₂ (Lowers lower) s pieces

/-- Moreover, what has no case and surrounds a text makes no difference to it. -/
structure WordLowering (lower : Str → Str) : Prop extends Lowering lower where
  outer : ∀ front s back, (∀ c ∈ front, isCaseless c = true) → (∀ c ∈ back, isCaseless c = true) →
    lower (front ++ s ++ back) = front ++ lower s ++ back

variable {lower : Str → Str} {s t : Str} {c : Char}

lemma isCaseless_of_isSpace (h : isSpace c = true) : isCaseless c = true := by
  rw [isCaseless, h, Bool.true_or]

/-- A character of the lowered text comes from one of the text. -/
lemma Lowering.mem (hl : Lowering lower) (h : c ∈ lower s) :
    lower [c] = [c] ∧ ∃ d ∈ s, isCaseless c = isCaseless d := by
  obtain ⟨pieces, hs, hp⟩ := hl.pieces s
  rw [hs] at h
  clear hs
  induction hp with
  | nil => cases h
  | @cons d piece s pieces hd _ ih =>
    rw [List.flatten_cons] at h
    rcases List.mem_append.1 h with h | h
    · exact ⟨hd.lowered c h, d, List.mem_cons_self, hd.caseless c h⟩
    · obtain ⟨hc, e, he, hce⟩ := ih h
      exact ⟨hc, e, List.mem_cons_of_mem _ he, hce⟩

/-- A text of characters that are in lower case. -/
lemma Lowering.eq_self (hl : Lowering lower)
    (h : ∀ c ∈ s, lower [c] = [c] ∨ isCaseless c = true) : lower s = s := by
  obtain ⟨pieces, hs, hp⟩ := hl.pieces s
  rw [hs]
  clear hs
  induction hp with
  | nil => rfl
  | @cons d piece s pieces hd _ ih =>
    rw [List.flatten_cons, hd.unchanged (h d List.mem_cons_self),
      ih fun c hc => h c (List.mem_cons_of_mem _ hc)]
    rfl

/-- Whatever is cut out of a lowered text is in lower case. -/
lemma Lowering.lower_of_subset (hl : Lowering lower) (h : ∀ c ∈ t, c ∈ lower s) : lower t = t :=
  hl.eq_self fun c hc => .inl (hl.mem (h c hc)).1

lemma Lowering.lower_lower (hl : Lowering lower) (s : Str) : lower (lower s) = lower s :=
  hl.lower_of_subset fun _ hc => hc

/-- Characters without case come from themselves alone. -/
lemma mem_flatten_caseless {pieces : List Str} (hp : List.Forall₂ (Lowers lower) s pieces)
    (hc : isCaseless c = true) : c ∈ pieces.flatten ↔ c ∈ s := by
  induction hp with
  | nil => exact Iff.rfl
  | @cons d piece s pieces hd _ ih =>
    rw [List.flatten_cons, List.mem_append, List.mem_cons, ih]
    apply or_congr_left
    constructor
    · intro h
      have hd' : isCaseless d = true := (hd.caseless c h).symm.trans hc
      rw [hd.unchanged (.inr hd')] at h
      exact List.mem_singleton.1 h
    · rintro rfl
      rw [hd.unchanged (.inr hc)]
      exact List.mem_singleton_self c

lemma Lowering.mem_caseless (hl : Lowering lower) (hc : isCaseless c = true) :
    c ∈ lower s ↔ c ∈ s := by
  obtain ⟨pieces, hs, hp⟩ := hl.pieces s
  rw [hs]
  exact mem_flatten_caseless hp hc

lemma flatten_eq_nil {pieces : List Str} (hp : List.Forall₂ (Lowers lower) s pieces) :
    pieces.flatten = [] ↔ s = [] := by
  cases hp with
  | nil => exact iff_of_true rfl rfl
  | cons hd _ =>
    rw [List.flatten_cons, List.append_eq_nil_iff]
    exact ⟨fun h => absurd h.1 hd.ne_nil, fun h => by cases h⟩

lemma Lowering.eq_nil (hl : Lowering lower) : lower s = [] ↔ s = [] := by
  obtain ⟨pieces, hs, hp⟩ := hl.pieces s
  rw [hs]
  exact flatten_eq_nil hp

/-- A lowered text is cut where the text is cut, at a character without case. -/
lemma Lowering.append_cons (hl : Lowering lower) (hc : isCaseless c = true) (s t : Str) :
    ∃ front back, lower (s ++ c :: t) = front ++ c :: back ∧ (front = [] ↔ s = []) ∧
      ∀ d, isCaseless d = true → (d ∈ back ↔ d ∈ t) := by
  obtain ⟨pieces, hs, hp⟩ := hl.pieces (s ++ c :: t)
  have hfront := List.forall₂_take s.length hp
  have hrest := List.forall₂_drop s.length hp
  rw [List.take_left] at hfront
  rw [List.drop_left] at hrest
  rw [← List.take_append_drop s.length pieces, List.flatten_append] at hs
  generalize pieces.drop s.length = rest at hs hrest
  cases hrest with
  | @cons _ piece _ back hpiece hback =>
    rw [hpiece.unchanged (.inr hc), List.flatten_cons] at hs
    refine ⟨_, back.flatten, hs, flatten_eq_nil hfront, fun d hd => ?_⟩
    · exact mem_flatten_caseless hback hd

/-- A text begins with a character without case when the lowered one does. -/
lemma Lowering.head?_caseless (hl : Lowering lower) (hc : isCaseless c = true) :
    (lower s).head? = some c ↔ s.head? = some c := by
  obtain ⟨pieces, hs, hp⟩ := hl.pieces s
  rw [hs]
  cases hp with
  | nil => exact Iff.rfl
  | @cons d piece s pieces hd _ =>
    obtain ⟨e, piece, rfl⟩ := List.exists_cons_of_ne_nil hd.ne_nil
    rw [List.flatten_cons, List.cons_append, List.head?_cons, List.head?_cons, Option.some.injEq,
      Option.some.injEq]
    have he : isCaseless e = isCaseless d := hd.caseless e List.mem_cons_self
    constructor
    · rintro rfl
      have hd' := hd.unchanged (.inr (he.symm.trans hc))
      exact (List.cons.inj hd').1.symm
    · rintro rfl
      exact (List.cons.inj (hd.unchanged (.inr hc))).1

/-- And it ends with one when the lowered one does. -/
lemma Lowering.getLast?_caseless (hl : Lowering lower) (hc : isCaseless c = true) :
    (lower s).getLast? = some c ↔ s.getLast? = some c := by
  obtain ⟨pieces, hs, hp⟩ := hl.pieces s
  rw [hs]
  clear hs
  induction hp with
  | nil => exact Iff.rfl
  | @cons d piece s pieces hd hp ih =>
    rw [List.flatten_cons]
    cases hp with
    | nil =>
      rw [List.flatten_nil, List.append_nil, List.getLast?_singleton, Option.some.injEq]
      constructor
      · intro h
        have hd' := (hd.caseless c (List.mem_of_getLast? h)).symm.trans hc
        rw [hd.unchanged (.inr hd')] at h
        exact Option.some.inj h
      · rintro rfl
        rw [hd.unchanged (.inr hc)]
        rfl
    | @cons e next s pieces he hp =>
      have hne : (next :: pieces).flatten ≠ [] := by
        rw [List.flatten_cons]
        exact fun h => he.ne_nil (List.append_eq_nil_iff.1 h).1
      rw [List.getLast?_append_of_ne_nil _ hne, ih, List.getLast?_cons_cons]

/-- Lowering keeps the white space around a text where it is. -/
lemma Lowering.trimmed (hl : Lowering lower) : Trimmed (lower s) ↔ Trimmed s := by
  have hspace : ∀ o o' : Option Char, (∀ c, isCaseless c = true → (o = some c ↔ o' = some c)) →
      ((∀ c ∈ o, isSpace c = false) ↔ ∀ c ∈ o', isSpace c = false) := by
    intro o o' h
    constructor
    · intro ho c hc
      by_contra hsp
      have hsp := eq_true_of_ne_false hsp
      have hc' := ho c ((h c (isCaseless_of_isSpace hsp)).2 hc)
      exact Bool.false_ne_true (hc'.symm.trans hsp)
    · intro ho c hc
      by_contra hsp
      have hsp := eq_true_of_ne_false hsp
      have hc' := ho c ((h c (isCaseless_of_isSpace hsp)).1 hc)
      exact Bool.false_ne_true (hc'.symm.trans hsp)
  exact and_congr (hspace _ _ fun _ hc => hl.head?_caseless hc)
    (hspace _ _ fun _ hc => hl.getLast?_caseless hc)

/-! ### ASCII text -/

/-- The capital letters. -/
lemma toLower_capital : ∀ n < 26, let c := Char.ofNat (65 + n)
    c.toLower.toLower = c.toLower ∧ isCaseless c.toLower = false ∧ isCaseless c = false := by
  decide

lemma toLower_cases (c : Char) : c.toLower = c ∨ ∃ n < 26, c = Char.ofNat (65 + n) := by
  by_cases h : c.val ≥ 'A'.val ∧ c.val ≤ 'Z'.val
  · right
    have h1 : 65 ≤ c.toNat := h.1
    have h2 : c.toNat ≤ 90 := h.2
    refine ⟨c.toNat - 65, by omega, ?_⟩
    rw [Nat.add_sub_cancel' h1, Char.ofNat_toNat]
  · left
    exact dif_neg h

lemma lowers_lowerAscii (c : Char) : Lowers lowerAscii c [c.toLower] := by
  have hc : c.toLower.toLower = c.toLower ∧ isCaseless c.toLower = isCaseless c ∧
      (isCaseless c = true → c.toLower = c) := by
    rcases toLower_cases c with h | ⟨n, hn, rfl⟩
    · rw [h]
      exact ⟨h, rfl, fun _ => rfl⟩
    · obtain ⟨hidem, hlow, hcap⟩ := toLower_capital n hn
      refine ⟨hidem, hlow.trans hcap.symm, fun h => ?_⟩
      rw [hcap] at h
      cases h
  obtain ⟨hidem, hcase, hfix⟩ := hc
  refine ⟨List.cons_ne_nil _ _, fun d hd => ?_, fun d hd => ?_, fun h => ?_⟩
  · rw [List.mem_singleton.1 hd]
    exact congrArg (fun d => [d]) hidem
  · rw [List.mem_singleton.1 hd, hcase]
  · rcases h with h | h
    · exact h
    · rw [hfix h]

lemma lowering_lowerAscii : Lowering lowerAscii := by
  refine ⟨fun s => ⟨s.map fun c => [c.toLower], ?_, ?_⟩⟩
  · induction s with
    | nil => rfl
    | cons c s ih =>
      rw [List.map_cons, List.flatten_cons, ← ih]
      rfl
  · induction s with
    | nil => exact .nil
    | cons c s ih => exact .cons (lowers_lowerAscii c) ih

lemma wordLowering_lowerAscii : WordLowering lowerAscii := by
  have hfix : ∀ s : Str, (∀ c ∈ s, isCaseless c = true) → lowerAscii s = s :=
    fun s h => lowering_lowerAscii.eq_self fun c hc => .inr (h c hc)
  refine ⟨lowering_lowerAscii, fun front s back hf hb => ?_⟩
  show (front ++ s ++ back).map Char.toLower = _
  rw [List.map_append, List.map_append]
  exact congrArg₂ (fun a b => a ++ lowerAscii s ++ b) (hfix front hf) (hfix back hb)

end Text
