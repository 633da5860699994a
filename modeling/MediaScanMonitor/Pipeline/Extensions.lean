import MediaScanMonitor.Db.Extensions
import MediaScanMonitor.Lib.Normpath
import MediaScanMonitor.Pipeline.Filters

/-!
# Extensions in the store and in the filter

What a list of extensions that `FolderCreate` accepts lets through. The filter looks at what stands
behind the last dot of a file name; an entry is stored with the dots inside it, so that one with such a
dot matches nothing.
-/

namespace MediaScanMonitor
open Text PosixPath

/-- A dot or white space. -/
def isMargin (c : Char) : Bool :=
  c == '.' || isSpace c

/-- The entry is not blank once dots and white space are removed. -/
def Usable (ext : Str) : Prop :=
  ∃ c ∈ ext, isMargin c = false

/-- An entry without the dots and the white space in front of it and the white space at its end. -/
def cleaned (ext : Str) : Str :=
  cut isMargin isSpace ext

/-- The extension that an entry stands for. -/
def cleanExtension (lower : Str → Str) (ext : Str) : Str :=
  lower (cleaned ext)

/-- The last segment of a path. -/
def fileName (path : Str) : Str :=
  (split path).getLastD []

/-- The path is to be let through: no entry is usable, or the name of the file ends in the extension of
a usable one, behind a dot and a stem. -/
def Accepted (lower : Str → Str) (raw : List Str) (path : Str) : Prop :=
  (∀ ext ∈ raw, ¬Usable ext) ∨ ∃ ext ∈ raw, Usable ext ∧
    ∃ stem, stem ≠ [] ∧ lower (fileName path) = stem ++ '.' :: cleanExtension lower ext

/-- The rows that `create_folder` makes of bodies with these extensions. -/
inductive CreatedFor (lower : Str → Str) (raw : List Str) : FolderRow → Prop
  | created (db : Database) (serverId : Nat) (body : FolderCreate.Body) (data : FolderCreate)
      (folder : FolderRow) (s' : Store) :
      body.extensions = raw → FolderCreate.validate lower body = .ok data →
      db.createFolder serverId data = .ok (folder, s') → CreatedFor lower raw folder

/-- The route of a folder lets through what its extensions are to let through. -/
def ExtensionsWork (lower : Str → Str) (raw : List Str) : Prop :=
  ∀ folder config r path, CreatedFor lower raw folder → RouteOf lower folder.toFolder config r →
    (extensionMatches lower path r.extensions = true ↔ Accepted lower raw path)

/-- The extensions that the route gets. -/
def routeExtensions (lower : Str → Str) (raw : List Str) : List Str :=
  (normalizeExtensions lower raw).map (normalizeExtension lower)

/-- Without a usable entry nothing is stored. With one, the route gets no empty extension, it gets the
part behind the last dot of every usable entry, and it makes no difference to it whether a file name is
lowered as a whole or in its last part alone. -/
def Listed (lower : Str → Str) (raw : List Str) : Prop :=
  ((∀ ext ∈ raw, ¬Usable ext) → normalizeExtensions lower raw = []) ∧
    ((∃ ext ∈ raw, Usable ext) → [] ∉ routeExtensions lower raw ∧
      (∀ ext ∈ raw, Usable ext → sep ∉ ext →
        afterLast (cleanExtension lower ext) '.' ∈ routeExtensions lower raw) ∧
      ∀ stem ext, stem ≠ [] → sep ∉ stem → sep ∉ ext → '.' ∉ ext →
        (lower ext ∈ routeExtensions lower raw ↔
          afterLast (lower (stem ++ '.' :: ext)) '.' ∈ routeExtensions lower raw))

variable {lower : Str → Str} {s t front back ext : Str} {raw : List Str}

/-! ### Cleaning an entry -/

lemma isCaseless_of_isMargin {c : Char} (h : isMargin c = true) : isCaseless c = true := by
  rw [isMargin, Bool.or_eq_true, beq_iff_eq] at h
  rcases h with rfl | h
  · exact dot_caseless
  · exact isCaseless_of_isSpace h

lemma isMargin_of_isSpace (c : Char) (h : isSpace c = true) : isMargin c = true := by
  rw [isMargin, h, Bool.or_true]

lemma usable_iff : Usable ext ↔ cleaned ext ≠ [] := by
  rw [Ne, cleaned, cut_eq_nil isMargin_of_isSpace, Usable]
  push Not
  simp only [Bool.not_eq_true]

lemma cleanExtension_ne_nil (hl : Lowering lower) :
    Usable ext ↔ cleanExtension lower ext ≠ [] :=
  usable_iff.trans (not_congr hl.eq_nil).symm

/-- Lowering keeps the margins where they are. -/
lemma cleaned_lower (hl : WordLowering lower) (s : Str) :
    cleaned (lower s) = lower (cleaned s) := by
  obtain ⟨front, back, hs, hf, hb⟩ := cut_eq_append isMargin isSpace s
  have hcut := hl.outer front (cleaned s) back (fun c hc => isCaseless_of_isMargin (hf c hc))
    fun c hc => isCaseless_of_isSpace (hb c hc)
  have hlow : lower s = front ++ lower (cleaned s) ++ back := by
    rw [← hcut, cleaned, ← hs]
  rw [hlow, cleaned, cut_append isMargin_of_isSpace hf hb]
  apply cut_eq_self
  · intro c hc
    by_contra hm
    have hcase := isCaseless_of_isMargin (eq_true_of_ne_false hm)
    exact hm (head?_cut c ((hl.head?_caseless hcase).1 hc))
  · intro c hc
    by_contra hm
    have hcase := isCaseless_of_isSpace (eq_true_of_ne_false hm)
    exact hm (getLast?_cut c ((hl.getLast?_caseless hcase).1 hc))

lemma cleaned_strip (s : Str) : cleaned (strip s) = cleaned s := by
  obtain ⟨front, back, hs, hf, hb⟩ := strip_eq_append s
  have hcut := cut_append (s := strip s) isMargin_of_isSpace
    (fun c hc => isMargin_of_isSpace c (hf c hc)) hb
  rw [← hs] at hcut
  exact hcut.symm

lemma cleaned_lstripChar (s : Str) : cleaned (lstripChar s '.') = cleaned s := by
  have hdots : ∀ c ∈ s.takeWhile (· == '.'), isMargin c = true := by
    intro c hc
    have hdot := List.mem_takeWhile_imp hc
    rw [isMargin, hdot, Bool.true_or]
  have hcut : cleaned (s.takeWhile (· == '.') ++ lstripChar s '.' ++ []) =
      cleaned (lstripChar s '.') :=
    cut_append isMargin_of_isSpace hdots (List.forall_mem_nil _)
  rw [List.append_nil, lstripChar, List.takeWhile_append_dropWhile] at hcut
  exact hcut.symm

/-- `normalize_extension` cuts off less. -/
lemma cleaned_bareExtension (s : Str) : cleaned (bareExtension s) = cleaned s := by
  rw [bareExtension, cleaned_strip, cleaned_lstripChar, cleaned_strip]

/-- The clean extension of an entry is found in every pass. -/
lemma cleaned_normalizeExtension (hl : WordLowering lower) (ext : Str) :
    cleaned (normalizeExtension lower ext) = cleanExtension lower ext := by
  have hbare : normalizeExtension lower ext = lower (bareExtension ext) := rfl
  rw [hbare, cleaned_lower hl, cleaned_bareExtension]
  rfl

/-- What is left after two passes is the clean extension, when it contains no dot. -/
lemma twice_eq_clean (hl : WordLowering lower)
    (h : '.' ∉ normalizeExtension lower (normalizeExtension lower ext)) :
    normalizeExtension lower (normalizeExtension lower ext) = cleanExtension lower ext := by
  generalize htwice : normalizeExtension lower (normalizeExtension lower ext) = s at h
  have htrim : Trimmed s := htwice ▸ trimmed_normalizeExtension hl.toLowering _
  have hself : cleaned s = s := by
    refine cut_eq_self (fun c hc => ?_) htrim.2
    rw [isMargin, htrim.1 c hc, Bool.or_false, beq_eq_false_iff_ne]
    rintro rfl
    exact h (List.mem_of_head? hc)
  rw [← hself, ← htwice, cleaned_normalizeExtension hl, cleanExtension,
    cleaned_normalizeExtension hl, cleanExtension, hl.lower_lower]

/-! ### The name of a file -/

lemma sep_notMem_fileName (path : Str) : sep ∉ fileName path := by
  rw [fileName, List.getLastD_eq_getLast?]
  cases h : (split path).getLast? with
  | none => exact List.not_mem_nil
  | some name => exact sep_notMem_split name (List.mem_of_getLast? h)

lemma fileName_of_notMem (h : sep ∉ s) : fileName s = s := by
  rw [fileName, split, List.splitOn_eq_singleton h]
  rfl

/-- What the filter lets through. -/
lemma extensionMatches_iff {path : Str} {extensions : List Str} (hne : extensions ≠ []) :
    extensionMatches lower path extensions = true ↔ ∃ stem ext, stem ≠ [] ∧ '.' ∉ ext ∧
      fileName path = stem ++ '.' :: ext ∧ lower ext ∈ extensions := by
  have hmatch : extensionMatches lower path extensions =
      if (rpartition (fileName path) '.').2.1 = [] ∨ (rpartition (fileName path) '.').1 = []
      then false else lower (rpartition (fileName path) '.').2.2 ∈ extensions := by
    rw [extensionMatches, if_neg hne]
    rfl
  rw [hmatch]
  by_cases hdot : '.' ∈ fileName path
  · obtain ⟨stem, hname, hlast⟩ := exists_afterLast hdot
    generalize afterLast (fileName path) '.' = ext at hname hlast
    rw [hname, rpartition_append hlast]
    constructor
    · intro h
      dsimp only at h
      split at h
      · cases h
      · next hstem =>
        rw [not_or] at hstem
        exact ⟨stem, ext, hstem.2, hlast, rfl, of_decide_eq_true h⟩
    · rintro ⟨stem', ext', hstem, hext, he, hmem⟩
      have hsame := congrArg (fun s => rpartition s '.') he
      rw [rpartition_append hlast, rpartition_append hext] at hsame
      cases hsame
      dsimp only
      rw [if_neg (by simp [hstem])]
      exact decide_eq_true hmem
  · rw [rpartition, if_neg hdot]
    refine iff_of_false Bool.false_ne_true ?_
    rintro ⟨stem, ext, -, -, hname, -⟩
    apply hdot
    rw [hname]
    simp

lemma afterLast_of_suffix (s t : Str) : afterLast (s ++ '.' :: t) '.' = afterLast t '.' := by
  by_cases h : '.' ∈ t
  · obtain ⟨front, ht, hlast⟩ := exists_afterLast h
    generalize afterLast t '.' = ext at ht hlast
    rw [ht, ← List.cons_append, ← List.append_assoc]
    exact afterLast_append hlast _
  · rw [afterLast_append h, afterLast_of_notMem h]

/-! ### The extensions of a route -/

lemma mem_routeExtensions : s ∈ routeExtensions lower raw ↔ ∃ ext ∈ raw,
    normalizeExtension lower ext ≠ [] ∧
      normalizeExtension lower (normalizeExtension lower ext) = s := by
  rw [routeExtensions, List.mem_map]
  constructor
  · rintro ⟨once, honce, rfl⟩
    obtain ⟨hne, ext, hext, rfl⟩ := mem_normalizeExtensions.1 honce
    exact ⟨ext, hext, hne, rfl⟩
  · rintro ⟨ext, hext, hne, rfl⟩
    exact ⟨_, mem_normalizeExtensions.2 ⟨hne, ext, hext, rfl⟩, rfl⟩

lemma routeExtensions_ne_nil (hl : WordLowering lower) (h : ∃ ext ∈ raw, Usable ext) :
    routeExtensions lower raw ≠ [] := by
  obtain ⟨ext, hext, hu⟩ := h
  have hne : normalizeExtension lower ext ≠ [] := by
    intro hnil
    have hclean := cleaned_normalizeExtension hl ext
    rw [hnil] at hclean
    exact (cleanExtension_ne_nil hl.toLowering).1 hu hclean.symm
  exact List.ne_nil_of_mem (mem_routeExtensions.2 ⟨ext, hext, hne, rfl⟩)

/-- An extension of a route without a dot is the clean one of a usable entry, or empty. -/
lemma clean_of_mem (hl : WordLowering lower) (hs : s ∈ routeExtensions lower raw) (hdot : '.' ∉ s)
    (hne : s ≠ []) : ∃ ext ∈ raw, Usable ext ∧ cleanExtension lower ext = s := by
  obtain ⟨ext, hext, -, rfl⟩ := mem_routeExtensions.1 hs
  have hclean := twice_eq_clean hl hdot
  rw [hclean] at hne ⊢
  exact ⟨ext, hext, (cleanExtension_ne_nil hl.toLowering).2 hne, rfl⟩

/-- The separator of paths is in a clean extension when it is in the entry. -/
lemma sep_mem_clean (hl : WordLowering lower) (h : sep ∈ ext) :
    sep ∈ cleanExtension lower ext := by
  have hcase : isCaseless sep = true := by decide
  rw [cleanExtension, hl.mem_caseless hcase]
  obtain ⟨front, back, hs, hf, hb⟩ := cut_eq_append isMargin isSpace ext
  rw [hs] at h
  rcases List.mem_append.1 h with h | h
  · rcases List.mem_append.1 h with h | h
    · cases hf sep h
    · exact h
  · cases hb sep h

/-! ### What is let through -/

/-- A lowered name is cut at its last dot where the name is. -/
lemma lower_dotted (hl : Lowering lower) (stem : Str) (hext : '.' ∉ ext) :
    ∃ front, lower (stem ++ '.' :: ext) =
        front ++ '.' :: afterLast (lower (stem ++ '.' :: ext)) '.' ∧
      (front = [] ↔ stem = []) ∧ '.' ∉ afterLast (lower (stem ++ '.' :: ext)) '.' := by
  obtain ⟨front, back, hlow, hfront, hback⟩ := hl.append_cons dot_caseless stem ext
  have hlast : '.' ∉ back := fun h => hext ((hback _ dot_caseless).1 h)
  have hafter : afterLast (lower (stem ++ '.' :: ext)) '.' = back := by
    rw [hlow]
    exact afterLast_append hlast _
  rw [hafter]
  exact ⟨front, hlow, hfront, hlast⟩

/-- A name that ends in an extension behind a stem has a dot behind a stem. -/
lemma dotted_of_lower (hl : Lowering lower) {name stem : Str} (hstem : stem ≠ [])
    (h : lower name = stem ++ '.' :: t) :
    ∃ stem ext, stem ≠ [] ∧ '.' ∉ ext ∧ name = stem ++ '.' :: ext := by
  have hdot : '.' ∈ name := by
    rw [← hl.mem_caseless dot_caseless, h]
    simp
  obtain ⟨stem', hname, hext⟩ := exists_afterLast hdot
  generalize afterLast name '.' = ext at hname hext
  refine ⟨stem', ext, ?_, hext, hname⟩
  rintro rfl
  obtain ⟨front, hlow, hfront, hlast⟩ := lower_dotted hl [] hext
  rw [← hname, h, hfront.2 rfl, List.nil_append] at hlow
  obtain ⟨c, rest, rfl⟩ := List.exists_cons_of_ne_nil hstem
  apply hlast
  rw [← hname, h, ← (List.cons.inj hlow).2]
  simp

/-- The first two conditions of `Listed`, when an entry is usable. -/
structure PartsListed (lower : Str → Str) (raw : List Str) : Prop where
  nil : [] ∉ routeExtensions lower raw
  parts : ∀ ext ∈ raw, Usable ext → sep ∉ ext →
    afterLast (cleanExtension lower ext) '.' ∈ routeExtensions lower raw

lemma accepted_iff (hu : ∃ ext ∈ raw, Usable ext) {path : Str} :
    Accepted lower raw path ↔ ∃ entry ∈ raw, Usable entry ∧ ∃ stem, stem ≠ [] ∧
      lower (fileName path) = stem ++ '.' :: cleanExtension lower entry := by
  apply or_iff_right
  intro hnone
  obtain ⟨entry, he, hue⟩ := hu
  exact hnone entry he hue

/-- Then the last part of the lowered name decides. -/
lemma PartsListed.accepted_iff (hp : PartsListed lower raw) (hl : WordLowering lower)
    (hu : ∃ ext ∈ raw, Usable ext) {path stem : Str} (hstem : stem ≠ []) (hext : '.' ∉ ext)
    (hname : fileName path = stem ++ '.' :: ext) :
    Accepted lower raw path ↔
      afterLast (lower (stem ++ '.' :: ext)) '.' ∈ routeExtensions lower raw := by
  rw [MediaScanMonitor.accepted_iff hu, hname]
  obtain ⟨front, hlow, hfront, hlast⟩ := lower_dotted hl.toLowering stem hext
  constructor
  · rintro ⟨entry, he, hue, stem', -, hlow'⟩
    have hsep : sep ∉ entry := by
      intro h
      have hcase : isCaseless sep = true := by decide
      apply sep_notMem_fileName path
      rw [← hl.mem_caseless hcase, hname, hlow']
      exact List.mem_append_right _ (List.mem_cons_of_mem _ (sep_mem_clean hl h))
    rw [hlow', afterLast_of_suffix]
    exact hp.parts entry he hue hsep
  · intro hmem
    have hne : afterLast (lower (stem ++ '.' :: ext)) '.' ≠ [] := by
      intro hnil
      rw [hnil] at hmem
      exact hp.nil hmem
    obtain ⟨entry, he, hue, hclean⟩ := clean_of_mem hl hmem hlast hne
    exact ⟨entry, he, hue, front, fun h => hstem (hfront.1 h), by rw [hclean]; exact hlow⟩

/-- A name of characters that are in lower case already. -/
lemma lower_dash (hl : WordLowering lower) (ext : Str) :
    lower ('-' :: '.' :: cleanExtension lower ext) = '-' :: '.' :: cleanExtension lower ext := by
  apply hl.eq_self
  intro c hc
  rcases List.mem_cons.1 hc with rfl | hc
  · exact .inr (by decide)
  · rcases List.mem_cons.1 hc with rfl | hc
    · exact .inr dot_caseless
    · exact .inl (hl.mem hc).1

lemma partsListed (hl : WordLowering lower) (hu : ∃ ext ∈ raw, Usable ext)
    (h : ∀ path, extensionMatches lower path (routeExtensions lower raw) = true ↔
      Accepted lower raw path) : PartsListed lower raw := by
  have hne := routeExtensions_ne_nil hl hu
  constructor
  · intro hnil
    have hmatch : extensionMatches lower ['-', '.'] (routeExtensions lower raw) = true := by
      rw [extensionMatches_iff hne]
      refine ⟨['-'], [], by simp, by simp, by decide, ?_⟩
      rw [hl.eq_nil.2 rfl]
      exact hnil
    obtain ⟨entry, -, hue, stem, hstem, hlow⟩ := (accepted_iff hu).1 ((h _).1 hmatch)
    have hcase : ['-', '.'].all isCaseless = true := by decide
    have hself : lower ['-', '.'] = ['-', '.'] :=
      hl.eq_self fun c hc => .inr (List.all_eq_true.1 hcase c hc)
    have hname : fileName ['-', '.'] = ['-', '.'] := by decide
    rw [hname, hself] at hlow
    have hlen := congrArg List.length hlow
    have hpos := List.length_pos_iff.2 hstem
    have hpos' := List.length_pos_iff.2 ((cleanExtension_ne_nil hl.toLowering).1 hue)
    simp only [List.length_cons, List.length_nil, List.length_append] at hlen
    omega
  · intro entry he hue hsep
    have hsepc : sep ∉ '-' :: '.' :: cleanExtension lower entry := by
      have hcase : isCaseless sep = true := by decide
      intro hmem
      rcases List.mem_cons.1 hmem with hc | hmem
      · cases hc
      · rcases List.mem_cons.1 hmem with hc | hmem
        · cases hc
        · rw [cleanExtension, hl.mem_caseless hcase] at hmem
          obtain ⟨front, back, hs, -, -⟩ := cut_eq_append isMargin isSpace entry
          apply hsep
          rw [hs]
          exact List.mem_append_left _ (List.mem_append_right _ hmem)
    have hname := fileName_of_notMem hsepc
    have hacc : Accepted lower raw ('-' :: '.' :: cleanExtension lower entry) := by
      rw [accepted_iff hu, hname, lower_dash hl]
      exact ⟨entry, he, hue, ['-'], by simp, rfl⟩
    obtain ⟨stem, ext, -, hext, hcut, hmem⟩ := (extensionMatches_iff hne).1 ((h _).2 hacc)
    have hlast : ext = afterLast (cleanExtension lower entry) '.' := by
      rw [← afterLast_of_suffix ['-'], ← afterLast_append hext stem, ← hcut, hname]
      rfl
    have hself : lower ext = ext := by
      apply hl.lower_of_subset (s := cleaned entry)
      intro c hc
      rw [hlast] at hc
      exact (afterLast_suffix _ _).subset hc
    rw [← hlast, ← hself]
    exact hmem

/-- Without a usable entry everything is to be let through, so nothing may be stored. -/
lemma matches_iff_nil (hnone : ∀ ext ∈ raw, ¬Usable ext) :
    (∀ path, extensionMatches lower path (routeExtensions lower raw) = true ↔
      Accepted lower raw path) ↔ normalizeExtensions lower raw = [] := by
  have hacc : ∀ path, Accepted lower raw path := fun _ => .inl hnone
  constructor
  · intro h
    by_contra hne
    have hroute : routeExtensions lower raw ≠ [] := fun hnil => hne (List.map_eq_nil_iff.1 hnil)
    obtain ⟨stem, ext, -, -, hcut, -⟩ := (extensionMatches_iff hroute).1 ((h []).2 (hacc []))
    have hname : fileName [] = [] := by decide
    rw [hname] at hcut
    simp at hcut
  · intro h path
    have hnil : routeExtensions lower raw = [] := by
      rw [routeExtensions, h]
      rfl
    rw [hnil]
    exact iff_of_true rfl (hacc path)

lemma matches_iff_listed (hl : WordLowering lower) (raw : List Str) :
    (∀ path, extensionMatches lower path (routeExtensions lower raw) = true ↔
      Accepted lower raw path) ↔ Listed lower raw := by
  by_cases hu : ∃ ext ∈ raw, Usable ext
  · have hne := routeExtensions_ne_nil hl hu
    have hname : ∀ stem ext : Str, sep ∉ stem → sep ∉ ext →
        fileName (stem ++ '.' :: ext) = stem ++ '.' :: ext := by
      intro stem ext hs he
      apply fileName_of_notMem
      rw [List.mem_append, List.mem_cons, not_or, not_or]
      exact ⟨hs, by decide, he⟩
    constructor
    · intro h
      have hp := partsListed hl hu h
      refine ⟨fun hnone => ?_, fun _ => ⟨hp.nil, hp.parts, ?_⟩⟩
      · obtain ⟨ext, he, hue⟩ := hu
        exact absurd hue (hnone ext he)
      · intro stem ext hstem hs he hext
        have hcut := hname stem ext hs he
        rw [← hp.accepted_iff hl hu hstem hext hcut, ← h, extensionMatches_iff hne]
        constructor
        · exact fun hmem => ⟨stem, ext, hstem, hext, hcut, hmem⟩
        · rintro ⟨stem', ext', -, hext', hcut', hmem⟩
          have hsame := congrArg (fun s => afterLast s '.') (hcut.symm.trans hcut')
          rw [afterLast_append hext, afterLast_append hext'] at hsame
          rw [hsame]
          exact hmem
    · rintro ⟨-, hlisted⟩ path
      obtain ⟨hnil, hparts, hcase⟩ := hlisted hu
      have hp : PartsListed lower raw := ⟨hnil, hparts⟩
      have hsep := sep_notMem_fileName path
      have hdotted : ∀ stem ext : Str, stem ≠ [] → '.' ∉ ext → fileName path = stem ++ '.' :: ext →
          (lower ext ∈ routeExtensions lower raw ↔ Accepted lower raw path) := by
        intro stem ext hstem hext hcut
        rw [hp.accepted_iff hl hu hstem hext hcut]
        rw [hcut, List.mem_append, List.mem_cons, not_or, not_or] at hsep
        exact hcase stem ext hstem hsep.1 hsep.2.2 hext
      rw [extensionMatches_iff hne]
      constructor
      · rintro ⟨stem, ext, hstem, hext, hcut, hmem⟩
        exact (hdotted stem ext hstem hext hcut).1 hmem
      · intro hacc
        obtain ⟨entry, -, -, stem, hstem, hlow⟩ := (accepted_iff hu).1 hacc
        obtain ⟨stem', ext, hstem', hext, hcut⟩ := dotted_of_lower hl.toLowering hstem hlow
        exact ⟨stem', ext, hstem', hext, hcut, (hdotted stem' ext hstem' hext hcut).2 hacc⟩
  · have hnone : ∀ ext ∈ raw, ¬Usable ext := fun ext he hue => hu ⟨ext, he, hue⟩
    rw [matches_iff_nil hnone]
    exact ⟨fun h => ⟨fun _ => h, fun hu' => absurd hu' hu⟩, fun h => h.1 hnone⟩

/-- The route of a created folder has the extensions of its entries. -/
lemma CreatedFor.route {folder : FolderRow} {config : RuntimeConfig} {r : FolderRoute}
    (h : CreatedFor lower raw folder) (hr : RouteOf lower folder.toFolder config r) :
    r.extensions = routeExtensions lower raw := by
  obtain ⟨server, types, rfl⟩ := hr.eq_route
  cases h with
  | created db serverId body data _ s' hraw hv hc =>
    have htypes := created_filetypes hv hc
    rw [hraw] at htypes
    show folder.filetypes.map (normalizeExtension lower) = _
    rw [htypes]
    rfl

/-- Every list of extensions is that of a folder with a route. -/
lemma exists_createdFor (lower : Str → Str) (raw : List Str) : ∃ folder config r,
    CreatedFor lower raw folder ∧ RouteOf lower folder.toFolder config r := by
  have habs : isabs (normalizePath "/tv".toList) = true := by decide
  let body : FolderCreate.Body := { path := "/tv".toList, extensions := raw }
  obtain ⟨data, folder, s', hv, hc, -, -, henabled⟩ := exists_created lower body habs
  have henabled : folder.toFolder.enabled = true := henabled
  obtain ⟨config, r, hr⟩ := exists_route lower henabled
  exact ⟨folder, config, r, .created oneServer 1 body data folder s' rfl hv hc, hr⟩

/-- The route of a folder lets through what its extensions are to let through exactly when, without a
usable entry, nothing is stored, and with one, no empty extension is left, the part behind the last dot
of every usable entry is an extension of the route, and it makes no difference whether a file name is
lowered as a whole or in its last part. -/
theorem extensions_work_iff (hl : WordLowering lower) (raw : List Str) :
    ExtensionsWork lower raw ↔ Listed lower raw := by
  rw [← matches_iff_listed hl]
  constructor
  · intro h path
    obtain ⟨folder, config, r, hcreated, hr⟩ := exists_createdFor lower raw
    have hpath := h folder config r path hcreated hr
    rw [hcreated.route hr] at hpath
    exact hpath
  · intro h folder config r path hcreated hr
    rw [hcreated.route hr]
    exact h path

instance : DecidablePred Usable := fun ext =>
  List.decidableBEx (fun c => isMargin c = false) ext

/-- ASCII letters are lowered one by one. -/
lemma afterLast_lowerAscii (stem : Str) (hext : '.' ∉ ext) :
    afterLast (lowerAscii (stem ++ '.' :: ext)) '.' = lowerAscii ext := by
  have hlow : lowerAscii (stem ++ '.' :: ext) = lowerAscii stem ++ '.' :: lowerAscii ext :=
    List.map_append
  rw [hlow]
  apply afterLast_append
  rw [lowering_lowerAscii.mem_caseless dot_caseless]
  exact hext

/-- A compound extension with its last part, as they may be typed in. -/
theorem extensions_work_iff_compound :
    ExtensionsWork lowerAscii [" .MKV".toList, "tar.gz ".toList, "..GZ".toList, "...".toList] := by
  refine (extensions_work_iff wordLowering_lowerAscii _).2
    ⟨by decide, fun _ => ⟨by decide, ?_, ?_⟩⟩
  · decide
  · intro stem ext _ _ _ hext
    rw [afterLast_lowerAscii stem hext]

/-- A compound extension alone lets nothing through. -/
theorem compound_extension_silent : ¬∀ raw, ExtensionsWork lowerAscii raw := by
  intro h
  obtain ⟨folder, config, r, hcreated, hr⟩ := exists_createdFor lowerAscii ["tar.gz".toList]
  have hwork := h _ folder config r "/m/backup.tar.gz".toList hcreated hr
  rw [hcreated.route hr] at hwork
  have hacc : Accepted lowerAscii ["tar.gz".toList] "/m/backup.tar.gz".toList :=
    .inr ⟨_, List.mem_singleton_self _, by decide, "backup".toList, by decide, rfl⟩
  have hmatch := hwork.2 hacc
  revert hmatch
  decide

end MediaScanMonitor
