import Mathlib.Data.List.Dedup
import Mathlib.Data.List.Range
import Mathlib.Data.List.ReduceOption
import MediaScanMonitor.Db.Extensions
import MediaScanMonitor.Lib.Transition

/-!
# The folder editor

`_folder_editor.html` and `_parse_folder_rows` of `web/pages.py`: the detail page shows the folders of
a server as rows of a form, and saving replaces the folders by what is parsed of it. `SaveKeeps` says
that saving what is shown keeps every folder; the invariant of the stored rows is `Normalized`.
-/

namespace MediaScanMonitor
open Text PosixPath Transition

/-! ### The form -/

/-- `<field>` of a key `folder-<i>-<field>`. -/
inductive RowField
  | path
  | libraryId
  | libraryName
  | extensions
  | enabled
deriving DecidableEq

/-- The submitted fields of the rows, each under the index of its row. -/
abbrev FormData := List ((Nat × RowField) × Str)

/-- The characters that `re.split` splits at. -/
def isExtensionSep (c : Char) : Bool :=
  c == ',' || isSpace c

/-- `_split_extensions`. A run of separators leaves empty parts, which are dropped. -/
def splitExtensions (raw : Str) : List Str :=
  ((strip raw).splitOnP isExtensionSep).filter (· ≠ [])

namespace FormData

/-- `form.get`, which knows the last value of a key. -/
def get (form : FormData) (i : Nat) (field : RowField) : Option Str :=
  ((form.filter fun kv => kv.1 = (i, field)).getLast?).map Prod.snd

/-- `indices`. -/
def indices (form : FormData) : List Nat :=
  ((form.filterMap fun kv => if kv.1.2 = .path then some kv.1.1 else none).dedup).insertionSort (· ≤ ·)

/-- `str(form.get(...) or "")`. -/
def text (form : FormData) (i : Nat) (field : RowField) : Str :=
  (form.get i field).getD []

end FormData

/-- `value or None`. -/
def orNone (value : Str) : Option Str :=
  if value = [] then none else some value

/-- One round of the loop in `_parse_folder_rows`; a row with a blank path is skipped. -/
def parseFolderRow (lower : Str → Str) (form : FormData) (i : Nat) :
    Except (List FieldError) (Option FolderCreate) :=
  let path := strip (form.text i .path)
  if path = [] then .ok none
  else
    (FolderCreate.validate lower
      { path := path
        libraryId := orNone (strip (form.text i .libraryId))
        libraryName := orNone (strip (form.text i .libraryName))
        extensions := splitExtensions (form.text i .extensions)
        enabled := (form.get i .enabled).isSome }).map some

/-- `_parse_folder_rows`. -/
def parseFolderRows (lower : Str → Str) (form : FormData) :
    Except (List FieldError) (List FolderCreate) :=
  (form.indices.mapM (parseFolderRow lower form)).map List.reduceOption

/-- The fields of one row of `_folder_editor.html`, submitted as they are shown. -/
def folderRow (i : Nat) (f : FolderRead) : FormData :=
  [((i, .path), f.path), ((i, .libraryId), f.libraryId.getD []),
    ((i, .libraryName), f.libraryName.getD []),
    ((i, .extensions), [',', ' '].intercalate f.extensions)] ++
  if f.enabled then [((i, .enabled), "on".toList)] else []

/-- The blank row of a server without folders. -/
def blankRow : FormData :=
  [((0, .path), []), ((0, .libraryId), []), ((0, .libraryName), []), ((0, .extensions), []),
    ((0, .enabled), "on".toList)]

/-- The rows from the index `i` on. -/
def folderRowsFrom : Nat → List FolderRead → FormData
  | _, [] => []
  | i, f :: folders => folderRow i f ++ folderRowsFrom (i + 1) folders

/-- `_folder_editor.html`. -/
def folderEditor (folders : List FolderRead) : FormData :=
  if folders = [] then blankRow else folderRowsFrom 0 folders

/-! ### Saving unchanged -/

/-- The parsed folder is the stored one. -/
structure SameFolder (folder : FolderRow) (data : FolderCreate) : Prop where
  path : data.path = folder.path
  libraryId : data.libraryId = folder.libraryId
  libraryName : data.libraryName = folder.libraryName
  enabled : data.enabled = folder.enabled
  extensions : ∀ ext, ext ∈ data.extensions ↔ ext ∈ folder.filetypes

/-- Saving the folders as they are shown keeps them. -/
def SaveKeeps (lower : Str → Str) (folders : List FolderRow) : Prop :=
  ∃ data, parseFolderRows lower (folderEditor (folders.map FolderRead.fromModel)) = .ok data ∧
    List.Forall₂ SameFolder folders data

/-- A label that is neither empty nor surrounded by white space, or none. -/
def PlainLabel (label : Option Str) : Prop :=
  ∀ s ∈ label, s ≠ [] ∧ strip s = s

/-- The form can express the folder. -/
structure Editable (folder : FolderRow) : Prop where
  path : ¬EndsInSpace folder.path
  libraryId : PlainLabel folder.libraryId
  libraryName : PlainLabel folder.libraryName
  extensions : ∀ ext ∈ folder.filetypes,
    (∀ c ∈ ext, isExtensionSep c = false) ∧ ext.head? ≠ some '.'

/-- What every stored row keeps: a path in normal form, and extensions in lower case. -/
structure FolderRow.Normalized (lower : Str → Str) (folder : FolderRow) : Prop where
  path : ∃ p, Normal folder.path p
  extensions : ∀ ext ∈ folder.filetypes, ext ≠ [] ∧ lower ext = ext

/-! ### The extensions field -/

variable {lower : Str → Str} {s t ext : Str} {exts : List Str} {c : Char}

/-- The parts between separators. -/
def extensionParts (s : Str) : List Str :=
  (s.splitOnP isExtensionSep).filter (· ≠ [])

lemma isExtensionSep_of_isSpace (h : isSpace c = true) : isExtensionSep c = true := by
  rw [isExtensionSep, h, Bool.or_true]

lemma isCaseless_of_sep (h : isExtensionSep c = true) : isCaseless c = true := by
  rcases Bool.or_eq_true_iff.1 h with h | h
  · rw [beq_iff_eq.1 h]
    rfl
  · exact isCaseless_of_isSpace h

lemma extensionParts_append (hc : isExtensionSep c = true) (s t : Str) :
    extensionParts (s ++ c :: t) = extensionParts s ++ extensionParts t := by
  rw [extensionParts, List.splitOnP_append_cons s t hc, List.filter_append]
  rfl

lemma extensionParts_cons (hc : isExtensionSep c = true) (s : Str) :
    extensionParts (c :: s) = extensionParts s :=
  extensionParts_append hc [] s

lemma extensionParts_of_seps (h : ∀ c ∈ s, isExtensionSep c = true) : extensionParts s = [] := by
  induction s with
  | nil => rfl
  | cons c s ih =>
    rw [extensionParts_cons (h c List.mem_cons_self)]
    exact ih fun d hd => h d (List.mem_cons_of_mem _ hd)

/-- White space around the field does not matter. -/
lemma splitExtensions_eq (s : Str) : splitExtensions s = extensionParts s := by
  obtain ⟨front, back, hs, hfront, hback⟩ := strip_eq_append s
  have hleft : ∀ front t : Str, (∀ c ∈ front, isSpace c = true) →
      extensionParts (front ++ t) = extensionParts t := by
    intro front t h
    induction front with
    | nil => rfl
    | cons c front ih =>
      rw [List.cons_append, extensionParts_cons (isExtensionSep_of_isSpace (h c List.mem_cons_self))]
      exact ih fun d hd => h d (List.mem_cons_of_mem _ hd)
  have hright : extensionParts (strip s ++ back) = extensionParts (strip s) := by
    cases back with
    | nil => rw [List.append_nil]
    | cons c back =>
      have hnil : extensionParts back = [] := extensionParts_of_seps fun d hd =>
        isExtensionSep_of_isSpace (hback d (List.mem_cons_of_mem _ hd))
      rw [extensionParts_append (isExtensionSep_of_isSpace (hback c List.mem_cons_self)), hnil,
        List.append_nil]
  nth_rewrite 2 [hs]
  rw [List.append_assoc, hleft front _ hfront, hright]
  rfl

/-- The field of a folder is split into the parts of its extensions. -/
lemma splitExtensions_join (exts : List Str) :
    splitExtensions ([',', ' '].intercalate exts) = exts.flatMap extensionParts := by
  rw [splitExtensions_eq]
  induction exts with
  | nil => rfl
  | cons ext exts ih =>
    cases exts with
    | nil => simp
    | cons next exts =>
      rw [List.intercalate_cons_cons, List.append_assoc, List.cons_append,
        extensionParts_append (by decide), List.singleton_append, extensionParts_cons (by decide), ih]
      rfl

lemma extensionParts_eq_self (hne : s ≠ []) (h : ∀ c ∈ s, isExtensionSep c = false) :
    extensionParts s = [s] := by
  rw [extensionParts, List.splitOnP_eq_singleton h]
  exact List.filter_eq_self.2 fun t ht => by
    rw [List.mem_singleton.1 ht]
    exact decide_eq_true hne

/-- A part that is parsed contains no separator and does not begin with a dot. -/
lemma normalizeExtension_part (hl : Lowering lower) (hs : s ∈ exts.flatMap extensionParts) :
    (∀ c ∈ normalizeExtension lower s, isExtensionSep c = false) ∧
      (normalizeExtension lower s).head? ≠ some '.' := by
  obtain ⟨ext, -, hs⟩ := List.mem_flatMap.1 hs
  have hsep : ∀ c ∈ s, isExtensionSep c = false := splitOnP_forall s (List.mem_of_mem_filter hs)
  constructor
  · intro c hc
    by_contra hcs
    have hcs := eq_true_of_ne_false hcs
    have hmem := (hl.mem_caseless (isCaseless_of_sep hcs)).1 hc
    rw [hsep c ((bareExtension_sublist s).mem hmem)] at hcs
    cases hcs
  · rw [Ne, head?_normalizeExtension hl]
    rintro ⟨indent, dots, gap, rest, rfl, -, -, hgap, hspace⟩
    obtain ⟨c, gap, rfl⟩ := List.exists_cons_of_ne_nil hgap
    have hc := hsep c (by simp)
    rw [isExtensionSep_of_isSpace (hspace c List.mem_cons_self)] at hc
    cases hc

/-- The field gives the extensions back when none contains a separator or begins with a dot. -/
lemma reparse_iff (hl : Lowering lower) (hexts : ∀ ext ∈ exts, ext ≠ [] ∧ lower ext = ext) :
    (∀ ext, ext ∈ normalizeExtensions lower (exts.flatMap extensionParts) ↔ ext ∈ exts) ↔
      ∀ ext ∈ exts, (∀ c ∈ ext, isExtensionSep c = false) ∧ ext.head? ≠ some '.' := by
  constructor
  · intro h ext hext
    obtain ⟨-, part, hpart, rfl⟩ := mem_normalizeExtensions.1 ((h ext).2 hext)
    exact normalizeExtension_part hl hpart
  · intro h
    have hparts : exts.flatMap extensionParts = exts := by
      apply (List.flatMap_congr fun ext hext => ?_).trans (List.flatMap_singleton' exts)
      exact extensionParts_eq_self (hexts ext hext).1 (h ext hext).1
    have hfix : ∀ ext ∈ exts, normalizeExtension lower ext = ext := by
      intro ext hext
      have hspace : ∀ c ∈ ext, isSpace c = false := fun c hc =>
        (Bool.or_eq_false_iff.1 ((h ext hext).1 c hc)).2
      have ht : Trimmed ext := ⟨fun c hc => hspace c (List.mem_of_head? hc),
        fun c hc => hspace c (List.mem_of_getLast? hc)⟩
      rw [normalizeExtension, show strip (lstripChar (strip ext) '.') = ext from
        bareExtension_eq_self ht (h ext hext).2]
      exact (hexts ext hext).2
    intro ext
    rw [hparts, mem_normalizeExtensions]
    constructor
    · rintro ⟨-, x, hx, rfl⟩
      rw [hfix x hx]
      exact hx
    · intro hext
      exact ⟨(hexts ext hext).1, ext, hext, hfix ext hext⟩

/-! ### The rows of the form -/

variable {f : FolderRead} {folders : List FolderRead} {form : FormData} {i k : Nat}

lemma mem_folderRow {kv : (Nat × RowField) × Str} (h : kv ∈ folderRow i f) : kv.1.1 = i := by
  rcases List.mem_append.1 h with h | h
  · simp only [List.mem_cons, List.not_mem_nil, or_false] at h
    rcases h with rfl | rfl | rfl | rfl <;> rfl
  · split at h
    · cases List.mem_singleton.1 h
      rfl
    · cases h

lemma mem_folderRowsFrom {kv : (Nat × RowField) × Str} (h : kv ∈ folderRowsFrom i folders) :
    i ≤ kv.1.1 := by
  induction folders generalizing i with
  | nil => cases h
  | cons f folders ih =>
    rcases List.mem_append.1 h with h | h
    · exact (mem_folderRow h).ge
    · exact (Nat.le_succ i).trans (ih h)

/-- The fields of other rows are not read. -/
lemma get_folderRow {before after : FormData} (hb : ∀ kv ∈ before, kv.1.1 ≠ i)
    (ha : ∀ kv ∈ after, kv.1.1 ≠ i) (row : FormData) (field : RowField) :
    FormData.get (before ++ row ++ after) i field = FormData.get row i field := by
  have hnone : ∀ other : FormData, (∀ kv ∈ other, kv.1.1 ≠ i) →
      other.filter (fun kv => kv.1 = (i, field)) = [] := by
    intro other h
    apply List.filter_eq_nil_iff.2
    intro kv hkv he
    exact h kv hkv (congrArg Prod.fst (of_decide_eq_true he))
  rw [FormData.get, FormData.get, List.filter_append, List.filter_append, hnone before hb,
    hnone after ha, List.nil_append, List.append_nil]

lemma parseFolderRow_congr {form form' : FormData}
    (h : ∀ field, form.get i field = form'.get i field) :
    parseFolderRow lower form i = parseFolderRow lower form' i := by
  unfold parseFolderRow FormData.text
  rw [h, h, h, h, h]

/-- The rows are parsed one by one. -/
lemma mapM_parseFolderRow {before : FormData} (hb : ∀ kv ∈ before, kv.1.1 < i) :
    (List.range' i folders.length).mapM (parseFolderRow lower (before ++ folderRowsFrom i folders)) =
      (folders.zipIdx i).mapM fun p => parseFolderRow lower (folderRow p.2 p.1) p.2 := by
  induction folders generalizing before i with
  | nil => rfl
  | cons f folders ih =>
    have hrow : parseFolderRow lower (before ++ folderRowsFrom i (f :: folders)) i =
        parseFolderRow lower (folderRow i f) i := by
      apply parseFolderRow_congr
      intro field
      rw [folderRowsFrom, ← List.append_assoc]
      exact get_folderRow (fun kv h => (hb kv h).ne)
        (fun kv h => (Nat.lt_of_succ_le (mem_folderRowsFrom h)).ne') _ field
    have hbefore : ∀ kv ∈ before ++ folderRow i f, kv.1.1 < i + 1 := by
      intro kv h
      rcases List.mem_append.1 h with h | h
      · exact (hb kv h).trans (Nat.lt_succ_self i)
      · rw [mem_folderRow h]
        exact Nat.lt_succ_self i
    have hrest := ih hbefore
    rw [List.append_assoc] at hrest
    have hrest : (List.range' (i + 1) folders.length).mapM
        (parseFolderRow lower (before ++ folderRowsFrom i (f :: folders))) = _ := hrest
    rw [List.length_cons, List.range'_succ, List.mapM_cons, List.zipIdx_cons, List.mapM_cons, hrow,
      hrest]

lemma indices_folderRow : (folderRow i f).filterMap
    (fun kv => if kv.1.2 = .path then some kv.1.1 else none) = [i] := by
  unfold folderRow
  cases f.enabled <;> rfl

/-- The indices of the rows are found again, in order. -/
lemma indices_folderRowsFrom (folders : List FolderRead) :
    (folderRowsFrom 0 folders).indices = List.range' 0 folders.length := by
  have hall : ∀ (folders : List FolderRead) (i : Nat), (folderRowsFrom i folders).filterMap
      (fun kv => if kv.1.2 = .path then some kv.1.1 else none) = List.range' i folders.length := by
    intro folders
    induction folders with
    | nil => exact fun _ => rfl
    | cons f folders ih =>
      intro i
      rw [folderRowsFrom, List.filterMap_append, indices_folderRow, ih (i + 1), List.length_cons,
        List.range'_succ]
      rfl
  rw [FormData.indices, hall, List.Nodup.dedup List.nodup_range']
  exact List.Pairwise.insertionSort_eq (List.pairwise_le_range' 1)

lemma get_fields (i : Nat) (f : FolderRead) :
    (folderRow i f).get i .path = some f.path ∧
      (folderRow i f).get i .libraryId = some (f.libraryId.getD []) ∧
      (folderRow i f).get i .libraryName = some (f.libraryName.getD []) ∧
      (folderRow i f).get i .extensions = some ([',', ' '].intercalate f.extensions) ∧
      ((folderRow i f).get i .enabled).isSome = f.enabled := by
  unfold folderRow FormData.get
  cases f.enabled <;> simp

/-- What a stored folder is parsed to. -/
structure Reparsed (lower : Str → Str) (folder : FolderRow) (data : FolderCreate) : Prop where
  path : data.path = normalizePath folder.path
  libraryId : data.libraryId = orNone (strip (folder.libraryId.getD []))
  libraryName : data.libraryName = orNone (strip (folder.libraryName.getD []))
  enabled : data.enabled = folder.enabled
  extensions : data.extensions = normalizeExtensions lower
    ((FolderRead.fromModel folder).extensions.flatMap extensionParts)

lemma parseFolderRow_folderRow {folder : FolderRow} (h : folder.Normalized lower) (i : Nat) :
    ∃ data, parseFolderRow lower (folderRow i (FolderRead.fromModel folder)) i = .ok (some data) ∧
      Reparsed lower folder data := by
  obtain ⟨p, hp⟩ := h.path
  obtain ⟨tail, htail⟩ := isabs_iff.1 hp.isabs
  obtain ⟨r, hr, -⟩ := strip_cons (c := sep) (by decide) tail
  rw [← htail] at hr
  have hne : strip folder.path ≠ [] := by
    rw [hr]
    exact List.cons_ne_nil _ _
  have habs : isabs (normalizePath (strip folder.path)) = true := by
    rw [normalizePath, isabs_normpath, strip_strip, hr]
    rfl
  obtain ⟨hpath, hid, hname, hexts, henabled⟩ := get_fields i (FolderRead.fromModel folder)
  let body : FolderCreate.Body :=
    { path := strip folder.path
      libraryId := orNone (strip (folder.libraryId.getD []))
      libraryName := orNone (strip (folder.libraryName.getD []))
      extensions := splitExtensions ([',', ' '].intercalate (FolderRead.fromModel folder).extensions)
      enabled := folder.enabled }
  obtain ⟨data, hv⟩ := (FolderCreate.validate_isOk lower body).2 habs
  obtain ⟨hdp, hdi, hdn, hde, hdx⟩ := FolderCreate.validate_ok hv
  refine ⟨data, ?_, ?_, hdi, hdn, hde, ?_⟩
  · unfold parseFolderRow FormData.text
    rw [hpath, hid, hname, hexts, henabled]
    show (if strip folder.path = [] then _ else (FolderCreate.validate lower body).map some) = _
    rw [if_neg hne, hv]
    rfl
  · rw [hdp, normalizePath, strip_strip]
    rfl
  · rw [hdx]
    show normalizeExtensions lower (splitExtensions _) = _
    rw [splitExtensions_join]

/-- All stored folders of a server come back, in order. -/
lemma parseFolderRows_editor {rows : List FolderRow} (h : ∀ folder ∈ rows, folder.Normalized lower) :
    ∃ data, parseFolderRows lower (folderEditor (rows.map FolderRead.fromModel)) = .ok data ∧
      List.Forall₂ (Reparsed lower) rows data := by
  have hall : ∀ (i : Nat), ∃ data : List FolderCreate,
      (((rows.map FolderRead.fromModel).zipIdx i).mapM fun p =>
        parseFolderRow lower (folderRow p.2 p.1) p.2) = .ok (data.map some) ∧
      List.Forall₂ (Reparsed lower) rows data := by
    induction rows with
    | nil => exact fun _ => ⟨[], rfl, .nil⟩
    | cons folder rows ih =>
      intro i
      obtain ⟨data, hd, hre⟩ := parseFolderRow_folderRow (h folder List.mem_cons_self) i
      obtain ⟨rest, hrest, hres⟩ := ih (fun x hx => h x (List.mem_cons_of_mem _ hx)) (i + 1)
      refine ⟨data :: rest, ?_, .cons hre hres⟩
      rw [List.map_cons, List.zipIdx_cons, List.mapM_cons, hd, hrest]
      rfl
  obtain ⟨data, hd, hre⟩ := hall 0
  refine ⟨data, ?_, hre⟩
  cases rows with
  | nil =>
    cases hre
    rfl
  | cons folder rows =>
    have hbefore : ∀ kv ∈ ([] : FormData), kv.1.1 < 0 := List.forall_mem_nil _
    have hmap : (List.range' 0 ((folder :: rows).map FolderRead.fromModel).length).mapM
        (parseFolderRow lower ([] ++ folderRowsFrom 0 ((folder :: rows).map FolderRead.fromModel))) =
          _ := mapM_parseFolderRow hbefore
    rw [List.nil_append, hd] at hmap
    rw [folderEditor, if_neg (by simp), parseFolderRows, indices_folderRowsFrom, hmap]
    have hsome : (data.map some).reduceOption = data := by
      rw [List.reduceOption, List.filterMap_map]
      exact List.filterMap_some
    exact congrArg Except.ok hsome

lemma orNone_eq {label : Option Str} : orNone (strip (label.getD [])) = label ↔ PlainLabel label := by
  cases label with
  | none => exact ⟨fun _ _ hs => (by cases hs), fun _ => rfl⟩
  | some s =>
    rw [Option.getD_some, orNone]
    constructor
    · intro h
      split at h
      · cases h
      · next hne =>
        have hs := Option.some.inj h
        rintro _ ⟨⟩
        exact ⟨hs ▸ hne, hs⟩
    · intro h
      obtain ⟨hne, hs⟩ := h s rfl
      rw [hs, if_neg hne]

/-- A folder comes back as it is when the form can express it. -/
lemma Reparsed.same_iff (hl : Lowering lower) {folder : FolderRow} {data : FolderCreate}
    (hn : folder.Normalized lower) (h : Reparsed lower folder data) :
    SameFolder folder data ↔ Editable folder := by
  have hexts : ∀ ext ∈ (FolderRead.fromModel folder).extensions, ext ≠ [] ∧ lower ext = ext :=
    fun ext hext => hn.extensions ext (mem_fromModel_extensions.1 hext)
  obtain ⟨p, hp⟩ := hn.path
  have hpath : normalizePath folder.path = folder.path ↔ ¬EndsInSpace folder.path :=
    (normalizePath_normal hp).trans (not_congr (endsInSpace_normal hp).symm)
  constructor
  · intro hs
    refine ⟨hpath.1 (h.path ▸ hs.path), ?_, ?_, fun ext hext => ?_⟩
    · rw [← orNone_eq, ← h.libraryId]
      exact hs.libraryId
    · rw [← orNone_eq, ← h.libraryName]
      exact hs.libraryName
    · apply (reparse_iff hl hexts).1
      · intro x
        rw [← h.extensions, hs.extensions, mem_fromModel_extensions]
      · exact mem_fromModel_extensions.2 hext
  · intro he
    refine ⟨h.path.trans (hpath.2 he.path), h.libraryId.trans (orNone_eq.2 he.libraryId),
      h.libraryName.trans (orNone_eq.2 he.libraryName), h.enabled, fun ext => ?_⟩
    rw [h.extensions, (reparse_iff hl hexts).2 fun x hx => ?_, mem_fromModel_extensions]
    exact he.extensions x (mem_fromModel_extensions.1 hx)

lemma saveKeeps_iff (hl : Lowering lower) {rows : List FolderRow}
    (h : ∀ folder ∈ rows, folder.Normalized lower) :
    SaveKeeps lower rows ↔ ∀ folder ∈ rows, Editable folder := by
  obtain ⟨data, hd, hre⟩ := parseFolderRows_editor h
  have hsame : SaveKeeps lower rows ↔ List.Forall₂ SameFolder rows data := by
    rw [SaveKeeps, hd]
    constructor
    · rintro ⟨data', he, hs⟩
      cases he
      exact hs
    · exact fun hs => ⟨data, rfl, hs⟩
  rw [hsame]
  clear hsame hd
  induction hre with
  | nil => exact ⟨fun _ _ hf => (by cases hf), fun _ => .nil⟩
  | @cons folder data rows rest hr hrs ih =>
    rw [List.forall₂_cons, List.forall_mem_cons, hr.same_iff hl (h folder List.mem_cons_self)]
    exact and_congr_right fun _ => ih fun x hx => h x (List.mem_cons_of_mem _ hx)

/-! ### The rows that are stored -/

/-- The folder comes from the validator. -/
def FolderCreate.Validated (lower : Str → Str) (data : FolderCreate) : Prop :=
  ∃ body, FolderCreate.validate lower body = .ok data

/-- The update comes from the validator. -/
def FolderUpdate.Validated (lower : Str → Str) (data : FolderUpdate) : Prop :=
  ∃ body, FolderUpdate.validate lower body = .ok data

/-- The folders of a write come from the validators, as with the JSON API and with the forms. -/
def RepoWrite.Validated (lower : Str → Str) : RepoWrite → Prop
  | .createServerWithFolders _ _ folders => ∀ data ∈ folders, data.Validated lower
  | .updateServerWithFolders _ _ _ folders => ∀ data ∈ folders, data.Validated lower
  | .createFolder _ data => data.Validated lower
  | .updateFolder _ data => data.Validated lower
  | _ => True

/-- One write after the other. -/
def Database.step (box : SecretBox) (lower : Str → Str) (db : Database) (w : RepoWrite) :
    Option Database :=
  some (db.write box lower w)

variable {box : SecretBox} {db : Database} {store : Store} {folder : FolderRow}

lemma FolderCreate.Validated.normalized (hl : Lowering lower) {data : FolderCreate}
    (h : data.Validated lower) :
    (∃ p, Normal data.path p) ∧ ∀ ext ∈ data.extensions, ext ≠ [] ∧ lower ext = ext := by
  obtain ⟨body, hv⟩ := h
  obtain ⟨hpath, -, -, -, hexts⟩ := FolderCreate.validate_ok hv
  have habs := data.absolute
  rw [hpath, normalizePath, isabs_normpath] at habs
  refine ⟨⟨_, by rw [hpath]; exact normal_normpath habs⟩, fun ext hext => ?_⟩
  rw [hexts] at hext
  obtain ⟨hne, x, -, rfl⟩ := mem_normalizeExtensions.1 hext
  exact ⟨hne, hl.lower_lower _⟩

/-- The path of an accepted update. -/
lemma FolderUpdate.Validated.path {data : FolderUpdate} (h : data.Validated lower) {path : Str}
    (hp : data.path = some path) : ∃ p, Normal path p := by
  obtain ⟨body, hv⟩ := h
  have habs := data.absolute path hp
  rw [(FolderUpdate.validate_ok hv).1] at hp
  obtain ⟨value, -, rfl⟩ := Option.map_eq_some_iff.1 hp
  rw [normalizePath, isabs_normpath] at habs
  exact ⟨_, normal_normpath habs⟩

lemma normalized_setServerFolders (hl : Lowering lower) {serverId : Nat} {folders : List FolderCreate}
    (hw : ∀ data ∈ folders, data.Validated lower)
    (h : ∀ folder ∈ store.folders, folder.Normalized lower) :
    ∀ folder ∈ (store.setServerFolders serverId folders).folders, folder.Normalized lower := by
  intro folder hf
  rcases List.mem_append.1 hf with hf | hf
  · exact h folder (List.mem_of_mem_filter hf)
  · obtain ⟨i, hi, rfl⟩ := List.mem_mapIdx.1 hf
    obtain ⟨hpath, hexts⟩ := (hw _ (List.getElem_mem hi)).normalized hl
    exact ⟨hpath, hexts⟩

lemma normalized_replaceFolder (h : ∀ folder ∈ store.folders, folder.Normalized lower)
    {new : FolderRow} (hnew : new.Normalized lower) :
    ∀ folder ∈ (store.replaceFolder new).folders, folder.Normalized lower := by
  intro folder hf
  obtain ⟨old, hold, rfl⟩ := List.mem_map.1 hf
  split
  · exact hnew
  · exact h old hold

lemma FolderRow.Normalized.setFields (hl : Lowering lower) (h : folder.Normalized lower)
    {data : FolderUpdate} (hw : data.Validated lower) :
    (data.setFields lower folder).Normalized lower := by
  constructor
  · show ∃ p, Normal (data.path.getD folder.path) p
    cases hp : data.path with
    | none => exact h.path
    | some path => exact hw.path hp
  · rw [FolderUpdate.setFields_filetypes]
    cases data.extensions.join with
    | none => exact h.extensions
    | some extensions =>
      intro ext hext
      obtain ⟨hne, x, -, rfl⟩ := mem_normalizeExtensions.1 hext
      exact ⟨hne, hl.lower_lower _⟩

/-- Validated writes leave normalized rows. -/
lemma normalized_write (hl : Lowering lower) {w : RepoWrite} (hw : w.Validated lower)
    (h : ∀ folder ∈ store.folders, folder.Normalized lower) :
    ∀ folder ∈ (store.write box lower w).folders, folder.Normalized lower := by
  have hrows := Store.write_folders box lower store w
  generalize (store.write box lower w).folders = rows at hrows ⊢
  cases hrows with
  | unchanged => exact h
  | inserted nonce data folders => exact normalized_setServerFolders hl hw h
  | replaced nonce serverId data folders => exact normalized_setServerFolders hl hw h
  | deleted => exact fun folder hf => h folder (List.mem_of_mem_filter hf)
  | created serverId data created hcontent hid =>
    have hpath : created.path = data.path := congrArg (fun c => c.1.path) hcontent
    have hexts : created.filetypes = data.extensions := congrArg (fun c => c.1.filetypes) hcontent
    obtain ⟨hp, he⟩ := FolderCreate.Validated.normalized hl hw
    intro folder hf
    rcases List.mem_append.1 hf with hf | hf
    · exact h folder hf
    · cases List.mem_singleton.1 hf
      exact ⟨hpath ▸ hp, hexts ▸ he⟩
  | updated folderId data old hold =>
    have hn := h old (List.mem_of_find?_eq_some hold)
    exact normalized_replaceFolder h (hn.setFields hl hw)
  | retyped folderId extensions old hold =>
    refine normalized_replaceFolder h ⟨(h old (List.mem_of_find?_eq_some hold)).path, ?_⟩
    intro ext hext
    obtain ⟨hne, x, -, rfl⟩ := mem_normalizeExtensions.1 hext
    exact ⟨hne, hl.lower_lower _⟩

/-- For every state that validated writes lead to: saving the folders of a server as they are shown
keeps them exactly when no path ends in white space, every library id and name is absent or neither
empty nor surrounded by white space, and no extension contains a comma or white space or begins with
a dot. -/
theorem save_keeps_iff (hl : Lowering lower)
    (h : Reach (Database.step box lower) (fun _ w => w.Validated lower) emptyDatabase db)
    (serverId : Nat) :
    SaveKeeps lower (db.listFolders serverId) ↔
      ∀ folder ∈ db.listFolders serverId, Editable folder := by
  have hnorm : ∀ folder ∈ db.folders, folder.Normalized lower := by
    apply h.invariant (P := fun db => ∀ folder ∈ db.folders, folder.Normalized lower)
    · exact fun folder hf => (by cases hf)
    · intro u w v hu hw hs
      cases hs
      exact normalized_write hl hw hu
  exact saveKeeps_iff hl fun folder hf => hnorm folder (List.mem_of_mem_filter hf)

instance (ext : Str) : Decidable (∀ c ∈ ext, isExtensionSep c = false) :=
  List.decidableBAll (fun c => isExtensionSep c = false) ext

instance : DecidablePred Editable := fun folder =>
  decidable_of_iff
    (¬EndsInSpace folder.path ∧ (∀ s ∈ folder.libraryId, s ≠ [] ∧ strip s = s) ∧
      (∀ s ∈ folder.libraryName, s ≠ [] ∧ strip s = s) ∧
      ∀ ext ∈ folder.filetypes, (∀ c ∈ ext, isExtensionSep c = false) ∧ ext.head? ≠ some '.')
    ⟨fun h => ⟨h.1, h.2.1, h.2.2.1, h.2.2.2⟩, fun h => ⟨h.1, h.2, h.3, h.4⟩⟩

/-- The write that creates a Plex server. -/
def plexCreated : RepoWrite :=
  .createServer [] { name := "plex".toList, type := .plex, name_not_blank := plex_not_blank }

/-- What becomes of a body with this library id and these extensions. -/
def tvFolder (libraryId : Option Str) (extensions : List Str) : FolderCreate :=
  { path := "/tv".toList, libraryId := libraryId, extensions := extensions, absolute := tv_absolute }

/-- A server with a video folder. -/
theorem save_keeps_iff_video : ∃ db,
    Reach (Database.step .clear lowerAscii) (fun _ w => w.Validated lowerAscii) emptyDatabase db ∧
      db.listFolders 1 ≠ [] ∧ SaveKeeps lowerAscii (db.listFolders 1) := by
  let video := tvFolder (some "2".toList) ["mkv".toList, "srt".toList]
  have hvideo : video.Validated lowerAscii :=
    ⟨{ path := " /tv/".toList, libraryId := some "2".toList,
       extensions := [".MKV".toList, "srt".toList] }, rfl⟩
  have hserver : Reach (Database.step .clear lowerAscii) (fun _ w => w.Validated lowerAscii)
      emptyDatabase _ := Reach.refl.tail (a := plexCreated) trivial rfl
  have hreach := hserver.tail (a := RepoWrite.createFolder 1 video) hvideo rfl
  exact ⟨_, hreach, by decide, (save_keeps_iff lowering_lowerAscii hreach 1).2 (by decide)⟩

/-- An extension with white space in it is two extensions after saving. -/
theorem save_splits_extension : ¬∀ db,
    Reach (Database.step .clear lowerAscii) (fun _ w => w.Validated lowerAscii) emptyDatabase db →
      ∀ serverId, SaveKeeps lowerAscii (db.listFolders serverId) := by
  intro h
  have hparts : (tvFolder none ["part 1".toList]).Validated lowerAscii :=
    ⟨{ path := "/tv".toList, extensions := ["part 1".toList] }, rfl⟩
  have hserver : Reach (Database.step .clear lowerAscii) (fun _ w => w.Validated lowerAscii)
      emptyDatabase _ := Reach.refl.tail (a := plexCreated) trivial rfl
  have hreach :=
    hserver.tail (a := RepoWrite.createFolder 1 (tvFolder none ["part 1".toList])) hparts rfl
  obtain ⟨data, hd, hs⟩ := h _ hreach 1
  have hparsed := hd.symm.trans
    (show _ = Except.ok [tvFolder none ["part".toList, "1".toList]] from rfl)
  cases hparsed
  cases hs with
  | cons hsame hrest =>
    have hext := (hsame.extensions "part 1".toList).2 List.mem_cons_self
    revert hext
    decide

end MediaScanMonitor
