import MediaScanMonitor.Config.Content
import MediaScanMonitor.Db.Validation
import MediaScanMonitor.Lib.Lowering
import MediaScanMonitor.Web.ApiSchemas

/-!
# Extensions into and out of the store

`normalize_extension` is applied once, twice or three times to an entry, depending on the way it
takes. The ways agree when one pass leaves nothing to the next: the dot that may stand behind the
leading dots and the white space after them is what a pass uncovers and leaves.
-/

namespace MediaScanMonitor
open Text

/-- What `normalize_extension` lowers. -/
def bareExtension (ext : Str) : Str :=
  strip (lstripChar (strip ext) '.')

/-- Behind the leading dots and the white space after them stands another dot. -/
def DotAgain (ext : Str) : Prop :=
  ∃ indent dots gap rest, ext = indent ++ dots ++ gap ++ '.' :: rest ∧
    (∀ c ∈ indent, isSpace c = true) ∧ (dots ≠ [] ∧ ∀ c ∈ dots, c = '.') ∧
    gap ≠ [] ∧ ∀ c ∈ gap, isSpace c = true

variable {lower : Str → Str} {s ext : Str} {raw : List Str}

lemma dot_caseless : isCaseless '.' = true := by decide

lemma dot_visible : isSpace '.' = false := by decide

/-! ### One entry -/

lemma trimmed_bareExtension (ext : Str) : Trimmed (bareExtension ext) :=
  trimmed_strip _

lemma bareExtension_sublist (ext : Str) : (bareExtension ext).Sublist ext :=
  (strip_sublist _).trans ((List.dropWhile_sublist _).trans (strip_sublist ext))

/-- A dot that is left in front stood behind other dots and white space. -/
lemma dotAgain_of_head? (h : (bareExtension ext).head? = some '.') : DotAgain ext := by
  obtain ⟨front, back, hext, hfront, -⟩ := strip_eq_append ext
  obtain ⟨gap, tail, hgap, hspace, -⟩ := strip_eq_append (lstripChar (strip ext) '.')
  obtain ⟨rest, hrest⟩ := List.head?_eq_some_iff.1 h
  rw [show strip (lstripChar (strip ext) '.') = '.' :: rest from hrest] at hgap
  have hdots := List.takeWhile_append_dropWhile (p := (· == '.')) (l := strip ext)
  have hhead := List.head?_dropWhile_not (· == '.') (strip ext)
  rw [show (strip ext).dropWhile (· == '.') = gap ++ '.' :: rest ++ tail from hgap] at hdots hhead
  have hgap' : gap ≠ [] := by
    rintro rfl
    exact Bool.false_ne_true (hhead.symm.trans (beq_self_eq_true '.'))
  refine ⟨front, (strip ext).takeWhile (· == '.'), gap, rest ++ tail ++ back, ?_, hfront,
    ⟨?_, fun c hc => ?_⟩, hgap', hspace⟩
  · nth_rewrite 1 [hext, ← hdots]
    simp only [List.append_assoc, List.cons_append]
  · intro hnil
    rw [hnil, List.nil_append] at hdots
    obtain ⟨c, gap, rfl⟩ := List.exists_cons_of_ne_nil hgap'
    have hc := (trimmed_strip ext).1 c (by rw [← hdots]; rfl)
    rw [hspace c List.mem_cons_self] at hc
    cases hc
  · have hc := List.mem_takeWhile_imp hc
    exact beq_iff_eq.1 hc

/-- And one that stands there is left. -/
lemma DotAgain.head? (h : DotAgain ext) : (bareExtension ext).head? = some '.' := by
  obtain ⟨indent, dots, gap, rest, rfl, hindent, ⟨hdots, hdot⟩, hgap, hspace⟩ := h
  obtain ⟨r, back, rfl, hr, hback⟩ := strip_cons_append dot_visible rest
  have hlast : Trimmed ('.' :: r) := by
    rw [← hr]
    exact trimmed_strip _
  have hcut : Trimmed (dots ++ gap ++ '.' :: r) := by
    obtain ⟨c, dots, rfl⟩ := List.exists_cons_of_ne_nil hdots
    refine ⟨fun d hd => ?_, ?_⟩
    · cases hd
      rw [hdot c List.mem_cons_self]
      exact dot_visible
    · rw [List.getLast?_append_of_ne_nil _ (List.cons_ne_nil _ _)]
      exact hlast.2
  have hstrip := strip_append hindent hback hcut
  have hl : lstripChar (dots ++ gap ++ '.' :: r) '.' = gap ++ '.' :: r := by
    rw [lstripChar, List.append_assoc, List.dropWhile_append_of_pos]
    · obtain ⟨c, gap, rfl⟩ := List.exists_cons_of_ne_nil hgap
      apply List.dropWhile_cons_of_neg
      intro hc
      have hsp := hspace c List.mem_cons_self
      rw [beq_iff_eq.1 hc] at hsp
      cases hsp
    · exact fun c hc => beq_iff_eq.2 (hdot c hc)
  have hrest := strip_append hspace (List.forall_mem_nil _) hlast
  rw [List.append_nil] at hrest
  have hext : indent ++ dots ++ gap ++ '.' :: (r ++ back) =
      indent ++ (dots ++ gap ++ '.' :: r) ++ back := by
    simp only [List.append_assoc, List.cons_append]
  rw [hext, bareExtension, hstrip, hl, hrest]
  rfl

lemma head?_bareExtension : (bareExtension ext).head? = some '.' ↔ DotAgain ext :=
  ⟨dotAgain_of_head?, DotAgain.head?⟩

/-- Otherwise the next pass finds nothing to cut off. -/
lemma bareExtension_eq_self (ht : Trimmed s) (hs : s.head? ≠ some '.') : bareExtension s = s := by
  have hl : lstripChar s '.' = s := by
    cases s with
    | nil => rfl
    | cons c s =>
      apply List.dropWhile_cons_of_neg
      intro hc
      rw [beq_iff_eq.1 hc] at hs
      exact hs rfl
  rw [bareExtension, strip_eq_self.2 ht, hl, strip_eq_self.2 ht]

/-- A dot in front is cut off. -/
lemma length_bareExtension (hs : s.head? = some '.') : (bareExtension s).length < s.length := by
  obtain ⟨s, rfl⟩ := List.head?_eq_some_iff.1 hs
  obtain ⟨r, back, rfl, hr, -⟩ := strip_cons_append dot_visible s
  have hcut : lstripChar ('.' :: r) '.' = lstripChar r '.' := List.dropWhile_cons_of_pos rfl
  rw [bareExtension, hr, hcut]
  have hsub : (strip (lstripChar r '.')).Sublist r :=
    (strip_sublist _).trans (List.dropWhile_sublist _)
  have hlen := hsub.length_le
  rw [List.length_cons, List.length_append]
  omega

lemma trimmed_normalizeExtension (hl : Lowering lower) (ext : Str) :
    Trimmed (normalizeExtension lower ext) :=
  hl.trimmed.2 (trimmed_bareExtension ext)

lemma head?_normalizeExtension (hl : Lowering lower) :
    (normalizeExtension lower ext).head? = some '.' ↔ DotAgain ext :=
  (hl.head?_caseless dot_caseless).trans head?_bareExtension

/-- A second pass changes nothing, unless the first has uncovered a dot. -/
lemma normalizeExtension_idem (hl : Lowering lower) :
    normalizeExtension lower (normalizeExtension lower ext) = normalizeExtension lower ext ↔
      ¬DotAgain ext := by
  have hsub : ∀ c ∈ bareExtension (normalizeExtension lower ext), c ∈ lower (bareExtension ext) := by
    intro c hc
    exact (bareExtension_sublist _).mem hc
  have htwo : normalizeExtension lower (normalizeExtension lower ext) =
      bareExtension (normalizeExtension lower ext) := hl.lower_of_subset hsub
  rw [htwo, ← head?_normalizeExtension hl]
  constructor
  · intro h hdot
    have hlt := length_bareExtension hdot
    rw [h] at hlt
    exact lt_irrefl _ hlt
  · exact fun h => bareExtension_eq_self (trimmed_normalizeExtension hl ext) h

/-! ### A list of entries -/

/-- The last entry is added unless it is empty or there already. -/
lemma normalizeExtensions_concat (lower : Str → Str) (raw : List Str) (ext : Str) :
    normalizeExtensions lower (raw ++ [ext]) =
      if normalizeExtension lower ext ≠ [] ∧
          normalizeExtension lower ext ∉ normalizeExtensions lower raw
      then normalizeExtensions lower raw ++ [normalizeExtension lower ext]
      else normalizeExtensions lower raw := by
  unfold normalizeExtensions
  rw [List.foldl_concat]

lemma mem_normalizeExtensions :
    s ∈ normalizeExtensions lower raw ↔ s ≠ [] ∧ ∃ ext ∈ raw, normalizeExtension lower ext = s := by
  induction raw using List.reverseRecOn with
  | nil => exact ⟨fun h => (by cases h), fun ⟨_, _, h, _⟩ => (by cases h)⟩
  | append_singleton raw ext ih =>
    have hmem : (∃ x ∈ raw ++ [ext], normalizeExtension lower x = s) ↔
        (∃ x ∈ raw, normalizeExtension lower x = s) ∨ normalizeExtension lower ext = s := by
      simp only [List.mem_append, List.mem_singleton, or_and_right, exists_or, exists_eq_left]
    rw [normalizeExtensions_concat, hmem, and_or_left, ← ih]
    split
    · next h =>
      rw [List.mem_append, List.mem_singleton]
      apply or_congr_right
      constructor
      · rintro rfl
        exact ⟨h.1, rfl⟩
      · rintro ⟨-, rfl⟩
        rfl
    · next h =>
      refine ⟨.inl, fun hs => hs.elim id ?_⟩
      rintro ⟨hne, rfl⟩
      by_contra hnot
      exact h ⟨hne, hnot⟩

lemma nodup_normalizeExtensions (lower : Str → Str) (raw : List Str) :
    (normalizeExtensions lower raw).Nodup := by
  induction raw using List.reverseRecOn with
  | nil => exact List.nodup_nil
  | append_singleton raw ext ih =>
    rw [normalizeExtensions_concat]
    split
    · next h => exact List.nodup_append_comm.1 (List.nodup_cons.2 ⟨h.2, ih⟩)
    · exact ih

/-- A list that a pass has nothing to do with. -/
lemma normalizeExtensions_eq_self (hnodup : raw.Nodup)
    (h : ∀ ext ∈ raw, ext ≠ [] ∧ normalizeExtension lower ext = ext) :
    normalizeExtensions lower raw = raw := by
  induction raw using List.reverseRecOn with
  | nil => rfl
  | append_singleton raw ext ih =>
    obtain ⟨hnot, hraw⟩ := List.nodup_cons.1 (List.nodup_append_comm.1 hnodup)
    have hi := ih hraw fun x hx => h x (List.mem_append_left _ hx)
    obtain ⟨hne, hext⟩ := h ext (List.mem_append_right _ (List.mem_singleton_self _))
    rw [normalizeExtensions_concat, hi, hext, if_pos ⟨hne, hnot⟩]

/-- After a first pass that uncovers no dot, a second one changes nothing. -/
lemma normalizeExtensions_idem (hl : Lowering lower) (h : ∀ ext ∈ raw, ¬DotAgain ext) :
    normalizeExtensions lower (normalizeExtensions lower raw) = normalizeExtensions lower raw := by
  apply normalizeExtensions_eq_self (nodup_normalizeExtensions lower raw)
  intro s hs
  obtain ⟨hne, ext, hext, rfl⟩ := mem_normalizeExtensions.1 hs
  exact ⟨hne, (normalizeExtension_idem hl).2 (h ext hext)⟩

/-! ### The ways into the store and out of it -/

/-- The rows that the writes of the repository leave for a raw list of extensions. -/
inductive StoredFor (lower : Str → Str) (raw : List Str) : FolderRow → Prop
  | created (db : Database) (serverId : Nat) (body : FolderCreate.Body) (data : FolderCreate)
      (folder : FolderRow) (s' : Store) :
      body.extensions = raw → FolderCreate.validate lower body = .ok data →
      db.createFolder serverId data = .ok (folder, s') → StoredFor lower raw folder
  | updated (db : Database) (folderId : Nat) (body : FolderUpdate.Body) (data : FolderUpdate)
      (folder : FolderRow) (s' : Store) :
      body.extensions = some (some raw) → FolderUpdate.validate lower body = .ok data →
      db.updateFolder lower folderId data = .ok (folder, s') → StoredFor lower raw folder
  | set (db : Database) (folderId : Nat) (normalized : List Str) (folder : FolderRow) (s' : Store) :
      db.setFiletypes lower folderId raw = .ok (normalized, s') →
      s'.getFolder folderId = some folder → StoredFor lower raw folder

/-- All ways of a raw list of extensions into the store agree, and the way out with them. -/
structure ExtensionsAgree (lower : Str → Str) (raw : List Str) : Prop where
  same : ∀ folder folder', StoredFor lower raw folder → StoredFor lower raw folder' →
    folder.filetypes = folder'.filetypes
  nodup : ∀ folder, StoredFor lower raw folder → folder.filetypes.Nodup
  clean : ∀ folder, StoredFor lower raw folder → ∀ ext ∈ folder.filetypes,
    ext ≠ [] ∧ ext.head? ≠ some '.' ∧ strip ext = ext
  routed : ∀ folder config r, StoredFor lower raw folder →
    RouteOf lower folder.toFolder config r →
    ∀ ext, ext ∈ r.extensions ↔ ext ∈ (FolderRead.fromModel folder).extensions

/-- A folder is created with the extensions of its body, normalized once. -/
lemma created_filetypes {store s' : Store} {serverId : Nat} {body : FolderCreate.Body}
    {data : FolderCreate} {folder : FolderRow} (hv : FolderCreate.validate lower body = .ok data)
    (hc : store.createFolder serverId data = .ok (folder, s')) :
    folder.filetypes = normalizeExtensions lower body.extensions := by
  obtain ⟨-, -, -, -, hext⟩ := FolderCreate.validate_ok hv
  rw [Store.createFolder] at hc
  split at hc
  · cases hc
    exact hext
  · cases hc

lemma StoredFor.filetypes {folder : FolderRow} (h : StoredFor lower raw folder) :
    folder.filetypes = normalizeExtensions lower raw ∨
      folder.filetypes = normalizeExtensions lower (normalizeExtensions lower raw) := by
  cases h with
  | created db serverId body data _ s' hraw hv hc =>
    left
    rw [created_filetypes hv hc, hraw]
  | updated db folderId body data _ s' hraw hv hu =>
    right
    obtain ⟨-, -, hext⟩ := FolderUpdate.validate_ok hv
    rw [Store.updateFolder] at hu
    split at hu
    · cases hu
    · cases hu
      rw [FolderUpdate.setFields_filetypes, hext, hraw]
      rfl
  | set db folderId normalized _ s' hs hf =>
    left
    rw [Store.setFiletypes] at hs
    split at hs
    · cases hs
    · next old hold =>
      cases hs
      have hid : old.id = folderId := Store.getFolder_id hold
      have hid : ({ old with filetypes := normalizeExtensions lower raw } : FolderRow).id =
        folderId := hid
      rw [Store.getFolder_replaceFolder hold hid] at hf
      cases hf
      rfl

/-- Every raw list can be stored, by the first of the ways. -/
lemma exists_stored (lower : Str → Str) (raw : List Str) :
    ∃ folder, StoredFor lower raw folder ∧ folder.filetypes = normalizeExtensions lower raw := by
  have habs : PosixPath.isabs (normalizePath "/tv".toList) = true := by decide
  let body : FolderCreate.Body := { path := "/tv".toList, extensions := raw }
  obtain ⟨data, folder, s', hv, hc, -, htypes, -⟩ := exists_created lower body habs
  exact ⟨folder, .created oneServer 1 body data folder s' rfl hv hc, htypes⟩

/-- Raw lists of extensions have one meaning, whatever way they take, exactly when no entry has
another dot behind its leading dots and the white space after them; and no other entry is changed by
a second pass. -/
theorem extensions_agree_iff (hl : Lowering lower) (raw : List Str) :
    (ExtensionsAgree lower raw ↔ ∀ ext ∈ raw, ¬DotAgain ext) ∧
      ((∀ ext ∈ raw, normalizeExtension lower (normalizeExtension lower ext) =
        normalizeExtension lower ext) ↔ ∀ ext ∈ raw, ¬DotAgain ext) := by
  refine ⟨⟨fun h ext hext hdot => ?_, fun h => ?_⟩,
    forall₂_congr fun ext _ => normalizeExtension_idem hl⟩
  · obtain ⟨folder, hf, htypes⟩ := exists_stored lower raw
    have hhead := (head?_normalizeExtension hl).2 hdot
    have hne : normalizeExtension lower ext ≠ [] := by
      intro hnil
      rw [hnil] at hhead
      cases hhead
    have hmem : normalizeExtension lower ext ∈ folder.filetypes := by
      rw [htypes]
      exact mem_normalizeExtensions.2 ⟨hne, ext, hext, rfl⟩
    exact (h.clean folder hf _ hmem).2.1 hhead
  · have hstored : ∀ folder, StoredFor lower raw folder →
        folder.filetypes = normalizeExtensions lower raw := by
      intro folder hf
      rcases hf.filetypes with hf | hf
      · exact hf
      · rw [hf, normalizeExtensions_idem hl h]
    refine ⟨fun folder folder' hf hf' => ?_, fun folder hf => ?_, fun folder hf s hs => ?_,
      fun folder config r hf hr s => ?_⟩
    · rw [hstored folder hf, hstored folder' hf']
    · rw [hstored folder hf]
      exact nodup_normalizeExtensions lower raw
    · rw [hstored folder hf] at hs
      obtain ⟨hne, ext, hext, rfl⟩ := mem_normalizeExtensions.1 hs
      refine ⟨hne, ?_, strip_eq_self.2 (trimmed_normalizeExtension hl ext)⟩
      rw [Ne, head?_normalizeExtension hl]
      exact h ext hext
    · obtain ⟨server, types, rfl⟩ := hr.eq_route
      rw [mem_fromModel_extensions]
      have hfix : folder.filetypes.map (normalizeExtension lower) = folder.filetypes := by
        rw [hstored folder hf]
        apply (List.map_congr_left fun x hx => ?_).trans (List.map_id _)
        obtain ⟨-, ext, hext, rfl⟩ := mem_normalizeExtensions.1 hx
        exact (normalizeExtension_idem hl).2 (h ext hext)
      show s ∈ folder.filetypes.map (normalizeExtension lower) ↔ _
      rw [hfix]

instance : DecidablePred DotAgain := fun _ => decidable_of_iff _ head?_bareExtension

/-- The extensions of a usual folder, as they may be typed in. -/
theorem extensions_agree_iff_usual : ExtensionsAgree lowerAscii [" .MKV".toList, "tar.gz ".toList] :=
  (extensions_agree_iff lowering_lowerAscii _).1.2 (by decide)

/-- The database with one folder. -/
def oneFolder : Database :=
  oneServer.write .clear lowerAscii (.createFolder 1 ⟨"/tv".toList, none, none, [], true, rfl⟩)

/-- The update that an accepted entry `. .mkv` becomes. -/
def toDotted : FolderUpdate :=
  { extensions := some (some [".mkv".toList]), absolute := fun _ h => (by cases h) }

/-- Creating a folder with the entry `. .mkv` stores an extension with a leading dot, updating it to
the same entry stores another one. -/
theorem extensions_disagree : ¬∀ raw, ExtensionsAgree lowerAscii raw := by
  intro h
  obtain ⟨folder, hf, htypes⟩ := exists_stored lowerAscii [". .mkv".toList]
  let body : FolderUpdate.Body := { extensions := some (some [". .mkv".toList]) }
  have hv : FolderUpdate.validate lowerAscii body = .ok toDotted := rfl
  have hu : oneFolder.updateFolder lowerAscii 1 toDotted = .ok (_, _) := rfl
  have hsame := (h _).same _ _ hf (.updated oneFolder 1 body toDotted _ _ rfl hv hu)
  rw [htypes] at hsame
  revert hsame
  decide

end MediaScanMonitor
