import MediaScanMonitor.Db.Folders

/-!
# Validation

The validators of `FolderCreate` and `FolderUpdate`: what becomes of a body, and which of its fields
are rejected. `lower` is `str.lower`.
-/

namespace MediaScanMonitor
open Text PosixPath

/-- A field that a validator rejects. -/
inductive FieldError
  /-- `path`: "folder path must be absolute, got {value!r}". -/
  | notAbsolute (value : Str)
  /-- `field`: "must not be null". -/
  | null (field : Str)
deriving DecidableEq

/-- Where the error is reported. -/
def FieldError.loc : FieldError → Str
  | .notAbsolute _ => "path".toList
  | .null field => field

/-- `_normalize_and_require_absolute`. -/
def normalizeAndRequireAbsolute (value : Str) : Except FieldError { path // isabs path = true } :=
  if h : isabs (normalizePath value) = true then .ok ⟨normalizePath value, h⟩
  else .error (.notAbsolute value)

/-- The fields of a `FolderCreate` as they are supplied. -/
structure FolderCreate.Body where
  path : Str
  libraryId : Option Str := none
  libraryName : Option Str := none
  extensions : List Str := []
  enabled : Bool := true
deriving DecidableEq

/-- The fields of a `FolderUpdate` as they are supplied: `none` is left out, `some none` a null. -/
structure FolderUpdate.Body where
  path : Option (Option Str) := none
  libraryId : Option (Option Str) := none
  extensions : Option (Option (List Str)) := none
  enabled : Option (Option Bool) := none
deriving DecidableEq

/-- `FolderCreate._normalize_extensions`. -/
def FolderCreate.normalizeExtensions (lower : Str → Str) (value : List Str) : List Str :=
  MediaScanMonitor.normalizeExtensions lower value

/-- `FolderUpdate._normalize_extensions`. -/
def FolderUpdate.normalizeExtensions (lower : Str → Str) (value : Option (List Str)) :
    Option (List Str) :=
  value.map (MediaScanMonitor.normalizeExtensions lower)

/-- `FolderCreate(**body)`. -/
def FolderCreate.validate (lower : Str → Str) (body : Body) : Except (List FieldError) FolderCreate :=
  match normalizeAndRequireAbsolute body.path with
  | .error error => .error [error]
  | .ok path => .ok
    { path := path.1
      libraryId := body.libraryId
      libraryName := body.libraryName
      extensions := FolderCreate.normalizeExtensions lower body.extensions
      enabled := body.enabled
      absolute := path.2 }

/-- `FolderUpdate._normalize_and_require_absolute` on a field that may be left out. -/
def FolderUpdate.validatePath :
    Option (Option Str) → Except FieldError (Option { path // isabs path = true })
  | none => .ok none
  | some none => .error (.null "path".toList)
  | some (some value) => (normalizeAndRequireAbsolute value).map some

/-- `_enabled_not_null` on a field that may be left out. -/
def FolderUpdate.validateEnabled : Option (Option Bool) → Except FieldError (Option Bool)
  | none => .ok none
  | some none => .error (.null "enabled".toList)
  | some (some value) => .ok (some value)

lemma absolute_of_path (path : Option { path // isabs path = true }) :
    ∀ value ∈ path.map Subtype.val, isabs value = true := by
  intro value h
  obtain ⟨path, -, rfl⟩ := Option.map_eq_some_iff.1 h
  exact path.2

/-- `FolderUpdate(**body)`; all rejected fields are reported. -/
def FolderUpdate.validate (lower : Str → Str) (body : Body) : Except (List FieldError) FolderUpdate :=
  match validatePath body.path, validateEnabled body.enabled with
  | .ok path, .ok enabled => .ok
    { path := path.map Subtype.val
      libraryId := body.libraryId
      extensions := body.extensions.map (FolderUpdate.normalizeExtensions lower)
      enabled := enabled
      absolute := absolute_of_path path }
  | .error path, .ok _ => .error [path]
  | .ok _, .error enabled => .error [enabled]
  | .error path, .error enabled => .error [path, enabled]

variable {lower : Str → Str} {value : Str}

lemma normalizeAndRequireAbsolute_ok {path : { path // isabs path = true }} :
    normalizeAndRequireAbsolute value = .ok path ↔ path.1 = normalizePath value := by
  unfold normalizeAndRequireAbsolute
  split
  · rw [Except.ok.injEq, eq_comm, Subtype.ext_iff]
  · next h =>
    refine ⟨fun he => (by cases he), fun he => ?_⟩
    rw [← he] at h
    exact absurd path.2 h

/-- What an accepted body becomes. -/
lemma FolderCreate.validate_ok {body : Body} {data : FolderCreate}
    (h : validate lower body = .ok data) :
    data.path = normalizePath body.path ∧ data.libraryId = body.libraryId ∧
      data.libraryName = body.libraryName ∧ data.enabled = body.enabled ∧
      data.extensions = MediaScanMonitor.normalizeExtensions lower body.extensions := by
  unfold validate at h
  split at h
  · cases h
  · next path hp =>
    cases h
    exact ⟨normalizeAndRequireAbsolute_ok.1 hp, rfl, rfl, rfl, rfl⟩

/-- A body is accepted for its path alone. -/
lemma FolderCreate.validate_isOk (lower : Str → Str) (body : Body) :
    (∃ data, validate lower body = .ok data) ↔ isabs (normalizePath body.path) = true := by
  constructor
  · rintro ⟨data, h⟩
    rw [← (validate_ok h).1]
    exact data.absolute
  · intro h
    have hok : normalizeAndRequireAbsolute body.path = .ok ⟨normalizePath body.path, h⟩ :=
      normalizeAndRequireAbsolute_ok.2 rfl
    unfold validate
    rw [hok]
    exact ⟨_, rfl⟩

lemma FolderUpdate.validate_ok {body : Body} {data : FolderUpdate}
    (h : validate lower body = .ok data) :
    data.path = body.path.join.map normalizePath ∧ data.libraryId = body.libraryId ∧
      data.extensions = body.extensions.map (FolderUpdate.normalizeExtensions lower) := by
  unfold validate at h
  split at h
  · next path enabled hp he =>
    cases h
    refine ⟨?_, rfl, rfl⟩
    cases hb : body.path with
    | none =>
      rw [hb] at hp
      cases hp
      rfl
    | some value =>
      cases value with
      | none =>
        rw [hb] at hp
        cases hp
      | some value =>
        rw [hb, validatePath] at hp
        cases hn : normalizeAndRequireAbsolute value with
        | error error =>
          rw [hn] at hp
          cases hp
        | ok accepted =>
          rw [hn] at hp
          cases hp
          exact congrArg some (normalizeAndRequireAbsolute_ok.1 hn)
  all_goals cases h

/-! ### Errors name the field -/

lemma normalizeAndRequireAbsolute_loc {error : FieldError}
    (h : normalizeAndRequireAbsolute value = .error error) : error.loc = "path".toList := by
  unfold normalizeAndRequireAbsolute at h
  split at h
  · cases h
  · cases h
    rfl

lemma FolderCreate.validate_error {body : Body} {errors : List FieldError}
    (h : validate lower body = .error errors) : errors.map FieldError.loc = ["path".toList] := by
  unfold validate at h
  split at h
  · next hp =>
    cases h
    rw [List.map_singleton, normalizeAndRequireAbsolute_loc hp]
  · cases h

lemma FolderUpdate.validatePath_loc {path : Option (Option Str)} {error : FieldError}
    (h : validatePath path = .error error) : error.loc = "path".toList := by
  match path, h with
  | some none, h =>
    cases h
    rfl
  | some (some value), h =>
    rw [validatePath] at h
    cases hn : normalizeAndRequireAbsolute value with
    | error rejected =>
      rw [hn] at h
      cases h
      exact normalizeAndRequireAbsolute_loc hn
    | ok accepted =>
      rw [hn] at h
      cases h

lemma FolderUpdate.validateEnabled_loc {enabled : Option (Option Bool)} {error : FieldError}
    (h : validateEnabled enabled = .error error) : error.loc = "enabled".toList := by
  match enabled, h with
  | some none, h =>
    cases h
    rfl

/-- Every field that is rejected is named, and no other. -/
lemma FolderUpdate.validate_error {body : Body} {errors : List FieldError}
    (h : validate lower body = .error errors) (loc : Str) : loc ∈ errors.map FieldError.loc ↔
      (loc = "path".toList ∧ ∃ error, validatePath body.path = .error error) ∨
        loc = "enabled".toList ∧ ∃ error, validateEnabled body.enabled = .error error := by
  unfold validate at h
  split at h
  · cases h
  · next path enabled hp he =>
    cases h
    simp [hp, he, validatePath_loc hp]
  · next path enabled hp he =>
    cases h
    simp [hp, he, validateEnabled_loc he]
  · next path enabled hp he =>
    cases h
    simp [hp, he, validatePath_loc hp, validateEnabled_loc he]

/-- The database with one server. -/
def oneServer : Database :=
  emptyDatabase.write .clear lowerAscii
    (.createServer [] { name := "plex".toList, type := .plex, name_not_blank := plex_not_blank })

/-- What is accepted is stored. -/
lemma exists_created (lower : Str → Str) (body : FolderCreate.Body)
    (h : isabs (normalizePath body.path) = true) : ∃ data folder s',
      FolderCreate.validate lower body = .ok data ∧
      oneServer.createFolder 1 data = .ok (folder, s') ∧ folder.path = normalizePath body.path ∧
      folder.filetypes = normalizeExtensions lower body.extensions ∧
      folder.enabled = body.enabled := by
  have hid : 1 ∈ oneServer.ids := by decide
  obtain ⟨data, hv⟩ := (FolderCreate.validate_isOk lower body).2 h
  obtain ⟨folder, hc, hcontent, -⟩ := Store.createFolder_ok hid data
  obtain ⟨hpath, -, -, henabled, hext⟩ := FolderCreate.validate_ok hv
  have hp : folder.path = data.path := congrArg (fun c => c.1.path) hcontent
  have ht : folder.filetypes = data.extensions := congrArg (fun c => c.1.filetypes) hcontent
  have he : folder.enabled = data.enabled := congrArg (fun c => c.1.enabled) hcontent
  exact ⟨data, folder, _, hv, hc, hp.trans hpath, ht.trans hext, he.trans henabled⟩

end MediaScanMonitor
