import MediaScanMonitor.Config.Content
import MediaScanMonitor.Db.Validation
import MediaScanMonitor.Lib.Normpath
import MediaScanMonitor.Watcher.Roots
import MediaScanMonitor.Web.ApiSchemas

/-!
# Folder paths from the form to the watcher

What `normalize_path` stores of an accepted path, and what the configuration and the backend derive
from it. It is the path of the lexical location, except that two leading slashes are kept and that
white space may be uncovered at the end.
-/

namespace MediaScanMonitor
open Text PosixPath Os

variable {lower : Str → Str} {raw raw' : Str}

/-- The components that the path of a form denotes. -/
def formLocation (raw : Str) : List Name :=
  location (strip raw)

/-- `FolderCreate` accepts the path. -/
def PathAccepted (lower : Str → Str) (raw : Str) : Prop :=
  ∃ data, FolderCreate.validate lower { path := raw } = .ok data

/-- The row that `create_folder` makes of a body with this path. -/
inductive PathStored (lower : Str → Str) (raw : Str) : FolderRow → Prop
  | created (db : Database) (serverId : Nat) (body : FolderCreate.Body) (data : FolderCreate)
      (folder : FolderRow) (s' : Store) :
      body.path = raw → FolderCreate.validate lower body = .ok data →
      db.createFolder serverId data = .ok (folder, s') → PathStored lower raw folder

/-- What is stored of the path is canonical, and what is shown, routed and watched. -/
structure PathCanonical (lower : Str → Str) (raw : Str) : Prop where
  shape : ∀ folder, PathStored lower raw folder →
    (∃ p : List Name, folder.path = render p) ∧ strip folder.path = folder.path
  settled : ∀ folder, PathStored lower raw folder → normalizePath folder.path = folder.path
  routed : ∀ folder config r, PathStored lower raw folder →
    RouteOf lower folder.toFolder config r →
    r.path = (FolderRead.fromModel folder).path ∧ r.path ∈ config.watchPaths
  watched : ∀ folder config r, PathStored lower raw folder →
    RouteOf lower folder.toFolder config r → ∀ (t : Tree) (b : InotifyBackend),
    (FolderRead.fromModel folder).path ∈ (b.setRoots t config.watchPaths).roots

/-- The text does not begin with exactly two slashes, and its last component does not end in white
space. -/
def Tidy (raw : Str) : Prop :=
  ¬DoubleSlash (strip raw) ∧ ¬SpaceAtEnd (formLocation raw)

lemma pathAccepted_iff : PathAccepted lower raw ↔ isabs (strip raw) = true := by
  rw [PathAccepted, FolderCreate.validate_isOk, normalizePath, isabs_normpath]

lemma PathStored.path_eq {folder : FolderRow} (h : PathStored lower raw folder) :
    isabs (strip raw) = true ∧ folder.path = normalizePath raw := by
  cases h with
  | created db serverId body data _ s' hraw hv hc =>
    subst hraw
    have hok := (FolderCreate.validate_isOk lower body).1 ⟨data, hv⟩
    rw [normalizePath, isabs_normpath] at hok
    refine ⟨hok, ?_⟩
    rw [Store.createFolder] at hc
    split at hc
    · cases hc
      exact (FolderCreate.validate_ok hv).1
    · cases hc

lemma PathAccepted.stored (h : PathAccepted lower raw) :
    ∃ folder, PathStored lower raw folder ∧ folder.path = normalizePath raw := by
  have habs : isabs (normalizePath raw) = true := by
    rw [normalizePath, isabs_normpath]
    exact pathAccepted_iff.1 h
  obtain ⟨data, folder, s', hv, hc, hpath, -, -⟩ := exists_created lower { path := raw } habs
  exact ⟨folder, .created oneServer 1 { path := raw } data folder s' rfl hv hc, hpath⟩

/-- What an accepted path is stored as. -/
lemma normalizePath_eq (h : isabs (strip raw) = true) :
    normalizePath raw =
      (if DoubleSlash (strip raw) then [sep] else []) ++ render (formLocation raw) :=
  normpath_absolute h

lemma Tidy.normalizePath_eq (h : Tidy raw) (habs : isabs (strip raw) = true) :
    normalizePath raw = render (formLocation raw) := by
  rw [MediaScanMonitor.normalizePath_eq habs, if_neg h.1]
  rfl

lemma Tidy.canonical (h : Tidy raw) : PathCanonical lower raw := by
  have hpath : ∀ folder, PathStored lower raw folder → folder.path = render (formLocation raw) := by
    intro folder hf
    obtain ⟨habs, hp⟩ := hf.path_eq
    rw [hp, h.normalizePath_eq habs]
  have hplain : Plain (formLocation raw) := plain_iff.2 h.2
  have hsettled : ∀ folder, PathStored lower raw folder →
      normalizePath folder.path = folder.path := by
    intro folder hf
    rw [hpath folder hf]
    exact hplain
  have hrouted : ∀ folder config r, PathStored lower raw folder →
      RouteOf lower folder.toFolder config r → r.path = folder.path := by
    intro folder config r hf hr
    obtain ⟨server, types, rfl⟩ := hr.eq_route
    exact hsettled folder hf
  refine ⟨fun folder hf => ⟨⟨_, hpath folder hf⟩, ?_⟩, hsettled,
    fun folder config r hf hr => ⟨hrouted folder config r hf hr, hr.path_mem⟩,
    fun folder config r hf hr t b => ?_⟩
  · rw [hpath folder hf]
    exact strip_eq_self.2 ((trimmed_normal (.single _)).2 h.2)
  · apply List.mem_dedup.2
    apply List.mem_map.2
    exact ⟨r.path, hr.path_mem, by rw [hrouted folder config r hf hr, hsettled folder hf]; rfl⟩

lemma PathCanonical.tidy (h : PathCanonical lower raw) (hraw : PathAccepted lower raw) :
    Tidy raw := by
  have habs := pathAccepted_iff.1 hraw
  obtain ⟨folder, hf, hpath⟩ := hraw.stored
  obtain ⟨⟨p, hp⟩, htrim⟩ := h.shape folder hf
  rw [hpath] at hp htrim
  have hdouble : ¬DoubleSlash (strip raw) := by
    intro hd
    rw [normalizePath_eq habs, if_pos hd] at hp
    exact sep_render_ne _ _ hp
  refine ⟨hdouble, ?_⟩
  rw [normalizePath_eq habs, if_neg hdouble, List.nil_append, strip_eq_self] at htrim
  exact (trimmed_normal (.single _)).1 htrim

/-- Two accepted paths are both stored canonically, and as one text when they denote one location,
exactly when neither begins with exactly two slashes nor has white space at the end of its last
component. -/
theorem paths_canonical_iff (hraw : PathAccepted lower raw) (hraw' : PathAccepted lower raw') :
    PathCanonical lower raw ∧ PathCanonical lower raw' ∧
        (formLocation raw = formLocation raw' → ∀ folder folder', PathStored lower raw folder →
          PathStored lower raw' folder' → folder.path = folder'.path) ↔
      Tidy raw ∧ Tidy raw' := by
  constructor
  · rintro ⟨h, h', -⟩
    exact ⟨h.tidy hraw, h'.tidy hraw'⟩
  · rintro ⟨h, h'⟩
    refine ⟨h.canonical, h'.canonical, fun hloc folder folder' hf hf' => ?_⟩
    obtain ⟨habs, hp⟩ := hf.path_eq
    obtain ⟨habs', hp'⟩ := hf'.path_eq
    rw [hp, hp', h.normalizePath_eq habs, h'.normalizePath_eq habs', hloc]

instance : DecidablePred Tidy := fun raw => by
  unfold Tidy formLocation
  infer_instance

lemma accepted (h : isabs (strip raw) = true) : PathAccepted lower raw :=
  pathAccepted_iff.2 h

/-- Two ways to write `/media/tv`. -/
theorem paths_canonical_iff_media :
    PathAccepted lowerAscii " /media//tv/ ".toList ∧
      ∀ folder folder', PathStored lowerAscii " /media//tv/ ".toList folder →
        PathStored lowerAscii "///media/./x/../tv".toList folder' → folder.path = folder'.path := by
  have hraw : PathAccepted lowerAscii " /media//tv/ ".toList := accepted (by decide)
  have hraw' : PathAccepted lowerAscii "///media/./x/../tv".toList := accepted (by decide)
  exact ⟨hraw, ((paths_canonical_iff hraw hraw').2 ⟨by decide, by decide⟩).2.2
    (by decide)⟩

/-- With two slashes in front the same location is stored as another text, and white space that was
not at the end of what was typed is at the end of what is stored. -/
theorem paths_not_canonical :
    (¬∀ raw raw', PathAccepted lowerAscii raw → PathAccepted lowerAscii raw' →
        formLocation raw = formLocation raw' → ∀ folder folder', PathStored lowerAscii raw folder →
        PathStored lowerAscii raw' folder' → folder.path = folder'.path) ∧
      ¬∀ raw, PathAccepted lowerAscii raw → PathCanonical lowerAscii raw := by
  constructor
  · intro h
    have hraw : PathAccepted lowerAscii "/tv".toList := accepted (by decide)
    have hraw' : PathAccepted lowerAscii "//tv".toList := accepted (by decide)
    obtain ⟨folder, hf, hp⟩ := hraw.stored
    obtain ⟨folder', hf', hp'⟩ := hraw'.stored
    have hsame := h _ _ hraw hraw' (by decide) folder folder' hf hf'
    rw [hp, hp'] at hsame
    revert hsame
    decide
  · intro h
    have hraw : PathAccepted lowerAscii "/tv /".toList := accepted (by decide)
    obtain ⟨folder, hf, hp⟩ := hraw.stored
    have htrim := ((h _ hraw).shape folder hf).2
    rw [hp] at htrim
    revert htrim
    decide

end MediaScanMonitor
