import MediaScanMonitor.Db.Downgrades
import MediaScanMonitor.Db.AtRest
import MediaScanMonitor.Web.Writes
import MediaScanMonitor.Pipeline.Dispatcher

/-!
# Stored rows

The rows of the repository as the newest revision has them in the database file. The file also has
the ids of the extensions, and the settings, which the repository's writes leave alone.
-/

namespace MediaScanMonitor
open Text

def DebounceMode.value : DebounceMode → Str
  | .off => "off".toList
  | .trailing => "trailing".toList

def WebhookPreset.value : WebhookPreset → Str
  | .custom => "custom".toList
  | .sonarrRadarr => "sonarr_radarr".toList
  | .mediaPreviewGenerator => "media_preview_generator".toList

/-- SQLite has no Booleans. -/
def SqlValue.flag (b : Bool) : SqlValue :=
  .integer (if b then 1 else 0)

/-- The columns of a row of `Server`. -/
def ServerRow.cells (row : ServerRow) : Ddl.Row Identifier SqlValue :=
  [(.id, some (.integer row.id)),
    (.name, some (.text row.name)),
    (.type, some (.text row.type.value)),
    (.baseUrl, some (.text row.baseUrl)),
    (.verifyTls, some (.flag row.verifyTls)),
    (.timeoutSeconds, some (.real row.timeoutSeconds)),
    (.secretEncrypted, row.secretEncrypted.map .text),
    (.scanMode, some (.text row.scanMode.value)),
    (.debounceMode, some (.text row.debounceMode.value)),
    (.debounceWindowSeconds, some (.integer row.debounceWindowSeconds)),
    (.retryAttempts, some (.integer row.retryAttempts)),
    (.enabled, some (.flag row.enabled)),
    (.webhookMethod, row.webhookMethod.map .text),
    (.webhookHeadersJson, row.webhookHeadersJson.map .text),
    (.webhookBodyTemplate, row.webhookBodyTemplate.map .text),
    (.webhookPayloadPreset, some (.text row.webhookPayloadPreset.value)),
    (.eventTypes, some (.text row.eventTypes))]

/-- The columns of a row of `Folder`. -/
def FolderRow.cells (folder : FolderRow) : Ddl.Row Identifier SqlValue :=
  [(.id, some (.integer folder.id)),
    (.serverId, some (.integer folder.serverId)),
    (.path, some (.text folder.path)),
    (.libraryId, folder.libraryId.map .text),
    (.enabled, some (.flag folder.enabled)),
    (.libraryName, folder.libraryName.map .text)]

/-- A row of `FileType` belongs to the folder. -/
def InFolder (folderId : Nat) (row : Ddl.Row Identifier SqlValue) : Prop :=
  Ddl.cell row .folderId = some (.integer folderId)

instance (folderId : Nat) : DecidablePred (InFolder folderId) :=
  fun row => inferInstanceAs (Decidable (Ddl.cell row .folderId = some (.integer folderId)))

/-- The database file holds these rows. -/
structure DbFile.Holds (d : DbFile) (s : Store) : Prop where
  newest : AtRevision versions.length d
  servers : Ddl.rowsOf d.tables .server = s.servers.map ServerRow.cells
  folders : Ddl.rowsOf d.tables .folder = s.folders.map FolderRow.cells
  filetypes : ∀ folder ∈ s.folders,
    ((Ddl.rowsOf d.tables .filetype).filter (InFolder folder.id)).map
        (fun row => Ddl.cell row .extension) =
      folder.filetypes.map fun extension => some (.text extension)
  owned : ∀ row ∈ Ddl.rowsOf d.tables .filetype, ∃ folder ∈ s.folders, InFolder folder.id row

/-- A server after a downgrade to the `k`-th revision and the next start. -/
def ServerRow.rolledBack (k : Nat) (row : ServerRow) : ServerRow :=
  { row with
    webhookPayloadPreset :=
      if k < 3 ∨ row.webhookPayloadPreset = .mediaPreviewGenerator then .custom
      else row.webhookPayloadPreset
    eventTypes := if k < 4 then serializeEventTypes FsEventType.all else row.eventTypes }

/-- A folder after a downgrade to the `k`-th revision and the next start. -/
def FolderRow.rolledBack (k : Nat) (folder : FolderRow) : FolderRow :=
  { folder with libraryName := if k < 2 then none else folder.libraryName }

/-- The tables after a downgrade to the `k`-th revision and the next start. -/
def Store.rolledBack (k : Nat) (s : Store) : Store :=
  ⟨s.servers.map (ServerRow.rolledBack k), s.folders.map (FolderRow.rolledBack k)⟩

/-- The tables of the newest revision with these rows. -/
def newestTables (servers settings folders filetypes : List (Ddl.Row Identifier SqlValue)) :
    Ddl.Tables Identifier ColumnType SqlValue :=
  [(.server, ⟨definitionOf versions.length .server, servers⟩),
    (.setting, ⟨definitionOf versions.length .setting, settings⟩),
    (.folder, ⟨definitionOf versions.length .folder, folders⟩),
    (.filetype, ⟨definitionOf versions.length .filetype, filetypes⟩)]

/-- The extensions of some folders with their ids. -/
def folderExtensions (folders : List FolderRow) : List (Nat × Str) :=
  folders.flatMap fun folder => folder.filetypes.map (Prod.mk folder.id)

/-- The columns of a row of `FileType`. -/
def filetypeCells (id : Nat) (entry : Nat × Str) : Ddl.Row Identifier SqlValue :=
  [(.id, some (.integer id)), (.folderId, some (.integer entry.1)),
    (.extension, some (.text entry.2))]

/-- A file for the rows; the extensions are numbered in order. -/
def Store.file (s : Store) : DbFile where
  version := (blank versions.length).version
  tables := newestTables (s.servers.map ServerRow.cells) [] (s.folders.map FolderRow.cells)
    ((folderExtensions s.folders).zipIdx.map fun entry => filetypeCells (entry.2 + 1) entry.1)

variable {d : DbFile} {s : Store} {k n : Nat} {table : Identifier}

/-! ## One row -/

lemma ServerRow.cells_rolledBack (hk : k ≠ 0) (hlt : k < versions.length) (row : ServerRow) :
    Ddl.refit (definitionOf versions.length .server).columns
        (Ddl.refit (definitionOf k .server).columns
          (Ddl.assign .webhookPayloadPreset generatorPreset (.text "custom".toList) row.cells)) =
      (row.rolledBack k).cells := by
  have hk : 1 ≤ k := Nat.one_le_iff_ne_zero.2 hk
  have hlt : k < 5 := hlt
  obtain ⟨⟨_, _, _, _, _, _, _, _, _, _, _, _, _, preset, _⟩, _, _⟩ := row
  interval_cases k <;> cases preset <;> rfl

lemma FolderRow.cells_rolledBack (hk : k ≠ 0) (hlt : k < versions.length) (folder : FolderRow) :
    Ddl.refit (definitionOf versions.length .folder).columns
        (Ddl.refit (definitionOf k .folder).columns folder.cells) =
      (folder.rolledBack k).cells := by
  have hk : 1 ≤ k := Nat.one_le_iff_ne_zero.2 hk
  have hlt : k < 5 := hlt
  interval_cases k <;> rfl

lemma fits_of_all {D : Ddl.Definition Identifier ColumnType SqlValue}
    {row : Ddl.Row Identifier SqlValue} (hnames : row.map Prod.fst = D.names)
    (h : (D.columns.all fun c => c.nullable || (Ddl.cell row c.name).isSome) = true) :
    Ddl.Fits D row := by
  refine ⟨hnames, fun c hc hnull => ?_⟩
  have hsome := List.all_eq_true.1 h c hc
  rw [hnull, Bool.false_or] at hsome
  exact Option.isSome_iff_ne_none.1 hsome

lemma ServerRow.fits_cells (row : ServerRow) :
    Ddl.Fits (definitionOf versions.length .server) row.cells :=
  fits_of_all rfl rfl

lemma FolderRow.fits_cells (folder : FolderRow) :
    Ddl.Fits (definitionOf versions.length .folder) folder.cells :=
  fits_of_all rfl rfl

lemma fits_filetypeCells (id : Nat) (entry : Nat × Str) :
    Ddl.Fits (definitionOf versions.length .filetype) (filetypeCells id entry) :=
  fits_of_all rfl rfl

/-! ## The tables -/

lemma tableNames_blank (hn : n ≠ 0) (hle : n ≤ versions.length) :
    Ddl.tableNames (blank n).tables = [.server, .setting, .folder, .filetype] := by
  have hn : 1 ≤ n := Nat.one_le_iff_ne_zero.2 hn
  have hle : n ≤ 5 := hle
  interval_cases n <;> rfl

lemma rowsOf_broughtTo (hn : n ≠ 0) (hle : n ≤ versions.length) (d : DbFile)
    (htable : table ∈ [Identifier.server, .setting, .folder, .filetype]) :
    Ddl.rowsOf (d.broughtTo n).tables table =
      (Ddl.rowsOf d.tables table).map (Ddl.refit (definitionOf n table).columns) := by
  rw [← tableNames_blank hn hle] at htable
  obtain ⟨t, ht⟩ := Option.ne_none_iff_exists'.1 (Ddl.lookup_ne_none.2 htable)
  unfold definitionOf
  rw [ht]
  exact Ddl.rowsOf_fill ht d.tables

/-- The settings and the extensions have the same columns in every revision. -/
lemma definitionOf_newest (hk : k ≠ 0) (hle : k ≤ versions.length)
    (htable : table ∈ [Identifier.setting, .filetype]) :
    definitionOf k table = definitionOf versions.length table := by
  have hk : 1 ≤ k := Nat.one_le_iff_ne_zero.2 hk
  have hle : k ≤ 5 := hle
  revert table
  interval_cases k <;> decide

lemma AtRevision.shape_newest (h : AtRevision versions.length d) :
    ∃ servers settings folders filetypes,
      d.tables = newestTables servers settings folders filetypes := by
  rw [← h.broughtTo_self (by decide)]
  exact ⟨_, _, _, _, rfl⟩

lemma inFolder_filetypeCells (folderId id : Nat) (entry : Nat × Str) :
    InFolder folderId (filetypeCells id entry) ↔ entry.1 = folderId := by
  constructor
  · intro h
    injection h with h
    injection h with h
    exact Int.ofNat.inj h
  · rintro rfl
    rfl

lemma forall_newestTables {servers settings folders filetypes : List (Ddl.Row Identifier SqlValue)}
    {P : Identifier × Ddl.Table Identifier ColumnType SqlValue → Prop}
    (hserver : P (.server, ⟨definitionOf versions.length .server, servers⟩))
    (hsetting : P (.setting, ⟨definitionOf versions.length .setting, settings⟩))
    (hfolder : P (.folder, ⟨definitionOf versions.length .folder, folders⟩))
    (hfiletype : P (.filetype, ⟨definitionOf versions.length .filetype, filetypes⟩)) :
    ∀ t ∈ newestTables servers settings folders filetypes, P t := by
  unfold newestTables
  rw [List.forall_mem_cons, List.forall_mem_cons, List.forall_mem_cons, List.forall_mem_singleton]
  exact ⟨hserver, hsetting, hfolder, hfiletype⟩

/-- The keys of the repository's rows are those of the file. -/
lemma DbFile.Holds.intact (hkeyed : s.Keyed) (h : d.Holds s) : Ddl.intact d.tables = true := by
  obtain ⟨servers, settings, folders, filetypes, hshape⟩ := h.newest.shape_newest
  have hservers := h.servers
  have hfolders := h.folders
  have howned := h.owned
  rw [hshape] at hservers hfolders howned ⊢
  obtain rfl : servers = s.servers.map ServerRow.cells := hservers
  obtain rfl : folders = s.folders.map FolderRow.cells := hfolders
  refine List.all_eq_true.2 (forall_newestTables ?_ ?_ ?_ ?_)
  case refine_1 => exact List.all_eq_true.2 fun _ _ => rfl
  case refine_2 => exact List.all_eq_true.2 fun _ _ => rfl
  case refine_3 =>
    refine List.all_eq_true.2 fun row hrow => List.all_eq_true.2 fun r hr => ?_
    obtain ⟨folder, hfolder, rfl⟩ := List.mem_map.1 hrow
    obtain ⟨server, hserver, hid⟩ := List.mem_map.1 (hkeyed.owned folder hfolder)
    obtain rfl : r = ⟨.serverId, .server⟩ := List.mem_singleton.1 hr
    have hkey : Ddl.cell server.cells .id = Ddl.cell folder.cells .serverId := by
      show some (SqlValue.integer server.id) = some (.integer folder.serverId)
      rw [hid]
    exact decide_eq_true (.inr (Ddl.referred_ne_nil rfl (List.mem_map_of_mem hserver)
      (Option.some_ne_none _) hkey))
  case refine_4 =>
    refine List.all_eq_true.2 fun row hrow => List.all_eq_true.2 fun r hr => ?_
    obtain ⟨folder, hfolder, hin⟩ := howned row hrow
    obtain rfl : r = ⟨.folderId, .folder⟩ := List.mem_singleton.1 hr
    have hcell : Ddl.cell row .folderId ≠ none := by
      rw [hin]
      exact Option.some_ne_none _
    have hkey : Ddl.cell folder.cells .id = Ddl.cell row .folderId := Eq.symm hin
    exact decide_eq_true (.inr (Ddl.referred_ne_nil rfl (List.mem_map_of_mem hfolder) hcell hkey))

/-- The extensions of one folder. -/
lemma extensions_filter {folders : List FolderRow} (hids : (folders.map FolderRow.id).Nodup)
    {folder : FolderRow} (h : folder ∈ folders) :
    (folderExtensions folders).filter (fun entry => entry.1 = folder.id) =
      folder.filetypes.map (Prod.mk folder.id) := by
  have hother : ∀ other : FolderRow, other.id ≠ folder.id →
      (other.filetypes.map (Prod.mk other.id)).filter (fun entry => entry.1 = folder.id) = [] := by
    intro other hne
    rw [List.filter_eq_nil_iff]
    intro entry hentry
    obtain ⟨extension, -, rfl⟩ := List.mem_map.1 hentry
    simpa using hne
  have hself : (folder.filetypes.map (Prod.mk folder.id)).filter
      (fun entry => entry.1 = folder.id) = folder.filetypes.map (Prod.mk folder.id) := by
    rw [List.filter_eq_self]
    intro entry hentry
    obtain ⟨extension, -, rfl⟩ := List.mem_map.1 hentry
    exact decide_eq_true rfl
  unfold folderExtensions
  rw [List.filter_flatMap]
  induction folders with
  | nil => cases h
  | cons first rest ih =>
    rw [List.map_cons, List.nodup_cons] at hids
    rw [List.flatMap_cons]
    cases h with
    | head =>
      have hrest : (rest.flatMap fun other => (other.filetypes.map (Prod.mk other.id)).filter
          fun entry => entry.1 = folder.id) = [] := by
        rw [List.flatMap_eq_nil_iff]
        intro other hmem
        apply hother
        intro he
        exact hids.1 (he ▸ List.mem_map_of_mem hmem)
      rw [hself, hrest, List.append_nil]
    | tail _ h =>
      have hne : first.id ≠ folder.id := by
        intro he
        exact hids.1 (he ▸ List.mem_map_of_mem h)
      rw [hother first hne, List.nil_append]
      exact ih hids.2 h

lemma Store.holds_file (hkeyed : s.Keyed) : s.file.Holds s := by
  constructor
  case newest =>
    refine ⟨le_rfl, rfl, rfl, forall_newestTables ?_ ?_ ?_ ?_⟩
    case refine_1 =>
      intro row hrow
      obtain ⟨server, -, rfl⟩ := List.mem_map.1 hrow
      exact server.fits_cells
    case refine_2 => exact List.forall_mem_nil _
    case refine_3 =>
      intro row hrow
      obtain ⟨folder, -, rfl⟩ := List.mem_map.1 hrow
      exact folder.fits_cells
    case refine_4 =>
      intro row hrow
      obtain ⟨entry, -, rfl⟩ := List.mem_map.1 hrow
      exact fits_filetypeCells _ _
  case servers => rfl
  case folders => rfl
  case filetypes =>
    intro folder hfolder
    have hin : ∀ entry : (Nat × Str) × Nat,
        decide (InFolder folder.id (filetypeCells (entry.2 + 1) entry.1)) =
          decide (entry.1.1 = folder.id) := by
      intro entry
      rw [decide_eq_decide]
      exact inFolder_filetypeCells _ _ _
    calc (((folderExtensions s.folders).zipIdx.map fun entry =>
            filetypeCells (entry.2 + 1) entry.1).filter (InFolder folder.id)).map
            (fun row => Ddl.cell row .extension)
        = ((folderExtensions s.folders).zipIdx.filter fun entry => entry.1.1 = folder.id).map
            fun entry => some (.text entry.1.2) := by
          rw [List.filter_map, List.map_map]
          exact congrArg (List.map _) (List.filter_congr fun entry _ => hin entry)
      _ = (((folderExtensions s.folders).zipIdx.map Prod.fst).filter fun entry =>
            entry.1 = folder.id).map fun entry => some (.text entry.2) := by
          rw [List.filter_map, List.map_map]
          rfl
      _ = folder.filetypes.map fun extension => some (.text extension) := by
          rw [List.zipIdx_map_fst, extensions_filter hkeyed.folders hfolder, List.map_map]
          rfl
  case owned =>
    intro row hrow
    obtain ⟨entry, hentry, rfl⟩ := List.mem_map.1 hrow
    have hmem : entry.1 ∈ folderExtensions s.folders := by
      rw [← List.zipIdx_map_fst 0 (folderExtensions s.folders)]
      exact List.mem_map_of_mem hentry
    obtain ⟨folder, hfolder, hin⟩ := List.mem_flatMap.1 hmem
    obtain ⟨extension, -, he⟩ := List.mem_map.1 hin
    refine ⟨folder, hfolder, ?_⟩
    show some (SqlValue.integer entry.1.1) = some (.integer folder.id)
    rw [← he]

/-! ## A downgrade and the next start -/

namespace DbFile.Holds

/-- The rows of a table after a downgrade and the next start. -/
lemma rowsOf_rolledBack (hk : k ≠ 0) (hlt : k < versions.length) (d : DbFile)
    (htable : table ∈ [Identifier.server, .setting, .folder, .filetype]) :
    Ddl.rowsOf ((d.customized.broughtTo k).broughtTo versions.length).tables table =
      ((Ddl.rowsOf d.customized.tables table).map (Ddl.refit (definitionOf k table).columns)).map
        (Ddl.refit (definitionOf versions.length table).columns) := by
  rw [rowsOf_broughtTo (by decide) le_rfl _ htable, rowsOf_broughtTo hk hlt.le _ htable]

/-- The settings and the extensions stay. -/
lemma rowsOf_same (h : AtRevision versions.length d) (hk : k ≠ 0) (hlt : k < versions.length)
    (htable : table ∈ [Identifier.setting, .filetype]) :
    Ddl.rowsOf ((d.customized.broughtTo k).broughtTo versions.length).tables table =
      Ddl.rowsOf d.tables table := by
  have hmem : table ∈ [Identifier.server, .setting, .folder, .filetype] := by
    revert table
    decide
  have hserver : Identifier.server ≠ table := by
    rintro rfl
    revert htable
    decide
  have hcustomized : Ddl.rowsOf d.customized.tables table = Ddl.rowsOf d.tables table :=
    (Ddl.rowsOf_updated _ _ _ _ _ _).trans (if_neg hserver)
  have hself : (Ddl.rowsOf d.tables table).map
      (Ddl.refit (definitionOf versions.length table).columns) = Ddl.rowsOf d.tables table := by
    rw [← rowsOf_broughtTo (by decide) le_rfl d hmem, h.broughtTo_self (by decide)]
  rw [rowsOf_rolledBack hk hlt d hmem, definitionOf_newest hk hlt.le htable, hcustomized, hself,
    hself]

lemma rolledBack (h : d.Holds s) (hk : k ≠ 0) (hlt : k < versions.length) :
    DbFile.Holds ((d.customized.broughtTo k).broughtTo versions.length) (s.rolledBack k) := by
  obtain ⟨-, hat, -⟩ := h.newest.downgradeTo_eq inPlace hk hlt
  obtain ⟨-, hnewest, -⟩ := hat.initDb_eq inPlace
  have hmem : Identifier.filetype ∈ [Identifier.setting, .filetype] := by decide
  have hfiletypes := rowsOf_same h.newest hk hlt hmem
  constructor
  case newest => exact hnewest
  case servers =>
    have hcustomized : Ddl.rowsOf d.customized.tables .server =
        (Ddl.rowsOf d.tables .server).map
          (Ddl.assign .webhookPayloadPreset generatorPreset (.text "custom".toList)) :=
      Ddl.rowsOf_updated _ _ _ _ _ _
    rw [rowsOf_rolledBack hk hlt d (by decide), hcustomized, h.servers, Store.rolledBack]
    simp only [List.map_map]
    exact List.map_congr_left fun row _ => row.cells_rolledBack hk hlt
  case folders =>
    have hcustomized : Ddl.rowsOf d.customized.tables .folder = Ddl.rowsOf d.tables .folder :=
      Ddl.rowsOf_updated _ _ _ _ _ _
    rw [rowsOf_rolledBack hk hlt d (by decide), hcustomized, h.folders, Store.rolledBack]
    simp only [List.map_map]
    exact List.map_congr_left fun folder _ => folder.cells_rolledBack hk hlt
  case filetypes =>
    intro folder hfolder
    obtain ⟨old, hold, rfl⟩ := List.mem_map.1 hfolder
    rw [hfiletypes]
    exact h.filetypes old hold
  case owned =>
    intro row hrow
    rw [hfiletypes] at hrow
    obtain ⟨folder, hfolder, hin⟩ := h.owned row hrow
    exact ⟨folder.rolledBack k, List.mem_map_of_mem hfolder, hin⟩

end DbFile.Holds

/-- Every database of the repository can be in a file. A start leaves such a file as it is; a
downgrade and the next start lose what the older revision has no place for, and nothing else. -/
theorem rolled_back (copies copies' : List (Ddl.Change Identifier ColumnType SqlValue) → Bool)
    (db : Database) :
    (∃ d : DbFile, d.Holds db.toStore) ∧
    ∀ d : DbFile, d.Holds db.toStore →
      initDb copies d = some d ∧
      ∀ k, k ≠ 0 → k < versions.length → ∃ d' d'',
        downgradeTo copies' k d = some d' ∧ initDb copies d' = some d'' ∧
        d''.Holds (db.toStore.rolledBack k) ∧
        Ddl.rowsOf d''.tables .setting = Ddl.rowsOf d.tables .setting := by
  refine ⟨⟨_, Store.holds_file db.keyed⟩, fun d h => ⟨?_, fun k hk hlt => ?_⟩⟩
  · have hstart := (h.newest.initDb_eq copies).1
    rw [if_pos (h.intact db.keyed), h.newest.broughtTo_self (by decide)] at hstart
    exact hstart
  · have hi := h.intact db.keyed
    obtain ⟨hdown, hat, hintact⟩ := h.newest.downgradeTo_eq copies' hk hlt
    rw [if_pos hi] at hdown
    have hstart := (hat.initDb_eq copies).1
    rw [if_pos (hintact.trans hi)] at hstart
    exact ⟨_, _, hdown, hstart, h.rolledBack hk hlt,
      DbFile.Holds.rowsOf_same h.newest hk hlt (by decide)⟩

/-- A webhook with the newest preset, and a folder. -/
def generatorDatabase : Database where
  servers :=
    [{ id := 1
       name := "previews".toList
       type := .webhook
       baseUrl := "http://previews".toList
       secretEncrypted := none
       scanMode := .targeted
       debounceMode := .trailing
       debounceWindowSeconds := 30
       retryAttempts := 3
       enabled := true
       webhookMethod := none
       webhookHeadersJson := none
       webhookBodyTemplate := none
       webhookPayloadPreset := .mediaPreviewGenerator
       eventTypes := "created".toList
       verifyTls := true
       timeoutSeconds := 10 }]
  folders :=
    [{ serverId := 1
       path := "/media/tv".toList
       libraryId := none
       enabled := true
       filetypes := ["mkv".toList, "mp4".toList]
       id := 1
       libraryName := none }]
  keyed := ⟨by decide, by decide, by decide⟩

theorem rolled_back_generator : ∃ d d' d'' : DbFile, d.Holds generatorDatabase.toStore ∧
    downgradeTo inPlace 4 d = some d' ∧ initDb inPlace d' = some d'' ∧
    Ddl.rowsOf d''.tables .folder = Ddl.rowsOf d.tables .folder ∧
    (Ddl.rowsOf d''.tables .server).map (fun row => Ddl.cell row .webhookPayloadPreset) =
      [some (.text "custom".toList)] := by
  obtain ⟨⟨d, hd⟩, hall⟩ := rolled_back inPlace inPlace generatorDatabase
  obtain ⟨d', d'', hdown, hstart, hholds, -⟩ := (hall d hd).2 4 (by decide) (by decide)
  refine ⟨d, d', d'', hd, hdown, hstart, hholds.folders.trans hd.folders.symm, ?_⟩
  rw [hholds.servers]
  rfl

end MediaScanMonitor
