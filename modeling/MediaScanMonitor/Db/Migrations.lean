import MediaScanMonitor.Db.Models
import MediaScanMonitor.Lib.Ddl
import Mathlib.Tactic.IntervalCases

/-!
# Migrations

The revisions of `migrations/versions`, and `env.py` around them: every start brings the database
to the newest one, on a connection that does not enforce foreign keys, and checks them afterwards.

Which batches Alembic does on a copy, among those that ALTER TABLE could do, is left open.
-/

namespace MediaScanMonitor
open Text

/-- The names in the schema. -/
inductive Identifier
  | server
  | setting
  | folder
  | filetype
  | id
  | name
  | type
  | baseUrl
  | verifyTls
  | timeoutSeconds
  | secretEncrypted
  | scanMode
  | debounceMode
  | debounceWindowSeconds
  | retryAttempts
  | enabled
  | webhookMethod
  | webhookHeadersJson
  | webhookBodyTemplate
  | webhookPayloadPreset
  | eventTypes
  | key
  | value
  | serverId
  | path
  | libraryId
  | libraryName
  | folderId
  | extension
  | ixServerName
  | ixFolderServerId
  | ixFiletypeFolderId
deriving DecidableEq

inductive ColumnType
  | integer
  | autoString
  | boolean
  | float
  | enum (members : List Str)
deriving DecidableEq

/-- A value that is not NULL. -/
inductive SqlValue
  | integer (n : Int)
  | real (q : ℚ)
  | text (s : Str)
deriving DecidableEq

/-- A file of `migrations/versions`. -/
structure Migration where
  revision : Str
  downRevision : Option Str
  upgrade : List (Ddl.Statement Identifier ColumnType SqlValue)
  downgrade : List (Ddl.Statement Identifier ColumnType SqlValue)

/-- `sa.Column` without a default. -/
def column (identifier : Identifier) (type : ColumnType) (nullable : Bool) :
    Ddl.Column Identifier ColumnType SqlValue :=
  ⟨identifier, type, nullable, none⟩

def serverTable : Ddl.Definition Identifier ColumnType SqlValue where
  columns :=
    [column .id .integer false,
      column .name .autoString false,
      column .type (.enum ["webhook".toList, "plex".toList, "emby".toList, "jellyfin".toList,
        "audiobookshelf".toList]) false,
      column .baseUrl .autoString false,
      column .verifyTls .boolean false,
      column .timeoutSeconds .float false,
      column .secretEncrypted .autoString true,
      column .scanMode (.enum ["targeted".toList, "library".toList]) false,
      column .debounceMode (.enum ["off".toList, "trailing".toList]) false,
      column .debounceWindowSeconds .integer false,
      column .retryAttempts .integer false,
      column .enabled .boolean false,
      column .webhookMethod .autoString true,
      column .webhookHeadersJson .autoString true,
      column .webhookBodyTemplate .autoString true]
  primaryKey := .id
  references := []
  indexes := []

def settingTable : Ddl.Definition Identifier ColumnType SqlValue where
  columns := [column .key .autoString false, column .value .autoString false]
  primaryKey := .key
  references := []
  indexes := []

def folderTable : Ddl.Definition Identifier ColumnType SqlValue where
  columns :=
    [column .id .integer false,
      column .serverId .integer false,
      column .path .autoString false,
      column .libraryId .autoString true,
      column .enabled .boolean false]
  primaryKey := .id
  references := [⟨.serverId, .server⟩]
  indexes := []

def filetypeTable : Ddl.Definition Identifier ColumnType SqlValue where
  columns :=
    [column .id .integer false,
      column .folderId .integer false,
      column .extension .autoString false]
  primaryKey := .id
  references := [⟨.folderId, .folder⟩]
  indexes := []

def initialSchema : Migration where
  revision := "0001".toList
  downRevision := none
  upgrade :=
    [.createTable .server serverTable,
      .batch .server [.createIndex ⟨.ixServerName, [.name], true⟩],
      .createTable .setting settingTable,
      .createTable .folder folderTable,
      .batch .folder [.createIndex ⟨.ixFolderServerId, [.serverId], false⟩],
      .createTable .filetype filetypeTable,
      .batch .filetype [.createIndex ⟨.ixFiletypeFolderId, [.folderId], false⟩]]
  downgrade :=
    [.batch .filetype [.dropIndex .ixFiletypeFolderId],
      .dropTable .filetype,
      .batch .folder [.dropIndex .ixFolderServerId],
      .dropTable .folder,
      .dropTable .setting,
      .batch .server [.dropIndex .ixServerName],
      .dropTable .server]

def folderLibraryName : Migration where
  revision := "0002".toList
  downRevision := some "0001".toList
  upgrade := [.batch .folder [.addColumn (column .libraryName .autoString true)]]
  downgrade := [.batch .folder [.dropColumn .libraryName]]

/-- The members of `webhookpreset` before and since the last revision. -/
def oldPresets : ColumnType :=
  .enum ["custom".toList, "sonarr_radarr".toList]

def newPresets : ColumnType :=
  .enum ["custom".toList, "sonarr_radarr".toList, "media_preview_generator".toList]

def webhookPayloadPreset : Migration where
  revision := "0003".toList
  downRevision := some "0002".toList
  upgrade :=
    [.batch .server
      [.addColumn ⟨.webhookPayloadPreset, oldPresets, false, some (.text "custom".toList)⟩]]
  downgrade := [.batch .server [.dropColumn .webhookPayloadPreset]]

def serverEventTypes : Migration where
  revision := "0004".toList
  downRevision := some "0003".toList
  upgrade :=
    [.batch .server
      [.addColumn ⟨.eventTypes, .autoString, false,
        some (.text "created,moved_to,deleted,moved_from".toList)⟩]]
  downgrade := [.batch .server [.dropColumn .eventTypes]]

def webhookPresetMediaPreviewGenerator : Migration where
  revision := "0005".toList
  downRevision := some "0004".toList
  upgrade := [.batch .server [.alterType .webhookPayloadPreset newPresets]]
  downgrade :=
    [.update .server .webhookPayloadPreset (.text "media_preview_generator".toList)
        (.text "custom".toList),
      .batch .server [.alterType .webhookPayloadPreset oldPresets]]

def versions : List Migration :=
  [initialSchema, folderLibraryName, webhookPayloadPreset, serverEventTypes,
    webhookPresetMediaPreviewGenerator]

/-- The database file. -/
structure DbFile where
  /-- What `alembic_version` holds. -/
  version : Option Str
  tables : Ddl.Tables Identifier ColumnType SqlValue

/-- The migrations that follow a revision up to `head`; `none` is the `CommandError` for a revision
that is not there. -/
def pendingMigrations (version : Option Str) : Option (List Migration) :=
  if version = none ∨ version ∈ versions.map fun m => some m.revision then
    some (versions.dropWhile fun m => m.downRevision ≠ version)
  else none

section Environment
variable (copies : List (Ddl.Change Identifier ColumnType SqlValue) → Bool) (enforce : Bool)

def Migration.run (d : DbFile) (m : Migration) : Option DbFile :=
  (m.upgrade.foldlM (Ddl.Statement.run copies enforce) d.tables).map fun tables =>
    ⟨some m.revision, tables⟩

/-- `_assert_foreign_keys_intact`; `none` is its exception. -/
def assertForeignKeysIntact (d : DbFile) : Option DbFile :=
  if Ddl.intact d.tables then some d else none

/-- `run_migrations_online`; `none` is an exception, whatever has been committed before it. -/
def runMigrationsOnline (d : DbFile) : Option DbFile :=
  (pendingMigrations d.version).bind fun migrations =>
    (migrations.foldlM (Migration.run copies enforce) d).bind assertForeignKeysIntact

/-- `init_db`; `_disable_sqlite_fk` has foreign keys off. -/
def initDb (d : DbFile) : Option DbFile :=
  runMigrationsOnline copies false d

end Environment

/-- Alembic's own choice: a copy only where there is no ALTER TABLE. -/
def inPlace : List (Ddl.Change Identifier ColumnType SqlValue) → Bool :=
  fun _ => false

/-- The empty database that the first `k` migrations make. -/
def blank (k : Nat) : DbFile :=
  ((versions.take k).foldlM (Migration.run inPlace false) ⟨none, []⟩).getD ⟨none, []⟩

/-- The database is at the `k`-th revision: it has its tables, and the rows fit them. -/
structure AtRevision (k : Nat) (d : DbFile) : Prop where
  known : k ≤ versions.length
  version : d.version = (blank k).version
  tables : Ddl.bare d.tables = (blank k).tables
  fits : ∀ t ∈ d.tables, ∀ row ∈ t.2.rows, Ddl.Fits t.2.toDefinition row

/-- The rows of a database in the tables of the `n`-th revision. -/
def DbFile.broughtTo (n : Nat) (d : DbFile) : DbFile :=
  ⟨(blank n).version, Ddl.fill d.tables (blank n).tables⟩

/-- What the `n`-th revision has for a table. -/
def definitionOf (n : Nat) (table : Identifier) : Ddl.Definition Identifier ColumnType SqlValue :=
  ((blank n).tables.lookup table).elim serverTable Ddl.Table.toDefinition

/-- The tables of the fourth revision with these rows. -/
def fourthTables (servers settings folders filetypes : List (Ddl.Row Identifier SqlValue)) :
    Ddl.Tables Identifier ColumnType SqlValue :=
  [(.server, ⟨definitionOf 4 .server, servers⟩), (.setting, ⟨definitionOf 4 .setting, settings⟩),
    (.folder, ⟨definitionOf 4 .folder, folders⟩),
    (.filetype, ⟨definitionOf 4 .filetype, filetypes⟩)]

/-- The migrations from the `k`-th revision to the `n`-th. -/
def between (k n : Nat) : List Migration :=
  (versions.take n).drop k

variable {copies : List (Ddl.Change Identifier ColumnType SqlValue) → Bool} {enforce : Bool}
  {d d' : DbFile} {k n : Nat}

lemma initDb_copies (copies) (d : DbFile) : initDb copies d = initDb inPlace d := by
  have hrun : Ddl.Statement.run copies false = Ddl.Statement.run inPlace false :=
    funext₂ (Ddl.Statement.run_off copies inPlace)
  unfold initDb runMigrationsOnline Migration.run
  rw [hrun]

/-- The statements of some migrations as one list. -/
lemma foldlM_statements (version : Migration → Option Str)
    (statements : Migration → List (Ddl.Statement Identifier ColumnType SqlValue))
    (ms : List Migration) (d : DbFile) :
    ms.foldlM (fun d m =>
        ((statements m).foldlM (Ddl.Statement.run copies enforce) d.tables).map fun tables =>
          (⟨version m, tables⟩ : DbFile)) d =
      ((ms.flatMap statements).foldlM (Ddl.Statement.run copies enforce) d.tables).map
        fun tables => ⟨(ms.getLast?.map version).getD d.version, tables⟩ := by
  induction ms generalizing d with
  | nil => rfl
  | cons m ms ih =>
    have hlast : ((m :: ms).getLast?.map version).getD d.version =
        (ms.getLast?.map version).getD (version m) := by
      rw [List.getLast?_cons]
      cases ms.getLast? with
      | none => rfl
      | some last => rfl
    rw [List.foldlM_cons, List.flatMap_cons, List.foldlM_append, hlast]
    cases (statements m).foldlM (Ddl.Statement.run copies enforce) d.tables with
    | none => rfl
    | some tables => exact ih ⟨version m, tables⟩

lemma foldlM_run (ms : List Migration) (d : DbFile) :
    ms.foldlM (Migration.run copies enforce) d =
      ((ms.flatMap Migration.upgrade).foldlM (Ddl.Statement.run copies enforce) d.tables).map
        fun tables => ⟨(ms.getLast?.map fun m => some m.revision).getD d.version, tables⟩ :=
  foldlM_statements (fun m => some m.revision) Migration.upgrade ms d

lemma bare_blank (h : n ≤ versions.length) : Ddl.bare (blank n).tables = (blank n).tables := by
  have h : n ≤ 5 := h
  interval_cases n <;> rfl

/-- What the tables of the `k`-th revision have, and the statements from there to the `n`-th. -/
structure Migrates (k n : Nat) : Prop where
  run : ((between k n).flatMap Migration.upgrade).foldlM (Ddl.Statement.run inPlace false)
    (blank k).tables = some (blank n).tables
  version : (((between k n).getLast?.map fun m => some m.revision).getD (blank k).version) =
    (blank n).version
  nodup : (Ddl.tableNames (blank k).tables).Nodup
  sound : ∀ t ∈ (blank k).tables, t.2.Sound
  reshapes : ∀ s ∈ (between k n).flatMap Migration.upgrade,
    s.Reshapes (Ddl.tableNames (blank k).tables)
  fresh : ∀ t ∈ (blank k).tables, (t.2.names ++ (((between k n).flatMap
    Migration.upgrade).flatMap (Ddl.Statement.changes t.1)).flatMap Ddl.Change.added).Nodup

lemma pending_blank (h : k ≤ versions.length) :
    pendingMigrations (blank k).version = some (between k versions.length) := by
  have h : k ≤ 5 := h
  interval_cases k <;> rfl

lemma migrates (hk : k ≠ 0) (hkn : k ≤ n) (hn : n ≤ versions.length) : Migrates k n := by
  have hk : 1 ≤ k := Nat.one_le_iff_ne_zero.2 hk
  have hn : n ≤ 5 := hn
  interval_cases n <;> interval_cases k <;>
    exact ⟨rfl, rfl, by decide, by decide, by decide, by decide⟩

namespace AtRevision

/-- The database is empty before the first revision. -/
lemma eq_empty (h : AtRevision 0 d) : d = ⟨none, []⟩ := by
  obtain ⟨version, tables⟩ := d
  have hversion : version = none := h.version
  have htables : Ddl.bare tables = [] := h.tables
  rw [hversion, List.map_eq_nil_iff.1 htables]

lemma names (h : AtRevision k d) : Ddl.tableNames d.tables = Ddl.tableNames (blank k).tables := by
  rw [← h.tables, Ddl.tableNames_bare]

/-- The table of the revision behind a table. -/
lemma mem_blank (h : AtRevision k d) {t : Identifier × Ddl.Table Identifier ColumnType SqlValue}
    (ht : t ∈ d.tables) : (t.1, ⟨t.2.toDefinition, []⟩) ∈ (blank k).tables := by
  rw [← h.tables]
  exact List.mem_map.2 ⟨t, ht, rfl⟩

/-- Migrations take a database with tables from one revision to another. -/
lemma migrate (h : AtRevision k d) (hk : k ≠ 0) (hkn : k ≤ n) (hn : n ≤ versions.length) :
    (between k n).foldlM (Migration.run inPlace false) d = some (d.broughtTo n) ∧
      AtRevision n (d.broughtTo n) ∧
      Ddl.intact (d.broughtTo n).tables = Ddl.intact d.tables := by
  have hm := migrates hk hkn hn
  have hrun := hm.run
  rw [← h.tables] at hrun
  obtain ⟨hrun, hkept, hfits⟩ := Ddl.foldlM_run_fill (h.names ▸ hm.nodup)
    (fun t ht => hm.sound (t.1, ⟨t.2.toDefinition, []⟩) (h.mem_blank ht)) h.fits
    (h.names ▸ hm.reshapes)
    (fun t ht => hm.fresh (t.1, ⟨t.2.toDefinition, []⟩) (h.mem_blank ht)) hrun
  refine ⟨?_, ⟨hn, rfl, (Ddl.bare_fill _ _).trans (bare_blank hn), hfits⟩, Ddl.intact_kept hkept⟩
  rw [foldlM_run, hrun, Option.map_some, h.version, hm.version]
  rfl

/-- What `init_db` makes of a database at one of the revisions. -/
lemma initDb_eq (copies : List (Ddl.Change Identifier ColumnType SqlValue) → Bool)
    (h : AtRevision k d) :
    initDb copies d =
        (if Ddl.intact d.tables then some (d.broughtTo versions.length) else none) ∧
      AtRevision versions.length (d.broughtTo versions.length) ∧
      Ddl.intact (d.broughtTo versions.length).tables = Ddl.intact d.tables := by
  rw [initDb_copies]
  by_cases hk : k = 0
  · subst hk
    rw [h.eq_empty]
    refine ⟨rfl, ⟨le_rfl, rfl, rfl, fun t ht row hrow => ?_⟩, rfl⟩
    have hrows : ∀ t ∈ (DbFile.broughtTo versions.length ⟨none, []⟩).tables, t.2.rows = [] := by
      decide
    rw [hrows t ht] at hrow
    cases hrow
  · obtain ⟨hrun, hat, hintact⟩ := h.migrate hk h.known le_rfl
    refine ⟨?_, hat, hintact⟩
    unfold initDb runMigrationsOnline assertForeignKeysIntact
    rw [h.version, pending_blank h.known, Option.bind_some, hrun, Option.bind_some, hintact]

/-- A database that is at the revision already stays as it is. -/
lemma broughtTo_self (h : AtRevision k d) (hk : k ≠ 0) : d.broughtTo k = d := by
  obtain ⟨hrun, -, -⟩ := h.migrate hk le_rfl h.known
  have hnone : between k k = [] := List.drop_eq_nil_of_le (List.length_take_le _ _)
  rw [hnone] at hrun
  exact (Option.some.inj hrun).symm

/-- A row fits the table of the revision. -/
lemma fits_rowsOf (h : AtRevision k d) {table : Identifier} {row : Ddl.Row Identifier SqlValue}
    (hrow : row ∈ Ddl.rowsOf d.tables table) :
    ∃ t ∈ (blank k).tables, t.1 = table ∧ Ddl.Fits t.2.toDefinition row := by
  unfold Ddl.rowsOf at hrow
  cases ht : d.tables.lookup table with
  | none =>
    rw [ht] at hrow
    cases hrow
  | some t =>
    rw [ht] at hrow
    have hmem := Ddl.mem_of_lookup ht
    exact ⟨_, h.mem_blank hmem, rfl, h.fits _ hmem row hrow⟩

/-- A column that a revision does not have gets its default. -/
lemma cell_added (h : AtRevision k d) {table : Identifier}
    {t : Ddl.Table Identifier ColumnType SqlValue}
    (ht : (blank n).tables.lookup table = some t) (hn : t.names.Nodup)
    {c : Ddl.Column Identifier ColumnType SqlValue} (hc : c ∈ t.columns)
    (hnew : ∀ t ∈ (blank k).tables, t.1 = table → c.name ∉ t.2.names) :
    ∀ row ∈ Ddl.rowsOf (d.broughtTo n).tables table, Ddl.cell row c.name = c.serverDefault := by
  intro row hrow
  have hrows : Ddl.rowsOf (d.broughtTo n).tables table =
      (Ddl.rowsOf d.tables table).map (Ddl.refit t.columns) := Ddl.rowsOf_fill ht d.tables
  rw [hrows] at hrow
  obtain ⟨old, hold, rfl⟩ := List.mem_map.1 hrow
  obtain ⟨u, hu, htable, hfits⟩ := h.fits_rowsOf hold
  exact Ddl.cell_refit_default hn hc (hfits.names ▸ hnew u hu htable)

/-- The tables before the last migration. -/
lemma shape (h : AtRevision 4 d) : ∃ servers settings folders filetypes,
    d.tables = fourthTables servers settings folders filetypes := by
  rw [← h.broughtTo_self (by decide)]
  exact ⟨_, _, _, _, rfl⟩

end AtRevision

section Enforced
variable {servers settings folders filetypes : List (Ddl.Row Identifier SqlValue)}

/-- Every folder depends on the servers. -/
lemma folder_depends
    (hi : Ddl.intact (fourthTables servers settings folders filetypes) = true)
    (hfits : ∀ row ∈ folders, Ddl.Fits (definitionOf 4 .folder) row) (depth : Nat) :
    ∀ row ∈ folders, Ddl.depends (fourthTables servers settings folders filetypes) .server
      (depth + 1) (definitionOf 4 .folder) row = true := by
  intro row hrow
  have hmem : (Identifier.folder, (⟨definitionOf 4 .folder, folders⟩ : Ddl.Table _ _ _)) ∈
      fourthTables servers settings folders filetypes := .tail _ (.tail _ (.head _))
  have hcolumn : column .serverId .integer false ∈ (definitionOf 4 .folder).columns := by decide
  have hreference : ⟨.serverId, .server⟩ ∈ (definitionOf 4 .folder).references := by decide
  exact Ddl.depends_of_refers hi hmem hrow hreference ((hfits row hrow).values _ hcolumn rfl)
    (.inl rfl)

/-- Every extension depends on a folder, and so on the servers. -/
lemma filetype_depends
    (hi : Ddl.intact (fourthTables servers settings folders filetypes) = true)
    (hfolders : ∀ row ∈ folders, Ddl.Fits (definitionOf 4 .folder) row)
    (hfits : ∀ row ∈ filetypes, Ddl.Fits (definitionOf 4 .filetype) row) (depth : Nat) :
    ∀ row ∈ filetypes, Ddl.depends (fourthTables servers settings folders filetypes) .server
      (depth + 2) (definitionOf 4 .filetype) row = true := by
  intro row hrow
  have hmem : (Identifier.filetype, (⟨definitionOf 4 .filetype, filetypes⟩ : Ddl.Table _ _ _)) ∈
      fourthTables servers settings folders filetypes := .tail _ (.tail _ (.tail _ (.head _)))
  have hcolumn : column .folderId .integer false ∈ (definitionOf 4 .filetype).columns := by decide
  have hreference : ⟨.folderId, .folder⟩ ∈ (definitionOf 4 .filetype).references := by decide
  exact Ddl.depends_of_refers hi hmem hrow hreference ((hfits row hrow).values _ hcolumn rfl)
    (.inr ⟨_, rfl, folder_depends hi hfolders depth⟩)

/-- With the servers go all folders and extensions. -/
lemma vacate_server
    (hi : Ddl.intact (fourthTables servers settings folders filetypes) = true)
    (hfolders : ∀ row ∈ folders, Ddl.Fits (definitionOf 4 .folder) row)
    (hfiletypes : ∀ row ∈ filetypes, Ddl.Fits (definitionOf 4 .filetype) row) :
    Ddl.vacate true (fourthTables servers settings folders filetypes) .server =
      fourthTables servers settings [] [] := by
  have hsettings : (settings.filter fun row => ¬ Ddl.depends
      (fourthTables servers settings folders filetypes) .server 4 (definitionOf 4 .setting) row) =
      settings := List.filter_eq_self.2 fun row _ => rfl
  have hfolder : (folders.filter fun row => ¬ Ddl.depends
      (fourthTables servers settings folders filetypes) .server 4 (definitionOf 4 .folder) row) =
      [] := by
    rw [List.filter_eq_nil_iff]
    intro row hrow
    rw [folder_depends hi hfolders 3 row hrow]
    decide
  have hfiletype : (filetypes.filter fun row => ¬ Ddl.depends
      (fourthTables servers settings folders filetypes) .server 4 (definitionOf 4 .filetype) row) =
      [] := by
    rw [List.filter_eq_nil_iff]
    intro row hrow
    rw [filetype_depends hi hfolders hfiletypes 2 row hrow]
    decide
  calc Ddl.vacate true (fourthTables servers settings folders filetypes) .server
      = fourthTables servers
          (settings.filter fun row => ¬ Ddl.depends
            (fourthTables servers settings folders filetypes) .server 4
            (definitionOf 4 .setting) row)
          (folders.filter fun row => ¬ Ddl.depends
            (fourthTables servers settings folders filetypes) .server 4
            (definitionOf 4 .folder) row)
          (filetypes.filter fun row => ¬ Ddl.depends
            (fourthTables servers settings folders filetypes) .server 4
            (definitionOf 4 .filetype) row) := rfl
    _ = fourthTables servers settings [] [] := by rw [hsettings, hfolder, hfiletype]

end Enforced

/-- Where foreign keys are enforced, the last migration leaves no folder. -/
lemma AtRevision.last_enforced (h : AtRevision 4 d) (hi : Ddl.intact d.tables = true) :
    ∃ d', Migration.run inPlace true d webhookPresetMediaPreviewGenerator = some d' ∧
      Ddl.intact d'.tables = true ∧
      Ddl.rowsOf d'.tables .server = Ddl.rowsOf (d.broughtTo versions.length).tables .server ∧
      Ddl.rowsOf d'.tables .folder = [] ∧ Ddl.rowsOf d'.tables .filetype = [] := by
  obtain ⟨hrun, -, -⟩ := h.migrate (by decide) h.known le_rfl
  obtain ⟨servers, settings, folders, filetypes, hshape⟩ := h.shape
  have hfits := h.fits
  obtain ⟨version, tables⟩ := d
  obtain rfl : tables = _ := hshape
  have hvacate := vacate_server hi (hfits _ (.tail _ (.tail _ (.head _))))
    (hfits _ (.tail _ (.tail _ (.tail _ (.head _)))))
  have hstep : Migration.run inPlace true ⟨version, fourthTables servers settings folders filetypes⟩
      webhookPresetMediaPreviewGenerator = ((Ddl.Statement.alterAll
        (Ddl.vacate true (fourthTables servers settings folders filetypes) .server)
        (.batch .server [.alterType .webhookPayloadPreset newPresets])).bind some).map
          fun tables => ⟨some "0005".toList, tables⟩ := rfl
  rw [hvacate] at hstep
  have hservers := congrArg (Option.map fun d => Ddl.rowsOf d.tables .server) hrun
  refine ⟨_, hstep.trans rfl, ?_, Option.some.inj hservers, rfl, rfl⟩
  apply Ddl.intact_of_nil
  intro t ht
  cases ht with
  | head => exact .inl rfl
  | tail _ ht =>
    cases ht with
    | head => exact .inl rfl
    | tail _ ht =>
      cases ht with
      | head => exact .inr rfl
      | tail _ ht =>
        cases ht with
        | head => exact .inr rfl
        | tail _ ht => cases ht

/-- The same for the whole upgrade from an earlier revision. -/
lemma AtRevision.upgrade_enforced (h : AtRevision k d) (hk : k ≠ 0) (hle : k < versions.length)
    (hi : Ddl.intact d.tables = true) : ∃ d', runMigrationsOnline inPlace true d = some d' ∧
      Ddl.rowsOf d'.tables .server = Ddl.rowsOf (d.broughtTo versions.length).tables .server ∧
      Ddl.rowsOf d'.tables .folder = [] ∧ Ddl.rowsOf d'.tables .filetype = [] := by
  have hle : k ≤ 4 := Nat.le_of_lt_succ hle
  obtain ⟨hfourth, hat, hintact⟩ := h.migrate hk hle (by decide)
  obtain ⟨hrun, -, -⟩ := h.migrate hk h.known le_rfl
  obtain ⟨hrest, -, -⟩ := hat.migrate (by decide) hat.known le_rfl
  obtain ⟨d', hlast, hi', hservers, hfolders, hfiletypes⟩ := hat.last_enforced (hintact.trans hi)
  have hsplit : between k versions.length = between k 4 ++ between 4 versions.length := by
    interval_cases k <;> rfl
  have hbrought : (d.broughtTo 4).broughtTo versions.length = d.broughtTo versions.length := by
    rw [hsplit, List.foldlM_append, hfourth] at hrun
    exact Option.some.inj (hrest.symm.trans hrun)
  -- up to the fourth revision nothing is dropped
  have hdrops : ∀ s ∈ (between k 4).flatMap Migration.upgrade, s.drops inPlace = false := by
    interval_cases k <;> decide
  have hfourth : (between k 4).foldlM (Migration.run inPlace true) d = some (d.broughtTo 4) := by
    rw [foldlM_run, Ddl.Statement.foldlM_run_of_drops hdrops, ← foldlM_run]
    exact hfourth
  refine ⟨d', ?_, hbrought ▸ hservers, hfolders, hfiletypes⟩
  unfold runMigrationsOnline
  rw [h.version, pending_blank h.known, Option.bind_some, hsplit, List.foldlM_append, hfourth]
  show ((Migration.run inPlace true (d.broughtTo 4) webhookPresetMediaPreviewGenerator).bind
    some).bind assertForeignKeysIntact = some d'
  rw [hlast]
  exact if_pos hi'

/-- A server that is older than the column for the event types gets all of them. -/
lemma AtRevision.event_types (h : AtRevision k d) (hk : k < 4) :
    ∀ row ∈ Ddl.rowsOf (d.broughtTo versions.length).tables .server,
      Ddl.cell row .eventTypes = some (.text (serializeEventTypes FsEventType.all)) :=
  h.cell_added (c := ⟨.eventTypes, .autoString, false,
      some (.text "created,moved_to,deleted,moved_from".toList)⟩) rfl (by decide) (by decide)
    (by interval_cases k <;> decide)

/-- A server that is older than the column for the preset keeps its own template. -/
lemma AtRevision.preset (h : AtRevision k d) (hk : k < 3) :
    ∀ row ∈ Ddl.rowsOf (d.broughtTo versions.length).tables .server,
      Ddl.cell row .webhookPayloadPreset = some (.text "custom".toList) :=
  h.cell_added (c := ⟨.webhookPayloadPreset, newPresets, false, some (.text "custom".toList)⟩) rfl
    (by decide) (by decide) (by interval_cases k <;> decide)

/-- `init_db` brings a database from any revision to the newest one with all of its rows, or raises:
exactly if a foreign key dangles. With foreign keys enforced, every folder would be gone. -/
theorem init_db_upgrades (copies : List (Ddl.Change Identifier ColumnType SqlValue) → Bool)
    (h : AtRevision k d) :
    initDb copies d =
        (if Ddl.intact d.tables then some (d.broughtTo versions.length) else none) ∧
      AtRevision versions.length (d.broughtTo versions.length) ∧
      (∀ d', initDb copies d = some d' → initDb copies d' = some d') ∧
      (k < 4 → ∀ row ∈ Ddl.rowsOf (d.broughtTo versions.length).tables .server,
        Ddl.cell row .eventTypes = some (.text (serializeEventTypes FsEventType.all))) ∧
      (k < 3 → ∀ row ∈ Ddl.rowsOf (d.broughtTo versions.length).tables .server,
        Ddl.cell row .webhookPayloadPreset = some (.text "custom".toList)) ∧
      (k ≠ 0 → k < versions.length → Ddl.intact d.tables = true →
        ∃ d', runMigrationsOnline inPlace true d = some d' ∧
          Ddl.rowsOf d'.tables .server =
            Ddl.rowsOf (d.broughtTo versions.length).tables .server ∧
          Ddl.rowsOf d'.tables .folder = [] ∧ Ddl.rowsOf d'.tables .filetype = []) := by
  obtain ⟨heq, hat, hintact⟩ := h.initDb_eq copies
  refine ⟨heq, hat, ?_, h.event_types, h.preset, fun hk hle hi => h.upgrade_enforced hk hle hi⟩
  intro d' hd'
  rw [heq] at hd'
  split at hd'
  · next hi =>
    cases hd'
    rw [(hat.initDb_eq copies).1, if_pos (hintact.trans hi), hat.broughtTo_self (by decide)]
  · cases hd'

/-- One server with a folder and an extension, as the first revision stored them. -/
def firstDb : DbFile where
  version := some "0001".toList
  tables :=
    [(.server, ⟨definitionOf 1 .server,
      [[(.id, some (.integer 1)), (.name, some (.text "plex".toList)),
        (.type, some (.text "plex".toList)), (.baseUrl, some (.text "http://plex".toList)),
        (.verifyTls, some (.integer 1)), (.timeoutSeconds, some (.real 10)),
        (.secretEncrypted, none), (.scanMode, some (.text "targeted".toList)),
        (.debounceMode, some (.text "trailing".toList)),
        (.debounceWindowSeconds, some (.integer 30)), (.retryAttempts, some (.integer 3)),
        (.enabled, some (.integer 1)), (.webhookMethod, none), (.webhookHeadersJson, none),
        (.webhookBodyTemplate, none)]]⟩),
      (.setting, ⟨definitionOf 1 .setting, []⟩),
      (.folder, ⟨definitionOf 1 .folder,
        [[(.id, some (.integer 1)), (.serverId, some (.integer 1)),
          (.path, some (.text "/media/tv".toList)), (.libraryId, none),
          (.enabled, some (.integer 1))]]⟩),
      (.filetype, ⟨definitionOf 1 .filetype,
        [[(.id, some (.integer 1)), (.folderId, some (.integer 1)),
          (.extension, some (.text "mkv".toList))]]⟩)]

lemma atRevision_firstDb : AtRevision 1 firstDb :=
  ⟨by decide, rfl, rfl, by decide⟩

theorem init_db_upgrades_first : AtRevision 1 firstDb ∧
    initDb inPlace firstDb = some (firstDb.broughtTo versions.length) ∧
    (Ddl.rowsOf (firstDb.broughtTo versions.length).tables .folder).length = 1 ∧
    ∃ d', runMigrationsOnline inPlace true firstDb = some d' ∧
      Ddl.rowsOf d'.tables .folder = [] := by
  have hi : Ddl.intact firstDb.tables = true := by decide
  obtain ⟨heq, -, -, -, -, henforced⟩ := init_db_upgrades inPlace atRevision_firstDb
  obtain ⟨d', hd', -, hfolders, -⟩ := henforced (by decide) (by decide) hi
  exact ⟨atRevision_firstDb, heq.trans (if_pos hi), rfl, d', hd', hfolders⟩

end MediaScanMonitor
