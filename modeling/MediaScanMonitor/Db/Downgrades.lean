import MediaScanMonitor.Db.Migrations
import Mathlib.Tactic.IntervalCases

/-!
# Downgrades

The way back from the newest revision, through the same environment: which databases an upgrade and
a downgrade leave as they were.
-/

namespace MediaScanMonitor
open Text

def Migration.revert (copies : List (Ddl.Change Identifier ColumnType SqlValue) → Bool)
    (enforce : Bool) (d : DbFile) (m : Migration) : Option DbFile :=
  (m.downgrade.foldlM (Ddl.Statement.run copies enforce) d.tables).map fun tables =>
    ⟨m.downRevision, tables⟩

/-- The migrations up to a revision. -/
def applied (version : Option Str) : List Migration :=
  versions.takeWhile fun m => m.downRevision ≠ version

/-- A downgrade to the `k`-th revision, through the same environment. -/
def downgradeTo (copies : List (Ddl.Change Identifier ColumnType SqlValue) → Bool) (k : Nat)
    (d : DbFile) : Option DbFile :=
  (((applied d.version).drop k).reverse.foldlM (Migration.revert copies false) d).bind
    assertForeignKeysIntact

/-- The preset of the last revision. -/
def generatorPreset : SqlValue :=
  .text "media_preview_generator".toList

/-- Servers with the preset that the last revision has added fall back to their own template. -/
def DbFile.customized (d : DbFile) : DbFile :=
  { d with
    tables := Ddl.updated d.tables .server .webhookPayloadPreset generatorPreset
      (.text "custom".toList) }

variable {copies : List (Ddl.Change Identifier ColumnType SqlValue) → Bool} {d d' : DbFile}
  {k n : Nat}

lemma downgradeTo_copies (copies) (k : Nat) (d : DbFile) :
    downgradeTo copies k d = downgradeTo inPlace k d := by
  have hrun : Ddl.Statement.run copies false = Ddl.Statement.run inPlace false :=
    funext₂ (Ddl.Statement.run_off copies inPlace)
  unfold downgradeTo Migration.revert
  rw [hrun]

/-- The statements of a downgrade to the `k`-th revision but for the first, which is the UPDATE. -/
def reverting (k : Nat) : List (Ddl.Statement Identifier ColumnType SqlValue) :=
  ((versions.drop k).reverse.flatMap Migration.downgrade).tail

/-- What these statements make of the tables of the newest revision. -/
structure Reverts (k : Nat) : Prop where
  first : (versions.drop k).reverse.flatMap Migration.downgrade =
    .update .server .webhookPayloadPreset generatorPreset (.text "custom".toList) :: reverting k
  run : (reverting k).foldlM (Ddl.Statement.run inPlace false) (blank versions.length).tables =
    some (blank k).tables
  version (before : Option Str) :
    (((versions.drop k).reverse.getLast?.map Migration.downRevision).getD before) =
      (blank k).version
  reshapes : ∀ s ∈ reverting k, s.Reshapes (Ddl.tableNames (blank versions.length).tables)
  fresh : ∀ t ∈ (blank versions.length).tables, (t.2.names ++ ((reverting k).flatMap
    (Ddl.Statement.changes t.1)).flatMap Ddl.Change.added).Nodup

lemma reverts (hk : k ≠ 0) (hlt : k < versions.length) : Reverts k := by
  have hk : 1 ≤ k := Nat.one_le_iff_ne_zero.2 hk
  have hlt : k < 5 := hlt
  interval_cases k <;> exact ⟨rfl, rfl, fun _ => rfl, by decide, by decide⟩

namespace AtRevision

lemma customized (h : AtRevision versions.length d) :
    AtRevision versions.length d.customized ∧
      List.Forall₂ Ddl.Kept d.tables d.customized.tables := by
  refine ⟨⟨le_rfl, h.version, (Ddl.bare_updated _ _ _ _ _).trans h.tables, ?_⟩, ?_⟩
  · intro t ht row hrow
    obtain ⟨u, hu, rfl⟩ := List.mem_map.1 ht
    dsimp only at hrow ⊢
    split at hrow
    · next htable =>
      rw [if_pos htable]
      obtain ⟨old, hold, rfl⟩ := List.mem_map.1 hrow
      exact Ddl.fits_assign (h.fits u hu old hold)
    · next htable =>
      rw [if_neg htable]
      exact h.fits u hu row hrow
  · apply Ddl.updated_kept
    intro t ht htable
    have hkeys : ∀ t ∈ (blank versions.length).tables, t.1 = .server →
        t.2.primaryKey ≠ .webhookPayloadPreset ∧
          ∀ r ∈ t.2.references, r.column ≠ .webhookPayloadPreset := by decide
    exact hkeys (t.1, ⟨t.2.toDefinition, []⟩) (h.mem_blank ht) htable

/-- What a downgrade makes of a database at the newest revision. -/
lemma downgradeTo_eq (copies : List (Ddl.Change Identifier ColumnType SqlValue) → Bool)
    (h : AtRevision versions.length d) (hk : k ≠ 0) (hlt : k < versions.length) :
    downgradeTo copies k d =
        (if Ddl.intact d.tables then some (d.customized.broughtTo k) else none) ∧
      AtRevision k (d.customized.broughtTo k) ∧
      Ddl.intact (d.customized.broughtTo k).tables = Ddl.intact d.tables := by
  have hr := reverts hk hlt
  obtain ⟨hc, hkept⟩ := h.customized
  have hrun := hr.run
  rw [← hc.tables] at hrun
  obtain ⟨hrun, hkept', hfits⟩ := Ddl.foldlM_run_fill (hc.names ▸ by decide)
    (fun t ht => by
      have hsound : ∀ t ∈ (blank versions.length).tables, t.2.Sound := by decide
      exact hsound (t.1, ⟨t.2.toDefinition, []⟩) (hc.mem_blank ht)) hc.fits
    (hc.names ▸ hr.reshapes)
    (fun t ht => hr.fresh (t.1, ⟨t.2.toDefinition, []⟩) (hc.mem_blank ht)) hrun
  have hintact : Ddl.intact (d.customized.broughtTo k).tables = Ddl.intact d.tables :=
    (Ddl.intact_kept hkept').trans (Ddl.intact_kept hkept)
  refine ⟨?_, ⟨hlt.le, rfl, (Ddl.bare_fill _ _).trans (bare_blank hlt.le), hfits⟩, hintact⟩
  have hserver : Identifier.server ∈ Ddl.tableNames d.tables := by
    rw [h.names]
    decide
  have hrevert : (versions.drop k).reverse.foldlM (Migration.revert inPlace false) d =
      some (d.customized.broughtTo k) := by
    refine (foldlM_statements Migration.downRevision Migration.downgrade _ d).trans ?_
    rw [hr.first, List.foldlM_cons, Ddl.run_update hserver, hr.version]
    exact congrArg (Option.map _) hrun
  have happlied : applied d.version = versions := by
    rw [h.version]
    rfl
  rw [downgradeTo_copies]
  unfold downgradeTo assertForeignKeysIntact
  rw [happlied, hrevert, Option.bind_some, hintact]

end AtRevision

/-- The newest revision has all columns of the earlier ones. -/
lemma newest_columns (hk : k ≤ versions.length)
    {t : Identifier × Ddl.Table Identifier ColumnType SqlValue} (ht : t ∈ (blank k).tables) :
    ∃ u, (blank versions.length).tables.lookup t.1 = some u ∧ u.names.Nodup ∧
      ∀ c ∈ t.2.columns, c.name ∈ u.names := by
  have hk : k ≤ 5 := hk
  have hall : ∀ t ∈ (blank k).tables, ((blank versions.length).tables.lookup t.1).any
      (fun u => u.names.Nodup ∧ ∀ c ∈ t.2.columns, c.name ∈ u.names) = true := by
    interval_cases k <;> decide
  obtain ⟨u, hu, hcolumns⟩ := (Option.any_eq_true _ _).1 (hall t ht)
  exact ⟨u, hu, of_decide_eq_true hcolumns⟩

namespace AtRevision

/-- The row fits this table. -/
lemma fits_of_mem (h : AtRevision k d) (hk : k ≠ 0)
    {t : Identifier × Ddl.Table Identifier ColumnType SqlValue} (ht : t ∈ (blank k).tables)
    {row : Ddl.Row Identifier SqlValue} (hrow : row ∈ Ddl.rowsOf d.tables t.1) :
    Ddl.Fits t.2.toDefinition row := by
  obtain ⟨u, hu, hname, hfits⟩ := h.fits_rowsOf hrow
  have hnodup := (migrates hk le_rfl h.known).nodup
  have hlookup := Ddl.lookup_of_mem hnodup hu
  rw [hname, Ddl.lookup_of_mem hnodup ht] at hlookup
  rw [Option.some.inj hlookup]
  exact hfits

/-- What a row of an earlier revision is after an upgrade and a downgrade. -/
lemma refit_newest (h : AtRevision k d) (hk : k ≠ 0)
    {t : Identifier × Ddl.Table Identifier ColumnType SqlValue} (ht : t ∈ (blank k).tables)
    {u : Ddl.Table Identifier ColumnType SqlValue} (hu : u.names.Nodup)
    (hsub : ∀ c ∈ t.2.columns, c.name ∈ u.names) :
    ∀ row ∈ Ddl.rowsOf d.tables t.1, Ddl.refit t.2.columns (Ddl.refit u.columns row) =
      Ddl.refit t.2.columns row := by
  intro row hrow
  have hfits := h.fits_of_mem hk ht hrow
  exact Ddl.refit_refit hu hsub fun c hc => hfits.names ▸ List.mem_map_of_mem hc

end AtRevision

/-- The value of a preset is what it was, or that of a new column. -/
lemma cell_newest_preset (row : Ddl.Row Identifier SqlValue) :
    Ddl.cell (Ddl.refit (definitionOf versions.length .server).columns row) .webhookPayloadPreset =
        some generatorPreset ↔
      Ddl.cell row .webhookPayloadPreset = some generatorPreset := by
  have hnodup : (definitionOf versions.length .server).names.Nodup := by decide
  have hcolumn : (⟨.webhookPayloadPreset, newPresets, false, some (.text "custom".toList)⟩ :
      Ddl.Column Identifier ColumnType SqlValue) ∈
        (definitionOf versions.length .server).columns := by decide
  by_cases hr : Identifier.webhookPayloadPreset ∈ row.map Prod.fst
  · rw [Ddl.cell_refit hnodup (List.mem_map_of_mem hcolumn) hr]
  · rw [Ddl.cell_refit_default hnodup hcolumn hr]
    have hnone : Ddl.cell row .webhookPayloadPreset = none := by
      unfold Ddl.cell
      rw [of_not_not fun hne => hr (Ddl.lookup_ne_none.1 hne)]
      rfl
    rw [hnone]
    decide

/-- A server survives an upgrade and a downgrade exactly if it does not have the preset. -/
lemma AtRevision.server_restored (h : AtRevision k d) (hk : k ≠ 0)
    {t : Ddl.Table Identifier ColumnType SqlValue} (ht : (Identifier.server, t) ∈ (blank k).tables)
    (hsub : ∀ c ∈ t.columns, c.name ∈ (definitionOf versions.length .server).names)
    {row : Ddl.Row Identifier SqlValue} (hrow : row ∈ Ddl.rowsOf d.tables .server) :
    Ddl.refit t.columns (Ddl.assign .webhookPayloadPreset generatorPreset
        (.text "custom".toList) (Ddl.refit (definitionOf versions.length .server).columns row)) =
      Ddl.refit t.columns row ↔
        Ddl.cell row .webhookPayloadPreset ≠ some generatorPreset := by
  have hnodup : (definitionOf versions.length .server).names.Nodup := by decide
  have hfits := h.fits_of_mem hk ht hrow
  constructor
  · intro heq hpreset
    have hr : Identifier.webhookPayloadPreset ∈ row.map Prod.fst := by
      by_contra hr
      unfold Ddl.cell at hpreset
      rw [of_not_not fun hne => hr (Ddl.lookup_ne_none.1 hne)] at hpreset
      cases hpreset
    have ht' : Identifier.webhookPayloadPreset ∈ t.names := hfits.names ▸ hr
    have hsound := (migrates hk le_rfl h.known).sound _ ht
    have hcell := congrArg (fun row => Ddl.cell row .webhookPayloadPreset) heq
    rw [Ddl.cell_refit hsound.nodup ht' hr, Ddl.cell_refit hsound.nodup ht', Ddl.cell_assign,
      (cell_newest_preset row).2 hpreset, hpreset] at hcell
    · revert hcell
      decide
    · rw [Ddl.assign_names, Ddl.refit_names]
      decide
  · intro hpreset
    have hnames : ((Ddl.refit (definitionOf versions.length .server).columns row).map
        Prod.fst).Nodup := by
      rw [Ddl.refit_names]
      exact hnodup
    rw [Ddl.assign_of_ne hnames (mt (cell_newest_preset row).1 hpreset)]
    exact Ddl.refit_refit hnodup hsub fun c hc => hfits.names ▸ List.mem_map_of_mem hc

/-- What it takes to be brought to a given database. -/
lemma AtRevision.broughtTo_eq_iff (h : AtRevision k d) (hk : k ≠ 0) (d' : DbFile) :
    d'.broughtTo k = d ↔ ∀ t ∈ (blank k).tables,
      (Ddl.rowsOf d'.tables t.1).map (Ddl.refit t.2.columns) =
        (Ddl.rowsOf d.tables t.1).map (Ddl.refit t.2.columns) := by
  have hself := h.broughtTo_self hk
  constructor
  · intro heq t ht
    have hlookup := Ddl.lookup_of_mem (migrates hk le_rfl h.known).nodup ht
    rw [← Ddl.rowsOf_fill hlookup, ← Ddl.rowsOf_fill hlookup]
    exact congrArg (fun d => Ddl.rowsOf d.tables t.1) (heq.trans hself.symm)
  · intro hall
    have hfill : Ddl.fill d'.tables (blank k).tables = Ddl.fill d.tables (blank k).tables :=
      List.map_congr_left fun t ht => by rw [hall t ht]
    exact (congrArg (DbFile.mk (blank k).version) hfill).trans hself

/-- The rows of a table after the upgrade and the UPDATE. -/
lemma rowsOf_customized (d : DbFile) {table : Identifier}
    {u : Ddl.Table Identifier ColumnType SqlValue}
    (hu : (blank versions.length).tables.lookup table = some u) :
    Ddl.rowsOf (d.broughtTo versions.length).customized.tables table =
      if Identifier.server = table then (Ddl.rowsOf d.tables table).map fun row =>
        Ddl.assign .webhookPayloadPreset generatorPreset (.text "custom".toList)
          (Ddl.refit u.columns row)
      else (Ddl.rowsOf d.tables table).map (Ddl.refit u.columns) := by
  have hrows : Ddl.rowsOf (d.broughtTo versions.length).tables table =
      (Ddl.rowsOf d.tables table).map (Ddl.refit u.columns) := Ddl.rowsOf_fill hu d.tables
  refine (Ddl.rowsOf_updated _ _ _ _ _ _).trans ?_
  rw [hrows, List.map_map]
  rfl

/-- An upgrade and the downgrade after it give back the same database, exactly if no server has the
preset of the last revision. -/
lemma AtRevision.customized_broughtTo (h : AtRevision k d) (hk : k ≠ 0) :
    (d.broughtTo versions.length).customized.broughtTo k = d ↔
      ∀ row ∈ Ddl.rowsOf d.tables .server,
        Ddl.cell row .webhookPayloadPreset ≠ some generatorPreset := by
  rw [h.broughtTo_eq_iff hk]
  constructor
  · intro hall row hrow
    obtain ⟨⟨table, t⟩, ht, rfl, -⟩ := h.fits_rowsOf hrow
    obtain ⟨u, hu, -, hsub⟩ := newest_columns h.known ht
    have hrows := hall _ ht
    rw [rowsOf_customized d hu, if_pos rfl, List.map_map, List.map_inj_left] at hrows
    obtain rfl := Option.some.inj hu
    exact (h.server_restored hk ht hsub hrow).1 (hrows row hrow)
  · intro hall t ht
    obtain ⟨u, hu, hcolumns, hsub⟩ := newest_columns h.known ht
    rw [rowsOf_customized d hu]
    split
    · next hname =>
      obtain ⟨table, t⟩ := t
      obtain rfl : table = .server := hname.symm
      obtain rfl := Option.some.inj hu
      rw [List.map_map]
      apply List.map_congr_left
      intro row hrow
      exact (h.server_restored hk ht hsub hrow).2 (hall row hrow)
    · rw [List.map_map]
      exact List.map_congr_left (h.refit_newest hk ht hcolumns hsub)

/-- A downgrade from the newest revision goes through exactly if no foreign key dangles, and leaves
a database of the older revision. After an upgrade it restores the database, exactly if no server
had the preset that only the newest revision knows. -/
theorem upgrade_undone (copies copies' : List (Ddl.Change Identifier ColumnType SqlValue) → Bool)
    (hk : k ≠ 0) (hlt : k < versions.length) :
    (∀ d, AtRevision versions.length d →
      downgradeTo copies' k d =
          (if Ddl.intact d.tables then some (d.customized.broughtTo k) else none) ∧
        AtRevision k (d.customized.broughtTo k)) ∧
    ∀ d d', AtRevision k d → initDb copies d = some d' →
      (downgradeTo copies' k d' = some d ↔ ∀ row ∈ Ddl.rowsOf d.tables .server,
        Ddl.cell row .webhookPayloadPreset ≠ some generatorPreset) := by
  constructor
  · intro d h
    obtain ⟨heq, hat, -⟩ := h.downgradeTo_eq copies' hk hlt
    exact ⟨heq, hat⟩
  · intro d d' h hd'
    obtain ⟨heq, hat, hintact⟩ := h.initDb_eq copies
    rw [heq] at hd'
    split at hd'
    · next hi =>
      cases hd'
      rw [(hat.downgradeTo_eq copies' hk hlt).1, if_pos (hintact.trans hi), Option.some.injEq]
      exact h.customized_broughtTo hk
    · cases hd'

theorem upgrade_undone_first : (1 ≠ 0 ∧ 1 < versions.length ∧ AtRevision 1 firstDb) ∧
    ∃ d', initDb inPlace firstDb = some d' ∧ downgradeTo inPlace 1 d' = some firstDb := by
  have hd' : initDb inPlace firstDb = some (firstDb.broughtTo versions.length) :=
    (atRevision_firstDb.initDb_eq inPlace).1.trans (if_pos (by decide))
  obtain ⟨-, hundone⟩ := upgrade_undone inPlace inPlace (k := 1) (by decide) (by decide)
  have hpresets : ∀ row ∈ Ddl.rowsOf firstDb.tables .server,
      Ddl.cell row .webhookPayloadPreset ≠ some generatorPreset := by decide
  exact ⟨⟨by decide, by decide, atRevision_firstDb⟩, _, hd',
    (hundone _ _ atRevision_firstDb hd').2 hpresets⟩

end MediaScanMonitor
