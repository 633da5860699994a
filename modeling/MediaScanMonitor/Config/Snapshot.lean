import MediaScanMonitor.Config.Content
import MediaScanMonitor.Db.Folders
import MediaScanMonitor.Engine.Writes

/-!
# A configuration and the states of the database

One run of `build_runtime_config` beside the writes of the repository. Each read is a session of its
own, first the servers and then the folders of one server after the other, and any number of
transactions may be committed before, between and after them.

The configuration is that of one committed state if there is a moment such that what is committed
before it leaves alone what has been read, and what is committed after it what is still to be read.
-/

namespace MediaScanMonitor
open Text Transition

/-- A committed state of all tables. -/
structure Tables extends Store where
  settings : List (Str × Str)

/-- A transaction of the repository. -/
inductive Commit
  | write (w : RepoWrite)
  /-- `set_setting`. -/
  | setSetting (key value : Str)

/-- The rows that `list_servers(enabled_only=True)` returns. -/
def Store.enabledServers (s : Store) : List ServerRow :=
  s.servers.filter fun row => row.enabled

namespace Tables

/-- What `build_runtime_config` reads of the tables. -/
def db (t : Tables) : Db := t.toDb t.settings

/-- The state that a transaction leaves. -/
def commit (lower : Str → Str) (box : SecretBox) (t : Tables) : Commit → Tables
  | .write w => { t with toStore := t.write box lower w }
  | .setSetting key value => { t with settings := (t.db.setSetting key value).settings }

end Tables

/-- The reader of the configuration. It does not measure the watch limit. -/
def reader (lower : Str → Str) (box : SecretBox) : Platform := ⟨lower, box.decrypt, fun _ _ => true⟩

/-- Where the run is. -/
inductive Phase
  | reading (r : Reading)
  | returned (config : RuntimeConfig)
  | raised

/-- One run of `build_runtime_config`, and the database. -/
structure Building where
  tables : Tables
  /-- The states since the run began, the latest one first. -/
  states : List Tables
  /-- The rows that `list_servers` has returned. -/
  listed : List ServerRow
  /-- The servers whose folders have been read. -/
  past : List Server
  phase : Phase

namespace Building

/-- `build_runtime_config` is called. -/
def begin (t : Tables) : Building := ⟨t, [t], [], [], .reading .servers⟩

/-- Keep what a read returns. -/
def note (s : Building) : Reading → Building
  | .servers => { s with listed := s.tables.enabledServers }
  | .folders [] _ => s
  | .folders (server :: _) _ => { s with past := s.past ++ [server] }

inductive Act
  /-- The builder goes on to its next read, or returns. -/
  | read
  /-- A transaction is committed. -/
  | commit (c : Commit)

variable (lower : Str → Str) (box : SecretBox)

/-- The interval ends with the run. -/
def step (s : Building) (a : Act) : Option Building :=
  match s.phase with
  | .reading r =>
    match a with
    | .read =>
      match Engine.readStep (reader lower box) s.tables.db r with
      | none => some { s with phase := .raised }
      | some (.inl r') => some { s.note r with phase := .reading r' }
      | some (.inr config) => some { s with phase := .returned config }
    | .commit c =>
      let t := s.tables.commit lower box c
      some { s with tables := t, states := t :: s.states }
  | _ => none

/-- A transaction leaves alone what has been read: the list of enabled servers, and the enabled
folders of those that are done. -/
def KeepsRead (s : Building) : Act → Prop
  | .read => True
  | .commit c =>
    match s.phase with
    | .reading (.folders _ _) =>
      (s.tables.commit lower box c).enabledServers = s.tables.enabledServers ∧
        ∀ server ∈ s.past, (s.tables.commit lower box c).db.enabledFolders server.id =
          s.tables.db.enabledFolders server.id
    | _ => True

/-- A transaction leaves alone what is still to be read: the list of enabled servers and the enabled
folders of each, or of those that are left. -/
def KeepsUnread (s : Building) : Act → Prop
  | .read => True
  | .commit c =>
    match s.phase with
    | .reading .servers =>
      (s.tables.commit lower box c).enabledServers = s.tables.enabledServers ∧
        ∀ server ∈ s.tables.db.listServers true,
          (s.tables.commit lower box c).db.enabledFolders server.id =
            s.tables.db.enabledFolders server.id
    | .reading (.folders rest _) =>
      ∀ server ∈ rest, (s.tables.commit lower box c).db.enabledFolders server.id =
        s.tables.db.enabledFolders server.id
    | _ => True

instance (s : Building) (a : Act) : Decidable (KeepsRead lower box s a) := by
  unfold KeepsRead
  split
  · infer_instance
  · split <;> infer_instance

instance (s : Building) (a : Act) : Decidable (KeepsUnread lower box s a) := by
  unfold KeepsUnread
  split
  · infer_instance
  · split <;> infer_instance

/-- All of a configuration comes from one state of the interval. -/
structure Snapshot (s : Building) (config : RuntimeConfig) (t : Tables) : Prop where
  committed : t ∈ s.states
  built : buildRuntimeConfig lower box.decrypt t.db = some config
  /-- The rows were those of this state, also in the columns that the configuration of an adapter
  does not show. -/
  rows : s.listed = t.enabledServers
  routes : config.routes = (t.db.listServers true).flatMap (Server.routes lower t.db)

end Building

/-! ## Steps -/

variable {lower : Str → Str} {box : SecretBox} {db db' : Db}

/-- The list is one of the rows. -/
lemma Tables.listServers_db {t t' : Tables} (h : t.enabledServers = t'.enabledServers) :
    t.db.listServers true = t'.db.listServers true := by
  have hrows : ∀ t : Tables, t.db.listServers true = t.enabledServers.map ServerRow.toServer :=
    fun t => List.filter_map
  rw [hrows, hrows, h]

/-- A round of the loop uses the enabled folders only. -/
lemma RuntimeConfig.addServer_congr {decrypt : Str → Option Str} (config : RuntimeConfig)
    {server : Server} (h : db.enabledFolders server.id = db'.enabledFolders server.id) :
    config.addServer lower decrypt server (db.listFolders server.id) =
      config.addServer lower decrypt server (db'.listFolders server.id) := by
  unfold Db.enabledFolders at h
  unfold addServer
  rw [h]

/-- The loop over a list of servers. -/
def RuntimeConfig.addServers (lower : Str → Str) (decrypt : Str → Option Str) (db : Db)
    (config : RuntimeConfig) (servers : List Server) : Option RuntimeConfig :=
  servers.foldlM
    (fun config server => config.addServer lower decrypt server (db.listFolders server.id)) config

lemma buildRuntimeConfig_eq (decrypt : Str → Option Str) (db : Db) :
    buildRuntimeConfig lower decrypt db =
      RuntimeConfig.empty.addServers lower decrypt db (db.listServers true) := rfl

lemma RuntimeConfig.addServers_append (decrypt : Str → Option Str) (db : Db)
    (config : RuntimeConfig) (servers rest : List Server) :
    config.addServers lower decrypt db (servers ++ rest) =
      (config.addServers lower decrypt db servers).bind fun config =>
        config.addServers lower decrypt db rest :=
  List.foldlM_append

lemma RuntimeConfig.addServers_singleton (decrypt : Str → Option Str) (db : Db)
    (config : RuntimeConfig) (server : Server) :
    config.addServers lower decrypt db [server] =
      config.addServer lower decrypt server (db.listFolders server.id) := by
  unfold addServers
  rw [List.foldlM_cons]
  cases config.addServer lower decrypt server (db.listFolders server.id) <;> rfl

/-- The servers of a list are read alike from both. -/
lemma RuntimeConfig.addServers_congr {decrypt : Str → Option Str} {servers : List Server}
    (h : ∀ server ∈ servers, db.enabledFolders server.id = db'.enabledFolders server.id)
    (config : RuntimeConfig) :
    config.addServers lower decrypt db servers = config.addServers lower decrypt db' servers := by
  unfold addServers
  induction servers generalizing config with
  | nil => rfl
  | cons server rest ih =>
    have hrest := ih fun x hx => h x (List.mem_cons_of_mem _ hx)
    rw [List.foldlM_cons, List.foldlM_cons,
      RuntimeConfig.addServer_congr config (h server List.mem_cons_self)]
    congr 1
    funext config'
    exact hrest config'

namespace Building
variable {s s' : Building} {a : Act}

/-- What a step does. -/
inductive StepCase (lower : Str → Str) (box : SecretBox) (s : Building) : Act → Building → Prop
  | commit (c : Commit) (r : Reading) : s.phase = .reading r →
      StepCase lower box s (.commit c)
        { s with
          tables := s.tables.commit lower box c
          states := s.tables.commit lower box c :: s.states }
  | list : s.phase = .reading .servers →
      StepCase lower box s .read
        { s with
          listed := s.tables.enabledServers
          phase := .reading (.folders (s.tables.db.listServers true) .empty) }
  | round (server : Server) (rest : List Server) (config config' : RuntimeConfig) :
      s.phase = .reading (.folders (server :: rest) config) →
      config.addServer lower box.decrypt server (s.tables.db.listFolders server.id) = some config' →
      StepCase lower box s .read
        { s with past := s.past ++ [server], phase := .reading (.folders rest config') }
  | raise (r : Reading) : s.phase = .reading r →
      StepCase lower box s .read { s with phase := .raised }
  | return_ (config : RuntimeConfig) : s.phase = .reading (.folders [] config) →
      StepCase lower box s .read { s with phase := .returned config }

lemma step_cases (h : step lower box s a = some s') : StepCase lower box s a s' := by
  unfold step at h
  split at h
  · next r hr =>
    cases a with
    | commit c =>
      cases h
      exact .commit c r hr
    | read =>
      cases r with
      | servers =>
        cases h
        exact .list hr
      | folders rest config =>
        cases rest with
        | nil =>
          cases h
          exact .return_ config hr
        | cons server rest =>
          simp only [Engine.readStep] at h
          cases hadd : config.addServer lower box.decrypt server
              (s.tables.db.listFolders server.id) with
          | none =>
            rw [show config.addServer (reader lower box).lower (reader lower box).decrypt server
              (s.tables.db.listFolders server.id) = none from hadd] at h
            cases h
            exact .raise _ hr
          | some config' =>
            rw [show config.addServer (reader lower box).lower (reader lower box).decrypt server
              (s.tables.db.listFolders server.id) = some config' from hadd] at h
            cases h
            exact .round server rest config config' hr hadd
  · cases h

/-- Up to the moment, what has been read is what the tables have. -/
structure Before (lower : Str → Str) (box : SecretBox) (s : Building) : Prop where
  committed : s.tables ∈ s.states
  fresh : s.phase = .reading .servers → s.past = []
  rounds : ∀ rest config, s.phase = .reading (.folders rest config) →
    s.listed = s.tables.enabledServers ∧ s.tables.db.listServers true = s.past ++ rest ∧
      RuntimeConfig.empty.addServers lower box.decrypt s.tables.db s.past = some config
  done : ∀ config, s.phase = .returned config →
    s.listed = s.tables.enabledServers ∧
      buildRuntimeConfig lower box.decrypt s.tables.db = some config

/-- From the moment on, what is read are the tables `t`. -/
structure After (lower : Str → Str) (box : SecretBox) (t : Tables) (s : Building) : Prop where
  committed : t ∈ s.states
  fresh : s.phase = .reading .servers → s.tables.enabledServers = t.enabledServers ∧
    ∀ server ∈ t.db.listServers true,
      s.tables.db.enabledFolders server.id = t.db.enabledFolders server.id
  rounds : ∀ rest config, s.phase = .reading (.folders rest config) →
    s.listed = t.enabledServers ∧
      (∀ server ∈ rest, s.tables.db.enabledFolders server.id = t.db.enabledFolders server.id) ∧
      (Reading.folders rest config).Of (reader lower box) t.db
  done : ∀ config, s.phase = .returned config →
    s.listed = t.enabledServers ∧ buildRuntimeConfig lower box.decrypt t.db = some config

lemma before_begin (t : Tables) : Before lower box (begin t) :=
  ⟨List.mem_singleton_self t, fun _ => rfl, nofun, nofun⟩

/-- By what the step reads or commits. -/
lemma Before.step (h : Before lower box s) (hg : KeepsRead lower box s a)
    (hs : step lower box s a = some s') : Before lower box s' := by
  cases step_cases hs with
  | commit c r hr =>
    refine ⟨List.mem_cons_self, h.fresh, fun rest config hp => ?_, fun config hp => ?_⟩
    · obtain ⟨hlisted, hsplit, hfold⟩ := h.rounds rest config hp
      have hp' : s.phase = .reading (.folders rest config) := hp
      unfold KeepsRead at hg
      simp only [hp'] at hg
      refine ⟨hlisted.trans hg.1.symm, ?_, ?_⟩
      · exact (Tables.listServers_db hg.1).trans hsplit
      · exact (RuntimeConfig.addServers_congr hg.2 .empty).trans hfold
    · rw [hr] at hp
      cases hp
  | list hr =>
    refine ⟨h.committed, nofun, fun rest config hp => ?_, nofun⟩
    cases hp
    have hpast : s.past = [] := h.fresh hr
    refine ⟨rfl, ?_, ?_⟩
    · show _ = s.past ++ _
      rw [hpast]
      rfl
    · show RuntimeConfig.empty.addServers lower box.decrypt s.tables.db s.past = _
      rw [hpast]
      rfl
  | round server rest config config' hr hadd =>
    obtain ⟨hlisted, hsplit, hfold⟩ := h.rounds _ _ hr
    refine ⟨h.committed, nofun, fun rest' config'' hp => ?_, nofun⟩
    cases hp
    refine ⟨hlisted, ?_, ?_⟩
    · rw [hsplit]
      show _ = (s.past ++ [server]) ++ rest
      rw [List.append_assoc]
      rfl
    · show RuntimeConfig.empty.addServers lower box.decrypt s.tables.db (s.past ++ [server]) = _
      rw [RuntimeConfig.addServers_append, hfold, Option.bind_some,
        RuntimeConfig.addServers_singleton]
      exact hadd
  | raise r hr => exact ⟨h.committed, nofun, nofun, nofun⟩
  | return_ config hr =>
    obtain ⟨hlisted, hsplit, hfold⟩ := h.rounds _ _ hr
    refine ⟨h.committed, nofun, nofun, fun config' hp => ?_⟩
    cases hp
    refine ⟨hlisted, ?_⟩
    rw [List.append_nil] at hsplit
    rw [buildRuntimeConfig_eq]
    show RuntimeConfig.empty.addServers lower box.decrypt s.tables.db
      (s.tables.db.listServers true) = _
    rw [hsplit]
    exact hfold

/-- At the moment the rest of what is read are its tables. -/
lemma Before.after (h : Before lower box s) : After lower box s.tables s := by
  refine ⟨h.committed, fun _ => ⟨rfl, fun _ _ => rfl⟩, fun rest config hp => ?_, h.done⟩
  obtain ⟨hlisted, hsplit, hfold⟩ := h.rounds rest config hp
  refine ⟨hlisted, fun _ _ => rfl, ?_⟩
  show config.addServers lower box.decrypt s.tables.db rest =
    RuntimeConfig.empty.addServers lower box.decrypt s.tables.db (s.tables.db.listServers true)
  rw [hsplit, RuntimeConfig.addServers_append, hfold]
  rfl

lemma After.step {t : Tables} (h : After lower box t s) (hg : KeepsUnread lower box s a)
    (hs : step lower box s a = some s') : After lower box t s' := by
  cases step_cases hs with
  | commit c r hr =>
    unfold KeepsUnread at hg
    refine ⟨List.mem_cons_of_mem _ h.committed, fun hp => ?_, fun rest config hp => ?_,
      fun config hp => ?_⟩
    · have hp' : s.phase = .reading .servers := hp
      obtain ⟨hlist, hfolders⟩ := h.fresh hp'
      simp only [hp'] at hg
      refine ⟨hg.1.trans hlist, fun server hx => ?_⟩
      rw [← Tables.listServers_db hlist] at hx
      refine (hg.2 server hx).trans (hfolders server ?_)
      rw [← Tables.listServers_db hlist]
      exact hx
    · have hp' : s.phase = .reading (.folders rest config) := hp
      obtain ⟨hlisted, hfolders, hof⟩ := h.rounds rest config hp'
      simp only [hp'] at hg
      exact ⟨hlisted, fun server hx => (hg server hx).trans (hfolders server hx), hof⟩
    · rw [hr] at hp
      cases hp
  | list hr =>
    obtain ⟨hlist, hfolders⟩ := h.fresh hr
    refine ⟨h.committed, nofun, fun rest config hp => ?_, nofun⟩
    cases hp
    refine ⟨hlist, fun server hx => ?_, ?_⟩
    · rw [Tables.listServers_db hlist] at hx
      exact hfolders server hx
    · show RuntimeConfig.empty.addServers lower box.decrypt t.db (s.tables.db.listServers true) = _
      rw [Tables.listServers_db hlist]
      rfl
  | round server rest config config' hr hadd =>
    obtain ⟨hlisted, hfolders, hof⟩ := h.rounds _ _ hr
    refine ⟨h.committed, nofun, fun rest' config'' hp => ?_, nofun⟩
    cases hp
    refine ⟨hlisted, fun x hx => hfolders x (List.mem_cons_of_mem _ hx), ?_⟩
    -- the same read, of `t`
    have hread : Engine.readStep (reader lower box) t.db (.folders (server :: rest) config) =
        some (.inl (.folders rest config')) := by
      have hadd' : config.addServer lower box.decrypt server (t.db.listFolders server.id) =
          some config' := by
        rw [← RuntimeConfig.addServer_congr config (hfolders server List.mem_cons_self)]
        exact hadd
      unfold Engine.readStep
      show Option.map _ (config.addServer lower box.decrypt server _) = _
      rw [hadd']
      rfl
    exact hof.step hread
  | raise r hr => exact ⟨h.committed, nofun, nofun, nofun⟩
  | return_ config hr =>
    obtain ⟨hlisted, -, hof⟩ := h.rounds _ _ hr
    refine ⟨h.committed, nofun, nofun, fun config' hp => ?_⟩
    cases hp
    exact ⟨hlisted, hof.symm⟩

/-- If the transactions before a moment of the run leave alone what has been read, and those after it
what is still to be read, the configuration is that of the state at the moment. -/
theorem snapshot_of_moment {t : Tables} {u : Building} {config : RuntimeConfig}
    (hbefore : Reach (step lower box) (KeepsRead lower box) (begin t) u)
    (hafter : Reach (step lower box) (KeepsUnread lower box) u s)
    (hreturned : s.phase = .returned config) : Snapshot lower box s config u.tables := by
  have hu : Before lower box u :=
    hbefore.invariant (before_begin t) fun h hg hs => h.step hg hs
  have hs : After lower box u.tables s :=
    hafter.invariant hu.after fun h hg hs => h.step hg hs
  obtain ⟨hlisted, hbuilt⟩ := hs.done config hreturned
  refine ⟨hs.committed, hbuilt, hlisted, ?_⟩
  have hroutes := (buildRuntimeConfig_has hbuilt).routes
  rw [hroutes]
  rfl

/-- A Plex server that is told which items of `/m` to scan, in library 1. -/
def plexTables : Tables where
  servers := [⟨⟨1, "plex".toList, .plex, "http://plex".toList, none, .targeted, .trailing, 30, 3,
    true, none, none, none, .custom, "created".toList⟩, true, 10⟩]
  folders := [⟨⟨1, "/m".toList, some "1".toList, true, []⟩, 1, none⟩]
  settings := []

lemma no_name (name : Str) (h : name ∈ (none : Option Str)) : strip name ≠ [] := by
  cases h

/-- The server is to scan all of library 2, which is in `/n`. -/
def toLibrary : Commit :=
  .write (.updateServerWithFolders [] 1 { scanMode := some .library, name_not_blank := no_name }
    [{ path := "/n".toList, libraryId := some "2".toList, absolute := rfl }])

/-- The tables after it. -/
def movedTables : Tables := plexTables.commit lowerAscii .clear toLibrary

/-- A write before the servers are listed, and one after the folders of the last are. -/
theorem snapshot_of_moment_run : ∃ u s config,
    run (guarded (step lowerAscii .clear) (KeepsRead lowerAscii .clear)) (begin plexTables)
        [.commit toLibrary] = some u ∧
      run (guarded (step lowerAscii .clear) (KeepsUnread lowerAscii .clear)) u
        [.read, .read, .commit (.write (.deleteServer 1)), .read] = some s ∧
      s.phase = .returned config ∧ Snapshot lowerAscii .clear s config u.tables := by
  have hbefore : run (guarded (step lowerAscii .clear) (KeepsRead lowerAscii .clear))
      (begin plexTables) [.commit toLibrary] =
        some ⟨movedTables, [movedTables, plexTables], [], [], .reading .servers⟩ := rfl
  have hafter : run (guarded (step lowerAscii .clear) (KeepsUnread lowerAscii .clear))
      ⟨movedTables, [movedTables, plexTables], [], [], .reading .servers⟩
      [.read, .read, .commit (.write (.deleteServer 1)), .read] = some _ := rfl
  exact ⟨_, _, _, hbefore, hafter, rfl,
    snapshot_of_moment (Reach.of_run hbefore) (Reach.of_run hafter) rfl⟩

/-- Between the list of servers and the folders of one a write changes both: the old scan mode is
paired with the new library. -/
theorem torn_snapshot :
    ¬ ∀ (lower : Str → Str) (box : SecretBox) (t : Tables) (acts : List Act) (s : Building)
      (config : RuntimeConfig), run (step lower box) (begin t) acts = some s →
      s.phase = .returned config → ∃ t, Snapshot lower box s config t := by
  intro h
  obtain ⟨t, hsnap⟩ := h lowerAscii .clear plexTables [.read, .commit toLibrary, .read, .read] _ _
    rfl rfl
  have hroutes := hsnap.built
  have hmem := hsnap.committed
  have hnone : ∀ t ∈ [movedTables, plexTables],
      (buildRuntimeConfig lowerAscii SecretBox.clear.decrypt t.db).map RuntimeConfig.routes ≠
        some [⟨1, "plex".toList, "/n".toList, [], some "2".toList, .targeted, [.created]⟩] := by
    decide
  exact hnone t hmem (congrArg (Option.map RuntimeConfig.routes) hroutes)

end Building
end MediaScanMonitor
