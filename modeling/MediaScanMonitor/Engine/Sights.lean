import MediaScanMonitor.Config.Content
import MediaScanMonitor.Engine.Rows

/-!
# What a configuration was made of

The invariant of the account. What each coroutine has seen of the table of servers is older than the
table, what it has made so far is made of the rows it has seen, and what waits in the pipeline waits
for the rows behind the adapters. Writes keep it, and so do the steps of `start`.
-/

namespace MediaScanMonitor
open Text Transition
open Engine (readStep enterGate gateStep gateRoots gateState)
open Lifecycle (Act Booted StartCase RebuildCase StepCase CloseCase)

/-- The rows of `view` that were there before the listing are in it. -/
def Sight.Precedes (sight : Sight) (view : View) : Prop :=
  ∀ id row, view id = some row → row < sight.written → sight.listed id = some row

/-- What produces requests has come from the rows that were listed. -/
def Sight.Clean (sight : Sight) (config : RuntimeConfig) : Prop :=
  ∀ r ∈ config.routes, ∃ row, sight.folders r.serverId = some row ∧
    sight.listed r.serverId = some row

/-- The configuration that is being made. -/
def Assembly.config : Assembly → Option RuntimeConfig
  | .reading .servers => none
  | .reading (.folders _ config) => some config
  | .building config _ _ => some config
  | .gating config _ _ => some config

/-- The pipeline is wired when `start` is there. -/
def Startup.late : Startup → Bool
  | .assembling (.gating _ _ _) => true
  | .consuming _ => true
  | _ => false

namespace Tracked
variable {host : Host} {box : SecretBox} {s s' : Tracked} {sight : Sight} {w : RepoWrite}
  {written : Nat} {view : View}

/-- The sight is one of the table of servers as it is or has been. -/
structure Covers (written : Nat) (view : View) (sight : Sight) : Prop where
  written : sight.written ≤ written
  precedes : sight.Precedes view

/-- What a coroutine has made so far. -/
structure Going (host : Host) (written : Nat) (view : View) (sight : Sight) (a : Assembly) :
    Prop where
  sound : a.Sound host
  covers : ∀ config ∈ a.config, Covers written view sight
  clean : ∀ config ∈ a.config, sight.Clean config

/-- The pipeline, the tables and the log. -/
structure Core (s : Tracked) : Prop where
  db : s.engine.db = s.tables.toDb s.engine.db.settings
  exact : s.engine.debouncer.Exact
  swaps : ∀ sight, .swap sight ∈ s.log → Covers s.written s.view sight
  inForce : ∀ sight, .swap sight ∈ s.log → sight.Precedes s.adapters
  clean : ∀ config ∈ s.engine.config, s.config.Clean config
  known : ∀ entry ∈ s.engine.adapters, entry.1 ∈ s.engine.debouncer.servers
  /-- A timer waits for the row of the adapter. -/
  pending : ∀ task req, s.engine.debouncer.Pending task req →
    ∃ row, s.tasks task = some row ∧ s.adapters req.serverId = some row
  own : ∀ e ∈ s.log, e.Own
  order : s.log.Pairwise Entry.Before

/-- The coroutines. -/
structure Threads (host : Host) (s : Tracked) : Prop where
  booted : Booted s.engine
  lock : AtMostOne Rebuild.locked s.engine.rebuilds
  unwired : s.engine.wired = false →
    (∀ sight, .swap sight ∉ s.log) ∧ ∀ task req, ¬ s.engine.debouncer.Pending task req
  linked : s.engine.wired = true → s.adapters = s.config.listed
  late : s.engine.start.late = true → s.engine.wired = true
  stored : ∀ config rest built, s.engine.start = .assembling (.building config rest built) →
    s.config = s.start
  start : ∀ a, s.engine.start = .assembling a → Going host s.written s.view s.start a
  rebuilds : ∀ i a, s.engine.rebuilds[i]? = some (.assembling a) →
    Going host s.written s.view (s.rebuilds i) a ∧
      ∀ config ∈ a.config, ∀ sight, .swap sight ∈ s.log → sight.Precedes (s.rebuilds i).listed
  /-- A request of the event waits for the row of the adapter, if it is to be known. -/
  inbox : ∀ reqs, s.engine.start = .consuming reqs → ∀ req ∈ reqs,
    ∃ row, s.inbox req.serverId = some row ∧
      (req.serverId ∈ s.engine.debouncer.servers → s.adapters req.serverId = some row)

/-! ## Writes -/

lemma view_commit {id row : Nat} (h : (s.commit host box w).view id = some row) :
    s.view id = some row ∨ row = s.written := by
  unfold view at h ⊢
  split at h
  · next hmem =>
    cases h
    by_cases hold : id ∈ s.tables.ids
    · rw [if_pos hold]
      refine .inl (congrArg some ?_)
      show s.creation id = if _ then s.written else s.creation id
      rw [if_neg fun hn => hn.2 hold]
    · refine .inr ?_
      show (if _ then s.written else s.creation id) = s.written
      rw [if_pos ⟨hmem, hold⟩]
  · cases h

/-- A row that a write creates is younger than every sight. -/
lemma Covers.commit (h : Covers s.written s.view sight) :
    Covers (s.commit host box w).written (s.commit host box w).view sight := by
  refine ⟨Nat.le_succ_of_le h.written, fun id row hv hlt => ?_⟩
  rcases view_commit hv with hv | rfl
  · exact h.precedes id row hv hlt
  · exact absurd hlt (Nat.not_lt.2 h.written)

lemma Going.commit {a : Assembly} (h : Going host s.written s.view sight a) :
    Going host (s.commit host box w).written (s.commit host box w).view sight a :=
  ⟨h.sound, fun config hc => (h.covers config hc).commit, h.clean⟩

lemma Core.commit (h : Core s) (w : RepoWrite) : Core (s.commit host box w) :=
  ⟨rfl, h.exact, fun sight hs => (h.swaps sight hs).commit, h.inForce, h.clean, h.known, h.pending,
    h.own, h.order⟩

lemma Threads.commit (h : Threads host s) (w : RepoWrite) : Threads host (s.commit host box w) :=
  ⟨⟨h.booted.early, h.booted.clients, h.booted.rebuilds⟩, h.lock, h.unwired, h.linked, h.late,
    h.stored, fun a ha => (h.start a ha).commit,
    fun i a ha => ⟨(h.rebuilds i a ha).1.commit, (h.rebuilds i a ha).2⟩, h.inbox⟩

/-! ## Reading -/

lemma readFolders_listed (serverId : Nat) :
    (s.readFolders sight serverId).listed = sight.listed := by
  unfold readFolders
  split <;> rfl

lemma readFolders_written (serverId : Nat) :
    (s.readFolders sight serverId).written = sight.written := by
  unfold readFolders
  split <;> rfl

lemma observe_covers (h : Covers written view sight) (serverId : Nat) :
    Covers written view (s.readFolders sight serverId) := by
  constructor
  · rw [readFolders_written]
    exact h.written
  · unfold Sight.Precedes
    rw [readFolders_written, readFolders_listed]
    exact h.precedes

/-- A folder that is read has its server. -/
lemma Core.view_of_folder (h : Core s) {serverId : Nat} {folder : Folder}
    (hf : folder ∈ s.engine.db.enabledFolders serverId) : ∃ row, s.view serverId = some row := by
  have hlist := List.mem_of_mem_filter hf
  unfold Db.listFolders at hlist
  obtain ⟨hmem, hid⟩ := List.mem_filter.1 hlist
  rw [h.db] at hmem
  obtain ⟨row, hrow, rfl⟩ := List.mem_map.1 hmem
  have howned := s.tables.keyed.owned row hrow
  rw [of_decide_eq_true hid] at howned
  unfold view
  rw [if_pos howned]
  exact ⟨_, rfl⟩

/-- The folders of a row that was not replaced since it was listed. -/
lemma Core.clean_read (h : Core s) {server : Server} {config config' : RuntimeConfig}
    (hclean : sight.Clean config) (hu : s.Unreplaced sight server.id)
    (hadd : config.addServer host.lower host.decrypt server (s.engine.db.listFolders server.id) =
      some config') : (s.readFolders sight server.id).Clean config' := by
  have hreadable : server.Readable host.decrypt s.engine.db :=
    RuntimeConfig.readable_of_addServer hadd
  obtain ⟨secret, -, hadd'⟩ := RuntimeConfig.addServer_readable host.lower config hreadable
  cases hadd.symm.trans hadd'
  -- what was read of this server is of the row that was listed
  have hown : ∀ {row}, s.view server.id = some row →
      (s.readFolders sight server.id).folders server.id = some row ∧
        sight.listed server.id = some row := by
    intro row hv
    refine ⟨?_, ?_⟩
    · unfold readFolders
      rw [hv]
      exact Function.update_self _ _ _
    · rcases hu with hnone | hlisted
      · rw [hnone] at hv
        cases hv
      · exact hlisted.symm.trans hv
  have hother : ∀ {id}, id ≠ server.id →
      (s.readFolders sight server.id).folders id = sight.folders id := by
    intro id hne
    unfold readFolders
    split
    · rfl
    · exact Function.update_of_ne hne _ _
  intro r hr
  rw [readFolders_listed]
  rcases List.mem_append.1 hr with hr | hr
  · obtain ⟨row, hf, hl⟩ := hclean r hr
    by_cases hid : r.serverId = server.id
    · rw [hid] at hf hl ⊢
      cases hv : s.view server.id with
      | none =>
        refine ⟨row, ?_, hl⟩
        unfold readFolders
        rw [hv]
        exact hf
      | some row' =>
        obtain ⟨hf', hl'⟩ := hown hv
        exact ⟨row', hf', hl'⟩
    · exact ⟨row, (hother hid).trans hf, hl⟩
  · obtain ⟨folder, hfolder, rfl⟩ := List.mem_map.1 hr
    obtain ⟨row, hv⟩ := h.view_of_folder hfolder
    obtain ⟨hf, hl⟩ := hown hv
    exact ⟨row, hf, hl⟩

/-- A read goes on. -/
lemma Core.read (h : Core s) {r r' : Reading} (hg : Going host s.written s.view sight (.reading r))
    (hu : ∀ server rest config, r = .folders (server :: rest) config →
      s.Unreplaced sight server.id)
    (hread : readStep (s.engine.platform host) s.engine.db r = some (.inl r')) :
    Going host s.written s.view (s.observe sight (.reading r)) (.reading r') := by
  cases r with
  | servers =>
    cases hread
    refine ⟨trivial, fun config hc => ⟨le_refl _, fun id row hv _ => hv⟩, fun config hc => ?_⟩
    cases hc
    nofun
  | folders rest config =>
    cases rest with
    | nil => cases hread
    | cons server rest =>
      obtain ⟨config', hadd, hr⟩ := Option.map_eq_some_iff.1 hread
      cases hr
      refine ⟨trivial, fun _ _ => observe_covers (hg.covers config rfl) server.id, fun _ hc => ?_⟩
      cases hc
      exact h.clean_read (hg.clean config rfl) (hu server rest config rfl) hadd

/-- The last read has no more servers. -/
lemma readStep_inr {pf : Platform} {db : Db} {r : Reading} {config : RuntimeConfig}
    (h : readStep pf db r = some (.inr config)) : r = .folders [] config := by
  cases r with
  | servers => cases h
  | folders rest config' =>
    cases rest with
    | nil =>
      cases h
      rfl
    | cons server rest =>
      obtain ⟨config'', -, hr⟩ := Option.map_eq_some_iff.1 h
      cases hr

/-! ## The steps of `start` -/

/-- Every adapter is one of an item. -/
lemma known_of_built {items : List Item} {built : Built} (h : built.Of host items)
    {entry : Nat × Adapter} (he : entry ∈ built.adapters) :
    ∃ item ∈ items, item.1 = entry.1 := by
  have hmem : (⟨entry.1, entry.2.server⟩ : Item) ∈ items.filter fun item => host.create item.2 := by
    rw [← h.adapters]
    exact List.mem_map_of_mem he
  exact ⟨_, List.mem_of_mem_filter hmem, rfl⟩

lemma mem_servers_of_built {config : RuntimeConfig} {built : Built}
    (h : built.Of host config.servers.entries) :
    ∀ entry ∈ built.adapters, entry.1 ∈ config.servers := by
  intro entry he
  obtain ⟨item, hitem, hid⟩ := known_of_built h he
  rw [← hid]
  exact AList.mem_keys.2 (List.mem_map_of_mem hitem)

/-- The tables, the configuration in force and its adapters stay. -/
structure Kept (s s' : Tracked) : Prop where
  tables : s'.tables = s.tables := by rfl
  written : s'.written = s.written := by rfl
  creation : s'.creation = s.creation := by rfl
  config : s'.config = s.config := by rfl
  adapters : s'.adapters = s.adapters := by rfl
  db : s'.engine.db = s.engine.db := by rfl
  wired : s'.engine.wired = s.engine.wired := by rfl
  stored : s'.engine.config = s.engine.config := by rfl
  built : s'.engine.adapters = s.engine.adapters := by rfl

/-- The timers and the log stay, too, and coroutines move. -/
structure Same (s s' : Tracked) : Prop extends Kept s s' where
  tasks : s'.tasks = s.tasks := by rfl
  log : s'.log = s.log := by rfl
  debouncer : s'.engine.debouncer = s.engine.debouncer := by rfl

lemma Kept.view_eq (h : Kept s s') : s'.view = s.view := by
  unfold Tracked.view
  rw [h.tables, h.creation]

lemma Core.same (h : Core s) (hf : Same s s') : Core s' := by
  constructor
  · rw [hf.db, hf.tables]
    exact h.db
  · rw [hf.debouncer]
    exact h.exact
  · rw [hf.log, hf.written, hf.view_eq]
    exact h.swaps
  · rw [hf.log, hf.adapters]
    exact h.inForce
  · rw [hf.stored, hf.config]
    exact h.clean
  · rw [hf.debouncer, hf.built]
    exact h.known
  · rw [hf.debouncer, hf.tasks, hf.adapters]
    exact h.pending
  · rw [hf.log]
    exact h.own
  · rw [hf.log]
    exact h.order

structure Inv (host : Host) (s : Tracked) : Prop where
  core : Core s
  threads : Threads host s

/-- `start` moves to a place where it submits nothing yet. -/
lemma Inv.moveStart (h : Inv host s) (hf : Same s s') (hsights : s'.rebuilds = s.rebuilds)
    (hb : Booted s'.engine) (hr : s'.engine.rebuilds = s.engine.rebuilds)
    (hlate : s'.engine.start.late = true → s.engine.wired = true)
    (hstored : ∀ config rest built,
      s'.engine.start = .assembling (.building config rest built) → s.config = s'.start)
    (hstart : ∀ a, s'.engine.start = .assembling a → Going host s.written s.view s'.start a)
    (hinbox : ∀ reqs, s'.engine.start = .consuming reqs → reqs = []) : Inv host s' := by
  have ht := h.threads
  refine ⟨h.core.same hf, hb, ?_, ?_, ?_, ?_, ?_, ?_, ?_, ?_⟩
  · rw [hr]
    exact ht.lock
  · rw [hf.wired, hf.debouncer, hf.log]
    exact ht.unwired
  · rw [hf.wired, hf.adapters, hf.config]
    exact ht.linked
  · rw [hf.wired]
    exact hlate
  · rw [hf.config]
    exact hstored
  · rw [hf.written, hf.view_eq]
    exact hstart
  · rw [hr, hf.written, hf.view_eq, hf.log, hsights]
    exact ht.rebuilds
  · intro reqs hs req hreq
    rw [hinbox reqs hs] at hreq
    cases hreq

/-- A configuration of which nothing is built yet. -/
lemma Going.store {config : RuntimeConfig}
    (h : Going host written view sight (.reading (.folders [] config))) :
    Going host written view sight (.building config config.servers.entries ⟨[], []⟩) := by
  refine ⟨Assembly.Sound.start config, fun _ hc => ?_, fun _ hc => ?_⟩
  · cases hc
    exact h.covers config rfl
  · cases hc
    exact h.clean config rfl

lemma Going.round {config : RuntimeConfig} {item : Item} {rest : List Item} {built : Built}
    (h : Going host written view sight (.building config (item :: rest) built)) (client : Client) :
    Going host written view sight (.building config rest (built.round host client item)) := by
  refine ⟨h.sound.round client, fun _ hc => ?_, fun _ hc => ?_⟩
  · cases hc
    exact h.covers config rfl
  · cases hc
    exact h.clean config rfl

lemma Going.built {config : RuntimeConfig} {built : Built} (g : Gate)
    (h : Going host written view sight (.building config [] built)) :
    Going host written view sight (.gating config built g) := by
  refine ⟨h.sound.built, fun _ hc => ?_, fun _ hc => ?_⟩
  · cases hc
    exact h.covers config rfl
  · cases hc
    exact h.clean config rfl

lemma Going.gate {config : RuntimeConfig} {built : Built} {g : Gate} (g' : Gate)
    (h : Going host written view sight (.gating config built g)) :
    Going host written view sight (.gating config built g') := by
  refine ⟨h.sound, fun _ hc => ?_, fun _ hc => ?_⟩
  · cases hc
    exact h.covers config rfl
  · cases hc
    exact h.clean config rfl

/-- The configuration is stored; nothing waits for an adapter yet. -/
lemma Core.store (h : Core s) (ht : Threads host s) {config : RuntimeConfig}
    (hs : s.engine.start = .assembling (.reading (.folders [] config))) :
    Core { s with
      engine := { s.engine with
        config := some config
        start := .assembling (.building config config.servers.entries ⟨[], []⟩) }
      config := s.start } := by
  refine ⟨h.db, h.exact, h.swaps, h.inForce, ?_, h.known, h.pending, h.own, h.order⟩
  rintro _ ⟨⟩
  exact (ht.start _ hs).clean config rfl

lemma Threads.store (h : Threads host s) {config : RuntimeConfig} {engine : Lifecycle}
    (hs : s.engine.start = .assembling (.reading (.folders [] config))) (hb : Booted engine)
    (he : engine = { s.engine with
      config := some config
      start := .assembling (.building config config.servers.entries ⟨[], []⟩) }) :
    Threads host { s with engine := engine, config := s.start } := by
  have hw : s.engine.wired = false := h.booted.early (by rw [hs]; rfl)
  subst he
  refine ⟨hb, h.lock, h.unwired, fun hw' => ?_, nofun, fun _ _ _ _ => rfl, fun a ha => ?_,
    h.rebuilds, nofun⟩
  · rw [show s.engine.wired = true from hw'] at hw
    cases hw
  · cases ha
    exact (h.start _ hs).store

/-- The pipeline is wired; no timer is armed in it. -/
lemma Core.wire (h : Core s) (ht : Threads host s) {config : RuntimeConfig} {built : Built}
    (hs : s.engine.start = .assembling (.building config [] built)) :
    Core { s with engine := s.engine.wire config built, adapters := s.start.listed } := by
  have hw : s.engine.wired = false := ht.booted.early (by rw [hs]; rfl)
  have hnone : ∀ task req, ¬ (Debouncer.init config.servers).Pending task req := nofun
  refine ⟨h.db, Debouncer.exact_init _, h.swaps, fun sight hswap => ?_, h.clean,
    mem_servers_of_built (ht.start _ hs).sound.built, fun task req hp => ?_, h.own, h.order⟩
  · exact absurd hswap ((ht.unwired hw).1 sight)
  · exact absurd hp (hnone task req)

lemma Threads.wire (h : Threads host s) {config : RuntimeConfig} {built : Built}
    (hs : s.engine.start = .assembling (.building config [] built))
    (hb : Booted (s.engine.wire config built)) :
    Threads host
      { s with engine := s.engine.wire config built, adapters := s.start.listed } := by
  refine ⟨hb, h.lock, nofun, fun _ => ?_, fun _ => rfl, nofun, fun a ha => ?_, h.rebuilds, nofun⟩
  · show s.start.listed = s.config.listed
    rw [h.stored config [] built hs]
  · cases ha
    exact (h.start _ hs).built _

lemma note_read {r : Reading} (hs : s.engine.start = .assembling (.reading r))
    (hr : ∀ config, r ≠ .folders [] config) :
    s.note .start = { s with start := s.observe s.start (.reading r) } := by
  unfold note
  rw [hs]
  cases r with
  | servers => rfl
  | folders rest config =>
    cases rest with
    | nil => exact absurd rfl (hr config)
    | cons server rest => rfl

lemma Inv.start (h : Inv host s) (hg : s.Apart (.engine .start)) {engine : Lifecycle}
    (hb : Booted engine) (hc : StartCase host s.engine engine) :
    Inv host { s.note .start with engine := engine } := by
  cases hc with
  | begin hs =>
    have hn : s.note .start = s := by
      unfold note
      rw [hs]
    rw [hn]
    refine h.moveStart {} rfl hb rfl nofun nofun (fun a ha => ?_) nofun
    cases ha
    exact ⟨trivial, nofun, nofun⟩
  | read r r' hs hread =>
    have hne : ∀ config, r ≠ .folders [] config := by
      rintro config rfl
      cases hread
    rw [note_read hs hne]
    refine h.moveStart {} rfl hb rfl nofun nofun (fun a ha => ?_) nofun
    cases ha
    refine h.core.read (h.threads.start _ hs) ?_ hread
    rintro server rest config rfl
    exact hg _ (by rw [hs]; rfl) server rfl
  | store r config hs hread =>
    obtain rfl := readStep_inr hread
    have hn : s.note .start = { s with config := s.start } := by
      unfold note
      rw [hs]
    rw [hn]
    exact ⟨h.core.store h.threads hs, h.threads.store hs hb rfl⟩
  | round config item rest built hs =>
    have hn : s.note .start = { s with start := s.start } := by
      unfold note
      rw [hs]
      rfl
    rw [hn]
    refine h.moveStart {} rfl hb rfl nofun (fun _ _ _ _ => ?_) (fun a ha => ?_) nofun
    · exact h.threads.stored config (item :: rest) built hs
    · cases ha
      exact (h.threads.start _ hs).round _
  | wire config built hs =>
    have hn : s.note .start = { s with adapters := s.start.listed } := by
      unfold note
      rw [hs]
    rw [hn]
    exact ⟨h.core.wire h.threads hs, h.threads.wire hs hb⟩
  | gate config built g hs =>
    have hn : s.note .start = { s with start := s.start } := by
      unfold note
      rw [hs]
      rfl
    rw [hn]
    refine h.moveStart {} rfl hb rfl (fun _ => ?_) nofun (fun a ha => ?_) nofun
    · exact h.threads.late (by rw [hs]; rfl)
    · cases ha
      exact (h.threads.start _ hs).gate _
  | enter config built ok hs =>
    have hn : s.note .start = { s with start := s.start } := by
      unfold note
      rw [hs]
      rfl
    have hw : s.engine.wired = true := h.threads.late (by rw [hs]; rfl)
    rw [hn]
    unfold Lifecycle.enter at hb ⊢
    split
    · next hpark =>
      rw [if_pos hpark] at hb
      exact h.moveStart {} rfl hb rfl nofun nofun nofun nofun
    · next hpark =>
      rw [if_neg hpark] at hb
      refine h.moveStart {} rfl hb rfl (fun _ => hw) nofun nofun fun reqs hr => ?_
      cases hr
      rfl

end Tracked
end MediaScanMonitor
