import MediaScanMonitor.Db.Folders
import MediaScanMonitor.Pipeline.Coalesce
import MediaScanMonitor.Pipeline.Timers
import MediaScanMonitor.Web.Writes

/-!
# Scan modes

The scan mode of a stored server against the modes that its adapter supports. The write cores store
what they are sent; the requests for a library of a library-only server share a key as long as the
mode they store is one that the type supports.
-/

namespace MediaScanMonitor
open Text Transition

/-- `supported_scan_modes` of the adapter class that is registered for the type. -/
def ServerType.supportedScanModes : ServerType → List ScanMode
  | .webhook => [.targeted, .library]
  | .plex => [.targeted, .library]
  | .emby => [.library]
  | .jellyfin => [.library]
  | .audiobookshelf => [.library]

/-- The adapter refreshes whole libraries only. -/
def ServerType.LibraryOnly (type : ServerType) : Prop :=
  type.supportedScanModes = [.library]

namespace Debouncer

/-- The requests of a burst are submitted one after the other, before any window is over. -/
def submitAll : Debouncer → List ScanRequest → Debouncer × List ScanRequest
  | d, [] => (d, [])
  | d, req :: rest =>
    let (d, out) := d.submit req
    let (d, out') := submitAll d rest
    (d, out ++ out')

variable {d : Debouncer} {key : Nat × Str}

/-- After a burst under one key a single task is pending for it, with the last request. -/
lemma Exact.submitAll (h : d.Exact) (burst : List ScanRequest) (hne : burst ≠ [])
    (hburst : ∀ req ∈ burst, req.key = key ∧ d.Trailing req) :
    (d.submitAll burst).2 = [] ∧ (d.submitAll burst).1.Exact ∧
      ∃ task, ∀ x r, (d.submitAll burst).1.Pending x r ↔
        x = task ∧ r = burst.getLast hne ∨ r.key ≠ key ∧ d.Pending x r := by
  induction burst generalizing d with
  | nil => exact (hne rfl).elim
  | cons req rest ih =>
    obtain ⟨hk, ht⟩ := hburst req List.mem_cons_self
    obtain ⟨hout, htakes⟩ := h.submit ht
    cases rest with
    | nil =>
      refine ⟨?_, htakes.exact, d.nextTask, fun x r => ?_⟩
      · show (d.submit req).2 ++ [] = []
        rw [hout]
        rfl
      · rw [← hk]
        exact htakes.pending x r
    | cons next rest =>
      have hrest : ∀ r ∈ next :: rest, r.key = key ∧ (d.submit req).1.Trailing r := by
        intro r hr
        obtain ⟨hrk, server, hl, hon⟩ := hburst r (List.mem_cons_of_mem _ hr)
        refine ⟨hrk, server, ?_, hon⟩
        rw [htakes.servers]
        exact hl
      obtain ⟨hout', hexact, task, hp⟩ := ih htakes.exact (List.cons_ne_nil _ _) hrest
      refine ⟨?_, hexact, task, fun x r => ?_⟩
      · show (d.submit req).2 ++ ((d.submit req).1.submitAll (next :: rest)).2 = []
        rw [hout, hout']
        rfl
      · apply (hp x r).trans
        rw [List.getLast_cons (List.cons_ne_nil _ _), htakes.pending x r, hk]
        constructor
        · rintro (hlast | ⟨hrk, ⟨-, rfl⟩ | ⟨-, hold⟩⟩)
          · exact .inl hlast
          · exact (hrk hk).elim
          · exact .inr ⟨hrk, hold⟩
        · rintro (hlast | ⟨hrk, hold⟩)
          · exact .inl hlast
          · exact .inr ⟨hrk, .inr ⟨hrk, hold⟩⟩

end Debouncer

/-- Every server is in a mode that its type supports. -/
def Supported (store : Store) : Prop :=
  ∀ row ∈ store.servers, row.scanMode ∈ row.type.supportedScanModes

instance : DecidablePred Supported := fun store =>
  inferInstanceAs (Decidable (∀ row ∈ store.servers, row.scanMode ∈ row.type.supportedScanModes))

namespace WriteCores

/-- The mode that an update sends or leaves is one that the type it sends or leaves supports. -/
def Suits (store : Store) (serverId : Nat) (data : ServerUpdate) : Prop :=
  ∀ row ∈ store.getServer serverId,
    store.nameTaken serverId (data.name.getD row.name) = false →
      data.scanMode.getD row.scanMode ∈ (data.type.getD row.type).supportedScanModes

/-- The condition on the transaction that writes. -/
def SuitedBy (store : Store) : Option ServerWrite → Prop
  | some (.creating data _) => store.nameTaken (Store.nextId store.ids) data.name = false →
      data.scanMode ∈ data.type.supportedScanModes
  | some (.updating serverId data _ _) => Suits store serverId data
  | _ => True

/-- Every row that is written is in a mode that its type supports. -/
def Suited (s : WriteCores) : Act → Prop
  | .proceed i _ => SuitedBy s.store s.writes[i]?
  | _ => True

instance (store : Store) (serverId : Nat) (data : ServerUpdate) :
    Decidable (Suits store serverId data) :=
  inferInstanceAs (Decidable (∀ row ∈ store.getServer serverId,
    store.nameTaken serverId (data.name.getD row.name) = false →
      data.scanMode.getD row.scanMode ∈ (data.type.getD row.type).supportedScanModes))

instance (store : Store) : (write : Option ServerWrite) → Decidable (SuitedBy store write)
  | some (.creating data _) =>
    inferInstanceAs (Decidable (store.nameTaken (Store.nextId store.ids) data.name = false →
      data.scanMode ∈ data.type.supportedScanModes))
  | some (.updating serverId data _ _) => inferInstanceAs (Decidable (Suits store serverId data))
  | some (.reading _ _ _) => isTrue trivial
  | some (.deleting _) => isTrue trivial
  | some .committed => isTrue trivial
  | some (.failed _) => isTrue trivial
  | none => isTrue trivial

instance (s : WriteCores) : (a : Act) → Decidable (Suited s a)
  | .create _ => isTrue trivial
  | .createWithFolders _ _ => isTrue trivial
  | .update _ _ => isTrue trivial
  | .updateWithFolders _ _ _ => isTrue trivial
  | .delete _ => isTrue trivial
  | .proceed i _ => inferInstanceAs (Decidable (SuitedBy s.store s.writes[i]?))

variable {box : SecretBox} {repr : Str → Str} {nonce : Str} {store store' : Store}
  {row old : ServerRow} {serverId : Nat} {write write' : ServerWrite} {s s' : WriteCores} {a : Act}

lemma supported_insert (h : Supported store) {t : Store} (ht : t.servers = store.servers)
    (hnew : t.nameTaken old.id old.name = false → old.scanMode ∈ old.type.supportedScanModes)
    (hok : t.insertServer old = .ok (row, store')) : Supported store' := by
  rw [Store.insertServer] at hok
  split at hok
  · cases hok
  · next hfree =>
    cases hok
    intro other ho
    rcases List.mem_append.1 ho with ho | ho
    · rw [ht] at ho
      exact h other ho
    · cases List.mem_singleton.1 ho
      exact hnew (Bool.eq_false_iff.2 hfree)

lemma supported_replace (h : Supported store) {t : Store} (ht : t.servers = store.servers)
    {data : ServerUpdate} (hold : store.getServer serverId = some old)
    (hsuits : Suits store serverId data)
    (hok : t.replaceServer (Store.written box nonce data old) = .ok (row, store')) :
    Supported store' := by
  obtain ⟨-, hfree, hs, -⟩ := Store.replaceServer_ok hok
  obtain ⟨hid, hname, htype⟩ := Store.written_fields box nonce data old
  have hmode : (Store.written box nonce data old).scanMode = data.scanMode.getD old.scanMode := by
    rw [Store.written_eq]
    rfl
  rw [hid, hname, Store.getServer_id hold, Store.nameTaken, ht] at hfree
  intro other ho
  rcases hs other ho with rfl | ho
  · rw [hmode, htype]
    exact hsuits old hold hfree
  · rw [ht] at ho
    exact h other ho

/-- Only the transaction that writes a row can store a mode. -/
lemma supported_step (h : Supported store) (hg : SuitedBy store (some write))
    (hs : write.step box repr nonce store = some (write', store')) : Supported store' := by
  cases write with
  | creating data folders =>
    cases folders with
    | none =>
      rw [ServerWrite.step] at hs
      split at hs
      · cases hs
        exact h
      · next hw =>
        cases hs
        rw [Store.createServer_eq] at hw
        refine supported_insert h rfl ?_ hw
        exact hg
    | some folders =>
      rw [ServerWrite.step] at hs
      split at hs
      · cases hs
        exact h
      · next hw =>
        cases hs
        rw [Store.createServerWithFolders_eq] at hw
        refine supported_insert h ?_ ?_ hw
        · rfl
        · exact hg
  | reading serverId data folders =>
    rw [ServerWrite.step] at hs
    split at hs
    · cases hs
      exact h
    · split at hs
      · cases hs
        exact h
      · cases hs
        exact h
  | updating serverId data folders existing =>
    cases folders with
    | none =>
      rw [ServerWrite.step] at hs
      split at hs
      · cases hs
        exact h
      · next hw =>
        cases hs
        obtain ⟨old, hold⟩ := Store.updateServer_ok hw
        rw [Store.updateServer_eq, hold.found] at hw
        exact supported_replace h rfl hold.found hg hw
    | some folders =>
      rw [ServerWrite.step] at hs
      split at hs
      · cases hs
        exact h
      · cases hs
        exact h
      · next hw =>
        cases hs
        obtain ⟨old, hold⟩ := Store.updateServerWithFolders_ok hw
        rw [Store.updateServerWithFolders_eq, hold.found] at hw
        have ht : (store.setServerFolders serverId folders).servers = store.servers := rfl
        exact supported_replace h ht hold.found hg hw
  | deleting serverId =>
    cases hs
    exact fun row hr => h row (Store.mem_of_deleteServer hr)
  | committed => cases hs
  | failed error => cases hs

/-- What a configuration makes of a server whose adapter only refreshes libraries: its requests for
a library share a key, and a burst of them is one pending refresh, with the last of them. -/
structure OneRefresh (lower : Str → Str) (config : RuntimeConfig) (row : ServerRow) : Prop where
  keys : ∀ req req', Routed lower config req → Routed lower config req' →
    req.serverId = row.id → req'.serverId = row.id → req.libraryId = req'.libraryId →
      req.key = req'.key
  burst : ∀ (d : Debouncer) (libraryId : Option Str) (burst : List ScanRequest) (hne : burst ≠ []),
    d.Exact → d.servers = config.servers → row.debounceMode ≠ .off →
      (∀ req ∈ burst, Routed lower config req ∧ req.serverId = row.id ∧
        req.libraryId = libraryId) →
      (d.submitAll burst).2 = [] ∧ (d.submitAll burst).1.Exact ∧
        ∃ task, ∀ x r, (d.submitAll burst).1.Pending x r ↔ x = task ∧ r = burst.getLast hne ∨
          r.key ≠ (row.id, libraryKey libraryId) ∧ d.Pending x r

/-- A routed request comes from an enabled server, in its scan mode. -/
lemma routed_server {lower : Str → Str} {decrypt : Str → Option Str} {db : Db}
    {config : RuntimeConfig} {req : ScanRequest}
    (h : buildRuntimeConfig lower decrypt db = some config) (hr : Routed lower config req) :
    ∃ server ∈ db.servers, server.enabled = true ∧ req.serverId = server.id ∧
      req.scanMode = server.scanMode ∧ server.Readable decrypt db := by
  obtain ⟨e, he⟩ := hr
  obtain ⟨r, hmem, -, rfl⟩ := mem_route.1 he
  rw [(buildRuntimeConfig_has h).routes] at hmem
  obtain ⟨server, hs, hroute⟩ := List.mem_flatMap.1 hmem
  obtain ⟨folder, -, rfl⟩ := List.mem_map.1 hroute
  obtain ⟨hs, henabled⟩ := List.mem_filter.1 hs
  have hread := buildRuntimeConfig_readable.1 ⟨config, h⟩ server hs henabled
  exact ⟨server, hs, henabled, rfl, rfl, hread⟩

/-- In library mode the key of a request is that of its library. -/
lemma routed_key {lower : Str → Str} {config : RuntimeConfig} {req : ScanRequest}
    (hr : Routed lower config req) (hmode : req.scanMode = .library) :
    req.key = (req.serverId, libraryKey req.libraryId) := by
  have hpath : req.scanPath = none := by
    rw [hr.scanMode] at hmode
    cases hp : req.scanPath with
    | none => rfl
    | some path =>
      rw [hp] at hmode
      cases hmode
  rw [ScanRequest.key, hr.scanKey, hpath]
  rfl

lemma one_refresh {lower : Str → Str} {settings : List (Str × Str)}
    {config : RuntimeConfig} (hsup : Supported store) (hids : store.ids.Nodup)
    (hconfig : buildRuntimeConfig lower box.decrypt (store.toDb settings) = some config)
    (hrow : row ∈ store.servers) (honly : row.type.LibraryOnly) :
    OneRefresh lower config row := by
  have hmode : row.scanMode = .library := by
    have hmem := hsup row hrow
    rw [honly] at hmem
    exact List.mem_singleton.1 hmem
  have hdb : ((store.toDb settings).servers.map Server.id).Nodup := by
    have hmap : (store.toDb settings).servers.map Server.id = store.ids := List.map_map
    rw [hmap]
    exact hids
  have hmem : row.toServer ∈ (store.toDb settings).servers := List.mem_map_of_mem hrow
  have hown : ∀ req, Routed lower config req → req.serverId = row.id →
      row.enabled = true ∧ row.toServer.Readable box.decrypt (store.toDb settings) ∧
        req.key = (row.id, libraryKey req.libraryId) := by
    intro req hr hid
    obtain ⟨server, hs, henabled, hserver, hscan, hread⟩ := routed_server hconfig hr
    have heq : server = row.toServer :=
      List.inj_on_of_nodup_map hdb hs hmem (hserver.symm.trans hid)
    subst heq
    refine ⟨henabled, hread, ?_⟩
    rw [← hid]
    exact routed_key hr (hscan.trans hmode)
  constructor
  · intro req req' hr hr' hid hid' hlib
    rw [(hown req hr hid).2.2, (hown req' hr' hid').2.2, hlib]
  · intro d libraryId burst hne hd hservers hon hburst
    apply hd.submitAll burst hne
    intro req hreq
    obtain ⟨hr, hid, hlib⟩ := hburst req hreq
    obtain ⟨henabled, ⟨⟨secret, hsecret⟩, -⟩, hkey⟩ := hown req hr hid
    rw [hkey, hlib]
    refine ⟨rfl, row.toServer.runtime secret, ?_, hon⟩
    rw [hservers, hid]
    exact ((buildRuntimeConfig_has hconfig).entry hdb hmem henabled hsecret).1

/-- While every row that is written is in a mode that its type supports, every stored server is, and
a burst for a library of a library-only server collapses into one refresh. -/
theorem scan_modes_supported (box : SecretBox) (repr : Str → Str) (db : Database)
    (hsup : Supported db.toStore)
    (h : Reach (step box repr) Suited ⟨db.toStore, []⟩ s) :
    Supported s.store ∧ ∀ (lower : Str → Str) (settings : List (Str × Str)) (config : RuntimeConfig),
      buildRuntimeConfig lower box.decrypt (s.store.toDb settings) = some config →
        ∀ row ∈ s.store.servers, row.type.LibraryOnly → OneRefresh lower config row := by
  have hstored : Supported s.store := by
    apply h.invariant (P := fun s => Supported s.store) hsup
    intro u a v hu hg hs
    rcases step_cases hs with ⟨write, rfl, -⟩ | ⟨i, nonce, write, write', store, rfl, hi, hw, rfl⟩
    · exact hu
    · have hg : SuitedBy u.store u.writes[i]? := hg
      rw [hi] at hg
      exact supported_step hu hg hw
  have hids : s.store.ids.Nodup := ids_distinct box repr db.keyed.servers (h.mono fun _ => trivial)
  refine ⟨hstored, fun lower settings config hconfig row hrow honly => ?_⟩
  exact one_refresh hstored hids hconfig hrow honly

/-- The request for an Emby server, with the default scan mode. -/
def embyServer : ServerCreate :=
  { name := "emby".toList, type := .emby, secret := some "t".toList, name_not_blank := emby_not_blank }

/-- The request for an Emby server in library mode. -/
def embyLibrary : ServerCreate :=
  { embyServer with scanMode := .library }

/-- A folder of shows. -/
def shows : FolderCreate :=
  { path := "/m".toList, libraryId := some "7".toList, absolute := rfl }

/-- An Emby server is created in library mode, a Plex server in the default one. -/
theorem scan_modes_supported_run :
    ∃ s, run (guarded (step openBox quoted) Suited) ⟨emptyDatabase.toStore, []⟩
        [.createWithFolders embyLibrary [shows], .create plexServer, .proceed 1 [], .proceed 0 []] =
          some s ∧ Supported s.store ∧ s.store.servers.length = 2 := by
  have hrun : run (guarded (step openBox quoted) Suited) ⟨emptyDatabase.toStore, []⟩
      [.createWithFolders embyLibrary [shows], .create plexServer, .proceed 1 [], .proceed 0 []] =
        some _ := rfl
  have hempty : Supported emptyDatabase.toStore := fun _ hr => (by cases hr)
  have hkept := scan_modes_supported openBox quoted emptyDatabase hempty (Reach.of_run hrun)
  exact ⟨_, hrun, hkept.1, rfl⟩

/-- An event in a folder of a show. -/
def episode (path : Str) : FsEvent := ⟨path, .created, false⟩

/-- The database with an Emby server in the default mode. -/
def targetedEmby : Store :=
  emptyDatabase.after (emptyDatabase.createServerWithFolders openBox [] embyServer [shows])

/-- An Emby server is created in the default mode: two shows of one library have a key each. -/
theorem scan_mode_unsupported :
    run (step openBox quoted) ⟨emptyDatabase.toStore, []⟩
        [.createWithFolders embyServer [shows], .proceed 0 []] =
          some ⟨targetedEmby, [.committed]⟩ ∧
      ¬ Supported targetedEmby ∧
      (buildRuntimeConfig (fun text => text) openBox.decrypt (targetedEmby.toDb [])).map
          (fun config => ["/m/a/1".toList, "/m/b/1".toList].flatMap fun path =>
            (route (fun text => text) (episode path) config).map fun req =>
              (req.libraryId, req.key)) =
        some [(some "7".toList, 1, "/m/a".toList), (some "7".toList, 1, "/m/b".toList)] :=
  ⟨rfl, by decide, by decide⟩

end WriteCores
end MediaScanMonitor
