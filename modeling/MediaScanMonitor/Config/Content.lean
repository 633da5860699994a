import MediaScanMonitor.Config.Runtime

/-!
# What a configuration holds

When `build_runtime_config` succeeds, and what it then has for each enabled server. One server that
cannot be read is enough to make it raise.
-/

namespace MediaScanMonitor
open Text

variable {lower : Str → Str} {decrypt : Str → Option Str} {db : Db} {server : Server}
  {config config' : RuntimeConfig}

/-- The enabled folders of a server. -/
def Db.enabledFolders (db : Db) (serverId : Nat) : List Folder :=
  (db.listFolders serverId).filter Folder.enabled

/-- The row can be read: its secret can be decrypted, and its event types can be parsed if they are
needed. -/
def Server.Readable (decrypt : Str → Option Str) (db : Db) (server : Server) : Prop :=
  (∃ secret, resolveSecret decrypt server = some secret) ∧
    (db.enabledFolders server.id ≠ [] → ∃ types, parseEventTypes server.eventTypes = some types)

/-- The routes of a server, one for each enabled folder. -/
def Server.routes (lower : Str → Str) (db : Db) (server : Server) : List FolderRoute :=
  (db.enabledFolders server.id).map
    (server.route lower ((parseEventTypes server.eventTypes).getD []))

variable (lower) in
/-- The routes are made for all folders or for none. -/
lemma mapM_route (folders : List Folder)
    (h : folders ≠ [] → ∃ types, parseEventTypes server.eventTypes = some types) :
    (folders.mapM fun folder => do
      let eventTypes ← parseEventTypes server.eventTypes
      pure (server.route lower eventTypes folder)) =
    some (folders.map (server.route lower ((parseEventTypes server.eventTypes).getD []))) := by
  induction folders with
  | nil => rfl
  | cons folder rest ih =>
    obtain ⟨types, ht⟩ := h (List.cons_ne_nil _ _)
    have hrest := ih fun _ => ⟨types, ht⟩
    rw [ht] at hrest ⊢
    rw [List.mapM_cons, hrest]
    rfl

variable (lower config) in
/-- A round of the loop with a server that can be read. -/
lemma RuntimeConfig.addServer_readable (h : server.Readable decrypt db) :
    ∃ secret, resolveSecret decrypt server = some secret ∧
      config.addServer lower decrypt server (db.listFolders server.id) =
        some
          { config with
            watchPaths := config.watchPaths ∪ (server.routes lower db).map FolderRoute.path
            routes := config.routes ++ server.routes lower db
            servers := config.servers.insert server.id (server.runtime secret) } := by
  obtain ⟨⟨secret, hs⟩, ht⟩ := h
  refine ⟨secret, hs, ?_⟩
  have hm := mapM_route lower (db.enabledFolders server.id) ht
  unfold Db.enabledFolders at hm
  unfold addServer
  rw [hs]
  simp only [Option.bind_eq_bind, Option.bind_some] at hm ⊢
  rw [hm]
  rfl

/-- A round that succeeds was with such a server. -/
lemma RuntimeConfig.readable_of_addServer
    (h : config.addServer lower decrypt server (db.listFolders server.id) = some config') :
    server.Readable decrypt db := by
  obtain ⟨secret, hs, h⟩ := Option.bind_eq_some_iff.1 h
  refine ⟨⟨secret, hs⟩, fun hne => ?_⟩
  obtain ⟨routes, hr, -⟩ := Option.bind_eq_some_iff.1 h
  obtain ⟨folder, rest, hf⟩ := List.exists_cons_of_ne_nil hne
  rw [show (db.listFolders server.id).filter Folder.enabled = folder :: rest from hf,
    List.mapM_cons] at hr
  obtain ⟨route, hroute, -⟩ := Option.bind_eq_some_iff.1 hr
  obtain ⟨types, ht, -⟩ := Option.bind_eq_some_iff.1 hroute
  exact ⟨types, ht⟩

/-- What the loop has for a list of servers. -/
structure RuntimeConfig.Has (lower : Str → Str) (decrypt : Str → Option Str) (db : Db)
    (servers : List Server) (config config' : RuntimeConfig) : Prop where
  routes : config'.routes = config.routes ++ servers.flatMap (Server.routes lower db)
  other : ∀ id, (∀ server ∈ servers, server.id ≠ id) →
    config'.servers.lookup id = config.servers.lookup id
  own : (servers.map Server.id).Nodup → ∀ server ∈ servers, ∀ secret,
    resolveSecret decrypt server = some secret →
    config'.servers.lookup server.id = some (server.runtime secret)

/-- The loop succeeds exactly when every server can be read. -/
lemma foldlM_addServer (servers : List Server) (config : RuntimeConfig) :
    ((∃ config', servers.foldlM (fun config server =>
        config.addServer lower decrypt server (db.listFolders server.id)) config = some config') ↔
      ∀ server ∈ servers, server.Readable decrypt db) ∧
    ∀ config', servers.foldlM (fun config server =>
        config.addServer lower decrypt server (db.listFolders server.id)) config = some config' →
      RuntimeConfig.Has lower decrypt db servers config config' := by
  induction servers generalizing config with
  | nil =>
    refine ⟨⟨fun _ _ hm => (by cases hm), fun _ => ⟨config, rfl⟩⟩, fun config' h => ?_⟩
    cases h
    exact ⟨(List.append_nil _).symm, fun _ _ => rfl, fun _ _ hm => (by cases hm)⟩
  | cons server rest ih =>
    constructor
    · constructor
      · rintro ⟨config', h⟩ x hx
        obtain ⟨config'', hadd, hrest⟩ := Option.bind_eq_some_iff.1 h
        cases List.mem_cons.1 hx with
        | inl hx =>
          rw [hx]
          exact RuntimeConfig.readable_of_addServer hadd
        | inr hx => exact (ih config'').1.1 ⟨config', hrest⟩ x hx
      · intro h
        obtain ⟨secret, -, hadd⟩ := RuntimeConfig.addServer_readable lower config
          (h server List.mem_cons_self)
        obtain ⟨config', hrest⟩ := (ih _).1.2 fun x hx => h x (List.mem_cons_of_mem _ hx)
        refine ⟨config', ?_⟩
        rw [List.foldlM_cons]
        exact Option.bind_eq_some_iff.2 ⟨_, hadd, hrest⟩
    · intro config' h
      obtain ⟨config'', hadd, hrest⟩ := Option.bind_eq_some_iff.1 h
      obtain ⟨secret, hs, hadd'⟩ := RuntimeConfig.addServer_readable lower config
        (RuntimeConfig.readable_of_addServer hadd)
      cases hadd.symm.trans hadd'
      have hhas := (ih _).2 config' hrest
      refine ⟨?_, fun id hid => ?_, fun hnodup x hx secret' hs' => ?_⟩
      · rw [hhas.routes, List.flatMap_cons, List.append_assoc]
      · rw [hhas.other id fun x hx => hid x (List.mem_cons_of_mem _ hx)]
        exact AList.lookup_insert_ne (hid server List.mem_cons_self).symm
      · obtain ⟨hnot, hnodup⟩ := List.nodup_cons.1 hnodup
        cases List.mem_cons.1 hx with
        | inl hx =>
          subst hx
          rw [hs] at hs'
          cases hs'
          rw [hhas.other x.id fun y hy e => hnot (e ▸ List.mem_map_of_mem hy)]
          exact AList.lookup_insert _
        | inr hx => exact hhas.own hnodup x hx secret' hs'

/-- `build_runtime_config` succeeds exactly when every enabled server can be read. -/
lemma buildRuntimeConfig_readable : (∃ config, buildRuntimeConfig lower decrypt db = some config) ↔
    ∀ server ∈ db.servers, server.enabled = true → server.Readable decrypt db := by
  apply (foldlM_addServer (db.listServers true) .empty).1.trans
  constructor
  · intro h server hs he
    exact h server (List.mem_filter.2 ⟨hs, he⟩)
  · intro h server hs
    obtain ⟨hs, he⟩ := List.mem_filter.1 hs
    exact h server hs he

lemma buildRuntimeConfig_has (h : buildRuntimeConfig lower decrypt db = some config) :
    RuntimeConfig.Has lower decrypt db (db.listServers true) .empty config :=
  (foldlM_addServer (db.listServers true) .empty).2 config h

/-- The routes of one server among those of all. -/
lemma filter_routes (servers : List Server) (hnodup : (servers.map Server.id).Nodup)
    (hs : server ∈ servers) :
    (servers.flatMap (Server.routes lower db)).filter (fun r => r.serverId = server.id) =
      server.routes lower db := by
  have hown : ∀ x : Server, (x.routes lower db).filter (fun r => r.serverId = server.id) =
      if x.id = server.id then x.routes lower db else [] := by
    intro x
    have hid : ∀ r ∈ x.routes lower db, r.serverId = x.id := by
      intro r hr
      obtain ⟨folder, -, rfl⟩ := List.mem_map.1 hr
      rfl
    split
    · next he =>
      apply List.filter_eq_self.2
      intro r hr
      rw [hid r hr, he]
      exact decide_eq_true rfl
    · next hne =>
      apply List.filter_eq_nil_iff.2
      intro r hr hd
      rw [← hid r hr] at hne
      exact hne (of_decide_eq_true hd)
  have hnone : ∀ l : List Server, (∀ x ∈ l, x.id ≠ server.id) →
      (l.flatMap (Server.routes lower db)).filter (fun r => r.serverId = server.id) = [] := by
    intro l hl
    rw [List.filter_flatMap]
    apply List.flatMap_eq_nil_iff.2
    intro x hx
    rw [hown, if_neg (hl x hx)]
  induction servers with
  | nil => cases hs
  | cons x rest ih =>
    obtain ⟨hnot, hnodup⟩ := List.nodup_cons.1 hnodup
    rw [List.flatMap_cons, List.filter_append, hown]
    cases List.mem_cons.1 hs with
    | inl hs =>
      subst hs
      rw [if_pos rfl, hnone rest fun y hy e => hnot (e ▸ List.mem_map_of_mem hy), List.append_nil]
    | inr hs =>
      have hne : x.id ≠ server.id := fun e => hnot (e ▸ List.mem_map_of_mem hs)
      rw [if_neg hne, ih hnodup hs, List.nil_append]

/-- An enabled server has its entry and one route for each enabled folder. -/
lemma RuntimeConfig.Has.entry
    (h : RuntimeConfig.Has lower decrypt db (db.listServers true) .empty config)
    (hids : (db.servers.map Server.id).Nodup) (hs : server ∈ db.servers)
    (he : server.enabled = true) {secret : Option Str}
    (hsecret : resolveSecret decrypt server = some secret) :
    config.servers.lookup server.id = some (server.runtime secret) ∧
      config.routes.filter (fun r => r.serverId = server.id) = server.routes lower db := by
  have hnodup : ((db.listServers true).map Server.id).Nodup := by
    apply List.Nodup.sublist _ hids
    exact List.filter_sublist.map _
  have hmem : server ∈ db.listServers true := List.mem_filter.2 ⟨hs, he⟩
  apply And.intro (h.own hnodup server hmem secret hsecret)
  rw [h.routes]
  exact filter_routes _ hnodup hmem

/-! ### The routes -/

/-- The enabled folders of the enabled servers, in the order of the routes. -/
def Db.routed (db : Db) : List (Server × Folder) :=
  (db.listServers true).flatMap fun server =>
    (db.enabledFolders server.id).map fun folder => (server, folder)

/-- The configuration has made the route of the folder. -/
def RouteOf (lower : Str → Str) (folder : Folder) (config : RuntimeConfig) (r : FolderRoute) : Prop :=
  ∃ (decrypt : Str → Option Str) (db : Db) (server : Server),
    buildRuntimeConfig lower decrypt db = some config ∧
      ((server, folder), r) ∈ db.routed.zip config.routes

/-- The watch paths are the paths of the routes. -/
def RuntimeConfig.Watches (config : RuntimeConfig) : Prop :=
  ∀ path, path ∈ config.watchPaths ↔ ∃ r ∈ config.routes, r.path = path

lemma foldlM_watches (servers : List Server) {config config' : RuntimeConfig} (hw : config.Watches)
    (h : servers.foldlM (fun config server =>
      config.addServer lower decrypt server (db.listFolders server.id)) config = some config') :
    config'.Watches := by
  induction servers generalizing config with
  | nil =>
    cases h
    exact hw
  | cons server rest ih =>
    obtain ⟨config'', hadd, hrest⟩ := Option.bind_eq_some_iff.1 h
    refine ih ?_ hrest
    obtain ⟨secret, -, hadd'⟩ := RuntimeConfig.addServer_readable lower config
      (RuntimeConfig.readable_of_addServer hadd)
    cases hadd.symm.trans hadd'
    intro path
    show path ∈ config.watchPaths ∪ (server.routes lower db).map FolderRoute.path ↔
      ∃ r ∈ config.routes ++ server.routes lower db, r.path = path
    rw [List.mem_union_iff, hw path, List.mem_map]
    simp only [List.mem_append, or_and_right, exists_or]

lemma buildRuntimeConfig_watches (h : buildRuntimeConfig lower decrypt db = some config) :
    config.Watches := by
  refine foldlM_watches (db.listServers true) (fun path => ?_) h
  exact ⟨fun hm => (by cases hm), fun ⟨_, hm, _⟩ => (by cases hm)⟩

lemma buildRuntimeConfig_routes (h : buildRuntimeConfig lower decrypt db = some config) :
    config.routes = db.routed.map fun p =>
      p.1.route lower ((parseEventTypes p.1.eventTypes).getD []) p.2 := by
  rw [(buildRuntimeConfig_has h).routes, Db.routed, List.map_flatMap]
  apply List.flatMap_congr
  intro server _
  rw [List.map_map]
  rfl

/-- The route is made of the row of its folder. -/
lemma RouteOf.eq_route {folder : Folder} {r : FolderRoute} (h : RouteOf lower folder config r) :
    ∃ (server : Server) (types : List FsEventType), r = server.route lower types folder := by
  obtain ⟨decrypt, db, server, hb, hz⟩ := h
  rw [buildRuntimeConfig_routes hb, List.zip_map_right, List.mem_map] at hz
  obtain ⟨⟨p, q⟩, hpq, he⟩ := hz
  have hsame : p = q := by
    obtain ⟨i, hi, hp⟩ := List.mem_iff_getElem.1 hpq
    rw [List.getElem_zip] at hp
    cases hp
    rfl
  subst hsame
  cases he
  exact ⟨server, _, rfl⟩

lemma RouteOf.path_mem {folder : Folder} {r : FolderRoute} (h : RouteOf lower folder config r) :
    r.path ∈ config.watchPaths := by
  obtain ⟨decrypt, db, server, hb, hz⟩ := h
  exact (buildRuntimeConfig_watches hb r.path).2 ⟨r, (List.of_mem_zip hz).2, rfl⟩

/-- An enabled server without a secret and without event types. -/
def plainServer (id : Nat) : Server where
  id := id
  name := []
  type := .webhook
  baseUrl := []
  secretEncrypted := none
  scanMode := .targeted
  debounceMode := .trailing
  debounceWindowSeconds := 0
  retryAttempts := 0
  enabled := true
  webhookMethod := none
  webhookHeadersJson := none
  webhookBodyTemplate := none
  webhookPayloadPreset := .custom
  eventTypes := []

/-- Every enabled folder has a route in some configuration. -/
lemma exists_route (lower : Str → Str) {folder : Folder} (h : folder.enabled = true) :
    ∃ config r, RouteOf lower folder config r := by
  let server := plainServer folder.serverId
  let db : Db := ⟨[server], [folder], []⟩
  have hread : ∃ config, buildRuntimeConfig lower some db = some config := by
    apply buildRuntimeConfig_readable.2
    intro other ho _
    cases List.mem_singleton.1 ho
    exact ⟨⟨none, rfl⟩, fun _ => ⟨[], rfl⟩⟩
  obtain ⟨config, hconfig⟩ := hread
  have hlist : db.listFolders server.id = [folder] :=
    List.filter_cons_of_pos (decide_eq_true rfl)
  have hrouted : db.routed = [(server, folder)] := by
    show [server].flatMap (fun server =>
      ((db.listFolders server.id).filter Folder.enabled).map fun folder => (server, folder)) = _
    rw [List.flatMap_singleton, hlist, List.filter_cons_of_pos h]
    rfl
  have hroutes := buildRuntimeConfig_routes hconfig
  rw [hrouted] at hroutes
  let r := server.route lower ((parseEventTypes server.eventTypes).getD []) folder
  refine ⟨config, r, some, db, server, hconfig, ?_⟩
  rw [hrouted, hroutes]
  exact List.mem_cons_self

end MediaScanMonitor
