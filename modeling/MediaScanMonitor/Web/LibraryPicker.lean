import MediaScanMonitor.Config.Content
import MediaScanMonitor.Servers.Targets
import MediaScanMonitor.Web.Probes

/-!
# The library picker

The id that is picked for a folder goes from the listing through the form, the database and the
snapshot into the URL of the scans. `_parse_folder_rows` strips it, and the adapters write it as it
is, so that not every id arrives.
-/

namespace MediaScanMonitor
open Text Percent Uri

/-! ## The URL -/

/-- What stands around the library id in the path of a scan's URL. -/
def ServerType.scanPath : ServerType → Str × Str
  | .webhook => ([], [])
  | .plex => ("library/sections".toList, "refresh".toList)
  | .emby => ("Items".toList, "Refresh".toList)
  | .jellyfin => ("Items".toList, "Refresh".toList)
  | .audiobookshelf => ("api/libraries".toList, "scan".toList)

section
variable {base pre suf bt written segment libraryId : Str}

/-- The id that the form makes of the one that is picked. -/
def keptId (libraryId : Str) : Option Str :=
  orNone (strip libraryId)

end

/-! ## The form -/

/-- A row of the form: a folder that is enabled and for which the library is picked. -/
structure Picked (form : FormData) (i : Nat) (path : Str) (lib : LibraryOption) : Prop where
  visible : strip path ≠ []
  path : form.get i .path = some path
  libraryId : form.get i .libraryId = some lib.id
  enabled : (form.get i .enabled).isSome = true

/-- The form is saved, as a new server or for one that is there. -/
inductive FormSaved (box : SecretBox) (lower : Str → Str) (form : ServerForm) :
    Store → Nat → Store → Prop
  | create {repr : Str → Str} {rejected : List FieldError → Str} {nonce : Str} {s s' : Store}
      {serverId : Nat} :
    uiCreateServerWithFolders box lower repr rejected nonce s form = (.saved serverId, s') →
      FormSaved box lower form s serverId s'
  | update {repr : Str → Str} {rejected : List FieldError → Str} {nonce : Str}
      {checked s s' : Store} {serverId : Nat} {clearSecret : Bool} :
    uiUpdateServer box lower repr rejected nonce checked s serverId clearSecret form =
        (.saved serverId, s') →
      FormSaved box lower form s serverId s'

/-- The rows of the server after the form is saved. -/
structure SavedAs (form : ServerForm) (folders : List FolderCreate) (row : ServerRow)
    (s : Store) : Prop where
  keyed : s.Keyed
  stored : row ∈ s.servers
  baseUrl : row.baseUrl = form.baseUrl
  verifyTls : row.verifyTls = form.verifyTls
  timeoutSeconds : row.timeoutSeconds = form.timeoutSeconds
  enabled : row.enabled = form.enabled
  eventTypes : row.eventTypes = serializeEventTypes form.eventTypes
  folders : ∀ data ∈ folders, data.content row.id ∈ s.folders.map FolderRow.content

section
variable {box : SecretBox} {lower : Str → Str} {form : ServerForm} {s s' : Store} {serverId : Nat}
  {folders : List FolderCreate} {row : ServerRow} {i : Nat} {path : Str} {lib : LibraryOption}

/-- Each row of the form has its result when none is rejected. -/
lemma mem_of_mapM_ok {ε α β : Type} {f : α → Except ε β} {l : List α} {l' : List β}
    (h : l.mapM f = .ok l') {a : α} (ha : a ∈ l) : ∃ b ∈ l', f a = .ok b := by
  induction l generalizing l' with
  | nil => cases ha
  | cons x l ih =>
    rw [List.mapM_cons] at h
    cases hx : f x with
    | error e =>
      rw [hx] at h
      cases h
    | ok b =>
      cases hl : l.mapM f with
      | error e =>
        rw [hx, hl] at h
        cases h
      | ok bs =>
        rw [hx, hl] at h
        cases h
        rcases List.mem_cons.1 ha with rfl | ha
        · exact ⟨b, List.mem_cons_self, hx⟩
        · obtain ⟨b', hb', hf⟩ := ih hl ha
          exact ⟨b', List.mem_cons_of_mem _ hb', hf⟩

lemma mem_indices {form : FormData} (h : form.get i .path = some path) : i ∈ form.indices := by
  obtain ⟨kv, hkv, -⟩ := Option.map_eq_some_iff.1 h
  obtain ⟨hmem, hkey⟩ := List.mem_filter.1 (List.mem_of_getLast? hkv)
  have hkey : kv.1 = (i, .path) := of_decide_eq_true hkey
  unfold FormData.indices
  rw [List.mem_insertionSort, List.mem_dedup, List.mem_filterMap]
  refine ⟨kv, hmem, ?_⟩
  rw [hkey]
  rfl

/-- The folder that the row is parsed to. -/
lemma Picked.parsed {form : FormData} (hpick : Picked form i path lib)
    (h : parseFolderRows lower form = .ok folders) : ∃ data ∈ folders,
      data.path = normalizePath path ∧ data.libraryId = keptId lib.id ∧ data.enabled = true := by
  obtain ⟨rows, hrows, rfl⟩ : ∃ rows, form.indices.mapM (parseFolderRow lower form) = .ok rows ∧
      rows.reduceOption = folders := by
    unfold parseFolderRows at h
    cases hrows : form.indices.mapM (parseFolderRow lower form) with
    | error errors =>
      rw [hrows] at h
      cases h
    | ok rows =>
      rw [hrows] at h
      exact ⟨rows, rfl, Except.ok.inj h⟩
  obtain ⟨parsed, hparsed, hrow⟩ := mem_of_mapM_ok hrows (mem_indices hpick.path)
  unfold parseFolderRow FormData.text at hrow
  rw [hpick.path, hpick.libraryId] at hrow
  dsimp only [Option.getD_some] at hrow
  rw [if_neg hpick.visible] at hrow
  cases hvalidated : FolderCreate.validate lower
      { path := strip path
        libraryId := orNone (strip lib.id)
        libraryName := orNone (strip ((form.get i .libraryName).getD []))
        extensions := splitExtensions ((form.get i .extensions).getD [])
        enabled := (form.get i .enabled).isSome } with
  | error errors =>
    rw [hvalidated] at hrow
    cases hrow
  | ok data =>
    rw [hvalidated] at hrow
    cases hrow
    obtain ⟨hpath, hid, -, henabled, -⟩ := FolderCreate.validate_ok hvalidated
    refine ⟨data, List.reduceOption_mem_iff.2 hparsed, ?_, hid, henabled.trans hpick.enabled⟩
    rw [hpath, normalizePath, strip_strip]
    rfl

/-- The folders of a write are among those of the server after it. -/
lemma content_mem {folder : FolderCreate} (hf : folder ∈ folders)
    (h : s'.folders = (s.setServerFolders serverId folders).folders) :
    folder.content serverId ∈ s'.folders.map FolderRow.content := by
  rw [h, Store.setServerFolders_content]
  exact List.mem_append_right _ (List.mem_map_of_mem hf)

/-- An update from the form: the write that is committed. -/
lemma uiUpdateServer_saved {repr : Str → Str} {rejected : List FieldError → Str} {nonce : Str}
    {checked : Store} {clearSecret : Bool} {asked : Nat}
    (h : uiUpdateServer box lower repr rejected nonce checked s asked clearSecret form =
      (.saved serverId, s')) :
    ∃ (hname : strip form.name ≠ []) (folders : List FolderCreate) (row : ServerRow),
      parseFolderRows lower form.folders = .ok folders ∧ row.id = serverId ∧
      s.updateServerWithFolders box nonce asked (form.updateData clearSecret hname) folders =
        .ok (row, s') := by
  unfold uiUpdateServer at h
  split at h
  · next hname =>
    dsimp only at h
    split at h
    · cases h
    · next folders hparsed =>
      split at h
      · cases h
      · split at h
        · cases h
        · split at h
          · cases h
          · cases h
          · next row updated hupdated =>
            cases h
            exact ⟨hname, folders, row, hparsed, rfl, hupdated⟩
  · cases h

/-- Both routes leave a row with the form's values, and its folders. -/
lemma FormSaved.rows (hkeyed : s.Keyed) (h : FormSaved box lower form s serverId s') :
    ∃ folders row, parseFolderRows lower form.folders = .ok folders ∧ row.id = serverId ∧
      SavedAs form folders row s' := by
  cases h with
  | @create repr rejected nonce _ _ _ h =>
    obtain ⟨hname, folders, hparsed, hcreated⟩ := uiCreateServerWithFolders_saved h
    have hinserted := Store.inserted hkeyed hcreated
    refine ⟨folders, Store.created box nonce serverId (form.createData hname), hparsed, rfl,
      hinserted.keyed, ?_, rfl, rfl, rfl, rfl, rfl, fun data hdata => ?_⟩
    · rw [hinserted.servers]
      exact List.mem_append_right _ List.mem_cons_self
    · have hid := (Store.createServerWithFolders_ok hcreated).id
      have hfolders := Store.insertServer_folders hcreated
      rw [← hid] at hfolders
      exact content_mem hdata hfolders
  | @update repr rejected nonce checked _ _ _ clearSecret h =>
    obtain ⟨hname, folders, row, hparsed, hid, hupdated⟩ := uiUpdateServer_saved h
    obtain ⟨old, hreplaced⟩ := Store.replaced hkeyed hupdated
    rw [Store.updateServerWithFolders_eq, hreplaced.found] at hupdated
    have hwritten := (Store.replaceServer_ok hupdated).1
    have hold : old.id = serverId := Store.getServer_id hreplaced.found
    have hstored : row ∈ s'.servers := by
      rw [hreplaced.servers]
      exact List.mem_map.2 ⟨old, Store.mem_of_getServer hreplaced.found, if_pos hold⟩
    have hfolders : ∀ data ∈ folders, data.content row.id ∈ s'.folders.map FolderRow.content := by
      intro data hdata
      rw [hid]
      exact content_mem hdata (Store.replaceServer_folders hupdated)
    rw [Store.written_eq] at hwritten
    refine ⟨folders, row, hparsed, hid, hreplaced.keyed, hstored, ?_, ?_, ?_, ?_, ?_, hfolders⟩
    all_goals
      rw [hwritten]
      rfl

/-! ## The snapshot -/

variable {config : RuntimeConfig} {settings : List (Str × Str)}

/-- An enabled folder of an enabled server has its route in the snapshot. -/
lemma SavedAs.route (h : SavedAs form folders row s)
    (hconfig : buildRuntimeConfig lower box.decrypt (s.toDb settings) = some config)
    (henabled : form.enabled = true) : ∃ server, config.servers.lookup row.id = some server ∧
      server.type = row.type ∧ server.baseUrl = form.baseUrl ∧
      ∀ data ∈ folders, data.enabled = true → ∃ r ∈ config.routes, r.serverId = row.id ∧
        r.path = normalizePath data.path ∧ r.libraryId = data.libraryId ∧
        r.eventTypes = form.eventTypes := by
  have hmem : row.toServer ∈ (s.toDb settings).servers := List.mem_map_of_mem h.stored
  have hids : ((s.toDb settings).servers.map Server.id).Nodup := by
    show ((s.servers.map ServerRow.toServer).map Server.id).Nodup
    rw [List.map_map]
    exact h.keyed.servers
  have hon : row.toServer.enabled = true := h.enabled.trans henabled
  obtain ⟨⟨secret, hsecret⟩, -⟩ := buildRuntimeConfig_readable.1 ⟨config, hconfig⟩ _ hmem hon
  obtain ⟨hentry, hroutes⟩ := (buildRuntimeConfig_has hconfig).entry hids hmem hon hsecret
  refine ⟨_, hentry, rfl, h.baseUrl, fun data hdata hfolder => ?_⟩
  obtain ⟨folder, hstored, hcontent⟩ := List.mem_map.1 (h.folders data hdata)
  have hfolder' : folder.toFolder = (data.content row.id).1 := congrArg Prod.fst hcontent
  have hlisted : folder.toFolder ∈ (s.toDb settings).enabledFolders row.id := by
    apply List.mem_filter.2
    refine ⟨List.mem_filter.2 ⟨List.mem_map_of_mem hstored, ?_⟩, ?_⟩
    · rw [hfolder']
      exact decide_eq_true rfl
    · rw [hfolder']
      exact hfolder
  have htypes : parseEventTypes row.toServer.eventTypes = some form.eventTypes := by
    rw [h.eventTypes]
    exact parse_serializeEventTypes _
  have hroute : row.toServer.route lower form.eventTypes folder.toFolder ∈
      row.toServer.routes lower (s.toDb settings) := by
    unfold Server.routes
    rw [htypes]
    exact List.mem_map_of_mem hlisted
  rw [← hroutes] at hroute
  refine ⟨_, List.mem_of_mem_filter hroute, rfl, ?_, ?_, rfl⟩
  · rw [hfolder']
    rfl
  · rw [hfolder']
    rfl

/-! ## The picker -/

/-- A server that is stored is found by its id. -/
lemma getServer_stored (hkeyed : s.Keyed) (h : row ∈ s.servers) :
    s.getServer row.id = some row := by
  have hids : (s.servers.map fun row => row.id).Nodup := hkeyed.servers
  unfold Store.getServer
  generalize s.servers = rows at h hids
  induction rows with
  | nil => cases h
  | cons first rest ih =>
    obtain ⟨hnot, hnodup⟩ := List.nodup_cons.1 hids
    rw [List.find?_cons]
    rcases List.mem_cons.1 h with rfl | h
    · rw [decide_eq_true rfl]
    · have hne : first.id ≠ row.id := fun he => hnot (List.mem_map.2 ⟨row, h, he.symm⟩)
      rw [decide_eq_false hne]
      exact ih h hnodup

/-- The server at the URL has answered with the libraries. -/
def Answered (client : ProbeClient) (type : ServerType) (url : Str)
    (libraries : List LibraryOption) : Prop :=
  ∃ req resp v, req.url = url ∧ client.exchange req 0 = .ok resp ∧ resp.isSuccess = true ∧
    client.json req = .ok v ∧ Lists type v libraries

/-- The picker of a saved server shows what the server answers. -/
lemma SavedAs.listed (h : SavedAs form folders row s) {build : BuildClient} {token : Str}
    {libraries : List LibraryOption} (hlisted : uiListLibraries box build s row.id token =
      some (.ok { ok := true, detail := [], libraries := libraries })) :
    ∃ d, row.type.discovery = some d ∧ Answered (build form.verifyTls form.timeoutSeconds)
      row.type (rstripChar form.baseUrl '/' ++ d.path) libraries := by
  unfold uiListLibraries at hlisted
  rw [getServer_stored h.keyed h.stored] at hlisted
  obtain ⟨stored, -, hlisted⟩ := Option.map_eq_some_iff.1 hlisted
  obtain ⟨d, resp, v, hd, hresp, hsuccess, hv, hlists⟩ := listLibraries_eq_ok.1 hlisted
  rw [← h.verifyTls, ← h.timeoutSeconds, ← h.baseUrl]
  exact ⟨d, hd, _, resp, v, rfl, hresp, hsuccess, hv, hlists⟩

end

end MediaScanMonitor
