import MediaScanMonitor.Db.Repo

/-!
# Folders

The folder writes of `db/repo.py`, and the server writes that replace a server's folders in the same
transaction: each leaves the rows that the single writes leave, one after the other.
-/

namespace MediaScanMonitor
open Text

/-- A `KeyError` of a folder write. -/
inductive FolderError
  /-- There is no folder with this id. -/
  | keyError (folderId : Nat)
deriving DecidableEq

/-- `normalized` of `update_folder` and `set_filetypes`; `lower` is `str.lower`. -/
def normalizeExtensions (lower : Str → Str) (extensions : List Str) : List Str :=
  extensions.foldl
    (fun normalized ext =>
      let norm := normalizeExtension lower ext
      if norm ≠ [] ∧ norm ∉ normalized then normalized ++ [norm] else normalized) []

/-- The fields of the dump, set one by one, and the extensions. -/
def FolderUpdate.setFields (lower : Str → Str) (data : FolderUpdate) (folder : FolderRow) :
    FolderRow :=
  { folder with
    path := data.path.getD folder.path
    libraryId := data.libraryId.getD folder.libraryId
    enabled := data.enabled.getD folder.enabled
    filetypes := match data.extensions.join with
      | none => folder.filetypes
      | some extensions => normalizeExtensions lower extensions }

lemma FolderUpdate.setFields_filetypes (lower : Str → Str) (data : FolderUpdate)
    (folder : FolderRow) :
    (data.setFields lower folder).filetypes =
      (data.extensions.join.map (normalizeExtensions lower)).getD folder.filetypes := by
  unfold setFields
  cases data.extensions.join with
  | none => rfl
  | some extensions => rfl

namespace Store

/-- The ids of the folders. -/
def folderIds (s : Store) : List Nat :=
  s.folders.map FolderRow.id

/-- `create_folder`. -/
def createFolder (s : Store) (serverId : Nat) (data : FolderCreate) :
    Except RepoError (FolderRow × Store) :=
  let folder : FolderRow :=
    { serverId := serverId
      path := data.path
      libraryId := data.libraryId
      enabled := data.enabled
      filetypes := data.extensions
      id := nextId s.folderIds
      libraryName := data.libraryName }
  if serverId ∈ s.ids then .ok (folder, { s with folders := s.folders ++ [folder] })
  else .error .integrityError

/-- `list_folders`. -/
def listFolders (s : Store) (serverId : Nat) : List FolderRow :=
  s.folders.filter fun folder => folder.serverId = serverId

/-- `get_folder`. -/
def getFolder (s : Store) (folderId : Nat) : Option FolderRow :=
  s.folders.find? fun folder => folder.id = folderId

/-- A changed row of `Folder` is committed. -/
def replaceFolder (s : Store) (folder : FolderRow) : Store :=
  { s with folders := s.folders.map fun old => if old.id = folder.id then folder else old }

/-- `update_folder`. -/
def updateFolder (lower : Str → Str) (s : Store) (folderId : Nat) (data : FolderUpdate) :
    Except FolderError (FolderRow × Store) :=
  match s.getFolder folderId with
  | none => .error (.keyError folderId)
  | some folder =>
    .ok (data.setFields lower folder, s.replaceFolder (data.setFields lower folder))

/-- `delete_folder`; the extensions go with the folder. -/
def deleteFolder (s : Store) (folderId : Nat) : Store :=
  { s with folders := s.folders.filter fun folder => folder.id ≠ folderId }

/-- `set_filetypes`. -/
def setFiletypes (lower : Str → Str) (s : Store) (folderId : Nat) (extensions : List Str) :
    Except FolderError (List Str × Store) :=
  match s.getFolder folderId with
  | none => .error (.keyError folderId)
  | some folder =>
    let normalized := normalizeExtensions lower extensions
    .ok (normalized, s.replaceFolder { folder with filetypes := normalized })

/-- `create_folder` for each of them in order, up to the first that raises. -/
def createFolders (s : Store) (serverId : Nat) (folders : List FolderCreate) :
    Except RepoError Store :=
  folders.foldlM (fun s data => Prod.snd <$> s.createFolder serverId data) s

/-- `delete_folder` for each folder of a server. -/
def deleteFolders (s : Store) (serverId : Nat) : Store :=
  (s.listFolders serverId).foldl (fun s folder => s.deleteFolder folder.id) s

/-- `create_server`, then `create_folder` for each folder. -/
def createThenFolders (box : SecretBox) (nonce : Str) (s : Store) (data : ServerCreate)
    (folders : List FolderCreate) : Except RepoError Store := do
  let (server, s) ← s.createServer box nonce data
  s.createFolders server.id folders

/-- `update_server`, then the deletion of all folders of the server, then `create_folder` for each
folder. -/
def updateThenFolders (box : SecretBox) (nonce : Str) (s : Store) (serverId : Nat)
    (data : ServerUpdate) (folders : List FolderCreate) : Except RepoError Store := do
  let (_, s) ← s.updateServer box nonce serverId data
  (s.deleteFolders serverId).createFolders serverId folders

/-- The database after a transaction: one that raises has committed nothing. -/
def after {ε α : Type} (s : Store) : Except ε (α × Store) → Store
  | .ok (_, s') => s'
  | .error _ => s

end Store

/-- The writes of the repository that the tables of servers and folders know; what is random about a
token is chosen here. -/
inductive RepoWrite
  | createServer (nonce : Str) (data : ServerCreate)
  | createServerWithFolders (nonce : Str) (data : ServerCreate) (folders : List FolderCreate)
  | updateServer (nonce : Str) (serverId : Nat) (data : ServerUpdate)
  | updateServerWithFolders (nonce : Str) (serverId : Nat) (data : ServerUpdate)
      (folders : List FolderCreate)
  | deleteServer (serverId : Nat)
  | createFolder (serverId : Nat) (data : FolderCreate)
  | updateFolder (folderId : Nat) (data : FolderUpdate)
  | deleteFolder (folderId : Nat)
  | setFiletypes (folderId : Nat) (extensions : List Str)

namespace Store

/-- What a write leaves. -/
def write (box : SecretBox) (lower : Str → Str) (s : Store) : RepoWrite → Store
  | .createServer nonce data => s.after (s.createServer box nonce data)
  | .createServerWithFolders nonce data folders =>
    s.after (s.createServerWithFolders box nonce data folders)
  | .updateServer nonce serverId data => s.after (s.updateServer box nonce serverId data)
  | .updateServerWithFolders nonce serverId data folders =>
    s.after (s.updateServerWithFolders box nonce serverId data folders)
  | .deleteServer serverId => s.deleteServer serverId
  | .createFolder serverId data => s.after (s.createFolder serverId data)
  | .updateFolder folderId data => s.after (s.updateFolder lower folderId data)
  | .deleteFolder folderId => s.deleteFolder folderId
  | .setFiletypes folderId extensions => s.after (s.setFiletypes lower folderId extensions)

/-- The keys that the schema declares: primary keys, and the server of a folder. -/
structure Keyed (s : Store) : Prop where
  servers : s.ids.Nodup
  folders : s.folderIds.Nodup
  owned : ∀ folder ∈ s.folders, folder.serverId ∈ s.ids

end Store

/-- A state of the database. -/
structure Database extends Store where
  keyed : toStore.Keyed

/-- The empty database. -/
def emptyDatabase : Database :=
  ⟨⟨[], []⟩, List.nodup_nil, List.nodup_nil, fun _ h => (by cases h)⟩

/-- What a row of `Folder` holds besides its id. -/
def FolderRow.content (folder : FolderRow) : Folder × Option Str :=
  (folder.toFolder, folder.libraryName)

/-- The row that a folder of a server becomes, but for its id. -/
def FolderCreate.content (serverId : Nat) (data : FolderCreate) : Folder × Option Str :=
  (⟨serverId, data.path, data.libraryId, data.enabled, data.extensions⟩, data.libraryName)

namespace Store

/-- The same rows, up to the ids of the folders. -/
structure SameRows (s t : Store) : Prop where
  servers : s.servers = t.servers
  folders : s.folders.map FolderRow.content = t.folders.map FolderRow.content

/-- Two writes leave the same rows, or raise the same. -/
inductive SameOutcome : Except RepoError Store → Except RepoError Store → Prop
  | rows (s t : Store) : SameRows s t → SameOutcome (.ok s) (.ok t)
  | raised (error : RepoError) : SameOutcome (.error error) (.error error)

variable {box : SecretBox} {nonce : Str} {s s' t : Store} {row old : ServerRow} {serverId : Nat}
  {data : FolderCreate} {folders : List FolderCreate}

lemma getFolder_id {folder : FolderRow} {folderId : Nat} (h : s.getFolder folderId = some folder) :
    folder.id = folderId :=
  of_decide_eq_true (List.find?_eq_some_iff_append.1 h).1

/-- A changed row is found under its id. -/
lemma getFolder_replaceFolder {folder new : FolderRow} {folderId : Nat}
    (h : s.getFolder folderId = some folder) (hid : new.id = folderId) :
    (s.replaceFolder new).getFolder folderId = some new := by
  obtain ⟨servers, folders⟩ := s
  have h : folders.find? (fun folder => folder.id = folderId) = some folder := h
  show (folders.map fun old => if old.id = new.id then new else old).find?
    (fun folder => folder.id = folderId) = some new
  induction folders with
  | nil => cases h
  | cons old rest ih =>
    rw [List.map_cons]
    by_cases hold : old.id = folderId
    · rw [if_pos (hold.trans hid.symm)]
      exact List.find?_cons_of_pos (decide_eq_true hid)
    · simp only [List.find?_cons, hold, decide_false] at h
      rw [if_neg fun he : old.id = new.id => hold (he.trans hid)]
      simp only [List.find?_cons, hold, decide_false]
      exact ih h h

lemma createFolder_ok (h : serverId ∈ s.ids) (data : FolderCreate) :
    ∃ folder, s.createFolder serverId data =
        .ok (folder, { s with folders := s.folders ++ [folder] }) ∧
      folder.content = data.content serverId ∧ folder.id = nextId s.folderIds := by
  rw [createFolder, if_pos h]
  exact ⟨_, rfl, rfl, rfl⟩

/-- For a server that is there, the folders are appended one by one. -/
lemma createFolders_ok (h : serverId ∈ s.ids) (folders : List FolderCreate) :
    ∃ t, s.createFolders serverId folders = .ok t ∧ t.servers = s.servers ∧
      t.folders.map FolderRow.content =
        s.folders.map FolderRow.content ++ folders.map (FolderCreate.content serverId) := by
  induction folders generalizing s with
  | nil => exact ⟨s, rfl, rfl, (List.append_nil _).symm⟩
  | cons data folders ih =>
    obtain ⟨folder, hc, hcontent, -⟩ := createFolder_ok h data
    have hids : serverId ∈ ({ s with folders := s.folders ++ [folder] } : Store).ids := h
    obtain ⟨t, ht, hs, hf⟩ := ih hids
    refine ⟨t, ?_, hs, ?_⟩
    · rw [createFolders, List.foldlM_cons, hc]
      exact ht
    · rw [hf, List.map_append, List.map_singleton, hcontent, List.append_assoc]
      rfl

lemma foldl_deleteFolder (l : List FolderRow) :
    l.foldl (fun s folder => s.deleteFolder folder.id) s =
      { s with folders := s.folders.filter fun folder => folder.id ∉ l.map FolderRow.id } := by
  induction l generalizing s with
  | nil =>
    have hall : s.folders.filter (fun folder => folder.id ∉ [].map FolderRow.id) = s.folders :=
      List.filter_eq_self.2 fun _ _ => rfl
    rw [hall]
    rfl
  | cons first l ih =>
    rw [List.foldl_cons, ih, deleteFolder, List.filter_filter]
    congr 1
    apply List.filter_congr
    intro folder _
    rw [List.map_cons, ← Bool.decide_and, decide_eq_decide, List.mem_cons, not_or, and_comm]

/-- By their ids, no folder of another server is deleted. -/
lemma deleteFolders_eq (h : s.folderIds.Nodup) (serverId : Nat) :
    s.deleteFolders serverId =
      { s with folders := s.folders.filter fun folder => folder.serverId ≠ serverId } := by
  rw [deleteFolders, foldl_deleteFolder]
  congr 1
  apply List.filter_congr
  intro folder hf
  apply decide_eq_decide.2
  constructor
  · intro hid hserver
    apply hid
    apply List.mem_map_of_mem
    exact List.mem_filter.2 ⟨hf, decide_eq_true hserver⟩
  · intro hserver hid
    obtain ⟨other, ho, hid⟩ := List.mem_map.1 hid
    obtain ⟨ho, hother⟩ := List.mem_filter.1 ho
    cases List.inj_on_of_nodup_map h ho hf hid
    exact hserver (of_decide_eq_true hother)

lemma mem_ids_deleteFolders (h : s.folderIds.Nodup) (hmem : serverId ∈ s.ids) :
    serverId ∈ (s.deleteFolders serverId).ids := by
  rw [deleteFolders_eq h]
  exact hmem

/-- The new rows are those of the folders, whatever their ids are. -/
lemma setServerFolders_content (serverId : Nat) (folders : List FolderCreate) :
    (s.setServerFolders serverId folders).folders.map FolderRow.content =
      (s.folders.filter fun folder => folder.serverId ≠ serverId).map FolderRow.content ++
        folders.map (FolderCreate.content serverId) := by
  rw [setServerFolders, List.map_append]
  congr 1
  apply List.ext_getElem?
  intro i
  rw [List.getElem?_map, List.getElem?_mapIdx, List.getElem?_map, Option.map_map]
  rfl

lemma mem_setServerFolders {folder : FolderRow}
    (h : folder ∈ (s.setServerFolders serverId folders).folders) :
    folder ∈ s.folders ∧ folder.serverId ≠ serverId ∨ folder.serverId = serverId := by
  rcases List.mem_append.1 h with h | h
  · obtain ⟨hf, hne⟩ := List.mem_filter.1 h
    exact .inl ⟨hf, of_decide_eq_true hne⟩
  · obtain ⟨i, hi, rfl⟩ := List.mem_mapIdx.1 h
    exact .inr rfl

/-- The folders of the other servers stay as they are. -/
lemma setServerFolders_others (serverId : Nat) (folders : List FolderCreate) :
    ((s.setServerFolders serverId folders).folders.filter fun folder =>
      folder.serverId ≠ serverId) = s.folders.filter fun folder => folder.serverId ≠ serverId := by
  rw [setServerFolders, List.filter_append, List.filter_filter]
  refine (congrArg₂ List.append ?_ (List.filter_eq_nil_iff.2 ?_)).trans (List.append_nil _)
  · apply List.filter_congr
    intro folder _
    exact Bool.and_self _
  · intro folder hf
    obtain ⟨i, hi, rfl⟩ := List.mem_mapIdx.1 hf
    exact fun hne => of_decide_eq_true hne rfl

/-- The new ids count on from the largest one. -/
lemma nodup_setServerFolders (h : s.folderIds.Nodup) (serverId : Nat)
    (folders : List FolderCreate) : (s.setServerFolders serverId folders).folderIds.Nodup := by
  rw [folderIds, setServerFolders, List.map_append]
  apply (h.sublist (List.filter_sublist.map _)).append
  · rw [List.nodup_iff_injective_getElem]
    intro i j hij
    simp only [List.getElem_map, List.getElem_mapIdx] at hij
    exact Fin.ext (Nat.add_left_cancel hij)
  · intro id hold hnew
    obtain ⟨old, ho, rfl⟩ := List.mem_map.1 hold
    obtain ⟨new, hn, hid⟩ := List.mem_map.1 hnew
    obtain ⟨i, hi, rfl⟩ := List.mem_mapIdx.1 hn
    have hle : old.id ≤ s.folderIds.foldr max 0 :=
      le_foldr_max (List.mem_map_of_mem (List.mem_of_mem_filter ho))
    have hid : nextId s.folderIds + i = old.id := hid
    rw [nextId] at hid
    omega

/-- Tables with the same ids of servers and no new owner have the same keys. -/
lemma Keyed.of_ids (h : s.Keyed) (hids : t.ids = s.ids) (hf : t.folderIds.Nodup)
    (ho : ∀ folder ∈ t.folders, folder.serverId ∈ s.ids) : t.Keyed := by
  refine ⟨?_, hf, fun folder hmem => ?_⟩
  · rw [hids]
    exact h.servers
  · rw [hids]
    exact ho folder hmem

lemma Created.keyed {data : ServerCreate} (h : Created box nonce s data row s')
    (hs : s.ids.Nodup) (hf : s'.folderIds.Nodup)
    (ho : ∀ folder ∈ s'.folders, folder.serverId ∈ s.ids ∨ folder.serverId = row.id) :
    s'.Keyed := by
  have hids : s'.ids = s.ids ++ [row.id] := by
    rw [ids, h.servers, List.map_append]
    rfl
  refine ⟨h.nodup hs, hf, fun folder hmem => ?_⟩
  rw [hids]
  rcases ho folder hmem with hold | hnew
  · exact List.mem_append_left _ hold
  · rw [hnew]
    exact List.mem_append_right _ (List.mem_singleton_self _)

lemma insertServer_folders {new : ServerRow} (h : s.insertServer new = .ok (row, s')) :
    s'.folders = s.folders := by
  rw [insertServer] at h
  split at h
  · cases h
  · cases h
    rfl

lemma replaceServer_folders {new : ServerRow} (h : s.replaceServer new = .ok (row, s')) :
    s'.folders = s.folders := by
  rw [replaceServer] at h
  split at h
  · cases h
  · cases h
    rfl

lemma insertServer_taken (h : s.nameTaken row.id row.name = true) :
    s.insertServer row = .error .integrityError := by
  rw [insertServer, if_pos h]

lemma insertServer_free (h : s.nameTaken row.id row.name = false) :
    s.insertServer row = .ok (row, { s with servers := s.servers ++ [row] }) := by
  rw [insertServer, if_neg (Bool.eq_false_iff.1 h)]

lemma replaceServer_taken (h : s.nameTaken row.id row.name = true) :
    s.replaceServer row = .error .integrityError := by
  rw [replaceServer, if_pos h]

/-- The tables with a changed row of `Server`. -/
def withServer (s : Store) (row : ServerRow) : Store :=
  { s with servers := s.servers.map fun old => if old.id = row.id then row else old }

lemma replaceServer_free (h : s.nameTaken row.id row.name = false) :
    s.replaceServer row = .ok (row, s.withServer row) := by
  rw [replaceServer, if_neg (Bool.eq_false_iff.1 h)]
  rfl

lemma withServer_ids (s : Store) (row : ServerRow) : (s.withServer row).ids = s.ids := by
  apply List.map_map.trans
  apply List.map_congr_left
  intro old _
  show (if old.id = row.id then row else old).id = old.id
  split
  · next hid => exact hid.symm
  · rfl

/-- The row that either creation inserts. -/
def created (box : SecretBox) (nonce : Str) (serverId : Nat) (data : ServerCreate) : ServerRow :=
  { id := serverId
    name := data.name
    type := data.type
    baseUrl := data.baseUrl
    verifyTls := data.verifyTls
    timeoutSeconds := data.timeoutSeconds
    secretEncrypted := data.secret.map (box.encrypt nonce)
    scanMode := data.scanMode
    debounceMode := data.debounceMode
    debounceWindowSeconds := data.debounceWindowSeconds
    retryAttempts := data.retryAttempts
    enabled := data.enabled
    webhookMethod := data.webhookMethod
    webhookHeadersJson := data.webhookHeadersJson
    webhookBodyTemplate := data.webhookBodyTemplate
    webhookPayloadPreset := data.webhookPayloadPreset
    eventTypes := serializeEventTypes data.eventTypes }

lemma createServer_eq (data : ServerCreate) :
    s.createServer box nonce data = s.insertServer (created box nonce (nextId s.ids) data) := rfl

lemma createServerWithFolders_eq (data : ServerCreate) (folders : List FolderCreate) :
    s.createServerWithFolders box nonce data folders =
      (s.setServerFolders (nextId s.ids) folders).insertServer
        (created box nonce (nextId s.ids) data) := rfl

/-- What a creation with folders leaves alone. -/
structure Inserted (s : Store) (row : ServerRow) (s' : Store) : Prop where
  fresh : row.id ∉ s.ids
  servers : s'.servers = s.servers ++ [row]
  folders : (s'.folders.filter fun folder => folder.serverId ≠ row.id) = s.folders
  keyed : s'.Keyed

/-- The columns that an update does not set are those of the row before. An explicit null for the
event types sets nothing. -/
structure Unset (data : ServerUpdate) (old row : ServerRow) : Prop where
  id : row.id = old.id
  name : data.name = none → row.name = old.name
  type : data.type = none → row.type = old.type
  baseUrl : data.baseUrl = none → row.baseUrl = old.baseUrl
  verifyTls : data.verifyTls = none → row.verifyTls = old.verifyTls
  timeoutSeconds : data.timeoutSeconds = none → row.timeoutSeconds = old.timeoutSeconds
  secret : data.secret = none → row.secretEncrypted = old.secretEncrypted
  scanMode : data.scanMode = none → row.scanMode = old.scanMode
  debounceMode : data.debounceMode = none → row.debounceMode = old.debounceMode
  debounceWindowSeconds : data.debounceWindowSeconds = none →
    row.debounceWindowSeconds = old.debounceWindowSeconds
  retryAttempts : data.retryAttempts = none → row.retryAttempts = old.retryAttempts
  enabled : data.enabled = none → row.enabled = old.enabled
  webhookMethod : data.webhookMethod = none → row.webhookMethod = old.webhookMethod
  webhookHeadersJson : data.webhookHeadersJson = none →
    row.webhookHeadersJson = old.webhookHeadersJson
  webhookBodyTemplate : data.webhookBodyTemplate = none →
    row.webhookBodyTemplate = old.webhookBodyTemplate
  webhookPayloadPreset : data.webhookPayloadPreset = none →
    row.webhookPayloadPreset = old.webhookPayloadPreset
  eventTypes : data.eventTypes.join = none → row.eventTypes = old.eventTypes

/-- What an update with folders leaves alone. -/
structure Replaced (s : Store) (serverId : Nat) (data : ServerUpdate) (old row : ServerRow)
    (s' : Store) : Prop where
  found : s.getServer serverId = some old
  unset : Unset data old row
  servers : s'.servers = s.servers.map fun other => if other.id = serverId then row else other
  folders : (s'.folders.filter fun folder => folder.serverId ≠ serverId) =
    s.folders.filter fun folder => folder.serverId ≠ serverId
  keyed : s'.Keyed

/-- The columns of the row that an update writes. -/
lemma written_eq (data : ServerUpdate) (old : ServerRow) :
    written box nonce data old =
      { data.setFields old with
        secretEncrypted := (data.secret.map (Option.map (box.encrypt nonce))).getD
          old.secretEncrypted
        eventTypes := (data.eventTypes.join.map serializeEventTypes).getD old.eventTypes } := by
  unfold written
  cases data.secret with
  | none => cases data.eventTypes.join <;> rfl
  | some secret => cases data.eventTypes.join <;> rfl

lemma unset_written (data : ServerUpdate) (old : ServerRow) :
    Unset data old (written box nonce data old) := by
  rw [written_eq]
  refine ⟨rfl, ?_, ?_, ?_, ?_, ?_, ?_, ?_, ?_, ?_, ?_, ?_, ?_, ?_, ?_, ?_, ?_⟩
  all_goals
    intro h
    simp only [ServerUpdate.setFields, h, Option.map_none, Option.getD_none]

/-- No folder belongs to the server that is about to be created. -/
lemma Keyed.others_of_new (h : s.Keyed) :
    (s.folders.filter fun folder => folder.serverId ≠ nextId s.ids) = s.folders := by
  apply List.filter_eq_self.2
  intro folder hf
  apply decide_eq_true
  intro hnew
  have howned := h.owned folder hf
  rw [hnew] at howned
  exact nextId_notMem s.ids howned

lemma inserted (h : s.Keyed) {data : ServerCreate} {folders : List FolderCreate}
    (hok : s.createServerWithFolders box nonce data folders = .ok (row, s')) :
    Inserted s row s' := by
  have hc := createServerWithFolders_ok hok
  have hfolders : s'.folders = (s.setServerFolders (nextId s.ids) folders).folders :=
    insertServer_folders hok
  refine ⟨?_, hc.servers, ?_, ?_⟩
  · rw [hc.id]
    exact nextId_notMem s.ids
  · rw [hfolders, hc.id, setServerFolders_others]
    exact h.others_of_new
  · apply hc.keyed h.servers
    · rw [folderIds, hfolders]
      exact nodup_setServerFolders h.folders _ folders
    · intro folder hf
      rw [hfolders] at hf
      rcases mem_setServerFolders hf with ⟨hf, -⟩ | hf
      · exact .inl (h.owned folder hf)
      · exact .inr (hf.trans hc.id.symm)

lemma createServerWithFolders_error {data : ServerCreate} {folders : List FolderCreate}
    {error : RepoError} (h : s.createServerWithFolders box nonce data folders = .error error) :
    error = .integrityError ∧ s.nameTaken (nextId s.ids) data.name = true := by
  rw [createServerWithFolders_eq, insertServer] at h
  split at h
  · next htaken =>
    cases h
    exact ⟨rfl, htaken⟩
  · cases h

/-- By whether the name is taken. -/
lemma create_outcome (h : s.Keyed) (data : ServerCreate) (folders : List FolderCreate) :
    SameOutcome (Prod.snd <$> s.createServerWithFolders box nonce data folders)
      (s.createThenFolders box nonce data folders) := by
  rw [createThenFolders, createServer_eq, createServerWithFolders_eq]
  cases htaken : s.nameTaken (nextId s.ids) data.name with
  | true =>
    have ha : s.insertServer (created box nonce (nextId s.ids) data) = .error .integrityError :=
      insertServer_taken htaken
    have hb : (s.setServerFolders (nextId s.ids) folders).insertServer
        (created box nonce (nextId s.ids) data) = .error .integrityError :=
      insertServer_taken htaken
    rw [ha, hb]
    exact .raised .integrityError
  | false =>
    have ha : s.insertServer (created box nonce (nextId s.ids) data) = .ok _ :=
      insertServer_free htaken
    have hb : (s.setServerFolders (nextId s.ids) folders).insertServer
        (created box nonce (nextId s.ids) data) = .ok _ := insertServer_free htaken
    rw [ha, hb]
    have hmem : nextId s.ids ∈ ({ s with
        servers := s.servers ++ [created box nonce (nextId s.ids) data] } : Store).ids :=
      List.mem_map_of_mem (List.mem_append_right _ (List.mem_singleton_self _))
    obtain ⟨t, ht, hservers, hcontent⟩ := createFolders_ok hmem folders
    show SameOutcome (.ok _) (createFolders _ (nextId s.ids) folders)
    rw [ht]
    refine .rows _ _ ⟨hservers.symm, ?_⟩
    rw [hcontent]
    apply (setServerFolders_content (nextId s.ids) folders).trans
    rw [h.others_of_new]

/-- The row that is found is replaced, by its id. -/
lemma replaced (h : s.Keyed) {data : ServerUpdate} {folders : List FolderCreate}
    (hok : s.updateServerWithFolders box nonce serverId data folders = .ok (row, s')) :
    ∃ old, Replaced s serverId data old row s' := by
  rw [updateServerWithFolders_eq] at hok
  cases hold : s.getServer serverId with
  | none =>
    rw [hold] at hok
    cases hok
  | some old =>
    rw [hold] at hok
    dsimp only at hok
    have hid : (written box nonce data old).id = serverId :=
      (written_fields box nonce data old).1.trans (getServer_id hold)
    rw [replaceServer] at hok
    split at hok
    · cases hok
    · cases hok
      refine ⟨old, hold, unset_written data old, ?_, setServerFolders_others serverId folders, ?_⟩
      · rw [hid]
        rfl
      · apply h.of_ids (withServer_ids (s.setServerFolders serverId folders) _)
          (nodup_setServerFolders h.folders serverId folders)
        intro folder hf
        rcases mem_setServerFolders hf with ⟨hf, -⟩ | hf
        · exact h.owned folder hf
        · rw [hf, ← getServer_id hold]
          exact List.mem_map_of_mem (mem_of_getServer hold)

lemma updateServerWithFolders_error {data : ServerUpdate} {folders : List FolderCreate}
    {error : RepoError}
    (h : s.updateServerWithFolders box nonce serverId data folders = .error error) :
    error = .keyError serverId ∧ s.getServer serverId = none ∨
      error = .integrityError ∧ ∃ old, s.getServer serverId = some old ∧
        s.nameTaken serverId (data.name.getD old.name) = true := by
  rw [updateServerWithFolders_eq] at h
  cases hold : s.getServer serverId with
  | none =>
    rw [hold] at h
    cases h
    exact .inl ⟨rfl, rfl⟩
  | some old =>
    rw [hold] at h
    dsimp only at h
    rw [replaceServer] at h
    split at h
    · next htaken =>
      cases h
      obtain ⟨hid, hname, -⟩ := written_fields box nonce data old
      rw [hid, hname, getServer_id hold] at htaken
      exact .inr ⟨rfl, old, rfl, htaken⟩
    · cases h

lemma update_outcome (h : s.Keyed) (serverId : Nat) (data : ServerUpdate)
    (folders : List FolderCreate) :
    SameOutcome (Prod.snd <$> s.updateServerWithFolders box nonce serverId data folders)
      (s.updateThenFolders box nonce serverId data folders) := by
  rw [updateThenFolders, updateServer_eq, updateServerWithFolders_eq]
  cases hold : s.getServer serverId with
  | none => exact .raised (.keyError serverId)
  | some old =>
    dsimp only
    cases htaken : s.nameTaken (written box nonce data old).id (written box nonce data old).name with
    | true =>
      have ha : s.replaceServer (written box nonce data old) = .error .integrityError :=
        replaceServer_taken htaken
      have hb : (s.setServerFolders serverId folders).replaceServer (written box nonce data old) =
          .error .integrityError := replaceServer_taken htaken
      rw [ha, hb]
      exact .raised .integrityError
    | false =>
      have ha : s.replaceServer (written box nonce data old) = .ok _ := replaceServer_free htaken
      have hb : (s.setServerFolders serverId folders).replaceServer (written box nonce data old) =
          .ok _ := replaceServer_free htaken
      rw [ha, hb]
      have hmem : serverId ∈ s.ids := by
        rw [← getServer_id hold]
        exact List.mem_map_of_mem (mem_of_getServer hold)
      rw [← withServer_ids s (written box nonce data old)] at hmem
      have hids : (s.withServer (written box nonce data old)).folderIds.Nodup := h.folders
      obtain ⟨t, ht, hservers, hcontent⟩ :=
        createFolders_ok (mem_ids_deleteFolders hids hmem) folders
      show SameOutcome (.ok _) (createFolders (deleteFolders _ serverId) serverId folders)
      rw [ht]
      rw [deleteFolders_eq hids] at hservers hcontent
      refine .rows _ _ ⟨hservers.symm, ?_⟩
      rw [hcontent]
      exact setServerFolders_content serverId folders

/-- What holds before a transaction and is kept when it commits holds after it. -/
lemma forall_after {ε α : Type} (P : Store → Prop) {result : Except ε (α × Store)} (h : P s)
    (hok : ∀ a s', result = .ok (a, s') → P s') : P (s.after result) := by
  cases result with
  | error error => exact h
  | ok p => exact hok p.1 p.2 rfl

lemma Keyed.createServer (h : s.Keyed) {data : ServerCreate}
    (hok : s.createServer box nonce data = .ok (row, s')) : s'.Keyed := by
  have hfolders : s'.folders = s.folders := insertServer_folders hok
  apply (createServer_ok hok).keyed h.servers
  · rw [folderIds, hfolders]
    exact h.folders
  · intro folder hf
    rw [hfolders] at hf
    exact .inl (h.owned folder hf)

lemma Keyed.updateServer (h : s.Keyed) {data : ServerUpdate}
    (hok : s.updateServer box nonce serverId data = .ok (row, s')) : s'.Keyed := by
  obtain ⟨old, hu⟩ := updateServer_ok hok
  have hfolders : s'.folders = s.folders := by
    rw [updateServer_eq, hu.found] at hok
    exact replaceServer_folders hok
  apply h.of_ids hu.ids
  · rw [folderIds, hfolders]
    exact h.folders
  · intro folder hf
    rw [hfolders] at hf
    exact h.owned folder hf

/-- The folders go with their server. -/
lemma Keyed.deleteServer (h : s.Keyed) (serverId : Nat) : (s.deleteServer serverId).Keyed := by
  refine ⟨nodup_deleteServer h.servers, h.folders.sublist (List.filter_sublist.map _), ?_⟩
  intro folder hf
  obtain ⟨hf, hne⟩ := List.mem_filter.1 hf
  obtain ⟨row, hr, hid⟩ := List.mem_map.1 (h.owned folder hf)
  rw [← hid]
  apply List.mem_map_of_mem
  apply List.mem_filter.2
  rw [hid]
  exact ⟨hr, hne⟩

lemma Keyed.createFolder (h : s.Keyed) {folder : FolderRow}
    (hok : s.createFolder serverId data = .ok (folder, s')) : s'.Keyed := by
  rw [Store.createFolder] at hok
  split at hok
  · next hmem =>
    cases hok
    refine ⟨h.servers, ?_, fun other ho => ?_⟩
    · rw [folderIds, List.map_append]
      apply h.folders.append (List.nodup_singleton _)
      intro id hid hnext
      rw [List.mem_singleton.1 hnext] at hid
      exact nextId_notMem s.folderIds hid
    · rcases List.mem_append.1 ho with ho | ho
      · exact h.owned other ho
      · cases List.mem_singleton.1 ho
        exact hmem
  · cases hok

/-- A folder keeps its id and its server. -/
lemma Keyed.replaceFolder (h : s.Keyed) {folder new : FolderRow} {folderId : Nat}
    (hf : s.getFolder folderId = some folder) (hserver : new.serverId = folder.serverId) :
    (s.replaceFolder new).Keyed := by
  refine ⟨h.servers, ?_, fun other ho => ?_⟩
  · have hids : (s.replaceFolder new).folderIds = s.folderIds := by
      apply List.map_map.trans
      apply List.map_congr_left
      intro old _
      show (if old.id = new.id then new else old).id = old.id
      split
      · next hid => exact hid.symm
      · rfl
    rw [hids]
    exact h.folders
  · obtain ⟨old, hold, rfl⟩ := List.mem_map.1 ho
    split
    · rw [hserver]
      exact h.owned folder (List.mem_of_find?_eq_some hf)
    · exact h.owned old hold

lemma Keyed.updateFolder {lower : Str → Str} {folderId : Nat} {update : FolderUpdate}
    {folder : FolderRow} (h : s.Keyed)
    (hok : s.updateFolder lower folderId update = .ok (folder, s')) : s'.Keyed := by
  rw [Store.updateFolder] at hok
  split at hok
  · cases hok
  · next hf =>
    cases hok
    exact h.replaceFolder hf rfl

lemma Keyed.setFiletypes {lower : Str → Str} {folderId : Nat} {extensions normalized : List Str}
    (h : s.Keyed) (hok : s.setFiletypes lower folderId extensions = .ok (normalized, s')) :
    s'.Keyed := by
  rw [Store.setFiletypes] at hok
  split at hok
  · cases hok
  · next hf =>
    cases hok
    exact h.replaceFolder hf rfl

lemma Keyed.deleteFolder (h : s.Keyed) (folderId : Nat) : (s.deleteFolder folderId).Keyed :=
  ⟨h.servers, h.folders.sublist (List.filter_sublist.map _),
    fun folder hf => h.owned folder (List.mem_of_mem_filter hf)⟩

/-- A transaction of the repository leaves the database with its keys. -/
lemma Keyed.write (box : SecretBox) (lower : Str → Str) (h : s.Keyed) (w : RepoWrite) :
    (s.write box lower w).Keyed := by
  cases w with
  | createServer nonce data => exact forall_after Keyed h fun _ _ hok => h.createServer hok
  | createServerWithFolders nonce data folders =>
    exact forall_after Keyed h fun _ _ hok => (inserted h hok).keyed
  | updateServer nonce serverId data => exact forall_after Keyed h fun _ _ hok => h.updateServer hok
  | updateServerWithFolders nonce serverId data folders =>
    apply forall_after Keyed h
    intro row s' hok
    obtain ⟨old, hr⟩ := replaced h hok
    exact hr.keyed
  | deleteServer serverId => exact h.deleteServer serverId
  | createFolder serverId data => exact forall_after Keyed h fun _ _ hok => h.createFolder hok
  | updateFolder folderId data => exact forall_after Keyed h fun _ _ hok => h.updateFolder hok
  | deleteFolder folderId => exact h.deleteFolder folderId
  | setFiletypes folderId extensions => exact forall_after Keyed h fun _ _ hok => h.setFiletypes hok

/-- Every row that is found under an id that was in use belongs to the server of the row before. -/
def OwnersKept (s t : Store) : Prop :=
  ∀ new ∈ t.folders, ∀ old ∈ s.folders, new.id = old.id → new.serverId = old.serverId

lemma Keyed.ownersKept_self (h : s.Keyed) : OwnersKept s s := by
  intro new hnew old hold hid
  rw [List.inj_on_of_nodup_map h.folders hnew hold hid]

/-- The ids that are given are larger than those in use. -/
lemma Keyed.ownersKept_setServerFolders (h : s.Keyed) (serverId : Nat)
    (folders : List FolderCreate) : OwnersKept s (s.setServerFolders serverId folders) := by
  intro new hnew old hold hid
  rcases List.mem_append.1 hnew with hnew | hnew
  · rw [List.inj_on_of_nodup_map h.folders (List.mem_of_mem_filter hnew) hold hid]
  · obtain ⟨i, hi, rfl⟩ := List.mem_mapIdx.1 hnew
    have hle : old.id ≤ s.folderIds.foldr max 0 := le_foldr_max (List.mem_map_of_mem hold)
    have hid : nextId s.folderIds + i = old.id := hid
    rw [nextId] at hid
    omega

lemma Keyed.ownersKept_replaceFolder (h : s.Keyed) {folder new : FolderRow} {folderId : Nat}
    (hf : s.getFolder folderId = some folder) (hid : new.id = folderId)
    (hserver : new.serverId = folder.serverId) : OwnersKept s (s.replaceFolder new) := by
  intro row hrow old hold he
  obtain ⟨before, hbefore, rfl⟩ := List.mem_map.1 hrow
  split at he
  · next hn =>
    rw [if_pos hn, hserver]
    apply congrArg (fun row : FolderRow => row.serverId)
    apply List.inj_on_of_nodup_map h.folders (List.mem_of_find?_eq_some hf) hold
    rw [getFolder_id hf, ← hid]
    exact he
  · next hn =>
    rw [if_neg hn, List.inj_on_of_nodup_map h.folders hbefore hold he]

/-- What a transaction of the repository does to the folders. -/
inductive FoldersWritten (lower : Str → Str) (s : Store) : RepoWrite → List FolderRow → Prop
  /-- It writes no folders, or it has raised. -/
  | unchanged (w : RepoWrite) : FoldersWritten lower s w s.folders
  | inserted (nonce : Str) (data : ServerCreate) (folders : List FolderCreate) :
      FoldersWritten lower s (.createServerWithFolders nonce data folders)
        (s.setServerFolders (nextId s.ids) folders).folders
  | replaced (nonce : Str) (serverId : Nat) (data : ServerUpdate) (folders : List FolderCreate) :
      FoldersWritten lower s (.updateServerWithFolders nonce serverId data folders)
        (s.setServerFolders serverId folders).folders
  | deleted (w : RepoWrite) (p : FolderRow → Bool) : FoldersWritten lower s w (s.folders.filter p)
  | created (serverId : Nat) (data : FolderCreate) (folder : FolderRow) :
      folder.content = data.content serverId → folder.id = nextId s.folderIds →
      FoldersWritten lower s (.createFolder serverId data) (s.folders ++ [folder])
  | updated (folderId : Nat) (data : FolderUpdate) (folder : FolderRow) :
      s.getFolder folderId = some folder →
      FoldersWritten lower s (.updateFolder folderId data)
        (s.replaceFolder (data.setFields lower folder)).folders
  | retyped (folderId : Nat) (extensions : List Str) (folder : FolderRow) :
      s.getFolder folderId = some folder →
      FoldersWritten lower s (.setFiletypes folderId extensions)
        (s.replaceFolder { folder with filetypes := normalizeExtensions lower extensions }).folders

lemma write_folders (box : SecretBox) (lower : Str → Str) (s : Store) (w : RepoWrite) :
    FoldersWritten lower s w (s.write box lower w).folders := by
  have hself : FoldersWritten lower s w s.folders := .unchanged w
  cases w with
  | createServer nonce data =>
    apply forall_after (fun t => FoldersWritten lower s _ t.folders) hself
    intro row s' hok
    rw [insertServer_folders hok]
    exact hself
  | createServerWithFolders nonce data folders =>
    apply forall_after (fun t => FoldersWritten lower s _ t.folders) hself
    intro row s' hok
    rw [insertServer_folders hok]
    exact .inserted nonce data folders
  | updateServer nonce serverId data =>
    apply forall_after (fun t => FoldersWritten lower s _ t.folders) hself
    intro row s' hok
    rw [updateServer_eq] at hok
    split at hok
    · cases hok
    · rw [replaceServer_folders hok]
      exact hself
  | updateServerWithFolders nonce serverId data folders =>
    apply forall_after (fun t => FoldersWritten lower s _ t.folders) hself
    intro row s' hok
    rw [updateServerWithFolders_eq] at hok
    split at hok
    · cases hok
    · rw [replaceServer_folders hok]
      exact .replaced nonce serverId data folders
  | deleteServer serverId => exact .deleted _ _
  | createFolder serverId data =>
    apply forall_after (fun t => FoldersWritten lower s _ t.folders) hself
    intro folder s' hok
    by_cases hmem : serverId ∈ s.ids
    · obtain ⟨folder', hc, hcontent, hid⟩ := createFolder_ok hmem data
      rw [hc] at hok
      cases hok
      exact .created serverId data folder hcontent hid
    · rw [Store.createFolder, if_neg hmem] at hok
      cases hok
  | updateFolder folderId data =>
    apply forall_after (fun t => FoldersWritten lower s _ t.folders) hself
    intro row s' hok
    rw [Store.updateFolder] at hok
    split at hok
    · cases hok
    · next folder hf =>
      cases hok
      exact .updated folderId data folder hf
  | deleteFolder folderId => exact .deleted _ _
  | setFiletypes folderId extensions =>
    apply forall_after (fun t => FoldersWritten lower s _ t.folders) hself
    intro row s' hok
    rw [Store.setFiletypes] at hok
    split at hok
    · cases hok
    · next folder hf =>
      cases hok
      exact .retyped folderId extensions folder hf

/-- A transaction of the repository gives an id that is in use to no other server. -/
lemma Keyed.ownersKept_write (box : SecretBox) (lower : Str → Str) (h : s.Keyed) (w : RepoWrite) :
    OwnersKept s (s.write box lower w) := by
  have hself : OwnersKept s s := h.ownersKept_self
  have hw := write_folders box lower s w
  unfold OwnersKept
  generalize (s.write box lower w).folders = rows at hw ⊢
  cases hw with
  | unchanged => exact hself
  | inserted nonce data folders => exact h.ownersKept_setServerFolders _ folders
  | replaced nonce serverId data folders => exact h.ownersKept_setServerFolders serverId folders
  | deleted => exact fun new hnew => hself new (List.mem_of_mem_filter hnew)
  | created serverId data folder hcontent hnext =>
    intro new hnew old hold hid
    rcases List.mem_append.1 hnew with hnew | hnew
    · exact hself new hnew old hold hid
    · cases List.mem_singleton.1 hnew
      have hused : old.id ∈ s.folderIds := List.mem_map_of_mem hold
      rw [← hid, hnext] at hused
      exact absurd hused (nextId_notMem s.folderIds)
  | updated folderId data folder hf =>
    have hid := getFolder_id hf
    exact h.ownersKept_replaceFolder hf hid rfl
  | retyped folderId extensions folder hf =>
    have hid := getFolder_id hf
    exact h.ownersKept_replaceFolder hf hid rfl

/-- The writes with folders, from a database on and with the same random choices: each leaves the rows
of the single writes or raises what they raise, leaves alone what is not its own, and leaves the
database unchanged when it raises. -/
theorem with_folders_twins (box : SecretBox) (nonce : Str) (db : Database) :
    (∀ (data : ServerCreate) (folders : List FolderCreate),
      SameOutcome (Prod.snd <$> db.createServerWithFolders box nonce data folders)
          (db.createThenFolders box nonce data folders) ∧
        (∀ row s', db.createServerWithFolders box nonce data folders = .ok (row, s') →
          Inserted db.toStore row s') ∧
        ∀ error, db.createServerWithFolders box nonce data folders = .error error →
          db.after (db.createServerWithFolders box nonce data folders) = db.toStore ∧
            error = .integrityError ∧ db.nameTaken (nextId db.ids) data.name = true) ∧
      ∀ (serverId : Nat) (data : ServerUpdate) (folders : List FolderCreate),
        SameOutcome (Prod.snd <$> db.updateServerWithFolders box nonce serverId data folders)
            (db.updateThenFolders box nonce serverId data folders) ∧
          (∀ row s', db.updateServerWithFolders box nonce serverId data folders = .ok (row, s') →
            ∃ old, Replaced db.toStore serverId data old row s') ∧
          ∀ error, db.updateServerWithFolders box nonce serverId data folders = .error error →
            db.after (db.updateServerWithFolders box nonce serverId data folders) = db.toStore ∧
              (error = .keyError serverId ∧ db.getServer serverId = none ∨
                error = .integrityError ∧ ∃ old, db.getServer serverId = some old ∧
                  db.nameTaken serverId (data.name.getD old.name) = true) := by
  constructor
  · intro data folders
    refine ⟨create_outcome db.keyed data folders, fun _ _ hok => inserted db.keyed hok, ?_⟩
    intro error h
    refine ⟨?_, createServerWithFolders_error h⟩
    rw [h]
    rfl
  · intro serverId data folders
    refine ⟨update_outcome db.keyed serverId data folders, fun _ _ hok => replaced db.keyed hok, ?_⟩
    intro error h
    refine ⟨?_, updateServerWithFolders_error h⟩
    rw [h]
    rfl

end Store

/-- The state that a write commits. -/
def Database.write (box : SecretBox) (lower : Str → Str) (db : Database) (w : RepoWrite) :
    Database :=
  ⟨db.toStore.write box lower w, db.keyed.write box lower w⟩

end MediaScanMonitor
