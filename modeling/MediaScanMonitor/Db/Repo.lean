import MediaScanMonitor.Config.Runtime
import MediaScanMonitor.Db.Schemas

/-!
# The repository

The server writes of `db/repo.py`. Each is one transaction: it commits all of its changes, or raises
and commits none. A table is a list of rows with distinct ids; a new row gets the id after the
largest one.
-/

namespace MediaScanMonitor
open Text

/-- `SecretBox`; the nonce stands for what is random about a token. -/
structure SecretBox where
  encrypt (nonce plaintext : Str) : Str
  /-- `none` is a `SecretDecryptError`. -/
  decrypt (token : Str) : Option Str
  decrypt_encrypt : ∀ nonce plaintext, decrypt (encrypt nonce plaintext) = some plaintext

lemma clear_decrypt (_nonce plaintext : Str) : some plaintext = some plaintext := rfl

/-- A box that leaves the secrets as they are. -/
def SecretBox.clear : SecretBox := ⟨fun _ plaintext => plaintext, some, clear_decrypt⟩

/-- A row of `Server` with the columns that only the adapters' clients read. -/
structure ServerRow extends Server where
  verifyTls : Bool
  timeoutSeconds : ℚ
deriving DecidableEq

/-- A row of `Folder` with its id and the label of its library. -/
structure FolderRow extends Folder where
  id : Nat
  libraryName : Option Str
deriving DecidableEq

/-- The tables. -/
structure Store where
  servers : List ServerRow
  folders : List FolderRow
deriving DecidableEq

/-- What a write of the repository raises. -/
inductive RepoError
  /-- There is no server with this id. -/
  | keyError (serverId : Nat)
  /-- The name is that of another server, or a folder is to belong to a server that is not there. -/
  | integrityError
deriving DecidableEq

/-- The remaining fields of the dump, set one by one. -/
def ServerUpdate.setFields (data : ServerUpdate) (row : ServerRow) : ServerRow :=
  { row with
    name := data.name.getD row.name
    type := data.type.getD row.type
    baseUrl := data.baseUrl.getD row.baseUrl
    verifyTls := data.verifyTls.getD row.verifyTls
    timeoutSeconds := data.timeoutSeconds.getD row.timeoutSeconds
    scanMode := data.scanMode.getD row.scanMode
    debounceMode := data.debounceMode.getD row.debounceMode
    debounceWindowSeconds := data.debounceWindowSeconds.getD row.debounceWindowSeconds
    retryAttempts := data.retryAttempts.getD row.retryAttempts
    enabled := data.enabled.getD row.enabled
    webhookMethod := data.webhookMethod.getD row.webhookMethod
    webhookHeadersJson := data.webhookHeadersJson.getD row.webhookHeadersJson
    webhookBodyTemplate := data.webhookBodyTemplate.getD row.webhookBodyTemplate
    webhookPayloadPreset := data.webhookPayloadPreset.getD row.webhookPayloadPreset }

namespace Store

/-- The id that SQLite gives to a new row. -/
def nextId (ids : List Nat) : Nat :=
  ids.foldr max 0 + 1

/-- The ids of the servers. -/
def ids (s : Store) : List Nat :=
  s.servers.map fun row => row.id

/-- Another server has the name. -/
def nameTaken (s : Store) (serverId : Nat) (name : Str) : Bool :=
  s.servers.any fun row => row.id ≠ serverId && row.name = name

/-- A new row of `Server` is committed. -/
def insertServer (s : Store) (row : ServerRow) : Except RepoError (ServerRow × Store) :=
  if s.nameTaken row.id row.name then .error .integrityError
  else .ok (row, { s with servers := s.servers ++ [row] })

/-- A changed row of `Server` is committed. -/
def replaceServer (s : Store) (row : ServerRow) : Except RepoError (ServerRow × Store) :=
  if s.nameTaken row.id row.name then .error .integrityError
  else
    .ok (row, { s with
      servers := s.servers.map fun old => if old.id = row.id then row else old })

/-- `_set_server_folders`; the new rows are inserted before the old ones are deleted. -/
def setServerFolders (s : Store) (serverId : Nat) (folders : List FolderCreate) : Store :=
  { s with
    folders := (s.folders.filter fun folder => folder.serverId ≠ serverId) ++
      folders.mapIdx fun i data =>
        { serverId := serverId
          path := data.path
          libraryId := data.libraryId
          enabled := data.enabled
          filetypes := data.extensions
          id := nextId (s.folders.map FolderRow.id) + i
          libraryName := data.libraryName } }

/-- `create_server`. -/
def createServer (box : SecretBox) (nonce : Str) (s : Store) (data : ServerCreate) :
    Except RepoError (ServerRow × Store) :=
  s.insertServer
    { id := nextId s.ids
      name := data.name
      type := data.type
      baseUrl := data.baseUrl
      verifyTls := data.verifyTls
      timeoutSeconds := data.timeoutSeconds
      secretEncrypted := data.secret.map (box.encrypt nonce)
      scanMode := data.scanMode
      debounceMode := data.debounceMode
      debounceWindowSeconds := data.debounceWindowSeconds
      retryAttempts := data.retryAttempts
      enabled := data.enabled
      webhookMethod := data.webhookMethod
      webhookHeadersJson := data.webhookHeadersJson
      webhookBodyTemplate := data.webhookBodyTemplate
      webhookPayloadPreset := data.webhookPayloadPreset
      eventTypes := serializeEventTypes data.eventTypes }

/-- `get_server`. -/
def getServer (s : Store) (serverId : Nat) : Option ServerRow :=
  s.servers.find? fun row => row.id = serverId

/-- `create_server_with_folders`. -/
def createServerWithFolders (box : SecretBox) (nonce : Str) (s : Store) (serverData : ServerCreate)
    (folders : List FolderCreate) : Except RepoError (ServerRow × Store) :=
  let serverId := nextId s.ids
  (s.setServerFolders serverId folders).insertServer
    { id := serverId
      name := serverData.name
      type := serverData.type
      baseUrl := serverData.baseUrl
      verifyTls := serverData.verifyTls
      timeoutSeconds := serverData.timeoutSeconds
      secretEncrypted := serverData.secret.map (box.encrypt nonce)
      scanMode := serverData.scanMode
      debounceMode := serverData.debounceMode
      debounceWindowSeconds := serverData.debounceWindowSeconds
      retryAttempts := serverData.retryAttempts
      enabled := serverData.enabled
      webhookMethod := serverData.webhookMethod
      webhookHeadersJson := serverData.webhookHeadersJson
      webhookBodyTemplate := serverData.webhookBodyTemplate
      webhookPayloadPreset := serverData.webhookPayloadPreset
      eventTypes := serializeEventTypes serverData.eventTypes }

/-- `update_server`. -/
def updateServer (box : SecretBox) (nonce : Str) (s : Store) (serverId : Nat)
    (data : ServerUpdate) : Except RepoError (ServerRow × Store) :=
  match s.getServer serverId with
  | none => .error (.keyError serverId)
  | some server =>
    -- a `null` clears the secret, a missing field leaves it
    let server := match data.secret with
      | none => server
      | some secret => { server with secretEncrypted := secret.map (box.encrypt nonce) }
    let server := data.setFields server
    let server := match data.eventTypes.join with
      | none => server
      | some types => { server with eventTypes := serializeEventTypes types }
    s.replaceServer server

/-- `update_server_with_folders`. -/
def updateServerWithFolders (box : SecretBox) (nonce : Str) (s : Store) (serverId : Nat)
    (data : ServerUpdate) (folders : List FolderCreate) :
    Except RepoError (ServerRow × Store) :=
  match s.getServer serverId with
  | none => .error (.keyError serverId)
  | some server =>
    let server := match data.secret with
      | none => server
      | some secret => { server with secretEncrypted := secret.map (box.encrypt nonce) }
    let server := data.setFields server
    let server := match data.eventTypes.join with
      | none => server
      | some types => { server with eventTypes := serializeEventTypes types }
    (s.setServerFolders serverId folders).replaceServer server

/-- `delete_server`; the folders go with the server. -/
def deleteServer (s : Store) (serverId : Nat) : Store :=
  { s with
    servers := s.servers.filter fun row => row.id ≠ serverId
    folders := s.folders.filter fun folder => folder.serverId ≠ serverId }

variable {box : SecretBox} {nonce : Str} {s s' : Store} {row : ServerRow} {serverId : Nat}

/-- What the two creations do to the table of servers. -/
structure Created (box : SecretBox) (nonce : Str) (s : Store) (data : ServerCreate)
    (row : ServerRow) (s' : Store) : Prop where
  id : row.id = nextId s.ids
  type : row.type = data.type
  secret : row.secretEncrypted = data.secret.map (box.encrypt nonce)
  servers : s'.servers = s.servers ++ [row]

/-- What the two updates do to the table of servers. -/
structure Updated (box : SecretBox) (nonce : Str) (s : Store) (serverId : Nat)
    (data : ServerUpdate) (old row : ServerRow) (s' : Store) : Prop where
  found : s.getServer serverId = some old
  free : s.nameTaken serverId (data.name.getD old.name) = false
  type : row.type = data.type.getD old.type
  kept : data.secret = none → row.secretEncrypted = old.secretEncrypted
  set : ∀ secret, data.secret = some secret →
    row.secretEncrypted = secret.map (box.encrypt nonce)
  servers : ∀ other ∈ s'.servers, other = row ∨ other ∈ s.servers
  ids : s'.ids = s.ids

lemma insertServer_ok {new : ServerRow} (h : s.insertServer new = .ok (row, s')) :
    row = new ∧ s'.servers = s.servers ++ [new] := by
  unfold insertServer at h
  split at h
  · cases h
  · cases h
    exact ⟨rfl, rfl⟩

lemma replaceServer_ok {new : ServerRow} (h : s.replaceServer new = .ok (row, s')) :
    row = new ∧ s.nameTaken new.id new.name = false ∧
      (∀ other ∈ s'.servers, other = new ∨ other ∈ s.servers) ∧ s'.ids = s.ids := by
  unfold replaceServer at h
  split at h
  · cases h
  · next hfree =>
    cases h
    refine ⟨rfl, Bool.eq_false_iff.2 hfree, fun other ho => ?_, ?_⟩
    · obtain ⟨old, hold, rfl⟩ := List.mem_map.1 ho
      split
      · exact .inl rfl
      · exact .inr hold
    · apply List.map_map.trans
      apply List.map_congr_left
      intro old _
      show (if old.id = row.id then row else old).id = old.id
      split
      · next hid => exact hid.symm
      · rfl

lemma createServer_ok {data : ServerCreate}
    (h : s.createServer box nonce data = .ok (row, s')) : Created box nonce s data row s' := by
  obtain ⟨rfl, hs⟩ := insertServer_ok h
  exact ⟨rfl, rfl, rfl, hs⟩

lemma createServerWithFolders_ok {data : ServerCreate} {folders : List FolderCreate}
    (h : s.createServerWithFolders box nonce data folders = .ok (row, s')) :
    Created box nonce s data row s' := by
  obtain ⟨rfl, hs⟩ := insertServer_ok h
  exact ⟨rfl, rfl, rfl, hs⟩

lemma getServer_id (h : s.getServer serverId = some row) : row.id = serverId := by
  have hid := List.find?_some h
  exact of_decide_eq_true hid

lemma mem_of_getServer (h : s.getServer serverId = some row) : row ∈ s.servers :=
  List.mem_of_find?_eq_some h

/-- The row that either update writes in place of `old`. -/
def written (box : SecretBox) (nonce : Str) (data : ServerUpdate) (old : ServerRow) : ServerRow :=
  let server := match data.secret with
    | none => old
    | some secret => { old with secretEncrypted := secret.map (box.encrypt nonce) }
  let server := data.setFields server
  match data.eventTypes.join with
  | none => server
  | some types => { server with eventTypes := serializeEventTypes types }

lemma updateServer_eq (data : ServerUpdate) :
    s.updateServer box nonce serverId data =
      match s.getServer serverId with
      | none => .error (.keyError serverId)
      | some old => s.replaceServer (written box nonce data old) := rfl

lemma updateServerWithFolders_eq (data : ServerUpdate) (folders : List FolderCreate) :
    s.updateServerWithFolders box nonce serverId data folders =
      match s.getServer serverId with
      | none => .error (.keyError serverId)
      | some old =>
        (s.setServerFolders serverId folders).replaceServer (written box nonce data old) := rfl

variable (box nonce) in
/-- The secret and the event types are columns of their own. -/
lemma written_fields (data : ServerUpdate) (old : ServerRow) :
    (written box nonce data old).id = old.id ∧
      (written box nonce data old).name = data.name.getD old.name ∧
      (written box nonce data old).type = data.type.getD old.type := by
  unfold written
  cases data.secret with
  | none => cases data.eventTypes.join <;> exact ⟨rfl, rfl, rfl⟩
  | some secret => cases data.eventTypes.join <;> exact ⟨rfl, rfl, rfl⟩

lemma written_kept {data : ServerUpdate} (h : data.secret = none) (old : ServerRow) :
    (written box nonce data old).secretEncrypted = old.secretEncrypted := by
  unfold written
  rw [h]
  cases data.eventTypes.join <;> rfl

lemma written_set {data : ServerUpdate} {secret : Option Str} (h : data.secret = some secret)
    (old : ServerRow) :
    (written box nonce data old).secretEncrypted = secret.map (box.encrypt nonce) := by
  unfold written
  rw [h]
  cases data.eventTypes.join <;> rfl

/-- The changed row is committed beside the same servers. -/
lemma updated_of_replace {t : Store} {data : ServerUpdate} {old : ServerRow}
    (hold : s.getServer serverId = some old) (ht : t.servers = s.servers)
    (h : t.replaceServer (written box nonce data old) = .ok (row, s')) :
    Updated box nonce s serverId data old row s' := by
  obtain ⟨rfl, hfree, hs, hids⟩ := replaceServer_ok h
  have htids : t.ids = s.ids := congrArg (List.map fun row : ServerRow => row.id) ht
  obtain ⟨hid, hname, htype⟩ := written_fields box nonce data old
  refine ⟨hold, ?_, htype, fun hk => written_kept hk old, fun _ hk => written_set hk old, ?_, ?_⟩
  · rw [hid, getServer_id hold, hname, nameTaken, ht] at hfree
    exact hfree
  · rw [ht] at hs
    exact hs
  · exact hids.trans htids

lemma updateServer_ok {data : ServerUpdate}
    (h : s.updateServer box nonce serverId data = .ok (row, s')) :
    ∃ old, Updated box nonce s serverId data old row s' := by
  rw [updateServer_eq] at h
  cases hold : s.getServer serverId with
  | none =>
    rw [hold] at h
    cases h
  | some old =>
    rw [hold] at h
    exact ⟨old, updated_of_replace hold rfl h⟩

lemma updateServerWithFolders_ok {data : ServerUpdate} {folders : List FolderCreate}
    (h : s.updateServerWithFolders box nonce serverId data folders = .ok (row, s')) :
    ∃ old, Updated box nonce s serverId data old row s' := by
  rw [updateServerWithFolders_eq] at h
  cases hold : s.getServer serverId with
  | none =>
    rw [hold] at h
    cases h
  | some old =>
    rw [hold] at h
    have ht : (s.setServerFolders serverId folders).servers = s.servers := rfl
    exact ⟨old, updated_of_replace hold ht h⟩

lemma mem_of_deleteServer (h : row ∈ (s.deleteServer serverId).servers) : row ∈ s.servers :=
  List.mem_of_mem_filter h

lemma le_foldr_max {ids : List Nat} {id : Nat} (h : id ∈ ids) : id ≤ ids.foldr max 0 := by
  induction ids with
  | nil => cases h
  | cons other ids ih =>
    cases List.mem_cons.1 h with
    | inl h =>
      rw [h]
      exact Nat.le_max_left other _
    | inr h => exact (ih h).trans (Nat.le_max_right other _)

lemma nextId_notMem (ids : List Nat) : nextId ids ∉ ids :=
  fun h => absurd (le_foldr_max h) (Nat.not_succ_le_self _)

/-- A creation keeps the ids distinct. -/
lemma Created.nodup {data : ServerCreate} (h : Created box nonce s data row s')
    (hs : s.ids.Nodup) : s'.ids.Nodup := by
  have hids : s'.ids = s.ids ++ [nextId s.ids] := by
    rw [ids, h.servers, List.map_append, ← h.id]
    rfl
  rw [hids]
  apply hs.append (List.nodup_singleton _)
  intro id hid hnext
  rw [List.mem_singleton.1 hnext] at hid
  exact nextId_notMem s.ids hid

lemma nodup_deleteServer (hs : s.ids.Nodup) : (s.deleteServer serverId).ids.Nodup :=
  hs.sublist (List.filter_sublist.map _)

/-- What `build_runtime_config` reads of the tables. -/
def toDb (s : Store) (settings : List (Str × Str)) : Db :=
  ⟨s.servers.map ServerRow.toServer, s.folders.map FolderRow.toFolder, settings⟩

end Store
end MediaScanMonitor
