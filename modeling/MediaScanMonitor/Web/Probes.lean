import MediaScanMonitor.Db.AtRest
import MediaScanMonitor.Servers.Libraries
import MediaScanMonitor.Servers.Retries
import MediaScanMonitor.Web.FolderEditor
import MediaScanMonitor.Web.Writes

/-!
# Probes

`web/serverprobe.py` and the routes of `web/pages.py` that probe a server: the configuration that a
form holds, before it is saved, and that of a row. Both surfaces are to agree on a server that was
created from the form.
-/

namespace MediaScanMonitor
open Text

/-- The fields of the form for a new server. -/
structure ServerForm where
  name : Str
  type : ServerType
  baseUrl : Str
  secret : Str
  scanMode : ScanMode
  debounceMode : DebounceMode
  debounceWindowSeconds : Nat
  retryAttempts : Int
  timeoutSeconds : ℚ
  verifyTls : Bool
  enabled : Bool
  webhookMethod : Str
  webhookHeadersJson : Str
  webhookBodyTemplate : Str
  webhookPayloadPreset : WebhookPreset
  eventTypes : List FsEventType
  folders : FormData

/-- A runtime, with the settings that `build_client` reads. -/
structure ProbeRuntime extends ServerRuntime where
  verifyTls : Bool
  timeoutSeconds : ℚ

/-- `build_client`. -/
abbrev BuildClient := (verifyTls : Bool) → (timeoutSeconds : ℚ) → ProbeClient

/-- `runtime_from_server`. -/
def runtimeFromServer (server : ServerRow) (secret : Option Str) : ProbeRuntime :=
  { server.toServer.runtime secret with
    verifyTls := server.verifyTls
    timeoutSeconds := server.timeoutSeconds }

/-- `runtime_from_create`. -/
def runtimeFromCreate (data : ServerCreate) : ProbeRuntime where
  serverId := 0
  name := data.name
  type := data.type
  baseUrl := data.baseUrl
  verifyTls := data.verifyTls
  timeoutSeconds := data.timeoutSeconds
  secret := data.secret
  scanMode := data.scanMode
  debounceMode := data.debounceMode
  debounceWindowSeconds := data.debounceWindowSeconds
  retryAttempts := data.retryAttempts
  webhookMethod := data.webhookMethod
  webhookHeadersJson := data.webhookHeadersJson
  webhookBodyTemplate := data.webhookBodyTemplate
  webhookPayloadPreset := data.webhookPayloadPreset

/-- `run_connectivity_test`. -/
def runConnectivityTest (build : BuildClient) (runtime : ProbeRuntime) : Except Exn TestResult :=
  runtime.toServerRuntime.test (build runtime.verifyTls runtime.timeoutSeconds).toOutside

/-- `run_library_listing`. -/
def runLibraryListing (build : BuildClient) (runtime : ProbeRuntime) :
    Except Exn LibraryListResult :=
  runtime.toServerRuntime.listLibraries (build runtime.verifyTls runtime.timeoutSeconds)

/-- "server {server_id} not found". -/
def serverNotFound (serverId : Nat) : Str :=
  "server ".toList ++ (Nat.repr serverId).toList ++ " not found".toList

/-! ## Routes -/

namespace ServerForm

/-- The name of an unsaved test, `name or "test"`. -/
def testName (form : ServerForm) : Str :=
  if form.name = [] then "test".toList else form.name

/-- The `ServerCreate` of `ui_test_server_config`; what it does not set has its default. -/
def testData (form : ServerForm) (h : strip form.testName ≠ []) : ServerCreate where
  name := form.testName
  type := form.type
  baseUrl := form.baseUrl
  secret := orNone form.secret
  verifyTls := form.verifyTls
  timeoutSeconds := form.timeoutSeconds
  webhookMethod := orNone form.webhookMethod
  webhookHeadersJson := orNone form.webhookHeadersJson
  webhookBodyTemplate := orNone form.webhookBodyTemplate
  webhookPayloadPreset := form.webhookPayloadPreset
  name_not_blank := h

lemma fetch_not_blank : strip "lib-fetch".toList ≠ [] := by
  decide

/-- The `ServerCreate` of `ui_list_libraries_config`. -/
def fetchData (form : ServerForm) : ServerCreate where
  name := "lib-fetch".toList
  type := form.type
  baseUrl := form.baseUrl
  secret := orNone form.secret
  verifyTls := form.verifyTls
  timeoutSeconds := form.timeoutSeconds
  name_not_blank := fetch_not_blank

/-- The `ServerCreate` of `ui_create_server_with_folders`. -/
def createData (form : ServerForm) (h : strip form.name ≠ []) : ServerCreate where
  name := form.name
  type := form.type
  baseUrl := form.baseUrl
  secret := orNone form.secret
  scanMode := form.scanMode
  debounceMode := form.debounceMode
  debounceWindowSeconds := form.debounceWindowSeconds
  retryAttempts := form.retryAttempts
  timeoutSeconds := form.timeoutSeconds
  verifyTls := form.verifyTls
  enabled := form.enabled
  webhookMethod := orNone form.webhookMethod
  webhookHeadersJson := orNone form.webhookHeadersJson
  webhookBodyTemplate := orNone form.webhookBodyTemplate
  webhookPayloadPreset := form.webhookPayloadPreset
  eventTypes := form.eventTypes
  name_not_blank := h

lemma update_not_blank {form : ServerForm} (h : strip form.name ≠ []) :
    ∀ value ∈ some form.name, strip value ≠ [] := by
  rintro _ ⟨⟩
  exact h

/-- The `ServerUpdate` of `ui_update_server`, with the box that clears the secret. -/
def updateData (form : ServerForm) (clearSecret : Bool) (h : strip form.name ≠ []) :
    ServerUpdate where
  name := some form.name
  baseUrl := some form.baseUrl
  verifyTls := some form.verifyTls
  timeoutSeconds := some form.timeoutSeconds
  secret := if clearSecret then some none else (orNone form.secret).map some
  scanMode := some form.scanMode
  debounceMode := some form.debounceMode
  debounceWindowSeconds := some form.debounceWindowSeconds
  retryAttempts := some form.retryAttempts
  enabled := some form.enabled
  webhookMethod := some (orNone form.webhookMethod)
  webhookHeadersJson := some (orNone form.webhookHeadersJson)
  webhookBodyTemplate := some (orNone form.webhookBodyTemplate)
  webhookPayloadPreset := some form.webhookPayloadPreset
  eventTypes := some (some form.eventTypes)
  name_not_blank := update_not_blank h

end ServerForm

/-- `ui_test_server_config`; `invalid` is the text of the `ValidationError` for a name. -/
def uiTestServerConfig (invalid : Str → Str) (build : BuildClient) (form : ServerForm) :
    Except Exn TestResult :=
  if h : strip form.testName ≠ [] then
    runConnectivityTest build (runtimeFromCreate (form.testData h))
  else .ok ⟨false, invalid form.testName⟩

/-- `ui_list_libraries_config`. -/
def uiListLibrariesConfig (build : BuildClient) (form : ServerForm) :
    Except Exn LibraryListResult :=
  runLibraryListing build (runtimeFromCreate form.fetchData)

/-- `ui_test_server`; `none` is a `SecretDecryptError`. -/
def uiTestServer (box : SecretBox) (build : BuildClient) (store : Store) (serverId : Nat) :
    Option (Except Exn TestResult) :=
  match store.getServer serverId with
  | none => some (.ok ⟨false, serverNotFound serverId⟩)
  | some server =>
    (resolveSecret box.decrypt server.toServer).map fun secret =>
      runConnectivityTest build (runtimeFromServer server secret)

/-- `secret or stored`. -/
def orStored (secret : Str) (stored : Option Str) : Option Str :=
  if secret = [] then stored else some secret

/-- `ui_list_libraries`; `none` is a `SecretDecryptError`. -/
def uiListLibraries (box : SecretBox) (build : BuildClient) (store : Store) (serverId : Nat)
    (secret : Str) : Option (Except Exn LibraryListResult) :=
  match store.getServer serverId with
  | none => some (.ok { ok := false, detail := serverNotFound serverId })
  | some server =>
    (resolveSecret box.decrypt server.toServer).map fun stored =>
      runLibraryListing build (runtimeFromServer server (orStored secret stored))

/-- What a route answers that saves the form. -/
inductive FormAnswer
  /-- To the page of the new server, or the note that it is saved. -/
  | saved (serverId : Nat)
  /-- The inline error. -/
  | invalid (message : Str)
  /-- The inline error for an exception. -/
  | raised (error : WriteError)
deriving DecidableEq

/-- `ui_create_server_with_folders` up to the rebuild; `rejected` is the text of the
`ValidationError` for a folder. -/
def uiCreateServerWithFolders (box : SecretBox) (lower repr : Str → Str)
    (rejected : List FieldError → Str) (nonce : Str) (store : Store) (form : ServerForm) :
    FormAnswer × Store :=
  if h : strip form.name ≠ [] then
    let data := form.createData h
    match parseFolderRows lower form.folders with
    | .error errors => (.invalid (rejected errors), store)
    | .ok folders =>
      match requireSecretOr422 repr data.type (data.secret ≠ none && data.secret ≠ some []) with
      | .error error => (.raised error, store)
      | .ok () =>
        match store.createServerWithFolders box nonce data folders with
        | .error _ => (.raised (nameConflict repr data.name), store)
        | .ok (server, store) => (.saved server.id, store)
  else (.invalid "Server name must not be empty.".toList, store)

/-- `ui_update_server` up to the rebuild: it checks the row of one state of the database and writes
to that of a later one. -/
def uiUpdateServer (box : SecretBox) (lower repr : Str → Str) (rejected : List FieldError → Str)
    (nonce : Str) (checked store : Store) (serverId : Nat) (clearSecret : Bool)
    (form : ServerForm) : FormAnswer × Store :=
  if h : strip form.name ≠ [] then
    let data := form.updateData clearSecret h
    match parseFolderRows lower form.folders with
    | .error errors => (.invalid (rejected errors), store)
    | .ok folders =>
      match checked.getServer serverId with
      | none => (.raised (.repo (.keyError serverId)), store)
      | some existing =>
        match requireUpdateSecret repr data existing with
        | .error error => (.raised error, store)
        | .ok () =>
          match store.updateServerWithFolders box nonce serverId data folders with
          | .error (.keyError serverId) => (.raised (.repo (.keyError serverId)), store)
          | .error .integrityError =>
            (.raised (nameConflict repr (data.name.getD existing.name)), store)
          | .ok (server, store) => (.saved server.id, store)
  else (.invalid "Server name must not be empty.".toList, store)

/-- The write leaves the row of the server alone. -/
def RepoWrite.Spares (serverId : Nat) : RepoWrite → Prop
  | .updateServer _ other _ => other ≠ serverId
  | .updateServerWithFolders _ other _ _ => other ≠ serverId
  | .deleteServer other => other ≠ serverId
  | _ => True

instance (serverId : Nat) : DecidablePred (RepoWrite.Spares serverId)
  | .createServer _ _ => isTrue trivial
  | .createServerWithFolders _ _ _ => isTrue trivial
  | .updateServer _ other _ => inferInstanceAs (Decidable (other ≠ serverId))
  | .updateServerWithFolders _ other _ _ => inferInstanceAs (Decidable (other ≠ serverId))
  | .deleteServer other => inferInstanceAs (Decidable (other ≠ serverId))
  | .createFolder _ _ => isTrue trivial
  | .updateFolder _ _ => isTrue trivial
  | .deleteFolder _ => isTrue trivial
  | .setFiletypes _ _ => isTrue trivial

/-! ## The stored row -/

namespace Store
variable {box : SecretBox} {lower : Str → Str} {s t : Store} {row new : ServerRow} {serverId : Nat}
  {w : RepoWrite} {ws : List RepoWrite}

/-- A new server does not hide one that is there. -/
lemma getServer_insertServer (ht : t.servers = s.servers) (h : s.getServer serverId = some row) :
    (s.after (t.insertServer new)).getServer serverId = some row := by
  apply forall_after (fun u => u.getServer serverId = some row) h
  intro _ u hu
  rw [getServer, (insertServer_ok hu).2, ht, List.find?_append]
  show (s.getServer serverId).or _ = some row
  rw [h]
  rfl

/-- The row of another server is found as before. -/
lemma getServer_replaceServer (ht : t.servers = s.servers) (hne : new.id ≠ serverId)
    (h : s.getServer serverId = some row) :
    (s.after (t.replaceServer new)).getServer serverId = some row := by
  apply forall_after (fun u => u.getServer serverId = some row) h
  intro r u hu
  have hfree := (replaceServer_ok hu).2.1
  rw [replaceServer_free hfree] at hu
  cases hu
  have hmap : ∀ rows : List ServerRow,
      (rows.map fun old => if old.id = new.id then new else old).find?
        (fun row => row.id = serverId) = rows.find? fun row => row.id = serverId := by
    intro rows
    induction rows with
    | nil => rfl
    | cons old rows ih =>
      rw [List.map_cons, List.find?_cons, List.find?_cons, ih]
      by_cases hid : old.id = new.id
      · rw [if_pos hid, hid]
        simp only [hne, decide_false]
      · rw [if_neg hid]
  rw [getServer, withServer, ht, hmap]
  exact h

lemma getServer_deleteServer {other : Nat} (hne : other ≠ serverId)
    (h : s.getServer serverId = some row) :
    (s.deleteServer other).getServer serverId = some row := by
  rw [getServer, deleteServer, List.find?_filter]
  have hsame : (fun row : ServerRow => decide (decide (row.id ≠ other) = true ∧
      decide (row.id = serverId) = true)) = fun row => decide (row.id = serverId) := by
    funext row
    by_cases hid : row.id = serverId
    · rw [hid]
      simp [hne.symm]
    · simp [hid]
  rw [hsame]
  exact h

/-- A write that spares the server leaves its row. -/
lemma getServer_write (hw : w.Spares serverId) (h : s.getServer serverId = some row) :
    (s.write box lower w).getServer serverId = some row := by
  cases w with
  | createServer nonce data => exact getServer_insertServer rfl h
  | createServerWithFolders nonce data folders => exact getServer_insertServer rfl h
  | updateServer nonce other data =>
    rw [write, updateServer_eq]
    cases hold : s.getServer other with
    | none => exact h
    | some old =>
      have hid : (written box nonce data old).id ≠ serverId := by
        rw [(written_fields box nonce data old).1, getServer_id hold]
        exact hw
      exact getServer_replaceServer rfl hid h
  | updateServerWithFolders nonce other data folders =>
    rw [write, updateServerWithFolders_eq]
    cases hold : s.getServer other with
    | none => exact h
    | some old =>
      have hid : (written box nonce data old).id ≠ serverId := by
        rw [(written_fields box nonce data old).1, getServer_id hold]
        exact hw
      exact getServer_replaceServer (t := s.setServerFolders other folders) rfl hid h
  | deleteServer other => exact getServer_deleteServer hw h
  | createFolder other data =>
    rw [write, createFolder]
    split
    · exact h
    · exact h
  | updateFolder folderId data =>
    rw [write, updateFolder]
    cases s.getFolder folderId with
    | none => exact h
    | some folder => exact h
  | deleteFolder folderId => exact h
  | setFiletypes folderId extensions =>
    rw [write, setFiletypes]
    cases s.getFolder folderId with
    | none => exact h
    | some folder => exact h

/-- The same for any number of writes. -/
lemma getServer_writeAll (hws : ∀ w ∈ ws, w.Spares serverId)
    (h : s.getServer serverId = some row) :
    (s.writeAll box lower ws).getServer serverId = some row := by
  induction ws generalizing s with
  | nil => exact h
  | cons w ws ih =>
    exact ih (fun w hw => hws w (List.mem_cons_of_mem _ hw))
      (getServer_write (hws w List.mem_cons_self) h)

/-- The new server is the one of its id. -/
lemma getServer_created {data : ServerCreate} {folders : List FolderCreate} {nonce : Str}
    (h : s.createServerWithFolders box nonce data folders = .ok (row, t)) :
    row = created box nonce (nextId s.ids) data ∧ t.getServer row.id = some row := by
  rw [createServerWithFolders_eq] at h
  obtain ⟨hrow, hservers⟩ := insertServer_ok h
  refine ⟨hrow, ?_⟩
  have hid : row.id = nextId s.ids := by
    rw [hrow]
    rfl
  have hnone : s.servers.find? (fun old => old.id = row.id) = none := by
    rw [List.find?_eq_none]
    intro old hold hold'
    apply nextId_notMem s.ids
    rw [← hid, ← of_decide_eq_true hold']
    exact List.mem_map_of_mem hold
  rw [getServer, hservers]
  show (s.servers ++ [_]).find? _ = _
  rw [List.find?_append, hnone, ← hrow]
  simp

end Store

/-! ## Agreement -/

section
variable {box : SecretBox} {lower repr : Str → Str} {rejected : List FieldError → Str} {nonce : Str}
  {store store' : Store} {form : ServerForm} {serverId : Nat} {server server' : ServerRuntime}

/-- A creation from the form: the row that it leaves, whatever comes after it. -/
lemma uiCreateServerWithFolders_saved
    (h : uiCreateServerWithFolders box lower repr rejected nonce store form =
      (.saved serverId, store')) :
    ∃ (hname : strip form.name ≠ []) (folders : List FolderCreate),
      parseFolderRows lower form.folders = .ok folders ∧
      store.createServerWithFolders box nonce (form.createData hname) folders =
        .ok (Store.created box nonce serverId (form.createData hname), store') := by
  unfold uiCreateServerWithFolders at h
  split at h
  · next hname =>
    split at h
    · cases h
    · next folders hfolders =>
      dsimp only at h
      split at h
      · cases h
      · split at h
        · cases h
        · next row created hcreated =>
          cases h
          have hrow := (Store.getServer_created hcreated).1
          refine ⟨hname, folders, hfolders, ?_⟩
          rw [hcreated, hrow]
          rfl
  · cases h

/-- What a probe of a media server depends on. -/
structure SameProbe (server server' : ServerRuntime) : Prop where
  type : server.type = server'.type
  baseUrl : server.baseUrl = server'.baseUrl
  secret : server.secret.getD [] = server'.secret.getD []

/-- What a test of a webhook depends on, but for the attempts. -/
structure SameWebhook (server server' : ServerRuntime) : Prop
    extends SameProbe server server' where
  name : server.name = server'.name
  method : server.webhookMethod = server'.webhookMethod
  headersJson : server.webhookHeadersJson = server'.webhookHeadersJson
  bodyTemplate : server.webhookBodyTemplate = server'.webhookBodyTemplate
  payloadPreset : server.webhookPayloadPreset = server'.webhookPayloadPreset

lemma SameProbe.listLibraries (h : SameProbe server server') (client : ProbeClient) :
    server.listLibraries client = server'.listLibraries client := by
  have hrequest : ∀ d : Discovery, d.listRequest server = d.listRequest server' := by
    intro d
    unfold Discovery.listRequest RestAdapter.headers RestAdapter.base
    rw [h.baseUrl, h.secret]
  unfold ServerRuntime.listLibraries Discovery.listLibraries
  rw [h.type]
  simp only [hrequest]

lemma SameProbe.test_rest (h : SameProbe server server') {a : RestAdapter}
    (ha : server.type.rest = some a) (out : Outside) : server.test out = server'.test out := by
  have hrequest : a.testRequest server = a.testRequest server' := by
    unfold RestAdapter.testRequest RestAdapter.headers RestAdapter.base
    rw [h.baseUrl, h.secret]
  have ha' : server'.type.rest = some a := h.type ▸ ha
  unfold ServerRuntime.test RestAdapter.test
  rw [ha, ha']
  simp only [hrequest]

lemma SameWebhook.context (h : SameWebhook server server') :
    WebhookAdapter.context server (WebhookAdapter.probe server) true =
      WebhookAdapter.context server' (WebhookAdapter.probe server') true := by
  unfold WebhookAdapter.context
  rw [h.secret, h.name]
  rfl

lemma SameWebhook.rendered (h : SameWebhook server server') (out : Outside)
    (ctx : List (Str × ContextValue)) :
    WebhookAdapter.rendered out server ctx = WebhookAdapter.rendered out server' ctx := by
  unfold WebhookAdapter.rendered WebhookAdapter.template WebhookAdapter.headers
  rw [h.payloadPreset, h.bodyTemplate, h.headersJson]

/-- The number of attempts matters when there is a URL to send to. -/
lemma SameWebhook.test (h : SameWebhook server server')
    (hattempts : strip server.baseUrl = [] ∨
      server.retryAttempts.toNat - 1 = server'.retryAttempts.toNat - 1) (out : Outside) :
    WebhookAdapter.test out server = WebhookAdapter.test out server' := by
  unfold WebhookAdapter.test WebhookAdapter.send
  rw [← h.baseUrl, h.context]
  simp only [h.rendered]
  rcases hattempts with hurl | hattempts
  · rw [if_pos hurl, if_pos hurl]
  · have hexchanged : ∀ url body headers, WebhookAdapter.exchanged out server url body headers =
        WebhookAdapter.exchanged out server' url body headers := by
      intro url body headers
      unfold WebhookAdapter.exchanged requestWithRetry
      rw [h.method, hattempts]
    simp only [hexchanged]

/-- A client that cannot connect at first. -/
def recovering (failures : Nat) : ProbeClient where
  exchange _ k :=
    if k < failures then
      .error ⟨⟨"ConnectError".toList, .transport⟩, [], "ConnectError('')".toList⟩
    else .ok ⟨200⟩
  render _ _ := .ok []
  loads _ := .ok (.object [])
  encode _ := .ok []
  quote := id
  upper := id
  json _ := .ok .null

/-- The request gets through when there are enough attempts. -/
lemma requestWithRetry_recovering (failures : Nat) (req : Request) (attempts : Int) :
    requestWithRetry (recovering failures).exchange req attempts =
      (recovering failures).exchange req (min failures (attempts.toNat - 1)) := by
  have hbefore : ∀ i < min failures (attempts.toNat - 1),
      isSettled ((recovering failures).exchange req (0 + i)) = false := by
    intro i hi
    have hfail : 0 + i < failures := by omega
    show isSettled (if 0 + i < failures then _ else _) = false
    rw [if_pos hfail]
    rfl
  have hlast : isSettled ((recovering failures).exchange req
        (0 + min failures (attempts.toNat - 1))) = true ∨
      min failures (attempts.toNat - 1) = attempts.toNat - 1 := by
    rcases Nat.le_total failures (attempts.toNat - 1) with hle | hle
    · rw [Nat.min_eq_left hle]
      left
      show isSettled (if 0 + failures < failures then _ else _) = true
      rw [if_neg (by omega)]
      rfl
    · exact .inr (Nat.min_eq_right hle)
  rw [requestWithRetry, retryLoop_eq (Nat.min_le_right _ _) hbefore hlast, Nat.zero_add]

/-- So does a test. -/
lemma test_recovering (hurl : strip server.baseUrl ≠ []) (failures : Nat) :
    WebhookAdapter.test (recovering failures).toOutside server = .ok ⟨true, "reachable".toList⟩ ↔
      failures ≤ server.retryAttempts.toNat - 1 := by
  have hexchanged : ∀ url body headers,
      WebhookAdapter.exchanged (recovering failures).toOutside server url body headers =
        if server.retryAttempts.toNat - 1 < failures then
          .error ⟨⟨"ConnectError".toList, .transport⟩, [], "ConnectError('')".toList⟩
        else .ok ⟨200⟩ := by
    intro url body headers
    show requestWithRetry (recovering failures).exchange _ _ = _
    rw [requestWithRetry_recovering]
    show (if min failures (server.retryAttempts.toNat - 1) < failures then _ else _) = _
    congr 1
    simp
  have hrendered : ∀ ctx, WebhookAdapter.rendered (recovering failures).toOutside server ctx =
      .ok ([], [("Content-Type".toList, "application/json".toList)]) := fun _ => rfl
  unfold WebhookAdapter.test WebhookAdapter.send
  rw [if_neg hurl, hrendered]
  simp only [hexchanged]
  by_cases hle : failures ≤ server.retryAttempts.toNat - 1
  · rw [if_neg (Nat.not_lt.2 hle)]
    exact iff_of_true rfl hle
  · rw [if_pos (Nat.not_le.1 hle)]
    exact iff_of_false (fun h => by cases h) hle

/-- Tests of webhooks agree for every client exactly when the number of attempts does not matter. -/
lemma SameWebhook.test_iff (h : SameWebhook server server') :
    (∀ client : ProbeClient, WebhookAdapter.test client.toOutside server =
        WebhookAdapter.test client.toOutside server') ↔
      strip server.baseUrl = [] ∨
        server.retryAttempts.toNat - 1 = server'.retryAttempts.toNat - 1 := by
  constructor
  · intro hagree
    by_contra hdiffer
    rw [not_or] at hdiffer
    obtain ⟨hurl, hattempts⟩ := hdiffer
    have hurl' : strip server'.baseUrl ≠ [] := h.baseUrl ▸ hurl
    have hiff : ∀ failures, failures ≤ server.retryAttempts.toNat - 1 ↔
        failures ≤ server'.retryAttempts.toNat - 1 := by
      intro failures
      rw [← test_recovering hurl, hagree, test_recovering hurl']
    exact hattempts (Nat.le_antisymm ((hiff _).1 le_rfl) ((hiff _).2 le_rfl))
  · exact fun hattempts client => h.test hattempts client.toOutside

/-- The form's row, as the stored probes see it. -/
lemma stored_runtime {ws : List RepoWrite}
    (h : uiCreateServerWithFolders box lower repr rejected nonce store form =
      (.saved serverId, store')) (hws : ∀ w ∈ ws, w.Spares serverId) :
    ∃ (hname : strip form.name ≠ []) (row : ServerRow),
      (store'.writeAll box lower ws).getServer serverId = some row ∧
      resolveSecret box.decrypt row.toServer = some (orNone form.secret) ∧
      row = Store.created box nonce serverId (form.createData hname) := by
  obtain ⟨hname, folders, -, hcreated⟩ := uiCreateServerWithFolders_saved h
  have hfound := (Store.getServer_created hcreated).2
  exact ⟨hname, _, Store.getServer_writeAll hws hfound,
    decrypts_encrypt box nonce (orNone form.secret), rfl⟩

/-- A secret that is typed over the stored one. -/
lemma orStored_getD (secret stored : Str) : (orStored secret (orNone stored)).getD [] =
    (orNone (if secret = [] then stored else secret)).getD [] := by
  unfold orStored
  split
  · rfl
  · next hne =>
    rw [orNone, if_neg hne]

/-- A name that is not blank is that of the test. -/
lemma testName_eq (hname : strip form.name ≠ []) : form.testName = form.name := by
  apply if_neg
  intro hempty
  rw [hempty] at hname
  exact hname rfl

/-- The runtime of the row that is created from the form. -/
def ServerForm.saved (form : ServerForm) (box : SecretBox) (nonce : Str) (serverId : Nat)
    (hname : strip form.name ≠ []) (secret : Option Str) : ProbeRuntime :=
  runtimeFromServer (Store.created box nonce serverId (form.createData hname)) secret

lemma sameProbe_saved (hname : strip form.name ≠ []) (secret : Str) :
    SameProbe
      (form.saved box nonce serverId hname (orStored secret (orNone form.secret))).toServerRuntime
      (runtimeFromCreate { form with
        secret := if secret = [] then form.secret else secret }.fetchData).toServerRuntime :=
  ⟨rfl, rfl, orStored_getD secret form.secret⟩

variable (box nonce serverId) in
lemma sameWebhook_saved (hname : strip form.name ≠ []) (htest : strip form.testName ≠ []) :
    SameWebhook (form.saved box nonce serverId hname (orNone form.secret)).toServerRuntime
      (runtimeFromCreate (form.testData htest)).toServerRuntime :=
  ⟨⟨rfl, rfl, rfl⟩, (testName_eq hname).symm, rfl, rfl, rfl, rfl⟩

/-- The tests agree for every client unless the number of attempts matters. -/
lemma SameWebhook.tests_iff (h : SameWebhook server server') :
    (∀ client : ProbeClient, server.test client.toOutside = server'.test client.toOutside) ↔
      server.type ≠ .webhook ∨ strip server.baseUrl = [] ∨
        server.retryAttempts.toNat - 1 = server'.retryAttempts.toNat - 1 := by
  cases hrest : server.type.rest with
  | none =>
    have hwebhook : server.type = .webhook := by
      cases htype : server.type <;> rw [htype] at hrest <;> first | rfl | cases hrest
    have hrest' : server'.type.rest = none := h.type ▸ hrest
    have htests : ∀ client : ProbeClient,
        server.test client.toOutside = server'.test client.toOutside ↔
          WebhookAdapter.test client.toOutside server =
            WebhookAdapter.test client.toOutside server' := by
      intro client
      unfold ServerRuntime.test
      rw [hrest, hrest']
    simp only [htests]
    rw [h.test_iff]
    exact ⟨.inr, fun hor => hor.resolve_left fun hne => hne hwebhook⟩
  | some a =>
    have hmedia : server.type ≠ .webhook := by
      intro hwebhook
      rw [hwebhook] at hrest
      cases hrest
    exact iff_of_true (fun client => h.test_rest hrest client.toOutside) (.inl hmedia)

/-- Whatever is written to other servers and to folders after a server is created from the form: its
libraries are listed as from the form, also with another secret, and so is the result of its test,
but for the attempts of a webhook, since a test from the form makes three. -/
theorem probed_saved {ws : List RepoWrite} (invalid : Str → Str)
    (h : uiCreateServerWithFolders box lower repr rejected nonce store form =
      (.saved serverId, store')) (hws : ∀ w ∈ ws, w.Spares serverId) :
    (∀ build secret, uiListLibraries box build (store'.writeAll box lower ws) serverId secret =
      some (uiListLibrariesConfig build
        { form with secret := if secret = [] then form.secret else secret })) ∧
    ((∀ build, uiTestServer box build (store'.writeAll box lower ws) serverId =
        some (uiTestServerConfig invalid build form)) ↔
      form.type ≠ .webhook ∨ strip form.baseUrl = [] ∨ form.retryAttempts = 3) := by
  obtain ⟨hname, row, hfound, hsecret, rfl⟩ := stored_runtime h hws
  constructor
  · intro build secret
    unfold uiListLibraries
    rw [hfound]
    show (resolveSecret box.decrypt _).map _ = _
    rw [hsecret, Option.map_some, Option.some_inj]
    exact (sameProbe_saved hname secret).listLibraries (build form.verifyTls form.timeoutSeconds)
  · have htest : strip form.testName ≠ [] := by
      rw [testName_eq hname]
      exact hname
    have hsides : ∀ build, uiTestServer box build (store'.writeAll box lower ws) serverId =
        some (uiTestServerConfig invalid build form) ↔
        (form.saved box nonce serverId hname (orNone form.secret)).toServerRuntime.test
            (build form.verifyTls form.timeoutSeconds).toOutside =
          (runtimeFromCreate (form.testData htest)).toServerRuntime.test
            (build form.verifyTls form.timeoutSeconds).toOutside := by
      intro build
      unfold uiTestServer uiTestServerConfig
      rw [hfound, dif_pos htest]
      show (resolveSecret box.decrypt _).map _ = _ ↔ _
      rw [hsecret, Option.map_some, Option.some_inj]
      rfl
    have hattempts : form.retryAttempts.toNat - 1 = (3 : Int).toNat - 1 ↔
        form.retryAttempts = 3 := by omega
    have hagree := (sameWebhook_saved box nonce serverId hname htest).tests_iff
    constructor
    · intro hall
      have hany := hagree.1 fun client => (hsides fun _ _ => client).1 (hall _)
      exact hany.imp_right (Or.imp_right hattempts.1)
    · intro hany build
      exact (hsides build).2 (hagree.2 (hany.imp_right (Or.imp_right hattempts.2)) _)

/-- The form for a Plex server without folders. -/
def plexForm : ServerForm where
  name := "plex".toList
  type := .plex
  baseUrl := "http://plex:32400/".toList
  secret := "token".toList
  scanMode := .targeted
  debounceMode := .trailing
  debounceWindowSeconds := 30
  retryAttempts := 5
  timeoutSeconds := 10
  verifyTls := false
  enabled := true
  webhookMethod := []
  webhookHeadersJson := []
  webhookBodyTemplate := []
  webhookPayloadPreset := .custom
  eventTypes := FsEventType.all
  folders := blankRow

/-- The form is saved in an empty database. -/
def plexSaved : FormAnswer × Store :=
  uiCreateServerWithFolders .clear lowerAscii id (fun _ => []) [] .empty plexForm

/-- Another server comes and goes. -/
def otherWrites : List RepoWrite :=
  [.createServer [] { name := "emby".toList, type := .emby, name_not_blank := emby_not_blank },
    .deleteServer 2]

theorem probed_saved_plex : plexSaved.1 = .saved 1 ∧
    (∀ build secret, uiListLibraries .clear build
        (plexSaved.2.writeAll .clear lowerAscii otherWrites) 1 secret =
      some (uiListLibrariesConfig build
        { plexForm with secret := if secret = [] then plexForm.secret else secret })) ∧
    ∀ build, uiTestServer .clear build (plexSaved.2.writeAll .clear lowerAscii otherWrites) 1 =
      some (uiTestServerConfig id build plexForm) := by
  have hsaved : uiCreateServerWithFolders .clear lowerAscii id (fun _ => []) [] .empty plexForm =
      (.saved 1, plexSaved.2) := rfl
  have hspares : ∀ w ∈ otherWrites, w.Spares 1 := by decide
  obtain ⟨hlisted, htested⟩ := probed_saved id hsaved hspares
  exact ⟨rfl, hlisted, htested.2 (.inl (by decide))⟩

end
end MediaScanMonitor
