import Mathlib.Data.List.AList
import MediaScanMonitor.Db.Models
import MediaScanMonitor.Normalize

/-!
# The runtime configuration

`config/runtime.py`: the immutable snapshot that the router and the dispatcher read. It is assembled
by one read of the enabled servers and one read of the folders of each; `addServer` is the body of
that loop. `lower` is `str.lower`, `decrypt` the secret box (`none` is its exception).
-/

namespace MediaScanMonitor
open Text

structure ServerRuntime where
  serverId : Nat
  name : Str
  type : ServerType
  baseUrl : Str
  secret : Option Str
  scanMode : ScanMode
  debounceMode : DebounceMode
  debounceWindowSeconds : Nat
  retryAttempts : Int
  webhookMethod : Option Str
  webhookHeadersJson : Option Str
  webhookBodyTemplate : Option Str
  webhookPayloadPreset : WebhookPreset
deriving DecidableEq

/-- One enabled folder of one enabled server. -/
structure FolderRoute where
  serverId : Nat
  serverName : Str
  path : Str
  /-- No extensions means all. -/
  extensions : List Str
  libraryId : Option Str
  scanMode : ScanMode
  eventTypes : List FsEventType
deriving DecidableEq

structure RuntimeConfig where
  watchPaths : List Str
  routes : List FolderRoute
  servers : AList fun _ : Nat => ServerRuntime
  ignoreDirs : List Str
deriving DecidableEq

/-- `IGNORE_DIRS`. -/
def IGNORE_DIRS : List Str :=
  ["@eaDir".toList, "#snapshot".toList, "#recycle".toList, "@tmp".toList]

/-- `Repo.resolve_secret`. -/
def resolveSecret (decrypt : Str → Option Str) (server : Server) : Option (Option Str) :=
  match server.secretEncrypted with
  | none => some none
  | some token => (decrypt token).map some

/-- The entry of `servers` for a row. -/
def Server.runtime (server : Server) (secret : Option Str) : ServerRuntime where
  serverId := server.id
  name := server.name
  type := server.type
  baseUrl := server.baseUrl
  secret := secret
  scanMode := server.scanMode
  debounceMode := server.debounceMode
  debounceWindowSeconds := server.debounceWindowSeconds
  retryAttempts := server.retryAttempts
  webhookMethod := server.webhookMethod
  webhookHeadersJson := server.webhookHeadersJson
  webhookBodyTemplate := server.webhookBodyTemplate
  webhookPayloadPreset := server.webhookPayloadPreset

/-- The route for a folder of a server. -/
def Server.route (lower : Str → Str) (server : Server) (eventTypes : List FsEventType)
    (folder : Folder) : FolderRoute where
  serverId := server.id
  serverName := server.name
  path := normalizePath folder.path
  extensions := folder.filetypes.map (normalizeExtension lower)
  libraryId := folder.libraryId
  scanMode := server.scanMode
  eventTypes := eventTypes

/-- The snapshot before the first server. -/
def RuntimeConfig.empty : RuntimeConfig := ⟨[], [], ∅, IGNORE_DIRS⟩

/-- One round of the outer loop: a server with its folders. The event types are parsed once per
enabled folder. -/
def RuntimeConfig.addServer (lower : Str → Str) (decrypt : Str → Option Str) (config : RuntimeConfig)
    (server : Server) (folders : List Folder) : Option RuntimeConfig := do
  let secret ← resolveSecret decrypt server
  let routes ← (folders.filter Folder.enabled).mapM fun folder => do
    let eventTypes ← parseEventTypes server.eventTypes
    pure (server.route lower eventTypes folder)
  pure
    { config with
      watchPaths := config.watchPaths ∪ routes.map FolderRoute.path
      routes := config.routes ++ routes
      servers := config.servers.insert server.id (server.runtime secret) }

/-- `build_runtime_config`. -/
def buildRuntimeConfig (lower : Str → Str) (decrypt : Str → Option Str) (db : Db) :
    Option RuntimeConfig :=
  (db.listServers true).foldlM
    (fun config server => config.addServer lower decrypt server (db.listFolders server.id)) .empty

end MediaScanMonitor
