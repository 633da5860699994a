import MediaScanMonitor.Engine.System
import MediaScanMonitor.Servers.Rest
import MediaScanMonitor.Servers.Webhook

/-!
# The dispatcher

`pipeline/dispatcher.py`, with the adapter of each server type, and the record of a dispatch that
`Engine._dispatch` publishes.
-/

namespace MediaScanMonitor
open Text

/-- The adapter of a media server. -/
def ServerType.rest : ServerType → Option RestAdapter
  | .webhook => none
  | .plex => some plexAdapter
  | .emby => some embyAdapter
  | .jellyfin => some jellyfinAdapter
  | .audiobookshelf => some audiobookshelfAdapter

/-- `trigger` of the server's adapter. -/
def ServerRuntime.trigger (out : Outside) (server : ServerRuntime) (req : ScanRequest) :
    Except Exn TriggerResult :=
  match server.type.rest with
  | some a => a.trigger out server req
  | none => WebhookAdapter.trigger out server req

/-- `test` of the server's adapter. -/
def ServerRuntime.test (out : Outside) (server : ServerRuntime) : Except Exn TestResult :=
  match server.type.rest with
  | some a => a.test out server
  | none => WebhookAdapter.test out server

namespace Dispatcher

/-- `self._adapters.get(server_id)`. -/
def lookup (adapters : List Adapter) (serverId : Nat) : Option Adapter :=
  adapters.find? fun a => a.server.serverId = serverId

/-- The result of a trigger; its exceptions end here. -/
def isolate : Except Exn TriggerResult → TriggerResult
  | .ok result => result
  | .error exc => ⟨false, none, "adapter raised: ".toList ++ exc.repr⟩

/-- `dispatch`. -/
def dispatch (out : Outside) (adapters : List Adapter) (req : ScanRequest) : TriggerResult :=
  match lookup adapters req.serverId with
  | none => ⟨false, none, "no adapter for server_id=".toList ++ (Nat.repr req.serverId).toList⟩
  | some a => isolate (a.server.trigger out req)

end Dispatcher

def ScanMode.value : ScanMode → Str
  | .targeted => "targeted".toList
  | .library => "library".toList

structure EventRecord where
  ts : Str
  serverId : Nat
  serverName : Str
  scanMode : Str
  scanKey : Str
  scanPath : Option Str
  libraryId : Option Str
  eventType : Str
  filePath : Str
  ok : Bool
  statusCode : Option Nat
  detail : Str
deriving DecidableEq

/-- The record of a dispatch. -/
def EventRecord.of (ts : Str) (req : ScanRequest) (result : TriggerResult) : EventRecord where
  ts := ts
  serverId := req.serverId
  serverName := req.serverName
  scanMode := req.scanMode.value
  scanKey := req.scanKey
  scanPath := req.scanPath
  libraryId := req.libraryId
  eventType := req.eventType.value
  filePath := req.filePath
  ok := result.ok
  statusCode := result.statusCode
  detail := result.detail

end MediaScanMonitor
