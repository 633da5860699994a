import MediaScanMonitor.Db.Models

/-!
# Events and scan requests

`pipeline/events.py`: what flows from the watcher through the router and the debouncer to the
dispatcher.
-/

namespace MediaScanMonitor
open Text

/-- A change of one entry of the file system. -/
structure FsEvent where
  path : Str
  eventType : FsEventType
  isDir : Bool
deriving DecidableEq

/-- A scan to be triggered on one server. -/
structure ScanRequest where
  serverId : Nat
  serverName : Str
  scanMode : ScanMode
  /-- The host path to scan; `none` for a whole library. -/
  scanPath : Option Str
  libraryId : Option Str
  /-- The key that the debouncer collapses requests by. -/
  scanKey : Str
  eventType : FsEventType
  filePath : Str
  topFolder : Option Str
deriving DecidableEq

end MediaScanMonitor
