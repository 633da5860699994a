import MediaScanMonitor.Config.Runtime
import MediaScanMonitor.Pipeline.Events
import MediaScanMonitor.Pipeline.Filters

/-!
# The router

`pipeline/router.py`: an event yields one scan request for each route that matches it. `requestFor`
is the body of the loop over the routes.
-/

namespace MediaScanMonitor
open Text PosixPath

/-- `compute_scan_path`. -/
def computeScanPath (folderRoot filePath : Str) : Str × Option Str :=
  let relative := lstripChar (filePath.drop folderRoot.length) '/'
  match split relative with
  -- the file is somewhere below a directory of the root
  | topFolder :: _ :: _ => (rstripChar folderRoot '/' ++ sep :: topFolder, some topFolder)
  | _ => (folderRoot, none)

/-- `_is_path_prefix`. -/
def isPathPrefix (pre path : Str) : Bool :=
  path == pre || startsWith path (if endsWithChar pre '/' then pre else pre ++ [sep])

/-- The text that an f-string shows for an optional library id. -/
def showOption : Option Str → Str
  | none => "None".toList
  | some s => s

/-- The scan key of a library. -/
def libraryKey (libraryId : Option Str) : Str :=
  "lib:".toList ++ showOption libraryId

/-- The request that a matching route makes of an event. -/
def FolderRoute.request (r : FolderRoute) (event : FsEvent) : ScanRequest :=
  let (scanPath, topFolder, scanKey) :=
    match r.scanMode with
    | .targeted =>
      let (scanPath, topFolder) := computeScanPath r.path event.path
      (some scanPath, topFolder, scanPath)
    | .library => (none, none, libraryKey r.libraryId)
  { serverId := r.serverId
    serverName := r.serverName
    scanMode := r.scanMode
    scanPath := scanPath
    libraryId := r.libraryId
    scanKey := scanKey
    eventType := event.eventType
    filePath := event.path
    topFolder := topFolder }

/-- One round of the loop in `route`. -/
def requestFor (lower : Str → Str) (event : FsEvent) (r : FolderRoute) : Option ScanRequest :=
  if !isPathPrefix r.path event.path then none
  else if !extensionMatches lower event.path r.extensions then none
  else if event.eventType ∉ r.eventTypes then none
  else some (r.request event)

/-- `route`. -/
def route (lower : Str → Str) (event : FsEvent) (config : RuntimeConfig) : List ScanRequest :=
  if isIgnored event.path config.ignoreDirs then []
  else config.routes.filterMap (requestFor lower event)

/-- The path passes the filters of the route. -/
def Admits (lower : Str → Str) (config : RuntimeConfig) (r : FolderRoute) (path : Str) : Prop :=
  isIgnored path config.ignoreDirs = false ∧ isPathPrefix r.path path = true ∧
    extensionMatches lower path r.extensions = true

/-- The route matches the event. -/
def Matches (lower : Str → Str) (config : RuntimeConfig) (r : FolderRoute) (event : FsEvent) : Prop :=
  Admits lower config r event.path ∧ event.eventType ∈ r.eventTypes

variable {lower : Str → Str} {config : RuntimeConfig} {r : FolderRoute} {event : FsEvent}
  {req : ScanRequest}

instance : Decidable (Admits lower config r event.path) := by unfold Admits; infer_instance
instance : Decidable (Matches lower config r event) := by unfold Matches; infer_instance

lemma requestFor_eq_some : requestFor lower event r = some req ↔
    (isPathPrefix r.path event.path = true ∧ extensionMatches lower event.path r.extensions = true ∧
      event.eventType ∈ r.eventTypes) ∧ r.request event = req := by
  unfold requestFor
  cases isPathPrefix r.path event.path <;>
    cases extensionMatches lower event.path r.extensions <;>
      by_cases ht : event.eventType ∈ r.eventTypes <;> simp [ht]

/-- A routed event yields one request for each route that matches it, and no other. -/
theorem mem_route : req ∈ route lower event config ↔
    ∃ r ∈ config.routes, Matches lower config r event ∧ r.request event = req := by
  unfold route Matches Admits
  cases hi : isIgnored event.path config.ignoreDirs with
  | true => simp
  | false =>
    simp only [Bool.false_eq_true, if_false, List.mem_filterMap, requestFor_eq_some, true_and]
    refine exists_congr fun r => and_congr_right fun _ => and_congr_left fun _ => ?_
    exact and_assoc.symm

end MediaScanMonitor
