import MediaScanMonitor.Watcher.Attach
import MediaScanMonitor.Watcher.Coverage
import MediaScanMonitor.Watcher.Closing
import MediaScanMonitor.Watcher.Generator
import MediaScanMonitor.Watcher.WatchLimit
import MediaScanMonitor.Watcher.RealPaths
import MediaScanMonitor.Pipeline.Moves
import MediaScanMonitor.Pipeline.Missed
import MediaScanMonitor.Pipeline.Coalesce
import MediaScanMonitor.Pipeline.Delivery
import MediaScanMonitor.Pipeline.Routing
import MediaScanMonitor.Pipeline.Extensions
import MediaScanMonitor.Pipeline.NewShow
import MediaScanMonitor.Engine.Writes
import MediaScanMonitor.Engine.Clients
import MediaScanMonitor.Engine.Consistency
import MediaScanMonitor.Engine.Shutdown
import MediaScanMonitor.Engine.Readiness
import MediaScanMonitor.Engine.Isolation
import MediaScanMonitor.Engine.Handling
import MediaScanMonitor.Engine.Identity
import MediaScanMonitor.Config.Snapshot
import MediaScanMonitor.Config.StoredPaths
import MediaScanMonitor.Db.Extensions
import MediaScanMonitor.Db.KeyFile
import MediaScanMonitor.Servers.Secrecy
import MediaScanMonitor.Servers.Retries
import MediaScanMonitor.Servers.Targets
import MediaScanMonitor.Web.Throttle
import MediaScanMonitor.Web.FailureHistory
import MediaScanMonitor.Web.Writes
import MediaScanMonitor.Web.Updates
import MediaScanMonitor.Web.ScanModes
import MediaScanMonitor.Web.EventStream
import MediaScanMonitor.Web.FolderEditor
import MediaScanMonitor.Web.FolderWrites
import MediaScanMonitor.Web.FsBrowse
import MediaScanMonitor.Web.Setup
import MediaScanMonitor.Web.ResetFailures
import MediaScanMonitor.Web.EventFrames
import MediaScanMonitor.Servers.Payloads
import MediaScanMonitor.Pipeline.Edges
import MediaScanMonitor.Db.AtRest
import MediaScanMonitor.Web.ServerReads
import MediaScanMonitor.Web.Access
import MediaScanMonitor.Engine.Reload
import MediaScanMonitor.Pipeline.Notifications
import MediaScanMonitor.Web.LibraryPicker
import MediaScanMonitor.Db.Downgrades
import MediaScanMonitor.Db.StoredRows
