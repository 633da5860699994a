import MediaScanMonitor.Db.Folders
import MediaScanMonitor.Engine.Consistency
import MediaScanMonitor.Pipeline.Timers

/-!
# Requests and the rows they come from

The engine of `Lifecycle` over the tables of the repository, with an account of which row of `Server`
is behind everything that only carries its id. A row is named by the number of the write that has
created it, since SQLite gives the id of a deleted last row to the next one.

The account is kept beside the engine and never read by it: what each coroutine has seen of the table
of servers and whose folders it has read, the row each waiting request was routed for, and the row
each adapter in force was built from.
-/

namespace MediaScanMonitor
open Text Transition
open Lifecycle (Act)

/-- The row that has an id, by the number of the write that has created it. -/
abbrev View := Nat → Option Nat

/-- What a coroutine that makes a configuration has seen of the table of servers. -/
structure Sight where
  /-- The number of writes before `list_servers`. -/
  written : Nat
  /-- The table at `list_servers`. -/
  listed : View
  /-- The rows whose folders were read, each at its own `list_folders`. -/
  folders : View

inductive Entry
  /-- The trigger of an adapter was called: with the row whose folder has produced the request, and
  the row that the adapter was built from. -/
  | trigger (req : ScanRequest) (folder adapter : Option Nat)
  /-- A rebuild has swapped in the configuration that it has made of this. -/
  | swap (sight : Sight)

/-- The engine, the tables, and the account. -/
structure Tracked where
  engine : Lifecycle
  tables : Database
  /-- The number of writes so far. -/
  written : Nat
  /-- The write that has created the row with an id. -/
  creation : Nat → Nat
  /-- What `start` has seen, and each rebuild. -/
  start : Sight
  rebuilds : Nat → Sight
  /-- What was seen for the configuration that is stored. -/
  config : Sight
  /-- The rows that the adapters were built from. -/
  adapters : View
  /-- The rows whose folders have produced the requests of the current event. -/
  inbox : View
  /-- The rows whose folders have produced the requests of the timer tasks. -/
  tasks : View
  log : List Entry

/-- What `start` is making. -/
def Startup.assembly : Startup → Option Assembly
  | .assembling a => some a
  | _ => none

/-- The requests of the current event that are still to be submitted. -/
def Startup.inbox : Startup → List ScanRequest
  | .consuming reqs => reqs
  | _ => []

/-- What a rebuild is making. -/
def Rebuild.assembly : Rebuild → Option Assembly
  | .assembling a => some a
  | _ => none

/-- The server whose folders are read next. -/
def Assembly.reads : Assembly → Option Server
  | .reading (.folders (server :: _) _) => some server
  | _ => none

/-- The configuration that a rebuild is about to swap in. -/
def Assembly.swaps : Assembly → Option RuntimeConfig
  | .gating config _ (.verdict _) => some config
  | _ => none

namespace Tracked
variable (host : Host) (box : SecretBox)

/-- A new engine on tables that were there before. -/
def init (tables : Database) (settings : List (Str × Str)) (fits : List Str → List Str → Bool)
    (park : Bool) : Tracked where
  engine := .init (tables.toDb settings) fits park
  tables := tables
  written := Store.nextId tables.ids
  creation := fun id => id
  start := ⟨0, fun _ => none, fun _ => none⟩
  rebuilds := fun _ => ⟨0, fun _ => none, fun _ => none⟩
  config := ⟨0, fun _ => none, fun _ => none⟩
  adapters := fun _ => none
  inbox := fun _ => none
  tasks := fun _ => none
  log := []

/-- The table of servers. -/
def view (s : Tracked) : View :=
  fun id => if id ∈ s.tables.ids then some (s.creation id) else none

/-- The folders of a server are read; without its row there are none. -/
def readFolders (s : Tracked) (sight : Sight) (serverId : Nat) : Sight :=
  match s.view serverId with
  | none => sight
  | some row => { sight with folders := Function.update sight.folders serverId (some row) }

/-- What the next step of a coroutine sees. -/
def observe (s : Tracked) (sight : Sight) : Assembly → Sight
  | .reading .servers => ⟨s.written, s.view, fun _ => none⟩
  | .reading (.folders (server :: _) _) => s.readFolders sight server.id
  | _ => sight

/-- The triggers of requests that are dispatched now. -/
def triggers (s : Tracked) (row : Option Nat) (out : List ScanRequest) : List Entry :=
  out.filterMap fun req => (s.engine.adapters.lookup req.serverId).map fun _ =>
    .trigger req row (s.adapters req.serverId)

/-- What a step of the engine adds to the account. -/
def note (s : Tracked) : Act → Tracked
  | .start =>
    match s.engine.start with
    | .assembling (.reading (.folders [] _)) => { s with config := s.start }
    | .assembling (.building _ [] _) => { s with adapters := s.start.listed }
    | .assembling a => { s with start := s.observe s.start a }
    | _ => s
  | .rebuild i =>
    match s.engine.rebuilds[i]? with
    | some (.assembling (.gating _ _ (.verdict _))) =>
      { s with
        config := s.rebuilds i
        adapters := (s.rebuilds i).listed
        log := s.log ++ [.swap (s.rebuilds i)] }
    | some (.assembling a) =>
      { s with rebuilds := Function.update s.rebuilds i (s.observe (s.rebuilds i) a) }
    | _ => s
  | .event _ => { s with inbox := s.config.folders }
  | .submit =>
    match s.engine.start with
    | .consuming (req :: _) =>
      let row := s.inbox req.serverId
      { s with
        tasks := Function.update s.tasks s.engine.debouncer.nextTask row
        log := s.log ++ s.triggers row (s.engine.debouncer.submit req).2 }
    | _ => s
  | .fire task =>
    match s.engine.debouncer.fireAfter task with
    | some (_, out) => { s with log := s.log ++ s.triggers (s.tasks task) out }
    | none => s
  | _ => s

/-- The state that a write of the repository commits. -/
def commit (s : Tracked) (w : RepoWrite) : Tracked :=
  let tables := s.tables.write box host.lower w
  { s with
    engine := { s.engine with db := tables.toDb s.engine.db.settings }
    tables := tables
    written := s.written + 1
    creation := fun id => if id ∈ tables.ids ∧ id ∉ s.tables.ids then s.written else s.creation id }

inductive Step
  /-- A step of the engine; it does not write. -/
  | engine (a : Act)
  /-- A write of the repository. -/
  | commit (w : RepoWrite)

def step (s : Tracked) : Step → Option Tracked
  | .engine (.write _) => none
  | .engine a => (s.engine.step host a).map fun engine => { s.note a with engine := engine }
  | .commit w => some (s.commit host box w)

/-- The row that was listed under an id was not replaced, when its folders are read. -/
def Unreplaced (s : Tracked) (sight : Sight) (serverId : Nat) : Prop :=
  s.view serverId = none ∨ s.view serverId = sight.listed serverId

/-- What waits when a configuration is swapped in was routed for the rows that it lists: the armed
timers, and the requests of the current event that are still to be submitted. -/
def Unmixed (s : Tracked) (sight : Sight) (config : RuntimeConfig) : Prop :=
  (∀ task req, s.engine.debouncer.Pending task req → req.serverId ∈ config.servers →
    sight.listed req.serverId = s.tasks task) ∧
  ∀ req ∈ s.engine.start.inbox, req.serverId ∈ config.servers →
    sight.listed req.serverId = s.inbox req.serverId

/-- No row is replaced under its id while it is read, and none while a request of it waits. -/
def Apart (s : Tracked) : Step → Prop
  | .engine .start => ∀ a ∈ s.engine.start.assembly, ∀ server ∈ a.reads,
    s.Unreplaced s.start server.id
  | .engine (.rebuild i) => ∀ c ∈ s.engine.rebuilds[i]?, ∀ a ∈ c.assembly,
    (∀ server ∈ a.reads, s.Unreplaced (s.rebuilds i) server.id) ∧
      ∀ config ∈ a.swaps, s.Unmixed (s.rebuilds i) config
  | _ => True

end Tracked

/-- The rows behind a trigger are one and the same. -/
def Entry.Own : Entry → Prop
  | .trigger _ folder adapter => ∃ row, folder = some row ∧ adapter = some row
  | .swap _ => True

/-- After a swap that has not listed a row of before, there is no trigger for it. -/
def Entry.Before : Entry → Entry → Prop
  | .swap sight, .trigger req folder _ =>
    ∀ row ∈ folder, row < sight.written → sight.listed req.serverId = some row
  | _, _ => True

end MediaScanMonitor
