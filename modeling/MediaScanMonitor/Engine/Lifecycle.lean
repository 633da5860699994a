import MediaScanMonitor.Engine.System
import MediaScanMonitor.Pipeline.Debounce
import MediaScanMonitor.Pipeline.Router

/-!
# The life of the engine

`engine.py` from `start` to `aclose`: adapters that cannot be constructed, steps that raise, the
consume loop with its fan-out, the debouncer with its timers, and the shutdown. `start`, the
`rebuild` calls and `aclose` are coroutines again that run from one await to the next.

What a read of the database and a measurement of the watch limit yield may change at any time. The
rounds of `_build_adapters` are steps of their own. `httpx.AsyncClient.aclose` does not raise.
-/

namespace MediaScanMonitor
open Text Transition
open Engine (readStep enterGate gateStep gateRoots gateState)

/-- What the engine uses and does not change. -/
structure Host where
  /-- `str.lower`. -/
  lower : Str → Str
  /-- The secret box; `none` is its exception. -/
  decrypt : Str → Option Str
  /-- `create_adapter` returns. -/
  create : ServerRuntime → Bool

/-- An item of the dict `config.servers`. -/
abbrev Item := Sigma fun _ : Nat => ServerRuntime

/-- The two dicts that `_build_adapters` fills, in the order of their keys. -/
structure Built where
  adapters : List (Nat × Adapter)
  clients : List (Nat × Client)

/-- Where a coroutine is that makes a configuration: in `build_runtime_config`, in `_build_adapters`
or in `_gate_ok`. -/
inductive Assembly
  | reading (r : Reading)
  | building (config : RuntimeConfig) (rest : List Item) (built : Built)
  | gating (config : RuntimeConfig) (built : Built) (g : Gate)

/-- Where `start` is. -/
inductive Startup
  | idle
  | assembling (a : Assembly)
  /-- In the consume loop, with the requests of the current event that are still to be submitted. -/
  | consuming (inbox : List ScanRequest)
  /-- The loop is over: the stream has ended or raised, or the handling of an event has. -/
  | ended
  /-- It raised before the loop. -/
  | raised
  /-- The gate has failed and it does not park. -/
  | returned

/-- It iterates the events of the watcher. -/
def Startup.consumes : Startup → Bool
  | .consuming _ => true
  | _ => false

/-- It has not wired the pipeline yet. -/
def Startup.early : Startup → Bool
  | .idle => true
  | .assembling (.reading _) => true
  | .assembling (.building _ _ _) => true
  | _ => false

/-- The request that is submitted next. -/
def Startup.next : Startup → Option ScanRequest
  | .consuming (req :: _) => some req
  | _ => none

/-- The configuration and the verdict that `start` is about to act on. -/
def Startup.verdict : Startup → Option (RuntimeConfig × Bool)
  | .assembling (.gating config _ (.verdict ok)) => some (config, ok)
  | _ => none

/-- Where a `rebuild` call is. -/
inductive Rebuild
  | pending
  /-- It waits for the lock. -/
  | waiting
  | assembling (a : Assembly)
  /-- The swap is done, these clients are to be closed. -/
  | closing (clients : List Client)
  | returned
  | raised

/-- The call holds the lock. -/
def Rebuild.locked : Rebuild → Bool
  | .assembling _ => true
  | .closing _ => true
  | _ => false

def Rebuild.finished : Rebuild → Bool
  | .returned => true
  | .raised => true
  | _ => false

/-- The verdict that the call is about to act on. -/
def Rebuild.verdict : Rebuild → Option Bool
  | .assembling (.gating _ _ (.verdict ok)) => some ok
  | _ => none

/-- Where `aclose` is. -/
inductive Closing
  | idle
  /-- The watcher is closed. -/
  | watcher
  /-- The timers are cancelled, and their tasks are awaited. -/
  | debouncer
  /-- It goes through these clients. -/
  | clients (rest : List Client)
  | returned
deriving DecidableEq

structure Lifecycle where
  /-- What the database holds now. -/
  db : Db
  /-- What `check_watch_limit(watch_paths, ignore_dirs).ok` would be now. -/
  fits : List Str → List Str → Bool
  /-- The argument `park_when_blocked` of `start`. -/
  park : Bool
  config : Option RuntimeConfig
  /-- The dispatcher, the debouncer and the watcher are there. -/
  wired : Bool
  /-- The adapters of the dispatcher. -/
  adapters : List (Nat × Adapter)
  debouncer : Debouncer
  clients : List (Nat × Client)
  /-- The last root set given to the watcher. -/
  roots : List Str
  state : EngineState
  start : Startup
  rebuilds : List Rebuild
  aclose : Closing
  closed : List Client
  nextClient : Client
  /-- The verdicts the gate has returned. -/
  verdicts : List (RuntimeConfig × Bool)
  /-- The triggers that started after `aclose` had returned. -/
  late : List ScanRequest

/-- One round of `_build_adapters`: the client is kept only if there is an adapter for it. -/
def Built.round (host : Host) (client : Client) (built : Built) (item : Item) : Built :=
  if host.create item.2 then
    ⟨built.adapters ++ [(item.1, ⟨item.2, client⟩)], built.clients ++ [(item.1, client)]⟩
  else built

namespace Lifecycle

def init (db : Db) (fits : List Str → List Str → Bool) (park : Bool) : Lifecycle where
  db := db
  fits := fits
  park := park
  config := none
  wired := false
  adapters := []
  debouncer := .init ∅
  clients := []
  roots := []
  state := .stopped
  start := .idle
  rebuilds := []
  aclose := .idle
  closed := []
  nextClient := 0
  verdicts := []
  late := []

/-- What the steps of the assembly read. -/
def platform (host : Host) (s : Lifecycle) : Platform := ⟨host.lower, host.decrypt, s.fits⟩

/-- The same round in the engine: a client is built, and closed at once if it is not kept. -/
def construct (host : Host) (s : Lifecycle) (item : Item) : Lifecycle :=
  { s with
    nextClient := s.nextClient + 1
    closed := if host.create item.2 then s.closed else s.nextClient :: s.closed }

/-- `start` wires the pipeline. -/
def wire (s : Lifecycle) (config : RuntimeConfig) (built : Built) : Lifecycle :=
  { s with
    clients := built.clients
    adapters := built.adapters
    debouncer := .init config.servers
    wired := true
    start := .assembling (.gating config built (enterGate config)) }

/-- The end of `start` before its loop. -/
def enter (s : Lifecycle) (config : RuntimeConfig) (ok : Bool) : Lifecycle :=
  if !ok && !s.park then
    { s with state := .blocked, start := .returned, verdicts := (config, ok) :: s.verdicts }
  else
    { s with
      roots := gateRoots config ok
      state := gateState ok
      start := .consuming []
      verdicts := (config, ok) :: s.verdicts }

/-- `start` up to its next await. -/
def startStep (host : Host) (s : Lifecycle) : Option Lifecycle :=
  match s.start with
  | .idle => some { s with state := .starting, start := .assembling (.reading .servers) }
  | .assembling (.reading r) =>
    (readStep (s.platform host) s.db r).map fun
      | .inl r => { s with start := .assembling (.reading r) }
      | .inr config =>
        { s with
          config := some config
          start := .assembling (.building config config.servers.entries ⟨[], []⟩) }
  | .assembling (.building config (item :: rest) built) =>
    let built := built.round host s.nextClient item
    some { s.construct host item with start := .assembling (.building config rest built) }
  | .assembling (.building config [] built) => some (s.wire config built)
  | .assembling (.gating config _ (.verdict ok)) => some (s.enter config ok)
  | .assembling (.gating config built g) =>
    let g := gateStep (s.platform host) s.db config g
    some { s with start := .assembling (.gating config built g) }
  | _ => none

/-- Store the program counter of a call. -/
def setRebuild (s : Lifecycle) (i : Nat) (c : Rebuild) : Lifecycle :=
  { s with rebuilds := s.rebuilds.set i c }

/-- The swap of `rebuild`. -/
def swap (s : Lifecycle) (config : RuntimeConfig) (built : Built) (ok : Bool) : Lifecycle :=
  { s with
    adapters := built.adapters
    debouncer := s.debouncer.updateServers config.servers
    config := some config
    clients := built.clients
    roots := gateRoots config ok
    state := gateState ok
    verdicts := (config, ok) :: s.verdicts }

def closeClient (s : Lifecycle) (client : Client) : Lifecycle :=
  { s with closed := client :: s.closed }

/-- `rebuild` up to its next await. -/
def rebuildStep (host : Host) (s : Lifecycle) (i : Nat) : Option Lifecycle :=
  match s.rebuilds[i]? with
  -- "Engine.rebuild() called before start()"
  | some .pending => some (s.setRebuild i (if s.wired then .waiting else .raised))
  -- `self._lock`
  | some .waiting =>
    if s.rebuilds.any Rebuild.locked then none
    else some (s.setRebuild i (.assembling (.reading .servers)))
  | some (.assembling (.reading r)) =>
    (readStep (s.platform host) s.db r).map fun
      | .inl r => s.setRebuild i (.assembling (.reading r))
      | .inr config =>
        s.setRebuild i (.assembling (.building config config.servers.entries ⟨[], []⟩))
  | some (.assembling (.building config (item :: rest) built)) =>
    let built := built.round host s.nextClient item
    some ((s.construct host item).setRebuild i (.assembling (.building config rest built)))
  | some (.assembling (.building config [] built)) =>
    some (s.setRebuild i (.assembling (.gating config built (enterGate config))))
  | some (.assembling (.gating config built (.verdict ok))) =>
    some ((s.swap config built ok).setRebuild i (.closing (s.clients.map Prod.snd)))
  | some (.assembling (.gating config built g)) =>
    let g := gateStep (s.platform host) s.db config g
    some (s.setRebuild i (.assembling (.gating config built g)))
  | some (.closing (client :: rest)) => some ((s.closeClient client).setRebuild i (.closing rest))
  | some (.closing []) => some (s.setRebuild i .returned)
  | _ => none

/-- The step that comes next may raise: a read, the construction of a client, the measurement. -/
def fallible : Assembly → Bool
  | .reading _ => true
  | .building _ rest _ => rest ≠ []
  | .gating _ _ (.verdict _) => false
  | .gating _ _ _ => true

/-- `start` raises in the next step. -/
def startRaises (s : Lifecycle) : Option Lifecycle :=
  match s.start with
  | .assembling a => if fallible a then some { s with start := .raised } else none
  | _ => none

/-- The call raises in the next step. -/
def rebuildRaises (s : Lifecycle) (i : Nat) : Option Lifecycle :=
  match s.rebuilds[i]? with
  | some (.assembling a) => if fallible a then some (s.setRebuild i .raised) else none
  | _ => none

/-- `_dispatch`: if there is an adapter, its trigger starts. -/
def dispatch (s : Lifecycle) (req : ScanRequest) : Lifecycle :=
  match s.aclose, s.adapters.lookup req.serverId with
  | .returned, some _ => { s with late := req :: s.late }
  | _, _ => s

/-- The consume loop gets an event: `_handle_event` routes it by the current configuration. -/
def eventStep (host : Host) (s : Lifecycle) (e : FsEvent) : Option Lifecycle :=
  match s.start with
  | .consuming [] =>
    some { s with start := .consuming (s.config.elim [] fun config => route host.lower e config) }
  | _ => none

/-- `_handle_event` submits the next request. -/
def submitStep (s : Lifecycle) : Option Lifecycle :=
  match s.start with
  | .consuming (req :: rest) =>
    let r := s.debouncer.submit req
    some (r.2.foldl dispatch { s with debouncer := r.1, start := .consuming rest })
  | _ => none

/-- A timer task is resumed. -/
def fireStep (s : Lifecycle) (task : Nat) : Option Lifecycle :=
  (s.debouncer.fireAfter task).map fun r => r.2.foldl dispatch { s with debouncer := r.1 }

/-- The consume loop ends. -/
def endStep (s : Lifecycle) : Option Lifecycle :=
  match s.start with
  | .consuming _ => some { s with start := .ended }
  | _ => none

/-- `aclose` up to its next await. -/
def closeStep (s : Lifecycle) : Option Lifecycle :=
  match s.aclose with
  | .idle => some { s with aclose := .watcher }
  -- the watcher is closed; then the debouncer's timers are cancelled
  | .watcher => some { s with debouncer := s.debouncer.close, aclose := .debouncer }
  | .debouncer => some { s with aclose := .clients (s.clients.map Prod.snd) }
  | .clients (client :: rest) => some { s.closeClient client with aclose := .clients rest }
  | .clients [] => some { s with clients := [], state := .stopped, aclose := .returned }
  | .returned => none

inductive Act
  | start
  | startRaises
  /-- The database is written. -/
  | write (db : Db)
  /-- The watch limit or the trees change. -/
  | limits (fits : List Str → List Str → Bool)
  /-- `rebuild` is called. -/
  | request
  | rebuild (i : Nat)
  | rebuildRaises (i : Nat)
  | event (e : FsEvent)
  | submit
  | fire (task : Nat)
  | loopEnds
  | close

def step (host : Host) (s : Lifecycle) : Act → Option Lifecycle
  | .start => s.startStep host
  | .startRaises => s.startRaises
  | .write db => some { s with db := db }
  | .limits fits => some { s with fits := fits }
  | .request => some { s with rebuilds := s.rebuilds ++ [.pending] }
  | .rebuild i => s.rebuildStep host i
  | .rebuildRaises i => s.rebuildRaises i
  | .event e => s.eventStep host e
  | .submit => s.submitStep
  | .fire task => s.fireStep task
  | .loopEnds => s.endStep
  | .close => s.closeStep

/-! ## What a step can do -/

/-- What `start` can do in one step. -/
inductive StartCase (host : Host) (s : Lifecycle) : Lifecycle → Prop
  | begin : s.start = .idle →
      StartCase host s { s with state := .starting, start := .assembling (.reading .servers) }
  | read (r r' : Reading) : s.start = .assembling (.reading r) →
      readStep (s.platform host) s.db r = some (.inl r') →
      StartCase host s { s with start := .assembling (.reading r') }
  | store (r : Reading) (config : RuntimeConfig) : s.start = .assembling (.reading r) →
      readStep (s.platform host) s.db r = some (.inr config) →
      StartCase host s
        { s with
          config := some config
          start := .assembling (.building config config.servers.entries ⟨[], []⟩) }
  | round (config : RuntimeConfig) (item : Item) (rest : List Item) (built : Built) :
      s.start = .assembling (.building config (item :: rest) built) →
      StartCase host s
        { s.construct host item with
          start := .assembling (.building config rest (built.round host s.nextClient item)) }
  | wire (config : RuntimeConfig) (built : Built) :
      s.start = .assembling (.building config [] built) → StartCase host s (s.wire config built)
  | gate (config : RuntimeConfig) (built : Built) (g : Gate) :
      s.start = .assembling (.gating config built g) → (∀ ok, g ≠ .verdict ok) →
      StartCase host s
        { s with
          start := .assembling (.gating config built (gateStep (s.platform host) s.db config g)) }
  | enter (config : RuntimeConfig) (built : Built) (ok : Bool) :
      s.start = .assembling (.gating config built (.verdict ok)) →
      StartCase host s (s.enter config ok)

lemma startStep_cases {host : Host} {s s' : Lifecycle} (h : startStep host s = some s') :
    StartCase host s s' := by
  unfold startStep at h
  split at h
  case h_1 hs =>
    cases h
    exact .begin hs
  case h_2 r hs =>
    obtain ⟨res, hres, rfl⟩ := Option.map_eq_some_iff.1 h
    cases res with
    | inl r' => exact .read r r' hs hres
    | inr config => exact .store r config hs hres
  case h_3 config item rest built hs =>
    cases h
    exact .round config item rest built hs
  case h_4 config built hs =>
    cases h
    exact .wire config built hs
  case h_5 config built ok hs =>
    cases h
    exact .enter config built ok hs
  case h_6 config built g hne hs =>
    cases h
    exact .gate config built g hs hne
  case h_7 => cases h

/-- What a `rebuild` call can do in one step. -/
inductive RebuildCase (host : Host) (s : Lifecycle) (i : Nat) : Lifecycle → Prop
  | refuse : s.rebuilds[i]? = some .pending → s.wired = false →
      RebuildCase host s i (s.setRebuild i .raised)
  | wait : s.rebuilds[i]? = some .pending → s.wired = true →
      RebuildCase host s i (s.setRebuild i .waiting)
  | lock : s.rebuilds[i]? = some .waiting → (∀ c ∈ s.rebuilds, c.locked = false) →
      RebuildCase host s i (s.setRebuild i (.assembling (.reading .servers)))
  | read (r r' : Reading) : s.rebuilds[i]? = some (.assembling (.reading r)) →
      readStep (s.platform host) s.db r = some (.inl r') →
      RebuildCase host s i (s.setRebuild i (.assembling (.reading r')))
  | store (r : Reading) (config : RuntimeConfig) :
      s.rebuilds[i]? = some (.assembling (.reading r)) →
      readStep (s.platform host) s.db r = some (.inr config) →
      RebuildCase host s i
        (s.setRebuild i (.assembling (.building config config.servers.entries ⟨[], []⟩)))
  | round (config : RuntimeConfig) (item : Item) (rest : List Item) (built : Built) :
      s.rebuilds[i]? = some (.assembling (.building config (item :: rest) built)) →
      RebuildCase host s i ((s.construct host item).setRebuild i
        (.assembling (.building config rest (built.round host s.nextClient item))))
  | built (config : RuntimeConfig) (built : Built) :
      s.rebuilds[i]? = some (.assembling (.building config [] built)) →
      RebuildCase host s i
        (s.setRebuild i (.assembling (.gating config built (enterGate config))))
  | gate (config : RuntimeConfig) (built : Built) (g : Gate) :
      s.rebuilds[i]? = some (.assembling (.gating config built g)) → (∀ ok, g ≠ .verdict ok) →
      RebuildCase host s i (s.setRebuild i
        (.assembling (.gating config built (gateStep (s.platform host) s.db config g))))
  | swap (config : RuntimeConfig) (built : Built) (ok : Bool) :
      s.rebuilds[i]? = some (.assembling (.gating config built (.verdict ok))) →
      RebuildCase host s i
        ((s.swap config built ok).setRebuild i (.closing (s.clients.map Prod.snd)))
  | close (client : Client) (rest : List Client) :
      s.rebuilds[i]? = some (.closing (client :: rest)) →
      RebuildCase host s i ((s.closeClient client).setRebuild i (.closing rest))
  | finish : s.rebuilds[i]? = some (.closing []) →
      RebuildCase host s i (s.setRebuild i .returned)

lemma rebuildStep_cases {host : Host} {s s' : Lifecycle} {i : Nat}
    (h : rebuildStep host s i = some s') : RebuildCase host s i s' := by
  unfold rebuildStep at h
  split at h
  case h_1 hc =>
    cases h
    cases hw : s.wired with
    | false => exact .refuse hc hw
    | true => exact .wait hc hw
  case h_2 hc =>
    split at h
    · cases h
    · next hfree =>
      cases h
      apply RebuildCase.lock hc
      intro c hmem
      rw [Bool.not_eq_true] at hfree
      exact Bool.eq_false_iff.2 (List.any_eq_false.1 hfree c hmem)
  case h_3 r hc =>
    obtain ⟨res, hres, rfl⟩ := Option.map_eq_some_iff.1 h
    cases res with
    | inl r' => exact .read r r' hc hres
    | inr config => exact .store r config hc hres
  case h_4 config item rest built hc =>
    cases h
    exact .round config item rest built hc
  case h_5 config built hc =>
    cases h
    exact .built config built hc
  case h_6 config built ok hc =>
    cases h
    exact .swap config built ok hc
  case h_7 config built g hne hc =>
    cases h
    exact .gate config built g hc hne
  case h_8 client rest hc =>
    cases h
    exact .close client rest hc
  case h_9 hc =>
    cases h
    exact .finish hc
  case h_10 => cases h

/-- What `aclose` can do in one step. -/
inductive CloseCase (s : Lifecycle) : Lifecycle → Prop
  | watcher : s.aclose = .idle → CloseCase s { s with aclose := .watcher }
  | debouncer : s.aclose = .watcher →
      CloseCase s { s with debouncer := s.debouncer.close, aclose := .debouncer }
  | clients : s.aclose = .debouncer →
      CloseCase s { s with aclose := .clients (s.clients.map Prod.snd) }
  | client (client : Client) (rest : List Client) : s.aclose = .clients (client :: rest) →
      CloseCase s { s.closeClient client with aclose := .clients rest }
  | finish : s.aclose = .clients [] →
      CloseCase s { s with clients := [], state := .stopped, aclose := .returned }

lemma closeStep_cases {s s' : Lifecycle} (h : closeStep s = some s') : CloseCase s s' := by
  unfold closeStep at h
  split at h
  case h_1 hs =>
    cases h
    exact .watcher hs
  case h_2 hs =>
    cases h
    exact .debouncer hs
  case h_3 hs =>
    cases h
    exact .clients hs
  case h_4 client rest hs =>
    cases h
    exact .client client rest hs
  case h_5 hs =>
    cases h
    exact .finish hs
  case h_6 => cases h

/-- What any step can do. -/
inductive StepCase (host : Host) (s : Lifecycle) : Act → Lifecycle → Prop
  | start {s' : Lifecycle} : StartCase host s s' → StepCase host s .start s'
  | startRaises (a : Assembly) : s.start = .assembling a → fallible a = true →
      StepCase host s .startRaises { s with start := .raised }
  | write (db : Db) : StepCase host s (.write db) { s with db := db }
  | limits (fits : List Str → List Str → Bool) :
      StepCase host s (.limits fits) { s with fits := fits }
  | request : StepCase host s .request { s with rebuilds := s.rebuilds ++ [.pending] }
  | rebuild {s' : Lifecycle} (i : Nat) : RebuildCase host s i s' → StepCase host s (.rebuild i) s'
  | rebuildRaises (i : Nat) (a : Assembly) : s.rebuilds[i]? = some (.assembling a) →
      fallible a = true → StepCase host s (.rebuildRaises i) (s.setRebuild i .raised)
  | event (e : FsEvent) (inbox : List ScanRequest) : s.start = .consuming [] →
      StepCase host s (.event e) { s with start := .consuming inbox }
  | submit (req : ScanRequest) (rest : List ScanRequest) : s.start = .consuming (req :: rest) →
      StepCase host s .submit ((s.debouncer.submit req).2.foldl dispatch
        { s with debouncer := (s.debouncer.submit req).1, start := .consuming rest })
  | fire (task : Nat) (d : Debouncer) (out : List ScanRequest) :
      s.debouncer.fireAfter task = some (d, out) →
      StepCase host s (.fire task) (out.foldl dispatch { s with debouncer := d })
  | loopEnds (inbox : List ScanRequest) : s.start = .consuming inbox →
      StepCase host s .loopEnds { s with start := .ended }
  | close {s' : Lifecycle} : CloseCase s s' → StepCase host s .close s'

variable {host : Host} {s s' : Lifecycle} {a : Act}

lemma step_cases (h : step host s a = some s') : StepCase host s a s' := by
  cases a with
  | start => exact .start (startStep_cases h)
  | startRaises =>
    simp only [step, startRaises] at h
    split at h
    · next a hs =>
      split at h
      · next hf =>
        cases h
        exact .startRaises a hs hf
      · cases h
    · cases h
  | write db =>
    cases h
    exact .write db
  | limits fits =>
    cases h
    exact .limits fits
  | request =>
    cases h
    exact .request
  | rebuild i => exact .rebuild i (rebuildStep_cases h)
  | rebuildRaises i =>
    simp only [step, rebuildRaises] at h
    split at h
    · next a hs =>
      split at h
      · next hf =>
        cases h
        exact .rebuildRaises i a hs hf
      · cases h
    · cases h
  | event e =>
    simp only [step, eventStep] at h
    split at h
    · next hs =>
      cases h
      exact .event e _ hs
    · cases h
  | submit =>
    simp only [step, submitStep] at h
    split at h
    · next req rest hs =>
      cases h
      exact .submit req rest hs
    · cases h
  | fire task =>
    obtain ⟨⟨d, out⟩, hf, rfl⟩ := Option.map_eq_some_iff.1 h
    exact .fire task d out hf
  | loopEnds =>
    simp only [step, endStep] at h
    split at h
    · next inbox hs =>
      cases h
      exact .loopEnds inbox hs
    · cases h
  | close => exact .close (closeStep_cases h)

/-! ## Dispatching -/

/-- Dispatches are only remembered. -/
lemma foldl_dispatch (out : List ScanRequest) (s : Lifecycle) :
    ∃ late, out.foldl dispatch s = { s with late := late } ∧
      (s.aclose ≠ .returned ∨ (∀ req ∈ out, s.adapters.lookup req.serverId = none) →
        late = s.late) := by
  induction out generalizing s with
  | nil => exact ⟨s.late, rfl, fun _ => rfl⟩
  | cons req out ih =>
    have hone : ∃ late, s.dispatch req = { s with late := late } ∧
        (s.aclose ≠ .returned ∨ s.adapters.lookup req.serverId = none → late = s.late) := by
      unfold dispatch
      split
      · next hret hlook =>
        refine ⟨req :: s.late, rfl, ?_⟩
        rintro (h | h)
        · exact absurd hret h
        · rw [hlook] at h
          cases h
      · exact ⟨s.late, rfl, fun _ => rfl⟩
    obtain ⟨late, hs, hlate⟩ := hone
    rw [List.foldl_cons, hs]
    obtain ⟨late', hs', hlate'⟩ := ih { s with late := late }
    refine ⟨late', hs', ?_⟩
    rintro (h | h)
    · exact (hlate' (.inl h)).trans (hlate (.inl h))
    · have hrest := hlate' (.inr fun r hr => h r (List.mem_cons_of_mem _ hr))
      exact hrest.trans (hlate (.inr (h req List.mem_cons_self)))

/-! ## Before the pipeline is wired -/

/-- Before the pipeline is wired there are no clients, and no rebuild has got past its check. -/
structure Booted (s : Lifecycle) : Prop where
  early : s.start.early = true → s.wired = false
  clients : s.wired = false → s.clients = []
  rebuilds : s.wired = false → ∀ c ∈ s.rebuilds, c = .pending ∨ c = .raised

lemma booted_init (db : Db) (fits : List Str → List Str → Bool) (park : Bool) :
    Booted (init db fits park) :=
  ⟨fun _ => rfl, fun _ => rfl, fun _ _ hc => (by cases hc)⟩

lemma Booted.startCase (h : Booted s) (hc : StartCase host s s') : Booted s' := by
  cases hc with
  | begin hs => exact ⟨fun _ => h.early (by rw [hs]; rfl), h.clients, h.rebuilds⟩
  | read r r' hs => exact ⟨fun _ => h.early (by rw [hs]; rfl), h.clients, h.rebuilds⟩
  | store r config hs => exact ⟨fun _ => h.early (by rw [hs]; rfl), h.clients, h.rebuilds⟩
  | round config item rest built hs =>
    exact ⟨fun _ => h.early (by rw [hs]; rfl), h.clients, h.rebuilds⟩
  | wire config built hs => exact ⟨nofun, nofun, nofun⟩
  | gate config built g hs => exact ⟨nofun, h.clients, h.rebuilds⟩
  | enter config built ok hs =>
    unfold Lifecycle.enter
    split
    · exact ⟨nofun, h.clients, h.rebuilds⟩
    · exact ⟨nofun, h.clients, h.rebuilds⟩

/-- A rebuild that has got past its check finds the pipeline wired. -/
lemma Booted.wired (h : Booted s) {i : Nat} {c : Rebuild} (hi : s.rebuilds[i]? = some c)
    (hp : c ≠ .pending) (hr : c ≠ .raised) : s.wired = true := by
  cases hw : s.wired with
  | true => rfl
  | false =>
    cases h.rebuilds hw c (List.mem_of_getElem? hi) with
    | inl hc => exact absurd hc hp
    | inr hc => exact absurd hc hr

/-- In a wired engine a rebuild may do anything. -/
lemma Booted.of_wired (h : Booted s) (hw : s.wired = true) (hs : s'.start = s.start)
    (hw' : s'.wired = s.wired) : Booted s' := by
  refine ⟨fun he => ?_, fun hf => ?_, fun hf => ?_⟩
  · rw [hs] at he
    rw [h.early he] at hw
    cases hw
  · rw [hw', hw] at hf
    cases hf
  · rw [hw', hw] at hf
    cases hf

lemma Booted.rebuildCase (h : Booted s) {i : Nat} (hc : RebuildCase host s i s') : Booted s' := by
  cases hc with
  | refuse hi hw =>
    refine ⟨h.early, h.clients, fun _ c hc => ?_⟩
    cases List.mem_or_eq_of_mem_set hc with
    | inl hc => exact h.rebuilds hw c hc
    | inr hc => exact .inr hc
  | wait hi hw => exact h.of_wired hw rfl rfl
  | lock hi => exact h.of_wired (h.wired hi nofun nofun) rfl rfl
  | read r r' hi => exact h.of_wired (h.wired hi nofun nofun) rfl rfl
  | store r config hi => exact h.of_wired (h.wired hi nofun nofun) rfl rfl
  | round config item rest built hi => exact h.of_wired (h.wired hi nofun nofun) rfl rfl
  | built config built hi => exact h.of_wired (h.wired hi nofun nofun) rfl rfl
  | gate config built g hi => exact h.of_wired (h.wired hi nofun nofun) rfl rfl
  | swap config built ok hi => exact h.of_wired (h.wired hi nofun nofun) rfl rfl
  | close client rest hi => exact h.of_wired (h.wired hi nofun nofun) rfl rfl
  | finish hi => exact h.of_wired (h.wired hi nofun nofun) rfl rfl

lemma Booted.step (h : Booted s) (hs : step host s a = some s') : Booted s' := by
  cases step_cases hs with
  | start hc => exact h.startCase hc
  | startRaises => exact ⟨nofun, h.clients, h.rebuilds⟩
  | write => exact ⟨h.early, h.clients, h.rebuilds⟩
  | limits => exact ⟨h.early, h.clients, h.rebuilds⟩
  | request =>
    refine ⟨h.early, h.clients, fun hw c hc => ?_⟩
    cases List.mem_append.1 hc with
    | inl hc => exact h.rebuilds hw c hc
    | inr hc => exact .inl (List.mem_singleton.1 hc)
  | rebuild i hc => exact h.rebuildCase hc
  | rebuildRaises i p hi => exact h.of_wired (h.wired hi nofun nofun) rfl rfl
  | event => exact ⟨nofun, h.clients, h.rebuilds⟩
  | submit req rest =>
    obtain ⟨late, hd, -⟩ := foldl_dispatch (s.debouncer.submit req).2
      { s with debouncer := (s.debouncer.submit req).1, start := .consuming rest }
    rw [hd]
    exact ⟨nofun, h.clients, h.rebuilds⟩
  | fire task d out =>
    obtain ⟨late, hd, -⟩ := foldl_dispatch out { s with debouncer := d }
    rw [hd]
    exact ⟨h.early, h.clients, h.rebuilds⟩
  | loopEnds => exact ⟨nofun, h.clients, h.rebuilds⟩
  | close hc =>
    cases hc with
    | finish => exact ⟨h.early, fun _ => rfl, h.rebuilds⟩
    | _ => exact ⟨h.early, h.clients, h.rebuilds⟩

/-! ## A sample -/

/-- A machine on which every adapter can be constructed. -/
def healthy : Host := ⟨lowerAscii, some, fun _ => true⟩

/-- There is room for all watches. -/
def roomy : List Str → List Str → Bool := fun _ _ => true

/-- The steps of `start` up to its loop, where one server has a folder. -/
def startup : List Act := List.replicate 9 .start

end Lifecycle
end MediaScanMonitor
