import MediaScanMonitor.Config.Runtime
import MediaScanMonitor.Lib.Transition

/-!
# The engine

`engine.py` as a transition system: `start`, any number of `rebuild_engine` calls (each after a
committed write) and any number of dispatches, interleaved at their awaits. A coroutine is a program
counter that carries its local variables; an action runs one coroutine from one await to the next.

The configuration is read table by table, the inotify gate by a read of the policy and a measurement
of the watch limit. The adapters of a configuration capture their HTTP clients, which the engine
owns and closes when a rebuild has replaced them.
-/

namespace MediaScanMonitor
open Text Transition

inductive EngineState
  | starting
  | running
  | blocked
  | stopped
deriving DecidableEq

/-- What the engine uses and does not change. -/
structure Platform where
  /-- `str.lower`. -/
  lower : Str → Str
  /-- The secret box; `none` is its exception. -/
  decrypt : Str → Option Str
  /-- `check_watch_limit(watch_paths, ignore_dirs).ok`. -/
  fits : List Str → List Str → Bool

/-- An `httpx.AsyncClient`. -/
abbrev Client := Nat

/-- An adapter: its server and the client it has captured. -/
structure Adapter where
  server : ServerRuntime
  client : Client

/-- Where a coroutine is in `build_runtime_config`. -/
inductive Reading
  /-- It is about to list the servers. -/
  | servers
  /-- It is about to read the folders of the next server. -/
  | folders (rest : List Server) (config : RuntimeConfig)

/-- Where a coroutine is in `_gate_ok`. -/
inductive Gate
  /-- It is about to read the policy. -/
  | policy
  /-- It is about to measure the watch limit. -/
  | limit (policy : Option Str)
  | verdict (ok : Bool)

/-- Where `start` is. -/
inductive Start
  | idle
  | reading (r : Reading)
  /-- The configuration is stored, the adapters are being built. -/
  | wiring (config : RuntimeConfig)
  | gating (config : RuntimeConfig) (g : Gate)
  /-- It consumes the events of the watcher. -/
  | consuming

/-- Where a `rebuild_engine` call is. -/
inductive Call
  | pending
  /-- It waits for the lock. -/
  | waiting
  | reading (r : Reading)
  | gating (config : RuntimeConfig) (adapters : List Adapter) (g : Gate)
  /-- The swap is done, these clients are to be closed. -/
  | closing (clients : List Client)
  | returned

/-- The call holds the lock. -/
def Call.locked : Call → Bool
  | .reading _ => true
  | .gating _ _ _ => true
  | .closing _ => true
  | _ => false

/-- A trigger in flight: `request_with_retry` on the client of its adapter. -/
structure Dispatch where
  client : Client
  /-- The attempts that are left. -/
  left : Nat
  /-- An attempt is outstanding. -/
  outstanding : Bool
  /-- An attempt was issued on a closed client, or was outstanding when its client was closed. -/
  cut : Bool

/-- A trigger begins. There is one attempt at least. -/
def Adapter.trigger (a : Adapter) : Dispatch :=
  ⟨a.client, max 1 a.server.retryAttempts.toNat, false, false⟩

/-- The trigger has issued an attempt. -/
def Dispatch.issue (d : Dispatch) (closed : List Client) : Dispatch :=
  { d with left := d.left - 1, outstanding := true, cut := d.cut || d.client ∈ closed }

/-- The trigger waits before its next attempt. -/
def Dispatch.wait (d : Dispatch) : Dispatch :=
  { d with outstanding := false }

structure Engine where
  db : Db
  config : Option RuntimeConfig
  /-- The dispatcher, the debouncer and the watcher are there. -/
  wired : Bool
  /-- The adapters of the dispatcher. -/
  adapters : List Adapter
  clients : List Client
  /-- The roots of the watcher. -/
  roots : List Str
  state : EngineState
  start : Start
  calls : List Call
  dispatches : List Dispatch
  closed : List Client
  nextClient : Client

namespace Engine

/-- A new engine on a database. -/
def init (db : Db) : Engine where
  db := db
  config := none
  wired := false
  adapters := []
  clients := []
  roots := []
  state := .stopped
  start := .idle
  calls := []
  dispatches := []
  closed := []
  nextClient := 0

/-- The name of the gate's setting. -/
def gateKey : Str := "inotify_gate".toList

/-- The verdict of `_gate_ok`, given the policy. -/
def passes (pf : Platform) (config : RuntimeConfig) (policy : Option Str) : Bool :=
  if policy = some "off".toList then true else pf.fits config.watchPaths config.ignoreDirs

/-- The start of `_gate_ok`: without watch paths there is nothing to measure. -/
def enterGate (config : RuntimeConfig) : Gate :=
  if config.watchPaths = [] then .verdict true else .policy

/-- `_gate_ok` up to its next await. -/
def gateStep (pf : Platform) (db : Db) (config : RuntimeConfig) : Gate → Gate
  | .policy => .limit (db.getSetting gateKey)
  | .limit policy => .verdict (passes pf config policy)
  | .verdict ok => .verdict ok

/-- One read of `build_runtime_config`; the result is a configuration when it was the last. -/
def readStep (pf : Platform) (db : Db) : Reading → Option (Reading ⊕ RuntimeConfig)
  | .servers => some (.inl (.folders (db.listServers true) .empty))
  | .folders [] config => some (.inr config)
  | .folders (server :: rest) config =>
    (config.addServer pf.lower pf.decrypt server (db.listFolders server.id)).map fun config =>
      .inl (.folders rest config)

/-- `_build_adapters`: a client for each server. Every server type has an adapter class. -/
def buildAdapters (next : Client) (config : RuntimeConfig) : List Adapter :=
  config.servers.entries.zipIdx.map fun (entry, i) => ⟨entry.2, next + i⟩

/-- The roots and the state that the gate's verdict leads to. -/
def gateRoots (config : RuntimeConfig) (ok : Bool) : List Str :=
  if ok then config.watchPaths else []

def gateState (ok : Bool) : EngineState :=
  if ok then .running else .blocked

/-- `start` up to its next await. -/
def startStep (pf : Platform) (s : Engine) : Option Engine :=
  match s.start with
  | .idle => some { s with state := .starting, start := .reading .servers }
  | .reading r =>
    (readStep pf s.db r).map fun
      | .inl r => { s with start := .reading r }
      | .inr config => { s with config := some config, start := .wiring config }
  -- nothing is awaited from the wiring to the first read of the gate
  | .wiring config =>
    let adapters := buildAdapters s.nextClient config
    some
      { s with
        adapters := adapters
        clients := adapters.map Adapter.client
        nextClient := s.nextClient + adapters.length
        wired := true
        start := .gating config (enterGate config) }
  | .gating config (.verdict ok) =>
    some { s with roots := gateRoots config ok, state := gateState ok, start := .consuming }
  | .gating config g => some { s with start := .gating config (gateStep pf s.db config g) }
  | .consuming => none

/-- `client.aclose()`: it cuts the attempts that are outstanding. -/
def closeClient (s : Engine) (client : Client) : Engine :=
  { s with
    closed := client :: s.closed
    dispatches := s.dispatches.map fun d =>
      if d.client = client ∧ d.outstanding then { d with cut := true } else d }

/-- Store the program counter of a call. -/
def setCall (s : Engine) (i : Nat) (c : Call) : Engine :=
  { s with calls := s.calls.set i c }

/-- The swap of `rebuild`. -/
def swap (s : Engine) (config : RuntimeConfig) (adapters : List Adapter) (ok : Bool) : Engine :=
  { s with
    adapters := adapters
    config := some config
    clients := adapters.map Adapter.client
    roots := gateRoots config ok
    state := gateState ok }

/-- `rebuild_engine` up to its next await. -/
def callStep (pf : Platform) (s : Engine) (i : Nat) : Option Engine :=
  match s.calls[i]? with
  -- before `start` has wired the engine there is nothing to rebuild
  | some .pending => some (s.setCall i (if s.wired then .waiting else .returned))
  -- `self._lock`
  | some .waiting => if s.calls.any Call.locked then none else some (s.setCall i (.reading .servers))
  | some (.reading r) =>
    (readStep pf s.db r).map fun
      | .inl r => s.setCall i (.reading r)
      | .inr config =>
        let adapters := buildAdapters s.nextClient config
        { s with nextClient := s.nextClient + adapters.length }.setCall i
          (.gating config adapters (enterGate config))
  | some (.gating config adapters (.verdict ok)) =>
    -- the old clients are closed behind the swap, when no new request uses them
    some ((s.swap config adapters ok).setCall i (.closing s.clients))
  | some (.gating config adapters g) =>
    some (s.setCall i (.gating config adapters (gateStep pf s.db config g)))
  | some (.closing (client :: rest)) => some ((s.closeClient client).setCall i (.closing rest))
  | some (.closing []) => some (s.setCall i .returned)
  | some .returned => none
  | none => none

/-- `Dispatcher.dispatch`: the adapter of the server is looked up, and its trigger begins. -/
def dispatchStep (s : Engine) (serverId : Nat) : Option Engine :=
  (s.adapters.find? fun a => a.server.serverId = serverId).map fun a =>
    { s with dispatches := s.dispatches ++ [a.trigger] }

/-- A trigger issues an attempt on its client. -/
def attemptStep (s : Engine) (j : Nat) : Option Engine :=
  match s.dispatches[j]? with
  | none => none
  | some d =>
    if d.outstanding ∨ d.left = 0 then none
    else some { s with dispatches := s.dispatches.set j (d.issue s.closed) }

/-- An attempt ends, to be retried or not. -/
def answerStep (s : Engine) (j : Nat) (retry : Bool) : Option Engine :=
  match s.dispatches[j]? with
  | none => none
  | some d =>
    if !d.outstanding then none
    else if retry && d.left ≠ 0 then
      some { s with dispatches := s.dispatches.set j d.wait }
    else some { s with dispatches := s.dispatches.eraseIdx j }

inductive Act
  /-- `start` continues. -/
  | start
  /-- A write is committed; its `rebuild_engine` call follows. -/
  | write (db : Db)
  /-- A `rebuild_engine` call continues. -/
  | call (i : Nat)
  /-- A request is dispatched. -/
  | dispatch (serverId : Nat)
  | attempt (j : Nat)
  | answer (j : Nat) (retry : Bool)

def step (pf : Platform) (s : Engine) : Act → Option Engine
  | .start => s.startStep pf
  | .write db => some { s with db := db, calls := s.calls ++ [.pending] }
  | .call i => s.callStep pf i
  | .dispatch serverId => s.dispatchStep serverId
  | .attempt j => s.attemptStep j
  | .answer j retry => s.answerStep j retry

/-- What a `rebuild_engine` call can do in one step. -/
inductive CallCase (pf : Platform) (s : Engine) (i : Nat) : Engine → Prop
  | refuse : s.calls[i]? = some .pending → s.wired = false → CallCase pf s i (s.setCall i .returned)
  | wait : s.calls[i]? = some .pending → s.wired = true → CallCase pf s i (s.setCall i .waiting)
  | lock : s.calls[i]? = some .waiting → (∀ c ∈ s.calls, c.locked = false) →
      CallCase pf s i (s.setCall i (.reading .servers))
  | read (r r' : Reading) : s.calls[i]? = some (.reading r) →
      readStep pf s.db r = some (.inl r') → CallCase pf s i (s.setCall i (.reading r'))
  | build (r : Reading) (config : RuntimeConfig) (adapters : List Adapter) (next : Client) :
      s.calls[i]? = some (.reading r) → readStep pf s.db r = some (.inr config) →
      adapters = buildAdapters s.nextClient config → next = s.nextClient + adapters.length →
      CallCase pf s i
        ({ s with nextClient := next }.setCall i (.gating config adapters (enterGate config)))
  | gate (config : RuntimeConfig) (adapters : List Adapter) (g : Gate) :
      s.calls[i]? = some (.gating config adapters g) →
      CallCase pf s i (s.setCall i (.gating config adapters (gateStep pf s.db config g)))
  | swap (config : RuntimeConfig) (adapters : List Adapter) (ok : Bool) :
      s.calls[i]? = some (.gating config adapters (.verdict ok)) →
      CallCase pf s i ((s.swap config adapters ok).setCall i (.closing s.clients))
  | close (client : Client) (rest : List Client) : s.calls[i]? = some (.closing (client :: rest)) →
      CallCase pf s i ((s.closeClient client).setCall i (.closing rest))
  | finish : s.calls[i]? = some (.closing []) → CallCase pf s i (s.setCall i .returned)

lemma callStep_cases {pf : Platform} {s s' : Engine} {i : Nat} (h : callStep pf s i = some s') :
    CallCase pf s i s' := by
  unfold callStep at h
  split at h
  case h_1 hc =>
    cases h
    cases hw : s.wired with
    | false => exact .refuse hc hw
    | true => exact .wait hc hw
  case h_2 hc =>
    split at h
    · cases h
    · next hfree =>
      cases h
      refine .lock hc fun c hmem => ?_
      rw [Bool.not_eq_true] at hfree
      exact Bool.eq_false_iff.2 (List.any_eq_false.1 hfree c hmem)
  case h_3 r hc =>
    obtain ⟨res, hres, rfl⟩ := Option.map_eq_some_iff.1 h
    cases res with
    | inl r' => exact .read r r' hc hres
    | inr config => exact .build r config _ _ hc hres rfl rfl
  case h_4 config adapters ok hc =>
    cases h
    exact .swap config adapters ok hc
  case h_5 config adapters g _ hc =>
    cases h
    exact .gate config adapters g hc
  case h_6 client rest hc =>
    cases h
    exact .close client rest hc
  case h_7 hc =>
    cases h
    exact .finish hc
  case h_8 => cases h
  case h_9 => cases h

variable {pf : Platform} {s s' : Engine}

/-- One call holds the lock. -/
def LockOne (s : Engine) : Prop :=
  ∀ {i j : Nat} {c c' : Call}, s.calls[i]? = some c → s.calls[j]? = some c' → c.locked = true →
    c'.locked = true → i = j

/-- The lock is taken only when it is free. -/
lemma LockOne.set (h : LockOne s) {i : Nat} {c c' : Call} (hi : s.calls[i]? = some c)
    (hcalls : s'.calls = s.calls.set i c')
    (hlock : c'.locked = true → c.locked = true ∨ ∀ x ∈ s.calls, x.locked = false) :
    LockOne s' := by
  show AtMostOne Call.locked s'.calls
  rw [hcalls]
  exact AtMostOne.set h hi hlock

lemma LockOne.call (h : LockOne s) {i : Nat} (hc : CallCase pf s i s') : LockOne s' := by
  cases hc with
  | refuse hi => exact h.set hi rfl fun hl => (by cases hl)
  | wait hi => exact h.set hi rfl fun hl => (by cases hl)
  | lock hi hfree => exact h.set hi rfl fun _ => .inr hfree
  | read r r' hi => exact h.set hi rfl fun _ => .inl rfl
  | build r config adapters next hi => exact h.set hi rfl fun _ => .inl rfl
  | gate config adapters g hi => exact h.set hi rfl fun _ => .inl rfl
  | swap config adapters ok hi => exact h.set hi rfl fun _ => .inl rfl
  | close client rest hi => exact h.set hi rfl fun _ => .inl rfl
  | finish hi => exact h.set hi rfl fun hl => (by cases hl)

/-- A new call does not hold the lock. -/
lemma LockOne.write (h : LockOne s) (hcalls : s'.calls = s.calls ++ [.pending]) : LockOne s' := by
  show AtMostOne Call.locked s'.calls
  rw [hcalls]
  exact AtMostOne.append h rfl

/-- What `start` can do in one step. -/
inductive StartCase (pf : Platform) (s : Engine) : Engine → Prop
  | begin : s.start = .idle →
      StartCase pf s { s with state := .starting, start := .reading .servers }
  | read (r r' : Reading) : s.start = .reading r → readStep pf s.db r = some (.inl r') →
      StartCase pf s { s with start := .reading r' }
  | store (r : Reading) (config : RuntimeConfig) : s.start = .reading r →
      readStep pf s.db r = some (.inr config) →
      StartCase pf s { s with config := some config, start := .wiring config }
  | wire (config : RuntimeConfig) (adapters : List Adapter) (next : Client) :
      s.start = .wiring config → adapters = buildAdapters s.nextClient config →
      next = s.nextClient + adapters.length →
      StartCase pf s
        { s with
          adapters := adapters
          clients := adapters.map Adapter.client
          nextClient := next
          wired := true
          start := .gating config (enterGate config) }
  | gate (config : RuntimeConfig) (g : Gate) : s.start = .gating config g →
      StartCase pf s { s with start := .gating config (gateStep pf s.db config g) }
  | consume (config : RuntimeConfig) (ok : Bool) : s.start = .gating config (.verdict ok) →
      StartCase pf s
        { s with roots := gateRoots config ok, state := gateState ok, start := .consuming }

lemma startStep_cases (h : startStep pf s = some s') : StartCase pf s s' := by
  unfold startStep at h
  split at h
  case h_1 hs =>
    cases h
    exact .begin hs
  case h_2 r hs =>
    obtain ⟨res, hres, rfl⟩ := Option.map_eq_some_iff.1 h
    cases res with
    | inl r' => exact .read r r' hs hres
    | inr config => exact .store r config hs hres
  case h_3 config hs =>
    cases h
    exact .wire config _ _ hs rfl rfl
  case h_4 config ok hs =>
    cases h
    exact .consume config ok hs
  case h_5 config g _ hs =>
    cases h
    exact .gate config g hs
  case h_6 => cases h

/-- What any step does: `start` or a call goes on, a write is committed, or only the dispatches
change. -/
inductive StepCase (pf : Platform) (s : Engine) : Act → Engine → Prop
  | start {s' : Engine} : StartCase pf s s' → StepCase pf s .start s'
  | write (db : Db) : StepCase pf s (.write db) { s with db := db, calls := s.calls ++ [.pending] }
  | call {s' : Engine} (i : Nat) : CallCase pf s i s' → StepCase pf s (.call i) s'
  | dispatch (serverId : Nat) (a : Adapter) : a ∈ s.adapters →
      StepCase pf s (.dispatch serverId)
        { s with dispatches := s.dispatches ++ [a.trigger] }
  | attempt (j : Nat) (d : Dispatch) : d ∈ s.dispatches →
      StepCase pf s (.attempt j)
        { s with dispatches := s.dispatches.set j (d.issue s.closed) }
  | again (j : Nat) (d : Dispatch) : d ∈ s.dispatches →
      StepCase pf s (.answer j true)
        { s with dispatches := s.dispatches.set j d.wait }
  | finish (j : Nat) (retry : Bool) :
      StepCase pf s (.answer j retry) { s with dispatches := s.dispatches.eraseIdx j }

lemma step_cases {a : Act} (h : step pf s a = some s') : StepCase pf s a s' := by
  cases a with
  | start => exact .start (startStep_cases h)
  | write db =>
    cases h
    exact .write db
  | call i => exact .call i (callStep_cases h)
  | dispatch serverId =>
    obtain ⟨a, ha, rfl⟩ := Option.map_eq_some_iff.1 h
    exact .dispatch serverId a (List.mem_of_find?_eq_some ha)
  | attempt j =>
    simp only [step, attemptStep] at h
    split at h
    · cases h
    · next d hd =>
      split at h
      · cases h
      · cases h
        exact .attempt j d (List.mem_of_getElem? hd)
  | answer j retry =>
    simp only [step, answerStep] at h
    split at h
    · cases h
    · next d hd =>
      split at h
      · cases h
      · split at h
        · next hr =>
          rw [Bool.and_eq_true] at hr
          rw [hr.1]
          cases h
          exact .again j d (List.mem_of_getElem? hd)
        · cases h
          exact .finish j retry

/-- Every run keeps the lock with one call. -/
lemma LockOne.step (h : LockOne s) {a : Act} (hs : step pf s a = some s') : LockOne s' := by
  cases step_cases hs with
  | start hc => cases hc <;> exact h
  | write db => exact h.write rfl
  | call i hc => exact h.call hc
  | dispatch => exact h
  | attempt => exact h
  | again => exact h
  | finish => exact h

lemma lockOne_init (db : Db) : LockOne (init db) := by
  intro i j c c' hi
  cases hi

/-- A platform with room for all watches, and no secrets to decrypt. -/
def roomy : Platform := ⟨lowerAscii, some, fun _ _ => true⟩

/-- A Plex server that is told about `/m`. -/
def plexDb : Db where
  servers := [⟨1, "plex".toList, .plex, "http://plex".toList, none, .targeted, .trailing, 30, 3, true,
    none, none, none, .custom, "created".toList⟩]
  folders := [⟨1, "/m".toList, some "1".toList, true, []⟩]
  settings := []

end Engine
end MediaScanMonitor
