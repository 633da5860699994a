import MediaScanMonitor.Pipeline.Timers
import MediaScanMonitor.Web.EventStream

/-!
# The fan-out of an event

`Engine._handle_event` with `Engine._dispatch`, beside everything that runs between its awaits: the
timers of the debouncer and their dispatches, the subscribers of the two buses, `Debouncer.aclose`
and rebuilds. How the trigger of an adapter ends is a part of the action that ends it.

What is proved here is what each step does. Whatever happens, no exception gets into the handler, the
debouncer has the policies of the configuration, and the buses are in order.
-/

namespace MediaScanMonitor
open Text Transition

/-- A dispatch that has looked up its adapter. -/
structure Flight where
  req : ScanRequest
  /-- The server has an adapter. -/
  found : Bool

/-- What `dispatch` returns, by how the trigger ends if there is one. -/
def Flight.result (flight : Flight) (behaviour : Except Exn TriggerResult) : TriggerResult :=
  if flight.found then Dispatcher.isolate behaviour
  else ⟨false, none, "no adapter for server_id=".toList ++ (Nat.repr flight.req.serverId).toList⟩

/-- `Dispatcher.dispatch` returns this, with the adapter that it finds. -/
lemma dispatch_eq_result (out : Outside) (adapters : List Adapter) (req : ScanRequest) :
    ∃ behaviour, Dispatcher.dispatch out adapters req =
      Flight.result ⟨req, (Dispatcher.lookup adapters req.serverId).isSome⟩ behaviour := by
  unfold Dispatcher.dispatch
  cases Dispatcher.lookup adapters req.serverId with
  | none => exact ⟨.ok ⟨false, none, []⟩, rfl⟩
  | some a => exact ⟨a.server.trigger out req, rfl⟩

/-- A dispatch of the handler that has ended. -/
structure Dispatched where
  ts : Str
  flight : Flight
  behaviour : Except Exn TriggerResult

/-- The record with the outcome of the dispatch. -/
def Dispatched.record (d : Dispatched) : EventRecord :=
  .of d.ts d.flight.req (d.flight.result d.behaviour)

/-- Who has dispatched a request. -/
inductive Origin
  | handler
  | timer (task : Nat)
deriving DecidableEq

/-- Where `_handle_event` is. -/
inductive Handler
  /-- No event is being handled. -/
  | idle
  /-- It is about to submit the first of these requests, or to return. -/
  | submitting (rest : List ScanRequest)
  /-- It awaits a dispatch; these requests come afterwards. -/
  | awaiting (flight : Flight) (rest : List ScanRequest)
  | raised

/-- The requests whose rounds are not over. -/
def Handler.pending : Handler → List ScanRequest
  | .submitting rest => rest
  | .awaiting flight rest => flight.req :: rest
  | _ => []

/-- A bound on the steps until it returns. -/
def Handler.left : Handler → Nat
  | .submitting rest => 2 * rest.length + 1
  | .awaiting _ rest => 2 * rest.length + 2
  | _ => 0

/-- The engine while it consumes events. -/
structure FanOut where
  config : RuntimeConfig
  /-- The servers that have an adapter. -/
  adapters : List Nat
  debouncer : Debouncer
  events : Option (BusRun EventRecord)
  rawEvents : Option (BusRun RawEventRecord)
  handler : Handler
  /-- The dispatches that the timers of these tasks have begun. -/
  flights : List (Nat × Flight)
  /-- What has happened since the event was received: the dispatches of the handler, all records, the
  timers that have elapsed with their requests, and those that `aclose` has cancelled. -/
  done : List Dispatched
  log : List (Origin × EventRecord)
  fired : List (Nat × ScanRequest)
  cut : List Nat

namespace FanOut

/-- A wired engine. A bus comes with its `capacity` and its `maxsize`. -/
def init (config : RuntimeConfig) (adapters : List Nat) (events rawEvents : Option (Nat × Nat)) :
    FanOut where
  config := config
  adapters := adapters
  debouncer := .init config.servers
  events := events.map fun size => .start size.1 size.2
  rawEvents := rawEvents.map fun size => .start size.1 size.2
  handler := .idle
  flights := []
  done := []
  log := []
  fired := []
  cut := []

/-- The loop of `_handle_event` begins. -/
def enter (s : FanOut) (reqs : List ScanRequest) : FanOut :=
  { s with handler := .submitting reqs, done := [], log := [], fired := [], cut := [] }

/-- `dispatch` looks up the adapter of the request. -/
def flight (s : FanOut) (req : ScanRequest) : Flight :=
  ⟨req, req.serverId ∈ s.adapters⟩

/-- The rest of `_dispatch`, when the trigger has ended; `none` is an exception. -/
def settle (s : FanOut) (origin : Origin) (d : Dispatched) : Option FanOut :=
  match s.events with
  | none => some s
  | some bus => (bus.step (.publish d.record)).map fun bus =>
    { s with events := some bus, log := s.log ++ [(origin, d.record)] }

inductive Act
  /-- An event of the watcher is to be handled. -/
  | receive (ts : Str) (event : FsEvent)
  /-- The handler goes on; the trigger that it awaits, if it does, has ended like this. -/
  | go (ts : Str) (behaviour : Except Exn TriggerResult)
  /-- A timer task is resumed after its sleep. -/
  | fire (task : Nat)
  /-- The trigger of a timer's dispatch has ended. -/
  | settle (i : Nat) (ts : Str) (behaviour : Except Exn TriggerResult)
  /-- `Debouncer.aclose`. -/
  | close
  /-- The swap of a rebuild. -/
  | rebuild (config : RuntimeConfig) (adapters : List Nat)
  /-- A subscriber of a bus comes, goes or reads. -/
  | events (a : BusRun.Act EventRecord)
  | rawEvents (a : BusRun.Act RawEventRecord)

/-- A step of the subscribers of a bus. -/
def subscribers {α : Type} (bus : BusRun α) : BusRun.Act α → Option (BusRun α)
  | .publish _ => none
  | a => bus.step a

/-- `_handle_event` up to its loop. -/
def receive (lower : Str → Str) (s : FanOut) (ts : Str) (event : FsEvent) : FanOut :=
  let reqs := route lower event s.config
  match s.rawEvents with
  | none => s.enter reqs
  | some bus =>
    match bus.step (.publish ⟨ts, event.eventType.value, event.path, event.isDir, reqs ≠ []⟩) with
    | none => { s with handler := .raised }
    | some bus => { s with rawEvents := some bus }.enter reqs

/-- `_handle_event` from one await to the next. -/
def go (s : FanOut) (ts : Str) (behaviour : Except Exn TriggerResult) : Option FanOut :=
  match s.handler with
  | .submitting [] => some { s with handler := .idle }
  | .submitting (req :: rest) =>
    match s.debouncer.submit req with
    -- the request waits for its window
    | (debouncer, []) => some { s with debouncer := debouncer, handler := .submitting rest }
    | (debouncer, req :: _) =>
      some { s with debouncer := debouncer, handler := .awaiting (s.flight req) rest }
  | .awaiting flight rest =>
    match s.settle .handler ⟨ts, flight, behaviour⟩ with
    | none => some { s with handler := .raised }
    | some s =>
      some { s with handler := .submitting rest, done := s.done ++ [⟨ts, flight, behaviour⟩] }
  | _ => none

def step (lower : Str → Str) (s : FanOut) : Act → Option FanOut
  | .receive ts event =>
    match s.handler with
    | .idle => some (s.receive lower ts event)
    | _ => none
  | .go ts behaviour => s.go ts behaviour
  -- the dispatches of timers run beside the handler
  | .fire task => (s.debouncer.fireAfter task).map fun (debouncer, out) =>
    { s with
      debouncer := debouncer
      flights := s.flights ++ out.map fun req => (task, s.flight req)
      fired := s.fired ++ out.map fun req => (task, req) }
  | .settle i ts behaviour => s.flights[i]?.map fun (task, flight) =>
    { (s.settle (.timer task) ⟨ts, flight, behaviour⟩).getD s with flights := s.flights.eraseIdx i }
  | .close =>
    some
      { s with
        debouncer := s.debouncer.close
        cut := s.cut ++ s.debouncer.timers.entries.map fun entry => entry.2 }
  | .rebuild config adapters =>
    some
      { s with
        config := config
        adapters := adapters
        debouncer := s.debouncer.updateServers config.servers }
  | .events a => do
    let bus ← subscribers (← s.events) a
    pure { s with events := some bus }
  | .rawEvents a => do
    let bus ← subscribers (← s.rawEvents) a
    pure { s with rawEvents := some bus }

/-- No rebuild, and not the next event yet. -/
def Alone (_ : FanOut) : Act → Prop
  | .receive _ _ => False
  | .rebuild _ _ => False
  | _ => True

instance (s : FanOut) (a : Act) : Decidable (Alone s a) := by
  unfold Alone
  split <;> infer_instance

end FanOut

/-- The server of the request lets it wait. -/
def RuntimeConfig.Trails (config : RuntimeConfig) (req : ScanRequest) : Prop :=
  ∃ server, config.servers.lookup req.serverId = some server ∧ server.debounceMode ≠ .off

instance (config : RuntimeConfig) (req : ScanRequest) : Decidable (config.Trails req) :=
  inferInstanceAs
    (Decidable (∃ server ∈ config.servers.lookup req.serverId, server.debounceMode ≠ .off))

namespace FanOut

/-! ## What each step does -/

variable {lower : Str → Str} {s s' : FanOut} {a : Act}

/-- The policies are those of the configuration, the timers are in order, and no exception has come
from a bus. -/
structure Base (s : FanOut) : Prop where
  exact : s.debouncer.Exact
  servers : s.debouncer.servers = s.config.servers
  events : ∀ bus ∈ s.events, ∃ c m got, BusRun.Inv c m got bus
  rawEvents : ∀ bus ∈ s.rawEvents, ∃ c m got, BusRun.Inv c m got bus
  calm : s.handler ≠ .raised

/-- A step of the subscribers publishes nothing. -/
lemma subscribers_step {α : Type} {bus bus' : BusRun α} {a : BusRun.Act α}
    (h : subscribers bus a = some bus') :
    bus.step a = some bus' ∧ ∀ record, a ≠ .publish record := by
  unfold subscribers at h
  split at h
  · cases h
  · next hne => exact ⟨h, fun record hr => hne record hr⟩

lemma take_published {α : Type} {bus bus' : BusRun α} {i : Nat} {record : α}
    (h : bus.take i = some (record, bus')) : bus'.published = bus.published := by
  obtain ⟨⟨record, b⟩, -, h⟩ := Option.bind_eq_some_iff.1 h
  obtain ⟨reader, -, h⟩ := Option.bind_eq_some_iff.1 h
  cases h
  rfl

lemma subscribers_published {α : Type} {bus bus' : BusRun α} {a : BusRun.Act α}
    (h : subscribers bus a = some bus') : bus'.published = bus.published := by
  obtain ⟨hs, hne⟩ := subscribers_step h
  cases a with
  | publish record => exact absurd rfl (hne record)
  | subscribe =>
    cases hs
    rfl
  | unsubscribe i =>
    obtain ⟨b, -, hs⟩ := Option.bind_eq_some_iff.1 hs
    obtain ⟨reader, -, hs⟩ := Option.bind_eq_some_iff.1 hs
    cases hs
    rfl
  | get i =>
    obtain ⟨⟨record, b⟩, htake, rfl⟩ := Option.map_eq_some_iff.1 hs
    exact take_published htake
  | openStream =>
    cases hs
    rfl
  | resume j =>
    obtain ⟨stream, -, hs⟩ := Option.bind_eq_some_iff.1 hs
    split at hs
    · cases hs
      rfl
    · cases hs
      rfl
    · cases hs
      rfl
    · obtain ⟨⟨record, b⟩, htake, hs⟩ := Option.bind_eq_some_iff.1 hs
      cases hs
      show b.published = bus.published
      exact take_published htake
    · cases hs
    · cases hs
  | answer j disconnected =>
    obtain ⟨stream, -, hs⟩ := Option.bind_eq_some_iff.1 hs
    split at hs
    · split at hs
      · cases hs
        rfl
      · cases hs
        rfl
    · cases hs

/-- A record goes out. -/
lemma publish_some {α : Type} {bus : BusRun α} {c m : Nat} {got : Nat → List Nat}
    (h : BusRun.Inv c m got bus) (record : α) :
    ∃ bus', bus.step (.publish record) = some bus' ∧ BusRun.Inv c m got bus' ∧
      bus'.published = bus.published ++ [record] := by
  have hs : ∃ bus', bus.step (.publish record) = some bus' ∧
      bus'.published = bus.published ++ [record] := by
    rw [BusRun.step, publish_eq record h.bounded]
    exact ⟨_, rfl, rfl⟩
  obtain ⟨bus', hs, hp⟩ := hs
  exact ⟨bus', hs, h.publish hs, hp⟩

/-- What the end of a dispatch adds to the log and to the bus. -/
structure Settles (s : FanOut) (origin : Origin) (d : Dispatched)
    (events : Option (BusRun EventRecord)) (new : List (Origin × EventRecord)) : Prop where
  wired : events.isSome = s.events.isSome
  added : new = if s.events.isSome then [(origin, d.record)] else []
  inv : ∀ bus ∈ events, ∃ c m got, BusRun.Inv c m got bus
  published : ∀ bus ∈ events, ∃ old ∈ s.events,
    bus.published = old.published ++ new.map Prod.snd

/-- The end of a dispatch does not raise. -/
lemma Base.settle (h : Base s) (origin : Origin) (d : Dispatched) : ∃ events new,
    s.settle origin d = some { s with events := events, log := s.log ++ new } ∧
      Settles s origin d events new := by
  cases he : s.events with
  | none =>
    have hsame : ({ s with events := none, log := s.log ++ [] } : FanOut) = s := by
      rw [List.append_nil, ← he]
    refine ⟨none, [], ?_, ?_⟩
    · rw [hsame, FanOut.settle, he]
    · constructor
      · rw [he]
      · rw [he]
        rfl
      · nofun
      · nofun
  | some bus =>
    obtain ⟨c, m, got, hbus⟩ := h.events bus he
    obtain ⟨bus', hs, hinv, hp⟩ := publish_some hbus d.record
    refine ⟨some bus', [(origin, d.record)], ?_, ?_⟩
    · unfold FanOut.settle
      rw [he]
      show Option.map _ (bus.step (.publish d.record)) = _
      rw [hs]
      rfl
    · constructor
      · rw [he]
        rfl
      · rw [he]
        rfl
      · rintro _ ⟨⟩
        exact ⟨c, m, got, hinv⟩
      · rintro _ ⟨⟩
        exact ⟨bus, he, hp⟩

/-- What a step does when no bus raises. -/
inductive StepCase (lower : Str → Str) (s : FanOut) : Act → FanOut → Prop
  | receive (ts : Str) (event : FsEvent) (rawEvents : Option (BusRun RawEventRecord)) :
      s.handler = .idle → (∀ bus ∈ rawEvents, ∃ c m got, BusRun.Inv c m got bus) →
      StepCase lower s (.receive ts event)
        ({ s with rawEvents := rawEvents }.enter (route lower event s.config))
  | return_ (ts : Str) (behaviour : Except Exn TriggerResult) : s.handler = .submitting [] →
      StepCase lower s (.go ts behaviour) { s with handler := .idle }
  | wait (ts : Str) (behaviour : Except Exn TriggerResult) (req : ScanRequest)
      (rest : List ScanRequest) (d : Debouncer) : s.handler = .submitting (req :: rest) →
      s.config.Trails req → Debouncer.Takes s.debouncer d req →
      StepCase lower s (.go ts behaviour) { s with debouncer := d, handler := .submitting rest }
  | dispatch (ts : Str) (behaviour : Except Exn TriggerResult) (req : ScanRequest)
      (rest : List ScanRequest) : s.handler = .submitting (req :: rest) → ¬ s.config.Trails req →
      StepCase lower s (.go ts behaviour) { s with handler := .awaiting (s.flight req) rest }
  | answer (ts : Str) (behaviour : Except Exn TriggerResult) (flight : Flight)
      (rest : List ScanRequest) (events : Option (BusRun EventRecord))
      (new : List (Origin × EventRecord)) : s.handler = .awaiting flight rest →
      Settles s .handler ⟨ts, flight, behaviour⟩ events new →
      StepCase lower s (.go ts behaviour)
        { s with
          events := events
          log := s.log ++ new
          handler := .submitting rest
          done := s.done ++ [⟨ts, flight, behaviour⟩] }
  | fire (task : Nat) (d : Debouncer) (out : List ScanRequest) (flights : List (Nat × Flight)) :
      Debouncer.Ends s.debouncer d task out →
      StepCase lower s (.fire task)
        { s with
          debouncer := d
          flights := flights
          fired := s.fired ++ out.map fun req => (task, req) }
  | settle (i : Nat) (ts : Str) (behaviour : Except Exn TriggerResult) (task : Nat)
      (flight : Flight) (flights : List (Nat × Flight)) (events : Option (BusRun EventRecord))
      (new : List (Origin × EventRecord)) :
      Settles s (.timer task) ⟨ts, flight, behaviour⟩ events new →
      StepCase lower s (.settle i ts behaviour)
        { s with events := events, log := s.log ++ new, flights := flights }
  | close : StepCase lower s .close
      { s with
        debouncer := s.debouncer.close
        cut := s.cut ++ s.debouncer.timers.entries.map fun entry => entry.2 }
  | rebuild (config : RuntimeConfig) (adapters : List Nat) :
      StepCase lower s (.rebuild config adapters)
        { s with
          config := config
          adapters := adapters
          debouncer := s.debouncer.updateServers config.servers }
  | events (a : BusRun.Act EventRecord) (bus bus' : BusRun EventRecord) : s.events = some bus →
      subscribers bus a = some bus' → StepCase lower s (.events a) { s with events := some bus' }
  | rawEvents (a : BusRun.Act RawEventRecord) (bus bus' : BusRun RawEventRecord) :
      s.rawEvents = some bus → subscribers bus a = some bus' →
      StepCase lower s (.rawEvents a) { s with rawEvents := some bus' }

lemma Base.trailing (h : Base s) (req : ScanRequest) :
    s.debouncer.Trailing req ↔ s.config.Trails req := by
  unfold Debouncer.Trailing RuntimeConfig.Trails
  rw [h.servers]

lemma Base.receive_cases (h : Base s) (ts : Str) (event : FsEvent) (hidle : s.handler = .idle) :
    StepCase lower s (.receive ts event) (s.receive lower ts event) := by
  unfold receive
  cases hr : s.rawEvents with
  | none =>
    have hcase : StepCase lower s (.receive ts event) _ := .receive ts event none hidle nofun
    rw [← hr] at hcase
    exact hcase
  | some bus =>
    obtain ⟨c, m, got, hbus⟩ := h.rawEvents bus hr
    obtain ⟨bus', hs, hinv, -⟩ := publish_some hbus
      ⟨ts, event.eventType.value, event.path, event.isDir, route lower event s.config ≠ []⟩
    dsimp only
    rw [hs]
    refine .receive ts event (some bus') hidle ?_
    rintro _ ⟨⟩
    exact ⟨c, m, got, hinv⟩

lemma Base.go_cases (h : Base s) {ts : Str} {behaviour : Except Exn TriggerResult}
    (hs : s.go ts behaviour = some s') : StepCase lower s (.go ts behaviour) s' := by
  unfold go at hs
  split at hs
  · next hp =>
    cases hs
    exact .return_ ts behaviour hp
  · next req rest hp =>
    by_cases ht : s.config.Trails req
    · obtain ⟨hout, htakes⟩ := h.exact.submit ((h.trailing req).2 ht)
      rw [show s.debouncer.submit req = ((s.debouncer.submit req).1, []) from
        Prod.ext rfl hout] at hs
      cases hs
      exact .wait ts behaviour req rest _ hp ht htakes
    · rw [Debouncer.submit_of_not_trailing fun htr => ht ((h.trailing req).1 htr)] at hs
      cases hs
      exact .dispatch ts behaviour req rest hp ht
  · next flight rest hp =>
    obtain ⟨events, new, hsettle, hset⟩ := h.settle .handler ⟨ts, flight, behaviour⟩
    rw [hsettle] at hs
    cases hs
    exact .answer ts behaviour flight rest events new hp hset
  · cases hs

lemma Base.step_cases (h : Base s) (hs : step lower s a = some s') : StepCase lower s a s' := by
  cases a with
  | receive ts event =>
    simp only [step] at hs
    split at hs
    · next hidle =>
      cases hs
      exact h.receive_cases ts event hidle
    · cases hs
  | go ts behaviour => exact h.go_cases hs
  | fire task =>
    obtain ⟨⟨d, out⟩, hf, rfl⟩ := Option.map_eq_some_iff.1 hs
    exact .fire task d out _ (h.exact.fireAfter hf)
  | settle i ts behaviour =>
    obtain ⟨⟨task, flight⟩, -, rfl⟩ := Option.map_eq_some_iff.1 hs
    obtain ⟨events, new, hsettle, hset⟩ := h.settle (.timer task) ⟨ts, flight, behaviour⟩
    dsimp only
    rw [hsettle]
    exact .settle i ts behaviour task flight _ events new hset
  | close =>
    cases hs
    exact .close
  | rebuild config adapters =>
    cases hs
    exact .rebuild config adapters
  | events a =>
    obtain ⟨bus, hb, hs⟩ := Option.bind_eq_some_iff.1 hs
    obtain ⟨bus', hb', hs⟩ := Option.bind_eq_some_iff.1 hs
    cases hs
    exact .events a bus bus' hb hb'
  | rawEvents a =>
    obtain ⟨bus, hb, hs⟩ := Option.bind_eq_some_iff.1 hs
    obtain ⟨bus', hb', hs⟩ := Option.bind_eq_some_iff.1 hs
    cases hs
    exact .rawEvents a bus bus' hb hb'

lemma base_init (config : RuntimeConfig) (adapters : List Nat)
    (events rawEvents : Option (Nat × Nat)) :
    Base (init config adapters events rawEvents) := by
  refine ⟨Debouncer.exact_init _, rfl, ?_, ?_, nofun⟩
  · intro bus hb
    obtain ⟨size, -, rfl⟩ := Option.map_eq_some_iff.1 hb
    exact ⟨_, _, _, BusRun.inv_start _ _⟩
  · intro bus hb
    obtain ⟨size, -, rfl⟩ := Option.map_eq_some_iff.1 hb
    exact ⟨_, _, _, BusRun.inv_start _ _⟩

/-- Subscribers leave a bus in order. -/
lemma inv_subscribers {α : Type} {bus bus' : BusRun α} {a : BusRun.Act α}
    (h : ∃ c m got, BusRun.Inv c m got bus) (hs : subscribers bus a = some bus') :
    ∃ c m got, BusRun.Inv c m got bus' := by
  obtain ⟨c, m, got, hinv⟩ := h
  obtain ⟨got', hinv'⟩ := hinv.step (subscribers_step hs).1
  exact ⟨c, m, got', hinv'⟩

lemma Base.step (h : Base s) (hs : step lower s a = some s') : Base s' := by
  cases h.step_cases hs with
  | receive ts event rawEvents _ hraw => exact ⟨h.exact, h.servers, h.events, hraw, nofun⟩
  | return_ => exact ⟨h.exact, h.servers, h.events, h.rawEvents, nofun⟩
  | wait ts behaviour req rest d _ _ htakes =>
    exact ⟨htakes.exact, htakes.servers.trans h.servers, h.events, h.rawEvents, nofun⟩
  | dispatch => exact ⟨h.exact, h.servers, h.events, h.rawEvents, nofun⟩
  | answer ts behaviour flight rest events new _ hset =>
    exact ⟨h.exact, h.servers, hset.inv, h.rawEvents, nofun⟩
  | fire task d out flights hends =>
    exact ⟨hends.exact, hends.servers.trans h.servers, h.events, h.rawEvents, h.calm⟩
  | settle i ts behaviour task flight flights events new hset =>
    exact ⟨h.exact, h.servers, hset.inv, h.rawEvents, h.calm⟩
  | close =>
    obtain ⟨hservers, hkeeps⟩ := h.exact.close
    exact ⟨hkeeps.exact, hservers.trans h.servers, h.events, h.rawEvents, h.calm⟩
  | rebuild config adapters =>
    exact ⟨(h.exact.updateServers config.servers).exact,
      Debouncer.updateServers_servers config.servers, h.events, h.rawEvents, h.calm⟩
  | events a bus bus' hb hb' =>
    refine ⟨h.exact, h.servers, ?_, h.rawEvents, h.calm⟩
    rintro _ ⟨⟩
    exact inv_subscribers (h.events bus hb) hb'
  | rawEvents a bus bus' hb hb' =>
    refine ⟨h.exact, h.servers, h.events, ?_, h.calm⟩
    rintro _ ⟨⟩
    exact inv_subscribers (h.rawEvents bus hb) hb'

end FanOut
end MediaScanMonitor
