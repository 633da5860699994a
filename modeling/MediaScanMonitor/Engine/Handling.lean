import MediaScanMonitor.Engine.FanOut

/-!
# What the handling of an event leads to

A request that need not wait is dispatched in its round of the loop, whatever the adapters do. The
last of the requests that wait under a key has its timer, unless this has elapsed or was cancelled by
`aclose` while a later request was being dispatched.
-/

namespace MediaScanMonitor
open Text Transition

/-- The last of the requests that wait under a key. -/
def RuntimeConfig.lastFor (config : RuntimeConfig) (reqs : List ScanRequest) (key : Nat × Str) :
    Option ScanRequest :=
  (reqs.filter fun req => config.Trails req ∧ req.key = key).getLast?

namespace FanOut

/-- The timer of the last request for a key, which is one of this event's: it is armed with it, has
dispatched it, or was cancelled by `aclose`, and no other task sleeps for the key that is not
cancelled. -/
def Timed (u s : FanOut) (key : Nat × Str) (req : ScanRequest) : Prop :=
  ∃ task, u.debouncer.nextTask ≤ task ∧
    (s.debouncer.timers.lookup key = some task ∧
        s.debouncer.tasks.lookup task = some ⟨key, req, false⟩ ∨
      (task, req) ∈ s.fired ∨ task ∈ s.cut) ∧
    ∀ x timer, s.debouncer.tasks.lookup x = some timer → timer.key = key →
      timer.cancelled = false → x = task

/-- What the handling of an event that was received in the state `u` has led to. -/
structure Handled (lower : Str → Str) (event : FsEvent) (u s : FanOut) : Prop where
  /-- One dispatch for each request that need not wait, in route order. -/
  dispatched : s.done.map (fun d => d.flight.req) =
    (route lower event u.config).filter fun req => ¬ u.config.Trails req
  found : ∀ d ∈ s.done, d.flight = u.flight d.flight.req
  /-- One record of the handler for each of them, if there is a bus. -/
  records : (s.log.filter fun entry => entry.1 = .handler).map Prod.snd =
    if u.events.isSome then s.done.map Dispatched.record else []
  /-- The bus has published what is in the log. -/
  published : ∀ bus ∈ s.events, ∃ old ∈ u.events,
    bus.published = old.published ++ s.log.map Prod.snd
  timers : ∀ key req, u.config.lastFor (route lower event u.config) key = some req →
    Timed u s key req

/-- The handling of an event goes on without an exception, and ends as it should. -/
structure FansOut (lower : Str → Str) (event : FsEvent) (u s : FanOut) : Prop where
  calm : s.handler ≠ .raised
  /-- Until it returns the handler can go on, however the trigger that it awaits has ended. -/
  goes : s.handler = .idle ∨ ∀ ts behaviour, ∃ s', s.go ts behaviour = some s'
  /-- Its steps count down, and nothing else counts up. -/
  ends : ∀ a s', Alone s a → step lower s a = some s' →
    s'.handler.left ≤ s.handler.left ∧
      ∀ ts behaviour, a = .go ts behaviour → s'.handler.left < s.handler.left
  returned : s.handler = .idle → Handled lower event u s

/-! ## The timers of an event -/

variable {lower : Str → Str} {s s' u v : FanOut} {a : Act}

/-- `Timed`, by the pending tasks. -/
def Fate (u s : FanOut) (req : ScanRequest) : Prop :=
  ∃ task, u.debouncer.nextTask ≤ task ∧
    (s.debouncer.Pending task req ∨ (task, req) ∈ s.fired ∨ task ∈ s.cut) ∧
    ∀ x r, s.debouncer.Pending x r → r.key = req.key → x = task

variable {req : ScanRequest}

lemma Fate.timed (h : Fate u s req) (hs : s.debouncer.Exact) : Timed u s req.key req := by
  obtain ⟨task, hnew, hfate, honly⟩ := h
  refine ⟨task, hnew, hfate.imp_left fun hp => ⟨hs.lookup hp, hp⟩, fun x timer hl hk hc => ?_⟩
  apply honly x timer.req (hs.pending hl hc)
  rw [← hk]
  exact (hs.keyed hl).symm

/-- Nothing changes for the timers. -/
lemma Fate.same (h : Fate u s req) (hd : s'.debouncer = s.debouncer) (hf : s'.fired = s.fired)
    (hc : s'.cut = s.cut) : Fate u s' req := by
  unfold Fate
  rw [hd, hf, hc]
  exact h

/-- A request for another key takes a timer. -/
lemma Fate.takes (h : Fate u s req) {d : Debouncer} {other : ScanRequest}
    (ht : Debouncer.Takes s.debouncer d other) (hk : req.key ≠ other.key) (hd : s'.debouncer = d)
    (hf : s'.fired = s.fired) (hc : s'.cut = s.cut) : Fate u s' req := by
  obtain ⟨task, hnew, hfate, honly⟩ := h
  unfold Fate
  rw [hd, hf, hc]
  refine ⟨task, hnew, hfate.imp_left fun hp => (ht.pending task req).2 (.inr ⟨hk, hp⟩), ?_⟩
  intro x r hp hkr
  rcases (ht.pending x r).1 hp with ⟨-, rfl⟩ | ⟨-, hp⟩
  · exact absurd hkr.symm hk
  · exact honly x r hp hkr

/-- The request takes a timer itself. -/
lemma fate_takes {d : Debouncer} (ht : Debouncer.Takes s.debouncer d req)
    (hlater : u.debouncer.nextTask ≤ s.debouncer.nextTask) (hd : s'.debouncer = d) :
    Fate u s' req := by
  refine ⟨s.debouncer.nextTask, hlater, .inl ?_, fun x r hp hkr => ?_⟩
  · rw [hd]
    exact (ht.pending _ _).2 (.inl ⟨rfl, rfl⟩)
  · rw [hd] at hp
    rcases (ht.pending x r).1 hp with ⟨hx, -⟩ | ⟨hne, -⟩
    · exact hx
    · exact absurd hkr hne

/-- A timer elapses, this one or another. -/
lemma Fate.ends (h : Fate u s req) {d : Debouncer} {out : List ScanRequest} {fired : Nat}
    (he : Debouncer.Ends s.debouncer d fired out) (hd : s'.debouncer = d)
    (hf : s'.fired = s.fired ++ out.map fun r => (fired, r)) (hc : s'.cut = s.cut) :
    Fate u s' req := by
  obtain ⟨task, hnew, hfate, honly⟩ := h
  unfold Fate
  rw [hd, hf, hc]
  refine ⟨task, hnew, ?_, fun x r hp hkr => honly x r ((he.pending x r).1 hp).2 hkr⟩
  rcases hfate with hp | hfired | hcut
  · by_cases htask : task = fired
    · subst htask
      rcases he.out with ⟨r, rfl, hr⟩ | ⟨-, hnone⟩
      · obtain rfl := hp.unique hr
        exact .inr (.inl (List.mem_append_right _ (List.mem_singleton_self _)))
      · exact absurd hp (hnone req)
    · exact .inl ((he.pending task req).2 ⟨htask, hp⟩)
  · exact .inr (.inl (List.mem_append_left _ hfired))
  · exact .inr (.inr hcut)

/-- All timers are cancelled. -/
lemma Fate.close (h : Fate u s req) (hs : s.debouncer.Exact) (hd : s'.debouncer = s.debouncer.close)
    (hf : s'.fired = s.fired)
    (hc : s'.cut = s.cut ++ s.debouncer.timers.entries.map fun entry => entry.2) :
    Fate u s' req := by
  obtain ⟨task, hnew, hfate, -⟩ := h
  obtain ⟨-, hkeeps⟩ := hs.close
  unfold Fate
  rw [hd, hf, hc]
  refine ⟨task, hnew, ?_, fun x r hp _ => ((hkeeps.pending x r).1 hp).1.elim⟩
  rcases hfate with hp | hfired | hcut
  · refine .inr (.inr (List.mem_append_right _ ?_))
    exact List.mem_map_of_mem (AList.mem_lookup_iff.1 (hs.lookup hp))
  · exact .inr (.inl hfired)
  · exact .inr (.inr (List.mem_append_left _ hcut))

end FanOut

/-- The requests of one key, with one more. -/
lemma RuntimeConfig.lastFor_snoc (config : RuntimeConfig) (reqs : List ScanRequest)
    (req : ScanRequest) (key : Nat × Str) : config.lastFor (reqs ++ [req]) key =
      if config.Trails req ∧ req.key = key then some req else config.lastFor reqs key := by
  unfold lastFor
  rw [List.filter_append, List.filter_singleton]
  by_cases h : config.Trails req ∧ req.key = key
  · rw [if_pos h, decide_eq_true h]
    exact List.getLast?_concat
  · rw [if_neg h, decide_eq_false h]
    exact congrArg List.getLast? (List.append_nil _)

lemma RuntimeConfig.lastFor_key {config : RuntimeConfig} {reqs : List ScanRequest}
    {req : ScanRequest} {key : Nat × Str} (h : config.lastFor reqs key = some req) :
    req.key = key := by
  have hmem := List.mem_of_getLast? h
  have hd := (List.mem_filter.1 hmem).2
  exact (of_decide_eq_true hd).2

namespace FanOut
variable {lower : Str → Str} {event : FsEvent} {s s' u v : FanOut} {a : Act}

/-- The rounds that are over, of an event that was received in the state `u`. -/
structure Rounds (lower : Str → Str) (event : FsEvent) (u s : FanOut) (past : List ScanRequest) :
    Prop where
  split : route lower event u.config = past ++ s.handler.pending
  dispatched : s.done.map (fun d => d.flight.req) = past.filter fun req => ¬ u.config.Trails req
  fates : ∀ key req, u.config.lastFor past key = some req → Fate u s req

/-- What holds while the event is handled. -/
structure Running (lower : Str → Str) (event : FsEvent) (u s : FanOut) : Prop where
  config : s.config = u.config
  adapters : s.adapters = u.adapters
  wired : s.events.isSome = u.events.isSome
  later : u.debouncer.nextTask ≤ s.debouncer.nextTask
  awaited : ∀ flight rest, s.handler = .awaiting flight rest →
    flight = u.flight flight.req ∧ ¬ u.config.Trails flight.req
  found : ∀ d ∈ s.done, d.flight = u.flight d.flight.req
  records : (s.log.filter fun entry => entry.1 = .handler).map Prod.snd =
    if u.events.isSome then s.done.map Dispatched.record else []
  published : ∀ bus ∈ s.events, ∃ old ∈ u.events,
    bus.published = old.published ++ s.log.map Prod.snd
  rounds : ∃ past, Rounds lower event u s past

/-- The state in which the loop begins. -/
lemma running_receive (rawEvents : Option (BusRun RawEventRecord)) :
    Running lower event u
      ({ u with rawEvents := rawEvents }.enter (route lower event u.config)) := by
  refine ⟨rfl, rfl, rfl, le_refl _, nofun, fun _ hd => absurd hd List.not_mem_nil, ?_,
    fun bus hb => ⟨bus, hb, ?_⟩, [], ?_⟩
  · show [] = if u.events.isSome then [] else []
    split <;> rfl
  · exact (List.append_nil _).symm
  · exact ⟨rfl, rfl, nofun⟩

/-- The rounds are those of before, and so are the fates. -/
lemma Rounds.same {past : List ScanRequest} (h : Rounds lower event u s past)
    (hp : s'.handler.pending = s.handler.pending) (hdone : s'.done = s.done)
    (hfates : ∀ req, Fate u s req → Fate u s' req) : Rounds lower event u s' past := by
  refine ⟨?_, ?_, fun key req hl => hfates req (h.fates key req hl)⟩
  · rw [hp]
    exact h.split
  · rw [hdone]
    exact h.dispatched

/-- What is published later goes to the end. -/
lemma Running.extend (h : Running lower event u s) {origin : Origin} {d : Dispatched}
    {events : Option (BusRun EventRecord)} {new : List (Origin × EventRecord)}
    (hset : Settles s origin d events new) :
    ∀ bus ∈ events, ∃ old ∈ u.events, bus.published = old.published ++
      (s.log ++ new).map Prod.snd := by
  intro bus hb
  obtain ⟨mid, hmid, hp⟩ := hset.published bus hb
  obtain ⟨old, hold, hp'⟩ := h.published mid hmid
  refine ⟨old, hold, ?_⟩
  rw [hp, hp', List.map_append, List.append_assoc]

/-- A request that waits is submitted. -/
lemma Running.wait (h : Running lower event u s) {req : ScanRequest} {rest : List ScanRequest}
    {d : Debouncer} (hp : s.handler = .submitting (req :: rest)) (ht : s.config.Trails req)
    (htakes : Debouncer.Takes s.debouncer d req) :
    Running lower event u { s with debouncer := d, handler := .submitting rest } := by
  obtain ⟨past, hsplit, hdone, hfates⟩ := h.rounds
  rw [hp] at hsplit
  rw [h.config] at ht
  refine ⟨h.config, h.adapters, h.wired, ?_, nofun, h.found, h.records, h.published, past ++ [req],
    ?_, ?_, fun key r hl => ?_⟩
  · show u.debouncer.nextTask ≤ d.nextTask
    rw [htakes.nextTask]
    exact Nat.le_succ_of_le h.later
  · rw [List.append_assoc]
    exact hsplit
  · rw [List.filter_append, List.filter_singleton, decide_eq_false (not_not.2 ht)]
    exact hdone.trans (List.append_nil _).symm
  · rw [RuntimeConfig.lastFor_snoc] at hl
    split at hl
    · cases hl
      exact fate_takes htakes h.later rfl
    · next hne =>
      refine (hfates key r hl).takes htakes (fun hk => hne ⟨ht, ?_⟩) rfl rfl rfl
      rw [← hk]
      exact RuntimeConfig.lastFor_key hl

/-- A dispatch of the handler has ended. -/
lemma Running.answer (h : Running lower event u s) {flight : Flight} {rest : List ScanRequest}
    {ts : Str} {behaviour : Except Exn TriggerResult} {events : Option (BusRun EventRecord)}
    {new : List (Origin × EventRecord)} (hp : s.handler = .awaiting flight rest)
    (hset : Settles s .handler ⟨ts, flight, behaviour⟩ events new) :
    Running lower event u
      { s with
        events := events
        log := s.log ++ new
        handler := .submitting rest
        done := s.done ++ [⟨ts, flight, behaviour⟩] } := by
  obtain ⟨past, hsplit, hdone, hfates⟩ := h.rounds
  obtain ⟨hflight, hoff⟩ := h.awaited flight rest hp
  rw [hp] at hsplit
  refine ⟨h.config, h.adapters, hset.wired.trans h.wired, h.later, nofun, fun d hd => ?_, ?_,
    h.extend hset, past ++ [flight.req], ?_, ?_, fun key r hl => ?_⟩
  · rcases List.mem_append.1 hd with hd | hd
    · exact h.found d hd
    · cases List.mem_singleton.1 hd
      exact hflight
  · have hrecords := h.records
    show ((s.log ++ new).filter _).map Prod.snd = _
    rw [List.filter_append, List.map_append, hrecords, hset.added, h.wired]
    split
    · rw [List.map_append]
      rfl
    · rfl
  · rw [List.append_assoc]
    exact hsplit
  · rw [List.map_append, hdone, List.filter_append, List.filter_singleton, decide_eq_true hoff]
    rfl
  · rw [RuntimeConfig.lastFor_snoc, if_neg fun hk => hoff hk.1] at hl
    exact (hfates key r hl).same rfl rfl rfl

lemma Running.step (hb : Base s) (h : Running lower event u s) (hg : Alone s a)
    (hs : step lower s a = some s') : Running lower event u s' := by
  obtain ⟨past, hrounds⟩ := h.rounds
  cases hb.step_cases hs with
  | receive => exact hg.elim
  | rebuild => exact hg.elim
  | return_ ts behaviour hp =>
    refine ⟨h.config, h.adapters, h.wired, h.later, nofun, h.found, h.records, h.published, past, ?_⟩
    exact hrounds.same (by rw [hp]; rfl) rfl fun req hf => hf.same rfl rfl rfl
  | wait ts behaviour req rest d hp ht htakes => exact h.wait hp ht htakes
  | dispatch ts behaviour req rest hp ht =>
    rw [h.config] at ht
    refine ⟨h.config, h.adapters, h.wired, h.later, fun flight rest' hp' => ?_, h.found, h.records,
      h.published, past, ?_⟩
    · cases hp'
      refine ⟨?_, ht⟩
      unfold flight
      rw [h.adapters]
    · exact hrounds.same (by rw [hp]; rfl) rfl fun req hf => hf.same rfl rfl rfl
  | answer ts behaviour flight rest events new hp hset => exact h.answer hp hset
  | fire task d out flights hends =>
    refine ⟨h.config, h.adapters, h.wired, ?_, h.awaited, h.found, h.records, h.published, past, ?_⟩
    · show u.debouncer.nextTask ≤ d.nextTask
      rw [hends.nextTask]
      exact h.later
    · exact hrounds.same rfl rfl fun req hf => hf.ends hends rfl rfl rfl
  | settle i ts behaviour task flight flights events new hset =>
    refine ⟨h.config, h.adapters, hset.wired.trans h.wired, h.later, h.awaited, h.found, ?_,
      h.extend hset, past, ?_⟩
    · have hnone : new.filter (fun entry => entry.1 = .handler) = [] := by
        rw [hset.added]
        split <;> rfl
      show ((s.log ++ new).filter _).map Prod.snd = _
      rw [List.filter_append, hnone, List.append_nil]
      exact h.records
    · exact hrounds.same rfl rfl fun req hf => hf.same rfl rfl rfl
  | close =>
    obtain ⟨-, hkeeps⟩ := hb.exact.close
    refine ⟨h.config, h.adapters, h.wired, ?_, h.awaited, h.found, h.records, h.published, past, ?_⟩
    · show u.debouncer.nextTask ≤ s.debouncer.close.nextTask
      rw [hkeeps.nextTask]
      exact h.later
    · exact hrounds.same rfl rfl fun req hf => hf.close hb.exact rfl rfl rfl
  | events a bus bus' hbus hstep =>
    refine ⟨h.config, h.adapters, ?_, h.later, h.awaited, h.found, h.records, ?_, past, ?_⟩
    · rw [← h.wired, hbus]
      rfl
    · rintro _ ⟨⟩
      obtain ⟨old, hold, hp⟩ := h.published bus hbus
      refine ⟨old, hold, ?_⟩
      rw [← hp]
      exact subscribers_published hstep
    · exact hrounds.same rfl rfl fun req hf => hf.same rfl rfl rfl
  | rawEvents a bus bus' hbus hstep =>
    refine ⟨h.config, h.adapters, h.wired, h.later, h.awaited, h.found, h.records, h.published, past,
      ?_⟩
    exact hrounds.same rfl rfl fun req hf => hf.same rfl rfl rfl

/-- The handler's steps count down. -/
lemma Base.ends (h : Base s) (hg : Alone s a) (hs : FanOut.step lower s a = some s') :
    s'.handler.left ≤ s.handler.left ∧
      ∀ ts behaviour, a = .go ts behaviour → s'.handler.left < s.handler.left := by
  have hless : ∀ {x : FanOut}, x.handler.left < s.handler.left →
      x.handler.left ≤ s.handler.left ∧
        ∀ ts behaviour, a = .go ts behaviour → x.handler.left < s.handler.left :=
    fun hl => ⟨hl.le, fun _ _ _ => hl⟩
  cases h.step_cases hs with
  | receive => exact hg.elim
  | rebuild => exact hg.elim
  | return_ ts behaviour hp =>
    apply hless
    rw [hp]
    exact Nat.zero_lt_succ _
  | wait ts behaviour req rest d hp =>
    apply hless
    rw [hp]
    show 2 * rest.length + 1 < 2 * (rest.length + 1) + 1
    omega
  | dispatch ts behaviour req rest hp =>
    apply hless
    rw [hp]
    show 2 * rest.length + 2 < 2 * (rest.length + 1) + 1
    omega
  | answer ts behaviour flight rest events new hp =>
    apply hless
    rw [hp]
    exact Nat.lt_succ_self _
  | fire => exact ⟨le_refl _, nofun⟩
  | settle => exact ⟨le_refl _, nofun⟩
  | close => exact ⟨le_refl _, nofun⟩
  | events => exact ⟨le_refl _, nofun⟩
  | rawEvents => exact ⟨le_refl _, nofun⟩

/-- It can go on until it returns. -/
lemma Base.goes (h : Base s) :
    s.handler = .idle ∨ ∀ ts behaviour, ∃ s', s.go ts behaviour = some s' := by
  cases hp : s.handler with
  | idle => exact .inl rfl
  | raised => exact absurd hp h.calm
  | submitting rest =>
    refine .inr fun ts behaviour => ?_
    unfold go
    rw [hp]
    cases rest with
    | nil => exact ⟨_, rfl⟩
    | cons req rest =>
      dsimp only
      split <;> exact ⟨_, rfl⟩
  | awaiting flight rest =>
    refine .inr fun ts behaviour => ?_
    unfold go
    rw [hp]
    dsimp only
    split <;> exact ⟨_, rfl⟩

/-- When it has returned all rounds are over. -/
lemma Running.handled (h : Running lower event u s) (hb : Base s) (hidle : s.handler = .idle) :
    Handled lower event u s := by
  obtain ⟨past, hsplit, hdone, hfates⟩ := h.rounds
  rw [hidle] at hsplit
  have hpast : route lower event u.config = past := hsplit.trans (List.append_nil past)
  refine ⟨?_, h.found, h.records, h.published, fun key req hl => ?_⟩
  · rw [hpast]
    exact hdone
  · rw [hpast] at hl
    obtain rfl := RuntimeConfig.lastFor_key hl
    exact (hfates _ req hl).timed hb.exact

/-- From when an event is received until the next rebuild or event: whatever the adapters do and
whatever goes on beside it, its handling goes on without an exception until it returns, with a
dispatch and a record for each request that need not wait, and a timer for the last of those that do
wait under a key, which may have elapsed or have been cancelled by `aclose`. -/
theorem event_fans_out {config : RuntimeConfig} {adapters : List Nat}
    {events rawEvents : Option (Nat × Nat)} {ts : Str}
    (hu : Reach (FanOut.step lower) Free (init config adapters events rawEvents) u)
    (hv : FanOut.step lower u (.receive ts event) = some v)
    (hs : Reach (FanOut.step lower) Alone v s) : FansOut lower event u s := by
  have hbu : Base u := hu.invariant (base_init config adapters events rawEvents)
    fun h _ hstep => h.step hstep
  have hrv : Running lower event u v := by
    cases hbu.step_cases hv with
    | receive ts event rawEvents => exact running_receive rawEvents
  have hrun : Base s ∧ Running lower event u s := by
    apply hs.invariant ⟨hbu.step hv, hrv⟩
    intro x a y hx hg hstep
    exact ⟨hx.1.step hstep, hx.2.step hx.1 hg hstep⟩
  obtain ⟨hb, hr⟩ := hrun
  exact ⟨hb.calm, hb.goes, fun a s' hg hstep => hb.ends hg hstep, hr.handled hb⟩

/-- A Plex server that lets requests wait, and a webhook that does not. -/
def plexAndHook : RuntimeConfig where
  watchPaths := ["/m".toList]
  routes := [⟨1, "plex".toList, "/m".toList, [], none, .targeted, [.created]⟩,
    ⟨2, "hook".toList, "/m".toList, [], none, .targeted, [.created]⟩]
  servers := (AList.insert 1 ⟨1, "plex".toList, .plex, "http://plex".toList, none, .targeted,
    .trailing, 5, 3, none, none, none, .custom⟩ ∅).insert 2 ⟨2, "hook".toList, .webhook,
    "http://hook".toList, none, .targeted, .off, 5, 3, none, none, none, .custom⟩
  ignoreDirs := []

/-- A file appears that both are told about. -/
def filmCreated : FsEvent := ⟨"/m/Film/film.mkv".toList, .created, false⟩

/-- The webhook does not answer. -/
def noAnswer : Except Exn TriggerResult :=
  .error ⟨⟨"ReadTimeout".toList, .transport⟩, [], "ReadTimeout()".toList⟩

/-- What a server is to scan then. -/
def filmScan (serverId : Nat) (serverName : Str) : ScanRequest :=
  ⟨serverId, serverName, .targeted, some "/m/Film".toList, none, "/m/Film".toList, .created,
    "/m/Film/film.mkv".toList, some "Film".toList⟩

/-- The engine when it has received the event. -/
def filmReceived : FanOut :=
  (init plexAndHook [1, 2] (some (10, 10)) none).enter
    [filmScan 1 "plex".toList, filmScan 2 "hook".toList]

lemma route_film : route lowerAscii filmCreated plexAndHook =
    [filmScan 1 "plex".toList, filmScan 2 "hook".toList] := by
  decide

lemma receive_film : FanOut.step lowerAscii (init plexAndHook [1, 2] (some (10, 10)) none)
    (.receive [] filmCreated) = some filmReceived := by
  rw [filmReceived, ← route_film]
  rfl

/-- The trigger raises, and its record says so. -/
theorem event_fans_out_raises : ∃ s,
    run (guarded (FanOut.step lowerAscii) Alone) filmReceived
        [.go [] noAnswer, .go [] noAnswer, .go [] noAnswer, .go [] noAnswer] = some s ∧
      FansOut lowerAscii filmCreated (init plexAndHook [1, 2] (some (10, 10)) none) s ∧
      s.handler = .idle ∧
      s.log.map (fun entry => entry.2.detail) = ["adapter raised: ReadTimeout()".toList] := by
  have hs : run (guarded (FanOut.step lowerAscii) Alone) filmReceived
      [.go [] noAnswer, .go [] noAnswer, .go [] noAnswer, .go [] noAnswer] = some _ := rfl
  exact ⟨_, hs, event_fans_out .refl receive_film (Reach.of_run hs), rfl, by decide⟩

/-- While the webhook is awaited the timer of the Plex server elapses: when the handler returns, no
timer is armed for its request. -/
theorem timer_elapses_meanwhile : ¬ ∀ (lower : Str → Str) (config : RuntimeConfig)
    (adapters : List Nat) (events rawEvents : Option (Nat × Nat)) (ts : Str) (event : FsEvent)
    (v s : FanOut) (acts : List Act),
    FanOut.step lower (init config adapters events rawEvents) (.receive ts event) = some v →
      run (guarded (FanOut.step lower) Alone) v acts = some s → s.handler = .idle →
      ∀ key req, config.lastFor (route lower event config) key = some req →
        ∃ task, s.debouncer.timers.lookup key = some task := by
  intro h
  have hs : run (guarded (FanOut.step lowerAscii) Alone) filmReceived
      [.go [] noAnswer, .go [] noAnswer, .fire 0, .go [] noAnswer, .go [] noAnswer] = some _ := rfl
  have hlast : plexAndHook.lastFor (route lowerAscii filmCreated plexAndHook)
      (1, "/m/Film".toList) = some (filmScan 1 "plex".toList) := by
    rw [route_film]
    decide
  obtain ⟨task, htask⟩ := h lowerAscii plexAndHook [1, 2] (some (10, 10)) none [] filmCreated _ _ _
    receive_film hs rfl _ _ hlast
  cases htask

end FanOut
end MediaScanMonitor
