import MediaScanMonitor.Engine.Sights

/-!
# No request reaches another server

Everything that waits carries an id, and what it meets is looked up by that id. The row behind both
is the same one as long as no configuration pairs a row with the folders of its successor, and none
is swapped in whose row for an id is another than that of a request that waits.
-/

namespace MediaScanMonitor
open Text Transition
open Engine (readStep enterGate gateStep gateRoots gateState)
open Lifecycle (Act Booted StartCase RebuildCase StepCase CloseCase healthy roomy)

namespace Tracked
variable {host : Host} {box : SecretBox} {s s' : Tracked} {sight : Sight}

/-! ## The steps of a rebuild -/

variable {i : Nat}

/-- A rebuild moves, and what it has seen is its own. -/
lemma Inv.moveRebuild (h : Inv host s) {c c' : Rebuild} (hf : Same s s')
    (hsight : s'.start = s.start) (hinbox : s'.inbox = s.inbox) (hb : Booted s'.engine)
    (hi : s.engine.rebuilds[i]? = some c) (hr : s'.engine.rebuilds = s.engine.rebuilds.set i c')
    (hlock : c'.locked = true → c.locked = true ∨ ∀ x ∈ s.engine.rebuilds, x.locked = false)
    (hstart : s'.engine.start = s.engine.start) (hother : ∀ j, j ≠ i → s'.rebuilds j = s.rebuilds j)
    (hown : ∀ a, c' = .assembling a → Going host s.written s.view (s'.rebuilds i) a ∧
      ∀ config ∈ a.config, ∀ sight, .swap sight ∈ s.log → sight.Precedes (s'.rebuilds i).listed) :
    Inv host s' := by
  have ht := h.threads
  refine ⟨h.core.same hf, hb, ?_, ?_, ?_, ?_, ?_, ?_, ?_, ?_⟩
  · rw [hr]
    exact AtMostOne.set ht.lock hi hlock
  · rw [hf.wired, hf.debouncer, hf.log]
    exact ht.unwired
  · rw [hf.wired, hf.adapters, hf.config]
    exact ht.linked
  · rw [hf.wired, hstart]
    exact ht.late
  · rw [hstart, hf.config, hsight]
    exact ht.stored
  · rw [hstart, hf.written, hf.view_eq, hsight]
    exact ht.start
  · rw [hf.written, hf.view_eq, hf.log, hr]
    intro j a hj
    rcases getElem?_set_cases hj with ⟨rfl, ha⟩ | ⟨hij, hj⟩
    · exact hown a ha.symm
    · rw [hother j (Ne.symm hij)]
      exact ht.rebuilds j a hj
  · rw [hstart, hf.debouncer, hinbox, hf.adapters]
    exact ht.inbox

/-- The account does not change. -/
lemma note_rebuild_idle {c : Rebuild} (hi : s.engine.rebuilds[i]? = some c)
    (hc : ∀ a, c ≠ .assembling a) : s.note (.rebuild i) = s := by
  unfold note
  dsimp only
  rw [hi]
  cases c with
  | assembling a => exact absurd rfl (hc a)
  | _ => rfl

lemma note_rebuild {a : Assembly} (hi : s.engine.rebuilds[i]? = some (.assembling a))
    (ha : ∀ config built ok, a ≠ .gating config built (.verdict ok)) :
    s.note (.rebuild i) =
      { s with rebuilds := Function.update s.rebuilds i (s.observe (s.rebuilds i) a) } := by
  unfold note
  dsimp only
  rw [hi]
  cases a with
  | reading r => rfl
  | building config rest built => rfl
  | gating config built g =>
    cases g with
    | policy => rfl
    | limit policy => rfl
    | verdict ok => exact absurd rfl (ha config built ok)

/-- A rebuild goes on from what it has seen. -/
lemma Threads.precedes (h : Threads host s) (hc : Core s) {r r' : Reading}
    (hi : s.engine.rebuilds[i]? = some (.assembling (.reading r)))
    (hread : readStep (s.engine.platform host) s.engine.db r = some (.inl r')) :
    ∀ sight, .swap sight ∈ s.log →
      sight.Precedes (s.observe (s.rebuilds i) (.reading r)).listed := by
  intro sight hswap
  cases r with
  | servers => exact (hc.swaps sight hswap).precedes
  | folders rest config =>
    cases rest with
    | nil => cases hread
    | cons server rest =>
      show sight.Precedes (s.readFolders (s.rebuilds i) server.id).listed
      rw [readFolders_listed]
      exact (h.rebuilds i _ hi).2 config rfl sight hswap

/-- What is said about the place of a rebuild when its sight stays. -/
lemma Threads.stay (h : Threads host s) {a a' : Assembly} {rebuilds : Nat → Sight}
    (hi : s.engine.rebuilds[i]? = some (.assembling a)) (hsights : rebuilds i = s.rebuilds i)
    (hconfig : a'.config = a.config)
    (hgoing : Going host s.written s.view (s.rebuilds i) a →
      Going host s.written s.view (s.rebuilds i) a') :
    ∀ x, Rebuild.assembling a' = .assembling x → Going host s.written s.view (rebuilds i) x ∧
      ∀ config ∈ x.config, ∀ sight, .swap sight ∈ s.log → sight.Precedes (rebuilds i).listed := by
  rintro x ⟨⟩
  obtain ⟨hg, hp⟩ := h.rebuilds i a hi
  rw [hsights, hconfig]
  exact ⟨hgoing hg, hp⟩

/-- A rebuild has swapped its configuration in; everything else stays. -/
structure Swapped (s s' : Tracked) (i : Nat) (config : RuntimeConfig) (built : Built) : Prop where
  tables : s'.tables = s.tables := by rfl
  written : s'.written = s.written := by rfl
  creation : s'.creation = s.creation := by rfl
  start : s'.start = s.start := by rfl
  sight : s'.config = s.rebuilds i := by rfl
  adapters : s'.adapters = (s.rebuilds i).listed := by rfl
  inbox : s'.inbox = s.inbox := by rfl
  tasks : s'.tasks = s.tasks := by rfl
  log : s'.log = s.log ++ [.swap (s.rebuilds i)] := by rfl
  db : s'.engine.db = s.engine.db := by rfl
  wired : s'.engine.wired = s.engine.wired := by rfl
  place : s'.engine.start = s.engine.start := by rfl
  debouncer : s'.engine.debouncer = s.engine.debouncer.updateServers config.servers := by rfl
  stored : s'.engine.config = some config := by rfl
  used : s'.engine.adapters = built.adapters := by rfl
  calls : ∃ clients, s'.engine.rebuilds = s.engine.rebuilds.set i (.closing clients) :=
    by exact ⟨_, rfl⟩

variable {config : RuntimeConfig} {built : Built} {ok : Bool}

lemma Swapped.view_eq (h : Swapped s s' i config built) : s'.view = s.view := by
  unfold Tracked.view
  rw [h.tables, h.creation]

/-- The configuration comes into force; what waits for one of its servers was routed for the row
that it lists. -/
lemma Core.swap (h : Core s) (ht : Threads host s)
    (hi : s.engine.rebuilds[i]? = some (.assembling (.gating config built (.verdict ok))))
    (hg : s.Unmixed (s.rebuilds i) config) (hf : Swapped s s' i config built) : Core s' := by
  obtain ⟨hgoing, hprecedes⟩ := ht.rebuilds i _ hi
  have hkeeps := h.exact.updateServers config.servers
  have hswap : ∀ {sight}, .swap sight ∈ s'.log → sight = s.rebuilds i ∨ .swap sight ∈ s.log := by
    intro sight hs
    rw [hf.log] at hs
    rcases List.mem_append.1 hs with hs | hs
    · exact .inr hs
    · cases List.mem_singleton.1 hs
      exact .inl rfl
  constructor
  · rw [hf.db, hf.tables]
    exact h.db
  · rw [hf.debouncer]
    exact hkeeps.exact
  · rw [hf.written, hf.view_eq]
    intro sight hs
    rcases hswap hs with rfl | hs
    · exact hgoing.covers config rfl
    · exact h.swaps sight hs
  · rw [hf.adapters]
    intro sight hs
    rcases hswap hs with rfl | hs
    · exact fun id row hl _ => hl
    · exact hprecedes config rfl sight hs
  · rw [hf.stored, hf.sight]
    rintro _ ⟨⟩
    exact hgoing.clean config rfl
  · rw [hf.used, hf.debouncer, Debouncer.updateServers_servers]
    exact mem_servers_of_built hgoing.sound
  · rw [hf.debouncer, hf.tasks, hf.adapters]
    intro task req hp
    obtain ⟨hmem, hp⟩ := (hkeeps.pending task req).1 hp
    obtain ⟨row, hrow, -⟩ := h.pending task req hp
    exact ⟨row, hrow, (hg.1 task req hp hmem).trans hrow⟩
  · rw [hf.log]
    intro e he
    rcases List.mem_append.1 he with he | he
    · exact h.own e he
    · rw [List.mem_singleton.1 he]
      trivial
  · rw [hf.log]
    apply List.pairwise_append.2
    refine ⟨h.order, List.pairwise_singleton _ _, fun e _ e' he' => ?_⟩
    rw [List.mem_singleton.1 he']
    cases e with
    | trigger => trivial
    | swap => trivial

lemma Threads.swap (h : Threads host s) (hb : Booted s'.engine)
    (hi : s.engine.rebuilds[i]? = some (.assembling (.gating config built (.verdict ok))))
    (hg : s.Unmixed (s.rebuilds i) config) (hf : Swapped s s' i config built) :
    Threads host s' := by
  have hwired : s.engine.wired = true := h.booted.wired hi nofun nofun
  obtain ⟨clients, hr⟩ := hf.calls
  constructor
  · exact hb
  · rw [hr]
    exact AtMostOne.set h.lock hi fun _ => .inl rfl
  · intro hw
    rw [hf.wired, hwired] at hw
    cases hw
  · intro _
    rw [hf.adapters, hf.sight]
  · intro _
    rw [hf.wired]
    exact hwired
  · intro config' rest built' hs
    -- `start` is past its building when a rebuild runs
    rw [hf.place] at hs
    have hw := h.booted.early (by rw [hs]; rfl)
    rw [hwired] at hw
    cases hw
  · rw [hf.place, hf.written, hf.view_eq, hf.start]
    exact h.start
  · intro j a hj
    -- no other rebuild holds the lock
    rw [hr] at hj
    rcases getElem?_set_cases hj with ⟨-, ha⟩ | ⟨hij, hj⟩
    · cases ha
    · exact absurd (h.lock hi hj rfl rfl) hij
  · rw [hf.place, hf.debouncer, Debouncer.updateServers_servers, hf.inbox, hf.adapters]
    intro reqs hs req hreq
    obtain ⟨row, hrow, -⟩ := h.inbox reqs hs req hreq
    exact ⟨row, hrow, fun hmem => (hg.2 req (by rw [hs]; exact hreq) hmem).trans hrow⟩

lemma Inv.rebuild (h : Inv host s) (hg : s.Apart (.engine (.rebuild i))) {engine : Lifecycle}
    (hb : Booted engine) (hc : RebuildCase host s.engine i engine) :
    Inv host { s.note (.rebuild i) with engine := engine } := by
  cases hc with
  | refuse hi =>
    rw [note_rebuild_idle hi nofun]
    exact h.moveRebuild {} rfl rfl hb hi rfl nofun rfl
      (fun _ _ => rfl) nofun
  | wait hi =>
    rw [note_rebuild_idle hi nofun]
    exact h.moveRebuild {} rfl rfl hb hi rfl nofun rfl
      (fun _ _ => rfl) nofun
  | lock hi hfree =>
    rw [note_rebuild_idle hi nofun]
    refine h.moveRebuild {} rfl rfl hb hi rfl
      (fun _ => .inr hfree) rfl (fun _ _ => rfl) ?_
    rintro a ⟨⟩
    exact ⟨⟨trivial, nofun, nofun⟩, nofun⟩
  | read r r' hi hread =>
    rw [note_rebuild hi nofun]
    refine h.moveRebuild {} rfl rfl hb hi rfl
      (fun _ => .inl rfl) rfl (fun j hj => Function.update_of_ne hj _ _) ?_
    rintro a ⟨⟩
    dsimp only
    rw [Function.update_self]
    refine ⟨h.core.read (h.threads.rebuilds i _ hi).1 ?_ hread, fun _ _ =>
      h.threads.precedes h.core hi hread⟩
    rintro server rest config rfl
    exact (hg _ hi _ rfl).1 server rfl
  | store r config hi hread =>
    obtain rfl := readStep_inr hread
    rw [note_rebuild hi nofun]
    exact h.moveRebuild {} rfl rfl hb hi rfl
      (fun _ => .inl rfl) rfl (fun j hj => Function.update_of_ne hj _ _)
      (h.threads.stay hi (Function.update_self _ _ _) rfl Going.store)
  | round config item rest built hi =>
    rw [note_rebuild hi nofun]
    exact h.moveRebuild {} rfl rfl hb hi rfl
      (fun _ => .inl rfl) rfl (fun j hj => Function.update_of_ne hj _ _)
      (h.threads.stay hi (Function.update_self _ _ _) rfl fun hgoing => hgoing.round _)
  | built config built hi =>
    rw [note_rebuild hi nofun]
    exact h.moveRebuild {} rfl rfl hb hi rfl
      (fun _ => .inl rfl) rfl (fun j hj => Function.update_of_ne hj _ _)
      (h.threads.stay hi (Function.update_self _ _ _) rfl fun hgoing => hgoing.built _)
  | gate config built g hi hne =>
    have ha : ∀ config' built' ok,
        Assembly.gating config built g ≠ .gating config' built' (.verdict ok) := by
      rintro _ _ ok ⟨⟩
      exact hne ok rfl
    rw [note_rebuild hi ha]
    exact h.moveRebuild {} rfl rfl hb hi rfl
      (fun _ => .inl rfl) rfl (fun j hj => Function.update_of_ne hj _ _)
      (h.threads.stay hi (Function.update_self _ _ _) rfl fun hgoing => hgoing.gate _)
  | swap config built ok hi =>
    have hn : s.note (.rebuild i) = { s with
        config := s.rebuilds i
        adapters := (s.rebuilds i).listed
        log := s.log ++ [.swap (s.rebuilds i)] } := by
      unfold note
      dsimp only
      rw [hi]
    have hu := (hg _ hi _ rfl).2 config rfl
    rw [hn]
    exact ⟨h.core.swap h.threads hi hu {}, h.threads.swap hb hi hu {}⟩
  | close client rest hi =>
    rw [note_rebuild_idle hi nofun]
    exact h.moveRebuild {} rfl rfl hb hi rfl
      (fun _ => .inl rfl) rfl (fun _ _ => rfl) nofun
  | finish hi =>
    rw [note_rebuild_idle hi nofun]
    exact h.moveRebuild {} rfl rfl hb hi rfl nofun rfl
      (fun _ _ => rfl) nofun

/-! ## What waits -/

/-- Only rebuilds are added that have not begun. -/
lemma Inv.still (h : Inv host s) (hf : Same s s') (hsight : s'.start = s.start)
    (hsights : s'.rebuilds = s.rebuilds) (hinbox : s'.inbox = s.inbox) (hb : Booted s'.engine)
    (hstart : s'.engine.start = s.engine.start)
    (hlock : AtMostOne Rebuild.locked s'.engine.rebuilds)
    (hr : ∀ (i : Nat) (a : Assembly), s'.engine.rebuilds[i]? = some (Rebuild.assembling a) →
      s.engine.rebuilds[i]? = some (Rebuild.assembling a)) : Inv host s' := by
  have ht := h.threads
  refine ⟨h.core.same hf, hb, hlock, ?_, ?_, ?_, ?_, ?_, ?_, ?_⟩
  · rw [hf.wired, hf.debouncer, hf.log]
    exact ht.unwired
  · rw [hf.wired, hf.adapters, hf.config]
    exact ht.linked
  · rw [hf.wired, hstart]
    exact ht.late
  · rw [hstart, hf.config, hsight]
    exact ht.stored
  · rw [hstart, hf.written, hf.view_eq, hsight]
    exact ht.start
  · rw [hf.written, hf.view_eq, hf.log, hsights]
    exact fun i a hi => ht.rebuilds i a (hr i a hi)
  · rw [hstart, hf.debouncer, hinbox, hf.adapters]
    exact ht.inbox

/-- The triggers are for rows of the adapters. -/
def Known (s : Tracked) (more : List Entry) : Prop :=
  ∀ e ∈ more, ∃ req row, e = .trigger req (some row) (some row) ∧
    s.adapters req.serverId = some row

/-- The log grows by triggers of known rows. -/
lemma Core.order_append (h : Core s) {more : List Entry} (hm : s.Known more) :
    (s.log ++ more).Pairwise Entry.Before := by
  have hafter : ∀ e, ∀ e' ∈ more, e ∈ s.log ∨ e ∈ more → e.Before e' := by
    intro e e' he' he
    obtain ⟨req, row, rfl, hrow⟩ := hm e' he'
    cases e with
    | trigger => trivial
    | swap sight =>
      rcases he with he | he
      · rintro _ ⟨⟩ hlt
        exact h.inForce sight he _ row hrow hlt
      · obtain ⟨_, _, hswap, -⟩ := hm _ he
        cases hswap
  apply List.pairwise_append.2
  refine ⟨h.order, ?_, fun e he e' he' => hafter e e' he' (.inl he)⟩
  exact List.pairwise_of_forall_mem_list fun e he e' he' => hafter e e' he' (.inr he)

/-- The log has no new swap. -/
lemma Known.swap_mem {more : List Entry} (hm : s.Known more) {sight : Sight}
    (hs : .swap sight ∈ s.log ++ more) : .swap sight ∈ s.log := by
  rcases List.mem_append.1 hs with hs | hs
  · exact hs
  · obtain ⟨_, _, he, -⟩ := hm _ hs
    cases he

/-- Timers are armed or end, and triggers are called. -/
lemma Core.flow (h : Core s) {more : List Entry} (hk : Kept s s') (hlog : s'.log = s.log ++ more)
    (hservers : s'.engine.debouncer.servers = s.engine.debouncer.servers)
    (hexact : s'.engine.debouncer.Exact)
    (hpending : ∀ task req, s'.engine.debouncer.Pending task req →
      ∃ row, s'.tasks task = some row ∧ s.adapters req.serverId = some row)
    (hmore : s.Known more) : Core s' := by
  refine ⟨?_, hexact, ?_, ?_, ?_, ?_, ?_, ?_, ?_⟩
  · rw [hk.db, hk.tables]
    exact h.db
  · rw [hk.written, hk.view_eq, hlog]
    exact fun sight hs => h.swaps sight (hmore.swap_mem hs)
  · rw [hk.adapters, hlog]
    exact fun sight hs => h.inForce sight (hmore.swap_mem hs)
  · rw [hk.stored, hk.config]
    exact h.clean
  · rw [hk.built, hservers]
    exact h.known
  · rw [hk.adapters]
    exact hpending
  · rw [hlog]
    intro e he
    rcases List.mem_append.1 he with he | he
    · exact h.own e he
    · obtain ⟨req, row, rfl, -⟩ := hmore e he
      exact ⟨row, rfl, rfl⟩
  · rw [hlog]
    exact h.order_append hmore

/-- The rebuilds and `start` stay where they are, but that `start` may go on with its requests. -/
lemma Threads.flow (h : Threads host s) {more : List Entry} (hk : Kept s s')
    (hsight : s'.start = s.start) (hsights : s'.rebuilds = s.rebuilds) (hinbox : s'.inbox = s.inbox)
    (hlog : s'.log = s.log ++ more) (hb : Booted s'.engine)
    (hr : s'.engine.rebuilds = s.engine.rebuilds)
    (hservers : s'.engine.debouncer.servers = s.engine.debouncer.servers)
    (hwired : ∀ task req, s'.engine.debouncer.Pending task req → s.engine.wired = true)
    (hmore : s.Known more)
    (hstart : s'.engine.start = s.engine.start ∨ ∃ req rest,
      s.engine.start = .consuming (req :: rest) ∧ s'.engine.start = .consuming rest) :
    Threads host s' := by
  have hsame : ∀ a, s'.engine.start = .assembling a → s.engine.start = .assembling a := by
    intro a ha
    rcases hstart with he | ⟨req, rest, -, he⟩
    · exact he.symm.trans ha
    · rw [he] at ha
      cases ha
  refine ⟨hb, ?_, ?_, ?_, ?_, ?_, ?_, ?_, ?_⟩
  · rw [hr]
    exact h.lock
  · rw [hk.wired, hlog]
    intro hw
    refine ⟨fun sight hs => (h.unwired hw).1 sight (hmore.swap_mem hs), fun task req hp => ?_⟩
    rw [hwired task req hp] at hw
    cases hw
  · rw [hk.wired, hk.adapters, hk.config]
    exact h.linked
  · rw [hk.wired]
    intro hl
    rcases hstart with he | ⟨req, rest, hs, -⟩
    · rw [he] at hl
      exact h.late hl
    · exact h.late (by rw [hs]; rfl)
  · rw [hk.config, hsight]
    exact fun config rest built hs => h.stored config rest built (hsame _ hs)
  · rw [hk.written, hk.view_eq, hsight]
    exact fun a ha => h.start a (hsame a ha)
  · rw [hr, hk.written, hk.view_eq, hsights, hlog]
    exact fun i a hi => ⟨(h.rebuilds i a hi).1, fun config hcfg sight hs =>
      (h.rebuilds i a hi).2 config hcfg sight (hmore.swap_mem hs)⟩
  · -- the requests that are left to `start` were there before
    rw [hservers, hinbox, hk.adapters]
    intro reqs hs req hreq
    rcases hstart with he | ⟨first, rest, hs', he⟩
    · exact h.inbox reqs (he.symm.trans hs) req hreq
    · rw [he] at hs
      cases hs
      exact h.inbox _ hs' req (List.mem_cons_of_mem _ hreq)

/-- Requests flow: timers are armed or end, and triggers are called. -/
lemma Inv.flow (h : Inv host s) {more : List Entry} (hk : Kept s s') (hsight : s'.start = s.start)
    (hsights : s'.rebuilds = s.rebuilds) (hinbox : s'.inbox = s.inbox)
    (hlog : s'.log = s.log ++ more) (hb : Booted s'.engine)
    (hr : s'.engine.rebuilds = s.engine.rebuilds)
    (hservers : s'.engine.debouncer.servers = s.engine.debouncer.servers)
    (hexact : s'.engine.debouncer.Exact)
    (hpending : ∀ task req, s'.engine.debouncer.Pending task req → s.engine.wired = true ∧
      ∃ row, s'.tasks task = some row ∧ s.adapters req.serverId = some row)
    (hmore : s.Known more)
    (hstart : s'.engine.start = s.engine.start ∨ ∃ req rest,
      s.engine.start = .consuming (req :: rest) ∧ s'.engine.start = .consuming rest) :
    Inv host s' :=
  ⟨h.core.flow hk hlog hservers hexact (fun task req hp => (hpending task req hp).2) hmore,
    h.threads.flow hk hsight hsights hinbox hlog hb hr hservers
      (fun task req hp => (hpending task req hp).1) hmore hstart⟩

lemma known_triggers {row : Option Nat} {out : List ScanRequest}
    (h : ∀ req ∈ out, ∀ a, s.engine.adapters.lookup req.serverId = some a →
      ∃ n, row = some n ∧ s.adapters req.serverId = some n) : s.Known (s.triggers row out) := by
  intro e he
  obtain ⟨req, hreq, he⟩ := List.mem_filterMap.1 he
  obtain ⟨a, ha, rfl⟩ := Option.map_eq_some_iff.1 he
  obtain ⟨n, rfl, hn⟩ := h req hreq a ha
  refine ⟨req, n, ?_, hn⟩
  rw [hn]

lemma mem_of_lookup {id : Nat} {a : Adapter} {l : List (Nat × Adapter)}
    (h : l.lookup id = some a) : (id, a) ∈ l := by
  obtain ⟨l₁, l₂, rfl, -⟩ := List.lookup_eq_some_iff.1 h
  exact List.mem_append_right _ List.mem_cons_self

/-- An event is routed by the configuration in force. -/
lemma Inv.event (h : Inv host s) {e : FsEvent} (hs : s.engine.start = .consuming [])
    (hb : Booted { s.engine with
      start := .consuming (s.engine.config.elim [] fun config => route host.lower e config) }) :
    Inv host { s with
      engine := { s.engine with
        start := .consuming (s.engine.config.elim [] fun config => route host.lower e config) }
      inbox := s.config.folders } := by
  have ht := h.threads
  have hw : s.engine.wired = true := ht.late (by rw [hs]; rfl)
  refine ⟨h.core.same {}, hb, ht.lock,
    ht.unwired, ht.linked, fun _ => hw, nofun, nofun, ht.rebuilds, ?_⟩
  intro reqs hreqs req hreq
  cases hreqs
  cases hconfig : s.engine.config with
  | none =>
    rw [hconfig] at hreq
    cases hreq
  | some config =>
    rw [hconfig] at hreq
    obtain ⟨r, hr, -, rfl⟩ := mem_route.1 hreq
    obtain ⟨row, hf, hl⟩ := h.core.clean config hconfig r hr
    refine ⟨row, hf, fun _ => ?_⟩
    show s.adapters r.serverId = some row
    rw [ht.linked hw]
    exact hl

/-- The next request is submitted. -/
lemma Inv.submit (h : Inv host s) {req : ScanRequest} {rest late : List ScanRequest}
    (hs : s.engine.start = .consuming (req :: rest))
    (hb : Booted { s.engine with
      debouncer := (s.engine.debouncer.submit req).1, start := .consuming rest, late := late }) :
    Inv host { s with
      engine := { s.engine with
        debouncer := (s.engine.debouncer.submit req).1, start := .consuming rest, late := late }
      tasks := Function.update s.tasks s.engine.debouncer.nextTask (s.inbox req.serverId)
      log := s.log ++ s.triggers (s.inbox req.serverId) (s.engine.debouncer.submit req).2 } := by
  have hw : s.engine.wired = true := h.threads.late (by rw [hs]; rfl)
  obtain ⟨row, hrow, hknown⟩ := h.threads.inbox _ hs req List.mem_cons_self
  have hexact := h.core.exact
  -- the tasks of before are older than the next one
  have hold : ∀ {task r}, s.engine.debouncer.Pending task r →
      ∃ row', Function.update s.tasks s.engine.debouncer.nextTask (s.inbox req.serverId) task =
        some row' ∧ s.adapters r.serverId = some row' := by
    intro task r hp
    rw [Function.update_of_ne (Nat.ne_of_lt (hexact.fresh hp))]
    exact h.core.pending task r hp
  by_cases htr : s.engine.debouncer.Trailing req
  · obtain ⟨hout, htakes⟩ := hexact.submit htr
    refine h.flow {} rfl rfl rfl rfl hb rfl htakes.servers htakes.exact
      (fun task r hp => ⟨hw, ?_⟩) ?_ (.inr ⟨req, rest, hs, rfl⟩)
    · rcases (htakes.pending task r).1 hp with ⟨rfl, rfl⟩ | ⟨-, hp⟩
      · refine ⟨row, ?_, hknown ?_⟩
        · exact (Function.update_self _ _ _).trans hrow
        · obtain ⟨server, hl, -⟩ := htr
          exact AList.lookup_isSome.1 (by rw [hl]; rfl)
      · exact hold hp
    · rw [hout]
      nofun
  · rw [Debouncer.submit_of_not_trailing htr] at hb ⊢
    refine h.flow {} rfl rfl rfl rfl hb rfl rfl hexact
      (fun task r hp => ⟨hw, hold hp⟩) (known_triggers ?_) (.inr ⟨req, rest, hs, rfl⟩)
    intro r hr a ha
    obtain rfl := List.mem_singleton.1 hr
    exact ⟨row, hrow, hknown (h.core.known _ (mem_of_lookup ha))⟩

/-- A timer task is resumed. -/
lemma Inv.fire (h : Inv host s) {task : Nat} {d : Debouncer} {out late : List ScanRequest}
    (hf : s.engine.debouncer.fireAfter task = some (d, out))
    (hb : Booted { s.engine with debouncer := d, late := late }) :
    Inv host { s with
      engine := { s.engine with debouncer := d, late := late }
      log := s.log ++ s.triggers (s.tasks task) out } := by
  have hends := h.core.exact.fireAfter hf
  have hwired : ∀ {x r}, s.engine.debouncer.Pending x r → s.engine.wired = true := by
    intro x r hp
    by_contra hw
    exact (h.threads.unwired (Bool.eq_false_iff.2 hw)).2 x r hp
  refine h.flow {} rfl rfl rfl rfl hb rfl hends.servers
    hends.exact (fun x r hp => ?_) (known_triggers ?_) (.inl rfl)
  · have hp := ((hends.pending x r).1 hp).2
    exact ⟨hwired hp, h.core.pending x r hp⟩
  · intro r hr a ha
    rcases hends.out with ⟨r', rfl, hp⟩ | ⟨rfl, -⟩
    · obtain rfl := List.mem_singleton.1 hr
      exact h.core.pending task r hp
    · cases hr

/-! ## Every run -/

lemma inv_init (tables : Database) (settings : List (Str × Str))
    (fits : List Str → List Str → Bool) (park : Bool) :
    Inv host (init tables settings fits park) := by
  have hidle : ∀ task req, ¬ (Debouncer.init ∅).Pending task req := nofun
  have hnone : ∀ e, e ∉ (init tables settings fits park).log := fun _ => List.not_mem_nil
  constructor
  · constructor
    · rfl
    · exact Debouncer.exact_init _
    · exact fun sight hs => absurd hs (hnone _)
    · exact fun sight hs => absurd hs (hnone _)
    · nofun
    · exact fun entry he => absurd he List.not_mem_nil
    · exact fun task req hp => absurd hp (hidle task req)
    · exact fun e he => absurd he (hnone e)
    · exact .nil
  · refine ⟨Lifecycle.booted_init _ _ _, ?_, fun _ => ⟨fun sight => hnone _, hidle⟩, nofun, nofun,
      nofun, nofun, nofun, nofun⟩
    intro i j a b hi
    cases hi

/-- `aclose` cancels the timers. -/
lemma Inv.close (h : Inv host s) {engine : Lifecycle} (hb : Booted engine)
    (hc : CloseCase s.engine engine) : Inv host { s with engine := engine } := by
  have hmoves : ∀ {engine}, Booted engine → Same s { s with engine := engine } →
      engine.start = s.engine.start → engine.rebuilds = s.engine.rebuilds →
      Inv host { s with engine := engine } := by
    intro engine hb hf hstart hr
    refine h.still hf rfl rfl rfl hb hstart ?_ ?_
    · rw [hr]
      exact h.threads.lock
    · rw [hr]
      exact fun _ _ hi => hi
  cases hc with
  | watcher => exact hmoves hb {} rfl rfl
  | debouncer =>
    obtain ⟨hservers, hkeeps⟩ := h.core.exact.close
    have hlog : s.log = s.log ++ [] := (List.append_nil _).symm
    refine h.flow {} rfl rfl rfl hlog hb rfl hservers hkeeps.exact (fun task req hp => ?_) nofun
      (.inl rfl)
    exact absurd ((hkeeps.pending task req).1 hp).1 id
  | clients => exact hmoves hb {} rfl rfl
  | client client rest => exact hmoves hb {} rfl rfl
  | finish => exact hmoves hb {} rfl rfl

/-- A step of the engine. -/
lemma Inv.engine (h : Inv host s) {a : Act} (hg : s.Apart (.engine a)) (hw : ∀ db, a ≠ .write db)
    {engine : Lifecycle} (hs : s.engine.step host a = some engine) :
    Inv host { s.note a with engine := engine } := by
  have hb : Booted engine := h.threads.booted.step hs
  cases a with
  | write db => exact absurd rfl (hw db)
  | start => exact h.start hg hb (Lifecycle.startStep_cases hs)
  | rebuild i => exact h.rebuild hg hb (Lifecycle.rebuildStep_cases hs)
  | close => exact h.close hb (Lifecycle.closeStep_cases hs)
  | startRaises =>
    cases Lifecycle.step_cases hs with
    | startRaises a hstart => exact h.moveStart {} rfl hb rfl nofun nofun nofun nofun
  | loopEnds =>
    cases Lifecycle.step_cases hs with
    | loopEnds reqs hstart => exact h.moveStart {} rfl hb rfl nofun nofun nofun nofun
  | limits fits =>
    cases hs
    exact h.still {} rfl rfl rfl hb rfl h.threads.lock fun _ _ hi => hi
  | request =>
    cases hs
    refine h.still {} rfl rfl rfl hb rfl (AtMostOne.append h.threads.lock rfl) fun i a hi => ?_
    dsimp only at hi
    rw [List.getElem?_append] at hi
    split at hi
    · exact hi
    · cases List.mem_singleton.1 (List.mem_of_getElem? hi)
  | rebuildRaises i =>
    cases Lifecycle.step_cases hs with
    | rebuildRaises i a hi =>
      exact h.moveRebuild {} rfl rfl hb hi rfl nofun rfl (fun _ _ => rfl) nofun
  | event e =>
    simp only [Lifecycle.step, Lifecycle.eventStep] at hs
    split at hs
    · next hstart =>
      cases hs
      exact h.event hstart hb
    · cases hs
  | submit =>
    cases Lifecycle.step_cases hs with
    | submit req rest hstart =>
      obtain ⟨late, hd, -⟩ := Lifecycle.foldl_dispatch (s.engine.debouncer.submit req).2
        { s.engine with
          debouncer := (s.engine.debouncer.submit req).1, start := .consuming rest }
      unfold note
      dsimp only
      rw [hstart, hd]
      rw [hd] at hb
      exact h.submit hstart hb
  | fire task =>
    cases Lifecycle.step_cases hs with
    | fire task d out hf =>
      obtain ⟨late, hd, -⟩ := Lifecycle.foldl_dispatch out { s.engine with debouncer := d }
      unfold note
      dsimp only
      rw [hf, hd]
      rw [hd] at hb
      exact h.fire hf hb

lemma Inv.step (h : Inv host s) {a : Step} (hg : s.Apart a)
    (hs : s.step host box a = some s') : Inv host s' := by
  cases a with
  | commit w =>
    cases hs
    exact ⟨h.core.commit w, h.threads.commit w⟩
  | engine a =>
    cases a with
    | write db => cases hs
    | _ =>
      unfold Tracked.step at hs
      obtain ⟨engine, he, rfl⟩ := Option.map_eq_some_iff.1 hs
      exact h.engine hg nofun he

/-- Whatever is written meanwhile, a request reaches the adapter of the row that it was routed for;
and none any more, once a configuration is in force that has not seen this row. -/
theorem requests_keep_their_row {tables : Database} {settings : List (Str × Str)}
    {fits : List Str → List Str → Bool} {park : Bool}
    (h : Reach (step host box) Apart (init tables settings fits park) s) :
    (∀ e ∈ s.log, e.Own) ∧ s.log.Pairwise Entry.Before := by
  have hinv : Inv host s :=
    h.invariant (P := Inv host) (inv_init tables settings fits park) fun hp hg hs => hp.step hg hs
  exact ⟨hinv.core.own, hinv.core.order⟩

/-- Only a task of the debouncer can be pending. -/
lemma unmixed_iff : ((∀ task ∈ s.engine.debouncer.tasks.keys,
      ∀ timer ∈ s.engine.debouncer.tasks.lookup task,
        timer.key = timer.req.key → timer.cancelled = false →
          timer.req.serverId ∈ config.servers → sight.listed timer.req.serverId = s.tasks task) ∧
    ∀ req ∈ s.engine.start.inbox, req.serverId ∈ config.servers →
      sight.listed req.serverId = s.inbox req.serverId) ↔ s.Unmixed sight config := by
  apply and_congr_left
  intro _
  constructor
  · intro h task req hp
    have hkey : task ∈ s.engine.debouncer.tasks.keys := by
      apply AList.lookup_isSome.1
      rw [show s.engine.debouncer.tasks.lookup task = _ from hp]
      rfl
    exact h task hkey _ hp rfl rfl
  · rintro h task _ ⟨key, req, cancelled⟩ ht hkey hcancelled
    dsimp only at hkey hcancelled ⊢
    subst hkey hcancelled
    exact h task req ht

instance (s : Tracked) (sight : Sight) (serverId : Nat) :
    Decidable (s.Unreplaced sight serverId) :=
  inferInstanceAs (Decidable (s.view serverId = none ∨ s.view serverId = sight.listed serverId))

instance (s : Tracked) (sight : Sight) (config : RuntimeConfig) :
    Decidable (s.Unmixed sight config) :=
  decidable_of_iff _ unmixed_iff

instance (s : Tracked) : (a : Step) → Decidable (s.Apart a)
  | .engine .start => inferInstanceAs (Decidable (∀ a ∈ s.engine.start.assembly,
    ∀ server ∈ a.reads, s.Unreplaced s.start server.id))
  | .engine (.rebuild i) => inferInstanceAs (Decidable (∀ c ∈ s.engine.rebuilds[i]?,
    ∀ a ∈ c.assembly, (∀ server ∈ a.reads, s.Unreplaced (s.rebuilds i) server.id) ∧
      ∀ config ∈ a.swaps, s.Unmixed (s.rebuilds i) config))
  | .engine .startRaises | .engine (.write _) | .engine (.limits _) | .engine .request
  | .engine (.rebuildRaises _) | .engine (.event _) | .engine .submit | .engine (.fire _)
  | .engine .loopEnds | .engine .close | .commit _ => isTrue trivial

/-- A Plex server is created that is told which items of `/media` to scan. -/
def creates (name : Str) (h : strip name ≠ []) : RepoWrite :=
  .createServerWithFolders [] { name := name, type := .plex, name_not_blank := h }
    [{ path := "/media".toList, libraryId := some "1".toList, absolute := rfl }]

/-- The database with one such server. -/
def oneServer : Database := emptyDatabase.write .clear lowerAscii (creates "a".toList (by decide))

/-- The engine starts, and a file is created in `/media`. -/
def routes : List Step :=
  List.replicate 9 (.engine .start) ++
    [.engine (.event ⟨"/media/x/y".toList, .created, false⟩), .engine .submit]

/-- The timer runs out before the server is deleted and a rebuild has seen this. -/
theorem requests_keep_their_row_run : ∃ s,
    run (guarded (step healthy .clear) Apart) (init oneServer [] roomy true)
      (routes ++ .engine (.fire 0) :: .commit (.deleteServer 1) :: .engine .request ::
        List.replicate 8 (.engine (.rebuild 0))) = some s ∧
    s.log.length = 2 ∧ (∀ e ∈ s.log, e.Own) ∧ s.log.Pairwise Entry.Before := by
  have hrun : run (guarded (step healthy .clear) Apart) (init oneServer [] roomy true)
      (routes ++ .engine (.fire 0) :: .commit (.deleteServer 1) :: .engine .request ::
        List.replicate 8 (.engine (.rebuild 0))) = some _ := rfl
  exact ⟨_, hrun, rfl, requests_keep_their_row (.of_run hrun)⟩

/-- While the timer runs, the server is deleted and another is created, before the rebuild after the
deletion lists the servers. -/
def replaces : List Step :=
  routes ++ [.commit (.deleteServer 1), .engine .request,
    .commit (creates "b".toList (by decide)), .engine .request] ++
    List.replicate 10 (.engine (.rebuild 0)) ++ [.engine (.fire 0)]

/-- The request reaches the other server, which has got the id of the first, and it does so after the
swap of the rebuild that has not seen the first. -/
theorem request_reaches_successor : ∃ s,
    run (step healthy .clear) (init oneServer [] roomy true) replaces = some s ∧
      (∃ e ∈ s.log, ¬ e.Own) ∧ ¬ s.log.Pairwise Entry.Before := by
  refine ⟨_, rfl, ⟨_, List.mem_cons_of_mem _ List.mem_cons_self, ?_⟩, fun h => ?_⟩
  · rintro ⟨row, hfolder, hadapter⟩
    cases hfolder
    cases hadapter
  · have hlisted := (List.pairwise_cons.1 h).1 _ List.mem_cons_self 1 rfl (by decide)
    cases hlisted

end Tracked
end MediaScanMonitor
