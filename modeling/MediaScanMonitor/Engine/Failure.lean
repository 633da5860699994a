import MediaScanMonitor.Engine.Consistency
import MediaScanMonitor.Engine.Shutdown
import MediaScanMonitor.Engine.Writes
import MediaScanMonitor.Lib.History

/-!
# A rebuild that raises

One `rebuild` call from its beginning until it raises, with nothing else going on. Before the swap
it leaves the engine alone; but the clients it has built by then are its own, and it closes only
those for which there was no adapter.
-/

namespace MediaScanMonitor
open Text Transition History
open Engine (readStep enterGate gateStep)
namespace Lifecycle

variable {host : Host} {s s' u v : Lifecycle} {a : Act} {i : Nat} {client : Client}

/-! ## Clients are numbered as they are built -/

/-- Whatever client is mentioned has been built. -/
structure Bounded (s : Lifecycle) : Prop where
  closed : ∀ c ∈ s.closed, c < s.nextClient
  clients : ∀ c ∈ s.clients.map Prod.snd, c < s.nextClient
  start : ∀ c ∈ s.start.held, c < s.nextClient
  rebuilds : ∀ x ∈ s.rebuilds, ∀ c ∈ x.held, c < s.nextClient
  aclose : ∀ rest, s.aclose = .clients rest → ∀ c ∈ rest, c < s.nextClient

lemma bounded_init (db : Db) (fits : List Str → List Str → Bool) (park : Bool) :
    Bounded (init db fits park) :=
  ⟨nofun, nofun, nofun, nofun, nofun⟩

/-- A round mentions one client more. -/
lemma round_lt {built : Built} {item : Item}
    (h : ∀ c ∈ built.clients.map Prod.snd, c < s.nextClient) :
    ∀ c ∈ (built.round host s.nextClient item).clients.map Prod.snd, c < s.nextClient + 1 := by
  intro c hc
  unfold Built.round at hc
  split at hc
  · rw [List.map_append] at hc
    cases List.mem_append.1 hc with
    | inl hc => exact Nat.lt_succ_of_lt (h c hc)
    | inr hc =>
      rw [List.mem_singleton.1 hc]
      exact Nat.lt_succ_self _
  · exact Nat.lt_succ_of_lt (h c hc)

lemma construct_lt {item : Item} (h : ∀ c ∈ s.closed, c < s.nextClient) :
    ∀ c ∈ (s.construct host item).closed, c < s.nextClient + 1 := by
  intro c hc
  unfold construct at hc
  simp only at hc
  split at hc
  · exact Nat.lt_succ_of_lt (h c hc)
  · cases List.mem_cons.1 hc with
    | inl hc =>
      rw [hc]
      exact Nat.lt_succ_self _
    | inr hc => exact Nat.lt_succ_of_lt (h c hc)

/-- A step of a rebuild. -/
lemma Bounded.rebuild {c : Rebuild} (h : Bounded s) (hn : s.nextClient ≤ s'.nextClient)
    (hcalls : s'.rebuilds = s.rebuilds.set i c) (hstart : s'.start = s.start)
    (haclose : s'.aclose = s.aclose) (hclosed : ∀ c ∈ s'.closed, c < s'.nextClient)
    (hclients : ∀ c ∈ s'.clients.map Prod.snd, c < s'.nextClient)
    (hheld : ∀ x ∈ c.held, x < s'.nextClient) : Bounded s' := by
  refine ⟨hclosed, hclients, ?_, ?_, ?_⟩
  · rw [hstart]
    exact fun c hc => Nat.lt_of_lt_of_le (h.start c hc) hn
  · rw [hcalls]
    intro x hx c hc
    cases List.mem_or_eq_of_mem_set hx with
    | inl hx => exact Nat.lt_of_lt_of_le (h.rebuilds x hx c hc) hn
    | inr hx =>
      subst hx
      exact hheld c hc
  · rw [haclose]
    exact fun rest hr c hc => Nat.lt_of_lt_of_le (h.aclose rest hr c hc) hn

lemma Bounded.rebuildCase (h : Bounded s) (hc : RebuildCase host s i s') : Bounded s' := by
  have hmove : ∀ {c'}, (∀ c ∈ c'.held, c < s.nextClient) → Bounded (s.setRebuild i c') :=
    fun hh => h.rebuild (Nat.le_refl _) rfl rfl rfl h.closed h.clients hh
  have hheld : ∀ {x}, s.rebuilds[i]? = some x → ∀ c ∈ x.held, c < s.nextClient :=
    fun hi => h.rebuilds _ (List.mem_of_getElem? hi)
  cases hc with
  | refuse => exact hmove nofun
  | wait => exact hmove nofun
  | lock => exact hmove nofun
  | read => exact hmove nofun
  | store => exact hmove nofun
  | finish => exact hmove nofun
  | built config built hi =>
    have hlt := hheld hi
    exact hmove hlt
  | gate config built g hi =>
    have hlt := hheld hi
    exact hmove hlt
  | round config item rest built hi =>
    refine h.rebuild (Nat.le_succ _) rfl rfl rfl (construct_lt h.closed) ?_ (round_lt (hheld hi))
    exact fun c hc => Nat.lt_succ_of_lt (h.clients c hc)
  | swap config built ok hi =>
    exact h.rebuild (Nat.le_refl _) rfl rfl rfl h.closed (hheld hi) h.clients
  | close client rest hi =>
    have hlt := hheld hi
    refine h.rebuild (Nat.le_refl _) rfl rfl rfl ?_ h.clients ?_
    · intro c hc
      cases List.mem_cons.1 hc with
      | inl hc => exact hc ▸ hlt client List.mem_cons_self
      | inr hc => exact h.closed c hc
    · exact fun c hc => hlt c (List.mem_cons_of_mem _ hc)

/-- A step of `start`. -/
lemma Bounded.startCase (h : Bounded s) (hc : StartCase host s s') : Bounded s' := by
  cases hc with
  | begin => exact ⟨h.closed, h.clients, nofun, h.rebuilds, h.aclose⟩
  | read => exact ⟨h.closed, h.clients, nofun, h.rebuilds, h.aclose⟩
  | store => exact ⟨h.closed, h.clients, nofun, h.rebuilds, h.aclose⟩
  | gate => exact ⟨h.closed, h.clients, nofun, h.rebuilds, h.aclose⟩
  | enter =>
    unfold Lifecycle.enter
    split
    · exact ⟨h.closed, h.clients, nofun, h.rebuilds, h.aclose⟩
    · exact ⟨h.closed, h.clients, nofun, h.rebuilds, h.aclose⟩
  | round config item rest built hs =>
    have hstart := h.start
    rw [hs] at hstart
    exact ⟨construct_lt h.closed, fun c hc => Nat.lt_succ_of_lt (h.clients c hc), round_lt hstart,
      fun x hx c hc => Nat.lt_succ_of_lt (h.rebuilds x hx c hc),
      fun rest hr c hc => Nat.lt_succ_of_lt (h.aclose rest hr c hc)⟩
  | wire config built hs =>
    have hstart := h.start
    rw [hs] at hstart
    exact ⟨h.closed, hstart, nofun, h.rebuilds, h.aclose⟩

lemma Bounded.closeCase (h : Bounded s) (hc : CloseCase s s') : Bounded s' := by
  cases hc with
  | watcher => exact ⟨h.closed, h.clients, h.start, h.rebuilds, nofun⟩
  | debouncer => exact ⟨h.closed, h.clients, h.start, h.rebuilds, nofun⟩
  | clients =>
    refine ⟨h.closed, h.clients, h.start, h.rebuilds, fun rest hr => ?_⟩
    cases hr
    exact h.clients
  | client client rest hs =>
    have hlt := h.aclose _ hs
    refine ⟨fun c hc => ?_, h.clients, h.start, h.rebuilds, fun rest' hr c hc => ?_⟩
    · cases List.mem_cons.1 hc with
      | inl hc => exact hc ▸ hlt client List.mem_cons_self
      | inr hc => exact h.closed c hc
    · cases hr
      exact hlt c (List.mem_cons_of_mem _ hc)
  | finish => exact ⟨h.closed, nofun, h.start, h.rebuilds, nofun⟩

lemma Bounded.step (h : Bounded s) (hs : step host s a = some s') : Bounded s' := by
  cases step_cases hs with
  | start hc => exact h.startCase hc
  | startRaises => exact ⟨h.closed, h.clients, nofun, h.rebuilds, h.aclose⟩
  | write => exact ⟨h.closed, h.clients, h.start, h.rebuilds, h.aclose⟩
  | limits => exact ⟨h.closed, h.clients, h.start, h.rebuilds, h.aclose⟩
  | request =>
    refine ⟨h.closed, h.clients, h.start, fun x hx => ?_, h.aclose⟩
    cases List.mem_append.1 hx with
    | inl hx => exact h.rebuilds x hx
    | inr hx =>
      rw [List.mem_singleton.1 hx]
      exact nofun
  | rebuild i hc => exact h.rebuildCase hc
  | rebuildRaises i =>
    exact h.rebuild (c := .raised) (Nat.le_refl _) rfl rfl rfl h.closed h.clients nofun
  | event => exact ⟨h.closed, h.clients, nofun, h.rebuilds, h.aclose⟩
  | submit req rest =>
    obtain ⟨late, hd, -⟩ := foldl_dispatch (s.debouncer.submit req).2
      { s with debouncer := (s.debouncer.submit req).1, start := .consuming rest }
    rw [hd]
    exact ⟨h.closed, h.clients, nofun, h.rebuilds, h.aclose⟩
  | fire task d out =>
    obtain ⟨late, hd, -⟩ := foldl_dispatch out { s with debouncer := d }
    rw [hd]
    exact ⟨h.closed, h.clients, h.start, h.rebuilds, h.aclose⟩
  | loopEnds => exact ⟨h.closed, h.clients, nofun, h.rebuilds, h.aclose⟩
  | close hc => exact h.closeCase hc

/-! ## One call -/

/-- Only the call with the number `i` goes on, or raises. -/
def Only (i : Nat) (_ : Lifecycle) : Act → Prop
  | .rebuild j => j = i
  | .rebuildRaises j => j = i
  | _ => False

/-- The parts of the engine are as they were. -/
structure Unchanged (s s' : Lifecycle) : Prop where
  config : s'.config = s.config
  adapters : s'.adapters = s.adapters
  debouncer : s'.debouncer = s.debouncer
  clients : s'.clients = s.clients
  roots : s'.roots = s.roots
  state : s'.state = s.state

/-- The parts are as they were, and the clients that have been built since are closed. -/
def FailureAtomic (s s' : Lifecycle) : Prop :=
  Unchanged s s' ∧ ∀ client, s.nextClient ≤ client → client < s'.nextClient → client ∈ s'.closed

/-- No server whose client the call has built has an adapter. The clients are built in the order of
the servers in the configuration. -/
def NoneKept (host : Host) (s s' : Lifecycle) : Prop :=
  ∀ config, buildRuntimeConfig host.lower host.decrypt s.db = some config →
    ∀ item ∈ config.servers.entries.take (s'.nextClient - s.nextClient),
      host.create item.2 = false

/-- Of the clients that were built for these items, from number `n` on, those are closed for which
there is no adapter. -/
def Tracked (host : Host) (n : Nat) (past : List Item) (closed : List Client) : Prop :=
  ∀ k item, past[k]? = some item → (n + k ∈ closed ↔ host.create item.2 = false)

/-- What the call has done so far. -/
def Progress (host : Host) (s u : Lifecycle) : Assembly → Prop
  | .reading r => r.Of (s.platform host) s.db ∧ u.nextClient = s.nextClient
  | .building config rest built =>
    buildRuntimeConfig host.lower host.decrypt s.db = some config ∧
      ∃ past, config.servers.entries = past ++ rest ∧ built.Of host past ∧
        u.nextClient = s.nextClient + past.length ∧ Tracked host s.nextClient past u.closed
  | .gating config built _ =>
    buildRuntimeConfig host.lower host.decrypt s.db = some config ∧
      built.Of host config.servers.entries ∧
      u.nextClient = s.nextClient + config.servers.entries.length ∧
      Tracked host s.nextClient config.servers.entries u.closed

/-- The engine runs on what the database says. -/
def Installed (host : Host) (db : Db) (u : Lifecycle) : Prop :=
  ∃ config, buildRuntimeConfig host.lower host.decrypt db = some config ∧
    u.config = some config ∧ (⟨u.adapters, u.clients⟩ : Built).Of host config.servers.entries

/-- Where the call is, and what has become of the engine. -/
def AtCall (host : Host) (s u : Lifecycle) : Rebuild → Prop
  | .pending => Unchanged s u ∧ u.nextClient = s.nextClient
  | .waiting => Unchanged s u ∧ u.nextClient = s.nextClient
  | .assembling a => Unchanged s u ∧ Progress host s u a
  | .raised => Unchanged s u ∧ (FailureAtomic s u ↔ NoneKept host s u)
  | .closing _ => Installed host s.db u
  | .returned => Installed host s.db u

lemma Unchanged.setRebuild (h : Unchanged s u) (c : Rebuild) : Unchanged s (u.setRebuild i c) :=
  ⟨h.config, h.adapters, h.debouncer, h.clients, h.roots, h.state⟩

lemma Unchanged.construct (h : Unchanged s u) (item : Item) :
    Unchanged s (u.construct host item) :=
  ⟨h.config, h.adapters, h.debouncer, h.clients, h.roots, h.state⟩

lemma Tracked.nil {n : Nat} {closed : List Client} : Tracked host n [] closed := by
  intro k item hk
  rw [List.getElem?_nil] at hk
  cases hk

lemma Tracked.round {n : Nat} {past : List Item} {item : Item}
    (h : Tracked host n past s.closed) (hn : s.nextClient = n + past.length) (hb : Bounded s) :
    Tracked host n (past ++ [item]) (s.construct host item).closed := by
  have hnew : s.nextClient ∉ s.closed := fun hc => Nat.lt_irrefl _ (hb.closed _ hc)
  intro k x hk
  unfold construct
  simp only
  cases getElem?_snoc.1 hk with
  | inl hk =>
    rw [← h k x hk]
    have hne : n + k ≠ s.nextClient := by
      rw [hn]
      exact Nat.ne_of_lt (Nat.add_lt_add_left (lt_length hk) n)
    split
    · rfl
    · rw [List.mem_cons, or_iff_right hne]
  | inr hk =>
    obtain ⟨rfl, rfl⟩ := hk
    rw [← hn]
    split
    · next hc =>
      rw [hc]
      exact ⟨fun hmem => absurd hmem hnew, nofun⟩
    · next hc => exact ⟨fun _ => Bool.eq_false_iff.2 hc, fun _ => List.mem_cons_self⟩

/-- When the clients for these items are the ones that were built, the exception leaves none open
just if there was no adapter for any of them. -/
lemma atomic_iff {past rest : List Item} {config : RuntimeConfig} (hu : Unchanged s u)
    (hconfig : buildRuntimeConfig host.lower host.decrypt s.db = some config)
    (hitems : config.servers.entries = past ++ rest)
    (hn : u.nextClient = s.nextClient + past.length)
    (ht : Tracked host s.nextClient past u.closed) :
    FailureAtomic s u ↔ NoneKept host s u := by
  have htake : config.servers.entries.take (u.nextClient - s.nextClient) = past := by
    rw [hn, Nat.add_sub_cancel_left, hitems, List.take_left]
  constructor
  · rintro ⟨-, hclosed⟩ config' hconfig' item hitem
    cases hconfig.symm.trans hconfig'
    rw [htake] at hitem
    obtain ⟨k, hk⟩ := List.mem_iff_getElem?.1 hitem
    apply (ht k item hk).1
    apply hclosed _ (Nat.le_add_right _ _)
    rw [hn]
    exact Nat.add_lt_add_left (lt_length hk) _
  · intro hnone
    refine ⟨hu, fun client hle hlt => ?_⟩
    obtain ⟨k, rfl⟩ := Nat.exists_eq_add_of_le hle
    rw [hn] at hlt
    have hk := Nat.lt_of_add_lt_add_left hlt
    rw [ht k past[k] (List.getElem?_eq_getElem hk)]
    apply hnone config hconfig
    rw [htake]
    exact List.getElem_mem hk

/-- The engine while the call is the only one to go on. -/
structure Alone (host : Host) (s : Lifecycle) (i : Nat) (u : Lifecycle) : Prop where
  db : u.db = s.db
  fits : u.fits = s.fits
  wired : u.wired = true
  bounded : Bounded u
  call : ∃ c, u.rebuilds[i]? = some c ∧ AtCall host s u c

/-- The call has moved on. -/
lemma Alone.move {c c' : Rebuild} (h : Alone host s i u) (hi : u.rebuilds[i]? = some c)
    (hb : Bounded v) (hdb : v.db = u.db) (hfits : v.fits = u.fits) (hw : v.wired = u.wired)
    (hcalls : v.rebuilds = u.rebuilds.set i c') (hat : AtCall host s v c') : Alone host s i v := by
  refine ⟨hdb.trans h.db, hfits.trans h.fits, hw.trans h.wired, hb, c', ?_, hat⟩
  rw [hcalls, List.getElem?_set_self (lt_length hi)]

lemma Alone.platform (h : Alone host s i u) : u.platform host = s.platform host := by
  unfold Lifecycle.platform
  rw [h.fits]

lemma Alone.at (h : Alone host s i u) {c : Rebuild} (hi : u.rebuilds[i]? = some c) :
    AtCall host s u c := by
  obtain ⟨c', hi', hat⟩ := h.call
  cases hi.symm.trans hi'
  exact hat

/-- A read of the call is a read of the database as it was. -/
lemma Alone.read (h : Alone host s i u) {r : Reading} (hr : r.Of (s.platform host) s.db)
    {res : Reading ⊕ RuntimeConfig} (hread : readStep (u.platform host) u.db r = some res) :
    match res with
    | .inl r' => r'.Of (s.platform host) s.db
    | .inr config => buildRuntimeConfig host.lower host.decrypt s.db = some config := by
  rw [h.platform, h.db] at hread
  cases res with
  | inl r' => exact hr.step hread
  | inr config => exact hr.step hread

lemma Alone.rebuildCase (h : Alone host s i u) (hc : RebuildCase host u i v) : Alone host s i v := by
  have hb := h.bounded.rebuildCase hc
  cases hc with
  | refuse hi hw =>
    rw [h.wired] at hw
    cases hw
  | wait hi =>
    obtain ⟨hsame, hn⟩ := h.at hi
    exact h.move hi hb rfl rfl rfl rfl ⟨hsame.setRebuild _, hn⟩
  | lock hi =>
    obtain ⟨hsame, hn⟩ := h.at hi
    exact h.move hi hb rfl rfl rfl rfl
      ⟨hsame.setRebuild _, trivial, hn⟩
  | read r r' hi hread =>
    obtain ⟨hsame, hr, hn⟩ := h.at hi
    exact h.move hi hb rfl rfl rfl rfl
      ⟨hsame.setRebuild _, h.read hr hread, hn⟩
  | store r config hi hread =>
    obtain ⟨hsame, hr, hn⟩ := h.at hi
    exact h.move hi hb rfl rfl rfl rfl
      ⟨hsame.setRebuild _, h.read hr hread, [], rfl, .nil, hn, .nil⟩
  | round config item rest built hi =>
    obtain ⟨hsame, hconfig, past, hitems, hbuilt, hn, ht⟩ := h.at hi
    refine h.move hi hb rfl rfl rfl rfl
      ⟨(hsame.construct item).setRebuild _, hconfig, past ++ [item], ?_, hbuilt.round _ item, ?_,
        ht.round hn h.bounded⟩
    · rw [hitems, List.append_assoc]
      rfl
    · rw [List.length_append]
      exact congrArg (· + 1) hn
  | built config built hi =>
    obtain ⟨hsame, hconfig, past, hitems, hbuilt, hn, ht⟩ := h.at hi
    rw [List.append_nil] at hitems
    subst hitems
    exact h.move hi hb rfl rfl rfl rfl
      ⟨hsame.setRebuild _, hconfig, hbuilt, hn, ht⟩
  | gate config built g hi =>
    obtain ⟨hsame, hprogress⟩ := h.at hi
    exact h.move hi hb rfl rfl rfl rfl
      ⟨hsame.setRebuild _, hprogress⟩
  | swap config built ok hi =>
    obtain ⟨-, hconfig, hbuilt, -⟩ := h.at hi
    exact h.move hi hb rfl rfl rfl rfl ⟨config, hconfig, rfl, hbuilt⟩
  | close client rest hi =>
    obtain ⟨config, hinstalled⟩ := h.at hi
    exact h.move hi hb rfl rfl rfl rfl ⟨config, hinstalled⟩
  | finish hi =>
    obtain ⟨config, hinstalled⟩ := h.at hi
    exact h.move hi hb rfl rfl rfl rfl ⟨config, hinstalled⟩

/-- Whichever step raises, the clients that are left open are those with an adapter. -/
lemma Alone.raises (h : Alone host s i u) {p : Assembly}
    (hi : u.rebuilds[i]? = some (.assembling p)) : Alone host s i (u.setRebuild i .raised) := by
  have hb : Bounded (u.setRebuild i .raised) :=
    h.bounded.rebuild (c := .raised) (Nat.le_refl _) rfl rfl rfl h.bounded.closed h.bounded.clients
      nofun
  obtain ⟨hsame, hprogress⟩ := h.at hi
  have hsame' : Unchanged s (u.setRebuild i .raised) := hsame.setRebuild _
  refine h.move hi hb rfl rfl rfl rfl ⟨hsame', ?_⟩
  cases p with
  | reading r =>
    -- nothing has been built yet
    have hn : (u.setRebuild i .raised).nextClient = s.nextClient := hprogress.2
    constructor
    · intro _ config _ item hitem
      rw [hn, Nat.sub_self] at hitem
      cases hitem
    · intro _
      refine ⟨hsame', fun client hle hlt => ?_⟩
      rw [hn] at hlt
      exact absurd hle (Nat.not_le_of_lt hlt)
  | building config rest built =>
    obtain ⟨hconfig, past, hitems, -, hn, ht⟩ := hprogress
    exact atomic_iff hsame' hconfig hitems hn ht
  | gating config built g =>
    obtain ⟨hconfig, -, hn, ht⟩ := hprogress
    exact atomic_iff hsame' hconfig (List.append_nil _).symm hn ht

lemma Alone.step (h : Alone host s i u) (hg : Only i u a) (hs : step host u a = some v) :
    Alone host s i v := by
  cases step_cases hs with
  | rebuild j hc =>
    cases hg
    exact h.rebuildCase hc
  | rebuildRaises j p hi =>
    cases hg
    exact h.raises hi
  | _ => exact hg.elim

lemma Alone.start (hb : Bounded s) (hw : s.wired = true) (hi : s.rebuilds[i]? = some .pending) :
    Alone host s i s :=
  ⟨rfl, rfl, hw, hb, _, hi, ⟨rfl, rfl, rfl, rfl, rfl, rfl⟩, rfl⟩

/-- A rebuild that raises, in whatever state of a wired engine it was called, is failure-atomic just
if it has kept no client. -/
theorem failure_atomic_iff {db : Db} {fits : List Str → List Str → Bool} {park : Bool}
    (hs : Reach (step host) Free (init db fits park) s) (hw : s.wired = true)
    (hi : s.rebuilds[i]? = some .pending) (h : Reach (step host) (Only i) s s')
    (hr : s'.rebuilds[i]? = some .raised) : FailureAtomic s s' ↔ NoneKept host s s' := by
  have hb : Bounded s :=
    hs.invariant (bounded_init db fits park) fun hu _ hstep => hu.step hstep
  have hall : Alone host s i s' :=
    h.invariant (.start hb hw hi) fun hu hg hstep => hu.step hg hstep
  exact (hall.at hr).2

instance (i : Nat) (s : Lifecycle) : (a : Act) → Decidable (Only i s a)
  | .rebuild j => inferInstanceAs (Decidable (j = i))
  | .rebuildRaises j => inferInstanceAs (Decidable (j = i))
  | .start | .startRaises | .write _ | .limits _ | .request | .event _ | .submit | .fire _
  | .loopEnds | .close => isFalse id

/-- The database cannot be read. -/
theorem failure_atomic_iff_unread : ∃ s s',
    run (step healthy) (init Engine.plexDb roomy true) (startup ++ [.request]) = some s ∧
    run (step healthy) s [.rebuild 0, .rebuild 0, .rebuildRaises 0] = some s' ∧
    (FailureAtomic s s' ↔ NoneKept healthy s s') := by
  have h1 : run (guarded (step healthy) Free) (init Engine.plexDb roomy true)
      (startup ++ [.request]) = some _ := rfl
  have h2 := failure_atomic_iff (i := 0) (.of_run h1) rfl rfl (.of_run
    (show run (guarded (step healthy) (Only 0)) _
      [.rebuild 0, .rebuild 0, .rebuildRaises 0] = some _ from rfl)) rfl
  exact ⟨_, _, rfl, rfl, h2⟩

/-- The policy cannot be read, and the client that was built before stays open. -/
theorem failure_leaves_client : ¬ ∀ (host : Host) (db : Db) (fits : List Str → List Str → Bool)
    (park : Bool) (i : Nat) (s s' : Lifecycle), Reach (step host) Free (init db fits park) s →
      s.wired = true → s.rebuilds[i]? = some .pending → Reach (step host) (Only i) s s' →
      s'.rebuilds[i]? = some .raised → FailureAtomic s s' := by
  intro h
  have h1 : run (guarded (step healthy) Free) (init Engine.plexDb roomy true)
      (startup ++ [.request]) = some _ := rfl
  have h2 := h _ _ _ _ 0 _ _ (.of_run h1) rfl rfl (.of_run
    (show run (guarded (step healthy) (Only 0)) _
      (List.replicate 7 (.rebuild 0) ++ [.rebuildRaises 0]) = some _ from rfl)) rfl
  exact absurd (h2.2 1 (by decide) (by decide)) nofun

end Lifecycle
end MediaScanMonitor
