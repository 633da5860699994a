import MediaScanMonitor.Engine.Lifecycle
import MediaScanMonitor.Pipeline.Timers

/-!
# Shutdown

`aclose` takes no lock and sets no flag that the other coroutines would check. Every client has an
owner at any time, so all of them get closed as long as none is handed to the engine after `aclose`
has taken its list of clients, and no rebuild drops the ones it has built.
-/

namespace MediaScanMonitor
open Text Transition

/-- The clients that a coroutine has built and still has to hand over or to close. -/
def Assembly.held : Assembly → List Client
  | .reading _ => []
  | .building _ _ built => built.clients.map Prod.snd
  | .gating _ built _ => built.clients.map Prod.snd

/-- Once `start` has wired the pipeline, the clients are the engine's. -/
def Startup.held : Startup → List Client
  | .assembling (.building config rest built) => (Assembly.building config rest built).held
  | _ => []

def Rebuild.held : Rebuild → List Client
  | .assembling a => a.held
  | .closing clients => clients
  | _ => []

/-- What the call is about to install. -/
def Rebuild.installs : Rebuild → Option Built
  | .assembling (.gating _ built (.verdict _)) => some built
  | _ => none

/-- `start` has come to its loop. -/
def Startup.entered : Startup → Bool
  | .consuming _ => true
  | .ended => true
  | _ => false

/-- The timers have been cancelled. -/
def Closing.timersGone : Closing → Bool
  | .idle => false
  | .watcher => false
  | _ => true

/-- The clients to be closed are settled. -/
def Closing.clientsTaken : Closing → Bool
  | .clients _ => true
  | .returned => true
  | _ => false

namespace Lifecycle

/-- The runs in which `start` comes to its loop and `aclose` is called then. -/
def ClosedInLoop (s : Lifecycle) : Act → Prop
  | .startRaises => False
  | .close => s.aclose = .idle → s.start.entered = true
  | _ => True

/-- A step that `aclose` can cope with. A rebuild swaps before `aclose` goes through the clients, or
without clients before it has returned; it raises before it keeps a client. The loop arms no timer
after they have been cancelled and dispatches nothing after `aclose` has returned. -/
def Orderly (s : Lifecycle) : Act → Prop
  | .rebuild i =>
    ∀ built ∈ s.rebuilds[i]?.bind Rebuild.installs,
      s.aclose.clientsTaken = true → s.aclose ≠ .returned ∧ built.clients = []
  | .rebuildRaises i => ∀ c ∈ s.rebuilds[i]?, c.held = []
  | .submit =>
    ∀ req ∈ s.start.next,
      (s.aclose.timersGone = true → ¬ s.debouncer.Trailing req) ∧
      (s.aclose = .returned → s.adapters.lookup req.serverId = none)
  | _ => True

/-- After `aclose` has returned no trigger starts; and once the rebuilds have finished, the state is
`stopped`, all clients that were ever built are closed and no timer is armed. -/
def Final (s : Lifecycle) : Prop :=
  s.aclose = .returned → s.late = [] ∧
    ((∀ c ∈ s.rebuilds, c.finished = true) → s.state = .stopped ∧
      (∀ client < s.nextClient, client ∈ s.closed) ∧
      s.debouncer.Idle)

variable {host : Host} {s s' : Lifecycle} {a : Act} {i : Nat} {client : Client}

/-! ## The owners of the clients -/

/-- The client is closed, or somebody has it. -/
def Owned (s : Lifecycle) (client : Client) : Prop :=
  client ∈ s.closed ∨ client ∈ s.clients.map Prod.snd ∨ client ∈ s.start.held ∨
    ∃ c ∈ s.rebuilds, client ∈ c.held

/-- Every client that was ever built is owned. -/
def Accounted (s : Lifecycle) : Prop :=
  ∀ client < s.nextClient, Owned s client

lemma Accounted.of_owned (h : Accounted s) (hn : s'.nextClient = s.nextClient)
    (ho : ∀ client, Owned s client → Owned s' client) : Accounted s' := by
  intro client hc
  rw [hn] at hc
  exact ho client (h client hc)

/-- What a round of `_build_adapters` holds, and what it closes. -/
lemma mem_round {host : Host} {built : Built} {item : Item}
    (hc : client ∈ built.clients.map Prod.snd) :
    client ∈ (built.round host s.nextClient item).clients.map Prod.snd := by
  unfold Built.round
  split
  · rw [List.map_append]
    exact List.mem_append_left _ hc
  · exact hc

lemma round_new (s : Lifecycle) (host : Host) (built : Built) (item : Item) :
    s.nextClient ∈ (s.construct host item).closed ∨
      s.nextClient ∈ (built.round host s.nextClient item).clients.map Prod.snd := by
  unfold construct Built.round
  split
  · right
    rw [List.map_append]
    exact List.mem_append_right _ List.mem_cons_self
  · exact .inl List.mem_cons_self

lemma mem_construct {item : Item} (hc : client ∈ s.closed) :
    client ∈ (s.construct host item).closed := by
  unfold construct
  split
  · exact hc
  · exact List.mem_cons_of_mem _ hc

/-- A rebuild has moved on: its clients are where they were, or have another owner now. -/
lemma Owned.rebuild {c c' : Rebuild} (ho : Owned s client) (hi : s.rebuilds[i]? = some c)
    (hcalls : s'.rebuilds = s.rebuilds.set i c') (hstart : s'.start = s.start)
    (hclosed : client ∈ s.closed → client ∈ s'.closed)
    (hclients : client ∈ s.clients.map Prod.snd →
      client ∈ s'.clients.map Prod.snd ∨ client ∈ c'.held)
    (hheld : client ∈ c.held → client ∈ s'.closed ∨ client ∈ s'.clients.map Prod.snd ∨
      client ∈ c'.held) : Owned s' client := by
  have hnew : client ∈ c'.held → ∃ x ∈ s'.rebuilds, client ∈ x.held := by
    intro hc
    rw [hcalls]
    exact ⟨c', mem_set_self hi c', hc⟩
  rcases ho with hc | hc | hc | ⟨x, hx, hc⟩
  · exact .inl (hclosed hc)
  · cases hclients hc with
    | inl hc => exact .inr (.inl hc)
    | inr hc => exact .inr (.inr (.inr (hnew hc)))
  · rw [← hstart] at hc
    exact .inr (.inr (.inl hc))
  · rcases eq_or_mem_set hi hx with rfl | hx
    · rcases hheld hc with hc | hc | hc
      · exact .inl hc
      · exact .inr (.inl hc)
      · exact .inr (.inr (.inr (hnew hc)))
    · rw [← hcalls] at hx
      exact .inr (.inr (.inr ⟨x, hx, hc⟩))

lemma Accounted.rebuildCase (h : Accounted s) (hc : RebuildCase host s i s') : Accounted s' := by
  -- most steps leave the clients where they are
  have hkeep : ∀ {c c' : Rebuild}, s.rebuilds[i]? = some c → c.held = c'.held →
      Accounted (s.setRebuild i c') := by
    intro c c' hi hh
    apply Accounted.of_owned h
    · rfl
    · intro client ho
      exact ho.rebuild hi rfl rfl id .inl fun hc => .inr (.inr (hh ▸ hc))
  cases hc with
  | refuse hi => exact hkeep hi rfl
  | wait hi => exact hkeep hi rfl
  | lock hi => exact hkeep hi rfl
  | read r r' hi => exact hkeep hi rfl
  | store r config hi => exact hkeep hi rfl
  | built config built hi => exact hkeep hi rfl
  | gate config built g hi => exact hkeep hi rfl
  | finish hi => exact hkeep hi rfl
  | round config item rest built hi =>
    intro client hc
    cases Nat.lt_succ_iff_lt_or_eq.1 hc with
    | inl hlt =>
      exact (h client hlt).rebuild hi rfl rfl mem_construct .inl fun hc => .inr (.inr (mem_round hc))
    | inr heq =>
      subst heq
      cases round_new s host built item with
      | inl hc => exact .inl hc
      | inr hc => exact .inr (.inr (.inr ⟨_, mem_set_self hi _, hc⟩))
  | swap config built ok hi =>
    apply Accounted.of_owned h
    · rfl
    · intro client ho
      exact ho.rebuild hi rfl rfl id .inr fun hc => .inr (.inl hc)
  | close client rest hi =>
    apply Accounted.of_owned h
    · rfl
    · intro x ho
      refine ho.rebuild hi rfl rfl (List.mem_cons_of_mem _) .inl fun hc => ?_
      cases List.mem_cons.1 hc with
      | inl hc => exact .inl (List.mem_cons.2 (.inl hc))
      | inr hc => exact .inr (.inr hc)

lemma Owned.start (ho : Owned s client) (hcalls : s'.rebuilds = s.rebuilds)
    (hclosed : client ∈ s.closed → client ∈ s'.closed)
    (hclients : client ∈ s.clients.map Prod.snd → client ∈ s'.clients.map Prod.snd)
    (hheld : client ∈ s.start.held → client ∈ s'.clients.map Prod.snd ∨ client ∈ s'.start.held) :
    Owned s' client := by
  rcases ho with hc | hc | hc | hc
  · exact .inl (hclosed hc)
  · exact .inr (.inl (hclients hc))
  · cases hheld hc with
    | inl hc => exact .inr (.inl hc)
    | inr hc => exact .inr (.inr (.inl hc))
  · rw [← hcalls] at hc
    exact .inr (.inr (.inr hc))

lemma Accounted.startCase (h : Accounted s) (hb : Booted s) (hc : StartCase host s s') :
    Accounted s' := by
  have hkeep : ∀ {t : Lifecycle}, t.rebuilds = s.rebuilds → t.nextClient = s.nextClient →
      t.closed = s.closed → t.clients = s.clients → (∀ x, x ∈ s.start.held → x ∈ t.start.held) →
      Accounted t := by
    intro t hcalls hn hclosed hclients hheld
    apply h.of_owned hn
    intro client ho
    apply ho.start hcalls
    · rw [hclosed]
      exact id
    · rw [hclients]
      exact id
    · exact fun hc => .inr (hheld client hc)
  cases hc with
  | begin hs => exact hkeep rfl rfl rfl rfl (by rw [hs]; exact nofun)
  | read r r' hs => exact hkeep rfl rfl rfl rfl (by rw [hs]; exact nofun)
  | store r config hs => exact hkeep rfl rfl rfl rfl (by rw [hs]; exact nofun)
  | gate config built g hs => exact hkeep rfl rfl rfl rfl (by rw [hs]; exact nofun)
  | enter config built ok hs =>
    unfold Lifecycle.enter
    split
    · exact hkeep rfl rfl rfl rfl (by rw [hs]; exact nofun)
    · exact hkeep rfl rfl rfl rfl (by rw [hs]; exact nofun)
  | round config item rest built hs =>
    intro client hc
    cases Nat.lt_succ_iff_lt_or_eq.1 hc with
    | inl hlt =>
      refine (h client hlt).start rfl mem_construct id fun hc => ?_
      rw [hs] at hc
      exact .inr (mem_round hc)
    | inr heq =>
      subst heq
      cases round_new s host built item with
      | inl hc => exact .inl hc
      | inr hc => exact .inr (.inr (.inl hc))
  | wire config built hs =>
    apply Accounted.of_owned h
    · rfl
    · intro client ho
      refine ho.start rfl id (fun hc => ?_) fun hc => ?_
      · rw [hb.clients (hb.early (by rw [hs]; rfl))] at hc
        cases hc
      · rw [hs] at hc
        exact .inl hc

/-! ## The shutdown -/

/-- What `aclose` has reached, and the owners of the clients. -/
structure Ending (s : Lifecycle) : Prop where
  booted : Booted s
  accounted : Accounted s
  entered : s.aclose ≠ .idle → s.start.entered = true
  taken : ∀ {rest}, s.aclose = .clients rest → ∀ x ∈ s.clients, x.2 ∈ s.closed ∨ x.2 ∈ rest
  returned : s.aclose = .returned → s.clients = [] ∧ s.state = .stopped
  timers : s.aclose.timersGone = true → s.debouncer.Idle
  late : s.late = []

lemma ending_init (db : Db) (fits : List Str → List Str → Bool) (park : Bool) :
    Ending (init db fits park) :=
  ⟨booted_init db fits park, fun _ hc => absurd hc (Nat.not_lt_zero _), fun hn => absurd rfl hn,
    nofun, nofun, nofun, rfl⟩

/-- Before `aclose` is called only the owners matter. -/
lemma Ending.of_idle (hi : s'.aclose = .idle) (hb : Booted s') (ha : Accounted s')
    (hl : s'.late = []) : Ending s' := by
  refine ⟨hb, ha, fun hn => absurd hi hn, ?_, ?_, ?_, hl⟩
  · intro rest hr
    rw [hi] at hr
    cases hr
  · intro hr
    rw [hi] at hr
    cases hr
  · intro ht
    rw [hi] at ht
    cases ht

/-- `start` is in its loop when `aclose` is called, and takes no more steps. -/
lemma Ending.idle_of_start (h : Ending s) (hp : s.start.entered = false) : s.aclose = .idle := by
  apply Classical.byContradiction
  intro hn
  rw [h.entered hn] at hp
  cases hp

lemma StartCase.not_entered (hc : StartCase host s s') : s.start.entered = false := by
  cases hc with
  | begin hs => rw [hs]; rfl
  | read r r' hs => rw [hs]; rfl
  | store r config hs => rw [hs]; rfl
  | round config item rest built hs => rw [hs]; rfl
  | wire config built hs => rw [hs]; rfl
  | gate config built g hs => rw [hs]; rfl
  | enter config built ok hs => rw [hs]; rfl

lemma StartCase.frame (hc : StartCase host s s') : s'.aclose = s.aclose ∧ s'.late = s.late := by
  cases hc with
  | enter config built ok hs =>
    unfold Lifecycle.enter
    split
    · exact ⟨rfl, rfl⟩
    · exact ⟨rfl, rfl⟩
  | _ => exact ⟨rfl, rfl⟩

lemma Ending.startCase (h : Ending s) (hc : StartCase host s s') : Ending s' := by
  obtain ⟨haclose, hlate⟩ := hc.frame
  have hidle := h.idle_of_start hc.not_entered
  exact .of_idle (haclose.trans hidle) (h.booted.startCase hc) (h.accounted.startCase h.booted hc)
    (hlate.trans h.late)

/-- A step that neither `aclose` takes nor changes what it has done. -/
lemma Ending.move (h : Ending s) (hb : Booted s') (ha : Accounted s') (haclose : s'.aclose = s.aclose)
    (hentered : s.start.entered = true → s'.start.entered = true) (hclients : s'.clients = s.clients)
    (hstate : s'.state = s.state) (hclosed : ∀ x ∈ s.closed, x ∈ s'.closed)
    (hidle : s.aclose.timersGone = true → s.debouncer.Idle → s'.debouncer.Idle)
    (hlate : s'.late = s.late) : Ending s' := by
  refine ⟨hb, ha, ?_, ?_, ?_, ?_, hlate.trans h.late⟩
  · rw [haclose]
    exact fun hn => hentered (h.entered hn)
  · rw [haclose, hclients]
    intro rest hr x hx
    cases h.taken hr x hx with
    | inl hc => exact .inl (hclosed _ hc)
    | inr hc => exact .inr hc
  · rw [haclose, hclients, hstate]
    exact h.returned
  · rw [haclose]
    exact fun ht => hidle ht (h.timers ht)

lemma Ending.rebuildCase (h : Ending s) (hg : Orderly s (.rebuild i)) (hc : RebuildCase host s i s') :
    Ending s' := by
  have hb := h.booted.rebuildCase hc
  have ha := h.accounted.rebuildCase hc
  cases hc with
  | swap config built ok hi =>
    have hguard := hg built (by rw [hi]; rfl)
    refine ⟨hb, ha, h.entered, ?_, ?_, fun ht => (h.timers ht).updateServers _, h.late⟩
    · intro rest hr x hx
      obtain ⟨-, hnone⟩ := hguard (by rw [show s.aclose = .clients rest from hr]; rfl)
      have hx : x ∈ built.clients := hx
      rw [hnone] at hx
      cases hx
    · intro hr
      obtain ⟨hne, -⟩ := hguard (by rw [show s.aclose = .returned from hr]; rfl)
      exact absurd hr hne
  | close client rest hi =>
    exact h.move hb ha rfl id rfl rfl (fun x => List.mem_cons_of_mem _) (fun _ => id) rfl
  | round config item rest built hi =>
    exact h.move hb ha rfl id rfl rfl (fun x => mem_construct) (fun _ => id) rfl
  | _ => exact h.move hb ha rfl id rfl rfl (fun x => id) (fun _ => id) rfl

/-- A step that does not touch the clients. -/
lemma Accounted.same (h : Accounted s) (hn : s'.nextClient = s.nextClient)
    (hclosed : s'.closed = s.closed) (hclients : s'.clients = s.clients)
    (hheld : ∀ x, x ∈ s.start.held → x ∈ s'.start.held)
    (hcalls : ∀ c ∈ s.rebuilds, c ∈ s'.rebuilds ∨ c.held = []) : Accounted s' := by
  apply h.of_owned hn
  rintro client (hc | hc | hc | ⟨c, hmem, hc⟩)
  · exact .inl (hclosed ▸ hc)
  · exact .inr (.inl (hclients ▸ hc))
  · exact .inr (.inr (.inl (hheld client hc)))
  · cases hcalls c hmem with
    | inl hmem => exact .inr (.inr (.inr ⟨c, hmem, hc⟩))
    | inr hnone =>
      rw [hnone] at hc
      cases hc

lemma Ending.closeCase (h : Ending s) (hu : ClosedInLoop s .close) (hc : CloseCase s s')
    (hb : Booted s') : Ending s' := by
  have hentered : s.start.entered = true := by
    by_cases hi : s.aclose = .idle
    · exact hu hi
    · exact h.entered hi
  cases hc with
  | watcher hs =>
    exact ⟨hb, h.accounted, fun _ => hentered, nofun, nofun, nofun, h.late⟩
  | debouncer hs =>
    exact ⟨hb, h.accounted, fun _ => hentered, nofun, nofun, fun _ => Debouncer.idle_close, h.late⟩
  | clients hs =>
    refine ⟨hb, h.accounted, fun _ => hentered, ?_, nofun, fun _ => h.timers (by rw [hs]; rfl),
      h.late⟩
    intro rest hr x hx
    cases hr
    exact .inr (List.mem_map_of_mem hx)
  | client client rest hs =>
    refine ⟨hb, ?_, fun _ => hentered, ?_, nofun, fun _ => h.timers (by rw [hs]; rfl), h.late⟩
    · apply Accounted.of_owned h.accounted
      · rfl
      · intro x ho
        exact ho.start rfl (List.mem_cons_of_mem _) id .inr
    · intro rest' hr x hx
      cases hr
      rcases h.taken hs x hx with hc | hc
      · exact .inl (List.mem_cons_of_mem _ hc)
      · cases List.mem_cons.1 hc with
        | inl hc => exact .inl (List.mem_cons.2 (.inl hc))
        | inr hc => exact .inr hc
  | finish hs =>
    refine ⟨hb, ?_, fun _ => hentered, nofun, fun _ => ⟨rfl, rfl⟩,
      fun _ => h.timers (by rw [hs]; rfl), h.late⟩
    -- all clients that the engine still has are closed
    apply Accounted.of_owned h.accounted
    · rfl
    · rintro client (hc | hc | hc | hc)
      · exact .inl hc
      · obtain ⟨x, hx, rfl⟩ := List.mem_map.1 hc
        cases h.taken hs x hx with
        | inl hc => exact .inl hc
        | inr hc => cases hc
      · exact .inr (.inr (.inl hc))
      · exact .inr (.inr (.inr hc))

lemma Ending.submit (h : Ending s) {req : ScanRequest} {rest : List ScanRequest}
    (hs : s.start = .consuming (req :: rest)) (hg : Orderly s .submit)
    (hb : Booted s') (heq : s' = (s.debouncer.submit req).2.foldl dispatch
      { s with debouncer := (s.debouncer.submit req).1, start := .consuming rest }) : Ending s' := by
  obtain ⟨late, hd, hlate⟩ := foldl_dispatch (s.debouncer.submit req).2
    { s with debouncer := (s.debouncer.submit req).1, start := .consuming rest }
  rw [hd] at heq
  subst heq
  obtain ⟨htimers, hadapter⟩ := hg req (by rw [hs]; rfl)
  have ha : Accounted { s with
      debouncer := (s.debouncer.submit req).1, start := .consuming rest, late := late } := by
    refine h.accounted.same rfl rfl rfl ?_ fun c hc => .inl hc
    rw [hs]
    exact fun x hx => hx
  apply h.move hb ha rfl (fun _ => rfl) rfl rfl (fun _ => id)
  · intro ht hidle
    show (s.debouncer.submit req).1.Idle
    rw [Debouncer.submit_of_not_trailing (htimers ht)]
    exact hidle
  · apply hlate
    by_cases hr : s.aclose = .returned
    · right
      intro r hmem
      have hout : (s.debouncer.submit req).2 = [req] := by
        rw [Debouncer.submit_of_not_trailing (htimers (by rw [hr]; rfl))]
      rw [hout] at hmem
      rw [List.mem_singleton.1 hmem]
      exact hadapter hr
    · exact .inl hr

lemma Ending.fire (h : Ending s) {task : Nat} {d : Debouncer} {out : List ScanRequest}
    (hf : s.debouncer.fireAfter task = some (d, out)) (hb : Booted s')
    (heq : s' = out.foldl dispatch { s with debouncer := d }) : Ending s' := by
  obtain ⟨late, hd, hlate⟩ := foldl_dispatch out { s with debouncer := d }
  rw [hd] at heq
  subst heq
  have ha : Accounted { s with debouncer := d, late := late } :=
    h.accounted.same rfl rfl rfl (fun _ => id) fun c hc => .inl hc
  apply h.move hb ha rfl id rfl rfl (fun _ => id)
  · exact fun _ hidle => (hidle.fireAfter hf).1
  · apply hlate
    by_cases hr : s.aclose = .returned
    · right
      have hidle := h.timers (by rw [hr]; rfl)
      rw [(hidle.fireAfter hf).2]
      exact fun r hmem => (by cases hmem)
    · exact .inl hr

lemma Ending.step (h : Ending s) (hs : step host s a = some s') (hu : ClosedInLoop s a)
    (hg : Orderly s a) : Ending s' := by
  have hb := h.booted.step hs
  cases step_cases hs with
  | start hc => exact h.startCase hc
  | startRaises => exact hu.elim
  | write =>
    have ha := h.accounted
    exact h.move hb ha rfl id rfl rfl (fun _ => id) (fun _ => id) rfl
  | limits =>
    have ha := h.accounted
    exact h.move hb ha rfl id rfl rfl (fun _ => id) (fun _ => id) rfl
  | request =>
    apply h.move hb _ rfl id rfl rfl (fun _ => id) (fun _ => id) rfl
    exact h.accounted.same rfl rfl rfl (fun _ => id) fun c hc => .inl (List.mem_append_left _ hc)
  | rebuild i hc => exact h.rebuildCase hg hc
  | rebuildRaises i p hi =>
    have hnone := hg _ hi
    apply h.move hb _ rfl id rfl rfl (fun _ => id) (fun _ => id) rfl
    refine h.accounted.same rfl rfl rfl (fun _ => id) fun c hc => ?_
    rcases eq_or_mem_set hi hc with rfl | hc
    · exact .inr hnone
    · exact .inl hc
  | event e inbox hp =>
    apply h.move hb _ rfl (fun _ => rfl) rfl rfl (fun _ => id) (fun _ => id) rfl
    refine h.accounted.same rfl rfl rfl ?_ fun c hc => .inl hc
    rw [hp]
    exact fun x hx => hx
  | submit req rest hp => exact h.submit hp hg hb rfl
  | fire task d out hf => exact h.fire hf hb rfl
  | loopEnds inbox hp =>
    apply h.move hb _ rfl (fun _ => rfl) rfl rfl (fun _ => id) (fun _ => id) rfl
    refine h.accounted.same rfl rfl rfl ?_ fun c hc => .inl hc
    rw [hp]
    exact fun x hx => hx
  | close hc => exact h.closeCase hu hc hb

/-- What a finished call holds is nothing. -/
lemma held_of_finished {c : Rebuild} (hc : c.finished = true) : c.held = [] := by
  cases c with
  | returned => rfl
  | raised => rfl
  | _ => cases hc

lemma held_of_entered {p : Startup} (hp : p.entered = true) : p.held = [] := by
  cases p with
  | consuming inbox => rfl
  | ended => rfl
  | _ => cases hp

lemma Ending.final (h : Ending s) : Final s := by
  intro hr
  obtain ⟨hclients, hstate⟩ := h.returned hr
  refine ⟨h.late, fun hfin => ⟨hstate, fun client hc => ?_, h.timers (by rw [hr]; rfl)⟩⟩
  rcases h.accounted client hc with hc | hc | hc | ⟨c, hmem, hc⟩
  · exact hc
  · rw [hclients] at hc
    cases hc
  · rw [held_of_entered (h.entered (by rw [hr]; exact nofun))] at hc
    cases hc
  · rw [held_of_finished (hfin c hmem)] at hc
    cases hc

/-- If `aclose` is called while the loop is there and can cope with all steps, it is final. -/
theorem shutdown_final {db : Db} {fits : List Str → List Str → Bool} {park : Bool}
    (h : Reach (step host) (fun s a => ClosedInLoop s a ∧ Orderly s a) (init db fits park) s) :
    Final s := by
  apply Ending.final
  apply h.invariant (ending_init db fits park)
  intro u a v hu hg hs
  exact hu.step hs hg.1 hg.2

instance (s : Lifecycle) : (a : Act) → Decidable (ClosedInLoop s a)
  | .startRaises => isFalse id
  | .close => inferInstanceAs (Decidable (s.aclose = .idle → s.start.entered = true))
  | .start | .write _ | .limits _ | .request | .rebuild _ | .rebuildRaises _ | .event _ | .submit
  | .fire _ | .loopEnds => isTrue trivial

instance (s : Lifecycle) : (a : Act) → Decidable (Orderly s a)
  | .rebuild i => inferInstanceAs (Decidable (∀ built ∈ s.rebuilds[i]?.bind Rebuild.installs,
      s.aclose.clientsTaken = true → s.aclose ≠ .returned ∧ built.clients = []))
  | .rebuildRaises i => inferInstanceAs (Decidable (∀ c ∈ s.rebuilds[i]?, c.held = []))
  | .submit => inferInstanceAs (Decidable (∀ req ∈ s.start.next,
      (s.aclose.timersGone = true → ¬ s.debouncer.Trailing req) ∧
      (s.aclose = .returned → s.adapters.lookup req.serverId = none)))
  | .start | .startRaises | .write _ | .limits _ | .request | .event _ | .fire _ | .loopEnds
  | .close => isTrue trivial

/-- A file is created, the database is emptied and rebuilt from, and the engine is closed. -/
def tidyRun : List Act :=
  startup ++ .event ⟨"/m/x/e.mkv".toList, .created, false⟩ :: .submit :: .request ::
    List.replicate 12 (.rebuild 0) ++ List.replicate 5 .close ++ [.fire 0, .loopEnds]

theorem shutdown_final_tidy : ∃ s, run (step healthy) (init Engine.plexDb roomy true) tidyRun =
    some s ∧ s.aclose = .returned ∧ Final s := by
  have h : run (guarded (step healthy) fun s a => ClosedInLoop s a ∧ Orderly s a)
      (init Engine.plexDb roomy true) tidyRun = some _ := rfl
  exact ⟨_, rfl, rfl, shutdown_final (.of_run h)⟩

/-- A rebuild has passed the gate when the engine is closed, and swaps afterwards. -/
def lateSwap : List Act :=
  startup ++ .request :: List.replicate 9 (.rebuild 0) ++ List.replicate 5 .close ++
    [.rebuild 0, .rebuild 0]

theorem shutdown_not_final : ¬ ∀ (host : Host) (db : Db) (fits : List Str → List Str → Bool)
    (park : Bool) (s : Lifecycle), Reach (step host) ClosedInLoop (init db fits park) s →
      Final s := by
  intro h
  have hrun : run (guarded (step healthy) ClosedInLoop) (init Engine.plexDb roomy true) lateSwap =
      some _ := rfl
  obtain ⟨-, hfin⟩ := h _ _ _ _ _ (.of_run hrun) rfl
  exact absurd (hfin (by decide)).1 nofun

end Lifecycle
end MediaScanMonitor
