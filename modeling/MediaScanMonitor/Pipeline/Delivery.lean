import MediaScanMonitor.Lib.History
import MediaScanMonitor.Lib.Transition
import MediaScanMonitor.Pipeline.Timers

/-!
# Delivery

Whole runs of the debouncer, with a log of what can be seen of it: requests come in, tasks fire,
policies are swapped, and it is closed, in any order. The number of a timer task names the request
it was armed for, and the log tells what became of each.
-/

namespace MediaScanMonitor
open Text Transition History

/-- What can be seen of the debouncer. -/
inductive Delivery
  /-- A request was submitted and waits; the task was armed for it. -/
  | armed (task : Nat) (req : ScanRequest)
  /-- A request was submitted and its dispatch started at once. -/
  | immediate (req : ScanRequest)
  /-- The task started the dispatch of its request. -/
  | fired (task : Nat) (req : ScanRequest)
  | updated (servers : AList fun _ : Nat => ServerRuntime)
  | closed

/-- A debouncer with its log. -/
structure Session where
  debouncer : Debouncer
  log : List Delivery

namespace Session

inductive Act
  | submit (req : ScanRequest)
  /-- A task whose window has elapsed, or that was cancelled, is resumed. -/
  | fire (task : Nat)
  | update (servers : AList fun _ : Nat => ServerRuntime)
  | close

def start (servers : AList fun _ : Nat => ServerRuntime) : Session :=
  ⟨.init servers, []⟩

def step (s : Session) : Act → Option Session
  | .submit req =>
    let r := s.debouncer.submit req
    some ⟨r.1, s.log ++ [if r.2 = [] then .armed s.debouncer.nextTask req else .immediate req]⟩
  | .fire task =>
    (s.debouncer.fireAfter task).map fun r => ⟨r.1, s.log ++ r.2.map (.fired task)⟩
  | .update servers => some ⟨s.debouncer.updateServers servers, s.log ++ [.updated servers]⟩
  | .close => some ⟨s.debouncer.close, s.log ++ [.closed]⟩

end Session

/-- A later request of the same key that waits. -/
def Delivery.Supersedes (req : ScanRequest) : Delivery → Prop
  | .armed _ r => r.key = req.key
  | _ => False

/-- A swap to policies without the server. -/
def Delivery.Drops (serverId : Nat) : Delivery → Prop
  | .updated servers => serverId ∉ servers
  | _ => False

/-- A swap to policies with the server. -/
def Delivery.Brings (serverId : Nat) : Delivery → Prop
  | .updated servers => serverId ∈ servers
  | _ => False

/-- What ends the wait of a request: its dispatch, a later request, a swap, or the close. -/
def Delivery.Ends (task : Nat) (req : ScanRequest) (e : Delivery) : Prop :=
  e = .fired task req ∨ e.Supersedes req ∨ e.Drops req.serverId ∨ e = .closed

namespace Session

/-- The dict of timers holds, under each key, the armed and uncancelled task of that key. -/
def TimersExact (d : Debouncer) : Prop :=
  ∀ key task, d.timers.lookup key = some task ↔
    ∃ timer, d.tasks.lookup task = some timer ∧ timer.key = key ∧ timer.cancelled = false

/-- A task is armed once and fires at most once, and then no later request of its key had come. -/
def FiresOnce (log : List Delivery) : Prop :=
  (∀ (i j task : Nat) (req req' : ScanRequest), log[i]? = some (.armed task req) →
    log[j]? = some (.armed task req') → i = j) ∧
  (∀ (i j task : Nat) (req req' : ScanRequest), log[i]? = some (.fired task req) →
    log[j]? = some (.fired task req') → i = j) ∧
  ∀ (j task : Nat) (req : ScanRequest), log[j]? = some (.fired task req) →
    ∃ i, i < j ∧ log[i]? = some (.armed task req) ∧ ¬ Between (Delivery.Supersedes req) log i j

/-- Each request that waited was dispatched, superseded, dropped or closed away, or is armed. -/
def NothingLost (s : Session) : Prop :=
  ∀ i task req, s.log[i]? = some (.armed task req) →
    After (· = .fired task req) s.log i ∨ After (Delivery.Supersedes req) s.log i ∨
    After (Delivery.Drops req.serverId) s.log i ∨ After (· = .closed) s.log i ∨
    s.debouncer.timers.lookup req.key = some task ∧ s.debouncer.Pending task req

/-- Between a swap that drops a server and a timer dispatch for it is a swap that has it again. -/
def GoneSilent (log : List Delivery) : Prop :=
  ∀ i j servers task req, i < j → log[i]? = some (.updated servers) → req.serverId ∉ servers →
    log[j]? = some (.fired task req) → Between (Delivery.Brings req.serverId) log i j

variable {s s' : Session} {a : Act} {e : Delivery} {task x : Nat} {req r : ScanRequest}
  {servers : AList fun _ : Nat => ServerRuntime}

/-! ## Steps -/

/-- What an event does to the tasks that are pending, and when it can happen. -/
structure Logs (s s' : Session) (e : Delivery) : Prop where
  log : s'.log = s.log ++ [e]
  exact : s'.debouncer.Exact
  pending : ∀ x r, s'.debouncer.Pending x r ↔ e = .armed x r ∨ ¬ e.Ends x r ∧ s.debouncer.Pending x r
  older : s.debouncer.nextTask ≤ s'.debouncer.nextTask
  armed : ∀ {x r}, e = .armed x r → x = s.debouncer.nextTask ∧ x < s'.debouncer.nextTask ∧
    r.serverId ∈ s.debouncer.servers
  fired : ∀ {x r}, e = .fired x r → s.debouncer.Pending x r
  servers : ∀ id, id ∈ s'.debouncer.servers ↔
    e.Brings id ∨ ¬ e.Drops id ∧ id ∈ s.debouncer.servers

/-- A step without an event. -/
structure Quiet (s s' : Session) : Prop where
  log : s'.log = s.log
  exact : s'.debouncer.Exact
  pending : ∀ x r, s'.debouncer.Pending x r ↔ s.debouncer.Pending x r
  nextTask : s'.debouncer.nextTask = s.debouncer.nextTask
  servers : s'.debouncer.servers = s.debouncer.servers

lemma mem_of_trailing {d : Debouncer} (h : d.Trailing req) : req.serverId ∈ d.servers := by
  obtain ⟨server, hl, -⟩ := h
  exact AList.lookup_isSome.1 (by rw [hl]; rfl)

/-- A submit is logged with the way its request goes. -/
lemma submit_cases (h : s.debouncer.Exact) (hs : s.step (.submit req) = some s') :
    (¬ s.debouncer.Trailing req ∧ Logs s s' (.immediate req)) ∨
      s.debouncer.Trailing req ∧ Logs s s' (.armed s.debouncer.nextTask req) := by
  by_cases ht : s.debouncer.Trailing req
  · right
    obtain ⟨hout, htakes⟩ := h.submit ht
    have hlog : s' = ⟨(s.debouncer.submit req).1, s.log ++ [.armed s.debouncer.nextTask req]⟩ := by
      rw [← Option.some.inj hs, hout]
      rfl
    subst hlog
    refine ⟨ht, rfl, htakes.exact, fun x r => ?_, by rw [htakes.nextTask]; omega, ?_, nofun, ?_⟩
    · rw [htakes.pending]
      constructor
      · rintro (⟨rfl, rfl⟩ | ⟨hne, hp⟩)
        · exact .inl rfl
        · refine .inr ⟨?_, hp⟩
          rintro (he | he | he | he)
          · cases he
          · exact hne he.symm
          · exact he
          · cases he
      · rintro (he | ⟨hn, hp⟩)
        · cases he
          exact .inl ⟨rfl, rfl⟩
        · exact .inr ⟨fun e => hn (.inr (.inl e.symm)), hp⟩
    · intro x r he
      cases he
      exact ⟨rfl, by rw [htakes.nextTask]; omega, mem_of_trailing ht⟩
    · intro id
      rw [htakes.servers]
      exact ⟨fun hid => .inr ⟨False.elim, hid⟩, fun hid => hid.elim False.elim And.right⟩
  · left
    have hlog : s' = ⟨s.debouncer, s.log ++ [.immediate req]⟩ := by
      rw [← Option.some.inj hs, Debouncer.submit_of_not_trailing ht]
      rfl
    subst hlog
    refine ⟨ht, rfl, h, fun x r => ?_, Nat.le_refl _, nofun, nofun, fun id => ?_⟩
    · constructor
      · intro hp
        refine .inr ⟨?_, hp⟩
        rintro (he | he | he | he)
        · cases he
        · exact he
        · exact he
        · cases he
      · rintro (he | ⟨-, hp⟩)
        · cases he
        · exact hp
    · exact ⟨fun hid => .inr ⟨nofun, hid⟩, fun hid => hid.elim False.elim And.right⟩

/-- A resumed task fires, or nothing is to be seen. -/
lemma fire_cases (h : s.debouncer.Exact) (hs : s.step (.fire task) = some s') :
    Quiet s s' ∨ ∃ req, Logs s s' (.fired task req) := by
  obtain ⟨⟨d, out⟩, hf, rfl⟩ := Option.map_eq_some_iff.1 hs
  obtain ⟨hservers, hn, hexact, hpend, hout⟩ := h.fireAfter hf
  cases hout with
  | inl hout =>
    obtain ⟨req, rfl, hp⟩ := hout
    refine .inr ⟨req, rfl, hexact, fun x r => (hpend x r).trans ?_, Nat.le_of_eq hn.symm, nofun, ?_,
      fun id => ?_⟩
    · constructor
      · rintro ⟨hx, hr⟩
        refine .inr ⟨?_, hr⟩
        rintro (he | he | he | he)
        · cases he
          exact hx rfl
        · exact he
        · exact he
        · cases he
      · rintro (he | ⟨hn, hr⟩)
        · cases he
        · refine ⟨?_, hr⟩
          rintro rfl
          exact hn (.inl (by rw [hp.unique hr]))
    · intro x r he
      cases he
      exact hp
    · rw [hservers]
      exact ⟨fun hid => .inr ⟨False.elim, hid⟩, fun hid => hid.elim False.elim And.right⟩
  | inr hout =>
    obtain ⟨rfl, hnot⟩ := hout
    refine .inl ⟨List.append_nil _, hexact, fun x r => (hpend x r).trans ?_, hn, hservers⟩
    constructor
    · exact And.right
    · intro hr
      refine ⟨?_, hr⟩
      rintro rfl
      exact hnot r hr

lemma update_logs (h : s.debouncer.Exact) (servers : AList fun _ : Nat => ServerRuntime) :
    Logs s ⟨s.debouncer.updateServers servers, s.log ++ [.updated servers]⟩ (.updated servers) := by
  obtain ⟨hn, hexact, hpend⟩ := h.updateServers servers
  refine ⟨rfl, hexact, fun x r => (hpend x r).trans ?_, Nat.le_of_eq hn.symm, nofun, nofun,
    fun id => ?_⟩
  · constructor
    · rintro ⟨hmem, hr⟩
      refine .inr ⟨?_, hr⟩
      rintro (he | he | he | he)
      · cases he
      · exact he
      · exact he hmem
      · cases he
    · rintro (he | ⟨hn, hr⟩)
      · cases he
      · exact ⟨Classical.byContradiction fun hgone => hn (.inr (.inr (.inl hgone))), hr⟩
  · show id ∈ (s.debouncer.updateServers servers).servers ↔ _
    rw [Debouncer.updateServers_servers]
    constructor
    · exact .inl
    · rintro (hid | ⟨hid, -⟩)
      · exact hid
      · exact Classical.byContradiction hid

lemma close_logs (h : s.debouncer.Exact) :
    Logs s ⟨s.debouncer.close, s.log ++ [.closed]⟩ .closed := by
  obtain ⟨hservers, hn, hexact, hpend⟩ := h.close
  refine ⟨rfl, hexact, fun x r => (hpend x r).trans ?_, Nat.le_of_eq hn.symm, nofun, nofun,
    fun id => ?_⟩
  · constructor
    · rintro ⟨hfalse, -⟩
      exact hfalse.elim
    · rintro (he | ⟨hn, -⟩)
      · cases he
      · exact absurd (.inr (.inr (.inr rfl))) hn
  · show id ∈ s.debouncer.close.servers ↔ _
    rw [hservers]
    exact ⟨fun hid => .inr ⟨False.elim, hid⟩, fun hid => hid.elim False.elim And.right⟩

/-- Every step logs one event, or none and nothing changes. -/
lemma step_cases (h : s.debouncer.Exact) (hs : s.step a = some s') :
    Quiet s s' ∨ ∃ e, Logs s s' e := by
  cases a with
  | submit req =>
    cases submit_cases h hs with
    | inl hs => exact .inr ⟨_, hs.2⟩
    | inr hs => exact .inr ⟨_, hs.2⟩
  | fire task =>
    cases fire_cases h hs with
    | inl hs => exact .inl hs
    | inr hs =>
      obtain ⟨req, hs⟩ := hs
      exact .inr ⟨_, hs⟩
  | update servers =>
    cases hs
    exact .inr ⟨_, update_logs h servers⟩
  | close =>
    cases hs
    exact .inr ⟨_, close_logs h⟩

/-! ## The log -/

/-- The log agrees with the tasks. -/
structure Agrees (s : Session) : Prop where
  exact : s.debouncer.Exact
  fresh : ∀ {i x : Nat} {r : ScanRequest}, s.log[i]? = some (.armed x r) → x < s.debouncer.nextTask
  once : ∀ {i j x : Nat} {r r' : ScanRequest}, s.log[i]? = some (.armed x r) →
    s.log[j]? = some (.armed x r') → i = j
  /-- A task is pending as long as nothing has ended the wait of its request. -/
  live : ∀ x r, s.debouncer.Pending x r ↔ Open (Delivery.Ends x r) (.armed x r) s.log
  /-- A task fires only while its request waits. -/
  fired : ∀ {j x : Nat} {r : ScanRequest}, s.log[j]? = some (.fired x r) →
    ∃ i, i < j ∧ s.log[i]? = some (.armed x r) ∧ ¬ Between (Delivery.Ends x r) s.log i j
  /-- A server that was dropped and is back was brought back. -/
  back : ∀ {i : Nat} {e : Delivery} {id : Nat}, s.log[i]? = some e → e.Drops id →
    id ∈ s.debouncer.servers → After (Delivery.Brings id) s.log i
  /-- Requests wait only for servers that are there. -/
  known : ∀ {i j : Nat} {e : Delivery} {x : Nat} {r : ScanRequest}, i < j → s.log[i]? = some e →
    e.Drops r.serverId → s.log[j]? = some (.armed x r) →
    Between (Delivery.Brings r.serverId) s.log i j

lemma agrees_start (servers : AList fun _ : Nat => ServerRuntime) : Agrees (start servers) := by
  refine ⟨Debouncer.exact_init servers, fun h => (by cases h), fun h => (by cases h),
    fun x r => ?_, fun h => (by cases h), fun h => (by cases h), fun _ h => (by cases h)⟩
  constructor
  · intro h
    cases h
  · rintro ⟨i, h, -⟩
    cases h

lemma Agrees.logs (h : Agrees s) (hl : Logs s s' e) : Agrees s' := by
  obtain ⟨hlog, hexact, hpend, holder, harmed, hfired, hservers⟩ := hl
  obtain ⟨d, log⟩ := s'
  subst hlog
  refine ⟨hexact, ?_, ?_, fun x r => ?_, ?_, ?_, ?_⟩
  · intro i x r hi
    cases getElem?_snoc.1 hi with
    | inl hi => exact Nat.lt_of_lt_of_le (h.fresh hi) holder
    | inr hi => exact (harmed hi.2).2.1
  · intro i j x r r' hi hj
    -- a task that is armed now was not armed before
    have hnew : ∀ {i : Nat} {r r' : ScanRequest}, e = .armed x r →
        s.log[i]? ≠ some (.armed x r') := by
      intro i r r' he hi
      have hlt := h.fresh hi
      rw [(harmed he).1] at hlt
      exact absurd hlt (Nat.lt_irrefl _)
    cases getElem?_snoc.1 hi with
    | inl hi =>
      cases getElem?_snoc.1 hj with
      | inl hj => exact h.once hi hj
      | inr hj => exact absurd hi (hnew hj.2)
    | inr hi =>
      cases getElem?_snoc.1 hj with
      | inl hj => exact absurd hj (hnew hi.2)
      | inr hj => rw [hi.1, hj.1]
  · rw [hpend, h.live, open_snoc]
  · intro j x r hj
    cases getElem?_snoc.1 hj with
    | inl hj =>
      obtain ⟨i, hij, hi, hn⟩ := h.fired hj
      refine ⟨i, hij, getElem?_snoc_left hi, ?_⟩
      rwa [between_snoc (Nat.le_of_lt (lt_length hj))]
    | inr hj =>
      obtain ⟨rfl, he⟩ := hj
      obtain ⟨i, hi, hn⟩ := (h.live x r).1 (hfired he)
      refine ⟨i, lt_length hi, getElem?_snoc_left hi, ?_⟩
      rwa [between_snoc (Nat.le_refl _), between_length]
  · intro i e' id hi hdrop hid
    cases getElem?_snoc.1 hi with
    | inl hi =>
      rw [after_snoc (lt_length hi)]
      cases (hservers id).1 hid with
      | inl hid => exact .inr hid
      | inr hid => exact .inl (h.back hi hdrop hid.2)
    | inr hi =>
      obtain ⟨rfl, rfl⟩ := hi
      cases (hservers id).1 hid with
      | inl hid =>
        cases e with
        | updated servers => exact absurd hid hdrop
        | _ => exact hid.elim
      | inr hid => exact absurd hdrop hid.1
  · intro i j e' x r hij hi hdrop hj
    cases getElem?_snoc.1 hj with
    | inl hj =>
      rw [between_snoc (Nat.le_of_lt (lt_length hj))]
      cases getElem?_snoc.1 hi with
      | inl hi => exact h.known hij hi hdrop hj
      | inr hi =>
        have := lt_length hj
        omega
    | inr hj =>
      obtain ⟨rfl, he⟩ := hj
      rw [between_snoc (Nat.le_refl _), between_length]
      cases getElem?_snoc.1 hi with
      | inl hi => exact h.back hi hdrop (harmed he).2.2
      | inr hi => exact absurd hi.1 (Nat.ne_of_lt hij)

lemma Agrees.quiet (h : Agrees s) (hq : Quiet s s') : Agrees s' := by
  obtain ⟨hlog, hexact, hpend, hn, hservers⟩ := hq
  obtain ⟨d, log⟩ := s'
  subst hlog
  refine ⟨hexact, fun hi => ?_, h.once, fun x r => (hpend x r).trans (h.live x r), h.fired,
    fun hi hd hid => h.back hi hd ?_, h.known⟩
  · show _ < d.nextTask
    rw [show d.nextTask = s.debouncer.nextTask from hn]
    exact h.fresh hi
  · rwa [show d.servers = s.debouncer.servers from hservers] at hid

lemma Agrees.step (h : Agrees s) (hs : s.step a = some s') : Agrees s' := by
  cases step_cases h.exact hs with
  | inl hq => exact h.quiet hq
  | inr hl =>
    obtain ⟨e, hl⟩ := hl
    exact h.logs hl

/-- The agreement holds in every run. -/
lemma agrees_of_reach {G : Session → Act → Prop} (h : Reach Session.step G (start servers) s) :
    Agrees s :=
  h.invariant (agrees_start servers) fun hi _ hs => hi.step hs

/-! ## What becomes of a request -/

lemma TimersExact.of_exact {d : Debouncer} (h : d.Exact) : TimersExact d := by
  intro key task
  rw [h.timers]
  constructor
  · rintro ⟨req, hp, rfl⟩
    exact ⟨_, hp, rfl, rfl⟩
  · rintro ⟨timer, hl, rfl, hc⟩
    exact ⟨_, h.pending hl hc, (h.keyed hl).symm⟩

/-- A task that fired had not ended before. -/
lemma Agrees.open_until (h : Agrees s) {i j : Nat} (hi : s.log[i]? = some (.armed x r))
    (hj : s.log[j]? = some (.fired x r)) : i < j ∧ ¬ Between (Delivery.Ends x r) s.log i j := by
  obtain ⟨i', hij, hi', hn⟩ := h.fired hj
  rw [h.once hi hi']
  exact ⟨hij, hn⟩

lemma Agrees.firesOnce (h : Agrees s) : FiresOnce s.log := by
  refine ⟨fun i j x r r' => h.once, ?_, ?_⟩
  · -- of two dispatches the first one ends the wait
    have hlt : ∀ {i j x : Nat} {r r' : ScanRequest}, s.log[i]? = some (.fired x r) →
        s.log[j]? = some (.fired x r') → ¬ i < j := by
      intro i j x r r' hi hj hij
      obtain ⟨k, hki, hk, -⟩ := h.fired hi
      obtain ⟨k', hkj, hk', hn⟩ := h.fired hj
      have hkk := h.once hk hk'
      subst hkk
      have he := Option.some.inj (hk.symm.trans hk')
      injection he with _ hr
      subst hr
      exact hn ⟨i, _, hki, hij, hi, .inl rfl⟩
    intro i j x r r' hi hj
    have h1 := hlt hi hj
    have h2 := hlt hj hi
    omega
  · intro j x r hj
    obtain ⟨i, hij, hi, hn⟩ := h.fired hj
    refine ⟨i, hij, hi, ?_⟩
    rintro ⟨k, e, hik, hkj, hk, he⟩
    exact hn ⟨k, e, hik, hkj, hk, .inr (.inl he)⟩

lemma Agrees.nothingLost (h : Agrees s) : NothingLost s := by
  intro i x r hi
  by_cases ha : After (Delivery.Ends x r) s.log i
  · obtain ⟨j, e, hij, hj, he⟩ := ha
    rcases he with rfl | he | he | rfl
    · exact .inl ⟨j, _, hij, hj, rfl⟩
    · exact .inr (.inl ⟨j, e, hij, hj, he⟩)
    · exact .inr (.inr (.inl ⟨j, e, hij, hj, he⟩))
    · exact .inr (.inr (.inr (.inl ⟨j, _, hij, hj, rfl⟩)))
  · have hp := (h.live x r).2 ⟨i, hi, ha⟩
    exact .inr (.inr (.inr (.inr ⟨h.exact.lookup hp, hp⟩)))

lemma Agrees.goneSilent (h : Agrees s) : GoneSilent s.log := by
  intro u j servers x r huj hu hgone hj
  obtain ⟨i, hij, hi, hn⟩ := h.fired hj
  rcases Nat.lt_trichotomy u i with hui | rfl | hiu
  · -- the request came after the swap, so the server was back by then
    obtain ⟨k, e, huk, hki, hk, he⟩ := h.known hui hu hgone hi
    exact ⟨k, e, huk, Nat.lt_trans hki hij, hk, he⟩
  · rw [hu] at hi
    cases hi
  · exact absurd ⟨u, _, hiu, huj, hu, .inr (.inr (.inl hgone))⟩ hn

/-- In every run the timers are exact, a request is dispatched at most once and only while no later
one has come, none gets lost, and no timer dispatch is for a server that is gone. -/
theorem timer_discipline (h : Reach Session.step Free (start servers) s) :
    TimersExact s.debouncer ∧ FiresOnce s.log ∧ NothingLost s ∧ GoneSilent s.log := by
  have ha := agrees_of_reach h
  exact ⟨.of_exact ha.exact, ha.firesOnce, ha.nothingLost, ha.goneSilent⟩

/-- One server, that waits or not. -/
def policy (mode : DebounceMode) : AList fun _ : Nat => ServerRuntime :=
  AList.insert 1 ⟨1, "plex".toList, .plex, "http://plex".toList, none, .targeted, mode, 30, 3, none,
    none, none, .custom⟩ ∅

/-- A request of that server for `/m`. -/
def fileRequest (file : Str) : ScanRequest :=
  ⟨1, "plex".toList, .targeted, some "/m".toList, none, "/m".toList, .created, file, none⟩

/-- A request is superseded, and the task of the second one fires. -/
theorem timer_discipline_rearmed : ∃ s, run Session.step (start (policy .trailing))
      [.submit (fileRequest ['a']), .submit (fileRequest ['b']), .fire 0, .fire 1] = some s ∧
    TimersExact s.debouncer ∧ FiresOnce s.log ∧ NothingLost s ∧ GoneSilent s.log := by
  have h : run (guarded Session.step Free) (start (policy .trailing))
      [.submit (fileRequest ['a']), .submit (fileRequest ['b']), .fire 0, .fire 1] = some _ := rfl
  exact ⟨_, rfl, timer_discipline (.of_run h)⟩

/-! ## The order of the dispatches -/

/-- A request that was submitted at time `i` was dispatched at time `j`. -/
def Delivered (log : List Delivery) (i j : Nat) (req : ScanRequest) : Prop :=
  (log[i]? = some (.immediate req) ∧ j = i) ∨
    ∃ task, log[i]? = some (.armed task req) ∧ log[j]? = some (.fired task req)

/-- Requests of one key are dispatched in the order in which they were submitted. -/
def InOrder (log : List Delivery) : Prop :=
  ∀ i j req i' j' req', Delivered log i j req → Delivered log i' j' req' → req.key = req'.key →
    i < i' → j < j'

/-- A request that is dispatched at once finds no timer armed under its key. -/
def NoneArmed (s : Session) : Act → Prop
  | .submit req => ¬ s.debouncer.Trailing req → s.debouncer.timers.lookup req.key = none
  | _ => True

/-- Whatever waited under the key of an immediate dispatch has ended before it. -/
def Cleared (log : List Delivery) : Prop :=
  ∀ (i j x : Nat) (r r' : ScanRequest), i < j → log[i]? = some (.armed x r) →
    log[j]? = some (.immediate r') → r.key = r'.key → Between (Delivery.Ends x r) log i j

lemma Cleared.snoc {log : List Delivery} (h : Cleared log)
    (he : ∀ {i x : Nat} {r r' : ScanRequest}, e = .immediate r' → log[i]? = some (.armed x r) →
      r.key = r'.key → After (Delivery.Ends x r) log i) : Cleared (log ++ [e]) := by
  intro i j x r r' hij hi hj hk
  have hlt := lt_length hj
  rw [List.length_append, List.length_singleton] at hlt
  rw [between_snoc (by omega)]
  have hi' : log[i]? = some (.armed x r) := by
    cases getElem?_snoc.1 hi with
    | inl hi => exact hi
    | inr hi => omega
  cases getElem?_snoc.1 hj with
  | inl hj => exact h i j x r r' hij hi' hj hk
  | inr hj =>
    rw [hj.1, between_length]
    exact he hj.2 hi' hk

lemma Agrees.cleared (h : Agrees s) (hc : Cleared s.log) (hg : NoneArmed s a)
    (hs : s.step a = some s') : Cleared s'.log := by
  -- under a key without a timer every wait has ended
  have hafter : ∀ {i x : Nat} {r r' : ScanRequest}, s.debouncer.timers.lookup r'.key = none →
      s.log[i]? = some (.armed x r) → r.key = r'.key → After (Delivery.Ends x r) s.log i := by
    intro i x r r' hnone hi hk
    apply Classical.byContradiction
    intro hn
    rw [← hk, h.exact.lookup ((h.live x r).2 ⟨i, hi, hn⟩)] at hnone
    cases hnone
  cases a with
  | submit req =>
    cases submit_cases h.exact hs with
    | inl hs =>
      rw [hs.2.log]
      apply hc.snoc
      intro i x r r' he hi hk
      cases he
      exact hafter (hg hs.1) hi hk
    | inr hs =>
      rw [hs.2.log]
      apply hc.snoc
      intro i x r r' he
      cases he
  | fire task =>
    cases fire_cases h.exact hs with
    | inl hs =>
      rw [hs.log]
      exact hc
    | inr hs =>
      obtain ⟨req, hs⟩ := hs
      rw [hs.log]
      apply hc.snoc
      intro i x r r' he
      cases he
  | update servers =>
    cases hs
    apply hc.snoc
    intro i x r r' he
    cases he
  | close =>
    cases hs
    apply hc.snoc
    intro i x r r' he
    cases he

/-- A dispatch comes no earlier than its submission. -/
lemma Agrees.delivered_le (h : Agrees s) {i j : Nat} (hd : Delivered s.log i j req) : i ≤ j := by
  rcases hd with ⟨-, rfl⟩ | ⟨x, hi, hj⟩
  · exact Nat.le_refl _
  · exact Nat.le_of_lt (h.open_until hi hj).1

lemma Agrees.inOrder (h : Agrees s) (hc : Cleared s.log) : InOrder s.log := by
  intro i j r i' j' r' hd hd' hk hlt
  have hle' := h.delivered_le hd'
  rcases hd with ⟨-, rfl⟩ | ⟨x, hi, hj⟩
  · exact Nat.lt_of_lt_of_le hlt hle'
  · obtain ⟨-, hn⟩ := h.open_until hi hj
    -- the wait of the older request has ended by the time of the newer one
    apply Nat.lt_of_not_le
    intro hle
    apply hn
    rcases hd' with ⟨hi', rfl⟩ | ⟨x', hi', hj'⟩
    · obtain ⟨k, e, hik, hkj, hke, he⟩ := hc i _ x r r' hlt hi hi' hk
      exact ⟨k, e, hik, by omega, hke, he⟩
    · have hlt' := (h.open_until hi' hj').1
      exact ⟨i', _, hlt, by omega, hi', .inr (.inl hk.symm)⟩

/-- If nothing is dispatched at once over the head of a timer, dispatches keep the order. -/
theorem in_order (h : Reach Session.step NoneArmed (start servers) s) : InOrder s.log := by
  have hall : Agrees s ∧ Cleared s.log := by
    apply h.invariant ⟨agrees_start servers, fun i j x r r' _ hi => (by cases hi)⟩
    intro u a v hu hg hs
    exact ⟨hu.1.step hs, hu.1.cleared hu.2 hg hs⟩
  exact hall.1.inOrder hall.2

/-- The policy changes after the timer has fired. -/
theorem in_order_fired : ∃ s, run Session.step (start (policy .trailing))
      [.submit (fileRequest ['a']), .fire 0, .update (policy .off), .submit (fileRequest ['b'])] =
        some s ∧ InOrder s.log := by
  have hwaits : (start (policy .trailing)).debouncer.Trailing (fileRequest ['a']) := ⟨_, rfl, nofun⟩
  have h1 := Reach.refl.tail
    (show NoneArmed (start (policy .trailing)) (.submit (fileRequest ['a'])) from (absurd hwaits ·))
    (show Session.step _ _ = some _ from rfl)
  have h2 := h1.tail (show NoneArmed _ (.fire 0) from trivial)
    (show Session.step _ _ = some _ from rfl)
  have h3 := h2.tail (show NoneArmed _ (.update (policy .off)) from trivial)
    (show Session.step _ _ = some _ from rfl)
  have h4 := h3.tail (show NoneArmed _ (.submit (fileRequest ['b'])) from fun _ => rfl)
    (show Session.step _ _ = some _ from rfl)
  exact ⟨_, rfl, in_order h4⟩

/-- The first file of a folder waits, and the second one is dispatched at once. -/
theorem out_of_order : ¬ ∀ servers (s : Session), Reach Session.step Free (start servers) s →
    InOrder s.log := by
  intro h
  have hrun : run (guarded Session.step Free) (start (policy .trailing))
      [.submit (fileRequest ['a']), .update (policy .off), .submit (fileRequest ['b']), .fire 0] =
        some _ := rfl
  have hlt := h _ _ (.of_run hrun) 0 3 (fileRequest ['a']) 2 2 (fileRequest ['b'])
    (.inr ⟨0, rfl, rfl⟩) (.inl ⟨rfl, rfl⟩) rfl (by omega)
  omega

end Session
end MediaScanMonitor
