import MediaScanMonitor.Engine.System

/-!
# No configuration write is lost

Once `start` consumes events, a write is followed by a call that reads the whole configuration
again, and the lock makes the last such read the one in force. While `start` itself is between its
read and its consume loop a write is lost: its call is refused, or overtaken by what `start` applies
last. `Quiet` excludes these writes.
-/

namespace MediaScanMonitor
open Text Transition

variable {pf : Platform}

/-- The reads so far are those of the database `db`. -/
def Reading.Of (pf : Platform) (db : Db) : Reading → Prop
  | .servers => True
  | .folders rest config =>
    rest.foldlM (fun config server =>
      config.addServer pf.lower pf.decrypt server (db.listFolders server.id)) config =
      buildRuntimeConfig pf.lower pf.decrypt db

/-- The verdict of the gate on `db`. -/
def gateOk (pf : Platform) (db : Db) (config : RuntimeConfig) : Bool :=
  if config.watchPaths = [] then true else Engine.passes pf config (db.getSetting Engine.gateKey)

/-- The gate has seen the policy of `db`. -/
def Gate.Of (pf : Platform) (db : Db) (config : RuntimeConfig) : Gate → Prop
  | .policy => config.watchPaths ≠ []
  | .limit setting => config.watchPaths ≠ [] ∧ setting = db.getSetting Engine.gateKey
  | .verdict ok => ok = gateOk pf db config

/-- What the call has read is the database `db`. -/
def Call.Of (pf : Platform) (db : Db) : Call → Prop
  | .reading r => r.Of pf db
  | .gating config _ g => buildRuntimeConfig pf.lower pf.decrypt db = some config ∧ g.Of pf db config
  | _ => True

/-- The call has read nothing yet. -/
def Call.Early : Call → Prop
  | .pending => True
  | .waiting => True
  | _ => False

/-- The call is between its first read and its swap. -/
def Call.Busy : Call → Prop
  | .reading _ => True
  | .gating _ _ _ => True
  | _ => False

/-- The call has not got past the check that the engine runs. -/
def Call.Refused : Call → Prop
  | .pending => True
  | .returned => True
  | _ => False

lemma Call.Busy.locked {c : Call} (h : c.Busy) : c.locked = true := by
  cases c with
  | reading => rfl
  | gating => rfl
  | _ => cases h

/-- The next read is one of `db`, too. -/
lemma Reading.Of.step {db : Db} {r : Reading} (h : r.Of pf db) {res : Reading ⊕ RuntimeConfig}
    (hs : Engine.readStep pf db r = some res) :
    match res with
    | .inl r' => r'.Of pf db
    | .inr config => buildRuntimeConfig pf.lower pf.decrypt db = some config := by
  cases r with
  | servers =>
    cases hs
    rfl
  | folders rest config =>
    cases rest with
    | nil =>
      cases hs
      exact h.symm
    | cons server rest =>
      obtain ⟨config', hadd, rfl⟩ := Option.map_eq_some_iff.1 hs
      have h' : _ = buildRuntimeConfig pf.lower pf.decrypt db := h
      rw [List.foldlM_cons, hadd] at h'
      exact h'

lemma Gate.of_enterGate (pf : Platform) (db : Db) (config : RuntimeConfig) :
    (Engine.enterGate config).Of pf db config := by
  unfold Engine.enterGate
  split
  · next h =>
    show true = gateOk pf db config
    rw [gateOk, if_pos h]
  · next h => exact h

lemma Gate.Of.step {db : Db} {config : RuntimeConfig} {g : Gate} (h : g.Of pf db config) :
    (Engine.gateStep pf db config g).Of pf db config := by
  cases g with
  | policy => exact ⟨h, rfl⟩
  | limit policy =>
    obtain ⟨hne, rfl⟩ := h
    show Engine.passes pf config _ = gateOk pf db config
    rw [gateOk, if_neg hne]
  | verdict ok => exact h

namespace Engine

/-- The engine runs on what the database says. -/
def InForce (pf : Platform) (s : Engine) : Prop :=
  ∃ config, buildRuntimeConfig pf.lower pf.decrypt s.db = some config ∧ s.config = some config ∧
    s.roots = gateRoots config (gateOk pf s.db config) ∧ s.state = gateState (gateOk pf s.db config)

/-- Writes are committed before `start` reads the configuration, or when it consumes events. -/
def Quiet (s : Engine) : Act → Prop
  | .write _ =>
    match s.start with
    | .idle => True
    | .reading .servers => True
    | .consuming => True
    | _ => False
  | _ => True

instance (s : Engine) (a : Act) : Decidable (Quiet s a) := by
  unfold Quiet
  split
  · split <;> infer_instance
  · infer_instance

/-- What `start` has read so far is the database, and what it has stored. -/
def Started (pf : Platform) (s : Engine) : Prop :=
  match s.start with
  | .idle => s.wired = false ∧ ∀ c ∈ s.calls, c.Refused
  | .reading r => (s.wired = false ∧ ∀ c ∈ s.calls, c.Refused) ∧ r.Of pf s.db
  | .wiring config => (s.wired = false ∧ ∀ c ∈ s.calls, c.Refused) ∧
      buildRuntimeConfig pf.lower pf.decrypt s.db = some config ∧ s.config = some config
  | .gating config g => s.wired = true ∧ (∀ c ∈ s.calls, c.Of pf s.db) ∧
      buildRuntimeConfig pf.lower pf.decrypt s.db = some config ∧ s.config = some config ∧
      g.Of pf s.db config
  | .consuming => s.wired = true ∧
      ((∃ c ∈ s.calls, c.Early) ∨ (∃ c ∈ s.calls, c.Busy ∧ c.Of pf s.db) ∨
        ((∀ c ∈ s.calls, ¬ c.Busy) ∧ InForce pf s))

/-- What holds of every run of quiet writes. -/
structure Inv (pf : Platform) (s : Engine) : Prop where
  lock : LockOne s
  started : Started pf s

variable {s s' : Engine}

lemma InForce.congr (h : InForce pf s) (hdb : s'.db = s.db) (hconfig : s'.config = s.config)
    (hroots : s'.roots = s.roots) (hstate : s'.state = s.state) : InForce pf s' := by
  obtain ⟨config, hbuild, h1, h2, h3⟩ := h
  refine ⟨config, ?_, ?_, ?_, ?_⟩
  · rw [hdb]
    exact hbuild
  · rw [hconfig]
    exact h1
  · rw [hdb, hroots]
    exact h2
  · rw [hdb, hstate]
    exact h3

/-- A call is to read the database, or one that has read it runs, or `P` holds. -/
def Catching (pf : Platform) (db : Db) (calls : List Call) (P : Prop) : Prop :=
  (∃ c ∈ calls, c.Early) ∨ (∃ c ∈ calls, c.Busy ∧ c.Of pf db) ∨ ((∀ c ∈ calls, ¬ c.Busy) ∧ P)

/-- One of the calls moves on. -/
lemma Catching.set {db : Db} {calls : List Call} {P P' : Prop} {i : Nat} {c c' : Call}
    (h : Catching pf db calls P) (hi : calls[i]? = some c)
    (hearly : c.Early → c'.Early ∨ (c'.Busy ∧ c'.Of pf db)) (hbusy : c.Busy → c'.Busy)
    (hback : c'.Busy → c.Busy ∨ c.Early) (hof : c.Of pf db → c'.Of pf db) (hP : P → P') :
    Catching pf db (calls.set i c') P' := by
  have hself : c' ∈ calls.set i c' := mem_set_self hi c'
  have hwas : c.Early → Catching pf db (calls.set i c') P' := by
    intro he
    rcases hearly he with h | h
    · exact .inl ⟨c', hself, h⟩
    · exact .inr (.inl ⟨c', hself, h⟩)
  rcases h with ⟨x, hx, he⟩ | ⟨x, hx, hb, ho⟩ | ⟨hnone, hp⟩
  · rcases eq_or_mem_set hi hx with rfl | hx
    · exact hwas he
    · exact .inl ⟨x, hx, he⟩
  · rcases eq_or_mem_set hi hx with rfl | hx
    · exact .inr (.inl ⟨c', hself, hbusy hb, hof ho⟩)
    · exact .inr (.inl ⟨x, hx, hb, ho⟩)
  · by_cases he : c.Early
    · exact hwas he
    · refine .inr (.inr ⟨fun x hx hb => ?_, hP hp⟩)
      rcases List.mem_or_eq_of_mem_set hx with hx | rfl
      · exact hnone x hx hb
      · exact (hback hb).elim (hnone c (List.mem_of_getElem? hi)) he

/-- A call moves on and what is in force stays. -/
lemma Inv.started_setCall (inv : Inv pf s) {i : Nat} {c c' : Call} (hi : s.calls[i]? = some c)
    (hdb : s'.db = s.db) (hconfig : s'.config = s.config) (hroots : s'.roots = s.roots)
    (hstate : s'.state = s.state) (hwired : s'.wired = s.wired) (hstart : s'.start = s.start)
    (hcalls : s'.calls = s.calls.set i c')
    (hearly : c.Early → c'.Early ∨ (c'.Busy ∧ c'.Of pf s.db) ∨ s.wired = false)
    (hbusy : c.Busy → c'.Busy) (hback : c'.Busy → c.Busy ∨ c.Early)
    (hrefused : c.Refused → s.wired = false → c'.Refused) (hof : c.Of pf s.db → c'.Of pf s.db) :
    Started pf s' := by
  have hmem : c ∈ s.calls := List.mem_of_getElem? hi
  -- the other calls are where they were
  have hnew : ∀ {x}, x ∈ s'.calls → x = c' ∨ x ∈ s.calls := by
    intro x hx
    rw [hcalls] at hx
    exact (List.mem_or_eq_of_mem_set hx).symm
  have hrefuse : s.wired = false → (∀ x ∈ s.calls, x.Refused) → ∀ x ∈ s'.calls, x.Refused := by
    intro hw hall x hx
    rcases hnew hx with rfl | hx
    · exact hrefused (hall c hmem) hw
    · exact hall x hx
  have h := inv.started
  unfold Started at h ⊢
  rw [hstart, hdb, hconfig, hwired]
  cases hs : s.start with
  | idle =>
    rw [hs] at h
    exact ⟨h.1, hrefuse h.1 h.2⟩
  | reading r =>
    rw [hs] at h
    exact ⟨⟨h.1.1, hrefuse h.1.1 h.1.2⟩, h.2⟩
  | wiring config =>
    rw [hs] at h
    exact ⟨⟨h.1.1, hrefuse h.1.1 h.1.2⟩, h.2⟩
  | gating config g =>
    rw [hs] at h
    refine ⟨h.1, fun x hx => ?_, h.2.2⟩
    rcases hnew hx with rfl | hx
    · exact hof (h.2.1 c hmem)
    · exact h.2.1 x hx
  | consuming =>
    rw [hs] at h
    obtain ⟨hw, h⟩ := h
    have hcatching : Catching pf s.db s.calls (InForce pf s) := h
    have hearly' : c.Early → c'.Early ∨ (c'.Busy ∧ c'.Of pf s.db) := by
      intro he
      rcases hearly he with h | h | h
      · exact .inl h
      · exact .inr h
      · rw [hw] at h
        cases h
    rw [hcalls]
    exact ⟨hw, hcatching.set hi hearly' hbusy hback hof
      fun hin => hin.congr hdb hconfig hroots hstate⟩

/-- The configuration that a call has read comes into force. -/
lemma Inv.started_swap (inv : Inv pf s) {i : Nat} {config : RuntimeConfig} {adapters : List Adapter}
    {ok : Bool} (hi : s.calls[i]? = some (.gating config adapters (.verdict ok))) :
    Started pf ((s.swap config adapters ok).setCall i (.closing s.clients)) := by
  have hmem := List.mem_of_getElem? hi
  have h := inv.started
  unfold Started at h ⊢
  have hstart : ((s.swap config adapters ok).setCall i (.closing s.clients)).start = s.start := rfl
  rw [hstart]
  cases hs : s.start with
  | idle =>
    rw [hs] at h
    exact (h.2 _ hmem).elim
  | reading r =>
    rw [hs] at h
    exact (h.1.2 _ hmem).elim
  | wiring config' =>
    rw [hs] at h
    exact (h.1.2 _ hmem).elim
  | gating config' g =>
    rw [hs] at h
    obtain ⟨hw, hof, hbuild, -, hg⟩ := h
    -- both have read the same database
    have he : config' = config := Option.some.inj (hbuild.symm.trans (hof _ hmem).1)
    refine ⟨hw, fun x hx => ?_, hbuild, by rw [he]; rfl, hg⟩
    rcases List.mem_or_eq_of_mem_set hx with hx | rfl
    · exact hof x hx
    · trivial
  | consuming =>
    rw [hs] at h
    obtain ⟨hw, h⟩ := h
    refine ⟨hw, ?_⟩
    rcases h with ⟨x, hx, he⟩ | ⟨x, hx, hb, ho⟩ | ⟨hnone, -⟩
    · rcases eq_or_mem_set hi hx with rfl | hx
      · cases he
      · exact .inl ⟨x, hx, he⟩
    · obtain ⟨j, hj⟩ := List.getElem?_of_mem hx
      obtain rfl := inv.lock hj hi hb.locked rfl
      rw [hi] at hj
      cases hj
      obtain ⟨hbuild, hok⟩ := ho
      refine .inr (.inr ⟨fun x hx hb => ?_, config, hbuild, rfl, ?_, ?_⟩)
      · obtain ⟨k, hk⟩ := List.getElem?_of_mem hx
        rcases getElem?_set_cases hk with ⟨-, rfl⟩ | ⟨hne, hk⟩
        · exact hb
        · exact hne (inv.lock hi hk rfl hb.locked)
      · exact congrArg (gateRoots config) hok
      · exact congrArg gateState hok
    · exact (hnone _ hmem trivial).elim

lemma Inv.started_call (inv : Inv pf s) {i : Nat} (h : CallCase pf s i s') : Started pf s' := by
  cases h with
  | refuse hi hw =>
    exact inv.started_setCall hi rfl rfl rfl rfl rfl rfl rfl (fun _ => .inr (.inr hw)) id nofun
      (fun _ _ => trivial) fun _ => trivial
  | wait hi hw =>
    refine inv.started_setCall hi rfl rfl rfl rfl rfl rfl rfl (fun _ => .inl trivial) id nofun
      (fun _ h => ?_) fun _ => trivial
    rw [hw] at h
    cases h
  | lock hi =>
    exact inv.started_setCall hi rfl rfl rfl rfl rfl rfl rfl
      (fun _ => .inr (.inl ⟨trivial, trivial⟩)) nofun (fun _ => .inr trivial) nofun fun _ => trivial
  | read r r' hi hread =>
    exact inv.started_setCall hi rfl rfl rfl rfl rfl rfl rfl nofun (fun _ => trivial)
      (fun _ => .inl trivial) nofun fun ho => Reading.Of.step ho hread
  | build r config adapters next hi hread =>
    exact inv.started_setCall hi rfl rfl rfl rfl rfl rfl rfl nofun (fun _ => trivial)
      (fun _ => .inl trivial) nofun
      fun ho => ⟨Reading.Of.step ho hread, Gate.of_enterGate pf s.db config⟩
  | gate config adapters g hi =>
    exact inv.started_setCall hi rfl rfl rfl rfl rfl rfl rfl nofun (fun _ => trivial)
      (fun _ => .inl trivial) nofun fun ho => ⟨ho.1, ho.2.step⟩
  | swap config adapters ok hi => exact inv.started_swap hi
  | close client rest hi =>
    exact inv.started_setCall hi rfl rfl rfl rfl rfl rfl rfl nofun nofun nofun nofun fun _ => trivial
  | finish hi =>
    exact inv.started_setCall hi rfl rfl rfl rfl rfl rfl rfl nofun nofun nofun nofun fun _ => trivial

lemma Inv.started_start (inv : Inv pf s) (h : StartCase pf s s') : Started pf s' := by
  have hinv := inv.started
  unfold Started at hinv
  cases h with
  | begin hs =>
    rw [hs] at hinv
    exact ⟨hinv, trivial⟩
  | read r r' hs hread =>
    rw [hs] at hinv
    exact ⟨hinv.1, hinv.2.step hread⟩
  | store r config hs hread =>
    rw [hs] at hinv
    exact ⟨hinv.1, hinv.2.step hread, rfl⟩
  | wire config adapters next hs =>
    rw [hs] at hinv
    refine ⟨rfl, fun c hc => ?_, hinv.2.1, hinv.2.2, Gate.of_enterGate pf s.db config⟩
    -- a call that was refused has read nothing
    have hr := hinv.1.2 c hc
    cases c with
    | pending => trivial
    | returned => trivial
    | _ => cases hr
  | gate config g hs =>
    rw [hs] at hinv
    obtain ⟨hw, hof, hbuild, hconfig, hg⟩ := hinv
    exact ⟨hw, hof, hbuild, hconfig, hg.step⟩
  | consume config ok hs =>
    rw [hs] at hinv
    obtain ⟨hw, hof, hbuild, hconfig, hok⟩ := hinv
    refine ⟨hw, ?_⟩
    by_cases hb : ∃ c ∈ s.calls, c.Busy
    · obtain ⟨c, hc, hb⟩ := hb
      exact .inr (.inl ⟨c, hc, hb, hof c hc⟩)
    · refine .inr (.inr ⟨fun c hc h => hb ⟨c, hc, h⟩, config, hbuild, hconfig, ?_, ?_⟩)
      · exact congrArg (gateRoots config) hok
      · exact congrArg gateState hok

lemma Inv.started_write (inv : Inv pf s) {db : Db} (hg : Quiet s (.write db)) :
    Started pf { s with db := db, calls := s.calls ++ [.pending] } := by
  have h := inv.started
  have hrefused : (∀ c ∈ s.calls, c.Refused) → ∀ c ∈ s.calls ++ [.pending], c.Refused := by
    intro hall c hc
    rcases List.mem_append.1 hc with hc | hc
    · exact hall c hc
    · rw [List.mem_singleton.1 hc]
      trivial
  unfold Started at h ⊢
  unfold Quiet at hg
  simp only at hg ⊢
  cases hs : s.start with
  | idle =>
    rw [hs] at h
    exact ⟨h.1, hrefused h.2⟩
  | reading r =>
    rw [hs] at h hg
    cases r with
    | servers => exact ⟨⟨h.1.1, hrefused h.1.2⟩, trivial⟩
    | folders => exact hg.elim
  | wiring config =>
    rw [hs] at hg
    exact hg.elim
  | gating config g =>
    rw [hs] at hg
    exact hg.elim
  | consuming =>
    rw [hs] at h
    exact ⟨h.1, .inl ⟨.pending, by simp, trivial⟩⟩

lemma Inv.step (inv : Inv pf s) {a : Act} (hg : Quiet s a) (hs : Engine.step pf s a = some s') :
    Inv pf s' := by
  refine ⟨LockOne.step inv.lock hs, ?_⟩
  cases step_cases hs with
  | start h => exact inv.started_start h
  | write db => exact inv.started_write hg
  | call i h => exact inv.started_call h
  | dispatch => exact inv.started
  | attempt => exact inv.started
  | again => exact inv.started
  | finish => exact inv.started

/-- When `start` consumes events and every `rebuild_engine` call has returned, the engine runs on the
configuration of the database, if no write was committed while `start` was on its way there. -/
theorem writes_take_effect {db : Db} (h : Reach (Engine.step pf) Quiet (init db) s)
    (hstart : s.start = .consuming) (hcalls : ∀ c ∈ s.calls, c = .returned) : InForce pf s := by
  have inv : Inv pf s := by
    refine h.invariant ⟨lockOne_init db, rfl, ?_⟩ fun hu hg hs => hu.step hg hs
    intro c hc
    cases hc
  have hs := inv.started
  unfold Started at hs
  rw [hstart] at hs
  rcases hs.2 with ⟨c, hc, he⟩ | ⟨c, hc, hb, -⟩ | ⟨-, hin⟩
  · rw [hcalls c hc] at he
    exact he.elim
  · rw [hcalls c hc] at hb
    exact hb.elim
  · exact hin

/-- The database is filled once the engine runs. -/
theorem writes_take_effect_running :
    ∃ s, run (guarded (Engine.step roomy) Quiet) (init ⟨[], [], []⟩)
        [.start, .start, .start, .start, .start, .write plexDb, .call 0, .call 0, .call 0, .call 0,
          .call 0, .call 0, .call 0, .call 0, .call 0] = some s ∧ InForce roomy s := by
  have hrun : run (guarded (Engine.step roomy) Quiet) (init ⟨[], [], []⟩)
      [.start, .start, .start, .start, .start, .write plexDb, .call 0, .call 0, .call 0, .call 0,
        .call 0, .call 0, .call 0, .call 0, .call 0] = some _ := rfl
  exact ⟨_, hrun, writes_take_effect (Reach.of_run hrun) rfl (List.forall_mem_singleton.2 rfl)⟩

/-- The database is filled right after `start` has read it: the call is refused, and `start` goes on
with the empty configuration. -/
theorem write_lost :
    ¬ ∀ (pf : Platform) (db : Db) (acts : List Act) (s : Engine),
      run (Engine.step pf) (init db) acts = some s → s.start = .consuming →
      (∀ c ∈ s.calls, c = .returned) → InForce pf s := by
  intro h
  have hrun : run (Engine.step roomy) (init ⟨[], [], []⟩)
      [.start, .start, .start, .write plexDb, .call 0, .start, .start] = some _ := rfl
  obtain ⟨config, hbuild, hconfig, -⟩ :=
    h roomy _ _ _ hrun rfl (List.forall_mem_singleton.2 rfl)
  have hempty : some RuntimeConfig.empty = some config := hconfig
  cases hempty
  have hpaths := congrArg (Option.map RuntimeConfig.watchPaths) hbuild
  exact absurd hpaths (by decide)

end Engine
end MediaScanMonitor
