import MediaScanMonitor.Engine.Lifecycle

/-!
# One configuration at a time

`start` and `rebuild` both install a configuration, and only `rebuild` holds the lock. A rebuild
swaps in one atomic step, but `start` stores its configuration, wires the pipeline and, after the
gate, sets the roots and the state in three. The parts stay together unless a rebuild has come
between the second and the third.
-/

namespace MediaScanMonitor
open Text Transition
open Engine (readStep enterGate gateStep gateRoots gateState)

/-- The dicts are those of the items for which an adapter can be constructed. -/
structure Built.Of (host : Host) (items : List Item) (built : Built) : Prop where
  adapters : built.adapters.map (fun entry => (⟨entry.1, entry.2.server⟩ : Item)) =
    items.filter fun item => host.create item.2
  clients : built.clients = built.adapters.map fun entry => (entry.1, entry.2.client)

/-- What a coroutine has built so far are the dicts for the items it has come past. -/
def Assembly.Sound (host : Host) : Assembly → Prop
  | .reading _ => True
  | .building config rest built =>
    ∃ past, config.servers.entries = past ++ rest ∧ built.Of host past
  | .gating config built _ => built.Of host config.servers.entries

variable {host : Host}

lemma Built.Of.nil : Built.Of host [] ⟨[], []⟩ := ⟨rfl, rfl⟩

lemma Built.Of.round {items : List Item} {built : Built} (h : built.Of host items) (client : Client)
    (item : Item) : (built.round host client item).Of host (items ++ [item]) := by
  unfold Built.round
  split
  · next hc =>
    constructor
    · rw [List.map_append, h.adapters, List.filter_append, List.filter_singleton, hc]
      rfl
    · rw [List.map_append, h.clients]
      rfl
  · next hc =>
    constructor
    · rw [List.filter_append, List.filter_singleton, Bool.eq_false_iff.2 hc]
      rw [cond_false, List.append_nil]
      exact h.adapters
    · exact h.clients

lemma Assembly.Sound.start (config : RuntimeConfig) :
    Assembly.Sound host (.building config config.servers.entries ⟨[], []⟩) :=
  ⟨[], rfl, .nil⟩

lemma Assembly.Sound.round {config : RuntimeConfig} {item : Item} {rest : List Item} {built : Built}
    (h : Assembly.Sound host (.building config (item :: rest) built)) (client : Client) :
    Assembly.Sound host (.building config rest (built.round host client item)) := by
  obtain ⟨past, hitems, hbuilt⟩ := h
  refine ⟨past ++ [item], ?_, hbuilt.round client item⟩
  rw [hitems, List.append_assoc]
  rfl

lemma Assembly.Sound.built {config : RuntimeConfig} {built : Built}
    (h : Assembly.Sound host (.building config [] built)) : built.Of host config.servers.entries := by
  obtain ⟨past, hitems, hbuilt⟩ := h
  rw [List.append_nil] at hitems
  rw [hitems]
  exact hbuilt

namespace Lifecycle
variable {s s' : Lifecycle} {a : Act} {i : Nat}

/-- The pipeline is that of the stored configuration. -/
structure Piped (host : Host) (s : Lifecycle) (config : RuntimeConfig) : Prop where
  stored : s.config = some config
  servers : s.debouncer.servers = config.servers
  built : (⟨s.adapters, s.clients⟩ : Built).Of host config.servers.entries

/-- All parts come from one configuration and a verdict of the gate on it. -/
def Coherent (host : Host) (s : Lifecycle) : Prop :=
  ∃ config ok, Piped host s config ∧ (config, ok) ∈ s.verdicts ∧ s.roots = gateRoots config ok ∧
    s.state = gateState ok

/-- The steps of `start` and of rebuilds, and what goes on around them; none of them raises. -/
def Undisturbed : Act → Prop
  | .startRaises => False
  | .rebuildRaises _ => False
  | .close => False
  | _ => True

/-- The configuration is stored, or another one with the same roots and this verdict. -/
def Stands (s : Lifecycle) (config : RuntimeConfig) (ok : Bool) : Prop :=
  ∃ config' ∈ s.config,
    config' = config ∨ (config', ok) ∈ s.verdicts ∧ gateRoots config' ok = gateRoots config ok

/-- When `start` sets the roots and the state, its configuration stands. -/
def Unswapped (s : Lifecycle) : Act → Prop
  | .start => ∀ entry ∈ s.start.verdict, Stands s entry.1 entry.2
  | _ => True

/-- What holds at each point of `start`. -/
def AtStart (host : Host) (s : Lifecycle) : Startup → Prop
  | .idle => s.wired = false
  | .assembling (.reading _) => s.wired = false
  | .assembling (.building config rest built) =>
    s.wired = false ∧ s.config = some config ∧ Assembly.Sound host (.building config rest built)
  | .assembling (.gating _ _ _) => ∃ config, Piped host s config
  | .consuming _ => Coherent host s
  | .ended => Coherent host s
  | .raised => True
  | .returned => True

/-- What holds of each rebuild. -/
def AtRebuild (host : Host) (s : Lifecycle) : Rebuild → Prop
  | .waiting => s.wired = true
  | .assembling a => s.wired = true ∧ a.Sound host
  | .closing _ => s.wired = true
  | _ => True

structure Consistent (host : Host) (s : Lifecycle) : Prop where
  start : AtStart host s s.start
  rebuilds : ∀ c ∈ s.rebuilds, AtRebuild host s c

/-- A step that leaves the parts alone, and the engine wired, keeps them together. -/
structure SameParts (s s' : Lifecycle) : Prop where
  config : s'.config = s.config
  servers : s'.debouncer.servers = s.debouncer.servers
  adapters : s'.adapters = s.adapters
  clients : s'.clients = s.clients
  roots : s'.roots = s.roots
  state : s'.state = s.state
  verdicts : s'.verdicts = s.verdicts
  wired : s'.wired = s.wired

lemma Piped.same {config : RuntimeConfig} (h : Piped host s config) (hp : SameParts s s') :
    Piped host s' config := by
  constructor
  · exact hp.config.trans h.stored
  · exact hp.servers.trans h.servers
  · rw [hp.adapters, hp.clients]
    exact h.built

lemma Coherent.same (h : Coherent host s) (hp : SameParts s s') : Coherent host s' := by
  obtain ⟨config, ok, hpiped, hverdict, hroots, hstate⟩ := h
  refine ⟨config, ok, hpiped.same hp, ?_, hp.roots.trans hroots, hp.state.trans hstate⟩
  rw [hp.verdicts]
  exact hverdict

lemma AtStart.same {p : Startup} (h : AtStart host s p) (hp : SameParts s s') :
    AtStart host s' p := by
  cases p with
  | idle => exact hp.wired.trans h
  | assembling a =>
    cases a with
    | reading r => exact hp.wired.trans h
    | building config rest built => exact ⟨hp.wired.trans h.1, hp.config.trans h.2.1, h.2.2⟩
    | gating config built g =>
      obtain ⟨config, hpiped⟩ := h
      exact ⟨config, hpiped.same hp⟩
  | consuming inbox => exact Coherent.same h hp
  | ended => exact Coherent.same h hp
  | raised => trivial
  | returned => trivial

lemma AtRebuild.wired {c : Rebuild} (h : AtRebuild host s c) (hw : s.wired = true → s'.wired = true) :
    AtRebuild host s' c := by
  cases c with
  | waiting => exact hw h
  | assembling a => exact ⟨hw h.1, h.2⟩
  | closing clients => exact hw h
  | _ => trivial

/-- The other rebuilds are where they were. -/
lemma Consistent.rebuilds_set (h : Consistent host s) {c : Rebuild} (hc : AtRebuild host s' c)
    (hw : s.wired = true → s'.wired = true) (hcalls : s'.rebuilds = s.rebuilds.set i c) :
    ∀ c ∈ s'.rebuilds, AtRebuild host s' c := by
  intro c' hc'
  rw [hcalls] at hc'
  cases List.mem_or_eq_of_mem_set hc' with
  | inl hmem => exact (h.rebuilds c' hmem).wired hw
  | inr heq =>
    rw [heq]
    exact hc

lemma Consistent.rebuilds_same (h : Consistent host s) (hw : s.wired = true → s'.wired = true)
    (hcalls : s'.rebuilds = s.rebuilds) : ∀ c ∈ s'.rebuilds, AtRebuild host s' c := by
  intro c hc
  rw [hcalls] at hc
  exact (h.rebuilds c hc).wired hw

/-- A call that has got past its check finds the engine wired. -/
lemma Consistent.at (h : Consistent host s) {c : Rebuild} (hi : s.rebuilds[i]? = some c) :
    AtRebuild host s c :=
  h.rebuilds c (List.mem_of_getElem? hi)

lemma Consistent.startCase (h : Consistent host s) (hg : Unswapped s .start)
    (hc : StartCase host s s') : Consistent host s' := by
  have hstart := h.start
  cases hc with
  | begin hs =>
    rw [hs] at hstart
    exact ⟨hstart, h.rebuilds_same id rfl⟩
  | read r r' hs =>
    rw [hs] at hstart
    exact ⟨hstart, h.rebuilds_same id rfl⟩
  | store r config hs =>
    rw [hs] at hstart
    exact ⟨⟨hstart, rfl, .start config⟩, h.rebuilds_same id rfl⟩
  | round config item rest built hs =>
    rw [hs] at hstart
    obtain ⟨hw, hconfig, hsound⟩ := hstart
    exact ⟨⟨hw, hconfig, hsound.round _⟩, h.rebuilds_same id rfl⟩
  | wire config built hs =>
    rw [hs] at hstart
    obtain ⟨-, hconfig, hsound⟩ := hstart
    exact ⟨⟨config, hconfig, rfl, hsound.built⟩, h.rebuilds_same (fun _ => rfl) rfl⟩
  | gate config built g hs =>
    rw [hs] at hstart
    obtain ⟨config', hpiped⟩ := hstart
    exact ⟨⟨config', hpiped.stored, hpiped.servers, hpiped.built⟩, h.rebuilds_same id rfl⟩
  | enter config built ok hs =>
    rw [hs] at hstart
    obtain ⟨config', hpiped⟩ := hstart
    unfold Lifecycle.enter
    split
    · exact ⟨trivial, h.rebuilds_same id rfl⟩
    · refine ⟨?_, h.rebuilds_same id rfl⟩
      obtain ⟨other, hother, hstands⟩ := hg (config, ok) (by rw [hs]; rfl)
      obtain rfl := Option.some.inj (hpiped.stored.symm.trans hother)
      have hp : Piped host { s with
          roots := gateRoots config ok
          state := gateState ok
          start := .consuming []
          verdicts := (config, ok) :: s.verdicts } config' :=
        ⟨hpiped.stored, hpiped.servers, hpiped.built⟩
      rcases hstands with rfl | ⟨hverdict, hroots⟩
      · exact ⟨config', ok, hp, List.mem_cons_self, rfl, rfl⟩
      · exact ⟨config', ok, hp, List.mem_cons_of_mem _ hverdict, hroots.symm, rfl⟩

/-- The swap installs a configuration as a whole. -/
lemma coherent_swap {config : RuntimeConfig} {built : Built} (ok : Bool) (c : Rebuild)
    (hbuilt : built.Of host config.servers.entries) :
    Coherent host ((s.swap config built ok).setRebuild i c) :=
  ⟨config, ok, ⟨rfl, Debouncer.updateServers_servers _, hbuilt⟩, List.mem_cons_self, rfl, rfl⟩

/-- Once the engine is wired, `start` has stored and wired its configuration. -/
lemma AtStart.swapped {p : Startup} (h : AtStart host s p) (hw : s.wired = true)
    (hc : Coherent host s') : AtStart host s' p := by
  cases p with
  | idle => exact absurd hw (Bool.eq_false_iff.1 h)
  | assembling a =>
    cases a with
    | reading r => exact absurd hw (Bool.eq_false_iff.1 h)
    | building config rest built => exact absurd hw (Bool.eq_false_iff.1 h.1)
    | gating config built g =>
      obtain ⟨config, ok, hpiped, -⟩ := hc
      exact ⟨config, hpiped⟩
  | consuming inbox => exact hc
  | ended => exact hc
  | raised => trivial
  | returned => trivial

lemma Consistent.rebuildCase (h : Consistent host s) (hc : RebuildCase host s i s') :
    Consistent host s' := by
  -- all steps but the swap leave the parts alone
  have hmove : ∀ {c : Rebuild}, SameParts s s' → s'.start = s.start →
      s'.rebuilds = s.rebuilds.set i c → AtRebuild host s c → Consistent host s' := by
    intro c hp hs hcalls hat
    have hw : s.wired = true → s'.wired = true := fun hw => hp.wired.trans hw
    refine ⟨?_, h.rebuilds_set (hat.wired hw) hw hcalls⟩
    rw [hs]
    exact AtStart.same h.start hp
  cases hc with
  | refuse => exact hmove ⟨rfl, rfl, rfl, rfl, rfl, rfl, rfl, rfl⟩ rfl rfl trivial
  | wait hi hw => exact hmove ⟨rfl, rfl, rfl, rfl, rfl, rfl, rfl, rfl⟩ rfl rfl hw
  | lock hi => exact hmove ⟨rfl, rfl, rfl, rfl, rfl, rfl, rfl, rfl⟩ rfl rfl ⟨h.at hi, trivial⟩
  | read r r' hi =>
    exact hmove ⟨rfl, rfl, rfl, rfl, rfl, rfl, rfl, rfl⟩ rfl rfl ⟨(h.at hi).1, trivial⟩
  | store r config hi =>
    exact hmove ⟨rfl, rfl, rfl, rfl, rfl, rfl, rfl, rfl⟩ rfl rfl ⟨(h.at hi).1, .start config⟩
  | round config item rest built hi =>
    obtain ⟨hw, hsound⟩ := h.at hi
    exact hmove ⟨rfl, rfl, rfl, rfl, rfl, rfl, rfl, rfl⟩ rfl rfl ⟨hw, hsound.round _⟩
  | built config built hi =>
    obtain ⟨hw, hsound⟩ := h.at hi
    exact hmove ⟨rfl, rfl, rfl, rfl, rfl, rfl, rfl, rfl⟩ rfl rfl ⟨hw, hsound.built⟩
  | gate config built g hi =>
    have hat := h.at hi
    exact hmove ⟨rfl, rfl, rfl, rfl, rfl, rfl, rfl, rfl⟩ rfl rfl hat
  | close client rest hi =>
    have hat := h.at hi
    exact hmove ⟨rfl, rfl, rfl, rfl, rfl, rfl, rfl, rfl⟩ rfl rfl hat
  | finish => exact hmove ⟨rfl, rfl, rfl, rfl, rfl, rfl, rfl, rfl⟩ rfl rfl trivial
  | swap config built ok hi =>
    obtain ⟨hw, hbuilt⟩ := h.at hi
    refine ⟨AtStart.swapped h.start hw (coherent_swap ok _ hbuilt), ?_⟩
    exact h.rebuilds_set (c := .closing (s.clients.map Prod.snd)) hw id rfl

lemma Consistent.step (h : Consistent host s) (hs : step host s a = some s')
    (hu : Undisturbed a) (hg : Unswapped s a) : Consistent host s' := by
  cases step_cases hs with
  | start hc => exact h.startCase hg hc
  | startRaises => exact hu.elim
  | write db =>
    exact ⟨AtStart.same h.start ⟨rfl, rfl, rfl, rfl, rfl, rfl, rfl, rfl⟩, h.rebuilds_same id rfl⟩
  | limits fits =>
    exact ⟨AtStart.same h.start ⟨rfl, rfl, rfl, rfl, rfl, rfl, rfl, rfl⟩, h.rebuilds_same id rfl⟩
  | request =>
    refine ⟨AtStart.same h.start ⟨rfl, rfl, rfl, rfl, rfl, rfl, rfl, rfl⟩, fun c hc => ?_⟩
    cases List.mem_append.1 hc with
    | inl hc => exact (h.rebuilds c hc).wired id
    | inr hc =>
      rw [List.mem_singleton.1 hc]
      trivial
  | rebuild i hc => exact h.rebuildCase hc
  | rebuildRaises => exact hu.elim
  | event e inbox hp =>
    have hstart := h.start
    rw [hp] at hstart
    exact ⟨Coherent.same hstart ⟨rfl, rfl, rfl, rfl, rfl, rfl, rfl, rfl⟩, h.rebuilds_same id rfl⟩
  | submit req rest hp =>
    have hstart := h.start
    rw [hp] at hstart
    obtain ⟨late, hd, -⟩ := foldl_dispatch (s.debouncer.submit req).2
      { s with debouncer := (s.debouncer.submit req).1, start := .consuming rest }
    rw [hd]
    refine ⟨Coherent.same hstart ⟨rfl, ?_, rfl, rfl, rfl, rfl, rfl, rfl⟩, h.rebuilds_same id rfl⟩
    exact Debouncer.submit_servers req
  | fire task d out hf =>
    obtain ⟨late, hd, -⟩ := foldl_dispatch out { s with debouncer := d }
    rw [hd]
    refine ⟨AtStart.same h.start ⟨rfl, ?_, rfl, rfl, rfl, rfl, rfl, rfl⟩, h.rebuilds_same id rfl⟩
    exact Debouncer.fireAfter_servers hf
  | loopEnds inbox hp =>
    have hstart := h.start
    rw [hp] at hstart
    exact ⟨Coherent.same hstart ⟨rfl, rfl, rfl, rfl, rfl, rfl, rfl, rfl⟩, h.rebuilds_same id rfl⟩
  | close => exact hu.elim

lemma consistent_init (db : Db) (fits : List Str → List Str → Bool) (park : Bool) :
    Consistent host (init db fits park) :=
  ⟨rfl, fun _ hc => (by cases hc)⟩

/-- In a run of `start` and rebuilds in which the configuration of `start` stands when it sets the
roots, the parts come from one configuration as soon as the loop is reached. -/
theorem one_configuration {db : Db} {fits : List Str → List Str → Bool} {park : Bool}
    (h : Reach (step host) (fun s a => Undisturbed a ∧ Unswapped s a) (init db fits park) s)
    (hs : s.start.consumes = true) : Coherent host s := by
  have hall : Consistent host s := by
    apply h.invariant (consistent_init db fits park)
    intro u a v hu hg hstep
    exact hu.step hstep hg.1 hg.2
  have hstart := hall.start
  cases hp : s.start with
  | consuming inbox =>
    rw [hp] at hstart
    exact hstart
  | _ =>
    rw [hp] at hs
    cases hs

instance : (a : Act) → Decidable (Undisturbed a)
  | .startRaises | .rebuildRaises _ | .close => isFalse id
  | .start | .write _ | .limits _ | .request | .rebuild _ | .event _ | .submit | .fire _
  | .loopEnds => isTrue trivial

instance (s : Lifecycle) (config : RuntimeConfig) (ok : Bool) : Decidable (Stands s config ok) :=
  inferInstanceAs (Decidable (∃ config' ∈ s.config,
    config' = config ∨ (config', ok) ∈ s.verdicts ∧ gateRoots config' ok = gateRoots config ok))

instance (s : Lifecycle) : (a : Act) → Decidable (Unswapped s a)
  | .start => inferInstanceAs (Decidable (∀ entry ∈ s.start.verdict, Stands s entry.1 entry.2))
  | .startRaises | .rebuildRaises _ | .close | .write _ | .limits _ | .request | .rebuild _
  | .event _ | .submit | .fire _ | .loopEnds => isTrue trivial

/-- A rebuild after the database has been emptied, once the loop is there. -/
theorem one_configuration_rebuilt : ∃ s,
    run (step healthy) (init Engine.plexDb roomy true)
      (startup ++ .write ⟨[], [], []⟩ :: .request :: List.replicate 8 (.rebuild 0)) = some s ∧
    s.start.consumes = true ∧ Coherent healthy s := by
  have h1 : run (guarded (step healthy) fun s a => Undisturbed a ∧ Unswapped s a)
      (init Engine.plexDb roomy true) (List.replicate 8 .start) = some _ := rfl
  have h2 := (Reach.of_run h1).tail
    (show Undisturbed .start ∧ Unswapped _ .start from
      ⟨trivial, fun entry he => (by cases he; exact ⟨_, rfl, .inl rfl⟩)⟩)
    (show step healthy _ .start = some _ from rfl)
  have h3 := h2.trans (.of_run
    (show run (guarded (step healthy) fun s a => Undisturbed a ∧ Unswapped s a) _
      (.write ⟨[], [], []⟩ :: .request :: List.replicate 8 (.rebuild 0)) = some _ from rfl))
  exact ⟨_, rfl, rfl, one_configuration h3 rfl⟩

/-- A rebuild removes the only server while `start` measures the watch limit. -/
def overtaken : List Act :=
  List.replicate 8 .start ++ .write ⟨[], [], []⟩ :: .request :: List.replicate 7 (.rebuild 0) ++
    [.start]

/-- The roots are those of the old configuration. -/
theorem configurations_mixed : ¬ ∀ (host : Host) (db : Db) (fits : List Str → List Str → Bool)
    (park : Bool) (s : Lifecycle),
    Reach (step host) (fun _ a => Undisturbed a) (init db fits park) s → s.start.consumes = true →
      Coherent host s := by
  intro h
  have hrun : run (guarded (step healthy) fun _ a => Undisturbed a) (init Engine.plexDb roomy true)
      overtaken = some _ := rfl
  obtain ⟨config, ok, hpiped, -, hroots, -⟩ := h _ _ _ _ _ (.of_run hrun) rfl
  have hstored := Option.some.inj hpiped.stored
  subst hstored
  cases ok with
  | false => cases hroots
  | true => cases hroots

end Lifecycle
end MediaScanMonitor
