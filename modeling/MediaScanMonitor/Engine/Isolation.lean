import MediaScanMonitor.Config.Content
import MediaScanMonitor.Engine.Failure

/-!
# One bad server

A server without an adapter is skipped, and the others run. A server whose row cannot be read makes
`build_runtime_config` raise, and with it `start` and every `rebuild`.
-/

namespace MediaScanMonitor
open Text Transition History
open Engine (readStep enterGate gateStep)
namespace Lifecycle

variable {host : Host} {db : Db} {s s' u v : Lifecycle} {a : Act} {i : Nat}

/-- Only `start` goes on, and does not raise. -/
def StartGoes (_ : Lifecycle) (a : Act) : Prop :=
  a = .start

/-- Only the call with the number `i` goes on, and does not raise. -/
def CallGoes (i : Nat) (_ : Lifecycle) (a : Act) : Prop :=
  a = .rebuild i

/-- Every enabled server that has a secret and an adapter has its `ServerRuntime`, its adapter with
an open client, and one route for each enabled folder. -/
def Serves (host : Host) (db : Db) (u : Lifecycle) : Prop :=
  ∃ config, u.config = some config ∧
    ∀ server ∈ db.servers, server.enabled = true →
      ∀ secret, resolveSecret host.decrypt server = some secret →
        host.create (server.runtime secret) = true →
        config.servers.lookup server.id = some (server.runtime secret) ∧
        (∃ client, (server.id, ⟨server.runtime secret, client⟩) ∈ u.adapters ∧
          (server.id, client) ∈ u.clients) ∧
        config.routes.filter (fun r => r.serverId = server.id) = server.routes host.lower db

/-- `start` does not raise, and what it leaves serves the others. -/
def StartServes (host : Host) (s : Lifecycle) : Prop :=
  ∃ s', Reach (step host) StartGoes s s' ∧ (s'.start = .consuming [] ∨ s'.start = .returned) ∧
    Serves host s.db s'

/-- The call does not raise, and what it leaves serves the others. -/
def RebuildServes (host : Host) (s : Lifecycle) (i : Nat) : Prop :=
  ∃ s', Reach (step host) (CallGoes i) s s' ∧ s'.rebuilds[i]? = some .returned ∧
    Serves host s.db s'

/-- Every enabled server can be read. -/
def AllReadable (host : Host) (db : Db) : Prop :=
  ∀ server ∈ db.servers, server.enabled = true → server.Readable host.decrypt db

lemma Installed.readable (h : Installed host db u) : AllReadable host db := by
  obtain ⟨config, hconfig, -⟩ := h
  exact buildRuntimeConfig_readable.1 ⟨config, hconfig⟩

lemma Installed.serves (h : Installed host db u) (hids : (db.servers.map Server.id).Nodup) :
    Serves host db u := by
  obtain ⟨config, hconfig, hstored, hbuilt⟩ := h
  refine ⟨config, hstored, fun server hs he secret hsecret hcreate => ?_⟩
  obtain ⟨hlookup, hroutes⟩ := (buildRuntimeConfig_has hconfig).entry hids hs he hsecret
  refine ⟨hlookup, ?_, hroutes⟩
  -- the item is not filtered out, so there is an adapter for it
  have hitem : (⟨server.id, server.runtime secret⟩ : Item) ∈
      config.servers.entries.filter fun item => host.create item.2 :=
    List.mem_filter.2 ⟨AList.mem_lookup_iff.1 hlookup, hcreate⟩
  rw [← hbuilt.adapters] at hitem
  obtain ⟨⟨id, adapter⟩, hmem, heq⟩ := List.mem_map.1 hitem
  obtain ⟨rfl, hserver⟩ := Sigma.mk.inj heq
  obtain ⟨runtime, client⟩ := adapter
  cases hserver
  refine ⟨client, hmem, ?_⟩
  rw [show u.clients = _ from hbuilt.clients]
  exact List.mem_map_of_mem hmem

/-! ## From the run to the database -/

/-- What `start` has read is the database. -/
def AtBoot (host : Host) (db : Db) (u : Lifecycle) : Startup → Prop
  | .idle => True
  | .assembling (.reading r) => r.Of (u.platform host) db
  | .assembling (.building config rest built) =>
    buildRuntimeConfig host.lower host.decrypt db = some config ∧ u.config = some config ∧
      Assembly.Sound host (.building config rest built)
  | .assembling (.gating _ _ _) => Installed host db u
  | .consuming _ => Installed host db u
  | .returned => Installed host db u
  | .ended => True
  | .raised => True

lemma atBoot_step (hdb : u.db = db) (h : AtBoot host db u u.start)
    (hs : step host u .start = some v) :
    v.db = db ∧ AtBoot host db v v.start := by
  cases startStep_cases hs with
  | begin => exact ⟨hdb, trivial⟩
  | read r r' hp hread =>
    rw [hp] at h
    rw [hdb] at hread
    exact ⟨hdb, Reading.Of.step h hread⟩
  | store r config hp hread =>
    rw [hp] at h
    rw [hdb] at hread
    exact ⟨hdb, Reading.Of.step h hread, rfl, .start config⟩
  | round config item rest built hp =>
    rw [hp] at h
    exact ⟨hdb, h.1, h.2.1, h.2.2.round _⟩
  | wire config built hp =>
    rw [hp] at h
    exact ⟨hdb, config, h.1, h.2.1, h.2.2.built⟩
  | gate config built g hp =>
    rw [hp] at h
    obtain ⟨config', hinstalled⟩ := h
    exact ⟨hdb, config', hinstalled⟩
  | enter config built ok hp =>
    rw [hp] at h
    obtain ⟨config', hinstalled⟩ := h
    unfold Lifecycle.enter
    split
    · exact ⟨hdb, config', hinstalled⟩
    · exact ⟨hdb, config', hinstalled⟩

lemma atBoot_of_reach (h : Reach (step host) StartGoes s s') (hs : s.start = .idle) :
    s'.db = s.db ∧ AtBoot host s.db s' s'.start := by
  apply h.invariant (P := fun u => u.db = s.db ∧ AtBoot host s.db u u.start)
  · rw [hs]
    exact ⟨rfl, trivial⟩
  · intro u a v hu hg hstep
    subst hg
    exact atBoot_step hu.1 hu.2 hstep

lemma StartServes.readable (h : StartServes host s) (hs : s.start = .idle) :
    AllReadable host s.db := by
  obtain ⟨s', hreach, hend, -⟩ := h
  obtain ⟨-, hboot⟩ := atBoot_of_reach hreach hs
  cases hend with
  | inl hp =>
    rw [hp] at hboot
    exact Installed.readable hboot
  | inr hp =>
    rw [hp] at hboot
    exact Installed.readable hboot

lemma alone_of_reach (h : Reach (step host) (CallGoes i) s s') (hb : Bounded s) (hw : s.wired = true)
    (hi : s.rebuilds[i]? = some .pending) : Alone host s i s' := by
  apply h.invariant (.start hb hw hi)
  intro u a v hu hg hstep
  subst hg
  exact hu.step (a := .rebuild i) rfl hstep

/-! ## From the database to the run -/

/-- `start` gets through. -/
def StartEnds (host : Host) (u : Lifecycle) : Prop :=
  ∃ v, Reach (step host) StartGoes u v ∧ (v.start = .consuming [] ∨ v.start = .returned)

lemma StartEnds.of_step (hs : step host u .start = some v) (h : StartEnds host v) :
    StartEnds host u := by
  obtain ⟨w, hreach, hend⟩ := h
  exact ⟨w, .head rfl hs hreach, hend⟩

lemma startEnds_gate {config : RuntimeConfig} {built : Built} (g : Gate)
    (hp : u.start = .assembling (.gating config built g)) : StartEnds host u := by
  have hverdict : ∀ {u : Lifecycle} {ok : Bool},
      u.start = .assembling (.gating config built (.verdict ok)) → StartEnds host u := by
    intro u ok hp
    have hs : step host u .start = some (u.enter config ok) := by
      show startStep host u = _
      unfold startStep
      rw [hp]
    refine ⟨_, .head rfl hs .refl, ?_⟩
    unfold Lifecycle.enter
    split
    · exact .inr rfl
    · exact .inl rfl
  have hgate : ∀ {u : Lifecycle} {g : Gate}, u.start = .assembling (.gating config built g) →
      (∀ ok, g ≠ .verdict ok) → step host u .start =
        some { u with
          start := .assembling (.gating config built (gateStep (u.platform host) u.db config g)) } := by
    intro u g hp hne
    show startStep host u = _
    unfold startStep
    rw [hp]
    cases g with
    | verdict ok => exact absurd rfl (hne ok)
    | _ => rfl
  cases g with
  | verdict ok => exact hverdict hp
  | limit policy => exact .of_step (hgate hp nofun) (hverdict rfl)
  | policy => exact .of_step (hgate hp nofun) (.of_step (hgate rfl nofun) (hverdict rfl))

lemma startEnds_build {config : RuntimeConfig} (rest : List Item) (built : Built)
    (hp : u.start = .assembling (.building config rest built)) : StartEnds host u := by
  induction rest generalizing u built with
  | nil =>
    have hs : step host u .start = some (u.wire config built) := by
      show startStep host u = _
      unfold startStep
      rw [hp]
    exact .of_step hs (startEnds_gate _ rfl)
  | cons item rest ih =>
    have hs : step host u .start = some { u.construct host item with
        start := .assembling (.building config rest (built.round host u.nextClient item)) } := by
      show startStep host u = _
      unfold startStep
      rw [hp]
    exact .of_step hs (ih _ rfl)

lemma readStep_cons {server : Server} {rest : List Server} {config config' : RuntimeConfig}
    (h : config.addServer host.lower host.decrypt server (u.db.listFolders server.id) =
      some config') :
    readStep (u.platform host) u.db (.folders (server :: rest) config) =
      some (.inl (.folders rest config')) :=
  Option.map_eq_some_iff.2 ⟨config', h, rfl⟩

lemma startEnds_read (servers : List Server) (config config' : RuntimeConfig)
    (hp : u.start = .assembling (.reading (.folders servers config)))
    (h : servers.foldlM (fun config server =>
      config.addServer host.lower host.decrypt server (u.db.listFolders server.id)) config =
        some config') : StartEnds host u := by
  induction servers generalizing u config with
  | nil =>
    have hs : step host u .start = some { u with
        config := some config
        start := .assembling (.building config config.servers.entries ⟨[], []⟩) } := by
      show startStep host u = _
      unfold startStep
      rw [hp]
      rfl
    exact .of_step hs (startEnds_build _ _ rfl)
  | cons server rest ih =>
    obtain ⟨config'', hadd, hrest⟩ := Option.bind_eq_some_iff.1 h
    have hs : step host u .start =
        some { u with start := .assembling (.reading (.folders rest config'')) } := by
      show startStep host u = _
      unfold startStep
      rw [hp]
      exact Option.map_eq_some_iff.2 ⟨_, readStep_cons hadd, rfl⟩
    exact .of_step hs (ih _ rfl hrest)

lemma startEnds_of_readable (h : AllReadable host s.db) (hs : s.start = .idle) :
    StartEnds host s := by
  have hconfig : ∃ config, buildRuntimeConfig host.lower host.decrypt s.db = some config :=
    buildRuntimeConfig_readable.2 h
  obtain ⟨config, hconfig⟩ := hconfig
  have h1 : step host s .start =
      some { s with state := .starting, start := .assembling (.reading .servers) } := by
    show startStep host s = _
    unfold startStep
    rw [hs]
  apply StartEnds.of_step h1
  apply StartEnds.of_step rfl
  exact startEnds_read _ _ config rfl hconfig

/-! ## The same for a rebuild -/

/-- The call gets through. -/
def CallEnds (host : Host) (i : Nat) (u : Lifecycle) : Prop :=
  ∃ v, Reach (step host) (CallGoes i) u v ∧ v.rebuilds[i]? = some .returned

lemma CallEnds.of_step (hs : u.rebuildStep host i = some v) (h : CallEnds host i v) :
    CallEnds host i u := by
  obtain ⟨w, hreach, hend⟩ := h
  exact ⟨w, .head (a := .rebuild i) rfl hs hreach, hend⟩

lemma rebuilds_setRebuild {c : Rebuild} (hi : u.rebuilds[i]? = some c) (c' : Rebuild) :
    (u.setRebuild i c').rebuilds[i]? = some c' :=
  List.getElem?_set_self (lt_length hi)

lemma callEnds_close (clients : List Client) (hi : u.rebuilds[i]? = some (.closing clients)) :
    CallEnds host i u := by
  induction clients generalizing u with
  | nil =>
    have hs : u.rebuildStep host i = some (u.setRebuild i .returned) := by
      unfold rebuildStep
      rw [hi]
    exact .of_step hs ⟨_, .refl, rebuilds_setRebuild hi _⟩
  | cons client rest ih =>
    have hs : u.rebuildStep host i = some ((u.closeClient client).setRebuild i (.closing rest)) := by
      unfold rebuildStep
      rw [hi]
    exact .of_step hs (ih (List.getElem?_set_self (lt_length hi)))

lemma callEnds_gate {config : RuntimeConfig} {built : Built} (g : Gate)
    (hi : u.rebuilds[i]? = some (.assembling (.gating config built g))) : CallEnds host i u := by
  have hverdict : ∀ {u : Lifecycle} {ok : Bool},
      u.rebuilds[i]? = some (.assembling (.gating config built (.verdict ok))) →
        CallEnds host i u := by
    intro u ok hi
    have hs : u.rebuildStep host i = some ((u.swap config built ok).setRebuild i
        (.closing (u.clients.map Prod.snd))) := by
      unfold rebuildStep
      rw [hi]
    exact .of_step hs (callEnds_close _ (List.getElem?_set_self (lt_length hi)))
  have hgate : ∀ {u : Lifecycle} {g : Gate},
      u.rebuilds[i]? = some (.assembling (.gating config built g)) → (∀ ok, g ≠ .verdict ok) →
      u.rebuildStep host i = some (u.setRebuild i
        (.assembling (.gating config built (gateStep (u.platform host) u.db config g)))) := by
    intro u g hi hne
    unfold rebuildStep
    rw [hi]
    cases g with
    | verdict ok => exact absurd rfl (hne ok)
    | _ => rfl
  have hlimit : ∀ {u : Lifecycle} {policy : Option Str},
      u.rebuilds[i]? = some (.assembling (.gating config built (.limit policy))) →
        CallEnds host i u :=
    fun hi => .of_step (hgate hi nofun) (hverdict (rebuilds_setRebuild hi _))
  cases g with
  | verdict ok => exact hverdict hi
  | limit policy => exact hlimit hi
  | policy => exact .of_step (hgate hi nofun) (hlimit (rebuilds_setRebuild hi _))

lemma callEnds_build {config : RuntimeConfig} (rest : List Item) (built : Built)
    (hi : u.rebuilds[i]? = some (.assembling (.building config rest built))) :
    CallEnds host i u := by
  induction rest generalizing u built with
  | nil =>
    have hs : u.rebuildStep host i = some (u.setRebuild i
        (.assembling (.gating config built (enterGate config)))) := by
      unfold rebuildStep
      rw [hi]
    exact .of_step hs (callEnds_gate _ (rebuilds_setRebuild hi _))
  | cons item rest ih =>
    have hs : u.rebuildStep host i = some ((u.construct host item).setRebuild i
        (.assembling (.building config rest (built.round host u.nextClient item)))) := by
      unfold rebuildStep
      rw [hi]
    exact .of_step hs (ih _ (List.getElem?_set_self (lt_length hi)))

lemma callEnds_read (servers : List Server) (config config' : RuntimeConfig)
    (hi : u.rebuilds[i]? = some (.assembling (.reading (.folders servers config))))
    (h : servers.foldlM (fun config server =>
      config.addServer host.lower host.decrypt server (u.db.listFolders server.id)) config =
        some config') : CallEnds host i u := by
  induction servers generalizing u config with
  | nil =>
    have hs : u.rebuildStep host i = some (u.setRebuild i
        (.assembling (.building config config.servers.entries ⟨[], []⟩))) := by
      unfold rebuildStep
      rw [hi]
      rfl
    exact .of_step hs (callEnds_build _ _ (rebuilds_setRebuild hi _))
  | cons server rest ih =>
    obtain ⟨config'', hadd, hrest⟩ := Option.bind_eq_some_iff.1 h
    have hs : u.rebuildStep host i = some (u.setRebuild i
        (.assembling (.reading (.folders rest config'')))) := by
      unfold rebuildStep
      rw [hi]
      exact Option.map_eq_some_iff.2 ⟨_, readStep_cons hadd, rfl⟩
    exact .of_step hs (ih _ (rebuilds_setRebuild hi _) hrest)

lemma callEnds_of_readable (h : AllReadable host s.db) (hw : s.wired = true)
    (hfree : ∀ c ∈ s.rebuilds, c.locked = false) (hi : s.rebuilds[i]? = some .pending) :
    CallEnds host i s := by
  have hconfig : ∃ config, buildRuntimeConfig host.lower host.decrypt s.db = some config :=
    buildRuntimeConfig_readable.2 h
  obtain ⟨config, hconfig⟩ := hconfig
  have h1 : s.rebuildStep host i = some (s.setRebuild i .waiting) := by
    unfold rebuildStep
    rw [hi]
    show some (s.setRebuild i (if s.wired then Rebuild.waiting else .raised)) = _
    rw [if_pos hw]
  apply CallEnds.of_step h1
  have hi1 := rebuilds_setRebuild hi .waiting
  have hfree1 : (s.setRebuild i .waiting).rebuilds.any Rebuild.locked = false := by
    apply List.any_eq_false.2
    intro c hc
    cases List.mem_or_eq_of_mem_set hc with
    | inl hc =>
      rw [hfree c hc]
      exact Bool.false_ne_true
    | inr hc =>
      rw [hc]
      exact Bool.false_ne_true
  have h2 : (s.setRebuild i .waiting).rebuildStep host i =
      some ((s.setRebuild i .waiting).setRebuild i (.assembling (.reading .servers))) := by
    unfold rebuildStep
    rw [hi1]
    show (if _ then none else some _) = _
    rw [hfree1]
    rfl
  apply CallEnds.of_step h2
  have hi2 := rebuilds_setRebuild hi1 (.assembling (.reading .servers))
  have h3 : ((s.setRebuild i .waiting).setRebuild i (.assembling (.reading .servers))).rebuildStep
      host i = some (((s.setRebuild i .waiting).setRebuild i
        (.assembling (.reading .servers))).setRebuild i
          (.assembling (.reading (.folders (s.db.listServers true) .empty)))) := by
    unfold rebuildStep
    rw [hi2]
    rfl
  apply CallEnds.of_step h3
  exact callEnds_read _ _ config (rebuilds_setRebuild hi2 _) hconfig

/-! ## The result -/

lemma RebuildServes.readable (h : RebuildServes host s i) (hb : Bounded s) (hw : s.wired = true)
    (hi : s.rebuilds[i]? = some .pending) : AllReadable host s.db := by
  obtain ⟨s', hreach, hend, -⟩ := h
  exact Installed.readable ((alone_of_reach hreach hb hw hi).at hend)

lemma startServes_of_readable (h : AllReadable host s.db) (hs : s.start = .idle)
    (hids : (s.db.servers.map Server.id).Nodup) : StartServes host s := by
  obtain ⟨s', hreach, hend⟩ := startEnds_of_readable h hs
  obtain ⟨-, hboot⟩ := atBoot_of_reach hreach hs
  refine ⟨s', hreach, hend, ?_⟩
  cases hend with
  | inl hp =>
    rw [hp] at hboot
    exact Installed.serves hboot hids
  | inr hp =>
    rw [hp] at hboot
    exact Installed.serves hboot hids

lemma rebuildServes_of_readable (h : AllReadable host s.db) (hb : Bounded s) (hw : s.wired = true)
    (hfree : ∀ c ∈ s.rebuilds, c.locked = false) (hi : s.rebuilds[i]? = some .pending)
    (hids : (s.db.servers.map Server.id).Nodup) : RebuildServes host s i := by
  obtain ⟨s', hreach, hend⟩ := callEnds_of_readable h hw hfree hi
  have hinstalled := (alone_of_reach hreach hb hw hi).at hend
  exact ⟨s', hreach, hend, Installed.serves hinstalled hids⟩

/-- On a database without two servers of one id, `start` and, in whatever state of a wired engine,
`rebuild` serve the other servers just if every enabled server can be read. -/
theorem serves_iff_readable (hids : (db.servers.map Server.id).Nodup) :
    (∀ fits park, StartServes host (init db fits park) ↔ AllReadable host db) ∧
    ∀ db' fits park s i, Reach (step host) Free (init db' fits park) s → s.db = db →
      s.wired = true → (∀ c ∈ s.rebuilds, c.locked = false) → s.rebuilds[i]? = some .pending →
      (RebuildServes host s i ↔ AllReadable host db) := by
  constructor
  · intro fits park
    exact ⟨fun h => h.readable rfl, fun h => startServes_of_readable h rfl hids⟩
  · rintro db' fits park s i hs rfl hw hfree hi
    have hb : Bounded s :=
      hs.invariant (bounded_init db' fits park) fun hu _ hstep => hu.step hstep
    exact ⟨fun h => h.readable hb hw hi, fun h => rebuildServes_of_readable h hb hw hfree hi hids⟩

/-- The one server of the sample is served. -/
theorem serves_iff_readable_plex : StartServes healthy (init Engine.plexDb roomy true) := by
  apply ((serves_iff_readable (by decide)).1 roomy true).2
  intro server hs _
  obtain rfl := List.mem_singleton.1 hs
  exact ⟨⟨none, rfl⟩, fun _ => ⟨[.created], rfl⟩⟩

/-- The sample with a second server, whose secret was encrypted with another key. -/
def foreignDb : Db where
  servers := Engine.plexDb.servers ++ [⟨2, "hook".toList, .webhook, "http://hook".toList,
    some "token".toList, .library, .off, 30, 3, true, none, none, none, .custom, "created".toList⟩]
  folders := Engine.plexDb.folders
  settings := []

/-- The second server stops the first one. -/
theorem bad_server_stops_all : ¬ ∀ (host : Host) (db : Db) (fits : List Str → List Str → Bool)
    (park : Bool), (db.servers.map Server.id).Nodup → StartServes host (init db fits park) := by
  intro h
  have hall :=
    (h ⟨lowerAscii, fun _ => none, fun _ => true⟩ foreignDb roomy true (by decide)).readable rfl
  obtain ⟨⟨secret, hsecret⟩, -⟩ := hall _ (List.mem_cons_of_mem _ List.mem_cons_self) rfl
  cases hsecret

end Lifecycle
end MediaScanMonitor
