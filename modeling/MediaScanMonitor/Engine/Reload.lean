import MediaScanMonitor.Engine.Isolation

/-!
# Reload

`rebuild` is there so that a write needs no restart. A call that was made after the last write reads
what a new engine would read, and its swap leaves the engine as `start` would: the same
configuration, policies, adapters, roots and state. What the loop, the timers and other calls do in
the meantime makes no difference to these.
-/

namespace MediaScanMonitor
open Text Transition History
open Engine (readStep enterGate gateStep gateRoots gateState)

/-- What is read of the database and of the limits. -/
def Host.on (host : Host) (fits : List Str → List Str → Bool) : Platform :=
  ⟨host.lower, host.decrypt, fits⟩

/-- What the coroutine has read is `db`, and the limits are `fits`. -/
def Assembly.Of (host : Host) (db : Db) (fits : List Str → List Str → Bool) : Assembly → Prop
  | .reading r => r.Of (host.on fits) db
  | .building config rest built =>
    buildRuntimeConfig host.lower host.decrypt db = some config ∧
      Assembly.Sound host (.building config rest built)
  | .gating config built g =>
    buildRuntimeConfig host.lower host.decrypt db = some config ∧
      built.Of host config.servers.entries ∧ g.Of (host.on fits) db config

/-- `start` is past its roots. -/
def Startup.Over : Startup → Prop
  | .consuming _ => True
  | .ended => True
  | _ => False

/-- The call has done its swap. -/
def Rebuild.Swapped : Rebuild → Prop
  | .closing _ => True
  | .returned => True
  | _ => False

/-- What a call has read in the meantime. -/
def Rebuild.Of (host : Host) (db : Db) (fits : List Str → List Str → Bool) : Rebuild → Prop
  | .assembling a => a.Of host db fits
  | _ => True

namespace Lifecycle

variable {host : Host} {db : Db} {fits : List Str → List Str → Bool} {park : Bool}
  {s s' t u v : Lifecycle} {a : Act} {i j : Nat} {config : RuntimeConfig} {built : Built}

/-- The engine is what a configuration read from `db` makes of it, with the verdict of the gate. -/
def Follows (host : Host) (db : Db) (fits : List Str → List Str → Bool) (s : Lifecycle) : Prop :=
  ∃ config, buildRuntimeConfig host.lower host.decrypt db = some config ∧ Piped host s config ∧
    s.roots = gateRoots config (gateOk (host.on fits) db config) ∧
    s.state = gateState (gateOk (host.on fits) db config)

/-- Two engines with the same parts, but for the clients that their adapters have captured. -/
structure Alike (s t : Lifecycle) : Prop where
  config : s.config = t.config
  servers : s.debouncer.servers = t.debouncer.servers
  adapters : s.adapters.map (fun entry => (entry.1, entry.2.server)) =
    t.adapters.map fun entry => (entry.1, entry.2.server)
  clients : s.clients.map Prod.fst = t.clients.map Prod.fst
  roots : s.roots = t.roots
  state : s.state = t.state

lemma Follows.same (h : Follows host db fits s) (hp : SameParts s s') :
    Follows host db fits s' := by
  obtain ⟨config, hconfig, hpiped, hroots, hstate⟩ := h
  exact ⟨config, hconfig, hpiped.same hp, hp.roots.trans hroots, hp.state.trans hstate⟩

/-- The adapters are those of the items. -/
lemma adapters_of (h : built.Of host config.servers.entries) :
    built.adapters.map (fun entry => (entry.1, entry.2.server)) =
      (config.servers.entries.filter fun item => host.create item.2).map
        fun item => (item.1, item.2) := by
  rw [← h.adapters, List.map_map]
  rfl

lemma clients_of (h : built.Of host config.servers.entries) :
    built.clients.map Prod.fst =
      (config.servers.entries.filter fun item => host.create item.2).map Sigma.fst := by
  rw [h.clients, ← h.adapters, List.map_map, List.map_map]
  rfl

/-- The database and the limits determine the parts. -/
lemma Follows.alike (hs : Follows host db fits s) (ht : Follows host db fits t) : Alike s t := by
  obtain ⟨config, hconfig, hpiped, hroots, hstate⟩ := hs
  obtain ⟨config', hconfig', hpiped', hroots', hstate'⟩ := ht
  obtain rfl := Option.some.inj (hconfig.symm.trans hconfig')
  constructor
  · exact hpiped.stored.trans hpiped'.stored.symm
  · exact hpiped.servers.trans hpiped'.servers.symm
  · exact (adapters_of hpiped.built).trans (adapters_of hpiped'.built).symm
  · exact (clients_of hpiped.built).trans (clients_of hpiped'.built).symm
  · exact hroots.trans hroots'.symm
  · exact hstate.trans hstate'.symm

/-! ## A restart -/

/-- Where a `start` on `db` is. -/
def AtRestart (host : Host) (db : Db) (fits : List Str → List Str → Bool) (u : Lifecycle) :
    Startup → Prop
  | .idle => True
  | .assembling (.reading r) => Assembly.Of host db fits (.reading r)
  | .assembling (.building config rest built) =>
    Assembly.Of host db fits (.building config rest built) ∧ u.config = some config
  | .assembling (.gating config built g) =>
    Assembly.Of host db fits (.gating config built g) ∧ Piped host u config
  | .consuming _ => Follows host db fits u
  -- it parks
  | .returned => False
  | .ended => True
  | .raised => True

/-- It goes by itself, and the database and the limits stay. -/
structure Restarting (host : Host) (db : Db) (fits : List Str → List Str → Bool) (u : Lifecycle) :
    Prop where
  same_db : u.db = db
  same_fits : u.fits = fits
  parks : u.park = true
  start : AtRestart host db fits u u.start

lemma platform_eq (h : u.fits = fits) : u.platform host = host.on fits := by
  rw [Lifecycle.platform, h]
  rfl

lemma Restarting.step (h : Restarting host db fits u) (hs : step host u .start = some v) :
    Restarting host db fits v := by
  obtain ⟨rfl, hfits, hpark, hstart⟩ := h
  have hplatform : u.platform host = host.on fits := platform_eq hfits
  cases startStep_cases hs with
  | begin => exact ⟨rfl, hfits, hpark, trivial⟩
  | read r r' hp hread =>
    rw [hp] at hstart
    rw [hplatform] at hread
    exact ⟨rfl, hfits, hpark, Reading.Of.step hstart hread⟩
  | store r config hp hread =>
    rw [hp] at hstart
    rw [hplatform] at hread
    exact ⟨rfl, hfits, hpark, ⟨Reading.Of.step hstart hread, .start config⟩, rfl⟩
  | round config item rest built hp =>
    rw [hp] at hstart
    obtain ⟨⟨hconfig, hsound⟩, hstored⟩ := hstart
    exact ⟨rfl, hfits, hpark, ⟨hconfig, hsound.round _⟩, hstored⟩
  | wire config built hp =>
    rw [hp] at hstart
    obtain ⟨⟨hconfig, hsound⟩, hstored⟩ := hstart
    refine ⟨rfl, hfits, hpark, ⟨hconfig, hsound.built, Gate.of_enterGate _ _ config⟩, ?_⟩
    exact ⟨hstored, rfl, hsound.built⟩
  | gate config built g hp =>
    rw [hp] at hstart
    obtain ⟨⟨hconfig, hbuilt, hg⟩, hpiped⟩ := hstart
    refine ⟨rfl, hfits, hpark, ⟨hconfig, hbuilt, ?_⟩,
      ⟨hpiped.stored, hpiped.servers, hpiped.built⟩⟩
    rw [hplatform]
    exact hg.step
  | enter config built ok hp =>
    rw [hp] at hstart
    obtain ⟨⟨hconfig, hbuilt, hok⟩, hpiped⟩ := hstart
    obtain rfl : ok = _ := hok
    have henter : u.enter config (gateOk (host.on fits) u.db config) =
        { u with
          roots := gateRoots config (gateOk (host.on fits) u.db config)
          state := gateState (gateOk (host.on fits) u.db config)
          start := .consuming []
          verdicts := (config, gateOk (host.on fits) u.db config) :: u.verdicts } := by
      rw [Lifecycle.enter, hpark, Bool.not_true, Bool.and_false]
      rfl
    rw [henter]
    exact ⟨rfl, hfits, hpark, config, hconfig,
      ⟨hpiped.stored, hpiped.servers, hpiped.built⟩, rfl, rfl⟩

/-- A new engine gets to its loop, as long as every enabled server can be read. -/
lemma restart (h : AllReadable host db) (fits : List Str → List Str → Bool) :
    ∃ t, Reach (step host) StartGoes (init db fits true) t ∧ t.start = .consuming [] ∧
      Follows host db fits t := by
  obtain ⟨t, hreach, hend⟩ := startEnds_of_readable (s := init db fits true) h rfl
  have hrestarting : Restarting host db fits t := by
    apply hreach.invariant (P := Restarting host db fits) ⟨rfl, rfl, rfl, trivial⟩
    intro u a v hu hg hs
    subst hg
    exact hu.step hs
  have hstart := hrestarting.start
  rcases hend with hp | hp
  · rw [hp] at hstart
    exact ⟨t, hreach, hp, hstart⟩
  · rw [hp] at hstart
    exact hstart.elim

/-! ## A reload -/

/-- The database and the limits stay, and the engine is not closed. -/
def Untouched (_ : Lifecycle) : Act → Prop
  | .write _ => False
  | .limits _ => False
  | .close => False
  | _ => True

instance (s : Lifecycle) : (a : Act) → Decidable (Untouched s a)
  | .write _ => isFalse id
  | .limits _ => isFalse id
  | .close => isFalse id
  | .start => isTrue trivial
  | .startRaises => isTrue trivial
  | .request => isTrue trivial
  | .rebuild _ => isTrue trivial
  | .rebuildRaises _ => isTrue trivial
  | .event _ => isTrue trivial
  | .submit => isTrue trivial
  | .fire _ => isTrue trivial
  | .loopEnds => isTrue trivial

/-- The invariant: once the call with the number `i` has done its swap, the engine follows the
database; other calls that swap make no difference. -/
structure Reloading (host : Host) (db : Db) (fits : List Str → List Str → Bool) (i : Nat)
    (u : Lifecycle) : Prop where
  same_db : u.db = db
  same_fits : u.fits = fits
  start : Startup.Over u.start
  rebuilds : ∀ c ∈ u.rebuilds, c.Of host db fits
  call : i < u.rebuilds.length
  swapped : ∀ c, u.rebuilds[i]? = some c → c.Swapped → Follows host db fits u

/-- A step that leaves the parts alone. -/
lemma Reloading.same (h : Reloading host db fits i u) (hp : SameParts u v) (hdb : v.db = u.db)
    (hfits : v.fits = u.fits) (hstart : Startup.Over v.start) (hcalls : v.rebuilds = u.rebuilds) :
    Reloading host db fits i v where
  same_db := hdb.trans h.same_db
  same_fits := hfits.trans h.same_fits
  start := hstart
  rebuilds := by
    rw [hcalls]
    exact h.rebuilds
  call := by
    rw [hcalls]
    exact h.call
  swapped c hc hs := by
    rw [hcalls] at hc
    exact (h.swapped c hc hs).same hp

/-- A call goes on; if it is the call in question, it has not just done its swap. -/
lemma Reloading.move {c c' : Rebuild} (h : Reloading host db fits i u) (hp : SameParts u v)
    (hdb : v.db = u.db) (hfits : v.fits = u.fits) (hstart : v.start = u.start)
    (hcalls : v.rebuilds = u.rebuilds.set j c') (hj : u.rebuilds[j]? = some c)
    (hof : c'.Of host db fits) (hswap : c'.Swapped → c.Swapped) : Reloading host db fits i v where
  same_db := hdb.trans h.same_db
  same_fits := hfits.trans h.same_fits
  start := by
    rw [hstart]
    exact h.start
  rebuilds x hx := by
    rw [hcalls] at hx
    rcases List.mem_or_eq_of_mem_set hx with hx | rfl
    · exact h.rebuilds x hx
    · exact hof
  call := by
    rw [hcalls, List.length_set]
    exact h.call
  swapped x hx hs := by
    rw [hcalls] at hx
    rcases getElem?_set_cases hx with ⟨rfl, rfl⟩ | ⟨-, hx⟩
    · exact (h.swapped c hj (hswap hs)).same hp
    · exact (h.swapped x hx hs).same hp

lemma Reloading.swap (h : Reloading host db fits i u) {c : Rebuild} {ok : Bool}
    (hc : c.Of host db fits) (hof : Assembly.Of host db fits (.gating config built (.verdict ok))) :
    Reloading host db fits i ((u.swap config built ok).setRebuild j c) := by
  obtain ⟨hconfig, hbuilt, hok⟩ := hof
  obtain rfl : ok = _ := hok
  refine ⟨h.same_db, h.same_fits, h.start, fun x hx => ?_, ?_, fun _ _ _ => ?_⟩
  · rcases List.mem_or_eq_of_mem_set hx with hx | rfl
    · exact h.rebuilds x hx
    · exact hc
  · show i < (u.rebuilds.set j c).length
    rw [List.length_set]
    exact h.call
  · exact ⟨config, hconfig, ⟨rfl, Debouncer.updateServers_servers _, hbuilt⟩, rfl, rfl⟩

lemma Reloading.rebuildCase (h : Reloading host db fits i u) (hc : RebuildCase host u j v) :
    Reloading host db fits i v := by
  have hat : ∀ {c : Rebuild}, u.rebuilds[j]? = some c → c.Of host db fits :=
    fun hj => h.rebuilds _ (List.mem_of_getElem? hj)
  have hplatform : u.platform host = host.on fits := platform_eq h.same_fits
  have hdb := h.same_db
  cases hc with
  | refuse hj =>
    exact h.move ⟨rfl, rfl, rfl, rfl, rfl, rfl, rfl, rfl⟩ rfl rfl rfl rfl hj trivial False.elim
  | wait hj =>
    exact h.move ⟨rfl, rfl, rfl, rfl, rfl, rfl, rfl, rfl⟩ rfl rfl rfl rfl hj trivial False.elim
  | lock hj =>
    exact h.move ⟨rfl, rfl, rfl, rfl, rfl, rfl, rfl, rfl⟩ rfl rfl rfl rfl hj trivial False.elim
  | read r r' hj hread =>
    have hof : r.Of (host.on fits) db := hat hj
    rw [hplatform, hdb] at hread
    exact h.move ⟨rfl, rfl, rfl, rfl, rfl, rfl, rfl, rfl⟩ rfl rfl rfl rfl hj
      (Reading.Of.step hof hread) False.elim
  | store r config hj hread =>
    have hof : r.Of (host.on fits) db := hat hj
    rw [hplatform, hdb] at hread
    exact h.move ⟨rfl, rfl, rfl, rfl, rfl, rfl, rfl, rfl⟩ rfl rfl rfl rfl hj
      ⟨Reading.Of.step hof hread, .start config⟩ False.elim
  | round config item rest built hj =>
    obtain ⟨hconfig, hsound⟩ := hat hj
    exact h.move ⟨rfl, rfl, rfl, rfl, rfl, rfl, rfl, rfl⟩ rfl rfl rfl rfl hj
      ⟨hconfig, hsound.round _⟩ False.elim
  | built config built hj =>
    obtain ⟨hconfig, hsound⟩ := hat hj
    exact h.move ⟨rfl, rfl, rfl, rfl, rfl, rfl, rfl, rfl⟩ rfl rfl rfl rfl hj
      ⟨hconfig, hsound.built, Gate.of_enterGate _ _ config⟩ False.elim
  | gate config built g hj =>
    obtain ⟨hconfig, hbuilt, hg⟩ := hat hj
    rw [hplatform, hdb]
    exact h.move ⟨rfl, rfl, rfl, rfl, rfl, rfl, rfl, rfl⟩ rfl rfl rfl rfl hj
      ⟨hconfig, hbuilt, hg.step⟩ False.elim
  | swap config built ok hj => exact h.swap trivial (hat hj)
  | close client rest hj =>
    exact h.move ⟨rfl, rfl, rfl, rfl, rfl, rfl, rfl, rfl⟩ rfl rfl rfl rfl hj trivial id
  | finish hj =>
    exact h.move ⟨rfl, rfl, rfl, rfl, rfl, rfl, rfl, rfl⟩ rfl rfl rfl rfl hj trivial id

lemma Reloading.step (h : Reloading host db fits i u) (hg : Untouched u a)
    (hs : step host u a = some v) : Reloading host db fits i v := by
  have hover := h.start
  cases step_cases hs with
  | start hc =>
    cases hc with
    | begin hp | read _ _ hp | store _ _ hp | round _ _ _ _ hp | wire _ _ hp | gate _ _ _ hp
    | enter _ _ _ hp =>
      rw [hp] at hover
      exact hover.elim
  | startRaises p hp =>
    rw [hp] at hover
    exact hover.elim
  | write => exact hg.elim
  | limits => exact hg.elim
  | request =>
    have hlen : i < (u.rebuilds ++ [Rebuild.pending]).length := by
      rw [List.length_append]
      exact Nat.lt_add_right _ h.call
    refine ⟨h.same_db, h.same_fits, hover, fun c hc => ?_, hlen, fun c hc hs => ?_⟩
    · rcases List.mem_append.1 hc with hc | hc
      · exact h.rebuilds c hc
      · cases List.mem_singleton.1 hc
        trivial
    · have hc' : u.rebuilds[i]? = some c := by
        rwa [List.getElem?_append_left h.call] at hc
      exact (h.swapped c hc' hs).same ⟨rfl, rfl, rfl, rfl, rfl, rfl, rfl, rfl⟩
  | rebuild j hc => exact h.rebuildCase hc
  | rebuildRaises j p hj =>
    exact h.move ⟨rfl, rfl, rfl, rfl, rfl, rfl, rfl, rfl⟩ rfl rfl rfl rfl hj trivial False.elim
  | event e inbox hp =>
    exact h.same ⟨rfl, rfl, rfl, rfl, rfl, rfl, rfl, rfl⟩ rfl rfl trivial rfl
  | submit req rest hp =>
    obtain ⟨late, hd, -⟩ := foldl_dispatch (u.debouncer.submit req).2
      { u with debouncer := (u.debouncer.submit req).1, start := .consuming rest }
    rw [hd]
    exact h.same ⟨rfl, Debouncer.submit_servers req, rfl, rfl, rfl, rfl, rfl, rfl⟩ rfl rfl trivial
      rfl
  | fire task d out hf =>
    obtain ⟨late, hd, -⟩ := foldl_dispatch out { u with debouncer := d }
    rw [hd]
    exact h.same ⟨rfl, Debouncer.fireAfter_servers hf, rfl, rfl, rfl, rfl, rfl, rfl⟩ rfl rfl hover
      rfl
  | loopEnds inbox hp =>
    exact h.same ⟨rfl, rfl, rfl, rfl, rfl, rfl, rfl, rfl⟩ rfl rfl trivial rfl
  | close => exact hg.elim

/-- A call that waits for the lock, which is free: whatever goes on in the meantime, with its swap the
engine becomes what a restart on the same database and limits would make of it. -/
theorem reload_restarts (hloop : s.start.consumes = true)
    (hfree : ∀ c ∈ s.rebuilds, c.locked = false)
    (hi : s.rebuilds[i]? = some .pending ∨ s.rebuilds[i]? = some .waiting)
    (h : Reach (step host) Untouched s s') {c : Rebuild} (hc : s'.rebuilds[i]? = some c)
    (hswapped : c.Swapped) :
    ∃ t, Reach (step host) StartGoes (init s.db s.fits true) t ∧ t.start = .consuming [] ∧
      Alike s' t := by
  have hlen : i < s.rebuilds.length := by
    rcases hi with hi | hi
    · exact lt_length hi
    · exact lt_length hi
  have hinit : Reloading host s.db s.fits i s := by
    refine ⟨rfl, rfl, ?_, fun c hc => ?_, hlen, fun c hc hs => ?_⟩
    · cases hp : s.start with
      | consuming inbox => trivial
      | _ =>
        rw [hp] at hloop
        cases hloop
    · cases c with
      | assembling p => cases hfree _ hc
      | _ => trivial
    · rcases hi with hi | hi
      · rw [hi] at hc
        cases hc
        exact hs.elim
      · rw [hi] at hc
        cases hc
        exact hs.elim
  have hreloading := h.invariant hinit fun hu hg hstep => hu.step hg hstep
  have hfollows := hreloading.swapped c hc hswapped
  have hreadable : AllReadable host s.db := by
    obtain ⟨config, hconfig, -⟩ := hfollows
    exact buildRuntimeConfig_readable.1 ⟨config, hconfig⟩
  obtain ⟨t, hreach, hstart, ht⟩ := restart hreadable s.fits
  exact ⟨t, hreach, hstart, hfollows.alike ht⟩

/-- The engine runs on an empty database when the first server is added. -/
def added : List Act :=
  List.replicate 5 .start ++ [.write Engine.plexDb, .request, .rebuild 0]

/-- The call goes on; a second one comes before its swap. -/
def reloaded : List Act :=
  .rebuild 0 :: .rebuild 0 :: .request :: List.replicate 7 (.rebuild 0)

theorem reload_restarts_added : ∃ s s',
    run (step healthy) (init ⟨[], [], []⟩ roomy true) added = some s ∧
    run (step healthy) s reloaded = some s' ∧ s.roots = [] ∧ s'.roots = ["/m".toList] ∧
    ∃ t, Reach (step healthy) StartGoes (init Engine.plexDb roomy true) t ∧
      t.start = .consuming [] ∧ Alike s' t := by
  have hbefore : run (step healthy) (init ⟨[], [], []⟩ roomy true) added = some _ := rfl
  have hafter : run (guarded (step healthy) Untouched)
      ((run (step healthy) (init ⟨[], [], []⟩ roomy true) added).get rfl) reloaded = some _ := rfl
  have hfree : ∀ c ∈ [Rebuild.waiting], c.locked = false := by
    intro c hc
    cases List.mem_singleton.1 hc
    rfl
  exact ⟨_, _, hbefore, rfl, rfl, rfl,
    reload_restarts (i := 0) rfl hfree (.inr rfl) (.of_run hafter) rfl trivial⟩

end Lifecycle
end MediaScanMonitor
