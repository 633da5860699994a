import MediaScanMonitor.Pipeline.Coalesce
import MediaScanMonitor.Pipeline.FileChanges
import MediaScanMonitor.Pipeline.Routing

/-!
# From the change of a file to the scan

The whole way of an event. A process changes a file and the kernel queues a report; the generator of
the backend yields an event for it; the engine routes the event and submits its requests; the
debouncer dispatches them. The generator goes on when the engine has handled what it has yielded.
Everything else may happen at any time.
-/

namespace MediaScanMonitor
open Text PosixPath Os Inotify Transition

/-- The folder of the route has the changed file in it, and the route is to be told. -/
def Concerns (lower : Str → Str) (config : RuntimeConfig) (c : FileChange) (r : FolderRoute) :
    Prop :=
  components r.path <+: c.dir ∧ (∀ n ∈ c.path, n.val ∉ config.ignoreDirs) ∧
    extensionMatches lower (render c.path) r.extensions = true ∧
      kindEventType c.kind ∈ r.eventTypes

instance (lower : Str → Str) (config : RuntimeConfig) (c : FileChange) :
    DecidablePred (Concerns lower config c) := fun r =>
  inferInstanceAs (Decidable (components r.path <+: c.dir ∧
    (∀ n ∈ c.path, n.val ∉ config.ignoreDirs) ∧
      extensionMatches lower (render c.path) r.extensions = true ∧
        kindEventType c.kind ∈ r.eventTypes))

/-- One request for each route that the change concerns. -/
def requestsFor (lower : Str → Str) (config : RuntimeConfig) (c : FileChange) :
    List ScanRequest :=
  (config.routes.filter (Concerns lower config c)).map fun r => r.request (changeEvent c)

/-- The backend watches the folders of the routes. -/
structure Serves (config : RuntimeConfig) (w : World) : Prop where
  ignoreDirs : config.ignoreDirs = w.backend.ignoreDirs
  named : [] ∉ config.ignoreDirs
  folders : ∀ r ∈ config.routes, ∃ q, r.path = render q ∧ w.IsRoot q

structure Notifier where
  world : World
  /-- What the generator has yielded and the engine has not taken yet. -/
  feed : List FsEvent
  intake : Intake
  /-- The changes so far, each with the number of requests that had been dispatched before. -/
  changes : List (FileChange × Nat)

namespace Notifier

inductive Act
  | change (o : FsOp)
  /-- The generator handles the oldest report. -/
  | handle
  /-- The engine takes the next event. -/
  | take
  | submit
  | fire (task : Nat)

def start (w : World) (i : Intake) : Notifier :=
  ⟨w, [], i, []⟩

def step (lower : Str → Str) (config : RuntimeConfig) (s : Notifier) : Act → Option Notifier
  | .change o =>
    (World.step s.world (.op o)).map fun w =>
      { s with
        world := w
        changes := s.changes ++ o.changes.map fun c => (c, s.intake.dispatched.length) }
  | .handle =>
    if s.feed = [] ∧ s.intake.inbox = [] then
      (World.step s.world .handle).map fun w => { s with world := w, feed := s.world.yields }
    else none
  | .take =>
    match s.feed with
    | [] => none
    | e :: rest =>
      (Intake.step lower config s.intake (.event e)).map fun i =>
        { s with intake := i, feed := rest }
  | .submit => (Intake.step lower config s.intake .submit).map fun i => { s with intake := i }
  | .fire task =>
    (Intake.step lower config s.intake (.fire task)).map fun i => { s with intake := i }

/-- Processes change regular files whose names `normalize_path` leaves alone. -/
def OnFiles (s : Notifier) : Act → Prop
  | .change o => o.OnFile s.world.tree ∧ ∀ c ∈ o.changes, Plain c.path
  | _ => True

/-- All reports are handled, and the requests of their events are submitted. -/
def Drained (s : Notifier) : Prop :=
  s.world.queue = [] ∧ s.feed = [] ∧ s.intake.inbox = []

/-- Besides, all windows have elapsed. -/
def Settled (s : Notifier) : Prop :=
  s.Drained ∧ s.intake.debouncer.tasks.keys = []

/-- No process changes anything. -/
def Quiet (_ : Notifier) : Act → Prop
  | .change _ => False
  | _ => True

end Notifier

/-! ## What is routed -/

section Routed
variable {lower : Str → Str} {config : RuntimeConfig} {c : FileChange} {r : FolderRoute}
  {d : ScanRequest} {w : World}

lemma canonical_event : Canonical (changeEvent c).path := ⟨c.path, rfl⟩

lemma Serves.canonical (h : Serves config w) : ∀ r ∈ config.routes, Canonical r.path := by
  intro r hr
  obtain ⟨q, hq, -⟩ := h.folders r hr
  exact ⟨q, hq⟩

/-- Away from the roots themselves, the routes that select the event are those that the change
concerns. -/
lemma selected_iff (hc : components r.path ≠ c.path) :
    Selected lower config (changeEvent c) r ↔ Concerns lower config c r := by
  have hpath : components (changeEvent c).path = c.path := components_render _
  have hprefix : components r.path <+: c.path ↔ components r.path <+: c.dir :=
    List.prefix_concat_iff.trans (or_iff_right hc)
  rw [Selected, Concerns, hpath, hprefix]
  rfl

/-- What is reported of a change is routed to the routes that it concerns. -/
lemma Serves.route_observed (h : Serves config w) (hc : ¬ w.IsRoot c.path) :
    (w.observed c).flatMap (fun e => route lower e config) = requestsFor lower config c := by
  have hroot : ∀ r ∈ config.routes, components r.path ≠ c.path := by
    intro r hr he
    obtain ⟨q, hq, hw⟩ := h.folders r hr
    rw [hq, components_render] at he
    exact hc (he ▸ hw)
  rw [World.observed]
  split
  · rw [List.flatMap_singleton, route_eq h.canonical canonical_event h.named, requestsFor]
    congr 1
    apply List.filter_congr
    intro r hr
    exact decide_eq_decide.2 (selected_iff (hroot r hr))
  · next hnot =>
    have hnone : config.routes.filter (Concerns lower config c) = [] := by
      apply List.filter_eq_nil_iff.2
      intro r hr hcon
      obtain ⟨hdir, hnames, -⟩ := of_decide_eq_true hcon
      obtain ⟨q, hq, hw⟩ := h.folders r hr
      rw [hq, components_render] at hdir
      have hshown : w.Shown c.path := by
        rw [World.Shown, World.isIgnored_backend h.ignoreDirs, ← Bool.not_eq_true,
          isIgnored_render]
        rintro (hnil | ⟨n, hn, hmem⟩)
        · exact h.named hnil
        · exact hnames n hn hmem
      exact hnot ⟨⟨World.Shown.above hshown (List.prefix_append _ _), q, hdir, hw⟩, hshown⟩
    rw [requestsFor, hnone]
    rfl

/-- The request is dispatched, or another one with its key in its place. -/
structure StandsIn (config : RuntimeConfig) (req d : ScanRequest) : Prop where
  key : d.key = req.key
  immediate : ¬ config.Trailing req.serverId → d = req

lemma StandsIn.refl (req : ScanRequest) : StandsIn config req req := ⟨rfl, fun _ => rfl⟩

end Routed

/-! ## The run -/

namespace Notifier
variable {lower : Str → Str} {config : RuntimeConfig} {i : Intake} {s s' : Notifier} {n : Nat}
  {req : ScanRequest}

/-- What has become of a request that is due since `n` requests had been dispatched. -/
inductive Fate (lower : Str → Str) (config : RuntimeConfig) (s : Notifier) (n : Nat)
    (req : ScanRequest) : Prop
  | underway (e : FsEvent) : e ∈ s.feed ++ s.world.pending → req ∈ route lower e config →
      Fate lower config s n req
  | submitting : req ∈ s.intake.inbox → Fate lower config s n req
  | waiting (d : ScanRequest) : config.Trailing req.serverId →
      s.intake.debouncer.Waiting req.key d → Fate lower config s n req
  | dispatched (d : ScanRequest) : d ∈ s.intake.dispatched.drop n → StandsIn config req d →
      Fate lower config s n req

/-- What holds while files change, from the intake `i` on. -/
structure Inv (lower : Str → Str) (config : RuntimeConfig) (i : Intake) (s : Notifier) :
    Prop where
  steady : s.world.Steady
  serves : Serves config s.world
  intake : Intake.Inv lower config s.intake
  order : s.intake.submitted.reverse ++ s.intake.inbox ++
      (s.feed ++ s.world.pending).flatMap (fun e => route lower e config) =
    i.submitted.reverse ++ s.changes.flatMap fun x => requestsFor lower config x.1
  stamps : ∀ x ∈ s.changes, x.2 ≤ s.intake.dispatched.length
  fates : ∀ x ∈ s.changes, ∀ req ∈ requestsFor lower config x.1, Fate lower config s x.2 req

/-- What is under way stays so, and nothing is done. -/
lemma Fate.world (h : Fate lower config s n req) (hi : s'.intake = s.intake)
    (hp : s.feed ++ s.world.pending ⊆ s'.feed ++ s'.world.pending) :
    Fate lower config s' n req := by
  cases h with
  | underway e he hreq => exact .underway e (hp he) hreq
  | submitting hin => exact .submitting (hi ▸ hin)
  | waiting d ht hw => exact .waiting d ht (hi ▸ hw)
  | dispatched d hd hstands => exact .dispatched d (hi ▸ hd) hstands

/-- The debouncer takes a step. -/
lemma Fate.intake (h : Fate lower config s n req) (hn : n ≤ s.intake.dispatched.length)
    {a : Intake.Act} (ha : ∀ e, a ≠ .event e) {i' : Intake}
    (heff : Intake.Effect lower config s.intake i' a) :
    Fate lower config { s with intake := i' } n req := by
  have hlater : ∀ {d out}, i'.dispatched = s.intake.dispatched ++ out →
      d ∈ s.intake.dispatched.drop n → d ∈ i'.dispatched.drop n := by
    intro d out hout hd
    rw [hout, List.drop_append_of_le_length hn]
    exact List.mem_append_left _ hd
  have hnow : ∀ {d}, i'.dispatched = s.intake.dispatched ++ [d] → d ∈ i'.dispatched.drop n := by
    intro d hout
    rw [hout, List.drop_append_of_le_length hn]
    exact List.mem_append_right _ (List.mem_singleton_self d)
  cases heff with
  | event e => exact (ha e rfl).elim
  | now r hnot hin hdeb hsub hdis =>
    cases h with
    | underway e he hreq => exact .underway e he hreq
    | submitting hmem =>
      rw [hin] at hmem
      rcases List.mem_cons.1 hmem with rfl | hmem
      · exact .dispatched req (hnow hdis) (.refl req)
      · exact .submitting hmem
    | waiting d ht hw => exact .waiting d ht (hdeb ▸ hw)
    | dispatched d hd hstands => exact .dispatched d (hlater hdis hd) hstands
  | rearm r ht hin hre hsub hdis =>
    cases h with
    | underway e he hreq => exact .underway e he hreq
    | submitting hmem =>
      rw [hin] at hmem
      rcases List.mem_cons.1 hmem with rfl | hmem
      · exact .waiting req ht (hre.waiting.2 (by rw [if_pos rfl]))
      · exact .submitting hmem
    | waiting d htr hw =>
      -- a newer request with the key takes the place of the one that waits
      by_cases hkey : req.key = r.key
      · exact .waiting r htr (hre.waiting.2 (by rw [if_pos hkey]))
      · exact .waiting d htr (hre.waiting.2 (by rw [if_neg hkey]; exact hw))
    | dispatched d hd hstands =>
      exact .dispatched d (hlater (hdis.trans (List.append_nil _).symm) hd) hstands
  | fire task out hf hin hsub hdis =>
    cases h with
    | underway e he hreq => exact .underway e he hreq
    | submitting hmem => exact .submitting (hin ▸ hmem)
    | waiting d htr hw =>
      rcases hf.fired with ⟨-, hwait⟩ | ⟨r, rfl, hr, hwait⟩
      · exact .waiting d htr (hwait.2 hw)
      · by_cases hkey : req.key = r.key
        · exact .dispatched r (hnow hdis) ⟨hkey.symm, fun hnot => absurd htr hnot⟩
        · exact .waiting d htr (hwait.2 ⟨hkey, hw⟩)
    | dispatched d hd hstands => exact .dispatched d (hlater hdis hd) hstands

lemma Inv.start {w : World} (hw : w.Steady) (hidle : w.queue = []) (hserves : Serves config w)
    (hi : Intake.Inv lower config i) (hin : i.inbox = []) :
    Inv lower config i (Notifier.start w i) := by
  refine ⟨hw, hserves, hi, ?_, fun _ hx => absurd hx List.not_mem_nil,
    fun _ hx => absurd hx List.not_mem_nil⟩
  show i.submitted.reverse ++ i.inbox ++ (w.pending.flatMap fun e => route lower e config) = _
  rw [hin, World.pending, hidle]
  exact List.append_nil _

/-- A process changes files. -/
lemma Inv.change (h : Inv lower config i s) {o : FsOp} (hf : o.OnFile s.world.tree)
    (hplain : ∀ c ∈ o.changes, Plain c.path) (hs : step lower config s (.change o) = some s') :
    Inv lower config i s' := by
  obtain ⟨w, hw, rfl⟩ := Option.map_eq_some_iff.1 hs
  obtain ⟨t', hrun, rfl⟩ := Option.map_eq_some_iff.1 hw
  have hpending := h.steady.pending_op hf hrun hplain
  -- no root is among the changed names, for these are no directories
  have hroute : ∀ c ∈ o.changes, (s.world.observed c).flatMap (fun e => route lower e config) =
      requestsFor lower config c := by
    intro c hc
    refine h.serves.route_observed fun hroot => ?_
    have hdir := h.steady.roots _ hroot
    rw [FsOp.not_isDir_of_changes hf hrun hc] at hdir
    cases hdir
  refine ⟨h.steady.op hf hrun, ⟨h.serves.1, h.serves.2, h.serves.3⟩, h.intake, ?_, ?_, ?_⟩
  · show s.intake.submitted.reverse ++ s.intake.inbox ++
      (s.feed ++ (s.world.changed o t').pending).flatMap (fun e => route lower e config) = _
    rw [hpending, ← List.append_assoc, List.flatMap_append, ← List.append_assoc, h.order,
      List.flatMap_append, List.append_assoc, List.flatMap_map, List.flatMap_assoc]
    congr 2
    exact List.flatMap_congr hroute
  · intro x hx
    rcases List.mem_append.1 hx with hx | hx
    · exact h.stamps x hx
    · obtain ⟨c, -, rfl⟩ := List.mem_map.1 hx
      exact le_rfl
  · intro x hx req hreq
    show Fate lower config { s with world := s.world.changed o t', changes := _ } x.2 req
    rcases List.mem_append.1 hx with hx | hx
    · refine (h.fates x hx req hreq).world rfl ?_
      show s.feed ++ s.world.pending ⊆ s.feed ++ (s.world.changed o t').pending
      rw [hpending, ← List.append_assoc]
      exact List.subset_append_left _ _
    · obtain ⟨c, hc, rfl⟩ := List.mem_map.1 hx
      rw [← hroute c hc] at hreq
      obtain ⟨e, he, hreq⟩ := List.mem_flatMap.1 hreq
      refine .underway e ?_ hreq
      show e ∈ s.feed ++ (s.world.changed o t').pending
      rw [hpending]
      exact List.mem_append_right _ (List.mem_append_right _ (List.mem_flatMap.2 ⟨c, hc, he⟩))

/-- The generator handles a report. -/
lemma Inv.handle (h : Inv lower config i s) (hs : step lower config s .handle = some s') :
    Inv lower config i s' := by
  simp only [step] at hs
  split at hs
  · next hidle =>
    obtain ⟨w, hw, rfl⟩ := Option.map_eq_some_iff.1 hs
    cases hq : s.world.queue with
    | nil =>
      rw [World.step, hq] at hw
      cases hw
    | cons e q =>
      obtain ⟨hstep, hsteady⟩ := h.steady.handle hq
      obtain rfl := Option.some.inj (hstep.symm.trans hw)
      have hpending : s.world.yields ++ World.pending { s.world with queue := q } =
          s.feed ++ s.world.pending := by
        rw [hidle.1, World.pending_cons hq]
        rfl
      refine ⟨hsteady, ⟨h.serves.1, h.serves.2, h.serves.3⟩, h.intake, ?_, h.stamps,
        fun x hx r hr => ?_⟩
      · rw [hpending]
        exact h.order
      · refine (h.fates x hx r hr).world rfl ?_
        rw [hpending]
        exact List.Subset.refl _
  · cases hs

/-- The engine takes an event. -/
lemma Inv.take (h : Inv lower config i s) (hs : step lower config s .take = some s') :
    Inv lower config i s' := by
  simp only [step] at hs
  split at hs
  · cases hs
  · next e rest hfeed =>
    obtain ⟨j, hj, rfl⟩ := Option.map_eq_some_iff.1 hs
    have hintake := h.intake.step hj
    simp only [Intake.step] at hj
    split at hj
    · next hin =>
      cases hj
      refine ⟨h.steady, h.serves, hintake, ?_, h.stamps, fun x hx req hreq => ?_⟩
      · have horder := h.order
        rw [hfeed, hin, List.append_nil] at horder
        rw [← horder, List.cons_append, List.flatMap_cons, List.append_assoc]
      · cases h.fates x hx req hreq with
        | underway e' he hr =>
          rw [hfeed] at he
          rcases List.mem_cons.1 he with rfl | he
          · exact .submitting hr
          · exact .underway e' he hr
        | submitting hmem =>
          rw [hin] at hmem
          cases hmem
        | waiting d ht hw => exact .waiting d ht hw
        | dispatched d hd hstands => exact .dispatched d hd hstands
    · cases hj

/-- A request is submitted, or a task fires. -/
lemma Inv.run (h : Inv lower config i s) {a : Intake.Act} (ha : ∀ e, a ≠ .event e) {j : Intake}
    (hj : Intake.step lower config s.intake a = some j) :
    Inv lower config i { s with intake := j } := by
  have heff := h.intake.effect hj
  have hlists : j.submitted.reverse ++ j.inbox = s.intake.submitted.reverse ++ s.intake.inbox ∧
      s.intake.dispatched.length ≤ j.dispatched.length := by
    cases heff with
    | event e => exact (ha e rfl).elim
    | now r _ hin _ hsub hdis =>
      rw [hin, hsub, hdis, List.reverse_cons, List.append_assoc, List.length_append]
      exact ⟨rfl, Nat.le_add_right _ _⟩
    | rearm r _ hin _ hsub hdis =>
      rw [hin, hsub, hdis, List.reverse_cons, List.append_assoc]
      exact ⟨rfl, le_rfl⟩
    | fire task out _ hin hsub hdis =>
      rw [hin, hsub, hdis, List.length_append]
      exact ⟨rfl, Nat.le_add_right _ _⟩
  refine ⟨h.steady, h.serves, h.intake.step hj, ?_, fun x hx => (h.stamps x hx).trans hlists.2,
    fun x hx req hreq => (h.fates x hx req hreq).intake (h.stamps x hx) ha heff⟩
  rw [hlists.1]
  exact h.order

lemma Inv.step (h : Inv lower config i s) {a : Act} (hg : OnFiles s a)
    (hs : Notifier.step lower config s a = some s') : Inv lower config i s' := by
  cases a with
  | change o => exact h.change hg.1 hg.2 hs
  | handle => exact h.handle hs
  | take => exact h.take hs
  | submit =>
    obtain ⟨j, hj, rfl⟩ := Option.map_eq_some_iff.1 hs
    exact h.run (fun _ he => by cases he) hj
  | fire task =>
    obtain ⟨j, hj, rfl⟩ := Option.map_eq_some_iff.1 hs
    exact h.run (fun _ he => by cases he) hj

/-! The way from any state to a settled one: the requests of the current event, the events of the
current report, the reports, the tasks. -/

variable (lower config) in
lemma exists_submitted (s : Notifier) : ∃ s', Reach (Notifier.step lower config) Quiet s s' ∧
    s'.world = s.world ∧ s'.feed = s.feed ∧ s'.intake.inbox = [] ∧ s'.changes = s.changes := by
  induction hn : s.intake.inbox generalizing s with
  | nil => exact ⟨s, .refl, rfl, rfl, hn, rfl⟩
  | cons req rest ih =>
    obtain ⟨s', hreach, hworld, hfeed, hin, hchanges⟩ := ih
      { s with
        intake := ⟨(s.intake.debouncer.submit req).1, rest, req :: s.intake.submitted,
          s.intake.dispatched ++ (s.intake.debouncer.submit req).2⟩ } rfl
    refine ⟨s', .head (a := .submit) trivial ?_ hreach, hworld, hfeed, hin, hchanges⟩
    simp only [Notifier.step, Intake.step, hn, Option.map_some]

variable (lower config) in
lemma exists_taken (s : Notifier) : ∃ s', Reach (Notifier.step lower config) Quiet s s' ∧
    s'.world = s.world ∧ s'.feed = [] ∧ s'.intake.inbox = [] ∧ s'.changes = s.changes := by
  induction hn : s.feed generalizing s with
  | nil =>
    obtain ⟨s', hreach, hworld, hfeed, hrest⟩ := exists_submitted lower config s
    exact ⟨s', hreach, hworld, hfeed.trans hn, hrest⟩
  | cons e rest ih =>
    obtain ⟨u, hu, hworld, hfeed, hin, hchanges⟩ := exists_submitted lower config s
    obtain ⟨s', hreach, hworld', hrest, hin', hchanges'⟩ := ih
      { u with intake := { u.intake with inbox := route lower e config }, feed := rest } rfl
    refine ⟨s', hu.trans (.head (a := .take) trivial ?_ hreach), hworld'.trans hworld, hrest, hin',
      hchanges'.trans hchanges⟩
    rw [Notifier.step, hfeed, hn]
    simp only [Intake.step, hin, if_true, Option.map_some]

variable (lower config) in
lemma exists_drained (s : Notifier) : ∃ s', Reach (Notifier.step lower config) Quiet s s' ∧
    s'.Drained ∧ s'.changes = s.changes := by
  induction hn : s.world.queue generalizing s with
  | nil =>
    obtain ⟨s', hreach, hworld, hfeed, hin, hchanges⟩ := exists_taken lower config s
    exact ⟨s', hreach, ⟨by rw [hworld, hn], hfeed, hin⟩, hchanges⟩
  | cons e q ih =>
    obtain ⟨u, hu, hworld, hfeed, hin, hchanges⟩ := exists_taken lower config s
    have hqueue : u.world.queue = e :: q := by rw [hworld, hn]
    obtain ⟨s', hreach, hdrained, hchanges'⟩ := ih
      { u with
        world := ⟨u.world.tree,
          (u.world.backend.handle u.world.tree (rawEvent u.world.backend.inotify e)).1, q⟩
        feed := u.world.yields } rfl
    refine ⟨s', hu.trans (.head (a := .handle) trivial ?_ hreach), hdrained,
      hchanges'.trans hchanges⟩
    rw [Notifier.step, if_pos ⟨hfeed, hin⟩]
    simp only [World.step, hqueue, Option.map_some]

/-- The tasks fire, one after the other. -/
lemma reach_fires {j j' : Intake} (h : Reach (Intake.step lower config) Intake.Fires j j') :
    Reach (Notifier.step lower config) Quiet { s with intake := j } { s with intake := j' } := by
  induction h with
  | refl => exact .refl
  | @tail u a v _ hg hs ih =>
    cases a with
    | fire task =>
      refine ih.tail (a := Act.fire task) trivial ?_
      simp only [Notifier.step, hs, Option.map_some]
    | _ => exact hg.elim

variable (lower config) in
lemma exists_settled (s : Notifier) : ∃ s', Reach (Notifier.step lower config) Quiet s s' ∧
    s'.Settled ∧ s'.changes = s.changes := by
  obtain ⟨u, hu, ⟨hqueue, hfeed, hin⟩, hchanges⟩ := exists_drained lower config s
  obtain ⟨j, hj, hkeys, hin', -⟩ := Intake.exists_fires lower config u.intake
  exact ⟨{ u with intake := j }, hu.trans (reach_fires hj),
    ⟨⟨hqueue, hfeed, hin'.trans hin⟩, hkeys⟩, hchanges⟩

instance (s : Notifier) : DecidablePred (OnFiles s) := fun a => by
  unfold OnFiles
  split <;> infer_instance

/-- An episode is downloaded under another name than its last one. -/
def episode : List Act :=
  [.change (.make false [name "m", name "s", name "u"] (name "e.part")), .handle, .take,
    .change (.rename [name "m", name "s", name "u"] (name "e.part")
      [name "m", name "s", name "u"] (name "e.mkv")),
    .handle, .take, .handle, .take, .submit, .fire 0]

end Notifier
end MediaScanMonitor
