import MediaScanMonitor.Lib.Transition
import MediaScanMonitor.Pipeline.Debounce
import MediaScanMonitor.Pipeline.Router

/-!
# Coalescing

The engine routes one event after the other and submits the requests; the debouncer's tasks fire in
between, in any order. A request that waits is replaced by the next one with the same key, so a scan
target can get lost exactly when two routes of one server share a key and not the target.
-/

namespace MediaScanMonitor
open Text PosixPath Transition

/-- The debouncer, with the requests of the current event that are still to be submitted. -/
structure Intake where
  debouncer : Debouncer
  inbox : List ScanRequest
  submitted : List ScanRequest
  dispatched : List ScanRequest

namespace Intake

inductive Act
  /-- The engine takes the next event. -/
  | event (e : FsEvent)
  /-- It submits the next request of the event. -/
  | submit
  /-- A task whose window has elapsed is resumed. -/
  | fire (task : Nat)

def start (config : RuntimeConfig) : Intake :=
  ⟨.init config.servers, [], [], []⟩

def step (lower : Str → Str) (config : RuntimeConfig) (s : Intake) : Act → Option Intake
  | .event e => if s.inbox = [] then some { s with inbox := route lower e config } else none
  | .submit =>
    match s.inbox with
    | [] => none
    | req :: rest =>
      let (d, out) := s.debouncer.submit req
      some ⟨d, rest, req :: s.submitted, s.dispatched ++ out⟩
  | .fire task =>
    (s.debouncer.fireAfter task).map fun (d, out) =>
      { s with debouncer := d, dispatched := s.dispatched ++ out }

/-- All windows have elapsed, and all requests are submitted. -/
def Settled (s : Intake) : Prop :=
  s.inbox = [] ∧ s.debouncer.tasks.keys = []

end Intake

/-- The two requests have the same target. -/
def SameTarget (req req' : ScanRequest) : Prop :=
  req.serverId = req'.serverId ∧ req.libraryId = req'.libraryId ∧ req.scanPath = req'.scanPath

/-- Some event makes the router yield the request. -/
def Routed (lower : Str → Str) (config : RuntimeConfig) (req : ScanRequest) : Prop :=
  ∃ e, req ∈ route lower e config

/-- Requests for the server wait for a window. -/
def RuntimeConfig.Trailing (config : RuntimeConfig) (serverId : Nat) : Prop :=
  ∃ server, config.servers.lookup serverId = some server ∧ server.debounceMode ≠ .off

/-- Routes of one server in `trailing` mode that can make requests with the same scan key agree in
their scan mode and their library. -/
def KeysDistinct (lower : Str → Str) (config : RuntimeConfig) : Prop :=
  ∀ r ∈ config.routes, ∀ r' ∈ config.routes, r.serverId = r'.serverId →
    config.Trailing r.serverId → ∀ e e', Matches lower config r e → Matches lower config r' e' →
    (r.request e).scanKey = (r'.request e').scanKey →
    r.scanMode = r'.scanMode ∧ r.libraryId = r'.libraryId

variable {lower : Str → Str} {config : RuntimeConfig} {req req' : ScanRequest}

lemma SameTarget.refl (req : ScanRequest) : SameTarget req req := ⟨rfl, rfl, rfl⟩

lemma SameTarget.trans {req'' : ScanRequest} (h : SameTarget req req') (h' : SameTarget req' req'') :
    SameTarget req req'' :=
  ⟨h.1.trans h'.1, h.2.1.trans h'.2.1, h.2.2.trans h'.2.2⟩

/-- The scan key is the scan path, or stands for the library. -/
lemma Routed.scanKey (h : Routed lower config req) :
    req.scanKey = req.scanPath.getD (libraryKey req.libraryId) := by
  obtain ⟨e, he⟩ := h
  obtain ⟨r, -, -, rfl⟩ := mem_route.1 he
  unfold FolderRoute.request
  cases r.scanMode <;> rfl

/-- Only targeted requests have a scan path. -/
lemma Routed.scanMode (h : Routed lower config req) :
    req.scanMode = if req.scanPath.isSome then .targeted else .library := by
  obtain ⟨e, he⟩ := h
  obtain ⟨r, -, -, rfl⟩ := mem_route.1 he
  unfold FolderRoute.request
  cases r.scanMode <;> rfl

/-- The target determines the key. -/
lemma SameTarget.key (h : SameTarget req req') (hr : Routed lower config req)
    (hr' : Routed lower config req') : req.key = req'.key := by
  rw [ScanRequest.key, ScanRequest.key, hr.scanKey, hr'.scanKey, h.1, h.2.1, h.2.2]

/-- Under distinct keys the key determines the target. -/
lemma KeysDistinct.target (h : KeysDistinct lower config) (hr : Routed lower config req)
    (hr' : Routed lower config req') (ht : config.Trailing req.serverId) (hk : req.key = req'.key) :
    SameTarget req req' := by
  have hr0 := hr.scanKey
  have hr0' := hr'.scanKey
  have hm := hr.scanMode
  have hm' := hr'.scanMode
  obtain ⟨e, he⟩ := hr
  obtain ⟨e', he'⟩ := hr'
  obtain ⟨r, hmem, hmatch, rfl⟩ := mem_route.1 he
  obtain ⟨r', hmem', hmatch', rfl⟩ := mem_route.1 he'
  obtain ⟨hid, hkey⟩ := Prod.mk.inj hk
  obtain ⟨hmode, hlib⟩ := h r hmem r' hmem' hid ht e e' hmatch hmatch' hkey
  refine ⟨hid, hlib, ?_⟩
  have hmodes : (r.request e).scanMode = (r'.request e').scanMode := hmode
  rw [hm, hm'] at hmodes
  rw [hr0, hr0'] at hkey
  cases hp : (r.request e).scanPath <;> cases hp' : (r'.request e').scanPath <;>
    rw [hp, hp'] at hmodes hkey
  · cases hmodes
  · cases hmodes
  · exact congrArg some hkey

namespace Intake
variable {s s' : Intake}

/-- What holds in every run: the debouncer is in order, and only routed requests are in use. -/
structure Inv (lower : Str → Str) (config : RuntimeConfig) (s : Intake) : Prop where
  servers : s.debouncer.servers = config.servers
  armed : s.debouncer.Armed
  inbox : ∀ req ∈ s.inbox, Routed lower config req
  submitted : ∀ req ∈ s.submitted, Routed lower config req
  dispatched : ∀ req ∈ s.dispatched, Routed lower config req
  waiting : ∀ {key req}, s.debouncer.Waiting key req → Routed lower config req

lemma Inv.start : Inv lower config (start config) where
  servers := rfl
  armed := Debouncer.armed_init _
  inbox := fun _ h => (by cases h)
  submitted := fun _ h => (by cases h)
  dispatched := fun _ h => (by cases h)
  waiting := by
    rintro key req ⟨task, timer, h, -⟩
    cases h

/-- The debouncer delays exactly the requests for servers in `trailing` mode. -/
lemma Inv.trailing (inv : Inv lower config s) :
    s.debouncer.Trailing req ↔ config.Trailing req.serverId := by
  unfold Debouncer.Trailing RuntimeConfig.Trailing
  rw [inv.servers]

/-- What a step does, in terms of the requests. -/
inductive Effect (lower : Str → Str) (config : RuntimeConfig) (s s' : Intake) : Act → Prop
  | event (e : FsEvent) : s' = { s with inbox := route lower e config } →
      Effect lower config s s' (.event e)
  | now (req : ScanRequest) : ¬ config.Trailing req.serverId → s.inbox = req :: s'.inbox →
      s'.debouncer = s.debouncer → s'.submitted = req :: s.submitted →
      s'.dispatched = s.dispatched ++ [req] → Effect lower config s s' .submit
  | rearm (req : ScanRequest) : config.Trailing req.serverId → s.inbox = req :: s'.inbox →
      s.debouncer.Rearms s'.debouncer req → s'.submitted = req :: s.submitted →
      s'.dispatched = s.dispatched → Effect lower config s s' .submit
  | fire (task : Nat) (out : List ScanRequest) : s.debouncer.Fires s'.debouncer task out →
      s'.inbox = s.inbox → s'.submitted = s.submitted → s'.dispatched = s.dispatched ++ out →
      Effect lower config s s' (.fire task)

lemma Inv.effect (inv : Inv lower config s) {a : Act} (hs : step lower config s a = some s') :
    Effect lower config s s' a := by
  cases a with
  | event e =>
    simp only [step] at hs
    split at hs
    · cases hs
      exact .event e rfl
    · cases hs
  | submit =>
    simp only [step] at hs
    split at hs
    · cases hs
    · next req rest hin =>
      cases hsub : s.debouncer.submit req with
      | mk d out =>
        rw [hsub] at hs
        cases hs
        rcases inv.armed.submit hsub with ⟨hnot, rfl, rfl⟩ | ⟨ht, rfl, hre⟩
        · rw [inv.trailing] at hnot
          exact .now req hnot hin rfl rfl rfl
        · rw [inv.trailing] at ht
          exact .rearm req ht hin hre rfl (List.append_nil _)
  | fire task =>
    obtain ⟨⟨d, out⟩, hf, rfl⟩ := Option.map_eq_some_iff.1 hs
    exact .fire task out (inv.armed.fireAfter hf) rfl rfl rfl

lemma Inv.step (inv : Inv lower config s) {a : Act} (hs : Intake.step lower config s a = some s') :
    Inv lower config s' := by
  cases inv.effect hs with
  | event e he =>
    subst he
    exact ⟨inv.servers, inv.armed, fun req hreq => ⟨e, hreq⟩, inv.submitted, inv.dispatched,
      inv.waiting⟩
  | now req _ hin hd hsub hdis =>
    have hreq := inv.inbox req (by rw [hin]; exact List.mem_cons_self)
    refine ⟨by rw [hd]; exact inv.servers, by rw [hd]; exact inv.armed, ?_, ?_, ?_, ?_⟩
    · intro x hx
      exact inv.inbox x (by rw [hin]; exact List.mem_cons_of_mem _ hx)
    · rw [hsub]
      exact List.forall_mem_cons.2 ⟨hreq, inv.submitted⟩
    · rw [hdis]
      intro x hx
      rcases List.mem_append.1 hx with hx | hx
      · exact inv.dispatched x hx
      · rw [List.mem_singleton.1 hx]
        exact hreq
    · rw [hd]
      exact inv.waiting
  | rearm req _ hin hre hsub hdis =>
    have hreq := inv.inbox req (by rw [hin]; exact List.mem_cons_self)
    refine ⟨hre.servers.trans inv.servers, hre.armed, ?_, ?_, ?_, ?_⟩
    · intro x hx
      exact inv.inbox x (by rw [hin]; exact List.mem_cons_of_mem _ hx)
    · rw [hsub]
      exact List.forall_mem_cons.2 ⟨hreq, inv.submitted⟩
    · rw [hdis]
      exact inv.dispatched
    · intro key x hx
      have hx := hre.waiting.1 hx
      split at hx
      · rw [hx]
        exact hreq
      · exact inv.waiting hx
  | fire task out hf hin hsub hdis =>
    refine ⟨hf.servers.trans inv.servers, hf.armed, ?_, ?_, ?_, ?_⟩
    · rw [hin]
      exact inv.inbox
    · rw [hsub]
      exact inv.submitted
    · rw [hdis]
      intro x hx
      rcases List.mem_append.1 hx with hx | hx
      · exact inv.dispatched x hx
      · rcases hf.fired with ⟨rfl, -⟩ | ⟨req, rfl, hw, -⟩
        · cases hx
        · rw [List.mem_singleton.1 hx]
          exact inv.waiting hw
    · intro key x hx
      rcases hf.fired with ⟨-, hw⟩ | ⟨req, -, -, hw⟩
      · exact inv.waiting (hw.1 hx)
      · exact inv.waiting (hw.1 hx).2

/-- Every submitted request has its target dispatched, or waiting. -/
def Kept (s : Intake) : Prop :=
  ∀ req ∈ s.submitted, (∃ d ∈ s.dispatched, SameTarget req d) ∨
    ∃ d, s.debouncer.Waiting req.key d ∧ SameTarget req d

/-- Under distinct keys no step loses a target. -/
lemma Kept.step (h : Kept s) (inv : Inv lower config s) (hk : KeysDistinct lower config) {a : Act}
    (hs : Intake.step lower config s a = some s') : Kept s' := by
  cases inv.effect hs with
  | event e he =>
    subst he
    exact h
  | now req _ hin hd hsub hdis =>
    intro x hx
    rw [hsub] at hx
    rw [hdis, hd]
    rcases List.mem_cons.1 hx with rfl | hx
    · exact .inl ⟨x, by simp, SameTarget.refl x⟩
    · rcases h x hx with ⟨d, hd, ht⟩ | hw
      · exact .inl ⟨d, List.mem_append_left _ hd, ht⟩
      · exact .inr hw
  | rearm req htr hin hre hsub hdis =>
    have hreq := inv.inbox req (by rw [hin]; exact List.mem_cons_self)
    intro x hx
    rw [hsub] at hx
    rw [hdis]
    rcases List.mem_cons.1 hx with rfl | hx
    · exact .inr ⟨x, hre.waiting.2 (by rw [if_pos rfl]), SameTarget.refl x⟩
    · rcases h x hx with hd | ⟨d, hw, ht⟩
      · exact .inl hd
      · by_cases hkey : x.key = req.key
        · -- the request that waited is replaced by one with the same target
          have hdr : Routed lower config d := inv.waiting hw
          have hdk : d.key = req.key := (inv.armed.waiting_key hw).trans hkey
          have htr' : config.Trailing d.serverId := by
            rw [(Prod.mk.inj hdk).1]
            exact htr
          refine .inr ⟨req, hre.waiting.2 (by rw [if_pos hkey]), ?_⟩
          exact ht.trans (hk.target hdr hreq htr' hdk)
        · exact .inr ⟨d, hre.waiting.2 (by rw [if_neg hkey]; exact hw), ht⟩
  | fire task out hf hin hsub hdis =>
    intro x hx
    rw [hsub] at hx
    rw [hdis]
    rcases h x hx with ⟨d, hd, ht⟩ | ⟨d, hw, ht⟩
    · exact .inl ⟨d, List.mem_append_left _ hd, ht⟩
    · rcases hf.fired with ⟨-, hwait⟩ | ⟨req, rfl, hreq, hwait⟩
      · exact .inr ⟨d, hwait.2 hw, ht⟩
      · by_cases hkey : x.key = req.key
        · rw [hkey] at hw
          obtain rfl := hw.unique hreq
          exact .inl ⟨d, by simp, ht⟩
        · exact .inr ⟨d, hwait.2 ⟨hkey, hw⟩, ht⟩

/-! The other direction needs one run that loses a target: all requests of two events are submitted
before any window elapses. -/

/-- No task fires. -/
def Submits (_ : Intake) : Act → Prop
  | .fire _ => False
  | _ => True

/-- Tasks fire, and nothing else happens. -/
def Fires (_ : Intake) : Act → Prop
  | .fire _ => True
  | _ => False

variable (lower config) in
/-- The requests of the current event can be submitted one after the other. -/
lemma exists_submits (s : Intake) : ∃ s', Reach (Intake.step lower config) Submits s s' ∧
    s'.inbox = [] ∧ ∀ req, req ∈ s.inbox ∨ req ∈ s.submitted → req ∈ s'.submitted := by
  induction hn : s.inbox generalizing s with
  | nil => exact ⟨s, .refl, hn, fun req h => h.resolve_left (by simp)⟩
  | cons req rest ih =>
    obtain ⟨s', hreach, hin, hsub⟩ := ih
      ⟨(s.debouncer.submit req).1, rest, req :: s.submitted,
        s.dispatched ++ (s.debouncer.submit req).2⟩ rfl
    refine ⟨s', (Reach.refl.tail (a := .submit) trivial ?_).trans hreach, hin, fun x hx => hsub x ?_⟩
    · show Intake.step lower config s .submit = some _
      simp only [Intake.step, hn]
    · rcases hx with hx | hx
      · rcases List.mem_cons.1 hx with rfl | hx
        · exact .inr List.mem_cons_self
        · exact .inl hx
      · exact .inr (List.mem_cons_of_mem _ hx)

variable (lower config) in
/-- An event can be taken when the requests of the one before are submitted. -/
lemma exists_event (s : Intake) (e : FsEvent) (hin : s.inbox = []) :
    ∃ s', Reach (Intake.step lower config) Submits s s' ∧ s'.inbox = [] ∧
      ∀ req, req ∈ route lower e config ∨ req ∈ s.submitted → req ∈ s'.submitted := by
  obtain ⟨s', hreach, hin', hsub⟩ :=
    exists_submits lower config { s with inbox := route lower e config }
  refine ⟨s', (Reach.refl.tail (a := .event e) trivial ?_).trans hreach, hin', hsub⟩
  exact if_pos hin

variable (lower config) in
/-- All tasks can be resumed, one after the other. -/
lemma exists_fires (s : Intake) : ∃ s', Reach (Intake.step lower config) Fires s s' ∧
    s'.debouncer.tasks.keys = [] ∧ s'.inbox = s.inbox ∧ s'.submitted = s.submitted := by
  induction hn : s.debouncer.tasks.keys.length generalizing s with
  | zero => exact ⟨s, .refl, List.length_eq_zero_iff.1 hn, rfl, rfl⟩
  | succ n ih =>
    obtain ⟨task, htask⟩ := List.exists_mem_of_length_pos (by rw [hn]; exact Nat.succ_pos n)
    obtain ⟨timer, hl⟩ := Option.isSome_iff_exists.1 (AList.lookup_isSome.2 htask)
    obtain ⟨⟨d, out⟩, hf⟩ : ∃ res, s.debouncer.fireAfter task = some res :=
      ⟨_, by rw [Debouncer.fireAfter, hl]; rfl⟩
    have hd : d.tasks = s.debouncer.tasks.erase task := by
      rw [Debouncer.fireAfter, hl, Option.map_some, Option.some.injEq] at hf
      simp only at hf
      split at hf
      · cases hf; rfl
      · split at hf <;> (cases hf; rfl)
    have hlen : d.tasks.keys.length = n := by
      rw [hd, AList.keys_erase, List.length_erase_of_mem htask, hn, Nat.add_sub_cancel]
    obtain ⟨s', hreach, hkeys, hin, hsub⟩ :=
      ih { s with debouncer := d, dispatched := s.dispatched ++ out } hlen
    refine ⟨s', (Reach.refl.tail (a := .fire task) trivial ?_).trans hreach, hkeys, hin, hsub⟩
    simp only [Intake.step, hf, Option.map_some]

/-- No request has been delayed and dispatched yet. -/
def Undelayed (config : RuntimeConfig) (s : Intake) : Prop :=
  ∀ d ∈ s.dispatched, ¬ config.Trailing d.serverId

/-- Nothing waits under the key of a dispatched request, and no two requests with one key have been
dispatched. -/
def Once (config : RuntimeConfig) (s : Intake) : Prop :=
  ∀ d ∈ s.dispatched, config.Trailing d.serverId →
    (∀ x, ¬ s.debouncer.Waiting d.key x) ∧ ∀ d' ∈ s.dispatched, d.key = d'.key → d = d'

lemma Undelayed.once (h : Undelayed config s) : Once config s :=
  fun d hd ht => (h d hd ht).elim

lemma Undelayed.step (h : Undelayed config s) (inv : Inv lower config s) {a : Act}
    (hg : Submits s a) (hs : Intake.step lower config s a = some s') : Undelayed config s' := by
  cases inv.effect hs with
  | event e he =>
    subst he
    exact h
  | now req hnot _ _ _ hdis =>
    intro d hd
    rw [hdis] at hd
    rcases List.mem_append.1 hd with hd | hd
    · exact h d hd
    · rw [List.mem_singleton.1 hd]
      exact hnot
  | rearm req _ _ _ _ hdis =>
    intro d hd
    rw [hdis] at hd
    exact h d hd
  | fire => exact hg.elim

lemma Once.step (h : Once config s) (inv : Inv lower config s) {a : Act} (hg : Fires s a)
    (hs : Intake.step lower config s a = some s') : Once config s' := by
  cases inv.effect hs with
  | event => exact hg.elim
  | now => exact hg.elim
  | rearm => exact hg.elim
  | fire task out hf _ _ hdis =>
    rcases hf.fired with ⟨rfl, hw⟩ | ⟨req, rfl, hreq, hw⟩
    · intro d hd ht
      rw [hdis, List.append_nil] at hd ⊢
      exact ⟨fun x hx => (h d hd ht).1 x (hw.1 hx), (h d hd ht).2⟩
    · -- the request that fires waited, so none with its key was dispatched before
      have hnone : ∀ d ∈ s.dispatched, config.Trailing d.serverId → d.key ≠ req.key := by
        intro d hd ht hk
        exact (h d hd ht).1 req (by rw [hk]; exact hreq)
      intro d hd ht
      rw [hdis] at hd ⊢
      rcases List.mem_append.1 hd with hd | hd
      · refine ⟨fun x hx => (h d hd ht).1 x (hw.1 hx).2, fun d' hd' hk => ?_⟩
        rcases List.mem_append.1 hd' with hd' | hd'
        · exact (h d hd ht).2 d' hd' hk
        · rw [List.mem_singleton.1 hd'] at hk
          exact (hnone d hd ht hk).elim
      · obtain rfl := List.mem_singleton.1 hd
        refine ⟨fun x hx => (hw.1 hx).1 rfl, fun d' hd' hk => ?_⟩
        rcases List.mem_append.1 hd' with hd' | hd'
        · have ht' : config.Trailing d'.serverId := by
            rw [← (Prod.mk.inj hk).1]
            exact ht
          exact (hnone d' hd' ht' hk.symm).elim
        · exact (List.mem_singleton.1 hd').symm

variable (lower config) in
/-- Two events one after the other, and then all windows: both have their requests submitted, and none
is dispatched twice. -/
lemma exists_settled (e e' : FsEvent) : ∃ s,
    Reach (Intake.step lower config) Free (Intake.start config) s ∧ s.Settled ∧
      Inv lower config s ∧ Once config s ∧
      ∀ req, req ∈ route lower e config ∨ req ∈ route lower e' config → req ∈ s.submitted := by
  obtain ⟨s₁, h₁, hin₁, hsub₁⟩ := exists_event lower config (Intake.start config) e rfl
  obtain ⟨s₂, h₂, hin₂, hsub₂⟩ := exists_event lower config s₁ e' hin₁
  obtain ⟨s₃, h₃, hkeys, hin₃, hsub₃⟩ := exists_fires lower config s₂
  have hphase : Inv lower config s₂ ∧ Undelayed config s₂ := by
    refine (h₁.trans h₂).invariant (P := fun u => Inv lower config u ∧ Undelayed config u)
      ⟨Inv.start, fun d hd => (by cases hd)⟩ fun hu hg hs => ?_
    exact ⟨hu.1.step hs, hu.2.step hu.1 hg hs⟩
  have hfinal : Inv lower config s₃ ∧ Once config s₃ := by
    refine h₃.invariant (P := fun u => Inv lower config u ∧ Once config u)
      ⟨hphase.1, hphase.2.once⟩ fun hu hg hs => ?_
    exact ⟨hu.1.step hs, hu.2.step hu.1 hg hs⟩
  refine ⟨s₃, ((h₁.trans h₂).mono fun _ => trivial).trans (h₃.mono fun _ => trivial),
    ⟨hin₃.trans hin₂, hkeys⟩, hfinal.1, hfinal.2, ?_⟩
  rw [hsub₃]
  rintro req (hreq | hreq)
  · exact hsub₂ _ (.inr (hsub₁ _ (.inl hreq)))
  · exact hsub₂ _ (.inl hreq)

/-- Where no request is dispatched twice, requests with one key whose targets are dispatched have the
same scan mode and library. -/
lemma Once.agree (h : Once config s) (inv : Inv lower config s) {x x' d d' : ScanRequest}
    (hx : x ∈ s.submitted) (hx' : x' ∈ s.submitted) (hd : d ∈ s.dispatched) (hd' : d' ∈ s.dispatched)
    (hsame : SameTarget x d) (hsame' : SameTarget x' d') (ht : config.Trailing x.serverId)
    (hk : x.key = x'.key) : x.scanMode = x'.scanMode ∧ x.libraryId = x'.libraryId := by
  have hxd := hsame.key (inv.submitted _ hx) (inv.dispatched _ hd)
  have hxd' := hsame'.key (inv.submitted _ hx') (inv.dispatched _ hd')
  have htd : config.Trailing d.serverId := by
    rw [← hsame.1]
    exact ht
  obtain rfl := (h d hd htd).2 d' hd' (by rw [← hxd, ← hxd', hk])
  have hmode := (inv.submitted _ hx).scanMode
  have hmode' := (inv.submitted _ hx').scanMode
  rw [hsame.2.2] at hmode
  rw [hsame'.2.2] at hmode'
  exact ⟨hmode.trans hmode'.symm, hsame.2.1.trans hsame'.2.1.symm⟩

/-- Every target that was submitted is dispatched once all windows have elapsed, whatever the events
and whatever the order in which tasks fire, if and only if routes of one delayed server that share a
key agree in their scan mode and library. -/
theorem coalescing_keeps_targets_iff :
    (∀ s, Reach (Intake.step lower config) Free (Intake.start config) s → s.Settled →
      ∀ req ∈ s.submitted, ∃ d ∈ s.dispatched, SameTarget req d) ↔ KeysDistinct lower config := by
  constructor
  · intro h r hr r' hr' hid ht e e' hm hm' hkey
    obtain ⟨s, hreach, hsettled, inv, honce, hsub⟩ := exists_settled lower config e e'
    have hreq : r.request e ∈ s.submitted := hsub _ (.inl (mem_route.2 ⟨r, hr, hm, rfl⟩))
    have hreq' : r'.request e' ∈ s.submitted := hsub _ (.inr (mem_route.2 ⟨r', hr', hm', rfl⟩))
    obtain ⟨d, hd, hsame⟩ := h s hreach hsettled _ hreq
    obtain ⟨d', hd', hsame'⟩ := h s hreach hsettled _ hreq'
    exact honce.agree inv hreq hreq' hd hd' hsame hsame' ht (Prod.ext hid hkey)
  · intro hk s h hset req hreq
    have hinv : Inv lower config s ∧ Kept s := by
      refine h.invariant (P := fun u => Inv lower config u ∧ Kept u)
        ⟨Inv.start, fun x hx => (by cases hx)⟩ fun hu _ hs => ?_
      exact ⟨hu.1.step hs, hu.2.step hu.1 hk hs⟩
    rcases hinv.2 req hreq with hd | ⟨d, ⟨task, timer, -, hl, -⟩, -⟩
    · exact hd
    · -- nothing waits any more
      have hmem : task ∈ s.debouncer.tasks.keys := AList.lookup_isSome.1 (by rw [hl]; rfl)
      rw [hset.2] at hmem
      cases hmem

/-- A server that waits, with one folder in two of its libraries. -/
def sharedFolder : RuntimeConfig where
  watchPaths := ["/m".toList]
  routes := ["1".toList, "2".toList].map fun library =>
    ⟨1, "plex".toList, "/m".toList, [], some library, .targeted, FsEventType.all⟩
  servers := AList.insert 1
    ⟨1, "plex".toList, .plex, "http://plex".toList, none, .targeted, .trailing, 30, 3, none, none,
      none, .custom⟩ ∅
  ignoreDirs := []

/-- The scan of the first library is lost. -/
theorem coalescing_loses_library :
    ¬ ∀ (lower : Str → Str) (config : RuntimeConfig) (acts : List Act) (s : Intake),
      run (Intake.step lower config) (Intake.start config) acts = some s → s.Settled →
      ∀ req ∈ s.submitted, ∃ d ∈ s.dispatched, SameTarget req d := by
  intro h
  have hrun : run (Intake.step lowerAscii sharedFolder) (Intake.start sharedFolder)
      [.event ⟨"/m/x/e.mkv".toList, .created, false⟩, .submit, .submit, .fire 0, .fire 1] =
        some _ := rfl
  obtain ⟨d, hd, -, hlib, -⟩ := h lowerAscii sharedFolder _ _ hrun ⟨rfl, rfl⟩ _
    (List.mem_cons_of_mem _ List.mem_cons_self)
  obtain rfl := List.mem_singleton.1 hd
  exact absurd hlib (by decide)

end Intake
end MediaScanMonitor
