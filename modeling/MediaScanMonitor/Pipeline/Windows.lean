import Mathlib.Algebra.Order.Ring.Rat
import Mathlib.Tactic.Linarith
import MediaScanMonitor.Lib.Transition
import MediaScanMonitor.Pipeline.Timers

/-!
# Windows

The debouncer with the clock that its tasks sleep by: a task is resumed when its window is over, or
when it was cancelled. Requests with one key that follow each other within a window are dispatched
once, when the window of the last of them is over.
-/

namespace MediaScanMonitor
open Transition

namespace Debouncer

/-- `window` in `submit`. -/
def window (d : Debouncer) (req : ScanRequest) : ℚ :=
  match d.servers.lookup req.serverId with
  | none => 0
  | some server => server.debounceWindowSeconds

variable {d : Debouncer} {req r : ScanRequest} {x : Nat}

/-- A request is dispatched at once or takes the next task. -/
lemma Exact.submit_cases (h : d.Exact) (req : ScanRequest) :
    d.submit req = (d, [req]) ∨ (d.submit req).2 = [] ∧ Takes d (d.submit req).1 req := by
  by_cases ht : d.Trailing req
  · exact .inr (h.submit ht)
  · exact .inl (submit_of_not_trailing ht)

lemma Exact.submit_exact (h : d.Exact) (req : ScanRequest) : (d.submit req).1.Exact := by
  rcases h.submit_cases req with hnow | ⟨-, htakes⟩
  · rw [hnow]
    exact h
  · exact htakes.exact

/-- What waits for another server goes on waiting. -/
lemma Exact.submit_other (h : d.Exact) (hne : r.serverId ≠ req.serverId) :
    (d.submit req).1.Pending x r ↔ d.Pending x r := by
  rcases h.submit_cases req with hnow | ⟨-, htakes⟩
  · rw [hnow]
  · rw [htakes.pending]
    constructor
    · rintro (⟨-, rfl⟩ | ⟨-, hold⟩)
      · exact absurd rfl hne
      · exact hold
    · exact fun hold => .inr ⟨fun hk => hne (Prod.mk.inj hk).1, hold⟩

end Debouncer

/-- A debouncer with the time, the end of the window of each task, and what came in and went out. -/
structure Clocked where
  debouncer : Debouncer
  now : ℚ
  due : Nat → ℚ
  /-- The submitted requests and when they were, the last one first. -/
  submitted : List (ℚ × ScanRequest)
  dispatched : List ScanRequest

namespace Clocked

inductive Act
  | wait (seconds : ℚ)
  | submit (req : ScanRequest)
  /-- A task is resumed. -/
  | fire (task : Nat)

/-- The sleep of the task is over, or it was cancelled. -/
def Resumable (s : Clocked) (task : Nat) : Prop :=
  s.due task ≤ s.now ∨ ∃ timer ∈ s.debouncer.tasks.lookup task, timer.cancelled = true

instance (s : Clocked) : DecidablePred s.Resumable := fun task =>
  inferInstanceAs (Decidable
    (s.due task ≤ s.now ∨ ∃ timer ∈ s.debouncer.tasks.lookup task, timer.cancelled = true))

def step (s : Clocked) : Act → Option Clocked
  | .wait seconds => if 0 ≤ seconds then some { s with now := s.now + seconds } else none
  | .submit req =>
    let (d, out) := s.debouncer.submit req
    some
      { s with
        debouncer := d
        due := Function.update s.due s.debouncer.nextTask (s.now + s.debouncer.window req)
        submitted := (s.now, req) :: s.submitted
        dispatched := s.dispatched ++ out }
  | .fire task =>
    if s.Resumable task then
      (s.debouncer.fireAfter task).map fun (d, out) =>
        { s with debouncer := d, dispatched := s.dispatched ++ out }
    else none

/-- A debouncer that was just made. -/
def start (servers : AList fun _ : Nat => ServerRuntime) : Clocked :=
  ⟨.init servers, 0, fun _ => 0, [], []⟩

/-- The requests for a server, the last one first. -/
def burst (s : Clocked) (serverId : Nat) : List (ℚ × ScanRequest) :=
  s.submitted.filter fun entry => entry.2.serverId = serverId

/-- What was dispatched to a server. -/
def outcome (s : Clocked) (serverId : Nat) : List ScanRequest :=
  s.dispatched.filter fun req => req.serverId = serverId

/-- No request for the server waits. -/
def Idle (s : Clocked) (serverId : Nat) : Prop :=
  ∀ task req, s.debouncer.Pending task req → req.serverId ≠ serverId

/-- A server in `trailing` mode for which nothing has come yet. -/
structure Fresh (s : Clocked) (serverId : Nat) (server : ServerRuntime) : Prop where
  exact : s.debouncer.Exact
  runtime : s.debouncer.servers.lookup serverId = some server
  trailing : server.debounceMode = .trailing
  idle : s.Idle serverId
  submitted : s.burst serverId = []
  dispatched : s.outcome serverId = []

/-- Each request came before the window of the one before it was over. -/
def Gapless (window : ℚ) (burst : List (ℚ × ScanRequest)) : Prop :=
  burst.IsChain fun later earlier => later.1 < earlier.1 + window

/-- No request comes. -/
def Passes (_ : Clocked) : Act → Prop
  | .submit _ => False
  | _ => True

/-- A burst for a server comes to an end, and when it has, one request was dispatched. -/
structure Once (s : Clocked) (serverId : Nat) : Prop where
  ends : ∃ s', Reach step Passes s s' ∧ s'.Idle serverId
  single : ∀ s', Reach step Passes s s' → s'.Idle serverId → ∃ req, s'.outcome serverId = [req]

/-- How far a burst has come: nothing was submitted, or the last request waits and nothing else does,
or it was dispatched when its window was over. -/
inductive Progress (serverId : Nat) (window : ℚ) (s : Clocked) : List (ℚ × ScanRequest) → Prop
  | nothing : s.Idle serverId → s.outcome serverId = [] → Progress serverId window s []
  | waiting (task : Nat) (t : ℚ) (req : ScanRequest) (rest : List (ℚ × ScanRequest)) :
      s.debouncer.Pending task req → req.serverId = serverId →
      (∀ x r, s.debouncer.Pending x r → r.serverId = serverId → x = task) →
      s.due task = t + window → s.outcome serverId = [] →
      Progress serverId window s ((t, req) :: rest)
  | dispatched (t : ℚ) (req : ScanRequest) (rest : List (ℚ × ScanRequest)) :
      s.Idle serverId → s.outcome serverId = [req] → t + window ≤ s.now →
      Progress serverId window s ((t, req) :: rest)

/-- What holds in every run, as long as the burst has no gap and one key. -/
structure Inv (serverId : Nat) (server : ServerRuntime) (key : Text.Str) (s : Clocked) : Prop where
  exact : s.debouncer.Exact
  runtime : s.debouncer.servers.lookup serverId = some server
  progress : Gapless server.debounceWindowSeconds (s.burst serverId) →
    (∀ entry ∈ s.burst serverId, entry.2.scanKey = key) →
    Progress serverId server.debounceWindowSeconds s (s.burst serverId)

variable {s s' s₀ : Clocked} {a : Act} {serverId : Nat} {server : ServerRuntime} {key : Text.Str}
  {req : ScanRequest} {window : ℚ} {burst : List (ℚ × ScanRequest)}

lemma step_wait {seconds : ℚ} (hpos : 0 ≤ seconds) :
    step s (.wait seconds) = some { s with now := s.now + seconds } :=
  if_pos hpos

lemma step_submit : step s (.submit req) = some
    { s with
      debouncer := (s.debouncer.submit req).1
      due := Function.update s.due s.debouncer.nextTask (s.now + s.debouncer.window req)
      submitted := (s.now, req) :: s.submitted
      dispatched := s.dispatched ++ (s.debouncer.submit req).2 } := rfl

lemma fresh_start {servers : AList fun _ : Nat => ServerRuntime}
    (hl : servers.lookup serverId = some server) (ht : server.debounceMode = .trailing) :
    Fresh (start servers) serverId server := by
  refine ⟨Debouncer.exact_init servers, hl, ht, fun task req hp => ?_, rfl, rfl⟩
  cases hp

lemma Fresh.inv (h : Fresh s serverId server) (key : Text.Str) : Inv serverId server key s := by
  refine ⟨h.exact, h.runtime, fun _ _ => ?_⟩
  rw [h.submitted]
  exact .nothing h.idle h.dispatched

/-- Nothing changes for the server, but that time may pass. -/
lemma Progress.frame (h : Progress serverId window s burst)
    (hpend : ∀ x r, r.serverId = serverId → (s'.debouncer.Pending x r ↔ s.debouncer.Pending x r))
    (hout : s'.outcome serverId = s.outcome serverId) (hnow : s.now ≤ s'.now)
    (hdue : ∀ x r, s.debouncer.Pending x r → s'.due x = s.due x) :
    Progress serverId window s' burst := by
  have hidle : s.Idle serverId → s'.Idle serverId :=
    fun hidle x r hp hr => hidle x r ((hpend x r hr).1 hp) hr
  cases h with
  | nothing hi ho => exact .nothing (hidle hi) (hout.trans ho)
  | waiting task t req rest hp hid honly ht ho =>
    exact .waiting task t req rest ((hpend _ _ hid).2 hp) hid
      (fun x r hx hr => honly x r ((hpend x r hr).1 hx) hr) ((hdue _ _ hp).trans ht) (hout.trans ho)
  | dispatched t req rest hi ho hover =>
    exact .dispatched t req rest (hidle hi) (hout.trans ho) (hover.trans hnow)

/-- What is dispatched to other servers does not count. -/
lemma filter_other {out : List ScanRequest} (h : ∀ r ∈ out, r.serverId ≠ serverId)
    (dispatched : List ScanRequest) :
    (dispatched ++ out).filter (fun req => req.serverId = serverId) =
      dispatched.filter fun req => req.serverId = serverId := by
  rw [List.filter_append]
  apply List.append_right_eq_self.2
  apply List.filter_eq_nil_iff.2
  exact fun r hr he => h r hr (of_decide_eq_true he)

/-- The request waits in place of the one before it, whose window was not over. -/
lemma Inv.submit_own (inv : Inv serverId server key s) (ht : server.debounceMode = .trailing)
    (hs : step s (.submit req) = some s') (hid : req.serverId = serverId)
    (hgap : Gapless server.debounceWindowSeconds (s'.burst serverId))
    (hkey : ∀ entry ∈ s'.burst serverId, entry.2.scanKey = key) :
    Progress serverId server.debounceWindowSeconds s' (s'.burst serverId) := by
  have htrailing : s.debouncer.Trailing req := by
    refine ⟨server, hid ▸ inv.runtime, ?_⟩
    rw [ht]
    exact DebounceMode.noConfusion
  obtain ⟨hout, htakes⟩ := inv.exact.submit htrailing
  rw [step_submit] at hs
  cases hs
  have hburst : ∀ (d : Debouncer) (due : Nat → ℚ) (out : List ScanRequest),
      Clocked.burst ⟨d, s.now, due, (s.now, req) :: s.submitted, out⟩ serverId =
        (s.now, req) :: s.burst serverId := fun _ _ _ =>
    List.filter_cons_of_pos (decide_eq_true hid)
  rw [hburst] at hgap hkey ⊢
  have hprog := inv.progress hgap.of_cons fun entry he => hkey entry (List.mem_cons_of_mem _ he)
  have hnew : req.scanKey = key := hkey _ List.mem_cons_self
  -- the old request, if one waits, has the key of the new one
  have hlast : s.outcome serverId = [] ∧ ∀ x r, s.debouncer.Pending x r → r.serverId = serverId →
      r.key = req.key := by
    generalize hb : s.burst serverId = entries at hprog hgap hkey
    cases hprog with
    | nothing hidle hout => exact ⟨hout, fun x r hp hr => absurd hr (hidle x r hp)⟩
    | waiting task t last rest hp hlast honly hdue hout =>
      refine ⟨hout, fun x r hpx hr => ?_⟩
      have hx := honly x r hpx hr
      subst hx
      rw [hpx.unique hp, ScanRequest.key, ScanRequest.key, hlast, hid, hnew,
        hkey (t, last) (List.mem_cons_of_mem _ List.mem_cons_self)]
    | dispatched t last rest hidle hout hover =>
      have hlt : s.now < t + server.debounceWindowSeconds := (List.isChain_cons_cons.1 hgap).1
      exact absurd hover (not_le.2 hlt)
  refine .waiting s.debouncer.nextTask s.now req _ ?_ hid ?_ ?_ ?_
  · exact (htakes.pending _ _).2 (.inl ⟨rfl, rfl⟩)
  · intro x r hp hr
    rcases (htakes.pending x r).1 hp with ⟨hx, -⟩ | ⟨hne, hold⟩
    · exact hx
    · exact absurd (hlast.2 x r hold hr) hne
  · show Function.update s.due _ _ s.debouncer.nextTask = _
    rw [Function.update_self, Debouncer.window, hid, inv.runtime]
  · show (s.dispatched ++ (s.debouncer.submit req).2).filter _ = []
    rw [hout, List.append_nil]
    exact hlast.1

lemma burst_submit_other (hs : step s (.submit req) = some s') (hid : req.serverId ≠ serverId) :
    s'.burst serverId = s.burst serverId := by
  cases hs
  exact List.filter_cons_of_neg fun he => hid (of_decide_eq_true he)

/-- A request for another server changes nothing. -/
lemma Inv.submit_other (inv : Inv serverId server key s) (hs : step s (.submit req) = some s')
    (hid : req.serverId ≠ serverId) (h : Progress serverId window s burst) :
    Progress serverId window s' burst := by
  rw [step_submit] at hs
  cases hs
  refine h.frame (fun x r hr => ?_) (filter_other (fun r hr => ?_) s.dispatched) le_rfl
    fun x r hp => ?_
  · apply inv.exact.submit_other
    rw [hr]
    exact hid.symm
  · rcases inv.exact.submit_cases req with hnow | ⟨hnone, -⟩
    · rw [hnow] at hr
      rw [List.mem_singleton.1 hr]
      exact hid
    · rw [hnone] at hr
      cases hr
  · exact Function.update_of_ne (Nat.ne_of_lt (inv.exact.fresh hp)) _ _

/-- The task that waits for the server is resumed, when its window is over. -/
lemma Progress.fire {task : Nat} {d : Debouncer} {out : List ScanRequest}
    (h : Progress serverId window s burst) (hends : s.debouncer.Ends d task out)
    (hp : s.debouncer.Pending task req) (hid : req.serverId = serverId) (hres : s.Resumable task) :
    Progress serverId window { s with debouncer := d, dispatched := s.dispatched ++ out } burst := by
  cases h with
  | nothing hidle => exact absurd hid (hidle task req hp)
  | dispatched t last rest hidle => exact absurd hid (hidle task req hp)
  | waiting task' t last rest hlast hlid honly hdue hout =>
    have htask := honly task req hp hid
    subst htask
    refine .dispatched t last rest ?_ ?_ ?_
    · intro x r hx hr
      obtain ⟨hne, hold⟩ := (hends.pending x r).1 hx
      exact hne (honly x r hold hr)
    · rcases hends.out with ⟨r, rfl, hr⟩ | ⟨-, hnone⟩
      · rw [hr.unique hlast]
        show (s.dispatched ++ [last]).filter _ = _
        rw [List.filter_append]
        show s.outcome serverId ++ _ = _
        rw [hout, List.nil_append]
        exact List.filter_cons_of_pos (decide_eq_true hlid)
      · exact absurd hlast (hnone last)
    · rcases hres with hover | ⟨timer, hl, hc⟩
      · rwa [hdue] at hover
      · rw [Option.some.inj (hlast.symm.trans hl).symm] at hc
        cases hc

/-- A task is resumed, the one that waits for the server or another. -/
lemma Inv.fire (inv : Inv serverId server key s) {task : Nat}
    (hs : step s (.fire task) = some s') :
    s'.burst serverId = s.burst serverId ∧ s'.debouncer.Exact ∧
      s'.debouncer.servers = s.debouncer.servers ∧
      (Progress serverId window s burst → Progress serverId window s' burst) := by
  simp only [step] at hs
  split at hs
  case isFalse => cases hs
  case isTrue hres =>
    obtain ⟨⟨d, out⟩, hf, rfl⟩ := Option.map_eq_some_iff.1 hs
    have hends := inv.exact.fireAfter hf
    refine ⟨rfl, hends.exact, hends.servers, fun h => ?_⟩
    by_cases hw : ∃ r, s.debouncer.Pending task r ∧ r.serverId = serverId
    · obtain ⟨r, hp, hid⟩ := hw
      exact h.fire hends hp hid hres
    · refine h.frame (fun x r hr => ?_) (filter_other (fun r hr he => ?_) s.dispatched) le_rfl
        fun _ _ _ => rfl
      · apply (hends.pending x r).trans
        apply and_iff_right_of_imp
        rintro hp rfl
        exact hw ⟨r, hp, hr⟩
      · rcases hends.out with ⟨r', rfl, hp⟩ | ⟨rfl, -⟩
        · rw [List.mem_singleton.1 hr] at he
          exact hw ⟨r', hp, he⟩
        · cases hr

/-- One step of a run. -/
lemma Inv.step (inv : Inv serverId server key s) (ht : server.debounceMode = .trailing)
    (hs : Clocked.step s a = some s') : Inv serverId server key s' := by
  cases a with
  | wait seconds =>
    simp only [Clocked.step] at hs
    split at hs
    case isFalse => cases hs
    case isTrue hpos =>
      cases hs
      have hnow : s.now ≤ s.now + seconds := by linarith
      exact ⟨inv.exact, inv.runtime, fun hgap hkey =>
        (inv.progress hgap hkey).frame (fun _ _ _ => Iff.rfl) rfl hnow fun _ _ _ => rfl⟩
  | submit req =>
    refine ⟨?_, ?_, fun hgap hkey => ?_⟩
    · cases hs
      exact inv.exact.submit_exact req
    · cases hs
      exact (congrArg _ (Debouncer.submit_servers req)).trans inv.runtime
    · by_cases hid : req.serverId = serverId
      · exact inv.submit_own ht hs hid hgap hkey
      · rw [burst_submit_other hs hid] at hgap hkey ⊢
        exact inv.submit_other hs hid (inv.progress hgap hkey)
  | fire task =>
    obtain ⟨hburst, hexact, hservers, hprog⟩ := inv.fire hs
    refine ⟨hexact, hservers ▸ inv.runtime, fun hgap hkey => ?_⟩
    rw [hburst] at hgap hkey ⊢
    exact hprog (inv.progress hgap hkey)

lemma Inv.reach {G : Clocked → Act → Prop} (inv : Inv serverId server key s)
    (ht : server.debounceMode = .trailing) (h : Reach Clocked.step G s s') :
    Inv serverId server key s' :=
  h.invariant inv fun hu _ hs => hu.step ht hs

/-- Nothing comes while time passes. -/
lemma burst_passes (h : Reach step Passes s s') : s'.burst serverId = s.burst serverId := by
  apply h.invariant (P := fun u => u.burst serverId = s.burst serverId) rfl
  intro u a v hu hg hs
  rw [← hu]
  cases a with
  | wait seconds =>
    simp only [step] at hs
    split at hs
    · cases hs
      rfl
    · cases hs
  | submit req => exact hg.elim
  | fire task =>
    simp only [step] at hs
    split at hs
    · obtain ⟨⟨d, out⟩, -, rfl⟩ := Option.map_eq_some_iff.1 hs
      rfl
    · cases hs

/-- A burst comes to an end. -/
lemma Inv.ends (inv : Inv serverId server key s) (h : Progress serverId window s burst) :
    ∃ s', Reach Clocked.step Passes s s' ∧ s'.Idle serverId := by
  cases h with
  | nothing hidle => exact ⟨s, .refl, hidle⟩
  | dispatched t req rest hidle => exact ⟨s, .refl, hidle⟩
  | waiting task t req rest hp hid honly hdue hout =>
    -- the clock is set to the end of the window
    have hpos : 0 ≤ max 0 (s.due task - s.now) := le_max_left _ _
    have hover : s.due task ≤ s.now + max 0 (s.due task - s.now) := by
      have h := le_max_right 0 (s.due task - s.now)
      linarith
    cases hf : s.debouncer.fireAfter task with
    | none =>
      have hnone := Option.map_eq_none_iff.1 hf
      rw [hp] at hnone
      cases hnone
    | some res =>
      obtain ⟨d, out⟩ := res
      refine ⟨{ s with
          now := s.now + max 0 (s.due task - s.now)
          debouncer := d
          dispatched := s.dispatched ++ out }, ?_, ?_⟩
      · refine .head (a := .wait _) trivial (step_wait hpos)
          (.head (a := .fire task) trivial ?_ .refl)
        have hres : Resumable { s with now := s.now + max 0 (s.due task - s.now) } task := .inl hover
        rw [Clocked.step, if_pos hres, hf]
        rfl
      · intro x r hx hr
        obtain ⟨hne, hold⟩ := ((inv.exact.fireAfter hf).pending x r).1 hx
        exact hne (honly x r hold hr)

/-- Requests for a trailing server with one key and without a gap are dispatched once. -/
theorem burst_once (h₀ : Fresh s₀ serverId server) (h : Reach step Free s₀ s)
    (hne : s.burst serverId ≠ []) (hgap : Gapless server.debounceWindowSeconds (s.burst serverId))
    (hkey : ∀ entry ∈ s.burst serverId, entry.2.scanKey = key) : s.Once serverId := by
  have inv : Inv serverId server key s := (h₀.inv key).reach h₀.trailing h
  refine ⟨inv.ends (inv.progress hgap hkey), fun s' h' hidle => ?_⟩
  have hburst : s'.burst serverId = s.burst serverId := burst_passes h'
  rw [← hburst] at hne hgap hkey
  have hprog := (inv.reach h₀.trailing h').progress hgap hkey
  generalize s'.burst serverId = entries at hprog hne
  cases hprog with
  | nothing => exact absurd rfl hne
  | waiting task t req rest hp hid => exact absurd hid (hidle task req hp)
  | dispatched t req rest _ hout => exact ⟨req, hout⟩

end Clocked
end MediaScanMonitor
