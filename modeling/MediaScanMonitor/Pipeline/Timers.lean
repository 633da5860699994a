import MediaScanMonitor.Pipeline.Debounce

/-!
# The timers

What each operation of the debouncer does to the timer tasks, one lemma an operation. A task is
pending while it sleeps and is not cancelled, and `Exact` says that the dict of timers holds just
the pending tasks.
-/

namespace MediaScanMonitor
open Text
namespace Debouncer

/-- The task sleeps for the request and is not cancelled. -/
def Pending (d : Debouncer) (task : Nat) (req : ScanRequest) : Prop :=
  d.tasks.lookup task = some ⟨req.key, req, false⟩

/-- Every task sleeps for the key of its request, and the next task is a new one. -/
structure Tidy (d : Debouncer) : Prop where
  keyed : ∀ {task timer}, d.tasks.lookup task = some timer → timer.key = timer.req.key
  fresh : ∀ {task timer}, d.tasks.lookup task = some timer → task < d.nextTask

/-- The dict holds, under each key, the task that is pending for it and nothing else. -/
structure Exact (d : Debouncer) : Prop extends Tidy d where
  timers : ∀ {key task}, d.timers.lookup key = some task ↔ ∃ req, d.Pending task req ∧ req.key = key

variable {d d' : Debouncer} {req r : ScanRequest} {task x : Nat} {key : Nat × Str}
  {servers : AList fun _ : Nat => ServerRuntime}

lemma exact_init (servers : AList fun _ : Nat => ServerRuntime) : Exact (init servers) := by
  constructor
  · constructor
    · intro task timer h
      cases h
    · intro task timer h
      cases h
  · intro key task
    constructor
    · intro h
      cases h
    · rintro ⟨req, h, -⟩
      cases h

lemma Exact.lookup (h : d.Exact) (hp : d.Pending task req) :
    d.timers.lookup req.key = some task :=
  h.timers.2 ⟨req, hp, rfl⟩

lemma Pending.unique (hp : d.Pending task req) (hp' : d.Pending task r) : req = r := by
  have h := Option.some.inj (hp.symm.trans hp')
  exact (Timer.mk.inj h).2.1

/-- At most one task is pending for a key. -/
lemma Exact.task_eq (h : d.Exact) (hp : d.Pending task req) (hp' : d.Pending x r)
    (hk : req.key = r.key) : task = x := by
  have ht := h.lookup hp
  rw [hk, h.lookup hp'] at ht
  exact (Option.some.inj ht).symm

/-- An uncancelled task is pending. -/
lemma Exact.pending (h : d.Exact) {timer : Timer} (hl : d.tasks.lookup task = some timer)
    (hc : timer.cancelled = false) : d.Pending task timer.req := by
  have hk := h.keyed hl
  obtain ⟨key, req, cancelled⟩ := timer
  subst hc
  rw [show key = req.key from hk] at hl
  exact hl

/-! ## Cancelling -/

lemma pending_cancel : (d.cancel task).Pending x req ↔ x ≠ task ∧ d.Pending x req := by
  unfold Pending
  rw [lookup_cancel]
  split
  · next h =>
    constructor
    · intro hx
      obtain ⟨timer, -, hx⟩ := Option.map_eq_some_iff.1 hx
      exact absurd (Timer.mk.inj hx).2.2 Bool.noConfusion
    · intro hx
      exact absurd h hx.1
  · next h => exact (and_iff_right h).symm

/-- A cancelled task keeps its variables. -/
lemma Tidy.cancel (h : d.Tidy) (task : Nat) : (d.cancel task).Tidy := by
  have hold : ∀ {x timer}, (d.cancel task).tasks.lookup x = some timer →
      ∃ timer', d.tasks.lookup x = some timer' ∧ timer'.key = timer.key ∧ timer'.req = timer.req := by
    intro x timer hl
    rw [lookup_cancel] at hl
    split at hl
    · obtain ⟨timer', hl', rfl⟩ := Option.map_eq_some_iff.1 hl
      exact ⟨timer', hl', rfl, rfl⟩
    · exact ⟨timer, hl, rfl, rfl⟩
  constructor
  · intro x timer hl
    obtain ⟨timer', hl', hk, hr⟩ := hold hl
    rw [← hk, ← hr]
    exact h.keyed hl'
  · intro x timer hl
    obtain ⟨timer', hl', -⟩ := hold hl
    rw [cancel_nextTask]
    exact h.fresh hl'

/-! ## Submitting -/

section Arm
variable {c : Debouncer}

lemma lookup_arm {timer : Timer} : (c.arm req.key req).tasks.lookup x = some timer ↔
    x = c.nextTask ∧ ⟨req.key, req, false⟩ = timer ∨
      x ≠ c.nextTask ∧ c.tasks.lookup x = some timer :=
  lookup_insert_iff

lemma pending_arm (hc : c.Tidy) :
    (c.arm req.key req).Pending x r ↔ x = c.nextTask ∧ r = req ∨ c.Pending x r := by
  unfold Pending
  rw [lookup_arm]
  constructor
  · rintro (⟨hx, hr⟩ | ⟨-, hr⟩)
    · exact .inl ⟨hx, (Timer.mk.inj hr).2.1.symm⟩
    · exact .inr hr
  · rintro (⟨rfl, rfl⟩ | hr)
    · exact .inl ⟨rfl, rfl⟩
    · exact .inr ⟨Nat.ne_of_lt (hc.fresh hr), hr⟩

lemma Tidy.arm (hc : c.Tidy) (req : ScanRequest) : (c.arm req.key req).Tidy := by
  constructor
  · intro task timer hl
    rcases lookup_arm.1 hl with ⟨-, rfl⟩ | ⟨-, hl⟩
    · rfl
    · exact hc.keyed hl
  · intro task timer hl
    rcases lookup_arm.1 hl with ⟨rfl, -⟩ | ⟨-, hl⟩
    · exact Nat.lt_succ_self _
    · exact Nat.lt_succ_of_lt (hc.fresh hl)

/-- Arming a key under which nothing is pending any more. -/
lemma Exact.arm (h : d.Exact) (c : Debouncer) (req : ScanRequest)
    (hc : c.Tidy) (ht : c.timers = d.timers)
    (hp : ∀ x r, c.Pending x r ↔ r.key ≠ req.key ∧ d.Pending x r) :
    (c.arm req.key req).Exact ∧
      ∀ x r, (c.arm req.key req).Pending x r ↔
        x = c.nextTask ∧ r = req ∨ r.key ≠ req.key ∧ d.Pending x r := by
  have hpend : ∀ x r, (c.arm req.key req).Pending x r ↔
      x = c.nextTask ∧ r = req ∨ r.key ≠ req.key ∧ d.Pending x r := by
    intro x r
    rw [pending_arm hc, hp]
  refine ⟨⟨hc.arm req, ?_⟩, hpend⟩
  intro key task
  rw [Debouncer.arm, lookup_insert_iff, ht, h.timers]
  constructor
  · rintro (⟨rfl, rfl⟩ | ⟨hk, r, hr, rfl⟩)
    · exact ⟨req, (hpend _ _).2 (.inl ⟨rfl, rfl⟩), rfl⟩
    · exact ⟨r, (hpend _ _).2 (.inr ⟨hk, hr⟩), rfl⟩
  · rintro ⟨r, hr, rfl⟩
    rcases (hpend _ _).1 hr with ⟨rfl, rfl⟩ | ⟨hk, hr⟩
    · exact .inl ⟨rfl, rfl⟩
    · exact .inr ⟨hk, r, hr, rfl⟩

end Arm

/-- A request that need not wait is dispatched, and nothing else happens. -/
lemma submit_of_not_trailing (h : ¬ d.Trailing req) : d.submit req = (d, [req]) := by
  unfold submit
  cases hl : d.servers.lookup req.serverId with
  | none => rfl
  | some server =>
    show (if server.debounceMode = .off then _ else _) = _
    split
    · rfl
    · next hon => exact absurd ⟨server, hl, hon⟩ h

/-- A request that waits takes the next task; what was pending under its key no longer is. -/
structure Takes (d d' : Debouncer) (req : ScanRequest) : Prop where
  servers : d'.servers = d.servers
  nextTask : d'.nextTask = d.nextTask + 1
  exact : d'.Exact
  pending : ∀ x r, d'.Pending x r ↔
    x = d.nextTask ∧ r = req ∨ r.key ≠ req.key ∧ d.Pending x r

lemma Exact.submit (h : d.Exact) (ht : d.Trailing req) :
    (d.submit req).2 = [] ∧ Takes d (d.submit req).1 req := by
  obtain ⟨server, hl, hon⟩ := ht
  unfold Debouncer.submit
  rw [hl]
  show (ite _ _ _ : Debouncer × List ScanRequest).2 = [] ∧
    Takes d (ite _ _ _ : Debouncer × List ScanRequest).1 req
  rw [if_neg hon]
  cases hk : d.timers.lookup req.key with
  | none =>
    apply And.intro rfl
    obtain ⟨hexact, hpend⟩ := h.arm d req h.toTidy rfl (by
      intro x r
      constructor
      · intro hx
        refine ⟨fun e => ?_, hx⟩
        rw [← e, h.lookup hx] at hk
        cases hk
      · exact And.right)
    exact ⟨rfl, rfl, hexact, hpend⟩
  | some pending =>
    apply And.intro rfl
    obtain ⟨hexact, hpend⟩ := h.arm (d.cancel pending) req (h.toTidy.cancel pending)
      (cancel_timers _) (by
        intro x r
        rw [pending_cancel]
        constructor
        · rintro ⟨hne, hx⟩
          refine ⟨fun e => hne ?_, hx⟩
          rw [← e, h.lookup hx] at hk
          exact Option.some.inj hk
        · rintro ⟨hne, hx⟩
          refine ⟨fun e => hne ?_, hx⟩
          subst e
          obtain ⟨r', hr', hrk⟩ := h.timers.1 hk
          rw [hx.unique hr', hrk])
    rw [cancel_nextTask] at hpend
    exact ⟨cancel_servers _, congrArg (· + 1) (cancel_nextTask _), hexact, hpend⟩

/-! ## Firing -/

/-- A task that is gone takes its entry along, if it has one. -/
lemma Exact.erase (h : d.Exact) (c : Debouncer) (task : Nat) (htasks : c.tasks = d.tasks.erase task)
    (hn : c.nextTask = d.nextTask)
    (ht : ∀ key x, c.timers.lookup key = some x ↔ x ≠ task ∧ d.timers.lookup key = some x) :
    c.Exact ∧ ∀ x r, c.Pending x r ↔ x ≠ task ∧ d.Pending x r := by
  have hlook : ∀ {x timer}, c.tasks.lookup x = some timer ↔
      x ≠ task ∧ d.tasks.lookup x = some timer := by
    intro x timer
    rw [htasks]
    exact lookup_erase_iff
  refine ⟨⟨⟨fun hl => h.keyed (hlook.1 hl).2, fun hl => hn ▸ h.fresh (hlook.1 hl).2⟩, ?_⟩,
    fun x r => hlook⟩
  intro key x
  rw [ht, h.timers]
  constructor
  · rintro ⟨hx, r, hr, hk⟩
    exact ⟨r, hlook.2 ⟨hx, hr⟩, hk⟩
  · rintro ⟨r, hr, hk⟩
    exact ⟨(hlook.1 hr).1, r, (hlook.1 hr).2, hk⟩

/-- A resumed task ends. If it was pending it dispatches its request, else it does nothing. -/
structure Ends (d d' : Debouncer) (task : Nat) (out : List ScanRequest) : Prop where
  servers : d'.servers = d.servers
  nextTask : d'.nextTask = d.nextTask
  exact : d'.Exact
  pending : ∀ x r, d'.Pending x r ↔ x ≠ task ∧ d.Pending x r
  out : (∃ r, out = [r] ∧ d.Pending task r) ∨ out = [] ∧ ∀ r, ¬ d.Pending task r

/-- The entry of another task does not go. -/
lemma Exact.ends_idle (h : d.Exact) (hnot : ∀ r, ¬ d.Pending task r) :
    Ends d { d with tasks := d.tasks.erase task } task [] := by
  obtain ⟨hexact, hpend⟩ := h.erase { d with tasks := d.tasks.erase task } task rfl rfl (by
    intro key x
    constructor
    · intro hx
      refine ⟨?_, hx⟩
      rintro rfl
      obtain ⟨r, hr, -⟩ := h.timers.1 hx
      exact hnot r hr
    · exact And.right)
  exact ⟨rfl, rfl, hexact, hpend, .inr ⟨rfl, hnot⟩⟩

/-- The task that is pending for its key takes its entry along. -/
lemma Exact.ends_own (h : d.Exact) (hp : d.Pending task req) :
    Ends d { d with tasks := d.tasks.erase task, timers := d.timers.erase req.key } task [req] := by
  obtain ⟨hexact, hpend⟩ := h.erase
    { d with tasks := d.tasks.erase task, timers := d.timers.erase req.key } task rfl rfl (by
    intro key x
    show (d.timers.erase req.key).lookup key = some x ↔ _
    rw [lookup_erase_iff]
    refine and_congr_left fun hx => not_congr ⟨?_, ?_⟩
    · rintro rfl
      exact Option.some.inj (hx.symm.trans (h.lookup hp))
    · rintro rfl
      obtain ⟨r, hr, hk⟩ := h.timers.1 hx
      rw [← hk, hr.unique hp])
  exact ⟨rfl, rfl, hexact, hpend, .inl ⟨_, rfl, hp⟩⟩

lemma Exact.fireAfter {out : List ScanRequest} (h : d.Exact)
    (hf : d.fireAfter task = some (d', out)) : Ends d d' task out := by
  obtain ⟨timer, hl, hd⟩ := Option.map_eq_some_iff.1 hf
  simp only at hd
  split at hd
  · next hc =>
    cases hd
    apply h.ends_idle
    intro r hr
    rw [Option.some.inj (hl.symm.trans hr)] at hc
    cases hc
  · next hc =>
    split at hd
    · next hk =>
      cases hd
      apply h.ends_idle
      intro r hr
      apply hk
      rw [Option.some.inj (hl.symm.trans hr)]
      exact h.lookup hr
    · cases hd
      rw [h.keyed hl]
      exact h.ends_own (h.pending hl (Bool.eq_false_iff.2 hc))

/-! ## Swapping the policies and closing -/

/-- What a swap keeps: the pending tasks that satisfy `P`. -/
structure Keeps (P : ScanRequest → Prop) (d d' : Debouncer) : Prop where
  nextTask : d'.nextTask = d.nextTask
  exact : d'.Exact
  pending : ∀ x r, d'.Pending x r ↔ P r ∧ d.Pending x r

lemma Tidy.foldl_cancel (h : d.Tidy) (l : List Nat) : (l.foldl Debouncer.cancel d).Tidy := by
  induction l generalizing d with
  | nil => exact h
  | cons task l ih => exact ih (h.cancel task)

/-- Cancelling changes the tasks only. -/
lemma foldl_cancel_rest (l : List Nat) : (l.foldl cancel d).timers = d.timers ∧
    (l.foldl cancel d).servers = d.servers ∧ (l.foldl cancel d).nextTask = d.nextTask := by
  induction l generalizing d with
  | nil => exact ⟨rfl, rfl, rfl⟩
  | cons task l ih =>
    obtain ⟨ht, hs, hn⟩ := @ih (d.cancel task)
    exact ⟨ht.trans (cancel_timers _), hs.trans (cancel_servers _), hn.trans (cancel_nextTask _)⟩

lemma pending_foldl_cancel (l : List Nat) :
    (l.foldl cancel d).Pending x req ↔ x ∉ l ∧ d.Pending x req := by
  induction l generalizing d with
  | nil => exact (and_iff_right (List.not_mem_nil)).symm
  | cons task l ih =>
    rw [List.foldl_cons, ih, pending_cancel, List.mem_cons, not_or]
    tauto

/-- A key that is popped, and its task cancelled. -/
lemma Exact.pop (h : d.Exact) (hk : d.timers.lookup key = some task) :
    Keeps (fun r => r.key ≠ key) d
      (({ d with timers := d.timers.erase key } : Debouncer).cancel task) := by
  obtain ⟨req, hp, rfl⟩ := h.timers.1 hk
  have hpend : ∀ x r, (({ d with timers := d.timers.erase req.key } : Debouncer).cancel task).Pending
      x r ↔ r.key ≠ req.key ∧ d.Pending x r := by
    intro x r
    rw [pending_cancel]
    constructor
    · rintro ⟨hx, hr⟩
      exact ⟨fun e => hx (h.task_eq hr hp e), hr⟩
    · rintro ⟨hne, hr⟩
      refine ⟨?_, hr⟩
      rintro rfl
      exact hne (congrArg ScanRequest.key (Pending.unique hr hp))
  have htidy : ({ d with timers := d.timers.erase req.key } : Debouncer).Tidy := ⟨h.keyed, h.fresh⟩
  refine ⟨cancel_nextTask _, ⟨htidy.cancel task, ?_⟩, hpend⟩
  intro key x
  rw [cancel_timers]
  show (d.timers.erase req.key).lookup key = some x ↔ _
  by_cases hkey : key = req.key
  · subst hkey
    rw [AList.lookup_erase]
    constructor
    · intro hx
      cases hx
    · rintro ⟨r, hr, hrk⟩
      exact absurd hrk ((hpend x r).1 hr).1
  · rw [AList.lookup_erase_ne hkey, h.timers]
    constructor
    · rintro ⟨r, hr, rfl⟩
      exact ⟨r, (hpend x r).2 ⟨hkey, hr⟩, rfl⟩
    · rintro ⟨r, hr, rfl⟩
      exact ⟨r, ((hpend x r).1 hr).2, rfl⟩

/-- One round of `update_servers`. -/
lemma Exact.dropGone (h : d.Exact) (servers : AList fun _ : Nat => ServerRuntime) (key : Nat × Str) :
    Keeps (fun r => r.key = key → key.1 ∈ servers) d (d.dropGone servers key) := by
  unfold Debouncer.dropGone
  split
  · next hmem => exact ⟨rfl, h, fun x r => (and_iff_right fun _ => hmem).symm⟩
  · next hgone =>
    cases hk : d.timers.lookup key with
    | none =>
      refine ⟨rfl, h, fun x r => ⟨fun hr => ⟨fun e => ?_, hr⟩, And.right⟩⟩
      rw [← e, h.lookup hr] at hk
      cases hk
    | some task =>
      obtain ⟨hn, hexact, hpend⟩ := h.pop hk
      refine ⟨hn, hexact, fun x r => (hpend x r).trans ?_⟩
      exact and_congr_left fun _ => ⟨fun hne e => absurd e hne, fun himp e => hgone (himp e)⟩

/-- The loop of `update_servers`. -/
lemma Exact.foldl_dropGone (h : d.Exact) (servers : AList fun _ : Nat => ServerRuntime)
    (keys : List (Nat × Str)) :
    Keeps (fun r => r.key ∈ keys → r.serverId ∈ servers) d
      (keys.foldl (Debouncer.dropGone servers) d) := by
  induction keys generalizing d with
  | nil => exact ⟨rfl, h, fun x r => (and_iff_right fun hm => absurd hm List.not_mem_nil).symm⟩
  | cons key keys ih =>
    obtain ⟨hn, hexact, hpend⟩ := h.dropGone servers key
    obtain ⟨hn', hexact', hpend'⟩ := ih hexact
    refine ⟨hn'.trans hn, hexact', fun x r => ?_⟩
    apply (hpend' x r).trans
    rw [hpend x r, ← and_assoc]
    apply and_congr_left
    intro _
    rw [List.mem_cons]
    constructor
    · rintro ⟨hrest, hhead⟩ hm
      cases hm with
      | inl hm =>
        rw [show r.serverId = key.1 from congrArg Prod.fst hm]
        exact hhead hm
      | inr hm => exact hrest hm
    · intro hall
      refine ⟨fun hm => hall (.inr hm), fun e => ?_⟩
      rw [← show r.serverId = key.1 from congrArg Prod.fst e]
      exact hall (.inl e)

/-- A swap cancels the tasks of the servers that are gone. -/
lemma Exact.updateServers (h : d.Exact) (servers : AList fun _ : Nat => ServerRuntime) :
    Keeps (fun r => r.serverId ∈ servers) d (d.updateServers servers) := by
  have h' : ({ d with servers := servers } : Debouncer).Exact := ⟨⟨h.keyed, h.fresh⟩, h.timers⟩
  obtain ⟨hn, hexact, hpend⟩ := h'.foldl_dropGone servers d.timers.keys
  refine ⟨hn, hexact, fun x r => (hpend x r).trans ?_⟩
  constructor
  · rintro ⟨himp, hr⟩
    refine ⟨himp ?_, hr⟩
    exact AList.mem_keys.1 (AList.lookup_isSome.1 (h.lookup hr ▸ rfl))
  · rintro ⟨hmem, hr⟩
    exact ⟨fun _ => hmem, hr⟩

/-- Closing cancels everything. -/
lemma Exact.close (h : d.Exact) : d.close.servers = d.servers ∧ Keeps (fun _ => False) d d.close := by
  unfold Debouncer.close
  obtain ⟨ht, hs, hn⟩ := @foldl_cancel_rest { d with timers := ∅ }
    (d.timers.entries.map fun entry => entry.2)
  have hpend : ∀ x r, ¬ ((d.timers.entries.map fun entry => entry.2).foldl cancel
      { d with timers := ∅ }).Pending x r := by
    intro x r hx
    obtain ⟨hnot, hr⟩ := (pending_foldl_cancel _).1 hx
    apply hnot
    have hl := h.lookup (show d.Pending x r from hr)
    exact List.mem_map_of_mem (AList.mem_lookup_iff.1 hl)
  have htidy : ({ d with timers := ∅ } : Debouncer).Tidy := ⟨h.keyed, h.fresh⟩
  refine ⟨hs, hn, ⟨htidy.foldl_cancel _, ?_⟩, fun x r => ?_⟩
  · intro key x
    rw [ht]
    constructor
    · intro hx
      cases hx
    · rintro ⟨r, hr, -⟩
      exact absurd hr (hpend x r)
  · constructor
    · intro hx
      exact (hpend x r hx).elim
    · intro hx
      exact hx.1.elim

/-! ## Without timers -/

/-- No timer is armed. -/
def Idle (d : Debouncer) : Prop :=
  ∀ key, d.timers.lookup key = none

lemma idle_close : d.close.Idle := by
  intro key
  rw [show d.close.timers = ∅ from foldl_cancel_rest _ |>.1]
  rfl

/-- A task that is resumed without being armed does nothing. -/
lemma Idle.fireAfter {out : List ScanRequest} (h : d.Idle)
    (hf : d.fireAfter task = some (d', out)) : d'.Idle ∧ out = [] := by
  obtain ⟨timer, -, hd⟩ := Option.map_eq_some_iff.1 hf
  simp only at hd
  split at hd
  · cases hd
    exact ⟨h, rfl⟩
  · split at hd
    · cases hd
      exact ⟨h, rfl⟩
    · next hk =>
      rw [h timer.key] at hk
      exact absurd nofun hk

/-- A swap only removes timers. -/
lemma Idle.updateServers (h : d.Idle) (servers : AList fun _ : Nat => ServerRuntime) :
    (d.updateServers servers).Idle := by
  have hdrop : ∀ {c : Debouncer} {key : Nat × Str}, c.Idle → (c.dropGone servers key).Idle := by
    intro c key hc
    unfold Debouncer.dropGone
    split
    · exact hc
    · rw [hc key]
      exact hc
  have hfold : ∀ (keys : List (Nat × Str)) {c : Debouncer}, c.Idle →
      (keys.foldl (Debouncer.dropGone servers) c).Idle := by
    intro keys
    induction keys with
    | nil => exact fun hc => hc
    | cons key keys ih => exact fun hc => ih (hdrop hc)
  exact hfold _ h

end Debouncer
end MediaScanMonitor
