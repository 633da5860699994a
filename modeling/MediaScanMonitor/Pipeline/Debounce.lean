import MediaScanMonitor.Config.Runtime
import MediaScanMonitor.Pipeline.Events

/-!
# The debouncer

`pipeline/debounce.py` on an event loop. A request for a server in `trailing` mode becomes a task
that sleeps for the window; `tasks` are the unfinished ones and `timers` the dict of the one armed
for each key. `fireAfter` is what a task does when it is resumed after its sleep. The second
component of a result is what is dispatched.
-/

namespace MediaScanMonitor
open Text

/-- The local variables of a task that runs `_fire_after`. -/
structure Timer where
  key : Nat × Str
  req : ScanRequest
  /-- `cancel` was called; the task will see a `CancelledError`. -/
  cancelled : Bool

structure Debouncer where
  servers : AList fun _ : Nat => ServerRuntime
  timers : AList fun _ : Nat × Str => Nat
  tasks : AList fun _ : Nat => Timer
  nextTask : Nat

/-- The key of a request. -/
def ScanRequest.key (req : ScanRequest) : Nat × Str :=
  (req.serverId, req.scanKey)

namespace Debouncer

/-- `__init__`. -/
def init (servers : AList fun _ : Nat => ServerRuntime) : Debouncer :=
  ⟨servers, ∅, ∅, 0⟩

/-- `task.cancel()`; without effect on a finished task. -/
def cancel (d : Debouncer) (task : Nat) : Debouncer :=
  match d.tasks.lookup task with
  | none => d
  | some timer => { d with tasks := d.tasks.insert task { timer with cancelled := true } }

/-- `asyncio.create_task(self._fire_after(key, req, window))`, stored under its key. -/
def arm (d : Debouncer) (key : Nat × Str) (req : ScanRequest) : Debouncer :=
  { d with
    timers := d.timers.insert key d.nextTask
    tasks := d.tasks.insert d.nextTask ⟨key, req, false⟩
    nextTask := d.nextTask + 1 }

/-- `submit`. -/
def submit (d : Debouncer) (req : ScanRequest) : Debouncer × List ScanRequest :=
  match d.servers.lookup req.serverId with
  | none => (d, [req])
  | some server =>
    if server.debounceMode = .off then (d, [req])
    else
      match d.timers.lookup req.key with
      | none => (d.arm req.key req, [])
      | some pending => ((d.cancel pending).arm req.key req, [])

/-- The rest of `_fire_after`, once the sleep is over; `none` when there is no such task. -/
def fireAfter (d : Debouncer) (task : Nat) : Option (Debouncer × List ScanRequest) :=
  (d.tasks.lookup task).map fun timer =>
    let done := { d with tasks := d.tasks.erase task }
    if timer.cancelled then (done, [])
    else if d.timers.lookup timer.key ≠ some task then (done, [])
    else ({ done with timers := d.timers.erase timer.key }, [timer.req])

/-- One round of the loop in `update_servers`: a key whose server is gone loses its task. -/
def dropGone (servers : AList fun _ : Nat => ServerRuntime) (d : Debouncer) (key : Nat × Str) :
    Debouncer :=
  if key.1 ∈ servers then d
  else
    match d.timers.lookup key with
    | none => d
    | some task => ({ d with timers := d.timers.erase key } : Debouncer).cancel task

/-- `update_servers`. -/
def updateServers (d : Debouncer) (servers : AList fun _ : Nat => ServerRuntime) : Debouncer :=
  d.timers.keys.foldl (dropGone servers) { d with servers := servers }

/-- `aclose`, up to the point where it awaits the tasks it has cancelled. -/
def close (d : Debouncer) : Debouncer :=
  (d.timers.entries.map fun entry => entry.2).foldl cancel { d with timers := ∅ }

variable {d d' : Debouncer} {req : ScanRequest} {out : List ScanRequest}

section Dict
variable {α β : Type} [DecidableEq α] {s : AList fun _ : α => β} {a x : α} {u v : β}

lemma lookup_insert_iff :
    (s.insert a u).lookup x = some v ↔ x = a ∧ u = v ∨ x ≠ a ∧ s.lookup x = some v := by
  by_cases hx : x = a
  · subst hx
    rw [AList.lookup_insert]
    simp
  · rw [AList.lookup_insert_ne hx]
    simp [hx]

lemma lookup_erase_iff : (s.erase a).lookup x = some v ↔ x ≠ a ∧ s.lookup x = some v := by
  by_cases hx : x = a
  · subst hx
    rw [AList.lookup_erase]
    simp
  · rw [AList.lookup_erase_ne hx]
    simp [hx]

end Dict

/-- The requests that wait for a window. -/
def Trailing (d : Debouncer) (req : ScanRequest) : Prop :=
  ∃ server, d.servers.lookup req.serverId = some server ∧ server.debounceMode ≠ .off

instance (d : Debouncer) (req : ScanRequest) : Decidable (d.Trailing req) :=
  inferInstanceAs (Decidable (∃ server ∈ d.servers.lookup req.serverId, server.debounceMode ≠ .off))

/-- Every armed task is alive and sleeps for its key; a task that is not cancelled is armed. -/
structure Armed (d : Debouncer) : Prop where
  alive : ∀ {key task}, d.timers.lookup key = some task →
    ∃ timer, d.tasks.lookup task = some timer ∧ timer.key = key ∧ timer.cancelled = false
  keyed : ∀ {task timer}, d.tasks.lookup task = some timer → timer.key = timer.req.key
  fresh : ∀ {task timer}, d.tasks.lookup task = some timer → task < d.nextTask

/-- The request that waits under a key. -/
def Waiting (d : Debouncer) (key : Nat × Str) (req : ScanRequest) : Prop :=
  ∃ task timer, d.timers.lookup key = some task ∧ d.tasks.lookup task = some timer ∧ timer.req = req

lemma armed_init (servers : AList fun _ : Nat => ServerRuntime) : Armed (init servers) :=
  ⟨fun h => (by cases h), fun h => (by cases h), fun h => (by cases h)⟩

lemma Waiting.unique {key : Nat × Str} {req' : ScanRequest} (h : d.Waiting key req)
    (h' : d.Waiting key req') : req = req' := by
  obtain ⟨task, timer, ht, hl, rfl⟩ := h
  obtain ⟨task', timer', ht', hl', rfl⟩ := h'
  rw [ht] at ht'
  cases ht'
  rw [hl] at hl'
  cases hl'
  rfl

/-- Whatever waits, waits under its own key. -/
lemma Armed.waiting_key (h : d.Armed) {key : Nat × Str} (hw : d.Waiting key req) : req.key = key := by
  obtain ⟨task, timer, ht, hl, rfl⟩ := hw
  obtain ⟨timer', hl', rfl, -⟩ := h.alive ht
  rw [hl] at hl'
  cases hl'
  exact (h.keyed hl).symm

@[simp] lemma cancel_servers (task : Nat) : (d.cancel task).servers = d.servers := by
  unfold cancel
  split <;> rfl

@[simp] lemma cancel_timers (task : Nat) : (d.cancel task).timers = d.timers := by
  unfold cancel
  split <;> rfl

@[simp] lemma cancel_nextTask (task : Nat) : (d.cancel task).nextTask = d.nextTask := by
  unfold cancel
  split <;> rfl

lemma submit_servers (req : ScanRequest) : (d.submit req).1.servers = d.servers := by
  unfold submit
  split
  · rfl
  · split
    · rfl
    · split
      · rfl
      · exact cancel_servers _

lemma fireAfter_servers {task : Nat} (hf : d.fireAfter task = some (d', out)) :
    d'.servers = d.servers := by
  obtain ⟨timer, -, hd⟩ := Option.map_eq_some_iff.1 hf
  simp only at hd
  split at hd
  · cases hd
    rfl
  · split at hd
    · cases hd
      rfl
    · cases hd
      rfl

lemma dropGone_servers (servers : AList fun _ : Nat => ServerRuntime) (key : Nat × Str) :
    (d.dropGone servers key).servers = d.servers := by
  unfold dropGone
  split
  · rfl
  · split
    · rfl
    · exact cancel_servers _

lemma updateServers_servers (servers : AList fun _ : Nat => ServerRuntime) :
    (d.updateServers servers).servers = servers := by
  have hfold : ∀ (keys : List (Nat × Str)) (c : Debouncer),
      (keys.foldl (dropGone servers) c).servers = c.servers := by
    intro keys
    induction keys with
    | nil => exact fun c => rfl
    | cons key keys ih => exact fun c => (ih _).trans (dropGone_servers _ _)
  exact hfold _ _

/-- A cancelled task keeps its variables; the others keep everything. -/
lemma lookup_cancel {task x : Nat} : (d.cancel task).tasks.lookup x =
    if x = task then (d.tasks.lookup x).map fun timer => { timer with cancelled := true }
    else d.tasks.lookup x := by
  unfold cancel
  split
  case h_1 ht =>
    split
    · next h => rw [h, ht]; rfl
    · rfl
  case h_2 timer ht =>
    split
    · next h =>
      subst h
      rw [AList.lookup_insert, ht]
      rfl
    · next h => exact AList.lookup_insert_ne h

/-- What `submit` does to a request that waits: it takes the place of the one under its key. -/
structure Rearms (d d' : Debouncer) (req : ScanRequest) : Prop where
  servers : d'.servers = d.servers
  armed : d'.Armed
  waiting : ∀ {key req'}, d'.Waiting key req' ↔
    if key = req.key then req' = req else d.Waiting key req'
  tasks : ∀ {task timer}, d'.tasks.lookup task = some timer →
    timer.req = req ∨ ∃ timer', d.tasks.lookup task = some timer' ∧ timer'.req = timer.req

/-- The state in which the key of a request is armed: its old task is cancelled, if it had one. -/
structure Freed (d c : Debouncer) (req : ScanRequest) : Prop where
  servers : c.servers = d.servers
  timers : c.timers = d.timers
  nextTask : c.nextTask = d.nextTask
  other : ∀ {x}, d.timers.lookup req.key ≠ some x → c.tasks.lookup x = d.tasks.lookup x
  old : ∀ {x timer}, c.tasks.lookup x = some timer →
    ∃ timer', d.tasks.lookup x = some timer' ∧ timer'.key = timer.key ∧ timer'.req = timer.req

lemma Freed.refl (d : Debouncer) (req : ScanRequest) : Freed d d req :=
  ⟨rfl, rfl, rfl, fun _ => rfl, fun hx => ⟨_, hx, rfl, rfl⟩⟩

lemma Freed.of_cancel {pending : Nat} (ht : d.timers.lookup req.key = some pending) :
    Freed d (d.cancel pending) req where
  servers := cancel_servers _
  timers := cancel_timers _
  nextTask := cancel_nextTask _
  other := by
    intro x hx
    rw [ht] at hx
    rw [lookup_cancel, if_neg fun e => hx (by rw [e])]
  old := by
    intro x timer hx
    rw [lookup_cancel] at hx
    split at hx
    · obtain ⟨timer', hl', rfl⟩ := Option.map_eq_some_iff.1 hx
      exact ⟨timer', hl', rfl, rfl⟩
    · exact ⟨timer, hx, rfl, rfl⟩

namespace Freed
variable {c : Debouncer} {key : Nat × Str} {task : Nat} {timer : Timer}

lemma lookup_timers (h : Freed d c req) : (c.arm req.key req).timers.lookup key = some task ↔
    key = req.key ∧ d.nextTask = task ∨ key ≠ req.key ∧ d.timers.lookup key = some task := by
  rw [arm, h.nextTask, h.timers]
  exact lookup_insert_iff

lemma lookup_tasks (h : Freed d c req) : (c.arm req.key req).tasks.lookup task = some timer ↔
    task = d.nextTask ∧ ⟨req.key, req, false⟩ = timer ∨
      task ≠ d.nextTask ∧ c.tasks.lookup task = some timer := by
  rw [arm, h.nextTask]
  exact lookup_insert_iff

/-- The entry of another key has another task, which was not cancelled. -/
lemma lookup_other (h : Freed d c req) (hd : d.Armed) (hk : key ≠ req.key)
    (ht : d.timers.lookup key = some task) : (c.arm req.key req).tasks.lookup task = some timer ↔
      d.tasks.lookup task = some timer := by
  obtain ⟨timer', hl, hkt, -⟩ := hd.alive ht
  have hdiff : d.timers.lookup req.key ≠ some task := by
    intro he
    obtain ⟨timer'', hl', hkt', -⟩ := hd.alive he
    rw [hl] at hl'
    cases hl'
    exact hk (hkt.symm.trans hkt')
  have hne : task ≠ d.nextTask := Nat.ne_of_lt (hd.fresh hl)
  rw [h.lookup_tasks, h.other hdiff, or_iff_right fun he => hne he.1, and_iff_right hne]

lemma armed (h : Freed d c req) (hd : d.Armed) : (c.arm req.key req).Armed where
  alive := by
    intro key task ht
    rcases h.lookup_timers.1 ht with ⟨rfl, rfl⟩ | ⟨hk, ht⟩
    · exact ⟨_, h.lookup_tasks.2 (.inl ⟨rfl, rfl⟩), rfl, rfl⟩
    · obtain ⟨timer, hl, hrest⟩ := hd.alive ht
      exact ⟨timer, (h.lookup_other hd hk ht).2 hl, hrest⟩
  keyed := by
    intro task timer hl
    rcases h.lookup_tasks.1 hl with ⟨-, rfl⟩ | ⟨-, hl⟩
    · rfl
    · obtain ⟨timer', hl', hk, hr⟩ := h.old hl
      rw [← hk, ← hr]
      exact hd.keyed hl'
  fresh := by
    intro task timer hl
    show task < c.nextTask + 1
    rw [h.nextTask]
    rcases h.lookup_tasks.1 hl with ⟨rfl, -⟩ | ⟨-, hl⟩
    · exact Nat.lt_succ_self _
    · obtain ⟨timer', hl', -⟩ := h.old hl
      exact Nat.lt_succ_of_lt (hd.fresh hl')

lemma waiting (h : Freed d c req) (hd : d.Armed) {req' : ScanRequest} :
    (c.arm req.key req).Waiting key req' ↔
      if key = req.key then req' = req else d.Waiting key req' := by
  split
  · next hk =>
    subst hk
    have ht : (c.arm req.key req).timers.lookup req.key = some d.nextTask :=
      h.lookup_timers.2 (.inl ⟨rfl, rfl⟩)
    have hl : (c.arm req.key req).tasks.lookup d.nextTask = some ⟨req.key, req, false⟩ :=
      h.lookup_tasks.2 (.inl ⟨rfl, rfl⟩)
    have hw : (c.arm req.key req).Waiting req.key req := ⟨_, _, ht, hl, rfl⟩
    exact ⟨fun hw' => hw'.unique hw, fun he => he ▸ hw⟩
  · next hk =>
    constructor
    · rintro ⟨task, timer, ht, hl, rfl⟩
      have ht := (h.lookup_timers.1 ht).resolve_left fun he => hk he.1
      exact ⟨task, timer, ht.2, (h.lookup_other hd hk ht.2).1 hl, rfl⟩
    · rintro ⟨task, timer, ht, hl, rfl⟩
      exact ⟨task, timer, h.lookup_timers.2 (.inr ⟨hk, ht⟩), (h.lookup_other hd hk ht).2 hl, rfl⟩

/-- Arming a key whose old task is cancelled. -/
lemma rearms (h : Freed d c req) (hd : d.Armed) : Rearms d (c.arm req.key req) req where
  servers := h.servers
  armed := h.armed hd
  waiting := h.waiting hd
  tasks := by
    intro task timer hl
    rcases h.lookup_tasks.1 hl with ⟨-, rfl⟩ | ⟨-, hl⟩
    · exact .inl rfl
    · obtain ⟨timer', hl', -, hr⟩ := h.old hl
      exact .inr ⟨timer', hl', hr⟩

end Freed

/-- `submit` dispatches at once or arms the key of the request. -/
lemma Armed.submit (h : d.Armed) (hs : d.submit req = (d', out)) :
    (¬ d.Trailing req ∧ d' = d ∧ out = [req]) ∨ (d.Trailing req ∧ out = [] ∧ Rearms d d' req) := by
  unfold Debouncer.submit at hs
  cases hl : d.servers.lookup req.serverId with
  | none =>
    rw [hl] at hs
    cases hs
    refine .inl ⟨?_, rfl, rfl⟩
    rintro ⟨server, hserver, -⟩
    rw [hl] at hserver
    cases hserver
  | some server =>
    rw [hl] at hs
    simp only at hs
    split at hs
    · next hoff =>
      cases hs
      refine .inl ⟨?_, rfl, rfl⟩
      rintro ⟨server', hserver, hne⟩
      rw [hl] at hserver
      cases hserver
      exact hne hoff
    · next hon =>
      refine .inr ⟨⟨server, hl, hon⟩, ?_⟩
      cases ht : d.timers.lookup req.key with
      | none =>
        rw [ht] at hs
        cases hs
        exact ⟨rfl, (Freed.refl d req).rearms h⟩
      | some pending =>
        rw [ht] at hs
        cases hs
        exact ⟨rfl, (Freed.of_cancel ht).rearms h⟩

/-- What a resumed task does: nothing, or it dispatches the request that waits under its key. -/
structure Fires (d d' : Debouncer) (task : Nat) (out : List ScanRequest) : Prop where
  servers : d'.servers = d.servers
  armed : d'.Armed
  tasks : d'.tasks = d.tasks.erase task
  fired : (out = [] ∧ ∀ {key req}, d'.Waiting key req ↔ d.Waiting key req) ∨
    ∃ req, out = [req] ∧ d.Waiting req.key req ∧
      ∀ {key req'}, d'.Waiting key req' ↔ key ≠ req.key ∧ d.Waiting key req'

section Fires
variable {task : Nat} {timer : Timer}

/-- A task that is not the armed one of its key leaves the dict alone. -/
lemma Armed.fires_idle (h : d.Armed) (hnot : ∀ key, d.timers.lookup key ≠ some task) :
    Fires d { d with tasks := d.tasks.erase task } task [] := by
  have hne : ∀ {key x}, d.timers.lookup key = some x → x ≠ task := by
    rintro key x hx rfl
    exact hnot key hx
  refine ⟨rfl, ⟨?_, fun hx => h.keyed (lookup_erase_iff.1 hx).2,
    fun hx => h.fresh (lookup_erase_iff.1 hx).2⟩, rfl, .inl ⟨rfl, fun {key req} => ?_⟩⟩
  · intro key x hx
    obtain ⟨timer', hl', hrest⟩ := h.alive hx
    exact ⟨timer', lookup_erase_iff.2 ⟨hne hx, hl'⟩, hrest⟩
  · constructor
    · rintro ⟨x, timer', hx, hl', rfl⟩
      exact ⟨x, timer', hx, (lookup_erase_iff.1 hl').2, rfl⟩
    · rintro ⟨x, timer', hx, hl', rfl⟩
      exact ⟨x, timer', hx, lookup_erase_iff.2 ⟨hne hx, hl'⟩, rfl⟩

/-- The armed task of its key takes its entry along. -/
lemma Armed.fires_own (h : d.Armed) (hl : d.tasks.lookup task = some timer)
    (ht : d.timers.lookup timer.key = some task) :
    Fires d { d with tasks := d.tasks.erase task, timers := d.timers.erase timer.key } task
      [timer.req] := by
  have hkey := h.keyed hl
  have hwait : d.Waiting timer.req.key timer.req := ⟨task, timer, by rw [← hkey, ht], hl, rfl⟩
  -- no other key has the task
  have hne : ∀ {key x}, key ≠ timer.key → d.timers.lookup key = some x → x ≠ task := by
    rintro key x hk hx rfl
    obtain ⟨timer', hl', hk', -⟩ := h.alive hx
    rw [hl] at hl'
    cases hl'
    exact hk hk'.symm
  refine ⟨rfl, ⟨?_, fun hx => h.keyed (lookup_erase_iff.1 hx).2,
    fun hx => h.fresh (lookup_erase_iff.1 hx).2⟩, rfl, .inr ⟨_, rfl, hwait, fun {key req'} => ?_⟩⟩
  · intro key x hx
    obtain ⟨hk, hx⟩ := lookup_erase_iff.1 hx
    obtain ⟨timer', hl', hrest⟩ := h.alive hx
    exact ⟨timer', lookup_erase_iff.2 ⟨hne hk hx, hl'⟩, hrest⟩
  · rw [← hkey]
    constructor
    · rintro ⟨x, timer', hx, hl', rfl⟩
      obtain ⟨hk, hx⟩ := lookup_erase_iff.1 hx
      exact ⟨hk, x, timer', hx, (lookup_erase_iff.1 hl').2, rfl⟩
    · rintro ⟨hk, x, timer', hx, hl', rfl⟩
      exact ⟨x, timer', lookup_erase_iff.2 ⟨hk, hx⟩, lookup_erase_iff.2 ⟨hne hk hx, hl'⟩, rfl⟩

lemma Armed.fireAfter (h : d.Armed) (hf : d.fireAfter task = some (d', out)) :
    Fires d d' task out := by
  obtain ⟨timer, hl, hd⟩ := Option.map_eq_some_iff.1 hf
  have hown : ∀ {key}, d.timers.lookup key = some task →
      timer.cancelled = false ∧ timer.key = key := by
    intro key hx
    obtain ⟨timer', hl', hk, hc⟩ := h.alive hx
    rw [hl] at hl'
    cases hl'
    exact ⟨hc, hk⟩
  simp only at hd
  split at hd
  · next hc =>
    cases hd
    apply h.fires_idle
    intro key hx
    rw [(hown hx).1] at hc
    cases hc
  · split at hd
    · next hk =>
      cases hd
      refine h.fires_idle fun key hx => hk ?_
      rw [(hown hx).2, hx]
    · next hk =>
      cases hd
      exact h.fires_own hl (not_not.1 hk)

end Fires
end Debouncer
end MediaScanMonitor
