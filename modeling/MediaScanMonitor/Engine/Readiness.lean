import MediaScanMonitor.Engine.Lifecycle

/-!
# Readiness

The state flag is written by `start`, `rebuild` and `aclose`, and nobody writes it when the consume
loop ends. It tells the truth exactly as long as the loop does not end under the flag `running` and
no `rebuild` sets that flag without a loop.
-/

namespace MediaScanMonitor
open Text Transition
open Engine (gateState)
namespace Lifecycle

/-- The status code of `/ready`; `probe` tells whether the database can be reached. -/
def ready (s : Lifecycle) (probe : Bool) : Nat :=
  if !probe then 503
  else if s.state = .running then 200
  else 503

/-- An engine that says it is running, or ready, consumes events. -/
def Truthful (s : Lifecycle) : Prop :=
  (s.state = .running → s.start.consumes = true) ∧
    ∀ probe, s.ready probe = 200 → s.start.consumes = true

/-- The loop does not end while the state is `running`, and a `rebuild` whose gate has passed swaps
only while there is a loop. -/
def Attended (s : Lifecycle) : Act → Prop
  | .loopEnds => s.state ≠ .running
  | .rebuild i => s.rebuilds[i]?.bind Rebuild.verdict = some true → s.start.consumes = true
  | _ => True

variable {host : Host} {s s' : Lifecycle} {a : Act}

lemma Truthful.of_running (h : s.state = .running → s.start.consumes = true) : Truthful s := by
  apply And.intro h
  intro probe hready
  apply h
  unfold ready at hready
  split at hready
  · cases hready
  · split at hready
    · next hrun => exact hrun
    · cases hready

lemma gateState_running {ok : Bool} (h : gateState ok = .running) : ok = true := by
  cases ok with
  | false => cases h
  | true => rfl

/-- `start` sets the flag when it enters its loop. -/
lemma StartCase.running (hc : StartCase host s s')
    (h : s.state = .running → s.start.consumes = true) :
    s'.state = .running → s'.start.consumes = true := by
  intro hrun
  have hidle : ∀ {p}, s.start = .assembling p → ¬ s.state = .running := by
    intro p hp hs
    have hi := h hs
    rw [hp] at hi
    cases hi
  cases hc with
  | begin => cases hrun
  | read r r' hp => exact absurd hrun (hidle hp)
  | store r config hp => exact absurd hrun (hidle hp)
  | round config item rest built hp => exact absurd hrun (hidle hp)
  | wire config built hp => exact absurd hrun (hidle hp)
  | gate config built g hp => exact absurd hrun (hidle hp)
  | enter config built ok hp =>
    unfold Lifecycle.enter at hrun ⊢
    split at hrun
    · cases hrun
    · next hpark =>
      rw [if_neg hpark]
      rfl

lemma RebuildCase.running {i : Nat} (hc : RebuildCase host s i s')
    (hg : Attended s (.rebuild i)) (h : s.state = .running → s.start.consumes = true) :
    s'.state = .running → s'.start.consumes = true := by
  cases hc with
  | swap config built ok hi =>
    intro hrun
    have hok := gateState_running hrun
    subst hok
    exact hg (by rw [hi]; rfl)
  | _ => exact h

lemma CloseCase.running (hc : CloseCase s s') (h : s.state = .running → s.start.consumes = true) :
    s'.state = .running → s'.start.consumes = true := by
  cases hc with
  | finish =>
    intro hrun
    cases hrun
  | _ => exact h

lemma step_running (hs : step host s a = some s') (hg : Attended s a)
    (h : s.state = .running → s.start.consumes = true) :
    s'.state = .running → s'.start.consumes = true := by
  cases step_cases hs with
  | start hc => exact hc.running h
  | startRaises p hp =>
    intro hrun
    have hi := h hrun
    rw [hp] at hi
    cases hi
  | write => exact h
  | limits => exact h
  | request => exact h
  | rebuild i hc => exact hc.running hg h
  | rebuildRaises => exact h
  | event e inbox => exact fun _ => rfl
  | submit req rest =>
    obtain ⟨late, hd, -⟩ := foldl_dispatch (s.debouncer.submit req).2
      { s with debouncer := (s.debouncer.submit req).1, start := .consuming rest }
    rw [hd]
    exact fun _ => rfl
  | fire task d out =>
    obtain ⟨late, hd, -⟩ := foldl_dispatch out { s with debouncer := d }
    rw [hd]
    exact h
  | loopEnds inbox => exact fun hrun => absurd hrun hg
  | close hc => exact hc.running h

/-- Under attended steps `running` means that events are consumed. -/
theorem readiness_truthful {db : Db} {fits : List Str → List Str → Bool} {park : Bool}
    (h : Reach (step host) Attended (init db fits park) s) : Truthful s := by
  apply Truthful.of_running
  apply h.invariant (P := fun u => u.state = .running → u.start.consumes = true)
  · intro hrun
    cases hrun
  · intro u a v hu hg hs
    exact step_running hs hg hu

instance (s : Lifecycle) : (a : Act) → Decidable (Attended s a)
  | .loopEnds => inferInstanceAs (Decidable (s.state ≠ .running))
  | .rebuild i => inferInstanceAs
    (Decidable (s.rebuilds[i]?.bind Rebuild.verdict = some true → s.start.consumes = true))
  | .start | .startRaises | .write _ | .limits _ | .request | .rebuildRaises _ | .event _ | .submit
  | .fire _ | .close => isTrue trivial

/-- A rebuild of a running engine. -/
theorem readiness_truthful_rebuilt : ∃ s,
    run (step healthy) (init Engine.plexDb roomy true)
      (startup ++ .request :: List.replicate 10 (.rebuild 0)) = some s ∧
    s.state = .running ∧ Truthful s := by
  have h : run (guarded (step healthy) Attended) (init Engine.plexDb roomy true)
      (startup ++ .request :: List.replicate 10 (.rebuild 0)) = some _ := rfl
  exact ⟨_, rfl, rfl, readiness_truthful (.of_run h)⟩

/-- The stream of the watcher raises, and the engine stays ready. -/
theorem ready_without_loop : ¬ ∀ (host : Host) (db : Db) (fits : List Str → List Str → Bool)
    (park : Bool) (s : Lifecycle), Reach (step host) Free (init db fits park) s → Truthful s := by
  intro h
  have hrun : run (guarded (step healthy) Free) (init Engine.plexDb roomy true)
      (startup ++ [.loopEnds]) = some _ := rfl
  exact absurd ((h _ _ _ _ _ (.of_run hrun)).1 rfl) (by decide)

end Lifecycle
end MediaScanMonitor
