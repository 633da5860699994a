import Mathlib.Data.List.MinMax
import MediaScanMonitor.Lib.History
import MediaScanMonitor.Pipeline.Delivery
import MediaScanMonitor.Pipeline.Windows

/-!
# Trailing edges

When the debouncer dispatches a request, said of its inputs alone: at the edge of the window that
the policies in force gave it, unless another input has cancelled it by then. The clock goes on only
while no window that is over waits for its task, and tasks are resumed in any order.
-/

namespace MediaScanMonitor
open Transition

/-- What the debouncer is told. -/
inductive DebounceInput
  | submit (req : ScanRequest)
  | updateServers (servers : AList fun _ : Nat => ServerRuntime)
  | close

namespace DebounceInput

/-- The policies in force after some inputs. -/
def policy (servers : AList fun _ : Nat => ServerRuntime) (inputs : List (ℚ × DebounceInput)) :
    AList fun _ : Nat => ServerRuntime :=
  inputs.foldl
    (fun servers entry =>
      match entry.2 with
      | .updateServers servers' => servers'
      | _ => servers)
    servers

/-- The request waits for a window. -/
def Waits (servers : AList fun _ : Nat => ServerRuntime) (req : ScanRequest) : Prop :=
  ∃ server, servers.lookup req.serverId = some server ∧ server.debounceMode ≠ .off

/-- How long a request waits. -/
def delay (servers : AList fun _ : Nat => ServerRuntime) (req : ScanRequest) : ℚ :=
  match servers.lookup req.serverId with
  | none => 0
  | some server => if server.debounceMode = .off then 0 else server.debounceWindowSeconds

/-- A request that waits is cancelled: by another one that waits under its key, by policies without
its server, or by the end. -/
def Cancels (servers : AList fun _ : Nat => ServerRuntime) (req : ScanRequest) :
    DebounceInput → Prop
  | .submit r => r.key = req.key ∧ Waits servers r
  | .updateServers servers' => req.serverId ∉ servers'
  | .close => True

/-- An input at the time `u`, behind the place `i`, cancels the request. -/
def CancelledAt (servers : AList fun _ : Nat => ServerRuntime) (inputs : List (ℚ × DebounceInput))
    (i : Nat) (req : ScanRequest) (u : ℚ) : Prop :=
  ∃ j input, i < j ∧ inputs[j]? = some (u, input) ∧
    Cancels (policy servers (inputs.take j)) req input

/-- When a request that came in at place `i` and time `t` is to be dispatched. -/
def edge (servers : AList fun _ : Nat => ServerRuntime) (inputs : List (ℚ × DebounceInput))
    (i : Nat) (t : ℚ) (req : ScanRequest) : ℚ :=
  t + delay (policy servers (inputs.take i)) req

variable {servers : AList fun _ : Nat => ServerRuntime} {inputs : List (ℚ × DebounceInput)}
  {i : Nat} {req : ScanRequest} {t u : ℚ} {e : ℚ × DebounceInput}

lemma policy_snoc (servers : AList fun _ : Nat => ServerRuntime)
    (inputs : List (ℚ × DebounceInput)) (t : ℚ) (input : DebounceInput) :
    policy servers (inputs ++ [(t, input)]) =
      match input with
      | .updateServers servers' => servers'
      | _ => policy servers inputs := by
  rw [policy, List.foldl_append]
  cases input <;> rfl

/-- What comes later does not change an edge. -/
lemma edge_snoc (hi : inputs[i]? = some e) (e' : ℚ × DebounceInput) :
    edge servers (inputs ++ [e']) i t req = edge servers inputs i t req := by
  have hlt := (List.getElem?_eq_some_iff.1 hi).1
  rw [edge, List.take_append_of_le_length hlt.le, edge]

lemma cancelledAt_snoc {t' : ℚ} {input : DebounceInput} (hi : inputs[i]? = some e) :
    CancelledAt servers (inputs ++ [(t', input)]) i req u ↔
      CancelledAt servers inputs i req u ∨
        u = t' ∧ Cancels (policy servers inputs) req input := by
  have hlt := (List.getElem?_eq_some_iff.1 hi).1
  constructor
  · rintro ⟨j, input', hij, hj, hc⟩
    rcases History.getElem?_snoc.1 hj with hj | ⟨rfl, he⟩
    · have hjlt := (List.getElem?_eq_some_iff.1 hj).1
      rw [List.take_append_of_le_length hjlt.le] at hc
      exact .inl ⟨j, input', hij, hj, hc⟩
    · cases he
      rw [List.take_left] at hc
      exact .inr ⟨rfl, hc⟩
  · rintro (⟨j, input', hij, hj, hc⟩ | ⟨rfl, hc⟩)
    · have hjlt := (List.getElem?_eq_some_iff.1 hj).1
      refine ⟨j, input', hij, History.getElem?_snoc.2 (.inl hj), ?_⟩
      rw [List.take_append_of_le_length hjlt.le]
      exact hc
    · refine ⟨inputs.length, input, hlt, History.getElem?_snoc.2 (.inr ⟨rfl, rfl⟩), ?_⟩
      rw [List.take_left]
      exact hc

lemma delay_nonneg (servers : AList fun _ : Nat => ServerRuntime) (req : ScanRequest) :
    0 ≤ delay servers req := by
  unfold delay
  split
  · exact le_rfl
  · split
    · exact le_rfl
    · exact Nat.cast_nonneg _

lemma delay_of_not_waits (h : ¬ Waits servers req) : delay servers req = 0 := by
  unfold delay
  split
  · rfl
  · next server hl =>
    split
    · rfl
    · next hon => exact absurd ⟨server, hl, hon⟩ h

end DebounceInput

/-- A debouncer with the time, its inputs, and what it has dispatched: when, the place of the
request among the inputs, and the request. -/
structure Paced where
  debouncer : Debouncer
  now : ℚ
  /-- The end of the window of a task. -/
  due : Nat → ℚ
  /-- The place of the request of a task. -/
  origin : Nat → Nat
  inputs : List (ℚ × DebounceInput)
  log : List (ℚ × Nat × ScanRequest)

namespace Paced
open DebounceInput

inductive Act
  | wait (seconds : ℚ)
  | input (input : DebounceInput)
  /-- A task is resumed. -/
  | fire (task : Nat)

/-- The sleep of the task is over, or it was cancelled. -/
def Resumable (s : Paced) (task : Nat) : Prop :=
  s.due task ≤ s.now ∨ ∃ timer ∈ s.debouncer.tasks.lookup task, timer.cancelled = true

instance (s : Paced) : DecidablePred s.Resumable := fun task =>
  inferInstanceAs (Decidable
    (s.due task ≤ s.now ∨ ∃ timer ∈ s.debouncer.tasks.lookup task, timer.cancelled = true))

/-- The debouncer after an input, and what is dispatched at once. -/
def take (d : Debouncer) : DebounceInput → Debouncer × List ScanRequest
  | .submit req => d.submit req
  | .updateServers servers => (d.updateServers servers, [])
  | .close => (d.close, [])

/-- The end of the window, if a task is made for the input. -/
def windowEnd (s : Paced) : DebounceInput → ℚ
  | .submit req => s.now + s.debouncer.window req
  | _ => 0

def step (s : Paced) : Act → Option Paced
  | .wait seconds => if 0 ≤ seconds then some { s with now := s.now + seconds } else none
  | .input input =>
    some
      { s with
        debouncer := (take s.debouncer input).1
        due := Function.update s.due s.debouncer.nextTask (s.windowEnd input)
        origin := Function.update s.origin s.debouncer.nextTask s.inputs.length
        inputs := s.inputs ++ [(s.now, input)]
        log := s.log ++ (take s.debouncer input).2.map fun req => (s.now, s.inputs.length, req) }
  | .fire task =>
    if s.Resumable task then
      (s.debouncer.fireAfter task).map fun (d, out) =>
        { s with
          debouncer := d
          log := s.log ++ out.map fun req => (s.now, s.origin task, req) }
    else none

/-- A debouncer that was just made. -/
def start (servers : AList fun _ : Nat => ServerRuntime) : Paced :=
  ⟨.init servers, 0, fun _ => 0, fun _ => 0, [], []⟩

/-- The clock does not pass the end of a window before its task is resumed. -/
def Punctual (s : Paced) : Act → Prop
  | .wait seconds => ∀ entry ∈ s.debouncer.tasks.entries, entry.2.cancelled = false →
      s.now + seconds ≤ s.due entry.1
  | _ => True

instance (s : Paced) : DecidablePred (s.Punctual)
  | .wait seconds => inferInstanceAs (Decidable (∀ entry ∈ s.debouncer.tasks.entries,
      entry.2.cancelled = false → s.now + seconds ≤ s.due entry.1))
  | .input _ => isTrue trivial
  | .fire _ => isTrue trivial

/-- The request at place `i` waits, and nothing has cancelled it. -/
structure Open (servers : AList fun _ : Nat => ServerRuntime) (s : Paced) (task : Nat)
    (req : ScanRequest) (t : ℚ) : Prop where
  input : s.inputs[s.origin task]? = some (t, .submit req)
  due : s.due task = edge servers s.inputs (s.origin task) t req
  waits : s.now ≤ s.due task
  unlogged : ∀ entry ∈ s.log, entry.2.1 ≠ s.origin task
  uncancelled : ∀ u, ¬ CancelledAt servers s.inputs (s.origin task) req u

/-- A dispatch is at the edge of its request, and nothing cancelled it before. -/
structure AtEdge (servers : AList fun _ : Nat => ServerRuntime) (s : Paced)
    (entry : ℚ × Nat × ScanRequest) : Prop where
  past : entry.1 ≤ s.now
  input : ∃ t, s.inputs[entry.2.1]? = some (t, .submit entry.2.2) ∧
    entry.1 = edge servers s.inputs entry.2.1 t entry.2.2
  first : ∀ u, CancelledAt servers s.inputs entry.2.1 entry.2.2 u → entry.1 ≤ u

/-- The invariant of punctual runs: a request waits, was dispatched at its edge, or was cancelled up
to then. -/
structure Inv (servers : AList fun _ : Nat => ServerRuntime) (s : Paced) : Prop where
  exact : s.debouncer.Exact
  policy : s.debouncer.servers = policy servers s.inputs
  pending : ∀ task req, s.debouncer.Pending task req → ∃ t, Open servers s task req t
  log : ∀ entry ∈ s.log, AtEdge servers s entry
  once : (s.log.map fun entry => entry.2.1).Nodup
  ordered : s.log.Pairwise fun earlier later => earlier.1 ≤ later.1
  settled : ∀ (i : Nat) (t : ℚ) (req : ScanRequest), s.inputs[i]? = some (t, .submit req) →
    (∃ task, s.debouncer.Pending task req ∧ s.origin task = i) ∨
      (edge servers s.inputs i t req, i, req) ∈ s.log ∨
      ∃ u, CancelledAt servers s.inputs i req u ∧ u ≤ edge servers s.inputs i t req

/-- What an input does to the timers. -/
structure Handles (d d' : Debouncer) (input : DebounceInput) (out : List ScanRequest) : Prop where
  exact : d'.Exact
  servers : d'.servers =
    match input with
    | .updateServers servers' => servers'
    | _ => d.servers
  pending : ∀ x r, d'.Pending x r ↔
    x = d.nextTask ∧ input = .submit r ∧ Waits d.servers r ∨
      d.Pending x r ∧ ¬ Cancels d.servers r input
  out : (∃ req, input = .submit req ∧ ¬ Waits d.servers req ∧ out = [req]) ∨
    out = [] ∧ ∀ req, input = .submit req → Waits d.servers req

variable {servers : AList fun _ : Nat => ServerRuntime} {s s' : Paced} {d : Debouncer}
  {input : DebounceInput} {task : Nat} {req : ScanRequest} {t : ℚ}

/-- A swap or the end keeps just what it does not cancel. -/
lemma Handles.of_keeps {d' : Debouncer} {P : ScanRequest → Prop} (h : Debouncer.Keeps P d d')
    (hservers : d'.servers =
      match input with
      | .updateServers servers' => servers'
      | _ => d.servers)
    (hP : ∀ r, P r ↔ ¬ Cancels d.servers r input) (hno : ∀ r, input ≠ .submit r) :
    Handles d d' input [] := by
  refine ⟨h.exact, hservers, fun x r => ?_, .inr ⟨rfl, fun r hr => absurd hr (hno r)⟩⟩
  rw [h.pending, hP, and_comm]
  constructor
  · exact .inr
  · rintro (⟨-, hr, -⟩ | hold)
    · exact absurd hr (hno r)
    · exact hold

/-- By the kind of the input. -/
lemma handles_take (h : d.Exact) (input : DebounceInput) :
    Handles d (take d input).1 input (take d input).2 := by
  cases input with
  | submit req =>
    by_cases ht : d.Trailing req
    · obtain ⟨hout, htakes⟩ := h.submit ht
      refine ⟨htakes.exact, htakes.servers, fun x r => ?_, .inr ⟨hout, fun r hr => ?_⟩⟩
      · refine (htakes.pending x r).trans (or_congr ?_ ?_)
        · constructor
          · rintro ⟨hx, rfl⟩
            exact ⟨hx, rfl, ht⟩
          · rintro ⟨hx, hr, -⟩
            cases hr
            exact ⟨hx, rfl⟩
        · rw [and_comm]
          refine and_congr_right fun _ => ?_
          constructor
          · exact fun hne hc => hne hc.1.symm
          · exact fun hc he => hc ⟨he.symm, ht⟩
      · cases hr
        exact ht
    · have hsub : d.submit req = (d, [req]) := Debouncer.submit_of_not_trailing ht
      show Handles d (d.submit req).1 _ (d.submit req).2
      rw [hsub]
      refine ⟨h, rfl, fun x r => ?_, .inl ⟨req, rfl, ht, rfl⟩⟩
      constructor
      · exact fun hp => .inr ⟨hp, fun hc => ht hc.2⟩
      · rintro (⟨-, hr, hw⟩ | ⟨hp, -⟩)
        · cases hr
          exact absurd hw ht
        · exact hp
  | updateServers servers' =>
    exact .of_keeps (h.updateServers servers') (Debouncer.updateServers_servers servers')
      (fun r => not_not.symm) (fun r hr => by cases hr)
  | close =>
    obtain ⟨hservers, hkeeps⟩ := h.close
    exact .of_keeps hkeeps hservers (fun r => iff_of_false id fun hc => hc trivial)
      (fun r hr => by cases hr)

lemma window_eq_delay (h : Waits d.servers req) : d.window req = delay d.servers req := by
  obtain ⟨server, hl, hon⟩ := h
  rw [Debouncer.window, delay, hl]
  exact (if_neg hon).symm

/-! ## Steps -/

lemma Inv.log_lt (h : Inv servers s) {entry : ℚ × Nat × ScanRequest} (he : entry ∈ s.log) :
    entry.2.1 < s.inputs.length := by
  obtain ⟨t, ht, -⟩ := (h.log entry he).input
  exact (List.getElem?_eq_some_iff.1 ht).1

/-- Time passes, but not beyond the end of a window. -/
lemma Inv.wait (h : Inv servers s) {seconds : ℚ} (hg : s.Punctual (.wait seconds))
    (hs : step s (.wait seconds) = some s') : Inv servers s' := by
  rw [step] at hs
  split at hs
  case isFalse => cases hs
  case isTrue hpos =>
    cases hs
    have hnow : s.now ≤ s.now + seconds := by linarith
    refine ⟨h.exact, h.policy, fun task req hp => ?_, fun entry he => ?_, h.once, h.ordered,
      h.settled⟩
    · obtain ⟨t, ho⟩ := h.pending task req hp
      exact ⟨t, ho.input, ho.due, hg _ (AList.mem_lookup_iff.1 hp) rfl, ho.unlogged, ho.uncancelled⟩
    · have hedge := h.log entry he
      exact ⟨hedge.past.trans hnow, hedge.input, hedge.first⟩

/-- A request that waited goes on waiting, unless the input cancels it. -/
lemma Open.input_kept (h : Inv servers s) (ho : Open servers s task req t)
    (hp : s.debouncer.Pending task req) (hc : ¬ Cancels s.debouncer.servers req input)
    {out : List ScanRequest} {d' : Debouncer} :
    Open servers
      { s with
        debouncer := d'
        due := Function.update s.due s.debouncer.nextTask (s.windowEnd input)
        origin := Function.update s.origin s.debouncer.nextTask s.inputs.length
        inputs := s.inputs ++ [(s.now, input)]
        log := s.log ++ out.map fun req => (s.now, s.inputs.length, req) } task req t := by
  have hne : task ≠ s.debouncer.nextTask := Nat.ne_of_lt (h.exact.fresh hp)
  have hlt := (List.getElem?_eq_some_iff.1 ho.input).1
  constructor
  · show (s.inputs ++ _)[Function.update s.origin _ _ task]? = _
    rw [Function.update_of_ne hne]
    exact History.getElem?_snoc.2 (.inl ho.input)
  · show Function.update s.due _ _ task = edge servers _ (Function.update s.origin _ _ task) t req
    rw [Function.update_of_ne hne, Function.update_of_ne hne, edge_snoc ho.input]
    exact ho.due
  · show s.now ≤ Function.update s.due _ _ task
    rw [Function.update_of_ne hne]
    exact ho.waits
  · intro entry he
    show entry.2.1 ≠ Function.update s.origin _ _ task
    rw [Function.update_of_ne hne]
    rcases List.mem_append.1 he with he | he
    · exact ho.unlogged entry he
    · obtain ⟨r, -, rfl⟩ := List.mem_map.1 he
      exact (Nat.ne_of_lt hlt).symm
  · intro u
    show ¬ CancelledAt servers _ (Function.update s.origin _ _ task) req u
    rw [Function.update_of_ne hne, cancelledAt_snoc ho.input]
    rintro (hu | ⟨-, hcancel⟩)
    · exact ho.uncancelled u hu
    · rw [← h.policy] at hcancel
      exact hc hcancel

/-- Nothing comes behind the last input. -/
lemma not_cancelledAt_last {inputs : List (ℚ × DebounceInput)} {e : ℚ × DebounceInput} {u : ℚ} :
    ¬ CancelledAt servers (inputs ++ [e]) inputs.length req u := by
  rintro ⟨j, input, hij, hj, -⟩
  have hlt := (List.getElem?_eq_some_iff.1 hj).1
  rw [List.length_append] at hlt
  exact absurd hlt (Nat.not_lt.2 hij)

lemma edge_last (inputs : List (ℚ × DebounceInput)) (e : ℚ × DebounceInput) :
    edge servers (inputs ++ [e]) inputs.length t req = t + delay (policy servers inputs) req := by
  rw [edge, List.take_left]

/-- What was dispatched stays at its edge; an input after it has a later time. -/
lemma AtEdge.input_kept {entry : ℚ × Nat × ScanRequest} (h : AtEdge servers s entry)
    {d' : Debouncer} {due : Nat → ℚ} {origin : Nat → Nat} {log : List (ℚ × Nat × ScanRequest)} :
    AtEdge servers ⟨d', s.now, due, origin, s.inputs ++ [(s.now, input)], log⟩ entry := by
  obtain ⟨t, ht, hedge⟩ := h.input
  refine ⟨h.past, ⟨t, History.getElem?_snoc.2 (.inl ht), ?_⟩, fun u hu => ?_⟩
  · rw [edge_snoc ht]
    exact hedge
  · rcases (cancelledAt_snoc ht).1 hu with hu | ⟨rfl, -⟩
    · exact h.first u hu
    · exact h.past

lemma Inv.told (h : Inv servers s) (hs : step s (.input input) = some s') : Inv servers s' := by
  have hh := handles_take h.exact input
  rw [step] at hs
  cases hs
  refine ⟨hh.exact, ?_, fun task req hp => ?_, fun entry he => ?_, ?_, ?_, fun i t req hi => ?_⟩
  · show (take s.debouncer input).1.servers = DebounceInput.policy servers _
    rw [hh.servers, policy_snoc, h.policy]
  · rcases (hh.pending task req).1 hp with ⟨rfl, rfl, hw⟩ | ⟨hp, hc⟩
    · -- the request that has just come
      refine ⟨s.now, ?_, ?_, ?_, fun entry he => ?_, fun u => ?_⟩
      · show (s.inputs ++ _)[Function.update s.origin _ _ s.debouncer.nextTask]? = _
        rw [Function.update_self]
        exact List.getElem?_concat_length
      · show Function.update s.due _ _ s.debouncer.nextTask =
          edge servers _ (Function.update s.origin _ _ s.debouncer.nextTask) s.now req
        rw [Function.update_self, Function.update_self, edge_last, ← h.policy]
        exact congrArg (s.now + ·) (window_eq_delay hw)
      · show s.now ≤ Function.update s.due _ _ s.debouncer.nextTask
        rw [Function.update_self]
        show s.now ≤ s.now + s.debouncer.window req
        have hpos := delay_nonneg s.debouncer.servers req
        rw [window_eq_delay hw]
        linarith
      · show entry.2.1 ≠ Function.update s.origin _ _ s.debouncer.nextTask
        rw [Function.update_self]
        rcases hh.out with ⟨r, hr, hnot, -⟩ | ⟨hout, -⟩
        · cases hr
          exact absurd hw hnot
        · rw [hout, List.map_nil, List.append_nil] at he
          exact Nat.ne_of_lt (h.log_lt he)
      · show ¬ CancelledAt servers _ (Function.update s.origin _ _ s.debouncer.nextTask) req u
        rw [Function.update_self]
        exact not_cancelledAt_last
    · obtain ⟨t, ho⟩ := h.pending task req hp
      exact ⟨t, ho.input_kept h hp hc⟩
  · rcases List.mem_append.1 he with he | he
    · exact (h.log entry he).input_kept
    · rcases hh.out with ⟨r, rfl, hnot, hout⟩ | ⟨hout, -⟩
      · rw [hout] at he
        cases List.mem_singleton.1 he
        refine ⟨le_rfl, ⟨s.now, List.getElem?_concat_length, ?_⟩, fun u hu => ?_⟩
        · show s.now = edge servers _ s.inputs.length s.now r
          rw [edge_last, ← h.policy, delay_of_not_waits hnot, add_zero]
        · exact absurd hu not_cancelledAt_last
      · rw [hout] at he
        cases he
  · show ((s.log ++ _).map _).Nodup
    rw [List.map_append, List.nodup_append]
    refine ⟨h.once, ?_, fun a ha b hb => ?_⟩
    · rcases hh.out with ⟨r, -, -, hout⟩ | ⟨hout, -⟩
      · rw [hout]
        exact List.nodup_singleton _
      · rw [hout]
        exact .nil
    · obtain ⟨entry, he, rfl⟩ := List.mem_map.1 ha
      rw [List.map_map] at hb
      obtain ⟨r, -, rfl⟩ := List.mem_map.1 hb
      exact Nat.ne_of_lt (h.log_lt he)
  · show (s.log ++ _).Pairwise _
    refine List.pairwise_append.2 ⟨h.ordered, ?_, fun a ha b hb => ?_⟩
    · rcases hh.out with ⟨r, -, -, hout⟩ | ⟨hout, -⟩
      · rw [hout]
        exact List.pairwise_singleton _ _
      · rw [hout]
        exact .nil
    · obtain ⟨r, -, rfl⟩ := List.mem_map.1 hb
      exact (h.log a ha).past
  · rcases History.getElem?_snoc.1 hi with hi | ⟨rfl, he⟩
    · show _ ∨ _ ∈ s.log ++ _ ∨ _
      rw [edge_snoc hi]
      rcases h.settled i t req hi with ⟨task, hp, rfl⟩ | hlog | ⟨u, hu, hle⟩
      · by_cases hc : Cancels s.debouncer.servers req input
        · -- it is cancelled while it waits
          obtain ⟨t', ho⟩ := h.pending task req hp
          rw [ho.input] at hi
          cases hi
          rw [h.policy] at hc
          exact .inr (.inr ⟨s.now, (cancelledAt_snoc ho.input).2 (.inr ⟨rfl, hc⟩),
            ho.due ▸ ho.waits⟩)
        · refine .inl ⟨task, (hh.pending task req).2 (.inr ⟨hp, hc⟩), ?_⟩
          exact Function.update_of_ne (Nat.ne_of_lt (h.exact.fresh hp)) _ _
      · exact .inr (.inl (List.mem_append_left _ hlog))
      · exact .inr (.inr ⟨u, (cancelledAt_snoc hi).2 (.inl hu), hle⟩)
    · cases he
      by_cases hw : Waits s.debouncer.servers req
      · exact .inl ⟨s.debouncer.nextTask, (hh.pending _ _).2 (.inl ⟨rfl, rfl, hw⟩),
          Function.update_self _ _ _⟩
      · refine .inr (.inl ?_)
        rcases hh.out with ⟨r, hr, -, hout⟩ | ⟨-, hall⟩
        · cases hr
          show (edge servers _ s.inputs.length s.now req, _) ∈ s.log ++ _
          rw [edge_last, ← h.policy, delay_of_not_waits hw, add_zero, hout]
          exact List.mem_append_right _ (List.mem_singleton_self _)
        · exact absurd (hall req rfl) hw

/-- Of the requests that wait, each has its own place. -/
lemma Inv.task_eq (h : Inv servers s) {x : Nat} {r : ScanRequest}
    (hp : s.debouncer.Pending task req) (hx : s.debouncer.Pending x r)
    (heq : s.origin x = s.origin task) : x = task := by
  obtain ⟨t, ho⟩ := h.pending task req hp
  obtain ⟨u, hu⟩ := h.pending x r hx
  have hinput := hu.input
  rw [heq, ho.input] at hinput
  cases hinput
  exact h.exact.task_eq hx hp rfl

/-- A task is resumed; if it waited, its window is just over. -/
lemma Inv.fire (h : Inv servers s) (hs : step s (.fire task) = some s') : Inv servers s' := by
  rw [step] at hs
  split at hs
  case isFalse => cases hs
  case isTrue hres =>
    obtain ⟨⟨d, out⟩, hf, rfl⟩ := Option.map_eq_some_iff.1 hs
    have hends := h.exact.fireAfter hf
    -- what is dispatched is at its edge
    have hout : out = [] ∧ (∀ r, ¬ s.debouncer.Pending task r) ∨
        ∃ r t, out = [r] ∧ s.debouncer.Pending task r ∧ Open servers s task r t ∧
          s.now = edge servers s.inputs (s.origin task) t r := by
      rcases hends.out with ⟨r, rfl, hp⟩ | ⟨rfl, hnone⟩
      · obtain ⟨t, ho⟩ := h.pending task r hp
        refine .inr ⟨r, t, rfl, hp, ho, ?_⟩
        rcases hres with hover | ⟨timer, hl, hc⟩
        · rw [← ho.due]
          exact le_antisymm ho.waits hover
        · rw [Option.some.inj (hp.symm.trans hl).symm] at hc
          cases hc
      · exact .inl ⟨rfl, hnone⟩
    refine ⟨hends.exact, hends.servers.trans h.policy, fun x r hnew => ?_, fun entry he => ?_, ?_,
      ?_, fun i t r hi => ?_⟩
    · obtain ⟨hne, hx⟩ := (hends.pending x r).1 hnew
      obtain ⟨t, ho⟩ := h.pending x r hx
      refine ⟨t, ho.input, ho.due, ho.waits, fun entry he => ?_, ho.uncancelled⟩
      rcases List.mem_append.1 he with he | he
      · exact ho.unlogged entry he
      · obtain ⟨r', hr', rfl⟩ := List.mem_map.1 he
        rcases hout with ⟨rfl, -⟩ | ⟨r₀, t₀, rfl, hp, -⟩
        · cases hr'
        · intro heq
          exact hne (h.task_eq hp hx heq.symm)
    · rcases List.mem_append.1 he with he | he
      · exact ⟨(h.log entry he).past, (h.log entry he).input, (h.log entry he).first⟩
      · rcases hout with ⟨rfl, -⟩ | ⟨r, t, rfl, -, ho, hnow⟩
        · cases he
        · cases List.mem_singleton.1 he
          exact ⟨le_rfl, ⟨t, ho.input, hnow⟩, fun u hu => absurd hu (ho.uncancelled u)⟩
    · show ((s.log ++ _).map _).Nodup
      rcases hout with ⟨rfl, -⟩ | ⟨r, t, rfl, -, ho, -⟩
      · rw [List.map_nil, List.append_nil]
        exact h.once
      · rw [List.map_append, List.nodup_append]
        refine ⟨h.once, List.nodup_singleton _, fun a ha b hb => ?_⟩
        obtain ⟨entry, he, rfl⟩ := List.mem_map.1 ha
        cases List.mem_singleton.1 hb
        exact ho.unlogged entry he
    · show (s.log ++ _).Pairwise _
      refine List.pairwise_append.2 ⟨h.ordered, ?_, fun a ha b hb => ?_⟩
      · rcases hout with ⟨rfl, -⟩ | ⟨r, t, rfl, -⟩
        · exact .nil
        · exact List.pairwise_singleton _ _
      · obtain ⟨r, -, rfl⟩ := List.mem_map.1 hb
        exact (h.log a ha).past
    · rcases h.settled i t r hi with ⟨x, hx, rfl⟩ | hlog | hcancelled
      · by_cases hne : x = task
        · subst hne
          rcases hout with ⟨-, hnone⟩ | ⟨r', t', rfl, hp, ho, hnow⟩
          · exact absurd hx (hnone r)
          · have hinput := ho.input
            have hi : s.inputs[s.origin x]? = some (t, .submit r) := hi
            rw [hi] at hinput
            cases hinput
            refine .inr (.inl (List.mem_append_right _ ?_))
            rw [← hnow]
            exact List.mem_singleton_self _
        · exact .inl ⟨x, (hends.pending x r).2 ⟨hne, hx⟩, rfl⟩
      · exact .inr (.inl (List.mem_append_left _ hlog))
      · exact .inr (.inr hcancelled)

lemma Inv.step {a : Act} (h : Inv servers s) (hg : s.Punctual a) (hs : step s a = some s') :
    Inv servers s' := by
  cases a with
  | wait seconds => exact h.wait hg hs
  | input input => exact h.told hs
  | fire task => exact h.fire hs

lemma inv_start (servers : AList fun _ : Nat => ServerRuntime) : Inv servers (start servers) := by
  refine ⟨Debouncer.exact_init servers, rfl, fun task req hp => ?_, fun _ he => ?_, .nil, .nil,
    fun _ _ _ hi => ?_⟩
  · cases hp
  · cases he
  · cases hi

lemma Inv.reach {G : Paced → Act → Prop} (h : Inv servers s)
    (hG : ∀ {u a}, G u a → Punctual u a) (hs : Reach Paced.step G s s') : Inv servers s' :=
  hs.invariant h fun hu hg hstep => hu.step (hG hg) hstep

/-! ## Progress -/

/-- A punctual step that is no input. -/
def Quiet (s : Paced) (a : Act) : Prop :=
  s.Punctual a ∧ ∀ input, a ≠ .input input

/-- The first of the windows that are open, if any is. -/
lemma first_due (s : Paced) :
    (∀ entry ∈ s.debouncer.tasks.entries, entry.2.cancelled = true) ∨
      ∃ first ∈ s.debouncer.tasks.entries, first.2.cancelled = false ∧
        ∀ entry ∈ s.debouncer.tasks.entries, entry.2.cancelled = false →
          s.due first.1 ≤ s.due entry.1 := by
  have hmem : ∀ entry, entry ∈ s.debouncer.tasks.entries.filter (fun e => !e.2.cancelled) ↔
      entry ∈ s.debouncer.tasks.entries ∧ entry.2.cancelled = false := by
    intro entry
    rw [List.mem_filter, Bool.not_eq_true']
  cases hmin : (s.debouncer.tasks.entries.filter fun e => !e.2.cancelled).argmin
      (fun entry => s.due entry.1) with
  | none =>
    left
    intro entry he
    by_contra hc
    have hin := (hmem entry).2 ⟨he, Bool.eq_false_iff.2 hc⟩
    rw [List.argmin_eq_none.1 hmin] at hin
    cases hin
  | some first =>
    obtain ⟨hfirst, hc⟩ := (hmem first).1 (List.argmin_mem hmin)
    refine .inr ⟨first, hfirst, hc, fun entry he hce => ?_⟩
    exact List.le_of_mem_argmin (f := fun entry : Sigma fun _ : Nat => Timer => s.due entry.1)
      ((hmem entry).2 ⟨he, hce⟩) hmin

/-- The clock is set to a time that no window ends before. -/
lemma reach_wait {T : ℚ} (hT : s.now ≤ T) (hend : ∀ entry ∈ s.debouncer.tasks.entries,
    entry.2.cancelled = false → T ≤ s.due entry.1) :
    Reach Paced.step Quiet s { s with now := T } := by
  have hsum : s.now + (T - s.now) = T := by linarith
  refine .head (a := .wait (T - s.now)) ⟨fun entry he hc => ?_, fun _ => Act.noConfusion⟩ ?_ .refl
  · rw [hsum]
    exact hend entry he hc
  · rw [step, if_pos (sub_nonneg.2 hT), hsum]

/-- A task that is resumed is gone. -/
lemma length_fireAfter {d' : Debouncer} {out : List ScanRequest}
    (hf : d.fireAfter task = some (d', out)) :
    d'.tasks.entries.length < d.tasks.entries.length := by
  obtain ⟨timer, hl, hd⟩ := Option.map_eq_some_iff.1 hf
  have htasks : d'.tasks = d.tasks.erase task := by
    simp only at hd
    split at hd
    · cases hd
      rfl
    · split at hd
      · cases hd
        rfl
      · cases hd
        rfl
  have hmem := AList.mem_lookup_iff.1 hl
  rw [htasks]
  show (List.kerase task d.tasks.entries).length < _
  rw [List.kerase, List.length_eraseP_of_mem hmem (decide_eq_true rfl)]
  exact Nat.sub_lt (List.length_pos_of_mem hmem) Nat.one_pos

/-- The clock can be set on to any time, as the tasks that come due are resumed. The induction is on
the number of tasks. -/
lemma Inv.advance (h : Inv servers s) {T : ℚ} (hT : s.now ≤ T) :
    ∃ s', Reach Paced.step Quiet s s' ∧ s'.now = T ∧ s'.inputs = s.inputs := by
  induction hn : s.debouncer.tasks.entries.length using Nat.strong_induction_on generalizing s with
  | _ n ih =>
    subst hn
    rcases first_due s with hall | ⟨first, hfirst, hc, hleast⟩
    · refine ⟨_, reach_wait hT fun entry he hce => ?_, rfl, rfl⟩
      rw [hall entry he] at hce
      cases hce
    · rcases le_or_gt T (s.due first.1) with hle | hlt
      · exact ⟨_, reach_wait hT fun entry he hce => hle.trans (hleast entry he hce), rfl, rfl⟩
      · have hl : s.debouncer.tasks.lookup first.1 = some first.2 := AList.mem_lookup_iff.2 hfirst
        obtain ⟨t, ho⟩ := h.pending _ _ (h.exact.pending hl hc)
        have hwait := reach_wait (T := s.due first.1) ho.waits hleast
        cases hf : s.debouncer.fireAfter first.1 with
        | none =>
          rw [Debouncer.fireAfter, hl] at hf
          cases hf
        | some res =>
          obtain ⟨d, out⟩ := res
          have hstep : Paced.step { s with now := s.due first.1 } (.fire first.1) = some
              { s with
                now := s.due first.1
                debouncer := d
                log := s.log ++ out.map fun req => (s.due first.1, s.origin first.1, req) } := by
            rw [Paced.step, if_pos (.inl le_rfl), hf]
            rfl
          have hinv := h.reach And.left hwait
          obtain ⟨s', hs', hnow, hinputs⟩ := ih _ (length_fireAfter hf) (hinv.fire hstep) hlt.le rfl
          refine ⟨s', hwait.trans (.head (a := .fire first.1) ⟨trivial, fun _ => Act.noConfusion⟩
            hstep hs'), hnow, hinputs⟩

lemma step_wait {seconds : ℚ} (hpos : 0 ≤ seconds) :
    step s (.wait seconds) = some { s with now := s.now + seconds } :=
  if_pos hpos

end Paced
end MediaScanMonitor
