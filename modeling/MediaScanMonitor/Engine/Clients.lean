import MediaScanMonitor.Engine.System

/-!
# Clients and the triggers that use them

A rebuild closes the clients it has replaced without asking whether a trigger still uses one. As long
as each is closed only when no trigger in flight holds it (`Released`), no attempt meets a closed
client: the adapters in use hold open ones, and a replaced client cannot be looked up any more.
-/

namespace MediaScanMonitor
open Text Transition

namespace Engine
variable {pf : Platform} {s s' : Engine}

/-- A client is closed when no trigger in flight holds it. -/
def Released (s : Engine) : Act → Prop
  | .call i =>
    match s.calls[i]? with
    | some (.closing (client :: _)) => ∀ d ∈ s.dispatches, d.client ≠ client
    | _ => True
  | _ => True

instance (s : Engine) (a : Act) : Decidable (Released s a) := by
  unfold Released
  split
  · split <;> infer_instance
  · infer_instance

/-- Who may use a client, and who may close it. -/
structure Owned (s : Engine) : Prop where
  lock : LockOne s
  uncut : ∀ d ∈ s.dispatches, d.cut = false
  /-- No trigger holds a closed client. -/
  held : ∀ d ∈ s.dispatches, d.client ∉ s.closed
  adapters : s.clients = s.adapters.map Adapter.client
  /-- The clients in use are open. -/
  inUse : ∀ c ∈ s.clients, c ∉ s.closed
  /-- The clients that a call closes are not in use. -/
  replaced : ∀ {i : Nat} {cs}, s.calls[i]? = some (.closing cs) → ∀ c ∈ cs, c ∉ s.clients
  /-- The clients of a call's new adapters are open and not in use. -/
  unused : ∀ {i : Nat} {config as g}, s.calls[i]? = some (.gating config as g) → ∀ a ∈ as,
    a.client ∉ s.clients ∧ a.client ∉ s.closed
  /-- All these clients have been made. -/
  made : (∀ c ∈ s.clients, c < s.nextClient) ∧ (∀ c ∈ s.closed, c < s.nextClient) ∧
    (∀ {i : Nat} {cs}, s.calls[i]? = some (.closing cs) → ∀ c ∈ cs, c < s.nextClient) ∧
    ∀ {i : Nat} {config as g}, s.calls[i]? = some (.gating config as g) → ∀ a ∈ as,
      a.client < s.nextClient

/-- New adapters get new clients. -/
lemma client_buildAdapters {next : Client} {config : RuntimeConfig} {a : Adapter}
    (h : a ∈ buildAdapters next config) :
    next ≤ a.client ∧ a.client < next + (buildAdapters next config).length := by
  obtain ⟨⟨entry, i⟩, hi, rfl⟩ := List.mem_map.1 h
  have hlt := (List.mem_zipIdx hi).2.1
  rw [buildAdapters, List.length_map, List.length_zipIdx]
  exact ⟨Nat.le_add_right _ _, by simpa using hlt⟩

lemma owned_init (db : Db) : Owned (init db) where
  lock := lockOne_init db
  uncut := fun _ h => (by cases h)
  held := fun _ h => (by cases h)
  adapters := rfl
  inUse := fun _ h => (by cases h)
  replaced := fun h => (by cases h)
  unused := fun h => (by cases h)
  made := ⟨fun _ h => (by cases h), fun _ h => (by cases h), fun h => (by cases h),
    fun h => (by cases h)⟩

/-- A call moves on; it closes no other clients, and has no other adapters, than before. -/
lemma Owned.setCall (h : Owned s) {i : Nat} {c c' : Call} (hi : s.calls[i]? = some c)
    (hlock : LockOne (s.setCall i c'))
    (hclosing : ∀ {cs}, c' = .closing cs → ∃ cs', c = .closing cs' ∧ ∀ x ∈ cs, x ∈ cs')
    (hgating : ∀ {config as g}, c' = .gating config as g → ∃ config' g', c = .gating config' as g') :
    Owned (s.setCall i c') := by
  have hcl : ∀ {j : Nat} {cs}, (s.setCall i c').calls[j]? = some (.closing cs) →
      ∃ cs', s.calls[j]? = some (.closing cs') ∧ ∀ x ∈ cs, x ∈ cs' := by
    intro j cs hj
    rcases getElem?_set_cases hj with ⟨rfl, he⟩ | ⟨-, hj⟩
    · obtain ⟨cs', rfl, hsub⟩ := hclosing he.symm
      exact ⟨cs', hi, hsub⟩
    · exact ⟨cs, hj, fun x hx => hx⟩
  have hga : ∀ {j : Nat} {config as g}, (s.setCall i c').calls[j]? = some (.gating config as g) →
      ∃ config' g', s.calls[j]? = some (.gating config' as g') := by
    intro j config as g hj
    rcases getElem?_set_cases hj with ⟨rfl, he⟩ | ⟨-, hj⟩
    · obtain ⟨config', g', rfl⟩ := hgating he.symm
      exact ⟨config', g', hi⟩
    · exact ⟨config, g, hj⟩
  refine ⟨hlock, h.uncut, h.held, h.adapters, h.inUse, fun hj c hc => ?_, fun hj a ha => ?_,
    h.made.1, h.made.2.1, fun hj c hc => ?_, fun hj a ha => ?_⟩
  · obtain ⟨cs', hj', hsub⟩ := hcl hj
    exact h.replaced hj' c (hsub c hc)
  · obtain ⟨config', g', hj'⟩ := hga hj
    exact h.unused hj' a ha
  · obtain ⟨cs', hj', hsub⟩ := hcl hj
    exact h.made.2.2.1 hj' c (hsub c hc)
  · obtain ⟨config', g', hj'⟩ := hga hj
    exact h.made.2.2.2 hj' a ha

/-- A call has built new adapters. -/
lemma Owned.build (h : Owned s) {i : Nat} {r : Reading} {config : RuntimeConfig} {g : Gate}
    (hi : s.calls[i]? = some (.reading r)) :
    Owned ({ s with
      nextClient := s.nextClient + (buildAdapters s.nextClient config).length }.setCall i
        (.gating config (buildAdapters s.nextClient config) g)) := by
  have hle : ∀ {c},
      c < s.nextClient → c < s.nextClient + (buildAdapters s.nextClient config).length :=
    fun hc => Nat.lt_of_lt_of_le hc (Nat.le_add_right _ _)
  have hcl : ∀ {j : Nat} {cs}, (s.calls.set i
      (.gating config (buildAdapters s.nextClient config) g))[j]? = some (.closing cs) →
      s.calls[j]? = some (.closing cs) := by
    intro j cs hj
    rcases getElem?_set_cases hj with ⟨-, he⟩ | ⟨-, hj⟩
    · cases he
    · exact hj
  refine ⟨LockOne.set h.lock hi rfl fun _ => .inl rfl, h.uncut, h.held, h.adapters, h.inUse,
    fun hj => h.replaced (hcl hj), fun hj a ha => ?_, fun c hc => hle (h.made.1 c hc),
    fun c hc => hle (h.made.2.1 c hc), fun hj c hc => hle (h.made.2.2.1 (hcl hj) c hc),
    fun hj a ha => ?_⟩
  · rcases getElem?_set_cases hj with ⟨-, he⟩ | ⟨-, hj⟩
    · cases he
      have hnew := (client_buildAdapters ha).1
      exact ⟨fun hc => Nat.not_lt.2 hnew (h.made.1 _ hc),
        fun hc => Nat.not_lt.2 hnew (h.made.2.1 _ hc)⟩
    · exact h.unused hj a ha
  · rcases getElem?_set_cases hj with ⟨-, he⟩ | ⟨-, hj⟩
    · cases he
      exact (client_buildAdapters ha).2
    · exact hle (h.made.2.2.2 hj a ha)

/-- The new adapters come into use; the clients of the old ones are to be closed. -/
lemma Owned.swap (h : Owned s) {i : Nat} {config : RuntimeConfig} {as : List Adapter} {ok : Bool}
    (hi : s.calls[i]? = some (.gating config as (.verdict ok))) :
    Owned ((s.swap config as ok).setCall i (.closing s.clients)) := by
  -- the call holds the lock, so no other one closes clients or has new adapters
  have honly : ∀ {j : Nat} {c : Call}, (s.calls.set i (.closing s.clients))[j]? = some c →
      c.locked = true → c = .closing s.clients := by
    intro j c hj hc
    rcases getElem?_set_cases hj with ⟨-, he⟩ | ⟨hne, hj⟩
    · exact he
    · exact (hne (h.lock hi hj rfl hc)).elim
  have hnew : ∀ c ∈ as.map Adapter.client, c ∉ s.clients ∧ c ∉ s.closed ∧ c < s.nextClient := by
    intro c hc
    obtain ⟨a, ha, rfl⟩ := List.mem_map.1 hc
    exact ⟨(h.unused hi a ha).1, (h.unused hi a ha).2, h.made.2.2.2 hi a ha⟩
  refine ⟨LockOne.set h.lock hi rfl fun _ => .inl rfl, h.uncut, h.held, rfl,
    fun c hc => (hnew c hc).2.1, fun hj c hc hmem => ?_, fun hj => ?_, fun c hc => (hnew c hc).2.2,
    h.made.2.1, fun hj c hc => ?_, fun hj => ?_⟩
  · cases honly hj rfl
    exact (hnew c hmem).1 hc
  · cases honly hj rfl
  · cases honly hj rfl
    exact h.made.1 c hc
  · cases honly hj rfl

/-- A replaced client is closed while no trigger holds it. -/
lemma Owned.close (h : Owned s) {i : Nat} {client : Client} {rest : List Client}
    (hi : s.calls[i]? = some (.closing (client :: rest)))
    (hfree : ∀ d ∈ s.dispatches, d.client ≠ client) :
    Owned ((s.closeClient client).setCall i (.closing rest)) := by
  have honly : ∀ {j : Nat} {c : Call}, (s.calls.set i (.closing rest))[j]? = some c →
      c.locked = true → c = .closing rest := by
    intro j c hj hc
    rcases getElem?_set_cases hj with ⟨-, he⟩ | ⟨hne, hj⟩
    · exact he
    · exact (hne (h.lock hi hj rfl hc)).elim
  have hsame : (s.dispatches.map fun d =>
      if d.client = client ∧ d.outstanding then { d with cut := true } else d) = s.dispatches := by
    refine (List.map_congr_left fun d hd => ?_).trans (List.map_id _)
    rw [if_neg fun hc => hfree d hd hc.1]
    rfl
  have hclient : client ∉ s.clients := h.replaced hi client List.mem_cons_self
  refine ⟨LockOne.set h.lock hi rfl fun _ => .inl rfl, ?_, ?_, h.adapters, fun c hc hmem => ?_,
    fun hj c hc => ?_, fun hj => ?_, h.made.1, fun c hc => ?_, fun hj c hc => ?_, fun hj => ?_⟩
  · show ∀ d ∈ List.map _ s.dispatches, _
    rw [hsame]
    exact h.uncut
  · show ∀ d ∈ List.map _ s.dispatches, _
    rw [hsame]
    intro d hd hmem
    rcases List.mem_cons.1 hmem with he | hmem
    · exact hfree d hd he
    · exact h.held d hd hmem
  · rcases List.mem_cons.1 hmem with rfl | hmem
    · exact hclient hc
    · exact h.inUse c hc hmem
  · cases honly hj rfl
    exact h.replaced hi c (List.mem_cons_of_mem _ hc)
  · cases honly hj rfl
  · rcases List.mem_cons.1 hc with rfl | hc
    · exact h.made.2.2.1 hi c List.mem_cons_self
    · exact h.made.2.1 c hc
  · cases honly hj rfl
    exact h.made.2.2.1 hi c (List.mem_cons_of_mem _ hc)
  · cases honly hj rfl

lemma Owned.call (h : Owned s) {i : Nat} (hg : Released s (.call i)) (hc : CallCase pf s i s') :
    Owned s' := by
  have hlock : LockOne s' := LockOne.call h.lock hc
  cases hc with
  | refuse hi => exact h.setCall hi hlock nofun nofun
  | wait hi => exact h.setCall hi hlock nofun nofun
  | lock hi => exact h.setCall hi hlock nofun nofun
  | read r r' hi => exact h.setCall hi hlock nofun nofun
  | build r config adapters next hi _ hadapters hnext =>
    subst hadapters hnext
    exact h.build hi
  | gate config adapters g hi =>
    refine h.setCall hi hlock nofun fun he => ?_
    cases he
    exact ⟨config, g, rfl⟩
  | swap config adapters ok hi => exact h.swap hi
  | close client rest hi =>
    apply h.close hi
    simp only [Released, hi] at hg
    exact hg
  | finish hi => exact h.setCall hi hlock nofun nofun

/-- `start` puts its adapters in use. -/
lemma Owned.wire (h : Owned s) {config : RuntimeConfig} {start : Start} :
    Owned { s with
      adapters := buildAdapters s.nextClient config
      clients := (buildAdapters s.nextClient config).map Adapter.client
      nextClient := s.nextClient + (buildAdapters s.nextClient config).length
      wired := true
      start := start } := by
  have hle : ∀ {c},
      c < s.nextClient → c < s.nextClient + (buildAdapters s.nextClient config).length :=
    fun hc => Nat.lt_of_lt_of_le hc (Nat.le_add_right _ _)
  have hnew : ∀ c ∈ (buildAdapters s.nextClient config).map Adapter.client, s.nextClient ≤ c ∧
      c < s.nextClient + (buildAdapters s.nextClient config).length := by
    intro c hc
    obtain ⟨a, ha, rfl⟩ := List.mem_map.1 hc
    exact client_buildAdapters ha
  refine ⟨h.lock, h.uncut, h.held, rfl, fun c hc hmem => ?_, fun hj c hc hmem => ?_,
    fun hj a ha => ⟨fun hmem => ?_, (h.unused hj a ha).2⟩, fun c hc => (hnew c hc).2,
    fun c hc => hle (h.made.2.1 c hc), fun hj c hc => hle (h.made.2.2.1 hj c hc),
    fun hj a ha => hle (h.made.2.2.2 hj a ha)⟩
  · exact Nat.not_lt.2 (hnew c hc).1 (h.made.2.1 c hmem)
  · exact Nat.not_lt.2 (hnew c hmem).1 (h.made.2.2.1 hj c hc)
  · exact Nat.not_lt.2 (hnew _ hmem).1 (h.made.2.2.2 hj a ha)

/-- Only the triggers change. -/
lemma Owned.dispatches (h : Owned s) {ds : List Dispatch}
    (hds : ∀ d ∈ ds, d.cut = false ∧ d.client ∉ s.closed) : Owned { s with dispatches := ds } :=
  ⟨h.lock, fun d hd => (hds d hd).1, fun d hd => (hds d hd).2, h.adapters, h.inUse, h.replaced,
    h.unused, h.made⟩

lemma Owned.step (h : Owned s) {a : Act} (hg : Released s a) (hs : Engine.step pf s a = some s') :
    Owned s' := by
  have hold : ∀ d ∈ s.dispatches, d.cut = false ∧ d.client ∉ s.closed :=
    fun d hd => ⟨h.uncut d hd, h.held d hd⟩
  cases step_cases hs with
  | start hc =>
    cases hc with
    | wire config adapters next _ hadapters hnext =>
      subst hadapters hnext
      exact h.wire
    | _ => exact ⟨h.lock, h.uncut, h.held, h.adapters, h.inUse, h.replaced, h.unused, h.made⟩
  | write db =>
    have hget : ∀ {j : Nat} {c : Call}, (s.calls ++ [.pending])[j]? = some c → c ≠ .pending →
        s.calls[j]? = some c := by
      intro j c hj hne
      rw [List.getElem?_append] at hj
      split at hj
      · exact hj
      · exact (hne (List.mem_singleton.1 (List.mem_of_getElem? hj))).elim
    exact ⟨LockOne.write h.lock rfl, h.uncut, h.held, h.adapters, h.inUse,
      fun hj => h.replaced (hget hj nofun), fun hj => h.unused (hget hj nofun), h.made.1,
      h.made.2.1, fun hj => h.made.2.2.1 (hget hj nofun), fun hj => h.made.2.2.2 (hget hj nofun)⟩
  | call i hc => exact h.call hg hc
  | dispatch serverId a ha =>
    apply h.dispatches
    intro d hd
    rcases List.mem_append.1 hd with hd | hd
    · exact hold d hd
    · -- the trigger captures a client in use
      rw [List.mem_singleton.1 hd]
      refine ⟨rfl, h.inUse _ ?_⟩
      rw [h.adapters]
      exact List.mem_map_of_mem ha
  | attempt j d hd =>
    apply h.dispatches
    intro d' hd'
    rcases List.mem_or_eq_of_mem_set hd' with hd' | rfl
    · exact hold d' hd'
    · refine ⟨?_, h.held d hd⟩
      rw [Dispatch.issue, h.uncut d hd, Bool.false_or, decide_eq_false_iff_not]
      exact h.held d hd
  | again j d hd =>
    apply h.dispatches
    intro d' hd'
    rcases List.mem_or_eq_of_mem_set hd' with hd' | rfl
    · exact hold d' hd'
    · exact ⟨h.uncut d hd, h.held d hd⟩
  | finish j => exact h.dispatches fun d hd => hold d (List.mem_of_mem_eraseIdx hd)

/-- While clients are closed only when no trigger holds them, no attempt is issued on a closed
client, none is outstanding when its client is closed, and no trigger holds a closed client. -/
theorem rebuild_cuts_nothing {db : Db} (h : Reach (Engine.step pf) Released (init db) s) :
    ∀ d ∈ s.dispatches, d.cut = false ∧ d.client ∉ s.closed := by
  have hown : Owned s := h.invariant (owned_init db) fun hu hg hs => hu.step hg hs
  exact fun d hd => ⟨hown.uncut d hd, hown.held d hd⟩

/-- A rebuild between two triggers. -/
theorem rebuild_cuts_nothing_between :
    ∃ s, run (guarded (Engine.step roomy) Released) (init plexDb)
        [.start, .start, .start, .start, .start, .start, .start, .start, .dispatch 1, .attempt 0,
          .answer 0 false, .write plexDb, .call 0, .call 0, .call 0, .call 0, .call 0, .call 0,
          .call 0, .call 0, .dispatch 1, .attempt 0, .call 0] = some s ∧
      ∀ d ∈ s.dispatches, d.cut = false ∧ d.client ∉ s.closed := by
  have hrun : run (guarded (Engine.step roomy) Released) (init plexDb)
      [.start, .start, .start, .start, .start, .start, .start, .start, .dispatch 1, .attempt 0,
        .answer 0 false, .write plexDb, .call 0, .call 0, .call 0, .call 0, .call 0, .call 0,
        .call 0, .call 0, .dispatch 1, .attempt 0, .call 0] = some _ := rfl
  exact ⟨_, hrun, rebuild_cuts_nothing (Reach.of_run hrun)⟩

/-- A rebuild closes the client of a trigger whose attempt is outstanding. -/
theorem rebuild_cuts_attempt :
    ¬ ∀ (pf : Platform) (db : Db) (acts : List Act) (s : Engine),
      run (Engine.step pf) (init db) acts = some s → ∀ d ∈ s.dispatches, d.cut = false := by
  intro h
  have hrun : run (Engine.step roomy) (init plexDb)
      [.start, .start, .start, .start, .start, .start, .start, .start, .dispatch 1, .attempt 0,
        .write plexDb, .call 0, .call 0, .call 0, .call 0, .call 0, .call 0, .call 0, .call 0,
        .call 0] = some _ := rfl
  have hcut := h roomy plexDb _ _ hrun _ List.mem_cons_self
  cases hcut

end Engine
end MediaScanMonitor
