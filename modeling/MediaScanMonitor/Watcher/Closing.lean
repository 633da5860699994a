import MediaScanMonitor.Watcher.Generator

/-!
# Closing the watcher

`events` with the task of its read, and `aclose`, which may run wherever the generator is suspended.
`aclose` reaches the generator through the task of an unfinished read only; nothing else in `events`
looks at `_closing`.
-/

namespace MediaScanMonitor
open Text PosixPath Os Inotify InotifyBackend Transition

/-- `get_task`. -/
inductive ReadTask
  | pending
  /-- The read has returned, and the generator has not been resumed yet. -/
  | done (event : RawEvent)
  | failed
  | cancelled

/-- Where `events` is. -/
inductive Position
  /-- Before its first step. -/
  | fresh
  | reading (task : ReadTask)
  | yielding (suspension : Suspension)
  | returned
  | raised

/-- The stream is over. -/
def Position.over : Position → Bool
  | .returned => true
  | .raised => true
  | _ => false

/-- `aclose` on the backend: the handle is closed, and the dict is emptied. -/
def InotifyBackend.close (b : InotifyBackend) : InotifyBackend :=
  { b with inotify := { b.inotify with live := fun _ => none }, watches := ∅ }

/-- A file system with a backend, its generator, and the reads that were issued on the handle. -/
structure Feed where
  world : World
  position : Position
  closing : Bool
  reads : Nat

namespace Feed

inductive Act
  /-- A process changes the file system. -/
  | op (o : FsOp)
  /-- The engine replaces the roots. -/
  | setRoots (roots : List Str)
  /-- The kernel drops an event. -/
  | lose (i : Nat)
  /-- The kernel reports that it has dropped events. -/
  | overflow
  /-- The read has returned the oldest event. -/
  | complete
  /-- The read has raised. -/
  | fail
  /-- The task of the consumer is cancelled while it waits for the read. -/
  | cancel
  /-- The consumer asks for the next event. -/
  | next
  /-- The generator is resumed after its read. -/
  | wake
  | aclose

/-- A backend without roots whose generator has not begun. -/
def start (t : Tree) (ignoreDirs : List Str) : Feed :=
  ⟨⟨t, init ignoreDirs, []⟩, .fresh, false, 0⟩

/-- On a closed handle every `add_watch` fails and is skipped. -/
def put (s : Feed) (w : World) : Feed :=
  { s with world := if s.closing then { w with backend := w.backend.close } else w }

/-- A read is issued. -/
def issue (s : Feed) : Feed :=
  { s with position := .reading .pending, reads := s.reads + 1 }

/-- The generator has run to its next suspension. -/
def advance (s : Feed) (p : Paused) : Feed :=
  let s := s.put { s.world with backend := p.backend }
  match p.suspension with
  | .reading => s.issue
  | suspension => { s with position := .yielding suspension }

/-- `aclose`. -/
def aclose (s : Feed) : Feed :=
  { s with
    world := { s.world with backend := s.world.backend.close }
    closing := true
    position :=
      match s.position with
      | .reading .pending => .reading .cancelled
      | position => position }

def step (s : Feed) : Act → Option Feed
  | .op o => (s.world.step (.op o)).map s.put
  | .setRoots roots => (s.world.step (.setRoots roots)).map s.put
  | .lose i => (s.world.step (.lose i)).map s.put
  | .overflow => (s.world.step .overflow).map s.put
  | .complete =>
    match s.position, s.world.queue with
    | .reading .pending, e :: queue =>
      some { s with
        world := { s.world with queue := queue }
        position := .reading (.done (rawEvent s.world.backend.inotify e)) }
    | _, _ => none
  | .fail =>
    match s.position with
    | .reading .pending => some { s with position := .reading .failed }
    | _ => none
  | .cancel =>
    match s.position with
    | .reading _ => some { s with position := .reading .cancelled }
    | _ => none
  | .next =>
    match s.position with
    | .fresh => some s.issue
    | .yielding suspension =>
      (s.world.backend.resume s.world.tree suspension).map s.advance
    | _ => none
  | .wake =>
    match s.position with
    | .reading (.done event) => some (s.advance (s.world.backend.receive s.world.tree event))
    | .reading .failed => some { s with position := .raised }
    -- only a read that `aclose` has cancelled ends the generator in order
    | .reading .cancelled =>
      some { s with position := if s.closing then .returned else .raised }
    | _ => none
  | .aclose => some s.aclose

/-- The generator is resumed. -/
def Resumes : Act → Prop
  | .next => True
  | .wake => True
  | _ => False

/-- From now on nothing is read from the handle, and the next resumption of the generator, which is
possible at once unless the stream is over, ends the stream by returning. -/
def Ends (s : Feed) : Prop :=
  (∀ u, Reach step Free s u → u.reads = s.reads) ∧
  (∀ u a v, Reach step (fun _ a => ¬ Resumes a) s u → Resumes a → step u a = some v →
    v.position = .returned) ∧
  (s.position.over = true ∨ ∃ a v, Resumes a ∧ step s a = some v)

/-- The generator waits for a read that has not returned or raised, or it is over. -/
def Interruptible : Position → Prop
  | .reading .pending => True
  | .reading .cancelled => True
  | .returned => True
  | .raised => True
  | _ => False

variable {s s' : Feed} {a : Act}

/-- After a close that the generator has heard of. -/
structure Stopped (n : Nat) (s : Feed) : Prop where
  closing : s.closing = true
  position : s.position = .reading .cancelled ∨ s.position.over = true
  reads : s.reads = n

lemma Stopped.put {n : Nat} (h : Stopped n s) (w : World) : Stopped n (s.put w) :=
  ⟨h.closing, h.position, h.reads⟩

lemma Stopped.step {n : Nat} (h : Stopped n s) (hs : Feed.step s a = some s') :
    Stopped n s' ∧ (Resumes a → s'.position = .returned) := by
  obtain ⟨hc, hp, hr⟩ := h
  have hworld : ∀ a, (s.world.step a).map s.put = some s' → Stopped n s' := by
    intro a ho
    obtain ⟨w, -, rfl⟩ := Option.map_eq_some_iff.1 ho
    exact .put ⟨hc, hp, hr⟩ w
  cases a with
  | op o => exact ⟨hworld (.op o) hs, nofun⟩
  | setRoots roots => exact ⟨hworld (.setRoots roots) hs, nofun⟩
  | lose i => exact ⟨hworld (.lose i) hs, nofun⟩
  | overflow => exact ⟨hworld .overflow hs, nofun⟩
  | complete =>
    rw [Feed.step] at hs
    split at hs
    · next hpos _ => simp [hpos, Position.over] at hp
    · cases hs
  | fail =>
    rw [Feed.step] at hs
    split at hs
    · next hpos => simp [hpos, Position.over] at hp
    · cases hs
  | cancel =>
    rw [Feed.step] at hs
    split at hs
    · cases hs
      exact ⟨⟨hc, .inl rfl, hr⟩, nofun⟩
    · cases hs
  | next =>
    rw [Feed.step] at hs
    split at hs
    · next hpos => simp [hpos, Position.over] at hp
    · next hpos => simp [hpos, Position.over] at hp
    · cases hs
  | wake =>
    rw [Feed.step] at hs
    split at hs
    · next hpos => simp [hpos, Position.over] at hp
    · next hpos => simp [hpos, Position.over] at hp
    · cases hs
      rw [if_pos hc]
      exact ⟨⟨hc, .inr rfl, hr⟩, fun _ => rfl⟩
    · cases hs
  | aclose =>
    cases hs
    refine ⟨⟨rfl, ?_, hr⟩, nofun⟩
    unfold aclose
    dsimp only
    split
    · exact .inl rfl
    · exact hp

/-- `aclose` stops a generator that waits for a read. -/
lemma stopped_aclose (h : Interruptible s.position) : Stopped s.reads s.aclose := by
  refine ⟨rfl, ?_, rfl⟩
  unfold aclose
  dsimp only
  split
  · exact .inl rfl
  · next hne =>
    cases hp : s.position with
    | reading task =>
      rw [hp] at h
      cases task with
      | pending => exact (hne hp).elim
      | cancelled => exact .inl rfl
      | done event => exact h.elim
      | failed => exact h.elim
    | returned => exact .inr rfl
    | raised => exact .inr rfl
    | fresh =>
      rw [hp] at h
      exact h.elim
    | yielding suspension =>
      rw [hp] at h
      exact h.elim

/-- Nothing but a cancelled read ends the stream. -/
lemma position_advance (s : Feed) (p : Paused) : (s.advance p).position ≠ .returned := by
  unfold advance
  dsimp only
  split
  · exact nofun
  · exact nofun

/-- `aclose` reaches the generator through the task of an unfinished read only. -/
lemma position_aclose (h : s.position ≠ .reading .pending) : s.aclose.position = s.position := by
  unfold aclose
  dsimp only
  split
  · next hp => exact absurd hp h
  · rfl

/-- In the other positions the generator goes on reading, or raises. -/
lemma interruptible_of_ends (h : Ends s.aclose) : Interruptible s.position := by
  obtain ⟨hreads, hnext, hlive⟩ := h
  cases hp : s.position with
  | fresh =>
    -- the first step issues a read
    have hpos : s.aclose.position = .fresh := (position_aclose (by rw [hp]; nofun)).trans hp
    have hs : step s.aclose .next = some s.aclose.issue := by
      rw [step, hpos]
    exact absurd (hreads _ (Reach.refl.tail trivial hs)) (Nat.succ_ne_self _)
  | reading task =>
    cases task with
    | pending => trivial
    | cancelled => trivial
    | done event =>
      have hpos : s.aclose.position = .reading (.done event) :=
        (position_aclose (by rw [hp]; nofun)).trans hp
      have hs : step s.aclose .wake = some (s.aclose.advance
          (s.aclose.world.backend.receive s.aclose.world.tree event)) := by
        rw [step, hpos]
      exact (position_advance _ _ (hnext _ .wake _ .refl trivial hs)).elim
    | failed =>
      have hpos : s.aclose.position = .reading .failed :=
        (position_aclose (by rw [hp]; nofun)).trans hp
      have hs : step s.aclose .wake = some { s.aclose with position := .raised } := by
        rw [step, hpos]
      cases hnext _ .wake _ .refl trivial hs
  | yielding suspension =>
    have hpos : s.aclose.position = .yielding suspension :=
      (position_aclose (by rw [hp]; nofun)).trans hp
    rcases hlive with hover | ⟨a, v, ha, hs⟩
    · rw [hpos] at hover
      cases hover
    · have hv := hnext _ _ _ .refl ha hs
      cases a with
      | next =>
        rw [step, hpos] at hs
        obtain ⟨p, -, rfl⟩ := Option.map_eq_some_iff.1 hs
        exact (position_advance _ _ hv).elim
      | wake =>
        rw [step, hpos] at hs
        cases hs
      | _ => exact ha.elim
  | returned => trivial
  | raised => trivial

lemma ends_of_interruptible (h : Interruptible s.position) : Ends s.aclose := by
  have hstop := stopped_aclose h
  have hall : ∀ {G u}, Reach step G s.aclose u → Stopped s.reads u := fun hu =>
    hu.invariant hstop fun hu _ hs => (hu.step hs).1
  refine ⟨fun u hu => (hall hu).reads, fun u a v hu ha hs => ((hall hu).step hs).2 ha, ?_⟩
  rcases hstop.position with hpos | hover
  · refine .inr ⟨.wake, { s.aclose with position := .returned }, trivial, ?_⟩
    rw [step, hpos]
    rfl
  · exact .inl hover

/-- A close is heard of exactly when the generator waits for a read that has not ended, or is over:
then nothing is read any more, and the stream ends. -/
theorem close_ends_iff (s : Feed) : Ends s.aclose ↔ Interruptible s.position :=
  ⟨interruptible_of_ends, ends_of_interruptible⟩

/-- The watcher is closed while the consumer handles the event of a new file. -/
theorem close_unheard : ¬ ∀ (t : Tree) (ign : List Str) (acts : List Act) (s : Feed),
    run step (start t ign) acts = some s → Ends s.aclose := by
  intro h
  have hrun : run step (start libraryTree [])
      [.setRoots ["/m".toList], .next, .op (.make false [name "m"] (name "f")), .complete,
        .wake] = some _ := rfl
  obtain ⟨hreads, -, -⟩ := h _ _ _ _ hrun
  exact absurd (hreads _ (Reach.refl.tail (a := .next) trivial rfl)) (by decide)

end Feed
end MediaScanMonitor
