import MediaScanMonitor.Watcher.System

/-!
# The generator of events

`events` of the backend at the grain of its suspensions: it is suspended at its read and at every
yield, and `set_roots` may run there. `runs_handle` says that a generator that is left alone does
what `handle` does. A watch stays within the current roots as long as every walk begins there.
-/

namespace MediaScanMonitor
open Text PosixPath Os Inotify InotifyBackend Transition

/-- Where `events` is suspended. -/
inductive Suspension
  /-- At the read of the next inotify event. -/
  | reading
  /-- At the yield of an arrived directory; the walk of its path comes next. -/
  | announced (path : Str)
  /-- At another yield. What is left of a walk's events comes next, then the walks of a resync that
  are left. -/
  | yielded (rest : List FsEvent) (roots : List Str)

/-- The backend and its generator after a stretch of `events`, with the event that is yielded. -/
structure Paused where
  backend : InotifyBackend
  suspension : Suspension
  event : Option FsEvent

namespace InotifyBackend

/-- The loop over the roots of a resync, up to its next yield. -/
def resyncFrom (t : Tree) : InotifyBackend → List Str → Paused
  | b, [] => ⟨b, .reading, none⟩
  | b, root :: roots =>
    match (b.walkAddWatches t root).2 with
    | [] => resyncFrom t (b.walkAddWatches t root).1 roots
    | event :: rest => ⟨(b.walkAddWatches t root).1, .yielded rest roots, some event⟩

/-- The loops over the events of a walk and over the roots that are left, up to the next yield. -/
def yieldRest (t : Tree) (b : InotifyBackend) : List FsEvent → List Str → Paused
  | [], roots => b.resyncFrom t roots
  | event :: rest, roots => ⟨b, .yielded rest roots, some event⟩

/-- `events` from its read on, up to its next suspension. -/
def receive (t : Tree) (b : InotifyBackend) (event : RawEvent) : Paused :=
  if event.mask &&& IN_Q_OVERFLOW ≠ 0 then b.resyncFrom t (b.roots.insertionSort (· ≤ ·))
  else
    match event.path with
    | none => ⟨b, .reading, none⟩
    | some pathObj =>
      let path := normalizePath pathObj
      if b.isIgnored path then ⟨b, .reading, none⟩
      else
        match maskToEventType event.mask with
        | none => ⟨b, .reading, none⟩
        | some eventType =>
          let isDir := maskIsDir event.mask
          if isDir && (eventType == .created || eventType == .movedTo) then
            -- the directory is yielded first, and walked when the consumer comes back
            ⟨b, .announced path, some ⟨path, eventType, true⟩⟩
          else if isDir && (eventType == .deleted || eventType == .movedFrom) then
            -- the watches go before the yield
            ⟨b.removeWatchTree path, .yielded [] [], some ⟨path, eventType, true⟩⟩
          else ⟨b, .yielded [] [], some ⟨path, eventType, isDir⟩⟩

/-- `events` from a yield on, up to its next suspension. -/
def resume (t : Tree) (b : InotifyBackend) : Suspension → Option Paused
  | .reading => none
  | .announced path =>
    some ((b.walkAddWatches t path).1.yieldRest t (b.walkAddWatches t path).2 [])
  | .yielded rest roots => some (b.yieldRest t rest roots)

/-- The generator is resumed until it reads again, nothing else runs, and these events are
yielded. -/
inductive Runs (t : Tree) : Paused → List FsEvent → InotifyBackend → Prop
  | reads (b : InotifyBackend) : Runs t ⟨b, .reading, none⟩ [] b
  | resumes {p p' : Paused} {out : List FsEvent} {b : InotifyBackend} :
      p.backend.resume t p.suspension = some p' → Runs t p' out b →
      Runs t p (p.event.toList ++ out) b

variable {t : Tree} {b b' : InotifyBackend}

/-- The round of the loop in `resync`. -/
def resyncRound (t : Tree) (acc : InotifyBackend × List FsEvent) (root : Str) :
    InotifyBackend × List FsEvent :=
  ((acc.1.walkAddWatches t root).1, acc.2 ++ (acc.1.walkAddWatches t root).2)

/-- The events that are there already stay in front. -/
lemma foldl_resyncRound (roots : List Str) (b : InotifyBackend) (out : List FsEvent) :
    roots.foldl (resyncRound t) (b, out) =
      ((roots.foldl (resyncRound t) (b, [])).1,
        out ++ (roots.foldl (resyncRound t) (b, [])).2) := by
  induction roots generalizing b out with
  | nil => rw [List.foldl_nil, List.foldl_nil, List.append_nil]
  | cons root roots ih =>
    rw [List.foldl_cons, List.foldl_cons, resyncRound, resyncRound, ih, ih _ ([] ++ _),
      List.nil_append, List.append_assoc]

lemma resyncFrom_cons (root : Str) (roots : List Str) :
    b.resyncFrom t (root :: roots) =
      (b.walkAddWatches t root).1.yieldRest t (b.walkAddWatches t root).2 roots := by
  rw [resyncFrom]
  cases (b.walkAddWatches t root).2 with
  | nil => rfl
  | cons event rest => rfl

/-- The events of a walk are yielded one after the other. -/
lemma runs_yieldRest {roots : List Str} {out : List FsEvent}
    (h : Runs t (b.resyncFrom t roots) out b') (rest : List FsEvent) :
    Runs t (b.yieldRest t rest roots) (rest ++ out) b' := by
  induction rest with
  | nil => exact h
  | cons event rest ih =>
    have hresume : b.resume t (.yielded rest roots) = some (b.yieldRest t rest roots) := rfl
    exact .resumes (p := ⟨b, .yielded rest roots, some event⟩) hresume ih

/-- The roots are walked one after the other. -/
lemma runs_resyncFrom (roots : List Str) (b : InotifyBackend) :
    Runs t (b.resyncFrom t roots) (roots.foldl (resyncRound t) (b, [])).2
      (roots.foldl (resyncRound t) (b, [])).1 := by
  induction roots generalizing b with
  | nil => exact .reads b
  | cons root roots ih =>
    rw [resyncFrom_cons, List.foldl_cons, foldl_resyncRound]
    exact runs_yieldRest (ih _) _

/-- At a yield after which nothing is left. -/
lemma runs_single (event : FsEvent) : Runs t ⟨b, .yielded [] [], some event⟩ [event] b := by
  have hresume : b.resume t (.yielded [] []) = some ⟨b, .reading, none⟩ := rfl
  exact .resumes (p := ⟨b, .yielded [] [], some event⟩) hresume (.reads b)

/-- At the yield of an arrived directory, whose walk comes next. -/
lemma runs_announced (path : Str) (event : FsEvent) :
    Runs t ⟨b, .announced path, some event⟩ (event :: (b.walkAddWatches t path).2)
      (b.walkAddWatches t path).1 := by
  have hend : Runs t ((b.walkAddWatches t path).1.resyncFrom t []) [] _ := .reads _
  have hrest := runs_yieldRest hend (b.walkAddWatches t path).2
  rw [List.append_nil] at hrest
  exact .resumes (p := ⟨b, .announced path, some event⟩) rfl hrest

/-- A generator that is left alone after a read does what `handle` does. -/
theorem runs_handle (t : Tree) (b : InotifyBackend) (event : RawEvent) :
    Runs t (b.receive t event) (b.handle t event).2 (b.handle t event).1 := by
  rw [receive, handle]
  split
  · exact runs_resyncFrom _ b
  · cases event.path with
    | none => exact .reads b
    | some pathObj =>
      dsimp only
      cases b.isIgnored (normalizePath pathObj) with
      | true => exact .reads b
      | false =>
        cases maskToEventType event.mask with
        | none => exact .reads b
        | some eventType =>
          cases maskIsDir event.mask with
          | false => exact runs_single _
          | true =>
            cases eventType with
            | created => exact runs_announced _ _
            | movedTo => exact runs_announced _ _
            | deleted => exact runs_single _
            | movedFrom => exact runs_single _

/-- `p` is at or below `root`, which may end in a separator. -/
def within (root p : Str) : Bool :=
  p == root || startsWith p (join root [])

/-- Every directory that a walk of `path` finds now is at or below one of the roots. -/
def Contained (t : Tree) (b : InotifyBackend) (roots : List Str) (path : Str) : Prop :=
  ∀ l ∈ walk t b.enters t.height path, b.isIgnored (normalizePath l.dirpath) = false →
    ∃ root ∈ roots, within root (normalizePath l.dirpath) = true

instance (t : Tree) (b : InotifyBackend) (roots : List Str) (path : Str) :
    Decidable (Contained t b roots path) :=
  inferInstanceAs (Decidable (∀ l ∈ walk t b.enters t.height path,
    b.isIgnored (normalizePath l.dirpath) = false →
      ∃ root ∈ roots, within root (normalizePath l.dirpath) = true))

/-- The walks of a resync up to its next yield are contained in the current roots. -/
def ResyncContained (t : Tree) : InotifyBackend → List Str → Prop
  | _, [] => True
  | b, root :: roots => Contained t b b.roots root ∧
      ((b.walkAddWatches t root).2 = [] → ResyncContained t (b.walkAddWatches t root).1 roots)

instance decidableResyncContained (t : Tree) :
    (b : InotifyBackend) → (roots : List Str) → Decidable (ResyncContained t b roots)
  | _, [] => isTrue trivial
  | b, root :: roots =>
    have := decidableResyncContained t (b.walkAddWatches t root).1 roots
    inferInstanceAs (Decidable (Contained t b b.roots root ∧
      ((b.walkAddWatches t root).2 = [] → ResyncContained t (b.walkAddWatches t root).1 roots)))

/-- The roots that `set_roots` drops. -/
def dropped (b : InotifyBackend) (roots : List Str) : List Str :=
  b.roots.filter (· ∉ newRoots roots)

/-- A dropped root that ends in a separator leaves no watch that no new root contains. -/
def Drops (b : InotifyBackend) (roots : List Str) : Prop :=
  ∀ gone ∈ b.dropped roots, join gone [] = gone → ∀ p ∈ b.watches.keys, within gone p = true →
    (∃ other ∈ b.dropped roots, atOrUnder other p = true) ∨
      ∃ root ∈ newRoots roots, within root p = true

instance (b : InotifyBackend) (roots : List Str) : Decidable (b.Drops roots) :=
  inferInstanceAs (Decidable (∀ gone ∈ b.dropped roots, join gone [] = gone →
    ∀ p ∈ b.watches.keys, within gone p = true →
      (∃ other ∈ b.dropped roots, atOrUnder other p = true) ∨
        ∃ root ∈ newRoots roots, within root p = true))

/-- Every watch is at or below a current root. -/
def Rooted (b : InotifyBackend) : Prop :=
  ∀ p ∈ b.watches, ∃ root ∈ b.roots, within root p = true

lemma mem_attached {path p : Str} : p ∈ attached t b path ↔
    ∃ l ∈ walk t b.enters t.height path, normalizePath l.dirpath = p ∧ b.isIgnored p = false := by
  simp only [attached, List.mem_filter, List.mem_map, Bool.not_eq_true']
  constructor
  · rintro ⟨⟨l, hl, hp⟩, hi⟩
    exact ⟨l, hl, hp, hi⟩
  · rintro ⟨l, hl, hp, hi⟩
    exact ⟨⟨l, hl, hp⟩, hi⟩

/-- What a contained walk attaches. -/
lemma Contained.attached {roots : List Str} {path p : Str} (h : Contained t b roots path)
    (hp : p ∈ attached t b path) : ∃ root ∈ roots, within root p = true := by
  obtain ⟨l, hl, rfl, hi⟩ := mem_attached.1 hp
  exact h l hl hi

/-- A contained walk keeps the watches within the roots. -/
lemma Rooted.walk {path : Str} (h : b.Rooted) (hc : Contained t b b.roots path) :
    (b.walkAddWatches t path).1.Rooted := by
  intro p hp
  rw [(walkAddWatches_grows b path).roots]
  rcases mem_walkAddWatches.1 hp with hp | ⟨hp, -⟩
  · exact h p hp
  · exact hc.attached hp

lemma Rooted.removeWatchTree (h : b.Rooted) (path : Str) : (b.removeWatchTree path).Rooted := by
  intro p hp
  rw [removeWatchTree_roots]
  exact h p (mem_removeWatchTree.1 hp).1

lemma Rooted.resyncFrom {roots : List Str} (h : b.Rooted) (hc : ResyncContained t b roots) :
    (b.resyncFrom t roots).backend.Rooted := by
  induction roots generalizing b with
  | nil => exact h
  | cons root roots ih =>
    have hwalk := h.walk hc.1
    rw [InotifyBackend.resyncFrom]
    split
    · next hnil => exact ih hwalk (hc.2 hnil)
    · exact hwalk

lemma Rooted.yieldRest {rest : List FsEvent} {roots : List Str} (h : b.Rooted)
    (hc : rest = [] → ResyncContained t b roots) : (b.yieldRest t rest roots).backend.Rooted := by
  cases rest with
  | nil => exact h.resyncFrom (hc rfl)
  | cons event rest => exact h

/-- A read attaches nothing but a resync. -/
lemma Rooted.receive {event : RawEvent} (h : b.Rooted)
    (hc : event.mask &&& IN_Q_OVERFLOW ≠ 0 →
      ResyncContained t b (b.roots.insertionSort (· ≤ ·))) :
    (b.receive t event).backend.Rooted := by
  rw [InotifyBackend.receive]
  split
  · next ho => exact h.resyncFrom (hc ho)
  · cases event.path with
    | none => exact h
    | some pathObj =>
      dsimp only
      split
      · exact h
      · split
        · exact h
        · split
          · exact h
          · split
            · exact h.removeWatchTree _
            · exact h

/-- A root that does not end in a separator is dropped with everything at or below it. -/
lemma atOrUnder_of_within {root p : Str} (hr : join root [] ≠ root) (h : within root p = true) :
    atOrUnder root p = true := by
  have hj : join root [] = root ++ [sep] := by
    unfold join at hr ⊢
    split at hr
    · next hs => cases hs
    · split at hr
      · exact (hr (List.append_nil root)).elim
      · next hs =>
        rw [if_neg hs]
        rfl
  rw [within, hj] at h
  exact h

lemma Rooted.setRoots {roots : List Str} (h : b.Rooted) (hd : b.Drops roots)
    (hc : ∀ added ∈ (newRoots roots).filter (· ∉ b.roots), b.isIgnored added = false →
      Contained t b (newRoots roots) added) : (b.setRoots t roots).Rooted := by
  intro p hp
  rw [setRoots_roots]
  rcases (mem_setRoots roots p).1 hp with ⟨hp, hkept⟩ | ⟨root, hr, -, hi, ha, -⟩
  · obtain ⟨root, hr, hw⟩ := h p hp
    by_cases hn : root ∈ newRoots roots
    · exact ⟨root, hn, hw⟩
    · -- its root is dropped, and the watch is still there
      have hgone : root ∈ b.dropped roots := List.mem_filter.2 ⟨hr, decide_eq_true hn⟩
      by_cases hj : join root [] = root
      · rcases hd root hgone hj p hp hw with ⟨other, ho, hu⟩ | hnew
        · exact (Bool.false_ne_true ((hkept other ho).symm.trans hu)).elim
        · exact hnew
      · have hu := atOrUnder_of_within hj hw
        exact (Bool.false_ne_true ((hkept root hgone).symm.trans hu)).elim
  · exact (hc root hr hi).attached ha

/-- A path stays within a root further down. -/
lemma within_render {root : Str} {d p : List Name} (h : within root (render d) = true)
    (hp : d <+: p) : within root (render p) = true := by
  rw [within, Bool.or_eq_true, beq_iff_eq, startsWith_iff] at h ⊢
  rcases h with rfl | h
  · by_cases he : p = d
    · exact .inl (by rw [he])
    · right
      cases d with
      | nil => exact startsWith_iff.1 (isabs_render p)
      | cons n d =>
        have hne : n :: d ≠ [] := List.cons_ne_nil n d
        have hj : join (render (n :: d)) [] = render (n :: d) ++ [sep] := by
          have hends : endsWithChar (render (n :: d)) sep = false := endsWithChar_render hne
          have hnil : render (n :: d) ≠ [] := List.cons_ne_nil _ _
          rw [join, if_neg (by decide), if_neg (by simp [hends, hnil])]
        rw [hj]
        exact startsWith_iff.1 ((startsWith_render hne).2 ⟨hp, Ne.symm he⟩)
  · right
    apply h.trans
    obtain ⟨s, rfl⟩ := hp
    cases d with
    | nil => exact startsWith_iff.1 (isabs_render ([] ++ s))
    | cons n d => exact ⟨s.flatMap fun m => sep :: m.val, by simp [render]⟩

/-- Where the texts below are plain, a walk is contained when its path is, or is no directory. -/
theorem contained_render {roots : List Str} {d : List Name}
    (hshown : b.isIgnored (render d) = false)
    (hplain : ∀ p, d <+: p → t.isDir p = true → b.isIgnored (render p) = false → Plain p) :
    Contained t b roots (render d) ↔
      (t.isDir d = true → ∃ root ∈ roots, within root (render d) = true) := by
  constructor
  · intro h hd
    apply h.attached
    exact (mem_attached_render hshown hplain).2 ⟨d, List.prefix_rfl, hd, hshown, rfl⟩
  · intro h l hl hi
    obtain ⟨p, hp, hd, -, hx⟩ := (mem_attached_render hshown hplain).1
      (mem_attached.2 ⟨l, hl, rfl, hi⟩)
    obtain ⟨root, hr, hw⟩ := h (FileTree.isDir_above' hd hp)
    rw [hx]
    exact ⟨root, hr, within_render hw hp⟩

end InotifyBackend

/-- A file system with a backend, and the suspension of its generator. -/
structure Stream where
  world : World
  suspension : Suspension

namespace Stream

inductive Act
  /-- A process changes the file system. -/
  | op (o : FsOp)
  /-- The engine replaces the roots. -/
  | setRoots (roots : List Str)
  /-- The kernel drops an event. -/
  | lose (i : Nat)
  /-- The kernel reports that it has dropped events. -/
  | overflow
  /-- The read returns the oldest event. -/
  | read
  /-- The consumer has handled an event and asks for the next one. -/
  | resume

/-- A backend without roots whose generator has begun. -/
def start (t : Tree) (ignoreDirs : List Str) : Stream :=
  ⟨⟨t, init ignoreDirs, []⟩, .reading⟩

def step (s : Stream) : Act → Option Stream
  | .op o => (s.world.step (.op o)).map fun w => { s with world := w }
  | .setRoots roots => (s.world.step (.setRoots roots)).map fun w => { s with world := w }
  | .lose i => (s.world.step (.lose i)).map fun w => { s with world := w }
  | .overflow => (s.world.step .overflow).map fun w => { s with world := w }
  | .read =>
    match s.suspension, s.world.queue with
    | .reading, e :: queue =>
      let p := s.world.backend.receive s.world.tree (rawEvent s.world.backend.inotify e)
      some ⟨⟨s.world.tree, p.backend, queue⟩, p.suspension⟩
    | _, _ => none
  | .resume =>
    (s.world.backend.resume s.world.tree s.suspension).map fun p =>
      ⟨⟨s.world.tree, p.backend, s.world.queue⟩, p.suspension⟩

/-- The walks that the generator begins when it is resumed are contained in the current roots. -/
def ResumeContained (w : World) : Suspension → Prop
  | .announced path => Contained w.tree w.backend w.backend.roots path
  | .yielded [] roots => ResyncContained w.tree w.backend roots
  | _ => True

instance (w : World) : (sus : Suspension) → Decidable (ResumeContained w sus)
  | .reading => isTrue trivial
  | .announced path =>
    inferInstanceAs (Decidable (Contained w.tree w.backend w.backend.roots path))
  | .yielded [] roots => inferInstanceAs (Decidable (ResyncContained w.tree w.backend roots))
  | .yielded (_ :: _) _ => isTrue trivial

/-- A walk begins only where the roots are that are then current, and a dropped root leaves no watch
behind. -/
def Current (s : Stream) : Act → Prop
  | .setRoots roots => s.world.backend.Drops roots ∧
      ∀ added ∈ (newRoots roots).filter (· ∉ s.world.backend.roots),
        s.world.backend.isIgnored added = false →
          Contained s.world.tree s.world.backend (newRoots roots) added
  | .read => .overflow ∈ s.world.queue.head? →
      ResyncContained s.world.tree s.world.backend
        (s.world.backend.roots.insertionSort (· ≤ ·))
  | .resume => ResumeContained s.world s.suspension
  | _ => True

instance (s : Stream) : (a : Act) → Decidable (Current s a)
  | .op _ => isTrue trivial
  | .setRoots roots => inferInstanceAs (Decidable (s.world.backend.Drops roots ∧
      ∀ added ∈ (newRoots roots).filter (· ∉ s.world.backend.roots),
        s.world.backend.isIgnored added = false →
          Contained s.world.tree s.world.backend (newRoots roots) added))
  | .lose _ => isTrue trivial
  | .overflow => isTrue trivial
  | .read => inferInstanceAs (Decidable (.overflow ∈ s.world.queue.head? →
      ResyncContained s.world.tree s.world.backend
        (s.world.backend.roots.insertionSort (· ≤ ·))))
  | .resume => inferInstanceAs (Decidable (ResumeContained s.world s.suspension))

variable {s s' : Stream} {a : Act} {t : Tree} {ign : List Str}

/-- Only an overflow report has the overflow bit. -/
lemma eq_overflow {k : Kernel} {e : Queued} (h : (rawEvent k e).mask &&& IN_Q_OVERFLOW ≠ 0) :
    e = .overflow := by
  cases e with
  | entry wd kind isDir name => exact (h (not_overflow kind isDir)).elim
  | overflow => rfl

lemma rooted_step (h : s.world.backend.Rooted) (hg : Current s a) (hs : step s a = some s') :
    s'.world.backend.Rooted := by
  cases a with
  | op o =>
    obtain ⟨w, hw, rfl⟩ := Option.map_eq_some_iff.1 hs
    obtain ⟨t', -, rfl⟩ := Option.map_eq_some_iff.1 hw
    exact h
  | setRoots roots =>
    cases hs
    exact h.setRoots hg.1 hg.2
  | lose i =>
    cases hs
    exact h
  | overflow =>
    cases hs
    exact h
  | read =>
    rw [step] at hs
    split at hs
    · next e queue _ hq =>
      cases hs
      refine h.receive fun ho => hg ?_
      rw [hq, eq_overflow ho]
      rfl
    · cases hs
  | resume =>
    obtain ⟨p, hp, rfl⟩ := Option.map_eq_some_iff.1 hs
    cases hsus : s.suspension with
    | reading =>
      rw [hsus] at hp
      cases hp
    | announced path =>
      rw [hsus] at hp
      cases hp
      have hg : ResumeContained s.world s.suspension := hg
      rw [hsus] at hg
      exact (h.walk hg).yieldRest fun _ => trivial
    | yielded rest roots =>
      rw [hsus] at hp
      cases hp
      have hg : ResumeContained s.world s.suspension := hg
      rw [hsus] at hg
      refine h.yieldRest fun hnil => ?_
      subst hnil
      exact hg

/-- While every walk begins at or below a root that is then current, no watch outlives its root;
without roots there is no watch. -/
theorem no_watch_outlives_root (h : Reach step Current (start t ign) s) :
    (∀ p ∈ s.world.backend.watches,
      ∃ root ∈ s.world.backend.roots, within root p = true) ∧
    (s.world.backend.roots = [] → ∀ p, p ∉ s.world.backend.watches) := by
  have hrooted : s.world.backend.Rooted :=
    h.invariant (fun p hp => (by cases hp)) fun hu hg hs => rooted_step hu hg hs
  refine ⟨hrooted, fun hnone p hp => ?_⟩
  obtain ⟨root, hr, -⟩ := hrooted p hp
  rw [hnone] at hr
  cases hr

/-- The watcher is parked while the events of a resync are yielded, and the generator goes on. -/
theorem no_watch_outlives_root_parked :
    ∃ s, run (guarded step Current) (start libraryTree [])
        [.setRoots ["/m".toList], .op (.make true [name "m"] (name "t")), .read, .resume,
          .overflow, .read, .setRoots [], .resume, .resume] = some s ∧
      s.world.backend.roots = [] ∧ ∀ p, p ∉ s.world.backend.watches := by
  have hrun : run (guarded step Current) (start libraryTree [])
      [.setRoots ["/m".toList], .op (.make true [name "m"] (name "t")), .read, .resume,
        .overflow, .read, .setRoots [], .resume, .resume] = some _ := rfl
  exact ⟨_, hrun, rfl, (no_watch_outlives_root (Reach.of_run hrun)).2 rfl⟩

/-- A directory arrives, the watcher is parked, and the walk of the directory attaches it. -/
theorem watch_outlives_root :
    ¬ ∀ (t : Tree) (ign : List Str) (acts : List Act) (s : Stream),
      run step (start t ign) acts = some s →
      (∀ p ∈ s.world.backend.watches,
        ∃ root ∈ s.world.backend.roots, within root p = true) ∧
      (s.world.backend.roots = [] → ∀ p, p ∉ s.world.backend.watches) := by
  intro h
  have hrun : run step (start libraryTree [])
      [.setRoots ["/m".toList], .op (.make true [name "m"] (name "t")), .setRoots [], .read,
        .resume] = some _ := rfl
  exact (h libraryTree [] _ _ hrun).2 rfl "/m/t".toList (by decide)

end Stream
end MediaScanMonitor
