import MediaScanMonitor.Pipeline.Debounce
import MediaScanMonitor.Pipeline.Moves
import MediaScanMonitor.Watcher.Generator
import MediaScanMonitor.Watcher.Resync

/-!
# Events that the kernel drops

The resync after a queue overflow emits `created` events for what its walks find. One of them stands
in for a dropped event when the router makes it a request with the key that the dropped event would
have had.
-/

namespace MediaScanMonitor
open Text PosixPath Os Inotify Transition

namespace InotifyBackend
variable {t : Tree} {b c : InotifyBackend}

/-- What a walk emits does not depend on the watches. -/
lemma walkAddWatches_congr (h : c.ignoreDirs = b.ignoreDirs) (root : Str) :
    (c.walkAddWatches t root).2 = (b.walkAddWatches t root).2 := by
  rw [walkAddWatches_eq, walkAddWatches_eq, enters_congr h]
  simp only [isIgnored_congr h]

/-- The resync emits what the walks of the roots emit. -/
lemma mem_resync {e : FsEvent} :
    e ∈ (b.resync t).2 ↔ ∃ root ∈ b.roots, e ∈ (b.walkAddWatches t root).2 := by
  have hfold : ∀ (roots : List Str) (c : InotifyBackend), c.ignoreDirs = b.ignoreDirs →
      (e ∈ (roots.foldl (resyncRound t) (c, [])).2 ↔
        ∃ root ∈ roots, e ∈ (b.walkAddWatches t root).2) := by
    intro roots
    induction roots with
    | nil =>
      intro c _
      constructor
      · intro he
        cases he
      · rintro ⟨_, hr, -⟩
        cases hr
    | cons root roots ih =>
      intro c hc
      have hnext : (c.walkAddWatches t root).1.ignoreDirs = b.ignoreDirs :=
        (walkAddWatches_ignoreDirs root).trans hc
      have hround : resyncRound t (c, []) root =
          ((c.walkAddWatches t root).1, (b.walkAddWatches t root).2) := by
        rw [resyncRound, List.nil_append, walkAddWatches_congr hc]
      rw [List.foldl_cons, hround, foldl_resyncRound, List.mem_append, ih _ hnext]
      simp only [List.mem_cons, exists_eq_or_imp]
  have hroots : (∃ root ∈ b.roots.insertionSort (· ≤ ·), e ∈ (b.walkAddWatches t root).2) ↔
      ∃ root ∈ b.roots, e ∈ (b.walkAddWatches t root).2 := by
    simp only [List.mem_insertionSort]
  exact (hfold _ b rfl).trans hroots

end InotifyBackend

/-- The two paths make requests of the route with the same key. -/
def FolderRoute.SameKey (r : FolderRoute) (path path' : Str) : Prop :=
  r.scanMode = .library ∨ (computeScanPath r.path path).1 = (computeScanPath r.path path').1

lemma request_key_eq_iff {r : FolderRoute} {e e' : FsEvent} :
    (r.request e).key = (r.request e').key ↔ r.SameKey e.path e'.path := by
  unfold FolderRoute.SameKey ScanRequest.key FolderRoute.request
  cases r.scanMode with
  | targeted =>
    constructor
    · intro h
      exact .inr (Prod.mk.inj h).2
    · rintro (h | h)
      · cases h
      · exact congrArg (Prod.mk r.serverId) h
  | library => exact ⟨fun _ => .inl rfl, fun _ => rfl⟩

namespace World
variable {s : World} {lower : Str → Str} {config : RuntimeConfig} {r : FolderRoute} {e : FsEvent}

/-- The walk of a root of the watcher finds an entry that is reported as `y`, in a directory that is
not ignored; the root itself is not reported. -/
def Reemits (s : World) (y : Str) : Prop :=
  ∃ root ∈ s.backend.roots, ∃ l ∈ walk s.tree s.backend.enters s.tree.height root,
    s.backend.isIgnored (normalizePath l.dirpath) = false ∧
      (y = normalizePath l.dirpath ∧ y ≠ root ∨
        ∃ n ∈ l.filenames, y = normalizePath (join l.dirpath n.val))

/-- What the backend yields next makes a request for the route with the key that the event would
have had. -/
def StandsIn (s : World) (lower : Str → Str) (config : RuntimeConfig) (r : FolderRoute)
    (e : FsEvent) : Prop :=
  ∃ e' ∈ s.yields, ∃ req ∈ route lower e' config, requestFor lower e' r = some req ∧
    req.key = (r.request e).key

lemma yields_overflow {q : List Queued} (hq : s.queue = .overflow :: q) :
    s.yields = (s.backend.resync s.tree).2 := by
  rw [yields, hq]
  dsimp only
  rw [handle_rawEvent_overflow]

/-- The resync emits `created` events, for what is found. -/
lemma reemits_of_mem (h : e ∈ (s.backend.resync s.tree).2) :
    e.eventType = .created ∧ s.Reemits e.path := by
  obtain ⟨root, hroot, he⟩ := InotifyBackend.mem_resync.1 h
  rw [InotifyBackend.walkAddWatches_eq] at he
  obtain ⟨l, hl, he⟩ := List.mem_flatMap.1 he
  obtain ⟨hl, hi⟩ := List.mem_filter.1 hl
  rw [Bool.not_eq_true'] at hi
  rcases List.mem_append.1 he with he | he
  · split at he
    · next hne =>
      cases List.mem_singleton.1 he
      exact ⟨rfl, root, hroot, l, hl, hi, .inl ⟨rfl, hne⟩⟩
    · cases he
  · obtain ⟨n, hn, rfl⟩ := List.mem_map.1 he
    exact ⟨rfl, root, hroot, l, hl, hi, .inr ⟨n, hn, rfl⟩⟩

lemma mem_of_reemits {y : Str} (h : s.Reemits y) :
    ∃ e ∈ (s.backend.resync s.tree).2, e.path = y ∧ e.eventType = .created := by
  obtain ⟨root, hroot, l, hl, hi, h⟩ := h
  have hshown : l ∈ (walk s.tree s.backend.enters s.tree.height root).filter
      fun l => !s.backend.isIgnored (normalizePath l.dirpath) :=
    List.mem_filter.2 ⟨hl, by rw [hi]; rfl⟩
  have hwalk : ∀ e ∈ InotifyBackend.synthetic root l, e ∈ (s.backend.resync s.tree).2 := by
    intro e he
    apply InotifyBackend.mem_resync.2
    refine ⟨root, hroot, ?_⟩
    rw [InotifyBackend.walkAddWatches_eq]
    exact List.mem_flatMap.2 ⟨l, hshown, he⟩
  rcases h with ⟨rfl, hne⟩ | ⟨n, hn, rfl⟩
  · refine ⟨⟨_, .created, true⟩, hwalk _ ?_, rfl, rfl⟩
    rw [InotifyBackend.synthetic, if_pos hne]
    exact List.mem_append_left _ List.mem_cons_self
  · refine ⟨⟨_, .created, false⟩, hwalk _ ?_, rfl, rfl⟩
    exact List.mem_append_right _ (List.mem_map_of_mem hn)

/-- At the report of an overflow, with any events dropped before, an event is stood in for exactly
when the route is subscribed to `created` events and the resync emits something that the route
admits, with the same key. -/
theorem overflow_stands_in_iff {q : List Queued} (hq : s.queue = .overflow :: q)
    (hr : r ∈ config.routes) (e : FsEvent) :
    s.StandsIn lower config r e ↔
      .created ∈ r.eventTypes ∧
        ∃ y, s.Reemits y ∧ Admits lower config r y ∧ r.SameKey y e.path := by
  rw [StandsIn, yields_overflow hq]
  constructor
  · rintro ⟨e', he', req, hreq, hfor, hkey⟩
    obtain ⟨htype, hy⟩ := reemits_of_mem he'
    obtain ⟨⟨hpre, hext, hsub⟩, rfl⟩ := requestFor_eq_some.1 hfor
    obtain ⟨-, -, ⟨⟨hi, -, -⟩, -⟩, -⟩ := mem_route.1 hreq
    rw [htype] at hsub
    exact ⟨hsub, e'.path, hy, ⟨hi, hpre, hext⟩, request_key_eq_iff.1 hkey⟩
  · rintro ⟨hsub, y, hy, hadmits, hkey⟩
    obtain ⟨e', he', rfl, htype⟩ := mem_of_reemits hy
    have hmatch : Matches lower config r e' := by
      refine ⟨hadmits, ?_⟩
      rw [htype]
      exact hsub
    refine ⟨e', he', r.request e', mem_route.2 ⟨r, hr, hmatch, rfl⟩, ?_, request_key_eq_iff.2 hkey⟩
    exact requestFor_eq_some.2 ⟨⟨hadmits.2.1, hadmits.2.2, hmatch.2⟩, rfl⟩

/-- The series of the library at the report that an event has been dropped. -/
def afterLoss (o : FsOp) : Option World :=
  run step (start seriesTree [] [[name "m"]]) [.op o, .lose 0, .overflow]

/-- The event that the backend would have yielded for the first report of a change. -/
def dropped (o : FsOp) : Option FsEvent :=
  (run step (start seriesTree [] [[name "m"]]) [.op o]).bind fun s => s.yields.head?

/-- An episode is added to the series, and its report is dropped. -/
theorem overflow_stands_in_iff_added :
    ∃ s e, afterLoss (.make false [name "m", name "s"] (name "f.mkv")) = some s ∧
      dropped (.make false [name "m", name "s"] (name "f.mkv")) = some e ∧
      (s.StandsIn lowerAscii videoConfig videoRoute e ↔
        .created ∈ videoRoute.eventTypes ∧ ∃ y, s.Reemits y ∧
          Admits lowerAscii videoConfig videoRoute y ∧ videoRoute.SameKey y e.path) := by
  have hloss : afterLoss (.make false [name "m", name "s"] (name "f.mkv")) = some _ := rfl
  have hdropped : dropped (.make false [name "m", name "s"] (name "f.mkv")) = some _ := rfl
  have hr : videoRoute ∈ videoConfig.routes := by decide
  exact ⟨_, _, hloss, hdropped, overflow_stands_in_iff rfl hr _⟩

/-- The only episode of the series is deleted, and its report is dropped: the server is not told. -/
theorem overflow_misses_deletion :
    ∃ s e, afterLoss (.remove [name "m", name "s"] (name "e.mkv")) = some s ∧
      dropped (.remove [name "m", name "s"] (name "e.mkv")) = some e ∧
      (∃ req ∈ route lowerAscii e videoConfig, requestFor lowerAscii e videoRoute = some req) ∧
      ¬ s.StandsIn lowerAscii videoConfig videoRoute e := by
  have hloss : afterLoss (.remove [name "m", name "s"] (name "e.mkv")) = some _ := rfl
  have hdropped : dropped (.remove [name "m", name "s"] (name "e.mkv")) = some _ := rfl
  refine ⟨_, _, hloss, hdropped, ⟨_, List.mem_singleton_self _, rfl⟩, ?_⟩
  rintro ⟨e', he', req, hreq, -⟩
  have hnone : ∀ e' ∈ ([⟨"/m/s".toList, .created, true⟩] : List FsEvent),
      route lowerAscii e' videoConfig = [] := by
    decide
  rw [hnone e' he'] at hreq
  cases hreq

end World
end MediaScanMonitor
