import MediaScanMonitor.Pipeline.Router
import MediaScanMonitor.Watcher.System

/-!
# Directory moves, from the kernel to the router

A directory with files in it is renamed out of the watched tree or into it. The kernel reports the
one name; what the backend yields for the report is routed. A directory moved out yields one event,
its own; a directory moved in yields its own and `created` events for what the walk finds below it.
-/

namespace MediaScanMonitor
open Text PosixPath Os Inotify Transition

namespace InotifyBackend
variable {t : Tree} {b : InotifyBackend}

/-- What the backend yields for a report. -/
lemma handle_rawEvent_yields {k : Kernel} {wd : Wd} {kind : Kind} {isDir : Bool} {n : Name} {x : Str}
    (hx : k.path wd = some x) : (b.handle t (rawEvent k (.entry wd kind isDir n))).2 =
      if b.isIgnored (normalizePath (join x n.val)) then []
      else ⟨normalizePath (join x n.val), kindEventType kind, isDir⟩ ::
        if isDir && !kind.removes then
          (b.walkAddWatches t (normalizePath (join x n.val))).2
        else [] := by
  rw [InotifyBackend.handle, rawEvent, if_neg (by simp [not_overflow]), hx]
  simp only [Option.map_some, maskIsDir_mask, maskToEventType_mask]
  cases hi : b.isIgnored (normalizePath (join x n.val)) <;> cases isDir <;> cases kind <;> rfl

end InotifyBackend

namespace World

/-- The events that the backend yields for the oldest report. -/
def yields (s : World) : List FsEvent :=
  match s.queue with
  | [] => []
  | e :: _ => (s.backend.handle s.tree (rawEvent s.backend.inotify e)).2

/-- The directory is watched, and its reports are delivered under its path. -/
def Watched (s : World) (q : List Name) : Prop :=
  ∃ wd, s.backend.inotify.liveAt s.tree q = some wd ∧ s.backend.inotify.path wd = some (render q)

/-- A rename from `q` to `q'` leaves the watched tree. -/
def MovesOut (s : World) (q q' : List Name) : Prop :=
  s.Watched q ∧ s.backend.inotify.liveAt s.tree q' = none

/-- A rename from `q` to `q'` enters the watched tree. -/
def MovesIn (s : World) (q q' : List Name) : Prop :=
  s.backend.inotify.liveAt s.tree q = none ∧ s.Watched q'

/-- `os.walk` of `x` finds an entry, in a directory that is not ignored, whose path is reported as
`y`. -/
def Finds (s : World) (x y : Str) : Prop :=
  ∃ l ∈ walk s.tree s.backend.enters s.tree.height x,
    s.backend.isIgnored (normalizePath l.dirpath) = false ∧
      (y = normalizePath l.dirpath ∨ ∃ n ∈ l.filenames, y = normalizePath (join l.dirpath n.val))

/-- The route is notified by what the backend yields. -/
def Notifies (s : World) (lower : Str → Str) (config : RuntimeConfig) (r : FolderRoute) : Prop :=
  ∃ e ∈ s.yields, ∃ req ∈ route lower e config, requestFor lower e r = some req

/-- A regular file. -/
def IsFile (t : Tree) (p : List Name) : Prop :=
  ∃ i, t.node p = some ⟨false, i⟩

variable {s s' : World} {lower : Str → Str} {config : RuntimeConfig} {r : FolderRoute}
  {q q' : List Name} {n n' : Name}

/-- The route is notified when it matches an event. -/
lemma notifies_iff (hr : r ∈ config.routes) :
    s.Notifies lower config r ↔ ∃ e ∈ s.yields, Matches lower config r e := by
  refine exists_congr fun e => and_congr_right fun _ => ?_
  constructor
  · rintro ⟨req, hreq, hfor⟩
    obtain ⟨⟨h1, h2, h3⟩, rfl⟩ := requestFor_eq_some.1 hfor
    obtain ⟨-, -, ⟨⟨hi, -, -⟩, -⟩, -⟩ := mem_route.1 hreq
    exact ⟨⟨hi, h1, h2⟩, h3⟩
  · intro hm
    exact ⟨_, mem_route.2 ⟨r, hr, hm, rfl⟩,
      requestFor_eq_some.2 ⟨⟨hm.1.2.1, hm.1.2.2, hm.2⟩, rfl⟩⟩

/-- The kernel reports a directory that leaves the watched tree to its parent, and nothing else. -/
lemma yields_movesOut (hidle : s.queue = []) (hdir : s.tree.isDir (q ++ [n]) = true)
    (hs : step s (.op (.rename q n q' n')) = some s') (h : s.MovesOut q q') :
    s'.yields = if s.backend.isIgnored (normalizePath (render (q ++ [n]))) then []
      else [⟨normalizePath (render (q ++ [n])), .movedFrom, true⟩] := by
  obtain ⟨t', -, rfl⟩ := Option.map_eq_some_iff.1 hs
  obtain ⟨⟨wd, hwd, hpath⟩, hout⟩ := h
  have hq : s.queue ++ (FsOp.rename q n q' n').events s.backend.inotify s.tree =
      [.entry wd .movedFrom true n] := by
    simp only [hidle, FsOp.events, Kernel.report, hwd, hout, hdir]
    rfl
  rw [yields, hq]
  simp only
  rw [InotifyBackend.handle_rawEvent_yields (by rw [op_path]; exact hpath), join_render]
  rfl

/-- The kernel reports a directory that enters the watched tree to its new parent; the backend
yields an event for it and the events of a walk. -/
lemma yields_movesIn (hidle : s.queue = []) (hdir : s.tree.isDir (q ++ [n]) = true)
    (hs : step s (.op (.rename q n q' n')) = some s') (h : s.MovesIn q q') :
    s'.yields = if s.backend.isIgnored (normalizePath (render (q' ++ [n']))) then []
      else ⟨normalizePath (render (q' ++ [n'])), .movedTo, true⟩ ::
        (s'.backend.walkAddWatches s'.tree (normalizePath (render (q' ++ [n'])))).2 := by
  obtain ⟨t', -, rfl⟩ := Option.map_eq_some_iff.1 hs
  obtain ⟨hin, wd, hwd, hpath⟩ := h
  have hq : s.queue ++ (FsOp.rename q n q' n').events s.backend.inotify s.tree =
      [.entry wd .movedTo true n'] := by
    simp only [hidle, FsOp.events, Kernel.report, hwd, hin, hdir]
    rfl
  rw [yields, hq]
  simp only
  rw [InotifyBackend.handle_rawEvent_yields (by rw [op_path]; exact hpath), join_render]
  rfl

/-- What a walk of `x` yields are `created` events for what is found, apart from `x` itself. -/
lemma mem_walk_yields {x : Str} {e : FsEvent} :
    e ∈ (s.backend.walkAddWatches s.tree x).2 → e.eventType = .created ∧ s.Finds x e.path := by
  rw [InotifyBackend.walkAddWatches_eq]
  intro he
  obtain ⟨l, hl, he⟩ := List.mem_flatMap.1 he
  obtain ⟨hl, hi⟩ := List.mem_filter.1 hl
  rw [Bool.not_eq_true'] at hi
  rw [InotifyBackend.synthetic, List.mem_append] at he
  rcases he with he | he
  · split at he
    · rw [List.mem_singleton] at he
      subst he
      exact ⟨rfl, l, hl, hi, .inl rfl⟩
    · cases he
  · obtain ⟨m, hm, rfl⟩ := List.mem_map.1 he
    exact ⟨rfl, l, hl, hi, .inr ⟨m, hm, rfl⟩⟩

/-- Whatever is found, apart from `x` itself, has its event. -/
lemma finds_yields {x y : Str} (h : s.Finds x y) (hy : y ≠ x) :
    ∃ e ∈ (s.backend.walkAddWatches s.tree x).2, e.path = y ∧ e.eventType = .created := by
  rw [InotifyBackend.walkAddWatches_eq]
  obtain ⟨l, hl, hi, h⟩ := h
  have hl' : l ∈ (walk s.tree s.backend.enters s.tree.height x).filter
      fun l => !s.backend.isIgnored (normalizePath l.dirpath) :=
    List.mem_filter.2 ⟨hl, by rw [hi]; rfl⟩
  rcases h with rfl | ⟨m, hm, rfl⟩
  · refine ⟨⟨_, .created, true⟩, List.mem_flatMap.2 ⟨l, hl', ?_⟩, rfl, rfl⟩
    rw [InotifyBackend.synthetic, if_pos hy]
    exact List.mem_append_left _ List.mem_cons_self
  · refine ⟨⟨_, .created, false⟩, List.mem_flatMap.2 ⟨l, hl', ?_⟩, rfl, rfl⟩
    exact List.mem_append_right _ (List.mem_map_of_mem hm)

/-- Where `normalize_path` leaves the texts of directories alone, the walk finds every file that lies
in no ignored directory. -/
theorem finds_file {d x : List Name} {m : Name}
    (hplain : ∀ p, d <+: p → s.tree.isDir p = true → s.Shown p → Plain p) (hdx : d <+: x)
    (hfile : IsFile s.tree (x ++ [m])) (hshown : s.Shown x) :
    s.Finds (render d) (normalizePath (render (x ++ [m]))) := by
  obtain ⟨i, hi⟩ := hfile
  obtain ⟨j, hj⟩ := s.tree.parent hi
  have hdir : s.tree.isDir x = true := FileTree.isDir_iff.2 ⟨j, hj⟩
  have hpx := hplain x hdx hdir hshown
  obtain ⟨y, rfl⟩ := hdx
  have hlen : y.length < s.tree.height := by
    have h := FileTree.length_lt_height hj
    rw [List.length_append] at h
    omega
  refine ⟨_,
    (mem_walk (resolve_render d)).2
      ⟨y, hlen, (InotifyBackend.shown_append.1 hshown).2, hdir, rfl⟩, ?_, .inr ⟨m, ?_, ?_⟩⟩
  · rw [joinAll_render, hpx]
    exact hshown
  · refine List.mem_filter.2 ⟨FileTree.mem_children.2 (by rw [hi]; rfl), ?_⟩
    rw [FileTree.isDir, hi]
    rfl
  · rw [joinAll_render, join_render]

/-- The backend ignores what the filter ignores. -/
lemma isIgnored_backend (hign : config.ignoreDirs = s.backend.ignoreDirs) (path : Str) :
    s.backend.isIgnored path = isIgnored path config.ignoreDirs := by
  rw [isIgnored_eq, hign]
  rfl

/-- A route that one file of a moved directory would notify is notified of the move if and only if,
on the way out, it admits the path of the directory itself; on the way in it admits that path, or it
is subscribed to `created` events and admits something that the walk finds. -/
theorem directory_move_notifies_iff (hr : r ∈ config.routes)
    (hign : config.ignoreDirs = s.backend.ignoreDirs) (hidle : s.queue = [])
    (hdir : s.tree.isDir (q ++ [n]) = true)
    (hs : step s (.op (.rename q n q' n')) = some s') :
    (s.MovesOut q q' → ∀ f, q ++ [n] <+: f → IsFile s.tree f →
      Matches lower config r ⟨normalizePath (render f), .movedFrom, false⟩ →
      (s'.Notifies lower config r ↔ Admits lower config r (normalizePath (render (q ++ [n]))))) ∧
    (s.MovesIn q q' → ∀ f, q' ++ [n'] <+: f → IsFile s'.tree f →
      Matches lower config r ⟨normalizePath (render f), .movedTo, false⟩ →
      (s'.Notifies lower config r ↔
        Admits lower config r (normalizePath (render (q' ++ [n']))) ∨
          (isIgnored (normalizePath (render (q' ++ [n']))) config.ignoreDirs = false ∧
            .created ∈ r.eventTypes ∧ ∃ y, s'.Finds (normalizePath (render (q' ++ [n']))) y ∧
              Admits lower config r y))) := by
  constructor
  · rintro hout f - - ⟨-, htype⟩
    rw [notifies_iff hr, yields_movesOut hidle hdir hs hout, isIgnored_backend hign]
    constructor
    · rintro ⟨e, he, hm⟩
      split at he
      · cases he
      · obtain rfl := List.mem_singleton.1 he
        exact hm.1
    · intro ha
      rw [ha.1]
      exact ⟨_, List.mem_singleton.2 rfl, ha, htype⟩
  · rintro hin f - - ⟨-, htype⟩
    rw [notifies_iff hr, yields_movesIn hidle hdir hs hin, isIgnored_backend hign]
    generalize normalizePath (render (q' ++ [n'])) = x
    constructor
    · rintro ⟨e, he, hm⟩
      split at he
      · cases he
      · next hx =>
        rw [Bool.not_eq_true] at hx
        rcases List.mem_cons.1 he with rfl | he
        · exact .inl hm.1
        · obtain ⟨htype', hfind⟩ := mem_walk_yields he
          have hsub := hm.2
          rw [htype'] at hsub
          exact .inr ⟨hx, hsub, _, hfind, hm.1⟩
    · rintro (ha | ⟨hx, hsub, y, hfind, ha⟩)
      · rw [ha.1]
        exact ⟨_, List.mem_cons_self, ha, htype⟩
      · rw [hx]
        by_cases hy : y = x
        · subst hy
          exact ⟨_, List.mem_cons_self, ha, htype⟩
        · obtain ⟨e, he, rfl, hcreated⟩ := finds_yields hfind hy
          exact ⟨e, List.mem_cons_of_mem _ he, ha, by rw [hcreated]; exact hsub⟩

/-- A library with one series, and a directory beside it. -/
def seriesTree : Tree :=
  .ofList [(true, [], name "m"), (true, [name "m"], name "s"),
    (false, [name "m", name "s"], name "e.mkv"), (true, [], name "o")]

/-- A server that is to be told about video files. -/
def videoRoute : FolderRoute where
  serverId := 1
  serverName := "plex".toList
  path := "/m".toList
  extensions := ["mkv".toList]
  libraryId := some "1".toList
  scanMode := .targeted
  eventTypes := FsEventType.all

def videoConfig : RuntimeConfig := ⟨["/m".toList], [videoRoute], ∅, []⟩

/-- The series moves out of the library. -/
theorem directory_move_notifies_iff_out :
    ∃ s', step (start seriesTree [] [[name "m"]])
        (.op (.rename [name "m"] (name "s") [name "o"] (name "s"))) = some s' ∧
      (s'.Notifies lowerAscii videoConfig videoRoute ↔
        Admits lowerAscii videoConfig videoRoute (normalizePath (render [name "m", name "s"]))) := by
  have hs : step (start seriesTree [] [[name "m"]])
      (.op (.rename [name "m"] (name "s") [name "o"] (name "s"))) = some _ := rfl
  have hout : (start seriesTree [] [[name "m"]]).MovesOut [name "m"] [name "o"] :=
    ⟨⟨0, rfl, rfl⟩, rfl⟩
  have hr : videoRoute ∈ videoConfig.routes := by decide
  exact ⟨_, hs, (directory_move_notifies_iff hr rfl rfl (by decide) hs).1 hout
    [name "m", name "s", name "e.mkv"] (by decide) ⟨_, rfl⟩ (by decide)⟩

/-- A series with one episode leaves the library, and its server is not told: the name of the
directory has no video extension. -/
theorem directory_move_silent :
    ¬ ∀ (lower : Str → Str) (config : RuntimeConfig) (r : FolderRoute) (t : Tree)
      (R : List (List Name)) (q q' : List Name) (n n' : Name) (s' : World),
      r ∈ config.routes → t.isDir (q ++ [n]) = true →
      (start t config.ignoreDirs R).Shown (q ++ [n]) →
      isPathPrefix r.path (render (q ++ [n])) = true →
      step (start t config.ignoreDirs R) (.op (.rename q n q' n')) = some s' →
      (start t config.ignoreDirs R).MovesOut q q' → ∀ f, q ++ [n] <+: f → IsFile t f →
      Matches lower config r ⟨normalizePath (render f), .movedFrom, false⟩ →
      s'.Notifies lower config r := by
  intro h
  have hs : step (start seriesTree [] [[name "m"]])
      (.op (.rename [name "m"] (name "s") [name "o"] (name "s"))) = some _ := rfl
  have hout : (start seriesTree [] [[name "m"]]).MovesOut [name "m"] [name "o"] :=
    ⟨⟨0, rfl, rfl⟩, rfl⟩
  obtain ⟨e, he, req, hreq, -⟩ := h lowerAscii videoConfig videoRoute seriesTree [[name "m"]] _ _ _ _ _
    (by decide) (by decide) (by decide) (by decide) hs hout
    [name "m", name "s", name "e.mkv"] (by decide) ⟨_, rfl⟩ (by decide)
  rw [yields_movesOut rfl (by decide) hs hout, if_neg (by decide)] at he
  obtain rfl := List.mem_singleton.1 he
  have hnone : route lowerAscii
      ⟨normalizePath (render ([name "m"] ++ [name "s"])), .movedFrom, true⟩ videoConfig = [] := by
    decide
  rw [hnone] at hreq
  cases hreq

end World
end MediaScanMonitor
