import MediaScanMonitor.Pipeline.Delivery
import MediaScanMonitor.Pipeline.Routing
import MediaScanMonitor.Pipeline.Windows
import MediaScanMonitor.Watcher.RealPaths

/-!
# A new directory below a root

A directory with all that it contains appears right below the root of a targeted route. The event of
the directory itself is one for the root, and what is inside is scanned under the directory: these are
two scan keys, and two triggers.
-/

namespace MediaScanMonitor
open Text PosixPath Os Inotify Transition

/-- The events of the creation of the directory `top` in `root`, with all that `t` has in it. Their
paths are the normalised ones of the entries. -/
inductive CreationEvent (t : Tree) (root : Str) (top : Name) : FsEvent → Prop
  /-- The directory is created there, or moved there. -/
  | top (eventType : FsEventType) : isdir t (join root top.val) = true →
      eventType = .created ∨ eventType = .movedTo →
      CreationEvent t root top ⟨normalizePath (join root top.val), eventType, true⟩
  /-- An entry inside it, from the kernel or from a rescan. -/
  | inside (q : List Name) (node : Node) : q ≠ [] →
      (resolve (joinAll root (top :: q))).bind t.node = some node →
      CreationEvent t root top ⟨normalizePath (joinAll root (top :: q)), .created, node.isDir⟩

/-- The route receives the request for the creation. -/
def Received (lower : Str → Str) (config : RuntimeConfig) (r : FolderRoute) (t : Tree) (top : Name)
    (req : ScanRequest) : Prop :=
  ∃ e, CreationEvent t r.path top e ∧ Matches lower config r e ∧ r.request e = req

/-- The creation is one trigger of the route: all requests carry the same key, and a burst of them
without a gap of a window is dispatched once. -/
structure OneTrigger (lower : Str → Str) (config : RuntimeConfig) (r : FolderRoute) (t : Tree)
    (top : Name) : Prop where
  scanKey : ∀ req req', Received lower config r t top req → Received lower config r t top req' →
    req.scanKey = req'.scanKey
  dispatched : ∀ server s₀ s, Clocked.Fresh s₀ r.serverId server →
    Reach Clocked.step Free s₀ s → s.burst r.serverId ≠ [] →
    (∀ entry ∈ s.burst r.serverId, Received lower config r t top entry.2) →
    Clocked.Gapless server.debounceWindowSeconds (s.burst r.serverId) → s.Once r.serverId

/-- The path of the event is that of the root, or of an entry right below it. -/
def Flat (root : Str) (event : FsEvent) : Prop :=
  (components event.path).length ≤ (components root).length + 1

/-- The events that the route matches are all flat, or none of them is. -/
def Level (lower : Str → Str) (config : RuntimeConfig) (r : FolderRoute) (t : Tree) (top : Name) :
    Prop :=
  ∀ e e', CreationEvent t r.path top e → CreationEvent t r.path top e' →
    Matches lower config r e → Matches lower config r e' → (Flat r.path e ↔ Flat r.path e')

variable {lower : Str → Str} {config : RuntimeConfig} {r : FolderRoute} {t : Tree} {top : Name}
  {root : Str} {p : List Name} {e : FsEvent} {req : ScanRequest}

/-! ### Paths below the root -/

lemma components_normal {s : Str} (h : Normal s p) : components s = p := by
  rw [components, h.resolve_eq]
  rfl

lemma isPathPrefix_cons {c : Char} {pre path : Str} (hne : pre ≠ []) :
    isPathPrefix (c :: pre) (c :: path) = isPathPrefix pre path := by
  have hend : endsWithChar (c :: pre) '/' = endsWithChar pre '/' := by
    obtain ⟨d, pre, rfl⟩ := List.exists_cons_of_ne_nil hne
    rw [endsWithChar, List.getLast?_cons_cons]
    rfl
  have hstart : ∀ s : Str, startsWith (c :: path) (c :: s) = startsWith path s := by
    intro s
    rw [Bool.eq_iff_iff, startsWith_iff, startsWith_iff, List.prefix_cons_inj]
  have heq : (c :: path == c :: pre) = (path == pre) := by
    rw [Bool.eq_iff_iff, beq_iff_eq, beq_iff_eq, List.cons_inj_right]
  rw [isPathPrefix, isPathPrefix, hend, heq]
  cases endsWithChar pre '/' with
  | true =>
    rw [if_pos rfl, if_pos rfl, hstart]
  | false =>
    rw [if_neg Bool.false_ne_true, if_neg Bool.false_ne_true, List.cons_append, hstart]

lemma isPathPrefix_front {front : Str} (h : IsFront front) {q : List Name} :
    isPathPrefix (front ++ render q) (front ++ render p) = true ↔ q <+: p := by
  rcases h with rfl | rfl
  · exact isPathPrefix_render
  · have hne : render q ≠ [] := by
      rw [render_eq_intercalate]
      exact List.cons_ne_nil _ _
    rw [List.singleton_append, List.singleton_append, isPathPrefix_cons hne]
    exact isPathPrefix_render

/-- The events are those of the entries of the directory. -/
lemma CreationEvent.path_eq (h : CreationEvent t root top e) :
    ∃ q, e.path = normalizePath (joinAll root (top :: q)) := by
  cases h with
  | top => exact ⟨[], rfl⟩
  | inside q => exact ⟨q, rfl⟩

/-- A reported path below the root leads through the directory, if it leads deep enough. -/
lemma CreationEvent.below (h : CreationEvent t root top e) (hroot : Normal root p)
    (hpre : isPathPrefix root e.path = true) :
    ∃ front below, IsFront front ∧ root = front ++ render p ∧ e.path = front ++ render (p ++ below) ∧
      (below.length ≤ 1 ∨ ∃ m rest, below = top :: m :: rest) := by
  obtain ⟨front, hf, rfl⟩ := hroot.exists_front
  obtain ⟨q, hq⟩ := h.path_eq
  obtain ⟨q', n, hqn⟩ : ∃ q' n, top :: q = q' ++ [n] :=
    (List.eq_nil_or_concat' (top :: q)).resolve_left (List.cons_ne_nil _ _)
  rw [hqn, hf.joinAll, ← List.append_assoc] at hq
  obtain ⟨segment, hseg⟩ := normalizePath_concat hf (p ++ q') n
  rw [hseg] at hq
  rw [hq, isPathPrefix_front hf] at hpre
  obtain ⟨below, hbelow⟩ := hpre
  refine ⟨front, below, hf, rfl, by rw [hq, hbelow], ?_⟩
  obtain ⟨m, hm⟩ := follow_prefix (p ++ q') segment n
  rw [← hbelow, List.append_assoc, List.prefix_append_right_inj] at hm
  match below, hm with
  | [], _ => exact .inl (Nat.zero_le 1)
  | [_], _ => exact .inl (Nat.le_refl 1)
  | a :: b :: rest, hm =>
    cases q' with
    | nil =>
      have hlen := hm.length_le
      simp only [List.nil_append, List.length_cons, List.length_nil] at hlen
      omega
    | cons c q' =>
      rw [List.cons_append, List.cons_prefix_cons] at hm
      rw [List.cons_append] at hqn
      exact .inr ⟨b, rest, by rw [hm.1, (List.cons.inj hqn).1]⟩

/-! ### The two keys -/

lemma request_targeted (hmode : r.scanMode = .targeted) :
    (r.request e).scanKey = (computeScanPath r.path e.path).1 := by
  rw [FolderRoute.request, hmode]

/-- A flat event is one for the root, another one for the directory. -/
lemma CreationEvent.scanKey (h : CreationEvent t r.path top e) (hr : Normal r.path p)
    (hmode : r.scanMode = .targeted) (hpre : isPathPrefix r.path e.path = true) :
    Flat r.path e ∧ (r.request e).scanKey = r.path ∨
      ¬Flat r.path e ∧ (r.request e).scanKey = rstripChar r.path '/' ++ sep :: top.val := by
  obtain ⟨front, below, hf, hroot, hpath, hbelow⟩ := h.below hr hpre
  have hflat : Flat r.path e ↔ below.length ≤ 1 := by
    rw [Flat, components_normal hr, hpath, components_normal (hf.normal _), List.length_append]
    omega
  rw [request_targeted hmode, hflat, hpath, hroot]
  rcases hbelow with hlen | ⟨m, rest, rfl⟩
  · exact .inl ⟨hlen, by rw [computeScanPath_direct front p hlen]⟩
  · refine .inr ⟨?_, by rw [computeScanPath_inside]⟩
    rw [List.length_cons, List.length_cons]
    omega

/-- The keys differ. -/
lemma path_ne_inside (s : Str) (n : Name) : s ≠ rstripChar s '/' ++ sep :: n.val := by
  intro h
  have hlast : s.getLast? = n.val.getLast? := by
    rw [h, List.getLast?_append_of_ne_nil _ (List.cons_ne_nil _ _)]
    obtain ⟨c, cs, hn⟩ := List.exists_cons_of_ne_nil n.ne_nil
    rw [hn, List.getLast?_cons_cons]
  have hself : rstripChar s '/' = s := by
    apply List.rdropWhile_eq_self_iff.2
    intro hne hsep
    rw [List.getLast?_eq_some_getLast hne, beq_iff_eq.1 hsep] at hlast
    exact n.sep_notMem (List.mem_of_getLast? hlast.symm)
  have hlen := congrArg List.length h
  rw [hself, List.length_append, List.length_cons] at hlen
  omega

/-! ### Plain names -/

/-- The event of an entry whose path is reported as it is. -/
lemma matches_created (hr : Normal r.path p) (hext : r.extensions = [])
    (htypes : ∀ eventType, eventType ∈ r.eventTypes) {q : List Name} {eventType : FsEventType}
    {isDir : Bool} :
    Matches lower config r ⟨joinAll r.path (top :: q), eventType, isDir⟩ ↔
      isIgnored (joinAll r.path (top :: q)) config.ignoreDirs = false := by
  obtain ⟨front, hf, hroot⟩ := hr.exists_front
  have hpre : isPathPrefix r.path (joinAll r.path (top :: q)) = true := by
    rw [hroot, hf.joinAll, isPathPrefix_front hf]
    exact List.prefix_append _ _
  have hmatch : extensionMatches lower (joinAll r.path (top :: q)) r.extensions = true := by
    rw [hext]
    rfl
  exact ⟨fun h => h.1.1, fun h => ⟨⟨h, hpre, hmatch⟩, htypes eventType⟩⟩

lemma flat_iff (hr : Normal root p) {q : List Name} {eventType : FsEventType} {isDir : Bool} :
    Flat root ⟨joinAll root (top :: q), eventType, isDir⟩ ↔ q = [] := by
  rw [Flat, components_normal hr, components_normal (hr.joinAll _), List.length_append,
    List.length_cons, ← List.length_eq_zero_iff]
  omega

/-- Where no name ends in white space and the directory is not ignored, its event is flat, and the
others are not: they all have to be ignored. -/
lemma level_iff_ignored (hr : Normal r.path p) (hext : r.extensions = [])
    (htypes : ∀ eventType, eventType ∈ r.eventTypes)
    (hdir : isdir t (join r.path top.val) = true)
    (hshown : isIgnored (join r.path top.val) config.ignoreDirs = false)
    (hplain : ∀ q node, (resolve (joinAll r.path (top :: q))).bind t.node = some node →
      normalizePath (joinAll r.path (top :: q)) = joinAll r.path (top :: q)) :
    Level lower config r t top ↔
      ∀ q node, q ≠ [] → (resolve (joinAll r.path (top :: q))).bind t.node = some node →
        isIgnored (joinAll r.path (top :: q)) config.ignoreDirs = true := by
  have hself : normalizePath (join r.path top.val) = joinAll r.path [top] := by
    obtain ⟨q, hq, hd⟩ := isdir_iff.1 hdir
    obtain ⟨i, hi⟩ := FileTree.isDir_iff.1 hd
    have hnode : (resolve (join r.path top.val)).bind t.node = some ⟨true, i⟩ := by
      rw [hq]
      exact hi
    exact hplain [] ⟨true, i⟩ hnode
  constructor
  · intro h q node hq hnode
    by_contra hign
    have htop := CreationEvent.top .created hdir (.inl rfl)
    have hin := CreationEvent.inside q node hq hnode
    rw [hself] at htop
    rw [hplain q node hnode] at hin
    have hflat := h _ _ htop hin ((matches_created hr hext htypes).2 hshown)
      ((matches_created hr hext htypes).2 (Bool.eq_false_iff.2 hign))
    exact hq ((flat_iff hr).1 (hflat.1 ((flat_iff hr).2 rfl)))
  · intro h
    have hflat : ∀ e, CreationEvent t r.path top e → Matches lower config r e → Flat r.path e := by
      intro e he hm
      cases he with
      | top eventType hdir htype =>
        rw [hself]
        exact (flat_iff hr).2 rfl
      | inside q node hq hnode =>
        rw [hplain q node hnode, matches_created hr hext htypes, h q node hq hnode] at hm
        cases hm
    exact fun e e' he he' hm hm' => iff_of_true (hflat e he hm) (hflat e' he' hm')

/-! ### What the backend says -/

namespace InotifyBackend
variable {b : InotifyBackend}

/-- An entry below the directory has its event. -/
lemma creationEvent (hroot : Normal root p) {q : List Name} {isDir : Bool} {i : Nat}
    (hnode : t.node (p ++ top :: q) = some ⟨isDir, i⟩) (hne : q = [] → isDir = true) :
    CreationEvent t root top ⟨normalizePath (joinAll root (top :: q)), .created, isDir⟩ := by
  have hres : (resolve (joinAll root (top :: q))).bind t.node = some ⟨isDir, i⟩ := by
    rw [(hroot.joinAll _).resolve_eq]
    exact hnode
  cases q with
  | nil =>
    cases hne rfl
    have hdir : isdir t (join root top.val) = true :=
      isdir_iff.2 ⟨_, (hroot.join top).resolve_eq, FileTree.isDir_iff.2 ⟨i, hnode⟩⟩
    exact .top .created hdir (.inl rfl)
  | cons m q => exact .inside (m :: q) ⟨isDir, i⟩ (List.cons_ne_nil _ _) hres

/-- A rescan of an entry of the directory emits events of the creation. -/
lemma walk_creation (hroot : Normal root p) {q : List Name}
    (he : e ∈ (b.walkAddWatches t (joinAll root (top :: q))).2) : CreationEvent t root top e := by
  have hjoin : ∀ s, joinAll (joinAll root (top :: q)) s = joinAll root (top :: (q ++ s)) := by
    intro s
    rw [joinAll, joinAll, joinAll, ← List.foldl_append]
    rfl
  rw [walkAddWatches_eq] at he
  obtain ⟨l, hl, he⟩ := List.mem_flatMap.1 he
  obtain ⟨s, -, -, hd, rfl⟩ := (mem_walk (hroot.joinAll _).resolve_eq).1 (List.mem_of_mem_filter hl)
  rw [List.append_assoc, List.cons_append] at hd
  rw [synthetic, List.mem_append] at he
  rcases he with he | he
  · split at he
    · rw [List.mem_singleton.1 he, hjoin]
      obtain ⟨i, hi⟩ := FileTree.isDir_iff.1 hd
      exact creationEvent hroot hi fun _ => rfl
    · cases he
  · obtain ⟨m, hm, rfl⟩ := List.mem_map.1 he
    obtain ⟨hchild, hfile⟩ := List.mem_filter.1 hm
    obtain ⟨⟨isDir, i⟩, hi⟩ := Option.isSome_iff_exists.1 (FileTree.mem_children.1 hchild)
    have hjoinm : join (joinAll (joinAll root (top :: q)) s) m.val =
        joinAll root (top :: (q ++ s ++ [m])) := by
      rw [hjoin]
      show _ = List.foldl _ root ((top :: (q ++ s)) ++ [m])
      rw [List.foldl_append]
      rfl
    have hkind : isDir = false := by
      rw [FileTree.isDir, hi] at hfile
      simpa using hfile
    subst hkind
    have hassoc : p ++ top :: q ++ s ++ [m] = p ++ top :: (q ++ s ++ [m]) := by simp
    rw [hassoc] at hi
    rw [hjoinm]
    exact creationEvent hroot hi fun h => absurd h (by simp)

/-- What follows on a report that something is there: its event, and what a rescan emits. -/
lemma handle_appears {x : Str} {mask : Nat} {eventType : FsEventType}
    (hflow : mask &&& IN_Q_OVERFLOW = 0) (hmask : maskToEventType mask = some eventType)
    (hkind : eventType = .created ∨ eventType = .movedTo)
    (he : e ∈ (b.handle t ⟨mask, some x⟩).2) :
    e = ⟨normalizePath x, eventType, maskIsDir mask⟩ ∨
      e ∈ (b.walkAddWatches t (normalizePath x)).2 := by
  unfold handle at he
  rw [if_neg fun hne => hne hflow] at he
  dsimp only at he
  rw [hmask] at he
  dsimp only at he
  split at he
  · cases he
  · split at he
    · next hcond =>
      rw [Bool.and_eq_true] at hcond
      rw [hcond.1]
      exact List.mem_cons.1 he
    · split at he
      · next hcond =>
        rcases hkind with rfl | rfl
        · simp at hcond
        · simp at hcond
      · exact .inl (List.mem_singleton.1 he)

/-- What follows when the kernel reports the creation of an entry whose path is left alone are events
of the creation. -/
theorem handle_creation (hroot : Normal root p) {q : List Name} {node : Node} {mask : Nat}
    (hnode : t.node (p ++ top :: q) = some node) (htop : q = [] → node.isDir = true)
    (hreal : normalizePath (joinAll root (top :: q)) = joinAll root (top :: q))
    (hflow : mask &&& IN_Q_OVERFLOW = 0) (hdir : maskIsDir mask = node.isDir)
    (htype : maskToEventType mask = some .created ∨ maskToEventType mask = some .movedTo ∧ q = [])
    (he : e ∈ (b.handle t ⟨mask, some (joinAll root (top :: q))⟩).2) :
    CreationEvent t root top e := by
  obtain ⟨isDir, i⟩ := node
  rcases htype with hmask | ⟨hmask, rfl⟩
  · rcases handle_appears hflow hmask (.inl rfl) he with rfl | he
    · rw [hdir]
      exact creationEvent hroot hnode htop
    · rw [hreal] at he
      exact walk_creation hroot he
  · rcases handle_appears hflow hmask (.inr rfl) he with rfl | he
    · cases htop rfl
      have hisdir : isdir t (join root top.val) = true :=
        isdir_iff.2 ⟨_, (hroot.join top).resolve_eq, FileTree.isDir_iff.2 ⟨i, hnode⟩⟩
      rw [hdir]
      exact .top .movedTo hisdir (.inr rfl)
    · rw [hreal] at he
      exact walk_creation hroot he

end InotifyBackend

/-! ### Triggers -/

/-- The creation of a directory is one trigger exactly when no event that the route matches lies more
than one component below the root, or all of them do. -/
theorem one_trigger_iff (hr : ∃ p, Normal r.path p) (hmode : r.scanMode = .targeted) :
    OneTrigger lower config r t top ↔ Level lower config r t top := by
  obtain ⟨p, hr⟩ := hr
  have hkey : ∀ e, CreationEvent t r.path top e → Matches lower config r e →
      Flat r.path e ∧ (r.request e).scanKey = r.path ∨
        ¬Flat r.path e ∧ (r.request e).scanKey = rstripChar r.path '/' ++ sep :: top.val :=
    fun e he hm => he.scanKey hr hmode hm.1.2.1
  have hsame : Level lower config r t top ↔ ∀ req req', Received lower config r t top req →
      Received lower config r t top req' → req.scanKey = req'.scanKey := by
    constructor
    · rintro h _ _ ⟨e, he, hm, rfl⟩ ⟨e', he', hm', rfl⟩
      have hflat := h e e' he he' hm hm'
      rcases hkey e he hm with ⟨hf, hk⟩ | ⟨hf, hk⟩
      · rcases hkey e' he' hm' with ⟨-, hk'⟩ | ⟨hf', -⟩
        · rw [hk, hk']
        · exact absurd (hflat.1 hf) hf'
      · rcases hkey e' he' hm' with ⟨hf', -⟩ | ⟨-, hk'⟩
        · exact absurd (hflat.2 hf') hf
        · rw [hk, hk']
    · intro h e e' he he' hm hm'
      have hk := h _ _ ⟨e, he, hm, rfl⟩ ⟨e', he', hm', rfl⟩
      rcases hkey e he hm with ⟨hf, hk1⟩ | ⟨hf, hk1⟩
      · rcases hkey e' he' hm' with ⟨hf', -⟩ | ⟨-, hk2⟩
        · exact iff_of_true hf hf'
        · rw [hk1, hk2] at hk
          exact absurd hk (path_ne_inside r.path top)
      · rcases hkey e' he' hm' with ⟨-, hk2⟩ | ⟨hf', -⟩
        · rw [hk1, hk2] at hk
          exact absurd hk.symm (path_ne_inside r.path top)
        · exact iff_of_false hf hf'
  constructor
  · exact fun h => hsame.2 h.scanKey
  · intro h
    refine ⟨hsame.1 h, fun server s₀ s h₀ hs hne hreceived hgap => ?_⟩
    obtain ⟨first, hfirst⟩ := List.exists_mem_of_ne_nil _ hne
    exact Clocked.burst_once h₀ hs hne hgap fun entry he =>
      hsame.1 h _ _ (hreceived entry he) (hreceived first hfirst)

/-- A route for series. -/
def tvRoute : FolderRoute := mediaRoute "/tv".toList .targeted none

/-- A new series with thumbnails only. -/
def thumbnailTree : Tree :=
  .ofList [(true, [], name "tv"), (true, [name "tv"], name "Show"),
    (true, [name "tv", name "Show"], name "@eaDir")]

lemma mem_all (eventType : FsEventType) : eventType ∈ FsEventType.all := by
  cases eventType <;> decide

/-- What is inside is ignored. -/
theorem one_trigger_iff_thumbnails :
    OneTrigger lowerAscii (routesConfig [tvRoute]) tvRoute thumbnailTree (name "Show") := by
  have hroot : Normal tvRoute.path [name "tv"] := .single [name "tv"]
  have hentries : ∀ q node, (resolve (joinAll tvRoute.path (name "Show" :: q))).bind
      thumbnailTree.node = some node → q = [] ∨ q = [name "@eaDir"] := by
    intro q node h
    rw [(hroot.joinAll _).resolve_eq] at h
    have hsupport : thumbnailTree.support = [[name "tv", name "Show", name "@eaDir"],
      [name "tv", name "Show"], [name "tv"], []] := by decide
    have hmem := thumbnailTree.covers h
    rw [hsupport] at hmem
    simpa [or_comm] using hmem
  refine (one_trigger_iff ⟨_, hroot⟩ rfl).2
    ((level_iff_ignored hroot rfl mem_all (by decide) (by decide) ?_).2 ?_)
  · intro q node h
    rcases hentries q node h with rfl | rfl
    · decide
    · decide
  · intro q node hq h
    rcases hentries q node h with rfl | rfl
    · exact absurd rfl hq
    · decide

/-- A new series with an episode. -/
def episodeTree : Tree :=
  .ofList [(true, [], name "tv"), (true, [name "tv"], name "Show"),
    (false, [name "tv", name "Show"], name "e.mkv")]

/-- The directory and the episode in it are two triggers. -/
theorem new_show_two_triggers :
    (¬∀ (lower : Str → Str) (config : RuntimeConfig) (r : FolderRoute) (t : Tree) (top : Name),
      r ∈ config.routes → (∃ p, Normal r.path p) → r.scanMode = .targeted → r.extensions = [] →
        (∀ eventType, eventType ∈ r.eventTypes) → OneTrigger lower config r t top) ∧
      (run Clocked.step (.start (Session.policy .trailing))
          [.submit (tvRoute.request ⟨"/tv/Show".toList, .created, true⟩),
            .submit (tvRoute.request (fileCreated "/tv/Show/e.mkv".toList)), .wait 30, .fire 0,
            .fire 1]).map (fun s => s.dispatched.map ScanRequest.scanPath) =
        some [some "/tv".toList, some "/tv/Show".toList] := by
  constructor
  · intro h
    have hone := h lowerAscii (routesConfig [tvRoute]) tvRoute episodeTree (name "Show")
      (by decide) ⟨_, .single [name "tv"]⟩ rfl rfl mem_all
    have htop : CreationEvent episodeTree tvRoute.path (name "Show")
        ⟨"/tv/Show".toList, .created, true⟩ := .top .created (by decide) (.inl rfl)
    have hfile : CreationEvent episodeTree tvRoute.path (name "Show")
        (fileCreated "/tv/Show/e.mkv".toList) :=
      .inside [name "e.mkv"] ⟨false, 3⟩ (by decide) (by decide)
    have hkey := hone.scanKey _ _ ⟨_, htop, by decide, rfl⟩ ⟨_, hfile, by decide, rfl⟩
    revert hkey
    decide
  · decide +kernel

end MediaScanMonitor
